import VitaQmBluetooth.Bluetooth.PairedDevices

namespace VitaQmBluetooth

structure ExportInBounds (infoSize : Int) (reply : PairedReply) : Prop where
  read : ∀ i ∈ reply.readIdxs, i < vqmbtMaxDevices
  copied : ∀ i ∈ reply.copyIdxs, (i : Int) < infoSize
  ret : reply.ret < 0 ∨ 0 ≤ reply.ret ∧ reply.ret ≤ infoSize
  initialised : ∀ i : Nat, (i : Int) < reply.ret → i ∈ reply.copyIdxs

theorem refused_in_bounds (infoSize : Int) (e : VqmbtError) (info : Nat → VqmbtDeviceInfo) :
    ExportInBounds infoSize ⟨e.code, info, [], []⟩ where
  read := by simp
  copied := by simp
  ret := .inl e.code_neg
  initialised i h := by
    have hneg := e.code_neg
    dsimp only at h
    omega

theorem copies_in_bounds_iff (k : PairedKernel) {infoSize : Int} (hsize : 1 ≤ infoSize)
    (hmax : infoSize ≤ vqmbtMaxDevices) {count : Nat} (hcount : k.registeredRet = count)
    (info : Nat → VqmbtDeviceInfo) :
    ExportInBounds infoSize (kvqmbtGetPairedDevices k false infoSize info) ↔
      (count : Int) ≤ infoSize ∨ ∃ i : Nat, (i : Int) < infoSize ∧ k.copyRet i < 0 := by
  have hle := copiesFrom_le k 0 count
  have hneg := VqmbtError.code_neg .kernelSide
  rw [get_paired k hsize hmax hcount]
  constructor
  · intro hbounds
    by_contra hnot
    obtain ⟨hmany, hok⟩ := not_or.mp hnot
    have hreached : ¬ copiesFrom k 0 count < infoSize.toNat := by
      rw [copiesFrom_lt_iff k 0 count (by omega)]
      rintro ⟨i, _, hi, hcopy⟩
      exact hok ⟨i, by omega, hcopy⟩
    have hcopied := hbounds.copied infoSize.toNat (List.mem_range.mpr (by omega))
    omega
  · intro hsafe
    have hfew : ((min (copiesFrom k 0 count + 1) count : Nat) : Int) ≤ infoSize := by
      rcases hsafe with hfits | ⟨i, hi, hcopy⟩
      · omega
      · by_cases hmany : infoSize.toNat ≤ count
        · have := (copiesFrom_lt_iff k 0 count hmany).mpr ⟨i, Nat.zero_le i, by omega, hcopy⟩
          omega
        · omega
    refine ⟨fun i hi => ?_, fun i hi => ?_, ?_, fun i hi => ?_⟩
    · have := List.mem_range.mp hi
      omega
    · have := List.mem_range.mp hi
      omega
    · by_cases hall : copiesFrom k 0 count = count
      · simp only [if_pos hall]
        omega
      · simp only [if_neg hall]
        exact .inl hneg
    · rw [List.mem_range]
      dsimp only at hi
      split at hi
      · omega
      · omega

theorem export_in_bounds_iff (k : PairedKernel) (infoNull : Bool) (infoSize : Int)
    (info : Nat → VqmbtDeviceInfo) :
    ExportInBounds infoSize (kvqmbtGetPairedDevices k infoNull infoSize info) ↔
      infoNull = true ∨ infoSize < 1 ∨ infoSize > vqmbtMaxDevices ∨ k.registeredRet ≤ infoSize ∨
        ∃ i : Nat, (i : Int) < infoSize ∧ k.copyRet i < 0 := by
  by_cases hrefused : infoNull = true ∨ infoSize < 1 ∨ infoSize > vqmbtMaxDevices
  · rw [kvqmbtGetPairedDevices, if_pos hrefused]
    refine iff_of_true (refused_in_bounds infoSize .invalidArgument info) ?_
    exact hrefused.imp_right (·.imp_right .inl)
  obtain ⟨hvalid, hsize⟩ := not_or.mp hrefused
  rw [Bool.not_eq_true] at hvalid
  subst hvalid
  by_cases hneg : k.registeredRet < 0
  · simp only [kvqmbtGetPairedDevices, if_neg hrefused, if_pos hneg]
    refine iff_of_true (refused_in_bounds infoSize .kernelSide info) ?_
    exact .inr (.inr (.inr (.inl (by omega))))
  · have hcount : k.registeredRet = k.registeredRet.toNat := by omega
    rw [copies_in_bounds_iff k (by omega) (by omega) hcount, ← hcount]
    simp only [Bool.false_eq_true, false_or, not_or.mp hsize]

theorem export_out_of_bounds :
    ¬ ∀ (k : PairedKernel) (infoNull : Bool) (infoSize : Int) (info : Nat → VqmbtDeviceInfo),
      ExportInBounds infoSize (kvqmbtGetPairedDevices k infoNull infoSize info) := by
  intro hall
  have hbounds := hall ⟨9, [], fun _ _ _ => 0, fun _ => 0⟩ false 8 fun _ => .zeroed
  rw [get_paired _ (by decide) (by decide) (rfl : _ = ((9 : Nat) : Int))] at hbounds
  exact absurd (hbounds.copied 8 (by decide)) (by decide)

end VitaQmBluetooth
