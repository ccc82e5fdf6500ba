import VitaQmBluetooth.Foundation.Bytes
import VitaQmBluetooth.Interface.Vqmbt

namespace VitaQmBluetooth

open Foundation

-- The fields that are exported; name stands for the bytes from the field's first one on.
structure SceBtRegisteredInfo where
  mac : Vector UInt8 6
  name : Nat → UInt8

def SceBtRegisteredInfo.zeroed : SceBtRegisteredInfo := ⟨Vector.replicate _ 0, fun _ => 0⟩

-- What the kernel's own functions return during one call.
structure PairedKernel where
  registeredRet : Int
  registered : List SceBtRegisteredInfo
  connecting : Nat → UnsignedInt → UnsignedInt → Int
  copyRet : Nat → Int

def PairedKernel.pairedDevices (k : PairedKernel) (idx : Nat) : SceBtRegisteredInfo :=
  k.registered.getD idx .zeroed

structure PairedReply where
  ret : Int
  info : Nat → VqmbtDeviceInfo
  readIdxs : List Nat
  copyIdxs : List Nat

def unsignedOf (b : UInt8) : UnsignedInt := b.toBitVec.setWidth 32

def deviceName (name : Nat → UInt8) : Vector UInt8 vqmbtSceDeviceNameMax :=
  ⟨(strncpy (vqmbtSceDeviceNameMax - 1) name ++ [0]).toArray, by simp⟩

def exportDevice (k : PairedKernel) (idx : Nat) : VqmbtDeviceInfo :=
  let sceDev := k.pairedDevices idx
  let mac := sceDev.mac
  let mac0 := unsignedOf mac[3] <<< 24 ||| unsignedOf mac[2] <<< 16 ||| unsignedOf mac[1] <<< 8 |||
    unsignedOf mac[0]
  let mac1 := unsignedOf mac[5] <<< 8 ||| unsignedOf mac[4]
  let state := k.connecting idx mac0 mac1
  ⟨deviceName sceDev.name, mac0, mac1, .ofInt state⟩

def exportDevices (k : PairedKernel) (count : Int) : Nat → Nat → PairedReply → PairedReply
  | 0, _, reply => { reply with ret := count }
  | todo + 1, idx, reply =>
      let dev := exportDevice k idx
      let reply := { reply with
        readIdxs := reply.readIdxs ++ [idx]
        copyIdxs := reply.copyIdxs ++ [idx] }
      if k.copyRet idx < 0 then { reply with ret := VqmbtError.kernelSide.code }
      else exportDevices k count todo (idx + 1)
        { reply with info := Function.update reply.info idx dev }

def kvqmbtGetPairedDevices (k : PairedKernel) (infoNull : Bool) (infoSize : Int)
    (info : Nat → VqmbtDeviceInfo) : PairedReply :=
  if infoNull = true ∨ infoSize < 1 ∨ infoSize > vqmbtMaxDevices then
    ⟨VqmbtError.invalidArgument.code, info, [], []⟩
  else
    let count := k.registeredRet
    if count < 0 then ⟨VqmbtError.kernelSide.code, info, [], []⟩
    else exportDevices k count count.toNat 0 ⟨0, info, [], []⟩

def copiesFrom (k : PairedKernel) (idx todo : Nat) : Nat :=
  ((List.range' idx todo).takeWhile fun i => 0 ≤ k.copyRet i).length

theorem copiesFrom_succ (k : PairedKernel) (idx todo : Nat) :
    copiesFrom k idx (todo + 1) =
      if k.copyRet idx < 0 then 0 else copiesFrom k (idx + 1) todo + 1 := by
  rw [copiesFrom, List.range'_succ, List.takeWhile_cons]
  by_cases hcopy : k.copyRet idx < 0
  · rw [if_pos hcopy, if_neg (by simpa using hcopy)]
    rfl
  · rw [if_neg hcopy, if_pos (by simpa using hcopy)]
    rfl

theorem copiesFrom_le (k : PairedKernel) (idx todo : Nat) : copiesFrom k idx todo ≤ todo := by
  induction todo generalizing idx with
  | zero => exact Nat.le_refl 0
  | succ todo ih =>
      rw [copiesFrom_succ]
      split
      · exact Nat.zero_le _
      · exact Nat.succ_le_succ (ih (idx + 1))

theorem copy_succeeds (k : PairedKernel) (idx todo : Nat) {i : Nat} (hi : idx ≤ i)
    (hlt : i < idx + copiesFrom k idx todo) : 0 ≤ k.copyRet i := by
  induction todo generalizing idx with
  | zero =>
      have := copiesFrom_le k idx 0
      omega
  | succ todo ih =>
      rw [copiesFrom_succ] at hlt
      split at hlt
      · omega
      · next hcopy =>
          rcases Nat.eq_or_lt_of_le hi with rfl | hnext
          · exact Int.not_lt.mp hcopy
          · have hrest : i < idx + 1 + copiesFrom k (idx + 1) todo := by omega
            exact ih (idx + 1) hnext hrest

theorem copy_fails (k : PairedKernel) {idx todo : Nat} (h : copiesFrom k idx todo < todo) :
    k.copyRet (idx + copiesFrom k idx todo) < 0 := by
  induction todo generalizing idx with
  | zero => exact absurd h (Nat.not_lt_zero _)
  | succ todo ih =>
      rw [copiesFrom_succ] at h ⊢
      split
      · next hcopy => exact hcopy
      · next hcopy =>
          rw [if_neg hcopy] at h
          have hnext := ih (Nat.lt_of_succ_lt_succ h)
          rwa [Nat.add_assoc, Nat.add_comm 1] at hnext

theorem copiesFrom_lt_iff (k : PairedKernel) (idx todo : Nat) {n : Nat} (hn : n ≤ todo) :
    copiesFrom k idx todo < n ↔ ∃ i, idx ≤ i ∧ i < idx + n ∧ k.copyRet i < 0 := by
  constructor
  · intro hlt
    exact ⟨idx + copiesFrom k idx todo, by omega, by omega, copy_fails k (by omega)⟩
  · rintro ⟨i, hle, hlt, hcopy⟩
    by_contra hge
    exact absurd hcopy (Int.not_lt.mpr (copy_succeeds k idx todo hle (by omega)))

theorem exportDevices_eq (k : PairedKernel) (count : Int) (todo idx : Nat) (reply : PairedReply) :
    exportDevices k count todo idx reply =
      ⟨if copiesFrom k idx todo = todo then count else VqmbtError.kernelSide.code,
        fun i => if idx ≤ i ∧ i < idx + copiesFrom k idx todo then exportDevice k i
          else reply.info i,
        reply.readIdxs ++ List.range' idx (min (copiesFrom k idx todo + 1) todo),
        reply.copyIdxs ++ List.range' idx (min (copiesFrom k idx todo + 1) todo)⟩ := by
  induction todo generalizing idx reply with
  | zero =>
      have hnone (i : Nat) : ¬ (idx ≤ i ∧ i < idx + copiesFrom k idx 0) := by
        have := copiesFrom_le k idx 0
        omega
      simp only [exportDevices, hnone, if_false, Nat.min_zero, List.range'_zero, List.append_nil]
      rfl
  | succ todo ih =>
      by_cases hcopy : k.copyRet idx < 0
      · have hnone (i : Nat) : ¬ (idx ≤ i ∧ i < idx + 0) := by omega
        have hone : min (0 + 1) (todo + 1) = 1 := by omega
        simp only [exportDevices, copiesFrom_succ, if_pos hcopy, hnone, if_false, hone,
          List.range'_one]
        rfl
      · have hrange : idx :: List.range' (idx + 1) (min (copiesFrom k (idx + 1) todo + 1) todo) =
            List.range' idx (min (copiesFrom k (idx + 1) todo + 1 + 1) (todo + 1)) := by
          rw [Nat.add_min_add_right, List.range'_succ]
        have hinfo (i : Nat) : (if idx + 1 ≤ i ∧ i < idx + 1 + copiesFrom k (idx + 1) todo then
              exportDevice k i else Function.update reply.info idx (exportDevice k idx) i) =
            if idx ≤ i ∧ i < idx + (copiesFrom k (idx + 1) todo + 1) then exportDevice k i
              else reply.info i := by
          by_cases hi : i = idx
          · subst hi
            rw [if_neg (by omega), if_pos (by omega), Function.update_self]
          · rw [Function.update_of_ne hi]
            exact if_congr (by omega) rfl rfl
        simp only [exportDevices, copiesFrom_succ, if_neg hcopy, ih, hinfo, List.append_assoc,
          List.singleton_append, hrange, Nat.add_right_cancel_iff]

theorem get_paired (k : PairedKernel) {infoSize : Int} (hsize : 1 ≤ infoSize)
    (hmax : infoSize ≤ vqmbtMaxDevices) {count : Nat} (hcount : k.registeredRet = count)
    (info : Nat → VqmbtDeviceInfo) :
    kvqmbtGetPairedDevices k false infoSize info =
      ⟨if copiesFrom k 0 count = count then count else VqmbtError.kernelSide.code,
        fun i => if i < copiesFrom k 0 count then exportDevice k i else info i,
        List.range (min (copiesFrom k 0 count + 1) count),
        List.range (min (copiesFrom k 0 count + 1) count)⟩ := by
  have hvalid : ¬ (false = true ∨ infoSize < 1 ∨ infoSize > vqmbtMaxDevices) := by
    simp only [Bool.false_eq_true, false_or]
    omega
  have hpos : ¬ (count : Int) < 0 := by omega
  simp only [kvqmbtGetPairedDevices, if_neg hvalid, hcount, if_neg hpos, Int.toNat_natCast,
    exportDevices_eq, Nat.zero_le, true_and, Nat.zero_add, List.nil_append, List.range_eq_range']

theorem deviceName_toList (name : Nat → UInt8) :
    (deviceName name).toList = textWithin 120 name ++
      List.replicate (121 - (textWithin 120 name).length) 0 := by
  have hle := textWithin_length 120 name
  have hpad : 121 - (textWithin 120 name).length = 120 - (textWithin 120 name).length + 1 := by
    omega
  rw [hpad, List.replicate_succ', ← List.append_assoc, ← strncpy_eq]
  rfl

def macBytes (mac : UnsignedInt × UnsignedInt) : Vector UInt8 6 :=
  #v[byteAt mac.1 0, byteAt mac.1 1, byteAt mac.1 2, byteAt mac.1 3, byteAt mac.2 0,
    byteAt mac.2 1]

theorem exportDevice_mac0 (k : PairedKernel) (idx : Nat) :
    (exportDevice k idx).mac0 =
      placeByte 32 3 (k.pairedDevices idx).mac[3] |||
        placeByte 32 2 (k.pairedDevices idx).mac[2] |||
        placeByte 32 1 (k.pairedDevices idx).mac[1] |||
        placeByte 32 0 (k.pairedDevices idx).mac[0] := by
  simp only [exportDevice, placeByte, unsignedOf, Nat.mul_zero, BitVec.shiftLeft_zero]

theorem exportDevice_mac1 (k : PairedKernel) (idx : Nat) :
    (exportDevice k idx).mac1 = placeByte 32 1 (k.pairedDevices idx).mac[5] |||
      placeByte 32 0 (k.pairedDevices idx).mac[4] := by
  simp only [exportDevice, placeByte, unsignedOf, Nat.mul_zero, BitVec.shiftLeft_zero]

theorem macBytes_exportDevice (k : PairedKernel) (idx : Nat) :
    macBytes (exportDevice k idx).mac = (k.pairedDevices idx).mac := by
  have hbyte (k i : Nat) (hk : k < 4) (b : UInt8) :
      byteAt (placeByte 32 k b) i = if i = k then b else 0 := byteAt_place (by omega) b i
  ext i hi
  simp only [macBytes, VqmbtDeviceInfo.mac, exportDevice_mac0, exportDevice_mac1, byteAt_or,
    hbyte 3 _ (by decide), hbyte 2 _ (by decide), hbyte 1 _ (by decide), hbyte 0 _ (by decide)]
  obtain rfl | rfl | rfl | rfl | rfl | rfl : i = 0 ∨ i = 1 ∨ i = 2 ∨ i = 3 ∨ i = 4 ∨ i = 5 := by
    omega
  all_goals simp

theorem exportDevice_mac1_lt (k : PairedKernel) (idx : Nat) :
    (exportDevice k idx).mac1.toNat < 2 ^ 16 := by
  rw [exportDevice_mac1, BitVec.toNat_or]
  exact Nat.or_lt_two_pow (placeByte_lt 1 _) (lt_trans (placeByte_lt 0 _) (by decide))

theorem exportDevice_state (k : PairedKernel) (idx : Nat) :
    (exportDevice k idx).state.toInt =
      k.connecting idx (exportDevice k idx).mac0 (exportDevice k idx).mac1 :=
  VqmbtInferredDevState.toInt_ofInt _

structure ExportFaithful (k : PairedKernel) (idx : Nat) (sceDev : SceBtRegisteredInfo)
    (dev : VqmbtDeviceInfo) : Prop where
  name : dev.name.toList = textWithin 120 sceDev.name ++
    List.replicate (121 - (textWithin 120 sceDev.name).length) 0
  terminated : bufferText dev.name = textWithin 120 sceDev.name
  mac : macBytes dev.mac = sceDev.mac
  mac1_lt : dev.mac1.toNat < 2 ^ 16
  state : dev.state.toInt = k.connecting idx dev.mac0 dev.mac1

theorem exportDevice_faithful (k : PairedKernel) (idx : Nat) :
    ExportFaithful k idx (k.pairedDevices idx) (exportDevice k idx) where
  name := deviceName_toList _
  terminated := by
    have htext : ∀ b ∈ textWithin 120 (k.pairedDevices idx).name, decide (b ≠ 0) = true :=
      fun b hb => by simpa using textWithin_ne_zero hb
    have hname := deviceName_toList (k.pairedDevices idx).name
    rw [bufferText, exportDevice, hname, List.takeWhile_append_of_pos htext,
      List.takeWhile_replicate, if_neg (by decide), List.append_nil]
  mac := macBytes_exportDevice k idx
  mac1_lt := exportDevice_mac1_lt k idx
  state := exportDevice_state k idx

theorem copies_reached (k : PairedKernel) (count : Nat) :
    (∀ i < copiesFrom k 0 count, 0 ≤ k.copyRet i) ∧
      (copiesFrom k 0 count < count → k.copyRet (copiesFrom k 0 count) < 0) := by
  refine ⟨fun i hi => ?_, fun h => ?_⟩
  · refine copy_succeeds k 0 count (Nat.zero_le i) ?_
    rwa [Nat.zero_add]
  · have hfails := copy_fails k h
    rwa [Nat.zero_add] at hfails

theorem copies_filter (k : PairedKernel) (count : Nat) :
    (List.range (min (copiesFrom k 0 count + 1) count)).filter (fun i => 0 ≤ k.copyRet i) =
      List.range (copiesFrom k 0 count) := by
  obtain ⟨hok, hfail⟩ := copies_reached k count
  have hkept : (List.range (copiesFrom k 0 count)).filter (fun i => 0 ≤ k.copyRet i) =
      List.range (copiesFrom k 0 count) := by
    refine List.filter_eq_self.mpr fun i hi => ?_
    simpa using hok i (List.mem_range.mp hi)
  rcases Nat.eq_or_lt_of_le (copiesFrom_le k 0 count) with hall | hlt
  · have hmin : min (copiesFrom k 0 count + 1) count = copiesFrom k 0 count := by omega
    rw [hmin, hkept]
  · have hmin : min (copiesFrom k 0 count + 1) count = copiesFrom k 0 count + 1 := by omega
    have hnot : ¬ 0 ≤ k.copyRet (copiesFrom k 0 count) := Int.not_le.mpr (hfail hlt)
    rw [hmin, List.range_succ, List.filter_append, hkept, List.filter_singleton]
    simp [hnot]

theorem paired_export_faithful (k : PairedKernel) (infoSize : Int) (info : Nat → VqmbtDeviceInfo)
    (hsize : 1 ≤ infoSize ∧ infoSize ≤ vqmbtMaxDevices)
    (hcount : k.registeredRet = k.registered.length) (hfits : k.registered.length ≤ infoSize) :
    let count := k.registered.length
    let written := copiesFrom k 0 count
    let reply := kvqmbtGetPairedDevices k false infoSize info
    ((∀ i < written, 0 ≤ k.copyRet i) ∧ (written < count → k.copyRet written < 0)) ∧
      (∀ i ∈ reply.readIdxs, i < vqmbtMaxDevices) ∧
      (∀ i, reply.info i = if i < written then exportDevice k i else info i) ∧
      reply.copyIdxs.filter (fun i => 0 ≤ k.copyRet i) = List.range written ∧
      (reply.ret = count ↔ written = count) ∧ (written < count → reply.ret < 0) ∧
      (∀ i (h : i < count), ExportFaithful k i k.registered[i] (exportDevice k i)) ∧
      ∀ i j (hi : i < count) (hj : j < count), k.registered[i].mac ≠ k.registered[j].mac →
        (exportDevice k i).mac ≠ (exportDevice k j).mac := by
  intro count written reply
  have hreply : reply = _ := get_paired k hsize.1 hsize.2 hcount info
  have hat (i : Nat) (h : i < count) : k.pairedDevices i = k.registered[i] := by
    simp [PairedKernel.pairedDevices, List.getD, List.getElem?_eq_getElem h]
  have hneg := VqmbtError.code_neg .kernelSide
  refine ⟨copies_reached k count, fun i hi => ?_, fun i => ?_, ?_, ⟨fun h => ?_, fun h => ?_⟩,
    fun h => ?_, fun i h => ?_, fun i j hi hj hne heq => ?_⟩
  · simp only [hreply, List.mem_range] at hi
    omega
  · rw [hreply]
  · rw [hreply]
    exact copies_filter k count
  · by_contra hne
    have hcode : VqmbtError.kernelSide.code = count := by
      rw [hreply] at h
      exact (if_neg hne).symm.trans h
    omega
  · simp only [hreply]
    exact if_pos h
  · simp only [hreply]
    rwa [if_neg (Nat.ne_of_lt h)]
  · rw [← hat i h]
    exact exportDevice_faithful k i
  · rw [← hat i hi, ← hat j hj, ← macBytes_exportDevice, ← macBytes_exportDevice, heq] at hne
    exact hne rfl

def twoPaired (copyRet : Nat → Int) : PairedKernel where
  registeredRet := 2
  registered := [⟨#v[1, 2, 3, 4, 5, 6], fun _ => 65⟩, ⟨#v[1, 2, 3, 4, 5, 7], fun _ => 0⟩]
  connecting _ _ _ := 5
  copyRet := copyRet

theorem paired_export_interrupted :
    (kvqmbtGetPairedDevices (twoPaired fun i => if i = 1 then -1 else 0) false 8
      fun _ => .zeroed).ret < 0 :=
  (paired_export_faithful _ 8 _ (by decide) rfl (by decide)).2.2.2.2.2.1 (by decide)

end VitaQmBluetooth
