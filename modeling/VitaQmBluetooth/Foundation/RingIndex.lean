import Mathlib.Data.BitVec
import Mathlib.Data.Nat.ModEq
import Mathlib.Tactic.Abel
import VitaQmBluetooth.Foundation.Tracked

namespace VitaQmBluetooth.Foundation

variable {w N : Nat} (base : BitVec w)

def seqIdx (n : Nat) : BitVec w := base + BitVec.ofNat w n

@[simp] theorem seqIdx_zero : seqIdx base 0 = base := by simp [seqIdx]

theorem seqIdx_succ (n : Nat) : seqIdx base n + 1 = seqIdx base (n + 1) := by
  have hone : BitVec.ofNat w (n + 1) = BitVec.ofNat w n + 1 := BitVec.ofNat_add n 1
  rw [seqIdx, seqIdx, hone, add_assoc]

theorem seqIdx_period (n : Nat) : seqIdx base (n + 2 ^ w) = seqIdx base n := by
  have hlap : BitVec.ofNat w (n + 2 ^ w) = BitVec.ofNat w n := by
    apply BitVec.eq_of_toNat_eq
    simp
  rw [seqIdx, seqIdx, hlap]

theorem seqIdx_sub {m n : Nat} (h : m ≤ n) :
    seqIdx base n - seqIdx base m = BitVec.ofNat w (n - m) := by
  obtain ⟨d, rfl⟩ := Nat.exists_eq_add_of_le h
  simp only [seqIdx, BitVec.ofNat_add, Nat.add_sub_cancel_left]
  abel

theorem seqIdx_dist {m n : Nat} (h : m ≤ n) (hb : n - m < 2 ^ w) :
    (seqIdx base n - seqIdx base m).toNat = n - m := by
  rw [seqIdx_sub base h, BitVec.toNat_ofNat, Nat.mod_eq_of_lt hb]

theorem seqIdx_reaches (idx : BitVec w) : seqIdx base (idx - base).toNat = idx := by
  rw [seqIdx, BitVec.ofNat_toNat, BitVec.setWidth_eq]
  abel

theorem seqIdx_eq_iff {m n : Nat} (h : m ≤ n) (hb : n - m < 2 ^ w) :
    seqIdx base m = seqIdx base n ↔ m = n := by
  constructor
  · intro heq
    have hdist := seqIdx_dist base h hb
    rw [heq, BitVec.sub_self, BitVec.toNat_zero] at hdist
    omega
  · rintro rfl
    rfl

variable [NeZero N]

def slotNo (N : Nat) [NeZero N] (idx : BitVec w) : Fin N := Fin.ofNat N idx.toNat

theorem slotNo_eq_iff (hN : N ∣ 2 ^ w) (m n : Nat) :
    slotNo N (seqIdx base m) = slotNo N (seqIdx base n) ↔ m ≡ n [MOD N] := by
  have hval (k : Nat) : (slotNo N (seqIdx base k)).val = (base.toNat + k) % N := by
    simp only [slotNo, seqIdx, Fin.val_ofNat, BitVec.toNat_add, BitVec.toNat_ofNat,
      Nat.mod_mod_of_dvd _ hN]
    rw [Nat.add_mod, Nat.mod_mod_of_dvd _ hN, ← Nat.add_mod]
  rw [Fin.ext_iff, hval, hval]
  exact ⟨fun h => Nat.ModEq.add_left_cancel' base.toNat h, fun h => Nat.ModEq.add_left _ h⟩

theorem slotNo_ne (hN : N ∣ 2 ^ w) {m n : Nat} (hlt : m < n) (hnear : n < m + N) :
    slotNo N (seqIdx base m) ≠ slotNo N (seqIdx base n) := by
  intro heq
  have hmod := (slotNo_eq_iff base hN m n).mp heq
  have hdvd := (Nat.modEq_iff_dvd' hlt.le).mp hmod
  have hle := Nat.le_of_dvd (by omega) hdvd
  omega

theorem slotNo_lap (hN : N ∣ 2 ^ w) (n : Nat) :
    slotNo N (seqIdx base (n + N)) = slotNo N (seqIdx base n) :=
  (slotNo_eq_iff base hN _ _).mpr (by simp [Nat.ModEq])

section Window

variable {E : Type*}

def Window (slots : Fin N → E) (log : List E) : Prop :=
  ∀ n e, log[n]? = some e → log.length ≤ n + N → slots (slotNo N (seqIdx base n)) = e

theorem window_nil (slots : Fin N → E) : Window base slots [] := by
  intro n e h
  simp at h

theorem window_push (hN : N ∣ 2 ^ w) {slots : Fin N → E} {log : List E}
    (h : Window base slots log) (e : E) :
    Window base (Function.update slots (slotNo N (seqIdx base log.length)) e) (log ++ [e]) := by
  intro n e' hn hrecent
  simp only [List.length_append, List.length_singleton] at hrecent
  by_cases hlast : n = log.length
  · subst hlast
    simp only [List.getElem?_concat_length, Option.some.injEq] at hn
    simp [hn]
  · have hlt : n < log.length := by
      have hbound := (List.getElem?_eq_some_iff.mp hn).1
      simp only [List.length_append, List.length_singleton] at hbound
      omega
    rw [List.getElem?_append_left hlt] at hn
    rw [Function.update_of_ne (slotNo_ne base hN hlt (by omega))]
    exact h n e' hn (by omega)

end Window

end VitaQmBluetooth.Foundation
