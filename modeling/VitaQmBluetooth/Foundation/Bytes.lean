import Mathlib.Data.BitVec

namespace VitaQmBluetooth.Foundation

variable {w : Nat}

def byteAt (v : BitVec w) (i : Nat) : UInt8 := UInt8.ofBitVec (v.extractLsb' (8 * i) 8)

def placeByte (w k : Nat) (b : UInt8) : BitVec w := b.toBitVec.setWidth w <<< (8 * k)

theorem byteAt_or (v v' : BitVec w) (i : Nat) :
    byteAt (v ||| v') i = byteAt v i ||| byteAt v' i :=
  UInt8.toBitVec_inj.mp BitVec.extractLsb'_or

theorem byteAt_place {k : Nat} (hk : 8 * (k + 1) ≤ w) (b : UInt8) (i : Nat) :
    byteAt (placeByte w k b) i = if i = k then b else 0 := by
  suffices h : (placeByte w k b).extractLsb' (8 * i) 8 =
      if i = k then b.toBitVec else 0#8 by
    rw [byteAt, h]
    split <;> rfl
  ext j hj
  rw [BitVec.getElem_extractLsb', placeByte, BitVec.getLsbD_shiftLeft, BitVec.getLsbD_setWidth]
  split
  · next hik =>
      subst hik
      have hwide : 8 * i + j < w := by omega
      have hnarrow : j < w := by omega
      simp [hwide, hnarrow, hj]
  · next hik =>
      rw [BitVec.getElem_zero]
      by_cases hlow : 8 * i + j < 8 * k
      · simp [hlow]
      · have hhigh : b.toBitVec.getLsbD (8 * i + j - 8 * k) = false :=
          BitVec.getLsbD_of_ge _ _ (by omega)
        simp [hhigh]

theorem placeByte_lt (k : Nat) (b : UInt8) : (placeByte w k b).toNat < 2 ^ (8 * (k + 1)) := by
  rw [placeByte, BitVec.toNat_shiftLeft, BitVec.toNat_setWidth, Nat.shiftLeft_eq]
  have hb := b.toNat_lt
  calc b.toBitVec.toNat % 2 ^ w * 2 ^ (8 * k) % 2 ^ w
      ≤ b.toBitVec.toNat % 2 ^ w * 2 ^ (8 * k) := Nat.mod_le _ _
    _ ≤ b.toNat * 2 ^ (8 * k) := Nat.mul_le_mul_right _ (Nat.mod_le _ _)
    _ < 2 ^ 8 * 2 ^ (8 * k) := Nat.mul_lt_mul_of_pos_right hb (Nat.two_pow_pos _)
    _ = 2 ^ (8 * (k + 1)) := by rw [← Nat.pow_add]; congr 1; omega

end VitaQmBluetooth.Foundation
