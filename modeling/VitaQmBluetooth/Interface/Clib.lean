import Mathlib.Algebra.Group.Nat.Defs
import Mathlib.Algebra.Ring.Int.Defs
import Mathlib.Data.List.TakeWhile

namespace VitaQmBluetooth

abbrev UnsignedInt := BitVec 32

abbrev CString := List UInt8

def ascii (s : String) : CString := s.toList.map (fun c => UInt8.ofNat c.toNat)

def bufferText {n : Nat} (buffer : Vector UInt8 n) : CString :=
  buffer.toList.takeWhile (fun b => b ≠ 0)

def strncpy : Nat → (Nat → UInt8) → List UInt8
  | 0, _ => []
  | count + 1, source =>
      if source 0 = 0 then List.replicate (count + 1) 0
      else source 0 :: strncpy count fun i => source (i + 1)

@[simp] theorem strncpy_length (count : Nat) (source : Nat → UInt8) :
    (strncpy count source).length = count := by
  induction count generalizing source with
  | zero => rfl
  | succ count ih =>
      rw [strncpy]
      split
      · rw [List.length_replicate]
      · rw [List.length_cons, ih]

def textWithin (count : Nat) (source : Nat → UInt8) : CString :=
  ((List.range count).map source).takeWhile (fun b => b ≠ 0)

theorem textWithin_succ (count : Nat) (source : Nat → UInt8) :
    textWithin (count + 1) source =
      if source 0 = 0 then []
      else source 0 :: textWithin count fun i => source (i + 1) := by
  simp only [textWithin, List.range_succ_eq_map, List.map_cons, List.takeWhile_cons,
    List.map_map, decide_not, Bool.not_eq_true', decide_eq_false_iff_not, ite_not]
  rfl

theorem strncpy_eq (count : Nat) (source : Nat → UInt8) :
    strncpy count source = textWithin count source ++
      List.replicate (count - (textWithin count source).length) 0 := by
  induction count generalizing source with
  | zero => rfl
  | succ count ih =>
      rw [strncpy, textWithin_succ]
      split
      · rfl
      · rw [ih, List.length_cons, List.cons_append, Nat.add_sub_add_right]

theorem textWithin_length (count : Nat) (source : Nat → UInt8) :
    (textWithin count source).length ≤ count := by
  have h := congrArg List.length (strncpy_eq count source)
  rw [strncpy_length, List.length_append] at h
  omega

theorem textWithin_ne_zero {count : Nat} {source : Nat → UInt8} {b : UInt8}
    (h : b ∈ textWithin count source) : b ≠ 0 := by
  simpa using List.mem_takeWhile_imp h

def sceClibSnprintf (size : Nat) (text : CString) : CString := text.take (size - 1)

def hexDigit (d : Nat) : UInt8 := UInt8.ofNat (if d < 10 then 48 + d else 55 + d)

def hex08 (v : Int) : CString :=
  [7, 6, 5, 4, 3, 2, 1, 0].map fun i => hexDigit ((v % 2 ^ 32).toNat / 16 ^ i % 16)

example : hex08 (0x80690001 - 2 ^ 32) = ascii "80690001" := by decide

end VitaQmBluetooth
