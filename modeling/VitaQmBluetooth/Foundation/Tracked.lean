import Mathlib.Data.Fintype.Basic
import Mathlib.Data.List.FinRange
import Mathlib.Logic.Function.Basic
import Mathlib.Tactic.TypeStar

namespace VitaQmBluetooth.Foundation

structure Tracked (n : Nat) (B : Type*) where
  slots : Fin n → B
  changed : Bool

namespace Tracked

variable {n : Nat} {B : Type*}

theorem foldl_update (v : Fin n → B) (idxs : List (Fin n)) (slots : Fin n → B) :
    idxs.foldl (fun s i => Function.update s i (v i)) slots =
      fun j => if j ∈ idxs then v j else slots j := by
  induction idxs generalizing slots with
  | nil => simp
  | cons idx idxs ih =>
      rw [List.foldl_cons, ih]
      funext j
      by_cases hm : j ∈ idxs
      · simp [hm]
      · by_cases hj : j = idx
        · subst hj; simp [hm]
        · simp [hm, hj]

theorem foldl_finRange_update (v slots : Fin n → B) :
    (List.finRange n).foldl (fun s i => Function.update s i (v i)) slots = v := by
  rw [foldl_update]
  simp

def write (c : Tracked n B) (idx : Fin n) (b : B) : Tracked n B :=
  ⟨Function.update c.slots idx b, true⟩

@[simp] theorem write_slots (c : Tracked n B) (idx : Fin n) (b : B) :
    (c.write idx b).slots = Function.update c.slots idx b := rfl

@[simp] theorem write_changed (c : Tracked n B) (idx : Fin n) (b : B) :
    (c.write idx b).changed = true := rfl

theorem write_write (c : Tracked n B) (idx : Fin n) (b b' : B) :
    (c.write idx b).write idx b' = c.write idx b' := by
  simp only [write, Function.update_idem]

section Change

variable [DecidableEq B]

def change (c : Tracked n B) (idx : Fin n) (f : B → B) : Tracked n B :=
  ⟨Function.update c.slots idx (f (c.slots idx)),
    c.changed || decide (f (c.slots idx) ≠ c.slots idx)⟩

theorem change_of_eq (c : Tracked n B) (idx : Fin n) {f : B → B}
    (h : f (c.slots idx) = c.slots idx) : c.change idx f = c := by
  simp [change, h, Function.update_eq_self]

theorem change_of_ne (c : Tracked n B) (idx : Fin n) {f : B → B}
    (h : f (c.slots idx) ≠ c.slots idx) : c.change idx f = c.write idx (f (c.slots idx)) := by
  simp [change, write, h]

theorem change_change (c : Tracked n B) (idx : Fin n) (f g : B → B)
    (h : f (c.slots idx) = c.slots idx ∨ g (f (c.slots idx)) ≠ c.slots idx) :
    (c.change idx f).change idx g = c.change idx (fun b => g (f b)) := by
  rcases h with hsame | hmoved
  · rw [change_of_eq c idx hsame]
    simp [change, hsame]
  · by_cases hsame : f (c.slots idx) = c.slots idx
    · rw [change_of_eq c idx hsame]
      simp [change, hsame]
    · rw [change_of_ne c idx hsame, change_of_ne c idx (f := fun b => g (f b)) hmoved]
      by_cases hg : g (f (c.slots idx)) = f (c.slots idx)
      · rw [change_of_eq _ idx (by simpa using hg)]
        simp [hg]
      · rw [change_of_ne _ idx (by simpa using hg)]
        simp [write_write]

theorem foldl_change (f : Fin n → B → B) (idxs : List (Fin n)) (hn : idxs.Nodup)
    (c : Tracked n B) :
    idxs.foldl (fun c i => c.change i (f i)) c =
      ⟨fun j => if j ∈ idxs then f j (c.slots j) else c.slots j,
        c.changed || decide (∃ i ∈ idxs, f i (c.slots i) ≠ c.slots i)⟩ := by
  induction idxs generalizing c with
  | nil => simp
  | cons idx idxs ih =>
      obtain ⟨hnot, hn⟩ := List.nodup_cons.mp hn
      have hother : ∀ i ∈ idxs, (c.change idx (f idx)).slots i = c.slots i := by
        intro i hi
        have hne : i ≠ idx := fun h => hnot (h ▸ hi)
        simp [change, hne]
      have hdirty : (∃ i ∈ idxs, f i ((c.change idx (f idx)).slots i) ≠
            (c.change idx (f idx)).slots i) ↔ ∃ i ∈ idxs, f i (c.slots i) ≠ c.slots i :=
        exists_congr fun i => and_congr_right fun hi => by rw [hother i hi]
      rw [List.foldl_cons, ih hn]
      simp only [mk.injEq]
      constructor
      · funext j
        by_cases hj : j = idx
        · subst hj; simp [hnot, change]
        · by_cases hm : j ∈ idxs
          · simp [hm, hother j hm]
          · simp [hm, hj, change]
      · simp only [hdirty]
        simp [change, Bool.or_assoc]

def changeEach (c : Tracked n B) (f : Fin n → B → B) : Tracked n B :=
  ⟨fun j => f j (c.slots j), c.changed || decide (∃ i, f i (c.slots i) ≠ c.slots i)⟩

theorem foldl_finRange_change (f : Fin n → B → B) (c : Tracked n B) :
    (List.finRange n).foldl (fun c i => c.change i (f i)) c = c.changeEach f := by
  rw [foldl_change f _ (List.nodup_finRange n) c]
  simp [changeEach]

theorem change_eq_changeEach (c : Tracked n B) (idx : Fin n) (f : B → B) :
    c.change idx f = c.changeEach (fun j b => if j = idx then f b else b) := by
  simp only [change, changeEach, mk.injEq]
  constructor
  · funext j
    by_cases h : j = idx
    · subst h; simp
    · simp [h]
  · congr 1
    rw [decide_eq_decide]
    constructor
    · intro h
      exact ⟨idx, by simpa using h⟩
    · rintro ⟨i, hi⟩
      by_cases h : i = idx
      · subst h; simpa using hi
      · simp [h] at hi

theorem changeEach_id (c : Tracked n B) : c.changeEach (fun _ b => b) = c := by
  simp [changeEach]

theorem changeEach_changed_iff (slots : Fin n → B) (f : Fin n → B → B) :
    ((⟨slots, false⟩ : Tracked n B).changeEach f).changed = true ↔
      ((⟨slots, false⟩ : Tracked n B).changeEach f).slots ≠ slots := by
  simp only [changeEach, Bool.false_or, decide_eq_true_eq]
  constructor
  · rintro ⟨i, hi⟩ heq
    exact hi (congrFun heq i)
  · intro hne
    by_contra hnone
    exact hne (funext fun i => by_contra fun hi => hnone ⟨i, hi⟩)

end Change

end Tracked

end VitaQmBluetooth.Foundation
