import Mathlib.Data.List.Basic
import Mathlib.Tactic.TypeStar

namespace VitaQmBluetooth.Foundation

inductive Update (V : Type*) where
  | set (v : V)
  | resync
  | skip

variable {V : Type*} (truth : V)

def Update.next (b : V) : Update V → V
  | .set v => v
  | .resync => truth
  | .skip => b

def replay (b : V) (updates : List (Update V)) : V := updates.foldl (Update.next truth) b

@[simp] theorem replay_nil (b : V) : replay truth b [] = b := rfl

@[simp] theorem replay_cons (b : V) (u : Update V) (updates : List (Update V)) :
    replay truth b (u :: updates) = replay truth (u.next truth b) updates := rfl

theorem replay_append (b : V) (older newer : List (Update V)) :
    replay truth b (older ++ newer) = replay truth (replay truth b older) newer :=
  List.foldl_append ..

@[simp] theorem replay_concat_set (b v : V) (updates : List (Update V)) :
    replay truth b (updates ++ [.set v]) = v := by
  rw [replay_append]
  rfl

@[simp] theorem replay_concat_skip (b : V) (updates : List (Update V)) :
    replay truth b (updates ++ [.skip]) = replay truth b updates := by
  rw [replay_append]
  rfl

theorem replay_resync (b : V) (older newer : List (Update V)) :
    replay truth b (older ++ .resync :: newer) = replay truth truth newer := by
  rw [replay_append]
  rfl

theorem replay_hides (updates : List (Update V)) :
    (∀ b, replay truth b updates = b) ∨
      ∀ b b', replay truth b updates = replay truth b' updates := by
  induction updates with
  | nil => exact .inl fun _ => rfl
  | cons u updates ih =>
      cases u with
      | skip => exact ih
      | set v => exact .inr fun _ _ => rfl
      | resync => exact .inr fun _ _ => rfl

theorem replay_suffix {truth b : V} {older newer : List (Update V)}
    (h : replay truth b (older ++ newer) = truth) : replay truth truth newer = truth := by
  rw [replay_append] at h
  rcases replay_hides truth newer with hkeep | hhide
  · exact hkeep truth
  · rw [hhide truth (replay truth b older)]
    exact h

end VitaQmBluetooth.Foundation
