import Mathlib.Logic.Relation
import Mathlib.Order.Lattice.Nat
import Mathlib.Tactic.TypeStar

namespace VitaQmBluetooth.Foundation

variable {S R : Type*} {body : S → S ⊕ R}

def runLoop (body : S → S ⊕ R) : Nat → S → Option R
  | 0, _ => none
  | fuel + 1, s =>
      match body s with
      | .inl t => runLoop body fuel t
      | .inr r => some r

def Ends (body : S → S ⊕ R) (s : S) (r : R) : Prop := ∃ fuel, runLoop body fuel s = some r

theorem Ends.stop {s : S} {r : R} (h : body s = .inr r) : Ends body s r :=
  ⟨1, by simp [runLoop, h]⟩

theorem Ends.again {s t : S} {r : R} (h : body s = .inl t) (ht : Ends body t r) :
    Ends body s r := by
  obtain ⟨fuel, hfuel⟩ := ht
  exact ⟨fuel + 1, by simpa [runLoop, h] using hfuel⟩

theorem runLoop_unique {fuel fuel' : Nat} {s : S} {r r' : R} (h : runLoop body fuel s = some r)
    (h' : runLoop body fuel' s = some r') : r = r' := by
  induction fuel generalizing s fuel' with
  | zero => simp [runLoop] at h
  | succ fuel ih =>
      cases fuel' with
      | zero => simp [runLoop] at h'
      | succ fuel' =>
          simp only [runLoop] at h h'
          cases hbody : body s with
          | inl t =>
              simp only [hbody] at h h'
              exact ih h h'
          | inr last =>
              simp only [hbody, Option.some.injEq] at h h'
              exact h.symm.trans h'

theorem Ends.unique {s : S} {r r' : R} (h : Ends body s r) (h' : Ends body s r') : r = r' := by
  obtain ⟨fuel, hfuel⟩ := h
  obtain ⟨fuel', hfuel'⟩ := h'
  exact runLoop_unique hfuel hfuel'

def Again (body : S → S ⊕ R) (s t : S) : Prop := body s = .inl t

theorem Ends.after_turns {s t : S} {r : R} (h : Ends body s r)
    (ht : Relation.ReflTransGen (Again body) s t) : Ends body t r := by
  induction ht with
  | refl => exact h
  | tail _ hagain ih =>
      obtain ⟨fuel, hfuel⟩ := ih
      cases fuel with
      | zero => cases hfuel
      | succ fuel =>
          rw [runLoop, hagain] at hfuel
          exact ⟨fuel, hfuel⟩

noncomputable def turnsLeft (body : S → S ⊕ R) (s : S) : Nat :=
  sInf {fuel | runLoop body fuel s ≠ none}

theorem turnsLeft_again {s t : S} {r : R} (h : Ends body s r) (hagain : Again body s t) :
    turnsLeft body t < turnsLeft body s := by
  have hends : runLoop body (turnsLeft body s) s ≠ none := by
    obtain ⟨fuel, hfuel⟩ := h
    exact Nat.sInf_mem (s := {fuel | runLoop body fuel s ≠ none})
      ⟨fuel, fun hnone => by simp [hnone] at hfuel⟩
  cases hturns : turnsLeft body s with
  | zero =>
      rw [hturns] at hends
      exact absurd rfl hends
  | succ fuel =>
      rw [hturns, runLoop, hagain] at hends
      exact Nat.lt_succ_of_le (Nat.sInf_le hends)

theorem ends_iff_exits (next : S → S) (again : S → Prop)
    (hagain : ∀ s, again s → Again body s (next s)) (hexit : ∀ s, ¬ again s → ∃ r, Ends body s r)
    (s : S) : (∃ r, Ends body s r) ↔ ∃ n, ¬ again (next^[n] s) := by
  constructor
  · rintro ⟨r, fuel, hfuel⟩
    induction fuel generalizing s with
    | zero => cases hfuel
    | succ fuel ih =>
        by_cases hs : again s
        · rw [runLoop, hagain s hs] at hfuel
          obtain ⟨n, hn⟩ := ih (next s) hfuel
          exact ⟨n + 1, hn⟩
        · exact ⟨0, hs⟩
  · rintro ⟨n, hn⟩
    induction n generalizing s with
    | zero => exact hexit s hn
    | succ n ih =>
        by_cases hs : again s
        · obtain ⟨r, hr⟩ := ih (next s) hn
          exact ⟨r, hr.again (hagain s hs)⟩
        · exact hexit s hs

end VitaQmBluetooth.Foundation
