import Mathlib.Tactic.TypeStar
import Mathlib.Tactic.ByContra

namespace VitaQmBluetooth.Foundation

structure Machine (S A O : Type*) where
  boot : S
  step : S → A → S × O

namespace Machine

variable {S S' A O J : Type*} (m : Machine S A O) (m' : Machine S' A O)

def after : List A → S
  | [] => m.boot
  | a :: past => (m.step (after past) a).1

def reply (past : List A) (a : A) : O := (m.step (m.after past) a).2

def replies : List A → List O
  | [] => []
  | a :: past => m.reply past a :: replies past

def latest (info : S → A → Option J) : List A → Option J
  | [] => none
  | a :: past => (info (m.after past) a).or (latest info past)

@[simp] theorem after_nil : m.after [] = m.boot := rfl

@[simp] theorem after_cons (a : A) (past : List A) :
    m.after (a :: past) = (m.step (m.after past) a).1 := rfl

theorem latest_cons_some {info : S → A → Option J} {past : List A} {a : A} {j : J}
    (h : info (m.after past) a = some j) : m.latest info (a :: past) = some j := by
  simp [latest, h]

theorem latest_cons_none {info : S → A → Option J} {past : List A} {a : A}
    (h : info (m.after past) a = none) : m.latest info (a :: past) = m.latest info past := by
  simp [latest, h]

theorem after_append_invariant {I : S → Prop} {P : A → Prop}
    (hstep : ∀ s a, P a → I s → I (m.step s a).1) (past : List A) (hpast : I (m.after past)) :
    ∀ later : List A, (∀ a ∈ later, P a) → I (m.after (later ++ past)) := by
  intro later
  induction later with
  | nil => intro _; exact hpast
  | cons a later ih =>
      intro hok
      have hs : I (m.after (later ++ past)) := ih (fun b hb => hok b (List.mem_cons_of_mem _ hb))
      exact hstep _ a (hok a (List.mem_cons_self ..)) hs

theorem after_invariant {I : S → Prop} {P : A → Prop} (hboot : I m.boot)
    (hstep : ∀ s a, P a → I s → I (m.step s a).1) (past : List A) (hok : ∀ a ∈ past, P a) :
    I (m.after past) := by
  have h := m.after_append_invariant hstep [] hboot past hok
  simpa using h

theorem exists_between {P : S → Prop} {X : S → A → Prop} (past : List A)
    (hkeep : ∀ s a, ¬ X s a → P s → P (m.step s a).1) (hP : P (m.after past)) :
    ∀ later : List A, ¬ P (m.after (later ++ past)) →
      ∃ newer a older, later = newer ++ a :: older ∧ X (m.after (older ++ past)) a := by
  intro later
  induction later with
  | nil => intro hnot; exact absurd hP hnot
  | cons a later ih =>
      intro hnot
      by_cases hl : P (m.after (later ++ past))
      · have hx : X (m.after (later ++ past)) a := by
          by_contra hx
          exact hnot (hkeep _ a hx hl)
        exact ⟨[], a, later, rfl, hx⟩
      · obtain ⟨newer, b, older, rfl, hx⟩ := ih hl
        exact ⟨a :: newer, b, older, rfl, hx⟩

theorem simulation {R : S → S' → Prop} {P : S' → A → Prop} (hboot : R m.boot m'.boot)
    (hstep : ∀ s s' a, R s s' → P s' a →
      R (m.step s a).1 (m'.step s' a).1 ∧ (m.step s a).2 = (m'.step s' a).2) :
    ∀ past : List A, (∀ a older, a :: older <:+ past → P (m'.after older) a) →
      R (m.after past) (m'.after past) ∧ m.replies past = m'.replies past := by
  intro past
  induction past with
  | nil => intro _; exact ⟨hboot, rfl⟩
  | cons a past ih =>
      intro hok
      have hpast : ∀ b older, b :: older <:+ past → P (m'.after older) b :=
        fun b older hb => hok b older (hb.trans (List.suffix_cons a past))
      obtain ⟨hR, hreplies⟩ := ih hpast
      obtain ⟨hnext, hreply⟩ := hstep _ _ a hR (hok a past (List.suffix_refl _))
      refine ⟨hnext, ?_⟩
      simp only [replies, reply, hreply, hreplies]

theorem simulation_iff {R : S → S' → Prop} {P : S → S' → A → Prop} {Q : S' → A → Prop}
    (hboot : R m.boot m'.boot)
    (hstep : ∀ s s' a, R s s' →
      (P s s' a ↔ Q s' a) ∧ (Q s' a → R (m.step s a).1 (m'.step s' a).1)) (past : List A) :
    (∀ a older, a :: older <:+ past → P (m.after older) (m'.after older) a) ↔
      ∀ a older, a :: older <:+ past → Q (m'.after older) a := by
  suffices h : ((∀ a older, a :: older <:+ past → P (m.after older) (m'.after older) a) ↔
      ∀ a older, a :: older <:+ past → Q (m'.after older) a) ∧
      ((∀ a older, a :: older <:+ past → Q (m'.after older) a) →
        R (m.after past) (m'.after past)) from h.1
  induction past with
  | nil => exact ⟨by simp, fun _ => hboot⟩
  | cons b past ih =>
      obtain ⟨hiff, hrelated⟩ := ih
      have hcons {T : List A → A → Prop} : (∀ a older, a :: older <:+ b :: past → T older a) ↔
          T past b ∧ ∀ a older, a :: older <:+ past → T older a := by
        simp only [List.suffix_cons_iff, List.cons.injEq]
        constructor
        · exact fun h => ⟨h b past (.inl ⟨rfl, rfl⟩), fun a older ha => h a older (.inr ha)⟩
        · rintro ⟨hb, hpast⟩ a older (⟨rfl, rfl⟩ | ha)
          · exact hb
          · exact hpast a older ha
      rw [hcons (T := fun older a => P (m.after older) (m'.after older) a),
        hcons (T := fun older a => Q (m'.after older) a), hiff]
      refine ⟨and_congr_left fun hq => (hstep _ _ b (hrelated hq)).1, fun h => ?_⟩
      exact (hstep _ _ b (hrelated h.2)).2 h.1

end Machine

end VitaQmBluetooth.Foundation
