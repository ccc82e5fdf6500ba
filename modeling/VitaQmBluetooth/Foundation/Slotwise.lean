import Mathlib.Tactic.TypeStar

namespace VitaQmBluetooth.Foundation

structure Slotwise (ι B A O : Type*) where
  effect : A → ι → B → B
  output : A → ι → B → Option O
  Concerns : A → ι → Prop
  effect_other : ∀ a i b, ¬ Concerns a i → effect a i b = b
  output_other : ∀ a i b, ¬ Concerns a i → output a i b = none

namespace Slotwise

variable {ι B A O : Type*} (sys : Slotwise ι B A O) (slots : ι → B)

def after : List A → ι → B
  | [], i => slots i
  | a :: past, i => sys.effect a i (after past i)

def outputs (i : ι) : List A → List O
  | [] => []
  | a :: past => (sys.output a i (sys.after slots past i)).toList ++ outputs i past

section Elsewhere

variable {i : ι} {others : List A} (h : ∀ a ∈ others, ¬ sys.Concerns a i) (past : List A)

include h

theorem after_elsewhere : sys.after slots (others ++ past) i = sys.after slots past i := by
  induction others with
  | nil => rfl
  | cons a others ih =>
      rw [List.cons_append, after, sys.effect_other a i _ (h a (List.mem_cons_self ..))]
      exact ih fun b hb => h b (List.mem_cons_of_mem _ hb)

theorem outputs_elsewhere : sys.outputs slots i (others ++ past) = sys.outputs slots i past := by
  induction others with
  | nil => rfl
  | cons a others ih =>
      rw [List.cons_append, outputs, sys.output_other a i _ (h a (List.mem_cons_self ..))]
      exact ih fun b hb => h b (List.mem_cons_of_mem _ hb)

end Elsewhere

section Seen

variable [∀ i, DecidablePred fun a => sys.Concerns a i]

def seen (i : ι) (past : List A) : List A := past.filter (fun a => sys.Concerns a i)

theorem seen_concerned {a : A} {i : ι} (h : sys.Concerns a i) (past : List A) :
    sys.seen i (a :: past) = a :: sys.seen i past := by
  simp [seen, h]

theorem seen_other {a : A} {i : ι} (h : ¬ sys.Concerns a i) (past : List A) :
    sys.seen i (a :: past) = sys.seen i past := by
  simp [seen, h]

theorem after_seen (past : List A) (i : ι) :
    sys.after slots (sys.seen i past) i = sys.after slots past i := by
  induction past with
  | nil => rfl
  | cons a past ih =>
      by_cases h : sys.Concerns a i
      · rw [seen_concerned sys h, after, after, ih]
      · rw [seen_other sys h, after, sys.effect_other a i _ h, ih]

theorem outputs_seen (past : List A) (i : ι) :
    sys.outputs slots i (sys.seen i past) = sys.outputs slots i past := by
  induction past with
  | nil => rfl
  | cons a past ih =>
      by_cases h : sys.Concerns a i
      · rw [seen_concerned sys h, outputs, outputs, after_seen, ih]
      · rw [seen_other sys h, outputs, sys.output_other a i _ h, ih]
        rfl

variable {past past' : List A}

theorem after_of_seen {i : ι} (h : sys.seen i past = sys.seen i past') :
    sys.after slots past i = sys.after slots past' i := by
  rw [← after_seen, h, after_seen]

theorem outputs_of_seen {i : ι} (h : sys.seen i past = sys.seen i past') :
    sys.outputs slots i past = sys.outputs slots i past' := by
  rw [← outputs_seen, h, outputs_seen]

end Seen

end Slotwise

end VitaQmBluetooth.Foundation
