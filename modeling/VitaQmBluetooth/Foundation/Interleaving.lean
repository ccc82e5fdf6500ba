import Mathlib.Logic.Relation
import Mathlib.Tactic.TypeStar

namespace VitaQmBluetooth.Foundation

structure Transition (S A : Type*) where
  before : S
  act : A
  after : S

structure Lts (S A : Type*) where
  start : S → Prop
  step : S → A → Option S

namespace Lts

variable {S A : Type*} {M : Lts S A}

inductive Run (M : Lts S A) : List (Transition S A) → S → Prop
  | start {s : S} : M.start s → Run M [] s
  | next {past : List (Transition S A)} {s t : S} {a : A} :
      Run M past s → M.step s a = some t → Run M (⟨s, a, t⟩ :: past) t

theorem Run.invariant {I : S → Prop} {P : Transition S A → Prop}
    (hstart : ∀ s, M.start s → I s)
    (hstep : ∀ s a t, M.step s a = some t → P ⟨s, a, t⟩ → I s → I t)
    {past : List (Transition S A)} {s : S} (h : M.Run past s) (hok : ∀ x ∈ past, P x) : I s := by
  induction h with
  | start hs => exact hstart _ hs
  | next _ hs ih =>
      have hpast := ih (fun x hx => hok x (List.mem_cons_of_mem _ hx))
      exact hstep _ _ _ hs (hok _ (List.mem_cons_self ..)) hpast

def Reaches (M : Lts S A) : S → S → Prop :=
  Relation.ReflTransGen fun s t => ∃ a, M.step s a = some t

theorem Run.reaches {past : List (Transition S A)} {s t : S} (h : M.Run past s)
    (ht : M.Reaches s t) : ∃ later, M.Run later t := by
  induction ht with
  | refl => exact ⟨past, h⟩
  | tail _ hstep ih =>
      obtain ⟨later, hlater⟩ := ih
      obtain ⟨a, ha⟩ := hstep
      exact ⟨_, .next hlater ha⟩

def Throughout (P : Transition S A → List (Transition S A) → Prop) :
    List (Transition S A) → Prop
  | [] => True
  | x :: older => P x older ∧ Throughout P older

theorem Throughout.mono {P Q : Transition S A → List (Transition S A) → Prop}
    (h : ∀ x older, P x older → Q x older) {past : List (Transition S A)}
    (hpast : Throughout P past) : Throughout Q past := by
  induction past with
  | nil => trivial
  | cons x older ih => exact ⟨h x older hpast.1, ih hpast.2⟩

instance decidableThroughout {P : Transition S A → List (Transition S A) → Prop}
    [∀ x older, Decidable (P x older)] : ∀ past, Decidable (Throughout P past)
  | [] => inferInstanceAs (Decidable True)
  | x :: older =>
      have : Decidable (Throughout P older) := decidableThroughout older
      inferInstanceAs (Decidable (P x older ∧ Throughout P older))

theorem Run.throughout_iff_of_past {P Q : Transition S A → List (Transition S A) → Prop}
    (hstep : ∀ older s a t, M.Run older s → M.step s a = some t → Throughout P older →
      Throughout Q older → (P ⟨s, a, t⟩ older ↔ Q ⟨s, a, t⟩ older))
    {past : List (Transition S A)} {s : S} (h : M.Run past s) :
    Throughout P past ↔ Throughout Q past := by
  induction h with
  | start _ => exact Iff.rfl
  | next hrun hs ih =>
      constructor
      · rintro ⟨hx, hp⟩
        have hq := ih.mp hp
        exact ⟨(hstep _ _ _ _ hrun hs hp hq).mp hx, hq⟩
      · rintro ⟨hx, hq⟩
        have hp := ih.mpr hq
        exact ⟨(hstep _ _ _ _ hrun hs hp hq).mpr hx, hp⟩

theorem Run.throughout_iff {P Q : Transition S A → List (Transition S A) → Prop}
    (hstep : ∀ older s a t, M.Run older s → M.step s a = some t →
      (P ⟨s, a, t⟩ older ↔ Q ⟨s, a, t⟩ older))
    {past : List (Transition S A)} {s : S} (h : M.Run past s) :
    Throughout P past ↔ Throughout Q past :=
  h.throughout_iff_of_past fun older s a t hrun hs _ _ => hstep older s a t hrun hs

def exec (M : Lts S A) : S → List A → Option S
  | s, [] => some s
  | s, a :: acts => (M.step s a).bind (fun t => exec M t acts)

theorem exec_cons {s t : S} {a : A} (h : M.step s a = some t) (acts : List A) :
    M.exec s (a :: acts) = M.exec t acts := by
  simp [exec, h]

theorem exec_invariant {I : S → Prop} (hstep : ∀ s a t, M.step s a = some t → I s → I t)
    {s t : S} {acts : List A} (hs : I s) (h : M.exec s acts = some t) : I t := by
  induction acts generalizing s with
  | nil => exact Option.some.inj h ▸ hs
  | cons a acts ih =>
      cases hnext : M.step s a with
      | none => simp [exec, hnext] at h
      | some u =>
          rw [exec_cons hnext] at h
          exact ih (hstep s a u hnext hs) h

def play (M : Lts S A) : List (Transition S A) → S → List A → Option (List (Transition S A) × S)
  | past, s, [] => some (past, s)
  | past, s, a :: acts =>
      match M.step s a with
      | none => none
      | some t => play M (⟨s, a, t⟩ :: past) t acts

theorem run_of_play {acts : List A} {past past' : List (Transition S A)} {s t : S}
    (hrun : M.Run past s) (h : M.play past s acts = some (past', t)) : M.Run past' t := by
  induction acts generalizing past s with
  | nil =>
      simp only [play, Option.some.injEq, Prod.mk.injEq] at h
      obtain ⟨rfl, rfl⟩ := h
      exact hrun
  | cons a acts ih =>
      simp only [play] at h
      cases hs : M.step s a with
      | none => simp [hs] at h
      | some u => exact ih (hrun.next hs) (by simpa [hs] using h)

def played (M : Lts S A) (s : S) (acts : List A) (h : (M.play [] s acts).isSome) :
    List (Transition S A) × S := (M.play [] s acts).get h

theorem run_played {s : S} (hs : M.start s) {acts : List A} (h : (M.play [] s acts).isSome) :
    M.Run (M.played s acts h).1 (M.played s acts h).2 :=
  run_of_play (.start hs) (Option.some_get h).symm

def origin : List (Transition S A) → S → S
  | [], s => s
  | x :: older, _ => origin older x.before

theorem Run.origin_start {past : List (Transition S A)} {s : S} (h : M.Run past s) :
    M.start (origin past s) := by
  induction h with
  | start hs => exact hs
  | next _ _ ih => exact ih

def total (weight : A → Nat) : List (Transition S A) → Nat
  | [] => 0
  | x :: older => weight x.act + total weight older

theorem total_linear (f g : A → Nat) (m n : Nat) (past : List (Transition S A)) :
    total (fun a => m * f a + n * g a) past = m * total f past + n * total g past := by
  induction past with
  | nil => rfl
  | cons x older ih =>
      simp only [total, Nat.mul_add]
      omega

theorem Run.amortized {cost gain : A → Nat} {I : S → Nat → Prop}
    (hstep : ∀ s a t n, M.step s a = some t → I s n →
      ∃ n', I t n' ∧ cost a + n' ≤ gain a + n)
    {past : List (Transition S A)} {s : S} (h : M.Run past s) {n : Nat}
    (hstart : I (origin past s) n) :
    ∃ n', I s n' ∧ total cost past + n' ≤ total gain past + n := by
  induction h with
  | start _ => exact ⟨n, hstart, Nat.le_refl _⟩
  | next _ hs ih =>
      obtain ⟨m, hm, hpaid⟩ := ih hstart
      obtain ⟨n', hn', hlast⟩ := hstep _ _ _ m hs hm
      refine ⟨n', hn', ?_⟩
      simp only [total]
      omega

theorem Run.spends {cost : A → Nat} {w : S → Nat}
    (hstep : ∀ s a t, M.step s a = some t → cost a + w t ≤ w s)
    {past : List (Transition S A)} {s : S} (h : M.Run past s) :
    total cost past + w s ≤ w (origin past s) := by
  induction h with
  | start _ => simp only [total, origin, Nat.zero_add, Nat.le_refl]
  | next _ hs ih =>
      have hlast := hstep _ _ _ hs
      simp only [total, origin]
      omega

theorem exec_consumes {I : S → Nat → Prop} {P : A → Prop}
    (hstep : ∀ s a t n, P a → M.step s a = some t → I s n → ∃ n', I t n' ∧ n' < n)
    {acts : List A} (hacts : ∀ a ∈ acts, P a) {s t : S} (h : M.exec s acts = some t) {n : Nat}
    (hs : I s n) : ∃ n', I t n' ∧ acts.length + n' ≤ n := by
  induction acts generalizing s n with
  | nil =>
      obtain rfl := Option.some.inj h
      exact ⟨n, hs, by simp⟩
  | cons a acts ih =>
      cases hnext : M.step s a with
      | none => simp [exec, hnext] at h
      | some u =>
          rw [exec_cons hnext] at h
          obtain ⟨m, hm, hless⟩ := hstep s a u n (hacts a (List.mem_cons_self ..)) hnext hs
          obtain ⟨n', hn', hrest⟩ := ih (fun b hb => hacts b (List.mem_cons_of_mem _ hb)) h hm
          refine ⟨n', hn', ?_⟩
          rw [List.length_cons]
          omega

end Lts

end VitaQmBluetooth.Foundation
