import Mathlib.Logic.Function.Basic
import VitaQmBluetooth.Foundation.Interleaving
import VitaQmBluetooth.Foundation.Loop
import VitaQmBluetooth.Foundation.Machine

namespace VitaQmBluetooth.Foundation

structure LockedCode (S A O L : Type*) where
  enter : A → L
  turn : S × L → (S × L) ⊕ (S × O)

inductive CallerAt (A O L : Type*) where
  | away
  | asking (a : A)
  | inside (a : A) (here : L)
  | leaving (o : O)

inductive CallerEvent (A O : Type*) where
  | asked (a : A)
  | served (a : A) (o : O)
  | left (o : O)

-- The log records what each caller did, the latest first; the code has no such record.
structure Callers (T S A O L : Type*) where
  shared : S
  owner : Option T
  callers : T → CallerAt A O L
  log : List (T × CallerEvent A O)

inductive CallerStep (T A : Type*) where
  | ask (t : T) (a : A)
  | lock (t : T)
  | turn (t : T)
  | leave (t : T)

namespace CallerEvent

variable {A O : Type*}

def action : CallerEvent A O → Option A
  | .served a _ => some a
  | _ => none

def reply : CallerEvent A O → Option O
  | .served _ o => some o
  | _ => none

end CallerEvent

inductive CallLog {A O L : Type*} : List (CallerEvent A O) → CallerAt A O L → Prop
  | fresh : CallLog [] .away
  | asking {log : List (CallerEvent A O)} {a : A} :
      CallLog log .away → CallLog (.asked a :: log) (.asking a)
  | inside {log : List (CallerEvent A O)} {a : A} {here : L} :
      CallLog log .away → CallLog (.asked a :: log) (.inside a here)
  | leaving {log : List (CallerEvent A O)} {a : A} {o : O} :
      CallLog log .away → CallLog (.served a o :: .asked a :: log) (.leaving o)
  | left {log : List (CallerEvent A O)} {o : O} :
      CallLog log (.leaving o) → CallLog (.left o :: log) .away

namespace CallLog

variable {A O L : Type*} {log : List (CallerEvent A O)} {a : A} {here : L}

theorem lock (h : CallLog log (.asking a : CallerAt A O L)) (here : L) :
    CallLog log (.inside a here) := by
  cases h with
  | asking h => exact .inside h

theorem goes (h : CallLog log (.inside a here)) (there : L) : CallLog log (.inside a there) := by
  cases h with
  | inside h => exact .inside h

theorem unlock (h : CallLog log (.inside a here)) (o : O) :
    CallLog (.served a o :: log) (.leaving o : CallerAt A O L) := by
  cases h with
  | inside h => exact .leaving h

end CallLog

section

variable {T S A O L : Type*}

namespace Callers

def Inside (c : Callers T S A O L) (t : T) : Prop := ∃ a here, c.callers t = .inside a here

def order (c : Callers T S A O L) : List A := c.log.filterMap fun e => e.2.action

def outcomes (c : Callers T S A O L) : List O := c.log.filterMap fun e => e.2.reply

variable [DecidableEq T] (c : Callers T S A O L)

def callsOf (t : T) : List (CallerEvent A O) :=
  c.log.filterMap fun e => if e.1 = t then some e.2 else none

def move (t : T) (p : CallerAt A O L) (e : Option (CallerEvent A O)) : Callers T S A O L :=
  { c with
    callers := Function.update c.callers t p
    log := (e.map fun e => (t, e)).toList ++ c.log }

end Callers

namespace LockedCode

variable [DecidableEq T] (code : LockedCode S A O L)

def step (c : Callers T S A O L) : CallerStep T A → Option (Callers T S A O L)
  | .ask t a =>
      match c.callers t with
      | .away => some (c.move t (.asking a) (some (.asked a)))
      | _ => none
  | .lock t =>
      match c.callers t, c.owner with
      | .asking a, none => some { c.move t (.inside a (code.enter a)) none with owner := some t }
      | _, _ => none
  | .turn t =>
      match c.callers t with
      | .inside a here =>
          match code.turn (c.shared, here) with
          | .inl (shared, there) => some { c.move t (.inside a there) none with shared := shared }
          | .inr (shared, o) =>
              some { c.move t (.leaving o) (some (.served a o)) with
                shared := shared
                owner := none }
      | _ => none
  | .leave t =>
      match c.callers t with
      | .leaving o => some (c.move t .away (some (.left o)))
      | _ => none

def system (boot : S) : Lts (Callers T S A O L) (CallerStep T A) where
  start c := c = ⟨boot, none, fun _ => .away, []⟩
  step := code.step

def Implements (m : Machine S A O) : Prop :=
  ∀ s a, Ends code.turn (s, code.enter a) (m.step s a)

end LockedCode

variable [DecidableEq T]

inductive CallerMove (code : LockedCode S A O L) (c : Callers T S A O L) :
    Callers T S A O L → Prop
  | ask {t : T} {a : A} (ht : c.callers t = .away) :
      CallerMove code c (c.move t (.asking a) (some (.asked a)))
  | lock {t : T} {a : A} (ht : c.callers t = .asking a) (hfree : c.owner = none) :
      CallerMove code c { c.move t (.inside a (code.enter a)) none with owner := some t }
  | goes {t : T} {a : A} {here there : L} {shared : S} (ht : c.callers t = .inside a here)
      (hturn : code.turn (c.shared, here) = .inl (shared, there)) :
      CallerMove code c { c.move t (.inside a there) none with shared := shared }
  | unlock {t : T} {a : A} {here : L} {shared : S} {o : O} (ht : c.callers t = .inside a here)
      (hturn : code.turn (c.shared, here) = .inr (shared, o)) :
      CallerMove code c { c.move t (.leaving o) (some (.served a o)) with
        shared := shared
        owner := none }
  | leave {t : T} {o : O} (ht : c.callers t = .leaving o) :
      CallerMove code c (c.move t .away (some (.left o)))

theorem caller_move {code : LockedCode S A O L} {c d : Callers T S A O L} {a : CallerStep T A}
    (h : code.step c a = some d) : CallerMove code c d := by
  cases a with
  | ask t a =>
      simp only [LockedCode.step] at h
      split at h
      · next ht => exact Option.some.inj h ▸ .ask ht
      · cases h
  | lock t =>
      simp only [LockedCode.step] at h
      split at h
      · next ht hfree => exact Option.some.inj h ▸ .lock ht hfree
      · cases h
  | turn t =>
      simp only [LockedCode.step] at h
      split at h
      · next ht =>
          split at h
          · next hturn => exact Option.some.inj h ▸ .goes ht hturn
          · next hturn => exact Option.some.inj h ▸ .unlock ht hturn
      · cases h
  | leave t =>
      simp only [LockedCode.step] at h
      split at h
      · next ht => exact Option.some.inj h ▸ .leave ht
      · cases h

namespace Callers

variable (c : Callers T S A O L) (t : T) (p : CallerAt A O L) (e : Option (CallerEvent A O))

theorem move_self : (c.move t p e).callers t = p := Function.update_self ..

theorem move_ne {u : T} (h : u ≠ t) : (c.move t p e).callers u = c.callers u :=
  Function.update_of_ne h ..

theorem callsOf_self : (c.move t p e).callsOf t = e.toList ++ c.callsOf t := by
  cases e with
  | none => rfl
  | some e => simp [callsOf, move]

theorem callsOf_ne {u : T} (h : u ≠ t) : (c.move t p e).callsOf u = c.callsOf u := by
  cases e with
  | none => rfl
  | some e => simp [callsOf, move, h.symm]

theorem callLog_move (h : ∀ u, CallLog (c.callsOf u) (c.callers u))
    (ht : CallLog (e.toList ++ c.callsOf t) p) (u : T) :
    CallLog ((c.move t p e).callsOf u) ((c.move t p e).callers u) := by
  by_cases hu : u = t
  · subst hu
    rw [callsOf_self, move_self]
    exact ht
  · rw [callsOf_ne c t p e hu, move_ne c t p e hu]
    exact h u

end Callers

structure Serialized (code : LockedCode S A O L) (m : Machine S A O)
    (c : Callers T S A O L) : Prop where
  owner : ∀ t, c.Inside t ↔ c.owner = some t
  free : c.owner = none → c.shared = m.after c.order
  inside : ∀ t a here, c.callers t = .inside a here →
    Relation.ReflTransGen (Again code.turn) (m.after c.order, code.enter a) (c.shared, here)
  outcomes : c.outcomes = m.replies c.order
  callLog : ∀ t, CallLog (c.callsOf t) (c.callers t)

namespace Serialized

variable {code : LockedCode S A O L} {m : Machine S A O} {c : Callers T S A O L} {t : T}

theorem start (code : LockedCode S A O L) (m : Machine S A O) :
    Serialized code m (⟨m.boot, none, fun _ => .away, []⟩ : Callers T S A O L) where
  owner t := by simp [Callers.Inside]
  free _ := rfl
  inside t a here h := by cases h
  outcomes := rfl
  callLog _ := .fresh

theorem alone (h : Serialized code m c) {u : T} (ht : c.Inside t) (hu : c.Inside u) : t = u :=
  Option.some.inj (((h.owner t).mp ht).symm.trans ((h.owner u).mp hu))

theorem outside (h : Serialized code m c) {p : CallerAt A O L} {e : CallerEvent A O}
    (ht : ¬ c.Inside t) (hp : ∀ a here, p ≠ .inside a here)
    (haction : e.action = none) (hreply : e.reply = none)
    (hlog : CallLog (e :: c.callsOf t) p) : Serialized code m (c.move t p (some e)) where
  owner u := by
    refine Iff.trans ?_ (h.owner u)
    by_cases hu : u = t
    · subst hu
      refine iff_of_false ?_ ht
      rintro ⟨a, here, hin⟩
      rw [Callers.move_self] at hin
      exact hp a here hin
    · simp only [Callers.Inside, Callers.move_ne c t p _ hu]
  free hfree := by
    have horder : (c.move t p (some e)).order = c.order := by
      simp [Callers.order, Callers.move, haction]
    rw [horder]
    exact h.free hfree
  inside u a here hin := by
    have horder : (c.move t p (some e)).order = c.order := by
      simp [Callers.order, Callers.move, haction]
    by_cases hu : u = t
    · subst hu
      rw [Callers.move_self] at hin
      exact absurd hin (hp a here)
    · rw [Callers.move_ne c t p _ hu] at hin
      rw [horder]
      exact h.inside u a here hin
  outcomes := by
    simpa [Callers.order, Callers.outcomes, Callers.move, haction, hreply] using h.outcomes
  callLog := c.callLog_move t p (some e) h.callLog hlog

theorem ends (h : Serialized code m c) (hcode : code.Implements m) {a : A} {here : L}
    (ht : c.callers t = .inside a here) :
    Ends code.turn (c.shared, here) (m.step (m.after c.order) a) :=
  (hcode (m.after c.order) a).after_turns (h.inside t a here ht)

theorem lock (h : Serialized code m c) {a : A}
    (ht : c.callers t = .asking a) (hfree : c.owner = none) :
    Serialized code m { c.move t (.inside a (code.enter a)) none with owner := some t } where
  owner u := by
    by_cases hu : u = t
    · subst hu
      exact iff_of_true ⟨a, _, c.move_self u _ none⟩ rfl
    · refine iff_of_false ?_ fun heq => hu (Option.some.inj heq).symm
      rintro ⟨b, here, hin⟩
      have hin' : c.Inside u := ⟨b, here, (c.move_ne t _ none hu).symm.trans hin⟩
      rw [h.owner, hfree] at hin'
      cases hin'
  free := nofun
  inside u b here hin := by
    by_cases hu : u = t
    · subst hu
      have heq := (c.move_self u (.inside a (code.enter a)) none).symm.trans hin
      simp only [CallerAt.inside.injEq] at heq
      obtain ⟨rfl, rfl⟩ := heq
      change Relation.ReflTransGen _ (m.after c.order, _) (c.shared, _)
      rw [h.free hfree]
    · have hin' : c.Inside u := ⟨b, here, (c.move_ne t _ none hu).symm.trans hin⟩
      rw [h.owner, hfree] at hin'
      cases hin'
  outcomes := h.outcomes
  callLog := c.callLog_move t _ none h.callLog (by
    have hlog := h.callLog t
    rw [ht] at hlog
    exact hlog.lock _)

theorem goes (h : Serialized code m c) {a : A} {here there : L} {shared : S}
    (ht : c.callers t = .inside a here)
    (hturn : code.turn (c.shared, here) = .inl (shared, there)) :
    Serialized code m { c.move t (.inside a there) none with shared := shared } where
  owner u := by
    refine Iff.trans ?_ (h.owner u)
    by_cases hu : u = t
    · subst hu
      exact iff_of_true ⟨a, there, c.move_self u _ none⟩ ⟨a, here, ht⟩
    · have hsame := c.move_ne t (.inside a there) none hu
      exact exists_congr fun b => exists_congr fun place => by rw [← hsame]
  free hfree := by
    have howner := (h.owner t).mp ⟨a, here, ht⟩
    rw [show c.owner = none from hfree] at howner
    cases howner
  inside u b place hin := by
    by_cases hu : u = t
    · subst hu
      have heq := (c.move_self u (.inside a there) none).symm.trans hin
      simp only [CallerAt.inside.injEq] at heq
      obtain ⟨rfl, rfl⟩ := heq
      exact (h.inside u a here ht).tail hturn
    · have hin' := (c.move_ne t (.inside a there) none hu).symm.trans hin
      exact absurd (h.alone ⟨b, place, hin'⟩ ⟨a, here, ht⟩) hu
  outcomes := h.outcomes
  callLog := c.callLog_move t _ none h.callLog (by
    have hlog := h.callLog t
    rw [ht] at hlog
    exact hlog.goes there)

theorem unlock (h : Serialized code m c) (hcode : code.Implements m) {a : A} {here : L}
    {shared : S} {o : O}
    (ht : c.callers t = .inside a here)
    (hturn : code.turn (c.shared, here) = .inr (shared, o)) :
    Serialized code m { c.move t (.leaving o) (some (.served a o)) with
      shared := shared
      owner := none } := by
  have hdone : m.step (m.after c.order) a = (shared, o) :=
    (h.ends hcode ht).unique (.stop hturn)
  have hout (u : T) : ¬ ∃ b place, (c.move t (.leaving o) (some (.served a o))).callers u =
      .inside b place := by
    rintro ⟨b, place, hin⟩
    by_cases hu : u = t
    · subst hu
      rw [Callers.move_self] at hin
      cases hin
    · rw [c.move_ne t _ _ hu] at hin
      exact hu (h.alone ⟨b, place, hin⟩ ⟨a, here, ht⟩)
  exact {
    owner := fun u => iff_of_false (hout u) nofun
    free := fun _ => by
      change shared = (m.step (m.after c.order) a).1
      rw [hdone]
    inside := fun u b place hin => absurd ⟨b, place, hin⟩ (hout u)
    outcomes := by
      change o :: c.outcomes = (m.step (m.after c.order) a).2 :: m.replies c.order
      rw [hdone, h.outcomes]
    callLog := c.callLog_move t _ _ h.callLog (by
      have hlog := h.callLog t
      rw [ht] at hlog
      exact hlog.unlock o) }

theorem step (h : Serialized code m c) (hcode : code.Implements m) {d : Callers T S A O L}
    (hmove : CallerMove code c d) : Serialized code m d := by
  cases hmove with
  | @ask t a ht =>
      refine h.outside ?_ nofun rfl rfl ?_
      · rintro ⟨b, here, hin⟩
        cases ht.symm.trans hin
      · have hlog := h.callLog t
        rw [ht] at hlog
        exact .asking hlog
  | lock ht hfree => exact h.lock ht hfree
  | goes ht hturn => exact h.goes ht hturn
  | unlock ht hturn => exact h.unlock hcode ht hturn
  | @leave t o ht =>
      refine h.outside ?_ nofun rfl rfl ?_
      · rintro ⟨b, here, hin⟩
        cases ht.symm.trans hin
      · have hlog := h.callLog t
        rw [ht] at hlog
        exact .left hlog

theorem run (hcode : code.Implements m)
    {past : List (Transition (Callers T S A O L) (CallerStep T A))}
    (h : (code.system m.boot).Run past c) : Serialized code m c :=
  h.invariant (P := fun _ => True) (fun _ hc => hc ▸ start code m)
    (fun _ _ _ hs _ hc => hc.step hcode (caller_move hs)) fun _ _ => trivial

theorem gets_out (h : Serialized code m c) (hcode : code.Implements m) (ht : c.Inside t) :
    ∃ n d, (code.system m.boot).exec c (List.replicate n (.turn t)) = some d ∧ d.owner = none := by
  obtain ⟨a, here, hin⟩ := ht
  obtain ⟨fuel, hfuel⟩ := h.ends hcode hin
  induction fuel generalizing c here with
  | zero => cases hfuel
  | succ fuel ih =>
      cases hturn : code.turn (c.shared, here) with
      | inl next =>
          obtain ⟨shared, there⟩ := next
          have hs : (code.system m.boot).step c (.turn t) =
              some { c.move t (.inside a there) none with shared := shared } := by
            simp [LockedCode.system, LockedCode.step, hin, hturn]
          simp only [runLoop, hturn] at hfuel
          obtain ⟨n, d, hexec, hfree⟩ :=
            ih (h.goes hin hturn) there (c.move_self t _ none) hfuel
          exact ⟨n + 1, d, (Lts.exec_cons hs _).trans hexec, hfree⟩
      | inr last =>
          obtain ⟨shared, o⟩ := last
          have hs : (code.system m.boot).step c (.turn t) =
              some { c.move t (.leaving o) (some (.served a o)) with
                shared := shared
                owner := none } := by
            simp [LockedCode.system, LockedCode.step, hin, hturn]
          exact ⟨1, _, Lts.exec_cons hs [], rfl⟩

end Serialized

end

end VitaQmBluetooth.Foundation
