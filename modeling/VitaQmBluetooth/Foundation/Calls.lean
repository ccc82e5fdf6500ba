import Mathlib.Logic.Function.Basic
import VitaQmBluetooth.Foundation.Interleaving

namespace VitaQmBluetooth.Foundation

inductive CallTree (V C R : Type*)
  | returns (vars : V) (ret : R)
  | calls (vars : V) (call : C) (resume : V → Int → CallTree V C R)

structure Surroundings (V C W O : Type*) where
  answered : W → C → Int → Option W
  meanwhile : V × W → O → Option (V × W)

structure CallSpec (V C W : Type*) where
  allowed : W → C → Int → Prop
  during : C → V → W → Prop

variable {V C R T W O : Type*}

def CallTree.bind : CallTree V C R → (V → R → CallTree V C T) → CallTree V C T
  | .returns vars ret, next => next vars ret
  | .calls vars call resume, next => .calls vars call fun vars ret => (resume vars ret).bind next

def CallTree.each {A : Type*} (body : A → V → CallTree V C Unit) : List A → V → CallTree V C Unit
  | [], vars => .returns vars ()
  | item :: rest, vars => (body item vars).bind fun vars _ => CallTree.each body rest vars

namespace Surroundings

variable (M : Surroundings V C W O) (spec : CallSpec V C W)

def Stable (P : V → W → Prop) : Prop :=
  ∀ v w o v' w', M.meanwhile (v, w) o = some (v', w') → P v w → P v' w'

def Suspended (resumed : V → Int → W → Prop) (call : C) (v : V) (w : W) : Prop :=
  ∃ P, M.Stable P ∧ P v w ∧ ∀ v w, P v w → spec.during call v w ∧
    ∀ ret w', spec.allowed w call ret → M.answered w call ret = some w' → resumed v ret w'

def Keeps (post : R → V → W → Prop) : CallTree V C R → W → Prop
  | .returns vars ret, w => post ret vars w
  | .calls vars call resume, w =>
      M.Suspended spec (fun v ret w => Keeps post (resume v ret) w) call vars w

variable {M spec}

namespace Suspended

variable {resumed : V → Int → W → Prop} {call : C} {v : V} {w : W}

theorem during (h : M.Suspended spec resumed call v w) : spec.during call v w := by
  obtain ⟨P, _, hP, hall⟩ := h
  exact (hall v w hP).1

theorem resume (h : M.Suspended spec resumed call v w) {ret : Int} {w' : W}
    (hallowed : spec.allowed w call ret) (hanswer : M.answered w call ret = some w') :
    resumed v ret w' := by
  obtain ⟨P, _, hP, hall⟩ := h
  exact (hall v w hP).2 ret w' hallowed hanswer

theorem after (h : M.Suspended spec resumed call v w) {o : O} {v' : V} {w' : W}
    (hstep : M.meanwhile (v, w) o = some (v', w')) : M.Suspended spec resumed call v' w' := by
  obtain ⟨P, hstable, hP, hall⟩ := h
  exact ⟨P, hstable, hstable v w o v' w' hstep hP, hall⟩

theorem mono (h : M.Suspended spec resumed call v w) {resumed' : V → Int → W → Prop}
    (hmono : ∀ v ret w, resumed v ret w → resumed' v ret w) :
    M.Suspended spec resumed' call v w := by
  obtain ⟨P, hstable, hP, hall⟩ := h
  refine ⟨P, hstable, hP, fun v w hvw => ⟨(hall v w hvw).1, fun ret w' hallowed hanswer => ?_⟩⟩
  exact hmono v ret w' ((hall v w hvw).2 ret w' hallowed hanswer)

end Suspended

theorem Keeps.mono {tree : CallTree V C R} {post post' : R → V → W → Prop} {w : W}
    (h : M.Keeps spec post tree w) (hpost : ∀ ret v w, post ret v w → post' ret v w) :
    M.Keeps spec post' tree w := by
  induction tree generalizing w with
  | returns vars ret => exact hpost ret vars w h
  | calls vars call resume ih => exact Suspended.mono h fun v ret w hres => ih v ret hres

theorem Keeps.bind {tree : CallTree V C R} {next : V → R → CallTree V C T}
    {mid : R → V → W → Prop} {post : T → V → W → Prop} {w : W} (h : M.Keeps spec mid tree w)
    (hnext : ∀ ret v w, mid ret v w → M.Keeps spec post (next v ret) w) :
    M.Keeps spec post (tree.bind next) w := by
  induction tree generalizing w with
  | returns vars ret => exact hnext ret vars w h
  | calls vars call resume ih => exact Suspended.mono h fun v ret w hres => ih v ret hres

theorem Keeps.each {A : Type*} {body : A → V → CallTree V C Unit} (inv : List A → V → W → Prop)
    (hbody : ∀ item rest v w, inv (item :: rest) v w →
      M.Keeps spec (fun _ v w => inv rest v w) (body item v) w)
    {items : List A} {v : V} {w : W} (h : inv items v w) :
    M.Keeps spec (fun _ v w => inv [] v w) (CallTree.each body items v) w := by
  induction items generalizing v w with
  | nil => exact h
  | cons item rest ih => exact (hbody item rest v w h).bind fun _ v w hrest => ih hrest

end Surroundings

structure Held where
  there : Bool
  refused : Bool
  deriving DecidableEq

section

variable {A : Type*} {held : A → Held} {wanted : Bool} {item : A} {todo : List A}

def Held.asked [DecidableEq A] (held : A → Held) (item : A) (wanted : Bool) (ret : Int) :
    A → Held :=
  Function.update held item
    (if ret < 0 then { held item with refused := true } else ⟨wanted, false⟩)

def Done (wanted : Bool) (todo : List A) (held : A → Held) : Prop :=
  ∀ item, item ∉ todo → (held item).refused = true ∨ (held item).there = wanted

theorem Done.unstarted (h : ∀ item, item ∈ todo) : Done wanted todo held :=
  fun item hitem => absurd (h item) hitem

theorem Done.asked [DecidableEq A] {ret : Int} (h : Done wanted (item :: todo) held) :
    Done wanted todo (Held.asked held item wanted ret) := by
  intro other hother
  by_cases hne : other = item
  · subst hne
    rw [Held.asked, Function.update_self]
    split
    · exact .inl rfl
    · exact .inr rfl
  · rw [Held.asked, Function.update_of_ne hne]
    exact h other (List.not_mem_cons_of_ne_of_not_mem hne hother)

end

structure Program (V C R W E O : Type*) extends Surroundings V C W O where
  vars : V
  world : W
  entry : E → V → CallTree V C R
  admits : Option R → E → Bool

structure Program.State (V C R W : Type*) where
  vars : V
  world : W
  pending : Option (C × (V → Int → CallTree V C R))
  last : Option R

inductive Program.Turn (E O : Type*)
  | enter (e : E)
  | answer (ret : Int)
  | meanwhile (o : O)

namespace Program

variable {E : Type*}

def State.call (s : State V C R W) : Option C := s.pending.map Prod.fst

def State.resumed (s : State V C R W) : CallTree V C R → State V C R W
  | .returns vars ret => { s with vars := vars, pending := none, last := some ret }
  | .calls vars call resume => { s with vars := vars, pending := some (call, resume) }

def step (M : Program V C R W E O) (s : State V C R W) : Turn E O → Option (State V C R W)
  | .enter e =>
      if s.pending.isNone ∧ M.admits s.last e = true then some (s.resumed (M.entry e s.vars))
      else none
  | .answer ret =>
      match s.pending with
      | none => none
      | some (call, resume) =>
          (M.answered s.world call ret).map fun world =>
            { s with world := world }.resumed (resume s.vars ret)
  | .meanwhile o =>
      (M.meanwhile (s.vars, s.world) o).map fun x => { s with vars := x.1, world := x.2 }

def lts (M : Program V C R W E O) : Lts (State V C R W) (Turn E O) where
  start s := s = ⟨M.vars, M.world, none, none⟩
  step := M.step

def Allowed (allowed : W → C → Int → Prop) (x : Transition (State V C R W) (Turn E O)) : Prop :=
  match x.before.call, x.act with
  | some call, .answer ret => allowed x.before.world call ret
  | _, _ => True

instance (allowed : W → C → Int → Prop) [∀ w call ret, Decidable (allowed w call ret)]
    (x : Transition (State V C R W) (Turn E O)) : Decidable (Allowed allowed x) := by
  unfold Allowed
  split <;> infer_instance

variable {M : Program V C R W E O} {spec : CallSpec V C W} {rest : Option R → V → W → Prop}

def Standing (M : Program V C R W E O) (spec : CallSpec V C W) (rest : Option R → V → W → Prop)
    (s : State V C R W) : Prop :=
  match s.pending with
  | none => rest s.last s.vars s.world
  | some (call, resume) =>
      M.Suspended spec (fun v ret w => M.Keeps spec (fun r => rest (some r)) (resume v ret) w)
        call s.vars s.world

theorem standing_resumed {s : State V C R W} {tree : CallTree V C R}
    (h : M.Keeps spec (fun r => rest (some r)) tree s.world) :
    M.Standing spec rest (s.resumed tree) := by
  cases tree with
  | returns vars ret => exact h
  | calls vars call resume => exact h

theorem Standing.at_rest {s : State V C R W} (h : M.Standing spec rest s)
    (hnone : s.pending = none) : rest s.last s.vars s.world := by
  rw [Standing, hnone] at h
  exact h

theorem Standing.during {s : State V C R W} (h : M.Standing spec rest s) {call : C}
    (hcall : s.call = some call) : spec.during call s.vars s.world := by
  obtain ⟨⟨_, resume⟩, hpending, rfl⟩ := Option.map_eq_some_iff.mp hcall
  rw [Standing, hpending] at h
  exact Surroundings.Suspended.during h

theorem standing_step (hstable : ∀ r, M.Stable (rest r))
    (hentry : ∀ r e v w, M.admits r e = true → rest r v w →
      M.Keeps spec (fun r => rest (some r)) (M.entry e v) w)
    {s t : State V C R W} {a : Turn E O} (hs : M.step s a = some t)
    (hallowed : Allowed spec.allowed ⟨s, a, t⟩) (h : M.Standing spec rest s) :
    M.Standing spec rest t := by
  cases a with
  | enter e =>
      simp only [step, Option.isNone_iff_eq_none, Option.ite_none_right_eq_some,
        Option.some.injEq] at hs
      obtain ⟨⟨hnone, hadmits⟩, rfl⟩ := hs
      exact standing_resumed (hentry _ e _ _ hadmits (h.at_rest hnone))
  | answer ret =>
      obtain ⟨vars, world, pending, last⟩ := s
      cases pending with
      | none => cases hs
      | some waiting =>
          obtain ⟨world', hanswer, rfl⟩ := Option.map_eq_some_iff.mp hs
          exact standing_resumed (Surroundings.Suspended.resume h hallowed hanswer)
  | meanwhile o =>
      obtain ⟨⟨v', w'⟩, hstep, rfl⟩ := Option.map_eq_some_iff.mp hs
      obtain ⟨vars, world, pending, last⟩ := s
      cases pending with
      | none => exact hstable last vars world o v' w' hstep h
      | some waiting => exact Surroundings.Suspended.after h hstep

theorem standing_run (hboot : rest none M.vars M.world) (hstable : ∀ r, M.Stable (rest r))
    (hentry : ∀ r e v w, M.admits r e = true → rest r v w →
      M.Keeps spec (fun r => rest (some r)) (M.entry e v) w)
    {past : List (Transition (State V C R W) (Turn E O))} {s : State V C R W}
    (hrun : M.lts.Run past s) (hallowed : ∀ x ∈ past, Allowed spec.allowed x) :
    M.Standing spec rest s := by
  refine hrun.invariant (fun s hs => ?_) (fun s a t hs hx h => ?_) hallowed
  · obtain rfl := hs
    exact hboot
  · exact standing_step hstable hentry hs hx h

end Program

end VitaQmBluetooth.Foundation
