import Mathlib.Logic.Function.Basic
import VitaQmBluetooth.Foundation.Interleaving
import VitaQmBluetooth.Interface.Vqmbt

namespace VitaQmBluetooth

open Foundation

structure ThreadVars where
  uidThread : Int
  runThread : Bool
  deriving DecidableEq

inductive ThreadCall where
  | createThread
  | startThread (uid : Int)
  | waitThreadEnd (uid : Int)
  | deleteThread (uid : Int)
  deriving DecidableEq

inductive ThreadProc where
  | returns (vars : ThreadVars) (ret : Option Int)
  | calls (vars : ThreadVars) (call : ThreadCall) (resume : Int → ThreadProc)

def eventStart (ok failed : Option Int) (vars : ThreadVars) : ThreadProc :=
  if 0 ≤ vars.uidThread then .returns vars ok
  else
    let vars := { vars with runThread := true }
    .calls vars .createThread fun uid =>
      let vars := { vars with uidThread := uid }
      if uid < 0 then .returns vars failed
      else .calls vars (.startThread uid) fun _ => .returns vars ok

def eventStop (ok : Option Int) (vars : ThreadVars) : ThreadProc :=
  if vars.uidThread < 0 then .returns vars ok
  else
    let vars := { vars with runThread := false }
    .calls vars (.waitThreadEnd vars.uidThread) fun _ =>
      .calls vars (.deleteThread vars.uidThread) fun _ =>
        .returns { vars with uidThread := -1 } ok

def kmodEventStart : ThreadVars → ThreadProc := eventStart none none

def kmodEventStop : ThreadVars → ThreadProc := eventStop none

def btEventStart : ThreadVars → ThreadProc :=
  eventStart (some 0) (some VqmbtError.kernelSide.code)

def btEventStop : ThreadVars → ThreadProc := eventStop (some 0)

inductive EventModule where
  | kmodEvent
  | btEvent
  deriving DecidableEq, Repr

namespace EventModule

def success : EventModule → Option Int
  | .kmodEvent => none
  | .btEvent => some 0

def failure : EventModule → Option Int
  | .kmodEvent => none
  | .btEvent => some VqmbtError.kernelSide.code

def start : EventModule → ThreadVars → ThreadProc
  | .kmodEvent => kmodEventStart
  | .btEvent => btEventStart

def stop : EventModule → ThreadVars → ThreadProc
  | .kmodEvent => kmodEventStop
  | .btEvent => btEventStop

theorem start_eq (m : EventModule) : m.start = eventStart m.success m.failure := by
  cases m <;> rfl

theorem stop_eq (m : EventModule) : m.stop = eventStop m.success := by cases m <;> rfl

end EventModule

inductive Entry where
  | start
  | stop
  deriving DecidableEq, Repr

inductive ThreadStatus where
  | created
  | running
  | leaving
  | ended
  deriving DecidableEq, Repr

abbrev Threads := Int → Option ThreadStatus

namespace Threads

def set (threads : Threads) (uid : Int) (status : Option ThreadStatus) : Threads :=
  Function.update threads uid status

theorem set_self (threads : Threads) (uid : Int) (status : Option ThreadStatus) :
    threads.set uid status uid = status := Function.update_self ..

theorem set_ne (threads : Threads) {uid other : Int} (status : Option ThreadStatus)
    (h : uid ≠ other) : threads.set other status uid = threads uid := Function.update_of_ne h ..

def Working (threads : Threads) (uid : Int) : Prop :=
  threads uid = some .running ∨ threads uid = some .leaving

instance (threads : Threads) (uid : Int) : Decidable (threads.Working uid) :=
  inferInstanceAs (Decidable (_ ∨ _))

def alive (threads : Threads) : Set Int :=
  {uid | threads uid = some .created ∨ threads.Working uid}

-- What a kernel call may answer and does to the threads: each may fail at any time.
def answered (threads : Threads) : ThreadCall → Int → Option Threads
  | .createThread, ret =>
      if ret < 0 then some threads
      else if threads ret = none then some (threads.set ret (some .created))
      else none
  | .startThread uid, ret =>
      if ret < 0 then some threads else some (threads.set uid (some .running))
  | .waitThreadEnd uid, ret =>
      if ret < 0 ∨ ¬ threads.Working uid then some threads else none
  | .deleteThread uid, ret =>
      if ret < 0 then some threads else some (threads.set uid none)

section

variable {threads after : Threads} {uid ret : Int}

theorem answered_create (h : threads.answered .createThread ret = some after) :
    ret < 0 ∧ after = threads ∨
      0 ≤ ret ∧ threads ret = none ∧ after = threads.set ret (some .created) := by
  simp only [answered] at h
  split at h
  · rename_i hret
    exact .inl ⟨hret, (Option.some.inj h).symm⟩
  · rename_i hret
    simp only [Option.ite_none_right_eq_some, Option.some.injEq] at h
    exact .inr ⟨Int.not_lt.mp hret, h.1, h.2.symm⟩

theorem answered_start (h : threads.answered (.startThread uid) ret = some after) :
    ret < 0 ∧ after = threads ∨ 0 ≤ ret ∧ after = threads.set uid (some .running) := by
  simp only [answered] at h
  split at h
  · rename_i hret
    exact .inl ⟨hret, (Option.some.inj h).symm⟩
  · rename_i hret
    exact .inr ⟨Int.not_lt.mp hret, (Option.some.inj h).symm⟩

theorem answered_wait (h : threads.answered (.waitThreadEnd uid) ret = some after) :
    (ret < 0 ∨ ¬ threads.Working uid) ∧ after = threads := by
  simp only [answered, Option.ite_none_right_eq_some, Option.some.injEq] at h
  exact ⟨h.1, h.2.symm⟩

theorem answered_delete (h : threads.answered (.deleteThread uid) ret = some after) :
    ret < 0 ∧ after = threads ∨ 0 ≤ ret ∧ after = threads.set uid none := by
  simp only [answered] at h
  split at h
  · rename_i hret
    exact .inl ⟨hret, (Option.some.inj h).symm⟩
  · rename_i hret
    exact .inr ⟨Int.not_lt.mp hret, (Option.some.inj h).symm⟩

end

end Threads

structure ThreadSystem where
  vars : ThreadVars
  pending : Option (Entry × ThreadCall × (Int → ThreadProc))
  threads : Threads
  returned : Option (Entry × Option Int)

def ThreadSystem.resumed (s : ThreadSystem) (entry : Entry) : ThreadProc → ThreadSystem
  | .returns vars ret =>
      { s with vars := vars, pending := none, returned := some (entry, ret) }
  | .calls vars call resume =>
      { s with vars := vars, pending := some (entry, call, resume), returned := none }

inductive ThreadAct where
  | start
  | stop
  | answer (ret : Int)
  | leave (uid : Int)
  | finish (uid : Int)
  deriving DecidableEq

def threadStep (m : EventModule) (s : ThreadSystem) : ThreadAct → Option ThreadSystem
  | .start => if s.pending.isSome then none else some (s.resumed .start (m.start s.vars))
  | .stop => if s.pending.isSome then none else some (s.resumed .stop (m.stop s.vars))
  | .answer ret =>
      match s.pending with
      | none => none
      | some (entry, call, resume) =>
          (s.threads.answered call ret).map fun threads =>
            { s with threads := threads }.resumed entry (resume ret)
  -- The listener of bt_event.c leaves only when told to, that of kmod_event.c also on an error.
  | .leave uid =>
      if s.threads uid = some .running ∧ (m = .kmodEvent ∨ s.vars.runThread = false) then
        some { s with
          threads := s.threads.set uid (some .leaving)
          returned := none }
      else none
  | .finish uid =>
      if s.threads uid = some .leaving then
        some { s with
          threads := s.threads.set uid (some .ended)
          returned := none }
      else none

def threadBoot : ThreadSystem := ⟨⟨-1, false⟩, none, fun _ => none, none⟩

def threadSystem (m : EventModule) : Lts ThreadSystem ThreadAct where
  start s := s = threadBoot
  step := threadStep m

inductive ThreadPoint where
  | idle
  | creating
  | starting
  | waiting
  | deleting
  deriving DecidableEq, Repr

def ThreadPoint.pending (m : EventModule) (vars : ThreadVars) :
    ThreadPoint → Option (Entry × ThreadCall × (Int → ThreadProc))
  | .idle => none
  | .creating => some (.start, .createThread, fun uid =>
      if uid < 0 then .returns { vars with uidThread := uid } m.failure
      else .calls { vars with uidThread := uid } (.startThread uid) fun _ =>
        .returns { vars with uidThread := uid } m.success)
  | .starting => some (.start, .startThread vars.uidThread, fun _ => .returns vars m.success)
  | .waiting => some (.stop, .waitThreadEnd vars.uidThread, fun _ =>
      .calls vars (.deleteThread vars.uidThread) fun _ =>
        .returns { vars with uidThread := -1 } m.success)
  | .deleting => some (.stop, .deleteThread vars.uidThread, fun _ =>
      .returns { vars with uidThread := -1 } m.success)

def ThreadPoint.Holds (vars : ThreadVars) : ThreadPoint → Prop
  | .idle => True
  | .creating => vars.uidThread < 0 ∧ vars.runThread = true
  | .starting => 0 ≤ vars.uidThread ∧ vars.runThread = true
  | .waiting => 0 ≤ vars.uidThread ∧ vars.runThread = false
  | .deleting => 0 ≤ vars.uidThread ∧ vars.runThread = false

structure ThreadSystem.At (m : EventModule) (s : ThreadSystem) (p : ThreadPoint) : Prop where
  pending : s.pending = p.pending m s.vars
  holds : p.Holds s.vars

inductive LifecycleMove (m : EventModule) (s : ThreadSystem) :
    ThreadPoint → ThreadAct → ThreadPoint → ThreadVars → Threads →
      Option (Entry × Option Int) → Prop
  | startOwned (h : 0 ≤ s.vars.uidThread) :
      LifecycleMove m s .idle .start .idle s.vars s.threads (some (.start, m.success))
  | startCreates (h : s.vars.uidThread < 0) :
      LifecycleMove m s .idle .start .creating { s.vars with runThread := true } s.threads none
  | createFails {ret : Int} (hret : ret < 0) :
      LifecycleMove m s .creating (.answer ret) .idle { s.vars with uidThread := ret } s.threads
        (some (.start, m.failure))
  | creates {ret : Int} (hret : 0 ≤ ret) (hfresh : s.threads ret = none) :
      LifecycleMove m s .creating (.answer ret) .starting { s.vars with uidThread := ret }
        (s.threads.set ret (some .created)) none
  | startFails {ret : Int} (hret : ret < 0) :
      LifecycleMove m s .starting (.answer ret) .idle s.vars s.threads (some (.start, m.success))
  | starts {ret : Int} (hret : 0 ≤ ret) :
      LifecycleMove m s .starting (.answer ret) .idle s.vars
        (s.threads.set s.vars.uidThread (some .running)) (some (.start, m.success))
  | stopUnowned (h : s.vars.uidThread < 0) :
      LifecycleMove m s .idle .stop .idle s.vars s.threads (some (.stop, m.success))
  | stopWaits (h : 0 ≤ s.vars.uidThread) :
      LifecycleMove m s .idle .stop .waiting { s.vars with runThread := false } s.threads none
  | waits {ret : Int} (hret : ret < 0 ∨ ¬ s.threads.Working s.vars.uidThread) :
      LifecycleMove m s .waiting (.answer ret) .deleting s.vars s.threads none
  | deleteFails {ret : Int} (hret : ret < 0) :
      LifecycleMove m s .deleting (.answer ret) .idle { s.vars with uidThread := -1 } s.threads
        (some (.stop, m.success))
  | deletes {ret : Int} (hret : 0 ≤ ret) :
      LifecycleMove m s .deleting (.answer ret) .idle { s.vars with uidThread := -1 }
        (s.threads.set s.vars.uidThread none) (some (.stop, m.success))
  | leaves {p : ThreadPoint} {uid : Int} (huid : s.threads uid = some .running)
      (htold : m = .kmodEvent ∨ s.vars.runThread = false) :
      LifecycleMove m s p (.leave uid) p s.vars
        (s.threads.set uid (some .leaving)) none
  | finishes {p : ThreadPoint} {uid : Int} (huid : s.threads uid = some .leaving) :
      LifecycleMove m s p (.finish uid) p s.vars
        (s.threads.set uid (some .ended)) none

theorem start_move {m : EventModule} {s t : ThreadSystem}
    (h : t = s.resumed .start (m.start s.vars)) :
    ∃ q, t.At m q ∧ LifecycleMove m s .idle .start q t.vars t.threads t.returned := by
  rw [m.start_eq, eventStart] at h
  split at h
  · rename_i howned
    subst h
    exact ⟨.idle, ⟨rfl, trivial⟩, .startOwned howned⟩
  · rename_i howned
    subst h
    have hnone : s.vars.uidThread < 0 := Int.not_le.mp howned
    exact ⟨.creating, ⟨rfl, hnone, rfl⟩, .startCreates hnone⟩

theorem stop_move {m : EventModule} {s t : ThreadSystem}
    (h : t = s.resumed .stop (m.stop s.vars)) :
    ∃ q, t.At m q ∧ LifecycleMove m s .idle .stop q t.vars t.threads t.returned := by
  rw [m.stop_eq, eventStop] at h
  split at h
  · rename_i hnone
    subst h
    exact ⟨.idle, ⟨rfl, trivial⟩, .stopUnowned hnone⟩
  · rename_i hnone
    subst h
    have howned : 0 ≤ s.vars.uidThread := Int.not_lt.mp hnone
    exact ⟨.waiting, ⟨rfl, howned, rfl⟩, .stopWaits howned⟩

theorem threadStep_answer {m : EventModule} {s t : ThreadSystem} {entry : Entry}
    {call : ThreadCall} {resume : Int → ThreadProc} {ret : Int}
    (hpending : s.pending = some (entry, call, resume))
    (h : threadStep m s (.answer ret) = some t) :
    ∃ threads, s.threads.answered call ret = some threads ∧
      { s with threads := threads }.resumed entry (resume ret) = t := by
  simp only [threadStep, hpending] at h
  exact Option.map_eq_some_iff.mp h

theorem answer_move {m : EventModule} {s t : ThreadSystem} {p : ThreadPoint} {ret : Int}
    (hp : s.At m p) (h : threadStep m s (.answer ret) = some t) :
    ∃ q, t.At m q ∧ LifecycleMove m s p (.answer ret) q t.vars t.threads t.returned := by
  cases p with
  | idle => simp [threadStep, hp.pending, ThreadPoint.pending] at h
  | creating =>
      obtain ⟨threads, hanswer, rfl⟩ := threadStep_answer hp.pending h
      rcases Threads.answered_create hanswer with ⟨hret, rfl⟩ | ⟨hret, hfresh, rfl⟩
      · rw [if_pos hret]
        exact ⟨.idle, ⟨rfl, trivial⟩, .createFails hret⟩
      · rw [if_neg (Int.not_lt.mpr hret)]
        exact ⟨.starting, ⟨rfl, hret, hp.holds.2⟩, .creates hret hfresh⟩
  | starting =>
      obtain ⟨threads, hanswer, rfl⟩ := threadStep_answer hp.pending h
      rcases Threads.answered_start hanswer with ⟨hret, rfl⟩ | ⟨hret, rfl⟩
      · exact ⟨.idle, ⟨rfl, trivial⟩, .startFails hret⟩
      · exact ⟨.idle, ⟨rfl, trivial⟩, .starts hret⟩
  | waiting =>
      obtain ⟨threads, hanswer, rfl⟩ := threadStep_answer hp.pending h
      obtain ⟨hret, rfl⟩ := Threads.answered_wait hanswer
      exact ⟨.deleting, ⟨rfl, hp.holds⟩, .waits hret⟩
  | deleting =>
      obtain ⟨threads, hanswer, rfl⟩ := threadStep_answer hp.pending h
      rcases Threads.answered_delete hanswer with ⟨hret, rfl⟩ | ⟨hret, rfl⟩
      · exact ⟨.idle, ⟨rfl, trivial⟩, .deleteFails hret⟩
      · exact ⟨.idle, ⟨rfl, trivial⟩, .deletes hret⟩

theorem ThreadSystem.At.idle {m : EventModule} {s : ThreadSystem} {p : ThreadPoint}
    (hp : s.At m p) (h : ¬ s.pending.isSome) : p = .idle := by
  rw [hp.pending] at h
  cases p with
  | idle => rfl
  | _ => exact absurd rfl h

theorem threadStep_move {m : EventModule} {s t : ThreadSystem} {p : ThreadPoint} {a : ThreadAct}
    (hp : s.At m p) (h : threadStep m s a = some t) :
    ∃ q, t.At m q ∧ LifecycleMove m s p a q t.vars t.threads t.returned := by
  cases a with
  | start =>
      simp only [threadStep, Option.ite_none_left_eq_some, Option.some.injEq] at h
      obtain rfl := hp.idle h.1
      exact start_move h.2.symm
  | stop =>
      simp only [threadStep, Option.ite_none_left_eq_some, Option.some.injEq] at h
      obtain rfl := hp.idle h.1
      exact stop_move h.2.symm
  | answer ret => exact answer_move hp h
  | leave uid =>
      simp only [threadStep, Option.ite_none_right_eq_some, Option.some.injEq] at h
      obtain ⟨⟨huid, htold⟩, rfl⟩ := h
      exact ⟨p, ⟨hp.pending, hp.holds⟩, .leaves huid htold⟩
  | finish uid =>
      simp only [threadStep, Option.ite_none_right_eq_some, Option.some.injEq] at h
      obtain ⟨huid, rfl⟩ := h
      exact ⟨p, ⟨hp.pending, hp.holds⟩, .finishes huid⟩

end VitaQmBluetooth
