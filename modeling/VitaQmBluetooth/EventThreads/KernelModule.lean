import VitaQmBluetooth.EventThreads.Hosting
import VitaQmBluetooth.UmodCallback.EventFlag

namespace VitaQmBluetooth

open Foundation

structure KernelVars where
  thread : ThreadVars
  flag : EventFlag

inductive KernelCall where
  | thread (call : ThreadCall)
  | createEventFlag
  | deleteUserUid (pid puid : Int)
  | deleteEventFlag (uid : Int)
  deriving DecidableEq

abbrev KernelTree := CallTree KernelVars KernelCall

-- Of the event flags that exist, undeleted has those that could once not be deleted; a thread is
-- signalling from its look at event_flag_uid until its call of ksceKernelSetEventFlag.
structure KernelObjects where
  threads : Threads
  eventFlags : List Int
  undeleted : List Int
  signalling : List Int

def kernelHost : ThreadHost KernelVars KernelCall KernelObjects where
  thread vars := vars.thread
  setThread vars thread := { vars with thread := thread }
  threads k := k.threads
  setThreads k threads := { k with threads := threads }
  call := .thread
  threadCall
    | .thread call => some call
    | _ => none
  thread_setThread _ _ := rfl
  threads_setThreads _ _ := rfl
  threadCall_call _ := rfl

def umodCbStart (vars : KernelVars) : KernelTree Int :=
  .calls vars .createEventFlag fun vars uid =>
    let vars := { vars with flag.eventFlagUid := uid }
    if vars.flag.eventFlagUid < 0 then .returns vars VqmbtError.kernelSide.code
    else .returns vars 0

def unwrapEventFlag (vars : KernelVars) : KernelTree Unit :=
  if vars.flag.eventFlagPuid < 0 then .returns vars ()
  else .calls vars (.deleteUserUid vars.flag.eventFlagUserPid vars.flag.eventFlagPuid)
    fun vars ret =>
      if ret < 0 then .returns vars ()
      else .returns { vars with flag.eventFlagPuid := -1, flag.eventFlagUserPid := -1 } ()

def umodCbStop (vars : KernelVars) : KernelTree Int :=
  (unwrapEventFlag vars).bind fun vars _ =>
    if vars.flag.eventFlagUid ≥ 0 then
      .calls vars (.deleteEventFlag vars.flag.eventFlagUid) fun vars ret =>
        if ret < 0 then .returns vars VqmbtError.kernelSide.code
        else .returns { vars with flag.eventFlagUid := -1 } 0
    else .returns vars 0

inductive ModuleResult where
  | startSuccess
  | startFailed
  | stopSuccess
  | stopFail
  deriving DecidableEq, Repr

def moduleStart (vars : KernelVars) : KernelTree ModuleResult :=
  (umodCbStart vars).bind fun vars ret =>
    if ret < 0 then .returns vars .startFailed
    else ((btEventStart vars.thread).within kernelHost vars).bind fun vars ret =>
      if ret.any (· < 0) then
        (umodCbStop vars).bind fun vars _ => .returns vars .startFailed
      else .returns vars .startSuccess

def moduleStop (vars : KernelVars) : KernelTree ModuleResult :=
  ((btEventStop vars.thread).within kernelHost vars).bind fun vars ret =>
    let failed := ret.any (· < 0)
    (umodCbStop vars).bind fun vars ret =>
      .returns vars (if failed = true ∨ ret < 0 then .stopFail else .stopSuccess)

def KernelObjects.answered (k : KernelObjects) : KernelCall → Int → Option KernelObjects
  | .thread call, ret =>
      (k.threads.answered call ret).map fun threads => { k with threads := threads }
  | .createEventFlag, ret =>
      if ret < 0 then some k
      else if ret ∈ k.eventFlags then none
      else some { k with eventFlags := ret :: k.eventFlags }
  | .deleteUserUid _ _, _ => some k
  | .deleteEventFlag uid, ret =>
      if ret < 0 then some { k with undeleted := uid :: k.undeleted }
      else if uid ∈ k.eventFlags then
        some { k with
          eventFlags := k.eventFlags.filter (· ≠ uid)
          undeleted := k.undeleted.filter (· ≠ uid) }
      else none

-- What the listener of bt_event.c does by itself, and the two syscalls of the user module.
inductive KernelOther where
  | check (uid : Int)
  | signal (uid : Int)
  | leave (uid : Int)
  | finish (uid : Int)
  | getWrapped (pidRet createRet : Int)
  | unwrap (deleteRet : Int)
  deriving DecidableEq

def kernelMeanwhile : KernelVars × KernelObjects → KernelOther →
    Option (KernelVars × KernelObjects)
  | (v, k), .check uid =>
      if k.threads uid = some .running ∧ 0 ≤ v.flag.eventFlagUid then
        some (v, { k with signalling := uid :: k.signalling })
      else none
  | (v, k), .signal uid =>
      if uid ∈ k.signalling then
        some (v, { k with signalling := k.signalling.filter (· ≠ uid) })
      else none
  | (v, k), .leave uid =>
      if k.threads uid = some .running ∧ uid ∉ k.signalling ∧ v.thread.runThread = false then
        some (v, { k with threads := k.threads.set uid (some .leaving) })
      else none
  | (v, k), .finish uid =>
      if k.threads uid = some .leaving then
        some (v, { k with threads := k.threads.set uid (some .ended) })
      else none
  | (v, k), .getWrapped pidRet createRet =>
      some ({ v with flag := (kvqmbtGetWrappedEventFlag pidRet createRet v.flag).1 }, k)
  | (v, k), .unwrap deleteRet =>
      some ({ v with flag := (kvqmbtUnwrapEventFlag deleteRet v.flag).1 }, k)

-- A module is started only when it is not, and stopped only when it is.
def kernelModule : Program KernelVars KernelCall ModuleResult KernelObjects Entry KernelOther where
  answered := KernelObjects.answered
  meanwhile := kernelMeanwhile
  vars := ⟨⟨-1, false⟩, ⟨-1, -1, -1⟩⟩
  world := ⟨fun _ => none, [], [], []⟩
  entry
    | .start => moduleStart
    | .stop => moduleStop
  admits
    | none, .start | some .startFailed, .start | some .stopSuccess, .start => true
    | some .startSuccess, .stop | some .stopFail, .stop => true
    | _, _ => false

abbrev KernelModule := Program.State KernelVars KernelCall ModuleResult KernelObjects

abbrev KernelTurn := Program.Turn Entry KernelOther

structure KernelModuleSafe (s : KernelModule) : Prop where
  signals : ∀ uid, s.world.threads.Working uid → s.vars.flag.eventFlagUid ∈ s.world.eventFlags
  signalling : ∀ uid ∈ s.world.signalling, s.world.threads uid = some .running
  deletes : ∀ uid, s.call = some (.deleteEventFlag uid) →
    ∀ thread, ¬ s.world.threads.Working thread
  stopped : s.call = none → s.last ≠ some .startSuccess →
    ∀ thread, ¬ s.world.threads.Working thread
  ready : s.call = none → s.last = some .startSuccess ∨ s.last = some .stopFail →
    s.vars.flag.eventFlagUid ∈ s.world.eventFlags ∧ ∀ pidRet createRet : Int,
      0 ≤ pidRet → 0 ≤ createRet →
        0 ≤ (kvqmbtGetWrappedEventFlag pidRet createRet s.vars.flag).2.ret
  kept : ∀ uid ∈ s.world.eventFlags,
    uid = s.vars.flag.eventFlagUid ∨ uid ∈ s.world.undeleted
  cleaned : s.call = none → s.last = some .stopSuccess → s.vars.flag.eventFlagUid = -1

structure FlagReady (v : KernelVars) (k : KernelObjects) : Prop where
  nonneg : 0 ≤ v.flag.eventFlagUid
  held : v.flag.eventFlagUid ∈ k.eventFlags
  others : ∀ uid ∈ k.eventFlags, uid = v.flag.eventFlagUid ∨ uid ∈ k.undeleted

def KernelObjects.AllUndeleted (k : KernelObjects) : Prop := ∀ uid ∈ k.eventFlags, uid ∈ k.undeleted

def kernelDuring (call : KernelCall) (v : KernelVars) (k : KernelObjects) : Prop :=
  k.threads.AllRun k.signalling ∧ match call with
    | .createEventFlag => k.AllUndeleted ∧ k.threads.Quiet
    | .thread (.waitThreadEnd uid) => FlagReady v k ∧ k.threads.OnlyWorks uid
    | _ => FlagReady v k ∧ k.threads.Quiet

def kernelSpec : CallSpec KernelVars KernelCall KernelObjects where
  allowed := kernelHost.WaitEnded
  during := kernelDuring

def kernelRest (last : Option ModuleResult) (v : KernelVars) (k : KernelObjects) : Prop :=
  k.threads.AllRun k.signalling ∧ match last with
    | some .startSuccess =>
        FlagReady v k ∧ 0 ≤ v.thread.uidThread ∧ k.threads.OnlyWorks v.thread.uidThread
    | some .stopFail => FlagReady v k ∧ v.thread.uidThread < 0 ∧ k.threads.Quiet
    | _ => k.AllUndeleted ∧ v.thread.uidThread < 0 ∧ k.threads.Quiet ∧
        (last = some .stopSuccess → v.flag.eventFlagUid = -1)

structure Undisturbed (v v' : KernelVars) (k k' : KernelObjects) : Prop where
  thread : v'.thread = v.thread
  eventFlagUid : v'.flag.eventFlagUid = v.flag.eventFlagUid
  eventFlags : k'.eventFlags = k.eventFlags
  undeleted : k'.undeleted = k.undeleted
  working : ∀ uid, k'.threads.Working uid → k.threads.Working uid
  signals : k.threads.AllRun k.signalling → k'.threads.AllRun k'.signalling

section

variable {v v' : KernelVars} {k k' : KernelObjects} {o : KernelOther}

theorem getWrapped_eventFlagUid (pidRet createRet : Int) (flag : EventFlag) :
    (kvqmbtGetWrappedEventFlag pidRet createRet flag).1.eventFlagUid = flag.eventFlagUid := by
  simp only [kvqmbtGetWrappedEventFlag]
  split_ifs <;> rfl

theorem unwrap_eventFlagUid (deleteRet : Int) (flag : EventFlag) :
    (kvqmbtUnwrapEventFlag deleteRet flag).1.eventFlagUid = flag.eventFlagUid := by
  simp only [kvqmbtUnwrapEventFlag]
  split_ifs <;> rfl

theorem meanwhile_undisturbed (h : kernelMeanwhile (v, k) o = some (v', k')) :
    Undisturbed v v' k k' := by
  cases o with
  | check uid =>
      simp only [kernelMeanwhile, Option.ite_none_right_eq_some, Option.some.injEq,
        Prod.mk.injEq] at h
      obtain ⟨⟨hrunning, _⟩, rfl, rfl⟩ := h
      refine ⟨rfl, rfl, rfl, rfl, fun _ => id, fun hsignals other hother => ?_⟩
      rcases List.mem_cons.mp hother with rfl | hold
      · exact hrunning
      · exact hsignals other hold
  | signal uid =>
      simp only [kernelMeanwhile, Option.ite_none_right_eq_some, Option.some.injEq,
        Prod.mk.injEq] at h
      obtain ⟨_, rfl, rfl⟩ := h
      refine ⟨rfl, rfl, rfl, rfl, fun _ => id, fun hsignals other hother => ?_⟩
      exact hsignals other (List.mem_filter.mp hother).1
  | leave uid =>
      simp only [kernelMeanwhile, Option.ite_none_right_eq_some, Option.some.injEq,
        Prod.mk.injEq] at h
      obtain ⟨⟨hrunning, hout, _⟩, rfl, rfl⟩ := h
      exact ⟨rfl, rfl, rfl, rfl, fun other => Threads.working_set (.inl hrunning),
        fun hs => hs.set hout⟩
  | finish uid =>
      simp only [kernelMeanwhile, Option.ite_none_right_eq_some, Option.some.injEq,
        Prod.mk.injEq] at h
      obtain ⟨hleaving, rfl, rfl⟩ := h
      refine ⟨rfl, rfl, rfl, rfl, fun other => Threads.working_set (.inr hleaving),
        fun hs => hs.set ?_⟩
      intro hsignalling
      simp [hs uid hsignalling] at hleaving
  | getWrapped pidRet createRet =>
      simp only [kernelMeanwhile, Option.some.injEq, Prod.mk.injEq] at h
      obtain ⟨rfl, rfl⟩ := h
      exact ⟨rfl, getWrapped_eventFlagUid .., rfl, rfl, fun _ => id, id⟩
  | unwrap deleteRet =>
      simp only [kernelMeanwhile, Option.some.injEq, Prod.mk.injEq] at h
      obtain ⟨rfl, rfl⟩ := h
      exact ⟨rfl, unwrap_eventFlagUid .., rfl, rfl, fun _ => id, id⟩

namespace Undisturbed

theorem quiet (h : Undisturbed v v' k k') (hquiet : k.threads.Quiet) : k'.threads.Quiet :=
  fun uid hworks => hquiet uid (h.working uid hworks)

theorem allUndeleted (h : Undisturbed v v' k k') (hall : k.AllUndeleted) : k'.AllUndeleted := by
  intro uid huid
  rw [h.eventFlags] at huid
  rw [h.undeleted]
  exact hall uid huid

theorem flagReady (h : Undisturbed v v' k k') (hready : FlagReady v k) : FlagReady v' k' where
  nonneg := h.eventFlagUid ▸ hready.nonneg
  held := by
    rw [h.eventFlagUid, h.eventFlags]
    exact hready.held
  others := by
    rw [h.eventFlagUid, h.eventFlags, h.undeleted]
    exact hready.others

theorem during (h : Undisturbed v v' k k') {call : KernelCall} (hcall : kernelDuring call v k) :
    kernelDuring call v' k' := by
  refine ⟨h.signals hcall.1, ?_⟩
  have hfinds := hcall.2
  split at hfinds
  · exact ⟨h.allUndeleted hfinds.1, h.quiet hfinds.2⟩
  · exact ⟨h.flagReady hfinds.1, fun other hworks => hfinds.2 other (h.working other hworks)⟩
  · exact ⟨h.flagReady hfinds.1, h.quiet hfinds.2⟩

theorem rest (h : Undisturbed v v' k k') {last : Option ModuleResult}
    (hrest : kernelRest last v k) : kernelRest last v' k' := by
  refine ⟨h.signals hrest.1, ?_⟩
  have hfinds := hrest.2
  split at hfinds
  · rw [h.thread]
    exact ⟨h.flagReady hfinds.1, hfinds.2.1,
      fun uid hworks => hfinds.2.2 uid (h.working uid hworks)⟩
  · rw [h.thread]
    exact ⟨h.flagReady hfinds.1, hfinds.2.1, h.quiet hfinds.2.2⟩
  · rw [h.thread, h.eventFlagUid]
    exact ⟨h.allUndeleted hfinds.1, hfinds.2.1, h.quiet hfinds.2.2.1, hfinds.2.2.2⟩

end Undisturbed

theorem keeps_calls {R : Type} {post : R → KernelVars → KernelObjects → Prop} {call : KernelCall}
    {resume : KernelVars → Int → KernelTree R} (hcall : kernelDuring call v k)
    (hresume : ∀ v' k' ret k'', v'.thread = v.thread →
      v'.flag.eventFlagUid = v.flag.eventFlagUid → kernelDuring call v' k' →
      kernelSpec.allowed k' call ret → k'.answered call ret = some k'' →
      kernelModule.Keeps kernelSpec post (resume v' ret) k'') :
    kernelModule.Keeps kernelSpec post (.calls v call resume) k := by
  refine ⟨fun v' k' => v'.thread = v.thread ∧ v'.flag.eventFlagUid = v.flag.eventFlagUid ∧
    kernelDuring call v' k', ?_, ⟨rfl, rfl, hcall⟩, ?_⟩
  · rintro v₁ k₁ o v₂ k₂ hstep ⟨hthread, hflag, hfinds⟩
    have h := meanwhile_undisturbed hstep
    exact ⟨h.thread.trans hthread, h.eventFlagUid.trans hflag, h.during hfinds⟩
  · rintro v' k' ⟨hthread, hflag, hfinds⟩
    exact ⟨hfinds, fun ret k'' hallowed hanswer =>
      hresume v' k' ret k'' hthread hflag hfinds hallowed hanswer⟩

theorem FlagReady.threads (h : FlagReady v k) (thread : ThreadVars) (threads : Threads) :
    FlagReady { v with thread := thread } { k with threads := threads } :=
  ⟨h.nonneg, h.held, h.others⟩

theorem umodCbStart_keeps (hsignals : k.threads.AllRun k.signalling) (hall : k.AllUndeleted)
    (hquiet : k.threads.Quiet) :
    kernelModule.Keeps kernelSpec (fun (ret : Int) v' k' => v'.thread = v.thread ∧
      k'.threads.AllRun k'.signalling ∧ k'.threads.Quiet ∧ (ret < 0 → k'.AllUndeleted) ∧
      (0 ≤ ret → FlagReady v' k')) (umodCbStart v) k := by
  refine keeps_calls ⟨hsignals, hall, hquiet⟩ fun v' k' uid k'' hthread _ hfinds _ hanswer => ?_
  obtain ⟨hsignals', hall', hquiet'⟩ := hfinds
  simp only [KernelObjects.answered] at hanswer
  by_cases hfails : uid < 0
  · simp only [if_pos hfails, Option.some.injEq] at hanswer ⊢
    subst hanswer
    exact ⟨hthread, hsignals', hquiet', fun _ => hall', fun hret => absurd hret (by decide)⟩
  · simp only [if_neg hfails, Option.ite_none_left_eq_some, Option.some.injEq] at hanswer ⊢
    obtain ⟨_, rfl⟩ := hanswer
    refine ⟨hthread, hsignals', hquiet', fun hret => absurd hret (by decide), fun _ => ?_⟩
    refine ⟨Int.not_lt.mp hfails, List.mem_cons_self .., fun other hother => ?_⟩
    exact (List.mem_cons.mp hother).imp_right (hall' other)

theorem unwrapEventFlag_keeps (hsignals : k.threads.AllRun k.signalling) (hready : FlagReady v k)
    (hquiet : k.threads.Quiet) :
    kernelModule.Keeps kernelSpec (fun (_ : Unit) v' k' => v'.thread = v.thread ∧
      k'.threads.AllRun k'.signalling ∧ FlagReady v' k' ∧ k'.threads.Quiet)
      (unwrapEventFlag v) k := by
  unfold unwrapEventFlag
  split
  · exact ⟨rfl, hsignals, hready, hquiet⟩
  · refine keeps_calls ⟨hsignals, hready, hquiet⟩ fun v' k' ret k'' hthread _ hfinds _ hanswer => ?_
    obtain ⟨hsignals', hready', hquiet'⟩ := hfinds
    obtain rfl := Option.some.inj hanswer
    split
    · exact ⟨hthread, hsignals', hready', hquiet'⟩
    · exact ⟨hthread, hsignals', ⟨hready'.nonneg, hready'.held, hready'.others⟩, hquiet'⟩

theorem umodCbStop_keeps (hsignals : k.threads.AllRun k.signalling) (hready : FlagReady v k)
    (hquiet : k.threads.Quiet) :
    kernelModule.Keeps kernelSpec (fun (ret : Int) v' k' => v'.thread = v.thread ∧
      k'.threads.AllRun k'.signalling ∧ k'.AllUndeleted ∧ k'.threads.Quiet ∧
      (ret < 0 → FlagReady v' k') ∧ (¬ ret < 0 → v'.flag.eventFlagUid = -1))
      (umodCbStop v) k := by
  refine (unwrapEventFlag_keeps hsignals hready hquiet).bind fun _ v₁ k₁ h => ?_
  obtain ⟨hthread, hsignals₁, hready₁, hquiet₁⟩ := h
  rw [if_pos hready₁.nonneg]
  refine keeps_calls ⟨hsignals₁, hready₁, hquiet₁⟩
    fun v₂ k₂ ret k₃ hthread₂ hflag hfinds _ hanswer => ?_
  obtain ⟨hsignals₂, hready₂, hquiet₂⟩ := hfinds
  rw [← hflag] at hanswer
  simp only [KernelObjects.answered] at hanswer
  by_cases hfails : ret < 0
  · simp only [if_pos hfails, Option.some.injEq] at hanswer ⊢
    subst hanswer
    refine ⟨hthread₂.trans hthread, hsignals₂, fun other hother => ?_, hquiet₂, fun _ => ?_,
      fun hret => absurd (by decide) hret⟩
    · exact List.mem_cons.mpr (hready₂.others other hother)
    · exact ⟨hready₂.nonneg, hready₂.held,
        fun other hother => (hready₂.others other hother).imp_right (List.mem_cons_of_mem _)⟩
  · simp only [if_neg hfails, Option.ite_none_right_eq_some, Option.some.injEq] at hanswer ⊢
    obtain ⟨_, rfl⟩ := hanswer
    refine ⟨hthread₂.trans hthread, hsignals₂, fun other hother => ?_, hquiet₂,
      fun hret => absurd hret (by decide), fun _ => rfl⟩
    obtain ⟨hexists, hne⟩ := List.mem_filter.mp hother
    refine List.mem_filter.mpr ⟨?_, hne⟩
    exact (hready₂.others other hexists).resolve_left (by simpa using hne)

def Listenable (v : KernelVars) (k : KernelObjects) : Prop :=
  FlagReady v k ∧ k.threads.AllRun k.signalling

theorem listenable_keeps :
    kernelHost.Keeps kernelModule.toSurroundings kernelSpec Listenable where
  allowed := rfl
  answered _ _ _ := rfl
  stable _ _ _ _ _ hstep h :=
    ⟨(meanwhile_undisturbed hstep).flagReady h.1, (meanwhile_undisturbed hstep).signals h.2⟩
  working _ _ _ _ _ hstep := (meanwhile_undisturbed hstep).working
  vars _ _ _ h := ⟨h.1.threads _ _, h.2⟩
  ends _ _ _ h hquiet _ := ⟨h.1.threads _ _, h.2.of_quiet hquiet⟩
  asks _ _ asked h hquiet := by
    refine ⟨h.2, ?_⟩
    cases asked with
    | waitThreadEnd uid => exact ⟨h.1, hquiet.onlyWorks uid⟩
    | _ => exact ⟨h.1, hquiet⟩
  waits _ _ _ h hown := ⟨h.2, h.1, hown⟩

theorem btEventStart_keeps (h : Listenable v k) (hquiet : k.threads.Quiet)
    (hnone : v.thread.uidThread < 0) :
    kernelModule.Keeps kernelSpec (fun (ret : Option Int) v' k' => Listenable v' k' ∧
      if ret.any (· < 0) then v'.thread.uidThread < 0 ∧ k'.threads.Quiet
      else 0 ≤ v'.thread.uidThread ∧ k'.threads.OnlyWorks v'.thread.uidThread)
      ((btEventStart v.thread).within kernelHost v) k := by
  refine (listenable_keeps.eventStart_keeps
    (fun _ _ _ h hquiet => ⟨h.1.threads _ _, h.2.of_quiet hquiet⟩) h hquiet hnone).mono ?_
  rintro ret v' k' ⟨hinv, ⟨rfl, hends⟩ | ⟨rfl, hstarts⟩⟩
  · exact ⟨hinv, hends⟩
  · exact ⟨hinv, hstarts⟩

theorem moduleStart_keeps {last : Option ModuleResult}
    (hadmits : kernelModule.admits last .start = true) (hrest : kernelRest last v k) :
    kernelModule.Keeps kernelSpec (fun ret => kernelRest (some ret)) (moduleStart v) k := by
  have hstopped : k.threads.AllRun k.signalling ∧ k.AllUndeleted ∧ v.thread.uidThread < 0 ∧
      k.threads.Quiet := by
    rcases last with _ | result
    · exact ⟨hrest.1, hrest.2.1, hrest.2.2.1, hrest.2.2.2.1⟩
    · cases result with
      | startFailed => exact ⟨hrest.1, hrest.2.1, hrest.2.2.1, hrest.2.2.2.1⟩
      | stopSuccess => exact ⟨hrest.1, hrest.2.1, hrest.2.2.1, hrest.2.2.2.1⟩
      | startSuccess => cases hadmits
      | stopFail => cases hadmits
  obtain ⟨hsignals, hall, hnone, hquiet⟩ := hstopped
  refine (umodCbStart_keeps hsignals hall hquiet).bind fun ret v₁ k₁ h => ?_
  obtain ⟨hthread, hsignals₁, hquiet₁, hfailed, hready⟩ := h
  split
  next hret => exact ⟨hsignals₁, hfailed hret, hthread ▸ hnone, hquiet₁, fun h => by cases h⟩
  next hret =>
  have hready₁ := hready (Int.not_lt.mp hret)
  refine (btEventStart_keeps ⟨hready₁, hsignals₁⟩ hquiet₁ (hthread ▸ hnone)).bind
    fun ret v₂ k₂ h => ?_
  obtain ⟨⟨hready₂, hsignals₂⟩, hstarted⟩ := h
  split at hstarted
  next hret =>
    rw [if_pos hret]
    refine (umodCbStop_keeps hsignals₂ hready₂ hstarted.2).bind fun _ v₃ k₃ h => ?_
    obtain ⟨hthread₃, hsignals₃, hall₃, hquiet₃, _⟩ := h
    exact ⟨hsignals₃, hall₃, hthread₃ ▸ hstarted.1, hquiet₃, fun h => by cases h⟩
  next hret =>
    rw [if_neg hret]
    exact ⟨hsignals₂, hready₂, hstarted⟩

theorem moduleStop_keeps {last : Option ModuleResult}
    (hadmits : kernelModule.admits last .stop = true) (hrest : kernelRest last v k) :
    kernelModule.Keeps kernelSpec (fun ret => kernelRest (some ret)) (moduleStop v) k := by
  have hstarted : k.threads.AllRun k.signalling ∧ FlagReady v k ∧
      k.threads.OnlyWorks v.thread.uidThread ∧ (v.thread.uidThread < 0 → k.threads.Quiet) := by
    rcases last with _ | result
    · cases hadmits
    · cases result with
      | startFailed => cases hadmits
      | stopSuccess => cases hadmits
      | startSuccess =>
          obtain ⟨hsignals, hready, hown, hworking⟩ := hrest
          exact ⟨hsignals, hready, hworking, fun hnone => absurd hown (Int.not_le.mpr hnone)⟩
      | stopFail =>
          obtain ⟨hsignals, hready, hnone, hquiet⟩ := hrest
          exact ⟨hsignals, hready, hquiet.onlyWorks _, fun _ => hquiet⟩
  obtain ⟨hsignals, hready, hworking, hnone⟩ := hstarted
  refine (listenable_keeps.eventStop_keeps ⟨hready, hsignals⟩ hworking hnone).bind
    fun ret v₁ k₁ h => ?_
  obtain ⟨rfl, hnone₁, ⟨hready₁, hsignals₁⟩, hquiet₁⟩ := h
  refine (umodCbStop_keeps hsignals₁ hready₁ hquiet₁).bind fun ret v₂ k₂ h => ?_
  obtain ⟨hthread, hsignals₂, hall, hquiet₂, hfailed, hcleaned⟩ := h
  by_cases hret : ret < 0
  · rw [if_pos (.inr hret)]
    exact ⟨hsignals₂, hfailed hret, hthread ▸ hnone₁, hquiet₂⟩
  · rw [if_neg (not_or.mpr ⟨by decide, hret⟩)]
    exact ⟨hsignals₂, hall, hthread ▸ hnone₁, hquiet₂, fun _ => hcleaned hret⟩

end

theorem kernelModule_standing {past : List (Transition KernelModule KernelTurn)} {s : KernelModule}
    (hrun : kernelModule.lts.Run past s) (hwaits : ∀ x ∈ past, kernelHost.WaitEnds x) :
    kernelModule.Standing kernelSpec kernelRest s := by
  refine Program.standing_run ?_ ?_ ?_ hrun hwaits
  · refine ⟨fun uid h => ?_, fun uid h => ?_, by decide, fun uid h => ?_, fun h => by cases h⟩
    · cases h
    · cases h
    · rcases h with h | h <;> cases h
  · exact fun last v k o v' k' hstep h => (meanwhile_undisturbed hstep).rest h
  · intro last e v k hadmits hrest
    cases e with
    | start => exact moduleStart_keeps hadmits hrest
    | stop => exact moduleStop_keeps hadmits hrest

theorem FlagReady.wrapped {v : KernelVars} {k : KernelObjects} (h : FlagReady v k)
    {pidRet createRet : Int} (hpid : 0 ≤ pidRet) (hcreate : 0 ≤ createRet) :
    0 ≤ (kvqmbtGetWrappedEventFlag pidRet createRet v.flag).2.ret := by
  by_cases hpuid : v.flag.eventFlagPuid < 0
  · rw [get_wraps h.nonneg hpuid hpid]
    exact hcreate
  · rw [get_cached h.nonneg (Int.not_lt.mp hpuid)]
    exact Int.not_lt.mp hpuid

theorem kernelRest_safe {s : KernelModule} (hcall : s.call = none)
    (h : kernelRest s.last s.vars s.world) : KernelModuleSafe s := by
  obtain ⟨hsignals, hfinds⟩ := h
  have hidle {uid : Int} {P : Prop} (hdeletes : s.call = some (.deleteEventFlag uid)) : P := by
    rw [hcall] at hdeletes
    cases hdeletes
  split at hfinds
  next hlast =>
    obtain ⟨hready, _, _⟩ := hfinds
    exact ⟨fun _ _ => hready.held, hsignals, fun _ => hidle,
      fun _ hnot => absurd hlast hnot,
      fun _ _ => ⟨hready.held, fun _ _ => hready.wrapped⟩, hready.others,
      fun _ hstopped => by rw [hlast] at hstopped; cases hstopped⟩
  next hlast =>
    obtain ⟨hready, _, hquiet⟩ := hfinds
    exact ⟨fun _ _ => hready.held, hsignals, fun _ _ => hquiet, fun _ _ => hquiet,
      fun _ _ => ⟨hready.held, fun _ _ => hready.wrapped⟩, hready.others,
      fun _ hstopped => by rw [hlast] at hstopped; cases hstopped⟩
  next hstarted hfailed =>
    obtain ⟨hall, _, hquiet, hcleaned⟩ := hfinds
    exact ⟨fun uid hworks => absurd hworks (hquiet uid), hsignals, fun _ _ => hquiet,
      fun _ _ => hquiet, fun _ h => absurd h (not_or.mpr ⟨hstarted, hfailed⟩),
      fun uid huid => .inr (hall uid huid), fun _ => hcleaned⟩

theorem kernelDuring_safe {s : KernelModule} {call : KernelCall} (hcall : s.call = some call)
    (h : kernelDuring call s.vars s.world) : KernelModuleSafe s := by
  have hbusy {P : Prop} (hnone : s.call = none) : P := by
    rw [hcall] at hnone
    cases hnone
  obtain ⟨hsignals, hfinds⟩ := h
  split at hfinds
  next =>
    obtain ⟨hall, hquiet⟩ := hfinds
    exact ⟨fun uid hworks => absurd hworks (hquiet uid), hsignals, fun _ _ => hquiet, hbusy, hbusy,
      fun uid huid => .inr (hall uid huid), hbusy⟩
  next waited =>
    refine ⟨fun _ _ => hfinds.1.held, hsignals, fun uid h => ?_, hbusy, hbusy, hfinds.1.others,
      hbusy⟩
    rw [hcall] at h
    cases h
  next =>
    exact ⟨fun _ _ => hfinds.1.held, hsignals, fun _ _ => hfinds.2, hbusy, hbusy, hfinds.1.others,
      hbusy⟩

def stoppedWhileSignalling : List KernelTurn :=
  [.enter .start, .answer 7, .answer 1, .answer 0, .meanwhile (.getWrapped 2 5),
    .meanwhile (.check 1), .enter .stop, .meanwhile (.signal 1), .meanwhile (.leave 1),
    .meanwhile (.finish 1), .answer 0, .answer 0, .answer 0, .answer 0]

theorem stoppedWhileSignalling_plays : (kernelModule.lts.play []
    ⟨kernelModule.vars, kernelModule.world, none, none⟩ stoppedWhileSignalling).isSome := by
  decide

def stoppedTooEarly : List KernelTurn :=
  [.enter .start, .answer 7, .answer 1, .answer 0, .meanwhile (.check 1), .enter .stop,
    .answer (-1), .answer (-1), .answer 0]

theorem stoppedTooEarly_plays : (kernelModule.lts.play []
    ⟨kernelModule.vars, kernelModule.world, none, none⟩ stoppedTooEarly).isSome := by
  decide

example : ¬ KernelModuleSafe (kernelModule.lts.played _ _ stoppedTooEarly_plays).2 :=
  fun h => absurd (h.signals 1 (by decide)) (by decide)

end VitaQmBluetooth
