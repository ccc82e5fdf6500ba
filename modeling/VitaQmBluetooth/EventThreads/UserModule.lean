import VitaQmBluetooth.EventThreads.KernelModule
import VitaQmBluetooth.Interface.Vqmbt

namespace VitaQmBluetooth

open Foundation

inductive QuickmenuCallback where
  | reset
  | handleEventDropped
  | handleEvent
  deriving DecidableEq, Repr

structure KmeCallbacks where
  onStart : Option QuickmenuCallback
  onEventDropped : Option QuickmenuCallback
  onEvent : Option QuickmenuCallback
  deriving DecidableEq

def quickmenuCallbacks : KmeCallbacks :=
  ⟨some .reset, some .handleEventDropped, some .handleEvent⟩

structure UserVars where
  thread : ThreadVars
  callbacks : KmeCallbacks

inductive QmWidget where
  | separator
  | sectionTitle
  | planeButtons
  | button (idx : Fin vqmbtMaxDevices)
  deriving DecidableEq

theorem lastButton_lt : vqmbtMaxDevices - 1 < vqmbtMaxDevices := by decide

def lastWidget : QmWidget := .button ⟨vqmbtMaxDevices - 1, lastButton_lt⟩

inductive QmHandler where
  | onPress (userDat : Fin vqmbtMaxDevices)
  | onLoad
  | onDelete
  deriving DecidableEq

def QmHandler.BelongsTo : QmHandler → QmWidget → Prop
  | .onPress idx, w => w = .button idx
  | .onLoad, w | .onDelete, w => w = lastWidget

inductive UserCall where
  | thread (call : ThreadCall)
  | createLwMutex
  | deleteLwMutex
  | registerWidget (w : QmWidget)
  | registerHandler (w : QmWidget) (handler : QmHandler)
  | unregisterWidget (w : QmWidget)
  | updateUi (idx : Fin vqmbtMaxDevices)
  deriving DecidableEq

abbrev UserTree := CallTree UserVars UserCall

inductive MenuObject where
  | mutex
  | widget (w : QmWidget)
  deriving DecidableEq

-- A thread is updating while it is inside qm_state_update_ui.
structure UserObjects where
  threads : Threads
  updating : List Int
  held : MenuObject → Held
  handlers : QmWidget → List QmHandler

def userHost : ThreadHost UserVars UserCall UserObjects where
  thread vars := vars.thread
  setThread vars thread := { vars with thread := thread }
  threads k := k.threads
  setThreads k threads := { k with threads := threads }
  call := .thread
  threadCall
    | .thread call => some call
    | _ => none
  thread_setThread _ _ := rfl
  threads_setThreads _ _ := rfl
  threadCall_call _ := rfl

def startEventThread (callbacks : KmeCallbacks) (vars : UserVars) : UserTree Unit :=
  if 0 ≤ vars.thread.uidThread then .returns vars ()
  else
    ((kmodEventStart vars.thread).within userHost { vars with callbacks := callbacks }).bind
      fun vars _ => .returns vars ()

def stopEventThread (vars : UserVars) : UserTree Unit :=
  ((kmodEventStop vars.thread).within userHost vars).bind fun vars _ => .returns vars ()

def qmStateMutexStart (vars : UserVars) : UserTree Int :=
  .calls vars .createLwMutex fun vars ret =>
    if ret < 0 then .returns vars VqmbtError.generalFailure.code else .returns vars 0

def qmStateMutexStop (vars : UserVars) : UserTree Int :=
  .calls vars .deleteLwMutex fun vars ret =>
    if ret < 0 then .returns vars VqmbtError.generalFailure.code else .returns vars 0

def registerWidget (w : QmWidget) (vars : UserVars) : UserTree Unit :=
  .calls vars (.registerWidget w) fun vars _ => .returns vars ()

def registerHandler (w : QmWidget) (handler : QmHandler) (vars : UserVars) : UserTree Unit :=
  .calls vars (.registerHandler w handler) fun vars _ => .returns vars ()

def unregisterWidget (w : QmWidget) (vars : UserVars) : UserTree Unit :=
  .calls vars (.unregisterWidget w) fun vars _ => .returns vars ()

def addDeviceButton (idx : Fin vqmbtMaxDevices) (vars : UserVars) : UserTree Unit :=
  (registerWidget (.button idx) vars).bind fun vars _ =>
    registerHandler (.button idx) (.onPress idx) vars

def quickmenuStart (vars : UserVars) : UserTree Int :=
  (qmStateMutexStart vars).bind fun vars _ =>
  (registerWidget .separator vars).bind fun vars _ =>
  (registerWidget .sectionTitle vars).bind fun vars _ =>
  (registerWidget .planeButtons vars).bind fun vars _ =>
  (CallTree.each addDeviceButton (List.finRange vqmbtMaxDevices) vars).bind fun vars _ =>
  (registerHandler lastWidget .onLoad vars).bind fun vars _ =>
  (registerHandler lastWidget .onDelete vars).bind fun vars _ =>
  .returns vars 0

def quickmenuStop (vars : UserVars) : UserTree Int :=
  (stopEventThread vars).bind fun vars _ =>
  (CallTree.each (fun idx => unregisterWidget (.button idx)) (List.finRange vqmbtMaxDevices)
    vars).bind fun vars _ =>
  (unregisterWidget .planeButtons vars).bind fun vars _ =>
  (unregisterWidget .sectionTitle vars).bind fun vars _ =>
  (unregisterWidget .separator vars).bind fun vars _ =>
  (qmStateMutexStop vars).bind fun vars _ =>
  .returns vars 0

inductive UserResult where
  | module (result : ModuleResult)
  | loaded
  | unloaded
  | pressed
  deriving DecidableEq, Repr

def quickmenuOnPress (idx : Fin vqmbtMaxDevices) (vars : UserVars) : UserTree UserResult :=
  .calls vars (.updateUi idx) fun vars _ => .returns vars .pressed

def quickmenuOnLoad (vars : UserVars) : UserTree UserResult :=
  (startEventThread quickmenuCallbacks vars).bind fun vars _ => .returns vars .loaded

def quickmenuOnUnload (vars : UserVars) : UserTree UserResult :=
  (stopEventThread vars).bind fun vars _ => .returns vars .unloaded

def userModuleStart (vars : UserVars) : UserTree UserResult :=
  (quickmenuStart vars).bind fun vars ret =>
    if ret < 0 then .returns vars (.module .startFailed)
    else .returns vars (.module .startSuccess)

def userModuleStop (vars : UserVars) : UserTree UserResult :=
  (quickmenuStop vars).bind fun vars ret =>
    let failed := decide (ret < 0)
    .returns vars (.module (if failed = true then .stopFail else .stopSuccess))

-- A negative answer stands for every refusal, the null pointers of the menu among them. A widget
-- takes its handlers with it.
def UserObjects.answered (k : UserObjects) : UserCall → Int → Option UserObjects
  | .thread call, ret =>
      (k.threads.answered call ret).map fun threads => { k with threads := threads }
  | .createLwMutex, ret => some { k with held := Held.asked k.held .mutex true ret }
  | .deleteLwMutex, ret => some { k with held := Held.asked k.held .mutex false ret }
  | .registerWidget w, ret => some { k with held := Held.asked k.held (.widget w) true ret }
  | .registerHandler w handler, ret =>
      if ret < 0 then some k
      else some { k with handlers := Function.update k.handlers w (handler :: k.handlers w) }
  | .unregisterWidget w, ret => some { k with
      held := Held.asked k.held (.widget w) false ret
      handlers := if ret < 0 then k.handlers else Function.update k.handlers w [] }
  | .updateUi _, _ => some k

-- What the event thread does by itself.
inductive UserOther where
  | beginUpdate (uid : Int)
  | endUpdate (uid : Int)
  | leave (uid : Int)
  | finish (uid : Int)
  deriving DecidableEq

def userMeanwhile : UserVars × UserObjects → UserOther → Option (UserVars × UserObjects)
  | (v, k), .beginUpdate uid =>
      if k.threads uid = some .running ∧ uid ∉ k.updating then
        some (v, { k with updating := uid :: k.updating })
      else none
  | (v, k), .endUpdate uid =>
      if uid ∈ k.updating then some (v, { k with updating := k.updating.filter (· ≠ uid) })
      else none
  | (v, k), .leave uid =>
      if k.threads uid = some .running ∧ uid ∉ k.updating then
        some (v, { k with threads := k.threads.set uid (some .leaving) })
      else none
  | (v, k), .finish uid =>
      if k.threads uid = some .leaving then
        some (v, { k with threads := k.threads.set uid (some .ended) })
      else none

inductive UserEntry where
  | start
  | stop
  | onLoad
  | onUnload
  | onPress (idx : Fin vqmbtMaxDevices)
  deriving DecidableEq

def userStarted : Option UserResult → Bool
  | none | some (.module .startFailed) | some (.module .stopSuccess) => false
  | _ => true

-- The module is stopped, and its menu loaded, unloaded and pressed, only while it is started.
def userModule : Program UserVars UserCall UserResult UserObjects UserEntry UserOther where
  answered := UserObjects.answered
  meanwhile := userMeanwhile
  vars := ⟨⟨-1, false⟩, ⟨none, none, none⟩⟩
  world := ⟨fun _ => none, [], fun _ => ⟨false, false⟩, fun _ => []⟩
  entry
    | .start => userModuleStart
    | .stop => userModuleStop
    | .onLoad => quickmenuOnLoad
    | .onUnload => quickmenuOnUnload
    | .onPress idx => quickmenuOnPress idx
  admits last e := userStarted last != decide (e = .start)

abbrev UserModule := Program.State UserVars UserCall UserResult UserObjects

abbrev UserTurn := Program.Turn UserEntry UserOther

namespace UserObjects

def Wired (k : UserObjects) : Prop := ∀ w, ∀ handler ∈ k.handlers w, handler.BelongsTo w

def Ready (k : UserObjects) : Prop := Done true [] k.held

def Gone (k : UserObjects) : Prop := Done false [] k.held

end UserObjects

structure UserModuleSafe (s : UserModule) : Prop where
  updates : ∀ uid ∈ s.world.updating, s.world.threads uid = some .running
  alone : ∀ uid other, s.world.threads.Working uid → s.world.threads.Working other → uid = other
  called : ∀ uid, s.world.threads.Working uid → s.vars.callbacks = quickmenuCallbacks
  served : ∀ uid, s.world.threads.Working uid → s.world.Ready
  pressed : ∀ idx, s.call = some (.updateUi idx) → s.world.Ready
  handlers : s.world.Wired
  creates : s.call = some .createLwMutex → s.world.Gone ∧ s.world.threads.Quiet
  deletes : s.call = some .deleteLwMutex → Done false [.mutex] s.world.held ∧ s.world.threads.Quiet
  started : s.call = none → userStarted s.last = true → s.world.Ready
  stopped : s.call = none → userStarted s.last = false → s.world.Gone ∧ s.world.threads.Quiet
  closed : s.call = none → s.last = some .unloaded → s.world.threads.Quiet
  succeeds : s.call = none →
    s.last ≠ some (.module .startFailed) ∧ s.last ≠ some (.module .stopFail)

structure EventsOwned (v : UserVars) (k : UserObjects) : Prop where
  own : k.threads.OnlyWorks v.thread.uidThread
  called : ∀ uid, k.threads.Working uid → v.callbacks = quickmenuCallbacks
  none : v.thread.uidThread < 0 → k.threads.Quiet

def userDuring (call : UserCall) (v : UserVars) (k : UserObjects) : Prop :=
  (k.threads.AllRun k.updating ∧ k.Wired) ∧ match call with
    | .createLwMutex => k.Gone ∧ k.threads.Quiet
    | .deleteLwMutex => Done false [.mutex] k.held ∧ k.threads.Quiet
    | .thread (.waitThreadEnd uid) => k.Ready ∧
        (∀ other, k.threads.Working other → v.callbacks = quickmenuCallbacks) ∧
        k.threads.OnlyWorks uid
    | .updateUi _ => k.Ready ∧ EventsOwned v k
    | _ => k.threads.Quiet

def userSpec : CallSpec UserVars UserCall UserObjects where
  allowed := userHost.WaitEnded
  during := userDuring

def userRest (last : Option UserResult) (v : UserVars) (k : UserObjects) : Prop :=
  (k.threads.AllRun k.updating ∧ k.Wired) ∧ match last with
    | none | some (.module .stopSuccess) => k.Gone ∧ v.thread.uidThread < 0 ∧ k.threads.Quiet
    | some (.module .startFailed) | some (.module .stopFail) => False
    | some .unloaded => k.Ready ∧ v.thread.uidThread < 0 ∧ k.threads.Quiet
    | _ => k.Ready ∧ EventsOwned v k

structure UserUndisturbed (v v' : UserVars) (k k' : UserObjects) : Prop where
  vars : v' = v
  held : k'.held = k.held
  handlers : k'.handlers = k.handlers
  working : ∀ uid, k'.threads.Working uid → k.threads.Working uid
  updates : k.threads.AllRun k.updating → k'.threads.AllRun k'.updating

section

variable {v v' : UserVars} {k k' : UserObjects} {o : UserOther}

theorem userMeanwhile_undisturbed (h : userMeanwhile (v, k) o = some (v', k')) :
    UserUndisturbed v v' k k' := by
  cases o with
  | beginUpdate uid =>
      simp only [userMeanwhile, Option.ite_none_right_eq_some, Option.some.injEq,
        Prod.mk.injEq] at h
      obtain ⟨⟨hrunning, _⟩, rfl, rfl⟩ := h
      refine ⟨rfl, rfl, rfl, fun _ => id, fun hupdates other hother => ?_⟩
      rcases List.mem_cons.mp hother with rfl | hold
      · exact hrunning
      · exact hupdates other hold
  | endUpdate uid =>
      simp only [userMeanwhile, Option.ite_none_right_eq_some, Option.some.injEq,
        Prod.mk.injEq] at h
      obtain ⟨_, rfl, rfl⟩ := h
      refine ⟨rfl, rfl, rfl, fun _ => id, fun hupdates other hother => ?_⟩
      exact hupdates other (List.mem_filter.mp hother).1
  | leave uid =>
      simp only [userMeanwhile, Option.ite_none_right_eq_some, Option.some.injEq,
        Prod.mk.injEq] at h
      obtain ⟨⟨hrunning, hout⟩, rfl, rfl⟩ := h
      exact ⟨rfl, rfl, rfl, fun other => Threads.working_set (.inl hrunning), fun hs => hs.set hout⟩
  | finish uid =>
      simp only [userMeanwhile, Option.ite_none_right_eq_some, Option.some.injEq,
        Prod.mk.injEq] at h
      obtain ⟨hleaving, rfl, rfl⟩ := h
      refine ⟨rfl, rfl, rfl, fun other => Threads.working_set (.inr hleaving), fun hs => hs.set ?_⟩
      intro hupdating
      simp [hs uid hupdating] at hleaving

namespace UserUndisturbed

theorem quiet (h : UserUndisturbed v v' k k') (hquiet : k.threads.Quiet) : k'.threads.Quiet :=
  fun uid hworks => hquiet uid (h.working uid hworks)

theorem done (h : UserUndisturbed v v' k k') {wanted : Bool} {todo : List MenuObject}
    (hdone : Done wanted todo k.held) : Done wanted todo k'.held := by
  rw [h.held]
  exact hdone

theorem wired (h : UserUndisturbed v v' k k') (hwired : k.Wired) : k'.Wired := by
  intro w
  rw [h.handlers]
  exact hwired w

theorem owned (h : UserUndisturbed v v' k k') (howned : EventsOwned v k) :
    EventsOwned v' k' := by
  obtain rfl := h.vars
  exact ⟨fun uid hworks => howned.own uid (h.working uid hworks),
    fun uid hworks => howned.called uid (h.working uid hworks),
    fun hnone => h.quiet (howned.none hnone)⟩

theorem during (h : UserUndisturbed v v' k k') {call : UserCall} (hcall : userDuring call v k) :
    userDuring call v' k' := by
  refine ⟨⟨h.updates hcall.1.1, h.wired hcall.1.2⟩, ?_⟩
  have hfinds := hcall.2
  split at hfinds
  · exact ⟨h.done hfinds.1, h.quiet hfinds.2⟩
  · exact ⟨h.done hfinds.1, h.quiet hfinds.2⟩
  · obtain rfl := h.vars
    exact ⟨h.done hfinds.1, fun other hworks => hfinds.2.1 other (h.working other hworks),
      fun other hworks => hfinds.2.2 other (h.working other hworks)⟩
  · exact ⟨h.done hfinds.1, h.owned hfinds.2⟩
  · exact h.quiet hfinds

theorem rest (h : UserUndisturbed v v' k k') {last : Option UserResult}
    (hrest : userRest last v k) : userRest last v' k' := by
  refine ⟨⟨h.updates hrest.1.1, h.wired hrest.1.2⟩, ?_⟩
  have hfinds := hrest.2
  split at hfinds
  · rw [h.vars]
    exact ⟨h.done hfinds.1, hfinds.2.1, h.quiet hfinds.2.2⟩
  · rw [h.vars]
    exact ⟨h.done hfinds.1, hfinds.2.1, h.quiet hfinds.2.2⟩
  · exact hfinds
  · exact hfinds
  · rw [h.vars]
    exact ⟨h.done hfinds.1, hfinds.2.1, h.quiet hfinds.2.2⟩
  · exact ⟨h.done hfinds.1, h.owned hfinds.2⟩

end UserUndisturbed

theorem userKeeps_calls {R : Type} {post : R → UserVars → UserObjects → Prop} {call : UserCall}
    {resume : UserVars → Int → UserTree R} (hcall : userDuring call v k)
    (hresume : ∀ k' ret k'', k'.held = k.held → userDuring call v k' →
      userSpec.allowed k' call ret → k'.answered call ret = some k'' →
      userModule.Keeps userSpec post (resume v ret) k'') :
    userModule.Keeps userSpec post (.calls v call resume) k := by
  refine ⟨fun v' k' => v' = v ∧ k'.held = k.held ∧ userDuring call v k', ?_, ⟨rfl, rfl, hcall⟩, ?_⟩
  · rintro v₁ k₁ o v₂ k₂ hstep ⟨rfl, hheld, hfinds⟩
    have h := userMeanwhile_undisturbed hstep
    obtain rfl := h.vars
    exact ⟨rfl, h.held.trans hheld, h.during hfinds⟩
  · rintro v' k' ⟨rfl, hheld, hfinds⟩
    exact ⟨hfinds, fun ret k'' hallowed hanswer =>
      hresume k' ret k'' hheld hfinds hallowed hanswer⟩

structure Arranging (wanted : Bool) (todo : List MenuObject) (k : UserObjects) : Prop where
  updates : k.threads.AllRun k.updating
  wired : k.Wired
  quiet : k.threads.Quiet
  done : Done wanted todo k.held

def menuButtons : List MenuObject :=
  (List.finRange vqmbtMaxDevices).map fun idx => .widget (.button idx)

def menuWidgets : List MenuObject :=
  .widget .separator :: .widget .sectionTitle :: .widget .planeButtons :: menuButtons

theorem mem_menuWidgets (o : MenuObject) : o ∈ .mutex :: menuWidgets := by
  rcases o with _ | w
  · exact List.mem_cons_self ..
  · refine List.mem_cons_of_mem _ ?_
    cases w with
    | button idx => simp [menuWidgets, menuButtons]
    | _ => simp [menuWidgets]

section

variable {wanted : Bool} {todo : List MenuObject} {w : QmWidget}

theorem registerWidget_keeps (h : Arranging true (.widget w :: todo) k) :
    userModule.Keeps userSpec (fun (_ : Unit) v' k' => v' = v ∧ Arranging true todo k')
      (registerWidget w v) k := by
  refine userKeeps_calls ⟨⟨h.updates, h.wired⟩, h.quiet⟩
    fun k' ret k'' hheld hfinds _ hanswer => ?_
  obtain ⟨⟨hupdates, hwired⟩, hquiet⟩ := hfinds
  obtain rfl := Option.some.inj hanswer
  refine ⟨rfl, hupdates, hwired, hquiet, ?_⟩
  rw [hheld]
  exact h.done.asked

theorem unregisterWidget_keeps (h : Arranging false (.widget w :: todo) k) :
    userModule.Keeps userSpec (fun (_ : Unit) v' k' => v' = v ∧ Arranging false todo k')
      (unregisterWidget w v) k := by
  refine userKeeps_calls ⟨⟨h.updates, h.wired⟩, h.quiet⟩
    fun k' ret k'' hheld hfinds _ hanswer => ?_
  obtain ⟨⟨hupdates, hwired⟩, hquiet⟩ := hfinds
  obtain rfl := Option.some.inj hanswer
  refine ⟨rfl, hupdates, ?_, hquiet, ?_⟩
  · intro other handler hhandler
    dsimp only at hhandler
    split_ifs at hhandler
    · exact hwired other handler hhandler
    · by_cases hne : other = w
      · rw [hne, Function.update_self] at hhandler
        cases hhandler
      · rw [Function.update_of_ne hne] at hhandler
        exact hwired other handler hhandler
  · rw [hheld]
    exact h.done.asked

theorem registerHandler_keeps (h : Arranging wanted todo k) {handler : QmHandler}
    (hbelongs : handler.BelongsTo w) :
    userModule.Keeps userSpec (fun (_ : Unit) v' k' => v' = v ∧ Arranging wanted todo k')
      (registerHandler w handler v) k := by
  refine userKeeps_calls ⟨⟨h.updates, h.wired⟩, h.quiet⟩
    fun k' ret k'' hheld hfinds _ hanswer => ?_
  obtain ⟨⟨hupdates, hwired⟩, hquiet⟩ := hfinds
  have hdone : Done wanted todo k'.held := hheld ▸ h.done
  simp only [UserObjects.answered] at hanswer
  split_ifs at hanswer
  · obtain rfl := Option.some.inj hanswer
    exact ⟨rfl, hupdates, hwired, hquiet, hdone⟩
  · obtain rfl := Option.some.inj hanswer
    refine ⟨rfl, hupdates, fun other found hfound => ?_, hquiet, hdone⟩
    dsimp only at hfound
    by_cases hne : other = w
    · subst hne
      rw [Function.update_self] at hfound
      rcases List.mem_cons.mp hfound with rfl | hold
      · exact hbelongs
      · exact hwired other found hold
    · rw [Function.update_of_ne hne] at hfound
      exact hwired other found hfound

theorem addDeviceButton_keeps {idx : Fin vqmbtMaxDevices}
    (h : Arranging true (.widget (.button idx) :: todo) k) :
    userModule.Keeps userSpec (fun (_ : Unit) v' k' => v' = v ∧ Arranging true todo k')
      (addDeviceButton idx v) k := by
  refine (registerWidget_keeps h).bind fun _ v₁ k₁ h₁ => ?_
  obtain ⟨rfl, harranging⟩ := h₁
  exact registerHandler_keeps harranging rfl

theorem each_keeps {body : Fin vqmbtMaxDevices → UserVars → UserTree Unit}
    (hbody : ∀ idx rest v k, Arranging wanted (.widget (.button idx) :: rest) k →
      userModule.Keeps userSpec (fun (_ : Unit) v' k' => v' = v ∧ Arranging wanted rest k')
        (body idx v) k)
    (h : Arranging wanted (menuButtons ++ todo) k) :
    userModule.Keeps userSpec (fun (_ : Unit) v' k' => v' = v ∧ Arranging wanted todo k')
      (CallTree.each body (List.finRange vqmbtMaxDevices) v) k := by
  refine Surroundings.Keeps.each (fun rest v' k' => v' = v ∧
    Arranging wanted ((rest.map fun idx => .widget (.button idx)) ++ todo) k') ?_ ⟨rfl, h⟩
  rintro idx rest v' k' ⟨rfl, harranging⟩
  exact hbody idx _ v' k' harranging

end

theorem qmStateMutexStart_keeps (h : Arranging false [] k) :
    userModule.Keeps userSpec (fun (_ : Int) v' k' => v' = v ∧ Arranging true menuWidgets k')
      (qmStateMutexStart v) k := by
  refine userKeeps_calls ⟨⟨h.updates, h.wired⟩, h.done, h.quiet⟩
    fun k' ret k'' _ hfinds _ hanswer => ?_
  obtain ⟨⟨hupdates, hwired⟩, _, hquiet⟩ := hfinds
  obtain rfl := Option.some.inj hanswer
  have hdone : Arranging true menuWidgets { k' with held := Held.asked k'.held .mutex true ret } :=
    ⟨hupdates, hwired, hquiet, (Done.unstarted mem_menuWidgets).asked⟩
  split <;> exact ⟨rfl, hdone⟩

theorem qmStateMutexStop_keeps (h : Arranging false [.mutex] k) :
    userModule.Keeps userSpec (fun (_ : Int) v' k' => v' = v ∧ Arranging false [] k')
      (qmStateMutexStop v) k := by
  refine userKeeps_calls ⟨⟨h.updates, h.wired⟩, h.done, h.quiet⟩
    fun k' ret k'' _ hfinds _ hanswer => ?_
  obtain ⟨⟨hupdates, hwired⟩, hdone, hquiet⟩ := hfinds
  obtain rfl := Option.some.inj hanswer
  have hgone : Arranging false [] { k' with held := Held.asked k'.held .mutex false ret } :=
    ⟨hupdates, hwired, hquiet, hdone.asked⟩
  split <;> exact ⟨rfl, hgone⟩

theorem quickmenuStart_keeps (h : Arranging false [] k) :
    userModule.Keeps userSpec (fun (ret : Int) v' k' => ret = 0 ∧ v' = v ∧ Arranging true [] k')
      (quickmenuStart v) k := by
  refine (qmStateMutexStart_keeps h).bind fun _ v₁ k₁ h₁ => ?_
  obtain ⟨rfl, h₁⟩ := h₁
  refine (registerWidget_keeps h₁).bind fun _ v₂ k₂ h₂ => ?_
  obtain ⟨rfl, h₂⟩ := h₂
  refine (registerWidget_keeps h₂).bind fun _ v₃ k₃ h₃ => ?_
  obtain ⟨rfl, h₃⟩ := h₃
  refine (registerWidget_keeps h₃).bind fun _ v₄ k₄ h₄ => ?_
  obtain ⟨rfl, h₄⟩ := h₄
  have hbuttons : Arranging true (menuButtons ++ []) k₄ := by
    rw [List.append_nil]
    exact h₄
  refine (each_keeps (fun _ _ _ _ => addDeviceButton_keeps) hbuttons).bind fun _ v₅ k₅ h₅ => ?_
  obtain ⟨rfl, h₅⟩ := h₅
  have hload : QmHandler.onLoad.BelongsTo lastWidget := rfl
  refine (registerHandler_keeps h₅ hload).bind fun _ v₆ k₆ h₆ => ?_
  obtain ⟨rfl, h₆⟩ := h₆
  have hdelete : QmHandler.onDelete.BelongsTo lastWidget := rfl
  refine (registerHandler_keeps h₆ hdelete).bind fun _ v₇ k₇ h₇ => ?_
  obtain ⟨rfl, h₇⟩ := h₇
  exact ⟨rfl, rfl, h₇⟩

theorem Threads.Quiet.owned (hquiet : k.threads.Quiet) : EventsOwned v k :=
  ⟨hquiet.onlyWorks _, fun uid hworks => absurd hworks (hquiet uid), fun _ => hquiet⟩

structure MenuUp (v : UserVars) (k : UserObjects) : Prop where
  updates : k.threads.AllRun k.updating
  wired : k.Wired
  ready : k.Ready
  owned : EventsOwned v k

structure MenuStands (callbacks : KmeCallbacks) (v : UserVars) (k : UserObjects) : Prop where
  updates : k.threads.AllRun k.updating
  wired : k.Wired
  ready : k.Ready
  given : v.callbacks = callbacks
  called : ∀ uid, k.threads.Working uid → callbacks = quickmenuCallbacks

theorem menuStands_keeps (callbacks : KmeCallbacks) :
    userHost.Keeps userModule.toSurroundings userSpec (MenuStands callbacks) where
  allowed := rfl
  answered _ _ _ := rfl
  stable _ _ _ _ _ hstep h := by
    have hrest := userMeanwhile_undisturbed hstep
    obtain rfl := hrest.vars
    exact ⟨hrest.updates h.updates, hrest.wired h.wired, hrest.done h.ready, h.given,
      fun uid hworks => h.called uid (hrest.working uid hworks)⟩
  working _ _ _ _ _ hstep := (userMeanwhile_undisturbed hstep).working
  vars _ _ _ h := ⟨h.updates, h.wired, h.ready, h.given, h.called⟩
  ends _ _ _ h hquiet hends := ⟨h.updates.of_quiet hquiet, h.wired, h.ready, h.given,
    fun uid hworks => absurd hworks (hends uid)⟩
  asks _ _ asked h hquiet := by
    refine ⟨⟨h.updates, h.wired⟩, ?_⟩
    cases asked with
    | waitThreadEnd uid =>
        exact ⟨h.ready, fun uid hworks => absurd hworks (hquiet uid), hquiet.onlyWorks uid⟩
    | _ => exact hquiet
  waits _ _ _ h hown :=
    ⟨⟨h.updates, h.wired⟩, h.ready, fun uid hworks => h.given.trans (h.called uid hworks), hown⟩

theorem startEventThread_keeps (h : MenuUp v k) :
    userModule.Keeps userSpec (fun (_ : Unit) v' k' => MenuUp v' k')
      (startEventThread quickmenuCallbacks v) k := by
  rw [startEventThread]
  split
  next => exact h
  next hnone =>
  have hstands : MenuStands quickmenuCallbacks { v with callbacks := quickmenuCallbacks } k :=
    ⟨h.updates, h.wired, h.ready, rfl, fun _ _ => rfl⟩
  refine ((menuStands_keeps _).eventStart_keeps (fun v k threads h hquiet => ?_) hstands
    (h.owned.none (Int.not_le.mp hnone)) (Int.not_le.mp hnone)).bind fun _ v₁ k₁ h₁ => ?_
  · exact ⟨h.updates.of_quiet hquiet, h.wired, h.ready, h.given, fun _ _ => rfl⟩
  · obtain ⟨hstands₁, ⟨_, _, hquiet⟩ | ⟨_, hmade, hown⟩⟩ := h₁
    · exact ⟨hstands₁.updates, hstands₁.wired, hstands₁.ready, hquiet.owned⟩
    · refine ⟨hstands₁.updates, hstands₁.wired, hstands₁.ready, hown, fun _ _ => ?_,
        fun hnone => ?_⟩
      · exact hstands₁.given
      · exact absurd hmade (Int.not_le.mpr hnone)

theorem stopEventThread_keeps (h : MenuUp v k) :
    userModule.Keeps userSpec (fun (_ : Unit) v' k' => MenuUp v' k' ∧ v'.thread.uidThread < 0)
      (stopEventThread v) k := by
  have hstands : MenuStands v.callbacks v k :=
    ⟨h.updates, h.wired, h.ready, rfl, h.owned.called⟩
  refine ((menuStands_keeps _).eventStop_keeps hstands h.owned.own h.owned.none).bind
    fun _ v₁ k₁ ⟨_, hnone, hstands₁, hquiet₁⟩ => ?_
  exact ⟨⟨hstands₁.updates, hstands₁.wired, hstands₁.ready, hquiet₁.owned⟩, hnone⟩

theorem quickmenuStop_keeps (h : MenuUp v k) :
    userModule.Keeps userSpec (fun (ret : Int) v' k' => ret = 0 ∧ v'.thread.uidThread < 0 ∧
      Arranging false [] k') (quickmenuStop v) k := by
  refine (stopEventThread_keeps h).bind fun _ v₁ k₁ h₁ => ?_
  obtain ⟨hup, hnone⟩ := h₁
  have hall : Arranging false (menuButtons ++ [.widget .planeButtons, .widget .sectionTitle,
      .widget .separator, .mutex]) k₁ := by
    refine ⟨hup.updates, hup.wired, hup.owned.none hnone, Done.unstarted fun o => ?_⟩
    have ho := mem_menuWidgets o
    simp only [menuWidgets, List.mem_cons] at ho
    rcases ho with rfl | rfl | rfl | rfl | hbutton
    · simp
    · simp
    · simp
    · simp
    · exact List.mem_append_left _ hbutton
  refine (each_keeps (fun _ _ _ _ => unregisterWidget_keeps) hall).bind fun _ v₂ k₂ h₂ => ?_
  obtain ⟨rfl, h₂⟩ := h₂
  refine (unregisterWidget_keeps h₂).bind fun _ v₃ k₃ h₃ => ?_
  obtain ⟨rfl, h₃⟩ := h₃
  refine (unregisterWidget_keeps h₃).bind fun _ v₄ k₄ h₄ => ?_
  obtain ⟨rfl, h₄⟩ := h₄
  refine (unregisterWidget_keeps h₄).bind fun _ v₅ k₅ h₅ => ?_
  obtain ⟨rfl, h₅⟩ := h₅
  refine (qmStateMutexStop_keeps h₅).bind fun _ v₆ k₆ h₆ => ?_
  obtain ⟨rfl, h₆⟩ := h₆
  exact ⟨rfl, hnone, h₆⟩

theorem userRest_started {last : Option UserResult} (hlast : userStarted last = true)
    (h : userRest last v k) : MenuUp v k := by
  obtain ⟨⟨hupdates, hwired⟩, hfinds⟩ := h
  split at hfinds
  · cases hlast
  · cases hlast
  · exact hfinds.elim
  · exact hfinds.elim
  · exact ⟨hupdates, hwired, hfinds.1, hfinds.2.2.owned⟩
  · exact ⟨hupdates, hwired, hfinds.1, hfinds.2⟩

theorem userRest_stopped {last : Option UserResult} (hlast : userStarted last = false)
    (h : userRest last v k) : Arranging false [] k ∧ v.thread.uidThread < 0 := by
  obtain ⟨⟨hupdates, hwired⟩, hfinds⟩ := h
  rcases last with _ | result
  · exact ⟨⟨hupdates, hwired, hfinds.2.2, hfinds.1⟩, hfinds.2.1⟩
  cases result with
  | module result =>
      cases result with
      | stopSuccess => exact ⟨⟨hupdates, hwired, hfinds.2.2, hfinds.1⟩, hfinds.2.1⟩
      | startFailed => exact hfinds.elim
      | _ => cases hlast
  | _ => cases hlast

theorem userModuleStart_keeps (h : Arranging false [] k) :
    userModule.Keeps userSpec (fun ret => userRest (some ret)) (userModuleStart v) k := by
  refine (quickmenuStart_keeps h).bind fun ret v₁ k₁ h₁ => ?_
  obtain ⟨rfl, rfl, h₁⟩ := h₁
  exact ⟨⟨h₁.updates, h₁.wired⟩, h₁.done, h₁.quiet.owned⟩

theorem userModuleStop_keeps (h : MenuUp v k) :
    userModule.Keeps userSpec (fun ret => userRest (some ret)) (userModuleStop v) k := by
  refine (quickmenuStop_keeps h).bind fun ret v₁ k₁ h₁ => ?_
  obtain ⟨rfl, hnone, h₁⟩ := h₁
  exact ⟨⟨h₁.updates, h₁.wired⟩, h₁.done, hnone, h₁.quiet⟩

theorem quickmenuOnLoad_keeps (h : MenuUp v k) :
    userModule.Keeps userSpec (fun ret => userRest (some ret)) (quickmenuOnLoad v) k :=
  (startEventThread_keeps h).bind fun _ _ _ hup =>
    ⟨⟨hup.updates, hup.wired⟩, hup.ready, hup.owned⟩

theorem quickmenuOnUnload_keeps (h : MenuUp v k) :
    userModule.Keeps userSpec (fun ret => userRest (some ret)) (quickmenuOnUnload v) k :=
  (stopEventThread_keeps h).bind fun _ _ _ ⟨hup, hnone⟩ =>
    ⟨⟨hup.updates, hup.wired⟩, hup.ready, hnone, hup.owned.none hnone⟩

theorem quickmenuOnPress_keeps (h : MenuUp v k) (idx : Fin vqmbtMaxDevices) :
    userModule.Keeps userSpec (fun ret => userRest (some ret)) (quickmenuOnPress idx v) k := by
  refine userKeeps_calls ⟨⟨h.updates, h.wired⟩, h.ready, h.owned⟩
    fun k' ret k'' _ hfinds _ hanswer => ?_
  obtain rfl := Option.some.inj hanswer
  exact hfinds

theorem userEntry_keeps {last : Option UserResult} {e : UserEntry}
    (hadmits : userModule.admits last e = true) (hrest : userRest last v k) :
    userModule.Keeps userSpec (fun ret => userRest (some ret)) (userModule.entry e v) k := by
  have hstarted : userStarted last = !decide (e = .start) := by
    cases hlast : userStarted last <;> simpa [userModule, hlast] using hadmits
  cases e with
  | start => exact userModuleStart_keeps (userRest_stopped hstarted hrest).1
  | stop => exact userModuleStop_keeps (userRest_started hstarted hrest)
  | onLoad => exact quickmenuOnLoad_keeps (userRest_started hstarted hrest)
  | onUnload => exact quickmenuOnUnload_keeps (userRest_started hstarted hrest)
  | onPress idx => exact quickmenuOnPress_keeps (userRest_started hstarted hrest) idx

end

theorem userModule_standing {past : List (Transition UserModule UserTurn)} {s : UserModule}
    (hrun : userModule.lts.Run past s) (hwaits : ∀ x ∈ past, userHost.WaitEnds x) :
    userModule.Standing userSpec userRest s := by
  refine Program.standing_run ?_ ?_ ?_ hrun hwaits
  · refine ⟨⟨fun uid h => ?_, fun w handler h => ?_⟩, fun o _ => .inr rfl, by decide,
      fun uid h => ?_⟩
    · cases h
    · cases h
    · rcases h with h | h <;> cases h
  · exact fun last v k o v' k' hstep h => (userMeanwhile_undisturbed hstep).rest h
  · exact fun last e v k hadmits hrest => userEntry_keeps hadmits hrest

section

variable {s : UserModule}

theorem userRest_safe (hcall : s.call = none) (h : userRest s.last s.vars s.world) :
    UserModuleSafe s := by
  have hidle {call : UserCall} {P : Prop} (hpending : s.call = some call) : P := by
    rw [hcall] at hpending
    cases hpending
  have howned : EventsOwned s.vars s.world := by
    cases hlast : userStarted s.last with
    | true => exact (userRest_started hlast h).owned
    | false => exact (userRest_stopped hlast h).1.quiet.owned
  have hstarted (hlast : userStarted s.last = true) : s.world.Ready :=
    (userRest_started hlast h).ready
  have hstopped (hlast : userStarted s.last = false) : s.world.Gone ∧ s.world.threads.Quiet :=
    ⟨(userRest_stopped hlast h).1.done, (userRest_stopped hlast h).1.quiet⟩
  refine ⟨h.1.1, fun uid other huid hother => ?_, howned.called, fun uid hworks => ?_,
    fun _ => hidle, h.1.2, hidle, hidle, fun _ => hstarted, fun _ => hstopped, fun _ hlast => ?_,
    fun _ => ⟨fun hlast => ?_, fun hlast => ?_⟩⟩
  · exact (howned.own uid huid).trans (howned.own other hother).symm
  · cases hlast : userStarted s.last with
    | true => exact hstarted hlast
    | false => exact absurd hworks ((hstopped hlast).2 uid)
  · rw [hlast] at h
    exact h.2.2.2
  · rw [hlast] at h
    exact h.2
  · rw [hlast] at h
    exact h.2

theorem UserModuleSafe.of_quiet {call : UserCall} (hcall : s.call = some call)
    (hupdates : s.world.threads.AllRun s.world.updating) (hwired : s.world.Wired)
    (hquiet : s.world.threads.Quiet)
    (hpressed : ∀ idx, call ≠ .updateUi idx)
    (hcreates : call = .createLwMutex → s.world.Gone)
    (hdeletes : call = .deleteLwMutex → Done false [.mutex] s.world.held) : UserModuleSafe s := by
  have hbusy {P : Prop} (hnone : s.call = none) : P := by
    rw [hcall] at hnone
    cases hnone
  have hcalled {other : UserCall} (hother : s.call = some other) : call = other :=
    Option.some.inj (hcall.symm.trans hother)
  exact ⟨hupdates, fun uid _ hworks => absurd hworks (hquiet uid),
    fun uid hworks => absurd hworks (hquiet uid), fun uid hworks => absurd hworks (hquiet uid),
    fun idx h => absurd (hcalled h) (hpressed idx), hwired, fun h => ⟨hcreates (hcalled h), hquiet⟩,
    fun h => ⟨hdeletes (hcalled h), hquiet⟩, hbusy, hbusy, hbusy, hbusy⟩

theorem UserModuleSafe.of_ready {call : UserCall} (hcall : s.call = some call)
    (hupdates : s.world.threads.AllRun s.world.updating) (hwired : s.world.Wired)
    (hready : s.world.Ready)
    (hcalled : ∀ uid, s.world.threads.Working uid → s.vars.callbacks = quickmenuCallbacks)
    {own : Int} (hown : ∀ uid, s.world.threads.Working uid → uid = own)
    (hmutex : call ≠ .createLwMutex ∧ call ≠ .deleteLwMutex) : UserModuleSafe s := by
  have hbusy {P : Prop} (hnone : s.call = none) : P := by
    rw [hcall] at hnone
    cases hnone
  have hother {other : UserCall} {P : Prop} (hne : call ≠ other) (h : s.call = some other) : P :=
    absurd (Option.some.inj (hcall.symm.trans h)) hne
  exact ⟨hupdates, fun uid other huid hother => (hown uid huid).trans (hown other hother).symm,
    hcalled, fun _ _ => hready, fun _ _ => hready, hwired, hother hmutex.1, hother hmutex.2, hbusy,
    hbusy, hbusy, hbusy⟩

theorem userDuring_safe {call : UserCall} (hcall : s.call = some call)
    (h : userDuring call s.vars s.world) : UserModuleSafe s := by
  obtain ⟨⟨hupdates, hwired⟩, hfinds⟩ := h
  split at hfinds
  next =>
    exact .of_quiet hcall hupdates hwired hfinds.2 (by simp) (fun _ => hfinds.1) (by simp)
  next =>
    exact .of_quiet hcall hupdates hwired hfinds.2 (by simp) (by simp) fun _ => hfinds.1
  next =>
    exact .of_ready hcall hupdates hwired hfinds.1 hfinds.2.1 hfinds.2.2 (by simp)
  next =>
    exact .of_ready hcall hupdates hwired hfinds.1 hfinds.2.called hfinds.2.own (by simp)
  next call hcreate hdelete hwait hpress =>
    exact .of_quiet hcall hupdates hwired hfinds hpress (fun h => absurd h hcreate)
      fun h => absurd h hdelete

end

def stoppedWhileUpdating : List UserTurn :=
  .enter .start :: List.replicate 22 (.answer 0) ++
    [.enter .onLoad, .answer 1, .answer 0,
      .enter (.onPress ⟨vqmbtMaxDevices - 1, lastButton_lt⟩), .meanwhile (.beginUpdate 1),
      .answer 0, .enter .stop, .meanwhile (.endUpdate 1), .meanwhile (.leave 1),
      .meanwhile (.finish 1), .answer 0, .answer 0] ++ List.replicate 12 (.answer 0)

theorem stoppedWhileUpdating_plays : (userModule.lts.play []
    ⟨userModule.vars, userModule.world, none, none⟩ stoppedWhileUpdating).isSome := by
  decide

def stoppedWithoutWaiting : List UserTurn :=
  .enter .start :: List.replicate 22 (.answer 0) ++
    [.enter .onLoad, .answer 1, .answer 0, .enter .stop, .answer (-1), .answer (-1)] ++
    List.replicate 12 (.answer 0) ++ [.meanwhile (.beginUpdate 1)]

theorem stoppedWithoutWaiting_plays : (userModule.lts.play []
    ⟨userModule.vars, userModule.world, none, none⟩ stoppedWithoutWaiting).isSome := by
  decide

example : ¬ UserModuleSafe (userModule.lts.played _ _ stoppedWithoutWaiting_plays).2 := by
  intro h
  have hmutex := h.served 1 (by decide) .mutex (List.not_mem_nil)
  exact absurd hmutex (by decide)

end VitaQmBluetooth
