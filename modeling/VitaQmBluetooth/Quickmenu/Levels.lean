import VitaQmBluetooth.KmodEvent.FetchEvents
import VitaQmBluetooth.Quickmenu.Draining
import VitaQmBluetooth.Quickmenu.DriverAgreement
import VitaQmBluetooth.Quickmenu.EventThread
import VitaQmBluetooth.Quickmenu.StaleSnapshot

namespace VitaQmBluetooth

open Foundation Relation

structure LoopPoint where
  ring : UmodRing
  menu : QmModule
  thread : LoopAt

structure LoopSystem.Rests (s : LoopSystem) (p : LoopPoint) : Prop where
  ring : s.race.ring = p.ring
  menu : s.menu = p.menu
  thread : s.thread = p.thread
  producer : s.race.producer = .idle
  consumer : s.race.consumer = .idle
  signalled : s.signalling = false

def Leads (eventFlagUid : Int) (p q : LoopPoint) : Prop :=
  ∀ s : LoopSystem, s.Rests p → ∃ t, (eventLoop eventFlagUid).Reaches s t ∧ t.Rests q

def LoopAt.afterReply : LoopAt → ReadReply → LoopAt
  | .flushing starting, _ => .readingBluetooth starting
  | .reading, reply =>
      match fetchNext reply with
      | .dropped => .resetting false
      | .stop => .looping
      | .event event => .handling event
  | thread, _ => thread

theorem LoopAt.afterCall_eq (thread : LoopAt) (outcome : ReadOutcome) :
    thread.afterCall outcome = thread.afterReply outcome.reply := by
  cases thread <;> rfl

section Leads

variable {eventFlagUid : Int} {p q r : LoopPoint} {ring : UmodRing} {menu : QmModule}
  {starting bluetoothOn : Bool}

theorem Leads.refl (p : LoopPoint) : Leads eventFlagUid p p := fun s hs => ⟨s, .refl, hs⟩

theorem Leads.trans (h : Leads eventFlagUid p q) (h' : Leads eventFlagUid q r) :
    Leads eventFlagUid p r := by
  intro s hs
  obtain ⟨t, hst, ht⟩ := h s hs
  obtain ⟨u, htu, hu⟩ := h' t ht
  exact ⟨u, ReflTransGen.trans hst htu, hu⟩

theorem eventLoop_thread {s t : LoopSystem} {a : LoopStep}
    (hother : emitterStep eventFlagUid s a = none) (h : loopThreadStep s a = some t) :
    (eventLoop eventFlagUid).step s a = some t := by
  simp only [eventLoop, hother, Option.none_or, h]

theorem LoopSystem.Rests.moved {s : LoopSystem} {thread : LoopAt}
    (h : s.Rests ⟨ring, menu, thread⟩) (next : LoopAt) (snapshot : Snapshot) :
    { s with thread := next, snapshot := snapshot }.Rests ⟨ring, menu, next⟩ :=
  ⟨h.ring, h.menu, rfl, h.producer, h.consumer, h.signalled⟩

theorem Leads.step {a : LoopStep} (hother : ∀ s, emitterStep eventFlagUid s a = none)
    (h : ∀ s : LoopSystem, s.Rests p → ∃ t, loopThreadStep s a = some t ∧ t.Rests q) :
    Leads eventFlagUid p q := by
  intro s hs
  obtain ⟨t, hstep, ht⟩ := h s hs
  exact ⟨t, .single ⟨a, eventLoop_thread (hother s) hstep⟩, ht⟩

theorem emitsOn_reaches {s : LoopSystem} {race : RingRace}
    (h : ReflTransGen EmitsOn s.race race) (hs : s.signalling = false) :
    (eventLoop eventFlagUid).Reaches s { s with race := race } := by
  induction h with
  | refl => exact .refl
  | @tail before after _ hstep ih =>
      obtain ⟨a, ha⟩ := hstep
      obtain ⟨owes, hemit⟩ : ∃ owes, (eventLoop eventFlagUid).step { s with race := before }
          (.producer a) = some { s with race := after, signalling := owes } := by
        simp only [eventLoop, emitterStep, hs, ha]
        exact ⟨_, rfl⟩
      refine ih.trans (.head ⟨_, hemit⟩ ?_)
      cases owes with
      | false => rw [← hs]
      | true =>
          refine .single ⟨.setFlag (-1), ?_⟩
          rw [hs]
          rfl

theorem Leads.emit (ring : UmodRing) (menu : QmModule) (thread : LoopAt)
    (event : Option VqmbtEvent) :
    Leads eventFlagUid ⟨ring, menu, thread⟩
      ⟨(umodCbEmitEvent eventFlagUid ring event).1, menu, thread⟩ := by
  intro s hs
  obtain ⟨race, hemits, hidle, hconsumer, hring⟩ :=
    emit_alone s.race hs.producer eventFlagUid event
  refine ⟨{ s with race := race }, emitsOn_reaches hemits hs.signalled, ?_⟩
  rw [hs.ring] at hring
  exact ⟨hring, hs.menu, hs.thread, hidle, hconsumer.trans hs.consumer, hs.signalled⟩

theorem readsOn_idle {s t : RingRace} (hs : s.consumer = .idle) : ¬ ReadsOn s t := by
  rintro ⟨a, hinside, ha⟩
  cases a with
  | read eventNull n => exact hinside trivial
  | _ => simp [consumerStep, hs] at ha

theorem readsOn_reaches {s : LoopSystem} {race : RingRace} {outcome : ReadOutcome}
    (h : ReflTransGen ReadsOn s.race race) (hcall : s.thread.InCall)
    (hbusy : s.race.consumer ≠ .idle) (hidle : race.consumer = .idle)
    (houtcomes : race.ledger.outcomes = outcome :: s.race.ledger.outcomes) :
    ∃ snapshot, (eventLoop eventFlagUid).Reaches s { s with
      race := race
      thread := s.thread.afterCall outcome
      snapshot := snapshot } := by
  generalize hrace : s.race = first at h
  induction h using ReflTransGen.head_induction_on generalizing s with
  | refl =>
      rw [hrace] at hbusy
      exact absurd hidle hbusy
  | @head _ next hstep hrest ih =>
      subst hrace
      obtain ⟨a, hinside, ha⟩ := hstep
      obtain ⟨done, hmove, -, hnew, hconsume⟩ := consume_eq ha hinside
      have hreads : (eventLoop eventFlagUid).step s (.consumer a) = some { s with
          race := next
          thread := s.thread.afterStep done
          snapshot := s.snapshot.afterStep a } :=
        eventLoop_thread rfl ((call_consumes hcall hinside).trans hconsume)
      cases done with
      | none =>
          have hnext : next.consumer ≠ .idle := fun hends => hmove.ends.mp hends rfl
          obtain ⟨snapshot, hlater⟩ := ih (s := { s with
            race := next
            thread := s.thread.afterStep none
            snapshot := s.snapshot.afterStep a }) hcall hnext (houtcomes.trans (by rw [hnew]; rfl))
            rfl
          exact ⟨snapshot, .head ⟨_, hreads⟩ hlater⟩
      | some ended =>
          have hends : next.consumer = .idle := hmove.ends.mpr (by simp)
          obtain rfl : next = race := by
            rcases hrest.cases_head with heq | ⟨_, hfurther, _⟩
            · exact heq
            · exact absurd hfurther (readsOn_idle hends)
          rw [hnew] at houtcomes
          obtain rfl := (List.cons.inj houtcomes).1
          exact ⟨_, .single ⟨_, hreads⟩⟩

theorem Leads.call (inside : LoopAt) {thread : LoopAt} {a : LoopStep} {eventNull : Bool}
    {numEvents : Int}
    (hvalid : ¬ Refuses eventNull numEvents) (hcall : inside.InCall)
    (hother : ∀ s, emitterStep eventFlagUid s a = none)
    (hbegins : ∀ s : LoopSystem, s.Rests ⟨ring, menu, thread⟩ → loopThreadStep s a = some { s with
      race := { s.race with consumer := .called numEvents }
      thread := inside })
    (copyRet : Int) :
    Leads eventFlagUid ⟨ring, menu, thread⟩
      ⟨(kvqmbtReadEvent copyRet ring eventNull numEvents).1, menu,
        inside.afterReply (kvqmbtReadEvent copyRet ring eventNull numEvents).2⟩ := by
  intro s hs
  let called : LoopSystem := { s with
    race := { s.race with consumer := .called numEvents }
    thread := inside }
  obtain ⟨race, outcome, hreads, hidle, hproducer, houtcomes, hresult⟩ :=
    call_alone s.race.ring s.race.producer s.race.torn s.race.ledger copyRet hvalid
  obtain ⟨snapshot, hreaches⟩ : ∃ snapshot, (eventLoop eventFlagUid).Reaches called { called with
      race := race
      thread := inside.afterCall outcome
      snapshot := snapshot } :=
    readsOn_reaches hreads hcall (by simp [called]) hidle houtcomes
  rw [hs.ring] at hresult
  have hring : race.ring = (kvqmbtReadEvent copyRet ring eventNull numEvents).1 :=
    congrArg Prod.fst hresult
  have hreply : outcome.reply = (kvqmbtReadEvent copyRet ring eventNull numEvents).2 :=
    congrArg Prod.snd hresult
  refine ⟨_, .head ⟨a, eventLoop_thread (hother s) (hbegins s hs)⟩ hreaches, hring, hs.menu, ?_,
    hproducer.trans hs.producer, hidle, hs.signalled⟩
  rw [← hreply, ← LoopAt.afterCall_eq]

theorem Leads.flush (ring : UmodRing) (menu : QmModule) (starting : Bool) :
    Leads eventFlagUid ⟨ring, menu, .resetting starting⟩
      ⟨(kvqmbtReadEvent 0 ring true 0).1, menu, .readingBluetooth starting⟩ := by
  refine .call (.flushing starting) (a := .beginFlush) (refuses_not_flush (by decide) true)
    trivial (fun _ => rfl) (fun s hs => ?_) 0
  simp only [loopThreadStep, hs.thread, consumerStep, hs.consumer]
  rfl

theorem Leads.read (ring : UmodRing) (menu : QmModule) :
    Leads eventFlagUid ⟨ring, menu, .fetching⟩
      ⟨(kvqmbtReadEvent 0 ring false 1).1, menu,
        LoopAt.reading.afterReply (kvqmbtReadEvent 0 ring false 1).2⟩ := by
  refine .call .reading (a := .beginRead) refuses_not_one trivial (fun _ => rfl)
    (fun s hs => ?_) 0
  simp only [loopThreadStep, hs.thread, consumerStep, hs.consumer]
  rfl

theorem Leads.bluetooth (ring : UmodRing) (menu : QmModule) (starting bluetoothOn : Bool) :
    Leads eventFlagUid ⟨ring, menu, .readingBluetooth starting⟩
      ⟨ring, menu, .readingDevices starting bluetoothOn⟩ := by
  refine .step (a := .bluetoothState bluetoothOn) (fun _ => rfl) fun s hs => ?_
  exact ⟨_, by simp only [loopThreadStep, hs.thread]; rfl, hs.moved _ _⟩

theorem Leads.apply (ring : UmodRing) (menu : QmModule) (starting bluetoothOn : Bool)
    (devices : List VqmbtDeviceInfo) :
    Leads eventFlagUid ⟨ring, menu, .readingDevices starting bluetoothOn⟩
      ⟨ring, (qmStateUpdateUi (fun _ => 0) menu
        (.bulkUpdate (resetBulk bluetoothOn devices))).1, .afterReset starting⟩ := by
  have hlisted : Leads eventFlagUid ⟨ring, menu, .readingDevices starting bluetoothOn⟩
      ⟨ring, menu, .applying starting (resetBulk bluetoothOn devices)⟩ := by
    refine .step (a := .pairedDevices devices) (fun _ => rfl) fun s hs => ?_
    exact ⟨_, by simp only [loopThreadStep, hs.thread]; rfl, hs.moved _ _⟩
  refine hlisted.trans (.step (a := .apply) (fun _ => rfl) fun s hs => ?_)
  refine ⟨_, by simp only [loopThreadStep, hs.thread]; rfl, ?_⟩
  exact ⟨hs.ring, by rw [hs.menu], rfl, hs.producer, hs.consumer, hs.signalled⟩

theorem Leads.waits (ring : UmodRing) (menu : QmModule) :
    Leads eventFlagUid ⟨ring, menu, .looping⟩ ⟨ring, menu, .waiting⟩ := by
  refine .step (a := .loopHead true) (fun _ => rfl) fun s hs => ?_
  exact ⟨_, by simp only [loopThreadStep, hs.thread]; rfl, hs.moved _ _⟩

theorem Leads.starts (ring : UmodRing) (menu : QmModule) :
    Leads eventFlagUid ⟨ring, menu, .gettingFlag⟩ ⟨ring, menu, .waiting⟩ := by
  refine .trans (.step (a := .getFlag 0) (fun _ => rfl) fun s hs => ?_) (.waits ring menu)
  exact ⟨_, by simp only [loopThreadStep, hs.thread]; rfl, hs.moved _ _⟩

theorem Leads.wakes (ring : UmodRing) (menu : QmModule) :
    Leads eventFlagUid ⟨ring, menu, .waiting⟩ ⟨ring, menu, .fetching⟩ := by
  refine .step (a := .timeout) (fun _ => rfl) fun s hs => ?_
  exact ⟨_, by simp only [loopThreadStep, hs.thread]; rfl, hs.moved _ _⟩

def LoopPoint.handled (ring : UmodRing) (menu : QmModule) (event : VqmbtEvent) : LoopPoint :=
  match handleEvent event with
  | .request request => ⟨ring, (qmStateUpdateUi (fun _ => 0) menu request).1, .fetching⟩
  | .reset => ⟨ring, menu, .resetting false⟩
  | .ignored => ⟨ring, menu, .fetching⟩

theorem Leads.handle (ring : UmodRing) (menu : QmModule) (event : VqmbtEvent) :
    Leads eventFlagUid ⟨ring, menu, .handling event⟩ (.handled ring menu event) := by
  refine .step (a := .handle) (fun _ => rfl) fun s hs => ?_
  simp only [loopThreadStep, hs.thread, LoopPoint.handled]
  cases handleEvent event with
  | request request =>
      exact ⟨_, rfl, hs.ring, by rw [hs.menu], rfl, hs.producer, hs.consumer, hs.signalled⟩
  | reset => exact ⟨_, rfl, hs.moved _ _⟩
  | ignored => exact ⟨_, rfl, hs.moved _ _⟩

end Leads

section Whole

variable {eventFlagUid : Int} {paired : PairedList}

def ThreadAt.inLoop : ThreadAt → LoopAt
  | .flushing inFetch => .resetting (!inFetch)
  | .readingBluetooth inFetch => .readingBluetooth (!inFetch)
  | .readingDevices inFetch bluetoothOn _ => .readingDevices (!inFetch) bluetoothOn
  | .waiting => .waiting
  | .fetching => .fetching
  | .handling event => .handling event

def EventSystem.point (s : EventSystem paired) : LoopPoint := ⟨s.ring, s.menu, s.thread.inLoop⟩

theorem Leads.afterReset (ring : UmodRing) (menu : QmModule) (inFetch : Bool) :
    Leads eventFlagUid ⟨ring, menu, .afterReset (!inFetch)⟩
      ⟨ring, menu, bif inFetch then .fetching else .waiting⟩ := by
  cases inFetch with
  | true => exact .refl _
  | false => exact .starts ring menu

theorem eventThread_leads {s t : EventSystem paired} {a : EventStep paired}
    (h : eventThreadStep s a = some t) : Leads eventFlagUid s.point t.point := by
  obtain ⟨truth, pending, ring, queue, thread, menu⟩ := s
  unfold eventThreadStep at h
  split at h
  · next inFetch hthread =>
      obtain rfl : thread = .flushing inFetch := hthread
      cases h
      exact .flush ring menu _
  · next inFetch hthread =>
      obtain rfl : thread = .readingBluetooth inFetch := hthread
      cases h
      exact .bluetooth ring menu _ true
  · next inFetch bluetoothOn devices hthread =>
      obtain rfl : thread = .readingDevices inFetch bluetoothOn devices := hthread
      split at h
      · cases h
        exact .refl _
      · cases h
  · next inFetch bluetoothOn devices hthread =>
      obtain rfl : thread = .readingDevices inFetch bluetoothOn devices := hthread
      split at h
      · cases h
        refine (Leads.apply ring menu _ bluetoothOn devices).trans ?_
        cases inFetch <;> exact .afterReset ring _ _
      · cases h
  · next hthread =>
      obtain rfl : thread = .waiting := hthread
      cases h
      exact .wakes ring menu
  · next hthread =>
      obtain rfl : thread = .fetching := hthread
      have hread : Leads eventFlagUid ⟨ring, menu, .fetching⟩ _ := .read ring menu
      generalize kvqmbtReadEvent 0 ring false 1 = result at h hread
      obtain ⟨ring', reply⟩ := result
      simp only [LoopAt.afterReply] at h hread
      cases hnext : fetchNext reply with
      | dropped =>
          rw [hnext] at h hread
          cases h
          exact hread
      | stop =>
          rw [hnext] at h hread
          cases h
          exact hread.trans (.waits _ menu)
      | event event =>
          rw [hnext] at h hread
          cases h
          exact hread
  · next event hthread =>
      obtain rfl : thread = .handling event := hthread
      have hhandle : Leads eventFlagUid ⟨ring, menu, .handling event⟩ _ := .handle ring menu event
      simp only [LoopPoint.handled] at h hhandle
      cases hcall : handleEvent event <;>
        · rw [hcall] at h hhandle
          cases h
          exact hhandle
  · cases h

theorem kernel_leads {s t : EventSystem paired} {a : EventStep paired}
    (h : kernelStep eventFlagUid s a = some t) : Leads eventFlagUid s.point t.point := by
  obtain ⟨truth, pending, ring, queue, thread, menu⟩ := s
  unfold kernelStep at h
  split at h
  · cases h
    exact .refl _
  · split at h
    · cases h
    · cases h
      exact .emit ring menu _ _
  · split at h
    · cases h
      exact .refl _
    · cases h
  · cases h

theorem eventSystem_in_loop {past : List (Transition (EventSystem paired) (EventStep paired))}
    {s : EventSystem paired} (h : (eventSystem paired eventFlagUid).Run past s) :
    ∃ fine t, (eventLoop eventFlagUid).Run fine t ∧ t.Rests s.point := by
  induction h with
  | @start s hs =>
      obtain ⟨_, _, _, _, hthread⟩ := hs
      refine ⟨[], { LoopSystem.boot s.ring with menu := s.menu }, .start ⟨rfl, rfl, rfl⟩, ?_⟩
      exact ⟨rfl, rfl, by rw [EventSystem.point, hthread]; rfl, rfl, rfl, rfl⟩
  | next _ hstep ih =>
      obtain ⟨fine, t, hrun, ht⟩ := ih
      have hleads := (Option.or_eq_some_iff.mp hstep).elim kernel_leads
        fun hthread => eventThread_leads hthread.2
      obtain ⟨u, hreaches, hu⟩ := hleads t ht
      obtain ⟨later, hlater⟩ := hrun.reaches hreaches
      exact ⟨later, u, hlater, hu⟩

def FetchState.point (s : FetchState) (thread : LoopAt) : LoopPoint := ⟨s.ring, s.menu, thread⟩

theorem reset_leads (k : ResetKernel) (s : FetchState) :
    Leads eventFlagUid (s.point (.resetting false)) ((reset k s).point .fetching) :=
  (Leads.flush s.ring s.menu false).trans
    ((Leads.bluetooth _ s.menu false (k.bluetoothState s.resets)).trans
      (.apply _ s.menu false _ (k.pairedDevices s.resets)))

variable (eventFlagUid) in
theorem fetchTurn_leads (k : ResetKernel) (s : FetchState) :
    match fetchTurn k s with
    | .inl t => Leads eventFlagUid (s.point .fetching) (t.point .fetching)
    | .inr t => Leads eventFlagUid (s.point .fetching) (t.point .looping) := by
  have hread : Leads eventFlagUid (s.point .fetching) _ := .read s.ring s.menu
  unfold fetchTurn
  generalize kvqmbtReadEvent 0 s.ring false 1 = result at hread
  obtain ⟨ring, reply⟩ := result
  simp only [LoopAt.afterReply] at hread ⊢
  cases hnext : fetchNext reply with
  | dropped =>
      rw [hnext] at hread
      exact hread.trans (reset_leads k { s with ring := ring })
  | stop =>
      rw [hnext] at hread
      exact hread
  | event event =>
      rw [hnext] at hread
      have hhandle : Leads eventFlagUid ⟨ring, s.menu, .handling event⟩ _ :=
        .handle ring s.menu event
      simp only [LoopPoint.handled] at hhandle ⊢
      cases hcall : handleEvent event with
      | request request =>
          rw [hcall] at hhandle
          exact hread.trans hhandle
      | reset =>
          rw [hcall] at hhandle
          exact hread.trans (hhandle.trans (reset_leads k { s with ring := ring }))
      | ignored =>
          rw [hcall] at hhandle
          exact hread.trans hhandle

theorem fetchEvents_leads {k : ResetKernel} {s t : FetchState} (h : Ends (fetchTurn k) s t) :
    Leads eventFlagUid (s.point .fetching) (t.point .looping) := by
  obtain ⟨fuel, hfuel⟩ := h
  induction fuel generalizing s with
  | zero => cases hfuel
  | succ fuel ih =>
      rw [runLoop] at hfuel
      have hleads := fetchTurn_leads eventFlagUid k s
      cases hturn : fetchTurn k s with
      | inl next =>
          rw [hturn] at hfuel hleads
          exact hleads.trans (ih hfuel)
      | inr last =>
          rw [hturn] at hfuel hleads
          obtain rfl := Option.some.inj hfuel
          exact hleads

def MenuThreadAt.inLoop : MenuThreadAt → LoopAt
  | .closed => .ended
  | .flushing inFetch => .resetting (!inFetch)
  | .readingBluetooth inFetch => .readingBluetooth (!inFetch)
  | .readingRegistered inFetch driver | .readingConnecting inFetch driver _ _ =>
      .readingDevices (!inFetch) (kvqmbtBluetoothState driver)
  | .waiting => .waiting
  | .fetching => .fetching
  | .handling event => .handling event

def BtSystem.point (s : BtSystem) : LoopPoint := ⟨s.pipe.ring, s.menu, s.thread.inLoop⟩

def BtSystemStep.OfLoop : BtSystemStep → Prop
  | .press _ _ _ _ | .openMenu | .closeMenu => False
  | _ => True

theorem menuThread_leads {cbOverflow : Int} {s t : BtSystem} {a : BtSystemStep}
    (h : menuThreadStep cbOverflow eventFlagUid s a = some t) (ha : a.OfLoop) :
    Leads eventFlagUid s.point t.point := by
  obtain ⟨devices, announced, pipe, thread, menu⟩ := s
  unfold menuThreadStep at h
  split at h
  · exact ha.elim
  · exact ha.elim
  · next inFetch hthread =>
      obtain rfl : thread = .flushing inFetch := hthread
      cases h
      exact .flush pipe.ring menu _
  · next inFetch driver hthread =>
      obtain rfl : thread = .readingBluetooth inFetch := hthread
      cases h
      exact .bluetooth pipe.ring menu _ (kvqmbtBluetoothState driver)
  · next inFetch driver hthread =>
      obtain rfl : thread = .readingRegistered inFetch driver := hthread
      cases h
      exact .refl _
  · next inFetch driver registered states hthread =>
      obtain rfl : thread = .readingConnecting inFetch driver registered states := hthread
      split at h
      · cases h
        exact .refl _
      · cases h
  · next inFetch driver registered states hthread =>
      obtain rfl : thread = .readingConnecting inFetch driver registered states := hthread
      simp only [asked_request, Option.ite_none_right_eq_some, Option.some.injEq] at h
      obtain ⟨_, rfl⟩ := h
      refine (Leads.apply pipe.ring menu _ _ ((List.range registered.length).map
        (exportDevice (askedDevices registered states)))).trans ?_
      cases inFetch <;> exact .afterReset pipe.ring _ _
  · next hthread =>
      obtain rfl : thread = .waiting := hthread
      cases h
      exact .wakes pipe.ring menu
  · next hthread =>
      obtain rfl : thread = .fetching := hthread
      have hread : Leads eventFlagUid ⟨pipe.ring, menu, .fetching⟩ _ := .read pipe.ring menu
      simp only [BtEvent.pipeStep, Option.map_some, Option.some.injEq] at h
      subst h
      generalize kvqmbtReadEvent 0 pipe.ring false 1 = result at hread ⊢
      simp only [LoopAt.afterReply, BtSystem.fetched] at hread ⊢
      cases hnext : fetchNext result.2 with
      | dropped =>
          rw [hnext] at hread
          exact hread
      | stop =>
          rw [hnext] at hread
          exact hread.trans (.waits _ menu)
      | event event =>
          rw [hnext] at hread
          exact hread
  · next event hthread =>
      obtain rfl : thread = .handling event := hthread
      have hhandle : Leads eventFlagUid ⟨pipe.ring, menu, .handling event⟩ _ :=
        .handle pipe.ring menu event
      cases h
      simp only [LoopPoint.handled, BtSystem.handled] at hhandle ⊢
      cases hcall : handleEvent event <;>
        · rw [hcall] at hhandle
          exact hhandle
  · cases h

theorem pipe_ring {cbOverflow : Int} {pipe after : BtEvent.DriverPipe} {a : BtEvent.PipeStep}
    (h : BtEvent.pipeStep cbOverflow eventFlagUid pipe a = some after)
    (hread : ∀ eventNull numEvents copyRet, a ≠ .read eventNull numEvents copyRet) :
    after.ring = pipe.ring ∨
      ∃ event, after.ring = (umodCbEmitEvent eventFlagUid pipe.ring event).1 := by
  cases a with
  | read eventNull numEvents copyRet => exact absurd rfl (hread _ _ _)
  | hide event =>
      simp only [BtEvent.pipeStep, Option.ite_none_right_eq_some, Option.some.injEq] at h
      obtain ⟨_, rfl⟩ := h
      exact .inl rfl
  | notify =>
      simp only [BtEvent.pipeStep] at h
      split at h
      · cases h
        exact .inl rfl
      · cases h
  | readEvent ret event =>
      simp only [BtEvent.pipeStep] at h
      split at h
      · split_ifs at h <;>
          · cases h
            exact .inl rfl
      · cases h
  | emit =>
      obtain ⟨ring, hturn, rfl⟩ := Option.map_eq_some_iff.mp h
      unfold BtEvent.emitTurn at hturn
      split at hturn
      · cases hturn
        exact .inr ⟨_, rfl⟩
      · split at hturn
        · cases hturn
          exact .inl rfl
        · cases hturn
          exact .inr ⟨_, rfl⟩
      · cases hturn

theorem callback_leads {cbOverflow : Int} {s t : BtSystem} {a : BtSystemStep}
    (h : callbackStep cbOverflow eventFlagUid s a = some t) :
    Leads eventFlagUid s.point t.point := by
  have hpipe {act : BtEvent.PipeStep} {pipe : BtEvent.DriverPipe}
      (hact : BtEvent.pipeStep cbOverflow eventFlagUid s.pipe act = some pipe)
      (hread : ∀ eventNull numEvents copyRet, act ≠ .read eventNull numEvents copyRet) :
      Leads eventFlagUid s.point ⟨pipe.ring, s.menu, s.thread.inLoop⟩ := by
    rcases pipe_ring hact hread with hring | ⟨event, hring⟩
    · rw [hring]
      exact .refl _
    · rw [hring]
      exact .emit _ _ _ event
  unfold callbackStep at h
  split at h
  · obtain ⟨pipe, hact, rfl⟩ := Option.map_eq_some_iff.mp h
    exact hpipe hact nofun
  · split at h
    · cases h
    · obtain ⟨pipe, hact, rfl⟩ := Option.map_eq_some_iff.mp h
      exact hpipe hact nofun
    · obtain ⟨pipe, hact, rfl⟩ := Option.map_eq_some_iff.mp h
      exact hpipe hact nofun
  · split at h
    · cases h
    · obtain ⟨pipe, hact, rfl⟩ := Option.map_eq_some_iff.mp h
      exact hpipe hact nofun
  · obtain ⟨pipe, hact, rfl⟩ := Option.map_eq_some_iff.mp h
    exact hpipe hact nofun
  · cases h

theorem driver_leads {errors : ConnectStartErrors} {s t : BtSystem} {a : BtSystemStep}
    (h : driverStep errors s a = some t) (ha : a.OfLoop) : Leads eventFlagUid s.point t.point := by
  cases a with
  | change devices events =>
      cases h
      exact .refl _
  | overflow kept lost =>
      cases h
      exact .refl _
  | press idx driver devices events => exact ha.elim
  | _ => cases h

theorem btSystem_leads {errors : ConnectStartErrors} {cbOverflow : Int} {s t : BtSystem}
    {acts : List BtSystemStep} (hacts : ∀ a ∈ acts, a.OfLoop)
    (h : (btSystem errors cbOverflow eventFlagUid).exec s acts = some t) :
    Leads eventFlagUid s.point t.point := by
  induction acts generalizing s with
  | nil =>
      obtain rfl := Option.some.inj h
      exact .refl _
  | cons a acts ih =>
      obtain ⟨ha, hlater⟩ := List.forall_mem_cons.mp hacts
      obtain ⟨u, hstep, hrest⟩ := Option.bind_eq_some_iff.mp h
      refine Leads.trans ?_ (ih hlater hrest)
      rcases Option.or_eq_some_iff.mp hstep with hkernel | ⟨_, hthread⟩
      · rcases Option.or_eq_some_iff.mp hkernel with hdriver | ⟨_, hcallback⟩
        · exact driver_leads hdriver ha
        · exact callback_leads hcallback
      · exact menuThread_leads hthread ha

end Whole

section Menu

def LoopAt.resetAt : LoopAt → ResetAt
  | .readingDevices _ bluetoothOn => .haveBluetooth bluetoothOn
  | .applying _ bulk => .haveDevices bulk
  | _ => .idle

def LoopSystem.seen (s : LoopSystem) (kernel : KernelReport) : MenuThreads :=
  ⟨kernel, s.menu, s.thread.resetAt⟩

theorem seen_unchanged {s t : LoopSystem} (hmenu : t.menu = s.menu)
    (hreset : t.thread.resetAt = s.thread.resetAt) (kernel : KernelReport) :
    menuThreads.Reaches (s.seen kernel) (t.seen kernel) := by
  rw [LoopSystem.seen, LoopSystem.seen, hmenu, hreset]
  exact .refl

theorem consume_seen {s t : LoopSystem} {a : ReadStep} (h : s.consume a = some t)
    (hcall : s.thread.InCall) (kernel : KernelReport) :
    menuThreads.Reaches (s.seen kernel) (t.seen kernel) := by
  obtain ⟨race, _, rfl⟩ := Option.map_eq_some_iff.mp h
  refine seen_unchanged (by rfl) ?_ kernel
  cases hthread : s.thread with
  | flushing starting => dsimp only; split <;> rfl
  | reading =>
      dsimp only
      split
      · next outcome _ _ _ =>
          rw [LoopAt.afterCall]
          cases fetchNext outcome.reply <;> rfl
      · rfl
  | _ =>
      rw [hthread] at hcall
      exact hcall.elim

theorem afterReset_resetAt (starting : Bool) : (LoopAt.afterReset starting).resetAt = .idle := by
  cases starting <;> rfl

theorem kernel_reports (kernel later : KernelReport) (menu : QmModule) (reset : ResetAt) :
    menuThreads.step ⟨kernel, menu, reset⟩ (.kernelChange later) = some ⟨later, menu, reset⟩ := by
  cases reset <;> rfl

theorem handled_seen {s t : LoopSystem} {event : VqmbtEvent} (hthread : s.thread = .handling event)
    (h : loopThreadStep s .handle = some t) (kernel : KernelReport) :
    menuThreads.Reaches (s.seen kernel) (t.seen kernel) := by
  have hseen : s.seen kernel = ⟨kernel, s.menu, .idle⟩ := by rw [LoopSystem.seen, hthread]; rfl
  rw [hseen]
  simp only [loopThreadStep, hthread] at h
  cases hcall : handleEvent event with
  | request request =>
      rw [hcall] at h
      cases h
      exact .single ⟨.handle event, by simp only [menuThreads, menuStep, hcall]; rfl⟩
  | reset =>
      rw [hcall] at h
      cases h
      exact .refl
  | ignored =>
      rw [hcall] at h
      cases h
      exact .refl

theorem thread_seen {s t : LoopSystem} {a : LoopStep} (h : loopThreadStep s a = some t)
    (kernel : KernelReport) :
    ∃ later, menuThreads.Reaches (s.seen kernel) (t.seen later) := by
  unfold loopThreadStep at h
  split at h
  · next hthread =>
      obtain ⟨race, _, rfl⟩ := Option.map_eq_some_iff.mp h
      exact ⟨kernel, seen_unchanged (by rfl) (by rw [hthread]; rfl) kernel⟩
  · next hthread =>
      obtain ⟨race, _, rfl⟩ := Option.map_eq_some_iff.mp h
      exact ⟨kernel, seen_unchanged (by rfl) (by rw [hthread]; rfl) kernel⟩
  · cases h
  · cases h
  · next hthread => exact ⟨kernel, consume_seen h (by rw [hthread]; trivial) kernel⟩
  · next hthread => exact ⟨kernel, consume_seen h (by rw [hthread]; trivial) kernel⟩
  · next starting bluetoothOn hthread =>
      cases h
      refine ⟨⟨bluetoothOn, []⟩, ?_⟩
      rw [LoopSystem.seen, hthread]
      exact .head ⟨_, kernel_reports kernel ⟨bluetoothOn, []⟩ s.menu .idle⟩
        (.single ⟨.readBluetooth, rfl⟩)
  · next starting bluetoothOn devices hthread =>
      cases h
      refine ⟨⟨bluetoothOn, devices⟩, ?_⟩
      rw [LoopSystem.seen, hthread]
      exact .head
        ⟨_, kernel_reports kernel ⟨bluetoothOn, devices⟩ s.menu (.haveBluetooth bluetoothOn)⟩
        (.single ⟨.readDevices, rfl⟩)
  · next starting bluetoothOn hthread =>
      cases h
      refine ⟨kernel, .single ⟨.readFails, ?_⟩⟩
      rw [LoopSystem.seen, LoopSystem.seen, hthread, afterReset_resetAt]
      rfl
  · next starting bulk hthread =>
      cases h
      refine ⟨kernel, .single ⟨.apply, ?_⟩⟩
      rw [LoopSystem.seen, LoopSystem.seen, hthread, afterReset_resetAt]
      rfl
  · next ret hthread =>
      cases h
      refine ⟨kernel, seen_unchanged (by rfl) ?_ kernel⟩
      rw [hthread]
      dsimp only
      split <;> rfl
  · next runThread hthread =>
      cases h
      refine ⟨kernel, seen_unchanged (by rfl) ?_ kernel⟩
      rw [hthread]
      dsimp only
      split <;> rfl
  · next hthread =>
      split at h
      · cases h
        exact ⟨kernel, seen_unchanged (by rfl) (by rw [hthread]; rfl) kernel⟩
      · cases h
  · next hthread =>
      cases h
      exact ⟨kernel, seen_unchanged (by rfl) (by rw [hthread]; rfl) kernel⟩
  · next hthread =>
      cases h
      exact ⟨kernel, seen_unchanged (by rfl) (by rw [hthread]; rfl) kernel⟩
  · next event hthread =>
      exact ⟨kernel, handled_seen hthread (by simp only [loopThreadStep, hthread]; exact h) kernel⟩
  · cases h

theorem emitter_seen {eventFlagUid : Int} {s t : LoopSystem} {a : LoopStep}
    (h : emitterStep eventFlagUid s a = some t) : t.menu = s.menu ∧ t.thread = s.thread := by
  unfold emitterStep at h
  split at h
  · split at h
    · cases h
    · obtain ⟨race, _, rfl⟩ := Option.map_eq_some_iff.mp h
      exact ⟨rfl, rfl⟩
  · split at h
    · cases h
      exact ⟨rfl, rfl⟩
    · cases h
  · cases h

theorem eventLoop_seen {eventFlagUid : Int} {past : List (Transition LoopSystem LoopStep)}
    {s : LoopSystem} (h : (eventLoop eventFlagUid).Run past s) :
    ∃ kernel coarse, menuThreads.Run coarse (s.seen kernel) := by
  induction h with
  | @start s hs =>
      obtain ⟨_, hthread, _⟩ := hs
      refine ⟨⟨true, []⟩, [], .start ?_⟩
      show s.thread.resetAt = .idle
      rw [hthread]
      rfl
  | next _ hstep ih =>
      obtain ⟨kernel, coarse, hrun⟩ := ih
      rcases Option.or_eq_some_iff.mp hstep with hemit | ⟨_, hthread⟩
      · obtain ⟨hmenu, hsame⟩ := emitter_seen hemit
        obtain ⟨later, hlater⟩ := hrun.reaches (seen_unchanged hmenu (by rw [hsame]) kernel)
        exact ⟨kernel, later, hlater⟩
      · obtain ⟨report, hreaches⟩ := thread_seen hthread kernel
        obtain ⟨later, hlater⟩ := hrun.reaches hreaches
        exact ⟨report, later, hlater⟩

end Menu

end VitaQmBluetooth
