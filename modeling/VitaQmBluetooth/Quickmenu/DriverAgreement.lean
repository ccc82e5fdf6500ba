import Mathlib.Logic.Relation
import VitaQmBluetooth.Foundation.Interleaving
import VitaQmBluetooth.Quickmenu.Announcements

namespace VitaQmBluetooth

open Foundation Replication

inductive MenuThreadAt where
  | closed
  | flushing (inFetch : Bool)
  | readingBluetooth (inFetch : Bool)
  | readingRegistered (inFetch : Bool) (driver : SceBtDriver)
  | readingConnecting (inFetch : Bool) (driver : SceBtDriver)
      (registered : List SceBtRegisteredInfo) (states : List Int)
  | waiting
  | fetching
  | handling (event : VqmbtEvent)

namespace MenuThreadAt

def afterReset (inFetch : Bool) : MenuThreadAt := if inFetch = true then .fetching else .waiting

def inHand : MenuThreadAt → List VqmbtEvent
  | .handling event => [event]
  | _ => []

def Current : MenuThreadAt → Prop
  | .waiting | .fetching | .handling _ => True
  | _ => False

def Unread : MenuThreadAt → Cell → Prop
  | .closed | .flushing _ | .readingBluetooth _ | .readingRegistered _ _ => fun _ => True
  | .readingConnecting _ _ registered states => fun cell =>
      match cell with
      | .addresses => False
      | .device mac => mac ∉ (registered.map (·.exportedMac)).take states.length
  | .waiting | .fetching | .handling _ => fun _ => False

def Afresh : MenuThreadAt → Prop
  | .closed | .flushing _ | .readingBluetooth _ => True
  | _ => False

theorem Current.read {thread : MenuThreadAt} (h : thread.Current) (cell : Cell) :
    ¬ thread.Unread cell := by
  cases thread with
  | waiting => exact id
  | fetching => exact id
  | handling event => exact id
  | _ => exact absurd h id

end MenuThreadAt

structure BtSystem where
  devices : BtDevices
  announced : List (Option SceBtEvent)
  pipe : BtEvent.DriverPipe
  thread : MenuThreadAt
  menu : QmModule

inductive BtSystemStep where
  | change (devices : BtDevices) (events : List SceBtEvent)
  | overflow (kept lost : Nat)
  | press (idx : Fin vqmbtMaxDevices) (driver : SceBtDriver) (devices : BtDevices)
      (events : List SceBtEvent)
  | notify
  | nextEvent
  | noEvent (ret : Int)
  | emit
  | openMenu
  | closeMenu
  | flush
  | readBluetooth (driver : SceBtDriver)
  | readRegistered
  | readConnecting
  | apply
  | wake
  | read
  | handle

section Step

variable (errors : ConnectStartErrors) (cbOverflow eventFlagUid : Int)

-- An accepted call sets the driver to work; what then becomes of its devices is its own affair.
def driverStep (s : BtSystem) : BtSystemStep → Option BtSystem
  | .change devices events =>
      some { s with devices := devices, announced := s.announced ++ events.map some }
  | .overflow kept lost =>
      some { s with announced := s.announced.take kept ++ none :: s.announced.drop (kept + lost) }
  | .press idx driver devices events =>
      let (menu, reply) := qmStateUpdateUi (kvqmbtCall errors driver) s.menu (.buttonPressed idx)
      if reply.calls.any (fun call => 0 ≤ kvqmbtCall errors driver call) = true then
        some { s with
          devices := devices
          announced := s.announced ++ events.map some
          menu := menu }
      else some { s with menu := menu }
  | _ => none

def callbackStep (s : BtSystem) : BtSystemStep → Option BtSystem
  | .notify =>
      (BtEvent.pipeStep cbOverflow eventFlagUid s.pipe .notify).map fun pipe =>
        { s with pipe := pipe }
  | .nextEvent =>
      match s.announced with
      | [] => none
      | none :: rest =>
          (BtEvent.pipeStep cbOverflow eventFlagUid s.pipe
            (.readEvent cbOverflow ⟨0, 0, 0, 0, 0⟩)).map fun pipe =>
              { s with announced := rest, pipe := pipe }
      | some event :: rest =>
          (BtEvent.pipeStep cbOverflow eventFlagUid s.pipe (.readEvent 1 event)).map fun pipe =>
            { s with announced := rest, pipe := pipe }
  | .noEvent ret =>
      if ret = cbOverflow ∨ 0 < ret then none
      else (BtEvent.pipeStep cbOverflow eventFlagUid s.pipe
        (.readEvent ret ⟨0, 0, 0, 0, 0⟩)).map fun pipe => { s with pipe := pipe }
  | .emit =>
      (BtEvent.pipeStep cbOverflow eventFlagUid s.pipe .emit).map fun pipe =>
        { s with pipe := pipe }
  | _ => none

def BtSystem.fetched (s : BtSystem) (reply : ReadReply) (pipe : BtEvent.DriverPipe) : BtSystem :=
  match fetchNext reply with
  | .dropped => { s with pipe := pipe, thread := .flushing true }
  | .stop => { s with pipe := pipe, thread := .waiting }
  | .event event => { s with pipe := pipe, thread := .handling event }

def BtSystem.handled (s : BtSystem) (event : VqmbtEvent) : BtSystem :=
  match handleEvent event with
  | .request request =>
      { s with
        menu := (qmStateUpdateUi (fun _ => 0) s.menu request).1
        thread := .fetching }
  | .reset => { s with thread := .flushing true }
  | .ignored => { s with thread := .fetching }

def menuThreadStep (s : BtSystem) (a : BtSystemStep) : Option BtSystem :=
  match s.thread, a with
  | .closed, .openMenu => some { s with thread := .flushing false }
  | .waiting, .closeMenu => some { s with thread := .closed }
  | .flushing inFetch, .flush =>
      (BtEvent.pipeStep cbOverflow eventFlagUid s.pipe (.read true 0 0)).map fun pipe =>
        { s with pipe := pipe, thread := .readingBluetooth inFetch }
  | .readingBluetooth inFetch, .readBluetooth driver =>
      some { s with thread := .readingRegistered inFetch driver }
  | .readingRegistered inFetch driver, .readRegistered =>
      some { s with thread := .readingConnecting inFetch driver s.devices.registered [] }
  | .readingConnecting inFetch driver registered states, .readConnecting =>
      if h : states.length < registered.length then
        let mac := registered[states.length].exportedMac
        some { s with
          thread := .readingConnecting inFetch driver registered
            (states ++ [s.devices.connecting mac.1 mac.2]) }
      else none
  | .readingConnecting inFetch driver registered states, .apply =>
      if states.length = registered.length then
        match resetRequest (askedDevices registered states) driver with
        | none => some { s with thread := .afterReset inFetch }
        | some bulk =>
            some { s with
              menu := (qmStateUpdateUi (fun _ => 0) s.menu (.bulkUpdate bulk)).1
              thread := .afterReset inFetch }
      else none
  | .waiting, .wake => some { s with thread := .fetching }
  | .fetching, .read =>
      (BtEvent.pipeStep cbOverflow eventFlagUid s.pipe (.read false 1 0)).map
        (s.fetched (kvqmbtReadEvent 0 s.pipe.ring false 1).2)
  | .handling event, .handle => some (s.handled event)
  | _, _ => none

def btSystem : Lts BtSystem BtSystemStep where
  start s := (∃ past, s.menu = quickMenu.after past) ∧ s.announced = [] ∧
    s.pipe.ring.readIdx = s.pipe.ring.writeIdx ∧ s.pipe.callback = .away ∧ s.thread = .closed
  step s a := ((driverStep errors s a).or (callbackStep cbOverflow eventFlagUid s a)).or
    (menuThreadStep cbOverflow eventFlagUid s a)

def SystemOk (x : Transition BtSystem BtSystemStep) : Prop :=
  match x.act with
  | .change devices events => Announced x.before.devices devices events
  | .press idx driver devices events =>
      ∀ call ∈ (qmStateUpdateUi (kvqmbtCall errors driver) x.before.menu
        (.buttonPressed idx)).2.calls, 0 ≤ kvqmbtCall errors driver call →
          Announced x.before.devices devices events ∧ Taken call devices events
  | .readBluetooth driver => driver.configuration = 0x9
  | .emit => (x.before.pipe.ring.writeIdx - x.before.pipe.ring.readIdx).toNat + 1 < 2 ^ 32
  | _ => True

def PressRefused (x : Transition BtSystem BtSystemStep) (idx : Fin vqmbtMaxDevices) : Prop :=
  match x.act with
  | .press pressed driver _ _ => pressed = idx ∧
      ∃ call ∈ (qmStateUpdateUi (kvqmbtCall errors driver) x.before.menu
        (.buttonPressed pressed)).2.calls, kvqmbtCall errors driver call < 0
  | _ => False

def NewsTaken (x : Transition BtSystem BtSystemStep) (idx : Fin vqmbtMaxDevices) : Prop :=
  match x.act, x.before.thread with
  | .apply, _ => True
  | .handle, .handling event =>
      eventUpdate event (.device (x.before.menu.qmState.buttons idx).device.mac) ≠ .skip
  | _, _ => False

def RefusedSince : List (Transition BtSystem BtSystemStep) → Fin vqmbtMaxDevices → Prop
  | [], _ => False
  | x :: older, idx => PressRefused errors x idx ∨ RefusedSince older idx ∧ ¬ NewsTaken x idx

end Step

def ThreadTells (Excused : Fin vqmbtMaxDevices → Prop) (slots : Fin vqmbtMaxDevices → QmButton)
    (p : Picture) : MenuThreadAt → Prop
  | .closed | .flushing _ | .readingBluetooth _ => True
  | .readingRegistered _ driver => driver.configuration = 0x9
  | .readingConnecting _ driver registered states =>
      driver.configuration = 0x9 ∧ registered.map (·.exportedMac) = p.addresses.macs ∧
        states.length ≤ registered.length ∧
        ∀ i (h : i < p.addresses.macs.length), i < states.length →
          (VqmbtInferredDevState.ofInt (states.getD i 0)).shownAs = p.shown p.addresses.macs[i]
  | .waiting | .fetching | .handling _ => SlotsTell Excused slots p

namespace ThreadTells

variable {Excused Excused' : Fin vqmbtMaxDevices → Prop}
  {slots slots' : Fin vqmbtMaxDevices → QmButton} {p p' : Picture} {thread : MenuThreadAt}

theorem current (h : thread.Current) :
    ThreadTells Excused slots p thread ↔ SlotsTell Excused slots p := by
  cases thread with
  | waiting => exact Iff.rfl
  | fetching => exact Iff.rfl
  | handling event => exact Iff.rfl
  | _ => exact absurd h id

theorem anew (h : ThreadTells Excused slots p thread) (hcurrent : ¬ thread.Current)
    (hread : ∀ cell, ¬ thread.Unread cell → p' cell = p cell) :
    ThreadTells Excused' slots' p' thread := by
  cases thread with
  | closed => trivial
  | flushing inFetch => trivial
  | readingBluetooth inFetch => trivial
  | readingRegistered inFetch driver => exact h
  | readingConnecting inFetch driver registered states =>
      obtain ⟨hon, hexported, hlength, hstates⟩ := h
      have haddresses : p'.addresses = p.addresses := hread .addresses id
      refine ⟨hon, by rw [haddresses, hexported], hlength, fun i hi hlt => ?_⟩
      simp only [haddresses] at hi ⊢
      have hshown : p'.shown p.addresses.macs[i] = p.shown p.addresses.macs[i] := by
        refine hread (.device p.addresses.macs[i]) (not_not.mpr ?_)
        rw [hexported]
        exact List.mem_take_iff_getElem.mpr ⟨i, by omega, rfl⟩
      rw [hshown]
      exact hstates i hi hlt
  | waiting => exact absurd trivial hcurrent
  | fetching => exact absurd trivial hcurrent
  | handling event => exact absurd trivial hcurrent

theorem mono (h : ThreadTells Excused slots p thread)
    (hexcused : ∀ idx, Excused idx → Excused' idx) : ThreadTells Excused' slots p thread := by
  by_cases hcurrent : thread.Current
  · rw [current hcurrent] at h ⊢
    exact h.congr rfl (fun _ _ => rfl) fun idx _ => hexcused idx
  · exact h.anew hcurrent fun _ _ => rfl

end ThreadTells

section Simulation

variable {errors : ConnectStartErrors} {cbOverflow eventFlagUid : Int}
  {past : List (Transition BtSystem BtSystemStep)} {s t : BtSystem}
  {r : Replication Cell Cell.Value VqmbtEvent}

structure Pictured (errors : ConnectStartErrors) (past : List (Transition BtSystem BtSystemStep))
    (s : BtSystem) (r : Replication Cell Cell.Value VqmbtEvent) : Prop where
  truth : r.truth = s.devices.picture
  unread : r.Unread = s.thread.Unread
  onWay : ∃ waiting, RingHolds s.pipe.ring waiting ∧
    r.onWay = s.thread.inHand ++ waiting ++
      (s.pipe.callback.inHand ++ s.announced.filterMap BtEvent.emittedFor)
  keepsOn : ∀ event ∈ r.onWay, KeepsBluetooth event
  thread : ThreadTells (RefusedSince errors past) s.menu.qmState.buttons r.known s.thread
  zeroed : EmptyZeroed s.menu.qmState.buttons

theorem RefusedSince.older {x : Transition BtSystem BtSystemStep} {idx : Fin vqmbtMaxDevices}
    (h : RefusedSince errors past idx) (hnone : ¬ NewsTaken x idx) :
    RefusedSince errors (x :: past) idx := .inr ⟨h, hnone⟩

abbrev PictureMove := Move eventUpdate Cell.Settled

def Follows (errors : ConnectStartErrors) (past : List (Transition BtSystem BtSystemStep))
    (t : BtSystem) (r : Replication Cell Cell.Value VqmbtEvent) : Prop :=
  ∃ r', Pictured errors past t r' ∧ Relation.ReflGen PictureMove r r'

theorem keepsBluetooth_news {events : List SceBtEvent}
    (h : ∀ event ∈ events, event.id ≠ BtEvent.toggleBluetooth) :
    ∀ emitted ∈ events.filterMap BtEvent.handleEvent, KeepsBluetooth emitted := by
  intro emitted hmem
  obtain ⟨event, hevent, hemitted⟩ := List.mem_filterMap.mp hmem
  exact keepsBluetooth_emitted (h event hevent) hemitted

theorem Pictured.announce (h : Pictured errors past s r) {devices : BtDevices}
    {events : List SceBtEvent} (hannounced : Announced s.devices devices events)
    (x : Transition BtSystem BtSystemStep) {known : Picture} {menu : QmModule}
    (hthread : ThreadTells (RefusedSince errors (x :: past)) menu.qmState.buttons known s.thread)
    (hzeroed : EmptyZeroed menu.qmState.buttons) :
    Pictured errors (x :: past)
      { s with
        devices := devices
        announced := s.announced ++ events.map some
        menu := menu }
      ⟨devices.picture, r.onWay ++ events.filterMap BtEvent.handleEvent, known, r.Unread⟩ := by
  obtain ⟨waiting, hring, honWay⟩ := h.onWay
  refine ⟨rfl, h.unread, ⟨waiting, hring, ?_⟩, fun event hmem => ?_, hthread, hzeroed⟩
  · have hnews : (events.map some).filterMap BtEvent.emittedFor =
        events.filterMap BtEvent.handleEvent := List.filterMap_map
    simp only [honWay, List.filterMap_append, hnews, List.append_assoc]
  · rcases List.mem_append.mp hmem with hold | hnew
    · exact h.keepsOn event hold
    · exact keepsBluetooth_news hannounced.keepsOn event hnew

theorem Pictured.exists_happen (h : Pictured errors past s r) {devices : BtDevices}
    {events : List SceBtEvent} (hannounced : Announced s.devices devices events) :
    ∃ known : Picture, (∀ cell, ¬ s.thread.Unread cell → known cell = r.known cell) ∧
      PictureMove r
        ⟨devices.picture, r.onWay ++ events.filterMap BtEvent.handleEvent, known, r.Unread⟩ := by
  have hnews (cell : Cell) (hsettled : cell.Settled (devices.picture cell)) :=
    hannounced.cells cell hsettled
  rw [← h.truth] at hnews
  rw [← h.unread]
  exact r.exists_happen hnews

theorem follows_change (h : Pictured errors past s r) {devices : BtDevices}
    {events : List SceBtEvent} (hannounced : Announced s.devices devices events) :
    Follows errors (⟨s, .change devices events,
        { s with devices := devices, announced := s.announced ++ events.map some }⟩ :: past)
      { s with devices := devices, announced := s.announced ++ events.map some } r := by
  obtain ⟨known, hread, hmove⟩ := h.exists_happen hannounced
  refine ⟨_, h.announce hannounced _ ?_ h.zeroed, .single hmove⟩
  suffices h : ThreadTells (RefusedSince errors past) s.menu.qmState.buttons known s.thread from
    h.mono fun idx hidx => hidx.older id
  by_cases hcurrent : s.thread.Current
  · have hsame : known = r.known := funext fun cell => hread cell (hcurrent.read cell)
    rw [hsame]
    exact h.thread
  · exact h.thread.anew hcurrent hread

theorem pressed_calls (kernel : KvqmbtCall → Int) (m : QmModule) (idx : Fin vqmbtMaxDevices) :
    (qmStateUpdateUi kernel m (.buttonPressed idx)).2.calls =
      (m.qmState.buttons idx).pressCall.toList := qmStateUpdateUi_calls ..

theorem follows_accepted (h : Pictured errors past s r) {idx : Fin vqmbtMaxDevices}
    {driver : SceBtDriver} {devices : BtDevices} {events : List SceBtEvent} {call : KvqmbtCall}
    (hcall : (s.menu.qmState.buttons idx).pressCall = some call)
    (haccepts : 0 ≤ kvqmbtCall errors driver call)
    (hannounced : Announced s.devices devices events) (htaken : Taken call devices events)
    (x : Transition BtSystem BtSystemStep) (hx : ∀ idx, ¬ NewsTaken x idx) :
    Follows errors (x :: past)
      { s with
        devices := devices
        announced := s.announced ++ events.map some
        menu := (qmStateUpdateUi (kvqmbtCall errors driver) s.menu (.buttonPressed idx)).1 } r := by
  have hzeroed := emptyZeroed_step (kvqmbtCall errors driver) (.buttonPressed idx) h.zeroed
  by_cases hcurrent : s.thread.Current
  · have hslots := (ThreadTells.current hcurrent).mp h.thread
    have hnext : SlotsTell (RefusedSince errors (x :: past)) _ _ :=
      hslots.pressAccepted hcall haccepts fun idx hidx => hidx.older (hx idx)
    refine ⟨_, h.announce hannounced x ((ThreadTells.current hcurrent).mpr hnext) hzeroed,
      .single (.happen (fun cell hun => ?_) fun cell hsettled => ?_)⟩
    · rw [h.unread] at hun
      exact absurd hun (hcurrent.read cell)
    · by_cases hcell : cell = .device call.mac
      · subst hcell
        exact .inl (htaken hsettled)
      · rw [h.truth]
        refine (hannounced.cells cell hsettled).imp_right fun ⟨hsame, hsilent⟩ => ?_
        exact ⟨hsame, hsilent, fun _ => Function.update_of_ne hcell _ _⟩
  · obtain ⟨known, hread, hmove⟩ := h.exists_happen hannounced
    exact ⟨_, h.announce hannounced x (h.thread.anew hcurrent hread) hzeroed, .single hmove⟩

theorem follows_press (h : Pictured errors past s r) {idx : Fin vqmbtMaxDevices}
    {driver : SceBtDriver} {devices : BtDevices} {events : List SceBtEvent}
    (hs : driverStep errors s (.press idx driver devices events) = some t)
    (hok : SystemOk errors ⟨s, .press idx driver devices events, t⟩) :
    Follows errors (⟨s, .press idx driver devices events, t⟩ :: past) t r := by
  have hzeroed := emptyZeroed_step (kvqmbtCall errors driver) (.buttonPressed idx) h.zeroed
  simp only [driverStep, pressed_calls] at hs
  cases hcall : (s.menu.qmState.buttons idx).pressCall with
  | none =>
      rw [hcall] at hs
      cases hs
      refine ⟨r, ⟨h.truth, h.unread, h.onWay, h.keepsOn, ?_, hzeroed⟩, .refl⟩
      rw [pressed_none _ hcall]
      exact h.thread.mono fun idx hidx => hidx.older id
  | some call =>
      rw [hcall] at hs
      by_cases haccepts : 0 ≤ kvqmbtCall errors driver call
      · have hmade : (some call).toList.any (fun call => 0 ≤ kvqmbtCall errors driver call) =
            true := by simpa using haccepts
        rw [if_pos hmade] at hs
        cases hs
        obtain ⟨hannounced, htaken⟩ := hok call (by simp [pressed_calls, hcall]) haccepts
        exact follows_accepted h hcall haccepts hannounced htaken _ fun _ => id
      · have hmade : ¬ (some call).toList.any (fun call => 0 ≤ kvqmbtCall errors driver call) =
            true := by simpa using haccepts
        rw [if_neg hmade] at hs
        cases hs
        refine ⟨r, ⟨h.truth, h.unread, h.onWay, h.keepsOn, ?_, hzeroed⟩, .refl⟩
        by_cases hcurrent : s.thread.Current
        · have hslots := (ThreadTells.current hcurrent).mp h.thread
          have hrefused := Int.not_le.mp haccepts
          refine (ThreadTells.current hcurrent).mpr
            (hslots.pressRefused hcall hrefused (fun idx hidx => hidx.older id) (.inl ?_))
          refine ⟨rfl, call, ?_, hrefused⟩
          simp [pressed_calls, hcall]
        · exact h.thread.anew hcurrent fun _ _ => rfl

theorem follows_overflow (h : Pictured errors past s r) (kept lost : Nat)
    (x : Transition BtSystem BtSystemStep) (hx : ∀ idx, ¬ NewsTaken x idx) :
    Follows errors (x :: past)
      { s with announced := s.announced.take kept ++ none :: s.announced.drop (kept + lost) }
      r := by
  obtain ⟨waiting, hring, honWay⟩ := h.onWay
  have hsplit : s.announced = s.announced.take kept ++
      ((s.announced.drop kept).take lost ++ s.announced.drop (kept + lost)) := by
    rw [← List.drop_drop, List.take_append_drop, List.take_append_drop]
  have hlost : r.onWay = (s.thread.inHand ++ waiting ++ (s.pipe.callback.inHand ++
        (s.announced.take kept).filterMap BtEvent.emittedFor)) ++
      ((s.announced.drop kept).take lost).filterMap BtEvent.emittedFor ++
      (s.announced.drop (kept + lost)).filterMap BtEvent.emittedFor := by
    rw [honWay]
    conv_lhs => rw [hsplit]
    simp only [List.filterMap_append, List.append_assoc]
  have hdropped : BtEvent.emittedFor none = some BtEvent.handleEventDropped := rfl
  have hnotice := eventUpdate_reset (show handleEvent BtEvent.handleEventDropped = .reset from rfl)
  refine ⟨_, ?_, .single (.lose hlost hnotice)⟩
  refine ⟨h.truth, h.unread, ⟨waiting, hring, ?_⟩, fun event hmem => ?_,
    h.thread.mono fun idx hidx => hidx.older (hx idx), h.zeroed⟩
  · simp only [List.filterMap_append, List.filterMap_cons_some hdropped, List.append_assoc]
  · have hkeeps := h.keepsOn
    rw [hlost] at hkeeps
    rcases List.mem_append.mp hmem with hfront | hback
    · exact hkeeps event (List.mem_append_left _ (List.mem_append_left _ hfront))
    · rcases List.mem_cons.mp hback with rfl | hback
      · exact ⟨VqmbtEventId.noConfusion, VqmbtEventId.noConfusion⟩
      · exact hkeeps event (List.mem_append_right _ hback)

theorem Pictured.passOn (h : Pictured errors past s r) {announced : List (Option SceBtEvent)}
    {pipe : BtEvent.DriverPipe}
    (hsame : ∀ waiting, RingHolds s.pipe.ring waiting → ∃ waiting', RingHolds pipe.ring waiting' ∧
      waiting' ++ (pipe.callback.inHand ++ announced.filterMap BtEvent.emittedFor) =
        waiting ++ (s.pipe.callback.inHand ++ s.announced.filterMap BtEvent.emittedFor))
    (x : Transition BtSystem BtSystemStep) (hx : ∀ idx, ¬ NewsTaken x idx) :
    Follows errors (x :: past) { s with announced := announced, pipe := pipe } r := by
  obtain ⟨waiting, hring, honWay⟩ := h.onWay
  obtain ⟨waiting', hring', hsame⟩ := hsame waiting hring
  refine ⟨r, ⟨h.truth, h.unread, ⟨waiting', hring', ?_⟩, h.keepsOn, ?_, h.zeroed⟩, .refl⟩
  · rw [honWay, List.append_assoc, List.append_assoc, hsame]
  · exact h.thread.mono fun idx hidx => hidx.older (hx idx)

theorem follows_nextEvent (h : Pictured errors past s r) (hcb : cbOverflow < 0)
    {note : Option SceBtEvent} {rest : List (Option SceBtEvent)}
    (hnext : s.announced = note :: rest) {ret : Int} {event : SceBtEvent}
    {pipe : BtEvent.DriverPipe}
    (hret : note = none ∧ ret = cbOverflow ∨ note = some event ∧ ret = 1)
    (hs : BtEvent.pipeStep cbOverflow eventFlagUid s.pipe (.readEvent ret event) = some pipe)
    (x : Transition BtSystem BtSystemStep) (hx : ∀ idx, ¬ NewsTaken x idx) :
    Follows errors (x :: past) { s with announced := rest, pipe := pipe } r := by
  obtain ⟨hreading, hring, hcallback⟩ := BtEvent.readEvent_pipe hs
  refine h.passOn (fun waiting hwaiting => ⟨waiting, hring ▸ hwaiting, ?_⟩) x hx
  have hinHand : pipe.callback.inHand = (BtEvent.emittedFor note).toList := by
    rcases hret with ⟨rfl, rfl⟩ | ⟨rfl, rfl⟩
    · rw [hcallback, if_pos rfl]
      rfl
    · rw [hcallback, if_neg (by omega), if_neg (by omega)]
      rfl
  have hnote : (note :: rest).filterMap BtEvent.emittedFor =
      (BtEvent.emittedFor note).toList ++ rest.filterMap BtEvent.emittedFor := by
    rw [List.filterMap_cons]
    cases BtEvent.emittedFor note <;> rfl
  rw [hnext, hinHand, hreading, hnote]
  rfl

theorem follows_callback (h : Pictured errors past s r) (hcb : cbOverflow < 0) {a : BtSystemStep}
    (hs : callbackStep cbOverflow eventFlagUid s a = some t) (hok : SystemOk errors ⟨s, a, t⟩) :
    Follows errors (⟨s, a, t⟩ :: past) t r := by
  cases a with
  | notify =>
      obtain ⟨pipe, hpipe, rfl⟩ := Option.map_eq_some_iff.mp hs
      refine h.passOn (fun waiting hwaiting => ⟨waiting, ?_⟩) _ fun _ => id
      simp only [BtEvent.pipeStep] at hpipe
      split at hpipe
      · next haway =>
          cases hpipe
          exact ⟨hwaiting, by rw [haway]; rfl⟩
      · cases hpipe
  | nextEvent =>
      simp only [callbackStep] at hs
      split at hs
      · cases hs
      · next rest hnext =>
          obtain ⟨pipe, hpipe, rfl⟩ := Option.map_eq_some_iff.mp hs
          exact follows_nextEvent h hcb hnext (.inl ⟨rfl, rfl⟩) hpipe _ fun _ => id
      · next event rest hnext =>
          obtain ⟨pipe, hpipe, rfl⟩ := Option.map_eq_some_iff.mp hs
          exact follows_nextEvent h hcb hnext (.inr ⟨rfl, rfl⟩) hpipe _ fun _ => id
  | noEvent ret =>
      simp only [callbackStep] at hs
      split at hs
      · cases hs
      · next hret =>
          obtain ⟨pipe, hpipe, rfl⟩ := Option.map_eq_some_iff.mp hs
          obtain ⟨hreading, hring, hcallback⟩ := BtEvent.readEvent_pipe hpipe
          rw [not_or, Int.not_lt] at hret
          rw [if_neg hret.1, if_pos hret.2] at hcallback
          refine h.passOn (fun waiting hwaiting => ⟨waiting, hring ▸ hwaiting, ?_⟩) _ fun _ => id
          rw [hcallback, hreading]
          rfl
  | emit =>
      obtain ⟨pipe, hpipe, rfl⟩ := Option.map_eq_some_iff.mp hs
      obtain ⟨ring, hring, rfl⟩ := Option.map_eq_some_iff.mp hpipe
      refine h.passOn (fun waiting hwaiting => ⟨_, BtEvent.emitTurn_holds hwaiting hok hring, ?_⟩) _
        fun _ => id
      rw [List.append_assoc]
      rfl
  | _ => cases hs

section Thread

variable {x : Transition BtSystem BtSystemStep} {pipe : BtEvent.DriverPipe}

theorem Pictured.proceed (h : Pictured errors past s r) (thread : MenuThreadAt) {menu : QmModule}
    (honWay : ∃ waiting, RingHolds pipe.ring waiting ∧ r.onWay = thread.inHand ++ waiting ++
      (pipe.callback.inHand ++ s.announced.filterMap BtEvent.emittedFor))
    (hfewer : ∀ cell, thread.Unread cell → s.thread.Unread cell)
    (htells : ThreadTells (RefusedSince errors (x :: past)) menu.qmState.buttons r.known thread)
    (hzeroed : EmptyZeroed menu.qmState.buttons) :
    Follows errors (x :: past) { s with pipe := pipe, thread := thread, menu := menu } r := by
  rw [← h.unread] at hfewer
  refine ⟨_, ?_, .single (.read hfewer)⟩
  exact ⟨h.truth, rfl, honWay, h.keepsOn, htells, hzeroed⟩

theorem Pictured.restart (h : Pictured errors past s r) (lost : List VqmbtEvent)
    {rest : List VqmbtEvent} {thread : MenuThreadAt} (hsplit : r.onWay = lost ++ rest)
    (hrest : ∃ waiting, RingHolds pipe.ring waiting ∧
      rest = waiting ++ (pipe.callback.inHand ++ s.announced.filterMap BtEvent.emittedFor))
    (hafresh : thread.Afresh) :
    Follows errors (x :: past) { s with pipe := pipe, thread := thread } r := by
  refine ⟨_, ?_, .single (.restart hsplit)⟩
  refine ⟨h.truth, ?_, ?_, fun event hmem => ?_, ?_, h.zeroed⟩
  · cases thread with
    | closed => rfl
    | flushing inFetch => rfl
    | readingBluetooth inFetch => rfl
    | _ => exact absurd hafresh id
  · cases thread with
    | closed => exact hrest
    | flushing inFetch => exact hrest
    | readingBluetooth inFetch => exact hrest
    | _ => exact absurd hafresh id
  · refine h.keepsOn event ?_
    rw [hsplit]
    exact List.mem_append_right _ hmem
  · cases thread with
    | closed => trivial
    | flushing inFetch => trivial
    | readingBluetooth inFetch => trivial
    | _ => exact absurd hafresh id

theorem Pictured.settled (h : Pictured errors past s r) (hcurrent : s.thread.Current) :
    SlotsTell (RefusedSince errors past) s.menu.qmState.buttons r.known :=
  (ThreadTells.current hcurrent).mp h.thread

theorem Pictured.stays (h : Pictured errors past s r) (hcurrent : s.thread.Current)
    (hx : ∀ idx, ¬ NewsTaken x idx) :
    SlotsTell (RefusedSince errors (x :: past)) s.menu.qmState.buttons r.known :=
  (h.settled hcurrent).congr rfl (fun _ _ => rfl) fun idx _ hidx => hidx.older (hx idx)

theorem follows_flush (h : Pictured errors past s r) {inFetch : Bool}
    (hat : s.thread = .flushing inFetch)
    (hs : BtEvent.pipeStep cbOverflow eventFlagUid s.pipe (.read true 0 0) = some pipe) :
    Follows errors (x :: past) { s with pipe := pipe, thread := .readingBluetooth inFetch } r := by
  obtain ⟨waiting, hring, honWay⟩ := h.onWay
  obtain rfl := Option.some.inj hs
  have hflushed := (ringHolds_read hring (Int.le_refl 0) true 0).1
  rw [queueRead_flush (by decide)] at hflushed
  rw [hat] at honWay
  exact h.restart _ honWay ⟨[], hflushed, rfl⟩ trivial

theorem follows_readRegistered (h : Pictured errors past s r)
    (hstep : InStep eventUpdate Cell.Settled r) {inFetch : Bool} {driver : SceBtDriver}
    (hat : s.thread = .readingRegistered inFetch driver) :
    Follows errors (x :: past)
      { s with thread := .readingConnecting inFetch driver s.devices.registered [] } r := by
  have honWay := h.onWay
  have hthread := h.thread
  have hunread := h.unread
  rw [hat] at honWay hthread hunread
  have haddresses : Picture.addresses r.known = s.devices.addresses := by
    have hread := hstep.unread .addresses (by rw [hunread]; trivial)
    rw [h.truth] at hread
    exact hread
  refine h.proceed _ honWay (fun _ _ => by rw [hat]; trivial)
    ⟨hthread, ?_, Nat.zero_le _, ?_⟩ h.zeroed
  · rw [haddresses, s.devices.exported]
  · exact fun i _ hi => absurd hi (Nat.not_lt_zero i)

theorem follows_readConnecting (h : Pictured errors past s r)
    (hstep : InStep eventUpdate Cell.Settled r) {inFetch : Bool} {driver : SceBtDriver}
    {registered : List SceBtRegisteredInfo} {states : List Int}
    (hat : s.thread = .readingConnecting inFetch driver registered states)
    (hlt : states.length < registered.length) :
    let mac := registered[states.length].exportedMac
    Follows errors (x :: past)
      { s with
        thread := .readingConnecting inFetch driver registered
          (states ++ [s.devices.connecting mac.1 mac.2]) } r := by
  intro mac
  have honWay := h.onWay
  have hthread := h.thread
  have hunread := h.unread
  rw [hat] at honWay hthread hunread
  obtain ⟨hon, hexported, _, hstates⟩ := hthread
  refine h.proceed _ honWay (fun cell hun => ?_) ⟨hon, hexported, ?_, fun i hi hnew => ?_⟩ h.zeroed
  · rw [hat]
    cases cell with
    | addresses => exact hun
    | device mac =>
        refine fun hmem => hun ?_
        refine (List.take_sublist_take_left ?_).subset hmem
        simp
  · rw [List.length_append]
    exact hlt
  · rcases Nat.lt_or_ge i states.length with hold | hlast
    · have hget : (states ++ [s.devices.connecting mac.1 mac.2]).getD i 0 = states.getD i 0 := by
        simp [List.getElem?_append_left hold]
      rw [hget]
      exact hstates i hi hold
    · have hi' : i = states.length := by simp at hnew; omega
      subst hi'
      have hmac : (Picture.addresses r.known).macs[states.length] = mac := by
        simp only [← hexported, List.getElem_map, mac]
      have hfresh : mac ∉ (registered.map (·.exportedMac)).take states.length := by
        intro hmem
        obtain ⟨i, hi, hsame⟩ := List.mem_take_iff_getElem.mp hmem
        simp only [hexported, ← hmac] at hsame
        have heq := (Picture.addresses r.known).distinct.getElem_inj_iff.mp hsame
        omega
      have hread := hstep.unread (.device mac) (by rw [hunread]; exact hfresh)
      rw [h.truth] at hread
      have hget : (states ++ [s.devices.connecting mac.1 mac.2]).getD states.length 0 =
          s.devices.connecting mac.1 mac.2 := by simp
      rw [hget, hmac]
      exact hread.symm

theorem follows_apply (h : Pictured errors past s r) {inFetch : Bool} {driver : SceBtDriver}
    {registered : List SceBtRegisteredInfo} {states : List Int}
    (hat : s.thread = .readingConnecting inFetch driver registered states)
    (hlength : states.length = registered.length) {bulk : QmsBulk}
    (hbulk : resetRequest (askedDevices registered states) driver = some bulk) :
    Follows errors (x :: past)
      { s with
        menu := (qmStateUpdateUi (fun _ => 0) s.menu (.bulkUpdate bulk)).1
        thread := .afterReset inFetch } r := by
  have honWay := h.onWay
  have hthread := h.thread
  rw [hat] at honWay hthread
  obtain ⟨hon, hexported, _, hstates⟩ := hthread
  have hcount : (Picture.addresses r.known).macs.length = states.length := by
    rw [hlength, ← hexported, List.length_map]
  have hslots := SlotsTell.reset h.zeroed hexported
    (fun i hi => hstates i hi (hcount ▸ hi)) hon hbulk (RefusedSince errors (x :: past))
  have hzeroed := emptyZeroed_step (fun _ => 0) (.bulkUpdate bulk) h.zeroed
  cases inFetch with
  | false => exact h.proceed .waiting honWay (fun _ => False.elim) hslots hzeroed
  | true => exact h.proceed .fetching honWay (fun _ => False.elim) hslots hzeroed

theorem follows_read (h : Pictured errors past s r) (hat : s.thread = .fetching)
    (hs : BtEvent.pipeStep cbOverflow eventFlagUid s.pipe (.read false 1 0) = some pipe)
    (hx : ∀ idx, ¬ NewsTaken x idx) :
    Follows errors (x :: past) (s.fetched (kvqmbtReadEvent 0 s.pipe.ring false 1).2 pipe) r := by
  obtain ⟨waiting, hring, honWay⟩ := h.onWay
  obtain rfl := Option.some.inj hs
  obtain ⟨hread, hreply⟩ := ringHolds_read hring (Int.le_refl 0) false 1
  have hcurrent : s.thread.Current := by rw [hat]; trivial
  have hslots := h.stays hcurrent hx
  rw [hat] at honWay
  rw [hreply, BtSystem.fetched]
  cases waiting with
  | nil =>
      refine h.proceed .waiting ⟨[], hread, honWay⟩ (fun _ => False.elim) hslots h.zeroed
  | cons event rest =>
      by_cases hover : (event :: rest).length > ringBufferSize
      · rw [queueRead_overflow hover] at hread ⊢
        exact h.restart _ honWay ⟨[], hread, rfl⟩ trivial
      · rw [queueRead_cons, if_neg hover] at hread ⊢
        simp only [fetchNext_event]
        exact h.proceed (.handling event) ⟨rest, hread, honWay⟩ (fun _ => False.elim)
          hslots h.zeroed

end Thread

theorem follows_handle (h : Pictured errors past s r) {event : VqmbtEvent}
    (hat : s.thread = .handling event) :
    Follows errors (⟨s, .handle, t⟩ :: past) (s.handled event) r := by
  obtain ⟨waiting, hring, honWay⟩ := h.onWay
  have hcurrent : s.thread.Current := by rw [hat]; trivial
  have hslots := h.settled hcurrent
  have hunread := h.unread
  rw [hat] at honWay hunread
  have hnone (cell : Cell) : ¬ r.Unread cell := by
    rw [hunread]
    exact id
  have hnext : r.onWay = event :: (waiting ++
      (s.pipe.callback.inHand ++ s.announced.filterMap BtEvent.emittedFor)) := honWay
  have hkeeps : KeepsBluetooth event := h.keepsOn event (by rw [hnext]; exact List.mem_cons_self ..)
  have hlater : ∀ later ∈ waiting ++ (s.pipe.callback.inHand ++
      s.announced.filterMap BtEvent.emittedFor), KeepsBluetooth later := by
    intro later hmem
    refine h.keepsOn later ?_
    rw [hnext]
    exact List.mem_cons_of_mem _ hmem
  unfold BtSystem.handled
  rcases handled_cases hkeeps with hreset | hignored | ⟨news, hrequest⟩
  · rw [hreset]
    exact h.restart [event] hnext ⟨waiting, hring, rfl⟩ trivial
  · rw [hignored]
    have hskips (cell : Cell) := eventUpdate_ignored hignored cell
    refine ⟨_, ?_, .single (.deliver hnext (fun cell => .inr ⟨hskips cell, rfl⟩) hnone)⟩
    refine ⟨h.truth, hunread, ⟨waiting, hring, rfl⟩, hlater, ?_, h.zeroed⟩
    refine hslots.congr rfl (fun _ _ => rfl) fun idx _ hidx => hidx.older ?_
    simp only [NewsTaken, hat, eventUpdate_ignored hignored, ne_eq, not_true, not_false_iff]
  · rw [hrequest]
    refine ⟨_, ?_, .single (.deliver hnext (eventUpdate_request hrequest r.known) hnone)⟩
    refine ⟨h.truth, hunread, ⟨waiting, hring, rfl⟩, hlater, ?_,
      emptyZeroed_step (fun _ => 0) _ h.zeroed⟩
    refine hslots.event (fun _ => 0) news fun idx hmac hidx => hidx.older ?_
    simp only [NewsTaken, hat, ne_eq, not_not]
    exact eventUpdate_other hrequest hmac

theorem follows_menuThread (h : Pictured errors past s r)
    (hstep : InStep eventUpdate Cell.Settled r) {a : BtSystemStep}
    (hs : menuThreadStep cbOverflow eventFlagUid s a = some t) (hok : SystemOk errors ⟨s, a, t⟩) :
    Follows errors (⟨s, a, t⟩ :: past) t r := by
  have honWay := h.onWay
  unfold menuThreadStep at hs
  split at hs
  · next hat =>
      obtain ⟨waiting, hring, honWay⟩ := honWay
      rw [hat] at honWay
      cases hs
      exact h.restart [] honWay ⟨waiting, hring, rfl⟩ trivial
  · next hat =>
      obtain ⟨waiting, hring, honWay⟩ := honWay
      rw [hat] at honWay
      cases hs
      exact h.restart [] honWay ⟨waiting, hring, rfl⟩ trivial
  · next inFetch hat =>
      obtain ⟨pipe, hpipe, rfl⟩ := Option.map_eq_some_iff.mp hs
      exact follows_flush h hat hpipe
  · next inFetch driver hat =>
      rw [hat] at honWay
      cases hs
      exact h.proceed (.readingRegistered inFetch driver) honWay
        (fun _ _ => by rw [hat]; trivial) hok h.zeroed
  · next inFetch driver hat =>
      cases hs
      exact follows_readRegistered h hstep hat
  · next inFetch driver registered states hat =>
      split at hs
      · next hlt =>
          cases hs
          exact follows_readConnecting h hstep hat hlt
      · cases hs
  · next inFetch driver registered states hat =>
      split at hs
      · next hlength =>
          have hbulk := asked_request driver registered states
          rw [hbulk] at hs
          cases hs
          exact follows_apply h hat hlength hbulk
      · cases hs
  · next hat =>
      have hcurrent : s.thread.Current := by rw [hat]; trivial
      rw [hat] at honWay
      cases hs
      exact h.proceed .fetching honWay (fun _ => False.elim) (h.stays hcurrent fun _ => id) h.zeroed
  · next hat =>
      obtain ⟨pipe, hpipe, rfl⟩ := Option.map_eq_some_iff.mp hs
      exact follows_read h hat hpipe fun _ => id
  · next event hat =>
      cases hs
      exact follows_handle h hat
  · cases hs

theorem follows_step (h : Pictured errors past s r) (hstep : InStep eventUpdate Cell.Settled r)
    (hcb : cbOverflow < 0) {a : BtSystemStep}
    (hs : (btSystem errors cbOverflow eventFlagUid).step s a = some t)
    (hok : SystemOk errors ⟨s, a, t⟩) : Follows errors (⟨s, a, t⟩ :: past) t r := by
  rcases Option.or_eq_some_iff.mp hs with hs | ⟨-, hthread⟩
  · rcases Option.or_eq_some_iff.mp hs with hdriver | ⟨-, hcallback⟩
    · cases a with
      | change devices events =>
          cases hdriver
          exact follows_change h hok
      | overflow kept lost =>
          cases hdriver
          exact follows_overflow h kept lost _ fun _ => id
      | press idx driver devices events => exact follows_press h hdriver hok
      | _ => cases hdriver
    · exact follows_callback h hcb hcallback hok
  · exact follows_menuThread h hstep hthread hok

theorem pictured_after (hcb : cbOverflow < 0)
    (hrun : (btSystem errors cbOverflow eventFlagUid).Run past s)
    (hok : ∀ x ∈ past, SystemOk errors x) :
    ∃ r, Pictured errors past s r ∧ InStep eventUpdate Cell.Settled r := by
  induction hrun with
  | @start s hstart =>
      obtain ⟨⟨handled, hmenu⟩, hannounced, hempty, haway, hclosed⟩ := hstart
      refine ⟨⟨s.devices.picture, [], s.devices.picture, fun _ => True⟩,
        ⟨rfl, ?_, ⟨[], ?_, ?_⟩, ?_, ?_, ?_⟩, ⟨fun _ _ => rfl, fun _ _ => rfl⟩⟩
      · rw [hclosed]
        rfl
      · have hholds := ringHolds_pending s.pipe.ring
        rwa [(ringHolds_empty hholds).mp hempty] at hholds
      · rw [hclosed, haway, hannounced]
        rfl
      · exact fun _ hmem => absurd hmem List.not_mem_nil
      · rw [hclosed]
        trivial
      · rw [hmenu]
        exact emptyZeroed_after handled
  | next _ hs ih =>
      obtain ⟨r, hpictured, hinStep⟩ := ih fun x hx => hok x (List.mem_cons_of_mem _ hx)
      obtain ⟨r', hnext, hmove⟩ :=
        follows_step hpictured hinStep hcb hs (hok _ (List.mem_cons_self ..))
      cases hmove with
      | refl => exact ⟨r, hnext, hinStep⟩
      | single hmove => exact ⟨r', hnext, hmove.inStep hinStep⟩

theorem menu_follows_driver (hcb : cbOverflow < 0)
    (hrun : (btSystem errors cbOverflow eventFlagUid).Run past s)
    (hok : ∀ x ∈ past, SystemOk errors x) (hannounced : s.announced = [])
    (hcallback : s.pipe.callback.inHand = []) (hempty : s.pipe.ring.readIdx = s.pipe.ring.writeIdx)
    (hidle : s.thread = .waiting ∨ s.thread = .fetching) :
    (∀ idx (h : idx.val < s.devices.registered.length),
      let device := (s.menu.qmState.buttons idx).device
      let state := kvqmbtDeviceState s.devices.connecting device.mac0 device.mac1
      macBytes device.mac = s.devices.registered[idx.val].mac ∧
        (¬ Busy state.shownAs → (s.menu.qmState.buttons idx).btnState = state.shownAs ∨
          RefusedSince errors past idx ∧
            (s.menu.qmState.buttons idx).btnState = .errorDisabled)) ∧
      ∀ idx, s.devices.registered.length ≤ idx.val →
        (s.menu.qmState.buttons idx).btnState = .slotEmptyDisabled := by
  obtain ⟨r, hpictured, hinStep⟩ := pictured_after hcb hrun hok
  obtain ⟨waiting, hring, honWay⟩ := hpictured.onWay
  have hnone : r.onWay = [] := by
    rw [honWay, ringHolds_nil hring hempty, hcallback, hannounced]
    rcases hidle with hat | hat <;> rw [hat] <;> rfl
  have hslots : SlotsTell (RefusedSince errors past) s.menu.qmState.buttons r.known := by
    refine hpictured.settled ?_
    rcases hidle with hat | hat <;> rw [hat] <;> trivial
  have haddresses : Picture.addresses r.known = s.devices.addresses := by
    have hknown := hinStep.agrees hnone (i := .addresses) trivial
    rw [hpictured.truth] at hknown
    exact hknown
  have hcount : (Picture.addresses r.known).macs.length = s.devices.registered.length := by
    rw [haddresses, ← s.devices.exported, List.length_map]
  refine ⟨fun idx hlt => ?_, fun idx hge => (hslots.unlisted idx (hcount ▸ hge)).1⟩
  intro device state
  have hlisted : idx.val < (Picture.addresses r.known).macs.length := hcount ▸ hlt
  refine ⟨?_, fun hsettled => ?_⟩
  · have hmac : device.mac = s.devices.registered[idx.val].exportedMac := by
      rw [hslots.mac idx hlisted]
      simp only [haddresses, ← s.devices.exported, List.getElem_map]
    rw [hmac]
    exact macBytes_exportDevice ⟨1, [s.devices.registered[idx.val]], fun _ _ _ => 0, fun _ => 0⟩ 0
  · have hshown : Picture.shown r.known device.mac = state.shownAs := by
      have hknown := hinStep.agrees hnone (i := .device device.mac)
      rw [hpictured.truth] at hknown
      exact hknown hsettled
    rw [← hshown]
    exact hslots.btnState idx hlisted

theorem refused_once {idx : Fin vqmbtMaxDevices} (h : RefusedSince errors past idx) :
    ∃ x ∈ past, PressRefused errors x idx := by
  induction past with
  | nil => exact absurd h id
  | cons x older ih =>
      rcases h with hnow | ⟨hbefore, _⟩
      · exact ⟨x, List.mem_cons_self .., hnow⟩
      · obtain ⟨y, hy, hrefused⟩ := ih hbefore
        exact ⟨y, List.mem_cons_of_mem _ hy, hrefused⟩

end Simulation

def EndsInReset (events : List SceBtEvent) : Prop :=
  events.getLast? = some ⟨BtEvent.addRemoveConnectingDevice, 0, 0, 0, 0⟩ ∧
    ∀ event ∈ events, event.id ≠ BtEvent.toggleBluetooth

instance (events : List SceBtEvent) : Decidable (EndsInReset events) :=
  inferInstanceAs (Decidable (_ ∧ _))

theorem EndsInReset.tells {events : List SceBtEvent} (h : EndsInReset events) {cell : Cell}
    (v : cell.Value) : Tells v (newsFor events cell) := by
  obtain ⟨older, rfl⟩ := List.getLast?_eq_some_iff.mp h.1
  refine ⟨newsFor older cell, .resync, [], ?_, .inr rfl, fun _ hmem => absurd hmem List.not_mem_nil⟩
  simp only [newsFor, List.filterMap_append, List.map_append]
  rfl

theorem EndsInReset.announced {events : List SceBtEvent} (h : EndsInReset events)
    (old new : BtDevices) : Announced old new events :=
  ⟨fun _ _ => .inl (h.tells _), h.2⟩

def ResetsAfterward (x : Transition BtSystem BtSystemStep) : Prop :=
  match x.act with
  | .change _ events | .press _ _ _ events => EndsInReset events
  | .readBluetooth driver => driver.configuration = 0x9
  | .emit => (x.before.pipe.ring.writeIdx - x.before.pipe.ring.readIdx).toNat + 1 < 2 ^ 32
  | _ => True

instance (x : Transition BtSystem BtSystemStep) : Decidable (ResetsAfterward x) := by
  unfold ResetsAfterward
  split <;> infer_instance

theorem ResetsAfterward.ok (errors : ConnectStartErrors) {x : Transition BtSystem BtSystemStep}
    (h : ResetsAfterward x) : SystemOk errors x := by
  obtain ⟨s, a, t⟩ := x
  cases a with
  | change devices events => exact EndsInReset.announced h s.devices devices
  | press idx driver devices events =>
      refine fun call _ _ => ⟨EndsInReset.announced h s.devices devices, fun _ => ?_⟩
      exact EndsInReset.tells h (devices.picture (.device call.mac))
  | _ => exact h

def sampleDevice : SceBtRegisteredInfo := ⟨Vector.replicate _ 1, fun _ => 65⟩

theorem sampleDevice_exported : sampleDevice.exportedMac = (0x01010101, 0x0101) := by decide

theorem sampleDevice_halves :
    ∀ mac ∈ [sampleDevice.exportedMac], mac.1 ≠ 0 ∧ mac.2 ≠ 0 := by
  rw [sampleDevice_exported]
  exact List.forall_mem_singleton.mpr ⟨by decide, by decide⟩

theorem one_le_maxDevices : [sampleDevice.exportedMac].length ≤ vqmbtMaxDevices := by decide

def oneRegistered (state : Int) : BtDevices where
  registered := [sampleDevice]
  connecting _ _ := state
  addresses := ⟨[sampleDevice.exportedMac], one_le_maxDevices, List.nodup_singleton _,
    sampleDevice_halves⟩
  exported := rfl

def poweredOn : SceBtDriver := ⟨9, fun _ _ => 0, fun _ _ => 0⟩

def BtSystem.closed : BtSystem where
  devices := oneRegistered 1
  announced := []
  pipe := BtEvent.emptyPipe
  thread := .closed
  menu := .boot

def connectedUnheard : List BtSystemStep :=
  let connecting := BtSystemStep.press ⟨0, zero_lt_maxDevices⟩ poweredOn (oneRegistered 2)
    [⟨0x07, 0, 0, 0, 0⟩]
  let reset := [.flush, .readBluetooth poweredOn, .readRegistered, .readConnecting, .apply]
  [.openMenu] ++ reset ++ [connecting, .change (oneRegistered 5) [⟨0x05, 0, 0, 0x01010101, 0x0101⟩,
    ⟨0x07, 0, 0, 0, 0⟩], .overflow 0 3, .notify, .nextEvent, .emit, .noEvent 0, .wake, .read,
    .handle] ++ reset ++ [.read]

theorem connectedUnheard_plays :
    ((btSystem sampleErrors (-5) 3).play [] .closed connectedUnheard).isSome := by decide +kernel

instance (errors : ConnectStartErrors) (x : Transition BtSystem BtSystemStep)
    (idx : Fin vqmbtMaxDevices) : Decidable (PressRefused errors x idx) := by
  unfold PressRefused
  split <;> infer_instance

theorem menu_follows_driver_unheard :
    (((btSystem sampleErrors (-5) 3).played .closed connectedUnheard
      connectedUnheard_plays).2.menu.qmState.buttons ⟨0, zero_lt_maxDevices⟩).btnState =
        .connected := by
  have hrun := Lts.run_played (M := btSystem sampleErrors (-5) 3) (s := .closed)
    ⟨⟨[], rfl⟩, rfl, rfl, rfl, rfl⟩ connectedUnheard_plays
  have hok : ∀ x ∈ ((btSystem sampleErrors (-5) 3).played .closed connectedUnheard
      connectedUnheard_plays).1, ResetsAfterward x := by decide +kernel
  have hnever : ∀ x ∈ ((btSystem sampleErrors (-5) 3).played .closed connectedUnheard
      connectedUnheard_plays).1, ¬ PressRefused sampleErrors x ⟨0, zero_lt_maxDevices⟩ := by
    decide +kernel
  have hfollows := menu_follows_driver (by decide) hrun (fun x hx => (hok x hx).ok sampleErrors)
    rfl rfl rfl (.inl rfl)
  obtain ⟨_, hshown⟩ := hfollows.1 ⟨0, zero_lt_maxDevices⟩ (by decide +kernel)
  refine ((hshown (by unfold Busy; decide +kernel)).resolve_right fun hrefused => ?_).trans
    (by decide +kernel)
  obtain ⟨x, hx, hpress⟩ := refused_once hrefused.1
  exact hnever x hx hpress

end VitaQmBluetooth
