import VitaQmBluetooth.BtEvent.HandleEvent
import VitaQmBluetooth.Foundation.Interleaving
import VitaQmBluetooth.Foundation.Notices

namespace VitaQmBluetooth.BtEvent

open Foundation

def ignoredIds : List UInt8 :=
  [0x01, 0x02, 0x04, 0x08, 0x09, 0x0D, 0x0A, 0x0B, 0x0C, 0x0E, 0x10, 0x11, 0x1C]

def idMask : UnsignedInt :=
  ~~~(ignoredIds.foldl (fun mask id => mask ||| (1 : UnsignedInt) <<< id.toNat) 0)

-- An event that ksceBtRegisterCallback was told to keep back.
def Hidden (event : SceBtEvent) : Prop :=
  event.id.toNat < 32 ∧ idMask.getLsbD event.id.toNat = false

instance (event : SceBtEvent) : Decidable (Hidden event) := inferInstanceAs (Decidable (_ ∧ _))

def handleEventDropped : VqmbtEvent := ⟨.droppedEvents, 0, 0⟩

inductive CallbackAt where
  | away
  | reading
  | dropping
  | handling (event : SceBtEvent)

-- What a call of kvqmbt_read_event leaves its caller with; a flush of its own answers 0.
inductive Told where
  | event (event : VqmbtEvent)
  | overflow
  | flushed

def Told.entry : Told → Option VqmbtEvent
  | .event e => some e
  | .overflow | .flushed => none

-- The two lists record what the driver had and what the user module was told, in order.
structure DriverPipe where
  ring : UmodRing
  callback : CallbackAt
  occurred : List (Option SceBtEvent)
  reported : List Told

inductive PipeStep where
  | hide (event : SceBtEvent)
  | notify
  | readEvent (ret : Int) (event : SceBtEvent)
  | emit
  | read (eventNull : Bool) (numEvents : Int) (copyRet : Int)

def emitTurn (eventFlagUid : Int) (ring : UmodRing) : CallbackAt → Option UmodRing
  | .dropping => some (umodCbEmitEvent eventFlagUid ring (some handleEventDropped)).1
  | .handling event =>
      match handleEvent event with
      | none => some ring
      | some emitted => some (umodCbEmitEvent eventFlagUid ring (some emitted)).1
  | _ => none

def toldBy (numEvents : Int) (reply : ReadReply) : List Told :=
  if numEvents < 1 then [.flushed]
  else if reply.ret = VqmbtError.cbOverflow.code then [.overflow]
  else if reply.ret = 1 then (reply.event.map Told.event).toList
  else []

def pipeStep (cbOverflow eventFlagUid : Int) (s : DriverPipe) : PipeStep → Option DriverPipe
  | .hide event =>
      if Hidden event then some { s with occurred := s.occurred ++ [some event] } else none
  | .notify =>
      match s.callback with
      | .away => some { s with callback := .reading }
      | _ => none
  | .readEvent ret event =>
      match s.callback with
      | .reading =>
          if ret = cbOverflow then
            some { s with callback := .dropping, occurred := s.occurred ++ [none] }
          else if ret < 0 then some { s with callback := .away }
          else if ret = 0 then some { s with callback := .away }
          else some { s with
            callback := .handling event
            occurred := s.occurred ++ [some event] }
      | _ => none
  | .emit =>
      (emitTurn eventFlagUid s.ring s.callback).map fun ring =>
        { s with ring := ring, callback := .reading }
  | .read eventNull numEvents copyRet =>
      let (ring, reply) := kvqmbtReadEvent copyRet s.ring eventNull numEvents
      some { s with
        ring := ring
        reported := s.reported ++ toldBy numEvents reply }

def driverPipe (cbOverflow eventFlagUid : Int) : Lts DriverPipe PipeStep where
  start s := s.ring.readIdx = s.ring.writeIdx ∧ s.callback = .away ∧ s.occurred = [] ∧
    s.reported = []
  step := pipeStep cbOverflow eventFlagUid

def emittedFor : Option SceBtEvent → Option VqmbtEvent
  | none => some handleEventDropped
  | some event => handleEvent event

def CallbackAt.inHand : CallbackAt → List VqmbtEvent
  | .away | .reading => []
  | .dropping => [handleEventDropped]
  | .handling event => (handleEvent event).toList

def PipeOk (x : Transition DriverPipe PipeStep) : Prop :=
  match x.act with
  | .read _ _ copyRet => 0 ≤ copyRet
  | .emit => (x.before.ring.writeIdx - x.before.ring.readIdx).toNat + 1 < 2 ^ 32
  | _ => True

theorem handleEvent_hidden {event : SceBtEvent} (h : Hidden event) : handleEvent event = none := by
  have hid (id : UInt8) (hseen : idMask.getLsbD id.toNat = true) : event.id ≠ id := by
    intro heq
    rw [Hidden, heq, hseen] at h
    cases h.2
  have h5 := hid connectResult (by decide)
  have h6 := hid disconnect (by decide)
  have h7 := hid addRemoveConnectingDevice (by decide)
  have h15 := hid toggleBluetooth (by decide)
  simp only [handleEvent, if_neg h5, if_neg h6, if_neg h7, if_neg h15]

theorem emit_waits {ring : UmodRing} {waiting : List VqmbtEvent} (h : RingHolds ring waiting)
    (eventFlagUid : Int) {emitted : VqmbtEvent} (hid : emitted.id ≠ .none)
    (hfits : (ring.writeIdx - ring.readIdx).toNat + 1 < 2 ^ 32) :
    RingHolds (umodCbEmitEvent eventFlagUid ring (some emitted)).1 (waiting ++ [emitted]) := by
  have hqueue : (queueEmit waiting (some emitted)).1 = waiting ++ [emitted] := by
    simp only [queueEmit, if_neg hid]
  rw [← hqueue]
  refine (ringHolds_emit h eventFlagUid (some emitted) ?_).1
  rw [hqueue, List.length_append, List.length_singleton, ringHolds_length h]
  exact hfits

theorem read_tells {ring : UmodRing} {waiting : List VqmbtEvent} (h : RingHolds ring waiting)
    {copyRet : Int} (hcopy : 0 ≤ copyRet) (eventNull : Bool) (numEvents : Int) :
    ∃ rest, RingHolds (kvqmbtReadEvent copyRet ring eventNull numEvents).1 rest ∧
      (rest = waiting ∧
          toldBy numEvents (kvqmbtReadEvent copyRet ring eventNull numEvents).2 = [] ∨
        (rest = [] ∧ ∃ gap : Told, gap.entry = none ∧
          toldBy numEvents (kvqmbtReadEvent copyRet ring eventNull numEvents).2 = [gap]) ∨
        ∃ event, waiting = event :: rest ∧
          toldBy numEvents (kvqmbtReadEvent copyRet ring eventNull numEvents).2 =
            [.event event]) := by
  obtain ⟨hring, hreply⟩ := ringHolds_read h hcopy eventNull numEvents
  rw [hreply]
  obtain hflush | hrefuses | ⟨rfl, rfl, hempty⟩ | ⟨rfl, rfl, hover⟩ | hdelivers :=
    read_cases ring eventNull numEvents
  · rw [queueRead_flush hflush] at hring ⊢
    exact ⟨[], hring, .inr (.inl ⟨rfl, .flushed, rfl, if_pos hflush⟩)⟩
  · rw [queueRead_refuses hrefuses] at hring ⊢
    have hflush : ¬ numEvents < 1 := fun hlt => refuses_not_flush hlt eventNull hrefuses
    refine ⟨waiting, hring, .inl ⟨rfl, ?_⟩⟩
    simp [toldBy, if_neg hflush, VqmbtError.code]
  · obtain rfl := ringHolds_nil h hempty
    exact ⟨[], hring, .inl ⟨rfl, by simp [toldBy, queueRead, VqmbtError.code]⟩⟩
  · rw [queueRead_overflow ((ringHolds_overrun h).mp hover)] at hring ⊢
    exact ⟨[], hring, .inr (.inl ⟨rfl, .overflow, rfl, by simp [toldBy]⟩)⟩
  · obtain ⟨rfl, rfl, hne, hover⟩ := hdelivers
    rw [ne_eq, ringHolds_empty h] at hne
    rw [ringHolds_overrun h, Nat.not_lt] at hover
    obtain ⟨event, rest, rfl⟩ := List.exists_cons_of_ne_nil hne
    rw [queueRead_cons, if_neg (Nat.not_lt.mpr hover)] at hring ⊢
    exact ⟨rest, hring, .inr (.inr ⟨event, rfl, by simp [toldBy, VqmbtError.code]⟩)⟩

def PipeHolds (s : DriverPipe) : Prop :=
  ∃ waiting, RingHolds s.ring waiting ∧
    Reports (s.reported.map Told.entry ++ waiting.map some ++ s.callback.inHand.map some)
      (s.occurred.filterMap emittedFor)

theorem inHand_reading {report : List (Option VqmbtEvent)} {events : List VqmbtEvent}
    {note : Option SceBtEvent} {callback : CallbackAt}
    (hcallback : callback.inHand = (emittedFor note).toList)
    (h : Reports report events) :
    Reports (report ++ callback.inHand.map some)
      (events ++ [note].filterMap emittedFor) := by
  rw [hcallback]
  cases hnote : emittedFor note with
  | none => simpa [hnote] using h
  | some emitted => simpa [hnote] using h.push emitted

theorem readEvent_pipe {cbOverflow eventFlagUid : Int} {s t : DriverPipe} {ret : Int}
    {event : SceBtEvent} (hs : pipeStep cbOverflow eventFlagUid s (.readEvent ret event) = some t) :
    s.callback = .reading ∧ t.ring = s.ring ∧
      t.callback = if ret = cbOverflow then .dropping else if ret ≤ 0 then .away
        else .handling event := by
  simp only [pipeStep] at hs
  split at hs
  · next hreading =>
      refine ⟨hreading, ?_⟩
      split at hs
      · next hover =>
          cases hs
          exact ⟨rfl, (if_pos hover).symm⟩
      · next hover =>
          rw [if_neg hover]
          split at hs
          · next hneg =>
              cases hs
              exact ⟨rfl, (if_pos (Int.le_of_lt hneg)).symm⟩
          · next hneg =>
              split at hs
              · next hzero =>
                  cases hs
                  exact ⟨rfl, (if_pos (Int.le_of_eq hzero)).symm⟩
              · next hzero =>
                  cases hs
                  exact ⟨rfl, (if_neg (by omega)).symm⟩
  · cases hs

theorem emitTurn_holds {eventFlagUid : Int} {ring ring' : UmodRing} {waiting : List VqmbtEvent}
    (h : RingHolds ring waiting) (hfits : (ring.writeIdx - ring.readIdx).toNat + 1 < 2 ^ 32)
    {callback : CallbackAt} (hs : emitTurn eventFlagUid ring callback = some ring') :
    RingHolds ring' (waiting ++ callback.inHand) := by
  cases callback with
  | away => cases hs
  | reading => cases hs
  | dropping =>
      cases hs
      exact emit_waits h eventFlagUid (by decide) hfits
  | handling event =>
      cases hevent : handleEvent event with
      | none =>
          simp only [emitTurn, hevent, Option.some.injEq] at hs
          subst hs
          simpa [CallbackAt.inHand, hevent] using h
      | some emitted =>
          simp only [emitTurn, hevent, Option.some.injEq] at hs
          subst hs
          simpa [CallbackAt.inHand, hevent] using
            emit_waits h eventFlagUid (handleEvent_ne_none hevent) hfits

theorem pipeHolds_emit {eventFlagUid : Int} {s : DriverPipe} {ring : UmodRing}
    (h : PipeHolds s) (hfits : (s.ring.writeIdx - s.ring.readIdx).toNat + 1 < 2 ^ 32)
    (hs : emitTurn eventFlagUid s.ring s.callback = some ring) :
    PipeHolds { s with ring := ring, callback := .reading } := by
  obtain ⟨waiting, hring, hreports⟩ := h
  refine ⟨waiting ++ s.callback.inHand, emitTurn_holds hring hfits hs, ?_⟩
  simpa [CallbackAt.inHand] using hreports

theorem pipeHolds_read {s : DriverPipe} (h : PipeHolds s) {copyRet : Int} (hcopy : 0 ≤ copyRet)
    (eventNull : Bool) (numEvents : Int) :
    PipeHolds { s with
      ring := (kvqmbtReadEvent copyRet s.ring eventNull numEvents).1
      reported := s.reported ++ toldBy numEvents
        (kvqmbtReadEvent copyRet s.ring eventNull numEvents).2 } := by
  obtain ⟨waiting, hring, hreports⟩ := h
  obtain ⟨rest, hrest, ⟨rfl, htold⟩ | ⟨rfl, gap, hgap, htold⟩ | ⟨event, rfl, htold⟩⟩ :=
    read_tells hring hcopy eventNull numEvents
  · refine ⟨rest, hrest, ?_⟩
    rw [htold, List.append_nil]
    exact hreports
  · refine ⟨[], hrest, ?_⟩
    rw [htold, List.map_append, List.map_singleton, hgap, List.map_nil, List.append_nil]
    exact hreports.discard
  · refine ⟨rest, hrest, ?_⟩
    rw [htold, List.map_append, List.append_assoc (s.reported.map Told.entry)]
    exact hreports

theorem pipeHolds_step {cbOverflow eventFlagUid : Int} {s t : DriverPipe} {a : PipeStep}
    (hs : pipeStep cbOverflow eventFlagUid s a = some t) (hok : PipeOk ⟨s, a, t⟩)
    (h : PipeHolds s) : PipeHolds t := by
  cases a with
  | hide event =>
      simp only [pipeStep, Option.ite_none_right_eq_some, Option.some.injEq] at hs
      obtain ⟨hhidden, rfl⟩ := hs
      obtain ⟨waiting, hring, hreports⟩ := h
      refine ⟨waiting, hring, ?_⟩
      simpa [emittedFor, handleEvent_hidden hhidden] using hreports
  | notify =>
      simp only [pipeStep] at hs
      split at hs
      · next haway =>
          cases hs
          obtain ⟨waiting, hring, hreports⟩ := h
          rw [haway] at hreports
          exact ⟨waiting, hring, hreports⟩
      · cases hs
  | readEvent ret event =>
      simp only [pipeStep] at hs
      split at hs
      · next hreading =>
          obtain ⟨waiting, hring, hreports⟩ := h
          rw [hreading] at hreports
          have hbare : Reports (s.reported.map Told.entry ++ waiting.map some)
              (s.occurred.filterMap emittedFor) := by
            simpa [CallbackAt.inHand] using hreports
          split at hs
          · cases hs
            refine ⟨waiting, hring, ?_⟩
            rw [List.filterMap_append]
            exact inHand_reading rfl hbare
          · split at hs
            · cases hs
              exact ⟨waiting, hring, hreports⟩
            · split at hs
              · cases hs
                exact ⟨waiting, hring, hreports⟩
              · cases hs
                refine ⟨waiting, hring, ?_⟩
                rw [List.filterMap_append]
                exact inHand_reading rfl hbare
      · cases hs
  | emit =>
      obtain ⟨ring, hring, rfl⟩ := Option.map_eq_some_iff.mp hs
      exact pipeHolds_emit h hok hring
  | read eventNull numEvents copyRet =>
      cases hs
      exact pipeHolds_read h hok eventNull numEvents

theorem pipeHolds_run {cbOverflow eventFlagUid : Int}
    {past : List (Transition DriverPipe PipeStep)} {s : DriverPipe}
    (hrun : (driverPipe cbOverflow eventFlagUid).Run past s) (hok : ∀ x ∈ past, PipeOk x) :
    PipeHolds s := by
  refine hrun.invariant (P := PipeOk) ?_ (fun _ _ _ hs hx h => pipeHolds_step hs hx h) hok
  rintro s ⟨hempty, haway, hoccurred, hreported⟩
  refine ⟨[], ?_, ?_⟩
  · have hnone : pendingEvents s.ring = [] := (ringHolds_empty (ringHolds_pending s.ring)).mp hempty
    exact hnone ▸ ringHolds_pending s.ring
  · rw [haway, hoccurred, hreported]
    exact .nil

def noteOf (event : VqmbtEvent) : Option VqmbtEvent :=
  if event.id = .droppedEvents then none else some event

def DriverPipe.told (s : DriverPipe) (waiting : List VqmbtEvent) : List (Option VqmbtEvent) :=
  (s.reported.map Told.entry ++ waiting.map some ++ s.callback.inHand.map some).map
    fun e => e.bind noteOf

theorem noteOf_handled {event : SceBtEvent} {emitted : VqmbtEvent}
    (h : handleEvent event = some emitted) : noteOf emitted = some emitted := by
  have hid := handleEvent_ids event emitted h
  refine if_neg fun hdropped => ?_
  rw [hdropped] at hid
  revert hid
  decide

theorem noteOf_emittedFor (occurred : List (Option SceBtEvent)) :
    (occurred.filterMap emittedFor).map noteOf =
      occurred.filterMap (Reports.passedOn handleEvent) := by
  rw [List.map_filterMap]
  refine List.filterMap_congr fun note _ => ?_
  cases note with
  | none => rfl
  | some event =>
      cases hevent : handleEvent event with
      | none => simp [emittedFor, Reports.passedOn, hevent]
      | some emitted => simp [emittedFor, Reports.passedOn, hevent, noteOf_handled hevent]

theorem nothing_lost_unnoticed {cbOverflow eventFlagUid : Int}
    {past : List (Transition DriverPipe PipeStep)} {s : DriverPipe}
    (hrun : (driverPipe cbOverflow eventFlagUid).Run past s) (hok : ∀ x ∈ past, PipeOk x)
    {truth : List SceBtEvent} (hdriver : Reports s.occurred truth) :
    ∃ waiting, RingHolds s.ring waiting ∧
      Reports (s.told waiting) (truth.filterMap handleEvent) ∧
      (none ∉ s.told waiting → s.told waiting = (truth.filterMap handleEvent).map some) := by
  obtain ⟨waiting, hring, hreports⟩ := pipeHolds_run hrun hok
  have hnotes := hreports.map noteOf
  rw [noteOf_emittedFor] at hnotes
  have htold := hnotes.trans (hdriver.filterMap handleEvent)
  rw [List.map_map] at htold
  have hsame : Option.join ∘ Option.map noteOf = fun e => e.bind noteOf := by
    funext e
    cases e <;> rfl
  rw [hsame] at htold
  exact ⟨waiting, hring, htold, htold.complete⟩

def overflowing : List PipeStep :=
  [.notify, .readEvent 1 ⟨0x05, 0, 0, 1, 1⟩, .emit, .hide ⟨0x01, 0, 0, 2, 2⟩,
    .read false 1 0, .readEvent (-5) ⟨0, 0, 0, 0, 0⟩, .emit, .readEvent 0 ⟨0, 0, 0, 0, 0⟩,
    .read false 1 0]

def emptyPipe : DriverPipe := ⟨⟨fun _ => .zeroed, 7, 7⟩, .away, [], []⟩

theorem overflowing_plays : ((driverPipe (-5) 3).play [] emptyPipe overflowing).isSome := by
  decide

instance (x : Transition DriverPipe PipeStep) : Decidable (PipeOk x) := by
  unfold PipeOk
  split <;> infer_instance

def overflowed : List SceBtEvent :=
  [⟨0x05, 0, 0, 1, 1⟩, ⟨0x01, 0, 0, 2, 2⟩, ⟨0x06, 0, 0, 1, 1⟩]

theorem nothing_lost_unnoticed_overflow :
    let s := ((driverPipe (-5) 3).played emptyPipe overflowing overflowing_plays).2
    ∃ waiting, RingHolds s.ring waiting ∧
      Reports (s.told waiting) (overflowed.filterMap handleEvent) ∧
      (none ∉ s.told waiting →
        s.told waiting = (overflowed.filterMap handleEvent).map some) := by
  have hstart : (driverPipe (-5) 3).start emptyPipe := ⟨rfl, rfl, rfl, rfl⟩
  have hdriver : Reports [some ⟨0x05, 0, 0, 1, 1⟩, some ⟨0x01, 0, 0, 2, 2⟩, none] overflowed :=
    .event _ (.event _ (.missing _))
  exact nothing_lost_unnoticed (Lts.run_played hstart overflowing_plays) (by decide) hdriver

end VitaQmBluetooth.BtEvent
