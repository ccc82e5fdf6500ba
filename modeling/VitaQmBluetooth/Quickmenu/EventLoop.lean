import VitaQmBluetooth.QmState.UpdateUi
import VitaQmBluetooth.Quickmenu.Handlers
import VitaQmBluetooth.UmodCallback.Race

namespace VitaQmBluetooth

open Foundation

inductive LoopAt where
  | resetting (starting : Bool)
  | flushing (starting : Bool)
  | readingBluetooth (starting : Bool)
  | readingDevices (starting bluetoothOn : Bool)
  | applying (starting : Bool) (bulk : QmsBulk)
  | gettingFlag
  | looping
  | waiting
  | fetching
  | reading
  | handling (event : VqmbtEvent)
  | ended

def LoopAt.afterReset (starting : Bool) : LoopAt :=
  if starting = true then .gettingFlag else .fetching

def LoopAt.afterCall : LoopAt → ReadOutcome → LoopAt
  | .flushing starting, _ => .readingBluetooth starting
  | .reading, outcome =>
      match fetchNext outcome.reply with
      | .dropped => .resetting false
      | .stop => .looping
      | .event event => .handling event
  | thread, _ => thread

-- Whether the menu was brought up to date after the last discard, which the code does not record.
inductive Snapshot where
  | current
  | missed
  | rereading
  deriving DecidableEq

structure LoopSystem where
  race : RingRace
  signalling : Bool
  flag : Bool
  thread : LoopAt
  menu : QmModule
  snapshot : Snapshot

inductive LoopStep where
  | producer (a : EmitStep)
  | setFlag (ret : Int)
  | beginFlush
  | beginRead
  | consumer (a : ReadStep)
  | bluetoothState (bluetoothOn : Bool)
  | pairedDevices (devices : List VqmbtDeviceInfo)
  | pairedFails
  | apply
  | getFlag (ret : Int)
  | loopHead (runThread : Bool)
  | wake
  | timeout
  | waitFails
  | handle

def emitterStep (eventFlagUid : Int) (s : LoopSystem) : LoopStep → Option LoopSystem
  | .producer a =>
      if s.signalling = true then none
      else (producerStep s.race a).map fun race =>
        { s with
          race := race
          signalling := match a with
            | .publish => decide (eventFlagUid ≥ 0)
            | _ => false }
  | .setFlag ret =>
      if s.signalling = true then
        some { s with signalling := false, flag := if ret < 0 then s.flag else true }
      else none
  | _ => none

def LoopSystem.consume (s : LoopSystem) (a : ReadStep) : Option LoopSystem :=
  (consumerStep s.race a).map fun race =>
    { s with
      race := race
      thread := match race.consumer, race.ledger.outcomes with
        | .idle, outcome :: _ => s.thread.afterCall outcome
        | _, _ => s.thread
      snapshot := match a with
        | .jump => .missed
        | _ => s.snapshot }

def loopThreadStep (s : LoopSystem) (a : LoopStep) : Option LoopSystem :=
  match s.thread, a with
  | .resetting starting, .beginFlush =>
      (consumerStep s.race (.read true 0)).map fun race =>
        { s with race := race, thread := .flushing starting }
  | .fetching, .beginRead =>
      (consumerStep s.race (.read false 1)).map fun race =>
        { s with race := race, thread := .reading }
  | .flushing _, .consumer (.read _ _) | .reading, .consumer (.read _ _) => none
  | .flushing _, .consumer a | .reading, .consumer a => s.consume a
  | .readingBluetooth starting, .bluetoothState bluetoothOn =>
      some { s with
        thread := .readingDevices starting bluetoothOn
        snapshot := if s.snapshot = .missed then .rereading else s.snapshot }
  | .readingDevices starting bluetoothOn, .pairedDevices devices =>
      some { s with thread := .applying starting (resetBulk bluetoothOn devices) }
  | .readingDevices starting _, .pairedFails =>
      some { s with thread := .afterReset starting }
  | .applying starting bulk, .apply =>
      some { s with
        menu := (qmStateUpdateUi (fun _ => 0) s.menu (.bulkUpdate bulk)).1
        thread := .afterReset starting
        snapshot := if s.snapshot = .rereading then .current else s.snapshot }
  | .gettingFlag, .getFlag ret =>
      some { s with thread := if ret < 0 then .ended else .looping }
  | .looping, .loopHead runThread =>
      some { s with thread := if runThread = true then .waiting else .ended }
  | .waiting, .wake =>
      if s.flag = true then some { s with flag := false, thread := .fetching } else none
  | .waiting, .timeout => some { s with thread := .fetching }
  | .waiting, .waitFails => some { s with thread := .ended }
  | .handling event, .handle =>
      match handleEvent event with
      | .request request =>
          some { s with
            menu := (qmStateUpdateUi (fun _ => 0) s.menu request).1
            thread := .fetching }
      | .reset => some { s with thread := .resetting false }
      | .ignored => some { s with thread := .fetching }
  | _, _ => none

def eventLoop (eventFlagUid : Int) : Lts LoopSystem LoopStep where
  start s := s.race.consumer = .idle ∧ s.thread = .resetting true ∧ s.snapshot = .current
  step s a := (emitterStep eventFlagUid s a).or (loopThreadStep s a)

def LoopSystem.boot (ring : UmodRing) : LoopSystem where
  race := ⟨ring, .idle, .idle, [], ⟨ring.readIdx, [], 0, []⟩⟩
  signalling := false
  flag := false
  thread := .resetting true
  menu := .boot
  snapshot := .current

theorem start_loop (eventFlagUid : Int) (ring : UmodRing) :
    (eventLoop eventFlagUid).start (.boot ring) := ⟨rfl, rfl, rfl⟩

inductive CallStep (ring : UmodRing) :
    ConsumerAt → ReadStep → UmodRing → ConsumerAt → Option ReadOutcome → Prop
  | readIdx {n : Int} :
      CallStep ring (.called n) .loadReadIdx ring (.loadedRead n ring.readIdx) none
  | empty {n : Int} : CallStep ring (.loadedRead n ring.writeIdx) .loadWriteIdx ring .idle
      (some .empty)
  | flush {n : Int} {i : UnsignedInt} : n < 1 → CallStep ring (.loadedRead n i) .loadWriteIdx ring
      (.jumping i ring.writeIdx .flushed) none
  | overrun {n : Int} {i : UnsignedInt} : ¬ n < 1 → CallStep ring (.loadedRead n i) .loadWriteIdx
      ring (.jumping i ring.writeIdx .overflowed) none
  | load {n : Int} {i : UnsignedInt} : ¬ n < 1 → CallStep ring (.loadedRead n i) .loadWriteIdx
      ring (.loading i .zeroed eventFields) none
  | field {i : UnsignedInt} {copy copy' : VqmbtEvent} {todo todo' : List EventField}
      {f : EventField} :
      CallStep ring (.loading i copy todo) (.loadField f) ring (.loading i copy' todo') none
  | overtaken {i : UnsignedInt} {copy : VqmbtEvent} :
      CallStep ring (.loading i copy []) .reloadWriteIdx ring
        (.jumping i ring.writeIdx .overflowed) none
  | checked {i : UnsignedInt} {copy : VqmbtEvent} :
      CallStep ring (.loading i copy []) .reloadWriteIdx ring (.committing i copy) none
  | jump {i w : UnsignedInt} {outcome : ReadOutcome} :
      CallStep ring (.jumping i w outcome) .jump { ring with readIdx := w } .idle (some outcome)
  | commit {i : UnsignedInt} {copy : VqmbtEvent} :
      CallStep ring (.committing i copy) .commit { ring with readIdx := i + 1 }
        (.exporting i copy) none
  | exportFails {i : UnsignedInt} {copy : VqmbtEvent} {ret : Int} : ret < 0 →
      CallStep ring (.exporting i copy) (.copyToUser ret) ring .idle (some .exportFailed)
  | deliver {i : UnsignedInt} {copy : VqmbtEvent} {ret : Int} {seq : Nat} : ¬ ret < 0 →
      CallStep ring (.exporting i copy) (.copyToUser ret) ring .idle
        (some (.delivered seq i copy))

theorem call_step {r t : RingRace} {a : ReadStep} (h : consumerStep r a = some t)
    (hinside : ¬ a.Begins) :
    t.producer = r.producer ∧ ∃ done, CallStep r.ring r.consumer a t.ring t.consumer done ∧
      t.ledger.outcomes = done.toList ++ r.ledger.outcomes := by
  unfold consumerStep at h
  split at h
  · exact absurd trivial hinside
  · next hc =>
      cases h
      rw [hc]
      exact ⟨rfl, _, .readIdx, rfl⟩
  · next n i hc =>
      rw [hc]
      simp only at h
      split at h
      · next heq =>
          cases h
          subst heq
          exact ⟨rfl, _, .empty, rfl⟩
      split at h
      · next hflush =>
          cases h
          exact ⟨rfl, _, .flush hflush, rfl⟩
      next hread =>
        split at h
        · cases h
          exact ⟨rfl, _, .overrun hread, rfl⟩
        · cases h
          exact ⟨rfl, _, .load hread, rfl⟩
  · next hc =>
      cases h
      rw [hc]
      exact ⟨rfl, _, .jump, rfl⟩
  · next hc =>
      rw [hc]
      split at h
      · cases h
        exact ⟨rfl, _, .field, rfl⟩
      · cases h
  · next hc =>
      rw [hc]
      simp only at h
      split at h
      · cases h
        exact ⟨rfl, _, .overtaken, rfl⟩
      · cases h
        exact ⟨rfl, _, .checked, rfl⟩
  · next hc =>
      cases h
      rw [hc]
      exact ⟨rfl, _, .commit, rfl⟩
  · next hc =>
      rw [hc]
      split at h
      · next hneg =>
          cases h
          exact ⟨rfl, _, .exportFails hneg, rfl⟩
      · next hneg =>
          cases h
          exact ⟨rfl, _, .deliver hneg, rfl⟩
  · cases h

def LoopAt.InCall : LoopAt → Prop
  | .flushing _ | .reading => True
  | _ => False

def LoopAt.afterStep (thread : LoopAt) : Option ReadOutcome → LoopAt
  | none => thread
  | some outcome => thread.afterCall outcome

def Snapshot.afterStep (snapshot : Snapshot) : ReadStep → Snapshot
  | .jump => .missed
  | _ => snapshot

inductive ThreadMove (s : LoopSystem) : LoopStep → LoopSystem → Prop
  | beginFlush {starting : Bool} : s.thread = .resetting starting → s.race.consumer = .idle →
      ThreadMove s .beginFlush { s with
        race := { s.race with consumer := .called 0 }
        thread := .flushing starting }
  | beginRead : s.thread = .fetching → s.race.consumer = .idle →
      ThreadMove s .beginRead { s with
        race := { s.race with consumer := .called 1 }
        thread := .reading }
  | call {a : ReadStep} {race : RingRace} {done : Option ReadOutcome} : s.thread.InCall →
      CallStep s.race.ring s.race.consumer a race.ring race.consumer done →
      ThreadMove s (.consumer a) { s with
        race := race
        thread := s.thread.afterStep done
        snapshot := s.snapshot.afterStep a }
  | bluetoothState {starting bluetoothOn : Bool} : s.thread = .readingBluetooth starting →
      ThreadMove s (.bluetoothState bluetoothOn) { s with
        thread := .readingDevices starting bluetoothOn
        snapshot := if s.snapshot = .missed then .rereading else s.snapshot }
  | pairedDevices {starting bluetoothOn : Bool} {devices : List VqmbtDeviceInfo} :
      s.thread = .readingDevices starting bluetoothOn →
      ThreadMove s (.pairedDevices devices) { s with
        thread := .applying starting (resetBulk bluetoothOn devices) }
  | pairedFails {starting bluetoothOn : Bool} : s.thread = .readingDevices starting bluetoothOn →
      ThreadMove s .pairedFails { s with thread := .afterReset starting }
  | apply {starting : Bool} {bulk : QmsBulk} {menu : QmModule} :
      s.thread = .applying starting bulk →
      ThreadMove s .apply { s with
        menu := menu
        thread := .afterReset starting
        snapshot := if s.snapshot = .rereading then .current else s.snapshot }
  | getFlag {ret : Int} : s.thread = .gettingFlag →
      ThreadMove s (.getFlag ret) { s with thread := if ret < 0 then .ended else .looping }
  | loopHead {runThread : Bool} : s.thread = .looping →
      ThreadMove s (.loopHead runThread) { s with
        thread := if runThread = true then .waiting else .ended }
  | wake : s.thread = .waiting → s.flag = true →
      ThreadMove s .wake { s with flag := false, thread := .fetching }
  | timeout : s.thread = .waiting → ThreadMove s .timeout { s with thread := .fetching }
  | waitFails : s.thread = .waiting → ThreadMove s .waitFails { s with thread := .ended }
  | handled {event : VqmbtEvent} {menu : QmModule} : s.thread = .handling event →
      ThreadMove s .handle { s with menu := menu, thread := .fetching }
  | handledReset {event : VqmbtEvent} : s.thread = .handling event →
      ThreadMove s .handle { s with thread := .resetting false }

theorem CallStep.ends {ring ring' : UmodRing} {c c' : ConsumerAt} {a : ReadStep}
    {done : Option ReadOutcome} (h : CallStep ring c a ring' c' done) :
    c' = .idle ↔ done ≠ none := by
  cases h <;> simp

theorem consume_eq {s : LoopSystem} {a : ReadStep} {race : RingRace}
    (h : consumerStep s.race a = some race) (hinside : ¬ a.Begins) :
    ∃ done, CallStep s.race.ring s.race.consumer a race.ring race.consumer done ∧
      race.producer = s.race.producer ∧
      race.ledger.outcomes = done.toList ++ s.race.ledger.outcomes ∧
      s.consume a = some { s with
        race := race
        thread := s.thread.afterStep done
        snapshot := s.snapshot.afterStep a } := by
  obtain ⟨hproducer, done, hstep, houtcomes⟩ := call_step h hinside
  refine ⟨done, hstep, hproducer, houtcomes, ?_⟩
  have hthread : (match race.consumer, race.ledger.outcomes with
      | .idle, outcome :: _ => s.thread.afterCall outcome
      | _, _ => s.thread) = s.thread.afterStep done := by
    cases done with
    | none =>
        have hbusy : race.consumer ≠ .idle := fun hidle => hstep.ends.mp hidle rfl
        split
        · next hidle _ => exact absurd hidle hbusy
        · rfl
    | some outcome =>
        rw [hstep.ends.mpr (by simp), houtcomes]
        rfl
  unfold LoopSystem.consume
  rw [h, Option.map_some, hthread]
  rfl

theorem consume_move {s t : LoopSystem} {a : ReadStep} (h : s.consume a = some t)
    (hcall : s.thread.InCall) (hinside : ¬ a.Begins) : ThreadMove s (.consumer a) t := by
  obtain ⟨race, hrace, -⟩ := Option.map_eq_some_iff.mp h
  obtain ⟨done, hstep, -, -, hconsume⟩ := consume_eq hrace hinside
  obtain rfl := Option.some.inj (h.symm.trans hconsume)
  exact .call hcall hstep

theorem begin_step {r t : RingRace} {eventNull : Bool} {n : Int} (hn : ¬ n > 1)
    (hnull : ¬ (n > 0 ∧ eventNull = true)) (h : consumerStep r (.read eventNull n) = some t) :
    r.consumer = .idle ∧ t = { r with consumer := .called n } := by
  cases hc : r.consumer with
  | idle =>
      simp only [consumerStep, hc, if_neg hn, if_neg hnull, Option.some.injEq] at h
      exact ⟨rfl, h.symm⟩
  | _ => simp [consumerStep, hc] at h

theorem begins_not {a : ReadStep} (h : ∀ eventNull n, a = .read eventNull n → False) :
    ¬ a.Begins := by
  cases a with
  | read eventNull n => exact fun _ => h eventNull n rfl
  | _ => exact id

theorem thread_move {s t : LoopSystem} {a : LoopStep} (h : loopThreadStep s a = some t) :
    ThreadMove s a t := by
  unfold loopThreadStep at h
  split at h
  · next hthread =>
      simp only [Option.map_eq_some_iff] at h
      obtain ⟨race, hrace, rfl⟩ := h
      obtain ⟨hidle, rfl⟩ := begin_step (by decide) (by decide) hrace
      exact .beginFlush hthread hidle
  · next hthread =>
      simp only [Option.map_eq_some_iff] at h
      obtain ⟨race, hrace, rfl⟩ := h
      obtain ⟨hidle, rfl⟩ := begin_step (by decide) (by decide) hrace
      exact .beginRead hthread hidle
  · cases h
  · cases h
  · next hnot hthread =>
      exact consume_move h (by rw [hthread]; trivial) (begins_not hnot)
  · next hnot hthread =>
      exact consume_move h (by rw [hthread]; trivial) (begins_not hnot)
  · next hthread =>
      cases h
      exact .bluetoothState hthread
  · next hthread =>
      cases h
      exact .pairedDevices hthread
  · next hthread =>
      cases h
      exact .pairedFails hthread
  · next hthread =>
      cases h
      exact .apply hthread
  · next hthread =>
      cases h
      exact .getFlag hthread
  · next hthread =>
      cases h
      exact .loopHead hthread
  · next hthread =>
      split at h
      · next hflag =>
          cases h
          exact .wake hthread hflag
      · cases h
  · next hthread =>
      cases h
      exact .timeout hthread
  · next hthread =>
      cases h
      exact .waitFails hthread
  · next hthread =>
      split at h
      · cases h
        exact .handled hthread
      · cases h
        exact .handledReset hthread
      · cases h
        exact .handled hthread
  · cases h

theorem loop_step {eventFlagUid : Int} {s t : LoopSystem} {a : LoopStep}
    (h : (eventLoop eventFlagUid).step s a = some t) :
    emitterStep eventFlagUid s a = some t ∨ ThreadMove s a t := by
  simp only [eventLoop, Option.or_eq_some_iff] at h
  exact h.imp id fun hthread => thread_move hthread.2

theorem producer_frame {r t : RingRace} {a : EmitStep} (h : producerStep r a = some t) :
    t.consumer = r.consumer ∧ t.ring.readIdx = r.ring.readIdx ∧
      (t.ring.writeIdx = r.ring.writeIdx ∨ a = .publish) := by
  unfold producerStep at h
  split at h
  · cases h
    exact ⟨rfl, rfl, .inl rfl⟩
  · split at h
    · cases h
      exact ⟨rfl, rfl, .inl rfl⟩
    · cases h
      exact ⟨rfl, rfl, .inl rfl⟩
  · cases h
    exact ⟨rfl, rfl, .inl rfl⟩
  · split at h
    · cases h
      exact ⟨rfl, rfl, .inl rfl⟩
    · cases h
  · cases h
    exact ⟨rfl, rfl, .inr rfl⟩
  · cases h

theorem emitter_frame {eventFlagUid : Int} {s t : LoopSystem} {a : LoopStep}
    (h : emitterStep eventFlagUid s a = some t) :
    t.thread = s.thread ∧ t.snapshot = s.snapshot ∧ t.race.consumer = s.race.consumer ∧
      t.race.ring.readIdx = s.race.ring.readIdx := by
  unfold emitterStep at h
  split at h
  · split at h
    · cases h
    · simp only [Option.map_eq_some_iff] at h
      obtain ⟨race, hrace, rfl⟩ := h
      obtain ⟨hconsumer, hread, _⟩ := producer_frame hrace
      exact ⟨rfl, rfl, hconsumer, hread⟩
  · split at h
    · cases h
      exact ⟨rfl, rfl, rfl, rfl⟩
    · cases h
  · cases h

def CallFits : LoopAt → ConsumerAt → Prop
  | .flushing _, .called n => n < 1
  | .flushing _, .loadedRead n _ => n < 1
  | .flushing _, .jumping _ _ outcome => outcome = .flushed
  | .flushing _, _ => False
  | .reading, .called n => n = 1
  | .reading, .loadedRead n _ => n = 1
  | .reading, .jumping _ _ outcome => outcome = .overflowed
  | .reading, .idle => False
  | .reading, _ => True
  | _, c => c = .idle

theorem callFits_idle {thread : LoopAt} {c : ConsumerAt} (h : CallFits thread c)
    (hcall : ¬ thread.InCall) : c = .idle := by
  cases thread <;> first | exact h | exact absurd trivial hcall

theorem afterCall_not_inCall {thread : LoopAt} (hcall : thread.InCall) (outcome : ReadOutcome) :
    ¬ (thread.afterCall outcome).InCall := by
  cases thread with
  | flushing starting => exact id
  | reading =>
      simp only [LoopAt.afterCall]
      split <;> exact id
  | _ => exact absurd hcall id

theorem callFits_of_idle {thread : LoopAt} (h : ¬ thread.InCall) : CallFits thread .idle := by
  cases thread <;> first | rfl | exact absurd trivial h

theorem callFits_step {thread : LoopAt} {c c' : ConsumerAt} {ring ring' : UmodRing}
    {a : ReadStep} (h : CallStep ring c a ring' c' none) (hcall : thread.InCall)
    (hfits : CallFits thread c) : CallFits thread c' := by
  cases thread with
  | flushing starting =>
      cases h with
      | readIdx => exact hfits
      | flush _ => rfl
      | overrun hread => exact absurd hfits hread
      | load hread => exact absurd hfits hread
      | _ => exact hfits.elim
  | reading =>
      cases h with
      | readIdx => exact hfits
      | flush hflush =>
          have hone : (_ : Int) = 1 := hfits
          omega
      | overrun _ => rfl
      | overtaken => rfl
      | _ => trivial
  | _ => exact hcall.elim

theorem callFits_move {s t : LoopSystem} {a : LoopStep} (h : ThreadMove s a t)
    (hfits : CallFits s.thread s.race.consumer) : CallFits t.thread t.race.consumer := by
  have hleave {current next : LoopAt} (hthread : s.thread = current) (hs : ¬ current.InCall)
      (hnext : ¬ next.InCall) : CallFits next s.race.consumer := by
    rw [callFits_idle hfits (hthread ▸ hs)]
    exact callFits_of_idle hnext
  cases h with
  | beginFlush _ _ => exact (by decide : (0 : Int) < 1)
  | beginRead _ _ => exact (rfl : (1 : Int) = 1)
  | @call a race done hcall hstep =>
      cases done with
      | none => exact callFits_step hstep hcall hfits
      | some outcome =>
          have hidle : race.consumer = .idle := hstep.ends.mpr (by simp)
          simp only [LoopAt.afterStep, hidle]
          exact callFits_of_idle (afterCall_not_inCall hcall outcome)
  | bluetoothState hthread => exact hleave hthread id id
  | pairedDevices hthread => exact hleave hthread id id
  | pairedFails hthread =>
      refine hleave hthread id ?_
      simp only [LoopAt.afterReset]
      split <;> exact id
  | apply hthread =>
      refine hleave hthread id ?_
      simp only [LoopAt.afterReset]
      split <;> exact id
  | getFlag hthread =>
      refine hleave hthread id ?_
      split <;> exact id
  | loopHead hthread =>
      refine hleave hthread id ?_
      split <;> exact id
  | wake hthread _ => exact hleave hthread id id
  | timeout hthread => exact hleave hthread id id
  | waitFails hthread => exact hleave hthread id id
  | handled hthread => exact hleave hthread id id
  | handledReset hthread => exact hleave hthread id id

end VitaQmBluetooth
