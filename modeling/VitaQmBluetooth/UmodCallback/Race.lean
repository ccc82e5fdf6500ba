import Mathlib.Logic.Relation
import VitaQmBluetooth.Foundation.Interleaving
import VitaQmBluetooth.UmodCallback.Ring

namespace VitaQmBluetooth

open Foundation

inductive EventField where
  | id
  | mac0
  | mac1
  deriving DecidableEq

namespace VqmbtEvent

def get (event : VqmbtEvent) : EventField → VqmbtEventId ⊕ UnsignedInt
  | .id => .inl event.id
  | .mac0 => .inr event.mac0
  | .mac1 => .inr event.mac1

def copyField (dest source : VqmbtEvent) : EventField → VqmbtEvent
  | .id => { dest with id := source.id }
  | .mac0 => { dest with mac0 := source.mac0 }
  | .mac1 => { dest with mac1 := source.mac1 }

@[simp] theorem get_copyField_self (dest source : VqmbtEvent) (f : EventField) :
    (dest.copyField source f).get f = source.get f := by
  cases f <;> rfl

theorem get_copyField_ne (dest source : VqmbtEvent) {f g : EventField} (h : g ≠ f) :
    (dest.copyField source f).get g = dest.get g := by
  cases f <;> cases g <;> first | rfl | exact absurd rfl h

theorem eq_of_get {e e' : VqmbtEvent} (h : ∀ f, e.get f = e'.get f) : e = e' := by
  obtain ⟨id, mac0, mac1⟩ := e
  obtain ⟨id', mac0', mac1'⟩ := e'
  obtain rfl := Sum.inl.inj (h .id)
  obtain rfl := Sum.inr.inj (h .mac0)
  obtain rfl := Sum.inr.inj (h .mac1)
  rfl

theorem copyFields (dest source : VqmbtEvent) :
    ((dest.copyField source .id).copyField source .mac0).copyField source .mac1 = source := rfl

end VqmbtEvent

def eventFields : List EventField := [.id, .mac0, .mac1]

inductive ProducerAt where
  | idle
  | called (event : VqmbtEvent)
  | storing (event : VqmbtEvent) (writeIdx : UnsignedInt) (todo : List EventField)
  deriving DecidableEq

inductive ReadOutcome where
  | refused
  | empty
  | flushed
  | overflowed
  | exportFailed
  | delivered (seq : Nat) (readIdx : UnsignedInt) (event : VqmbtEvent)
  deriving DecidableEq

def ReadOutcome.reply : ReadOutcome → ReadReply
  | .refused => ⟨VqmbtError.invalidArgument.code, none⟩
  | .empty | .flushed => ⟨0, none⟩
  | .overflowed => ⟨VqmbtError.cbOverflow.code, none⟩
  | .exportFailed => ⟨VqmbtError.kernelSide.code, none⟩
  | .delivered _ _ event => ⟨1, some event⟩

inductive ConsumerAt where
  | idle
  | called (numEvents : Int)
  | loadedRead (numEvents : Int) (readIdx : UnsignedInt)
  | jumping (readIdx writeIdx : UnsignedInt) (outcome : ReadOutcome)
  | loading (readIdx : UnsignedInt) (copy : VqmbtEvent) (todo : List EventField)
  | committing (readIdx : UnsignedInt) (copy : VqmbtEvent)
  | exporting (readIdx : UnsignedInt) (copy : VqmbtEvent)
  deriving DecidableEq

-- What the run did so far; the code sees neither this nor the torn fields.
structure Ledger where
  firstIdx : UnsignedInt
  emitted : List VqmbtEvent
  taken : Nat
  outcomes : List ReadOutcome

structure RingRace where
  ring : UmodRing
  producer : ProducerAt
  consumer : ConsumerAt
  torn : List EventField
  ledger : Ledger

inductive EmitStep where
  | emit (event : Option VqmbtEvent)
  | loadWriteIdx
  | storeField (f : EventField)
  | publish

inductive ReadStep where
  | read (eventNull : Bool) (numEvents : Int)
  | loadReadIdx
  | loadWriteIdx
  | jump
  | loadField (f : EventField)
  | reloadWriteIdx
  | commit
  | copyToUser (ret : Int)

inductive RaceStep where
  | producer (a : EmitStep)
  | consumer (a : ReadStep)

def producerStep (s : RingRace) (a : EmitStep) : Option RingRace :=
  match s.producer, a with
  | .idle, .emit none => some s
  | .idle, .emit (some event) =>
      if event.id = .none then some s else some { s with producer := .called event }
  | .called event, .loadWriteIdx =>
      some { s with producer := .storing event s.ring.writeIdx eventFields }
  | .storing event writeIdx todo, .storeField f =>
      if f ∈ todo then
        let slot := slotNo ringBufferSize writeIdx
        some { s with
          ring := { s.ring with
            ringBuffer := Function.update s.ring.ringBuffer slot
              ((s.ring.ringBuffer slot).copyField event f) }
          producer := .storing event writeIdx (todo.filter (· ≠ f)) }
      else none
  | .storing event writeIdx [], .publish =>
      some { s with
        ring := { s.ring with writeIdx := writeIdx + 1 }
        producer := .idle
        ledger := { s.ledger with emitted := s.ledger.emitted ++ [event] } }
  | _, _ => none

def RingRace.finish (s : RingRace) (outcome : ReadOutcome) : RingRace :=
  { s with
    consumer := .idle
    ledger := { s.ledger with outcomes := outcome :: s.ledger.outcomes } }

def Overwritten (s : RingRace) (readIdx : UnsignedInt) (f : EventField) : Prop :=
  match s.producer with
  | .storing event writeIdx todo =>
      slotNo ringBufferSize writeIdx = slotNo ringBufferSize readIdx ∧ f ∉ todo ∧
        (s.ledger.emitted[s.ledger.taken]?).map (·.get f) ≠ some (event.get f)
  | _ => False

instance (s : RingRace) (readIdx : UnsignedInt) (f : EventField) :
    Decidable (Overwritten s readIdx f) := by
  unfold Overwritten
  exact match s.producer with
    | .storing _ _ _ => inferInstance
    | .idle | .called _ => inferInstance

def consumerStep (s : RingRace) (a : ReadStep) : Option RingRace :=
  match s.consumer, a with
  | .idle, .read eventNull numEvents =>
      if numEvents > 1 then some (s.finish .refused)
      else if numEvents > 0 ∧ eventNull = true then some (s.finish .refused)
      else some { s with consumer := .called numEvents }
  | .called numEvents, .loadReadIdx =>
      some { s with consumer := .loadedRead numEvents s.ring.readIdx }
  | .loadedRead numEvents readIdx, .loadWriteIdx =>
      let writeIdx := s.ring.writeIdx
      if readIdx = writeIdx then some (s.finish .empty)
      else if numEvents < 1 then some { s with consumer := .jumping readIdx writeIdx .flushed }
      else if Overrun writeIdx readIdx then
        some { s with consumer := .jumping readIdx writeIdx .overflowed }
      else some { s with
        consumer := .loading readIdx .zeroed eventFields
        torn := [] }
  | .jumping readIdx writeIdx outcome, .jump =>
      some (RingRace.finish { s with
        ring := { s.ring with readIdx := writeIdx }
        ledger := { s.ledger with
          taken := s.ledger.taken + (writeIdx - readIdx).toNat } } outcome)
  | .loading readIdx copy todo, .loadField f =>
      if f ∈ todo then
        some { s with
          consumer := .loading readIdx
            (copy.copyField (s.ring.ringBuffer (slotNo ringBufferSize readIdx)) f)
            (todo.filter (· ≠ f))
          torn := if Overwritten s readIdx f then f :: s.torn else s.torn }
      else none
  | .loading readIdx copy [], .reloadWriteIdx =>
      let writeIdx := s.ring.writeIdx
      if Overrun writeIdx readIdx then
        some { s with consumer := .jumping readIdx writeIdx .overflowed }
      else some { s with consumer := .committing readIdx copy }
  | .committing readIdx copy, .commit =>
      some { s with
        ring := { s.ring with readIdx := readIdx + 1 }
        consumer := .exporting readIdx copy
        ledger := { s.ledger with taken := s.ledger.taken + 1 } }
  | .exporting readIdx copy, .copyToUser ret =>
      if ret < 0 then some (s.finish .exportFailed)
      else some (s.finish (.delivered (s.ledger.taken - 1) readIdx copy))
  | _, _ => none

def ringRace : Lts RingRace RaceStep where
  start s := s.producer = .idle ∧ s.consumer = .idle ∧ s.ring.readIdx = s.ring.writeIdx ∧
    s.torn = [] ∧ s.ledger = ⟨s.ring.readIdx, [], 0, []⟩
  step s
    | .producer a => producerStep s a
    | .consumer a => consumerStep s a

theorem storeField_step (ring : UmodRing) (consumer : ConsumerAt) (torn : List EventField)
    (ledger : Ledger) (event : VqmbtEvent) (writeIdx : UnsignedInt) (todo : List EventField)
    (f : EventField) (h : f ∈ todo) :
    producerStep ⟨ring, .storing event writeIdx todo, consumer, torn, ledger⟩ (.storeField f) =
      some ⟨⟨Function.update ring.ringBuffer (slotNo ringBufferSize writeIdx)
          ((ring.ringBuffer (slotNo ringBufferSize writeIdx)).copyField event f),
          ring.writeIdx, ring.readIdx⟩,
        .storing event writeIdx (todo.filter (· ≠ f)), consumer, torn, ledger⟩ := by
  simp only [producerStep, if_pos h]

theorem loadField_step (ring : UmodRing) (producer : ProducerAt) (torn : List EventField)
    (ledger : Ledger) (readIdx : UnsignedInt) (copy : VqmbtEvent) (todo : List EventField)
    (f : EventField) (h : f ∈ todo) :
    ∃ torn', consumerStep ⟨ring, producer, .loading readIdx copy todo, torn, ledger⟩
        (.loadField f) =
      some ⟨ring, producer, .loading readIdx
          (copy.copyField (ring.ringBuffer (slotNo ringBufferSize readIdx)) f)
          (todo.filter (· ≠ f)), torn', ledger⟩ := by
  simp only [consumerStep, if_pos h]
  exact ⟨_, rfl⟩

def ReadStep.Begins : ReadStep → Prop
  | .read _ _ => True
  | _ => False

def EmitsOn (s t : RingRace) : Prop := ∃ a, producerStep s a = some t

def ReadsOn (s t : RingRace) : Prop := ∃ a, ¬ a.Begins ∧ consumerStep s a = some t

theorem emit_alone (s : RingRace) (h : s.producer = .idle) (eventFlagUid : Int)
    (event : Option VqmbtEvent) :
    ∃ t, Relation.ReflTransGen EmitsOn s t ∧ t.producer = .idle ∧ t.consumer = s.consumer ∧
      t.ring = (umodCbEmitEvent eventFlagUid s.ring event).1 := by
  obtain ⟨ring, producer, consumer, torn, ledger⟩ := s
  obtain rfl : producer = .idle := h
  cases event with
  | none => exact ⟨_, .single ⟨.emit none, rfl⟩, rfl, rfl, rfl⟩
  | some event =>
      by_cases hid : event.id = .none
      · refine ⟨_, .single ⟨.emit (some event), if_pos hid⟩, rfl, rfl, ?_⟩
        simp [umodCbEmitEvent, hid]
      · refine ⟨⟨(umodCbEmitEvent eventFlagUid ring (some event)).1, .idle, consumer, torn,
          { ledger with emitted := ledger.emitted ++ [event] }⟩, ?_, rfl, rfl, rfl⟩
        refine .head ⟨.emit (some event), if_neg hid⟩ ?_
        refine .head ⟨.loadWriteIdx, rfl⟩ ?_
        refine .head ⟨.storeField .id, storeField_step _ _ _ _ _ _ eventFields .id (by decide)⟩ ?_
        refine .head ⟨.storeField .mac0,
          storeField_step _ _ _ _ _ _ [.mac0, .mac1] .mac0 (by decide)⟩ ?_
        refine .head ⟨.storeField .mac1, storeField_step _ _ _ _ _ _ [.mac1] .mac1 (by decide)⟩ ?_
        refine .single ⟨.publish, ?_⟩
        simp [producerStep, umodCbEmitEvent, hid, VqmbtEvent.copyFields]

def ReadsAlone (s : RingRace) (result : UmodRing × ReadReply) : Prop :=
  ∃ (t : RingRace) (outcome : ReadOutcome), Relation.ReflTransGen ReadsOn s t ∧
    t.consumer = .idle ∧ t.producer = s.producer ∧
    t.ledger.outcomes = outcome :: s.ledger.outcomes ∧ (t.ring, outcome.reply) = result

theorem ReadsAlone.step {s s' : RingRace} {a : ReadStep} {result : UmodRing × ReadReply}
    (h : ReadsAlone s' result) (hstep : consumerStep s a = some s') (hinside : ¬ a.Begins)
    (hproducer : s'.producer = s.producer)
    (houtcomes : s'.ledger.outcomes = s.ledger.outcomes) : ReadsAlone s result := by
  obtain ⟨t, outcome, hlater, hidle, hsame, hnew, hresult⟩ := h
  refine ⟨t, outcome, .head ⟨a, hinside, hstep⟩ hlater, hidle, hsame.trans hproducer, ?_, hresult⟩
  rw [hnew, houtcomes]

theorem finish_alone {s : RingRace} {a : ReadStep} {outcome : ReadOutcome}
    (hstep : consumerStep s a = some (s.finish outcome)) (hinside : ¬ a.Begins) :
    ReadsAlone s (s.ring, outcome.reply) :=
  ⟨_, outcome, .single ⟨a, hinside, hstep⟩, rfl, rfl, rfl, rfl⟩

theorem jump_alone (ring : UmodRing) (producer : ProducerAt) (torn : List EventField)
    (ledger : Ledger) (readIdx writeIdx : UnsignedInt) (outcome : ReadOutcome) :
    ReadsAlone ⟨ring, producer, .jumping readIdx writeIdx outcome, torn, ledger⟩
      ({ ring with readIdx := writeIdx }, outcome.reply) :=
  ⟨_, outcome, .single ⟨.jump, id, rfl⟩, rfl, rfl, rfl, rfl⟩

theorem export_alone (ring : UmodRing) (producer : ProducerAt) (torn : List EventField)
    (ledger : Ledger) (readIdx : UnsignedInt) (copy : VqmbtEvent) (copyRet : Int) :
    ReadsAlone ⟨ring, producer, .exporting readIdx copy, torn, ledger⟩
      (ring, if copyRet < 0 then ⟨VqmbtError.kernelSide.code, none⟩ else ⟨1, some copy⟩) := by
  let s : RingRace := ⟨ring, producer, .exporting readIdx copy, torn, ledger⟩
  by_cases hneg : copyRet < 0
  · have hstep : consumerStep s (.copyToUser copyRet) = some (s.finish .exportFailed) :=
      if_pos hneg
    rw [if_pos hneg]
    exact finish_alone hstep id
  · have hstep : consumerStep s (.copyToUser copyRet) =
        some (s.finish (.delivered (ledger.taken - 1) readIdx copy)) := if_neg hneg
    rw [if_neg hneg]
    exact finish_alone hstep id

theorem empty_alone {ring : UmodRing} {producer : ProducerAt} {torn : List EventField}
    {ledger : Ledger} {numEvents : Int} (h : ring.readIdx = ring.writeIdx) :
    ReadsAlone ⟨ring, producer, .loadedRead numEvents ring.readIdx, torn, ledger⟩
      (ring, ⟨0, none⟩) := by
  let s : RingRace := ⟨ring, producer, .loadedRead numEvents ring.readIdx, torn, ledger⟩
  have hstep : consumerStep s .loadWriteIdx = some (s.finish .empty) := if_pos h
  exact finish_alone hstep id

theorem called_alone {ring : UmodRing} {producer : ProducerAt} {torn : List EventField}
    {ledger : Ledger} {numEvents : Int} {result : UmodRing × ReadReply}
    (h : ReadsAlone ⟨ring, producer, .loadedRead numEvents ring.readIdx, torn, ledger⟩ result) :
    ReadsAlone ⟨ring, producer, .called numEvents, torn, ledger⟩ result :=
  h.step (a := .loadReadIdx) rfl id rfl rfl

theorem copy_alone {ring : UmodRing} {producer : ProducerAt} {ledger : Ledger}
    (hover : ¬ Overrun ring.writeIdx ring.readIdx) (copyRet : Int) :
    ReadsAlone ⟨ring, producer, .loading ring.readIdx .zeroed eventFields, [], ledger⟩
      ({ ring with readIdx := ring.readIdx + 1 },
        if copyRet < 0 then ⟨VqmbtError.kernelSide.code, none⟩
        else ⟨1, some (ring.ringBuffer (slotNo ringBufferSize ring.readIdx))⟩) := by
  obtain ⟨torn₁, hid⟩ := loadField_step ring producer [] ledger ring.readIdx
    .zeroed eventFields .id (by decide)
  obtain ⟨torn₂, hmac0⟩ := loadField_step ring producer torn₁ ledger ring.readIdx
    _ [.mac0, .mac1] .mac0 (by decide)
  obtain ⟨torn₃, hmac1⟩ := loadField_step ring producer torn₂ ledger ring.readIdx
    _ [.mac1] .mac1 (by decide)
  have hexport := export_alone { ring with readIdx := ring.readIdx + 1 } producer torn₃
    { ledger with taken := ledger.taken + 1 } ring.readIdx
    (ring.ringBuffer (slotNo ringBufferSize ring.readIdx)) copyRet
  have hcommit : ReadsAlone ⟨ring, producer, .committing ring.readIdx
      (ring.ringBuffer (slotNo ringBufferSize ring.readIdx)), torn₃, ledger⟩ _ :=
    hexport.step (a := .commit) rfl id rfl rfl
  refine .step ?_ hid id rfl rfl
  refine .step ?_ hmac0 id rfl rfl
  refine .step ?_ hmac1 id rfl rfl
  exact hcommit.step (a := .reloadWriteIdx) (if_neg hover) id rfl rfl

theorem call_alone (ring : UmodRing) (producer : ProducerAt) (torn : List EventField)
    (ledger : Ledger) (copyRet : Int) {eventNull : Bool} {numEvents : Int}
    (hvalid : ¬ Refuses eventNull numEvents) :
    ReadsAlone ⟨ring, producer, .called numEvents, torn, ledger⟩
      (kvqmbtReadEvent copyRet ring eventNull numEvents) := by
  refine called_alone ?_
  obtain hflush | hrefuses | ⟨rfl, rfl, hempty⟩ | ⟨rfl, rfl, hover⟩ | hdelivers :=
    read_cases ring eventNull numEvents
  · rw [read_flush hflush]
    by_cases hempty : ring.readIdx = ring.writeIdx
    · rw [caught_up hempty]
      exact empty_alone hempty
    · exact (jump_alone ring producer torn ledger _ _ .flushed).step (a := .loadWriteIdx)
        ((if_neg hempty).trans (if_pos hflush)) id rfl rfl
  · exact absurd hrefuses hvalid
  · rw [read_empty hempty]
    exact empty_alone hempty
  · rw [read_overrun hover]
    exact (jump_alone ring producer torn ledger _ _ .overflowed).step (a := .loadWriteIdx)
      ((if_neg (overrun_ne hover)).trans (if_pos hover)) id rfl rfl
  · rw [read_delivers hdelivers]
    obtain ⟨rfl, rfl, hempty, hover⟩ := hdelivers
    exact (copy_alone hover copyRet).step (a := .loadWriteIdx)
      ((if_neg hempty).trans (if_neg hover)) id rfl rfl

end VitaQmBluetooth
