import VitaQmBluetooth.Foundation.Machine
import VitaQmBluetooth.Foundation.RingIndex
import VitaQmBluetooth.Interface.Vqmbt

namespace VitaQmBluetooth

open Foundation

abbrev ringBufferSize : Nat := 16

instance : NeZero ringBufferSize := ⟨by decide⟩

theorem ringBufferSize_dvd : ringBufferSize ∣ 2 ^ 32 := by decide

structure UmodRing where
  ringBuffer : Fin ringBufferSize → VqmbtEvent
  writeIdx : UnsignedInt
  readIdx : UnsignedInt

structure EmitReply where
  ret : Int
  setFlag : Option Int
  deriving DecidableEq

-- A successful emit asks the kernel to set the flag; the outcome is only logged.
def umodCbEmitEvent (eventFlagUid : Int) (ring : UmodRing) (event : Option VqmbtEvent) :
    UmodRing × EmitReply :=
  match event with
  | none => (ring, ⟨VqmbtError.invalidArgument.code, none⟩)
  | some event =>
      if event.id = .none then (ring, ⟨VqmbtError.invalidArgument.code, none⟩)
      else
        let writeIdx := ring.writeIdx
        let ring := { ring with
          ringBuffer := Function.update ring.ringBuffer (slotNo ringBufferSize writeIdx) event
          writeIdx := writeIdx + 1 }
        (ring, ⟨0, if eventFlagUid ≥ 0 then some eventFlagUid else none⟩)

structure ReadReply where
  ret : Int
  event : Option VqmbtEvent
  deriving DecidableEq

def Overrun (writeIdx readIdx : UnsignedInt) : Prop :=
  writeIdx - readIdx > BitVec.ofNat 32 ringBufferSize

instance (writeIdx readIdx : UnsignedInt) : Decidable (Overrun writeIdx readIdx) :=
  inferInstanceAs (Decidable (_ > _))

-- copyRet is what ksceKernelCopyToUser returns if it is reached.
def kvqmbtReadEvent (copyRet : Int) (ring : UmodRing) (eventNull : Bool) (numEvents : Int) :
    UmodRing × ReadReply :=
  if numEvents > 1 then (ring, ⟨VqmbtError.invalidArgument.code, none⟩)
  else if numEvents > 0 ∧ eventNull = true then (ring, ⟨VqmbtError.invalidArgument.code, none⟩)
  else
    let readIdx := ring.readIdx
    let writeIdx := ring.writeIdx
    if readIdx = writeIdx then (ring, ⟨0, none⟩)
    else if numEvents < 1 then ({ ring with readIdx := writeIdx }, ⟨0, none⟩)
    else if Overrun writeIdx readIdx then
      ({ ring with readIdx := writeIdx }, ⟨VqmbtError.cbOverflow.code, none⟩)
    else
      let eventFromBuffer := ring.ringBuffer (slotNo ringBufferSize readIdx)
      let writeIdx := ring.writeIdx
      if Overrun writeIdx readIdx then
        ({ ring with readIdx := writeIdx }, ⟨VqmbtError.cbOverflow.code, none⟩)
      else
        let ring := { ring with readIdx := readIdx + 1 }
        if copyRet < 0 then (ring, ⟨VqmbtError.kernelSide.code, none⟩)
        else (ring, ⟨1, some eventFromBuffer⟩)

def Delivers (ring : UmodRing) (eventNull : Bool) (numEvents : Int) : Prop :=
  numEvents = 1 ∧ eventNull = false ∧ ring.readIdx ≠ ring.writeIdx ∧
    ¬ Overrun ring.writeIdx ring.readIdx

instance (ring : UmodRing) (eventNull : Bool) (numEvents : Int) :
    Decidable (Delivers ring eventNull numEvents) :=
  inferInstanceAs (Decidable (_ ∧ _ ∧ _ ∧ _))

def Refuses (eventNull : Bool) (numEvents : Int) : Prop :=
  numEvents > 1 ∨ (numEvents = 1 ∧ eventNull = true)

theorem refuses_not_flush {numEvents : Int} (h : numEvents < 1) (eventNull : Bool) :
    ¬ Refuses eventNull numEvents := by
  simp only [Refuses]
  omega

theorem refuses_not_one : ¬ Refuses false 1 := by simp [Refuses]

theorem read_cases (ring : UmodRing) (eventNull : Bool) (numEvents : Int) :
    numEvents < 1 ∨ Refuses eventNull numEvents ∨
      (numEvents = 1 ∧ eventNull = false ∧ ring.readIdx = ring.writeIdx) ∨
      (numEvents = 1 ∧ eventNull = false ∧ Overrun ring.writeIdx ring.readIdx) ∨
      Delivers ring eventNull numEvents := by
  by_cases hflush : numEvents < 1
  · exact .inl hflush
  by_cases hmany : numEvents > 1
  · exact .inr (.inl (.inl hmany))
  have hone : numEvents = 1 := by omega
  cases eventNull with
  | true => exact .inr (.inl (.inr ⟨hone, rfl⟩))
  | false =>
      by_cases hempty : ring.readIdx = ring.writeIdx
      · exact .inr (.inr (.inl ⟨hone, rfl, hempty⟩))
      by_cases hover : Overrun ring.writeIdx ring.readIdx
      · exact .inr (.inr (.inr (.inl ⟨hone, rfl, hover⟩)))
      · exact .inr (.inr (.inr (.inr ⟨hone, rfl, hempty, hover⟩)))

theorem caught_up {ring : UmodRing} (h : ring.readIdx = ring.writeIdx) :
    { ring with readIdx := ring.writeIdx } = ring := by
  obtain ⟨ringBuffer, writeIdx, readIdx⟩ := ring
  obtain rfl : readIdx = writeIdx := h
  rfl

theorem read_flush {numEvents : Int} (h : numEvents < 1) (copyRet : Int) (ring : UmodRing)
    (eventNull : Bool) :
    kvqmbtReadEvent copyRet ring eventNull numEvents =
      ({ ring with readIdx := ring.writeIdx }, ⟨0, none⟩) := by
  have hmany : ¬ numEvents > 1 := by omega
  have hnull : ¬ (numEvents > 0 ∧ eventNull = true) := by omega
  simp only [kvqmbtReadEvent, if_neg hmany, if_neg hnull, if_pos h]
  split
  · next hempty => rw [caught_up hempty]
  · rfl

theorem read_refuses {eventNull : Bool} {numEvents : Int} (h : Refuses eventNull numEvents)
    (copyRet : Int) (ring : UmodRing) :
    kvqmbtReadEvent copyRet ring eventNull numEvents =
      (ring, ⟨VqmbtError.invalidArgument.code, none⟩) := by
  rcases h with hmany | ⟨rfl, rfl⟩
  · rw [kvqmbtReadEvent, if_pos hmany]
  · rfl

theorem read_empty {ring : UmodRing} (h : ring.readIdx = ring.writeIdx) (copyRet : Int) :
    kvqmbtReadEvent copyRet ring false 1 = (ring, ⟨0, none⟩) := if_pos h

theorem overrun_ne {ring : UmodRing} (h : Overrun ring.writeIdx ring.readIdx) :
    ring.readIdx ≠ ring.writeIdx := by
  intro heq
  rw [heq, Overrun, BitVec.sub_self] at h
  exact absurd h (by decide)

theorem read_overrun {ring : UmodRing} (h : Overrun ring.writeIdx ring.readIdx) (copyRet : Int) :
    kvqmbtReadEvent copyRet ring false 1 =
      ({ ring with readIdx := ring.writeIdx }, ⟨VqmbtError.cbOverflow.code, none⟩) :=
  (if_neg (overrun_ne h)).trans (if_pos h)

theorem read_delivers {ring : UmodRing} {eventNull : Bool} {numEvents : Int}
    (h : Delivers ring eventNull numEvents) (copyRet : Int) :
    kvqmbtReadEvent copyRet ring eventNull numEvents =
      ({ ring with readIdx := ring.readIdx + 1 },
        if copyRet < 0 then ⟨VqmbtError.kernelSide.code, none⟩
        else ⟨1, some (ring.ringBuffer (slotNo ringBufferSize ring.readIdx))⟩) := by
  obtain ⟨rfl, rfl, hne, hover⟩ := h
  have hvalid : ¬ ((1 : Int) > 0 ∧ false = true) := by decide
  simp only [kvqmbtReadEvent, if_neg (Int.lt_irrefl 1), if_neg hvalid, if_neg hne, if_neg hover]
  split <;> rfl

inductive RingCall where
  | emit (event : Option VqmbtEvent)
  | read (eventNull : Bool) (numEvents : Int) (copyRet : Int)

def RingCall.CopyOk : RingCall → Prop
  | .emit _ => True
  | .read _ _ copyRet => 0 ≤ copyRet

def ringMachine (eventFlagUid : Int) (ring : UmodRing) : Machine UmodRing RingCall ReadReply where
  boot := ring
  step ring
    | .emit event =>
        let (ring, reply) := umodCbEmitEvent eventFlagUid ring event
        (ring, ⟨reply.ret, none⟩)
    | .read eventNull numEvents copyRet => kvqmbtReadEvent copyRet ring eventNull numEvents

end VitaQmBluetooth
