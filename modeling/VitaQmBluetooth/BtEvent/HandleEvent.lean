import VitaQmBluetooth.UmodCallback.Backlog

namespace VitaQmBluetooth

open Foundation

structure SceBtEvent where
  id : UInt8
  unk1 : UInt8
  unk3 : UnsignedInt
  mac0 : UnsignedInt
  mac1 : UnsignedInt
  deriving DecidableEq

namespace BtEvent

def connectResult : UInt8 := 0x05

def disconnect : UInt8 := 0x06

def addRemoveConnectingDevice : UInt8 := 0x07

def toggleBluetooth : UInt8 := 0x15

def handleEvent (event : SceBtEvent) : Option VqmbtEvent :=
  if event.id = connectResult then
    if event.unk1 = 0x00 then some ⟨.deviceConnectSuccess, event.mac0, event.mac1⟩
    else if event.unk1 = 0x04 then some ⟨.deviceConnectFailed, event.mac0, event.mac1⟩
    else if event.unk1 = 0x02 then some ⟨.deviceConnectAborted, event.mac0, event.mac1⟩
    else if event.unk1 = 0x05 then some ⟨.deviceConnectCancelled, event.mac0, event.mac1⟩
    else if event.unk1 = 0x08 then some ⟨.deviceConnectFailed, event.mac0, event.mac1⟩
    else some ⟨.deviceConnectFailed, event.mac0, event.mac1⟩
  else if event.id = disconnect then some ⟨.deviceDisconnected, event.mac0, event.mac1⟩
  else if event.id = addRemoveConnectingDevice then
    some ⟨.deviceAddedRemovedConnecting, event.mac0, event.mac1⟩
  else if event.id = toggleBluetooth then
    if event.unk3 = 0x00 then none
    else if event.unk3 = 0x09 then some ⟨.bluetoothEnabled, 0, 0⟩
    else if event.unk3 = 0x19 then none
    else if event.unk3 = 0x20 then some ⟨.bluetoothDisabled, 0, 0⟩
    else none
  else none

def handleEvents (eventFlagUid : Int) (ring : UmodRing) (events : List SceBtEvent) : UmodRing :=
  events.foldl (fun ring event =>
    match handleEvent event with
    | none => ring
    | some emitted => (umodCbEmitEvent eventFlagUid ring (some emitted)).1) ring

theorem handleEvent_ids (event : SceBtEvent) : ∀ emitted ∈ handleEvent event,
    emitted.id ∈ [.bluetoothEnabled, .bluetoothDisabled, .deviceAddedRemovedConnecting,
      .deviceConnectSuccess, .deviceDisconnected, .deviceConnectFailed, .deviceConnectAborted,
      .deviceConnectCancelled] := by
  fun_cases handleEvent event
  all_goals simp only [Option.mem_some, forall_eq', Option.not_mem_none, false_imp_iff,
    implies_true]
  all_goals decide

theorem handleEvent_ne_none {event : SceBtEvent} {emitted : VqmbtEvent}
    (h : handleEvent event = some emitted) : emitted.id ≠ .none := by
  intro hnone
  have hid := handleEvent_ids event emitted h
  rw [hnone] at hid
  revert hid
  decide

theorem ringShows_handleEvents {ring : UmodRing} {queue : List VqmbtEvent}
    (h : RingShows ring queue) (eventFlagUid : Int) (events : List SceBtEvent) :
    RingShows (handleEvents eventFlagUid ring events) (queue ++ events.filterMap handleEvent) := by
  induction events generalizing ring queue with
  | nil => simpa [handleEvents] using h
  | cons event events ih =>
      simp only [handleEvents, List.foldl_cons]
      cases hevent : handleEvent event with
      | none =>
          rw [List.filterMap_cons_none hevent]
          exact ih h
      | some emitted =>
          have hid := handleEvent_ne_none hevent
          have hnext := (ringShows_emit h eventFlagUid (some emitted)).1
          simp only [queueEmit, if_neg hid] at hnext
          rw [List.filterMap_cons_some hevent, ← List.singleton_append, ← List.append_assoc]
          exact ih hnext

end BtEvent

end VitaQmBluetooth
