import VitaQmBluetooth.Foundation.Interleaving
import VitaQmBluetooth.Foundation.Resync
import VitaQmBluetooth.QmState.Reachable
import VitaQmBluetooth.Quickmenu.Handlers
import VitaQmBluetooth.UmodCallback.Queue

namespace VitaQmBluetooth

open Foundation

def connectedAs (connected : Bool) : QmButtonState :=
  if connected = true then .connected else .disconnected

structure PairedList where
  count : Nat
  count_le : count ≤ vqmbtMaxDevices
  record : Fin count → Bool → VqmbtDeviceInfo
  mac : Fin count → UnsignedInt × UnsignedInt
  record_mac : ∀ idx connected, (record idx connected).mac = mac idx
  record_state : ∀ idx connected, (record idx connected).state.shownAs = connectedAs connected
  halves : ∀ idx, (mac idx).1 ≠ 0 ∧ (mac idx).2 ≠ 0
  distinct : ∀ i j, mac i = mac j → i = j

variable (paired : PairedList)

def PairedList.slot (idx : Fin paired.count) : Fin vqmbtMaxDevices := idx.castLE paired.count_le

inductive Notice where
  | change (idx : Fin paired.count) (connected : Bool)
  | dropped
  deriving DecidableEq

variable {paired}

def Notice.event : Notice paired → VqmbtEvent
  | .change idx true => ⟨.deviceConnectSuccess, (paired.mac idx).1, (paired.mac idx).2⟩
  | .change idx false => ⟨.deviceDisconnected, (paired.mac idx).1, (paired.mac idx).2⟩
  | .dropped => ⟨.droppedEvents, 0, 0⟩

def Notice.update (idx : Fin paired.count) : Notice paired → Update Bool
  | .change changed connected => if changed = idx then .set connected else .skip
  | .dropped => .resync

inductive ThreadAt where
  | flushing (inFetch : Bool)
  | readingBluetooth (inFetch : Bool)
  | readingDevices (inFetch bluetoothOn : Bool) (devices : List VqmbtDeviceInfo)
  | waiting
  | fetching
  | handling (event : VqmbtEvent)
  deriving DecidableEq

def ThreadAt.afterReset (inFetch : Bool) : ThreadAt :=
  if inFetch = true then .fetching else .waiting

variable (paired)

-- The ghost queue is the list the ring stands for.
structure EventSystem where
  truth : Fin paired.count → Bool
  pending : List (Notice paired)
  ring : UmodRing
  queue : List VqmbtEvent
  thread : ThreadAt
  menu : QmModule

inductive EventStep where
  | change (idx : Fin paired.count) (connected : Bool)
  | emit
  | drop (n : Nat) (kept : List (Notice paired))
  | flush
  | readBluetooth
  | readDevice
  | apply
  | wake
  | read
  | handle

variable {paired}

def kernelStep (eventFlagUid : Int) (s : EventSystem paired) :
    EventStep paired → Option (EventSystem paired)
  | .change idx connected =>
      some { s with
        truth := Function.update s.truth idx connected
        pending := s.pending ++ [.change idx connected] }
  | .emit =>
      match s.pending with
      | [] => none
      | notice :: rest =>
          some { s with
            pending := rest
            ring := (umodCbEmitEvent eventFlagUid s.ring (some notice.event)).1
            queue := (queueEmit s.queue (some notice.event)).1 }
  | .drop n kept =>
      if kept.Sublist (s.pending.take n) then
        some { s with pending := kept ++ .dropped :: s.pending.drop n }
      else none
  | _ => none

def eventThreadStep (s : EventSystem paired) (a : EventStep paired) :
    Option (EventSystem paired) :=
  match s.thread, a with
  | .flushing inFetch, .flush =>
      some { s with
        ring := (kvqmbtReadEvent 0 s.ring true 0).1
        queue := (queueRead s.queue true 0).1
        thread := .readingBluetooth inFetch }
  | .readingBluetooth inFetch, .readBluetooth =>
      some { s with thread := .readingDevices inFetch true [] }
  | .readingDevices inFetch bluetoothOn devices, .readDevice =>
      if h : devices.length < paired.count then
        let idx : Fin paired.count := ⟨devices.length, h⟩
        some { s with
          thread := .readingDevices inFetch bluetoothOn
            (devices ++ [paired.record idx (s.truth idx)]) }
      else none
  | .readingDevices inFetch bluetoothOn devices, .apply =>
      if devices.length = paired.count then
        let request := QmsRequest.bulkUpdate (resetBulk bluetoothOn devices)
        some { s with
          menu := (qmStateUpdateUi (fun _ => 0) s.menu request).1
          thread := .afterReset inFetch }
      else none
  | .waiting, .wake => some { s with thread := .fetching }
  | .fetching, .read =>
      let (ring, reply) := kvqmbtReadEvent 0 s.ring false 1
      let s := { s with ring := ring, queue := (queueRead s.queue false 1).1 }
      match fetchNext reply with
      | .dropped => some { s with thread := .flushing true }
      | .stop => some { s with thread := .waiting }
      | .event event => some { s with thread := .handling event }
  | .handling event, .handle =>
      match handleEvent event with
      | .request request =>
          some { s with
            menu := (qmStateUpdateUi (fun _ => 0) s.menu request).1
            thread := .fetching }
      | .reset => some { s with thread := .flushing true }
      | .ignored => some { s with thread := .fetching }
  | _, _ => none

def eventSystem (paired : PairedList) (eventFlagUid : Int) :
    Lts (EventSystem paired) (EventStep paired) where
  start s := (∃ past, s.menu = quickMenu.after past) ∧ s.pending = [] ∧
    s.ring.readIdx = s.ring.writeIdx ∧ s.queue = [] ∧ s.thread = .flushing false
  step s a := (kernelStep eventFlagUid s a).or (eventThreadStep s a)

end VitaQmBluetooth
