import VitaQmBluetooth.QmState.Buttons
import VitaQmBluetooth.UmodCallback.Ring

namespace VitaQmBluetooth

inductive HandlerCall where
  | request (request : QmsRequest)
  | reset
  | ignored

def handleEventDropped : HandlerCall := .reset

def handleEvent (event : VqmbtEvent) : HandlerCall :=
  match event.id with
  | .droppedEvents => handleEventDropped
  | .bluetoothEnabled => .request .bluetoothOn
  | .bluetoothDisabled => .request .bluetoothOff
  | .deviceAddedRemovedConnecting => .reset
  | .deviceConnectSuccess => .request (.deviceConnected event.mac0 event.mac1)
  | .deviceDisconnected | .deviceConnectFailed | .deviceConnectAborted
  | .deviceConnectCancelled => .request (.deviceDisconnected event.mac0 event.mac1)
  | .none | .other _ => .ignored

inductive FetchNext where
  | dropped
  | stop
  | event (event : VqmbtEvent)

def fetchNext (reply : ReadReply) : FetchNext :=
  if reply.ret = VqmbtError.cbOverflow.code then .dropped
  else if reply.ret < 0 then .stop
  else if reply.ret = 0 then .stop
  else .event (reply.event.getD .zeroed)

theorem fetchNext_event (event : VqmbtEvent) : fetchNext ⟨1, some event⟩ = .event event := by
  simp [fetchNext, VqmbtError.code]

def resetBulk (bluetoothOn : Bool) (devices : List VqmbtDeviceInfo) : QmsBulk where
  bluetoothOn := bluetoothOn
  numDevices := devices.length
  devices idx := devices.getD idx .zeroed

theorem resetBulk_lists (bluetoothOn : Bool) (devices : List VqmbtDeviceInfo)
    (idx : Fin vqmbtMaxDevices) :
    (idx : Int) < (resetBulk bluetoothOn devices).numDevices ↔ idx.val < devices.length :=
  Int.ofNat_lt

end VitaQmBluetooth
