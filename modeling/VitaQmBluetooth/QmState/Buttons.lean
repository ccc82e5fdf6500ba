import VitaQmBluetooth.Foundation.Tracked
import VitaQmBluetooth.Interface.Vqmbt

namespace VitaQmBluetooth

open Foundation

abbrev buttonLabelMax : Nat := vqmbtSceDeviceNameMax + 16

inductive QmButtonState where
  | slotEmptyDisabled
  | btOffDisabled
  | disconnected
  | disconnectingDisabled
  | connected
  | connectingDisabled
  | errorDisabled
  deriving DecidableEq, Repr

structure QmButton where
  device : VqmbtDeviceInfo
  btnState : QmButtonState
  errorMessage : CString
  deriving DecidableEq

def QmButton.zeroed : QmButton := ⟨.zeroed, .slotEmptyDisabled, []⟩

@[ext] structure QmState where
  buttons : Fin vqmbtMaxDevices → QmButton

def QmState.zeroed : QmState := ⟨fun _ => .zeroed⟩

abbrev QmUpdate := Tracked vqmbtMaxDevices QmButton

inductive KvqmbtCall where
  | connectDevice (mac0 mac1 : UnsignedInt)
  | disconnectDevice (mac0 mac1 : UnsignedInt)
  deriving DecidableEq

structure QmsBulk where
  bluetoothOn : Bool
  numDevices : Int
  devices : Fin vqmbtMaxDevices → VqmbtDeviceInfo

inductive QmsRequest where
  | bulkUpdate (bulk : QmsBulk)
  | buttonPressed (idx : Fin vqmbtMaxDevices)
  | bluetoothOn
  | bluetoothOff
  | deviceDisconnected (mac0 mac1 : UnsignedInt)
  | deviceConnected (mac0 mac1 : UnsignedInt)

def transitionStateBtOffAt (c : QmUpdate) (idx : Fin vqmbtMaxDevices) : QmUpdate :=
  let qmButton := c.slots idx
  if qmButton.btnState ≠ .btOffDisabled ∧ qmButton.btnState ≠ .slotEmptyDisabled then
    c.write idx { qmButton with btnState := .btOffDisabled }
  else c

def transitionStateBtOff (c : QmUpdate) : Option (Fin vqmbtMaxDevices) → QmUpdate
  | none => (List.finRange vqmbtMaxDevices).foldl transitionStateBtOffAt c
  | some idx => transitionStateBtOffAt c idx

def transitionStateDisconnected (c : QmUpdate) (idx : Fin vqmbtMaxDevices) (force : Bool) :
    QmUpdate :=
  let qmButton := c.slots idx
  if qmButton.btnState = .btOffDisabled ∧ force = false then c
  else if qmButton.btnState ≠ .disconnected then
    c.write idx { qmButton with btnState := .disconnected }
  else c

def transitionStateBusyDisconnecting (c : QmUpdate) (idx : Fin vqmbtMaxDevices) : QmUpdate :=
  let qmButton := c.slots idx
  if qmButton.btnState ≠ .disconnectingDisabled then
    c.write idx { qmButton with btnState := .disconnectingDisabled }
  else c

def transitionStateConnected (c : QmUpdate) (idx : Fin vqmbtMaxDevices) (force : Bool) :
    QmUpdate :=
  let qmButton := c.slots idx
  if qmButton.btnState = .btOffDisabled ∧ force = false then c
  else if qmButton.btnState ≠ .connected then
    c.write idx { qmButton with btnState := .connected }
  else c

def transitionStateBusyConnecting (c : QmUpdate) (idx : Fin vqmbtMaxDevices) : QmUpdate :=
  let qmButton := c.slots idx
  if qmButton.btnState ≠ .connectingDisabled then
    c.write idx { qmButton with btnState := .connectingDisabled }
  else c

def errorMessageFor (error : Int) : CString :=
  if error = VqmbtError.kernelSideNotConnectable.code then
    sceClibSnprintf buttonLabelMax (ascii "Must connect from device")
  else if error = VqmbtError.kernelSideBusy.code then
    sceClibSnprintf buttonLabelMax (ascii "Busy (Settings opened?)")
  else sceClibSnprintf buttonLabelMax (ascii "0x" ++ hex08 error)

def transitionStateError (c : QmUpdate) (idx : Fin vqmbtMaxDevices) (error : Int) : QmUpdate :=
  let qmButton := c.slots idx
  if qmButton.btnState = .errorDisabled then c
  else c.write idx
    { qmButton with btnState := .errorDisabled, errorMessage := errorMessageFor error }

def buttonPressed (kernel : KvqmbtCall → Int) (c : QmUpdate) (idx : Fin vqmbtMaxDevices) :
    QmUpdate × List KvqmbtCall :=
  let qmButton := c.slots idx
  let device := qmButton.device
  match qmButton.btnState with
  | .slotEmptyDisabled | .btOffDisabled | .disconnectingDisabled | .connectingDisabled
  | .errorDisabled => (c, [])
  | .disconnected =>
      let call := KvqmbtCall.connectDevice device.mac0 device.mac1
      let ret := kernel call
      if ret < 0 then (transitionStateError c idx ret, [call])
      else (transitionStateBusyConnecting c idx, [call])
  | .connected =>
      let call := KvqmbtCall.disconnectDevice device.mac0 device.mac1
      let ret := kernel call
      if ret < 0 then (transitionStateError c idx ret, [call])
      else (transitionStateBusyDisconnecting c idx, [call])

def transitionStateBtOnAt (c : QmUpdate) (idx : Fin vqmbtMaxDevices) : QmUpdate :=
  let qmButton := c.slots idx
  if qmButton.btnState = .slotEmptyDisabled then c
  else match qmButton.device.state with
    | .disconnected => transitionStateDisconnected c idx true
    | .connecting => transitionStateBusyConnecting c idx
    | .disconnecting => transitionStateBusyDisconnecting c idx
    | .connectedHid | .connected | .registering => transitionStateConnected c idx false
    | _ => transitionStateDisconnected c idx false

def transitionStateBtOn (c : QmUpdate) : QmUpdate :=
  (List.finRange vqmbtMaxDevices).foldl transitionStateBtOnAt c

def bulkUpdatedRemoveDevice (c : QmUpdate) (idx : Fin vqmbtMaxDevices) : QmUpdate :=
  let qmButton := c.slots idx
  if qmButton.btnState ≠ .slotEmptyDisabled then
    c.write idx { qmButton with device := .zeroed, btnState := .slotEmptyDisabled }
  else c

def bulkUpdateNewDevice (c : QmUpdate) (idx : Fin vqmbtMaxDevices)
    (newDevice : VqmbtDeviceInfo) : QmUpdate :=
  let qmButton := c.slots idx
  let oldDevice := qmButton.device
  if newDevice.mac0 ≠ oldDevice.mac0 ∨ newDevice.mac1 ≠ oldDevice.mac1 then
    c.write idx { qmButton with device := newDevice, btnState := .disconnected }
  else c

def bulkUpdateSetState (c : QmUpdate) (idx : Fin vqmbtMaxDevices)
    (state : VqmbtInferredDevState) : QmUpdate :=
  match state with
  | .connecting => transitionStateBusyConnecting c idx
  | .disconnecting => transitionStateBusyDisconnecting c idx
  | .connectedHid | .connected | .registering => transitionStateConnected c idx true
  | _ => transitionStateDisconnected c idx true

def bulkUpdateAt (bulk : QmsBulk) (c : QmUpdate) (idx : Fin vqmbtMaxDevices) : QmUpdate :=
  if (idx : Int) ≥ bulk.numDevices then bulkUpdatedRemoveDevice c idx
  else
    let newDevice := bulk.devices idx
    let c := bulkUpdateNewDevice c idx newDevice
    if bulk.bluetoothOn = false then transitionStateBtOff c (some idx)
    else bulkUpdateSetState c idx newDevice.state

def bulkUpdate (bulk : QmsBulk) (c : QmUpdate) : QmUpdate :=
  (List.finRange vqmbtMaxDevices).foldl (bulkUpdateAt bulk) c

def macToIdx (slots : Fin vqmbtMaxDevices → QmButton) (mac0 mac1 : UnsignedInt) :
    Except VqmbtError (Fin vqmbtMaxDevices) :=
  if mac0 < 1 ∨ mac1 < 1 then .error .invalidArgument
  else match (List.finRange vqmbtMaxDevices).find? (fun idx =>
      (slots idx).device.mac0 = mac0 ∧ (slots idx).device.mac1 = mac1) with
    | some idx => .ok idx
    | none => .error .invalidArgument

end VitaQmBluetooth
