import VitaQmBluetooth.Interface.Clib

namespace VitaQmBluetooth

abbrev vqmbtMaxDevices : Nat := 8

theorem zero_lt_maxDevices : 0 < vqmbtMaxDevices := by decide

abbrev vqmbtSceDeviceNameMax : Nat := 0x79

inductive VqmbtError where
  | invalidArgument
  | kernelSide
  | kernelSideNotConnectable
  | kernelSideBusy
  | cbOverflow
  | notReady
  | generalFailure
  deriving DecidableEq, Repr

def VqmbtError.code : VqmbtError → Int
  | .invalidArgument => 0x80690001 - 2 ^ 32
  | .kernelSide => 0x80690002 - 2 ^ 32
  | .kernelSideNotConnectable => 0x80690003 - 2 ^ 32
  | .kernelSideBusy => 0x80690004 - 2 ^ 32
  | .cbOverflow => 0x80690005 - 2 ^ 32
  | .notReady => 0x80690006 - 2 ^ 32
  | .generalFailure => 0x80690007 - 2 ^ 32

theorem VqmbtError.code_neg (e : VqmbtError) : e.code < 0 := by cases e <;> decide

theorem VqmbtError.code_injective {e f : VqmbtError} (h : e.code = f.code) : e = f := by
  cases e <;> cases f <;> first | rfl | exact absurd h (by decide)

inductive VqmbtInferredDevState where
  | unknown0
  | disconnected
  | connecting
  | connectedHid
  | disconnecting
  | connected
  | registering
  | other (raw : { v : Int // v < 0 ∨ 6 < v })
  deriving DecidableEq

namespace VqmbtInferredDevState

def toInt : VqmbtInferredDevState → Int
  | .unknown0 => 0
  | .disconnected => 1
  | .connecting => 2
  | .connectedHid => 3
  | .disconnecting => 4
  | .connected => 5
  | .registering => 6
  | .other raw => raw.val

def ofInt (v : Int) : VqmbtInferredDevState :=
  if h : v < 0 ∨ 6 < v then .other ⟨v, h⟩
  else if v = 0 then .unknown0
  else if v = 1 then .disconnected
  else if v = 2 then .connecting
  else if v = 3 then .connectedHid
  else if v = 4 then .disconnecting
  else if v = 5 then .connected
  else .registering

theorem toInt_ofInt (v : Int) : (ofInt v).toInt = v := by
  unfold ofInt
  split
  · rfl
  · repeat' split
    all_goals simp only [toInt]; omega

theorem ofInt_toInt (s : VqmbtInferredDevState) : ofInt s.toInt = s := by
  cases s with
  | other raw => simp [toInt, ofInt, raw.property]
  | _ => rfl

end VqmbtInferredDevState

structure VqmbtDeviceInfo where
  name : Vector UInt8 vqmbtSceDeviceNameMax
  mac0 : UnsignedInt
  mac1 : UnsignedInt
  state : VqmbtInferredDevState
  deriving DecidableEq

namespace VqmbtDeviceInfo

def zeroed : VqmbtDeviceInfo := ⟨Vector.replicate _ 0, 0, 0, .unknown0⟩

def mac (device : VqmbtDeviceInfo) : UnsignedInt × UnsignedInt := (device.mac0, device.mac1)

end VqmbtDeviceInfo

inductive VqmbtEventId where
  | none
  | droppedEvents
  | bluetoothEnabled
  | bluetoothDisabled
  | deviceAddedRemovedConnecting
  | deviceDisconnected
  | deviceConnectSuccess
  | deviceConnectFailed
  | deviceConnectAborted
  | deviceConnectCancelled
  | other (raw : { v : UnsignedInt // 9 < v })
  deriving DecidableEq

structure VqmbtEvent where
  id : VqmbtEventId
  mac0 : UnsignedInt
  mac1 : UnsignedInt
  deriving DecidableEq

def VqmbtEvent.zeroed : VqmbtEvent := ⟨.none, 0, 0⟩

end VitaQmBluetooth
