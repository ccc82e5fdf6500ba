import Mathlib.Data.Rat.Defs
import VitaQmBluetooth.Foundation.Machine
import VitaQmBluetooth.QmState.Buttons

namespace VitaQmBluetooth

open Foundation

structure WidgetColor where
  red : Rat
  green : Rat
  blue : Rat
  alpha : Rat
  deriving DecidableEq

def enabledColor : WidgetColor := ⟨1, 1, 1, 1⟩

def disabledColor : WidgetColor := ⟨1 / 2, 1 / 2, 1 / 2, 1⟩

-- What was last set on a widget; nothing before the first redraw.
structure Widget where
  label : Option CString
  color : Option WidgetColor
  deriving DecidableEq

def buttonLabel (idx : Fin vqmbtMaxDevices) (qmButton : QmButton) : CString :=
  let device := qmButton.device
  match qmButton.btnState with
  | .slotEmptyDisabled =>
      sceClibSnprintf buttonLabelMax
        (ascii "Slot " ++ ascii (toString (idx.val + 1)) ++ ascii ": no device")
  | .btOffDisabled => sceClibSnprintf buttonLabelMax (ascii "Bluetooth is disabled")
  | .disconnectingDisabled =>
      sceClibSnprintf buttonLabelMax (ascii "Disconnecting " ++ bufferText device.name)
  | .connectingDisabled =>
      sceClibSnprintf buttonLabelMax (ascii "Connecting " ++ bufferText device.name)
  | .errorDisabled =>
      sceClibSnprintf buttonLabelMax (ascii "Error: " ++ qmButton.errorMessage)
  | .disconnected =>
      sceClibSnprintf buttonLabelMax (ascii "Connect " ++
        if device.name[0] ≠ 0 then bufferText device.name else ascii "N/A")
  | .connected =>
      sceClibSnprintf buttonLabelMax (ascii "Disconnect " ++ bufferText device.name)

def buttonEnabled (qmButton : QmButton) : Bool :=
  match qmButton.btnState with
  | .disconnected | .connected => true
  | _ => false

structure QmModule where
  qmState : QmState
  firstRun : Bool
  widgets : Fin vqmbtMaxDevices → Widget

def QmModule.boot : QmModule := ⟨.zeroed, true, fun _ => ⟨none, none⟩⟩

def setWidgetLabel (widgets : Fin vqmbtMaxDevices → Widget) (idx : Fin vqmbtMaxDevices)
    (label : CString) : Fin vqmbtMaxDevices → Widget :=
  Function.update widgets idx { widgets idx with label := some label }

def setWidgetColor (widgets : Fin vqmbtMaxDevices → Widget) (idx : Fin vqmbtMaxDevices)
    (color : WidgetColor) : Fin vqmbtMaxDevices → Widget :=
  Function.update widgets idx { widgets idx with color := some color }

def refreshUiAt (qmState : QmState) (widgets : Fin vqmbtMaxDevices → Widget)
    (idx : Fin vqmbtMaxDevices) : Fin vqmbtMaxDevices → Widget :=
  let qmButton := qmState.buttons idx
  let widgets := setWidgetLabel widgets idx (buttonLabel idx qmButton)
  if buttonEnabled qmButton = true then setWidgetColor widgets idx enabledColor
  else setWidgetColor widgets idx disabledColor

def refreshUi (m : QmModule) : QmModule :=
  { m with widgets := (List.finRange vqmbtMaxDevices).foldl (refreshUiAt m.qmState) m.widgets }

structure UpdateReply where
  changed : Bool
  calls : List KvqmbtCall
  deriving DecidableEq

def handleRequest (kernel : KvqmbtCall → Int) (c : QmUpdate) :
    QmsRequest → QmUpdate × List KvqmbtCall
  | .bulkUpdate bulk => (bulkUpdate bulk c, [])
  | .buttonPressed idx => buttonPressed kernel c idx
  | .bluetoothOn => (transitionStateBtOn c, [])
  | .bluetoothOff => (transitionStateBtOff c none, [])
  | .deviceDisconnected mac0 mac1 =>
      match macToIdx c.slots mac0 mac1 with
      | .error _ => (c, [])
      | .ok idx => (transitionStateDisconnected c idx false, [])
  | .deviceConnected mac0 mac1 =>
      match macToIdx c.slots mac0 mac1 with
      | .error _ => (c, [])
      | .ok idx => (transitionStateConnected c idx false, [])

def qmStateUpdateUi (kernel : KvqmbtCall → Int) (m : QmModule) (request : QmsRequest) :
    QmModule × UpdateReply :=
  let (c, calls) := handleRequest kernel ⟨m.qmState.buttons, false⟩ request
  let m := { m with qmState := ⟨c.slots⟩ }
  let m :=
    if c.changed = true then refreshUi m
    else if m.firstRun = true then { refreshUi m with firstRun := false }
    else m
  (m, ⟨c.changed, calls⟩)

structure Handling where
  request : QmsRequest
  kernel : KvqmbtCall → Int

def quickMenu : Machine QmModule Handling UpdateReply where
  boot := .boot
  step m a := qmStateUpdateUi a.kernel m a.request

end VitaQmBluetooth
