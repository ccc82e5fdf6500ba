import VitaQmBluetooth.QmState.UpdateUi

namespace VitaQmBluetooth

open Foundation Tracked

namespace QmButton

def btOff (b : QmButton) : QmButton :=
  if b.btnState = .slotEmptyDisabled then b else { b with btnState := .btOffDisabled }

def settle (target : QmButtonState) (force : Bool) (b : QmButton) : QmButton :=
  if b.btnState = .btOffDisabled ∧ force = false then b else { b with btnState := target }

def fail (error : Int) (b : QmButton) : QmButton :=
  if b.btnState = .errorDisabled then b
  else { b with btnState := .errorDisabled, errorMessage := errorMessageFor error }

def pressCall (b : QmButton) : Option KvqmbtCall :=
  match b.btnState with
  | .disconnected => some (.connectDevice b.device.mac0 b.device.mac1)
  | .connected => some (.disconnectDevice b.device.mac0 b.device.mac1)
  | _ => none

def pressOutcome (call : KvqmbtCall) (ret : Int) (b : QmButton) : QmButton :=
  if ret < 0 then b.fail ret
  else match call with
    | .connectDevice _ _ => b.settle .connectingDisabled true
    | .disconnectDevice _ _ => b.settle .disconnectingDisabled true

def press (kernel : KvqmbtCall → Int) (b : QmButton) : QmButton :=
  match b.pressCall with
  | none => b
  | some call => b.pressOutcome call (kernel call)

end QmButton

def VqmbtInferredDevState.shownAs : VqmbtInferredDevState → QmButtonState
  | .connecting => .connectingDisabled
  | .disconnecting => .disconnectingDisabled
  | .connectedHid | .connected | .registering => .connected
  | _ => .disconnected

def VqmbtInferredDevState.btOnForces : VqmbtInferredDevState → Bool
  | .disconnected | .connecting | .disconnecting => true
  | _ => false

namespace QmButton

def btOn (b : QmButton) : QmButton :=
  if b.btnState = .slotEmptyDisabled then b
  else b.settle b.device.state.shownAs b.device.state.btOnForces

def empty (b : QmButton) : QmButton :=
  if b.btnState = .slotEmptyDisabled then b
  else { b with device := .zeroed, btnState := .slotEmptyDisabled }

def assign (newDevice : VqmbtDeviceInfo) (b : QmButton) : QmButton :=
  if newDevice.mac = b.device.mac then b
  else { b with device := newDevice, btnState := .disconnected }

def bulk (request : QmsBulk) (idx : Fin vqmbtMaxDevices) (b : QmButton) : QmButton :=
  if (idx : Int) ≥ request.numDevices then b.empty
  else
    let b := b.assign (request.devices idx)
    if request.bluetoothOn = false then b.btOff
    else b.settle (request.devices idx).state.shownAs true

end QmButton

theorem transitionStateBtOffAt_eq (c : QmUpdate) (idx : Fin vqmbtMaxDevices) :
    transitionStateBtOffAt c idx = c.change idx QmButton.btOff := by
  simp only [transitionStateBtOffAt]
  split
  · next h =>
      have hb : (c.slots idx).btOff = { c.slots idx with btnState := .btOffDisabled } := by
        simp [QmButton.btOff, h.2]
      have hne : (c.slots idx).btOff ≠ c.slots idx := by
        rw [hb]
        exact fun heq => h.1 (congrArg QmButton.btnState heq).symm
      rw [change_of_ne c idx hne, hb]
  · next h =>
      refine (change_of_eq c idx ?_).symm
      simp only [ne_eq, not_and_or, not_not] at h
      unfold QmButton.btOff
      split
      · rfl
      · next hne => rw [← h.resolve_right hne]

theorem settle_eq (c : QmUpdate) (idx : Fin vqmbtMaxDevices) (target : QmButtonState)
    (force : Bool) :
    (if (c.slots idx).btnState = .btOffDisabled ∧ force = false then c
      else if (c.slots idx).btnState ≠ target then
        c.write idx { c.slots idx with btnState := target }
      else c) = c.change idx (QmButton.settle target force) := by
  split
  · next h => exact (change_of_eq c idx (by simp [QmButton.settle, h])).symm
  · next h =>
      have hb : (c.slots idx).settle target force = { c.slots idx with btnState := target } := by
        simp only [QmButton.settle, if_neg h]
      split
      · next hne =>
          have hmoved : (c.slots idx).settle target force ≠ c.slots idx := by
            rw [hb]
            exact fun heq => hne (congrArg QmButton.btnState heq).symm
          rw [change_of_ne c idx hmoved, hb]
      · next hsame =>
          refine (change_of_eq c idx ?_).symm
          rw [hb, ← not_not.mp hsame]

theorem transitionStateDisconnected_eq (c : QmUpdate) (idx : Fin vqmbtMaxDevices) (force : Bool) :
    transitionStateDisconnected c idx force = c.change idx (QmButton.settle .disconnected force) :=
  settle_eq c idx .disconnected force

theorem transitionStateConnected_eq (c : QmUpdate) (idx : Fin vqmbtMaxDevices) (force : Bool) :
    transitionStateConnected c idx force = c.change idx (QmButton.settle .connected force) :=
  settle_eq c idx .connected force

theorem transitionStateBusyConnecting_eq (c : QmUpdate) (idx : Fin vqmbtMaxDevices) :
    transitionStateBusyConnecting c idx =
      c.change idx (QmButton.settle .connectingDisabled true) := by
  rw [← settle_eq]
  simp [transitionStateBusyConnecting]

theorem transitionStateBusyDisconnecting_eq (c : QmUpdate) (idx : Fin vqmbtMaxDevices) :
    transitionStateBusyDisconnecting c idx =
      c.change idx (QmButton.settle .disconnectingDisabled true) := by
  rw [← settle_eq]
  simp [transitionStateBusyDisconnecting]

theorem transitionStateError_eq (c : QmUpdate) (idx : Fin vqmbtMaxDevices) (error : Int) :
    transitionStateError c idx error = c.change idx (QmButton.fail error) := by
  simp only [transitionStateError]
  split
  · next h => exact (change_of_eq c idx (by simp [QmButton.fail, h])).symm
  · next h =>
      have hb : (c.slots idx).fail error = { c.slots idx with
          btnState := .errorDisabled, errorMessage := errorMessageFor error } := by
        simp only [QmButton.fail, if_neg h]
      have hne : (c.slots idx).fail error ≠ c.slots idx := by
        rw [hb]
        exact fun heq => h (congrArg QmButton.btnState heq).symm
      rw [change_of_ne c idx hne, hb]

theorem buttonPressed_eq (kernel : KvqmbtCall → Int) (c : QmUpdate) (idx : Fin vqmbtMaxDevices) :
    buttonPressed kernel c idx =
      (c.change idx (QmButton.press kernel), (c.slots idx).pressCall.toList) := by
  have hidle (h : (c.slots idx).pressCall = none) : c = c.change idx (QmButton.press kernel) :=
    (change_of_eq c idx (by simp [QmButton.press, h])).symm
  have hcall {call : KvqmbtCall} (h : (c.slots idx).pressCall = some call) :
      c.change idx (QmButton.press kernel) =
        c.change idx (QmButton.pressOutcome call (kernel call)) := by
    simp [Tracked.change, QmButton.press, h]
  cases hs : (c.slots idx).btnState with
  | disconnected =>
      have hp : (c.slots idx).pressCall =
          some (.connectDevice (c.slots idx).device.mac0 (c.slots idx).device.mac1) := by
        simp [QmButton.pressCall, hs]
      rw [hcall hp, hp]
      simp only [buttonPressed, hs, transitionStateError_eq, transitionStateBusyConnecting_eq]
      split
      · next hneg => simp [Tracked.change, QmButton.pressOutcome, hneg]
      · next hneg => simp [Tracked.change, QmButton.pressOutcome, hneg]
  | connected =>
      have hp : (c.slots idx).pressCall =
          some (.disconnectDevice (c.slots idx).device.mac0 (c.slots idx).device.mac1) := by
        simp [QmButton.pressCall, hs]
      rw [hcall hp, hp]
      simp only [buttonPressed, hs, transitionStateError_eq, transitionStateBusyDisconnecting_eq]
      split
      · next hneg => simp [Tracked.change, QmButton.pressOutcome, hneg]
      · next hneg => simp [Tracked.change, QmButton.pressOutcome, hneg]
  | _ =>
      have hp : (c.slots idx).pressCall = none := by simp [QmButton.pressCall, hs]
      simp only [buttonPressed, hs, hp, Option.toList_none, ← hidle hp]

theorem transitionStateBtOnAt_eq (c : QmUpdate) (idx : Fin vqmbtMaxDevices) :
    transitionStateBtOnAt c idx = c.change idx QmButton.btOn := by
  simp only [transitionStateBtOnAt]
  split
  · next h => exact (change_of_eq c idx (by simp [QmButton.btOn, h])).symm
  · next h =>
      have hb : c.change idx QmButton.btOn = c.change idx (QmButton.settle
          (c.slots idx).device.state.shownAs (c.slots idx).device.state.btOnForces) := by
        simp [Tracked.change, QmButton.btOn, h]
      rw [hb]
      cases hs : (c.slots idx).device.state <;>
        simp only [transitionStateDisconnected_eq, transitionStateConnected_eq,
          transitionStateBusyConnecting_eq, transitionStateBusyDisconnecting_eq,
          VqmbtInferredDevState.shownAs, VqmbtInferredDevState.btOnForces]

theorem bulkUpdatedRemoveDevice_eq (c : QmUpdate) (idx : Fin vqmbtMaxDevices) :
    bulkUpdatedRemoveDevice c idx = c.change idx QmButton.empty := by
  simp only [bulkUpdatedRemoveDevice]
  split
  · next h =>
      have hb : (c.slots idx).empty =
          { c.slots idx with device := .zeroed, btnState := .slotEmptyDisabled } := by
        simp only [QmButton.empty, if_neg h]
      have hne : (c.slots idx).empty ≠ c.slots idx := by
        rw [hb]
        exact fun heq => h (congrArg QmButton.btnState heq).symm
      rw [change_of_ne c idx hne, hb]
  · next h => exact (change_of_eq c idx (by simp [QmButton.empty, not_not.mp h])).symm

theorem bulkUpdateSetState_eq (c : QmUpdate) (idx : Fin vqmbtMaxDevices)
    (state : VqmbtInferredDevState) :
    bulkUpdateSetState c idx state = c.change idx (QmButton.settle state.shownAs true) := by
  cases state <;>
    simp only [bulkUpdateSetState, VqmbtInferredDevState.shownAs, transitionStateDisconnected_eq,
      transitionStateConnected_eq, transitionStateBusyConnecting_eq,
      transitionStateBusyDisconnecting_eq]

theorem bulkUpdateNewDevice_eq (c : QmUpdate) (idx : Fin vqmbtMaxDevices)
    (newDevice : VqmbtDeviceInfo) :
    bulkUpdateNewDevice c idx newDevice = c.change idx (QmButton.assign newDevice) := by
  have hmac : newDevice.mac = (c.slots idx).device.mac ↔
      newDevice.mac0 = (c.slots idx).device.mac0 ∧ newDevice.mac1 = (c.slots idx).device.mac1 :=
    Prod.mk.injEq .. ▸ Iff.rfl
  simp only [bulkUpdateNewDevice, ← not_and_or, ← hmac, ne_eq]
  split
  · next h =>
      have hb : (c.slots idx).assign newDevice =
          { c.slots idx with device := newDevice, btnState := .disconnected } := by
        simp only [QmButton.assign, if_neg h]
      have hne : (c.slots idx).assign newDevice ≠ c.slots idx := by
        rw [hb]
        exact fun heq => h (congrArg (fun b => b.device.mac) heq)
      rw [change_of_ne c idx hne, hb]
  · next h => exact (change_of_eq c idx (by simp [QmButton.assign, not_not.mp h])).symm

@[simp] theorem QmButton.btOff_device (b : QmButton) : b.btOff.device = b.device := by
  unfold QmButton.btOff; split <;> rfl

@[simp] theorem QmButton.settle_device (b : QmButton) (target : QmButtonState) (force : Bool) :
    (b.settle target force).device = b.device := by
  unfold QmButton.settle; split <;> rfl

theorem QmButton.assign_mac (b : QmButton) (newDevice : VqmbtDeviceInfo) :
    (b.assign newDevice).device.mac = newDevice.mac := by
  unfold QmButton.assign
  split
  · next h => exact h.symm
  · rfl

theorem change_assign_change (c : QmUpdate) (idx : Fin vqmbtMaxDevices)
    (newDevice : VqmbtDeviceInfo) (g : QmButton → QmButton)
    (hg : ∀ b, (g b).device = b.device) :
    (c.change idx (QmButton.assign newDevice)).change idx g =
      c.change idx (fun b => g (b.assign newDevice)) := by
  apply change_change
  by_cases h : newDevice.mac = (c.slots idx).device.mac
  · exact .inl (by simp [QmButton.assign, h])
  · right
    intro heq
    have hdevice : ((c.slots idx).assign newDevice).device = (c.slots idx).device := by
      rw [← hg, heq]
    exact h (by rw [← QmButton.assign_mac (c.slots idx) newDevice, hdevice])

theorem bulkUpdateAt_eq (request : QmsBulk) (c : QmUpdate) (idx : Fin vqmbtMaxDevices) :
    bulkUpdateAt request c idx = c.change idx (QmButton.bulk request idx) := by
  simp only [bulkUpdateAt]
  split
  · next h =>
      rw [bulkUpdatedRemoveDevice_eq]
      simp [Tracked.change, QmButton.bulk, h]
  · next h =>
      split
      · next hoff =>
          rw [bulkUpdateNewDevice_eq, transitionStateBtOff, transitionStateBtOffAt_eq,
            change_assign_change c idx _ _ QmButton.btOff_device]
          simp [Tracked.change, QmButton.bulk, h, hoff]
      · next hon =>
          rw [bulkUpdateNewDevice_eq, bulkUpdateSetState_eq,
            change_assign_change c idx _ _ (fun b => b.settle_device _ _)]
          simp [Tracked.change, QmButton.bulk, h, hon]

def eventEffect (slots : Fin vqmbtMaxDevices → QmButton) (mac0 mac1 : UnsignedInt)
    (target : QmButtonState) (idx : Fin vqmbtMaxDevices) (b : QmButton) : QmButton :=
  match macToIdx slots mac0 mac1 with
  | .error _ => b
  | .ok found => if idx = found then b.settle target false else b

def requestEffect (kernel : KvqmbtCall → Int) (slots : Fin vqmbtMaxDevices → QmButton) :
    QmsRequest → Fin vqmbtMaxDevices → QmButton → QmButton
  | .bulkUpdate request, idx, b => b.bulk request idx
  | .buttonPressed pressed, idx, b => if idx = pressed then b.press kernel else b
  | .bluetoothOn, _, b => b.btOn
  | .bluetoothOff, _, b => b.btOff
  | .deviceDisconnected mac0 mac1, idx, b => eventEffect slots mac0 mac1 .disconnected idx b
  | .deviceConnected mac0 mac1, idx, b => eventEffect slots mac0 mac1 .connected idx b

def requestCalls (slots : Fin vqmbtMaxDevices → QmButton) : QmsRequest → List KvqmbtCall
  | .buttonPressed pressed => (slots pressed).pressCall.toList
  | _ => []

theorem handleRequest_eq (kernel : KvqmbtCall → Int) (c : QmUpdate) (request : QmsRequest) :
    handleRequest kernel c request =
      (c.changeEach (requestEffect kernel c.slots request), requestCalls c.slots request) := by
  have hevent (mac0 mac1 : UnsignedInt) (target : QmButtonState) (f : QmUpdate → _ → QmUpdate)
      (hf : ∀ idx, f c idx = c.change idx (QmButton.settle target false)) :
      (match macToIdx c.slots mac0 mac1 with
        | .error _ => (c, ([] : List KvqmbtCall))
        | .ok idx => (f c idx, [])) =
        (c.changeEach (eventEffect c.slots mac0 mac1 target), []) := by
    cases h : macToIdx c.slots mac0 mac1 with
    | error e =>
        have heffect : eventEffect c.slots mac0 mac1 target = fun _ b => b := by
          funext idx b
          simp only [eventEffect, h]
        simp only [heffect, changeEach_id]
    | ok found =>
        have heffect : eventEffect c.slots mac0 mac1 target =
            fun idx b => if idx = found then b.settle target false else b := by
          funext idx b
          simp only [eventEffect, h]
        simp only [heffect, hf, change_eq_changeEach]
  cases request with
  | bulkUpdate request =>
      simp only [handleRequest, bulkUpdate, funext₂ (bulkUpdateAt_eq request),
        foldl_finRange_change]
      rfl
  | buttonPressed pressed =>
      simp only [handleRequest, buttonPressed_eq, change_eq_changeEach]
      rfl
  | bluetoothOn =>
      simp only [handleRequest, transitionStateBtOn, funext₂ transitionStateBtOnAt_eq,
        foldl_finRange_change]
      rfl
  | bluetoothOff =>
      simp only [handleRequest, transitionStateBtOff, funext₂ transitionStateBtOffAt_eq,
        foldl_finRange_change]
      rfl
  | deviceDisconnected mac0 mac1 =>
      exact hevent mac0 mac1 .disconnected (fun c idx => transitionStateDisconnected c idx false)
        (fun idx => transitionStateDisconnected_eq c idx false)
  | deviceConnected mac0 mac1 =>
      exact hevent mac0 mac1 .connected (fun c idx => transitionStateConnected c idx false)
        (fun idx => transitionStateConnected_eq c idx false)

end VitaQmBluetooth
