import VitaQmBluetooth.Bluetooth.DriverMenu
import VitaQmBluetooth.BtEvent.EventCallback
import VitaQmBluetooth.Foundation.Replication
import VitaQmBluetooth.QmState.ConnectCycle
import VitaQmBluetooth.Quickmenu.Handlers

namespace VitaQmBluetooth

open Foundation

structure PairedAddresses where
  macs : List (UnsignedInt × UnsignedInt)
  fits : macs.length ≤ vqmbtMaxDevices
  distinct : macs.Nodup
  halves : ∀ mac ∈ macs, mac.1 ≠ 0 ∧ mac.2 ≠ 0

def SceBtRegisteredInfo.exportedMac (sceDev : SceBtRegisteredInfo) : UnsignedInt × UnsignedInt :=
  (exportDevice ⟨1, [sceDev], fun _ _ _ => 0, fun _ => 0⟩ 0).mac

theorem exportDevice_mac (k : PairedKernel) (idx : Nat) :
    (exportDevice k idx).mac = (k.pairedDevices idx).exportedMac := rfl

-- What the driver answers to ksceBtGetRegisteredInfo and ksceBtGetConnectingInfo.
structure BtDevices where
  registered : List SceBtRegisteredInfo
  connecting : UnsignedInt → UnsignedInt → Int
  addresses : PairedAddresses
  exported : registered.map (·.exportedMac) = addresses.macs

inductive Cell where
  | addresses
  | device (mac : UnsignedInt × UnsignedInt)
  deriving DecidableEq

def Cell.Value : Cell → Type
  | .addresses => PairedAddresses
  | .device _ => QmButtonState

abbrev Picture : Type := (cell : Cell) → cell.Value

namespace Picture

def addresses (p : Picture) : PairedAddresses := p .addresses

def shown (p : Picture) (mac : UnsignedInt × UnsignedInt) : QmButtonState := p (.device mac)

def set (p : Picture) (mac : UnsignedInt × UnsignedInt) (s : QmButtonState) : Picture :=
  Function.update p (.device mac) s

variable (p : Picture) (mac : UnsignedInt × UnsignedInt) (s : QmButtonState)

@[simp] theorem set_addresses : (p.set mac s).addresses = p.addresses := rfl

@[simp] theorem set_self : (p.set mac s).shown mac = s := Function.update_self _ _ _

theorem set_ne {p : Picture} {mac mac' : UnsignedInt × UnsignedInt} {s : QmButtonState}
    (h : mac' ≠ mac) : (p.set mac s).shown mac' = p.shown mac' :=
  Function.update_of_ne (fun heq => h (Cell.device.inj heq)) _ _

end Picture

def BtDevices.picture (devices : BtDevices) : Picture
  | .addresses => devices.addresses
  | .device mac => (kvqmbtDeviceState devices.connecting mac.1 mac.2).shownAs

def Cell.Settled : (cell : Cell) → cell.Value → Prop
  | .addresses, _ => True
  | .device _, s => ¬ Busy s

def eventUpdate (event : VqmbtEvent) (cell : Cell) : Update cell.Value :=
  match handleEvent event, cell with
  | .reset, _ => .resync
  | .request (.deviceConnected mac0 mac1), .device mac =>
      if (mac0, mac1) = mac then .set QmButtonState.connected else .skip
  | .request (.deviceDisconnected mac0 mac1), .device mac =>
      if (mac0, mac1) = mac then .set QmButtonState.disconnected else .skip
  | _, _ => .skip

def KeepsBluetooth (event : VqmbtEvent) : Prop :=
  event.id ≠ .bluetoothEnabled ∧ event.id ≠ .bluetoothDisabled

theorem handled_cases {event : VqmbtEvent} (h : KeepsBluetooth event) :
    handleEvent event = .reset ∨ handleEvent event = .ignored ∨
      ∃ news : DeviceEvent, handleEvent event = .request (news.request event.mac0 event.mac1) := by
  obtain ⟨id, mac0, mac1⟩ := event
  cases id with
  | bluetoothEnabled => exact absurd rfl h.1
  | bluetoothDisabled => exact absurd rfl h.2
  | droppedEvents => exact .inl rfl
  | deviceAddedRemovedConnecting => exact .inl rfl
  | deviceConnectSuccess => exact .inr (.inr ⟨.connected, rfl⟩)
  | deviceDisconnected => exact .inr (.inr ⟨.disconnected, rfl⟩)
  | deviceConnectFailed => exact .inr (.inr ⟨.disconnected, rfl⟩)
  | deviceConnectAborted => exact .inr (.inr ⟨.disconnected, rfl⟩)
  | deviceConnectCancelled => exact .inr (.inr ⟨.disconnected, rfl⟩)
  | none => exact .inr (.inl rfl)
  | other raw => exact .inr (.inl rfl)

theorem eventUpdate_reset {event : VqmbtEvent} (h : handleEvent event = .reset) (cell : Cell) :
    eventUpdate event cell = .resync := by
  simp only [eventUpdate, h]

theorem eventUpdate_ignored {event : VqmbtEvent} (h : handleEvent event = .ignored) (cell : Cell) :
    eventUpdate event cell = .skip := by
  simp only [eventUpdate, h]

theorem eventUpdate_other {event : VqmbtEvent} {news : DeviceEvent} {mac0 mac1 : UnsignedInt}
    (h : handleEvent event = .request (news.request mac0 mac1)) {mac : UnsignedInt × UnsignedInt}
    (hmac : mac ≠ (mac0, mac1)) : eventUpdate event (.device mac) = .skip := by
  cases news <;> simp only [eventUpdate, h, DeviceEvent.request, if_neg (Ne.symm hmac)]

theorem eventUpdate_request {event : VqmbtEvent} {news : DeviceEvent} {mac0 mac1 : UnsignedInt}
    (h : handleEvent event = .request (news.request mac0 mac1)) (p : Picture) (cell : Cell) :
    eventUpdate event cell = .set (p.set (mac0, mac1) news.target cell) ∨
      eventUpdate event cell = .skip ∧ p.set (mac0, mac1) news.target cell = p cell := by
  cases cell with
  | addresses => cases news <;> exact .inr ⟨by simp only [eventUpdate, h, DeviceEvent.request], rfl⟩
  | device mac =>
      by_cases hmac : (mac0, mac1) = mac
      · subst hmac
        have hset : p.set (mac0, mac1) news.target (.device (mac0, mac1)) = news.target :=
          Picture.set_self p (mac0, mac1) news.target
        rw [hset]
        cases news <;> exact .inl (by simp only [eventUpdate, h, DeviceEvent.request]; rfl)
      · have hother : mac ≠ (mac0, mac1) := Ne.symm hmac
        exact .inr ⟨eventUpdate_other h hother, Picture.set_ne hother⟩

def newsFor (events : List SceBtEvent) (cell : Cell) : List (Update cell.Value) :=
  (events.filterMap BtEvent.handleEvent).map (eventUpdate · cell)

structure Announced (old new : BtDevices) (events : List SceBtEvent) : Prop where
  cells : ∀ cell : Cell, cell.Settled (new.picture cell) →
    Tells (new.picture cell) (newsFor events cell) ∨
      new.picture cell = old.picture cell ∧ Silent (newsFor events cell)
  keepsOn : ∀ event ∈ events, event.id ≠ BtEvent.toggleBluetooth

def Taken (call : KvqmbtCall) (new : BtDevices) (events : List SceBtEvent) : Prop :=
  ¬ Busy (new.picture.shown call.mac) →
    Tells (new.picture.shown call.mac) (newsFor events (.device call.mac))

theorem keepsBluetooth_emitted {event : SceBtEvent} (h : event.id ≠ BtEvent.toggleBluetooth)
    {emitted : VqmbtEvent} (hemitted : BtEvent.handleEvent event = some emitted) :
    KeepsBluetooth emitted := by
  revert hemitted
  fun_cases BtEvent.handleEvent event
  all_goals intro heq
  all_goals first
    | contradiction
    | cases heq
      exact ⟨VqmbtEventId.noConfusion, VqmbtEventId.noConfusion⟩

structure SlotsTell (Excused : Fin vqmbtMaxDevices → Prop)
    (slots : Fin vqmbtMaxDevices → QmButton) (p : Picture) : Prop where
  mac : ∀ idx (h : idx.val < p.addresses.macs.length),
    (slots idx).device.mac = p.addresses.macs[idx.val]
  btnState : ∀ idx, idx.val < p.addresses.macs.length →
    (slots idx).btnState = p.shown (slots idx).device.mac ∨
      Excused idx ∧ (slots idx).btnState = .errorDisabled
  on : ∀ idx, (slots idx).btnState ≠ .btOffDisabled
  unlisted : ∀ idx, p.addresses.macs.length ≤ idx.val →
    (slots idx).Vacant ∧ (slots idx).device = .zeroed

namespace SlotsTell

variable {Excused Excused' : Fin vqmbtMaxDevices → Prop}
  {slots slots' : Fin vqmbtMaxDevices → QmButton} {p p' : Picture}

theorem halves (h : SlotsTell Excused slots p) {idx : Fin vqmbtMaxDevices}
    (hidx : idx.val < p.addresses.macs.length) :
    (slots idx).device.mac0 ≠ 0 ∧ (slots idx).device.mac1 ≠ 0 := by
  have hmem : (slots idx).device.mac ∈ p.addresses.macs := by
    rw [h.mac idx hidx]
    exact List.getElem_mem hidx
  exact p.addresses.halves _ hmem

theorem mac_ne (h : SlotsTell Excused slots p) {i j : Fin vqmbtMaxDevices}
    (hi : i.val < p.addresses.macs.length) (hj : j.val < p.addresses.macs.length) (hne : i ≠ j) :
    (slots i).device.mac ≠ (slots j).device.mac := by
  rw [h.mac i hi, h.mac j hj, ne_eq, p.addresses.distinct.getElem_inj_iff]
  exact fun heq => hne (Fin.ext heq)

theorem listed (h : SlotsTell Excused slots p) {idx : Fin vqmbtMaxDevices}
    (hoccupied : ¬ (slots idx).Vacant) : idx.val < p.addresses.macs.length :=
  Nat.not_le.mp fun hle => hoccupied (h.unlisted idx hle).1

theorem macToIdx (h : SlotsTell Excused slots p) {idx : Fin vqmbtMaxDevices}
    (hidx : idx.val < p.addresses.macs.length) :
    macToIdx slots (slots idx).device.mac0 (slots idx).device.mac1 = .ok idx := by
  obtain ⟨h0, h1⟩ := h.halves hidx
  refine macToIdx_eq_ok rfl h0 h1 fun j hj => ?_
  by_contra hne
  rcases Nat.lt_or_ge j.val p.addresses.macs.length with hlt | hge
  · exact h.mac_ne hlt hidx hne hj
  · rw [(h.unlisted j hge).2] at hj
    exact h0 (Prod.mk.inj hj).1.symm

theorem congr (h : SlotsTell Excused slots p) (haddresses : p'.addresses = p.addresses)
    (hshown : ∀ mac ∈ p.addresses.macs, p'.shown mac = p.shown mac)
    (hexcused : ∀ idx, idx.val < p.addresses.macs.length → Excused idx → Excused' idx) :
    SlotsTell Excused' slots p' := by
  refine ⟨fun idx hidx => ?_, fun idx hidx => ?_, h.on, fun idx hidx => ?_⟩
  · simp only [haddresses] at hidx ⊢
    exact h.mac idx hidx
  · rw [haddresses] at hidx
    have hmem : (slots idx).device.mac ∈ p.addresses.macs := by
      rw [h.mac idx hidx]
      exact List.getElem_mem hidx
    rw [hshown _ hmem]
    exact (h.btnState idx hidx).imp_right fun ⟨hex, herror⟩ => ⟨hexcused idx hidx hex, herror⟩
  · rw [haddresses] at hidx
    exact h.unlisted idx hidx

theorem change (h : SlotsTell Excused slots p) {changed : Fin vqmbtMaxDevices}
    (hlisted : changed.val < p.addresses.macs.length)
    (hother : ∀ idx, idx ≠ changed → slots' idx = slots idx)
    (hdevice : (slots' changed).device = (slots changed).device)
    (hon : (slots' changed).btnState ≠ .btOffDisabled)
    (haddresses : p'.addresses = p.addresses)
    (hshown : ∀ mac, mac ≠ (slots changed).device.mac → p'.shown mac = p.shown mac)
    (hstate : (slots' changed).btnState = p'.shown (slots changed).device.mac ∨
      Excused' changed ∧ (slots' changed).btnState = .errorDisabled)
    (hexcused : ∀ idx, idx ≠ changed → Excused idx → Excused' idx) :
    SlotsTell Excused' slots' p' := by
  have hdevices (idx : Fin vqmbtMaxDevices) : (slots' idx).device = (slots idx).device := by
    by_cases hidx : idx = changed
    · rw [hidx, hdevice]
    · rw [hother idx hidx]
  refine ⟨fun idx hidx => ?_, fun idx hidx => ?_, fun idx => ?_, fun idx hidx => ?_⟩
  · simp only [haddresses] at hidx ⊢
    rw [hdevices]
    exact h.mac idx hidx
  · rw [haddresses] at hidx
    rw [hdevices]
    by_cases heq : idx = changed
    · rw [heq]
      exact hstate
    · rw [hother idx heq, hshown _ (h.mac_ne hidx hlisted heq)]
      exact (h.btnState idx hidx).imp_right fun ⟨hex, herror⟩ => ⟨hexcused idx heq hex, herror⟩
  · by_cases heq : idx = changed
    · rw [heq]
      exact hon
    · rw [hother idx heq]
      exact h.on idx
  · rw [haddresses] at hidx
    have hne : idx ≠ changed := by
      rintro rfl
      exact absurd hlisted (Nat.not_lt.mpr hidx)
    rw [hother idx hne]
    exact h.unlisted idx hidx

variable {m : QmModule}

theorem event (h : SlotsTell Excused m.qmState.buttons p) (kernel : KvqmbtCall → Int)
    (event : DeviceEvent) {mac0 mac1 : UnsignedInt}
    (hexcused : ∀ idx, (m.qmState.buttons idx).device.mac ≠ (mac0, mac1) → Excused idx →
      Excused' idx) :
    SlotsTell Excused' (qmStateUpdateUi kernel m (event.request mac0 mac1)).1.qmState.buttons
      (p.set (mac0, mac1) event.target) := by
  cases hfound : VitaQmBluetooth.macToIdx m.qmState.buttons mac0 mac1 with
  | error e =>
      have hother {idx : Fin vqmbtMaxDevices} (hidx : idx.val < p.addresses.macs.length) :
          (m.qmState.buttons idx).device.mac ≠ (mac0, mac1) := by
        intro heq
        obtain ⟨rfl, rfl⟩ := Prod.mk.inj heq
        rw [h.macToIdx hidx] at hfound
        cases hfound
      rw [(device_event_error kernel event hfound).1]
      refine h.congr rfl (fun mac hmem => Picture.set_ne ?_)
        fun idx hidx => hexcused idx (hother hidx)
      obtain ⟨i, hi, rfl⟩ := List.getElem_of_mem hmem
      have hlt : i < vqmbtMaxDevices := Nat.lt_of_lt_of_le hi p.addresses.fits
      rw [← h.mac ⟨i, hlt⟩ hi]
      exact hother (show (⟨i, hlt⟩ : Fin vqmbtMaxDevices).val < _ from hi)
  | ok found =>
      have hslot (idx : Fin vqmbtMaxDevices) :
          (qmStateUpdateUi kernel m (event.request mac0 mac1)).1.qmState.buttons idx =
            if idx = found then (m.qmState.buttons idx).settle event.target false
            else m.qmState.buttons idx := device_event_ok hfound idx
      obtain ⟨hmac, h0, _⟩ := macToIdx_ok hfound
      have hlisted : found.val < p.addresses.macs.length := by
        refine Nat.not_le.mp fun hle => h0 ?_
        rw [(h.unlisted found hle).2] at hmac
        exact (Prod.mk.inj hmac).1.symm
      have hstate : ((m.qmState.buttons found).settle event.target false).btnState =
          event.target := by
        simp [QmButton.settle, h.on found]
      have hon : event.target ≠ .btOffDisabled := by cases event <;> decide
      refine h.change hlisted (fun idx hidx => by rw [hslot, if_neg hidx]) ?_ ?_ rfl
        (fun mac hne => Picture.set_ne (hmac ▸ hne)) ?_ fun idx hidx => hexcused idx ?_
      · rw [hslot, if_pos rfl, QmButton.settle_device]
      · rw [hslot, if_pos rfl, hstate]
        exact hon
      · rw [hslot, if_pos rfl, hstate, hmac, Picture.set_self]
        exact .inl rfl
      · intro heq
        rcases Nat.lt_or_ge idx.val p.addresses.macs.length with hlt | hge
        · exact h.mac_ne hlt hlisted hidx (heq.trans hmac.symm)
        · rw [(h.unlisted idx hge).2] at heq
          exact h0 (Prod.mk.inj heq).1.symm

end SlotsTell

def KvqmbtCall.pending : KvqmbtCall → QmButtonState
  | .connectDevice _ _ => .connectingDisabled
  | .disconnectDevice _ _ => .disconnectingDisabled

theorem pressCall_listed {Excused : Fin vqmbtMaxDevices → Prop}
    {slots : Fin vqmbtMaxDevices → QmButton} {p : Picture} (h : SlotsTell Excused slots p)
    {pressed : Fin vqmbtMaxDevices} {call : KvqmbtCall}
    (hcall : (slots pressed).pressCall = some call) : pressed.val < p.addresses.macs.length := by
  refine h.listed fun hvacant => ?_
  rw [QmButton.pressCall_vacant hvacant] at hcall
  cases hcall

section Press

variable {Excused Excused' : Fin vqmbtMaxDevices → Prop} {m : QmModule} {p : Picture}
  {kernel : KvqmbtCall → Int} {pressed : Fin vqmbtMaxDevices} {call : KvqmbtCall}

theorem pressed_none (kernel : KvqmbtCall → Int)
    (hcall : (m.qmState.buttons pressed).pressCall = none) :
    (qmStateUpdateUi kernel m (.buttonPressed pressed)).1.qmState.buttons = m.qmState.buttons := by
  funext idx
  rw [qmStateUpdateUi_buttons]
  simp only [requestEffect]
  split
  · next heq => rw [heq, QmButton.press, hcall]
  · rfl

theorem pressed_other {idx : Fin vqmbtMaxDevices} (hidx : idx ≠ pressed) :
    (qmStateUpdateUi kernel m (.buttonPressed pressed)).1.qmState.buttons idx =
      m.qmState.buttons idx := by
  rw [qmStateUpdateUi_buttons]
  exact if_neg hidx

theorem pressed_self :
    (qmStateUpdateUi kernel m (.buttonPressed pressed)).1.qmState.buttons pressed =
      (m.qmState.buttons pressed).press kernel := by
  rw [qmStateUpdateUi_buttons]
  exact if_pos rfl

theorem SlotsTell.pressAccepted (h : SlotsTell Excused m.qmState.buttons p)
    (hcall : (m.qmState.buttons pressed).pressCall = some call) (haccepts : 0 ≤ kernel call)
    (hexcused : ∀ idx, Excused idx → Excused' idx) :
    SlotsTell Excused' (qmStateUpdateUi kernel m (.buttonPressed pressed)).1.qmState.buttons
      (p.set call.mac call.pending) := by
  have hslot : (m.qmState.buttons pressed).press kernel =
      { m.qmState.buttons pressed with btnState := call.pending } := by
    rw [press_accepted hcall haccepts]
    cases call <;> rfl
  refine h.change (pressCall_listed h hcall) (fun idx hidx => pressed_other hidx) ?_ ?_ rfl
    (fun mac hne => Picture.set_ne (pressCall_mac hcall ▸ hne)) ?_ fun idx _ => hexcused idx
  · rw [pressed_self, hslot]
  · rw [pressed_self, hslot]
    cases call <;> simp [KvqmbtCall.pending]
  · rw [pressed_self, hslot, ← pressCall_mac hcall, Picture.set_self]
    exact .inl rfl

theorem SlotsTell.pressRefused (h : SlotsTell Excused m.qmState.buttons p)
    (hcall : (m.qmState.buttons pressed).pressCall = some call) (hrefuses : kernel call < 0)
    (hexcused : ∀ idx, Excused idx → Excused' idx) (hpressed : Excused' pressed) :
    SlotsTell Excused' (qmStateUpdateUi kernel m (.buttonPressed pressed)).1.qmState.buttons p := by
  have hslot : (m.qmState.buttons pressed).press kernel =
      (m.qmState.buttons pressed).fail (kernel call) := by
    simp only [QmButton.press, hcall, QmButton.pressOutcome, if_pos hrefuses]
  have hshown : ((m.qmState.buttons pressed).fail (kernel call)).btnState = .errorDisabled := by
    unfold QmButton.fail
    split
    · next herror => exact herror
    · rfl
  refine h.change (pressCall_listed h hcall) (fun idx hidx => pressed_other hidx) ?_ ?_ rfl
    (fun _ _ => rfl) (.inr ⟨hpressed, ?_⟩) fun idx _ => hexcused idx
  · rw [pressed_self, hslot, QmButton.fail_device]
  · rw [pressed_self, hslot, hshown]
    decide
  · rw [pressed_self, hslot, hshown]

end Press

-- The kernel's answers in one kvqmbt_get_paired_devices, each state as it was when asked for.
def askedDevices (registered : List SceBtRegisteredInfo) (states : List Int) : PairedKernel where
  registeredRet := registered.length
  registered := registered
  connecting idx _ _ := states.getD idx 0
  copyRet _ := 0

section Reset

variable {registered : List SceBtRegisteredInfo} {states : List Int} {p : Picture}

theorem asked_answers (hexported : registered.map (·.exportedMac) = p.addresses.macs) :
    (askedDevices registered states).Answers := by
  refine ⟨.inr rfl, ?_, fun sceDev hmem hzero => ?_⟩
  · have hfits := p.addresses.fits
    rwa [← hexported, List.length_map] at hfits
  · have hmac : sceDev.exportedMac ∈ p.addresses.macs := by
      rw [← hexported]
      exact List.mem_map_of_mem hmem
    obtain ⟨mac, name⟩ := sceDev
    subst hzero
    refine (p.addresses.halves _ hmac).1 ?_
    simp [SceBtRegisteredInfo.exportedMac, exportDevice, VqmbtDeviceInfo.mac,
      PairedKernel.pairedDevices, unsignedOf]

theorem asked_request (driver : SceBtDriver) (registered : List SceBtRegisteredInfo)
    (states : List Int) :
    resetRequest (askedDevices registered states) driver =
      some (resetBulk (kvqmbtBluetoothState driver)
        ((List.range registered.length).map (exportDevice (askedDevices registered states)))) := by
  have hreply := get_paired (askedDevices registered states)
    (show (1 : Int) ≤ vqmbtMaxDevices by decide) (Int.le_refl _) rfl fun _ => .zeroed
  have hall : copiesFrom (askedDevices registered states) 0 registered.length =
      registered.length := by
    refine Nat.le_antisymm (copiesFrom_le ..) (Nat.not_lt.mp fun hlt => ?_)
    exact absurd (copy_fails _ hlt) (Int.lt_irrefl 0)
  rw [if_pos hall, hall] at hreply
  have hret : ¬ ((registered.length : Int) < 0) := Int.not_lt.mpr (Int.natCast_nonneg _)
  simp only [resetRequest, hreply, if_neg hret, resetBulk, List.length_map, List.length_range]
  congr 2
  funext idx
  by_cases hidx : idx.val < registered.length
  · simp [hidx, List.getD]
  · simp [hidx, List.getD]

theorem SlotsTell.reset {m : QmModule} (hzero : EmptyZeroed m.qmState.buttons)
    (hexported : registered.map (·.exportedMac) = p.addresses.macs)
    (hstates : ∀ i (h : i < p.addresses.macs.length),
      (VqmbtInferredDevState.ofInt (states.getD i 0)).shownAs = p.shown p.addresses.macs[i])
    {driver : SceBtDriver} (hon : driver.configuration = 0x9) {bulk : QmsBulk}
    (hbulk : resetRequest (askedDevices registered states) driver = some bulk)
    (Excused : Fin vqmbtMaxDevices → Prop) :
    SlotsTell Excused (qmStateUpdateUi (fun _ => 0) m (.bulkUpdate bulk)).1.qmState.buttons p := by
  obtain ⟨hbulkOn, hlists, hdevices⟩ := reset_registered (asked_answers hexported) hbulk
  have hcount : p.addresses.macs.length = registered.length := by
    rw [← hexported, List.length_map]
  have hslot (idx : Fin vqmbtMaxDevices) :
      (qmStateUpdateUi (fun _ => 0) m (.bulkUpdate bulk)).1.qmState.buttons idx =
        (m.qmState.buttons idx).bulk bulk idx := qmStateUpdateUi_buttons ..
  have hlisted {idx : Fin vqmbtMaxDevices} (h : idx.val < p.addresses.macs.length) :
      bulk.Lists idx := (hlists idx).mpr (hcount ▸ h)
  have hmac {idx : Fin vqmbtMaxDevices} (h : idx.val < p.addresses.macs.length) :
      (bulk.devices idx).mac = p.addresses.macs[idx.val] := by
    have hlt : idx.val < (askedDevices registered states).registered.length := hcount ▸ h
    rw [hdevices idx (hlisted h), exportDevice_mac, registered_at hlt]
    simp only [← hexported, List.getElem_map, askedDevices]
  have hbtnState {idx : Fin vqmbtMaxDevices} (h : idx.val < p.addresses.macs.length) :
      ((m.qmState.buttons idx).bulk bulk idx).btnState = p.shown p.addresses.macs[idx.val] := by
    have honly : bulk.bluetoothOn = true := by simp [hbulkOn, kvqmbtBluetoothState, hon]
    rw [QmButton.bulk_on (hlisted h) honly, QmButton.settle_idem, hdevices idx (hlisted h)]
    exact hstates idx.val h
  have hempty {idx : Fin vqmbtMaxDevices} (h : p.addresses.macs.length ≤ idx.val) :
      ((m.qmState.buttons idx).bulk bulk idx).Vacant := by
    have hnot : ¬ bulk.Lists idx := fun hyes =>
      absurd ((hlists idx).mp hyes) (Nat.not_lt.mpr (hcount ▸ h))
    rw [QmButton.bulk_unlisted hnot]
    exact QmButton.vacant_empty _
  refine ⟨fun idx hidx => ?_, fun idx hidx => .inl ?_, fun idx => ?_, fun idx hidx => ?_⟩
  · rw [hslot, QmButton.bulk_mac (hlisted hidx), hmac hidx]
  · rw [hslot, hbtnState hidx, QmButton.bulk_mac (hlisted hidx), hmac hidx]
  · rw [hslot]
    rcases Nat.lt_or_ge idx.val p.addresses.macs.length with hlt | hge
    · rw [hbtnState hlt, ← hstates idx.val hlt]
      cases VqmbtInferredDevState.ofInt (states.getD idx.val 0) <;>
        simp [VqmbtInferredDevState.shownAs]
    · rw [hempty hge]
      decide
  · rw [hslot]
    exact ⟨hempty hidx, QmButton.bulk_emptyZeroed (hzero idx) (hempty hidx)⟩

end Reset

end VitaQmBluetooth
