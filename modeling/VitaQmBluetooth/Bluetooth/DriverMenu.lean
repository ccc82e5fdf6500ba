import VitaQmBluetooth.Bluetooth.PairedDevices
import VitaQmBluetooth.QmState.BulkRecords

namespace VitaQmBluetooth

open Foundation

-- The two failures of ksceBtStartConnect that are told apart, of which src has only the names.
structure ConnectStartErrors where
  notConnectable : Int
  busy : Int
  notConnectable_neg : notConnectable < 0
  busy_neg : busy < 0
  notConnectable_ne_busy : notConnectable ≠ busy

-- What the driver answers while one call is under way.
structure SceBtDriver where
  configuration : Int
  startConnect : UnsignedInt → UnsignedInt → Int
  startDisconnect : UnsignedInt → UnsignedInt → Int

def kvqmbtDeviceState (connectingInfo : UnsignedInt → UnsignedInt → Int)
    (mac0 mac1 : UnsignedInt) : VqmbtInferredDevState :=
  .ofInt (connectingInfo mac0 mac1)

def kvqmbtConnectDevice (errors : ConnectStartErrors) (driver : SceBtDriver)
    (mac0 mac1 : UnsignedInt) : Int :=
  let ret := driver.startConnect mac0 mac1
  if ret ≥ 0 then 0
  else if ret = errors.notConnectable then VqmbtError.kernelSideNotConnectable.code
  else if ret = errors.busy then VqmbtError.kernelSideBusy.code
  else ret

def kvqmbtDisconnectDevice (driver : SceBtDriver) (mac0 mac1 : UnsignedInt) : Int :=
  let ret := driver.startDisconnect mac0 mac1
  if ret ≥ 0 then 0 else ret

def kvqmbtBluetoothState (driver : SceBtDriver) : Bool := decide (driver.configuration = 0x9)

def kvqmbtCall (errors : ConnectStartErrors) (driver : SceBtDriver) : KvqmbtCall → Int
  | .connectDevice mac0 mac1 => kvqmbtConnectDevice errors driver mac0 mac1
  | .disconnectDevice mac0 mac1 => kvqmbtDisconnectDevice driver mac0 mac1

def resetRequest (k : PairedKernel) (driver : SceBtDriver) : Option QmsBulk :=
  let bluetoothOn := kvqmbtBluetoothState driver
  let reply := kvqmbtGetPairedDevices k false vqmbtMaxDevices fun _ => .zeroed
  if reply.ret < 0 then none
  else some ⟨bluetoothOn, reply.ret, fun idx => reply.info idx⟩

inductive DriverStep where
  | reset (k : PairedKernel) (driver : SceBtDriver)
  | press (idx : Fin vqmbtMaxDevices) (driver : SceBtDriver)
  | bluetoothOn
  | bluetoothOff
  | device (event : DeviceEvent) (mac0 mac1 : UnsignedInt)

namespace DriverStep

variable (errors : ConnectStartErrors)

def handling : DriverStep → Option Handling
  | .reset k driver => (resetRequest k driver).map fun bulk => ⟨.bulkUpdate bulk, fun _ => 0⟩
  | .press idx driver => some ⟨.buttonPressed idx, kvqmbtCall errors driver⟩
  | .bluetoothOn => some ⟨.bluetoothOn, fun _ => 0⟩
  | .bluetoothOff => some ⟨.bluetoothOff, fun _ => 0⟩
  | .device event mac0 mac1 => some ⟨event.request mac0 mac1, fun _ => 0⟩

end DriverStep

section Menu

variable (errors : ConnectStartErrors)

def handlings (steps : List DriverStep) : List Handling := steps.filterMap (·.handling errors)

def menuAfter (steps : List DriverStep) : QmModule := quickMenu.after (handlings errors steps)

def lastRegistered : List DriverStep → List SceBtRegisteredInfo
  | [] => []
  | .reset k driver :: steps =>
      if (resetRequest k driver).isSome then k.registered else lastRegistered steps
  | _ :: steps => lastRegistered steps

end Menu

-- ksceBtGetRegisteredInfo fails or fills in and returns as many records as were asked for at most.
structure PairedKernel.Answers (k : PairedKernel) : Prop where
  count : k.registeredRet < 0 ∨ k.registeredRet = k.registered.length
  fits : k.registered.length ≤ vqmbtMaxDevices
  addressed : ∀ sceDev ∈ k.registered, sceDev.mac ≠ Vector.replicate _ 0

def ResetsAnswer (steps : List DriverStep) : Prop :=
  ∀ k driver, .reset k driver ∈ steps → k.Answers

theorem reset_registered {k : PairedKernel} {driver : SceBtDriver} {bulk : QmsBulk}
    (hk : k.Answers) (h : resetRequest k driver = some bulk) :
    bulk.bluetoothOn = kvqmbtBluetoothState driver ∧
      (∀ idx, bulk.Lists idx ↔ idx.val < k.registered.length) ∧
      ∀ idx, bulk.Lists idx → bulk.devices idx = exportDevice k idx := by
  simp only [resetRequest] at h
  split at h
  · cases h
  next hret =>
    have hcount : k.registeredRet = k.registered.length := by
      refine hk.count.resolve_left fun hneg => hret ?_
      have hvalid : ¬ (false = true ∨ (vqmbtMaxDevices : Int) < 1 ∨
          (vqmbtMaxDevices : Int) > vqmbtMaxDevices) := by decide
      simp only [kvqmbtGetPairedDevices, if_neg hvalid, if_pos hneg]
      exact VqmbtError.code_neg _
    have hreply := get_paired k (show (1 : Int) ≤ vqmbtMaxDevices by decide) (Int.le_refl _)
      hcount fun _ => .zeroed
    rw [hreply] at h hret
    have hall : copiesFrom k 0 k.registered.length = k.registered.length := by
      by_contra hfails
      rw [if_neg hfails] at hret
      exact hret (VqmbtError.code_neg .kernelSide)
    rw [if_pos hall, hall] at h
    obtain rfl := Option.some.inj h
    have hlists (idx : Fin vqmbtMaxDevices) :
        ((idx.val : Int) < (k.registered.length : Int)) ↔ idx.val < k.registered.length :=
      Int.ofNat_lt
    exact ⟨rfl, hlists, fun idx hidx => if_pos ((hlists idx).mp hidx)⟩

theorem registered_at {k : PairedKernel} {i : Nat} (h : i < k.registered.length) :
    k.pairedDevices i = k.registered[i] := by
  simp [PairedKernel.pairedDevices, List.getD, List.getElem?_eq_getElem h]

theorem reset_addressed {k : PairedKernel} {driver : SceBtDriver} {bulk : QmsBulk}
    (hk : k.Answers) (h : resetRequest k driver = some bulk) : bulk.Addressed := by
  obtain ⟨_, hlists, hdevices⟩ := reset_registered hk h
  intro idx hidx hzero
  have hlt := (hlists idx).mp hidx
  have hmac := macBytes_exportDevice k idx
  rw [← hdevices idx hidx, hzero, registered_at hlt] at hmac
  exact hk.addressed _ (List.getElem_mem hlt) (hmac.symm.trans (by decide))

structure HoldsRegistered (registered : List SceBtRegisteredInfo)
    (slots : Fin vqmbtMaxDevices → QmButton) : Prop where
  vacant : ∀ idx, (slots idx).Vacant ↔ registered.length ≤ idx.val
  mac : ∀ idx (h : idx.val < registered.length),
    macBytes (slots idx).device.mac = registered[idx.val].mac

theorem holdsRegistered_bulk {k : PairedKernel} {driver : SceBtDriver} {bulk : QmsBulk}
    (hk : k.Answers) (h : resetRequest k driver = some bulk) (past : List Handling)
    (kernel : KvqmbtCall → Int) :
    HoldsRegistered k.registered
      (quickMenu.after (⟨.bulkUpdate bulk, kernel⟩ :: past)).qmState.buttons := by
  obtain ⟨_, hlists, hdevices⟩ := reset_registered hk h
  constructor
  · intro idx
    rw [after_buttons, ← Nat.not_lt, ← hlists idx]
    exact QmButton.vacant_bulk (reset_addressed hk h) idx (emptyZeroed_after past idx)
  · intro idx hlt
    have hidx := (hlists idx).mpr hlt
    rw [after_buttons, ← registered_at hlt, ← macBytes_exportDevice, ← hdevices idx hidx]
    exact congrArg macBytes (QmButton.bulk_mac hidx _)

theorem HoldsRegistered.later {registered : List SceBtRegisteredInfo} {past : List Handling}
    (h : HoldsRegistered registered (quickMenu.after past).qmState.buttons) {a : Handling}
    (ha : ¬ IsBulk a.request) :
    HoldsRegistered registered (quickMenu.after (a :: past)).qmState.buttons := by
  have hframe (idx : Fin vqmbtMaxDevices) :=
    requestEffect_frame (emptyZeroed_after past) a.kernel ha idx
  constructor
  · intro idx
    rw [after_buttons, (hframe idx).2]
    exact h.vacant idx
  · intro idx hlt
    rw [after_buttons, (hframe idx).1]
    exact h.mac idx hlt

theorem handlings_some {errors : ConnectStartErrors} {step : DriverStep} {a : Handling}
    (h : step.handling errors = some a) (steps : List DriverStep) :
    handlings errors (step :: steps) = a :: handlings errors steps := by
  simp [handlings, h]

theorem handlings_none {errors : ConnectStartErrors} {step : DriverStep}
    (h : step.handling errors = none) (steps : List DriverStep) :
    handlings errors (step :: steps) = handlings errors steps := by
  simp [handlings, h]

theorem menuAfter_reset {errors : ConnectStartErrors} {k : PairedKernel} {driver : SceBtDriver}
    {bulk : QmsBulk} (h : resetRequest k driver = some bulk) (steps : List DriverStep) :
    menuAfter errors (.reset k driver :: steps) =
      quickMenu.after (⟨.bulkUpdate bulk, fun _ => 0⟩ :: handlings errors steps) := by
  rw [menuAfter, handlings_some (a := ⟨.bulkUpdate bulk, fun _ => 0⟩)
    (by simp [DriverStep.handling, h])]

theorem holdsRegistered_after (errors : ConnectStartErrors) {steps : List DriverStep}
    (hsteps : ResetsAnswer steps) :
    HoldsRegistered (lastRegistered steps) (menuAfter errors steps).qmState.buttons := by
  induction steps with
  | nil =>
      refine ⟨fun _ => iff_of_true rfl (Nat.zero_le _), fun idx hlt => ?_⟩
      exact absurd hlt (Nat.not_lt_zero _)
  | cons step steps ih =>
      have hpast := ih fun k driver hmem => hsteps k driver (List.mem_cons_of_mem _ hmem)
      have hother {a : Handling} (hstep : step.handling errors = some a) (ha : ¬ IsBulk a.request)
          (hlast : lastRegistered (step :: steps) = lastRegistered steps) :
          HoldsRegistered (lastRegistered (step :: steps))
            (menuAfter errors (step :: steps)).qmState.buttons := by
        rw [menuAfter, handlings_some hstep, hlast]
        exact hpast.later ha
      cases step with
      | reset k driver =>
          have hk := hsteps k driver (List.mem_cons_self ..)
          cases hreset : resetRequest k driver with
          | none =>
              rw [menuAfter, handlings_none (by simp [DriverStep.handling, hreset]), lastRegistered,
                hreset]
              exact hpast
          | some bulk =>
              rw [menuAfter_reset hreset, lastRegistered, hreset]
              exact holdsRegistered_bulk hk hreset _ _
      | press idx driver => exact hother rfl id rfl
      | bluetoothOn => exact hother rfl id rfl
      | bluetoothOff => exact hother rfl id rfl
      | device event mac0 mac1 => exact hother rfl (by cases event <;> exact id) rfl

def KvqmbtCall.mac : KvqmbtCall → UnsignedInt × UnsignedInt
  | .connectDevice mac0 mac1 | .disconnectDevice mac0 mac1 => (mac0, mac1)

theorem pressCall_mac {b : QmButton} {call : KvqmbtCall} (h : b.pressCall = some call) :
    call.mac = b.device.mac := by
  rcases pressCall_isSome h with ⟨_, rfl⟩ | ⟨_, rfl⟩ <;> rfl

theorem reset_shown {k : PairedKernel} {driver : SceBtDriver} {bulk : QmsBulk} (hk : k.Answers)
    (h : resetRequest k driver = some bulk) (idx : Fin vqmbtMaxDevices) :
    bulk.shown idx = if k.registered.length ≤ idx.val then .slotEmptyDisabled
      else if driver.configuration ≠ 0x9 then .btOffDisabled
      else (exportDevice k idx).state.shownAs := by
  obtain ⟨hon, hlists, hdevices⟩ := reset_registered hk h
  unfold QmsBulk.shown
  by_cases hidx : bulk.Lists idx
  · have hlt := (hlists idx).mp hidx
    rw [if_pos hidx, if_neg (Nat.not_le.mpr hlt), hdevices idx hidx, hon]
    by_cases hconf : driver.configuration = 0x9
    · simp only [kvqmbtBluetoothState, hconf, decide_true, ne_eq, not_true, if_false,
        Bool.true_eq_false]
      cases (exportDevice k idx).state <;> rfl
    · simp [kvqmbtBluetoothState, hconf]
  · rw [if_neg hidx, if_pos (Nat.not_lt.mp (mt (hlists idx).mpr hidx))]

structure ResetShows (k : PairedKernel) (driver : SceBtDriver)
    (old new : Fin vqmbtMaxDevices → QmButton) : Prop where
  btnState : ∀ idx, (new idx).btnState = if k.registered.length ≤ idx.val then .slotEmptyDisabled
    else if driver.configuration ≠ 0x9 then .btOffDisabled
    else (kvqmbtDeviceState (k.connecting idx) (new idx).device.mac0 (new idx).device.mac1).shownAs
  name : ∀ idx (h : idx.val < k.registered.length),
    macBytes (old idx).device.mac ≠ k.registered[idx.val].mac →
      bufferText (new idx).device.name = textWithin 120 k.registered[idx.val].name

theorem reset_shows {errors : ConnectStartErrors} {k : PairedKernel} {driver : SceBtDriver}
    (hk : k.Answers) (hreset : (resetRequest k driver).isSome) (steps : List DriverStep) :
    ResetShows k driver (menuAfter errors steps).qmState.buttons
      (menuAfter errors (.reset k driver :: steps)).qmState.buttons := by
  obtain ⟨bulk, hbulk⟩ := Option.isSome_iff_exists.mp hreset
  obtain ⟨_, hlists, hdevices⟩ := reset_registered hk hbulk
  have hslot (idx : Fin vqmbtMaxDevices) :
      (menuAfter errors (.reset k driver :: steps)).qmState.buttons idx =
        ((menuAfter errors steps).qmState.buttons idx).bulk bulk idx := by
    rw [menuAfter_reset hbulk, after_buttons]
    rfl
  constructor
  · intro idx
    have hz : EmptyZeroed (menuAfter errors steps).qmState.buttons := emptyZeroed_after _
    rw [hslot, QmButton.bulk_shown (reset_addressed hk hbulk) idx (hz idx),
      reset_shown hk hbulk idx]
    by_cases hlt : k.registered.length ≤ idx.val
    · rw [if_pos hlt, if_pos hlt]
    · have hidx := (hlists idx).mpr (Nat.not_le.mp hlt)
      have hmac := QmButton.bulk_mac hidx ((menuAfter errors steps).qmState.buttons idx)
      rw [hdevices idx hidx] at hmac
      obtain ⟨hmac0, hmac1⟩ := Prod.mk.inj hmac
      rw [hmac0, hmac1]
      rfl
  · intro idx hlt hnew
    have hidx := (hlists idx).mpr hlt
    have hother : (exportDevice k idx).mac ≠
        ((menuAfter errors steps).qmState.buttons idx).device.mac := by
      intro heq
      rw [← heq, macBytes_exportDevice, registered_at hlt] at hnew
      exact hnew rfl
    rw [hslot, QmButton.bulk_device hidx, hdevices idx hidx, QmButton.assign, if_neg hother,
      (exportDevice_faithful k idx).terminated, registered_at hlt]

theorem lastRegistered_addressed {steps : List DriverStep} (hsteps : ResetsAnswer steps) :
    ∀ sceDev ∈ lastRegistered steps, sceDev.mac ≠ Vector.replicate _ 0 := by
  induction steps with
  | nil => exact fun _ h => absurd h List.not_mem_nil
  | cons step steps ih =>
      have hpast := ih fun k driver hmem => hsteps k driver (List.mem_cons_of_mem _ hmem)
      cases step with
      | reset k driver =>
          rw [lastRegistered]
          split
          · exact (hsteps k driver (List.mem_cons_self ..)).addressed
          · exact hpast
      | _ => exact hpast

theorem HoldsRegistered.event_other {registered : List SceBtRegisteredInfo} {past : List Handling}
    (h : HoldsRegistered registered (quickMenu.after past).qmState.buttons)
    (haddressed : ∀ sceDev ∈ registered, sceDev.mac ≠ Vector.replicate _ 0)
    (hdistinct : (registered.map SceBtRegisteredInfo.mac).Nodup) (event : DeviceEvent)
    {mac0 mac1 : UnsignedInt} {i : Nat} (hi : i < registered.length)
    (hmac : macBytes (mac0, mac1) = registered[i].mac) (kernel : KvqmbtCall → Int)
    {j : Fin vqmbtMaxDevices} (hj : j.val ≠ i) :
    (quickMenu.after (⟨event.request mac0 mac1, kernel⟩ :: past)).qmState.buttons j =
      (quickMenu.after past).qmState.buttons j := by
  rw [after_buttons, event.request_effect]
  refine event_keeps_idle fun heq => ?_
  rw [← heq] at hmac
  by_cases hlt : j.val < registered.length
  · rw [h.mac j hlt] at hmac
    have hrecord : registered[j.val] = registered[i] :=
      List.inj_on_of_nodup_map hdistinct (List.getElem_mem hlt) (List.getElem_mem hi) hmac
    exact hj ((List.Nodup.of_map _ hdistinct).getElem_inj_iff.mp hrecord)
  · have hvacant := (h.vacant j).mpr (Nat.not_lt.mp hlt)
    rw [emptyZeroed_after past j hvacant] at hmac
    exact haddressed _ (List.getElem_mem hi) (hmac.symm.trans (by decide))

theorem slots_follow_driver (errors : ConnectStartErrors) {steps : List DriverStep}
    (hsteps : ResetsAnswer steps) :
    let registered := lastRegistered steps
    let slots := (menuAfter errors steps).qmState.buttons
    HoldsRegistered registered slots ∧
      (∀ (k : PairedKernel) (driver : SceBtDriver), k.Answers → (resetRequest k driver).isSome →
        ResetShows k driver slots (menuAfter errors (.reset k driver :: steps)).qmState.buttons) ∧
      (∀ (idx : Fin vqmbtMaxDevices) (driver : SceBtDriver), ∀ call ∈ (quickMenu.reply
        (handlings errors steps) ⟨.buttonPressed idx, kvqmbtCall errors driver⟩).calls,
        ∃ h : idx.val < registered.length, macBytes call.mac = registered[idx.val].mac) ∧
      ((registered.map SceBtRegisteredInfo.mac).Nodup →
        ∀ (event : DeviceEvent) (mac0 mac1 : UnsignedInt) (i : Nat) (h : i < registered.length),
          macBytes (mac0, mac1) = registered[i].mac → ∀ j : Fin vqmbtMaxDevices, j.val ≠ i →
            (menuAfter errors (.device event mac0 mac1 :: steps)).qmState.buttons j = slots j) := by
  intro registered slots
  have hholds : HoldsRegistered registered slots := holdsRegistered_after errors hsteps
  refine ⟨hholds, fun k driver hk hreset => reset_shows hk hreset steps, ?_, ?_⟩
  · intro idx driver call hmade
    rw [press_reply rfl, Option.mem_toList] at hmade
    have hcall : (slots idx).pressCall = some call := hmade
    have hoccupied : ¬ (slots idx).Vacant := by
      intro hvacant
      rw [QmButton.pressCall_vacant hvacant] at hcall
      cases hcall
    have hlt : idx.val < registered.length :=
      Nat.not_le.mp fun hle => hoccupied ((hholds.vacant idx).mpr hle)
    exact ⟨hlt, by rw [pressCall_mac hcall]; exact hholds.mac idx hlt⟩
  · intro hdistinct event mac0 mac1 i hi hmac j hj
    rw [menuAfter, handlings_some rfl]
    exact hholds.event_other (lastRegistered_addressed hsteps) hdistinct event hi hmac _ hj

def sampleErrors : ConnectStartErrors := ⟨-3, -4, by decide, by decide, by decide⟩

def pressedAfterReset : List DriverStep :=
  [.press 0 ⟨9, fun _ _ => 0, fun _ _ => 0⟩,
    .reset (twoPaired fun _ => 0) ⟨9, fun _ _ => 0, fun _ _ => 0⟩]

theorem twoPaired_answers : ResetsAnswer pressedAfterReset := by
  intro k driver hmem
  simp only [pressedAfterReset, List.mem_cons, reduceCtorEq, DriverStep.reset.injEq,
    List.not_mem_nil, or_false, false_or] at hmem
  obtain ⟨rfl, -⟩ := hmem
  exact ⟨.inr rfl, by decide, by decide⟩

theorem slots_follow_driver_pressed :
    HoldsRegistered (lastRegistered pressedAfterReset)
      (menuAfter sampleErrors pressedAfterReset).qmState.buttons :=
  (slots_follow_driver sampleErrors twoPaired_answers).1

end VitaQmBluetooth
