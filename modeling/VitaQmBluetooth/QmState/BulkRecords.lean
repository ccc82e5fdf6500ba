import VitaQmBluetooth.QmState.BulkStates
import VitaQmBluetooth.QmState.Presses

namespace VitaQmBluetooth

open Foundation

structure QmButton.Alike (b b' : QmButton) : Prop where
  device : b.device = b'.device
  btnState : b.btnState = b'.btnState
  errorMessage : b.btnState = .errorDisabled → b.errorMessage = b'.errorMessage

def SlotsAlike (slots slots' : Fin vqmbtMaxDevices → QmButton) : Prop :=
  ∀ idx, (slots idx).Alike (slots' idx)

namespace QmButton.Alike

variable {b b' : QmButton}

theorem pressCall (h : b.Alike b') : b.pressCall = b'.pressCall := by
  simp only [QmButton.pressCall, h.device, h.btnState]

theorem settle (h : b.Alike b') {target : QmButtonState} {force : Bool}
    (ht : target ≠ .errorDisabled) : (b.settle target force).Alike (b'.settle target force) := by
  have hstate : (b.settle target force).btnState = (b'.settle target force).btnState := by
    simp only [QmButton.settle, h.btnState]
    split
    · exact h.btnState
    · rfl
  refine ⟨by simp [h.device], hstate, fun herror => ?_⟩
  exact absurd herror (QmButton.settle_not_error ht)

theorem btOff (h : b.Alike b') : b.btOff.Alike b'.btOff := by
  have hstate : b.btOff.btnState = b'.btOff.btnState := by
    simp only [QmButton.btOff, h.btnState]
    split
    · exact h.btnState
    · rfl
  refine ⟨by simp [h.device], hstate, fun herror => ?_⟩
  exact absurd herror (QmButton.off_not_error (QmButton.off_btOff b))

theorem btOn (h : b.Alike b') : b.btOn.Alike b'.btOn := by
  simp only [QmButton.btOn, h.btnState, h.device]
  split
  · exact h
  · exact h.settle (QmButton.shownAs_ne_error _)

theorem pressOutcome (h : b.Alike b') {call : KvqmbtCall} (hcall : b.pressCall = some call)
    (ret : Int) : (b.pressOutcome call ret).Alike (b'.pressOutcome call ret) := by
  have hidle : b.btnState ≠ .errorDisabled := by
    rcases pressCall_isSome hcall with ⟨hs, _⟩ | ⟨hs, _⟩ <;> rw [hs] <;> decide
  unfold QmButton.pressOutcome
  split
  · simp only [QmButton.fail, if_neg hidle, if_neg (h.btnState ▸ hidle)]
    exact ⟨h.device, rfl, fun _ => rfl⟩
  · split
    · exact h.settle (by decide)
    · exact h.settle (by decide)

theorem press (h : b.Alike b') (kernel : KvqmbtCall → Int) :
    (b.press kernel).Alike (b'.press kernel) := by
  unfold QmButton.press
  rw [← h.pressCall]
  cases hcall : b.pressCall with
  | none => exact h
  | some call => exact h.pressOutcome hcall _

theorem empty (h : b.Alike b') : b.empty.Alike b'.empty := by
  unfold QmButton.empty
  rw [← h.btnState]
  split
  · exact h
  · exact ⟨rfl, rfl, nofun⟩

theorem assign (h : b.Alike b') (newDevice : VqmbtDeviceInfo) :
    (b.assign newDevice).Alike (b'.assign newDevice) := by
  unfold QmButton.assign
  rw [← h.device]
  split
  · exact h
  · exact ⟨rfl, rfl, nofun⟩

theorem bulk (h : b.Alike b') (request : QmsBulk) (idx : Fin vqmbtMaxDevices) :
    (b.bulk request idx).Alike (b'.bulk request idx) := by
  by_cases hl : request.Lists idx
  · cases hon : request.bluetoothOn with
    | false =>
        rw [QmButton.bulk_off hl hon, QmButton.bulk_off hl hon]
        exact (h.assign _).btOff
    | true =>
        rw [QmButton.bulk_on hl hon, QmButton.bulk_on hl hon]
        exact (h.assign _).settle (QmButton.shownAs_ne_error _)
  · rw [QmButton.bulk_unlisted hl, QmButton.bulk_unlisted hl]
    exact h.empty

theorem buttonLabel (h : b.Alike b') (idx : Fin vqmbtMaxDevices) :
    buttonLabel idx b = buttonLabel idx b' := by
  unfold VitaQmBluetooth.buttonLabel
  rw [← h.device, ← h.btnState]
  cases hs : b.btnState with
  | errorDisabled => simp only [h.errorMessage hs]
  | _ => rfl

end QmButton.Alike

theorem macToIdx_alike {slots slots' : Fin vqmbtMaxDevices → QmButton}
    (h : SlotsAlike slots slots') (mac0 mac1 : UnsignedInt) :
    macToIdx slots mac0 mac1 = macToIdx slots' mac0 mac1 := by
  simp only [macToIdx, (h _).device]

theorem requestEffect_alike {slots slots' : Fin vqmbtMaxDevices → QmButton}
    (h : SlotsAlike slots slots') (kernel : KvqmbtCall → Int) (request : QmsRequest)
    (idx : Fin vqmbtMaxDevices) :
    (requestEffect kernel slots request idx (slots idx)).Alike
      (requestEffect kernel slots' request idx (slots' idx)) := by
  have hevent {mac0 mac1 : UnsignedInt} {target : QmButtonState}
      (ht : target ≠ .errorDisabled) : (eventEffect slots mac0 mac1 target idx (slots idx)).Alike
        (eventEffect slots' mac0 mac1 target idx (slots' idx)) := by
    unfold eventEffect
    rw [macToIdx_alike h]
    split
    · exact h idx
    · split
      · exact (h idx).settle ht
      · exact h idx
  cases request with
  | bulkUpdate bulk => exact (h idx).bulk bulk idx
  | buttonPressed pressed =>
      simp only [requestEffect]
      split
      · exact (h idx).press kernel
      · exact h idx
  | bluetoothOn => exact (h idx).btOn
  | bluetoothOff => exact (h idx).btOff
  | deviceDisconnected mac0 mac1 => exact hevent (by decide)
  | deviceConnected mac0 mac1 => exact hevent (by decide)

theorem alike_after {past past' : List Handling}
    (h : SlotsAlike (quickMenu.after past).qmState.buttons
      (quickMenu.after past').qmState.buttons) (later : List Handling) :
    SlotsAlike (quickMenu.after (later ++ past)).qmState.buttons
      (quickMenu.after (later ++ past')).qmState.buttons := by
  induction later with
  | nil => exact h
  | cons a later ih =>
      intro idx
      rw [List.cons_append, List.cons_append, after_buttons, after_buttons]
      exact requestEffect_alike ih a.kernel a.request idx

def StoresListed (m : QmModule) (bulk : QmsBulk) : Prop :=
  ∀ idx, bulk.Lists idx → (m.qmState.buttons idx).device = bulk.devices idx

def NoOutdatedRecord (m : QmModule) (bulk : QmsBulk) : Prop :=
  ∀ idx, bulk.Lists idx → (m.qmState.buttons idx).device.mac = (bulk.devices idx).mac →
    (m.qmState.buttons idx).device = bulk.devices idx

theorem QmButton.bulk_device {bulk : QmsBulk} {idx : Fin vqmbtMaxDevices} (h : bulk.Lists idx)
    (b : QmButton) : (b.bulk bulk idx).device = (b.assign (bulk.devices idx)).device := by
  cases hon : bulk.bluetoothOn with
  | false => rw [bulk_off h hon, btOff_device]
  | true => rw [bulk_on h hon, settle_device]

theorem storesListed_iff (bulk : QmsBulk) (kernel : KvqmbtCall → Int) (past : List Handling) :
    StoresListed (quickMenu.after (⟨.bulkUpdate bulk, kernel⟩ :: past)) bulk ↔
      NoOutdatedRecord (quickMenu.after past) bulk := by
  refine forall_congr' fun idx => forall_congr' fun hl => ?_
  rw [after_buttons]
  simp only [requestEffect, QmButton.bulk_device hl, QmButton.assign]
  split
  · next hmac => exact ⟨fun h _ => h, fun h => h hmac.symm⟩
  · next hmac => exact ⟨fun _ h => absurd h.symm hmac, fun _ => rfl⟩

theorem QmButton.vacant_bulk_off {bulk : QmsBulk} {idx : Fin vqmbtMaxDevices}
    (hl : bulk.Lists idx) (hoff : bulk.bluetoothOn = false) {b : QmButton}
    (hb : b.Vacant → b.device = .zeroed) :
    (b.bulk bulk idx).Vacant ↔ b.Vacant ∧ (bulk.devices idx).mac = (0, 0) := by
  rw [bulk_off hl hoff, vacant_btOff]
  constructor
  · intro hv
    obtain ⟨hmac, hvacant⟩ := vacant_assign hv
    exact ⟨hvacant, by rw [hmac, hb hvacant]; rfl⟩
  · rintro ⟨hvacant, hmac⟩
    rw [assign_known (by rw [hmac, hb hvacant]; rfl)]
    exact hvacant

theorem QmButton.bulk_alike {bulk : QmsBulk} {idx : Fin vqmbtMaxDevices} {b b' : QmButton}
    (hb : b.Vacant → b.device = .zeroed) (hb' : b'.Vacant → b'.device = .zeroed)
    (hdevice : bulk.Lists idx → (b.bulk bulk idx).device = (b'.bulk bulk idx).device)
    (hvacant : bulk.Lists idx → bulk.bluetoothOn = false →
      (bulk.devices idx).mac = (0, 0) → (b.Vacant ↔ b'.Vacant)) :
    (b.bulk bulk idx).Alike (b'.bulk bulk idx) := by
  refine ⟨?_, ?_, fun herror => absurd herror (bulk_not_error bulk idx b)⟩
  · by_cases hl : bulk.Lists idx
    · exact hdevice hl
    · have hempty {c : QmButton} (hc : c.Vacant → c.device = .zeroed) :
          (c.bulk bulk idx).device = .zeroed := by
        refine bulk_emptyZeroed hc ?_
        rw [bulk_unlisted hl]
        exact vacant_empty c
      rw [hempty hb, hempty hb']
  · by_cases hl : bulk.Lists idx
    · cases hon : bulk.bluetoothOn with
      | true => rw [bulk_on hl hon, bulk_on hl hon, settle_idem, settle_idem]
      | false =>
          have hsame : (b.bulk bulk idx).Vacant ↔ (b'.bulk bulk idx).Vacant := by
            rw [vacant_bulk_off hl hon hb, vacant_bulk_off hl hon hb']
            exact and_congr_left (hvacant hl hon)
          by_cases hv : (b.bulk bulk idx).Vacant
          · exact hv.trans (hsame.mp hv).symm
          · have hv' := mt hsame.mpr hv
            rw [bulk_off hl hon] at hv hv' ⊢
            rw [bulk_off hl hon, btOff_shown hv, btOff_shown hv']
    · rw [bulk_unlisted hl, bulk_unlisted hl]
      exact (vacant_empty b).trans (vacant_empty b').symm

def RemainAlike (past past' : List Handling) : Prop :=
  ∀ (later : List Handling) (idx : Fin vqmbtMaxDevices),
    ((quickMenu.after (later ++ past)).qmState.buttons idx).btnState =
        ((quickMenu.after (later ++ past')).qmState.buttons idx).btnState ∧
      ((quickMenu.after (later ++ past)).widgets idx).label =
        ((quickMenu.after (later ++ past')).widgets idx).label

theorem displayed_later (later : List Handling) (a : Handling) (past : List Handling) :
    Displayed (quickMenu.after (later ++ a :: past)) := by
  cases later with
  | nil => exact displayed_after a past
  | cons b later => exact displayed_after b (later ++ a :: past)

theorem bulk_remembered_iff (bulk : QmsBulk) (kernel : KvqmbtCall → Int)
    (past past' : List Handling) :
    let update : Handling := ⟨.bulkUpdate bulk, kernel⟩
    (StoresListed (quickMenu.after (update :: past)) bulk ∧
        StoresListed (quickMenu.after (update :: past')) bulk ∧
        RemainAlike (update :: past) (update :: past')) ↔
      NoOutdatedRecord (quickMenu.after past) bulk ∧
        NoOutdatedRecord (quickMenu.after past') bulk ∧
        ∀ idx, bulk.Lists idx → bulk.bluetoothOn = false → (bulk.devices idx).mac = (0, 0) →
          (((quickMenu.after past).qmState.buttons idx).btnState = .slotEmptyDisabled ↔
            ((quickMenu.after past').qmState.buttons idx).btnState = .slotEmptyDisabled) := by
  intro update
  have hz := emptyZeroed_after past
  have hz' := emptyZeroed_after past'
  rw [storesListed_iff, storesListed_iff]
  refine and_congr_right fun hkept => and_congr_right fun hkept' => ?_
  constructor
  · intro halike idx hl hoff hmac
    have hstate := (halike [] idx).1
    rw [List.nil_append, List.nil_append, after_buttons, after_buttons] at hstate
    simp only [requestEffect, update] at hstate
    have hv := QmButton.vacant_bulk_off hl hoff (hz idx)
    have hv' := QmButton.vacant_bulk_off hl hoff (hz' idx)
    simp only [QmButton.Vacant, hmac, and_true] at hv hv'
    rw [← hv, ← hv', hstate]
  · intro hvacant later idx
    have hfirst : SlotsAlike (quickMenu.after (update :: past)).qmState.buttons
        (quickMenu.after (update :: past')).qmState.buttons := by
      intro idx
      have hstored := (storesListed_iff bulk kernel past).mpr hkept idx
      have hstored' := (storesListed_iff bulk kernel past').mpr hkept' idx
      rw [after_buttons] at hstored hstored' ⊢
      rw [after_buttons]
      exact QmButton.bulk_alike (hz idx) (hz' idx) (fun hl => (hstored hl).trans (hstored' hl).symm)
        (fun hl hoff hmac => hvacant idx hl hoff hmac)
    have halike := alike_after hfirst later idx
    refine ⟨halike.btnState, ?_⟩
    rw [displayed_label (displayed_later later update past),
      displayed_label (displayed_later later update past'), halike.buttonLabel]

theorem bulk_not_remembered :
    ¬ ∀ (bulk : QmsBulk) (kernel : KvqmbtCall → Int) (past past' : List Handling),
      StoresListed (quickMenu.after (⟨.bulkUpdate bulk, kernel⟩ :: past)) bulk ∧
        StoresListed (quickMenu.after (⟨.bulkUpdate bulk, kernel⟩ :: past')) bulk ∧
        RemainAlike (⟨.bulkUpdate bulk, kernel⟩ :: past)
          (⟨.bulkUpdate bulk, kernel⟩ :: past') := by
  intro hall
  have hstored := (hall (.single true 1 1 .connected) (fun _ => 0)
    [⟨.bulkUpdate (.single true 1 1 .disconnected), fun _ => 0⟩] []).1 0 (by decide)
  exact absurd (congrArg VqmbtDeviceInfo.state hstored) (by decide)

end VitaQmBluetooth
