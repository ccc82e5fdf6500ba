import VitaQmBluetooth.QmState.Reachable

namespace VitaQmBluetooth

namespace QmButton

theorem btOff_shown {b : QmButton} (h : ¬ b.btOff.Vacant) :
    b.btOff.btnState = .btOffDisabled := by
  have hoccupied : b.btnState ≠ .slotEmptyDisabled := fun hv => h ((vacant_btOff b).mpr hv)
  simp only [btOff, if_neg hoccupied]

theorem empty_idem (b : QmButton) : b.empty.empty = b.empty := by
  have hv : b.empty.btnState = .slotEmptyDisabled := vacant_empty b
  rw [empty.eq_def b.empty, if_pos hv]

theorem btOff_idem (b : QmButton) : b.btOff.btOff = b.btOff := by
  unfold btOff
  split <;> simp

theorem settle_again {b : QmButton} {target : QmButtonState} {force : Bool}
    (h : b.btnState = target) : b.settle target force = b := by
  subst h
  unfold settle
  split <;> rfl

theorem assign_known {b : QmButton} {newDevice : VqmbtDeviceInfo}
    (h : newDevice.mac = b.device.mac) : b.assign newDevice = b := by
  unfold assign
  rw [if_pos h]

theorem bulk_idem (request : QmsBulk) (idx : Fin vqmbtMaxDevices) (b : QmButton) :
    (b.bulk request idx).bulk request idx = b.bulk request idx := by
  by_cases h : request.Lists idx
  · have hmac := (bulk_mac h b).symm
    cases hon : request.bluetoothOn with
    | false =>
        rw [bulk_off h hon, assign_known hmac, bulk_off h hon, btOff_idem]
    | true =>
        rw [bulk_on h hon, assign_known hmac, bulk_on h hon]
        exact settle_again (settle_idem _ _)
  · rw [bulk_unlisted h, bulk_unlisted h, empty_idem]

end QmButton

def QmsBulk.shown (bulk : QmsBulk) (idx : Fin vqmbtMaxDevices) : QmButtonState :=
  if bulk.Lists idx then
    if bulk.bluetoothOn = false then .btOffDisabled
    else match (bulk.devices idx).state with
      | .connecting => .connectingDisabled
      | .disconnecting => .disconnectingDisabled
      | .connectedHid | .connected | .registering => .connected
      | .unknown0 | .disconnected | .other _ => .disconnected
  else .slotEmptyDisabled

theorem QmButton.bulk_shown {bulk : QmsBulk} (haddr : bulk.Addressed)
    (idx : Fin vqmbtMaxDevices) {b : QmButton} (hb : b.Vacant → b.device = .zeroed) :
    (b.bulk bulk idx).btnState = bulk.shown idx := by
  unfold QmsBulk.shown
  by_cases h : bulk.Lists idx
  · have hoccupied : ¬ (b.bulk bulk idx).Vacant := fun hv => (vacant_bulk haddr idx hb).mp hv h
    rw [if_pos h]
    cases hon : bulk.bluetoothOn with
    | false =>
        rw [bulk_off h hon] at hoccupied ⊢
        rw [if_pos rfl]
        exact btOff_shown hoccupied
    | true =>
        rw [bulk_on h hon, settle_idem, if_neg (by decide)]
        cases (bulk.devices idx).state <;> rfl
  · rw [if_neg h, bulk_unlisted h]
    exact vacant_empty b

theorem bulk_again (bulk : QmsBulk) (kernel kernel' : KvqmbtCall → Int) (past : List Handling) :
    let once := ⟨.bulkUpdate bulk, kernel⟩ :: past
    let again : Handling := ⟨.bulkUpdate bulk, kernel'⟩
    (quickMenu.after (again :: once)).qmState = (quickMenu.after once).qmState ∧
      (quickMenu.after (again :: once)).widgets = (quickMenu.after once).widgets ∧
      (quickMenu.reply once again).changed = false := by
  intro once again
  have hsame : (quickMenu.after (again :: once)).qmState = (quickMenu.after once).qmState := by
    ext idx : 2
    rw [after_buttons, after_buttons]
    exact QmButton.bulk_idem bulk idx _
  refine ⟨hsame, ?_, ?_⟩
  · rw [displayed_after again once, displayed_after _ past, hsame]
  · rw [← Bool.not_eq_true, reply_changed]
    exact fun hne => hne hsame

theorem bulk_shows_reported {bulk : QmsBulk} (haddr : bulk.Addressed)
    (kernel kernel' : KvqmbtCall → Int) (past past' : List Handling) :
    let once := ⟨.bulkUpdate bulk, kernel⟩ :: past
    let again : Handling := ⟨.bulkUpdate bulk, kernel'⟩
    (∀ idx, ((quickMenu.after once).qmState.buttons idx).btnState = bulk.shown idx) ∧
      (∀ idx, ((quickMenu.after once).qmState.buttons idx).btnState =
        ((quickMenu.after (again :: past')).qmState.buttons idx).btnState) ∧
      (quickMenu.after (again :: once)).qmState = (quickMenu.after once).qmState ∧
      (quickMenu.after (again :: once)).widgets = (quickMenu.after once).widgets ∧
      (quickMenu.reply once again).changed = false := by
  intro once again
  have hshown (k : KvqmbtCall → Int) (p : List Handling) (idx : Fin vqmbtMaxDevices) :
      ((quickMenu.after (⟨.bulkUpdate bulk, k⟩ :: p)).qmState.buttons idx).btnState =
        bulk.shown idx := by
    rw [after_buttons]
    exact QmButton.bulk_shown haddr idx (emptyZeroed_after p idx)
  refine ⟨hshown kernel past, fun idx => ?_, bulk_again bulk kernel kernel' past⟩
  rw [hshown kernel past, hshown kernel' past']

theorem bulk_shows_reported_off :
    ((quickMenu.after [⟨.bulkUpdate (.single false 0 1 .registering), fun _ => 0⟩,
      ⟨.bulkUpdate (.single true 1 1 .connected), fun _ => 0⟩]).qmState.buttons 0).btnState =
        .btOffDisabled :=
  (bulk_shows_reported (QmsBulk.single_addressed _ _ (by decide)) (fun _ => 0) (fun _ => 0) _
    []).1 0

end VitaQmBluetooth
