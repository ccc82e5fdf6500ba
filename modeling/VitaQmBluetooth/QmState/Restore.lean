import VitaQmBluetooth.QmState.Reachable

namespace VitaQmBluetooth

open Foundation

def storedBulk (qmState : QmState) : QmsBulk where
  bluetoothOn := true
  numDevices := ((List.finRange vqmbtMaxDevices).filter
    (fun idx => (qmState.buttons idx).btnState ≠ .slotEmptyDisabled)).length
  devices := fun idx => (qmState.buttons idx).device

theorem prefix_length : ∀ k : Fin (vqmbtMaxDevices + 1),
    ((List.finRange vqmbtMaxDevices).filter (fun idx => idx.val < k.val)).length = k.val := by
  decide

theorem storedBulk_lists {qmState : QmState} {n : Int}
    (hn : ∀ idx, (qmState.buttons idx).Vacant ↔ ¬ (idx : Int) < n) (idx : Fin vqmbtMaxDevices) :
    (storedBulk qmState).Lists idx ↔ ¬ (qmState.buttons idx).Vacant := by
  obtain ⟨k, hk⟩ : ∃ k : Fin (vqmbtMaxDevices + 1),
      ∀ idx : Fin vqmbtMaxDevices, (idx : Int) < n ↔ idx.val < k.val := by
    refine ⟨⟨(max 0 (min n vqmbtMaxDevices)).toNat, by omega⟩, fun idx => ?_⟩
    have hlt := idx.isLt
    change (idx : Int) < n ↔ idx.val < (max 0 (min n vqmbtMaxDevices)).toNat
    omega
  have hfilter : (List.finRange vqmbtMaxDevices).filter
        (fun idx => (qmState.buttons idx).btnState ≠ .slotEmptyDisabled) =
      (List.finRange vqmbtMaxDevices).filter (fun idx => idx.val < k.val) := by
    refine List.filter_congr fun idx _ => ?_
    rw [decide_eq_decide, ← hk idx]
    exact (not_congr (hn idx)).trans not_not
  simp only [QmsBulk.Lists, storedBulk, hfilter, prefix_length]
  rw [hn idx, not_not, hk idx]
  omega

def RestoresAll (kernel : KvqmbtCall → Int) (m : QmModule) : Prop :=
  let on := (qmStateUpdateUi kernel m .bluetoothOn).1.qmState
  let bulk := (qmStateUpdateUi kernel m (.bulkUpdate (storedBulk m.qmState))).1.qmState
  (∀ idx, (on.buttons idx).btnState ≠ .btOffDisabled) ∧
    ∀ idx, (on.buttons idx).btnState = (bulk.buttons idx).btnState

theorem shownAs_ne_btOff (s : VqmbtInferredDevState) : s.shownAs ≠ .btOffDisabled := by
  cases s <;> simp [VqmbtInferredDevState.shownAs]

theorem stored_bulk_btnState {qmState : QmState} {idx : Fin vqmbtMaxDevices}
    (hl : (storedBulk qmState).Lists idx) :
    ((qmState.buttons idx).bulk (storedBulk qmState) idx).btnState =
      (qmState.buttons idx).device.state.shownAs := by
  rw [QmButton.bulk_on hl rfl, QmButton.settle_idem]
  rfl

theorem btOn_btnState {b : QmButton} (hv : ¬ b.Vacant)
    (h : b.btnState = .btOffDisabled → b.device.state.btOnForces = true) :
    b.btOn.btnState = b.device.state.shownAs := by
  have hoccupied : b.btnState ≠ .slotEmptyDisabled := hv
  have hmoves : ¬ (b.btnState = .btOffDisabled ∧ b.device.state.btOnForces = false) :=
    fun hstuck => by simp [h hstuck.1] at hstuck
  simp only [QmButton.btOn, QmButton.settle]
  rw [if_neg hoccupied, if_neg hmoves]

theorem btOn_stuck {b : QmButton} (h : b.btnState = .btOffDisabled)
    (hf : b.device.state.btOnForces = false) : b.btOn.btnState = .btOffDisabled := by
  simp [QmButton.btOn, QmButton.settle, h, hf]

theorem bluetooth_on_restores_iff (kernel : KvqmbtCall → Int) (past : List Handling)
    (h : AllBulks QmsBulk.Addressed past) :
    RestoresAll kernel (quickMenu.after past) ↔
      ∀ idx, ((quickMenu.after past).qmState.buttons idx).btnState = .btOffDisabled →
        ((quickMenu.after past).qmState.buttons idx).device.state ∈
          [.disconnected, .connecting, .disconnecting] := by
  have hforces (s : VqmbtInferredDevState) :
      s ∈ [.disconnected, .connecting, .disconnecting] ↔ s.btOnForces = true := by
    cases s <;> simp [VqmbtInferredDevState.btOnForces]
  simp only [hforces, RestoresAll, qmStateUpdateUi_buttons, requestEffect]
  constructor
  · rintro ⟨hnone, _⟩ idx hoff
    by_contra hf
    exact hnone idx (btOn_stuck hoff (Bool.eq_false_iff.mpr hf))
  · intro hcond
    obtain ⟨n, hn⟩ := occupied_prefix past h
    have hslot (idx : Fin vqmbtMaxDevices) :
        ((quickMenu.after past).qmState.buttons idx).btOn.btnState ≠ .btOffDisabled ∧
          ((quickMenu.after past).qmState.buttons idx).btOn.btnState =
            (((quickMenu.after past).qmState.buttons idx).bulk
              (storedBulk (quickMenu.after past).qmState) idx).btnState := by
      have hlists := storedBulk_lists hn idx
      by_cases hv : ((quickMenu.after past).qmState.buttons idx).Vacant
      · have hon : ((quickMenu.after past).qmState.buttons idx).btOn.Vacant :=
          (QmButton.vacant_btOn _).mpr hv
        have hbulk : (((quickMenu.after past).qmState.buttons idx).bulk
            (storedBulk (quickMenu.after past).qmState) idx).Vacant := by
          rw [QmButton.bulk_unlisted (fun hl => hlists.mp hl hv)]
          exact QmButton.vacant_empty _
        simp only [QmButton.Vacant] at hon hbulk
        rw [hon, hbulk]
        exact ⟨by decide, rfl⟩
      · rw [btOn_btnState hv (hcond idx), stored_bulk_btnState (hlists.mpr hv)]
        exact ⟨shownAs_ne_btOff _, rfl⟩
    exact ⟨fun idx => (hslot idx).1, fun idx => (hslot idx).2⟩

theorem bluetooth_on_restores_disconnected :
    RestoresAll (fun _ => 0)
      (quickMenu.after [⟨.bulkUpdate (.single false 1 1 .disconnected), fun _ => 0⟩]) :=
  (bluetooth_on_restores_iff (fun _ => 0) _
    (AllBulks.singleton (QmsBulk.single_addressed _ _ (by decide)))).mpr (by decide)

theorem bluetooth_on_not_restoring_connected :
    ¬ ∀ (kernel : KvqmbtCall → Int) (past : List Handling),
      AllBulks QmsBulk.Addressed past → RestoresAll kernel (quickMenu.after past) := by
  intro hall
  have haddr : (QmsBulk.single false 1 1 .connected).Addressed :=
    QmsBulk.single_addressed _ _ (by decide)
  have hstuck := (hall (fun _ => 0) [⟨.bulkUpdate _, fun _ => 0⟩]
    (AllBulks.singleton haddr)).1 0
  exact hstuck (by decide)

end VitaQmBluetooth
