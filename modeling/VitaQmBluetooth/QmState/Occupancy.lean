import VitaQmBluetooth.QmState.Reachable

namespace VitaQmBluetooth

def lastBulk : List Handling → Option QmsBulk
  | [] => none
  | a :: past =>
      match a.request with
      | .bulkUpdate bulk => some bulk
      | _ => lastBulk past

def clampDevices (numDevices : Int) : Nat := (max 0 (min numDevices vqmbtMaxDevices)).toNat

def occupiedSlots (past : List Handling) : Nat :=
  match lastBulk past with
  | none => 0
  | some bulk => clampDevices bulk.numDevices

theorem clampDevices_lists (bulk : QmsBulk) (idx : Fin vqmbtMaxDevices) :
    idx.val < clampDevices bulk.numDevices ↔ bulk.Lists idx := by
  have hlt := idx.isLt
  simp only [clampDevices, QmsBulk.Lists]
  omega

theorem lastBulk_quiet {a : Handling} {past : List Handling} (h : ¬ IsBulk a.request) :
    lastBulk (a :: past) = lastBulk past := by
  cases hreq : a.request with
  | bulkUpdate bulk =>
      rw [hreq] at h
      exact absurd trivial h
  | _ => simp only [lastBulk, hreq]

theorem lastBulk_none {past : List Handling} (h : lastBulk past = none) :
    ∀ a ∈ past, ¬ IsBulk a.request := by
  induction past with
  | nil => simp
  | cons b past ih =>
      intro a ha hbulk
      by_cases hb : IsBulk b.request
      · obtain ⟨bulk, hreq⟩ := (isBulk_iff _).mp hb
        simp [lastBulk, hreq] at h
      · rw [lastBulk_quiet hb] at h
        rcases List.mem_cons.mp ha with rfl | ha
        · exact hb hbulk
        · exact ih h a ha hbulk

theorem lastBulk_some {past : List Handling} {bulk : QmsBulk} (h : lastBulk past = some bulk) :
    ∃ later a older, past = later ++ a :: older ∧ a.request = .bulkUpdate bulk ∧
      ∀ b ∈ later, ¬ IsBulk b.request := by
  induction past with
  | nil => cases h
  | cons b past ih =>
      by_cases hb : IsBulk b.request
      · obtain ⟨listed, hreq⟩ := (isBulk_iff _).mp hb
        simp only [lastBulk, hreq, Option.some.injEq] at h
        subst h
        exact ⟨[], b, past, rfl, hreq, by simp⟩
      · rw [lastBulk_quiet hb] at h
        obtain ⟨later, a, older, rfl, hreq, hlater⟩ := ih h
        refine ⟨b :: later, a, older, rfl, hreq, fun c hc => ?_⟩
        rcases List.mem_cons.mp hc with rfl | hc
        · exact hb
        · exact hlater c hc

theorem occupied_slot {past : List Handling} (h : AllBulks QmsBulk.Addressed past)
    {idx : Fin vqmbtMaxDevices} (hidx : idx.val < occupiedSlots past) :
    ¬ ((quickMenu.after past).qmState.buttons idx).Vacant ∧
      ∃ bulk, lastBulk past = some bulk ∧
        ((quickMenu.after past).qmState.buttons idx).device.mac = (bulk.devices idx).mac := by
  unfold occupiedSlots at hidx
  split at hidx
  · exact absurd hidx (Nat.not_lt_zero _)
  · next bulk hbulk =>
      obtain ⟨later, a, older, rfl, hreq, hlater⟩ := lastBulk_some hbulk
      have haddr := h a (by simp) bulk hreq
      have hslots := last_bulk_slots older later hreq haddr hlater idx
      obtain ⟨hmac, hoccupied⟩ := hslots.1 ((clampDevices_lists bulk idx).mp hidx)
      exact ⟨hoccupied, bulk, hbulk, hmac⟩

theorem vacant_slot {past : List Handling} (h : AllBulks QmsBulk.Addressed past)
    {idx : Fin vqmbtMaxDevices} (hidx : occupiedSlots past ≤ idx.val) :
    ((quickMenu.after past).qmState.buttons idx).Vacant ∧
      ((quickMenu.after past).qmState.buttons idx).device = .zeroed := by
  suffices hv : ((quickMenu.after past).qmState.buttons idx).Vacant from
    ⟨hv, emptyZeroed_after past idx hv⟩
  unfold occupiedSlots at hidx
  split at hidx
  · next hnone =>
      have hframe := (after_frame [] past (lastBulk_none hnone) idx).2
      rw [List.append_nil] at hframe
      exact hframe.mpr rfl
  · next bulk hbulk =>
      obtain ⟨later, a, older, rfl, hreq, hlater⟩ := lastBulk_some hbulk
      have haddr := h a (by simp) bulk hreq
      have hnot : ¬ bulk.Lists idx := by
        rw [← clampDevices_lists]
        exact Nat.not_lt_of_le hidx
      exact (last_bulk_slots older later hreq haddr hlater idx).2 hnot

theorem slots_follow_last_bulk (past : List Handling) (h : AllBulks QmsBulk.Addressed past) :
    (∀ idx : Fin vqmbtMaxDevices, idx.val < occupiedSlots past →
      ((quickMenu.after past).qmState.buttons idx).btnState ≠ .slotEmptyDisabled ∧
        ∃ bulk, lastBulk past = some bulk ∧
          ((quickMenu.after past).qmState.buttons idx).device.mac = (bulk.devices idx).mac) ∧
      (∀ idx : Fin vqmbtMaxDevices, occupiedSlots past ≤ idx.val →
        ((quickMenu.after past).qmState.buttons idx).btnState = .slotEmptyDisabled ∧
          ((quickMenu.after past).qmState.buttons idx).device = .zeroed) ∧
      ∀ a : Handling, ¬ IsBulk a.request → ∀ idx,
        ((quickMenu.after (a :: past)).qmState.buttons idx).device =
            ((quickMenu.after past).qmState.buttons idx).device ∧
          (((quickMenu.after (a :: past)).qmState.buttons idx).btnState = .slotEmptyDisabled ↔
            ((quickMenu.after past).qmState.buttons idx).btnState = .slotEmptyDisabled) := by
  refine ⟨fun idx hidx => occupied_slot h hidx, fun idx hidx => vacant_slot h hidx, ?_⟩
  intro a ha idx
  exact after_frame past [a] (by simpa using ha) idx

def listedTwice : List Handling :=
  [⟨.deviceConnected 1 1, fun _ => 0⟩, ⟨.bulkUpdate (.single true 2 3 .connected), fun _ => 0⟩,
    ⟨.bulkUpdate (.single true 1 1 .connected), fun _ => 0⟩]

theorem slots_follow_last_bulk_replaced :
    (((quickMenu.after listedTwice).qmState.buttons 0).btnState ≠ .slotEmptyDisabled ∧
        ((quickMenu.after listedTwice).qmState.buttons 0).device.mac = (2, 3)) ∧
      (((quickMenu.after listedTwice).qmState.buttons 1).btnState = .slotEmptyDisabled ∧
        ((quickMenu.after listedTwice).qmState.buttons 1).device = .zeroed) ∧
      ((quickMenu.after (⟨.bluetoothOff, fun _ => 0⟩ :: listedTwice)).qmState.buttons 0).device =
        ((quickMenu.after listedTwice).qmState.buttons 0).device := by
  have hbulks : AllBulks QmsBulk.Addressed listedTwice := by
    intro a ha bulk hreq
    simp only [listedTwice, List.mem_cons, List.not_mem_nil, or_false] at ha
    rcases ha with rfl | rfl | rfl
    · cases hreq
    · obtain rfl := QmsRequest.bulkUpdate.inj hreq
      exact QmsBulk.single_addressed _ _ (by decide)
    · obtain rfl := QmsRequest.bulkUpdate.inj hreq
      exact QmsBulk.single_addressed _ _ (by decide)
  obtain ⟨hlisted, hunlisted, hframe⟩ := slots_follow_last_bulk listedTwice hbulks
  obtain ⟨hoccupied, bulk, hbulk, hmac⟩ := hlisted 0 (by decide)
  have hlast : lastBulk listedTwice = some (.single true 2 3 .connected) := rfl
  obtain rfl := Option.some.inj (hlast.symm.trans hbulk)
  exact ⟨⟨hoccupied, hmac⟩, hunlisted 1 (by decide), (hframe ⟨.bluetoothOff, fun _ => 0⟩ id 0).1⟩

end VitaQmBluetooth
