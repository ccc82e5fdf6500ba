import VitaQmBluetooth.QmState.Reachable

namespace VitaQmBluetooth

open Foundation

inductive DeviceEvent where
  | connected
  | disconnected
  deriving DecidableEq

namespace DeviceEvent

def request : DeviceEvent → UnsignedInt → UnsignedInt → QmsRequest
  | .connected, mac0, mac1 => .deviceConnected mac0 mac1
  | .disconnected, mac0, mac1 => .deviceDisconnected mac0 mac1

def target : DeviceEvent → QmButtonState
  | .connected => .connected
  | .disconnected => .disconnected

theorem request_effect (event : DeviceEvent) (kernel : KvqmbtCall → Int)
    (slots : Fin vqmbtMaxDevices → QmButton) (mac0 mac1 : UnsignedInt) :
    requestEffect kernel slots (event.request mac0 mac1) =
      eventEffect slots mac0 mac1 event.target := by
  cases event <;> rfl

end DeviceEvent

def ReachesOwnButton (bulk : QmsBulk) (kernel : KvqmbtCall → Int) (m : QmModule)
    (event : DeviceEvent) (mac0 mac1 : UnsignedInt) : Prop :=
  let next := qmStateUpdateUi kernel m (event.request mac0 mac1)
  (∀ idx, bulk.Lists idx → (bulk.devices idx).mac = (mac0, mac1) →
    ((m.qmState.buttons idx).btnState = .btOffDisabled →
      next.1.qmState.buttons idx = m.qmState.buttons idx) ∧
    ((m.qmState.buttons idx).btnState ≠ .btOffDisabled →
      (next.1.qmState.buttons idx).btnState = event.target) ∧
    (∀ j, j ≠ idx → next.1.qmState.buttons j = m.qmState.buttons j) ∧
    ∀ j, (next.1.qmState.buttons j).device = (m.qmState.buttons j).device) ∧
  ((∀ idx, bulk.Lists idx → (bulk.devices idx).mac ≠ (mac0, mac1)) →
    next.1.qmState = m.qmState ∧ next.2.changed = false)

theorem device_event_error (kernel : KvqmbtCall → Int) {m : QmModule} (event : DeviceEvent)
    {mac0 mac1 : UnsignedInt} {e : VqmbtError}
    (h : macToIdx m.qmState.buttons mac0 mac1 = .error e) :
    (qmStateUpdateUi kernel m (event.request mac0 mac1)).1.qmState = m.qmState ∧
      (qmStateUpdateUi kernel m (event.request mac0 mac1)).2.changed = false := by
  have hsame : (qmStateUpdateUi kernel m (event.request mac0 mac1)).1.qmState = m.qmState := by
    ext idx : 2
    rw [qmStateUpdateUi_buttons, event.request_effect]
    simp only [eventEffect, h]
  refine ⟨hsame, ?_⟩
  rw [← Bool.not_eq_true, qmStateUpdateUi_changed]
  exact fun hne => hne hsame

theorem device_event_ok {kernel : KvqmbtCall → Int} {m : QmModule} {event : DeviceEvent}
    {mac0 mac1 : UnsignedInt} {found : Fin vqmbtMaxDevices}
    (h : macToIdx m.qmState.buttons mac0 mac1 = .ok found) (idx : Fin vqmbtMaxDevices) :
    (qmStateUpdateUi kernel m (event.request mac0 mac1)).1.qmState.buttons idx =
      if idx = found then (m.qmState.buttons idx).settle event.target false
      else m.qmState.buttons idx := by
  rw [qmStateUpdateUi_buttons, event.request_effect]
  simp only [eventEffect, h]

section LastBulk

variable {past later : List Handling} {a : Handling} {bulk : QmsBulk}

theorem listed_of_mac (ha : a.request = .bulkUpdate bulk) (haddr : bulk.Addressed)
    (hl : ∀ b ∈ later, ¬ IsBulk b.request) {mac0 mac1 : UnsignedInt} (h0 : mac0 ≠ 0)
    {idx : Fin vqmbtMaxDevices}
    (hmac : ((quickMenu.after (later ++ a :: past)).qmState.buttons idx).device.mac =
      (mac0, mac1)) : bulk.Lists idx ∧ (bulk.devices idx).mac = (mac0, mac1) := by
  obtain ⟨hlisted, hvacant⟩ := last_bulk_slots past later ha haddr hl idx
  by_cases h : bulk.Lists idx
  · exact ⟨h, (hlisted h).1.symm.trans hmac⟩
  · rw [emptyZeroed_after _ idx (hvacant h)] at hmac
    exact absurd (Prod.mk.inj hmac).1.symm h0

theorem reaches_of_halves (ha : a.request = .bulkUpdate bulk) (haddr : bulk.Addressed)
    (hdist : bulk.Distinct) (hl : ∀ b ∈ later, ¬ IsBulk b.request)
    (kernel : KvqmbtCall → Int) (event : DeviceEvent) {mac0 mac1 : UnsignedInt}
    (h0 : mac0 ≠ 0) (h1 : mac1 ≠ 0) :
    ReachesOwnButton bulk kernel (quickMenu.after (later ++ a :: past)) event mac0 mac1 := by
  constructor
  · intro idx hidx hmac
    have hslot := ((last_bulk_slots past later ha haddr hl idx).1 hidx).1.trans hmac
    have hok := macToIdx_eq_ok hslot h0 h1 (fun j hj => by
      obtain ⟨hj, hjmac⟩ := listed_of_mac ha haddr hl h0 hj
      exact hdist j idx hj hidx (hjmac.trans hmac.symm))
    simp only [device_event_ok hok]
    refine ⟨?_, ?_, ?_, ?_⟩
    · intro hoff
      simp [QmButton.settle, hoff]
    · intro hon
      simp [QmButton.settle, hon]
    · intro j hj
      rw [if_neg hj]
    · intro j
      split <;> simp
  · intro hnone
    have hunlisted (j : Fin vqmbtMaxDevices) : ((quickMenu.after
        (later ++ a :: past)).qmState.buttons j).device.mac ≠ (mac0, mac1) := by
      intro hj
      obtain ⟨hj, hjmac⟩ := listed_of_mac ha haddr hl h0 hj
      exact hnone j hj hjmac
    obtain ⟨e, he⟩ := macToIdx_unlisted hunlisted
    exact device_event_error kernel event he

theorem device_event_iff (ha : a.request = .bulkUpdate bulk) (haddr : bulk.Addressed)
    (hdist : bulk.Distinct) (hl : ∀ b ∈ later, ¬ IsBulk b.request)
    (kernel : KvqmbtCall → Int) (event : DeviceEvent) (mac0 mac1 : UnsignedInt) :
    ReachesOwnButton bulk kernel (quickMenu.after (later ++ a :: past)) event mac0 mac1 ↔
      (mac0 ≠ 0 ∧ mac1 ≠ 0) ∨
        ∀ idx, bulk.Lists idx → (bulk.devices idx).mac = (mac0, mac1) →
          ((quickMenu.after (later ++ a :: past)).qmState.buttons idx).btnState =
              .btOffDisabled ∨
            ((quickMenu.after (later ++ a :: past)).qmState.buttons idx).btnState =
              event.target := by
  by_cases hhalf : mac0 ≠ 0 ∧ mac1 ≠ 0
  · exact iff_of_true (reaches_of_halves ha haddr hdist hl kernel event hhalf.1 hhalf.2)
      (.inl hhalf)
  · have hzero : mac0 = 0 ∨ mac1 = 0 := by
      simpa only [not_and_or, ne_eq, not_not] using hhalf
    obtain ⟨hsame, hfalse⟩ := device_event_error kernel event
      (macToIdx_zero_half (quickMenu.after (later ++ a :: past)).qmState.buttons hzero)
    simp only [ReachesOwnButton, hsame, hfalse, hhalf, false_or]
    constructor
    · intro h idx hidx hmac
      by_cases hoff : ((quickMenu.after (later ++ a :: past)).qmState.buttons idx).btnState =
          .btOffDisabled
      · exact .inl hoff
      · exact .inr ((h.1 idx hidx hmac).2.1 hoff)
    · intro h
      refine ⟨fun idx hidx hmac => ?_, fun _ => ⟨trivial, trivial⟩⟩
      refine ⟨fun _ => trivial, ?_, fun _ _ => trivial, fun _ => trivial⟩
      exact fun hon => (h idx hidx hmac).resolve_left hon

end LastBulk

theorem device_event_full_mac :
    ReachesOwnButton (.single true 1 1 .disconnected) (fun _ => 0)
      (quickMenu.after [⟨.bulkUpdate (.single true 1 1 .disconnected), fun _ => 0⟩])
      .connected 1 1 :=
  (@device_event_iff [] [] _ _ rfl
    (QmsBulk.single_addressed _ _ (by decide)) (QmsBulk.single_distinct _ _ _ _)
    (by simp) (fun _ => 0) .connected 1 1).mpr (.inl (by decide))

theorem device_event_lost_zero_half :
    ¬ ∀ (past later : List Handling) (a : Handling) (bulk : QmsBulk),
      a.request = .bulkUpdate bulk → bulk.Addressed → bulk.Distinct →
        (∀ b ∈ later, ¬ IsBulk b.request) → ∀ (kernel : KvqmbtCall → Int) (event : DeviceEvent)
          (mac0 mac1 : UnsignedInt),
          ReachesOwnButton bulk kernel (quickMenu.after (later ++ a :: past)) event mac0 mac1 := by
  intro hall
  have hreach := hall [] [] ⟨.bulkUpdate (.single true 0 0x9ABCDEF0 .disconnected), fun _ => 0⟩ _
    rfl (QmsBulk.single_addressed _ _ (by decide)) (QmsBulk.single_distinct _ _ _ _) (by simp)
    (fun _ => 0) .connected 0 0x9ABCDEF0
  have hconnected := (hreach.1 0 (by decide) (by decide)).2.1 (by decide)
  exact absurd hconnected (by decide)

end VitaQmBluetooth
