import VitaQmBluetooth.QmState.Coherence

namespace VitaQmBluetooth

open Foundation

theorem macToIdx_ok {slots : Fin vqmbtMaxDevices → QmButton} {mac0 mac1 : UnsignedInt}
    {idx : Fin vqmbtMaxDevices} (h : macToIdx slots mac0 mac1 = .ok idx) :
    (slots idx).device.mac = (mac0, mac1) ∧ mac0 ≠ 0 ∧ mac1 ≠ 0 := by
  unfold macToIdx at h
  split at h
  · cases h
  · next hhalf =>
      have hzero : mac0 ≠ 0 ∧ mac1 ≠ 0 := by
        constructor
        · rintro rfl; exact hhalf (.inl (by decide))
        · rintro rfl; exact hhalf (.inr (by decide))
      split at h
      · next found hfind =>
          cases h
          have hmatch := List.find?_some hfind
          simp only [decide_eq_true_eq] at hmatch
          exact ⟨Prod.ext hmatch.1 hmatch.2, hzero⟩
      · cases h

theorem macToIdx_eq_ok {slots : Fin vqmbtMaxDevices → QmButton} {mac0 mac1 : UnsignedInt}
    {idx : Fin vqmbtMaxDevices} (hmac : (slots idx).device.mac = (mac0, mac1))
    (h0 : mac0 ≠ 0) (h1 : mac1 ≠ 0)
    (honly : ∀ j, (slots j).device.mac = (mac0, mac1) → j = idx) :
    macToIdx slots mac0 mac1 = .ok idx := by
  have hhalf : ¬ (mac0 < 1 ∨ mac1 < 1) := by
    rintro (h | h)
    · exact h0 (by simpa using h)
    · exact h1 (by simpa using h)
  unfold macToIdx
  rw [if_neg hhalf]
  cases hfind : (List.finRange vqmbtMaxDevices).find? (fun idx =>
      (slots idx).device.mac0 = mac0 ∧ (slots idx).device.mac1 = mac1) with
  | none =>
      have hnone := List.find?_eq_none.mp hfind idx (List.mem_finRange idx)
      obtain ⟨hm0, hm1⟩ := Prod.mk.inj hmac
      simp [hm0, hm1] at hnone
  | some found =>
      have hmatch := List.find?_some hfind
      simp only [decide_eq_true_eq] at hmatch
      simp only [honly found (Prod.ext hmatch.1 hmatch.2)]

theorem macToIdx_zero_half (slots : Fin vqmbtMaxDevices → QmButton) {mac0 mac1 : UnsignedInt}
    (h : mac0 = 0 ∨ mac1 = 0) : macToIdx slots mac0 mac1 = .error .invalidArgument := by
  unfold macToIdx
  rw [if_pos]
  rcases h with rfl | rfl
  · exact .inl (by decide)
  · exact .inr (by decide)

theorem macToIdx_unlisted {slots : Fin vqmbtMaxDevices → QmButton} {mac0 mac1 : UnsignedInt}
    (h : ∀ j, (slots j).device.mac ≠ (mac0, mac1)) :
    ∃ e, macToIdx slots mac0 mac1 = .error e := by
  cases hidx : macToIdx slots mac0 mac1 with
  | error e => exact ⟨e, rfl⟩
  | ok idx => exact absurd (macToIdx_ok hidx).1 (h idx)

namespace QmButton

def Vacant (b : QmButton) : Prop := b.btnState = .slotEmptyDisabled

theorem vacant_settle {b : QmButton} {target : QmButtonState} {force : Bool}
    (ht : target ≠ .slotEmptyDisabled) : ¬ (b.settle target force).Vacant := by
  unfold settle Vacant
  split
  · next h => simp [h.1]
  · exact ht

theorem vacant_btOff (b : QmButton) : b.btOff.Vacant ↔ b.Vacant := by
  unfold btOff Vacant
  split
  · exact Iff.rfl
  · next h => simp [h]

theorem vacant_fail {b : QmButton} {error : Int} : ¬ (b.fail error).Vacant := by
  unfold fail Vacant
  split
  · next h => simp [h]
  · simp

theorem shownAs_ne_empty (s : VqmbtInferredDevState) : s.shownAs ≠ .slotEmptyDisabled := by
  cases s <;> simp [VqmbtInferredDevState.shownAs]

theorem vacant_btOn (b : QmButton) : b.btOn.Vacant ↔ b.Vacant := by
  unfold btOn
  split
  · exact Iff.rfl
  · next h => exact iff_of_false (vacant_settle (shownAs_ne_empty _)) h

theorem vacant_pressOutcome {b : QmButton} {call : KvqmbtCall} {ret : Int} :
    ¬ (b.pressOutcome call ret).Vacant := by
  unfold pressOutcome
  split
  · exact vacant_fail
  · split <;> exact vacant_settle (by decide)

theorem pressCall_vacant {b : QmButton} (h : b.Vacant) : b.pressCall = none := by
  unfold pressCall
  rw [show b.btnState = .slotEmptyDisabled from h]

theorem vacant_press (kernel : KvqmbtCall → Int) (b : QmButton) :
    (b.press kernel).Vacant ↔ b.Vacant := by
  unfold press
  cases hc : b.pressCall with
  | none => exact Iff.rfl
  | some call =>
      refine iff_of_false vacant_pressOutcome ?_
      intro hv
      rw [pressCall_vacant hv] at hc
      cases hc

theorem vacant_assign {b : QmButton} {newDevice : VqmbtDeviceInfo}
    (h : (b.assign newDevice).Vacant) : newDevice.mac = b.device.mac ∧ b.Vacant := by
  unfold assign at h
  split at h
  · next hmac => exact ⟨hmac, h⟩
  · cases h

@[simp] theorem fail_device (b : QmButton) (error : Int) : (b.fail error).device = b.device := by
  unfold fail; split <;> rfl

@[simp] theorem press_device (kernel : KvqmbtCall → Int) (b : QmButton) :
    (b.press kernel).device = b.device := by
  unfold press
  split
  · rfl
  · unfold pressOutcome
    split
    · simp
    · split <;> simp

@[simp] theorem btOn_device (b : QmButton) : b.btOn.device = b.device := by
  unfold btOn; split <;> simp

@[simp] theorem settle_idem (b : QmButton) (target : QmButtonState) :
    (b.settle target true).btnState = target := by
  simp [settle]

end QmButton

def EmptyZeroed (slots : Fin vqmbtMaxDevices → QmButton) : Prop :=
  ∀ idx, (slots idx).Vacant → (slots idx).device = .zeroed

theorem macToIdx_occupied {slots : Fin vqmbtMaxDevices → QmButton} (h : EmptyZeroed slots)
    {mac0 mac1 : UnsignedInt} {idx : Fin vqmbtMaxDevices}
    (hok : macToIdx slots mac0 mac1 = .ok idx) : ¬ (slots idx).Vacant := by
  intro hv
  obtain ⟨hmac, h0, _⟩ := macToIdx_ok hok
  rw [h idx hv] at hmac
  exact h0 (Prod.mk.inj hmac).1.symm

theorem eventEffect_device (slots : Fin vqmbtMaxDevices → QmButton) (mac0 mac1 : UnsignedInt)
    (target : QmButtonState) (idx : Fin vqmbtMaxDevices) (b : QmButton) :
    (eventEffect slots mac0 mac1 target idx b).device = b.device := by
  unfold eventEffect
  split
  · rfl
  · split <;> simp

theorem eventEffect_vacant {slots : Fin vqmbtMaxDevices → QmButton} (h : EmptyZeroed slots)
    {mac0 mac1 : UnsignedInt} {target : QmButtonState} (ht : target ≠ .slotEmptyDisabled)
    (idx : Fin vqmbtMaxDevices) :
    (eventEffect slots mac0 mac1 target idx (slots idx)).Vacant ↔ (slots idx).Vacant := by
  unfold eventEffect
  split
  · exact Iff.rfl
  · next found hok =>
      split
      · next heq =>
          subst heq
          exact iff_of_false (QmButton.vacant_settle ht) (macToIdx_occupied h hok)
      · exact Iff.rfl

def IsBulk : QmsRequest → Prop
  | .bulkUpdate _ => True
  | _ => False

theorem requestEffect_frame {slots : Fin vqmbtMaxDevices → QmButton} (h : EmptyZeroed slots)
    (kernel : KvqmbtCall → Int) {request : QmsRequest} (hr : ¬ IsBulk request)
    (idx : Fin vqmbtMaxDevices) :
    (requestEffect kernel slots request idx (slots idx)).device = (slots idx).device ∧
      ((requestEffect kernel slots request idx (slots idx)).Vacant ↔ (slots idx).Vacant) := by
  cases request with
  | bulkUpdate bulk => exact absurd trivial hr
  | buttonPressed pressed =>
      simp only [requestEffect]
      split
      · exact ⟨by simp, QmButton.vacant_press kernel _⟩
      · exact ⟨rfl, Iff.rfl⟩
  | bluetoothOn => exact ⟨by simp [requestEffect], QmButton.vacant_btOn _⟩
  | bluetoothOff => exact ⟨by simp [requestEffect], QmButton.vacant_btOff _⟩
  | deviceDisconnected mac0 mac1 =>
      exact ⟨eventEffect_device .., eventEffect_vacant h (by decide) idx⟩
  | deviceConnected mac0 mac1 =>
      exact ⟨eventEffect_device .., eventEffect_vacant h (by decide) idx⟩

def QmsBulk.Lists (bulk : QmsBulk) (idx : Fin vqmbtMaxDevices) : Prop :=
  (idx : Int) < bulk.numDevices

instance (bulk : QmsBulk) (idx : Fin vqmbtMaxDevices) : Decidable (bulk.Lists idx) :=
  inferInstanceAs (Decidable ((idx : Int) < bulk.numDevices))

namespace QmButton

theorem bulk_unlisted {request : QmsBulk} {idx : Fin vqmbtMaxDevices}
    (h : ¬ request.Lists idx) (b : QmButton) : b.bulk request idx = b.empty := by
  simp only [bulk]
  rw [if_pos (Int.not_lt.mp h)]

theorem bulk_off {request : QmsBulk} {idx : Fin vqmbtMaxDevices} (h : request.Lists idx)
    (hoff : request.bluetoothOn = false) (b : QmButton) :
    b.bulk request idx = (b.assign (request.devices idx)).btOff := by
  simp only [bulk]
  rw [if_neg (Int.not_le.mpr h), if_pos hoff]

theorem bulk_on {request : QmsBulk} {idx : Fin vqmbtMaxDevices} (h : request.Lists idx)
    (hon : request.bluetoothOn = true) (b : QmButton) :
    b.bulk request idx =
      (b.assign (request.devices idx)).settle (request.devices idx).state.shownAs true := by
  simp only [bulk]
  rw [if_neg (Int.not_le.mpr h), if_neg (by simp [hon])]

theorem vacant_empty (b : QmButton) : b.empty.Vacant := by
  unfold empty Vacant
  split
  · next h => exact h
  · rfl

theorem bulk_mac {request : QmsBulk} {idx : Fin vqmbtMaxDevices} (h : request.Lists idx)
    (b : QmButton) : (b.bulk request idx).device.mac = (request.devices idx).mac := by
  cases hb : request.bluetoothOn with
  | false => rw [bulk_off h hb, btOff_device, assign_mac]
  | true => rw [bulk_on h hb, settle_device, assign_mac]

theorem bulk_emptyZeroed {request : QmsBulk} {idx : Fin vqmbtMaxDevices} {b : QmButton}
    (hb : b.Vacant → b.device = .zeroed) (hv : (b.bulk request idx).Vacant) :
    (b.bulk request idx).device = .zeroed := by
  by_cases h : request.Lists idx
  · cases hon : request.bluetoothOn with
    | false =>
        rw [bulk_off h hon] at hv ⊢
        obtain ⟨hmac, hvacant⟩ := vacant_assign ((vacant_btOff _).mp hv)
        rw [btOff_device, assign, if_pos hmac]
        exact hb hvacant
    | true =>
        rw [bulk_on h hon] at hv
        exact absurd hv (vacant_settle (shownAs_ne_empty _))
  · rw [bulk_unlisted h]
    unfold empty
    split
    · next hvacant => exact hb hvacant
    · rfl

end QmButton

theorem emptyZeroed_step (kernel : KvqmbtCall → Int) {m : QmModule} (request : QmsRequest)
    (h : EmptyZeroed m.qmState.buttons) :
    EmptyZeroed (qmStateUpdateUi kernel m request).1.qmState.buttons := by
  intro idx
  rw [qmStateUpdateUi_buttons]
  by_cases hr : IsBulk request
  · cases request with
    | bulkUpdate bulk => exact QmButton.bulk_emptyZeroed (h idx)
    | _ => exact absurd hr id
  · obtain ⟨hdevice, hvacant⟩ := requestEffect_frame h kernel hr idx
    rw [hdevice, hvacant]
    exact h idx

theorem emptyZeroed_after (past : List Handling) :
    EmptyZeroed (quickMenu.after past).qmState.buttons := by
  refine quickMenu.after_invariant (I := fun m => EmptyZeroed m.qmState.buttons)
    (P := fun _ => True) (fun _ _ => rfl) ?_ past (fun _ _ => trivial)
  intro m a _ h
  exact emptyZeroed_step a.kernel a.request h

theorem after_buttons (a : Handling) (past : List Handling) (idx : Fin vqmbtMaxDevices) :
    (quickMenu.after (a :: past)).qmState.buttons idx =
      requestEffect a.kernel (quickMenu.after past).qmState.buttons a.request idx
        ((quickMenu.after past).qmState.buttons idx) :=
  qmStateUpdateUi_buttons a.kernel _ a.request idx

theorem reply_calls (a : Handling) (past : List Handling) :
    (quickMenu.reply past a).calls =
      requestCalls (quickMenu.after past).qmState.buttons a.request :=
  qmStateUpdateUi_calls a.kernel _ a.request

theorem press_reply {a : Handling} {past : List Handling} {idx : Fin vqmbtMaxDevices}
    (hreq : a.request = .buttonPressed idx) :
    (quickMenu.reply past a).calls =
      ((quickMenu.after past).qmState.buttons idx).pressCall.toList := by
  rw [reply_calls, hreq]
  rfl

theorem after_frame (past later : List Handling) (hl : ∀ a ∈ later, ¬ IsBulk a.request)
    (idx : Fin vqmbtMaxDevices) :
    ((quickMenu.after (later ++ past)).qmState.buttons idx).device =
        ((quickMenu.after past).qmState.buttons idx).device ∧
      (((quickMenu.after (later ++ past)).qmState.buttons idx).Vacant ↔
        ((quickMenu.after past).qmState.buttons idx).Vacant) := by
  induction later with
  | nil => exact ⟨rfl, Iff.rfl⟩
  | cons a later ih =>
      obtain ⟨hdevice, hvacant⟩ := ih (fun b hb => hl b (List.mem_cons_of_mem _ hb))
      obtain ⟨hd, hv⟩ := requestEffect_frame (emptyZeroed_after (later ++ past)) a.kernel
        (hl a (List.mem_cons_self ..)) idx
      rw [List.cons_append, after_buttons]
      exact ⟨hd.trans hdevice, hv.trans hvacant⟩

def QmsBulk.Addressed (bulk : QmsBulk) : Prop :=
  ∀ idx, bulk.Lists idx → (bulk.devices idx).mac ≠ (0, 0)

def QmsBulk.Distinct (bulk : QmsBulk) : Prop :=
  ∀ i j, bulk.Lists i → bulk.Lists j → (bulk.devices i).mac = (bulk.devices j).mac → i = j

theorem QmButton.vacant_bulk {request : QmsBulk} (hr : request.Addressed)
    (idx : Fin vqmbtMaxDevices) {b : QmButton} (hb : b.Vacant → b.device = .zeroed) :
    (b.bulk request idx).Vacant ↔ ¬ request.Lists idx := by
  constructor
  · intro hv h
    cases hon : request.bluetoothOn with
    | false =>
        rw [bulk_off h hon, vacant_btOff] at hv
        obtain ⟨hmac, hvacant⟩ := vacant_assign hv
        exact hr idx h (by rw [hmac, hb hvacant]; rfl)
    | true =>
        rw [bulk_on h hon] at hv
        exact vacant_settle (shownAs_ne_empty _) hv
  · intro h
    rw [bulk_unlisted h]
    exact vacant_empty b

def AllBulks (P : QmsBulk → Prop) (past : List Handling) : Prop :=
  ∀ a ∈ past, ∀ bulk, a.request = .bulkUpdate bulk → P bulk

theorem AllBulks.tail {P : QmsBulk → Prop} {a : Handling} {past : List Handling}
    (h : AllBulks P (a :: past)) : AllBulks P past :=
  fun b hb => h b (List.mem_cons_of_mem _ hb)

theorem AllBulks.head {P : QmsBulk → Prop} {a : Handling} {past : List Handling}
    (h : AllBulks P (a :: past)) {bulk : QmsBulk} (hreq : a.request = .bulkUpdate bulk) :
    P bulk :=
  h a (List.mem_cons_self ..) bulk hreq

theorem AllBulks.singleton {P : QmsBulk → Prop} {bulk : QmsBulk} {kernel : KvqmbtCall → Int}
    (h : P bulk) : AllBulks P [⟨.bulkUpdate bulk, kernel⟩] := by
  intro a ha listed hreq
  obtain rfl := List.mem_singleton.mp ha
  obtain rfl := QmsRequest.bulkUpdate.inj hreq
  exact h

theorem isBulk_iff (request : QmsRequest) :
    IsBulk request ↔ ∃ bulk, request = .bulkUpdate bulk := by
  cases request <;> simp [IsBulk]

theorem occupied_prefix (past : List Handling) (h : AllBulks QmsBulk.Addressed past) :
    ∃ n : Int, ∀ idx : Fin vqmbtMaxDevices,
      ((quickMenu.after past).qmState.buttons idx).Vacant ↔ ¬ (idx : Int) < n := by
  induction past with
  | nil =>
      refine ⟨0, fun idx => iff_of_true rfl ?_⟩
      omega
  | cons a past ih =>
      by_cases hr : IsBulk a.request
      · obtain ⟨bulk, hreq⟩ := (isBulk_iff _).mp hr
        refine ⟨bulk.numDevices, fun idx => ?_⟩
        rw [after_buttons, hreq]
        exact QmButton.vacant_bulk (h.head hreq) idx (emptyZeroed_after past idx)
      · obtain ⟨n, hn⟩ := ih h.tail
        refine ⟨n, fun idx => ?_⟩
        rw [after_buttons]
        exact (requestEffect_frame (emptyZeroed_after past) a.kernel hr idx).2.trans (hn idx)

theorem last_bulk_slots (past later : List Handling) {a : Handling} {bulk : QmsBulk}
    (ha : a.request = .bulkUpdate bulk) (haddr : bulk.Addressed)
    (hl : ∀ b ∈ later, ¬ IsBulk b.request) (idx : Fin vqmbtMaxDevices) :
    (bulk.Lists idx →
        ((quickMenu.after (later ++ a :: past)).qmState.buttons idx).device.mac =
            (bulk.devices idx).mac ∧
          ¬ ((quickMenu.after (later ++ a :: past)).qmState.buttons idx).Vacant) ∧
      (¬ bulk.Lists idx →
        ((quickMenu.after (later ++ a :: past)).qmState.buttons idx).Vacant) := by
  obtain ⟨hdevice, hvacant⟩ := after_frame (a :: past) later hl idx
  rw [hdevice, hvacant, after_buttons, ha]
  have hslot := QmButton.vacant_bulk haddr idx (emptyZeroed_after past idx)
  refine ⟨fun h => ⟨QmButton.bulk_mac h _, ?_⟩, hslot.mpr⟩
  exact fun hv => hslot.mp hv h

def QmsBulk.single (bluetoothOn : Bool) (mac0 mac1 : UnsignedInt)
    (state : VqmbtInferredDevState) : QmsBulk where
  bluetoothOn := bluetoothOn
  numDevices := 1
  devices := fun _ => ⟨Vector.replicate _ 0, mac0, mac1, state⟩

theorem QmsBulk.single_lists {bluetoothOn : Bool} {mac0 mac1 : UnsignedInt}
    {state : VqmbtInferredDevState} {idx : Fin vqmbtMaxDevices}
    (h : (single bluetoothOn mac0 mac1 state).Lists idx) : idx = 0 := by
  simp only [Lists, single] at h
  apply Fin.ext
  simp only [Fin.val_zero]
  omega

theorem QmsBulk.single_addressed (bluetoothOn : Bool) {mac0 mac1 : UnsignedInt}
    (state : VqmbtInferredDevState) (h : (mac0, mac1) ≠ (0, 0)) :
    (single bluetoothOn mac0 mac1 state).Addressed := fun _ _ => h

theorem QmsBulk.single_distinct (bluetoothOn : Bool) (mac0 mac1 : UnsignedInt)
    (state : VqmbtInferredDevState) : (single bluetoothOn mac0 mac1 state).Distinct := by
  intro i j hi hj _
  rw [single_lists hi, single_lists hj]

end VitaQmBluetooth
