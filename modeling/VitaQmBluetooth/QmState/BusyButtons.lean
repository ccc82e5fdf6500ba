import VitaQmBluetooth.QmState.BluetoothToggle
import VitaQmBluetooth.QmState.DeviceEvents

namespace VitaQmBluetooth

open Foundation

inductive DeviceNews where
  | reported (state : VqmbtInferredDevState)
  | called (call : KvqmbtCall) (ret : Int)
  | resolved (event : DeviceEvent)
  deriving DecidableEq

def DeviceNews.Justifies : DeviceNews → QmButtonState → Prop
  | .reported .connecting, .connectingDisabled => True
  | .reported .disconnecting, .disconnectingDisabled => True
  | .called (.connectDevice _ _) ret, .connectingDisabled => 0 ≤ ret
  | .called (.disconnectDevice _ _) ret, .disconnectingDisabled => 0 ≤ ret
  | _, _ => False

def newsOf (mac : UnsignedInt × UnsignedInt) (m : QmModule) (a : Handling) : Option DeviceNews :=
  match a.request with
  | .bulkUpdate bulk =>
      ((List.finRange vqmbtMaxDevices).find? (fun idx =>
        bulk.Lists idx ∧ (bulk.devices idx).mac = mac)).map
          (fun idx => .reported (bulk.devices idx).state)
  | .buttonPressed idx =>
      if (m.qmState.buttons idx).device.mac = mac then
        (quickMenu.step m a).2.calls.head?.map (fun call => .called call (a.kernel call))
      else none
  | .deviceDisconnected mac0 mac1 =>
      if (mac0, mac1) = mac then some (.resolved .disconnected) else none
  | .deviceConnected mac0 mac1 =>
      if (mac0, mac1) = mac then some (.resolved .connected) else none
  | .bluetoothOn | .bluetoothOff => none

def Busy (s : QmButtonState) : Prop := s = .connectingDisabled ∨ s = .disconnectingDisabled

def JustifiedAs (past : List Handling) (idx : Fin vqmbtMaxDevices) (s : QmButtonState) : Prop :=
  ∃ news, quickMenu.latest (newsOf ((quickMenu.after past).qmState.buttons idx).device.mac) past =
    some news ∧ news.Justifies s

def BusyJustified (past : List Handling) : Prop :=
  ∀ idx, Busy ((quickMenu.after past).qmState.buttons idx).btnState →
    JustifiedAs past idx ((quickMenu.after past).qmState.buttons idx).btnState

def NoStaleRecord (past : List Handling) : Prop :=
  ∀ idx, ¬ ((quickMenu.after past).qmState.buttons idx).Vacant →
    Busy ((quickMenu.after past).qmState.buttons idx).device.state.shownAs →
      JustifiedAs past idx ((quickMenu.after past).qmState.buttons idx).device.state.shownAs

structure QmsBulk.Genuine (bulk : QmsBulk) : Prop where
  halves : ∀ idx, bulk.Lists idx → (bulk.devices idx).mac0 ≠ 0 ∧ (bulk.devices idx).mac1 ≠ 0
  distinct : bulk.Distinct

theorem QmsBulk.Genuine.addressed {bulk : QmsBulk} (h : bulk.Genuine) : bulk.Addressed :=
  fun idx hidx hzero => (h.halves idx hidx).1 (Prod.mk.inj hzero).1

structure SlotsGenuine (slots : Fin vqmbtMaxDevices → QmButton) : Prop where
  halves : ∀ idx, ¬ (slots idx).Vacant →
    (slots idx).device.mac0 ≠ 0 ∧ (slots idx).device.mac1 ≠ 0
  distinct : ∀ i j, ¬ (slots i).Vacant → ¬ (slots j).Vacant →
    (slots i).device.mac = (slots j).device.mac → i = j

theorem slotsGenuine_after (past : List Handling) (h : AllBulks QmsBulk.Genuine past) :
    SlotsGenuine (quickMenu.after past).qmState.buttons := by
  induction past with
  | nil => exact ⟨fun _ hv => absurd rfl hv, fun _ _ hv => absurd rfl hv⟩
  | cons a past ih =>
      by_cases hr : IsBulk a.request
      · obtain ⟨bulk, hreq⟩ := (isBulk_iff _).mp hr
        have hbulk := h.head hreq
        have hslots (idx : Fin vqmbtMaxDevices) :=
          last_bulk_slots past [] hreq hbulk.addressed (by simp) idx
        have hlists {idx : Fin vqmbtMaxDevices}
            (hv : ¬ ((quickMenu.after (a :: past)).qmState.buttons idx).Vacant) :
            bulk.Lists idx := by
          by_contra hn
          exact hv ((hslots idx).2 hn)
        constructor
        · intro idx hv
          have hmac := ((hslots idx).1 (hlists hv)).1
          have hhalves := hbulk.halves idx (hlists hv)
          simp only [VqmbtDeviceInfo.mac, Prod.mk.injEq, List.nil_append] at hmac
          rwa [hmac.1, hmac.2]
        · intro i j hi hj hmac
          have hi' := ((hslots i).1 (hlists hi)).1
          have hj' := ((hslots j).1 (hlists hj)).1
          exact hbulk.distinct i j (hlists hi) (hlists hj) (hi'.symm.trans (hmac.trans hj'))
      · have hframe (idx : Fin vqmbtMaxDevices) :=
          after_frame past [a] (by simpa using hr) idx
        simp only [List.singleton_append] at hframe
        constructor
        · intro idx hv
          rw [(hframe idx).1]
          exact (ih h.tail).halves idx (fun hp => hv ((hframe idx).2.mpr hp))
        · intro i j hi hj hmac
          rw [(hframe i).1, (hframe j).1] at hmac
          exact (ih h.tail).distinct i j (fun hp => hi ((hframe i).2.mpr hp))
            (fun hp => hj ((hframe j).2.mpr hp)) hmac

theorem busy_not_vacant {b : QmButton} (h : Busy b.btnState) : ¬ b.Vacant := by
  intro hv
  rcases h with h | h <;> rw [show b.btnState = .slotEmptyDisabled from hv] at h <;> cases h

theorem off_not_busy {b : QmButton} (h : b.Off) : ¬ Busy b.btnState := by
  rintro (hb | hb) <;> rcases h with h | h <;> rw [h] at hb <;> cases hb

theorem shownAs_justified {s : VqmbtInferredDevState} (h : Busy s.shownAs) :
    (DeviceNews.reported s).Justifies s.shownAs := by
  cases s <;> simp [Busy, VqmbtInferredDevState.shownAs] at h <;> exact trivial

theorem shownAs_busy_forces {s : VqmbtInferredDevState} (h : Busy s.shownAs) :
    s.btOnForces = true := by
  cases s <;> simp [Busy, VqmbtInferredDevState.shownAs] at h <;> rfl

theorem find_listed {bulk : QmsBulk} (hd : bulk.Distinct) {idx : Fin vqmbtMaxDevices}
    (h : bulk.Lists idx) :
    (List.finRange vqmbtMaxDevices).find? (fun j =>
      bulk.Lists j ∧ (bulk.devices j).mac = (bulk.devices idx).mac) = some idx := by
  cases hfind : (List.finRange vqmbtMaxDevices).find? (fun j =>
      bulk.Lists j ∧ (bulk.devices j).mac = (bulk.devices idx).mac) with
  | none =>
      have hnone := List.find?_eq_none.mp hfind idx (List.mem_finRange idx)
      exact absurd hnone (by simp [h])
  | some j =>
      have hj := List.find?_some hfind
      simp only [decide_eq_true_eq] at hj
      rw [hd j idx hj.1 h hj.2]

theorem quiet_slot {a : Handling} {past : List Handling} {idx : Fin vqmbtMaxDevices}
    {s : QmButtonState}
    (hdevice : ((quickMenu.after (a :: past)).qmState.buttons idx).device =
      ((quickMenu.after past).qmState.buttons idx).device)
    (hnews : newsOf ((quickMenu.after past).qmState.buttons idx).device.mac
      (quickMenu.after past) a = none)
    (h : JustifiedAs past idx s) : JustifiedAs (a :: past) idx s := by
  obtain ⟨news, hlatest, hj⟩ := h
  refine ⟨news, ?_, hj⟩
  rw [hdevice, quickMenu.latest_cons_none hnews]
  exact hlatest

theorem bulk_justified {a : Handling} {past : List Handling} {bulk : QmsBulk}
    (hreq : a.request = .bulkUpdate bulk) (hbulk : bulk.Genuine) :
    BusyJustified (a :: past) := by
  intro idx hbusy
  rw [after_buttons, hreq] at hbusy ⊢
  simp only [requestEffect] at hbusy ⊢
  have hlists : bulk.Lists idx := by
    by_contra hn
    rw [QmButton.bulk_unlisted hn] at hbusy
    exact busy_not_vacant hbusy (QmButton.vacant_empty _)
  have hon : bulk.bluetoothOn = true := by
    by_contra hoff
    exact off_not_busy (QmButton.off_bulk (Bool.eq_false_iff.mpr hoff) idx _) hbusy
  rw [QmButton.bulk_on hlists hon, QmButton.settle_idem] at hbusy ⊢
  refine ⟨.reported (bulk.devices idx).state, ?_, shownAs_justified hbusy⟩
  apply quickMenu.latest_cons_some
  rw [after_buttons, hreq]
  simp only [newsOf, hreq, requestEffect, QmButton.bulk_mac hlists,
    find_listed hbulk.distinct hlists, Option.map_some]

theorem pressCall_isSome {b : QmButton} {call : KvqmbtCall} (h : b.pressCall = some call) :
    (b.btnState = .disconnected ∧ call = .connectDevice b.device.mac0 b.device.mac1) ∨
      (b.btnState = .connected ∧ call = .disconnectDevice b.device.mac0 b.device.mac1) := by
  unfold QmButton.pressCall at h
  split at h
  · next hs => exact .inl ⟨hs, (Option.some.inj h).symm⟩
  · next hs => exact .inr ⟨hs, (Option.some.inj h).symm⟩
  · cases h

theorem pressOutcome_justified {b : QmButton} {call : KvqmbtCall} (h : b.pressCall = some call)
    {ret : Int} (hbusy : Busy (b.pressOutcome call ret).btnState) :
    (DeviceNews.called call ret).Justifies (b.pressOutcome call ret).btnState := by
  unfold QmButton.pressOutcome at hbusy ⊢
  split at hbusy
  · next hneg =>
      unfold QmButton.fail at hbusy
      rcases pressCall_isSome h with ⟨hs, _⟩ | ⟨hs, _⟩ <;> simp [hs, Busy] at hbusy
  · next hret =>
      rw [if_neg hret]
      rcases pressCall_isSome h with ⟨_, rfl⟩ | ⟨_, rfl⟩
      · rw [QmButton.settle_idem]; exact Int.not_lt.mp hret
      · rw [QmButton.settle_idem]; exact Int.not_lt.mp hret

theorem press_news {a : Handling} {past : List Handling} {pressed : Fin vqmbtMaxDevices}
    (hreq : a.request = .buttonPressed pressed) (mac : UnsignedInt × UnsignedInt) :
    newsOf mac (quickMenu.after past) a =
      if ((quickMenu.after past).qmState.buttons pressed).device.mac = mac then
        ((quickMenu.after past).qmState.buttons pressed).pressCall.map
          (fun call => .called call (a.kernel call))
      else none := by
  have hcalls : (quickMenu.step (quickMenu.after past) a).2.calls =
      ((quickMenu.after past).qmState.buttons pressed).pressCall.toList := press_reply hreq
  simp only [newsOf, hreq, hcalls, Option.head?_toList]

theorem press_justified {a : Handling} {past : List Handling} {pressed : Fin vqmbtMaxDevices}
    (hreq : a.request = .buttonPressed pressed)
    (hslots : SlotsGenuine (quickMenu.after past).qmState.buttons) (h : BusyJustified past) :
    BusyJustified (a :: past) := by
  intro idx hbusy
  have heffect := after_buttons a past idx
  rw [hreq] at heffect
  simp only [requestEffect] at heffect
  have hdevice : ((quickMenu.after (a :: past)).qmState.buttons idx).device =
      ((quickMenu.after past).qmState.buttons idx).device := by
    rw [heffect]
    split <;> simp
  by_cases heq : idx = pressed
  · subst heq
    rw [if_pos rfl] at heffect
    cases hcall : ((quickMenu.after past).qmState.buttons idx).pressCall with
    | none =>
        rw [QmButton.press, hcall] at heffect
        rw [heffect] at hbusy ⊢
        refine quiet_slot hdevice ?_ (h idx hbusy)
        rw [press_news hreq, hcall]
        simp
    | some call =>
        rw [QmButton.press, hcall] at heffect
        rw [heffect] at hbusy ⊢
        refine ⟨.called call (a.kernel call), ?_, pressOutcome_justified hcall hbusy⟩
        apply quickMenu.latest_cons_some
        rw [press_news hreq, hdevice, if_pos rfl, hcall]
        rfl
  · rw [if_neg heq] at heffect
    rw [heffect] at hbusy ⊢
    refine quiet_slot hdevice ?_ (h idx hbusy)
    rw [press_news hreq]
    split
    · next hmac =>
        cases hcall : ((quickMenu.after past).qmState.buttons pressed).pressCall with
        | none => rfl
        | some call =>
            have hoccupied : ¬ ((quickMenu.after past).qmState.buttons pressed).Vacant := by
              intro hv
              rw [QmButton.pressCall_vacant hv] at hcall
              cases hcall
            exact absurd (hslots.distinct idx pressed (busy_not_vacant hbusy) hoccupied hmac.symm)
              heq
    · rfl

theorem SlotsGenuine.macToIdx {slots : Fin vqmbtMaxDevices → QmButton}
    (hslots : SlotsGenuine slots) (hz : EmptyZeroed slots) {idx : Fin vqmbtMaxDevices}
    (hoccupied : ¬ (slots idx).Vacant) {mac0 mac1 : UnsignedInt}
    (hmac : (slots idx).device.mac = (mac0, mac1)) : macToIdx slots mac0 mac1 = .ok idx := by
  obtain ⟨h0, h1⟩ := hslots.halves idx hoccupied
  obtain ⟨hm0, hm1⟩ := Prod.mk.inj hmac
  rw [hm0] at h0
  rw [hm1] at h1
  refine macToIdx_eq_ok hmac h0 h1 fun j hj => ?_
  refine hslots.distinct j idx (fun hv => ?_) hoccupied (hj.trans hmac.symm)
  rw [hz j hv] at hj
  exact h0 (Prod.mk.inj hj).1.symm

theorem event_justified (event : DeviceEvent) {a : Handling} {past : List Handling}
    {mac0 mac1 : UnsignedInt} (hreq : a.request = event.request mac0 mac1)
    (hslots : SlotsGenuine (quickMenu.after past).qmState.buttons) (h : BusyJustified past) :
    BusyJustified (a :: past) := by
  intro idx hbusy
  have hz := emptyZeroed_after past
  have hidle : ¬ Busy event.target := by
    cases event <;> rintro (hb | hb) <;> cases hb
  have heffect := after_buttons a past idx
  rw [hreq, event.request_effect] at heffect
  have hdevice := congrArg QmButton.device heffect
  rw [eventEffect_device] at hdevice
  have hnews (hother : ((quickMenu.after past).qmState.buttons idx).device.mac ≠ (mac0, mac1)) :
      newsOf ((quickMenu.after past).qmState.buttons idx).device.mac (quickMenu.after past) a =
        none := by
    cases event <;> simp [newsOf, hreq, DeviceEvent.request, hother.symm]
  cases hidx : macToIdx (quickMenu.after past).qmState.buttons mac0 mac1 with
  | error e =>
      simp only [eventEffect, hidx] at heffect
      rw [heffect] at hbusy ⊢
      refine quiet_slot hdevice (hnews fun hmac => ?_) (h idx hbusy)
      rw [hslots.macToIdx hz (busy_not_vacant hbusy) hmac] at hidx
      cases hidx
  | ok found =>
      simp only [eventEffect, hidx] at heffect
      by_cases heq : idx = found
      · rw [if_pos heq] at heffect
        rw [heffect] at hbusy
        unfold QmButton.settle at hbusy
        split at hbusy
        · next hoff => exact absurd hbusy (off_not_busy (.inr hoff.1))
        · exact absurd hbusy hidle
      · rw [if_neg heq] at heffect
        rw [heffect] at hbusy ⊢
        refine quiet_slot hdevice (hnews fun hmac => heq ?_) (h idx hbusy)
        exact hslots.distinct idx found (busy_not_vacant hbusy) (macToIdx_occupied hz hidx)
          (hmac.trans (macToIdx_ok hidx).1.symm)

theorem btOn_shown {b : QmButton} (hv : ¬ b.Vacant)
    (hbusy : Busy b.btOn.btnState ∨ Busy b.device.state.shownAs) :
    b.btOn.btnState = b.device.state.shownAs := by
  have hoccupied : b.btnState ≠ .slotEmptyDisabled := hv
  simp only [QmButton.btOn, if_neg hoccupied, QmButton.settle] at hbusy ⊢
  split
  · next hoff =>
      rw [if_pos hoff] at hbusy
      rcases hbusy with hbusy | hbusy
      · exact absurd hbusy (off_not_busy (.inr hoff.1))
      · rw [shownAs_busy_forces hbusy] at hoff
        cases hoff.2
  · rfl

theorem btOn_justified {a : Handling} {past : List Handling} (hreq : a.request = .bluetoothOn)
    (h : NoStaleRecord past) : BusyJustified (a :: past) := by
  intro idx hbusy
  have heffect := after_buttons a past idx
  rw [hreq] at heffect
  simp only [requestEffect] at heffect
  rw [heffect] at hbusy ⊢
  have hv : ¬ ((quickMenu.after past).qmState.buttons idx).Vacant :=
    fun hv => busy_not_vacant hbusy ((QmButton.vacant_btOn _).mpr hv)
  have hshown := btOn_shown hv (.inl hbusy)
  rw [hshown] at hbusy ⊢
  exact quiet_slot (by rw [heffect]; simp) (by simp [newsOf, hreq]) (h idx hv hbusy)

theorem btOn_stale {a : Handling} {past : List Handling} (hreq : a.request = .bluetoothOn)
    (h : BusyJustified (a :: past)) : NoStaleRecord past := by
  intro idx hv hbusy
  have heffect := after_buttons a past idx
  rw [hreq] at heffect
  simp only [requestEffect] at heffect
  have hj := h idx
  rw [heffect, btOn_shown hv (.inr hbusy)] at hj
  obtain ⟨news, hlatest, hjust⟩ := hj hbusy
  refine ⟨news, ?_, hjust⟩
  rw [← hlatest, heffect, QmButton.btOn_device]
  exact (quickMenu.latest_cons_none (by simp [newsOf, hreq])).symm

theorem busyJustified_step {a : Handling} {past : List Handling}
    (hbulks : AllBulks QmsBulk.Genuine (a :: past)) (h : BusyJustified past)
    (hfresh : a.request = .bluetoothOn → NoStaleRecord past) : BusyJustified (a :: past) := by
  have hslots := slotsGenuine_after past hbulks.tail
  cases hreq : a.request with
  | bulkUpdate bulk => exact bulk_justified hreq (hbulks.head hreq)
  | buttonPressed pressed => exact press_justified hreq hslots h
  | bluetoothOn => exact btOn_justified hreq (hfresh hreq)
  | bluetoothOff =>
      intro idx hbusy
      exact absurd hbusy (off_not_busy (turnsOff_step a past (by rw [hreq]; trivial) idx))
  | deviceDisconnected mac0 mac1 => exact event_justified .disconnected hreq hslots h
  | deviceConnected mac0 mac1 => exact event_justified .connected hreq hslots h

theorem busy_justified_iff (past : List Handling) (hbulks : AllBulks QmsBulk.Genuine past) :
    (∀ point, point <:+ past → BusyJustified point) ↔
      ∀ a point, a :: point <:+ past → a.request = .bluetoothOn → NoStaleRecord point := by
  constructor
  · intro h a point hpoint hreq
    exact btOn_stale hreq (h _ hpoint)
  · intro h point
    induction point with
    | nil =>
        intro _ idx hbusy
        exact absurd rfl (busy_not_vacant hbusy)
    | cons a point ih =>
        intro hpoint
        have htail : point <:+ past := (List.suffix_cons a point).trans hpoint
        have hpast : AllBulks QmsBulk.Genuine (a :: point) :=
          fun b hb => hbulks b (hpoint.subset hb)
        exact busyJustified_step hpast (ih htail) (h a point hpoint)

theorem QmsBulk.single_genuine (bluetoothOn : Bool) {mac0 mac1 : UnsignedInt}
    (state : VqmbtInferredDevState) (h0 : mac0 ≠ 0) (h1 : mac1 ≠ 0) :
    (single bluetoothOn mac0 mac1 state).Genuine :=
  ⟨fun _ _ => ⟨h0, h1⟩, single_distinct _ _ _ _⟩

def toggledWhileConnecting : List Handling :=
  [⟨.bluetoothOn, fun _ => 0⟩, ⟨.bluetoothOff, fun _ => 0⟩,
    ⟨.bulkUpdate (.single true 1 1 .connecting), fun _ => 0⟩]

theorem busy_justified_toggled :
    ((quickMenu.after toggledWhileConnecting).qmState.buttons 0).btnState = .connectingDisabled ∧
      BusyJustified toggledWhileConnecting := by
  have hbulks : AllBulks QmsBulk.Genuine toggledWhileConnecting := by
    intro a ha bulk hreq
    simp only [toggledWhileConnecting, List.mem_cons, List.not_mem_nil, or_false] at ha
    rcases ha with rfl | rfl | rfl
    · cases hreq
    · cases hreq
    · obtain rfl := QmsRequest.bulkUpdate.inj hreq
      exact QmsBulk.single_genuine _ _ (by decide) (by decide)
  refine ⟨by decide +kernel,
    (busy_justified_iff _ hbulks).mpr (fun a point hpoint hreq => ?_) _ (List.suffix_refl _)⟩
  obtain ⟨-, hpast⟩ | hpast | hpast | hpast : _ ∧ _ ∨ _ := by
    simpa only [toggledWhileConnecting, List.suffix_cons_iff, List.suffix_nil, List.cons.injEq]
      using hpoint
  · subst hpast
    intro idx hoccupied _
    have honly : ∀ idx, ((quickMenu.after toggledWhileConnecting.tail).qmState.buttons
        idx).btnState ≠ .slotEmptyDisabled → idx = 0 := by decide +kernel
    obtain rfl := honly idx hoccupied
    exact ⟨.reported .connecting, by decide +kernel, trivial⟩
  · rw [hpast.1] at hreq
    cases hreq
  · rw [hpast.1] at hreq
    cases hreq
  · cases hpast

def toggledAfterConnect : List Handling :=
  [⟨.bluetoothOn, fun _ => 0⟩, ⟨.bluetoothOff, fun _ => 0⟩, ⟨.deviceConnected 1 1, fun _ => 0⟩,
    ⟨.bulkUpdate (.single true 1 1 .connecting), fun _ => 0⟩]

theorem toggle_unjustified :
    ¬ ∀ past, AllBulks QmsBulk.Genuine past → ∀ point, point <:+ past → BusyJustified point := by
  intro hall
  have hbulks : AllBulks QmsBulk.Genuine toggledAfterConnect := by
    intro a ha bulk hreq
    simp only [toggledAfterConnect, List.mem_cons, List.not_mem_nil, or_false] at ha
    rcases ha with rfl | rfl | rfl | rfl
    · cases hreq
    · cases hreq
    · cases hreq
    · obtain rfl := QmsRequest.bulkUpdate.inj hreq
      exact QmsBulk.single_genuine _ _ (by decide) (by decide)
  have hbusy : Busy ((quickMenu.after toggledAfterConnect).qmState.buttons 0).btnState :=
    .inl (by decide +kernel)
  obtain ⟨news, hlatest, hj⟩ := hall _ hbulks _ (List.suffix_refl _) 0 hbusy
  have hresolved : quickMenu.latest (newsOf
      ((quickMenu.after toggledAfterConnect).qmState.buttons 0).device.mac) toggledAfterConnect =
        some (.resolved .connected) := by decide +kernel
  obtain rfl := Option.some.inj (hresolved.symm.trans hlatest)
  exact hj

end VitaQmBluetooth
