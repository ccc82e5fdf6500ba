import VitaQmBluetooth.Quickmenu.EventThread

namespace VitaQmBluetooth

open Foundation

variable {paired : PairedList}

structure SlotsShow (slots : Fin vqmbtMaxDevices → QmButton) (shown : Fin paired.count → Bool) :
    Prop where
  mac : ∀ idx, (slots (paired.slot idx)).device.mac = paired.mac idx
  state : ∀ idx, (slots (paired.slot idx)).btnState = connectedAs (shown idx)
  unlisted : ∀ slot, paired.count ≤ slot.val →
    (slots slot).Vacant ∧ (slots slot).device = .zeroed

theorem connectedAs_ne_btOff (connected : Bool) : connectedAs connected ≠ .btOffDisabled := by
  cases connected <;> decide

theorem SlotsShow.macToIdx {slots : Fin vqmbtMaxDevices → QmButton}
    {shown : Fin paired.count → Bool} (h : SlotsShow slots shown) (idx : Fin paired.count) :
    macToIdx slots (paired.mac idx).1 (paired.mac idx).2 = .ok (paired.slot idx) := by
  obtain ⟨h0, h1⟩ := paired.halves idx
  refine macToIdx_eq_ok (h.mac idx) h0 h1 fun slot hslot => ?_
  by_cases hlisted : slot.val < paired.count
  · have hmac := h.mac ⟨slot.val, hlisted⟩
    have hsame : paired.slot ⟨slot.val, hlisted⟩ = slot := rfl
    rw [hsame, hslot] at hmac
    rw [← hsame, paired.distinct _ _ hmac]
  · rw [(h.unlisted slot (Nat.le_of_not_lt hlisted)).2] at hslot
    exact absurd (Prod.mk.inj hslot).1.symm h0

theorem SlotsShow.event {m : QmModule} {shown : Fin paired.count → Bool}
    (h : SlotsShow m.qmState.buttons shown) (changed : Fin paired.count) (connected : Bool)
    (request : QmsRequest)
    (hrequest : ∀ slots idx b, requestEffect (fun _ => 0) slots request idx b =
      eventEffect slots (paired.mac changed).1 (paired.mac changed).2 (connectedAs connected)
        idx b) :
    SlotsShow (qmStateUpdateUi (fun _ => 0) m request).1.qmState.buttons
      (Function.update shown changed connected) := by
  have heffect (slot : Fin vqmbtMaxDevices) :
      (qmStateUpdateUi (fun _ => 0) m request).1.qmState.buttons slot =
        if slot = paired.slot changed then
          (m.qmState.buttons slot).settle (connectedAs connected) false
        else m.qmState.buttons slot := by
    rw [qmStateUpdateUi_buttons, hrequest]
    simp only [eventEffect, h.macToIdx changed]
  have hdevice (slot : Fin vqmbtMaxDevices) :
      ((qmStateUpdateUi (fun _ => 0) m request).1.qmState.buttons slot).device =
        (m.qmState.buttons slot).device := by
    rw [heffect]
    split <;> simp
  refine ⟨fun idx => ?_, fun idx => ?_, fun slot hslot => ?_⟩
  · rw [hdevice]
    exact h.mac idx
  · rw [heffect]
    by_cases hidx : idx = changed
    · subst hidx
      simp [QmButton.settle, h.state idx, connectedAs_ne_btOff]
    · have hslot : paired.slot idx ≠ paired.slot changed :=
        fun heq => hidx (Fin.castLE_injective paired.count_le heq)
      rw [if_neg hslot, Function.update_of_ne hidx _ _]
      exact h.state idx
  · have hother : slot ≠ paired.slot changed := by
      rintro rfl
      exact absurd changed.isLt (Nat.not_lt_of_le hslot)
    rw [heffect, if_neg hother]
    exact h.unlisted slot hslot

theorem SlotsShow.bulk {m : QmModule} (hzero : EmptyZeroed m.qmState.buttons)
    {devices : List VqmbtDeviceInfo} {shown : Fin paired.count → Bool}
    (hlength : devices.length = paired.count)
    (hdevices : ∀ idx : Fin paired.count,
      devices[idx.val]? = some (paired.record idx (shown idx))) :
    SlotsShow (qmStateUpdateUi (fun _ => 0) m
      (.bulkUpdate (resetBulk true devices))).1.qmState.buttons shown := by
  have hbulk (slot : Fin vqmbtMaxDevices) :
      (qmStateUpdateUi (fun _ => 0) m (.bulkUpdate (resetBulk true devices))).1.qmState.buttons
        slot = (m.qmState.buttons slot).bulk (resetBulk true devices) slot :=
    qmStateUpdateUi_buttons ..
  have hlists (idx : Fin paired.count) :
      (resetBulk true devices).Lists (paired.slot idx) := by
    refine (resetBulk_lists true devices _).mpr ?_
    rw [hlength]
    exact idx.isLt
  have hrecord (idx : Fin paired.count) :
      (resetBulk true devices).devices (paired.slot idx) = paired.record idx (shown idx) := by
    have hget := hdevices idx
    simp only [resetBulk, List.getD_eq_getElem?_getD, PairedList.slot, Fin.val_castLE, hget,
      Option.getD_some]
  refine ⟨fun idx => ?_, fun idx => ?_, fun slot hslot => ?_⟩
  · rw [hbulk, QmButton.bulk_mac (hlists idx), hrecord, paired.record_mac]
  · rw [hbulk, QmButton.bulk_on (hlists idx) rfl, QmButton.settle_idem, hrecord,
      paired.record_state]
  · have hnot : ¬ (resetBulk true devices).Lists slot := by
      intro hlisted
      have hlt := (resetBulk_lists true devices slot).mp hlisted
      omega
    have hempty := emptyZeroed_step (fun _ => 0) (.bulkUpdate (resetBulk true devices)) hzero slot
    rw [hbulk, QmButton.bulk_unlisted hnot] at hempty ⊢
    exact ⟨QmButton.vacant_empty _, hempty (QmButton.vacant_empty _)⟩

def ThreadAt.inHand : ThreadAt → List VqmbtEvent
  | .handling event => [event]
  | _ => []

def ThreadAt.Unread : ThreadAt → Nat → Prop
  | .flushing _, _ | .readingBluetooth _, _ => True
  | .readingDevices _ _ devices, idx => devices.length ≤ idx
  | .waiting, _ | .fetching, _ | .handling _, _ => False

def ThreadHolds (slots : Fin vqmbtMaxDevices → QmButton) (known : Fin paired.count → Bool) :
    ThreadAt → Prop
  | .flushing _ | .readingBluetooth _ => True
  | .readingDevices _ bluetoothOn devices =>
      bluetoothOn = true ∧ devices.length ≤ paired.count ∧
        ∀ idx : Fin paired.count, idx.val < devices.length →
          devices[idx.val]? = some (paired.record idx (known idx))
  | .waiting | .fetching | .handling _ => SlotsShow slots known

structure InSync (s : EventSystem paired) (notices : List (Notice paired))
    (known : Fin paired.count → Bool) : Prop where
  ring : RingHolds s.ring s.queue
  inFlight : s.thread.inHand ++ s.queue = notices.map Notice.event
  replays : ∀ idx, replay (s.truth idx) (known idx)
    ((notices ++ s.pending).map (Notice.update idx)) = s.truth idx
  unread : ∀ idx : Fin paired.count, s.thread.Unread idx.val → known idx = s.truth idx
  thread : ThreadHolds s.menu.qmState.buttons known s.thread
  zeroed : EmptyZeroed s.menu.qmState.buttons

def EventSystem.Consistent (s : EventSystem paired) : Prop :=
  ∃ notices known, InSync s notices known

theorem Notice.event_ne_none (notice : Notice paired) : notice.event.id ≠ .none := by
  cases notice with
  | change idx connected => cases connected <;> nofun
  | dropped => nofun

theorem queueEmit_notice (queue : List VqmbtEvent) (notice : Notice paired) :
    (queueEmit queue (some notice.event)).1 = queue ++ [notice.event] := by
  simp only [queueEmit, if_neg notice.event_ne_none]

theorem InSync.lose {s : EventSystem paired} {notices : List (Notice paired)}
    {known : Fin paired.count → Bool} (h : InSync s notices known)
    (lost kept : List (Notice paired)) (hsplit : notices ++ s.pending = lost ++ kept)
    (idx : Fin paired.count) :
    replay (s.truth idx) (s.truth idx) (kept.map (Notice.update idx)) = s.truth idx := by
  have hreplays := h.replays idx
  rw [hsplit, List.map_append] at hreplays
  exact replay_suffix hreplays

theorem consistent_start {eventFlagUid : Int} {s : EventSystem paired}
    (h : (eventSystem paired eventFlagUid).start s) : s.Consistent := by
  obtain ⟨⟨past, hmenu⟩, hpending, hempty, hqueue, hthread⟩ := h
  refine ⟨[], s.truth, ?_, ?_, ?_, fun _ _ => rfl, ?_, ?_⟩
  · refine ⟨s.ring.writeIdx, [], 0, ⟨Nat.le_refl _, by simp, by simp, ?_, window_nil _ _⟩, ?_⟩
    · simpa using hempty
    · simpa using hqueue
  · simp [hthread, hqueue, ThreadAt.inHand]
  · intro idx
    simp [hpending]
  · rw [hthread]
    trivial
  · rw [hmenu]
    exact emptyZeroed_after past

theorem ThreadHolds.change {slots : Fin vqmbtMaxDevices → QmButton}
    {known later : Fin paired.count → Bool} {thread : ThreadAt}
    (h : ThreadHolds slots known thread) {changed : Fin paired.count}
    (hother : ∀ idx, idx ≠ changed → later idx = known idx)
    (hread : ¬ thread.Unread changed.val → later changed = known changed) :
    ThreadHolds slots later thread := by
  have hsame (hno : ¬ thread.Unread changed.val) : later = known := by
    funext idx
    by_cases hidx : idx = changed
    · rw [hidx]
      exact hread hno
    · exact hother idx hidx
  cases thread with
  | flushing inFetch => trivial
  | readingBluetooth inFetch => trivial
  | readingDevices inFetch bluetoothOn devices =>
      obtain ⟨hon, hlength, hdevices⟩ := h
      refine ⟨hon, hlength, fun idx hidx => ?_⟩
      have hknown : later idx = known idx := by
        by_cases heq : idx = changed
        · subst heq
          exact hread (Nat.not_le_of_lt hidx)
        · exact hother idx heq
      rw [hknown]
      exact hdevices idx hidx
  | _ =>
      rw [hsame id]
      exact h

theorem InSync.change {s : EventSystem paired} {notices : List (Notice paired)}
    {known later : Fin paired.count → Bool} (h : InSync s notices known)
    {changed : Fin paired.count} {connected : Bool}
    (hother : ∀ idx, idx ≠ changed → later idx = known idx)
    (hunread : s.thread.Unread changed.val → later changed = connected)
    (hread : ¬ s.thread.Unread changed.val → later changed = known changed) :
    InSync { s with
      truth := Function.update s.truth changed connected
      pending := s.pending ++ [.change changed connected] } notices later := by
  refine ⟨h.ring, h.inFlight, fun idx => ?_, fun idx hidx => ?_, ?_, h.zeroed⟩
  · have hnew : (notices ++ (s.pending ++ [Notice.change changed connected])).map
        (Notice.update idx) =
        (notices ++ s.pending).map (Notice.update idx) ++
          [if changed = idx then .set connected else .skip] := by
      simp [Notice.update]
    simp only [hnew]
    by_cases hidx : idx = changed
    · subst hidx
      rw [if_pos rfl, Function.update_self, replay_concat_set]
    · rw [if_neg (Ne.symm hidx), replay_concat_skip, Function.update_of_ne hidx, hother idx hidx]
      exact h.replays idx
  · by_cases hsame : idx = changed
    · subst hsame
      exact (hunread hidx).trans (Function.update_self idx connected s.truth).symm
    · have hknown := (hother idx hsame).trans (h.unread idx hidx)
      exact hknown.trans (Function.update_of_ne hsame connected s.truth).symm
  · exact h.thread.change hother hread

theorem InSync.emit {s : EventSystem paired} {notices : List (Notice paired)}
    {known : Fin paired.count → Bool} (h : InSync s notices known) (eventFlagUid : Int)
    {notice : Notice paired} {rest : List (Notice paired)} (hpending : s.pending = notice :: rest)
    (hout : (queueEmit s.queue (some notice.event)).1.length < 2 ^ 32) :
    InSync { s with
      pending := rest
      ring := (umodCbEmitEvent eventFlagUid s.ring (some notice.event)).1
      queue := (queueEmit s.queue (some notice.event)).1 } (notices ++ [notice]) known := by
  refine ⟨(ringHolds_emit h.ring eventFlagUid (some notice.event) hout).1, ?_, fun idx => ?_,
    h.unread, h.thread, h.zeroed⟩
  · rw [queueEmit_notice, ← List.append_assoc, h.inFlight, List.map_append]
    rfl
  · have hreplays := h.replays idx
    rw [hpending] at hreplays
    simpa using hreplays

theorem InSync.drop {s : EventSystem paired} {notices : List (Notice paired)}
    {known : Fin paired.count → Bool} (h : InSync s notices known) (n : Nat)
    (kept : List (Notice paired)) :
    InSync { s with pending := kept ++ .dropped :: s.pending.drop n } notices known := by
  refine ⟨h.ring, h.inFlight, fun idx => ?_, h.unread, h.thread, h.zeroed⟩
  have hlose := h.lose (notices ++ s.pending.take n) (s.pending.drop n)
    (by rw [List.append_assoc, List.take_append_drop]) idx
  rw [← List.append_assoc, List.map_append, List.map_cons]
  exact (replay_resync _ _ _ _).trans hlose

theorem consistent_kernelStep {eventFlagUid : Int} {s t : EventSystem paired}
    {a : EventStep paired} (hstep : kernelStep eventFlagUid s a = some t)
    (hout : t.queue.length < 2 ^ 32) (h : s.Consistent) : t.Consistent := by
  obtain ⟨notices, known, h⟩ := h
  unfold kernelStep at hstep
  split at hstep
  · next changed connected =>
      cases hstep
      by_cases hunread : s.thread.Unread changed.val
      · refine ⟨notices, Function.update known changed connected,
          h.change (fun idx hidx => Function.update_of_ne hidx _ _) ?_ (absurd hunread)⟩
        exact fun _ => Function.update_self _ _ _
      · exact ⟨notices, known, h.change (fun _ _ => rfl) (fun hyes => absurd hyes hunread)
          (fun _ => rfl)⟩
  · split at hstep
    · cases hstep
    · next notice rest hpending =>
        cases hstep
        exact ⟨notices ++ [notice], known, h.emit eventFlagUid hpending hout⟩
  · next n kept =>
      split at hstep
      · cases hstep
        exact ⟨notices, known, h.drop n kept⟩
      · cases hstep
  · cases hstep

theorem InSync.reset {s : EventSystem paired} {notices : List (Notice paired)}
    {known : Fin paired.count → Bool} (h : InSync s notices known)
    (lost kept : List (Notice paired)) (hsplit : notices = lost ++ kept)
    {ring : UmodRing} {queue : List VqmbtEvent} (hring : RingHolds ring queue)
    (hqueue : queue = kept.map Notice.event) {thread : ThreadAt}
    (hthread : thread = .flushing true ∨ ∃ inFetch, thread = .readingBluetooth inFetch) :
    InSync { s with ring := ring, queue := queue, thread := thread } kept s.truth := by
  refine ⟨hring, ?_, fun idx => ?_, fun _ _ => rfl, ?_, h.zeroed⟩
  · rcases hthread with rfl | ⟨inFetch, rfl⟩ <;> exact hqueue
  · exact h.lose lost (kept ++ s.pending) (by rw [hsplit, List.append_assoc]) idx
  · rcases hthread with rfl | ⟨inFetch, rfl⟩ <;> trivial

theorem InSync.device {s : EventSystem paired} {notices : List (Notice paired)}
    {known : Fin paired.count → Bool} (h : InSync s notices known) {inFetch bluetoothOn : Bool}
    {devices : List VqmbtDeviceInfo}
    (hat : s.thread = .readingDevices inFetch bluetoothOn devices)
    (hlt : devices.length < paired.count) :
    InSync { s with
      thread := .readingDevices inFetch bluetoothOn
        (devices ++ [paired.record ⟨devices.length, hlt⟩ (s.truth ⟨devices.length, hlt⟩)]) }
      notices known := by
  have hflight := h.inFlight
  have hunread := h.unread
  have hthread := h.thread
  rw [hat] at hflight hunread hthread
  obtain ⟨hon, _, hdevices⟩ := hthread
  refine ⟨h.ring, hflight, h.replays, fun idx hidx => hunread idx ?_,
    ⟨hon, ?_, fun idx hidx => ?_⟩, h.zeroed⟩
  · simp only [ThreadAt.Unread, List.length_append, List.length_singleton] at hidx ⊢
    omega
  · simp only [List.length_append, List.length_singleton]
    omega
  · rcases Nat.lt_or_ge idx.val devices.length with hold | hnew
    · rw [List.getElem?_append_left hold]
      exact hdevices idx hold
    · simp only [List.length_append, List.length_singleton] at hidx
      have hlast : idx.val = devices.length := by omega
      have hidx : idx = ⟨devices.length, hlt⟩ := Fin.ext hlast
      rw [hlast, List.getElem?_concat_length, hunread idx hnew, hidx]

theorem InSync.apply {s : EventSystem paired} {notices : List (Notice paired)}
    {known : Fin paired.count → Bool} (h : InSync s notices known) {inFetch bluetoothOn : Bool}
    {devices : List VqmbtDeviceInfo}
    (hat : s.thread = .readingDevices inFetch bluetoothOn devices)
    (hlength : devices.length = paired.count) :
    InSync { s with
      menu := (qmStateUpdateUi (fun _ => 0) s.menu
        (.bulkUpdate (resetBulk bluetoothOn devices))).1
      thread := .afterReset inFetch } notices known := by
  have hflight := h.inFlight
  have hthread := h.thread
  rw [hat] at hflight hthread
  obtain ⟨rfl, _, hdevices⟩ := hthread
  have hshow := SlotsShow.bulk h.zeroed hlength
    (fun idx => hdevices idx (by rw [hlength]; exact idx.isLt))
  have hzeroed := emptyZeroed_step (fun _ => 0) (.bulkUpdate (resetBulk true devices)) h.zeroed
  cases inFetch
  all_goals exact ⟨h.ring, hflight, h.replays, nofun, hshow, hzeroed⟩

theorem InSync.read {s : EventSystem paired} {notices : List (Notice paired)}
    {known : Fin paired.count → Bool} (h : InSync s notices known) (hat : s.thread = .fetching)
    {t : EventSystem paired} (hstep : eventThreadStep s .read = some t) : t.Consistent := by
  obtain ⟨hring, hreply⟩ := ringHolds_read h.ring (Int.le_refl 0) false 1
  have hqueue : s.queue = notices.map Notice.event := by
    have hflight := h.inFlight
    rw [hat] at hflight
    exact hflight
  have hshow : SlotsShow s.menu.qmState.buttons known := by
    have hthread := h.thread
    rw [hat] at hthread
    exact hthread
  simp only [eventThreadStep, hat, hreply] at hstep
  cases notices with
  | nil =>
      have hnone : queueRead s.queue false 1 = ([], ⟨0, none⟩) := by
        rw [hqueue]
        rfl
      rw [hnone] at hring hstep
      cases hstep
      exact ⟨[], known, hring, rfl, h.replays, nofun, hshow, h.zeroed⟩
  | cons notice rest =>
      have hread : queueRead s.queue false 1 =
          if s.queue.length > ringBufferSize then ([], ⟨VqmbtError.cbOverflow.code, none⟩)
          else (rest.map Notice.event, ⟨1, some notice.event⟩) := by
        rw [hqueue]
        rfl
      by_cases hover : s.queue.length > ringBufferSize
      · rw [if_pos hover] at hread
        rw [hread] at hring hstep
        cases hstep
        exact ⟨[], s.truth, h.reset (notice :: rest) [] (by simp) hring rfl (.inl rfl)⟩
      · rw [if_neg hover] at hread
        rw [hread] at hring hstep
        simp only [fetchNext_event] at hstep
        cases hstep
        exact ⟨notice :: rest, known, hring, rfl, h.replays, nofun, hshow, h.zeroed⟩

theorem handleEvent_change (changed : Fin paired.count) (connected : Bool) :
    ∃ request, handleEvent (Notice.change changed connected).event = .request request ∧
      ∀ slots idx b, requestEffect (fun _ => 0) slots request idx b =
        eventEffect slots (paired.mac changed).1 (paired.mac changed).2 (connectedAs connected)
          idx b := by
  cases connected with
  | true => exact ⟨.deviceConnected _ _, rfl, fun _ _ _ => rfl⟩
  | false => exact ⟨.deviceDisconnected _ _, rfl, fun _ _ _ => rfl⟩

theorem InSync.handle {s : EventSystem paired} {notices : List (Notice paired)}
    {known : Fin paired.count → Bool} (h : InSync s notices known) {event : VqmbtEvent}
    (hat : s.thread = .handling event) {t : EventSystem paired}
    (hstep : eventThreadStep s .handle = some t) : t.Consistent := by
  have hflight := h.inFlight
  have hshow : SlotsShow s.menu.qmState.buttons known := by
    have hthread := h.thread
    rw [hat] at hthread
    exact hthread
  rw [hat] at hflight
  cases notices with
  | nil => cases hflight
  | cons notice rest =>
      obtain ⟨rfl, hqueue⟩ := List.cons.inj hflight
      simp only [eventThreadStep, hat] at hstep
      cases notice with
      | dropped =>
          cases hstep
          exact ⟨rest, s.truth, h.reset [.dropped] rest rfl h.ring hqueue (.inl rfl)⟩
      | change changed connected =>
          have hreplays (idx : Fin paired.count) : replay (s.truth idx)
              (Function.update known changed connected idx)
              ((rest ++ s.pending).map (Notice.update idx)) = s.truth idx := by
            have hall := h.replays idx
            rw [List.cons_append, List.map_cons, replay_cons] at hall
            by_cases hidx : idx = changed
            · subst hidx
              simpa [Notice.update, Update.next] using hall
            · simpa [Notice.update, Update.next, Ne.symm hidx, hidx] using hall
          obtain ⟨request, hhandle, hrequest⟩ := handleEvent_change changed connected
          have hnext := hshow.event changed connected request hrequest
          have hzeroed := emptyZeroed_step (fun _ => 0) request h.zeroed
          rw [hhandle] at hstep
          cases hstep
          exact ⟨rest, _, h.ring, hqueue, hreplays, nofun, hnext, hzeroed⟩

theorem consistent_eventThreadStep {s t : EventSystem paired} {a : EventStep paired}
    (hstep : eventThreadStep s a = some t) (h : s.Consistent) : t.Consistent := by
  obtain ⟨notices, known, h⟩ := h
  have hflight := h.inFlight
  have hunread := h.unread
  have hthread := h.thread
  unfold eventThreadStep at hstep
  split at hstep
  · next inFetch hat =>
      cases hstep
      have hring := (ringHolds_read h.ring (Int.le_refl 0) true 0).1
      exact ⟨[], s.truth, h.reset notices [] (by simp) hring rfl (.inr ⟨inFetch, rfl⟩)⟩
  · next inFetch hat =>
      rw [hat] at hflight hunread
      cases hstep
      refine ⟨notices, known, h.ring, hflight, h.replays, fun idx _ => hunread idx trivial,
        ⟨rfl, Nat.zero_le _, fun idx hidx => absurd hidx (Nat.not_lt_zero _)⟩, h.zeroed⟩
  · next inFetch bluetoothOn devices hat =>
      split at hstep
      · next hlt =>
          cases hstep
          exact ⟨notices, known, h.device hat hlt⟩
      · cases hstep
  · next inFetch bluetoothOn devices hat =>
      split at hstep
      · next hlength =>
          cases hstep
          exact ⟨notices, known, h.apply hat hlength⟩
      · cases hstep
  · next hat =>
      rw [hat] at hflight hthread
      cases hstep
      exact ⟨notices, known, h.ring, hflight, h.replays, nofun, hthread, h.zeroed⟩
  · next hat => exact h.read hat (by simpa only [eventThreadStep, hat] using hstep)
  · next event hat => exact h.handle hat (by simpa only [eventThreadStep, hat] using hstep)
  · cases hstep

theorem consistent_after {eventFlagUid : Int}
    {past : List (Transition (EventSystem paired) (EventStep paired))} {s : EventSystem paired}
    (hrun : (eventSystem paired eventFlagUid).Run past s)
    (hout : ∀ x ∈ past, x.after.queue.length < 2 ^ 32) : s.Consistent := by
  refine hrun.invariant (P := fun x => x.after.queue.length < 2 ^ 32)
    (fun _ => consistent_start) ?_ hout
  intro s a t hstep hout h
  rcases Option.or_eq_some_iff.mp hstep with hkernel | ⟨-, hthread⟩
  · exact consistent_kernelStep hkernel hout h
  · exact consistent_eventThreadStep hthread h

theorem agreement_at_quiescence {eventFlagUid : Int}
    {past : List (Transition (EventSystem paired) (EventStep paired))} {s : EventSystem paired}
    (hrun : (eventSystem paired eventFlagUid).Run past s)
    (hout : ∀ x ∈ past, x.after.queue.length < 2 ^ 32) (hpending : s.pending = [])
    (hempty : s.ring.readIdx = s.ring.writeIdx)
    (hidle : s.thread = .waiting ∨ s.thread = .fetching) :
    (∀ idx, (s.menu.qmState.buttons (paired.slot idx)).btnState = connectedAs (s.truth idx)) ∧
      ∀ slot, paired.count ≤ slot.val →
        (s.menu.qmState.buttons slot).btnState = .slotEmptyDisabled := by
  obtain ⟨notices, known, h⟩ := consistent_after hrun hout
  have hflight := h.inFlight
  have hthread := h.thread
  rw [ringHolds_nil h.ring hempty] at hflight
  obtain ⟨hshow, hnone⟩ : SlotsShow s.menu.qmState.buttons known ∧ notices = [] := by
    rcases hidle with hat | hat <;> rw [hat] at hflight hthread
    all_goals exact ⟨hthread, List.map_eq_nil_iff.mp hflight.symm⟩
  have hknown (idx : Fin paired.count) : known idx = s.truth idx := by
    have hreplays := h.replays idx
    rw [hnone, hpending] at hreplays
    exact hreplays
  refine ⟨fun idx => ?_, fun slot hslot => (hshow.unlisted slot hslot).1⟩
  rw [hshow.state, hknown]

def PairedList.one : PairedList where
  count := 1
  count_le := by decide
  record _ connected :=
    ⟨Vector.replicate _ 0, 1, 1, if connected = true then .connected else .disconnected⟩
  mac _ := (1, 1)
  record_mac _ _ := rfl
  record_state _ connected := by cases connected <;> rfl
  halves _ := by decide
  distinct _ _ _ := Subsingleton.elim _ _

def EventSystem.opening : EventSystem .one where
  truth _ := false
  pending := []
  ring := ⟨fun _ => .zeroed, 0xFFFFFFFF, 0xFFFFFFFF⟩
  queue := []
  thread := .flushing false
  menu := .boot

theorem start_opening : (eventSystem .one (-1)).start .opening :=
  ⟨⟨[], rfl⟩, rfl, rfl, rfl, rfl⟩

def connectingWhileOpening : List (EventStep .one) :=
  [.flush, .readBluetooth, .change ⟨0, Nat.one_pos⟩ true, .emit, .readDevice, .apply, .wake, .read,
    .handle, .read]

theorem connectingWhileOpening_plays :
    ((eventSystem .one (-1)).play [] .opening connectingWhileOpening).isSome := by decide +kernel

theorem agreement_after_opening :
    (((eventSystem .one (-1)).played .opening connectingWhileOpening
      connectingWhileOpening_plays).2.menu.qmState.buttons 0).btnState = .connected :=
  (agreement_at_quiescence
    (Lts.run_played start_opening connectingWhileOpening_plays)
    (by decide +kernel) (by decide +kernel) (by decide +kernel)
    (.inl (by decide +kernel))).1 ⟨0, Nat.one_pos⟩

end VitaQmBluetooth
