import VitaQmBluetooth.UmodCallback.Queue

namespace VitaQmBluetooth

open Foundation

def pendingEvents (ring : UmodRing) : List VqmbtEvent :=
  (List.range (ring.writeIdx - ring.readIdx).toNat).map fun n =>
    ring.ringBuffer (slotNo ringBufferSize (seqIdx ring.readIdx n))

theorem ringHolds_pending (ring : UmodRing) : RingHolds ring (pendingEvents ring) := by
  refine ⟨ring.readIdx, pendingEvents ring, 0, ⟨Nat.zero_le _, ?_, ?_, ?_, ?_⟩, rfl⟩
  · simpa [pendingEvents] using (ring.writeIdx - ring.readIdx).isLt
  · rw [pendingEvents, List.length_map, List.length_range, seqIdx_reaches]
  · simp
  · intro n e hn _
    simp only [pendingEvents, List.getElem?_map, Option.map_eq_some_iff,
      List.getElem?_eq_some_iff, List.getElem_range] at hn
    obtain ⟨m, ⟨_, rfl⟩, rfl⟩ := hn
    rfl

theorem ringHolds_length {ring : UmodRing} {queue : List VqmbtEvent} (h : RingHolds ring queue) :
    queue.length = (ring.writeIdx - ring.readIdx).toNat := by
  obtain ⟨base, log, taken, hlog, rfl⟩ := h
  rw [List.length_drop, hlog.writeIdx, hlog.readIdx, seqIdx_dist base hlog.taken_le hlog.bounded]

theorem ringHolds_lt {ring : UmodRing} {queue : List VqmbtEvent} (h : RingHolds ring queue) :
    queue.length < 2 ^ 32 := by
  rw [ringHolds_length h]
  exact (ring.writeIdx - ring.readIdx).isLt

theorem ringHolds_empty {ring : UmodRing} {queue : List VqmbtEvent} (h : RingHolds ring queue) :
    ring.readIdx = ring.writeIdx ↔ queue = [] := by
  obtain ⟨base, log, taken, hlog, rfl⟩ := h
  rw [hlog.empty_iff, List.drop_eq_nil_iff]
  have hle := hlog.taken_le
  omega

theorem ringHolds_overrun {ring : UmodRing} {queue : List VqmbtEvent} (h : RingHolds ring queue) :
    Overrun ring.writeIdx ring.readIdx ↔ ringBufferSize < queue.length := by
  obtain ⟨base, log, taken, hlog, rfl⟩ := h
  rw [hlog.overrun_iff, List.length_drop]

theorem ringHolds_emit_wrap {ring : UmodRing} {queue : List VqmbtEvent}
    (h : RingHolds ring queue) (eventFlagUid : Int) {event : VqmbtEvent}
    (hid : event.id ≠ .none) (hlast : queue.length + 1 = 2 ^ 32) :
    RingHolds (umodCbEmitEvent eventFlagUid ring (some event)).1 [] := by
  obtain ⟨base, log, taken, hlog, rfl⟩ := h
  have hle := hlog.taken_le
  rw [List.length_drop] at hlast
  have hlength : (log ++ [event]).length = taken + 2 ^ 32 := by
    rw [List.length_append, List.length_singleton]
    omega
  refine ⟨base, log ++ [event], taken + 2 ^ 32, ⟨hlength.ge, by omega, ?_, ?_, ?_⟩, ?_⟩
  · simp only [umodCbEmitEvent, if_neg hid, hlog.writeIdx, seqIdx_succ, List.length_append,
      List.length_singleton]
  · simp only [umodCbEmitEvent, if_neg hid, hlog.readIdx, seqIdx_period]
  · simp only [umodCbEmitEvent, if_neg hid, hlog.writeIdx]
    exact window_push base ringBufferSize_dvd hlog.window event
  · rw [← hlength, List.drop_length]

def RingShows (ring : UmodRing) (queue : List VqmbtEvent) : Prop :=
  ∃ unseen shown, queue = unseen ++ shown ∧ 2 ^ 32 ∣ unseen.length ∧ RingHolds ring shown

theorem ringShows_of_holds {ring : UmodRing} {queue : List VqmbtEvent}
    (h : RingHolds ring queue) : RingShows ring queue := ⟨[], queue, rfl, by simp, h⟩

theorem shown_length {ring : UmodRing} {unseen shown : List VqmbtEvent}
    (hlaps : 2 ^ 32 ∣ unseen.length) (h : RingHolds ring shown) :
    (unseen ++ shown).length % 2 ^ 32 = shown.length := by
  rw [List.length_append, Nat.add_mod, Nat.mod_eq_zero_of_dvd hlaps, Nat.zero_add, Nat.mod_mod,
    Nat.mod_eq_of_lt (ringHolds_lt h)]

theorem ringShows_holds {ring : UmodRing} {queue : List VqmbtEvent} (h : RingShows ring queue) :
    RingHolds ring (queue.drop (queue.length - queue.length % 2 ^ 32)) := by
  obtain ⟨unseen, shown, rfl, hlaps, hholds⟩ := h
  rw [shown_length hlaps hholds, List.length_append, Nat.add_sub_cancel, List.drop_left]
  exact hholds

theorem ringShows_emit {ring : UmodRing} {queue : List VqmbtEvent} (h : RingShows ring queue)
    (eventFlagUid : Int) (event : Option VqmbtEvent) :
    RingShows (umodCbEmitEvent eventFlagUid ring event).1 (queueEmit queue event).1 ∧
      (umodCbEmitEvent eventFlagUid ring event).2.ret = (queueEmit queue event).2.ret := by
  cases event with
  | none => exact ⟨h, rfl⟩
  | some event =>
      by_cases hid : event.id = .none
      · simp only [umodCbEmitEvent, queueEmit, if_pos hid]
        exact ⟨h, trivial⟩
      · obtain ⟨unseen, shown, rfl, hlaps, hholds⟩ := h
        refine ⟨?_, by simp only [umodCbEmitEvent, queueEmit, if_neg hid]⟩
        have hqueue : (queueEmit (unseen ++ shown) (some event)).1 =
            unseen ++ (shown ++ [event]) := by
          simp only [queueEmit, if_neg hid, List.append_assoc]
        have hlt := ringHolds_lt hholds
        rw [hqueue]
        by_cases hlast : shown.length + 1 = 2 ^ 32
        · refine ⟨unseen ++ (shown ++ [event]), [], by simp, ?_,
            ringHolds_emit_wrap hholds eventFlagUid hid hlast⟩
          rw [List.length_append, List.length_append, List.length_singleton, hlast]
          exact Nat.dvd_add hlaps (Nat.dvd_refl _)
        · have hemit := (ringHolds_emit hholds eventFlagUid (some event) (by
            simp only [queueEmit, if_neg hid, List.length_append, List.length_singleton]
            omega)).1
          simp only [queueEmit, if_neg hid] at hemit
          exact ⟨unseen, shown ++ [event], rfl, hlaps, hemit⟩

end VitaQmBluetooth
