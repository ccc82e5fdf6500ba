import VitaQmBluetooth.UmodCallback.Ring

namespace VitaQmBluetooth

open Foundation

def queueEmit (queue : List VqmbtEvent) (event : Option VqmbtEvent) :
    List VqmbtEvent × ReadReply :=
  match event with
  | none => (queue, ⟨VqmbtError.invalidArgument.code, none⟩)
  | some event =>
      if event.id = .none then (queue, ⟨VqmbtError.invalidArgument.code, none⟩)
      else (queue ++ [event], ⟨0, none⟩)

def queueRead (queue : List VqmbtEvent) (eventNull : Bool) (numEvents : Int) :
    List VqmbtEvent × ReadReply :=
  if numEvents > 1 then (queue, ⟨VqmbtError.invalidArgument.code, none⟩)
  else if numEvents < 1 then ([], ⟨0, none⟩)
  else if eventNull = true then (queue, ⟨VqmbtError.invalidArgument.code, none⟩)
  else match queue with
    | [] => ([], ⟨0, none⟩)
    | event :: rest =>
        if (event :: rest).length > ringBufferSize then ([], ⟨VqmbtError.cbOverflow.code, none⟩)
        else (rest, ⟨1, some event⟩)

def queueMachine : Machine (List VqmbtEvent) RingCall ReadReply where
  boot := []
  step queue
    | .emit event => queueEmit queue event
    | .read eventNull numEvents _ => queueRead queue eventNull numEvents

structure RingLog (base : UnsignedInt) (log : List VqmbtEvent) (taken : Nat)
    (ring : UmodRing) : Prop where
  taken_le : taken ≤ log.length
  bounded : log.length - taken < 2 ^ 32
  writeIdx : ring.writeIdx = seqIdx base log.length
  readIdx : ring.readIdx = seqIdx base taken
  window : Window base ring.ringBuffer log

namespace RingLog

variable {base : UnsignedInt} {log : List VqmbtEvent} {taken : Nat} {ring : UmodRing}

theorem empty_iff (h : RingLog base log taken ring) :
    ring.readIdx = ring.writeIdx ↔ taken = log.length := by
  rw [h.readIdx, h.writeIdx]
  exact seqIdx_eq_iff base h.taken_le h.bounded

theorem overrun_iff (h : RingLog base log taken ring) :
    Overrun ring.writeIdx ring.readIdx ↔ ringBufferSize < log.length - taken := by
  rw [Overrun, h.writeIdx, h.readIdx, gt_iff_lt, BitVec.lt_def,
    seqIdx_dist base h.taken_le h.bounded]
  rfl

theorem head (h : RingLog base log taken ring) (hlt : taken < log.length)
    (hnear : log.length ≤ taken + ringBufferSize) :
    ring.ringBuffer (slotNo ringBufferSize ring.readIdx) = log[taken] := by
  rw [h.readIdx]
  exact h.window taken _ (List.getElem?_eq_getElem hlt) hnear

theorem emit (h : RingLog base log taken ring) (event : VqmbtEvent)
    (hb : log.length + 1 - taken < 2 ^ 32) :
    RingLog base (log ++ [event]) taken { ring with
      ringBuffer := Function.update ring.ringBuffer (slotNo ringBufferSize ring.writeIdx) event
      writeIdx := ring.writeIdx + 1 } where
  taken_le := by simp only [List.length_append, List.length_singleton]; have := h.taken_le; omega
  bounded := by simpa only [List.length_append, List.length_singleton] using hb
  writeIdx := by
    simp only [h.writeIdx, seqIdx_succ, List.length_append, List.length_singleton]
  readIdx := h.readIdx
  window := by
    simp only [h.writeIdx]
    exact window_push base ringBufferSize_dvd h.window event

theorem clear (h : RingLog base log taken ring) :
    RingLog base log log.length { ring with readIdx := ring.writeIdx } where
  taken_le := Nat.le_refl _
  bounded := by simp
  writeIdx := h.writeIdx
  readIdx := h.writeIdx
  window := h.window

theorem pop (h : RingLog base log taken ring) (hlt : taken < log.length) :
    RingLog base log (taken + 1) { ring with readIdx := ring.readIdx + 1 } where
  taken_le := hlt
  bounded := by have := h.bounded; omega
  writeIdx := h.writeIdx
  readIdx := by simp only [h.readIdx, seqIdx_succ]
  window := h.window

end RingLog

def RingHolds (ring : UmodRing) (queue : List VqmbtEvent) : Prop :=
  ∃ base log taken, RingLog base log taken ring ∧ queue = log.drop taken

theorem ringHolds_nil {ring : UmodRing} {queue : List VqmbtEvent} (h : RingHolds ring queue)
    (hempty : ring.readIdx = ring.writeIdx) : queue = [] := by
  obtain ⟨base, log, taken, hlog, rfl⟩ := h
  rw [hlog.empty_iff.mp hempty, List.drop_length]

theorem ringHolds_emit {ring : UmodRing} {queue : List VqmbtEvent} (h : RingHolds ring queue)
    (eventFlagUid : Int) (event : Option VqmbtEvent)
    (hb : (queueEmit queue event).1.length < 2 ^ 32) :
    RingHolds (umodCbEmitEvent eventFlagUid ring event).1 (queueEmit queue event).1 ∧
      (umodCbEmitEvent eventFlagUid ring event).2.ret = (queueEmit queue event).2.ret := by
  obtain ⟨base, log, taken, hlog, rfl⟩ := h
  cases event with
  | none => exact ⟨⟨base, log, taken, hlog, rfl⟩, rfl⟩
  | some event =>
      by_cases hid : event.id = .none
      · simp only [umodCbEmitEvent, queueEmit, if_pos hid]
        exact ⟨⟨base, log, taken, hlog, rfl⟩, trivial⟩
      · simp only [umodCbEmitEvent, queueEmit, if_neg hid] at hb ⊢
        have hle := hlog.taken_le
        simp only [List.length_append, List.length_drop, List.length_singleton] at hb
        refine ⟨⟨base, log ++ [event], taken, hlog.emit event (by omega), ?_⟩, trivial⟩
        rw [List.drop_append_of_le_length hle]

theorem queueRead_flush {numEvents : Int} (h : numEvents < 1) (queue : List VqmbtEvent)
    (eventNull : Bool) : queueRead queue eventNull numEvents = ([], ⟨0, none⟩) := by
  have hmany : ¬ numEvents > 1 := by omega
  simp only [queueRead, if_neg hmany, if_pos h]

theorem queueRead_refuses {eventNull : Bool} {numEvents : Int} (h : Refuses eventNull numEvents)
    (queue : List VqmbtEvent) :
    queueRead queue eventNull numEvents = (queue, ⟨VqmbtError.invalidArgument.code, none⟩) := by
  rcases h with hmany | ⟨rfl, rfl⟩
  · simp only [queueRead, if_pos hmany]
  · rfl

theorem queueRead_cons (event : VqmbtEvent) (queue : List VqmbtEvent) :
    queueRead (event :: queue) false 1 =
      if (event :: queue).length > ringBufferSize then ([], ⟨VqmbtError.cbOverflow.code, none⟩)
      else (queue, ⟨1, some event⟩) := rfl

theorem queueRead_overflow {queue : List VqmbtEvent} (h : ringBufferSize < queue.length) :
    queueRead queue false 1 = ([], ⟨VqmbtError.cbOverflow.code, none⟩) := by
  cases queue with
  | nil => cases h
  | cons event rest => rw [queueRead_cons, if_pos h]

theorem ringHolds_read {ring : UmodRing} {queue : List VqmbtEvent} (h : RingHolds ring queue)
    {copyRet : Int} (hcopy : 0 ≤ copyRet) (eventNull : Bool) (numEvents : Int) :
    RingHolds (kvqmbtReadEvent copyRet ring eventNull numEvents).1
        (queueRead queue eventNull numEvents).1 ∧
      (kvqmbtReadEvent copyRet ring eventNull numEvents).2 =
        (queueRead queue eventNull numEvents).2 := by
  obtain ⟨base, log, taken, hlog, rfl⟩ := h
  have hcleared : RingHolds { ring with readIdx := ring.writeIdx } [] :=
    ⟨base, log, log.length, hlog.clear, by simp⟩
  obtain hflush | hrefuses | ⟨rfl, rfl, hempty⟩ | ⟨rfl, rfl, hover⟩ | hdelivers :=
    read_cases ring eventNull numEvents
  · rw [read_flush hflush, queueRead_flush hflush]
    exact ⟨hcleared, rfl⟩
  · rw [read_refuses hrefuses, queueRead_refuses hrefuses]
    exact ⟨⟨base, log, taken, hlog, rfl⟩, rfl⟩
  · have hnone : log.drop taken = [] := by
      rw [hlog.empty_iff.mp hempty, List.drop_length]
    rw [read_empty hempty, hnone]
    exact ⟨⟨base, log, taken, hlog, hnone.symm⟩, rfl⟩
  · have hmany : ringBufferSize < (log.drop taken).length := by
      rw [List.length_drop]
      exact hlog.overrun_iff.mp hover
    rw [read_overrun hover, queueRead_overflow hmany]
    exact ⟨hcleared, rfl⟩
  · rw [read_delivers hdelivers, if_neg (Int.not_lt.mpr hcopy)]
    obtain ⟨rfl, rfl, hne, hover⟩ := hdelivers
    rw [ne_eq, hlog.empty_iff] at hne
    rw [hlog.overrun_iff, Nat.not_lt] at hover
    have hlt : taken < log.length := lt_of_le_of_ne hlog.taken_le hne
    have hfits : ¬ (log[taken] :: log.drop (taken + 1)).length > ringBufferSize := by
      rw [← List.drop_eq_getElem_cons hlt, List.length_drop]
      exact Nat.not_lt.mpr hover
    rw [hlog.head hlt (by omega), List.drop_eq_getElem_cons hlt, queueRead_cons, if_neg hfits]
    exact ⟨⟨base, log, taken + 1, hlog.pop hlt, rfl⟩, rfl⟩

theorem emit_reply {eventFlagUid : Int} {boot ring : UmodRing} {queue : List VqmbtEvent}
    {event : Option VqmbtEvent}
    (h : (umodCbEmitEvent eventFlagUid ring event).2.ret = (queueEmit queue event).2.ret) :
    ((ringMachine eventFlagUid boot).step ring (.emit event)).2 = (queueEmit queue event).2 := by
  have hevent : (queueEmit queue event).2.event = none := by
    unfold queueEmit
    split
    · rfl
    · split <;> rfl
  change (⟨(umodCbEmitEvent eventFlagUid ring event).2.ret, none⟩ : ReadReply) =
    (queueEmit queue event).2
  rw [h, ← hevent]

theorem ring_refines_queue (eventFlagUid : Int) (ring : UmodRing)
    (hempty : ring.readIdx = ring.writeIdx) (past : List RingCall)
    (hcopy : ∀ call ∈ past, call.CopyOk)
    (hpending : ∀ older, older <:+ past → (queueMachine.after older).length < 2 ^ 32) :
    (ringMachine eventFlagUid ring).replies past = queueMachine.replies past := by
  refine ((ringMachine eventFlagUid ring).simulation queueMachine (R := RingHolds)
    (P := fun queue call => call.CopyOk ∧ (queueMachine.step queue call).1.length < 2 ^ 32)
    ?_ ?_ past ?_).2
  · refine ⟨ring.writeIdx, [], 0, ⟨Nat.le_refl _, by simp, ?_, ?_, window_nil _ _⟩, rfl⟩
    · simp [ringMachine]
    · simpa [ringMachine] using hempty
  · intro ring queue call hholds hok
    cases call with
    | emit event =>
        obtain ⟨hnext, hret⟩ := ringHolds_emit hholds eventFlagUid event hok.2
        exact ⟨hnext, emit_reply hret⟩
    | read eventNull numEvents copyRet => exact ringHolds_read hholds hok.1 eventNull numEvents
  · intro call older hpoint
    refine ⟨hcopy call (hpoint.subset (List.mem_cons_self ..)), ?_⟩
    exact hpending (call :: older) hpoint

def flushedBetween : List RingCall :=
  [.read false 1 0, .emit (some ⟨.deviceConnectSuccess, 1, 2⟩), .read true 0 0,
    .emit (some ⟨.bluetoothDisabled, 0, 0⟩), .emit (some ⟨.bluetoothEnabled, 0, 0⟩)]

theorem ring_refines_queue_flushed :
    (ringMachine (-1) ⟨fun _ => .zeroed, 0xFFFFFFFF, 0xFFFFFFFF⟩).replies flushedBetween =
      queueMachine.replies flushedBetween := by
  refine ring_refines_queue (-1) _ rfl _ ?_ fun older hpoint => ?_
  · simp [flushedBetween, RingCall.CopyOk]
  · have hmem : older ∈ flushedBetween.tails := (List.mem_tails _ _).mpr hpoint
    simp only [flushedBetween, List.tails, List.mem_cons, List.not_mem_nil, or_false] at hmem
    rcases hmem with rfl | rfl | rfl | rfl | rfl | rfl <;> decide

end VitaQmBluetooth
