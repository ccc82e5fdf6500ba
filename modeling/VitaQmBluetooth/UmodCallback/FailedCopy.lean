import VitaQmBluetooth.UmodCallback.Backlog

namespace VitaQmBluetooth

open Foundation

def retryRead (copyRet : Int) (queue : List VqmbtEvent) (eventNull : Bool) (numEvents : Int) :
    List VqmbtEvent × ReadReply :=
  let (rest, reply) := queueRead queue eventNull numEvents
  if reply.ret = 1 ∧ copyRet < 0 then (queue, ⟨VqmbtError.kernelSide.code, none⟩)
  else (rest, reply)

def retryMachine (queue : List VqmbtEvent) : Machine (List VqmbtEvent) RingCall ReadReply where
  boot := queue
  step queue
    | .emit event => queueEmit queue event
    | .read eventNull numEvents copyRet => retryRead copyRet queue eventNull numEvents

def FailedReadKeeps (ring : UmodRing) : RingCall → Prop
  | .emit _ => True
  | .read eventNull numEvents copyRet =>
      let result := kvqmbtReadEvent copyRet ring eventNull numEvents
      result.2.ret < 0 → result.2.ret ≠ VqmbtError.cbOverflow.code →
        result.1.readIdx = ring.readIdx

def LosesNothing (eventFlagUid : Int) (ring : UmodRing) (past : List RingCall) : Prop :=
  ∀ call older, call :: older <:+ past →
    FailedReadKeeps ((ringMachine eventFlagUid ring).after older) call ∧
      (ringMachine eventFlagUid ring).reply older call =
        (retryMachine (pendingEvents ring)).reply older call

def CopySafe (waiting : Nat) : RingCall → Prop
  | .emit _ => True
  | .read eventNull numEvents copyRet =>
      numEvents = 1 → eventNull = false →
        (copyRet < 0 → waiting = 0 ∨ ringBufferSize < waiting) ∧
          (2 ^ 32 ≤ waiting → ringBufferSize < waiting % 2 ^ 32)

theorem read_undelivered {ring : UmodRing} {eventNull : Bool} {numEvents : Int}
    (h : ¬ Delivers ring eventNull numEvents) (copyRet : Int) :
    kvqmbtReadEvent copyRet ring eventNull numEvents =
      kvqmbtReadEvent 0 ring eventNull numEvents := by
  obtain hflush | hrefuses | ⟨rfl, rfl, hempty⟩ | ⟨rfl, rfl, hover⟩ | hdelivers :=
    read_cases ring eventNull numEvents
  · rw [read_flush hflush, read_flush hflush]
  · rw [read_refuses hrefuses, read_refuses hrefuses]
  · rw [read_empty hempty, read_empty hempty]
  · rw [read_overrun hover, read_overrun hover]
  · exact absurd hdelivers h

theorem read_keeps {ring : UmodRing} {eventNull : Bool} {numEvents copyRet : Int}
    (hcopy : 0 ≤ copyRet) : FailedReadKeeps ring (.read eventNull numEvents copyRet) := by
  simp only [FailedReadKeeps]
  obtain hflush | hrefuses | ⟨rfl, rfl, hempty⟩ | ⟨rfl, rfl, hover⟩ | hdelivers :=
    read_cases ring eventNull numEvents
  · rw [read_flush hflush]
    exact fun hneg _ => absurd hneg (Int.lt_irrefl 0)
  · rw [read_refuses hrefuses]
    exact fun _ _ => rfl
  · rw [read_empty hempty]
    exact fun _ _ => rfl
  · rw [read_overrun hover]
    exact fun _ hne => absurd rfl hne
  · rw [read_delivers hdelivers, if_neg (Int.not_lt.mpr hcopy)]
    exact fun hneg _ => absurd hneg (by decide : ¬ (1 : Int) < 0)

theorem failedReadKeeps_iff (ring : UmodRing) (eventNull : Bool) (numEvents copyRet : Int) :
    FailedReadKeeps ring (.read eventNull numEvents copyRet) ↔
      ¬ (Delivers ring eventNull numEvents ∧ copyRet < 0) := by
  constructor
  · rintro hkeeps ⟨hdelivers, hcopy⟩
    simp only [FailedReadKeeps, read_delivers hdelivers, if_pos hcopy] at hkeeps
    have hsame := hkeeps (VqmbtError.code_neg _) (by decide)
    simp at hsame
  · intro hsafe
    by_cases hcopy : 0 ≤ copyRet
    · exact read_keeps hcopy
    · have hundelivered : ¬ Delivers ring eventNull numEvents := fun hd => hsafe ⟨hd, by omega⟩
      have hkeeps : FailedReadKeeps ring (.read eventNull numEvents 0) := read_keeps (by decide)
      simp only [FailedReadKeeps, read_undelivered hundelivered copyRet] at hkeeps ⊢
      exact hkeeps

theorem delivers_iff {ring : UmodRing} {queue : List VqmbtEvent} (h : RingHolds ring queue)
    (eventNull : Bool) (numEvents : Int) :
    Delivers ring eventNull numEvents ↔
      numEvents = 1 ∧ eventNull = false ∧ queue ≠ [] ∧ queue.length ≤ ringBufferSize := by
  refine and_congr_right fun _ => and_congr_right fun _ => ?_
  rw [ringHolds_overrun h, Nat.not_lt, ne_eq, ringHolds_empty h]

theorem retryRead_succeeds {copyRet : Int} (hcopy : 0 ≤ copyRet) (queue : List VqmbtEvent)
    (eventNull : Bool) (numEvents : Int) :
    retryRead copyRet queue eventNull numEvents = queueRead queue eventNull numEvents := by
  have hnot : ¬ ((queueRead queue eventNull numEvents).2.ret = 1 ∧ copyRet < 0) := by omega
  simp only [retryRead, if_neg hnot]

theorem queueRead_other {eventNull : Bool} {numEvents : Int}
    (h : ¬ (numEvents = 1 ∧ eventNull = false)) (queue : List VqmbtEvent) :
    queueRead queue eventNull numEvents =
      if numEvents < 1 then ([], ⟨0, none⟩)
      else (queue, ⟨VqmbtError.invalidArgument.code, none⟩) := by
  unfold queueRead
  by_cases hmany : numEvents > 1
  · rw [if_pos hmany, if_neg (by omega)]
  by_cases hflush : numEvents < 1
  · rw [if_neg hmany, if_pos hflush, if_pos hflush]
  have hnull : eventNull = true := by
    rw [← Bool.not_eq_false]
    exact fun hvalid => h ⟨by omega, hvalid⟩
  rw [if_neg hmany, if_neg hflush, if_pos hnull, if_neg hflush]

theorem queueRead_delivers {queue : List VqmbtEvent} {eventNull : Bool} {numEvents : Int}
    (h : (queueRead queue eventNull numEvents).2.ret = 1) :
    numEvents = 1 ∧ eventNull = false ∧ queue ≠ [] ∧ queue.length ≤ ringBufferSize := by
  by_cases hone : numEvents = 1 ∧ eventNull = false
  · obtain ⟨rfl, rfl⟩ := hone
    refine ⟨rfl, rfl, ?_, ?_⟩
    · rintro rfl
      exact absurd h (by decide)
    · by_contra hover
      rw [queueRead_overflow (by omega)] at h
      exact absurd h (by decide)
  · rw [queueRead_other hone] at h
    split at h
    · exact absurd h (by decide : ¬ (0 : Int) = 1)
    · exact absurd h (by decide : ¬ VqmbtError.invalidArgument.code = 1)

theorem ringHolds_retryRead {ring : UmodRing} {queue : List VqmbtEvent}
    (h : RingHolds ring queue) {eventNull : Bool} {numEvents : Int} (copyRet : Int)
    (hsafe : ¬ (Delivers ring eventNull numEvents ∧ copyRet < 0)) :
    RingHolds (kvqmbtReadEvent copyRet ring eventNull numEvents).1
        (retryRead copyRet queue eventNull numEvents).1 ∧
      (kvqmbtReadEvent copyRet ring eventNull numEvents).2 =
        (retryRead copyRet queue eventNull numEvents).2 := by
  by_cases hcopy : 0 ≤ copyRet
  · rw [retryRead_succeeds hcopy]
    exact ringHolds_read h hcopy eventNull numEvents
  · have hundelivered : ¬ Delivers ring eventNull numEvents := fun hd => hsafe ⟨hd, by omega⟩
    have hnone : ¬ (queueRead queue eventNull numEvents).2.ret = 1 := fun hone =>
      hundelivered ((delivers_iff h eventNull numEvents).mpr (queueRead_delivers hone))
    have hretry : retryRead copyRet queue eventNull numEvents =
        queueRead queue eventNull numEvents := by
      simp only [retryRead, hnone, false_and, if_false]
    rw [hretry, read_undelivered hundelivered copyRet]
    exact ringHolds_read h (by decide) eventNull numEvents

theorem read_not_overflow {ring : UmodRing} (h : ¬ Overrun ring.writeIdx ring.readIdx)
    (copyRet : Int) (eventNull : Bool) (numEvents : Int) :
    (kvqmbtReadEvent copyRet ring eventNull numEvents).2.ret ≠ VqmbtError.cbOverflow.code := by
  obtain hflush | hrefuses | ⟨rfl, rfl, hempty⟩ | ⟨_, _, hover⟩ | hdelivers :=
    read_cases ring eventNull numEvents
  · rw [read_flush hflush]
    exact (by decide : (0 : Int) ≠ VqmbtError.cbOverflow.code)
  · rw [read_refuses hrefuses]
    exact (by decide : VqmbtError.invalidArgument.code ≠ VqmbtError.cbOverflow.code)
  · rw [read_empty hempty]
    exact (by decide : (0 : Int) ≠ VqmbtError.cbOverflow.code)
  · exact absurd hover h
  · rw [read_delivers hdelivers]
    split
    · exact (by decide : VqmbtError.kernelSide.code ≠ VqmbtError.cbOverflow.code)
    · exact (by decide : (1 : Int) ≠ VqmbtError.cbOverflow.code)

theorem unlapped_read {ring : UmodRing} {queue : List VqmbtEvent} (h : RingHolds ring queue)
    (eventNull : Bool) (numEvents copyRet : Int) :
    CopySafe queue.length (.read eventNull numEvents copyRet) ↔
      ¬ (Delivers ring eventNull numEvents ∧ copyRet < 0) := by
  have hlt := ringHolds_lt h
  rw [delivers_iff h, ← List.length_pos_iff_ne_nil]
  simp only [CopySafe]
  constructor
  · rintro hsafe ⟨⟨hone, hnull, hpos, hle⟩, hcopy⟩
    have := (hsafe hone hnull).1 hcopy
    omega
  · intro hnot hone hnull
    refine ⟨fun hcopy => ?_, fun hlapped => by omega⟩
    by_contra hwaiting
    exact hnot ⟨⟨hone, hnull, by omega, by omega⟩, hcopy⟩

theorem retryRead_other {eventNull : Bool} {numEvents : Int}
    (h : ¬ (numEvents = 1 ∧ eventNull = false)) (copyRet : Int) (queue : List VqmbtEvent) :
    retryRead copyRet queue eventNull numEvents =
      if numEvents < 1 then ([], ⟨0, none⟩)
      else (queue, ⟨VqmbtError.invalidArgument.code, none⟩) := by
  have hnot : ¬ ((queueRead queue eventNull numEvents).2.ret = 1 ∧ copyRet < 0) := fun hone =>
    h ⟨(queueRead_delivers hone.1).1, (queueRead_delivers hone.1).2.1⟩
  simp only [retryRead, if_neg hnot]
  exact queueRead_other h queue

theorem retryRead_overflow {queue : List VqmbtEvent} (h : ringBufferSize < queue.length)
    (copyRet : Int) :
    retryRead copyRet queue false 1 = ([], ⟨VqmbtError.cbOverflow.code, none⟩) := by
  have hnot : ¬ VqmbtError.cbOverflow.code = 1 := by decide
  simp only [retryRead, queueRead_overflow h, hnot, false_and, if_false]

theorem ringShows_lapped {ring : UmodRing} {unseen shown : List VqmbtEvent} (hne : unseen ≠ [])
    (hlaps : 2 ^ 32 ∣ unseen.length) (h : RingHolds ring shown) (eventNull : Bool)
    (numEvents copyRet : Int) :
    ((¬ (Delivers ring eventNull numEvents ∧ copyRet < 0) ∧
        (kvqmbtReadEvent copyRet ring eventNull numEvents).2 =
          (retryRead copyRet (unseen ++ shown) eventNull numEvents).2) ↔
      CopySafe (unseen ++ shown).length (.read eventNull numEvents copyRet)) ∧
      (CopySafe (unseen ++ shown).length (.read eventNull numEvents copyRet) →
        RingShows (kvqmbtReadEvent copyRet ring eventNull numEvents).1
          (retryRead copyRet (unseen ++ shown) eventNull numEvents).1) := by
  have hlapped : 2 ^ 32 ≤ (unseen ++ shown).length := by
    have := Nat.le_of_dvd (List.length_pos_iff_ne_nil.mpr hne) hlaps
    rw [List.length_append]
    omega
  have hover : ringBufferSize < (unseen ++ shown).length :=
    lt_of_lt_of_le (by decide) hlapped
  by_cases hone : numEvents = 1 ∧ eventNull = false
  · obtain ⟨rfl, rfl⟩ := hone
    have hsafe : CopySafe (unseen ++ shown).length (.read false 1 copyRet) ↔
        ringBufferSize < shown.length := by
      simp only [CopySafe, shown_length hlaps h, forall_const]
      exact ⟨fun hs => hs.2 hlapped, fun hs => ⟨fun _ => .inr hover, fun _ => hs⟩⟩
    rw [hsafe, retryRead_overflow hover]
    by_cases hmany : ringBufferSize < shown.length
    · have hundelivered : ¬ Delivers ring false 1 := by
        rw [delivers_iff h]
        omega
      have hread := ringHolds_retryRead h copyRet (fun hd => hundelivered hd.1)
      rw [retryRead_overflow hmany] at hread
      exact ⟨⟨fun _ => hmany, fun _ => ⟨fun hd => hundelivered hd.1, hread.2⟩⟩,
        fun _ => ringShows_of_holds hread.1⟩
    · have hquiet := read_not_overflow (mt (ringHolds_overrun h).mp hmany) copyRet false 1
      refine ⟨⟨fun hp => ?_, fun hs => absurd hs hmany⟩, fun hs => absurd hs hmany⟩
      exact absurd (congrArg ReadReply.ret hp.2) hquiet
  · have hundelivered : ¬ Delivers ring eventNull numEvents := fun hd => hone ⟨hd.1, hd.2.1⟩
    have hread := ringHolds_retryRead h copyRet (fun hd => hundelivered hd.1)
    have hsafe : CopySafe (unseen ++ shown).length (.read eventNull numEvents copyRet) :=
      fun hnum hvalid => absurd ⟨hnum, hvalid⟩ hone
    rw [retryRead_other hone] at hread ⊢
    split at hread
    · next hflush =>
        rw [if_pos hflush]
        exact ⟨⟨fun _ => hsafe, fun _ => ⟨fun hd => hundelivered hd.1, hread.2⟩⟩,
          fun _ => ringShows_of_holds hread.1⟩
    · next hflush =>
        rw [if_neg hflush]
        exact ⟨⟨fun _ => hsafe, fun _ => ⟨fun hd => hundelivered hd.1, hread.2⟩⟩,
          fun _ => ⟨unseen, shown, rfl, hlaps, hread.1⟩⟩

theorem ringShows_retryRead {ring : UmodRing} {queue : List VqmbtEvent} (h : RingShows ring queue)
    (eventNull : Bool) (numEvents copyRet : Int) :
    ((FailedReadKeeps ring (.read eventNull numEvents copyRet) ∧
        (kvqmbtReadEvent copyRet ring eventNull numEvents).2 =
          (retryRead copyRet queue eventNull numEvents).2) ↔
      CopySafe queue.length (.read eventNull numEvents copyRet)) ∧
      (CopySafe queue.length (.read eventNull numEvents copyRet) →
        RingShows (kvqmbtReadEvent copyRet ring eventNull numEvents).1
          (retryRead copyRet queue eventNull numEvents).1) := by
  obtain ⟨unseen, shown, rfl, hlaps, hholds⟩ := h
  rw [failedReadKeeps_iff]
  cases unseen with
  | nil =>
      rw [List.nil_append, unlapped_read hholds]
      refine ⟨⟨fun h => h.1, fun hsafe => ⟨hsafe, ?_⟩⟩, fun hsafe => ?_⟩
      · exact (ringHolds_retryRead hholds copyRet hsafe).2
      · exact ringShows_of_holds (ringHolds_retryRead hholds copyRet hsafe).1
  | cons event unseen => exact ringShows_lapped (by simp) hlaps hholds eventNull numEvents copyRet

theorem failed_read_loses_nothing_iff (eventFlagUid : Int) (ring : UmodRing)
    (past : List RingCall) :
    LosesNothing eventFlagUid ring past ↔ ∀ call older, call :: older <:+ past →
      CopySafe ((retryMachine (pendingEvents ring)).after older).length call := by
  refine (ringMachine eventFlagUid ring).simulation_iff (retryMachine (pendingEvents ring))
    (R := RingShows) (P := fun ring' queue call => FailedReadKeeps ring' call ∧
      ((ringMachine eventFlagUid ring).step ring' call).2 =
        ((retryMachine (pendingEvents ring)).step queue call).2)
    (Q := fun queue call => CopySafe queue.length call)
    (ringShows_of_holds (ringHolds_pending ring)) ?_ past
  intro ring' queue call hshows
  cases call with
  | emit event =>
      obtain ⟨hnext, hret⟩ := ringShows_emit hshows eventFlagUid event
      exact ⟨⟨fun _ => trivial, fun _ => ⟨trivial, emit_reply hret⟩⟩, fun _ => hnext⟩
  | read eventNull numEvents copyRet =>
      exact ringShows_retryRead hshows eventNull numEvents copyRet

theorem failed_read_loses_event :
    ¬ ∀ (eventFlagUid : Int) (ring : UmodRing) (past : List RingCall),
      LosesNothing eventFlagUid ring past := by
  intro hall
  have hkeeps := (hall (-1) ⟨fun _ => ⟨.deviceConnectSuccess, 1, 1⟩, 1, 0⟩ [.read false 1 (-1)]
    _ _ (List.suffix_refl _)).1
  rw [failedReadKeeps_iff] at hkeeps
  exact hkeeps (by decide)

end VitaQmBluetooth
