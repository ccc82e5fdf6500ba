import VitaQmBluetooth.Quickmenu.EventLoop

namespace VitaQmBluetooth

open Foundation

def Resynced (s : LoopSystem) : Prop :=
  (s.thread = .waiting ∨ ∃ event, s.thread = .handling event) → s.snapshot = .current

def ListObtained (x : Transition LoopSystem LoopStep) : Prop :=
  match x.act with
  | .pairedFails => x.before.snapshot = .current
  | _ => True

instance (x : Transition LoopSystem LoopStep) : Decidable (ListObtained x) := by
  unfold ListObtained
  split <;> infer_instance

def SnapshotFits : Snapshot → LoopAt → Prop
  | .current, _ => True
  | .missed, .resetting _ | .missed, .flushing _ | .missed, .readingBluetooth _ => True
  | .rereading, .readingDevices _ _ | .rereading, .applying _ _ => True
  | _, _ => False

theorem snapshotFits_fresh {snapshot : Snapshot} {thread : LoopAt}
    (h : SnapshotFits snapshot thread) (hmissed : ¬ SnapshotFits .missed thread)
    (hrereading : ¬ SnapshotFits .rereading thread) : snapshot = .current := by
  cases snapshot with
  | current => rfl
  | missed => exact absurd h hmissed
  | rereading => exact absurd h hrereading

theorem snapshotFits_leave {snapshot : Snapshot} {thread current next : LoopAt}
    (hthread : thread = current) (h : SnapshotFits snapshot thread)
    (hmissed : ¬ SnapshotFits .missed current) (hrereading : ¬ SnapshotFits .rereading current) :
    SnapshotFits snapshot next := by
  rw [hthread] at h
  rw [snapshotFits_fresh h hmissed hrereading]
  trivial

theorem snapshotFits_call {snapshot : Snapshot} {thread : LoopAt} {c c' : ConsumerAt}
    {ring ring' : UmodRing} {a : ReadStep} {done : Option ReadOutcome}
    (hstep : CallStep ring c a ring' c' done) (hcall : thread.InCall) (hfits : CallFits thread c)
    (h : SnapshotFits snapshot thread) :
    SnapshotFits (snapshot.afterStep a) (thread.afterStep done) := by
  cases thread with
  | flushing starting =>
      cases hstep <;> cases snapshot <;> trivial
  | reading =>
      obtain rfl := snapshotFits_fresh h id id
      cases hstep with
      | jump =>
          obtain rfl := hfits
          trivial
      | _ => trivial
  | _ => exact hcall.elim

theorem snapshotFits_move {s t : LoopSystem} {a : LoopStep} (hmove : ThreadMove s a t)
    (hlist : ListObtained ⟨s, a, t⟩) (hfits : CallFits s.thread s.race.consumer)
    (h : SnapshotFits s.snapshot s.thread) : SnapshotFits t.snapshot t.thread := by
  obtain ⟨race, signalling, flag, thread, menu, snapshot⟩ := s
  cases hmove with
  | call hcall hstep => exact snapshotFits_call hstep hcall hfits h
  | beginFlush hthread _ =>
      obtain rfl := hthread
      cases snapshot <;> trivial
  | bluetoothState hthread =>
      obtain rfl := hthread
      cases snapshot <;> trivial
  | pairedDevices hthread =>
      obtain rfl := hthread
      cases snapshot <;> trivial
  | pairedFails _ =>
      obtain rfl : snapshot = .current := hlist
      trivial
  | apply hthread =>
      obtain rfl := hthread
      cases snapshot <;> trivial
  | beginRead hthread _ => exact snapshotFits_leave hthread h id id
  | getFlag hthread => exact snapshotFits_leave hthread h id id
  | loopHead hthread => exact snapshotFits_leave hthread h id id
  | wake hthread _ => exact snapshotFits_leave hthread h id id
  | timeout hthread => exact snapshotFits_leave hthread h id id
  | waitFails hthread => exact snapshotFits_leave hthread h id id
  | handled hthread => exact snapshotFits_leave hthread h id id
  | handledReset hthread => exact snapshotFits_leave hthread h id id

theorem discard_resynced {eventFlagUid : Int} {past : List (Transition LoopSystem LoopStep)}
    {s : LoopSystem} (hrun : (eventLoop eventFlagUid).Run past s)
    (hlists : ∀ x ∈ past, ListObtained x) : Resynced s := by
  have h : CallFits s.thread s.race.consumer ∧ SnapshotFits s.snapshot s.thread := by
    refine hrun.invariant (I := fun s => CallFits s.thread s.race.consumer ∧
      SnapshotFits s.snapshot s.thread) ?_ ?_ hlists
    · rintro s ⟨hidle, hthread, hsnapshot⟩
      rw [hidle, hthread, hsnapshot]
      exact ⟨rfl, trivial⟩
    · rintro s a t hstep hlist ⟨hfits, hsnapshot⟩
      rcases loop_step hstep with hemit | hmove
      · obtain ⟨hsame, hkept, hconsumer, _⟩ := emitter_frame hemit
        rw [hsame, hkept, hconsumer]
        exact ⟨hfits, hsnapshot⟩
      · exact ⟨callFits_move hmove hfits, snapshotFits_move hmove hlist hfits hsnapshot⟩
  rintro (hwaiting | ⟨event, hhandling⟩)
  · rw [hwaiting] at h
    exact snapshotFits_fresh h.2 id id
  · rw [hhandling] at h
    exact snapshotFits_fresh h.2 id id

def onePending : UmodRing := ⟨fun _ => ⟨.deviceDisconnected, 1, 1⟩, 1, 0⟩

def discarding : List LoopStep :=
  [.beginFlush, .consumer .loadReadIdx, .consumer .loadWriteIdx, .consumer .jump,
    .bluetoothState true]

def refreshed : List LoopStep :=
  discarding ++ [.pairedDevices [], .apply, .getFlag 7, .loopHead true]

theorem refreshed_plays : ((eventLoop 7).play [] (.boot onePending) refreshed).isSome := by
  decide +kernel

theorem discard_resynced_refreshed :
    ((eventLoop 7).played (.boot onePending) refreshed refreshed_plays).2.snapshot = .current :=
  discard_resynced (Lts.run_played (start_loop 7 onePending) refreshed_plays) (by decide +kernel)
    (.inl rfl)

def abandoned : List LoopStep := discarding ++ [.pairedFails, .getFlag 7, .loopHead true]

theorem abandoned_plays : ((eventLoop 7).play [] (.boot onePending) abandoned).isSome := by
  decide +kernel

theorem discard_forgotten :
    ¬ ∀ (eventFlagUid : Int) (past : List (Transition LoopSystem LoopStep)) (s : LoopSystem),
      (eventLoop eventFlagUid).Run past s → Resynced s := by
  intro hall
  have hresynced := hall 7 _ _ (Lts.run_played (start_loop 7 onePending) abandoned_plays)
  have hcurrent := hresynced (.inl rfl)
  exact absurd hcurrent (by decide +kernel)

end VitaQmBluetooth
