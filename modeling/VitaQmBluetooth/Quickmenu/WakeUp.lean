import VitaQmBluetooth.Quickmenu.EventLoop

namespace VitaQmBluetooth

open Foundation

def LoopSystem.Signalled (s : LoopSystem) : Prop := s.flag = true ∨ s.signalling = true

def LoopSystem.Caught (s : LoopSystem) (w : UnsignedInt) : Prop :=
  s.race.ring.writeIdx = w ∨ s.Signalled

def LoopAt.Drained : LoopAt → Prop
  | .readingBluetooth true | .readingDevices true _ | .applying true _ => True
  | .gettingFlag | .looping | .waiting => True
  | _ => False

structure Watched (s : LoopSystem) : Prop where
  fits : CallFits s.thread s.race.consumer
  loaded : ∀ n i, s.race.consumer = .loadedRead n i → i = s.race.ring.readIdx
  target : ∀ i w outcome, s.race.consumer = .jumping i w outcome → s.Caught w
  drained : s.thread.Drained → s.Caught s.race.ring.readIdx

def Works : LoopStep → Prop
  | .setFlag ret => 0 ≤ ret
  | .consumer (.copyToUser ret) => 0 ≤ ret
  | _ => True

instance (a : LoopStep) : Decidable (Works a) := by
  unfold Works
  split <;> infer_instance

theorem caught_emitter {eventFlagUid : Int} (hflag : 0 ≤ eventFlagUid) {s t : LoopSystem}
    {a : LoopStep} (h : emitterStep eventFlagUid s a = some t) (hworks : Works a)
    {w : UnsignedInt} (hw : s.Caught w) : t.Caught w := by
  unfold emitterStep at h
  split at h
  · next a =>
      split at h
      · cases h
      · next hquiet =>
          simp only [Option.map_eq_some_iff] at h
          obtain ⟨race, hrace, rfl⟩ := h
          obtain ⟨_, _, hsame | rfl⟩ := producer_frame hrace
          · refine hw.imp (fun heq => hsame.trans heq) fun hsignalled => ?_
            exact .inl (hsignalled.resolve_right hquiet)
          · exact .inr (.inr (by simpa using hflag))
  · next ret =>
      split at h
      · cases h
        exact .inr (.inl (if_neg (Int.not_lt.mpr hworks)))
      · cases h
  · cases h

theorem watched_emitter {eventFlagUid : Int} (hflag : 0 ≤ eventFlagUid) {s t : LoopSystem}
    {a : LoopStep} (h : emitterStep eventFlagUid s a = some t) (hworks : Works a)
    (hs : Watched s) : Watched t := by
  obtain ⟨hthread, _, hconsumer, hread⟩ := emitter_frame h
  refine ⟨?_, ?_, ?_, ?_⟩
  · rw [hthread, hconsumer]
    exact hs.fits
  · rw [hconsumer, hread]
    exact hs.loaded
  · rw [hconsumer]
    exact fun i w outcome hc => caught_emitter hflag h hworks (hs.target i w outcome hc)
  · rw [hthread, hread]
    exact fun hd => caught_emitter hflag h hworks (hs.drained hd)

theorem watched_outside {s : LoopSystem} (hfits : CallFits s.thread s.race.consumer)
    (hloaded : ∀ n i, s.race.consumer ≠ .loadedRead n i)
    (htarget : ∀ i w outcome, s.race.consumer ≠ .jumping i w outcome)
    (hdrained : ¬ s.thread.Drained) : Watched s where
  fits := hfits
  loaded n i h := absurd h (hloaded n i)
  target i w outcome h := absurd h (htarget i w outcome)
  drained h := absurd h hdrained

theorem watched_jumping {s : LoopSystem} {readIdx : UnsignedInt} {outcome : ReadOutcome}
    (hfits : CallFits s.thread s.race.consumer)
    (hjump : s.race.consumer = .jumping readIdx s.race.ring.writeIdx outcome)
    (hdrained : ¬ s.thread.Drained) : Watched s where
  fits := hfits
  loaded n i h := by simp [hjump] at h
  target i w outcome h := by
    rw [hjump] at h
    cases h
    exact .inl rfl
  drained h := absurd h hdrained

theorem watched_call {s : LoopSystem} {a : ReadStep} {race : RingRace} {done : Option ReadOutcome}
    (hs : Watched s) (hworks : Works (.consumer a)) (hcall : s.thread.InCall)
    (h : CallStep s.race.ring s.race.consumer a race.ring race.consumer done) :
    Watched { s with
      race := race
      thread := s.thread.afterStep done
      snapshot := s.snapshot.afterStep a } := by
  have hfits := callFits_move (ThreadMove.call hcall h) hs.fits
  obtain ⟨⟨ring, producer, consumer, torn, ledger⟩, signalling, flag, thread, menu, snapshot⟩ := s
  obtain ⟨ring', producer', consumer', torn', ledger'⟩ := race
  have hquiet : ¬ thread.Drained := by
    cases thread <;> first | exact id | exact hcall.elim
  change CallStep ring consumer a ring' consumer' done at h
  cases h with
  | readIdx =>
      refine ⟨hfits, fun n i hc => ?_, nofun, fun hd => absurd hd hquiet⟩
      cases hc
      rfl
  | empty =>
      have hread := hs.loaded _ _ rfl
      exact ⟨hfits, nofun, nofun, fun _ => .inl hread⟩
  | flush _ => exact watched_jumping hfits rfl hquiet
  | overrun _ => exact watched_jumping hfits rfl hquiet
  | load _ => exact watched_outside hfits (by simp) (by simp) hquiet
  | field => exact watched_outside hfits (by simp) (by simp) hquiet
  | overtaken => exact watched_jumping hfits rfl hquiet
  | checked => exact watched_outside hfits (by simp) (by simp) hquiet
  | jump => exact ⟨hfits, nofun, nofun, fun _ => hs.target _ _ _ rfl⟩
  | commit => exact watched_outside hfits (by simp) (by simp) hquiet
  | exportFails hneg => exact absurd hneg (Int.not_lt.mpr hworks)
  | @deliver i copy ret seq _ =>
      refine ⟨hfits, nofun, nofun, fun hd => ?_⟩
      cases thread with
      | reading =>
          simp only [LoopAt.afterStep, LoopAt.afterCall, ReadOutcome.reply, fetchNext_event] at hd
          exact hd.elim
      | flushing starting => exact hs.fits.elim
      | _ => exact hcall.elim

theorem watched_move {s t : LoopSystem} {a : LoopStep} (h : ThreadMove s a t)
    (hworks : Works a) (hs : Watched s) : Watched t := by
  have hfits := callFits_move h hs.fits
  have hkeep {menu : QmModule} {current next : LoopAt} {snapshot : Snapshot}
      (hfits : CallFits next s.race.consumer) (hthread : s.thread = current)
      (hdrained : next.Drained → current.Drained) :
      Watched { s with menu := menu, thread := next, snapshot := snapshot } :=
    ⟨hfits, hs.loaded, hs.target, fun hd => hs.drained (hthread ▸ hdrained hd)⟩
  cases h with
  | beginFlush _ _ => exact watched_outside hfits (by simp) (by simp) id
  | beginRead _ _ => exact watched_outside hfits (by simp) (by simp) id
  | call hcall hstep => exact watched_call hs hworks hcall hstep
  | @bluetoothState starting bluetoothOn hthread =>
      refine hkeep hfits hthread ?_
      cases starting <;> exact id
  | @pairedDevices starting bluetoothOn devices hthread =>
      refine hkeep hfits hthread ?_
      cases starting <;> exact id
  | @pairedFails starting bluetoothOn hthread =>
      refine hkeep hfits hthread ?_
      cases starting <;> exact id
  | @apply starting bulk menu hthread =>
      refine hkeep hfits hthread ?_
      cases starting <;> exact id
  | getFlag hthread => exact hkeep hfits hthread fun _ => trivial
  | loopHead hthread => exact hkeep hfits hthread fun _ => trivial
  | wake hthread _ =>
      have hidle := callFits_idle hs.fits (by simp [hthread, LoopAt.InCall])
      exact watched_outside hfits (by simp [hidle]) (by simp [hidle]) id
  | timeout hthread => exact hkeep hfits hthread False.elim
  | waitFails hthread => exact hkeep hfits hthread False.elim
  | handled hthread => exact hkeep hfits hthread False.elim
  | handledReset hthread => exact hkeep hfits hthread False.elim

theorem no_lost_wakeup {eventFlagUid : Int} (hflag : 0 ≤ eventFlagUid)
    {past : List (Transition LoopSystem LoopStep)} {s : LoopSystem}
    (hrun : (eventLoop eventFlagUid).Run past s) (hworks : ∀ x ∈ past, Works x.act)
    (hwaiting : s.thread = .waiting) (hclear : s.flag = false) (hsettled : s.signalling = false) :
    s.race.ring.readIdx = s.race.ring.writeIdx := by
  have hs : Watched s := by
    refine hrun.invariant (P := fun x => Works x.act) ?_ ?_ hworks
    · rintro s ⟨hidle, hthread, _⟩
      refine watched_outside ?_ (by simp [hidle]) (by simp [hidle]) (by rw [hthread]; exact id)
      rw [hidle, hthread]
      rfl
    · intro s a t hstep hok hs
      rcases loop_step hstep with hemit | hmove
      · exact watched_emitter hflag hemit hok hs
      · exact watched_move hmove hok hs
  have hdrained : s.thread.Drained := by
    rw [hwaiting]
    trivial
  rcases hs.drained hdrained with hread | hset | hset
  · exact hread.symm
  · exact absurd hset (by simp [hclear])
  · exact absurd hset (by simp [hsettled])

def opening : List LoopStep :=
  [.beginFlush, .consumer .loadReadIdx, .consumer .loadWriteIdx, .bluetoothState true,
    .pairedDevices [], .apply, .getFlag 7, .loopHead true]

def emission : List LoopStep :=
  [.producer (.emit (some ⟨.bluetoothDisabled, 0, 0⟩)), .producer .loadWriteIdx,
    .producer (.storeField .id), .producer (.storeField .mac0), .producer (.storeField .mac1),
    .producer .publish, .setFlag 0]

def draining : List LoopStep :=
  [.wake, .beginRead, .consumer .loadReadIdx, .consumer .loadWriteIdx, .consumer (.loadField .id),
    .consumer (.loadField .mac0), .consumer (.loadField .mac1), .consumer .reloadWriteIdx,
    .consumer .commit, .consumer (.copyToUser 0), .handle, .beginRead, .consumer .loadReadIdx,
    .consumer .loadWriteIdx, .loopHead true]

theorem woken_plays :
    ((eventLoop 7).play [] (.boot ⟨fun _ => .zeroed, 0, 0⟩)
      (opening ++ emission ++ draining)).isSome := by decide +kernel

theorem no_lost_wakeup_woken :
    let s := ((eventLoop 7).played (.boot ⟨fun _ => .zeroed, 0, 0⟩)
      (opening ++ emission ++ draining) woken_plays).2
    s.race.ring.readIdx = s.race.ring.writeIdx :=
  no_lost_wakeup (by decide) (Lts.run_played (start_loop 7 _) woken_plays) (by decide +kernel)
    (by rfl) (by decide +kernel) (by decide +kernel)

end VitaQmBluetooth
