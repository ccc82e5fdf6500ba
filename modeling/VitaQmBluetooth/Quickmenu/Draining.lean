import VitaQmBluetooth.Quickmenu.Pace

namespace VitaQmBluetooth

open Foundation

def LoopStep.Own : LoopStep → Prop
  | .producer _ | .setFlag _ | .timeout | .waitFails => False
  | _ => True

theorem own_step (eventFlagUid : Int) (s : LoopSystem) {a : LoopStep} (hown : a.Own) :
    (eventLoop eventFlagUid).step s a = loopThreadStep s a := by
  cases a with
  | producer e => exact hown.elim
  | setFlag ret => exact hown.elim
  | _ => simp only [eventLoop, emitterStep, Option.none_or]

theorem own_paid {a : LoopStep} (hown : a.Own) :
    Prices.cost ⟨1, 1, 1⟩ a = 1 ∧ Prices.gain ⟨1, 1, 1⟩ a = 0 := by
  cases a with
  | producer e => exact hown.elim
  | setFlag ret => exact hown.elim
  | timeout => exact hown.elim
  | _ => exact ⟨rfl, rfl⟩

theorem call_goes {thread : LoopAt} {r : RingRace} (hcall : thread.InCall)
    (hfits : CallFits thread r.consumer) :
    ∃ a, ¬ a.Begins ∧ Works (.consumer a) ∧ ∃ t, consumerStep r a = some t := by
  cases hc : r.consumer with
  | idle =>
      rw [hc] at hfits
      cases thread with
      | flushing starting => exact hfits.elim
      | reading => exact hfits.elim
      | _ => exact hcall.elim
  | called n => exact ⟨.loadReadIdx, id, trivial, by simp [consumerStep, hc]⟩
  | loadedRead n i =>
      refine ⟨.loadWriteIdx, id, trivial, ?_⟩
      simp only [consumerStep, hc]
      split
      · exact ⟨_, rfl⟩
      · split
        · exact ⟨_, rfl⟩
        · split <;> exact ⟨_, rfl⟩
  | jumping i w outcome => exact ⟨.jump, id, trivial, by simp [consumerStep, hc]⟩
  | loading i copy todo =>
      cases todo with
      | nil =>
          refine ⟨.reloadWriteIdx, id, trivial, ?_⟩
          simp only [consumerStep, hc]
          split <;> exact ⟨_, rfl⟩
      | cons f todo => exact ⟨.loadField f, id, trivial, by simp [consumerStep, hc]⟩
  | committing i copy => exact ⟨.commit, id, trivial, by simp [consumerStep, hc]⟩
  | exporting i copy =>
      exact ⟨.copyToUser 0, id, Int.le_refl 0, by simp [consumerStep, hc]⟩

theorem call_consumes {s : LoopSystem} {a : ReadStep} (hcall : s.thread.InCall)
    (hbegins : ¬ a.Begins) : loopThreadStep s (.consumer a) = s.consume a := by
  cases hthread : s.thread with
  | flushing starting =>
      cases a with
      | read _ _ => exact absurd trivial hbegins
      | _ => simp only [loopThreadStep, hthread]
  | reading =>
      cases a with
      | read _ _ => exact absurd trivial hbegins
      | _ => simp only [loopThreadStep, hthread]
  | _ => exact absurd hcall (by rw [hthread]; exact id)

def LoopSystem.AtRest (s : LoopSystem) : Prop :=
  s.thread = .ended ∨ s.thread = .waiting ∧ s.flag = false

theorem thread_goes {s : LoopSystem} (hfits : CallFits s.thread s.race.consumer)
    (hrest : ¬ s.AtRest) :
    ∃ a : LoopStep, a.Own ∧ Works a ∧ ∃ t, loopThreadStep s a = some t := by
  have hidle (hcall : ¬ s.thread.InCall) : s.race.consumer = .idle := callFits_idle hfits hcall
  have hinside (hcall : s.thread.InCall) :
      ∃ a : LoopStep, a.Own ∧ Works a ∧ ∃ t, loopThreadStep s a = some t := by
    obtain ⟨a, hbegins, hworks, race, hrace⟩ := call_goes hcall hfits
    refine ⟨.consumer a, trivial, hworks, ?_⟩
    rw [call_consumes hcall hbegins]
    simp only [LoopSystem.consume, hrace, Option.map_some]
    exact ⟨_, rfl⟩
  cases hthread : s.thread with
  | resetting starting =>
      refine ⟨.beginFlush, trivial, trivial, ?_⟩
      simp [loopThreadStep, hthread, consumerStep, hidle (by rw [hthread]; exact id)]
  | flushing starting => exact hinside (by rw [hthread]; trivial)
  | readingBluetooth starting =>
      exact ⟨.bluetoothState true, trivial, trivial, by simp [loopThreadStep, hthread]⟩
  | readingDevices starting bluetoothOn =>
      exact ⟨.pairedDevices [], trivial, trivial, by simp [loopThreadStep, hthread]⟩
  | applying starting bulk =>
      exact ⟨.apply, trivial, trivial, by simp [loopThreadStep, hthread]⟩
  | gettingFlag => exact ⟨.getFlag 0, trivial, trivial, by simp [loopThreadStep, hthread]⟩
  | looping => exact ⟨.loopHead true, trivial, trivial, by simp [loopThreadStep, hthread]⟩
  | waiting =>
      have hflag : s.flag = true := by
        by_contra hclear
        exact hrest (.inr ⟨hthread, by simpa using hclear⟩)
      exact ⟨.wake, trivial, trivial, by simp [loopThreadStep, hthread, hflag]⟩
  | fetching =>
      refine ⟨.beginRead, trivial, trivial, ?_⟩
      simp [loopThreadStep, hthread, consumerStep, hidle (by rw [hthread]; exact id)]
  | reading => exact hinside (by rw [hthread]; trivial)
  | handling event =>
      refine ⟨.handle, trivial, trivial, ?_⟩
      simp only [loopThreadStep, hthread]
      split <;> exact ⟨_, rfl⟩
  | ended => exact absurd (.inl hthread) hrest

theorem own_signalling {s t : LoopSystem} {a : LoopStep} (h : loopThreadStep s a = some t) :
    t.signalling = s.signalling := by
  cases thread_move h <;> rfl

structure DrainsWith (s : LoopSystem) (n : Nat) : Prop where
  watched : Watched s
  settled : s.signalling = false
  stores : ∃ b, KeepsPace s b ∧ Prices.stored ⟨1, 1, 1⟩ s b = n

theorem drainsWith_step {eventFlagUid : Int} {s t : LoopSystem} {a : LoopStep} {n : Nat}
    (ha : a.Own ∧ Works a) (h : (eventLoop eventFlagUid).step s a = some t)
    (hs : DrainsWith s n) : ∃ n', DrainsWith t n' ∧ n' < n := by
  rw [own_step eventFlagUid s ha.1] at h
  obtain ⟨b, hpace, rfl⟩ := hs.stores
  obtain ⟨b', ht, hpaid⟩ := pace_thread ⟨1, 1, 1⟩ h hpace
  obtain ⟨hcost, hgain⟩ := own_paid ha.1
  refine ⟨_, ⟨watched_move (thread_move h) ha.2 hs.watched, ?_, b', ht, rfl⟩, by omega⟩
  rw [own_signalling h]
  exact hs.settled

theorem watched_run {eventFlagUid : Int} (hflag : 0 ≤ eventFlagUid)
    {past : List (Transition LoopSystem LoopStep)} {s : LoopSystem}
    (hrun : (eventLoop eventFlagUid).Run past s) (hworks : ∀ x ∈ past, Works x.act) :
    Watched s := by
  refine hrun.invariant (P := fun x => Works x.act) ?_ ?_ hworks
  · rintro s ⟨hidle, hthread, _⟩
    refine watched_outside ?_ (by simp [hidle]) (by simp [hidle]) (by rw [hthread]; exact id)
    rw [hidle, hthread]
    rfl
  · intro s a t hstep hok hs
    rcases loop_step hstep with hemit | hmove
    · exact watched_emitter hflag hemit hok hs
    · exact watched_move hmove hok hs

theorem drainsWith_run {eventFlagUid : Int} (hflag : 0 ≤ eventFlagUid)
    {past : List (Transition LoopSystem LoopStep)} {s : LoopSystem}
    (hrun : (eventLoop eventFlagUid).Run past s) (hworks : ∀ x ∈ past, Works x.act)
    (hquiet : (Lts.origin past s).race.producer = .idle) (hsettled : s.signalling = false) :
    ∃ n, DrainsWith s n := by
  obtain ⟨n, hstores, _⟩ := hrun.amortized (fun _ _ _ _ => pace_step ⟨1, 1, 1⟩)
    ⟨_, keepsPace_origin hrun hquiet, rfl⟩
  exact ⟨n, watched_run hflag hrun hworks, hsettled, hstores⟩

theorem drains_unaided {eventFlagUid : Int} (hflag : 0 ≤ eventFlagUid)
    {past : List (Transition LoopSystem LoopStep)} {s : LoopSystem}
    (hrun : (eventLoop eventFlagUid).Run past s) (hworks : ∀ x ∈ past, Works x.act)
    (hquiet : (Lts.origin past s).race.producer = .idle) (hsettled : s.signalling = false) :
    ∃ most, ∀ acts t, (∀ a ∈ acts, LoopStep.Own a ∧ Works a) →
      (eventLoop eventFlagUid).exec s acts = some t →
      acts.length ≤ most ∧
        ((∀ a, LoopStep.Own a → Works a → (eventLoop eventFlagUid).step t a = none) →
          t.thread = .ended ∨
            t.thread = .waiting ∧ t.flag = false ∧ t.race.ring.readIdx = t.race.ring.writeIdx) := by
  obtain ⟨n, hs⟩ := drainsWith_run hflag hrun hworks hquiet hsettled
  refine ⟨n, ?_⟩
  intro acts t hacts hexec
  obtain ⟨n', ht, hlength⟩ := Lts.exec_consumes (fun _ _ _ _ => drainsWith_step) hacts hexec hs
  refine ⟨by omega, fun hstuck => ?_⟩
  have hrest : t.AtRest := by
    by_contra hrest
    obtain ⟨a, hown, hok, u, hu⟩ := thread_goes ht.watched.fits hrest
    have hnone := hstuck a hown hok
    rw [own_step eventFlagUid t hown, hu] at hnone
    cases hnone
  refine hrest.imp id ?_
  rintro ⟨hwaiting, hclear⟩
  refine ⟨hwaiting, hclear, ?_⟩
  rcases ht.watched.drained (by rw [hwaiting]; trivial) with hread | hset | hset
  · exact hread.symm
  · exact absurd hset (by simp [hclear])
  · exact absurd hset (by simp [ht.settled])

theorem emitted_plays :
    ((eventLoop 7).play [] (.boot ⟨fun _ => .zeroed, 0, 0⟩) (opening ++ emission)).isSome := by
  decide +kernel

theorem drains_unaided_emitted :
    let s := ((eventLoop 7).played (.boot ⟨fun _ => .zeroed, 0, 0⟩)
      (opening ++ emission) emitted_plays).2
    ∃ most, ∀ acts t, (∀ a ∈ acts, LoopStep.Own a ∧ Works a) →
      (eventLoop 7).exec s acts = some t →
      acts.length ≤ most ∧
        ((∀ a, LoopStep.Own a → Works a → (eventLoop 7).step t a = none) →
          t.thread = .ended ∨
            t.thread = .waiting ∧ t.flag = false ∧ t.race.ring.readIdx = t.race.ring.writeIdx) :=
  drains_unaided (by decide) (Lts.run_played (start_loop 7 _) emitted_plays) (by decide +kernel)
    (by decide +kernel) (by decide +kernel)

end VitaQmBluetooth
