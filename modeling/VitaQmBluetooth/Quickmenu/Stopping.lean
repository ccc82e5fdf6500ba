import VitaQmBluetooth.Quickmenu.Draining

namespace VitaQmBluetooth

open Foundation

def stoppingLoop (eventFlagUid : Int) (s : LoopSystem) : Lts LoopSystem LoopStep where
  start t := t = s
  step t a :=
    match a with
    | .loopHead true => none
    | a => (eventLoop eventFlagUid).step t a

def LoopStep.waitsOver : LoopStep → Nat
  | .wake | .timeout | .waitFails => 1
  | _ => 0

def LoopAt.waits : LoopAt → Nat
  | .waiting => 1
  | _ => 0

theorem stopping_step {eventFlagUid : Int} {s t u : LoopSystem} {a : LoopStep}
    (h : (stoppingLoop eventFlagUid s).step t a = some u) :
    a ≠ .loopHead true ∧ (eventLoop eventFlagUid).step t a = some u := by
  simp only [stoppingLoop] at h
  split at h
  · cases h
  · next hnot => exact ⟨hnot, h⟩

theorem step_stopping {eventFlagUid : Int} (s : LoopSystem) {t u : LoopSystem} {a : LoopStep}
    (ha : a ≠ .loopHead true) (h : (eventLoop eventFlagUid).step t a = some u) :
    (stoppingLoop eventFlagUid s).step t a = some u := by
  unfold stoppingLoop
  dsimp only
  split
  · exact absurd rfl ha
  · exact h

theorem waits_le (thread : LoopAt) : thread.waits ≤ 1 := by
  cases thread <;> simp [LoopAt.waits]

theorem waits_afterReset (starting : Bool) : (LoopAt.afterReset starting).waits = 0 := by
  cases starting <;> rfl

theorem waits_afterStep {thread : LoopAt} (h : thread.InCall) (done : Option ReadOutcome) :
    (thread.afterStep done).waits = 0 := by
  cases done with
  | none => cases thread <;> first | rfl | exact h.elim
  | some outcome =>
      cases thread with
      | flushing starting => rfl
      | reading =>
          simp only [LoopAt.afterStep, LoopAt.afterCall]
          split <;> rfl
      | _ => exact h.elim

theorem move_waits {s t : LoopSystem} {a : LoopStep} (h : ThreadMove s a t)
    (ha : a ≠ .loopHead true) : a.waitsOver + t.thread.waits ≤ s.thread.waits := by
  cases h with
  | call hcall _ => simp [LoopStep.waitsOver, waits_afterStep hcall]
  | pairedFails _ => simp [LoopStep.waitsOver, waits_afterReset]
  | apply _ => simp [LoopStep.waitsOver, waits_afterReset]
  | @getFlag ret _ => by_cases hret : ret < 0 <;> simp [LoopStep.waitsOver, LoopAt.waits, hret]
  | @loopHead runThread _ =>
      cases runThread with
      | true => exact absurd rfl ha
      | false => simp [LoopStep.waitsOver, LoopAt.waits]
  | wake hthread _ => simp [LoopStep.waitsOver, LoopAt.waits, hthread]
  | timeout hthread => simp [LoopStep.waitsOver, LoopAt.waits, hthread]
  | waitFails hthread => simp [LoopStep.waitsOver, LoopAt.waits, hthread]
  | _ => simp [LoopStep.waitsOver, LoopAt.waits]

theorem stopping_waits {eventFlagUid : Int} {s t u : LoopSystem} {a : LoopStep}
    (h : (stoppingLoop eventFlagUid s).step t a = some u) :
    a.waitsOver + u.thread.waits ≤ t.thread.waits := by
  obtain ⟨ha, hstep⟩ := stopping_step h
  rcases loop_step hstep with hemit | hmove
  · obtain ⟨hthread, _⟩ := emitter_frame hemit
    rw [hthread]
    cases a with
    | producer e => exact Nat.le_of_eq (Nat.zero_add _)
    | setFlag ret => exact Nat.le_of_eq (Nat.zero_add _)
    | _ => cases hemit
  · exact move_waits hmove ha

theorem total_timedOut_le (past : List (Transition LoopSystem LoopStep)) :
    Lts.total LoopStep.timedOut past ≤ Lts.total LoopStep.waitsOver past := by
  induction past with
  | nil => exact Nat.le_refl 0
  | cons x older ih =>
      have hone : x.act.timedOut ≤ x.act.waitsOver := by cases x.act <;> simp [LoopStep.timedOut,
        LoopStep.waitsOver]
      exact Nat.add_le_add hone ih

theorem stopping_goes (eventFlagUid : Int) (s : LoopSystem) {t : LoopSystem}
    (hfits : CallFits t.thread t.race.consumer) (hended : t.thread ≠ .ended) :
    ∃ a, a.ofThread = 1 ∧ ((stoppingLoop eventFlagUid s).step t a).isSome := by
  have hgoes {a : LoopStep} {u : LoopSystem} (hown : a.ofThread = 1) (ha : a ≠ .loopHead true)
      (hstep : loopThreadStep t a = some u) :
      ∃ a, a.ofThread = 1 ∧ ((stoppingLoop eventFlagUid s).step t a).isSome := by
    refine ⟨a, hown, Option.isSome_iff_exists.mpr ⟨u, step_stopping s ha ?_⟩⟩
    cases a with
    | producer e => cases hown
    | setFlag ret => cases hown
    | _ => simpa only [eventLoop, emitterStep, Option.none_or] using hstep
  by_cases hrest : t.AtRest
  · obtain ⟨hwaiting, _⟩ := hrest.resolve_left hended
    have htimeout : loopThreadStep t .timeout = some { t with thread := .fetching } := by
      simp only [loopThreadStep, hwaiting]
    exact hgoes rfl (by simp) htimeout
  · obtain ⟨a, hown, _, u, hstep⟩ := thread_goes hfits hrest
    by_cases ha : a = .loopHead true
    · subst ha
      cases thread_move hstep with
      | loopHead hlooping =>
          have hleaves : loopThreadStep t (.loopHead false) = some { t with thread := .ended } := by
            simp [loopThreadStep, hlooping]
          exact hgoes rfl (by simp) hleaves
    · refine hgoes ?_ ha hstep
      cases a with
      | producer e => exact hown.elim
      | setFlag ret => exact hown.elim
      | _ => rfl

theorem stopping_thread_ends {eventFlagUid : Int}
    {past : List (Transition LoopSystem LoopStep)} {s : LoopSystem}
    (hrun : (eventLoop eventFlagUid).Run past s)
    (hquiet : (Lts.origin past s).race.producer = .idle) :
    ∃ most, ∀ later t, (stoppingLoop eventFlagUid s).Run later t →
      Lts.total LoopStep.waitsOver later ≤ 1 ∧
      Lts.total LoopStep.ofThread later ≤ 22 * Lts.total LoopStep.published later + most ∧
      (t.thread ≠ .ended →
        ∃ a, a.ofThread = 1 ∧ ((stoppingLoop eventFlagUid s).step t a).isSome) := by
  obtain ⟨n, hs, _⟩ := hrun.amortized (fun _ _ _ _ => pace_step ⟨1, 1, 1⟩)
    ⟨_, keepsPace_origin hrun hquiet, rfl⟩
  refine ⟨n + 5, fun later t hlater => ?_⟩
  have horigin : Lts.origin later t = s := hlater.origin_start
  obtain ⟨n', ⟨b, ht, _⟩, hpaid⟩ := hlater.amortized
    (fun u a v n hstep (hu : ∃ b, KeepsPace u b ∧ Prices.stored ⟨1, 1, 1⟩ u b = n) =>
      pace_step ⟨1, 1, 1⟩ (stopping_step hstep).2 hu) (horigin.symm ▸ hs)
  have hwaits : Lts.total LoopStep.waitsOver later ≤ 1 := by
    have hspent := hlater.spends (w := fun u => u.thread.waits) fun _ _ _ => stopping_waits
    have hone := waits_le (Lts.origin later t).thread
    omega
  refine ⟨hwaits, ?_, stopping_goes eventFlagUid s ht.fits⟩
  have htimeouts := total_timedOut_le later
  have hthread : Prices.cost ⟨1, 1, 1⟩ = LoopStep.ofThread := by
    funext a
    cases a <;> rfl
  have hsteps : Lts.total LoopStep.ofThread later + n' ≤
      Lts.total (Prices.gain ⟨1, 1, 1⟩) later + n := hthread ▸ hpaid
  rw [gain_linear, Lts.total_linear] at hsteps
  simp only [Prices.event, Prices.check] at hsteps
  omega

theorem stopping_thread_ends_waiting :
    let s := ((eventLoop 7).played (.boot ⟨fun _ => .zeroed, 0, 0⟩)
      (opening ++ emission) emitted_plays).2
    ∃ most, ∀ later t, (stoppingLoop 7 s).Run later t →
      Lts.total LoopStep.waitsOver later ≤ 1 ∧
      Lts.total LoopStep.ofThread later ≤ 22 * Lts.total LoopStep.published later + most ∧
      (t.thread ≠ .ended → ∃ a, a.ofThread = 1 ∧ ((stoppingLoop 7 s).step t a).isSome) :=
  stopping_thread_ends (Lts.run_played (start_loop 7 _) emitted_plays) (by decide +kernel)

end VitaQmBluetooth
