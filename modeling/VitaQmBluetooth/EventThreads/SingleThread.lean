import Mathlib.Data.Set.Subsingleton
import VitaQmBluetooth.EventThreads.Lifecycle

namespace VitaQmBluetooth

open Foundation

structure SingleThread (s : ThreadSystem) : Prop where
  alive : s.threads.alive.Subsingleton
  started : s.returned = some (.start, some 0) → s.threads s.vars.uidThread = some .running
  stopped : s.returned = some (.stop, some 0) → ∀ uid, ¬ s.threads.Working uid

def ThreadSystem.call (s : ThreadSystem) : Option ThreadCall := s.pending.map fun c => c.2.1

def FailsToDelete (x : Transition ThreadSystem ThreadAct) (uid : Int) : Prop :=
  x.before.call = some (.deleteThread uid) ∧ ∃ ret < 0, x.act = .answer ret

def LeftBehind (past : List (Transition ThreadSystem ThreadAct)) (uid : Int) : Prop :=
  ∃ x ∈ past, FailsToDelete x uid

def Released (m : EventModule) (x : Transition ThreadSystem ThreadAct)
    (older : List (Transition ThreadSystem ThreadAct)) : Prop :=
  match x.before.call, x.act with
  | some .createThread, .answer ret =>
      0 ≤ ret → ∀ uid, LeftBehind older uid → uid ∉ x.before.threads.alive
  | some (.startThread _), .answer ret => m = .btEvent → 0 ≤ ret
  | some (.deleteThread uid), .answer ret =>
      m = .btEvent → ret < 0 → ¬ x.before.threads.Working uid
  | _, _ => True

namespace Threads

variable {threads : Threads} {uid other : Int} {status : Option ThreadStatus}

theorem alive_of_working (h : threads.Working uid) : uid ∈ threads.alive := .inr h

theorem alive_of_ne (hne : uid ≠ other) (h : uid ∈ (threads.set other status).alive) :
    uid ∈ threads.alive := by
  simpa [alive, Working, set_ne _ _ hne] using h

theorem alive_set_of_ne (hne : uid ≠ other) (h : uid ∈ threads.alive) :
    uid ∈ (threads.set other status).alive := by
  simpa [alive, Working, set_ne _ _ hne] using h

theorem alive_set_self :
    uid ∈ (threads.set uid status).alive ↔
      status = some .created ∨ status = some .running ∨ status = some .leaving := by
  simp [alive, Working, set_self]

theorem alive_of_removed (h : uid ∈ (threads.set other none).alive) :
    uid ≠ other ∧ uid ∈ threads.alive := by
  have hne : uid ≠ other := by
    rintro rfl
    simp [alive_set_self] at h
  exact ⟨hne, alive_of_ne hne h⟩

theorem alive_of_set_alive (hother : other ∈ threads.alive)
    (h : uid ∈ (threads.set other status).alive) : uid ∈ threads.alive := by
  by_cases hne : uid = other
  · exact hne ▸ hother
  · exact alive_of_ne hne h

end Threads

section

variable {m : EventModule} {s t : ThreadSystem} {p q : ThreadPoint} {a : ThreadAct}
  {vars : ThreadVars} {threads : Threads} {returned : Option (Entry × Option Int)}
  {older : List (Transition ThreadSystem ThreadAct)} {uid ret : Int}

theorem LifecycleMove.alive_cases (h : LifecycleMove m s p a q vars threads returned)
    (hfresh : p = .starting → s.threads s.vars.uidThread = some .created)
    (huid : uid ∈ threads.alive) :
    uid ∈ s.threads.alive ∨ p = .creating ∧ a = .answer uid ∧ 0 ≤ uid ∧ uid = vars.uidThread := by
  cases h with
  | creates hret hnone =>
      rename_i ret
      by_cases hne : uid = ret
      · exact .inr ⟨rfl, hne ▸ rfl, hne ▸ hret, hne⟩
      · exact .inl (Threads.alive_of_ne hne huid)
  | starts hret => exact .inl (Threads.alive_of_set_alive (.inl (hfresh rfl)) huid)
  | deletes => exact .inl (Threads.alive_of_removed huid).2
  | leaves hrunning _ => exact .inl (Threads.alive_of_set_alive (.inr (.inl hrunning)) huid)
  | finishes hleaving => exact .inl (Threads.alive_of_set_alive (.inr (.inr hleaving)) huid)
  | _ => exact .inl huid

theorem LifecycleMove.created (h : LifecycleMove m s p a q vars threads returned)
    (hfresh : p = .starting → s.threads s.vars.uidThread = some .created) (hq : q = .starting) :
    threads vars.uidThread = some .created := by
  cases h with
  | creates => exact Threads.set_self ..
  | leaves hrunning _ =>
      have hcreated := hfresh hq
      rw [Threads.set_ne _ _ (fun heq => by simp [← heq, hcreated] at hrunning), hcreated]
  | finishes hleaving =>
      have hcreated := hfresh hq
      rw [Threads.set_ne _ _ (fun heq => by simp [← heq, hcreated] at hleaving), hcreated]
  | _ => cases hq

theorem LifecycleMove.owner (h : LifecycleMove m s p a q vars threads returned)
    (hholds : p.Holds s.vars) (howned : 0 ≤ s.vars.uidThread)
    (halive : s.vars.uidThread ∈ threads.alive) :
    vars.uidThread = s.vars.uidThread ∨ p = .deleting ∧ ∃ ret < 0, a = .answer ret := by
  cases h with
  | createFails => exact absurd howned (Int.not_le.mpr hholds.1)
  | creates => exact absurd howned (Int.not_le.mpr hholds.1)
  | deleteFails hret => exact .inr ⟨rfl, _, hret, rfl⟩
  | deletes => exact absurd rfl (Threads.alive_of_removed halive).1
  | _ => exact .inl rfl

theorem leftBehind_cons {x : Transition ThreadSystem ThreadAct} :
    LeftBehind (x :: older) uid ↔ FailsToDelete x uid ∨ LeftBehind older uid := by
  simp [LeftBehind]

theorem failsToDelete_deleting (hp : s.At m .deleting) (ha : ∃ ret < 0, a = .answer ret) :
    FailsToDelete ⟨s, a, t⟩ s.vars.uidThread := by
  refine ⟨?_, ha⟩
  simp [ThreadSystem.call, hp.pending, ThreadPoint.pending]

theorem released_iff (hp : s.At m p) :
    Released m ⟨s, a, t⟩ older ↔
      match p, a with
      | .creating, .answer ret => 0 ≤ ret → ∀ uid, LeftBehind older uid → uid ∉ s.threads.alive
      | .starting, .answer ret => m = .btEvent → 0 ≤ ret
      | .deleting, .answer ret =>
          m = .btEvent → ret < 0 → ¬ s.threads.Working s.vars.uidThread
      | _, _ => True := by
  cases p <;> cases a <;> simp [Released, ThreadSystem.call, hp.pending, ThreadPoint.pending]

def Listens (p : ThreadPoint) (vars : ThreadVars) (threads : Threads) : Prop :=
  (∀ uid ∈ threads.alive, 0 ≤ uid ∧ uid = vars.uidThread) ∧
    match p with
    | .idle => 0 ≤ vars.uidThread →
        vars.runThread = true ∧ threads vars.uidThread = some .running
    | .waiting | .deleting => threads vars.uidThread ≠ some .created
    | .creating | .starting => True

structure ThreadInv (m : EventModule) (past : List (Transition ThreadSystem ThreadAct))
    (s : ThreadSystem) (p : ThreadPoint) : Prop where
  point : s.At m p
  created : p = .starting → s.threads s.vars.uidThread = some .created
  owned : ∀ uid ∈ s.threads.alive, 0 ≤ uid ∧ uid = s.vars.uidThread ∨ LeftBehind past uid
  listens : m = .btEvent → Lts.Throughout (Released m) past → Listens p s.vars s.threads

theorem threadBoot_alive (uid : Int) : uid ∉ threadBoot.threads.alive := by
  simp [threadBoot, Threads.alive, Threads.Working]

theorem threadInv_boot : ThreadInv m [] threadBoot .idle := by
  constructor
  · exact ⟨rfl, trivial⟩
  · intro h
    cases h
  · exact fun uid h => absurd h (threadBoot_alive uid)
  · intro _ _
    exact ⟨fun uid h => absurd h (threadBoot_alive uid), fun howned => absurd howned (by decide)⟩

theorem owned_step (hinv : ThreadInv m older s p)
    (hmove : LifecycleMove m s p a q t.vars t.threads t.returned) (huid : uid ∈ t.threads.alive) :
    0 ≤ uid ∧ uid = t.vars.uidThread ∨ LeftBehind (⟨s, a, t⟩ :: older) uid := by
  rw [leftBehind_cons]
  rcases hmove.alive_cases hinv.created huid with halive | ⟨_, _, hzero, howned⟩
  · rcases hinv.owned uid halive with ⟨hzero, rfl⟩ | hleft
    · rcases hmove.owner hinv.point.holds hzero huid with hsame | ⟨rfl, hfails⟩
      · exact .inl ⟨hzero, hsame.symm⟩
      · exact .inr (.inl (failsToDelete_deleting hinv.point hfails))
    · exact .inr (.inr hleft)
  · exact .inl ⟨hzero, howned⟩

theorem Listens.none_alive (h : Listens p vars threads) (hnone : vars.uidThread < 0) (uid : Int) :
    uid ∉ threads.alive := by
  intro halive
  obtain ⟨hzero, rfl⟩ := h.1 uid halive
  exact absurd hzero (Int.not_le.mpr hnone)

theorem Listens.moved {status : Option ThreadStatus} (hlistens : Listens p s.vars s.threads)
    (hp : s.At m p) (hcreated : p = .starting → s.threads s.vars.uidThread = some .created)
    (hworking : s.threads.Working uid) (hidle : p ≠ .idle) (hstatus : status ≠ some .created) :
    Listens p s.vars (s.threads.set uid status) := by
  have halive := Threads.alive_of_working hworking
  obtain ⟨hzero, rfl⟩ := hlistens.1 uid halive
  refine ⟨fun uid h => hlistens.1 uid (Threads.alive_of_set_alive halive h), ?_⟩
  cases p with
  | idle => exact absurd rfl hidle
  | creating => trivial
  | starting => trivial
  | waiting => simpa only [Threads.set_self] using hstatus
  | deleting => simpa only [Threads.set_self] using hstatus

theorem listens_step (hp : s.At .btEvent p) (hlistens : Listens p s.vars s.threads)
    (hcreated : p = .starting → s.threads s.vars.uidThread = some .created)
    (hreleased : Released .btEvent ⟨s, a, t⟩ older)
    (hmove : LifecycleMove .btEvent s p a q vars threads returned) : Listens q vars threads := by
  have howned := hlistens.1
  have hpoint := hlistens.2
  cases hmove with
  | startOwned h => exact hlistens
  | startCreates h => exact ⟨howned, trivial⟩
  | createFails hret =>
      refine ⟨fun uid h => ?_, fun hzero => absurd hzero (Int.not_le.mpr hret)⟩
      exact absurd h (hlistens.none_alive hp.holds.1 uid)
  | creates hret hfresh =>
      rename_i ret
      refine ⟨fun uid h => ?_, trivial⟩
      by_cases hne : uid = ret
      · exact ⟨hne ▸ hret, hne⟩
      · exact absurd (Threads.alive_of_ne hne h) (hlistens.none_alive hp.holds.1 uid)
  | startFails hret =>
      exact absurd ((released_iff hp).mp hreleased rfl) (Int.not_le.mpr hret)
  | starts hret =>
      have halive : s.vars.uidThread ∈ s.threads.alive := .inl (hcreated rfl)
      refine ⟨fun uid h => howned uid (Threads.alive_of_set_alive halive h), fun _ => ?_⟩
      exact ⟨hp.holds.2, Threads.set_self ..⟩
  | stopUnowned h => exact hlistens
  | stopWaits h =>
      refine ⟨howned, ?_⟩
      rw [(hpoint h).2]
      simp
  | waits hret => exact ⟨howned, hpoint⟩
  | deleteFails hret =>
      have hnot := (released_iff hp).mp hreleased rfl hret
      refine ⟨fun uid h => ?_, fun hzero => absurd hzero (by simp)⟩
      obtain ⟨hzero, rfl⟩ := howned uid h
      exact absurd h (not_or.mpr ⟨hpoint, hnot⟩)
  | deletes hret =>
      refine ⟨fun uid h => ?_, fun hzero => absurd hzero (by simp)⟩
      obtain ⟨hne, halive⟩ := Threads.alive_of_removed h
      exact absurd (howned uid halive).2 hne
  | leaves huid htold =>
      refine hlistens.moved hp hcreated (.inl huid) (fun hidle => ?_) (by simp)
      subst hidle
      obtain ⟨hzero, rfl⟩ := howned _ (.inr (.inl huid))
      simp [(hpoint hzero).1] at htold
  | finishes huid =>
      refine hlistens.moved hp hcreated (.inr huid) (fun hidle => ?_) (by simp)
      subst hidle
      obtain ⟨hzero, rfl⟩ := howned _ (.inr (.inr huid))
      simp [(hpoint hzero).2] at huid

theorem threadInv_run {past : List (Transition ThreadSystem ThreadAct)}
    (h : (threadSystem m).Run past s) : ∃ p, ThreadInv m past s p := by
  induction h with
  | start hs =>
      obtain rfl := hs
      exact ⟨.idle, threadInv_boot⟩
  | next hrun hs ih =>
      obtain ⟨p, hinv⟩ := ih
      obtain ⟨q, hpoint, hmove⟩ := threadStep_move hinv.point hs
      refine ⟨q, hpoint, hmove.created hinv.created, fun uid => owned_step hinv hmove, ?_⟩
      rintro rfl ⟨hreleased, holder⟩
      exact listens_step hinv.point (hinv.listens rfl holder) hinv.created hreleased hmove

theorem EventModule.success_zero : m.success = some 0 ↔ m = .btEvent := by
  cases m <;> decide

theorem EventModule.failure_ne_zero (m : EventModule) : m.failure ≠ some 0 := by
  cases m <;> decide

variable {pending : Option (Entry × ThreadCall × (Int → ThreadProc))} {ok : Option Int}

theorem singleThread_quiet :
    SingleThread ⟨vars, pending, threads, none⟩ ↔ threads.alive.Subsingleton :=
  ⟨SingleThread.alive, fun h => ⟨h, by simp, by simp⟩⟩

theorem singleThread_start :
    SingleThread ⟨vars, pending, threads, some (.start, ok)⟩ ↔
      threads.alive.Subsingleton ∧
        (ok = some 0 → threads vars.uidThread = some .running) :=
  ⟨fun h => ⟨h.alive, fun hok => h.started (by rw [hok])⟩,
    fun h => ⟨h.1, fun hret => h.2 (by simpa using hret), by simp⟩⟩

theorem singleThread_stop :
    SingleThread ⟨vars, pending, threads, some (.stop, ok)⟩ ↔
      threads.alive.Subsingleton ∧ (ok = some 0 → ∀ uid, ¬ threads.Working uid) :=
  ⟨fun h => ⟨h.alive, fun hok => h.stopped (by rw [hok])⟩,
    fun h => ⟨h.1, by simp, fun hret => h.2 (by simpa using hret)⟩⟩

theorem creates_single_iff (hinv : ThreadInv m older s .creating) (hret : 0 ≤ ret)
    (hfresh : s.threads ret = none) :
    (s.threads.set ret (some .created)).alive.Subsingleton ↔
      ∀ uid, LeftBehind older uid → uid ∉ s.threads.alive := by
  constructor
  · intro hone uid _ huid
    have hne : uid ≠ ret := by
      rintro rfl
      simp [Threads.alive, Threads.Working, hfresh] at huid
    have hnew : ret ∈ (s.threads.set ret (some .created)).alive :=
      Threads.alive_set_self.mpr (.inl rfl)
    exact hne (hone (Threads.alive_set_of_ne hne huid) hnew)
  · refine fun hnone => Set.subsingleton_of_forall_eq ret fun uid huid => ?_
    by_contra hne
    have halive := Threads.alive_of_ne hne huid
    rcases hinv.owned uid halive with ⟨hzero, rfl⟩ | hleft
    · exact absurd hzero (Int.not_le.mpr hinv.point.holds.1)
    · exact hnone uid hleft halive

theorem single_thread_step (hinv : ThreadInv m older s p)
    (hmove : LifecycleMove m s p a q vars threads returned)
    (hone : s.threads.alive.Subsingleton) (holder : Lts.Throughout (Released m) older) :
    SingleThread ⟨vars, pending, threads, returned⟩ ↔
      Released m ⟨s, a, ⟨vars, pending, threads, returned⟩⟩ older := by
  rw [released_iff hinv.point]
  have hlistens := fun hm => hinv.listens hm holder
  have halive : ¬ (p = .creating ∧ ∃ ret, a = .answer ret ∧ 0 ≤ ret) →
      threads.alive.Subsingleton := fun hnot =>
    hone.anti fun uid huid => (hmove.alive_cases hinv.created huid).resolve_right
      fun ⟨hp, ha, hret, _⟩ => hnot ⟨hp, uid, ha, hret⟩
  cases hmove with
  | creates hret hfresh =>
      rw [singleThread_quiet, creates_single_iff hinv hret hfresh]
      exact ⟨fun h _ => h, fun h => h hret⟩
  | createFails hret =>
      refine iff_of_true ?_ fun hzero => absurd hzero (Int.not_le.mpr hret)
      exact singleThread_start.mpr ⟨hone, fun hok => absurd hok m.failure_ne_zero⟩
  | startOwned h =>
      refine iff_of_true (singleThread_start.mpr ⟨hone, fun hok => ?_⟩) trivial
      exact ((hlistens (EventModule.success_zero.mp hok)).2 h).2
  | startFails hret =>
      rw [singleThread_start, EventModule.success_zero, hinv.created rfl]
      constructor
      · intro h hm
        cases h.2 hm
      · intro h
        exact ⟨hone, fun hm => absurd (h hm) (Int.not_le.mpr hret)⟩
  | starts hret =>
      refine iff_of_true (singleThread_start.mpr ⟨halive (by simp), fun _ => ?_⟩) fun _ => hret
      exact Threads.set_self ..
  | stopUnowned h =>
      refine iff_of_true (singleThread_stop.mpr ⟨hone, fun hok uid hworking => ?_⟩) trivial
      have hnone := (hlistens (EventModule.success_zero.mp hok)).none_alive h uid
      exact hnone (.inr hworking)
  | deleteFails hret =>
      rw [singleThread_stop, EventModule.success_zero]
      constructor
      · exact fun h hm _ => h.2 hm _
      · intro h
        refine ⟨hone, fun hm uid hworking => h hm hret ?_⟩
        obtain ⟨_, rfl⟩ := (hlistens hm).1 uid (.inr hworking)
        exact hworking
  | deletes hret =>
      refine iff_of_true (singleThread_stop.mpr ⟨halive (by simp), fun hok uid hworking => ?_⟩)
        fun _ hneg => absurd hret (Int.not_le.mpr hneg)
      obtain ⟨hne, hbefore⟩ := Threads.alive_of_removed (.inr hworking)
      exact absurd ((hlistens (EventModule.success_zero.mp hok)).1 uid hbefore).2 hne
  | startCreates h => exact iff_of_true (singleThread_quiet.mpr hone) trivial
  | stopWaits h => exact iff_of_true (singleThread_quiet.mpr hone) trivial
  | waits hret => exact iff_of_true (singleThread_quiet.mpr hone) trivial
  | leaves huid htold =>
      refine iff_of_true (singleThread_quiet.mpr (halive (by simp))) ?_
      cases p <;> trivial
  | finishes huid =>
      refine iff_of_true (singleThread_quiet.mpr (halive (by simp))) ?_
      cases p <;> trivial

theorem alive_before {past : List (Transition ThreadSystem ThreadAct)}
    (h : (threadSystem m).Run past s)
    (hsingle : Lts.Throughout (fun x _ => SingleThread x.after) past) :
    s.threads.alive.Subsingleton := by
  cases h with
  | start hs =>
      obtain rfl := hs
      exact fun uid huid => absurd huid (threadBoot_alive uid)
  | next _ _ => exact hsingle.1.alive

def Succeeds (x : Transition ThreadSystem ThreadAct) : Prop :=
  match x.before.call, x.act with
  | some (.startThread _), .answer ret => 0 ≤ ret
  | some (.deleteThread _), .answer ret => 0 ≤ ret
  | _, _ => True

instance (x : Transition ThreadSystem ThreadAct) : Decidable (Succeeds x) := by
  unfold Succeeds
  split <;> infer_instance

theorem not_failsToDelete {x : Transition ThreadSystem ThreadAct} (h : Succeeds x) :
    ¬ FailsToDelete x uid := by
  rintro ⟨hcall, ret, hret, hact⟩
  simp only [Succeeds, hcall, hact] at h
  exact absurd h (Int.not_le.mpr hret)

theorem released_of_succeeds {past : List (Transition ThreadSystem ThreadAct)}
    (h : Lts.Throughout (fun x _ => Succeeds x) past) :
    Lts.Throughout (Released m) past ∧ ∀ uid, ¬ LeftBehind past uid := by
  induction past with
  | nil => exact ⟨trivial, by simp [LeftBehind]⟩
  | cons x older ih =>
      obtain ⟨holder, hnone⟩ := ih h.2
      refine ⟨⟨?_, holder⟩, fun uid => ?_⟩
      · have hx := h.1
        unfold Released
        split
        · exact fun _ uid hleft => absurd hleft (hnone uid)
        · rename_i hcall hact
          simp only [Succeeds, hcall, hact] at hx
          exact fun _ => hx
        · rename_i hcall hact
          simp only [Succeeds, hcall, hact] at hx
          exact fun _ hneg => absurd hx (Int.not_le.mpr hneg)
        · trivial
      · rw [leftBehind_cons]
        exact not_or.mpr ⟨not_failsToDelete h.1, hnone uid⟩

theorem SingleThread.not_both (h : SingleThread s) {other : Int} (hne : uid ≠ other) :
    ¬ (s.threads uid = some .running ∧ s.threads other = some .created) := by
  rintro ⟨hrunning, hcreated⟩
  exact hne (h.alive (.inr (.inl hrunning)) (.inl hcreated))

theorem single_thread_iff (m : EventModule) {past : List (Transition ThreadSystem ThreadAct)}
    {s : ThreadSystem} (hrun : (threadSystem m).Run past s) :
    Lts.Throughout (fun x _ => SingleThread x.after) past ↔
      Lts.Throughout (Released m) past := by
  refine hrun.throughout_iff_of_past fun older s a t hrun hs hsingle holder => ?_
  obtain ⟨p, hinv⟩ := threadInv_run hrun
  obtain ⟨q, _, hmove⟩ := threadStep_move hinv.point hs
  exact single_thread_step hinv hmove (alive_before hrun hsingle) holder

end

theorem single_thread_stopped :
    Lts.Throughout (fun x _ => SingleThread x.after)
      ((threadSystem .btEvent).played threadBoot
        [.start, .answer 1, .answer 0, .stop, .leave 1, .finish 1, .answer 0, .answer 0]
        (by decide)).1 :=
  (single_thread_iff .btEvent (Lts.run_played rfl (by decide))).mpr
    (released_of_succeeds (by decide)).1

def reopened : List ThreadAct :=
  [.start, .answer 1, .answer 0, .stop, .answer (-1), .answer (-1), .start, .answer 2]

theorem reopened_plays (m : EventModule) :
    ((threadSystem m).play [] threadBoot reopened).isSome := by cases m <;> decide

theorem two_threads :
    (¬ ∀ past s, (threadSystem .kmodEvent).Run past s →
      Lts.Throughout (fun x _ => SingleThread x.after) past) ∧
    ¬ ∀ past s, (threadSystem .btEvent).Run past s →
      Lts.Throughout (fun x _ => SingleThread x.after) past := by
  have htwo (m : EventModule) : ¬ Lts.Throughout (fun x _ => SingleThread x.after)
      ((threadSystem m).played threadBoot reopened (reopened_plays m)).1 := by
    intro hsingle
    have hnot := hsingle.mono fun _ _ h => h.not_both (show (1 : Int) ≠ 2 by decide)
    revert hnot
    cases m <;> decide
  exact ⟨fun h => htwo _ (h _ _ (Lts.run_played rfl (reopened_plays _))),
    fun h => htwo _ (h _ _ (Lts.run_played rfl (reopened_plays _)))⟩

end VitaQmBluetooth
