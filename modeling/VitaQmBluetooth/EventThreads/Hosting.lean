import VitaQmBluetooth.EventThreads.Lifecycle
import VitaQmBluetooth.Foundation.Calls

namespace VitaQmBluetooth

open Foundation

namespace Threads

variable {threads threads' : Threads} {busy : List Int} {uid other : Int}
  {status : Option ThreadStatus}

def Quiet (threads : Threads) : Prop := ∀ uid, ¬ threads.Working uid

def OnlyWorks (threads : Threads) (own : Int) : Prop := ∀ uid, threads.Working uid → uid = own

def AllRun (threads : Threads) (busy : List Int) : Prop :=
  ∀ uid ∈ busy, threads uid = some .running

theorem working_of_set (h : (threads.set uid status).Working other) :
    other = uid ∧ (status = some .running ∨ status = some .leaving) ∨ threads.Working other := by
  by_cases hne : other = uid
  · subst hne
    rw [Working, set_self] at h
    exact .inl ⟨rfl, h⟩
  · rw [Working, set_ne _ _ hne] at h
    exact .inr h

theorem working_set {after : ThreadStatus} (hworks : threads.Working uid)
    (h : (threads.set uid (some after)).Working other) : threads.Working other := by
  rcases working_of_set h with ⟨rfl, _⟩ | hold
  · exact hworks
  · exact hold

theorem Quiet.set (hquiet : threads.Quiet) (uid : Int)
    (hstatus : status ≠ some .running ∧ status ≠ some .leaving) :
    (threads.set uid status).Quiet := by
  intro other hworks
  rcases working_of_set hworks with ⟨rfl, hruns⟩ | hold
  · exact hruns.elim hstatus.1 hstatus.2
  · exact hquiet other hold

theorem Quiet.onlyWorks (hquiet : threads.Quiet) (own : Int) : threads.OnlyWorks own :=
  fun uid hworks => absurd hworks (hquiet uid)

theorem AllRun.set (h : threads.AllRun busy) (huid : uid ∉ busy) :
    (threads.set uid status).AllRun busy := by
  intro other hother
  have hne : other ≠ uid := fun heq => huid (heq ▸ hother)
  exact (set_ne _ _ hne).trans (h other hother)

theorem AllRun.of_quiet (h : threads.AllRun busy) (hquiet : threads.Quiet) :
    threads'.AllRun busy := fun uid huid => absurd (.inl (h uid huid)) (hquiet uid)

end Threads

structure ThreadHost (V C W : Type) where
  thread : V → ThreadVars
  setThread : V → ThreadVars → V
  threads : W → Threads
  setThreads : W → Threads → W
  call : ThreadCall → C
  threadCall : C → Option ThreadCall
  thread_setThread : ∀ v vars, thread (setThread v vars) = vars
  threads_setThreads : ∀ w after, threads (setThreads w after) = after
  threadCall_call : ∀ asked, threadCall (call asked) = some asked

def ThreadProc.within {V C W : Type} (H : ThreadHost V C W) :
    ThreadProc → V → CallTree V C (Option Int)
  | .returns thread ret, vars => .returns (H.setThread vars thread) ret
  | .calls thread call resume, vars =>
      .calls (H.setThread vars thread) (H.call call) fun vars ret => (resume ret).within H vars

namespace ThreadHost

variable {V C W R E O : Type} (H : ThreadHost V C W)

def WaitEnded (w : W) (call : C) (_ : Int) : Prop :=
  match H.threadCall call with
  | some (.waitThreadEnd uid) => ¬ (H.threads w).Working uid
  | _ => True

instance (w : W) (call : C) (ret : Int) : Decidable (H.WaitEnded w call ret) := by
  unfold WaitEnded
  split <;> infer_instance

def WaitEnds : Transition (Program.State V C R W) (Program.Turn E O) → Prop :=
  Program.Allowed H.WaitEnded

instance (x : Transition (Program.State V C R W) (Program.Turn E O)) : Decidable (H.WaitEnds x) :=
  inferInstanceAs (Decidable (Program.Allowed H.WaitEnded x))

structure Keeps (M : Surroundings V C W O) (spec : CallSpec V C W) (inv : V → W → Prop) :
    Prop where
  allowed : spec.allowed = H.WaitEnded
  answered : ∀ w asked ret, M.answered w (H.call asked) ret =
    ((H.threads w).answered asked ret).map (H.setThreads w)
  stable : M.Stable inv
  working : ∀ v w o v' w', M.meanwhile (v, w) o = some (v', w') →
    ∀ uid, (H.threads w').Working uid → (H.threads w).Working uid
  vars : ∀ v w vars, inv v w → inv (H.setThread v vars) w
  ends : ∀ v w after, inv v w → (H.threads w).Quiet → after.Quiet → inv v (H.setThreads w after)
  asks : ∀ v w asked, inv v w → (H.threads w).Quiet → spec.during (H.call asked) v w
  waits : ∀ v w uid, inv v w → (H.threads w).OnlyWorks uid →
    spec.during (H.call (.waitThreadEnd uid)) v w

namespace Keeps

variable {H} {M : Surroundings V C W O} {spec : CallSpec V C W} {inv : V → W → Prop} {v : V} {w : W}
  {ok failed : Option Int}

theorem call_keeps (h : H.Keeps M spec inv) {post : R → V → W → Prop} (works : Threads → Prop)
    (hfewer : ∀ before after : Threads, (∀ uid, after.Working uid → before.Working uid) →
      works before → works after) {asked : ThreadCall} {resume : V → Int → CallTree V C R}
    (hduring : ∀ v w, inv v w → works (H.threads w) → spec.during (H.call asked) v w)
    (hinv : inv v w) (hworks : works (H.threads w))
    (hresume : ∀ v w ret after, inv v w → works (H.threads w) →
      H.WaitEnded w (H.call asked) ret → (H.threads w).answered asked ret = some after →
      M.Keeps spec post (resume v ret) (H.setThreads w after)) :
    M.Keeps spec post (.calls v (H.call asked) resume) w := by
  refine ⟨fun v w => inv v w ∧ works (H.threads w), ?_, ⟨hinv, hworks⟩, ?_⟩
  · rintro v₁ w₁ o v₂ w₂ hstep ⟨hinv₁, hworks₁⟩
    exact ⟨h.stable _ _ _ _ _ hstep hinv₁, hfewer _ _ (h.working _ _ _ _ _ hstep) hworks₁⟩
  · rintro v₁ w₁ ⟨hinv₁, hworks₁⟩
    refine ⟨hduring v₁ w₁ hinv₁ hworks₁, fun ret w₂ hallowed hanswer => ?_⟩
    rw [h.answered] at hanswer
    obtain ⟨after, hafter, rfl⟩ := Option.map_eq_some_iff.mp hanswer
    rw [h.allowed] at hallowed
    exact hresume v₁ w₁ ret after hinv₁ hworks₁ hallowed hafter

theorem quiet_fewer (before after : Threads)
    (hfewer : ∀ uid, after.Working uid → before.Working uid) (hquiet : before.Quiet) :
    after.Quiet := fun uid hworks => hquiet uid (hfewer uid hworks)

theorem quiet_keeps (h : H.Keeps M spec inv) {post : R → V → W → Prop} {asked : ThreadCall}
    {resume : V → Int → CallTree V C R} (hinv : inv v w) (hquiet : (H.threads w).Quiet)
    (hresume : ∀ v w ret after, inv v w → (H.threads w).Quiet →
      (H.threads w).answered asked ret = some after →
      M.Keeps spec post (resume v ret) (H.setThreads w after)) :
    M.Keeps spec post (.calls v (H.call asked) resume) w := by
  refine h.call_keeps Threads.Quiet quiet_fewer (fun v w => h.asks v w asked) hinv hquiet ?_
  exact fun v w ret after hinv hquiet _ hanswer => hresume v w ret after hinv hquiet hanswer

theorem eventStart_keeps (h : H.Keeps M spec inv)
    (hruns : ∀ v w after, inv v w → (H.threads w).Quiet → inv v (H.setThreads w after))
    (hinv : inv v w) (hquiet : (H.threads w).Quiet) (hnone : (H.thread v).uidThread < 0) :
    M.Keeps spec (fun ret v w => inv v w ∧
        (ret = failed ∧ (H.thread v).uidThread < 0 ∧ (H.threads w).Quiet ∨
          ret = ok ∧ 0 ≤ (H.thread v).uidThread ∧
            (H.threads w).OnlyWorks (H.thread v).uidThread))
      ((eventStart ok failed (H.thread v)).within H v) w := by
  rw [eventStart, if_neg (Int.not_le.mpr hnone)]
  refine h.quiet_keeps (h.vars _ _ _ hinv) hquiet fun v₁ w₁ uid after hinv₁ hquiet₁ hanswer => ?_
  rcases Threads.answered_create hanswer with ⟨hfails, rfl⟩ | ⟨hmade, _, rfl⟩
  · dsimp only
    rw [if_pos hfails]
    refine ⟨h.vars _ _ _ (h.ends _ _ _ hinv₁ hquiet₁ hquiet₁), .inl ⟨rfl, ?_, ?_⟩⟩
    · rw [H.thread_setThread]
      exact hfails
    · rw [H.threads_setThreads]
      exact hquiet₁
  dsimp only
  rw [if_neg (Int.not_lt.mpr hmade)]
  have hquiet₂ : ((H.threads w₁).set uid (some .created)).Quiet := hquiet₁.set uid (by decide)
  refine h.quiet_keeps (h.vars _ _ _ (h.ends _ _ _ hinv₁ hquiet₁ hquiet₂))
    ((H.threads_setThreads ..).symm ▸ hquiet₂) fun v₃ w₃ ret after hinv₃ hquiet₃ hanswer => ?_
  refine ⟨h.vars _ _ _ (hruns _ _ _ hinv₃ hquiet₃), .inr ⟨rfl, ?_, ?_⟩⟩
  · rw [H.thread_setThread]
    exact hmade
  · rw [H.thread_setThread, H.threads_setThreads]
    rcases Threads.answered_start hanswer with ⟨_, rfl⟩ | ⟨_, rfl⟩
    · exact hquiet₃.onlyWorks uid
    · intro other hworks
      rcases Threads.working_of_set hworks with ⟨rfl, _⟩ | hold
      · rfl
      · exact absurd hold (hquiet₃ other)

theorem eventStop_keeps (h : H.Keeps M spec inv) (hinv : inv v w)
    (hown : (H.threads w).OnlyWorks (H.thread v).uidThread)
    (hnone : (H.thread v).uidThread < 0 → (H.threads w).Quiet) :
    M.Keeps spec (fun ret v w => ret = ok ∧ (H.thread v).uidThread < 0 ∧ inv v w ∧
        (H.threads w).Quiet) ((eventStop ok (H.thread v)).within H v) w := by
  rw [eventStop]
  split
  next hneg =>
    refine ⟨rfl, ?_, h.vars _ _ _ hinv, hnone hneg⟩
    rw [H.thread_setThread]
    exact hneg
  refine h.call_keeps (fun threads => threads.OnlyWorks (H.thread v).uidThread)
    (fun before after hfewer hold uid hworks => hold uid (hfewer uid hworks))
    (fun v w => h.waits v w _) (h.vars _ _ _ hinv) hown
    fun v₁ w₁ ret after hinv₁ hown₁ hended hanswer => ?_
  rw [WaitEnded, H.threadCall_call] at hended
  have hquiet₁ : (H.threads w₁).Quiet := by
    intro other hworks
    obtain rfl := hown₁ other hworks
    exact hended hworks
  obtain ⟨_, rfl⟩ := Threads.answered_wait hanswer
  refine h.quiet_keeps (h.vars _ _ _ (h.ends _ _ _ hinv₁ hquiet₁ hquiet₁))
    ((H.threads_setThreads ..).symm ▸ hquiet₁) fun v₃ w₃ ret after hinv₃ hquiet₃ hanswer => ?_
  have hquiet₄ : after.Quiet := by
    rcases Threads.answered_delete hanswer with ⟨_, rfl⟩ | ⟨_, rfl⟩
    · exact hquiet₃
    · exact hquiet₃.set _ (by decide)
  refine ⟨rfl, ?_, h.vars _ _ _ (h.ends _ _ _ hinv₃ hquiet₃ hquiet₄), ?_⟩
  · rw [H.thread_setThread]
    exact Int.negSucc_lt_zero 0
  · rw [H.threads_setThreads]
    exact hquiet₄

end Keeps

end ThreadHost

end VitaQmBluetooth
