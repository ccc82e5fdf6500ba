import VitaQmBluetooth.Foundation.Interleaving
import VitaQmBluetooth.Interface.Vqmbt

namespace VitaQmBluetooth

open Foundation

structure EventFlag where
  eventFlagUid : Int
  eventFlagPuid : Int
  eventFlagUserPid : Int
  deriving DecidableEq

structure WrapReply where
  ret : Int
  createUserUid : Option (Int × Int)
  deriving DecidableEq

-- The two results are what ksceKernelGetProcessId and ksceKernelCreateUserUid return if reached.
def kvqmbtGetWrappedEventFlag (pidRet createRet : Int) (flag : EventFlag) :
    EventFlag × WrapReply :=
  if flag.eventFlagUid < 0 then (flag, ⟨VqmbtError.notReady.code, none⟩)
  else if flag.eventFlagPuid ≥ 0 then (flag, ⟨flag.eventFlagPuid, none⟩)
  else
    let flag := { flag with eventFlagUserPid := pidRet }
    if flag.eventFlagUserPid < 0 then (flag, ⟨flag.eventFlagUserPid, none⟩)
    else
      let call := some (flag.eventFlagUserPid, flag.eventFlagUid)
      let flag := { flag with eventFlagPuid := createRet }
      if flag.eventFlagPuid < 0 then (flag, ⟨flag.eventFlagPuid, call⟩)
      else (flag, ⟨flag.eventFlagPuid, call⟩)

-- The second component holds the arguments of ksceKernelDeleteUserUid, where it is called.
def kvqmbtUnwrapEventFlag (deleteRet : Int) (flag : EventFlag) :
    EventFlag × Option (Int × Int) :=
  if flag.eventFlagPuid < 0 then (flag, none)
  else
    let call := some (flag.eventFlagUserPid, flag.eventFlagPuid)
    if deleteRet < 0 then (flag, call)
    else ({ flag with eventFlagPuid := -1, eventFlagUserPid := -1 }, call)

structure UserUid where
  uid : Int
  pid : Int
  kernelUid : Int
  deriving DecidableEq

structure FlagSystem where
  flag : EventFlag
  uids : List UserUid
  live : List Int
  used : List Int

inductive FlagStep where
  | start (pid : Int)
  | die (pid : Int)
  | get (caller pidRet createRet : Int)
  | unwrap (deleteRet : Int)

def ksceKernelCreateUserUid (ret : Int) (uids : List UserUid) :
    Option (Int × Int) → List UserUid
  | none => uids
  | some (pid, kernelUid) => if ret < 0 then uids else ⟨ret, pid, kernelUid⟩ :: uids

def ksceKernelDeleteUserUid (ret : Int) (uids : List UserUid) :
    Option (Int × Int) → List UserUid
  | none => uids
  | some (pid, uid) =>
      if ret < 0 then uids else uids.filter fun u => ¬ (u.pid = pid ∧ u.uid = uid)

def flagStep (s : FlagSystem) : FlagStep → Option FlagSystem
  | .start pid =>
      if 0 ≤ pid ∧ pid ∉ s.used then
        some { s with live := pid :: s.live, used := pid :: s.used }
      else none
  | .die pid =>
      if pid ∈ s.live then
        some { s with
          live := s.live.filter (· ≠ pid)
          uids := s.uids.filter (·.pid ≠ pid) }
      else none
  | .get caller pidRet createRet =>
      if caller ∈ s.live ∧ (pidRet = caller ∨ pidRet < 0) then
        let (flag, reply) := kvqmbtGetWrappedEventFlag pidRet createRet s.flag
        some { s with
          flag := flag
          uids := ksceKernelCreateUserUid createRet s.uids reply.createUserUid }
      else none
  | .unwrap deleteRet =>
      let (flag, call) := kvqmbtUnwrapEventFlag deleteRet s.flag
      some { s with flag := flag, uids := ksceKernelDeleteUserUid deleteRet s.uids call }

def flagSystem : Lts FlagSystem FlagStep where
  start s := s.flag.eventFlagPuid = -1 ∧ s.flag.eventFlagUserPid = -1 ∧ s.uids = [] ∧
    s.live = [] ∧ s.used = []
  step := flagStep

-- A user UID that went with its process cannot be deleted any more.
def Deletable (s : FlagSystem) : FlagStep → Prop
  | .unwrap deleteRet => 0 ≤ s.flag.eventFlagPuid → 0 ≤ deleteRet →
      ∃ u ∈ s.uids, u.pid = s.flag.eventFlagUserPid ∧ u.uid = s.flag.eventFlagPuid
  | _ => True

instance (s : FlagSystem) (a : FlagStep) : Decidable (Deletable s a) := by
  unfold Deletable
  split <;> infer_instance

def recovery : Lts FlagSystem FlagStep where
  start := flagSystem.start
  step s a := if Deletable s a then flagStep s a else none

def HandsOutValid (x : Transition FlagSystem FlagStep) : Prop :=
  match x.act with
  | .get caller pidRet createRet =>
      let ret := (kvqmbtGetWrappedEventFlag pidRet createRet x.before.flag).2.ret
      0 ≤ ret → ⟨ret, caller, x.before.flag.eventFlagUid⟩ ∈ x.after.uids
  | _ => True

def CallFails (x : Transition FlagSystem FlagStep) : Prop :=
  match x.act with
  | .get _ pidRet createRet =>
      (kvqmbtGetWrappedEventFlag pidRet createRet x.before.flag).2.ret < 0
  | .unwrap deleteRet =>
      (kvqmbtUnwrapEventFlag deleteRet x.before.flag).2 ≠ none ∧ deleteRet < 0
  | _ => False

def Obtainable (s : FlagSystem) (pid : Int) : Prop :=
  ∃ acts t pidRet createRet u, recovery.exec s acts = some t ∧
    recovery.step t (.get pid pidRet createRet) = some u ∧
    0 ≤ (kvqmbtGetWrappedEventFlag pidRet createRet t.flag).2.ret ∧
    HandsOutValid ⟨t, .get pid pidRet createRet, u⟩

def WrapSound (x : Transition FlagSystem FlagStep) : Prop :=
  HandsOutValid x ∧ (CallFails x → ∀ pid ∈ x.after.live, Obtainable x.after pid)

def WrapSafe (s : FlagSystem) : FlagStep → Prop
  | .get caller _ _ =>
      0 ≤ s.flag.eventFlagUid ∧ (0 ≤ s.flag.eventFlagPuid → caller = s.flag.eventFlagUserPid)
  | .unwrap deleteRet =>
      0 ≤ s.flag.eventFlagPuid → deleteRet < 0 → s.flag.eventFlagUserPid ∈ s.live ∨ s.live = []
  | _ => True

instance (s : FlagSystem) (a : FlagStep) : Decidable (WrapSafe s a) := by
  unfold WrapSafe
  split <;> infer_instance

instance (x : Transition FlagSystem FlagStep) : Decidable (HandsOutValid x) := by
  unfold HandsOutValid
  split <;> infer_instance

theorem get_notReady {flag : EventFlag} (h : flag.eventFlagUid < 0) (pidRet createRet : Int) :
    kvqmbtGetWrappedEventFlag pidRet createRet flag =
      (flag, ⟨VqmbtError.notReady.code, none⟩) := by
  simp only [kvqmbtGetWrappedEventFlag, if_pos h]

theorem get_cached {flag : EventFlag} (hready : 0 ≤ flag.eventFlagUid)
    (h : 0 ≤ flag.eventFlagPuid) (pidRet createRet : Int) :
    kvqmbtGetWrappedEventFlag pidRet createRet flag =
      (flag, ⟨flag.eventFlagPuid, none⟩) := by
  simp only [kvqmbtGetWrappedEventFlag, if_neg (Int.not_lt.mpr hready), if_pos h]

theorem get_nameless {flag : EventFlag} (hready : 0 ≤ flag.eventFlagUid)
    (h : flag.eventFlagPuid < 0) {pidRet : Int} (hpid : pidRet < 0) (createRet : Int) :
    kvqmbtGetWrappedEventFlag pidRet createRet flag =
      ({ flag with eventFlagUserPid := pidRet }, ⟨pidRet, none⟩) := by
  simp only [kvqmbtGetWrappedEventFlag, if_neg (Int.not_lt.mpr hready), if_neg (Int.not_le.mpr h),
    if_pos hpid]

theorem get_wraps {flag : EventFlag} (hready : 0 ≤ flag.eventFlagUid)
    (h : flag.eventFlagPuid < 0) {pidRet : Int} (hpid : 0 ≤ pidRet) (createRet : Int) :
    kvqmbtGetWrappedEventFlag pidRet createRet flag =
      (⟨flag.eventFlagUid, createRet, pidRet⟩, ⟨createRet, some (pidRet, flag.eventFlagUid)⟩) := by
  simp only [kvqmbtGetWrappedEventFlag, if_neg (Int.not_lt.mpr hready), if_neg (Int.not_le.mpr h),
    if_neg (Int.not_lt.mpr hpid), ite_self]

structure FlagHolds (s : FlagSystem) : Prop where
  used : ∀ pid ∈ s.live, pid ∈ s.used ∧ 0 ≤ pid
  ready : 0 ≤ s.flag.eventFlagPuid → 0 ≤ s.flag.eventFlagUid
  owner : 0 ≤ s.flag.eventFlagPuid → s.flag.eventFlagUserPid ∈ s.used
  uids : s.uids =
    if 0 ≤ s.flag.eventFlagPuid ∧ s.flag.eventFlagUserPid ∈ s.live then
      [⟨s.flag.eventFlagPuid, s.flag.eventFlagUserPid, s.flag.eventFlagUid⟩]
    else []

namespace FlagHolds

variable {s t : FlagSystem}

theorem unwrapped (h : FlagHolds s) (hpuid : s.flag.eventFlagPuid < 0) : s.uids = [] := by
  rw [h.uids, if_neg fun hand => by omega]

theorem start (h : FlagHolds s) {pid : Int} (hs : flagStep s (.start pid) = some t) :
    FlagHolds t ∧ (0 ≤ s.flag.eventFlagPuid → s.flag.eventFlagUserPid ∉ s.live →
      t.flag.eventFlagUserPid ∉ t.live) := by
  simp only [flagStep, Option.ite_none_right_eq_some, Option.some.injEq] at hs
  obtain ⟨⟨hpid, hnew⟩, rfl⟩ := hs
  have hother (howner : 0 ≤ s.flag.eventFlagPuid) : s.flag.eventFlagUserPid ≠ pid :=
    fun heq => hnew (heq ▸ h.owner howner)
  refine ⟨⟨fun p hp => ?_, h.ready, fun hw => List.mem_cons_of_mem _ (h.owner hw), ?_⟩, ?_⟩
  · rcases List.mem_cons.mp hp with rfl | hp
    · exact ⟨List.mem_cons_self .., hpid⟩
    · exact ⟨List.mem_cons_of_mem _ (h.used p hp).1, (h.used p hp).2⟩
  · rw [h.uids]
    refine if_congr ?_ rfl rfl
    exact and_congr_right fun hw => by simp [hother hw]
  · intro hw hgone
    simp [hother hw, hgone]

theorem die (h : FlagHolds s) {pid : Int} (hs : flagStep s (.die pid) = some t) :
    FlagHolds t := by
  simp only [flagStep, Option.ite_none_right_eq_some, Option.some.injEq] at hs
  obtain ⟨_, rfl⟩ := hs
  refine ⟨fun p hp => h.used p (List.mem_filter.mp hp).1, h.ready, h.owner, ?_⟩
  simp only [h.uids, List.mem_filter, decide_eq_true_eq]
  by_cases hwrapped : 0 ≤ s.flag.eventFlagPuid ∧ s.flag.eventFlagUserPid ∈ s.live
  · rw [if_pos hwrapped]
    by_cases howner : s.flag.eventFlagUserPid = pid
    · simp [howner]
    · simp [howner, hwrapped]
  · rw [if_neg hwrapped, if_neg fun hw => hwrapped ⟨hw.1, hw.2.1⟩]
    rfl

theorem forget (h : FlagHolds s) {flag : EventFlag} (hpuid : flag.eventFlagPuid < 0) :
    FlagHolds { s with flag := flag, uids := [] } where
  used := h.used
  ready := fun hw => absurd hw (Int.not_le.mpr hpuid)
  owner := fun hw => absurd hw (Int.not_le.mpr hpuid)
  uids := by rw [if_neg fun hw => Int.not_le.mpr hpuid hw.1]

theorem wrap (h : FlagHolds s) {caller createRet : Int} (hcaller : caller ∈ s.live)
    (hready : 0 ≤ s.flag.eventFlagUid) (hcreate : 0 ≤ createRet) :
    FlagHolds { s with
      flag := ⟨s.flag.eventFlagUid, createRet, caller⟩
      uids := [⟨createRet, caller, s.flag.eventFlagUid⟩] } where
  used := h.used
  ready := fun _ => hready
  owner := fun _ => (h.used caller hcaller).1
  uids := by rw [if_pos ⟨hcreate, hcaller⟩]

end FlagHolds

inductive GetOutcome (s : FlagSystem) (caller : Int) : FlagSystem → Int → Prop
  | notReady {ret : Int} : s.flag.eventFlagUid < 0 → ret < 0 → GetOutcome s caller s ret
  | cached : 0 ≤ s.flag.eventFlagUid → 0 ≤ s.flag.eventFlagPuid →
      GetOutcome s caller s s.flag.eventFlagPuid
  | failed {flag : EventFlag} {ret : Int} : 0 ≤ s.flag.eventFlagUid → s.flag.eventFlagPuid < 0 →
      flag.eventFlagUid = s.flag.eventFlagUid → flag.eventFlagPuid < 0 → ret < 0 →
      GetOutcome s caller { s with flag := flag, uids := [] } ret
  | wrapped {ret : Int} : 0 ≤ s.flag.eventFlagUid → s.flag.eventFlagPuid < 0 → 0 ≤ ret →
      GetOutcome s caller { s with
        flag := ⟨s.flag.eventFlagUid, ret, caller⟩
        uids := [⟨ret, caller, s.flag.eventFlagUid⟩] } ret

theorem get_outcome {s t : FlagSystem} (h : FlagHolds s) {caller pidRet createRet : Int}
    (hs : flagStep s (.get caller pidRet createRet) = some t) :
    caller ∈ s.live ∧
      GetOutcome s caller t (kvqmbtGetWrappedEventFlag pidRet createRet s.flag).2.ret := by
  obtain ⟨flag, uids, live, used⟩ := s
  simp only [flagStep, Option.ite_none_right_eq_some, Option.some.injEq] at hs
  obtain ⟨⟨hcaller, hpid⟩, rfl⟩ := hs
  refine ⟨hcaller, ?_⟩
  by_cases hready : flag.eventFlagUid < 0
  · rw [get_notReady hready]
    exact .notReady hready (VqmbtError.code_neg .notReady)
  by_cases hpuid : flag.eventFlagPuid < 0
  · obtain rfl : uids = [] := h.unwrapped hpuid
    by_cases hneg : pidRet < 0
    · rw [get_nameless (by omega) hpuid hneg]
      exact .failed (Int.not_lt.mp hready) hpuid rfl hpuid hneg
    · have hsame : pidRet = caller := hpid.resolve_right hneg
      subst hsame
      rw [get_wraps (by omega) hpuid (by omega)]
      by_cases hcreate : createRet < 0
      · simp only [ksceKernelCreateUserUid, if_pos hcreate]
        exact .failed (Int.not_lt.mp hready) hpuid rfl hcreate hcreate
      · simp only [ksceKernelCreateUserUid, if_neg hcreate]
        exact .wrapped (Int.not_lt.mp hready) hpuid (Int.not_lt.mp hcreate)
  · rw [get_cached (by omega) (by omega)]
    exact .cached (Int.not_lt.mp hready) (Int.not_lt.mp hpuid)

theorem unwrap_outcome {s t : FlagSystem} (h : FlagHolds s) {deleteRet : Int}
    (hs : flagStep s (.unwrap deleteRet) = some t) :
    (t = s ∧ (0 ≤ s.flag.eventFlagPuid → deleteRet < 0)) ∨
      (0 ≤ s.flag.eventFlagPuid ∧ 0 ≤ deleteRet ∧
        t = { s with flag := ⟨s.flag.eventFlagUid, -1, -1⟩, uids := [] }) := by
  simp only [flagStep, kvqmbtUnwrapEventFlag, Option.some.injEq] at hs
  subst hs
  by_cases hpuid : s.flag.eventFlagPuid < 0
  · rw [if_pos hpuid]
    exact .inl ⟨rfl, fun hw => absurd hw (Int.not_le.mpr hpuid)⟩
  by_cases hdelete : deleteRet < 0
  · simp only [if_neg hpuid, if_pos hdelete, ksceKernelDeleteUserUid]
    exact .inl ⟨trivial, fun _ => hdelete⟩
  · simp only [if_neg hpuid, if_neg hdelete, ksceKernelDeleteUserUid, h.uids]
    refine .inr ⟨Int.not_lt.mp hpuid, Int.not_lt.mp hdelete, ?_⟩
    split <;> simp

theorem flagHolds_step {s t : FlagSystem} {a : FlagStep} (h : FlagHolds s)
    (hs : flagStep s a = some t) : FlagHolds t := by
  cases a with
  | start pid => exact (h.start hs).1
  | die pid => exact h.die hs
  | get caller pidRet createRet =>
      obtain ⟨hcaller, houtcome⟩ := get_outcome h hs
      generalize (kvqmbtGetWrappedEventFlag pidRet createRet s.flag).2.ret = ret at houtcome
      cases houtcome with
      | notReady _ _ => exact h
      | cached _ _ => exact h
      | failed _ _ _ hpuid _ => exact h.forget hpuid
      | wrapped hready _ hret => exact h.wrap hcaller hready hret
  | unwrap deleteRet =>
      obtain ⟨rfl, _⟩ | ⟨_, _, rfl⟩ := unwrap_outcome h hs
      · exact h
      · exact h.forget (by decide : (-1 : Int) < 0)

theorem flagHolds_start {s : FlagSystem} (h : flagSystem.start s) : FlagHolds s := by
  obtain ⟨hpuid, _, huids, hlive, _⟩ := h
  refine ⟨by simp [hlive], ?_, ?_, ?_⟩
  · rw [hpuid]
    exact fun hw => absurd hw (by decide)
  · rw [hpuid]
    exact fun hw => absurd hw (by decide)
  · rw [huids, hpuid, if_neg fun hw => absurd hw.1 (by decide)]

def Stuck (s : FlagSystem) : Prop :=
  FlagHolds s ∧ (s.flag.eventFlagUid < 0 ∨
    0 ≤ s.flag.eventFlagPuid ∧ s.flag.eventFlagUserPid ∉ s.live)

theorem Stuck.uids {s : FlagSystem} (h : Stuck s) : s.uids = [] := by
  obtain ⟨hholds, hstuck⟩ := h
  rw [hholds.uids, if_neg]
  rintro ⟨hwrapped, howner⟩
  rcases hstuck with hnot | ⟨_, hgone⟩
  · exact absurd (hholds.ready hwrapped) (Int.not_le.mpr hnot)
  · exact hgone howner

theorem Stuck.step {s t : FlagSystem} {a : FlagStep} (h : Stuck s)
    (hs : recovery.step s a = some t) : Stuck t := by
  have huids := h.uids
  simp only [recovery, Option.ite_none_right_eq_some] at hs
  obtain ⟨hdeletable, hs⟩ := hs
  refine ⟨flagHolds_step h.1 hs, ?_⟩
  obtain ⟨hholds, hstuck⟩ := h
  cases a with
  | start pid =>
      have hgone := (hholds.start hs).2
      simp only [flagStep, Option.ite_none_right_eq_some, Option.some.injEq] at hs
      obtain ⟨_, rfl⟩ := hs
      exact hstuck.imp_right fun hw => ⟨hw.1, hgone hw.1 hw.2⟩
  | die pid =>
      simp only [flagStep, Option.ite_none_right_eq_some, Option.some.injEq] at hs
      obtain ⟨_, rfl⟩ := hs
      exact hstuck.imp_right fun hw => ⟨hw.1, fun hl => hw.2 (List.mem_filter.mp hl).1⟩
  | get caller pidRet createRet =>
      obtain ⟨_, houtcome⟩ := get_outcome hholds hs
      generalize (kvqmbtGetWrappedEventFlag pidRet createRet s.flag).2.ret = ret at houtcome
      have hnot : ¬ (0 ≤ s.flag.eventFlagUid ∧ s.flag.eventFlagPuid < 0) := by omega
      cases houtcome with
      | notReady _ _ => exact hstuck
      | cached _ _ => exact hstuck
      | failed hready hpuid _ _ _ => exact absurd ⟨hready, hpuid⟩ hnot
      | wrapped hready hpuid _ => exact absurd ⟨hready, hpuid⟩ hnot
  | unwrap deleteRet =>
      obtain ⟨rfl, _⟩ | ⟨hwrapped, hdelete, _⟩ := unwrap_outcome hholds hs
      · exact hstuck
      · obtain ⟨u, hu, _⟩ := hdeletable hwrapped hdelete
        rw [huids] at hu
        cases hu

theorem Stuck.unobtainable {s : FlagSystem} (h : Stuck s) (pid : Int) : ¬ Obtainable s pid := by
  rintro ⟨acts, t, pidRet, createRet, u, hexec, hget, hret, hvalid⟩
  have ht : Stuck t := Lts.exec_invariant (I := Stuck) (fun _ _ _ hs hstuck => hstuck.step hs) h
    hexec
  have hu : Stuck u := ht.step (a := .get pid pidRet createRet) hget
  have hmem : _ ∈ u.uids := hvalid hret
  rw [hu.uids] at hmem
  cases hmem

theorem get_fresh {s : FlagSystem} (hready : 0 ≤ s.flag.eventFlagUid)
    (hpuid : s.flag.eventFlagPuid < 0) {pid : Int} (hpid : pid ∈ s.live) (hpos : 0 ≤ pid) :
    Obtainable s pid := by
  have hwraps := get_wraps hready hpuid hpos 0
  refine ⟨[], s, pid, 0, { s with
    flag := ⟨s.flag.eventFlagUid, 0, pid⟩
    uids := ⟨0, pid, s.flag.eventFlagUid⟩ :: s.uids }, rfl, ?_, ?_, ?_⟩
  · simp only [recovery, Deletable, flagStep, hwraps, hpid, true_or, and_self, if_true,
      ksceKernelCreateUserUid, Int.lt_irrefl, if_false]
  · simp only [hwraps, Int.le_refl]
  · simp only [HandsOutValid, hwraps]
    exact fun _ => List.mem_cons_self ..

theorem Obtainable.after_step {s t : FlagSystem} {a : FlagStep} {pid : Int}
    (hs : recovery.step s a = some t) (h : Obtainable t pid) : Obtainable s pid := by
  obtain ⟨acts, later, pidRet, createRet, u, hexec, hget⟩ := h
  exact ⟨a :: acts, later, pidRet, createRet, u, (Lts.exec_cons hs acts).trans hexec, hget⟩

theorem unwrap_wrapped {s : FlagSystem} (h : FlagHolds s) (hpuid : 0 ≤ s.flag.eventFlagPuid)
    (howner : s.flag.eventFlagUserPid ∈ s.live) :
    recovery.step s (.unwrap 0) =
      some { s with flag := ⟨s.flag.eventFlagUid, -1, -1⟩, uids := [] } := by
  have hdeletable : Deletable s (.unwrap 0) := fun _ _ => by
    rw [h.uids, if_pos ⟨hpuid, howner⟩]
    exact ⟨_, List.mem_singleton.mpr rfl, rfl, rfl⟩
  simp only [recovery, if_pos hdeletable, flagStep, kvqmbtUnwrapEventFlag,
    if_neg (Int.not_lt.mpr hpuid), Int.lt_irrefl, if_false, ksceKernelDeleteUserUid, h.uids,
    if_pos (And.intro hpuid howner)]
  simp

theorem obtainable_iff {s : FlagSystem} (h : FlagHolds s) {pid : Int} (hpid : pid ∈ s.live) :
    Obtainable s pid ↔ 0 ≤ s.flag.eventFlagUid ∧
      (0 ≤ s.flag.eventFlagPuid → s.flag.eventFlagUserPid ∈ s.live) := by
  constructor
  · intro hobtain
    by_contra hnot
    refine Stuck.unobtainable ⟨h, ?_⟩ pid hobtain
    by_cases hready : 0 ≤ s.flag.eventFlagUid
    · simp only [hready, true_and, Classical.not_imp] at hnot
      exact .inr hnot
    · exact .inl (Int.not_le.mp hready)
  · rintro ⟨hready, howner⟩
    by_cases hpuid : s.flag.eventFlagPuid < 0
    · exact get_fresh hready hpuid hpid (h.used pid hpid).2
    · have hwrapped := Int.not_lt.mp hpuid
      have hfresh : Obtainable { s with
          flag := ⟨s.flag.eventFlagUid, -1, -1⟩
          uids := [] } pid := by
        apply get_fresh
        · exact hready
        · exact (by decide : (-1 : Int) < 0)
        · exact hpid
        · exact (h.used pid hpid).2
      exact hfresh.after_step (unwrap_wrapped h hwrapped (howner hwrapped))

theorem wrapSound_get {s t : FlagSystem} (h : FlagHolds s) {caller pidRet createRet : Int}
    (hs : flagStep s (.get caller pidRet createRet) = some t) :
    WrapSound ⟨s, .get caller pidRet createRet, t⟩ ↔
      WrapSafe s (.get caller pidRet createRet) := by
  have ht := flagHolds_step h hs
  obtain ⟨hcaller, houtcome⟩ := get_outcome h hs
  simp only [WrapSound, HandsOutValid, CallFails, WrapSafe]
  generalize (kvqmbtGetWrappedEventFlag pidRet createRet s.flag).2.ret = ret at houtcome
  cases houtcome with
  | notReady hnot hret =>
      refine ⟨fun hsound => ?_, fun hsafe => absurd hsafe.1 (Int.not_le.mpr hnot)⟩
      exact absurd ((obtainable_iff h hcaller).mp (hsound.2 hret caller hcaller)).1
        (Int.not_le.mpr hnot)
  | cached hready hpuid =>
      have hfine : ¬ s.flag.eventFlagPuid < 0 := Int.not_lt.mpr hpuid
      simp only [hready, hpuid, hfine, forall_const, true_and, h.uids, false_implies, and_true]
      constructor
      · intro hmem
        split at hmem
        · simpa using hmem
        · cases hmem
      · rintro rfl
        rw [if_pos hcaller]
        exact List.mem_singleton.mpr rfl
  | failed hready hpuid huid hfailed hret =>
      refine ⟨fun _ => ⟨hready, fun hw => absurd hw (Int.not_le.mpr hpuid)⟩,
        fun _ => ⟨fun hw => absurd hw (Int.not_le.mpr hret), fun _ pid hpid => ?_⟩⟩
      rw [obtainable_iff ht hpid, huid]
      exact ⟨hready, fun hw => absurd hw (Int.not_le.mpr hfailed)⟩
  | wrapped hready hpuid hret =>
      refine ⟨fun _ => ⟨hready, fun hw => absurd hw (Int.not_le.mpr hpuid)⟩,
        fun _ => ⟨fun _ => List.mem_cons_self .., fun hw => absurd hret (Int.not_le.mpr hw)⟩⟩

theorem wrapSound_unwrap {s t : FlagSystem} (h : FlagHolds s) {deleteRet : Int}
    (hs : flagStep s (.unwrap deleteRet) = some t) :
    WrapSound ⟨s, .unwrap deleteRet, t⟩ ↔ WrapSafe s (.unwrap deleteRet) := by
  have hcalls : (kvqmbtUnwrapEventFlag deleteRet s.flag).2 ≠ none ↔
      0 ≤ s.flag.eventFlagPuid := by
    unfold kvqmbtUnwrapEventFlag
    split
    · next hpuid => simp [hpuid]
    · next hpuid => split <;> simpa using hpuid
  simp only [WrapSound, HandsOutValid, CallFails, WrapSafe, hcalls, true_and, and_imp]
  obtain ⟨rfl, _⟩ | ⟨_, hdelete, _⟩ := unwrap_outcome h hs
  · refine forall_congr' fun hwrapped => forall_congr' fun _ => ?_
    constructor
    · intro hsound
      rcases List.eq_nil_or_concat t.live with hnil | ⟨rest, pid, hlive⟩
      · exact .inr hnil
      · have hpid : pid ∈ t.live := by simp [hlive]
        exact .inl (((obtainable_iff h hpid).mp (hsound pid hpid)).2 hwrapped)
    · intro hsafe pid hpid
      rw [obtainable_iff h hpid]
      refine ⟨h.ready hwrapped, fun _ => hsafe.resolve_right ?_⟩
      exact List.ne_nil_of_mem hpid
  · exact forall_congr' fun _ =>
      ⟨fun _ hneg => absurd hneg (Int.not_lt.mpr hdelete),
        fun _ hneg => absurd hneg (Int.not_lt.mpr hdelete)⟩

theorem wrapped_flag_valid_iff {past : List (Transition FlagSystem FlagStep)} {s : FlagSystem}
    (hrun : flagSystem.Run past s) :
    Lts.Throughout (fun x _ => WrapSound x) past ↔
      Lts.Throughout (fun x _ => WrapSafe x.before x.act) past := by
  refine hrun.throughout_iff fun older s a t holder hs => ?_
  have h : FlagHolds s := holder.invariant (P := fun _ => True) (fun _ => flagHolds_start)
    (fun _ _ _ hstep _ hholds => flagHolds_step hholds hstep) (fun _ _ => trivial)
  cases a with
  | start pid => exact ⟨fun _ => trivial, fun _ => ⟨trivial, fun hf => hf.elim⟩⟩
  | die pid => exact ⟨fun _ => trivial, fun _ => ⟨trivial, fun hf => hf.elim⟩⟩
  | get caller pidRet createRet => exact wrapSound_get h hs
  | unwrap deleteRet => exact wrapSound_unwrap h hs

def bootFlags (eventFlagUid : Int) : FlagSystem := ⟨⟨eventFlagUid, -1, -1⟩, [], [], []⟩

theorem start_bootFlags (eventFlagUid : Int) : flagSystem.start (bootFlags eventFlagUid) :=
  ⟨rfl, rfl, rfl, rfl, rfl⟩

theorem wrapped_flag_valid_reopened :
    Lts.Throughout (fun x _ => WrapSound x)
      (flagSystem.played (bootFlags 7) [.start 1, .get 1 1 5, .unwrap 0, .die 1, .start 2,
        .get 2 2 6] (by decide)).1 :=
  (wrapped_flag_valid_iff (Lts.run_played (start_bootFlags 7) (by decide))).mpr (by decide)

def restarted : List FlagStep :=
  [.start 1, .get 1 1 5, .die 1, .start 2, .get 2 2 6]

theorem restarted_plays : (flagSystem.play [] (bootFlags 7) restarted).isSome := by decide

theorem wrapped_flag_stale :
    ¬ ∀ (past : List (Transition FlagSystem FlagStep)) (s : FlagSystem), flagSystem.Run past s →
      Lts.Throughout (fun x _ => WrapSound x) past := by
  intro hall
  have hsound := hall _ _ (Lts.run_played (start_bootFlags 7) restarted_plays)
  have hvalid := hsound.mono (Q := fun x _ => HandsOutValid x) (fun _ _ h => h.1)
  exact absurd hvalid (by decide)

end VitaQmBluetooth
