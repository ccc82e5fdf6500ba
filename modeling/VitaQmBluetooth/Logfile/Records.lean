import VitaQmBluetooth.Logfile.WriteLine

namespace VitaQmBluetooth

open Foundation

section

variable (m : LogModule) (answers : LogAnswers)

def LogCall (s t : LogState) : Prop := ∃ depth, logfileWriteLine m answers depth s = some t

structure Recorded (lo hi : Nat) (r : CString × List UInt8) : Prop where
  path : ∃ j, PathFits (answers.snprintf j).ret ∧ r.1 = (answers.snprintf j).logFilePath
  line : ∃ i, lo ≤ i ∧ i < hi ∧ 0 ≤ (answers.vsnprintf i).ret ∧
    r.2 = lineWritten (answers.vsnprintf i)

inductive CallOutcome (s t : LogState) : Prop
  | record (r : CString × List UInt8) : t.isInitialized = true →
      Recorded answers s.vsnprintfs t.vsnprintfs r → t.written = s.written ++ [r] →
      CallOutcome s t
  | givesUp : t.isInitialized = false → t.written = s.written →
      s.vsnprintfs ≤ t.vsnprintfs → s.printed.length < t.printed.length → CallOutcome s t

variable {m answers} {s t : LogState}

theorem call_down (h : LogCall m answers s t) (hdown : s.isInitialized = false) : t = s := by
  obtain ⟨depth, hdepth⟩ := h
  rw [logfileWriteLine_eq] at hdepth
  exact Ends.unique ⟨depth, hdepth⟩ (ends_down m answers hdown)

theorem call_outcome (h : LogCall m answers s t) (hup : s.isInitialized = true) :
    CallOutcome answers s t := by
  obtain ⟨depth, hdepth⟩ := h
  induction depth generalizing s with
  | zero => cases hdepth
  | succ depth ih =>
      simp only [logfileWriteLine, writeLine, hup, Bool.true_eq_false, if_false, logError] at hdepth
      have hgivesUp {u : LogState} (hu : logfileWriteLine m answers depth u = some t)
          (hdown : u.isInitialized = false) (hwritten : u.written = s.written)
          (hlines : s.vsnprintfs ≤ u.vsnprintfs) (hprinted : s.printed.length < u.printed.length) :
          CallOutcome answers s t := by
        obtain rfl := call_down ⟨depth, hu⟩ hdown
        exact .givesUp hdown hwritten hlines hprinted
      split at hdepth
      · exact hgivesUp hdepth rfl rfl (Nat.le_refl _) (by simp)
      next hpath =>
        split at hdepth
        · exact hgivesUp hdepth rfl rfl (Nat.le_refl _) (by simp)
        next hsize =>
          split at hdepth
          · next hline =>
              cases ih rfl hdepth with
              | record r hup' hr hwritten =>
                  obtain ⟨i, hfrom, hto, hret, hbytes⟩ := hr.line
                  exact .record r hup' ⟨hr.path, i, Nat.le_of_succ_le hfrom, hto, hret, hbytes⟩
                    hwritten
              | givesUp hdown hwritten hlines hprinted =>
                  refine .givesUp hdown hwritten (Nat.le_of_succ_le hlines) ?_
                  simp only [List.length_append] at hprinted
                  omega
          · next hline =>
              split at hdepth
              · exact hgivesUp hdepth rfl rfl (Nat.le_succ _) (by simp)
              · cases hdepth
                exact .record _ rfl ⟨⟨_, ⟨Int.not_lt.mp hpath, Int.not_le.mp hsize⟩, rfl⟩,
                  s.vsnprintfs, Nat.le_refl _, Nat.lt_succ_self _, Int.not_lt.mp hline, rfl⟩ rfl

end

def LogModule.ioMkdir : LogModule → String
  | .kernel => "ksceIoMkdir"
  | .user => "sceIoMkdir"

def sceErrorErrnoEexist : Int := 0x80010011 - 2 ^ 32

def logfileDirParent : CString := ascii "ux0:vitaQmBluetooth"

def logfileDir : CString := logfileDirParent ++ ascii "/logs/"

structure MkdirAnswers where
  parent : Int
  dir : Int

def mkdirError (m : LogModule) (dir : CString) (ret : Int) : CString :=
  returnedError (ascii m.ioMkdir ++ ascii "(log_dir=\"" ++ dir ++ ascii "\")") ret

def LogState.boot : LogState := ⟨false, 0, 0, 0, [], []⟩

section

variable (m : LogModule) (answers : LogAnswers) (mkdirs : MkdirAnswers)

def logfileInit (depth : Nat) (s : LogState) : Option LogState :=
  if mkdirs.parent < 0 ∧ mkdirs.parent ≠ sceErrorErrnoEexist then
    logError (logfileWriteLine m answers depth) s (mkdirError m logfileDirParent mkdirs.parent)
  else if mkdirs.dir < 0 ∧ mkdirs.dir ≠ sceErrorErrnoEexist then
    logError (logfileWriteLine m answers depth) s (mkdirError m logfileDir mkdirs.dir)
  else some { s with isInitialized := true }

inductive Logged : Nat → LogState → Prop
  | init {depth : Nat} {s : LogState} : logfileInit m answers mkdirs depth .boot = some s →
      Logged 0 s
  | call {n : Nat} {s t : LogState} : Logged n s → LogCall m answers s t → Logged (n + 1) t

structure LogHolds (n : Nat) (s : LogState) : Prop where
  inOrder : (s.written.map Prod.snd).Sublist
    ((List.range s.vsnprintfs).map fun i => lineWritten (answers.vsnprintf i))
  recorded : ∀ r ∈ s.written, Recorded answers 0 s.vsnprintfs r
  atMost : s.written.length ≤ n
  up : s.isInitialized = true → s.written.length = n
  down : s.isInitialized = false → s.printed ≠ []

variable {m answers mkdirs} {s t : LogState} {n : Nat}

theorem logHolds_init {depth : Nat} (h : logfileInit m answers mkdirs depth .boot = some s) :
    LogHolds answers 0 s := by
  have hfailed {msg : CString} (hs : logfileWriteLine m answers depth
      { LogState.boot with printed := [msg] } = some s) : LogHolds answers 0 s := by
    obtain rfl := call_down ⟨depth, hs⟩ rfl
    exact ⟨List.nil_sublist _, by simp [LogState.boot], Nat.le_refl _, by simp [LogState.boot],
      by simp⟩
  unfold logfileInit at h
  split at h
  · exact hfailed h
  · split at h
    · exact hfailed h
    · cases h
      exact ⟨List.nil_sublist _, by simp [LogState.boot], Nat.le_refl _, fun _ => rfl, by simp⟩

theorem Recorded.mono {lo hi lo' hi' : Nat} {r : CString × List UInt8}
    (h : Recorded answers lo hi r) (hlo : lo' ≤ lo) (hhi : hi ≤ hi') :
    Recorded answers lo' hi' r := by
  obtain ⟨i, hfrom, hto, hret, hbytes⟩ := h.line
  exact ⟨h.path, i, hlo.trans hfrom, Nat.lt_of_lt_of_le hto hhi, hret, hbytes⟩

theorem lines_sublist {lo hi : Nat} (h : lo ≤ hi) (f : Nat → List UInt8) :
    ((List.range lo).map f).Sublist ((List.range hi).map f) :=
  ((List.range_sublist).mpr h).map f

theorem record_sublist {lo hi i : Nat} (hlo : lo ≤ i) (hhi : i < hi) (f : Nat → List UInt8) :
    ((List.range lo).map f ++ [f i]).Sublist ((List.range hi).map f) := by
  have hstep : ((List.range i).map f ++ [f i]) = (List.range (i + 1)).map f := by
    rw [List.range_succ, List.map_append, List.map_singleton]
  have hfirst : ((List.range lo).map f ++ [f i]).Sublist ((List.range i).map f ++ [f i]) :=
    (lines_sublist hlo f).append (List.Sublist.refl _)
  rw [hstep] at hfirst
  exact hfirst.trans (lines_sublist hhi f)

theorem logHolds_call (h : LogHolds answers n s) (hcall : LogCall m answers s t) :
    LogHolds answers (n + 1) t := by
  cases hs : s.isInitialized with
  | false =>
      obtain rfl := call_down hcall hs
      exact ⟨h.inOrder, h.recorded, Nat.le_succ_of_le h.atMost, by simp [hs], h.down⟩
  | true =>
      cases call_outcome hcall hs with
      | record r hup hr hwritten =>
          obtain ⟨i, hfrom, hto, _, hbytes⟩ := hr.line
          have hlines := Nat.le_trans hfrom (Nat.le_of_lt hto)
          refine ⟨?_, ?_, ?_, fun _ => ?_, by simp [hup]⟩
          · rw [hwritten, List.map_append, List.map_singleton, hbytes]
            exact (h.inOrder.append (List.Sublist.refl _)).trans (record_sublist hfrom hto _)
          · rw [hwritten]
            simp only [List.mem_append, List.mem_singleton]
            rintro x (hx | rfl)
            · exact (h.recorded x hx).mono (Nat.le_refl _) hlines
            · exact hr.mono (Nat.zero_le _) (Nat.le_refl _)
          · rw [hwritten, List.length_append]
            exact Nat.add_le_add_right h.atMost 1
          · rw [hwritten, List.length_append, h.up hs]
            rfl
      | givesUp hdown hwritten hlines hprinted =>
          refine ⟨?_, ?_, ?_, by simp [hdown], fun _ hnil => ?_⟩
          · rw [hwritten]
            exact h.inOrder.trans (lines_sublist hlines _)
          · rw [hwritten]
            exact fun x hx => (h.recorded x hx).mono (Nat.le_refl _) hlines
          · rw [hwritten]
            exact Nat.le_succ_of_le h.atMost
          · rw [hnil] at hprinted
            exact absurd hprinted (Nat.not_lt_zero _)

end

def longLines : LogAnswers where
  snprintf _ := ⟨53, ascii "ux0:vitaQmBluetooth/logs/vitaQmBluetooth-20260101.log"⟩
  vsnprintf _ := ⟨600, Vector.replicate _ 65⟩
  ioOpen i := if i = 0 then 3 else -1

theorem longLines_logged :
    ∃ s, Logged .user longLines ⟨sceErrorErrnoEexist, 0⟩ 2 s ∧ s.isInitialized = false ∧
      s.written.length = 1 := by
  have hinit : logfileInit .user longLines ⟨sceErrorErrnoEexist, 0⟩ 0 .boot =
      some { LogState.boot with isInitialized := true } := rfl
  exact ⟨_, .call (.call (.init hinit) ⟨1, rfl⟩) ⟨2, rfl⟩, rfl, rfl⟩

end VitaQmBluetooth
