import Mathlib.Algebra.Order.Ring.Int
import VitaQmBluetooth.Foundation.Loop
import VitaQmBluetooth.Interface.Clib

namespace VitaQmBluetooth

open Foundation

abbrev logFilePathSize : Nat := 256

abbrev logfileLineBuffer : Nat := 512

inductive LogModule where
  | kernel
  | user
  deriving DecidableEq, Repr

structure LogCallNames where
  snprintf : String
  vsnprintf : String
  ioOpen : String

def LogModule.names : LogModule → LogCallNames
  | .kernel => ⟨"snprintf", "vsnprintf", "ksceIoOpen"⟩
  | .user => ⟨"sceClibSnprintf", "sceClibVsnprintf", "sceIoOpen"⟩

structure SnprintfAnswer where
  ret : Int
  logFilePath : CString

structure VsnprintfAnswer where
  ret : Int
  buffer : Vector UInt8 logfileLineBuffer

-- The answers each call meets, in the order it is made in.
structure LogAnswers where
  snprintf : Nat → SnprintfAnswer
  vsnprintf : Nat → VsnprintfAnswer
  ioOpen : Nat → Int

structure LogState where
  isInitialized : Bool
  snprintfs : Nat
  vsnprintfs : Nat
  ioOpens : Nat
  printed : List CString
  written : List (CString × List UInt8)
  deriving DecidableEq

def returnedError (call : CString) (ret : Int) : CString :=
  call ++ ascii " returned error 0x" ++ hex08 ret

def truncatedMarker : CString := ascii " Truncated\n"

def lineWritten (line : VsnprintfAnswer) : List UInt8 :=
  if line.ret < logfileLineBuffer then line.buffer.toList.take line.ret.toNat
  else
    let bufferLen := logfileLineBuffer - 1
    line.buffer.toList.take (bufferLen - truncatedMarker.length) ++ truncatedMarker

theorem lineWritten_length_lt (line : VsnprintfAnswer) :
    (lineWritten line).length < logfileLineBuffer := by
  have hmarker : truncatedMarker.length = 11 := by decide
  simp only [lineWritten, logfileLineBuffer]
  split
  · rename_i hret
    rw [List.length_take]
    omega
  · rw [List.length_append, List.length_take, hmarker]
    omega

section

variable {α : Type*} (m : LogModule) (answers : LogAnswers)

def logError (nested : LogState → α) (s : LogState) (msg : CString) : α :=
  nested { s with printed := s.printed ++ [msg] }

def writeLine (s : LogState) (logError : LogState → CString → α) (finish : LogState → α) : α :=
  if s.isInitialized = false then finish s
  else
    let path := answers.snprintf s.snprintfs
    let s := { s with snprintfs := s.snprintfs + 1 }
    if path.ret < 0 then
      logError { s with isInitialized := false }
        (returnedError (ascii m.names.snprintf) path.ret)
    else if logFilePathSize ≤ path.ret then
      logError { s with isInitialized := false }
        (ascii m.names.snprintf ++ ascii " truncated the file path")
    else
      let line := answers.vsnprintf s.vsnprintfs
      let s := { s with vsnprintfs := s.vsnprintfs + 1 }
      if line.ret < 0 then
        logError s (returnedError (ascii m.names.vsnprintf) line.ret)
      else
        let fd := answers.ioOpen s.ioOpens
        let s := { s with ioOpens := s.ioOpens + 1 }
        if fd < 0 then
          logError { s with isInitialized := false }
            (returnedError (ascii m.names.ioOpen ++ ascii "(log_file_path=\"" ++
              path.logFilePath ++ ascii "\")") fd)
        else finish { s with written := s.written ++ [(path.logFilePath, lineWritten line)] }

def logfileWriteLine : Nat → LogState → Option LogState
  | 0, _ => none
  | depth + 1, s => writeLine m answers s (logError (logfileWriteLine depth)) some

def writeLineTurn (s : LogState) : LogState ⊕ LogState :=
  writeLine m answers s (logError .inl) .inr

theorem writeLine_eq (s : LogState) (nested finish : LogState → α) :
    writeLine m answers s (logError nested) finish =
      (writeLineTurn m answers s).elim nested finish := by
  simp only [writeLineTurn, writeLine]
  repeat' split
  all_goals rfl

theorem logfileWriteLine_eq (depth : Nat) (s : LogState) :
    logfileWriteLine m answers depth s = runLoop (writeLineTurn m answers) depth s := by
  induction depth generalizing s with
  | zero => rfl
  | succ depth ih =>
      rw [logfileWriteLine, writeLine_eq, runLoop]
      cases writeLineTurn m answers s with
      | inl t => exact ih t
      | inr r => rfl

def PathFits (ret : Int) : Prop := 0 ≤ ret ∧ ret < logFilePathSize

instance (ret : Int) : Decidable (PathFits ret) :=
  inferInstanceAs (Decidable (0 ≤ ret ∧ ret < logFilePathSize))

def LineFails (s : LogState) : Prop :=
  PathFits (answers.snprintf s.snprintfs).ret ∧ (answers.vsnprintf s.vsnprintfs).ret < 0

def lineFailed (s : LogState) : LogState :=
  let line := answers.vsnprintf s.vsnprintfs
  { s with
    snprintfs := s.snprintfs + 1
    vsnprintfs := s.vsnprintfs + 1
    printed := s.printed ++ [returnedError (ascii m.names.vsnprintf) line.ret] }

theorem writeLineTurn_down {s : LogState} (h : s.isInitialized = false) :
    writeLineTurn m answers s = .inr s := by
  simp [writeLineTurn, writeLine, h]

theorem writeLineTurn_lineFails {s : LogState} (hup : s.isInitialized = true)
    (h : LineFails answers s) :
    Again (writeLineTurn m answers) s (lineFailed m answers s) := by
  obtain ⟨⟨hzero, hsize⟩, hline⟩ := h
  simp only [Again, writeLineTurn, writeLine, hup, Bool.true_eq_false, if_false,
    if_neg (not_lt.mpr hzero), if_neg (not_le.mpr hsize), if_pos hline, logError, lineFailed]

theorem again_cases {s t : LogState} (h : Again (writeLineTurn m answers) s t) :
    t.isInitialized = false ∨
      s.isInitialized = true ∧ LineFails answers s ∧ t = lineFailed m answers s := by
  have hup : s.isInitialized = true := by
    by_contra hdown
    rw [Again, writeLineTurn_down m answers (Bool.eq_false_of_not_eq_true hdown)] at h
    cases h
  by_cases hline : LineFails answers s
  · have hfailed := writeLineTurn_lineFails m answers hup hline
    exact .inr ⟨hup, hline, Sum.inl.inj (h.symm.trans hfailed)⟩
  · refine .inl ?_
    simp only [Again, writeLineTurn, writeLine, logError] at h
    repeat' split at h
    all_goals cases h
    all_goals try rfl
    rename_i hzero hsize hfails
    exact absurd ⟨⟨not_lt.mp hzero, not_le.mp hsize⟩, hfails⟩ hline

theorem ends_down {s : LogState} (h : s.isInitialized = false) :
    Ends (writeLineTurn m answers) s s := .stop (writeLineTurn_down m answers h)

theorem ends_of_not_lineFails {s : LogState}
    (h : ¬ (s.isInitialized = true ∧ LineFails answers s)) :
    ∃ r, Ends (writeLineTurn m answers) s r := by
  cases hturn : writeLineTurn m answers s with
  | inr r => exact ⟨r, .stop hturn⟩
  | inl t =>
      rcases again_cases m answers hturn with hdown | ⟨hup, hfails, _⟩
      · exact ⟨t, (ends_down m answers hdown).again hturn⟩
      · exact absurd ⟨hup, hfails⟩ h

theorem lineFailed_iterate (n : Nat) (s : LogState) :
    ((lineFailed m answers)^[n] s).isInitialized = s.isInitialized ∧
      ((lineFailed m answers)^[n] s).snprintfs = s.snprintfs + n ∧
      ((lineFailed m answers)^[n] s).vsnprintfs = s.vsnprintfs + n := by
  induction n with
  | zero => exact ⟨rfl, rfl, rfl⟩
  | succ n ih =>
      rw [Function.iterate_succ_apply']
      obtain ⟨hup, hpaths, hlines⟩ := ih
      exact ⟨hup, congrArg (· + 1) hpaths, congrArg (· + 1) hlines⟩

theorem ends_iff (s : LogState) :
    (∃ r, Ends (writeLineTurn m answers) s r) ↔
      s.isInitialized = false ∨ ∃ n, ¬ (PathFits (answers.snprintf (s.snprintfs + n)).ret ∧
        (answers.vsnprintf (s.vsnprintfs + n)).ret < 0) := by
  rw [ends_iff_exits (lineFailed m answers)
    (fun s => s.isInitialized = true ∧ LineFails answers s)
    (fun s h => writeLineTurn_lineFails m answers h.1 h.2)
    (fun s h => ends_of_not_lineFails m answers h)]
  simp only [LineFails, lineFailed_iterate]
  cases s.isInitialized <;> simp

def LoggingReturns (s : LogState) : Prop :=
  (∃ depth t, logfileWriteLine m answers depth s = some t) ∧
    ∃ left : LogState → Nat, ∀ t u,
      Relation.ReflTransGen (Again (writeLineTurn m answers)) s t →
        Again (writeLineTurn m answers) t u → u.isInitialized = false ∨ left u < left t

theorem logging_returns_iff (s : LogState) :
    LoggingReturns m answers s ↔
      s.isInitialized = false ∨ ∃ n, ¬ (PathFits (answers.snprintf (s.snprintfs + n)).ret ∧
        (answers.vsnprintf (s.vsnprintfs + n)).ret < 0) := by
  rw [← ends_iff m answers s]
  constructor
  · rintro ⟨⟨depth, t, hreturns⟩, _⟩
    rw [logfileWriteLine_eq] at hreturns
    exact ⟨t, depth, hreturns⟩
  · rintro ⟨r, hends⟩
    obtain ⟨depth, hdepth⟩ := hends
    refine ⟨⟨depth, r, ?_⟩, turnsLeft (writeLineTurn m answers), fun t u hreach hagain => ?_⟩
    · rw [logfileWriteLine_eq, hdepth]
    · have hends := Ends.after_turns ⟨depth, hdepth⟩ hreach
      exact .inr (turnsLeft_again hends hagain)

end

def linesNeverFormat : LogAnswers where
  snprintf _ := ⟨53, ascii "ux0:vitaQmBluetooth/logs/vitaQmBluetooth-20260101.log"⟩
  vsnprintf _ := ⟨-1, Vector.replicate _ 0⟩
  ioOpen _ := 3

theorem logging_never_returns :
    ¬ (∀ answers s, LoggingReturns .kernel answers s) ∧
      ¬ (∀ answers s, LoggingReturns .user answers s) := by
  have hnever (m : LogModule) :
      ¬ LoggingReturns m linesNeverFormat ⟨true, 0, 0, 0, [], []⟩ := by
    rintro ⟨⟨depth, t, hreturns⟩, _⟩
    rw [logfileWriteLine_eq] at hreturns
    rcases (ends_iff m _ _).mp ⟨t, depth, hreturns⟩ with hdown | ⟨n, hn⟩
    · cases hdown
    · have hfits : PathFits 53 := by decide
      have hfails : (-1 : Int) < 0 := by decide
      exact hn ⟨hfits, hfails⟩
  exact ⟨fun h => hnever .kernel (h _ _), fun h => hnever .user (h _ _)⟩

end VitaQmBluetooth
