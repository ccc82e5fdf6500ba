import VitaQmBluetooth.Foundation.Interleaving
import VitaQmBluetooth.QmState.BusyButtons
import VitaQmBluetooth.Quickmenu.Handlers

namespace VitaQmBluetooth

open Foundation Lts

-- What kvqmbt_bluetooth_state and kvqmbt_get_paired_devices answer.
structure KernelReport where
  bluetoothOn : Bool
  devices : List VqmbtDeviceInfo

def KernelReport.setState (report : KernelReport) (mac0 mac1 : UnsignedInt)
    (state : VqmbtInferredDevState) : KernelReport :=
  { report with devices := report.devices.map fun device =>
      if device.mac = (mac0, mac1) then { device with state := state } else device }

def KernelReport.accept (report : KernelReport) : KvqmbtCall → KernelReport
  | .connectDevice mac0 mac1 => report.setState mac0 mac1 .connecting
  | .disconnectDevice mac0 mac1 => report.setState mac0 mac1 .disconnecting

inductive ResetAt where
  | idle
  | haveBluetooth (bluetoothOn : Bool)
  | haveDevices (bulk : QmsBulk)

structure MenuThreads where
  kernel : KernelReport
  menu : QmModule
  reset : ResetAt

inductive MenuStep where
  | press (idx : Fin vqmbtMaxDevices) (ret : Int)
  | readBluetooth
  | readDevices
  | readFails
  | apply
  | handle (event : VqmbtEvent)
  | kernelChange (report : KernelReport)

def menuStep (s : MenuThreads) (a : MenuStep) : Option MenuThreads :=
  match a, s.reset with
  | .press idx ret, _ =>
      let (menu, reply) := qmStateUpdateUi (fun _ => ret) s.menu (.buttonPressed idx)
      let kernel := if ret < 0 then s.kernel else reply.calls.foldl KernelReport.accept s.kernel
      some { s with menu := menu, kernel := kernel }
  | .readBluetooth, .idle => some { s with reset := .haveBluetooth s.kernel.bluetoothOn }
  | .readDevices, .haveBluetooth bluetoothOn =>
      some { s with reset := .haveDevices (resetBulk bluetoothOn s.kernel.devices) }
  | .readFails, .haveBluetooth _ => some { s with reset := .idle }
  | .apply, .haveDevices bulk =>
      let (menu, _) := qmStateUpdateUi (fun _ => 0) s.menu (.bulkUpdate bulk)
      some { s with menu := menu, reset := .idle }
  | .handle event, .idle =>
      match handleEvent event with
      | .request request =>
          let (menu, _) := qmStateUpdateUi (fun _ => 0) s.menu request
          some { s with menu := menu }
      | .ignored => some s
      | .reset => none
  | .kernelChange report, _ => some { s with kernel := report }
  | _, _ => none

def menuThreads : Lts MenuThreads MenuStep where
  start s := s.reset = .idle
  step := menuStep

def PressAccepted (x : Transition MenuThreads MenuStep) (idx : Fin vqmbtMaxDevices) : Prop :=
  match x.act with
  | .press pressed ret => pressed = idx ∧ 0 ≤ ret ∧
      (qmStateUpdateUi (fun _ => ret) x.before.menu (.buttonPressed pressed)).2.calls ≠ []
  | _ => False

instance (x : Transition MenuThreads MenuStep) (idx : Fin vqmbtMaxDevices) :
    Decidable (PressAccepted x idx) := by
  unfold PressAccepted
  split <;> infer_instance

def pressedSince :
    List (Transition MenuThreads MenuStep) → Fin vqmbtMaxDevices →
      Option (UnsignedInt × UnsignedInt)
  | [], _ => none
  | x :: older, idx =>
      match x.act with
      | .readDevices => none
      | _ =>
          if PressAccepted x idx then some (x.before.menu.qmState.buttons idx).device.mac
          else pressedSince older idx

def KeepsPressed (x : Transition MenuThreads MenuStep)
    (older : List (Transition MenuThreads MenuStep)) : Prop :=
  match x.act with
  | .apply => ∀ idx, ∀ mac ∈ pressedSince older idx,
      Busy (x.before.menu.qmState.buttons idx).btnState ∧
        (x.after.menu.qmState.buttons idx).btnState =
          (x.before.menu.qmState.buttons idx).btnState ∧
        (x.after.menu.qmState.buttons idx).device.mac = mac
  | _ => True

def SnapshotAgrees (x : Transition MenuThreads MenuStep)
    (older : List (Transition MenuThreads MenuStep)) : Prop :=
  match x.act, x.before.reset with
  | .apply, .haveDevices bulk => ∀ idx, ∀ mac ∈ pressedSince older idx,
      bulk.bluetoothOn = true ∧ bulk.Lists idx ∧ (bulk.devices idx).mac = mac ∧
        (bulk.devices idx).state.shownAs = (x.before.menu.qmState.buttons idx).btnState
  | _, _ => True

instance (s : QmButtonState) : Decidable (Busy s) := inferInstanceAs (Decidable (_ ∨ _))

instance (x : Transition MenuThreads MenuStep) (older : List (Transition MenuThreads MenuStep)) :
    Decidable (KeepsPressed x older) := by
  unfold KeepsPressed
  split
  · exact @Nat.decidableForallFin _ _ fun _ => Option.decidableForallMem _
  · infer_instance

instance (x : Transition MenuThreads MenuStep) (older : List (Transition MenuThreads MenuStep)) :
    Decidable (SnapshotAgrees x older) := by
  unfold SnapshotAgrees
  split
  · exact @Nat.decidableForallFin _ _ fun _ => Option.decidableForallMem _
  · infer_instance

def WaitsFor (m : QmModule) (idx : Fin vqmbtMaxDevices) (mac : UnsignedInt × UnsignedInt) : Prop :=
  Busy (m.qmState.buttons idx).btnState ∧ (m.qmState.buttons idx).device.mac = mac

theorem press_waits {m : QmModule} {pressed : Fin vqmbtMaxDevices} {ret : Int} (hret : 0 ≤ ret)
    (hcall : (qmStateUpdateUi (fun _ => ret) m (.buttonPressed pressed)).2.calls ≠ []) :
    WaitsFor (qmStateUpdateUi (fun _ => ret) m (.buttonPressed pressed)).1 pressed
      (m.qmState.buttons pressed).device.mac := by
  rw [qmStateUpdateUi_calls] at hcall
  rw [WaitsFor, qmStateUpdateUi_buttons]
  simp only [requestEffect, requestCalls, if_pos, QmButton.press] at hcall ⊢
  cases hp : (m.qmState.buttons pressed).pressCall with
  | none => exact absurd (by rw [hp]; rfl) hcall
  | some call =>
      simp only [QmButton.pressOutcome, if_neg (Int.not_lt.mpr hret)]
      cases call with
      | connectDevice mac0 mac1 =>
          exact ⟨.inl (QmButton.settle_idem _ _), by simp only [QmButton.settle_device]⟩
      | disconnectDevice mac0 mac1 =>
          exact ⟨.inr (QmButton.settle_idem _ _), by simp only [QmButton.settle_device]⟩

theorem press_keeps_busy {m : QmModule} {idx : Fin vqmbtMaxDevices}
    (h : Busy (m.qmState.buttons idx).btnState) (kernel : KvqmbtCall → Int)
    (pressed : Fin vqmbtMaxDevices) :
    (qmStateUpdateUi kernel m (.buttonPressed pressed)).1.qmState.buttons idx =
      m.qmState.buttons idx := by
  rw [qmStateUpdateUi_buttons]
  simp only [requestEffect]
  split
  · have hnone : (m.qmState.buttons idx).pressCall = none := by
      rcases h with h | h <;> simp [QmButton.pressCall, h]
    simp only [QmButton.press, hnone]
  · rfl

theorem menuStep_devices {s t : MenuThreads} {a : MenuStep} (h : menuStep s a = some t)
    {bulk : QmsBulk} (ht : t.reset = .haveDevices bulk) :
    a = .readDevices ∨ (s.reset = .haveDevices bulk ∧
      ((∃ report, a = .kernelChange report ∧ t.menu = s.menu) ∨
        ∃ pressed ret, a = .press pressed ret ∧
          t.menu = (qmStateUpdateUi (fun _ => ret) s.menu (.buttonPressed pressed)).1)) := by
  unfold menuStep at h
  split at h
  · next pressed ret =>
      cases h
      exact .inr ⟨ht, .inr ⟨pressed, ret, rfl, rfl⟩⟩
  · cases h
    cases ht
  · exact .inl rfl
  · cases h
    cases ht
  · cases h
    cases ht
  · next event hidle =>
      split at h
      · cases h
        rw [hidle] at ht
        cases ht
      · cases h
        rw [hidle] at ht
        cases ht
      · cases h
  · next report =>
      cases h
      exact .inr ⟨ht, .inl ⟨report, rfl, rfl⟩⟩
  · cases h

theorem pressed_waits {past : List (Transition MenuThreads MenuStep)} {s : MenuThreads}
    (h : menuThreads.Run past s) : ∀ bulk, s.reset = .haveDevices bulk →
      ∀ idx, ∀ mac ∈ pressedSince past idx, WaitsFor s.menu idx mac := by
  induction h with
  | start _ => intro _ _ idx mac hpressed; cases hpressed
  | next _ hstep ih =>
      intro bulk hbulk idx mac hpressed
      rcases menuStep_devices hstep hbulk with rfl | ⟨hreset, ⟨report, rfl, hmenu⟩ |
        ⟨pressed, ret, rfl, hmenu⟩⟩
      · cases hpressed
      · rw [hmenu]
        exact ih bulk hreset idx mac hpressed
      · rw [hmenu]
        simp only [pressedSince] at hpressed
        split at hpressed
        · next haccepted =>
            obtain ⟨rfl, hret, hcall⟩ := haccepted
            obtain rfl := Option.some.inj hpressed
            exact press_waits hret hcall
        · have hwaits := ih bulk hreset idx mac hpressed
          rw [WaitsFor, press_keeps_busy hwaits.1]
          exact hwaits

theorem bulk_keeps_busy_iff {b : QmButton} (hbusy : Busy b.btnState) (bulk : QmsBulk)
    (idx : Fin vqmbtMaxDevices) (mac : UnsignedInt × UnsignedInt) :
    (b.bulk bulk idx).btnState = b.btnState ∧ (b.bulk bulk idx).device.mac = mac ↔
      bulk.bluetoothOn = true ∧ bulk.Lists idx ∧ (bulk.devices idx).mac = mac ∧
        (bulk.devices idx).state.shownAs = b.btnState := by
  by_cases hlists : bulk.Lists idx
  · cases hon : bulk.bluetoothOn with
    | true =>
        rw [QmButton.bulk_mac hlists, QmButton.bulk_on hlists hon, QmButton.settle_idem]
        simp [hlists, and_comm]
    | false =>
        refine iff_of_false (fun hsame => ?_) (fun h => nomatch h.1)
        refine off_not_busy (QmButton.off_bulk hon idx b) ?_
        rw [hsame.1]
        exact hbusy
  · refine iff_of_false (fun hsame => ?_) (fun h => hlists h.2.1)
    rw [QmButton.bulk_unlisted hlists] at hsame
    exact busy_not_vacant hbusy (hsame.1.symm.trans (QmButton.vacant_empty b))

theorem press_kept_iff {past : List (Transition MenuThreads MenuStep)} {s : MenuThreads}
    (hrun : menuThreads.Run past s) :
    Throughout KeepsPressed past ↔ Throughout SnapshotAgrees past := by
  refine hrun.throughout_iff fun older s a t hrun hstep => ?_
  cases a with
  | apply =>
      cases hreset : s.reset with
      | haveDevices bulk =>
          have ht : t.menu = (qmStateUpdateUi (fun _ => 0) s.menu (.bulkUpdate bulk)).1 := by
            simp only [menuThreads, menuStep, hreset, Option.some.injEq] at hstep
            rw [← hstep]
          simp only [KeepsPressed, SnapshotAgrees, hreset, ht, qmStateUpdateUi_buttons,
            requestEffect]
          refine forall_congr' fun idx => forall_congr' fun mac => forall_congr' fun hpressed => ?_
          have hbusy := (pressed_waits hrun bulk hreset idx mac hpressed).1
          rw [bulk_keeps_busy_iff hbusy]
          exact and_iff_right hbusy
      | idle => simp [menuThreads, menuStep, hreset] at hstep
      | haveBluetooth bluetoothOn => simp [menuThreads, menuStep, hreset] at hstep
  | _ => exact Iff.rfl

def MenuThreads.oneDevice : MenuThreads where
  kernel := ⟨true, [⟨Vector.replicate _ 0, 1, 1, .disconnected⟩]⟩
  menu := quickMenu.after [⟨.bulkUpdate (.single true 1 1 .disconnected), fun _ => 0⟩]
  reset := .idle

theorem press_kept_fresh :
    Throughout KeepsPressed (menuThreads.played .oneDevice
      [.press 0 0, .readBluetooth, .readDevices, .apply] (by decide +kernel)).1 :=
  (press_kept_iff (run_played rfl _)).mpr (by decide +kernel)

theorem press_overwritten : ¬ ∀ (past : List (Transition MenuThreads MenuStep)) (s : MenuThreads),
    menuThreads.Run past s → Throughout KeepsPressed past := by
  intro hall
  have hplays : (menuThreads.play [] .oneDevice
      [.readBluetooth, .readDevices, .press 0 0, .apply]).isSome := by decide +kernel
  exact absurd (hall _ _ (run_played rfl hplays)) (by decide +kernel +revert)

end VitaQmBluetooth
