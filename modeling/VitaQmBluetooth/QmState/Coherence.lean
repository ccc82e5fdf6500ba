import VitaQmBluetooth.QmState.SlotEffect

namespace VitaQmBluetooth

open Foundation Tracked

theorem qmStateUpdateUi_buttons (kernel : KvqmbtCall → Int) (m : QmModule)
    (request : QmsRequest) (idx : Fin vqmbtMaxDevices) :
    (qmStateUpdateUi kernel m request).1.qmState.buttons idx =
      requestEffect kernel m.qmState.buttons request idx (m.qmState.buttons idx) := by
  simp only [qmStateUpdateUi, handleRequest_eq]
  split
  · rfl
  · split <;> rfl

theorem qmStateUpdateUi_calls (kernel : KvqmbtCall → Int) (m : QmModule)
    (request : QmsRequest) :
    (qmStateUpdateUi kernel m request).2.calls = requestCalls m.qmState.buttons request := by
  simp only [qmStateUpdateUi, handleRequest_eq]

theorem qmStateUpdateUi_changed (kernel : KvqmbtCall → Int) (m : QmModule)
    (request : QmsRequest) :
    (qmStateUpdateUi kernel m request).2.changed = true ↔
      (qmStateUpdateUi kernel m request).1.qmState ≠ m.qmState := by
  have hbuttons : (qmStateUpdateUi kernel m request).1.qmState.buttons =
      ((⟨m.qmState.buttons, false⟩ : QmUpdate).changeEach
        (requestEffect kernel m.qmState.buttons request)).slots := by
    funext idx
    rw [qmStateUpdateUi_buttons]
    rfl
  have hchanged := changeEach_changed_iff m.qmState.buttons
    (requestEffect kernel m.qmState.buttons request)
  rw [← hbuttons] at hchanged
  rw [ne_eq, QmState.ext_iff, ← ne_eq, ← hchanged]
  simp only [qmStateUpdateUi, handleRequest_eq]

def drawnWidget (qmState : QmState) (idx : Fin vqmbtMaxDevices) : Widget where
  label := some (buttonLabel idx (qmState.buttons idx))
  color := some (if buttonEnabled (qmState.buttons idx) = true then enabledColor
    else disabledColor)

theorem refreshUiAt_eq (qmState : QmState) (widgets : Fin vqmbtMaxDevices → Widget)
    (idx : Fin vqmbtMaxDevices) :
    refreshUiAt qmState widgets idx = Function.update widgets idx (drawnWidget qmState idx) := by
  funext j
  by_cases hj : j = idx
  · subst hj
    simp only [refreshUiAt, setWidgetLabel, setWidgetColor, drawnWidget]
    split <;> simp
  · simp only [refreshUiAt, setWidgetLabel, setWidgetColor]
    split <;> simp [hj]

theorem refreshUi_widgets (m : QmModule) : (refreshUi m).widgets = drawnWidget m.qmState := by
  simp only [refreshUi, funext₂ (refreshUiAt_eq m.qmState)]
  exact foldl_finRange_update _ _

def Displayed (m : QmModule) : Prop := m.widgets = drawnWidget m.qmState

theorem displayed_step (kernel : KvqmbtCall → Int) (m : QmModule) (request : QmsRequest)
    (h : Displayed m ∨ m.firstRun = true) :
    Displayed (qmStateUpdateUi kernel m request).1 := by
  have hkept := qmStateUpdateUi_changed kernel m request
  revert hkept
  simp only [Displayed, qmStateUpdateUi] at h ⊢
  split
  · intro _; exact refreshUi_widgets _
  · next hunchanged =>
      split
      · intro _; exact refreshUi_widgets _
      · next hnotfirst =>
          intro hkept
          have hsame : (⟨(handleRequest kernel ⟨m.qmState.buttons, false⟩ request).1.slots⟩ :
              QmState) = m.qmState := by
            by_contra hne
            exact hunchanged (hkept.mpr hne)
          rw [hsame]
          exact h.resolve_right hnotfirst

theorem displayed_after (a : Handling) (past : List Handling) :
    Displayed (quickMenu.after (a :: past)) := by
  induction past generalizing a with
  | nil => exact displayed_step a.kernel _ a.request (.inr rfl)
  | cons b past ih => exact displayed_step a.kernel _ a.request (.inl (ih b))

theorem reply_changed (past : List Handling) (a : Handling) :
    (quickMenu.reply past a).changed = true ↔
      (quickMenu.after (a :: past)).qmState ≠ (quickMenu.after past).qmState :=
  qmStateUpdateUi_changed a.kernel _ a.request

theorem display_coherent (past : List Handling) (a : Handling) :
    (quickMenu.after (a :: past)).widgets = drawnWidget (quickMenu.after (a :: past)).qmState ∧
      ((quickMenu.reply past a).changed = true ↔
        (quickMenu.after (a :: past)).qmState ≠ (quickMenu.after past).qmState) :=
  ⟨displayed_after a past, reply_changed past a⟩

def pad : VqmbtDeviceInfo := ⟨(Vector.replicate _ 0).setIfInBounds 0 80, 1, 1, .connected⟩

def listPad : Handling where
  request := .bulkUpdate ⟨true, 1, fun _ => pad⟩
  kernel := fun _ => VqmbtError.kernelSideBusy.code

theorem display_coherent_pressed :
    let listed := quickMenu.after [listPad]
    let press : Handling := ⟨.buttonPressed 0, listPad.kernel⟩
    let pressed := quickMenu.after [press, listPad]
    (listed.widgets 0 = ⟨some (ascii "Disconnect P"), some ⟨1, 1, 1, 1⟩⟩ ∧
        listed.widgets 1 = ⟨some (ascii "Slot 2: no device"), some ⟨1 / 2, 1 / 2, 1 / 2, 1⟩⟩) ∧
      (pressed.widgets 0 = ⟨some (ascii "Error: Busy (Settings opened?)"),
          some ⟨1 / 2, 1 / 2, 1 / 2, 1⟩⟩ ∧ pressed.widgets 1 = listed.widgets 1) ∧
      (quickMenu.reply [listPad] press).changed = true ∧
      (quickMenu.reply [press, listPad] press).changed = false := by
  intro listed press pressed
  obtain ⟨hlisted, -⟩ := display_coherent [] listPad
  obtain ⟨hpressed, hchanged⟩ := display_coherent [listPad] press
  obtain ⟨-, hagain⟩ := display_coherent [press, listPad] press
  refine ⟨⟨(congrFun hlisted 0).trans ?_, (congrFun hlisted 1).trans ?_⟩,
    ⟨(congrFun hpressed 0).trans ?_, ?_⟩, hchanged.mpr ?_, ?_⟩
  · decide +kernel
  · decide +kernel
  · decide +kernel
  · rw [hlisted, hpressed]
    decide +kernel
  · intro hsame
    exact absurd (congrArg (fun q => (QmState.buttons q 0).btnState) hsame) (by decide +kernel)
  · rw [← Bool.not_eq_true, hagain, not_not, QmState.ext_iff]
    funext idx
    revert idx
    decide +kernel

end VitaQmBluetooth
