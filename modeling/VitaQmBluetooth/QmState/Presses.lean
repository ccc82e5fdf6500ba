import VitaQmBluetooth.QmState.BusyButtons

namespace VitaQmBluetooth

open Foundation

def ShownEnabled (m : QmModule) (idx : Fin vqmbtMaxDevices) (word : String) : Prop :=
  (m.widgets idx).color = some enabledColor ∧
    ∃ rest, (m.widgets idx).label = some (ascii word ++ rest)

def ShownAsError (m : QmModule) (idx : Fin vqmbtMaxDevices) : Prop :=
  ∃ rest, (m.widgets idx).label = some (ascii "Error: " ++ rest)

structure ErrorLabel (ret : Int) (label : Option CString) : Prop where
  notConnectable : ret = VqmbtError.kernelSideNotConnectable.code →
    label = some (ascii "Error: Must connect from device")
  busy : ret = VqmbtError.kernelSideBusy.code →
    label = some (ascii "Error: Busy (Settings opened?)")
  other : ret ≠ VqmbtError.kernelSideNotConnectable.code → ret ≠ VqmbtError.kernelSideBusy.code →
    label = some (ascii "Error: 0x" ++ hex08 ret)

def labelInitial : QmButtonState → UInt8
  | .slotEmptyDisabled => 83
  | .btOffDisabled => 66
  | .disconnectingDisabled | .connected => 68
  | .connectingDisabled | .disconnected => 67
  | .errorDisabled => 69

theorem buttonLabel_head (idx : Fin vqmbtMaxDevices) (b : QmButton) :
    (buttonLabel idx b).head? = some (labelInitial b.btnState) := by
  unfold buttonLabel
  cases b.btnState <;> rfl

theorem label_initial {idx : Fin vqmbtMaxDevices} {b : QmButton} {f : UInt8}
    {rest : CString} (h : buttonLabel idx b = f :: rest) : labelInitial b.btnState = f := by
  have hhead := buttonLabel_head idx b
  rw [h] at hhead
  exact (Option.some.inj hhead).symm

theorem snprintf_append {size : Nat} {word : CString} (text : CString)
    (h : word.length ≤ size - 1) :
    sceClibSnprintf size (word ++ text) = word ++ text.take (size - 1 - word.length) := by
  simp only [sceClibSnprintf, List.take_append, List.take_of_length_le h]

theorem enabledColor_iff (b : QmButton) :
    (if buttonEnabled b = true then enabledColor else disabledColor) = enabledColor ↔
      b.btnState = .disconnected ∨ b.btnState = .connected := by
  have hdistinct : disabledColor ≠ enabledColor := by decide +kernel
  unfold buttonEnabled
  cases b.btnState <;> simp [hdistinct]

section Displayed

variable {m : QmModule} (h : Displayed m) (idx : Fin vqmbtMaxDevices)

include h

theorem displayed_label :
    (m.widgets idx).label = some (buttonLabel idx (m.qmState.buttons idx)) := by
  rw [show m.widgets = drawnWidget m.qmState from h]
  rfl

theorem displayed_color :
    (m.widgets idx).color = some (if buttonEnabled (m.qmState.buttons idx) = true
      then enabledColor else disabledColor) := by
  rw [show m.widgets = drawnWidget m.qmState from h]
  rfl

theorem shown_initial {word : String} {f : UInt8} {tail : CString}
    (hword : ascii word = f :: tail) (hshown : ShownEnabled m idx word) :
    ((m.qmState.buttons idx).btnState = .disconnected ∨
        (m.qmState.buttons idx).btnState = .connected) ∧
      labelInitial (m.qmState.buttons idx).btnState = f := by
  simp only [ShownEnabled, displayed_label h, displayed_color h, Option.some.injEq,
    enabledColor_iff] at hshown
  obtain ⟨hstate, rest, hlabel⟩ := hshown
  rw [hword] at hlabel
  exact ⟨hstate, label_initial hlabel⟩

theorem shown_of_label {word : String} {text : CString}
    (hstate : (m.qmState.buttons idx).btnState = .disconnected ∨
      (m.qmState.buttons idx).btnState = .connected)
    (hlabel : buttonLabel idx (m.qmState.buttons idx) =
      sceClibSnprintf buttonLabelMax (ascii word ++ text))
    (hfits : (ascii word).length ≤ buttonLabelMax - 1) : ShownEnabled m idx word := by
  refine ⟨?_, text.take (buttonLabelMax - 1 - (ascii word).length), ?_⟩
  · rw [displayed_color h, (enabledColor_iff _).mpr hstate]
  · rw [displayed_label h, hlabel, snprintf_append text hfits]

theorem shown_connect_iff :
    ShownEnabled m idx "Connect " ↔ (m.qmState.buttons idx).btnState = .disconnected := by
  constructor
  · intro hshown
    obtain ⟨hstate, hinitial⟩ := shown_initial h idx rfl hshown
    refine hstate.resolve_right fun hconnected => ?_
    rw [hconnected] at hinitial
    cases hinitial
  · intro hstate
    exact shown_of_label h idx (.inl hstate) (by simp only [buttonLabel, hstate]; rfl) (by decide)

theorem shown_disconnect_iff :
    ShownEnabled m idx "Disconnect " ↔ (m.qmState.buttons idx).btnState = .connected := by
  constructor
  · intro hshown
    obtain ⟨hstate, hinitial⟩ := shown_initial h idx rfl hshown
    refine hstate.resolve_left fun hdisconnected => ?_
    rw [hdisconnected] at hinitial
    cases hinitial
  · intro hstate
    exact shown_of_label h idx (.inr hstate) (by simp only [buttonLabel, hstate]; rfl) (by decide)

theorem shown_error_state (hshown : ShownAsError m idx) :
    (m.qmState.buttons idx).btnState = .errorDisabled := by
  obtain ⟨rest, hlabel⟩ := hshown
  rw [displayed_label h, Option.some.injEq] at hlabel
  have hinitial := label_initial (f := 69) hlabel
  revert hinitial
  cases (m.qmState.buttons idx).btnState <;> simp [labelInitial]

end Displayed

theorem errorMessageFor_length (error : Int) : (errorMessageFor error).length ≤ 24 := by
  unfold errorMessageFor
  split
  · decide
  · split
    · decide
    · simp only [sceClibSnprintf, List.length_take, List.length_append, hex08, List.length_map]
      have hzerox : (ascii "0x").length = 2 := by decide
      simp only [hzerox, List.length_cons, List.length_nil]
      omega

theorem error_label (idx : Fin vqmbtMaxDevices) {b : QmButton} {error : Int}
    (hs : b.btnState = .errorDisabled) (hm : b.errorMessage = errorMessageFor error) :
    buttonLabel idx b = ascii "Error: " ++ errorMessageFor error := by
  simp only [buttonLabel, hs, hm]
  rw [snprintf_append _ (by decide), List.take_of_length_le]
  have hlength := errorMessageFor_length error
  have hroom : 24 ≤ buttonLabelMax - 1 - (ascii "Error: ").length := by decide
  exact hlength.trans hroom

theorem errorLabel_message (ret : Int) :
    ErrorLabel ret (some (ascii "Error: " ++ errorMessageFor ret)) where
  notConnectable hret := by
    rw [hret]
    decide
  busy hret := by
    rw [hret]
    decide
  other hconnectable hbusy := by
    have hmessage : errorMessageFor ret = ascii "0x" ++ hex08 ret := by
      rw [errorMessageFor, if_neg hconnectable, if_neg hbusy, sceClibSnprintf,
        List.take_of_length_le]
      simp [ascii, hex08, buttonLabelMax]
    have hprefix : ascii "Error: 0x" = ascii "Error: " ++ ascii "0x" := by decide
    rw [hmessage, hprefix, List.append_assoc]

def callOn (idx : Fin vqmbtMaxDevices) (m : QmModule) (a : Handling) : Option Int :=
  match a.request with
  | .buttonPressed pressed =>
      if pressed = idx then (quickMenu.step m a).2.calls.head?.map a.kernel else none
  | _ => none

theorem press_callOn (past : List Handling) {a : Handling} {pressed : Fin vqmbtMaxDevices}
    (hreq : a.request = .buttonPressed pressed) (idx : Fin vqmbtMaxDevices) :
    callOn idx (quickMenu.after past) a = if pressed = idx then
      ((quickMenu.after past).qmState.buttons pressed).pressCall.map a.kernel else none := by
  have hcalls : (quickMenu.step (quickMenu.after past) a).2.calls =
      ((quickMenu.after past).qmState.buttons pressed).pressCall.toList := press_reply hreq
  simp only [callOn, hreq, hcalls, Option.head?_toList]

namespace QmButton

theorem settle_not_error {b : QmButton} {target : QmButtonState} {force : Bool}
    (ht : target ≠ .errorDisabled) : (b.settle target force).btnState ≠ .errorDisabled := by
  unfold settle
  split
  · next h => simp [h.1]
  · exact ht

theorem shownAs_ne_error (s : VqmbtInferredDevState) : s.shownAs ≠ .errorDisabled := by
  cases s <;> simp [VqmbtInferredDevState.shownAs]

theorem off_not_error {b : QmButton} (h : b.Off) : b.btnState ≠ .errorDisabled := by
  rcases h with h | h <;> rw [h] <;> decide

theorem bulk_not_error (request : QmsBulk) (idx : Fin vqmbtMaxDevices) (b : QmButton) :
    (b.bulk request idx).btnState ≠ .errorDisabled := by
  by_cases h : request.Lists idx
  · cases hon : request.bluetoothOn with
    | false => exact off_not_error (off_bulk hon idx b)
    | true =>
        rw [bulk_on h hon]
        exact settle_not_error (shownAs_ne_error _)
  · rw [bulk_unlisted h]
    exact off_not_error (off_empty b)

theorem btOn_not_error (b : QmButton) : b.btOn.btnState ≠ .errorDisabled := by
  unfold btOn
  split
  · next h => simp [h]
  · exact settle_not_error (shownAs_ne_error _)

theorem pressOutcome_error {b : QmButton} {call : KvqmbtCall} (h : b.pressCall = some call)
    {ret : Int} (he : (b.pressOutcome call ret).btnState = .errorDisabled) :
    (b.pressOutcome call ret).errorMessage = errorMessageFor ret := by
  have hidle : b.btnState ≠ .errorDisabled := by
    rcases pressCall_isSome h with ⟨hs, _⟩ | ⟨hs, _⟩ <;> rw [hs] <;> decide
  unfold pressOutcome at he ⊢
  split at he
  · next hneg => rw [if_pos hneg, fail, if_neg hidle]
  · split at he
    · exact absurd he (settle_not_error (by decide))
    · exact absurd he (settle_not_error (by decide))

theorem pressOutcome_idle {b : QmButton} {call : KvqmbtCall} (h : b.pressCall = some call)
    (ret : Int) : (b.pressOutcome call ret).pressCall = none := by
  have hidle : b.btnState ≠ .errorDisabled := by
    rcases pressCall_isSome h with ⟨hs, _⟩ | ⟨hs, _⟩ <;> rw [hs] <;> decide
  unfold pressOutcome
  split
  · simp [fail, hidle, pressCall]
  · split <;> simp [settle, pressCall]

end QmButton

def LatestCallError (past : List Handling) (idx : Fin vqmbtMaxDevices) : Prop :=
  ((quickMenu.after past).qmState.buttons idx).btnState = .errorDisabled →
    ∃ ret, quickMenu.latest (callOn idx) past = some ret ∧
      ((quickMenu.after past).qmState.buttons idx).errorMessage = errorMessageFor ret

theorem latestCallError_quiet {a : Handling} {past : List Handling} {idx : Fin vqmbtMaxDevices}
    (hsame : (quickMenu.after (a :: past)).qmState.buttons idx =
      (quickMenu.after past).qmState.buttons idx)
    (hcall : callOn idx (quickMenu.after past) a = none) (h : LatestCallError past idx) :
    LatestCallError (a :: past) idx := by
  unfold LatestCallError
  rw [hsame, quickMenu.latest_cons_none hcall]
  exact h

theorem latestCallError_event (event : DeviceEvent) {a : Handling} {past : List Handling}
    {mac0 mac1 : UnsignedInt} (hreq : a.request = event.request mac0 mac1)
    (idx : Fin vqmbtMaxDevices) (h : LatestCallError past idx) :
    LatestCallError (a :: past) idx := by
  have heffect := after_buttons a past idx
  rw [hreq, event.request_effect] at heffect
  have hcall : callOn idx (quickMenu.after past) a = none := by
    cases event <;> simp [callOn, hreq, DeviceEvent.request]
  unfold eventEffect at heffect
  split at heffect
  · exact latestCallError_quiet heffect hcall h
  · split at heffect
    · intro he
      rw [heffect] at he
      exact absurd he (QmButton.settle_not_error (by cases event <;> decide))
    · exact latestCallError_quiet heffect hcall h

theorem latestCallError_press {a : Handling} {past : List Handling}
    {pressed : Fin vqmbtMaxDevices} (hreq : a.request = .buttonPressed pressed)
    (idx : Fin vqmbtMaxDevices) (h : LatestCallError past idx) :
    LatestCallError (a :: past) idx := by
  have heffect := after_buttons a past idx
  have hcall := press_callOn past hreq idx
  rw [hreq] at heffect
  simp only [requestEffect] at heffect
  by_cases heq : idx = pressed
  · subst heq
    rw [if_pos rfl] at heffect hcall
    cases hp : ((quickMenu.after past).qmState.buttons idx).pressCall with
    | none =>
        rw [QmButton.press, hp] at heffect
        rw [hp] at hcall
        exact latestCallError_quiet heffect hcall h
    | some call =>
        rw [QmButton.press, hp] at heffect
        rw [hp] at hcall
        intro he
        rw [heffect] at he ⊢
        exact ⟨a.kernel call, quickMenu.latest_cons_some hcall, QmButton.pressOutcome_error hp he⟩
  · rw [if_neg heq] at heffect
    rw [if_neg (Ne.symm heq)] at hcall
    exact latestCallError_quiet heffect hcall h

theorem latestCallError_after (past : List Handling) (idx : Fin vqmbtMaxDevices) :
    LatestCallError past idx := by
  induction past with
  | nil => intro he; cases he
  | cons a past ih =>
      have heffect := after_buttons a past idx
      cases hreq : a.request with
      | bulkUpdate bulk =>
          intro he
          rw [heffect, hreq] at he
          exact absurd he (QmButton.bulk_not_error bulk idx _)
      | buttonPressed pressed => exact latestCallError_press hreq idx ih
      | bluetoothOn =>
          intro he
          rw [heffect, hreq] at he
          exact absurd he (QmButton.btOn_not_error _)
      | bluetoothOff =>
          intro he
          rw [heffect, hreq] at he
          exact absurd he (QmButton.off_not_error (QmButton.off_btOff _))
      | deviceDisconnected mac0 mac1 =>
          exact latestCallError_event .disconnected hreq idx ih
      | deviceConnected mac0 mac1 =>
          exact latestCallError_event .connected hreq idx ih

def ReEnables (m : QmModule) (idx : Fin vqmbtMaxDevices) (a : Handling) : Prop :=
  match a.request with
  | .bulkUpdate _ | .bluetoothOn => True
  | .deviceDisconnected mac0 mac1 | .deviceConnected mac0 mac1 =>
      (m.qmState.buttons idx).device.mac = (mac0, mac1)
  | .buttonPressed _ | .bluetoothOff => False

theorem event_keeps_idle {m : QmModule} {idx : Fin vqmbtMaxDevices} {mac0 mac1 : UnsignedInt}
    {target : QmButtonState} (hother : (m.qmState.buttons idx).device.mac ≠ (mac0, mac1)) :
    eventEffect m.qmState.buttons mac0 mac1 target idx (m.qmState.buttons idx) =
      m.qmState.buttons idx := by
  unfold eventEffect
  split
  · rfl
  · next found hok =>
      split
      · next heq =>
          subst heq
          exact absurd (macToIdx_ok hok).1 hother
      · rfl

theorem idle_kept {m : QmModule} {a : Handling} {idx : Fin vqmbtMaxDevices}
    (hx : ¬ ReEnables m idx a) (h : (m.qmState.buttons idx).pressCall = none) :
    ((quickMenu.step m a).1.qmState.buttons idx).pressCall = none := by
  have heffect := qmStateUpdateUi_buttons a.kernel m a.request idx
  change ((qmStateUpdateUi a.kernel m a.request).1.qmState.buttons idx).pressCall = none
  rw [heffect]
  unfold ReEnables at hx
  cases hreq : a.request with
  | bulkUpdate bulk => simp [hreq] at hx
  | bluetoothOn => simp [hreq] at hx
  | buttonPressed pressed =>
      simp only [requestEffect]
      split
      · rw [QmButton.press, h]
        exact h
      · exact h
  | bluetoothOff => exact (QmButton.off_press (QmButton.off_btOff _) a.kernel).1
  | deviceDisconnected mac0 mac1 =>
      simp only [hreq] at hx
      simpa only [requestEffect, event_keeps_idle hx] using h
  | deviceConnected mac0 mac1 =>
      simp only [hreq] at hx
      simpa only [requestEffect, event_keeps_idle hx] using h

theorem press_calls_shown (past : List Handling) (b : Handling) {a : Handling}
    {idx : Fin vqmbtMaxDevices} (hreq : a.request = .buttonPressed idx) :
    let m := quickMenu.after (b :: past)
    let device := (m.qmState.buttons idx).device
    ((quickMenu.reply (b :: past) a).calls = [.connectDevice device.mac0 device.mac1] ↔
        ShownEnabled m idx "Connect ") ∧
      ((quickMenu.reply (b :: past) a).calls = [.disconnectDevice device.mac0 device.mac1] ↔
        ShownEnabled m idx "Disconnect ") := by
  intro m device
  have hshown := displayed_after b past
  rw [shown_connect_iff hshown, shown_disconnect_iff hshown, press_reply hreq]
  simp only [device, m]
  generalize (quickMenu.after (b :: past)).qmState.buttons idx = button
  obtain ⟨device, state, message⟩ := button
  cases state <;> simp [QmButton.pressCall]

theorem press_ignored {a b : Handling} {past : List Handling} {idx : Fin vqmbtMaxDevices}
    (hreq : a.request = .buttonPressed idx)
    (hconnect : ¬ ShownEnabled (quickMenu.after (b :: past)) idx "Connect ")
    (hdisconnect : ¬ ShownEnabled (quickMenu.after (b :: past)) idx "Disconnect ") :
    (quickMenu.reply (b :: past) a).calls = [] ∧
      (quickMenu.reply (b :: past) a).changed = false ∧
      (quickMenu.after (a :: b :: past)).qmState = (quickMenu.after (b :: past)).qmState ∧
      (quickMenu.after (a :: b :: past)).widgets = (quickMenu.after (b :: past)).widgets := by
  have hshown := displayed_after b past
  rw [shown_connect_iff hshown] at hconnect
  rw [shown_disconnect_iff hshown] at hdisconnect
  have hnone : ((quickMenu.after (b :: past)).qmState.buttons idx).pressCall = none := by
    unfold QmButton.pressCall
    split <;> first | contradiction | rfl
  have hsame : (quickMenu.after (a :: b :: past)).qmState =
      (quickMenu.after (b :: past)).qmState := by
    ext j : 2
    rw [after_buttons, hreq]
    simp only [requestEffect]
    split
    · next heq => rw [heq, QmButton.press, hnone]
    · rfl
  refine ⟨by rw [press_reply hreq, hnone, Option.toList_none], ?_, hsame, ?_⟩
  · rw [← Bool.not_eq_true, reply_changed]
    exact fun hne => hne hsame
  · rw [displayed_after a (b :: past), displayed_after b past, hsame]

theorem reenabled_between_calls {a b : Handling} {past mid : List Handling}
    {idx : Fin vqmbtMaxDevices} (ha : a.request = .buttonPressed idx)
    (hb : b.request = .buttonPressed idx) (hfirst : (quickMenu.reply past b).calls ≠ [])
    (hsecond : (quickMenu.reply (mid ++ b :: past) a).calls ≠ []) :
    ∃ newer x older, mid = newer ++ x :: older ∧
      ReEnables (quickMenu.after (older ++ b :: past)) idx x := by
  rw [press_reply ha] at hsecond
  rw [press_reply hb] at hfirst
  refine quickMenu.exists_between
    (P := fun m => (m.qmState.buttons idx).pressCall = none) (X := fun m x => ReEnables m idx x)
    (b :: past) (fun m x hx hP => idle_kept hx hP) ?_ mid ?_
  · rw [after_buttons, hb]
    simp only [requestEffect, if_pos]
    cases hp : ((quickMenu.after past).qmState.buttons idx).pressCall with
    | none => simp [hp] at hfirst
    | some call =>
        rw [QmButton.press, hp]
        exact QmButton.pressOutcome_idle hp _
  · intro hnone
    simp [hnone] at hsecond

theorem error_shows_latest_call {b : Handling} {past : List Handling}
    {idx : Fin vqmbtMaxDevices} (h : ShownAsError (quickMenu.after (b :: past)) idx) :
    ∃ ret, quickMenu.latest (callOn idx) (b :: past) = some ret ∧
      ErrorLabel ret ((quickMenu.after (b :: past)).widgets idx).label := by
  have hshown := displayed_after b past
  have hstate := shown_error_state hshown idx h
  obtain ⟨ret, hlatest, hmessage⟩ := latestCallError_after (b :: past) idx hstate
  refine ⟨ret, hlatest, ?_⟩
  rw [displayed_label hshown, error_label idx hstate hmessage]
  exact errorLabel_message ret

theorem press_does_what_is_shown (idx : Fin vqmbtMaxDevices) :
    (∀ (past : List Handling) (b a : Handling), a.request = .buttonPressed idx →
      let m := quickMenu.after (b :: past)
      let device := (m.qmState.buttons idx).device
      ((quickMenu.reply (b :: past) a).calls = [.connectDevice device.mac0 device.mac1] ↔
          ShownEnabled m idx "Connect ") ∧
        ((quickMenu.reply (b :: past) a).calls = [.disconnectDevice device.mac0 device.mac1] ↔
          ShownEnabled m idx "Disconnect ") ∧
        (¬ ShownEnabled m idx "Connect " → ¬ ShownEnabled m idx "Disconnect " →
          (quickMenu.reply (b :: past) a).calls = [] ∧
            (quickMenu.reply (b :: past) a).changed = false ∧
            (quickMenu.after (a :: b :: past)).qmState = m.qmState ∧
            (quickMenu.after (a :: b :: past)).widgets = m.widgets)) ∧
      (∀ (past mid : List Handling) (b a : Handling), a.request = .buttonPressed idx →
        b.request = .buttonPressed idx → (quickMenu.reply past b).calls ≠ [] →
          (quickMenu.reply (mid ++ b :: past) a).calls ≠ [] →
            ∃ newer x older, mid = newer ++ x :: older ∧
              ReEnables (quickMenu.after (older ++ b :: past)) idx x) ∧
      ∀ (past : List Handling) (b : Handling),
        ShownAsError (quickMenu.after (b :: past)) idx →
          ∃ ret, quickMenu.latest (callOn idx) (b :: past) = some ret ∧
            ErrorLabel ret ((quickMenu.after (b :: past)).widgets idx).label := by
  refine ⟨?_, ?_, ?_⟩
  · intro past b a hreq
    obtain ⟨hconnect, hdisconnect⟩ := press_calls_shown past b hreq
    exact ⟨hconnect, hdisconnect, press_ignored hreq⟩
  · intro past mid b a ha hb hfirst hsecond
    exact reenabled_between_calls ha hb hfirst hsecond
  · intro past b h
    exact error_shows_latest_call h

def listOne : Handling := ⟨.bulkUpdate (.single true 1 1 .disconnected), fun _ => 0⟩

def pressOne (ret : Int) : Handling := ⟨.buttonPressed ⟨0, zero_lt_maxDevices⟩, fun _ => ret⟩

def lostOne : Handling := ⟨.deviceDisconnected 1 1, fun _ => 0⟩

theorem press_does_what_is_shown_twice :
    let first := pressOne 0
    let second := pressOne VqmbtError.kernelSideBusy.code
    (quickMenu.reply [listOne] first).calls = [.connectDevice 1 1] ∧
      (quickMenu.reply [first, listOne] second).calls = [] ∧
      (quickMenu.reply [lostOne, first, listOne] second).calls = [.connectDevice 1 1] ∧
      (∃ newer x older, [lostOne] = newer ++ x :: older ∧
        ReEnables (quickMenu.after (older ++ [first, listOne])) 0 x) ∧
      ((quickMenu.after [second, lostOne, first, listOne]).widgets 0).label =
        some (ascii "Error: Busy (Settings opened?)") := by
  intro first second
  obtain ⟨hshown, hbetween, herror⟩ := press_does_what_is_shown 0
  have hcall := (hshown [] listOne first rfl).1.mpr
    ⟨by decide +kernel, ascii "N/A", by decide +kernel⟩
  have hwaits := (hshown [listOne] first second rfl).2.2
    (fun h => absurd h.1 (by decide +kernel)) fun h => absurd h.1 (by decide +kernel)
  have hagain := (hshown [first, listOne] lostOne second rfl).1.mpr
    ⟨by decide +kernel, ascii "N/A", by decide +kernel⟩
  have hreenabled := hbetween [listOne] [lostOne] first second rfl rfl
    (ne_of_eq_of_ne hcall (List.cons_ne_nil _ _)) (ne_of_eq_of_ne hagain (List.cons_ne_nil _ _))
  obtain ⟨ret, hlatest, hlabel⟩ := herror [lostOne, first, listOne] second
    ⟨ascii "Busy (Settings opened?)", by decide +kernel⟩
  have hret : VqmbtError.kernelSideBusy.code = ret :=
    Option.some.inj (Eq.trans (by decide +kernel) hlatest)
  exact ⟨hcall, hwaits.1, hagain, hreenabled, hlabel.busy hret.symm⟩

end VitaQmBluetooth
