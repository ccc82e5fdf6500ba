import VitaQmBluetooth.Foundation.CriticalSection
import VitaQmBluetooth.QmState.Coherence

namespace VitaQmBluetooth

open Foundation

inductive UpdateLoop where
  | bulkUpdate (bulk : QmsBulk)
  | bluetoothOn
  | bluetoothOff

def UpdateLoop.turn : UpdateLoop → QmUpdate → Fin vqmbtMaxDevices → QmUpdate
  | .bulkUpdate bulk => bulkUpdateAt bulk
  | .bluetoothOn => transitionStateBtOnAt
  | .bluetoothOff => transitionStateBtOffAt

inductive UpdateAt where
  | request (a : Handling)
  | loop (body : UpdateLoop) (changed : Bool) (todo : List (Fin vqmbtMaxDevices))
  | called (idx : Fin vqmbtMaxDevices) (call : KvqmbtCall) (ret : Int)
  | handled (changed : Bool) (calls : List KvqmbtCall)
  | label (reply : UpdateReply) (first : Bool) (todo : List (Fin vqmbtMaxDevices))
  | color (reply : UpdateReply) (first : Bool) (idx : Fin vqmbtMaxDevices)
      (todo : List (Fin vqmbtMaxDevices))

namespace QmModule

def update (m : QmModule) (changed : Bool) : QmUpdate := ⟨m.qmState.buttons, changed⟩

def store (m : QmModule) (c : QmUpdate) : QmModule := { m with qmState := ⟨c.slots⟩ }

end QmModule

def requestTurn (a : Handling) (m : QmModule) : QmModule × UpdateAt :=
  match a.request with
  | .bulkUpdate bulk => (m, .loop (.bulkUpdate bulk) false (List.finRange vqmbtMaxDevices))
  | .buttonPressed idx =>
      let qmButton := m.qmState.buttons idx
      let device := qmButton.device
      match qmButton.btnState with
      | .slotEmptyDisabled | .btOffDisabled | .disconnectingDisabled | .connectingDisabled
      | .errorDisabled => (m, .handled false [])
      | .disconnected =>
          let call := KvqmbtCall.connectDevice device.mac0 device.mac1
          (m, .called idx call (a.kernel call))
      | .connected =>
          let call := KvqmbtCall.disconnectDevice device.mac0 device.mac1
          (m, .called idx call (a.kernel call))
  | .bluetoothOn => (m, .loop .bluetoothOn false (List.finRange vqmbtMaxDevices))
  | .bluetoothOff => (m, .loop .bluetoothOff false (List.finRange vqmbtMaxDevices))
  | .deviceDisconnected mac0 mac1 =>
      match macToIdx m.qmState.buttons mac0 mac1 with
      | .error _ => (m, .handled false [])
      | .ok idx =>
          let c := transitionStateDisconnected (m.update false) idx false
          (m.store c, .handled c.changed [])
  | .deviceConnected mac0 mac1 =>
      match macToIdx m.qmState.buttons mac0 mac1 with
      | .error _ => (m, .handled false [])
      | .ok idx =>
          let c := transitionStateConnected (m.update false) idx false
          (m.store c, .handled c.changed [])

def afterCall (c : QmUpdate) (idx : Fin vqmbtMaxDevices) (call : KvqmbtCall) (ret : Int) :
    QmUpdate :=
  if ret < 0 then transitionStateError c idx ret
  else match call with
    | .connectDevice _ _ => transitionStateBusyConnecting c idx
    | .disconnectDevice _ _ => transitionStateBusyDisconnecting c idx

def updateTurn : QmModule × UpdateAt → (QmModule × UpdateAt) ⊕ (QmModule × UpdateReply)
  | (m, .request a) => .inl (requestTurn a m)
  | (m, .loop body changed (idx :: todo)) =>
      let c := body.turn (m.update changed) idx
      .inl (m.store c, .loop body c.changed todo)
  | (m, .loop _ changed []) => .inl (m, .handled changed [])
  | (m, .called idx call ret) =>
      let c := afterCall (m.update false) idx call ret
      .inl (m.store c, .handled c.changed [call])
  | (m, .handled changed calls) =>
      if changed = true then
        .inl (m, .label ⟨changed, calls⟩ false (List.finRange vqmbtMaxDevices))
      else if m.firstRun = true then
        .inl (m, .label ⟨changed, calls⟩ true (List.finRange vqmbtMaxDevices))
      else .inr (m, ⟨changed, calls⟩)
  | (m, .label reply first (idx :: todo)) =>
      let label := buttonLabel idx (m.qmState.buttons idx)
      .inl ({ m with widgets := setWidgetLabel m.widgets idx label }, .color reply first idx todo)
  | (m, .color reply first idx todo) =>
      let color := if buttonEnabled (m.qmState.buttons idx) = true then enabledColor
        else disabledColor
      .inl ({ m with widgets := setWidgetColor m.widgets idx color }, .label reply first todo)
  | (m, .label reply first []) =>
      .inr ({ m with firstRun := if first = true then false else m.firstRun }, reply)

def updateCode : LockedCode QmModule Handling UpdateReply UpdateAt := ⟨.request, updateTurn⟩

def menuCallers (T : Type*) [DecidableEq T] :
    Lts (Callers T QmModule Handling UpdateReply UpdateAt) (CallerStep T Handling) :=
  updateCode.system quickMenu.boot

theorem ends_label (reply : UpdateReply) (first : Bool) (todo : List (Fin vqmbtMaxDevices))
    (m : QmModule) :
    Ends updateTurn (m, .label reply first todo)
      ({ m with
        widgets := todo.foldl (refreshUiAt m.qmState) m.widgets
        firstRun := if first = true then false else m.firstRun }, reply) := by
  induction todo generalizing m with
  | nil => exact .stop rfl
  | cons idx todo ih =>
      refine .again rfl (.again rfl ?_)
      have hwidgets : refreshUiAt m.qmState m.widgets idx =
          setWidgetColor (setWidgetLabel m.widgets idx (buttonLabel idx (m.qmState.buttons idx)))
            idx (if buttonEnabled (m.qmState.buttons idx) = true then enabledColor
              else disabledColor) := by
        simp only [refreshUiAt]
        split <;> rfl
      rw [List.foldl_cons, hwidgets]
      exact ih _

def finishUpdate (m : QmModule) (c : QmUpdate) (calls : List KvqmbtCall) :
    QmModule × UpdateReply :=
  (if c.changed = true then refreshUi (m.store c)
    else if m.firstRun = true then { refreshUi (m.store c) with firstRun := false }
    else m.store c, ⟨c.changed, calls⟩)

theorem qmStateUpdateUi_eq (kernel : KvqmbtCall → Int) (m : QmModule) (request : QmsRequest) :
    qmStateUpdateUi kernel m request =
      finishUpdate m (handleRequest kernel (m.update false) request).1
        (handleRequest kernel (m.update false) request).2 := rfl

theorem ends_handled (m : QmModule) (c : QmUpdate) (calls : List KvqmbtCall) :
    Ends updateTurn (m.store c, .handled c.changed calls) (finishUpdate m c calls) := by
  cases hchanged : c.changed with
  | true =>
      have hturn : updateTurn (m.store c, .handled true calls) =
          .inl (m.store c, .label ⟨true, calls⟩ false (List.finRange vqmbtMaxDevices)) := rfl
      refine .again hturn ?_
      simp only [finishUpdate, hchanged, if_true]
      exact ends_label _ _ _ _
  | false =>
      by_cases hfirst : m.firstRun = true
      · have hturn : updateTurn (m.store c, .handled false calls) =
            .inl (m.store c, .label ⟨false, calls⟩ true (List.finRange vqmbtMaxDevices)) :=
          if_pos hfirst
        refine .again hturn ?_
        simp only [finishUpdate, hchanged, hfirst, if_true]
        exact ends_label _ _ _ _
      · have hturn : updateTurn (m.store c, .handled false calls) =
            .inr (m.store c, ⟨false, calls⟩) := if_neg hfirst
        simp only [finishUpdate, hchanged, hfirst]
        exact .stop hturn

theorem ends_loop (body : UpdateLoop) (m : QmModule) (todo : List (Fin vqmbtMaxDevices))
    (c : QmUpdate) :
    Ends updateTurn (m.store c, .loop body c.changed todo)
      (finishUpdate m (todo.foldl body.turn c) []) := by
  induction todo generalizing c with
  | nil => exact .again rfl (ends_handled m c [])
  | cons idx todo ih => exact .again rfl (ih (body.turn c idx))

def UpdateLoop.request : UpdateLoop → QmsRequest
  | .bulkUpdate bulk => .bulkUpdate bulk
  | .bluetoothOn => .bluetoothOn
  | .bluetoothOff => .bluetoothOff

theorem handleRequest_loop (body : UpdateLoop) (kernel : KvqmbtCall → Int) (c : QmUpdate) :
    handleRequest kernel c body.request =
      ((List.finRange vqmbtMaxDevices).foldl body.turn c, []) := by
  cases body <;> rfl

theorem ends_request_loop (body : UpdateLoop) (kernel : KvqmbtCall → Int) (m : QmModule) :
    Ends updateTurn (m, .request ⟨body.request, kernel⟩)
      (qmStateUpdateUi kernel m body.request) := by
  have hturn : updateTurn (m, .request ⟨body.request, kernel⟩) =
      .inl (m, .loop body false (List.finRange vqmbtMaxDevices)) := by
    cases body <;> rfl
  rw [qmStateUpdateUi_eq, handleRequest_loop]
  exact .again hturn (ends_loop body m _ (m.update false))

theorem ends_request {a : Handling} {m : QmModule} {c : QmUpdate} {calls : List KvqmbtCall}
    (hturn : requestTurn a m = (m.store c, .handled c.changed calls))
    (hrequest : handleRequest a.kernel (m.update false) a.request = (c, calls)) :
    Ends updateTurn (m, .request a) (quickMenu.step m a) := by
  have hnext : updateTurn (m, .request a) = .inl (requestTurn a m) := rfl
  change Ends updateTurn (m, .request a) (qmStateUpdateUi a.kernel m a.request)
  rw [qmStateUpdateUi_eq, hrequest]
  exact .again (hnext.trans (congrArg Sum.inl hturn)) (ends_handled m c calls)

theorem ends_called {a : Handling} {m : QmModule} {idx : Fin vqmbtMaxDevices}
    {call : KvqmbtCall} {ret : Int} (hturn : requestTurn a m = (m, .called idx call ret))
    (hrequest : handleRequest a.kernel (m.update false) a.request =
      (afterCall (m.update false) idx call ret, [call])) :
    Ends updateTurn (m, .request a) (quickMenu.step m a) := by
  have hnext : updateTurn (m, .request a) = .inl (requestTurn a m) := rfl
  change Ends updateTurn (m, .request a) (qmStateUpdateUi a.kernel m a.request)
  rw [qmStateUpdateUi_eq, hrequest]
  exact .again (hnext.trans (congrArg Sum.inl hturn)) (.again rfl (ends_handled m _ [call]))

theorem ends_pressed (kernel : KvqmbtCall → Int) (m : QmModule) (idx : Fin vqmbtMaxDevices) :
    Ends updateTurn (m, .request ⟨.buttonPressed idx, kernel⟩)
      (quickMenu.step m ⟨.buttonPressed idx, kernel⟩) := by
  cases hstate : (m.qmState.buttons idx).btnState with
  | disconnected =>
      apply ends_called
      · simp only [requestTurn, hstate]
        rfl
      · simp only [handleRequest, buttonPressed, QmModule.update, hstate, afterCall]
        exact (apply_ite (fun c => (c, _)) _ _ _).symm
  | connected =>
      apply ends_called
      · simp only [requestTurn, hstate]
        rfl
      · simp only [handleRequest, buttonPressed, QmModule.update, hstate, afterCall]
        exact (apply_ite (fun c => (c, _)) _ _ _).symm
  | _ =>
      apply ends_request (c := m.update false)
      · simp only [requestTurn, hstate]
        rfl
      · simp only [handleRequest, buttonPressed, QmModule.update, hstate]

theorem ends_device_event {a : Handling} {m : QmModule} {mac0 mac1 : UnsignedInt}
    {f : QmUpdate → Fin vqmbtMaxDevices → QmUpdate}
    (hturn : requestTurn a m = match macToIdx m.qmState.buttons mac0 mac1 with
      | .error _ => (m, .handled false [])
      | .ok idx => (m.store (f (m.update false) idx),
          .handled (f (m.update false) idx).changed []))
    (hrequest : handleRequest a.kernel (m.update false) a.request =
      match macToIdx m.qmState.buttons mac0 mac1 with
      | .error _ => (m.update false, [])
      | .ok idx => (f (m.update false) idx, [])) :
    Ends updateTurn (m, .request a) (quickMenu.step m a) := by
  cases hidx : macToIdx m.qmState.buttons mac0 mac1 with
  | error e =>
      rw [hidx] at hturn hrequest
      exact ends_request (c := m.update false) hturn hrequest
  | ok idx =>
      rw [hidx] at hturn hrequest
      exact ends_request hturn hrequest

theorem updateCode_implements : updateCode.Implements quickMenu := by
  rintro m ⟨request, kernel⟩
  change Ends updateTurn (m, .request ⟨request, kernel⟩) (quickMenu.step m ⟨request, kernel⟩)
  cases request with
  | bulkUpdate bulk => exact ends_request_loop (.bulkUpdate bulk) kernel m
  | bluetoothOn => exact ends_request_loop .bluetoothOn kernel m
  | bluetoothOff => exact ends_request_loop .bluetoothOff kernel m
  | buttonPressed idx => exact ends_pressed kernel m idx
  | deviceDisconnected mac0 mac1 =>
      exact ends_device_event (f := fun c idx => transitionStateDisconnected c idx false) rfl rfl
  | deviceConnected mac0 mac1 =>
      exact ends_device_event (f := fun c idx => transitionStateConnected c idx false) rfl rfl

theorem update_ui_serialized {T : Type} [DecidableEq T]
    {past : List (Transition (Callers T QmModule Handling UpdateReply UpdateAt)
      (CallerStep T Handling))} {s : Callers T QmModule Handling UpdateReply UpdateAt}
    (hrun : (menuCallers T).Run past s) :
    (∀ t u, s.Inside t → s.Inside u → t = u) ∧
      (∀ t, CallLog (s.callsOf t) (s.callers t)) ∧
      s.outcomes = quickMenu.replies s.order ∧
      ((∀ t, ¬ s.Inside t) → s.shared = quickMenu.after s.order) ∧
      ∀ t, s.Inside t → ∃ n u, (menuCallers T).exec s (List.replicate n (.turn t)) = some u ∧
        u.owner = none := by
  have h : Serialized updateCode quickMenu s := .run updateCode_implements hrun
  refine ⟨fun t u => h.alone, h.callLog, h.outcomes, fun hout => h.free ?_, fun t ht => ?_⟩
  · cases howner : s.owner with
    | none => rfl
    | some t => exact absurd ((h.owner t).mpr howner) (hout t)
  · exact h.gets_out updateCode_implements ht

def twoCallers : List (CallerStep Bool Handling) :=
  [.ask true ⟨.buttonPressed ⟨0, zero_lt_maxDevices⟩, fun _ => 0⟩,
      .ask false ⟨.bluetoothOff, fun _ => 0⟩, .lock true] ++
    List.replicate 19 (.turn true) ++ [.lock false, .turn false, .leave true, .turn false]

theorem twoCallers_plays :
    ((menuCallers Bool).play [] ⟨.boot, none, fun _ => .away, []⟩ twoCallers).isSome := by
  decide

theorem update_ui_serialized_two :
    let s := ((menuCallers Bool).played _ twoCallers twoCallers_plays).2
    (∀ t u, s.Inside t → s.Inside u → t = u) ∧
      (∀ t, CallLog (s.callsOf t) (s.callers t)) ∧
      s.outcomes = quickMenu.replies s.order ∧
      ((∀ t, ¬ s.Inside t) → s.shared = quickMenu.after s.order) ∧
      ∀ t, s.Inside t → ∃ n u, (menuCallers Bool).exec s (List.replicate n (.turn t)) = some u ∧
        u.owner = none :=
  update_ui_serialized (Lts.run_played rfl twoCallers_plays)

def Drawing (old m : QmModule) : UpdateAt → Prop
  | .label _ _ todo => todo.Nodup ∧ ∀ idx, m.widgets idx =
      if idx ∈ todo then old.widgets idx else drawnWidget m.qmState idx
  | .color _ _ idx todo => (idx :: todo).Nodup ∧ ∀ j, m.widgets j =
      if j = idx then ⟨(drawnWidget m.qmState j).label, (old.widgets j).color⟩
      else if j ∈ todo then old.widgets j else drawnWidget m.qmState j
  | _ => m.widgets = old.widgets

theorem requestTurn_drawing {old m : QmModule} (h : m.widgets = old.widgets) (a : Handling) :
    Drawing old (requestTurn a m).1 (requestTurn a m).2 := by
  simp only [requestTurn]
  repeat' split
  all_goals exact h

theorem drawing_all {old m : QmModule} (h : m.widgets = old.widgets) (reply : UpdateReply)
    (first : Bool) : Drawing old m (.label reply first (List.finRange vqmbtMaxDevices)) :=
  ⟨List.nodup_finRange _, fun idx => by rw [if_pos (List.mem_finRange idx), h]⟩

theorem drawing_label {old m : QmModule} {reply : UpdateReply} {first : Bool}
    {idx : Fin vqmbtMaxDevices} {todo : List (Fin vqmbtMaxDevices)}
    (h : Drawing old m (.label reply first (idx :: todo))) :
    Drawing old { m with
      widgets := setWidgetLabel m.widgets idx (buttonLabel idx (m.qmState.buttons idx)) }
      (.color reply first idx todo) := by
  obtain ⟨hnodup, hdrawn⟩ := h
  refine ⟨hnodup, fun j => ?_⟩
  have hj := hdrawn j
  by_cases hidx : j = idx
  · subst hidx
    rw [if_pos (List.mem_cons_self ..)] at hj
    simp only [setWidgetLabel, Function.update_self, drawnWidget, if_true, hj]
  · simp only [List.mem_cons, hidx, false_or] at hj
    simp only [setWidgetLabel, Function.update_of_ne hidx, if_neg hidx, hj]

theorem drawing_color {old m : QmModule} {reply : UpdateReply} {first : Bool}
    {idx : Fin vqmbtMaxDevices} {todo : List (Fin vqmbtMaxDevices)}
    (h : Drawing old m (.color reply first idx todo)) :
    Drawing old { m with
      widgets := setWidgetColor m.widgets idx
        (if buttonEnabled (m.qmState.buttons idx) = true then enabledColor else disabledColor) }
      (.label reply first todo) := by
  obtain ⟨hnodup, hdrawn⟩ := h
  obtain ⟨hnot, hnodup⟩ := List.nodup_cons.mp hnodup
  refine ⟨hnodup, fun j => ?_⟩
  have hj := hdrawn j
  by_cases hidx : j = idx
  · subst hidx
    rw [if_pos rfl] at hj
    simp only [setWidgetColor, Function.update_self, drawnWidget, if_neg hnot, hj]
  · simp only [if_neg hidx] at hj
    simp only [setWidgetColor, Function.update_of_ne hidx, hj]

theorem drawing_turn {old m m' : QmModule} {p p' : UpdateAt} (h : Drawing old m p)
    (hturn : Again updateTurn (m, p) (m', p')) : Drawing old m' p' := by
  cases p with
  | request a =>
      have hnext : requestTurn a m = (m', p') := Sum.inl.inj hturn
      have hdrawing := requestTurn_drawing h a
      rwa [hnext] at hdrawing
  | loop body changed todo =>
      cases todo with
      | nil => cases hturn; exact h
      | cons idx todo => cases hturn; exact h
  | called idx call ret => cases hturn; exact h
  | handled changed calls =>
      simp only [Again, updateTurn] at hturn
      split at hturn
      · cases hturn; exact drawing_all h _ _
      · split at hturn
        · cases hturn; exact drawing_all h _ _
        · cases hturn
  | label reply first todo =>
      cases todo with
      | nil => cases hturn
      | cons idx todo => cases hturn; exact drawing_label h
  | color reply first idx todo => cases hturn; exact drawing_color h

theorem drawing_reached {old m : QmModule} {a : Handling} {p : UpdateAt}
    (h : Relation.ReflTransGen (Again updateTurn) (old, .request a) (m, p)) :
    Drawing old m p := by
  suffices hall : ∀ x, Relation.ReflTransGen (Again updateTurn) (old, .request a) x →
      Drawing old x.1 x.2 from hall _ h
  intro x hx
  induction hx with
  | refl => rfl
  | tail _ hturn ih => exact drawing_turn ih hturn

def Widget.halfDrawn (old new : Widget) : Widget := ⟨new.label, old.color⟩

theorem drawing_shows {old m : QmModule} {p : UpdateAt} (hold : Displayed old)
    (h : Drawing old m p) :
    ∃ half : Option (Fin vqmbtMaxDevices), ∀ idx,
      m.widgets idx = drawnWidget old.qmState idx ∨ m.widgets idx = drawnWidget m.qmState idx ∨
        half = some idx ∧ m.widgets idx =
          (drawnWidget old.qmState idx).halfDrawn (drawnWidget m.qmState idx) := by
  have hdrawn : old.widgets = drawnWidget old.qmState := hold
  cases p with
  | label reply first todo =>
      refine ⟨none, fun idx => ?_⟩
      rw [h.2 idx, hdrawn]
      split
      · exact .inl rfl
      · exact .inr (.inl rfl)
  | color reply first here todo =>
      refine ⟨some here, fun idx => ?_⟩
      rw [h.2 idx, hdrawn]
      split
      · next heq => exact .inr (.inr ⟨congrArg some heq.symm, rfl⟩)
      · split
        · exact .inl rfl
        · exact .inr (.inl rfl)
  | _ => exact ⟨none, fun idx => .inl (by rw [← hdrawn, ← show m.widgets = old.widgets from h])⟩

theorem screen_during_update {T : Type} [DecidableEq T]
    {past : List (Transition (Callers T QmModule Handling UpdateReply UpdateAt)
      (CallerStep T Handling))} {s : Callers T QmModule Handling UpdateReply UpdateAt}
    (hrun : (menuCallers T).Run past s) (hserved : s.order ≠ []) :
    (∃ half : Option (Fin vqmbtMaxDevices), ∀ idx,
      s.shared.widgets idx = drawnWidget (quickMenu.after s.order).qmState idx ∨
        s.shared.widgets idx = drawnWidget s.shared.qmState idx ∨
        half = some idx ∧ s.shared.widgets idx =
          (drawnWidget (quickMenu.after s.order).qmState idx).halfDrawn
            (drawnWidget s.shared.qmState idx)) ∧
      ((∀ t, ¬ s.Inside t) → s.shared.widgets = drawnWidget s.shared.qmState) := by
  have h : Serialized updateCode quickMenu s := .run updateCode_implements hrun
  obtain ⟨a, older, horder⟩ := List.exists_cons_of_ne_nil hserved
  have hdisplayed : Displayed (quickMenu.after s.order) := by
    rw [horder]
    exact displayed_after a older
  have hfree (howner : s.owner = none) : s.shared.widgets = drawnWidget s.shared.qmState := by
    rw [h.free howner]
    exact hdisplayed
  cases howner : s.owner with
  | none =>
      have hdrawn := hfree howner
      exact ⟨⟨none, fun idx => .inr (.inl (congrFun hdrawn idx))⟩, fun _ => hdrawn⟩
  | some t =>
      obtain ⟨b, here, hin⟩ := (h.owner t).mpr howner
      refine ⟨drawing_shows hdisplayed (drawing_reached (h.inside t b here hin)), ?_⟩
      exact fun hout => absurd ⟨b, here, hin⟩ (hout t)

def halfWay : List (CallerStep Bool Handling) :=
  [.ask true ⟨.bluetoothOff, fun _ => 0⟩, .lock true,
      .ask false ⟨.bulkUpdate ⟨true, 1, fun _ => ⟨Vector.replicate _ 0, 1, 1, .disconnected⟩⟩,
        fun _ => 0⟩] ++
    List.replicate 28 (.turn true) ++ [.lock false] ++ List.replicate 12 (.turn false)

theorem halfWay_plays :
    ((menuCallers Bool).play [] ⟨.boot, none, fun _ => .away, []⟩ halfWay).isSome := by
  decide +kernel

theorem screen_during_update_half :
    let s := ((menuCallers Bool).played _ halfWay halfWay_plays).2
    s.shared.widgets ⟨0, zero_lt_maxDevices⟩ =
        ⟨some (ascii "Connect N/A"), some ⟨1 / 2, 1 / 2, 1 / 2, 1⟩⟩ ∧
      (∃ half : Option (Fin vqmbtMaxDevices), ∀ idx,
        s.shared.widgets idx = drawnWidget (quickMenu.after s.order).qmState idx ∨
          s.shared.widgets idx = drawnWidget s.shared.qmState idx ∨
          half = some idx ∧ s.shared.widgets idx =
            (drawnWidget (quickMenu.after s.order).qmState idx).halfDrawn
              (drawnWidget s.shared.qmState idx)) ∧
      ((∀ t, ¬ s.Inside t) → s.shared.widgets = drawnWidget s.shared.qmState) :=
  ⟨by decide +kernel, screen_during_update (Lts.run_played rfl halfWay_plays)
    fun hnone => absurd (congrArg List.length hnone) (by decide +kernel)⟩

end VitaQmBluetooth
