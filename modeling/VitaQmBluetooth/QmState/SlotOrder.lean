import VitaQmBluetooth.Foundation.Slotwise
import VitaQmBluetooth.QmState.Reachable
import VitaQmBluetooth.QmState.Serialized

namespace VitaQmBluetooth

open Foundation

def ConcernsSlot (slots : Fin vqmbtMaxDevices → QmButton) (a : Handling)
    (idx : Fin vqmbtMaxDevices) : Prop :=
  match a.request with
  | .bulkUpdate _ | .bluetoothOn | .bluetoothOff => True
  | .buttonPressed pressed => idx = pressed
  | .deviceDisconnected mac0 mac1 | .deviceConnected mac0 mac1 =>
      macToIdx slots mac0 mac1 = .ok idx

instance (slots : Fin vqmbtMaxDevices → QmButton) (idx : Fin vqmbtMaxDevices) :
    DecidablePred fun a => ConcernsSlot slots a idx := by
  intro a
  dsimp only [ConcernsSlot]
  split <;> infer_instance

def slotCall (a : Handling) (idx : Fin vqmbtMaxDevices) (b : QmButton) : Option KvqmbtCall :=
  match a.request with
  | .buttonPressed pressed => if idx = pressed then b.pressCall else none
  | _ => none

theorem eventEffect_other {slots : Fin vqmbtMaxDevices → QmButton} {mac0 mac1 : UnsignedInt}
    {idx : Fin vqmbtMaxDevices} (h : macToIdx slots mac0 mac1 ≠ .ok idx)
    (target : QmButtonState) (b : QmButton) : eventEffect slots mac0 mac1 target idx b = b := by
  unfold eventEffect
  split
  · rfl
  · next found hok =>
      refine if_neg fun heq => h ?_
      rw [heq, hok]

def slotMenu (slots : Fin vqmbtMaxDevices → QmButton) :
    Slotwise (Fin vqmbtMaxDevices) QmButton Handling KvqmbtCall where
  effect a idx b := requestEffect a.kernel slots a.request idx b
  output := slotCall
  Concerns := ConcernsSlot slots
  effect_other a idx b h := by
    unfold ConcernsSlot at h
    cases hreq : a.request with
    | buttonPressed pressed =>
        rw [hreq] at h
        exact if_neg h
    | deviceDisconnected mac0 mac1 =>
        rw [hreq] at h
        exact eventEffect_other h .disconnected b
    | deviceConnected mac0 mac1 =>
        rw [hreq] at h
        exact eventEffect_other h .connected b
    | _ =>
        rw [hreq] at h
        exact absurd trivial h
  output_other a idx b h := by
    unfold ConcernsSlot at h
    unfold slotCall
    split
    · next hreq =>
        rw [hreq] at h
        exact if_neg h
    · rfl

instance (slots : Fin vqmbtMaxDevices → QmButton) (idx : Fin vqmbtMaxDevices) :
    DecidablePred fun a => (slotMenu slots).Concerns a idx :=
  inferInstanceAs (DecidablePred fun a => ConcernsSlot slots a idx)

theorem macToIdx_of_devices {slots slots' : Fin vqmbtMaxDevices → QmButton}
    (h : ∀ idx, (slots idx).device = (slots' idx).device) (mac0 mac1 : UnsignedInt) :
    macToIdx slots mac0 mac1 = macToIdx slots' mac0 mac1 := by
  simp only [macToIdx, h]

theorem requestEffect_of_devices {slots slots' : Fin vqmbtMaxDevices → QmButton}
    (h : ∀ idx, (slots idx).device = (slots' idx).device) (kernel : KvqmbtCall → Int)
    (request : QmsRequest) : requestEffect kernel slots request =
      requestEffect kernel slots' request := by
  funext idx b
  cases request with
  | deviceDisconnected mac0 mac1 => simp only [requestEffect, eventEffect, macToIdx_of_devices h]
  | deviceConnected mac0 mac1 => simp only [requestEffect, eventEffect, macToIdx_of_devices h]
  | _ => rfl

def NoBulk (later : List Handling) : Prop := ∀ a ∈ later, ¬ IsBulk a.request

theorem menu_slotwise (past : List Handling) {later : List Handling} (hl : NoBulk later)
    (idx : Fin vqmbtMaxDevices) :
    (quickMenu.after (later ++ past)).qmState.buttons idx =
      (slotMenu (quickMenu.after past).qmState.buttons).after
        (quickMenu.after past).qmState.buttons later idx := by
  induction later with
  | nil => rfl
  | cons a later ih =>
      have hl' : NoBulk later := fun b hb => hl b (List.mem_cons_of_mem _ hb)
      have hdevices := fun j => (after_frame past later hl' j).1
      rw [List.cons_append, after_buttons, requestEffect_of_devices hdevices, ih hl']
      rfl

def callsOf (a : Handling) (idx : Fin vqmbtMaxDevices) (past : List Handling) :
    List KvqmbtCall :=
  match a.request with
  | .buttonPressed pressed => if idx = pressed then (quickMenu.reply past a).calls else []
  | _ => []

def madeCalls (idx : Fin vqmbtMaxDevices) : List Handling → List KvqmbtCall
  | [] => []
  | a :: past => callsOf a idx past ++ madeCalls idx past

theorem callsOf_eq (a : Handling) (idx : Fin vqmbtMaxDevices) (past : List Handling) :
    callsOf a idx past =
      (slotCall a idx ((quickMenu.after past).qmState.buttons idx)).toList := by
  unfold callsOf slotCall
  cases hreq : a.request with
  | buttonPressed pressed =>
      simp only
      split
      · next heq => rw [press_reply hreq, heq]
      · rfl
  | _ => rfl

theorem madeCalls_slotwise (past : List Handling) {later : List Handling} (hl : NoBulk later)
    (idx : Fin vqmbtMaxDevices) :
    madeCalls idx (later ++ past) =
      (slotMenu (quickMenu.after past).qmState.buttons).outputs
        (quickMenu.after past).qmState.buttons idx later ++ madeCalls idx past := by
  induction later with
  | nil => rfl
  | cons a later ih =>
      have hl' : NoBulk later := fun b hb => hl b (List.mem_cons_of_mem _ hb)
      rw [List.cons_append, madeCalls, ih hl', callsOf_eq, menu_slotwise past hl' idx,
        Slotwise.outputs, List.append_assoc]
      rfl

inductive SameToSlots : List Handling → List Handling → Prop
  | none : SameToSlots [] []
  | bulk {past past' : List Handling} {a : Handling} : IsBulk a.request →
      SameToSlots past past' → SameToSlots (a :: past) (a :: past')
  | between {past past' later later' : List Handling} : SameToSlots past past' →
      NoBulk later → NoBulk later' →
      (∀ idx, later.filter (fun a => ConcernsSlot (quickMenu.after past).qmState.buttons a idx) =
        later'.filter (fun a => ConcernsSlot (quickMenu.after past).qmState.buttons a idx)) →
      SameToSlots (later ++ past) (later' ++ past')

theorem sameToSlots_slots {past past' : List Handling} (h : SameToSlots past past') :
    (quickMenu.after past).qmState = (quickMenu.after past').qmState ∧
      ∀ idx, madeCalls idx past = madeCalls idx past' := by
  induction h with
  | none => exact ⟨rfl, fun _ => rfl⟩
  | @bulk past past' a ha _ ih =>
      obtain ⟨hstate, hcalls⟩ := ih
      constructor
      · ext idx : 2
        rw [after_buttons, after_buttons, hstate]
      · intro idx
        rw [madeCalls, madeCalls, callsOf_eq, callsOf_eq, hstate, hcalls]
  | @between past past' later later' _ hl hl' hseen ih =>
      obtain ⟨hstate, hcalls⟩ := ih
      constructor
      · ext idx : 2
        rw [menu_slotwise past hl, menu_slotwise past' hl', ← hstate]
        exact (slotMenu _).after_of_seen _ (hseen idx)
      · intro idx
        rw [madeCalls_slotwise past hl, madeCalls_slotwise past' hl', ← hstate, hcalls]
        congr 1
        exact (slotMenu _).outputs_of_seen _ (hseen idx)

theorem sameToSlots_widgets {past past' : List Handling} (h : SameToSlots past past')
    (hpast : past ≠ []) (hpast' : past' ≠ []) :
    (quickMenu.after past).widgets = (quickMenu.after past').widgets := by
  obtain ⟨a, past, rfl⟩ := List.exists_cons_of_ne_nil hpast
  obtain ⟨a', past', rfl⟩ := List.exists_cons_of_ne_nil hpast'
  rw [displayed_after a past, displayed_after a' past', (sameToSlots_slots h).1]

theorem order_between_slots {T : Type} [DecidableEq T]
    {past past' : List (Transition (Callers T QmModule Handling UpdateReply UpdateAt)
      (CallerStep T Handling))} {s s' : Callers T QmModule Handling UpdateReply UpdateAt}
    (hrun : (menuCallers T).Run past s) (hrun' : (menuCallers T).Run past' s')
    (hfree : s.owner = none) (hfree' : s'.owner = none)
    (hsame : SameToSlots s.order s'.order) :
    s.shared.qmState = s'.shared.qmState ∧
      (s.order ≠ [] → s'.order ≠ [] → s.shared.widgets = s'.shared.widgets) ∧
      ∀ idx, madeCalls idx s.order = madeCalls idx s'.order := by
  have h : Serialized updateCode quickMenu s := .run updateCode_implements hrun
  have h' : Serialized updateCode quickMenu s' := .run updateCode_implements hrun'
  rw [h.free hfree, h'.free hfree']
  obtain ⟨hstate, hcalls⟩ := sameToSlots_slots hsame
  exact ⟨hstate, sameToSlots_widgets hsame, hcalls⟩

def twoListed : QmsBulk where
  bluetoothOn := true
  numDevices := 2
  devices idx := ⟨Vector.replicate _ 0, BitVec.ofNat 32 (idx.val + 1), 1, .disconnected⟩

def listTwo : Handling := ⟨.bulkUpdate twoListed, fun _ => 0⟩

def pressFirst : Handling := ⟨.buttonPressed ⟨0, zero_lt_maxDevices⟩, fun _ => 0⟩

def secondConnects : Handling := ⟨.deviceConnected 2 1, fun _ => 0⟩

def listedCallers : List (CallerStep Bool Handling) :=
  [.ask false listTwo, .lock false] ++ List.replicate 28 (.turn false) ++
    [.leave false, .ask true pressFirst, .ask false secondConnects]

def pressBefore : List (CallerStep Bool Handling) :=
  listedCallers ++ .lock true :: List.replicate 20 (.turn true) ++
    .lock false :: List.replicate 19 (.turn false)

def pressAfter : List (CallerStep Bool Handling) :=
  listedCallers ++ .lock false :: List.replicate 19 (.turn false) ++
    .lock true :: List.replicate 20 (.turn true)

theorem pressBefore_plays :
    ((menuCallers Bool).play [] ⟨.boot, none, fun _ => .away, []⟩ pressBefore).isSome := by
  decide +kernel

theorem pressAfter_plays :
    ((menuCallers Bool).play [] ⟨.boot, none, fun _ => .away, []⟩ pressAfter).isSome := by
  decide +kernel

theorem same_when_apart {past : List Handling} {a b : Handling} (ha : ¬ IsBulk a.request)
    (hb : ¬ IsBulk b.request)
    (hapart : ∀ idx, ¬ (ConcernsSlot (quickMenu.after past).qmState.buttons a idx ∧
      ConcernsSlot (quickMenu.after past).qmState.buttons b idx))
    (hpast : SameToSlots past past) : SameToSlots (a :: b :: past) (b :: a :: past) := by
  have hpair {x y : Handling} (hx : ¬ IsBulk x.request) (hy : ¬ IsBulk y.request) :
      NoBulk [x, y] := by
    intro z hz
    rcases List.mem_pair.mp hz with rfl | rfl
    · exact hx
    · exact hy
  refine @SameToSlots.between past past [a, b] [b, a] hpast (hpair ha hb) (hpair hb ha) ?_
  intro idx
  have h := hapart idx
  by_cases hconcerns : ConcernsSlot (quickMenu.after past).qmState.buttons a idx
  · have hnot : ¬ ConcernsSlot (quickMenu.after past).qmState.buttons b idx :=
      fun hcb => h ⟨hconcerns, hcb⟩
    simp [List.filter, hconcerns, hnot]
  · simp [List.filter, hconcerns]

theorem pressBefore_order :
    ((menuCallers Bool).played _ pressBefore pressBefore_plays).2.order =
      [secondConnects, pressFirst, listTwo] := by rfl

theorem pressAfter_order :
    ((menuCallers Bool).played _ pressAfter pressAfter_plays).2.order =
      [pressFirst, secondConnects, listTwo] := by rfl

theorem order_between_slots_two :
    let s := ((menuCallers Bool).played _ pressBefore pressBefore_plays).2
    let s' := ((menuCallers Bool).played _ pressAfter pressAfter_plays).2
    s.shared.qmState = s'.shared.qmState ∧
      (s.order ≠ [] → s'.order ≠ [] → s.shared.widgets = s'.shared.widgets) ∧
      ∀ idx, madeCalls idx s.order = madeCalls idx s'.order := by
  refine order_between_slots (Lts.run_played rfl pressBefore_plays)
    (Lts.run_played rfl pressAfter_plays) (by rfl) (by rfl) ?_
  rw [pressBefore_order, pressAfter_order]
  exact same_when_apart id id (by decide +kernel) (.bulk trivial .none)

end VitaQmBluetooth
