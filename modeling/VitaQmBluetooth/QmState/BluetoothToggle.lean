import VitaQmBluetooth.QmState.Reachable

namespace VitaQmBluetooth

open Foundation

def TurnsOff : QmsRequest → Prop
  | .bluetoothOff => True
  | .bulkUpdate bulk => bulk.bluetoothOn = false
  | _ => False

def TurnsOn : QmsRequest → Prop
  | .bluetoothOn => True
  | .bulkUpdate bulk => bulk.bluetoothOn = true
  | _ => False

def QmButton.Off (b : QmButton) : Prop :=
  b.btnState = .slotEmptyDisabled ∨ b.btnState = .btOffDisabled

def AllOff (m : QmModule) : Prop := ∀ idx, (m.qmState.buttons idx).Off

namespace QmButton

theorem off_btOff (b : QmButton) : b.btOff.Off := by
  unfold btOff
  split
  · next h => exact .inl h
  · exact .inr rfl

theorem off_empty (b : QmButton) : b.empty.Off := .inl (vacant_empty b)

theorem off_press {b : QmButton} (h : b.Off) (kernel : KvqmbtCall → Int) :
    b.pressCall = none ∧ b.press kernel = b := by
  have hcall : b.pressCall = none := by
    unfold pressCall
    rcases h with h | h <;> rw [h]
  simp [press, hcall]

theorem off_bulk {bulk : QmsBulk} (hoff : bulk.bluetoothOn = false)
    (idx : Fin vqmbtMaxDevices) (b : QmButton) : (b.bulk bulk idx).Off := by
  by_cases h : bulk.Lists idx
  · rw [bulk_off h hoff]
    exact off_btOff _
  · rw [bulk_unlisted h]
    exact off_empty b

end QmButton

theorem off_event {slots : Fin vqmbtMaxDevices → QmButton} (hz : EmptyZeroed slots)
    (hoff : ∀ idx, (slots idx).Off) (mac0 mac1 : UnsignedInt) (target : QmButtonState)
    (idx : Fin vqmbtMaxDevices) :
    eventEffect slots mac0 mac1 target idx (slots idx) = slots idx := by
  unfold eventEffect
  split
  · rfl
  · next found hok =>
      split
      · next heq =>
          subst heq
          have hbt := (hoff idx).resolve_left (macToIdx_occupied hz hok)
          simp [QmButton.settle, hbt]
      · rfl

theorem turnsOff_step (a : Handling) (past : List Handling) (h : TurnsOff a.request) :
    AllOff (quickMenu.after (a :: past)) := by
  intro idx
  rw [after_buttons]
  cases hreq : a.request with
  | bluetoothOff => exact QmButton.off_btOff _
  | bulkUpdate bulk =>
      rw [hreq] at h
      exact QmButton.off_bulk h idx _
  | _ =>
      rw [hreq] at h
      exact absurd h id

theorem allOff_step (a : Handling) (past : List Handling) (hon : ¬ TurnsOn a.request)
    (h : AllOff (quickMenu.after past)) :
    AllOff (quickMenu.after (a :: past)) ∧ (quickMenu.reply past a).calls = [] := by
  have hz := emptyZeroed_after past
  rw [reply_calls]
  cases hreq : a.request with
  | bulkUpdate bulk =>
      refine ⟨turnsOff_step a past ?_, rfl⟩
      rw [hreq] at hon ⊢
      exact Bool.eq_false_iff.mpr hon
  | bluetoothOff => exact ⟨turnsOff_step a past (by rw [hreq]; trivial), rfl⟩
  | bluetoothOn =>
      rw [hreq] at hon
      exact absurd trivial hon
  | buttonPressed pressed =>
      refine ⟨fun idx => ?_, ?_⟩
      · rw [after_buttons, hreq]
        simp only [requestEffect]
        split
        · rw [(QmButton.off_press (h idx) a.kernel).2]
          exact h idx
        · exact h idx
      · simp only [requestCalls, (QmButton.off_press (h pressed) a.kernel).1, Option.toList_none]
  | deviceDisconnected mac0 mac1 =>
      refine ⟨fun idx => ?_, rfl⟩
      rw [after_buttons, hreq]
      simp only [requestEffect, off_event hz h]
      exact h idx
  | deviceConnected mac0 mac1 =>
      refine ⟨fun idx => ?_, rfl⟩
      rw [after_buttons, hreq]
      simp only [requestEffect, off_event hz h]
      exact h idx

theorem allOff_after (past : List Handling) (off : Handling) (hoff : TurnsOff off.request) :
    ∀ later : List Handling, (∀ a ∈ later, ¬ TurnsOn a.request) →
      AllOff (quickMenu.after (later ++ off :: past)) := by
  intro later
  induction later with
  | nil => intro _; exact turnsOff_step off past hoff
  | cons a later ih =>
      intro hl
      have hpast := ih (fun b hb => hl b (List.mem_cons_of_mem _ hb))
      exact (allOff_step a _ (hl a (List.mem_cons_self ..)) hpast).1

theorem bluetooth_off_sticky (past : List Handling) (off : Handling)
    (hoff : TurnsOff off.request) (later : List Handling)
    (hl : ∀ a ∈ later, ¬ TurnsOn a.request) :
    (∀ idx, ((quickMenu.after (later ++ off :: past)).qmState.buttons idx).btnState =
          .slotEmptyDisabled ∨
        ((quickMenu.after (later ++ off :: past)).qmState.buttons idx).btnState =
          .btOffDisabled) ∧
      (quickMenu.reply past off).calls = [] ∧
      ∀ newer a older, later = newer ++ a :: older →
        (quickMenu.reply (older ++ off :: past) a).calls = [] := by
  refine ⟨allOff_after past off hoff later hl, ?_, ?_⟩
  · rw [reply_calls]
    cases hreq : off.request with
    | buttonPressed pressed =>
        rw [hreq] at hoff
        exact absurd hoff id
    | _ => rfl
  · intro newer a older heq
    have hpast := allOff_after past off hoff older
      (fun b hb => hl b (by rw [heq]; simp [hb]))
    exact (allOff_step a _ (hl a (by simp [heq])) hpast).2

theorem bluetooth_off_sticky_late_connect :
    let past : List Handling := [⟨.bulkUpdate (.single true 1 1 .connected), fun _ => 0⟩]
    let off : Handling := ⟨.bluetoothOff, fun _ => 0⟩
    let connected : Handling := ⟨.deviceConnected 1 1, fun _ => 0⟩
    let press : Handling := ⟨.buttonPressed 0, fun _ => 0⟩
    ((quickMenu.after ([press, connected] ++ off :: past)).qmState.buttons 0).btnState =
        .btOffDisabled ∧
      (quickMenu.reply ([connected] ++ off :: past) press).calls = [] := by
  intro past off connected press
  obtain ⟨hoff, -, hquiet⟩ :=
    bluetooth_off_sticky past off trivial [press, connected] (by simp [TurnsOn, press, connected])
  have hoccupied : ((quickMenu.after ([press, connected] ++ off :: past)).qmState.buttons
      0).btnState ≠ .slotEmptyDisabled := by decide +kernel
  exact ⟨(hoff 0).resolve_left hoccupied, hquiet [] press [connected] rfl⟩

end VitaQmBluetooth
