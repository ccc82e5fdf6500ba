import VitaQmBluetooth.QmState.SlotOrder

namespace VitaQmBluetooth

open Foundation

structure Elsewhere (slots : Fin vqmbtMaxDevices → QmButton) (idx : Fin vqmbtMaxDevices)
    (later : List Handling) : Prop where
  noBulk : NoBulk later
  unconcerned : ∀ a ∈ later, ¬ ConcernsSlot slots a idx

theorem NoBulk.append {later later' : List Handling} (h : NoBulk later) (h' : NoBulk later') :
    NoBulk (later ++ later') := by
  intro a ha
  exact (List.mem_append.mp ha).elim (h a) (h' a)

theorem NoBulk.cons {later : List Handling} {a : Handling} (ha : ¬ IsBulk a.request)
    (h : NoBulk later) : NoBulk (a :: later) := by
  intro b hb
  rcases List.mem_cons.mp hb with rfl | hb
  · exact ha
  · exact h b hb

structure Cycle where
  idx : Fin vqmbtMaxDevices
  mac0 : UnsignedInt
  mac1 : UnsignedInt
  acceptsConnect : KvqmbtCall → Int
  acceptsDisconnect : KvqmbtCall → Int
  whileConnecting : List Handling
  whileConnected : List Handling
  whileDisconnecting : List Handling

namespace Cycle

variable (c : Cycle)

def connecting : List Handling :=
  c.whileConnecting ++ [⟨.buttonPressed c.idx, c.acceptsConnect⟩]

def connected : List Handling :=
  c.whileConnected ++ ⟨.deviceConnected c.mac0 c.mac1, fun _ => 0⟩ :: c.connecting

def disconnecting : List Handling :=
  c.whileDisconnecting ++ ⟨.buttonPressed c.idx, c.acceptsDisconnect⟩ :: c.connected

def all : List Handling := ⟨.deviceDisconnected c.mac0 c.mac1, fun _ => 0⟩ :: c.disconnecting

def others : List Handling := c.whileDisconnecting ++ c.whileConnected ++ c.whileConnecting

structure Ready (c : Cycle) (slots : Fin vqmbtMaxDevices → QmButton) : Prop where
  shown : (slots c.idx).btnState = .disconnected
  found : macToIdx slots c.mac0 c.mac1 = .ok c.idx
  acceptsConnect : 0 ≤ c.acceptsConnect (.connectDevice c.mac0 c.mac1)
  acceptsDisconnect : 0 ≤ c.acceptsDisconnect (.disconnectDevice c.mac0 c.mac1)
  whileConnecting : Elsewhere slots c.idx c.whileConnecting
  whileConnected : Elsewhere slots c.idx c.whileConnected
  whileDisconnecting : Elsewhere slots c.idx c.whileDisconnecting

end Cycle

theorem press_accepted {b : QmButton} {kernel : KvqmbtCall → Int} {call : KvqmbtCall}
    (hcall : b.pressCall = some call) (haccepts : 0 ≤ kernel call) :
    b.press kernel = { b with btnState := match call with
      | .connectDevice _ _ => .connectingDisabled
      | .disconnectDevice _ _ => .disconnectingDisabled } := by
  have hret : ¬ kernel call < 0 := Int.not_lt.mpr haccepts
  simp only [QmButton.press, hcall, QmButton.pressOutcome, if_neg hret]
  cases call <;> simp [QmButton.settle]

theorem eventEffect_found {slots : Fin vqmbtMaxDevices → QmButton} {mac0 mac1 : UnsignedInt}
    {idx : Fin vqmbtMaxDevices} (h : macToIdx slots mac0 mac1 = .ok idx) {b : QmButton}
    (hb : b.btnState ≠ .btOffDisabled) (target : QmButtonState) :
    eventEffect slots mac0 mac1 target idx b = { b with btnState := target } := by
  simp [eventEffect, h, QmButton.settle, hb]

section

variable {c : Cycle} {slots : Fin vqmbtMaxDevices → QmButton} (h : c.Ready slots)

include h

theorem ready_device : (slots c.idx).device.mac0 = c.mac0 ∧ (slots c.idx).device.mac1 = c.mac1 :=
  Prod.mk.inj (macToIdx_ok h.found).1

theorem ready_pressCall {s : QmButtonState} :
    ({ slots c.idx with btnState := s } : QmButton).pressCall = match s with
      | .disconnected => some (.connectDevice c.mac0 c.mac1)
      | .connected => some (.disconnectDevice c.mac0 c.mac1)
      | _ => none := by
  obtain ⟨hmac0, hmac1⟩ := ready_device h
  cases s <;> simp [QmButton.pressCall, hmac0, hmac1]

theorem ready_shown : slots c.idx = { slots c.idx with btnState := .disconnected } := by
  rw [← h.shown]

theorem cycle_connecting : (slotMenu slots).after slots c.connecting c.idx =
    { slots c.idx with btnState := .connectingDisabled } := by
  have hcall : (slots c.idx).pressCall = some (.connectDevice c.mac0 c.mac1) := by
    rw [ready_shown h, ready_pressCall h]
  rw [Cycle.connecting, (slotMenu slots).after_elsewhere _ h.whileConnecting.unconcerned]
  exact (if_pos rfl).trans (press_accepted hcall h.acceptsConnect)

theorem cycle_connected : (slotMenu slots).after slots c.connected c.idx =
    { slots c.idx with btnState := .connected } := by
  rw [Cycle.connected, (slotMenu slots).after_elsewhere _ h.whileConnected.unconcerned,
    Slotwise.after, cycle_connecting h]
  exact eventEffect_found h.found (by simp) .connected

theorem cycle_disconnecting : (slotMenu slots).after slots c.disconnecting c.idx =
    { slots c.idx with btnState := .disconnectingDisabled } := by
  rw [Cycle.disconnecting, (slotMenu slots).after_elsewhere _ h.whileDisconnecting.unconcerned,
    Slotwise.after, cycle_connected h]
  exact (if_pos rfl).trans (press_accepted (ready_pressCall h) h.acceptsDisconnect)

theorem cycle_all : (slotMenu slots).after slots c.all c.idx = slots c.idx := by
  rw [Cycle.all, Slotwise.after, cycle_disconnecting h, ready_shown h]
  exact eventEffect_found h.found (by simp) .disconnected

theorem cycle_outputs : (slotMenu slots).outputs slots c.idx c.all =
    [.disconnectDevice c.mac0 c.mac1, .connectDevice c.mac0 c.mac1] := by
  have hpress (kernel : KvqmbtCall → Int) {b : QmButton} {call : KvqmbtCall}
      (hcall : b.pressCall = some call) :
      ((slotMenu slots).output ⟨.buttonPressed c.idx, kernel⟩ c.idx b).toList = [call] := by
    simp [slotMenu, slotCall, hcall]
  have hfirst : (slots c.idx).pressCall = some (.connectDevice c.mac0 c.mac1) := by
    rw [ready_shown h, ready_pressCall h]
  have hsecond := ready_pressCall h (s := .connected)
  have hconnecting : (slotMenu slots).outputs slots c.idx c.connecting =
      [.connectDevice c.mac0 c.mac1] := by
    rw [Cycle.connecting, (slotMenu slots).outputs_elsewhere _ h.whileConnecting.unconcerned,
      Slotwise.outputs, Slotwise.after, hpress _ hfirst]
    rfl
  have hconnected : (slotMenu slots).outputs slots c.idx c.connected =
      [.connectDevice c.mac0 c.mac1] := by
    rw [Cycle.connected, (slotMenu slots).outputs_elsewhere _ h.whileConnected.unconcerned,
      Slotwise.outputs, hconnecting]
    rfl
  have hdisconnecting : (slotMenu slots).outputs slots c.idx c.disconnecting =
      [.disconnectDevice c.mac0 c.mac1, .connectDevice c.mac0 c.mac1] := by
    rw [Cycle.disconnecting,
      (slotMenu slots).outputs_elsewhere _ h.whileDisconnecting.unconcerned, Slotwise.outputs,
      cycle_connected h, hpress _ hsecond, hconnected]
    rfl
  rw [Cycle.all, Slotwise.outputs, hdisconnecting]
  rfl

theorem cycle_noBulk : NoBulk c.connecting ∧ NoBulk c.connected ∧ NoBulk c.disconnecting ∧
    NoBulk c.all := by
  have hconnecting : NoBulk c.connecting :=
    h.whileConnecting.noBulk.append (.cons id (by simp [NoBulk]))
  have hconnected : NoBulk c.connected := h.whileConnected.noBulk.append (.cons id hconnecting)
  have hdisconnecting : NoBulk c.disconnecting :=
    h.whileDisconnecting.noBulk.append (.cons id hconnected)
  exact ⟨hconnecting, hconnected, hdisconnecting, .cons id hdisconnecting⟩

theorem cycle_elsewhere {j : Fin vqmbtMaxDevices} (hj : j ≠ c.idx) :
    (slotMenu slots).after slots c.all j = (slotMenu slots).after slots c.others j := by
  have hfound : macToIdx slots c.mac0 c.mac1 ≠ .ok j := by
    rw [h.found]
    exact fun heq => hj (Except.ok.inj heq).symm
  have hevent (kernel : KvqmbtCall → Int) :
      ¬ (slotMenu slots).Concerns ⟨.deviceConnected c.mac0 c.mac1, kernel⟩ j ∧
        ¬ (slotMenu slots).Concerns ⟨.deviceDisconnected c.mac0 c.mac1, kernel⟩ j :=
    ⟨hfound, hfound⟩
  have hpress (kernel : KvqmbtCall → Int) :
      ¬ (slotMenu slots).Concerns ⟨.buttonPressed c.idx, kernel⟩ j := hj
  refine (slotMenu slots).after_of_seen slots ?_
  simp [Slotwise.seen, Cycle.all, Cycle.disconnecting, Cycle.connected, Cycle.connecting,
    Cycle.others, List.filter_append, hevent, hpress]

end

theorem connect_cycle (past : List Handling) (c : Cycle)
    (h : c.Ready (quickMenu.after past).qmState.buttons) :
    ((quickMenu.after (c.connecting ++ past)).qmState.buttons c.idx).btnState =
        .connectingDisabled ∧
      ((quickMenu.after (c.connected ++ past)).qmState.buttons c.idx).btnState = .connected ∧
      ((quickMenu.after (c.disconnecting ++ past)).qmState.buttons c.idx).btnState =
        .disconnectingDisabled ∧
      (quickMenu.after (c.all ++ past)).qmState = (quickMenu.after (c.others ++ past)).qmState ∧
      madeCalls c.idx (c.all ++ past) =
        [.disconnectDevice c.mac0 c.mac1, .connectDevice c.mac0 c.mac1] ++
          madeCalls c.idx past := by
  obtain ⟨hconnecting, hconnected, hdisconnecting, hall⟩ := cycle_noBulk h
  have hothers : Elsewhere (quickMenu.after past).qmState.buttons c.idx c.others := by
    refine ⟨(h.whileDisconnecting.noBulk.append h.whileConnected.noBulk).append
      h.whileConnecting.noBulk, ?_⟩
    simp only [Cycle.others, List.forall_mem_append]
    exact ⟨⟨h.whileDisconnecting.unconcerned, h.whileConnected.unconcerned⟩,
      h.whileConnecting.unconcerned⟩
  refine ⟨?_, ?_, ?_, ?_, ?_⟩
  · rw [menu_slotwise past hconnecting, cycle_connecting h]
  · rw [menu_slotwise past hconnected, cycle_connected h]
  · rw [menu_slotwise past hdisconnecting, cycle_disconnecting h]
  · ext j : 2
    rw [menu_slotwise past hall, menu_slotwise past hothers.noBulk]
    by_cases hj : j = c.idx
    · have hkept := (slotMenu (quickMenu.after past).qmState.buttons).after_elsewhere
        (quickMenu.after past).qmState.buttons hothers.unconcerned []
      rw [List.append_nil] at hkept
      rw [hj, cycle_all h, hkept]
      rfl
    · exact cycle_elsewhere h hj
  · rw [madeCalls_slotwise past hall, cycle_outputs h]

theorem one_lt_maxDevices : 1 < vqmbtMaxDevices := by decide

def firstCycles : Cycle where
  idx := ⟨0, zero_lt_maxDevices⟩
  mac0 := 1
  mac1 := 1
  acceptsConnect _ := 0
  acceptsDisconnect _ := 0
  whileConnecting := [secondConnects]
  whileConnected := []
  whileDisconnecting := [⟨.buttonPressed ⟨1, one_lt_maxDevices⟩, fun _ => -1⟩]

theorem firstCycles_ready : firstCycles.Ready (quickMenu.after [listTwo]).qmState.buttons where
  shown := by decide +kernel
  found := by decide +kernel
  acceptsConnect := by decide
  acceptsDisconnect := by decide
  whileConnecting := ⟨by simp [NoBulk, firstCycles, secondConnects, IsBulk],
    by simp only [firstCycles, List.forall_mem_singleton]; decide +kernel⟩
  whileConnected := ⟨by simp [NoBulk, firstCycles], by simp [firstCycles]⟩
  whileDisconnecting := ⟨by simp [NoBulk, firstCycles, IsBulk],
    by simp only [firstCycles, List.forall_mem_singleton]; decide +kernel⟩

theorem connect_cycle_first :
    (quickMenu.after (firstCycles.all ++ [listTwo])).qmState =
        (quickMenu.after (firstCycles.others ++ [listTwo])).qmState ∧
      madeCalls 0 (firstCycles.all ++ [listTwo]) = [.disconnectDevice 1 1, .connectDevice 1 1] :=
  (connect_cycle [listTwo] firstCycles firstCycles_ready).2.2.2

end VitaQmBluetooth
