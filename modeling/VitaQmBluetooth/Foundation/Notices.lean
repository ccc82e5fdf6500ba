import Mathlib.Tactic.TypeStar

namespace VitaQmBluetooth.Foundation

variable {E F : Type*}

inductive Reports : List (Option E) → List E → Prop
  | nil : Reports [] []
  | event {report : List (Option E)} {events : List E} (e : E) :
      Reports report events → Reports (some e :: report) (e :: events)
  | notice {report : List (Option E)} {events : List E} (missing : List E) :
      Reports report events → Reports (none :: report) (missing ++ events)

namespace Reports

variable {report report' : List (Option E)} {events events' : List E}

theorem missing (events : List E) : Reports [none] events := by
  have h := Reports.notice events (.nil : Reports ([] : List (Option E)) [])
  rwa [List.append_nil] at h

theorem append (h : Reports report events) (h' : Reports report' events') :
    Reports (report ++ report') (events ++ events') := by
  induction h with
  | nil => exact h'
  | event e _ ih => exact .event e ih
  | notice missing _ ih =>
      rw [List.append_assoc]
      exact .notice missing ih

theorem split {r r' : List (Option E)} (h : Reports (r ++ r') events) :
    ∃ front back, events = front ++ back ∧ Reports r front ∧ Reports r' back := by
  induction r generalizing events with
  | nil => exact ⟨[], events, rfl, .nil, h⟩
  | cons entry r ih =>
      cases h with
      | event e h =>
          obtain ⟨front, back, rfl, hfront, hback⟩ := ih h
          exact ⟨e :: front, back, rfl, .event e hfront, hback⟩
      | notice missing h =>
          obtain ⟨front, back, rfl, hfront, hback⟩ := ih h
          exact ⟨missing ++ front, back, (List.append_assoc ..).symm, .notice missing hfront, hback⟩

theorem discard {before lost after : List (Option E)}
    (h : Reports (before ++ lost ++ after) events) :
    Reports (before ++ [none] ++ after) events := by
  obtain ⟨front, back, rfl, hfront, hback⟩ := h.split
  obtain ⟨first, middle, rfl, hfirst, -⟩ := hfront.split
  exact (hfirst.append (.missing middle)).append hback

theorem push (h : Reports report events) (e : E) :
    Reports (report ++ [some e]) (events ++ [e]) := h.append (.event e .nil)

theorem complete (h : Reports report events) (hnone : none ∉ report) :
    report = events.map some := by
  induction h with
  | nil => rfl
  | event e _ ih =>
      rw [ih fun hmem => hnone (List.mem_cons_of_mem _ hmem)]
      rfl
  | notice missing _ ih => exact absurd (List.mem_cons_self ..) hnone

theorem map (h : Reports report events) (f : E → F) :
    Reports (report.map (Option.map f)) (events.map f) := by
  induction h with
  | nil => exact .nil
  | event e _ ih => exact .event (f e) ih
  | notice missing _ ih =>
      rw [List.map_append]
      exact .notice _ ih

def passedOn (f : E → Option F) : Option E → Option (Option F)
  | none => some none
  | some e => (f e).map some

theorem filterMap (h : Reports report events) (f : E → Option F) :
    Reports (report.filterMap (passedOn f)) (events.filterMap f) := by
  induction h with
  | nil => exact .nil
  | @event report events e _ ih =>
      cases hf : f e with
      | none =>
          rw [List.filterMap_cons_none hf, List.filterMap_cons_none (by simp [passedOn, hf])]
          exact ih
      | some v =>
          have hpassed : passedOn f (some e) = some (some v) := by simp [passedOn, hf]
          rw [List.filterMap_cons_some hf, List.filterMap_cons_some hpassed]
          exact .event v ih
  | notice missing _ ih =>
      rw [List.filterMap_append]
      exact .notice _ ih

theorem trans {outer : List (Option (Option E))} {inner : List (Option E)}
    (h : Reports outer inner) (hinner : Reports inner events) :
    Reports (outer.map Option.join) events := by
  induction h generalizing events with
  | nil => exact hinner
  | event e _ ih =>
      cases hinner with
      | event e hinner => exact .event e (ih hinner)
      | notice missing hinner => exact .notice missing (ih hinner)
  | notice missing _ ih =>
      obtain ⟨front, back, rfl, -, hback⟩ := hinner.split
      exact .notice front (ih hback)

end Reports

end VitaQmBluetooth.Foundation
