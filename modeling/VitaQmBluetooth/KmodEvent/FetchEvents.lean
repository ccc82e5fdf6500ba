import VitaQmBluetooth.Foundation.Loop
import VitaQmBluetooth.QmState.Reachable
import VitaQmBluetooth.Quickmenu.Handlers
import VitaQmBluetooth.UmodCallback.Backlog

namespace VitaQmBluetooth

open Foundation

-- What the kernel tells each successive reset().
structure ResetKernel where
  bluetoothState : Nat → Bool
  pairedDevices : Nat → List VqmbtDeviceInfo

def ResetKernel.bulk (k : ResetKernel) (n : Nat) : QmsBulk :=
  resetBulk (k.bluetoothState n) (k.pairedDevices n)

structure FetchState where
  ring : UmodRing
  menu : QmModule
  requests : List QmsRequest
  resets : Nat

def FetchState.request (s : FetchState) (request : QmsRequest) : FetchState :=
  { s with
    menu := (qmStateUpdateUi (fun _ => 0) s.menu request).1
    requests := s.requests ++ [request] }

def reset (k : ResetKernel) (s : FetchState) : FetchState :=
  let s := { s with ring := (kvqmbtReadEvent 0 s.ring true 0).1 }
  { s.request (.bulkUpdate (k.bulk s.resets)) with resets := s.resets + 1 }

def fetchTurn (k : ResetKernel) (s : FetchState) : FetchState ⊕ FetchState :=
  let (ring, reply) := kvqmbtReadEvent 0 s.ring false 1
  let s := { s with ring := ring }
  match fetchNext reply with
  | .dropped => .inl (reset k s)
  | .stop => .inr s
  | .event event =>
      match handleEvent event with
      | .request request => .inl (s.request request)
      | .reset => .inl (reset k s)
      | .ignored => .inl s

def fetchEvents (k : ResetKernel) : Nat → FetchState → Option FetchState := runLoop (fetchTurn k)

def requestOf (bulk : QmsBulk) (event : VqmbtEvent) : Option QmsRequest :=
  match handleEvent event with
  | .request request => some request
  | .reset => some (.bulkUpdate bulk)
  | .ignored => none

def uptoBulk : List QmsRequest → List QmsRequest
  | [] => []
  | .bulkUpdate bulk :: _ => [.bulkUpdate bulk]
  | request :: rest => request :: uptoBulk rest

def Fetches (k : ResetKernel) (s : FetchState) (requests : List QmsRequest) : Prop :=
  ∃ t, Ends (fetchTurn k) s t ∧ t.ring.readIdx = t.ring.writeIdx ∧
    t.requests = s.requests ++ requests

theorem handleEvent_not_bulk {event : VqmbtEvent} {request : QmsRequest}
    (h : handleEvent event = .request request) : ¬ IsBulk request := by
  unfold handleEvent at h
  split at h
  all_goals cases h
  all_goals nofun

theorem uptoBulk_cons {request : QmsRequest} (h : ¬ IsBulk request) (rest : List QmsRequest) :
    uptoBulk (request :: rest) = request :: uptoBulk rest := by
  cases request with
  | bulkUpdate bulk => exact absurd trivial h
  | _ => rfl

theorem fetches_empty (k : ResetKernel) {s : FetchState} (h : RingHolds s.ring []) :
    Fetches k s [] := by
  have hread := ringHolds_read h (Int.le_refl 0) false 1
  have hturn : fetchTurn k s = .inr { s with ring := (kvqmbtReadEvent 0 s.ring false 1).1 } := by
    simp only [fetchTurn, hread.2]
    rfl
  exact ⟨_, .stop hturn, (ringHolds_empty hread.1).mpr rfl, (List.append_nil _).symm⟩

theorem fetches_reset {k : ResetKernel} {s : FetchState} {ring : UmodRing}
    {queue : List VqmbtEvent} (hturn : fetchTurn k s = .inl (reset k { s with ring := ring }))
    (h : RingHolds ring queue) : Fetches k s [.bulkUpdate (k.bulk s.resets)] := by
  have hflush := (ringHolds_read h (Int.le_refl 0) true 0).1
  obtain ⟨t, hends, hdone, hrequests⟩ :=
    fetches_empty k (s := reset k { s with ring := ring }) hflush
  refine ⟨t, .again hturn hends, hdone, hrequests.trans ?_⟩
  exact List.append_nil _

theorem Fetches.again {k : ResetKernel} {s t : FetchState} {before after : List QmsRequest}
    (hturn : fetchTurn k s = .inl t) (hrequests : t.requests = s.requests ++ before)
    (h : Fetches k t after) : Fetches k s (before ++ after) := by
  obtain ⟨last, hends, hdone, hlast⟩ := h
  refine ⟨last, .again hturn hends, hdone, ?_⟩
  rw [hlast, hrequests, List.append_assoc]

theorem fetches_overflow (k : ResetKernel) {s : FetchState} {queue : List VqmbtEvent}
    (h : RingHolds s.ring queue) (hover : ringBufferSize < queue.length) :
    Fetches k s [.bulkUpdate (k.bulk s.resets)] := by
  obtain ⟨hring, hreply⟩ := ringHolds_read h (Int.le_refl 0) false 1
  cases queue with
  | nil => exact absurd hover (Nat.not_lt_zero _)
  | cons event queue =>
      rw [queueRead_cons, if_pos hover] at hring hreply
      exact fetches_reset (by simp only [fetchTurn, hreply]; rfl) hring

theorem fetches_drain (k : ResetKernel) {s : FetchState} {queue : List VqmbtEvent}
    (h : RingHolds s.ring queue) (hfits : queue.length ≤ ringBufferSize) :
    Fetches k s (uptoBulk (queue.filterMap (requestOf (k.bulk s.resets)))) := by
  induction queue generalizing s with
  | nil => exact fetches_empty k h
  | cons event queue ih =>
      obtain ⟨hring, hreply⟩ := ringHolds_read h (Int.le_refl 0) false 1
      rw [queueRead_cons, if_neg (Nat.not_lt.mpr hfits)] at hring hreply
      have hfits' : queue.length ≤ ringBufferSize := Nat.le_of_succ_le hfits
      let s' := { s with ring := (kvqmbtReadEvent 0 s.ring false 1).1 }
      cases hevent : handleEvent event with
      | request request =>
          have hrequest : requestOf (k.bulk s.resets) event = some request := by
            simp only [requestOf, hevent]
          rw [List.filterMap_cons_some hrequest, uptoBulk_cons (handleEvent_not_bulk hevent)]
          have hturn : fetchTurn k s = .inl (s'.request request) := by
            simp only [fetchTurn, hreply, fetchNext_event, hevent, s']
          exact .again hturn rfl (ih hring hfits')
      | reset =>
          have hrequest : requestOf (k.bulk s.resets) event =
              some (.bulkUpdate (k.bulk s.resets)) := by
            simp only [requestOf, hevent]
          rw [List.filterMap_cons_some hrequest]
          exact fetches_reset (by simp only [fetchTurn, hreply, fetchNext_event, hevent]) hring
      | ignored =>
          have hrequest : requestOf (k.bulk s.resets) event = none := by
            simp only [requestOf, hevent]
          rw [List.filterMap_cons_none hrequest]
          have hturn : fetchTurn k s = .inl s' := by
            simp only [fetchTurn, hreply, fetchNext_event, hevent, s']
          exact .again hturn (List.append_nil _).symm (ih hring hfits')

theorem Fetches.unique {k : ResetKernel} {s : FetchState} {requests requests' : List QmsRequest}
    (h : Fetches k s requests) (h' : Fetches k s requests') : requests = requests' := by
  obtain ⟨t, hends, -, hrequests⟩ := h
  obtain ⟨t', hends', -, hrequests'⟩ := h'
  obtain rfl := hends.unique hends'
  exact List.append_cancel_left (hrequests.symm.trans hrequests')

end VitaQmBluetooth
