import VitaQmBluetooth.BtEvent.HandleEvent
import VitaQmBluetooth.KmodEvent.FetchEvents

namespace VitaQmBluetooth

open Foundation

def SceBtEvent.translate (bulk : QmsBulk) (event : SceBtEvent) : Option QmsRequest :=
  if event.id = BtEvent.connectResult then
    if event.unk1 = 0 then some (.deviceConnected event.mac0 event.mac1)
    else some (.deviceDisconnected event.mac0 event.mac1)
  else if event.id = BtEvent.disconnect then some (.deviceDisconnected event.mac0 event.mac1)
  else if event.id = BtEvent.addRemoveConnectingDevice then some (.bulkUpdate bulk)
  else if event.id = BtEvent.toggleBluetooth then
    if event.unk3 = 0x09 then some .bluetoothOn
    else if event.unk3 = 0x20 then some .bluetoothOff
    else none
  else none

def imageOf (bulk : QmsBulk) (events : List SceBtEvent) : List QmsRequest :=
  events.filterMap (SceBtEvent.translate bulk)

def expectedRequests (bulk : QmsBulk) (image : List QmsRequest) : List QmsRequest :=
  if image.length ≤ ringBufferSize then uptoBulk image else [.bulkUpdate bulk]

def startFetch (ring : UmodRing) (menu : QmModule) : FetchState := ⟨ring, menu, [], 0⟩

theorem translate_eq (bulk : QmsBulk) (event : SceBtEvent) :
    event.translate bulk = (BtEvent.handleEvent event).bind (requestOf bulk) := by
  fun_cases BtEvent.handleEvent event
  all_goals simp only [SceBtEvent.translate, *]
  all_goals rfl

theorem imageOf_eq (bulk : QmsBulk) (events : List SceBtEvent) :
    imageOf bulk events = (events.filterMap BtEvent.handleEvent).filterMap (requestOf bulk) := by
  rw [imageOf, List.filterMap_filterMap]
  exact List.filterMap_congr fun event _ => translate_eq bulk event

theorem translate_bulk {bulk : QmsBulk} {event : SceBtEvent} {request : QmsRequest}
    (h : event.translate bulk = some request) (hr : IsBulk request) :
    request = .bulkUpdate bulk := by
  revert h
  fun_cases event.translate bulk
  all_goals intro h
  all_goals cases h
  all_goals trivial

theorem imageOf_bulk {bulk : QmsBulk} {events : List SceBtEvent} {request : QmsRequest}
    (h : request ∈ imageOf bulk events) (hr : IsBulk request) : request = .bulkUpdate bulk := by
  obtain ⟨event, -, hevent⟩ := List.mem_filterMap.mp h
  exact translate_bulk hevent hr

theorem requestOf_handled (bulk : QmsBulk) {event : SceBtEvent} {emitted : VqmbtEvent}
    (h : BtEvent.handleEvent event = some emitted) : requestOf bulk emitted ≠ none := by
  have hid := BtEvent.handleEvent_ids event emitted h
  obtain ⟨id, mac0, mac1⟩ := emitted
  simp only [List.mem_cons, List.not_mem_nil, or_false] at hid
  rcases hid with rfl | rfl | rfl | rfl | rfl | rfl | rfl | rfl
  all_goals nofun

theorem imageOf_map (bulk : QmsBulk) (events : List SceBtEvent) :
    ∃ f : VqmbtEvent → QmsRequest,
      imageOf bulk events = (events.filterMap BtEvent.handleEvent).map f ∧
      ∀ n, ((events.filterMap BtEvent.handleEvent).drop n).filterMap (requestOf bulk) =
        ((events.filterMap BtEvent.handleEvent).drop n).map f := by
  have hmap (n : Nat) :
      ((events.filterMap BtEvent.handleEvent).drop n).filterMap (requestOf bulk) =
        ((events.filterMap BtEvent.handleEvent).drop n).map fun emitted =>
          (requestOf bulk emitted).getD .bluetoothOn := by
    rw [← List.filterMap_eq_map']
    refine List.filterMap_congr fun emitted hemitted => ?_
    obtain ⟨event, -, hevent⟩ := List.mem_filterMap.mp (List.mem_of_mem_drop hemitted)
    obtain ⟨request, hrequest⟩ := Option.ne_none_iff_exists'.mp (requestOf_handled bulk hevent)
    simp only [hrequest, Option.getD_some]
  exact ⟨_, (imageOf_eq bulk events).trans (hmap 0), hmap⟩

theorem imageOf_drop (bulk : QmsBulk) (events : List SceBtEvent) (n : Nat) :
    ((events.filterMap BtEvent.handleEvent).drop n).filterMap (requestOf bulk) =
      (imageOf bulk events).drop n := by
  obtain ⟨f, himage, hdrop⟩ := imageOf_map bulk events
  rw [hdrop, himage, List.map_drop]

theorem imageOf_length (bulk : QmsBulk) (events : List SceBtEvent) :
    (events.filterMap BtEvent.handleEvent).length = (imageOf bulk events).length := by
  obtain ⟨f, himage, -⟩ := imageOf_map bulk events
  rw [himage, List.length_map]

theorem uptoBulk_refreshed {bulk : QmsBulk} {requests : List QmsRequest}
    (h : ∀ request ∈ requests, IsBulk request → request = .bulkUpdate bulk) :
    uptoBulk requests = [.bulkUpdate bulk] ↔
      ∃ request, requests.head? = some request ∧ IsBulk request := by
  cases requests with
  | nil => exact iff_of_false nofun nofun
  | cons first rest =>
      rw [List.head?_cons]
      by_cases hfirst : IsBulk first
      · obtain rfl := h first (List.mem_cons_self ..) hfirst
        exact iff_of_true rfl ⟨_, rfl, hfirst⟩
      · rw [uptoBulk_cons hfirst]
        refine iff_of_false (fun heq => hfirst ?_) ?_
        · rw [(List.cons.inj heq).1]
          exact trivial
        · rintro ⟨request, heq, hr⟩
          exact hfirst (Option.some.inj heq ▸ hr)

theorem fetches_holds (k : ResetKernel) {s : FetchState} {queue : List VqmbtEvent}
    (h : RingHolds s.ring queue) :
    Fetches k s (if queue.length ≤ ringBufferSize then
      uptoBulk (queue.filterMap (requestOf (k.bulk s.resets)))
      else [.bulkUpdate (k.bulk s.resets)]) := by
  split
  · next hfits => exact fetches_drain k h hfits
  · next hover => exact fetches_overflow k h (Nat.not_le.mp hover)

def shownRequests (requests : List QmsRequest) : List QmsRequest :=
  requests.drop (requests.length - requests.length % 2 ^ 32)

theorem shownRequests_length (requests : List QmsRequest) :
    (shownRequests requests).length = requests.length % 2 ^ 32 := by
  rw [shownRequests, List.length_drop]
  exact Nat.sub_sub_self (Nat.mod_le _ _)

theorem fetches_handled (k : ResetKernel) (eventFlagUid : Int) (ring : UmodRing)
    (hempty : ring.readIdx = ring.writeIdx) (menu : QmModule) (events : List SceBtEvent) :
    Fetches k (startFetch (BtEvent.handleEvents eventFlagUid ring events) menu)
      (expectedRequests (k.bulk 0) (shownRequests (imageOf (k.bulk 0) events))) := by
  have hnone : pendingEvents ring = [] := (ringHolds_empty (ringHolds_pending ring)).mp hempty
  have hstart : RingShows ring [] := ringShows_of_holds (hnone ▸ ringHolds_pending ring)
  have hholds := ringShows_holds (BtEvent.ringShows_handleEvents hstart eventFlagUid events)
  rw [List.nil_append] at hholds
  have hfetch := fetches_holds k
    (s := startFetch (BtEvent.handleEvents eventFlagUid ring events) menu) hholds
  rw [List.length_drop, imageOf_drop, imageOf_length (k.bulk 0)] at hfetch
  rw [expectedRequests, shownRequests, List.length_drop]
  exact hfetch

theorem shownRequests_expected {bulk : QmsBulk} {requests : List QmsRequest}
    (h : ∀ request ∈ requests, IsBulk request → request = .bulkUpdate bulk) :
    expectedRequests bulk (shownRequests requests) = expectedRequests bulk requests ↔
      requests.length ≤ ringBufferSize ∨ ringBufferSize < requests.length % 2 ^ 32 ∨
      ∃ request, requests[requests.length - requests.length % 2 ^ 32]? = some request ∧
        IsBulk request := by
  by_cases hfits : requests.length ≤ ringBufferSize
  · have hall : shownRequests requests = requests := by
      rw [shownRequests, Nat.mod_eq_of_lt (lt_of_le_of_lt hfits (by decide)), Nat.sub_self,
        List.drop_zero]
    exact iff_of_true (by rw [hall]) (.inl hfits)
  · simp only [expectedRequests, shownRequests_length, hfits, if_false, false_or]
    by_cases hshown : requests.length % 2 ^ 32 ≤ ringBufferSize
    · have hsub : ∀ request ∈ shownRequests requests, IsBulk request →
          request = .bulkUpdate bulk := fun request hmem => h request (List.mem_of_mem_drop hmem)
      rw [if_pos hshown, uptoBulk_refreshed hsub, shownRequests, List.head?_drop]
      exact (or_iff_right (Nat.not_lt.mpr hshown)).symm
    · exact iff_of_true (if_neg hshown) (.inl (Nat.not_le.mp hshown))

theorem fetches_start {k : ResetKernel} {ring : UmodRing} {menu : QmModule}
    {requests : List QmsRequest} :
    Fetches k (startFetch ring menu) requests ↔
      ∃ fuel t, fetchEvents k fuel (startFetch ring menu) = some t ∧
        t.ring.readIdx = t.ring.writeIdx ∧ t.requests = requests := by
  constructor
  · rintro ⟨t, ⟨fuel, hfuel⟩, hdone, hrequests⟩
    exact ⟨fuel, t, hfuel, hdone, hrequests.trans (List.nil_append _)⟩
  · rintro ⟨fuel, t, hfuel, hdone, hrequests⟩
    exact ⟨t, ⟨fuel, hfuel⟩, hdone, hrequests.trans (List.nil_append _).symm⟩

theorem fetches_lap (k : ResetKernel) (eventFlagUid : Int) (ring : UmodRing)
    (hempty : ring.readIdx = ring.writeIdx) (menu : QmModule) {events : List SceBtEvent}
    (hlap : 2 ^ 32 ∣ (imageOf (k.bulk 0) events).length) :
    Fetches k (startFetch (BtEvent.handleEvents eventFlagUid ring events) menu) [] := by
  have hfetch := fetches_handled k eventFlagUid ring hempty menu events
  rwa [shownRequests, Nat.mod_eq_zero_of_dvd hlap, Nat.sub_zero, List.drop_length] at hfetch

theorem imageOf_replicate {bulk : QmsBulk} {event : SceBtEvent} {request : QmsRequest}
    (h : event.translate bulk = some request) (n : Nat) :
    imageOf bulk (List.replicate n event) = List.replicate n request := by
  rw [imageOf, List.filterMap_replicate_of_some h]

theorem end_to_end_iff (k : ResetKernel) (eventFlagUid : Int) (ring : UmodRing)
    (hempty : ring.readIdx = ring.writeIdx) (menu : QmModule) (events : List SceBtEvent) :
    (∃ fuel t, fetchEvents k fuel
        (startFetch (BtEvent.handleEvents eventFlagUid ring events) menu) = some t ∧
      t.ring.readIdx = t.ring.writeIdx) ∧
    ((∃ fuel t, fetchEvents k fuel
        (startFetch (BtEvent.handleEvents eventFlagUid ring events) menu) = some t ∧
      t.ring.readIdx = t.ring.writeIdx ∧
      t.requests = expectedRequests (k.bulk 0) (imageOf (k.bulk 0) events)) ↔
    (imageOf (k.bulk 0) events).length ≤ ringBufferSize ∨
    ringBufferSize < (imageOf (k.bulk 0) events).length % 2 ^ 32 ∨
    ∃ request, (imageOf (k.bulk 0) events)[(imageOf (k.bulk 0) events).length -
        (imageOf (k.bulk 0) events).length % 2 ^ 32]? = some request ∧ IsBulk request) := by
  have hfetch := fetches_handled k eventFlagUid ring hempty menu events
  refine ⟨?_, ?_⟩
  · obtain ⟨fuel, t, hfuel, hdone, -⟩ := fetches_start.mp hfetch
    exact ⟨fuel, t, hfuel, hdone⟩
  · rw [← fetches_start, ← shownRequests_expected fun request => imageOf_bulk]
    constructor
    · exact hfetch.unique
    · intro heq
      rwa [← heq]

theorem end_to_end_refreshed :
    ∃ fuel t, fetchEvents ⟨fun _ => true, fun _ => []⟩ fuel
        (startFetch (BtEvent.handleEvents (-1) ⟨fun _ => .zeroed, 7, 7⟩
          [⟨0x15, 0, 0x09, 0, 0⟩, ⟨0x05, 2, 0, 1, 1⟩, ⟨0x07, 0, 0, 1, 1⟩, ⟨0x06, 0, 0, 1, 1⟩])
          .boot) = some t ∧
      t.ring.readIdx = t.ring.writeIdx ∧
      t.requests = [.bluetoothOn, .deviceDisconnected 1 1, .bulkUpdate (resetBulk true [])] :=
  (end_to_end_iff ⟨fun _ => true, fun _ => []⟩ (-1) ⟨fun _ => .zeroed, 7, 7⟩ rfl
    .boot
    [⟨0x15, 0, 0x09, 0, 0⟩, ⟨0x05, 2, 0, 1, 1⟩, ⟨0x07, 0, 0, 1, 1⟩, ⟨0x06, 0, 0, 1, 1⟩]).2.mpr
    (.inl (by decide))

theorem end_to_end_lost :
    ¬ ∃ fuel t, fetchEvents ⟨fun _ => true, fun _ => []⟩ fuel
        (startFetch (BtEvent.handleEvents (-1) ⟨fun _ => .zeroed, 0, 0⟩
          (List.replicate (2 ^ 32) ⟨0x05, 0, 0, 1, 1⟩)) .boot) = some t ∧
      t.ring.readIdx = t.ring.writeIdx ∧
      t.requests = expectedRequests (resetBulk true [])
        (imageOf (resetBulk true []) (List.replicate (2 ^ 32) ⟨0x05, 0, 0, 1, 1⟩)) := by
  intro hexpected
  have himage := imageOf_replicate
    (show SceBtEvent.translate (resetBulk true []) ⟨0x05, 0, 0, 1, 1⟩ =
      some (.deviceConnected 1 1) from rfl) (2 ^ 32)
  have hlength := congrArg List.length himage
  rw [List.length_replicate] at hlength
  have hfetch := fetches_lap ⟨fun _ => true, fun _ => []⟩ (-1)
    ⟨fun _ => .zeroed, 0, 0⟩ rfl .boot hlength.symm.dvd
  have heq := hfetch.unique (fetches_start.mpr hexpected)
  rw [expectedRequests, hlength, if_neg (by decide)] at heq
  cases heq

end VitaQmBluetooth
