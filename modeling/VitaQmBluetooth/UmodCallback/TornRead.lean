import VitaQmBluetooth.UmodCallback.Race

namespace VitaQmBluetooth

open Foundation

def ReadOutcome.deliveredSeq : ReadOutcome → Option Nat
  | .delivered seq _ _ => some seq
  | _ => none

def deliveredSeqs (outcomes : List ReadOutcome) : List Nat :=
  outcomes.filterMap ReadOutcome.deliveredSeq

def expectedSeq : List ReadOutcome → Option Nat
  | [] => some 0
  | .delivered seq _ _ :: _ => some (seq + 1)
  | .overflowed :: _ | .flushed :: _ => none
  | .refused :: older | .empty :: older | .exportFailed :: older => expectedSeq older

structure DeliveriesExact (firstIdx : UnsignedInt) (emitted : List VqmbtEvent)
    (outcomes : List ReadOutcome) : Prop where
  whole : ∀ seq readIdx event, .delivered seq readIdx event ∈ outcomes →
    emitted[seq]? = some event ∧ readIdx = seqIdx firstIdx seq
  increasing : (deliveredSeqs outcomes).Pairwise (· > ·)
  gapless : ∀ newer seq readIdx event older,
    outcomes = newer ++ .delivered seq readIdx event :: older →
      ∀ k, expectedSeq older = some k → seq = k

def RingRace.ReadsExact (s : RingRace) : Prop :=
  DeliveriesExact s.ledger.firstIdx s.ledger.emitted s.ledger.outcomes

def RingRace.outstanding (s : RingRace) : Nat := s.ledger.emitted.length - s.ledger.taken

def RaceStep.CopyOk : RaceStep → Prop
  | .consumer (.copyToUser ret) => 0 ≤ ret
  | _ => True

instance : DecidablePred RaceStep.CopyOk
  | .consumer (.copyToUser ret) => inferInstanceAs (Decidable (0 ≤ ret))
  | .producer _ | .consumer (.read _ _) | .consumer .loadReadIdx | .consumer .loadWriteIdx
  | .consumer .jump | .consumer (.loadField _) | .consumer .reloadWriteIdx
  | .consumer .commit => inferInstanceAs (Decidable True)

def TornCaught (x : Transition RingRace RaceStep) : Prop :=
  match x.act, x.before.consumer with
  | .consumer .reloadWriteIdx, .loading readIdx _ _ =>
      x.before.torn ≠ [] → Overrun x.before.ring.writeIdx readIdx
  | _, _ => True

instance : DecidablePred TornCaught := fun x => by
  unfold TornCaught
  split <;> infer_instance

structure Accounted (firstIdx : UnsignedInt) (emitted : List VqmbtEvent)
    (outcomes : List ReadOutcome) (next : Nat) : Prop where
  deliveries : DeliveriesExact firstIdx emitted outcomes
  below : ∀ seq ∈ deliveredSeqs outcomes, seq < next
  expected : ∀ k, expectedSeq outcomes = some k → k = next

namespace Accounted

variable {firstIdx : UnsignedInt} {emitted : List VqmbtEvent} {outcomes : List ReadOutcome}
  {next : Nat}

theorem emit (h : Accounted firstIdx emitted outcomes next) (event : VqmbtEvent) :
    Accounted firstIdx (emitted ++ [event]) outcomes next where
  deliveries := by
    refine ⟨?_, h.deliveries.increasing, h.deliveries.gapless⟩
    intro seq readIdx event' hmem
    obtain ⟨hsome, hidx⟩ := h.deliveries.whole seq readIdx event' hmem
    refine ⟨?_, hidx⟩
    obtain ⟨hlt, _⟩ := List.getElem?_eq_some_iff.mp hsome
    exact (List.getElem?_append_left hlt).trans hsome
  below := h.below
  expected := h.expected

theorem quiet (h : Accounted firstIdx emitted outcomes next) {outcome : ReadOutcome}
    (hquiet : outcome.deliveredSeq = none) {later : Nat} (hlater : next ≤ later)
    (hexpected : ∀ k, expectedSeq (outcome :: outcomes) = some k → k = later) :
    Accounted firstIdx emitted (outcome :: outcomes) later := by
  have hseqs : deliveredSeqs (outcome :: outcomes) = deliveredSeqs outcomes := by
    simp only [deliveredSeqs, List.filterMap_cons_none hquiet]
  refine ⟨⟨?_, ?_, ?_⟩, ?_, hexpected⟩
  · intro seq readIdx event hmem
    rcases List.mem_cons.mp hmem with rfl | hmem
    · cases hquiet
    · exact h.deliveries.whole seq readIdx event hmem
  · rw [hseqs]
    exact h.deliveries.increasing
  · intro newer seq readIdx event older heq k hk
    cases newer with
    | nil =>
        obtain ⟨rfl, _⟩ := List.cons.inj heq
        cases hquiet
    | cons _ newer =>
        exact h.deliveries.gapless newer seq readIdx event older (List.cons.inj heq).2 k hk
  · intro seq hseq
    rw [hseqs] at hseq
    exact lt_of_lt_of_le (h.below seq hseq) hlater

theorem deliver (h : Accounted firstIdx emitted outcomes next) {event : VqmbtEvent}
    {readIdx : UnsignedInt} (hevent : emitted[next]? = some event)
    (hidx : readIdx = seqIdx firstIdx next) :
    Accounted firstIdx emitted (.delivered next readIdx event :: outcomes) (next + 1) where
  deliveries := by
    refine ⟨?_, List.pairwise_cons.mpr ⟨h.below, h.deliveries.increasing⟩, ?_⟩
    · intro seq readIdx' event' hmem
      rcases List.mem_cons.mp hmem with heq | hmem
      · obtain ⟨rfl, rfl, rfl⟩ := ReadOutcome.delivered.inj heq
        exact ⟨hevent, hidx⟩
      · exact h.deliveries.whole seq readIdx' event' hmem
    · intro newer seq readIdx' event' older heq k hk
      cases newer with
      | nil =>
          obtain ⟨hhead, htail⟩ := List.cons.inj heq
          obtain ⟨rfl, _, _⟩ := ReadOutcome.delivered.inj hhead
          rw [← htail] at hk
          exact (h.expected k hk).symm
      | cons _ newer =>
          exact h.deliveries.gapless newer seq readIdx' event' older (List.cons.inj heq).2 k hk
  below := by
    intro seq hseq
    rcases List.mem_cons.mp hseq with rfl | hseq
    · exact Nat.lt_succ_self _
    · exact Nat.lt_succ_of_lt (h.below seq hseq)
  expected := by
    intro k hk
    exact (Option.some.inj hk).symm

end Accounted

def Stored (producer : ProducerAt) (f : EventField) : Prop :=
  match producer with
  | .storing _ _ todo => f ∉ todo
  | _ => False

structure SlotsHold (ring : UmodRing) (producer : ProducerAt) (firstIdx : UnsignedInt)
    (emitted : List VqmbtEvent) : Prop where
  entries : ∀ n event, emitted[n]? = some event → emitted.length ≤ n + ringBufferSize →
    ∀ f, (n + ringBufferSize = emitted.length → ¬ Stored producer f) →
      (ring.ringBuffer (slotNo ringBufferSize (seqIdx firstIdx n))).get f = event.get f
  stored : ∀ event writeIdx todo, producer = .storing event writeIdx todo →
    writeIdx = ring.writeIdx ∧ ∀ f, f ∉ todo →
      (ring.ringBuffer (slotNo ringBufferSize writeIdx)).get f = event.get f

def ReaderHolds (ring : UmodRing) (torn : List EventField) (ledger : Ledger) :
    ConsumerAt → Prop
  | .idle | .called _ => True
  | .loadedRead _ readIdx => readIdx = ring.readIdx
  | .jumping readIdx writeIdx outcome =>
      readIdx = ring.readIdx ∧ (outcome = .flushed ∨ outcome = .overflowed) ∧
        ∃ k, ledger.taken ≤ k ∧ k ≤ ledger.emitted.length ∧ writeIdx = seqIdx ledger.firstIdx k
  | .loading readIdx copy todo =>
      readIdx = ring.readIdx ∧ ∃ event, ledger.emitted[ledger.taken]? = some event ∧
        (ledger.emitted.length ≤ ledger.taken + ringBufferSize →
          ∀ f, f ∉ todo → f ∉ torn → copy.get f = event.get f)
  | .committing readIdx copy =>
      readIdx = ring.readIdx ∧ ledger.emitted[ledger.taken]? = some copy
  | .exporting readIdx copy =>
      ∃ n, ledger.taken = n + 1 ∧ readIdx = seqIdx ledger.firstIdx n ∧
        ledger.emitted[n]? = some copy

def ConsumerAt.nextSeq (consumer : ConsumerAt) (taken : Nat) : Nat :=
  match consumer with
  | .exporting _ _ => taken - 1
  | _ => taken

structure RaceHolds (s : RingRace) : Prop where
  taken_le : s.ledger.taken ≤ s.ledger.emitted.length
  bounded : s.outstanding < 2 ^ 32
  writeIdx : s.ring.writeIdx = seqIdx s.ledger.firstIdx s.ledger.emitted.length
  readIdx : s.ring.readIdx = seqIdx s.ledger.firstIdx s.ledger.taken
  slots : SlotsHold s.ring s.producer s.ledger.firstIdx s.ledger.emitted
  reader : ReaderHolds s.ring s.torn s.ledger s.consumer
  accounted : Accounted s.ledger.firstIdx s.ledger.emitted s.ledger.outcomes
    (s.consumer.nextSeq s.ledger.taken)

theorem raceHolds_start {s : RingRace} (h : ringRace.start s) : RaceHolds s := by
  obtain ⟨ring, producer, consumer, torn, ledger⟩ := s
  obtain ⟨hproducer, hconsumer, hempty, -, hledger⟩ := h
  obtain rfl : producer = .idle := hproducer
  obtain rfl : consumer = .idle := hconsumer
  obtain rfl : ledger = ⟨ring.readIdx, [], 0, []⟩ := hledger
  refine ⟨Nat.le_refl _, by simp [RingRace.outstanding], ?_, ?_, ⟨?_, ?_⟩, trivial, ⟨⟨?_, ?_, ?_⟩,
    ?_, ?_⟩⟩
  · simpa using hempty.symm
  · simp
  · intro n event hn
    simp at hn
  · intro event writeIdx todo hp
    cases hp
  · intro seq readIdx event hmem
    cases hmem
  · exact List.Pairwise.nil
  · intro newer seq readIdx event older heq
    cases newer <;> cases heq
  · intro seq hseq
    cases hseq
  · intro k hk
    exact (Option.some.inj hk).symm

theorem getElem?_emitted {emitted : List VqmbtEvent} {n : Nat} {e : VqmbtEvent}
    (h : emitted[n]? = some e) (event : VqmbtEvent) : (emitted ++ [event])[n]? = some e := by
  obtain ⟨hlt, _⟩ := List.getElem?_eq_some_iff.mp h
  exact (List.getElem?_append_left hlt).trans h

theorem ReaderHolds.publish {ring ring' : UmodRing} {torn : List EventField} {ledger : Ledger}
    {consumer : ConsumerAt} (h : ReaderHolds ring torn ledger consumer)
    (hr : ring'.readIdx = ring.readIdx) (event : VqmbtEvent) :
    ReaderHolds ring' torn { ledger with emitted := ledger.emitted ++ [event] } consumer := by
  have hgrow : ledger.emitted.length ≤ (ledger.emitted ++ [event]).length := by simp
  cases consumer with
  | idle => trivial
  | called numEvents => trivial
  | loadedRead numEvents readIdx => exact h.trans hr.symm
  | jumping readIdx writeIdx outcome =>
      obtain ⟨hidx, houtcome, k, hle, hk, hw⟩ := h
      exact ⟨hidx.trans hr.symm, houtcome, k, hle, hk.trans hgrow, hw⟩
  | loading readIdx copy todo =>
      obtain ⟨hidx, e, he, hcopy⟩ := h
      exact ⟨hidx.trans hr.symm, e, getElem?_emitted he event,
        fun hnear => hcopy (hgrow.trans hnear)⟩
  | committing readIdx copy => exact ⟨h.1.trans hr.symm, getElem?_emitted h.2 event⟩
  | exporting readIdx copy =>
      obtain ⟨n, htaken, hidx, he⟩ := h
      exact ⟨n, htaken, hidx, getElem?_emitted he event⟩

theorem ReaderHolds.frame {ring ring' : UmodRing} {torn : List EventField} {ledger : Ledger}
    {consumer : ConsumerAt} (h : ReaderHolds ring torn ledger consumer)
    (hr : ring'.readIdx = ring.readIdx) : ReaderHolds ring' torn ledger consumer := by
  cases consumer <;> simp only [ReaderHolds, hr] at h ⊢ <;> exact h

theorem SlotsHold.store {ring : UmodRing} {firstIdx : UnsignedInt} {emitted : List VqmbtEvent}
    {event : VqmbtEvent} {writeIdx : UnsignedInt} {todo : List EventField} {f : EventField}
    (h : SlotsHold ring (.storing event writeIdx todo) firstIdx emitted)
    (hw : ring.writeIdx = seqIdx firstIdx emitted.length) :
    SlotsHold { ring with
        ringBuffer := Function.update ring.ringBuffer (slotNo ringBufferSize writeIdx)
          ((ring.ringBuffer (slotNo ringBufferSize writeIdx)).copyField event f) }
      (.storing event writeIdx (todo.filter (· ≠ f))) firstIdx emitted := by
  obtain ⟨hidx, hstored⟩ := h.stored event writeIdx todo rfl
  constructor
  · intro n e hn hnear g hg
    have hold : (ring.ringBuffer (slotNo ringBufferSize (seqIdx firstIdx n))).get g = e.get g := by
      refine h.entries n e hn hnear g (fun hlap hgone => hg hlap ?_)
      exact fun hmem => hgone (List.mem_of_mem_filter hmem)
    obtain ⟨hlt, _⟩ := List.getElem?_eq_some_iff.mp hn
    rcases Nat.lt_or_eq_of_le hnear with hinside | hlap
    · have hother := slotNo_ne firstIdx ringBufferSize_dvd hlt hinside
      rw [← hw, ← hidx] at hother
      simpa only [Function.update_of_ne hother _ _] using hold
    · have hsame : slotNo ringBufferSize (seqIdx firstIdx n) = slotNo ringBufferSize writeIdx := by
        rw [hidx, hw, hlap, slotNo_lap firstIdx ringBufferSize_dvd]
      have hne : g ≠ f := by
        rintro rfl
        exact hg hlap.symm (by simp [Stored])
      rw [hsame] at hold ⊢
      simpa only [Function.update_self, VqmbtEvent.get_copyField_ne _ _ hne] using hold
  · intro event' writeIdx' todo' heq
    obtain ⟨rfl, rfl, rfl⟩ := ProducerAt.storing.inj heq
    refine ⟨hidx, fun g hg => ?_⟩
    simp only [Function.update_self]
    by_cases hgf : g = f
    · rw [hgf, VqmbtEvent.get_copyField_self]
    · rw [VqmbtEvent.get_copyField_ne _ _ hgf]
      exact hstored g (fun hmem => hg (by simp [hmem, hgf]))

theorem SlotsHold.publish {ring : UmodRing} {firstIdx : UnsignedInt} {emitted : List VqmbtEvent}
    {event : VqmbtEvent} {writeIdx : UnsignedInt}
    (h : SlotsHold ring (.storing event writeIdx []) firstIdx emitted)
    (hw : ring.writeIdx = seqIdx firstIdx emitted.length) :
    SlotsHold { ring with writeIdx := writeIdx + 1 } .idle firstIdx (emitted ++ [event]) := by
  obtain ⟨hidx, hstored⟩ := h.stored event writeIdx [] rfl
  constructor
  · intro n e hn hnear f _
    simp only [List.length_append, List.length_singleton] at hnear
    by_cases hlast : n = emitted.length
    · subst hlast
      rw [List.getElem?_concat_length] at hn
      rw [← Option.some.inj hn, ← hw, ← hidx]
      exact hstored f List.not_mem_nil
    · have hlt : n < emitted.length := by
        obtain ⟨hbound, _⟩ := List.getElem?_eq_some_iff.mp hn
        simp only [List.length_append, List.length_singleton] at hbound
        omega
      rw [List.getElem?_append_left hlt] at hn
      exact h.entries n e hn (by omega) f (fun hlap => absurd hlap (by omega))
  · intro event' writeIdx' todo' heq
    cases heq

theorem SlotsHold.unstored {ring : UmodRing} {producer producer' : ProducerAt}
    {firstIdx : UnsignedInt} {emitted : List VqmbtEvent}
    (h : SlotsHold ring producer firstIdx emitted) (hbefore : ∀ f, ¬ Stored producer f)
    (hafter : ∀ event writeIdx todo, producer' = .storing event writeIdx todo →
      writeIdx = ring.writeIdx ∧ ∀ f, f ∈ todo) :
    SlotsHold ring producer' firstIdx emitted where
  entries n event hn hnear f _ := h.entries n event hn hnear f (fun _ => hbefore f)
  stored event writeIdx todo hp := by
    obtain ⟨hidx, hall⟩ := hafter event writeIdx todo hp
    exact ⟨hidx, fun f hf => absurd (hall f) hf⟩

theorem raceHolds_producer {s t : RingRace} {a : EmitStep} (hstep : producerStep s a = some t)
    (hout : t.outstanding < 2 ^ 32) (h : RaceHolds s) : RaceHolds t := by
  have hslots := h.slots
  have hle := h.taken_le
  unfold producerStep at hstep
  split at hstep
  · cases hstep
    exact h
  · next hp =>
      rw [hp] at hslots
      split at hstep
      · cases hstep
        exact h
      · cases hstep
        refine { h with slots := hslots.unstored (fun _ => id) ?_ }
        intro event' writeIdx todo heq
        cases heq
  · next event hp =>
      rw [hp] at hslots
      cases hstep
      refine { h with slots := hslots.unstored (fun _ => id) ?_ }
      intro event' writeIdx todo heq
      obtain ⟨rfl, rfl, rfl⟩ := ProducerAt.storing.inj heq
      exact ⟨rfl, fun f => by cases f <;> decide⟩
  · next event writeIdx todo f hp =>
      rw [hp] at hslots
      split at hstep
      · cases hstep
        exact { h with slots := hslots.store h.writeIdx, reader := h.reader.frame rfl }
      · cases hstep
  · next event writeIdx hp =>
      rw [hp] at hslots
      obtain ⟨hidx, _⟩ := hslots.stored event writeIdx [] rfl
      cases hstep
      refine ⟨?_, hout, ?_, h.readIdx, hslots.publish h.writeIdx, h.reader.publish rfl event,
        h.accounted.emit event⟩
      · simp only [List.length_append, List.length_singleton]
        omega
      · simp only [List.length_append, List.length_singleton, hidx, h.writeIdx, seqIdx_succ]
  · cases hstep

theorem ReaderHolds.load {s : RingRace} {readIdx : UnsignedInt} {copy : VqmbtEvent}
    {todo : List EventField} {f : EventField} (h : RaceHolds s)
    (hc : s.consumer = .loading readIdx copy todo) :
    ReaderHolds s.ring (if Overwritten s readIdx f then f :: s.torn else s.torn) s.ledger
      (.loading readIdx
        (copy.copyField (s.ring.ringBuffer (slotNo ringBufferSize readIdx)) f)
        (todo.filter (· ≠ f))) := by
  have hreader := h.reader
  rw [hc] at hreader
  obtain ⟨hidx, event, hevent, hcopy⟩ := hreader
  refine ⟨hidx, event, hevent, fun hnear g hg htorn => ?_⟩
  by_cases hgf : g = f
  · subst hgf
    rw [VqmbtEvent.get_copyField_self, hidx, h.readIdx]
    by_cases hstored : s.ledger.taken + ringBufferSize = s.ledger.emitted.length ∧
        Stored s.producer g
    · obtain ⟨hlap, hs⟩ := hstored
      cases hp : s.producer with
      | storing event' writeIdx todo' =>
          rw [hp] at hs
          obtain ⟨hw, hslot⟩ := h.slots.stored event' writeIdx todo' hp
          have hsame : slotNo ringBufferSize (seqIdx s.ledger.firstIdx s.ledger.taken) =
              slotNo ringBufferSize writeIdx := by
            rw [hw, h.writeIdx, ← hlap, slotNo_lap s.ledger.firstIdx ringBufferSize_dvd]
          rw [hsame, hslot g hs]
          by_contra hne
          have hover : Overwritten s readIdx g := by
            simp only [Overwritten, hp, hidx, h.readIdx, hsame, hevent, Option.map_some]
            exact ⟨trivial, hs, fun heq => hne (Option.some.inj heq).symm⟩
          exact htorn (by simp [hover])
      | _ => rw [hp] at hs; exact absurd hs id
    · exact h.slots.entries _ event hevent hnear g (fun hlap hs => hstored ⟨hlap, hs⟩)
  · rw [VqmbtEvent.get_copyField_ne _ _ hgf]
    refine hcopy hnear g (fun hmem => hg (by simp [hmem, hgf])) (fun hmem => htorn ?_)
    split
    · exact List.mem_cons_of_mem _ hmem
    · exact hmem

theorem overrun_of_lapped {s : RingRace} (h : RaceHolds s) :
    Overrun s.ring.writeIdx s.ring.readIdx ↔
      s.ledger.taken + ringBufferSize < s.ledger.emitted.length := by
  rw [Overrun, h.writeIdx, h.readIdx, gt_iff_lt, BitVec.lt_def,
    seqIdx_dist _ h.taken_le h.bounded]
  exact Nat.lt_sub_iff_add_lt'

theorem RaceHolds.jump {s : RingRace} {readIdx writeIdx : UnsignedInt} {outcome : ReadOutcome}
    (h : RaceHolds s) (hc : s.consumer = .jumping readIdx writeIdx outcome) :
    RaceHolds (RingRace.finish { s with
      ring := { s.ring with readIdx := writeIdx }
      ledger := { s.ledger with
        taken := s.ledger.taken + (writeIdx - readIdx).toNat } } outcome) := by
  have hreader := h.reader
  have haccounted := h.accounted
  have hout : s.ledger.emitted.length - s.ledger.taken < 2 ^ 32 := h.bounded
  rw [hc] at hreader haccounted
  obtain ⟨hidx, houtcome, k, hle, hk, hw⟩ := hreader
  have hdist : (writeIdx - readIdx).toNat = k - s.ledger.taken := by
    rw [hidx, h.readIdx, hw]
    exact seqIdx_dist _ hle (by omega)
  have htaken : s.ledger.taken + (writeIdx - readIdx).toNat = k := by omega
  refine ⟨?_, ?_, h.writeIdx, ?_, ⟨h.slots.entries, h.slots.stored⟩, trivial, ?_⟩
  · simp only [RingRace.finish, htaken]
    exact hk
  · simp only [RingRace.finish, RingRace.outstanding, htaken]
    omega
  · simp only [RingRace.finish, htaken]
    exact hw
  · simp only [RingRace.finish, htaken, ConsumerAt.nextSeq]
    have hquiet : outcome.deliveredSeq = none := by rcases houtcome with rfl | rfl <;> rfl
    have hskipped : expectedSeq (outcome :: s.ledger.outcomes) = none := by
      rcases houtcome with rfl | rfl <;> rfl
    refine haccounted.quiet hquiet hle fun k hk => ?_
    rw [hskipped] at hk
    cases hk

theorem RaceHolds.firstCheck {s : RingRace} {numEvents : Int} {readIdx : UnsignedInt}
    (h : RaceHolds s) (hc : s.consumer = .loadedRead numEvents readIdx)
    (hne : readIdx ≠ s.ring.writeIdx) :
    RaceHolds { s with consumer := .jumping readIdx s.ring.writeIdx .flushed } ∧
      RaceHolds { s with consumer := .jumping readIdx s.ring.writeIdx .overflowed } ∧
      RaceHolds { s with consumer := .loading readIdx .zeroed eventFields, torn := [] } := by
  have hidx := h.reader
  have haccounted := h.accounted
  rw [hc] at hidx haccounted
  have hpending : s.ledger.taken < s.ledger.emitted.length := by
    refine lt_of_le_of_ne h.taken_le fun heq => hne ?_
    rw [hidx, h.readIdx, h.writeIdx, heq]
  have hjump : ∃ k, s.ledger.taken ≤ k ∧ k ≤ s.ledger.emitted.length ∧
      s.ring.writeIdx = seqIdx s.ledger.firstIdx k :=
    ⟨_, h.taken_le, Nat.le_refl _, h.writeIdx⟩
  refine ⟨{ h with reader := ⟨hidx, .inl rfl, hjump⟩, accounted := haccounted },
    { h with reader := ⟨hidx, .inr rfl, hjump⟩, accounted := haccounted },
    { h with reader := ⟨hidx, _, List.getElem?_eq_getElem hpending, ?_⟩,
             accounted := haccounted }⟩
  intro _ f hf
  exact absurd (by cases f <;> decide) hf

theorem RaceHolds.secondCheck {s : RingRace} {readIdx : UnsignedInt} {copy : VqmbtEvent}
    (h : RaceHolds s) (hc : s.consumer = .loading readIdx copy [])
    (hcaught : s.torn ≠ [] → Overrun s.ring.writeIdx readIdx) :
    RaceHolds { s with consumer := .jumping readIdx s.ring.writeIdx .overflowed } ∧
      (¬ Overrun s.ring.writeIdx readIdx →
        RaceHolds { s with consumer := .committing readIdx copy }) := by
  have hreader := h.reader
  have haccounted := h.accounted
  rw [hc] at hreader haccounted
  obtain ⟨hidx, event, hevent, hcopy⟩ := hreader
  refine ⟨{ h with reader := ⟨hidx, .inr rfl, _, h.taken_le, Nat.le_refl _, h.writeIdx⟩,
                   accounted := haccounted }, fun hnot => ?_⟩
  have hnear : s.ledger.emitted.length ≤ s.ledger.taken + ringBufferSize := by
    rw [hidx, overrun_of_lapped h] at hnot
    omega
  have hclean : s.torn = [] := by
    by_contra htorn
    exact hnot (hcaught htorn)
  have hwhole : copy = event := by
    refine VqmbtEvent.eq_of_get fun f => hcopy hnear f List.not_mem_nil ?_
    rw [hclean]
    exact List.not_mem_nil
  exact { h with reader := ⟨hidx, by rw [hwhole]; exact hevent⟩, accounted := haccounted }

theorem RaceHolds.commit {s : RingRace} {readIdx : UnsignedInt} {copy : VqmbtEvent}
    (h : RaceHolds s) (hc : s.consumer = .committing readIdx copy) :
    RaceHolds { s with
      ring := { s.ring with readIdx := readIdx + 1 }
      consumer := .exporting readIdx copy
      ledger := { s.ledger with taken := s.ledger.taken + 1 } } := by
  have hreader := h.reader
  have haccounted := h.accounted
  have hout : s.ledger.emitted.length - s.ledger.taken < 2 ^ 32 := h.bounded
  rw [hc] at hreader haccounted
  obtain ⟨hidx, hevent⟩ := hreader
  obtain ⟨hlt, _⟩ := List.getElem?_eq_some_iff.mp hevent
  have hseq : readIdx = seqIdx s.ledger.firstIdx s.ledger.taken := hidx.trans h.readIdx
  refine ⟨hlt, ?_, h.writeIdx, ?_, ⟨h.slots.entries, h.slots.stored⟩, ⟨_, rfl, hseq, hevent⟩,
    haccounted⟩
  · simp only [RingRace.outstanding]
    omega
  · simp only [hseq, seqIdx_succ]

theorem RaceHolds.deliver {s : RingRace} {readIdx : UnsignedInt} {copy : VqmbtEvent}
    (h : RaceHolds s) (hc : s.consumer = .exporting readIdx copy) :
    RaceHolds (s.finish (.delivered (s.ledger.taken - 1) readIdx copy)) := by
  have hreader := h.reader
  have haccounted := h.accounted
  rw [hc] at hreader haccounted
  obtain ⟨n, htaken, hseq, hevent⟩ := hreader
  simp only [ConsumerAt.nextSeq, htaken, Nat.add_sub_cancel] at haccounted
  refine ⟨h.taken_le, h.bounded, h.writeIdx, h.readIdx, ⟨h.slots.entries, h.slots.stored⟩,
    trivial, ?_⟩
  simp only [RingRace.finish, ConsumerAt.nextSeq, htaken, Nat.add_sub_cancel]
  exact haccounted.deliver hevent hseq

theorem raceHolds_consumer {s t : RingRace} {a : ReadStep} (hstep : consumerStep s a = some t)
    (hcopy : (RaceStep.consumer a).CopyOk) (hcaught : TornCaught ⟨s, .consumer a, t⟩)
    (h : RaceHolds s) : RaceHolds t := by
  have haccounted := h.accounted
  unfold consumerStep at hstep
  split at hstep
  · next hc =>
      rw [hc] at haccounted
      have hrefused : RaceHolds (s.finish .refused) :=
        { h with reader := trivial
                 accounted := haccounted.quiet rfl (Nat.le_refl _) haccounted.expected }
      split at hstep
      · cases hstep
        exact hrefused
      · split at hstep
        · cases hstep
          exact hrefused
        · cases hstep
          exact { h with reader := trivial, accounted := haccounted }
  · next hc =>
      rw [hc] at haccounted
      cases hstep
      exact { h with reader := rfl, accounted := haccounted }
  · next hc =>
      rw [hc] at haccounted
      simp only at hstep
      split at hstep
      · cases hstep
        exact { h with reader := trivial
                       accounted := haccounted.quiet rfl (Nat.le_refl _) haccounted.expected }
      · next hne =>
          obtain ⟨hflush, hover, hload⟩ := h.firstCheck hc hne
          split at hstep
          · cases hstep
            exact hflush
          · split at hstep
            · cases hstep
              exact hover
            · cases hstep
              exact hload
  · next hc =>
      cases hstep
      exact h.jump hc
  · next hc =>
      rw [hc] at haccounted
      split at hstep
      · cases hstep
        exact { h with reader := ReaderHolds.load h hc, accounted := haccounted }
      · cases hstep
  · next readIdx copy hc =>
      have hcaught : s.torn ≠ [] → Overrun s.ring.writeIdx readIdx := by
        simpa only [TornCaught, hc] using hcaught
      obtain ⟨hover, hcommit⟩ := h.secondCheck hc hcaught
      simp only at hstep
      split at hstep
      · cases hstep
        exact hover
      · next hnot =>
          cases hstep
          exact hcommit hnot
  · next hc =>
      cases hstep
      exact h.commit hc
  · next hc =>
      split at hstep
      · next hneg => exact absurd hneg (Int.not_lt.mpr hcopy)
      · cases hstep
        exact h.deliver hc
  · cases hstep

theorem reads_exact {past : List (Transition RingRace RaceStep)} {s : RingRace}
    (hrun : ringRace.Run past s) (hout : ∀ x ∈ past, x.after.outstanding < 2 ^ 32)
    (hcopy : ∀ x ∈ past, x.act.CopyOk) (hcaught : ∀ x ∈ past, TornCaught x) : s.ReadsExact := by
  have hinv : RaceHolds s := by
    refine hrun.invariant (P := fun x => x.after.outstanding < 2 ^ 32 ∧ x.act.CopyOk ∧
      TornCaught x) (fun _ => raceHolds_start) ?_
      (fun x hx => ⟨hout x hx, hcopy x hx, hcaught x hx⟩)
    intro s a t hstep ⟨hout, hcopy, hcaught⟩ h
    cases a with
    | producer a => exact raceHolds_producer hstep hout h
    | consumer a => exact raceHolds_consumer hstep hcopy hcaught h
  exact hinv.accounted.deliveries

def RingRace.boot : RingRace := ⟨⟨fun _ => .zeroed, 0, 0⟩, .idle, .idle, [], ⟨0, [], 0, []⟩⟩

theorem start_boot : ringRace.start .boot := ⟨rfl, rfl, rfl, rfl, rfl⟩

def emitSteps (event : VqmbtEvent) : List RaceStep :=
  [.producer (.emit (some event)), .producer .loadWriteIdx, .producer (.storeField .id),
    .producer (.storeField .mac0), .producer (.storeField .mac1), .producer .publish]

def readSteps : List RaceStep :=
  [.consumer (.read false 1), .consumer .loadReadIdx, .consumer .loadWriteIdx,
    .consumer (.loadField .id), .consumer (.loadField .mac0), .consumer (.loadField .mac1),
    .consumer .reloadWriteIdx, .consumer .commit, .consumer (.copyToUser 0)]

def interleaved : List RaceStep :=
  emitSteps ⟨.bluetoothEnabled, 0, 0⟩ ++
    [.producer (.emit (some ⟨.deviceConnectSuccess, 1, 2⟩)), .consumer (.read false 1),
      .producer .loadWriteIdx, .consumer .loadReadIdx, .producer (.storeField .id),
      .consumer .loadWriteIdx, .consumer (.loadField .id), .producer (.storeField .mac0),
      .consumer (.loadField .mac0), .producer (.storeField .mac1), .producer .publish,
      .consumer (.loadField .mac1), .consumer .reloadWriteIdx, .consumer .commit,
      .consumer (.copyToUser 0)] ++ readSteps

theorem interleaved_plays : (ringRace.play [] .boot interleaved).isSome := by decide +kernel

theorem reads_exact_interleaved :
    let s := (ringRace.played .boot interleaved interleaved_plays).2
    s.ledger.outcomes = [.delivered 1 1 ⟨.deviceConnectSuccess, 1, 2⟩,
      .delivered 0 0 ⟨.bluetoothEnabled, 0, 0⟩] ∧ s.ReadsExact :=
  ⟨by decide +kernel, reads_exact (Lts.run_played start_boot interleaved_plays)
    (by decide +kernel) (by decide +kernel) (by decide +kernel)⟩

def overtaken : List RaceStep :=
  (List.replicate ringBufferSize (emitSteps ⟨.deviceConnectSuccess, 1, 1⟩)).flatten ++
    [.producer (.emit (some ⟨.deviceDisconnected, 2, 2⟩)), .producer .loadWriteIdx,
      .producer (.storeField .id)] ++ readSteps

theorem overtaken_plays : (ringRace.play [] .boot overtaken).isSome := by decide +kernel

theorem reads_torn : ¬ ∀ (past : List (Transition RingRace RaceStep)) (s : RingRace),
    ringRace.Run past s → (∀ x ∈ past, x.after.outstanding < 2 ^ 32) →
      (∀ x ∈ past, x.act.CopyOk) → s.ReadsExact := by
  intro hall
  have hexact := hall _ _ (Lts.run_played start_boot overtaken_plays) (by decide +kernel)
    (by decide +kernel)
  have hmixed := (hexact.whole 0 0 ⟨.deviceDisconnected, 1, 1⟩ (by decide +kernel)).1
  exact absurd hmixed (by decide +kernel)

end VitaQmBluetooth
