import VitaQmBluetooth.Quickmenu.WakeUp

namespace VitaQmBluetooth

open Foundation

def ReaderPaced (ring : UmodRing) (b : Nat) : ConsumerAt → Prop
  | .idle | .called _ | .exporting _ _ => True
  | .loadedRead _ i => i = ring.readIdx
  | .jumping _ w _ => ∃ k, 0 < k ∧ k ≤ b ∧ w = seqIdx ring.readIdx k
  | .loading i _ _ | .committing i _ => i = ring.readIdx ∧ 0 < b

structure Paced (r : RingRace) (b : Nat) : Prop where
  backlog : r.ring.writeIdx = seqIdx r.ring.readIdx b
  reader : ReaderPaced r.ring b r.consumer
  producer : ∀ event w todo, r.producer = .storing event w todo → w = r.ring.writeIdx

def EmitStep.published : EmitStep → Nat
  | .publish => 1
  | _ => 0

def ReadStep.taken : ReadStep → Nat
  | .jump | .commit => 1
  | _ => 0

theorem paced_start {r : RingRace} (hproducer : r.producer = .idle)
    (hconsumer : r.consumer = .idle) :
    Paced r (r.ring.writeIdx - r.ring.readIdx).toNat where
  backlog := (seqIdx_reaches ..).symm
  reader := by
    rw [hconsumer]
    trivial
  producer := by simp [hproducer]

theorem ReaderPaced.grow {ring ring' : UmodRing} {b : Nat} {c : ConsumerAt}
    (h : ReaderPaced ring b c) (hread : ring'.readIdx = ring.readIdx) (n : Nat) :
    ReaderPaced ring' (b + n) c := by
  cases c with
  | loadedRead numEvents i => exact h.trans hread.symm
  | jumping i w outcome =>
      obtain ⟨k, hpos, hle, hw⟩ := h
      exact ⟨k, hpos, by omega, by rw [hw, hread]⟩
  | loading i copy todo => exact ⟨h.1.trans hread.symm, by have := h.2; omega⟩
  | committing i copy => exact ⟨h.1.trans hread.symm, by have := h.2; omega⟩
  | _ => trivial

theorem paced_producer {r t : RingRace} {a : EmitStep} {b : Nat} (h : Paced r b)
    (hs : producerStep r a = some t) : Paced t (b + a.published) := by
  unfold producerStep at hs
  split at hs
  · cases hs
    exact h
  · split at hs
    · cases hs
      exact h
    · cases hs
      exact ⟨h.backlog, h.reader, by simp⟩
  · cases hs
    refine ⟨h.backlog, h.reader, ?_⟩
    intro event w todo hp
    cases hp
    rfl
  · next event w todo f hproducer =>
      split at hs
      · cases hs
        refine ⟨h.backlog, h.reader.grow rfl 0, ?_⟩
        intro event' w' todo' hp
        cases hp
        exact h.producer event w todo hproducer
      · cases hs
  · next event w hproducer =>
      cases hs
      refine ⟨?_, h.reader.grow rfl 1, by simp⟩
      rw [h.producer event w [] hproducer, h.backlog]
      exact seqIdx_succ _ _
  · cases hs

theorem seqIdx_rest (base : UnsignedInt) {k b : Nat} (h : k ≤ b) :
    seqIdx (seqIdx base k) (b - k) = seqIdx base b := by
  obtain ⟨d, rfl⟩ := Nat.exists_eq_add_of_le h
  simp only [seqIdx, BitVec.ofNat_add, Nat.add_sub_cancel_left, add_assoc]

theorem Paced.waits {r : RingRace} {b : Nat} (h : Paced r b)
    (hne : r.ring.readIdx ≠ r.ring.writeIdx) : 0 < b := by
  rcases Nat.eq_zero_or_pos b with rfl | hpos
  · exact absurd (h.backlog.trans (seqIdx_zero _)).symm hne
  · exact hpos

theorem paced_consumer {r t : RingRace} {a : ReadStep} {b : Nat} (h : Paced r b)
    (hs : consumerStep r a = some t) : ∃ b', Paced t b' ∧ b' + a.taken ≤ b := by
  have hreader := h.reader
  have hsame {c : ConsumerAt} {torn : List EventField} {ledger : Ledger}
      (hc : ReaderPaced r.ring b c) :
      ∃ b', Paced ⟨r.ring, r.producer, c, torn, ledger⟩ b' ∧ b' + 0 ≤ b :=
    ⟨b, ⟨h.backlog, hc, h.producer⟩, Nat.le_refl _⟩
  unfold consumerStep at hs
  split at hs
  · split at hs
    · cases hs
      exact hsame trivial
    · split at hs
      · cases hs
        exact hsame trivial
      · cases hs
        exact hsame trivial
  · cases hs
    exact hsame rfl
  · next n i hc =>
      rw [hc] at hreader
      obtain rfl : i = r.ring.readIdx := hreader
      simp only at hs
      split at hs
      · cases hs
        exact hsame trivial
      next hne =>
        have hjump : ∃ k, 0 < k ∧ k ≤ b ∧ r.ring.writeIdx = seqIdx r.ring.readIdx k :=
          ⟨b, h.waits hne, Nat.le_refl _, h.backlog⟩
        split at hs
        · cases hs
          exact hsame hjump
        · split at hs
          · cases hs
            exact hsame hjump
          · cases hs
            exact hsame ⟨rfl, h.waits hne⟩
  · next i w outcome hc =>
      rw [hc] at hreader
      obtain ⟨k, hpos, hle, hw⟩ := hreader
      cases hs
      refine ⟨b - k, ⟨?_, trivial, h.producer⟩, ?_⟩
      · exact (h.backlog.trans (seqIdx_rest _ hle).symm).trans (by rw [hw]; rfl)
      · simp only [ReadStep.taken]
        omega
  · next i copy todo f hc =>
      rw [hc] at hreader
      split at hs
      · cases hs
        exact hsame hreader
      · cases hs
  · next i copy hc =>
      rw [hc] at hreader
      obtain ⟨rfl, hpos⟩ := hreader
      simp only at hs
      split at hs
      · cases hs
        exact hsame ⟨b, hpos, Nat.le_refl _, h.backlog⟩
      · cases hs
        exact hsame ⟨rfl, hpos⟩
  · next i copy hc =>
      rw [hc] at hreader
      obtain ⟨rfl, hpos⟩ := hreader
      cases hs
      refine ⟨b - 1, ⟨?_, trivial, h.producer⟩, ?_⟩
      · refine h.backlog.trans ((seqIdx_rest _ (k := 1) hpos).symm.trans ?_)
        rw [← seqIdx_succ, seqIdx_zero]
      · simp only [ReadStep.taken]
        omega
  · split at hs
    · cases hs
      exact hsame trivial
    · cases hs
      exact hsame trivial
  · cases hs

theorem thread_consumer_step {s t : LoopSystem} {a : ReadStep}
    (h : loopThreadStep s (.consumer a) = some t) : consumerStep s.race a = some t.race := by
  have hconsume (h : s.consume a = some t) : consumerStep s.race a = some t.race := by
    simp only [LoopSystem.consume, Option.map_eq_some_iff] at h
    obtain ⟨race, hrace, rfl⟩ := h
    exact hrace
  cases hthread : s.thread with
  | flushing starting =>
      cases a with
      | read _ _ => simp [loopThreadStep, hthread] at h
      | _ => exact hconsume (by simpa only [loopThreadStep, hthread] using h)
  | reading =>
      cases a with
      | read _ _ => simp [loopThreadStep, hthread] at h
      | _ => exact hconsume (by simpa only [loopThreadStep, hthread] using h)
  | _ => simp [loopThreadStep, hthread] at h

structure Prices where
  read : Nat
  flush : Nat
  other : Nat

namespace Prices

variable (p : Prices)

def cost : LoopStep → Nat
  | .producer _ | .setFlag _ => 0
  | .beginRead => p.read
  | .beginFlush => p.flush
  | _ => p.other

def check : Nat := p.read + 4 * p.other

def event : Nat := p.read + p.flush + 15 * p.other

def gain : LoopStep → Nat
  | .producer .publish => p.event + p.check
  | .timeout => p.check
  | _ => 0

def afterReset (starting : Bool) : Nat :=
  if starting = true then 3 * p.other else p.read + 4 * p.other

@[simp] theorem afterReset_starting : p.afterReset true = 3 * p.other := rfl

@[simp] theorem afterReset_fetching : p.afterReset false = p.read + 4 * p.other := rfl

def owed : LoopAt → ConsumerAt → Nat
  | .resetting starting, _ => p.flush + 6 * p.other + p.afterReset starting
  | .flushing starting, .loadedRead _ _ => 5 * p.other + p.afterReset starting
  | .flushing starting, .jumping _ _ _ => 4 * p.other + p.afterReset starting
  | .flushing starting, _ => 6 * p.other + p.afterReset starting
  | .readingBluetooth starting, _ => 3 * p.other + p.afterReset starting
  | .readingDevices starting _, _ => 2 * p.other + p.afterReset starting
  | .applying starting _, _ => p.other + p.afterReset starting
  | .gettingFlag, _ => 3 * p.other
  | .looping, _ => 2 * p.other
  | .waiting, _ => p.other
  | .fetching, _ => p.read + 4 * p.other
  | .reading, .called _ => 4 * p.other
  | .reading, .loadedRead _ _ => 3 * p.other
  | .reading, .jumping _ _ _ => p.read + p.flush + 11 * p.other
  | .reading, .loading _ _ todo => p.read + p.flush + 14 * p.other + todo.length * p.other
  | .reading, .committing _ _ => p.read + p.flush + 13 * p.other
  | .reading, .exporting _ _ => p.read + p.flush + 12 * p.other
  | .handling _, _ => p.read + p.flush + 11 * p.other
  | .reading, .idle | .ended, _ => 0

end Prices

def ConsumerAt.inHand : ConsumerAt → Nat
  | .jumping _ _ _ | .loading _ _ _ | .committing _ _ => 1
  | _ => 0

def Prices.stored (p : Prices) (s : LoopSystem) (b : Nat) : Nat :=
  p.owed s.thread s.race.consumer + p.event * (b - s.race.consumer.inHand) +
    (if s.flag = true then p.check else 0) + (if s.signalling = true then p.check else 0)

structure KeepsPace (s : LoopSystem) (b : Nat) : Prop where
  paced : Paced s.race b
  fits : CallFits s.thread s.race.consumer

theorem Paced.inHand {r : RingRace} {b : Nat} (h : Paced r b) : r.consumer.inHand ≤ b := by
  have hreader := h.reader
  cases hc : r.consumer with
  | jumping i w outcome =>
      rw [hc] at hreader
      obtain ⟨k, hpos, hle, _⟩ := hreader
      exact Nat.le_trans hpos hle
  | loading i copy todo =>
      rw [hc] at hreader
      exact hreader.2
  | committing i copy =>
      rw [hc] at hreader
      exact hreader.2
  | _ => exact Nat.zero_le b

theorem pace_emitter (p : Prices) {eventFlagUid : Int} {s t : LoopSystem} {a : LoopStep} {b : Nat}
    (h : emitterStep eventFlagUid s a = some t) (hs : KeepsPace s b) :
    ∃ b', KeepsPace t b' ∧ p.cost a + p.stored t b' ≤ p.gain a + p.stored s b := by
  obtain ⟨hthread, _, hconsumer, _⟩ := emitter_frame h
  have hfits : CallFits t.thread t.race.consumer := by
    rw [hthread, hconsumer]
    exact hs.fits
  unfold emitterStep at h
  split at h
  · next e =>
      split at h
      · cases h
      · next hquiet =>
          simp only [Option.map_eq_some_iff] at h
          obtain ⟨race, hrace, rfl⟩ := h
          refine ⟨b + e.published, ⟨paced_producer hs.paced hrace, hfits⟩, ?_⟩
          have hsame : race.consumer = s.race.consumer := hconsumer
          have hin := hs.paced.inHand
          cases e with
          | publish =>
              have hmore : b + 1 - s.race.consumer.inHand = b - s.race.consumer.inHand + 1 := by
                omega
              have hone (c : Bool) : (if c = true then p.check else 0) ≤ p.check := by
                split <;> omega
              have hflag := hone (decide (eventFlagUid ≥ 0))
              simp only [Prices.stored, Prices.cost, Prices.gain, EmitStep.published, hsame,
                hmore, Nat.mul_succ]
              omega
          | _ =>
              simp only [Prices.stored, Prices.cost, Prices.gain, EmitStep.published, hsame,
                hquiet]
              exact Nat.le_refl _
  · next ret =>
      split at h
      · next hsignalling =>
          cases h
          refine ⟨b, ⟨hs.paced, hfits⟩, ?_⟩
          simp only [Prices.stored, Prices.cost, Prices.gain, hsignalling]
          split <;> split <;> simp_all
      · cases h
  · cases h

theorem Prices.spend (p : Prices) {b b' : Nat} (d : Nat) (h : b' + d ≤ b) :
    p.event * b' + p.event * d ≤ p.event * b := by
  rw [← Nat.mul_add]
  exact Nat.mul_le_mul_left _ h

theorem field_loaded {r t : RingRace} {f : EventField} {i : UnsignedInt} {copy : VqmbtEvent}
    {todo : List EventField} (h : consumerStep r (.loadField f) = some t)
    (hc : r.consumer = .loading i copy todo) :
    ∃ copy' todo', t.consumer = .loading i copy' todo' ∧ todo'.length < todo.length := by
  simp only [consumerStep, hc] at h
  split at h
  · next hmem =>
      cases h
      refine ⟨_, _, rfl, ?_⟩
      rw [List.length_filter_lt_length_iff_exists]
      exact ⟨f, hmem, by simp⟩
  · cases h

theorem pace_flush (p : Prices) {ring ring' : UmodRing} {c c' : ConsumerAt} {a : ReadStep}
    {done : Option ReadOutcome} {starting : Bool} {b b' : Nat}
    (h : CallStep ring c a ring' c' done) (hfits : CallFits (.flushing starting) c)
    (hin : c'.inHand ≤ b') (htaken : b' + a.taken ≤ b) :
    p.other + p.owed ((LoopAt.flushing starting).afterStep done) c' +
        p.event * (b' - c'.inHand) ≤
      p.owed (.flushing starting) c + p.event * (b - c.inHand) := by
  cases h with
  | readIdx =>
      have hkeep := p.spend 0 (show b' - 0 + 0 ≤ b - 0 by omega)
      simp only [LoopAt.afterStep, Prices.owed, ConsumerAt.inHand]
      omega
  | empty =>
      have hkeep := p.spend 0 (show b' - 0 + 0 ≤ b - 0 by omega)
      simp only [LoopAt.afterStep, LoopAt.afterCall, Prices.owed, ConsumerAt.inHand]
      omega
  | flush _ =>
      have hless := p.spend 0 (show b' - 1 + 0 ≤ b - 0 by omega)
      simp only [LoopAt.afterStep, Prices.owed, ConsumerAt.inHand]
      omega
  | overrun hread => exact absurd hfits hread
  | load hread => exact absurd hfits hread
  | jump =>
      have hkeep := p.spend 0 (show b' - 0 + 0 ≤ b - 1 from Nat.le_sub_of_add_le htaken)
      simp only [LoopAt.afterStep, LoopAt.afterCall, Prices.owed, ConsumerAt.inHand]
      omega
  | _ => exact hfits.elim

theorem afterCall_empty : LoopAt.reading.afterCall .empty = .looping := by
  simp [LoopAt.afterCall, ReadOutcome.reply, fetchNext, VqmbtError.code]

theorem afterCall_overflowed : LoopAt.reading.afterCall .overflowed = .resetting false := by
  simp [LoopAt.afterCall, ReadOutcome.reply, fetchNext]

theorem afterCall_exportFailed : LoopAt.reading.afterCall .exportFailed = .looping := by
  simp [LoopAt.afterCall, ReadOutcome.reply, fetchNext, VqmbtError.code]

theorem afterCall_delivered (seq : Nat) (readIdx : UnsignedInt) (event : VqmbtEvent) :
    LoopAt.reading.afterCall (.delivered seq readIdx event) = .handling event := by
  simp only [LoopAt.afterCall, ReadOutcome.reply, fetchNext_event]

theorem pace_read (p : Prices) {ring ring' : UmodRing} {c c' : ConsumerAt} {a : ReadStep}
    {done : Option ReadOutcome} {b b' : Nat} (h : CallStep ring c a ring' c' done)
    (hfits : CallFits .reading c) (hin : c'.inHand ≤ b') (htaken : b' + a.taken ≤ b)
    (hfield : ∀ f i copy todo, a = .loadField f → c = .loading i copy todo →
      ∃ copy' todo', c' = .loading i copy' todo' ∧ todo'.length < todo.length) :
    p.other + p.owed (LoopAt.reading.afterStep done) c' + p.event * (b' - c'.inHand) ≤
      p.owed .reading c + p.event * (b - c.inHand) := by
  have hevent : p.event = p.read + p.flush + 15 * p.other := rfl
  have hfree : b' - 0 + 0 ≤ b - 0 := by omega
  have hpaid : b' - 1 + 0 ≤ b - 1 := by omega
  have hnext (hpos : 1 ≤ b') : b' - 1 + 1 ≤ b - 0 := by omega
  cases h with
  | readIdx =>
      have hkeep := p.spend 0 hfree
      simp only [LoopAt.afterStep, Prices.owed, ConsumerAt.inHand]
      omega
  | empty =>
      have hkeep := p.spend 0 hfree
      simp only [LoopAt.afterStep, afterCall_empty, Prices.owed, ConsumerAt.inHand]
      omega
  | flush hflush =>
      have hone : (_ : Int) = 1 := hfits
      omega
  | overrun _ =>
      have hspent := p.spend 1 (hnext hin)
      simp only [LoopAt.afterStep, Prices.owed, ConsumerAt.inHand]
      omega
  | load _ =>
      have hspent := p.spend 1 (hnext hin)
      simp only [LoopAt.afterStep, Prices.owed, ConsumerAt.inHand, eventFields, List.length]
      omega
  | field =>
      obtain ⟨copy', todo', hc, hlt⟩ := hfield _ _ _ _ rfl rfl
      cases hc
      have hkeep := p.spend 0 hpaid
      have hload := Nat.mul_le_mul_right p.other hlt
      rw [Nat.succ_mul] at hload
      simp only [LoopAt.afterStep, Prices.owed, ConsumerAt.inHand]
      omega
  | overtaken =>
      have hkeep := p.spend 0 hpaid
      simp only [LoopAt.afterStep, Prices.owed, ConsumerAt.inHand, List.length]
      omega
  | checked =>
      have hkeep := p.spend 0 hpaid
      simp only [LoopAt.afterStep, Prices.owed, ConsumerAt.inHand, List.length]
      omega
  | jump =>
      obtain rfl : _ = ReadOutcome.overflowed := hfits
      have hkeep := p.spend 0 (show b' - 0 + 0 ≤ b - 1 from Nat.le_sub_of_add_le htaken)
      simp only [LoopAt.afterStep, afterCall_overflowed, Prices.owed, Prices.afterReset_fetching,
        ConsumerAt.inHand]
      omega
  | commit =>
      have hkeep := p.spend 0 (show b' - 0 + 0 ≤ b - 1 from Nat.le_sub_of_add_le htaken)
      simp only [LoopAt.afterStep, Prices.owed, ConsumerAt.inHand]
      omega
  | exportFails _ =>
      have hkeep := p.spend 0 hfree
      simp only [LoopAt.afterStep, afterCall_exportFailed, Prices.owed, ConsumerAt.inHand]
      omega
  | deliver _ =>
      have hkeep := p.spend 0 hfree
      simp only [LoopAt.afterStep, afterCall_delivered, Prices.owed, ConsumerAt.inHand]
      omega

theorem owed_afterReset (p : Prices) (starting : Bool) (c : ConsumerAt) :
    p.owed (.afterReset starting) c = p.afterReset starting := by
  cases starting <;> rfl

theorem stored_round {p : Prices} {s t : LoopSystem} {a : LoopStep} (b : Nat)
    (hrace : t.race = s.race) (hflag : t.flag = s.flag) (hsignalling : t.signalling = s.signalling)
    (hpaid : p.cost a + p.owed t.thread s.race.consumer ≤
      p.gain a + p.owed s.thread s.race.consumer) :
    p.cost a + p.stored t b ≤ p.gain a + p.stored s b := by
  simp only [Prices.stored, hrace, hflag, hsignalling]
  omega

theorem pace_call (p : Prices) {s : LoopSystem} {a : ReadStep} {race : RingRace}
    {done : Option ReadOutcome} {b : Nat} (hrace : consumerStep s.race a = some race)
    (hcall : s.thread.InCall)
    (hstep : CallStep s.race.ring s.race.consumer a race.ring race.consumer done)
    (hs : KeepsPace s b) :
    ∃ b', Paced race b' ∧
      p.other + p.owed (s.thread.afterStep done) race.consumer +
        p.event * (b' - race.consumer.inHand) ≤
      p.owed s.thread s.race.consumer + p.event * (b - s.race.consumer.inHand) := by
  obtain ⟨b', hpaced, htaken⟩ := paced_consumer hs.paced hrace
  refine ⟨b', hpaced, ?_⟩
  have hin := hpaced.inHand
  have hfits := hs.fits
  cases hthread : s.thread with
  | flushing starting =>
      rw [hthread] at hfits
      exact pace_flush p hstep hfits hin htaken
  | reading =>
      rw [hthread] at hfits
      refine pace_read p hstep hfits hin htaken ?_
      rintro f i copy todo rfl hc
      exact field_loaded hrace hc
  | _ => exact absurd hcall (by rw [hthread]; exact id)

theorem pace_thread (p : Prices) {s t : LoopSystem} {a : LoopStep} {b : Nat}
    (h : loopThreadStep s a = some t) (hs : KeepsPace s b) :
    ∃ b', KeepsPace t b' ∧ p.cost a + p.stored t b' ≤ p.gain a + p.stored s b := by
  have hmove := thread_move h
  have hfits := callFits_move hmove hs.fits
  have hcalled (n : Int) : Paced { s.race with consumer := .called n } b :=
    ⟨hs.paced.backlog, trivial, hs.paced.producer⟩
  cases hmove with
  | beginFlush hthread hidle =>
      refine ⟨b, ⟨hcalled 0, hfits⟩, ?_⟩
      simp only [Prices.stored, Prices.cost, Prices.gain, Prices.owed, hthread, hidle,
        ConsumerAt.inHand]
      omega
  | beginRead hthread hidle =>
      refine ⟨b, ⟨hcalled 1, hfits⟩, ?_⟩
      simp only [Prices.stored, Prices.cost, Prices.gain, Prices.owed, hthread, hidle,
        ConsumerAt.inHand]
      omega
  | @call a race done hcall hstep =>
      have hrace : consumerStep s.race a = some race := thread_consumer_step h
      obtain ⟨b', hpaced, hpaid⟩ := pace_call p hrace hcall hstep hs
      refine ⟨b', ⟨hpaced, hfits⟩, ?_⟩
      simp only [Prices.stored, Prices.cost, Prices.gain]
      omega
  | bluetoothState hthread =>
      refine ⟨b, ⟨hs.paced, hfits⟩, stored_round b rfl rfl rfl ?_⟩
      simp only [Prices.cost, Prices.gain, Prices.owed, hthread]
      omega
  | pairedDevices hthread =>
      refine ⟨b, ⟨hs.paced, hfits⟩, stored_round b rfl rfl rfl ?_⟩
      simp only [Prices.cost, Prices.gain, Prices.owed, hthread]
      omega
  | pairedFails hthread =>
      refine ⟨b, ⟨hs.paced, hfits⟩, stored_round b rfl rfl rfl ?_⟩
      rw [owed_afterReset, hthread]
      simp only [Prices.cost, Prices.gain, Prices.owed]
      omega
  | apply hthread =>
      refine ⟨b, ⟨hs.paced, hfits⟩, stored_round b rfl rfl rfl ?_⟩
      rw [owed_afterReset, hthread]
      simp only [Prices.cost, Prices.gain, Prices.owed]
      omega
  | getFlag hthread =>
      refine ⟨b, ⟨hs.paced, hfits⟩, stored_round b rfl rfl rfl ?_⟩
      rw [hthread]
      split
      · simp only [Prices.cost, Prices.gain, Prices.owed]
        omega
      · simp only [Prices.cost, Prices.gain, Prices.owed]
        omega
  | loopHead hthread =>
      refine ⟨b, ⟨hs.paced, hfits⟩, stored_round b rfl rfl rfl ?_⟩
      rw [hthread]
      split
      · simp only [Prices.cost, Prices.gain, Prices.owed]
        omega
      · simp only [Prices.cost, Prices.gain, Prices.owed]
        omega
  | wake hthread hflag =>
      refine ⟨b, ⟨hs.paced, hfits⟩, ?_⟩
      simp only [Prices.stored, Prices.cost, Prices.gain, Prices.owed, Prices.check, hthread, hflag,
        if_true, Bool.false_eq_true, if_false]
      omega
  | timeout hthread =>
      refine ⟨b, ⟨hs.paced, hfits⟩, stored_round b rfl rfl rfl ?_⟩
      simp only [Prices.cost, Prices.gain, Prices.check, Prices.owed, hthread]
      omega
  | waitFails hthread =>
      refine ⟨b, ⟨hs.paced, hfits⟩, stored_round b rfl rfl rfl ?_⟩
      simp only [Prices.cost, Prices.gain, Prices.owed, hthread]
      omega
  | handled hthread =>
      refine ⟨b, ⟨hs.paced, hfits⟩, stored_round b rfl rfl rfl ?_⟩
      simp only [Prices.cost, Prices.gain, Prices.owed, hthread]
      omega
  | handledReset hthread =>
      refine ⟨b, ⟨hs.paced, hfits⟩, stored_round b rfl rfl rfl ?_⟩
      simp only [Prices.cost, Prices.gain, Prices.owed, Prices.afterReset_fetching, hthread]
      omega

namespace LoopStep

def published : LoopStep → Nat
  | .producer a => a.published
  | _ => 0

def timedOut : LoopStep → Nat
  | .timeout => 1
  | _ => 0

def readCalls : LoopStep → Nat
  | .beginRead => 1
  | _ => 0

def flushCalls : LoopStep → Nat
  | .beginFlush => 1
  | _ => 0

def ofThread : LoopStep → Nat
  | .producer _ | .setFlag _ => 0
  | _ => 1

end LoopStep

def UmodRing.numWaiting (ring : UmodRing) : Nat := (ring.writeIdx - ring.readIdx).toNat

theorem gain_linear (p : Prices) :
    p.gain = fun a => (p.event + p.check) * a.published + p.check * a.timedOut := by
  funext a
  cases a with
  | producer e =>
      cases e <;> simp [Prices.gain, LoopStep.published, EmitStep.published, LoopStep.timedOut]
  | _ => simp [Prices.gain, LoopStep.published, LoopStep.timedOut]

theorem pace_step (p : Prices) {eventFlagUid : Int} {s t : LoopSystem} {a : LoopStep} {n : Nat}
    (h : (eventLoop eventFlagUid).step s a = some t)
    (hs : ∃ b, KeepsPace s b ∧ p.stored s b = n) :
    ∃ n', (∃ b, KeepsPace t b ∧ p.stored t b = n') ∧ p.cost a + n' ≤ p.gain a + n := by
  obtain ⟨b, hs, rfl⟩ := hs
  simp only [eventLoop, Option.or_eq_some_iff] at h
  rcases h with hemit | ⟨_, hthread⟩
  · obtain ⟨b', ht, hpaid⟩ := pace_emitter p hemit hs
    exact ⟨_, ⟨b', ht, rfl⟩, hpaid⟩
  · obtain ⟨b', ht, hpaid⟩ := pace_thread p hthread hs
    exact ⟨_, ⟨b', ht, rfl⟩, hpaid⟩

theorem keepsPace_origin {eventFlagUid : Int} {past : List (Transition LoopSystem LoopStep)}
    {s : LoopSystem} (hrun : (eventLoop eventFlagUid).Run past s)
    (hquiet : (Lts.origin past s).race.producer = .idle) :
    KeepsPace (Lts.origin past s) (Lts.origin past s).race.ring.numWaiting := by
  obtain ⟨hidle, hthread, _⟩ := hrun.origin_start
  refine ⟨paced_start hquiet hidle, ?_⟩
  rw [hthread, hidle]
  rfl

theorem loop_amortized (p : Prices) {eventFlagUid : Int}
    {past : List (Transition LoopSystem LoopStep)} {s : LoopSystem}
    (hrun : (eventLoop eventFlagUid).Run past s)
    (hquiet : (Lts.origin past s).race.producer = .idle) :
    Lts.total p.cost past ≤
      (p.event + p.check) * Lts.total LoopStep.published past +
      p.check * Lts.total LoopStep.timedOut past +
      p.event * (Lts.origin past s).race.ring.numWaiting +
      (2 * p.check + p.flush + 9 * p.other) := by
  have hstart := keepsPace_origin hrun hquiet
  obtain ⟨n, -, hpaid⟩ := hrun.amortized (fun _ _ _ _ => pace_step p) ⟨_, hstart, rfl⟩
  rw [gain_linear, Lts.total_linear] at hpaid
  have hone (c : Bool) : (if c = true then p.check else 0) ≤ p.check := by
    split <;> omega
  have hflag := hone (Lts.origin past s).flag
  have hsignalling := hone (Lts.origin past s).signalling
  obtain ⟨hidle, hthread, _⟩ := hrun.origin_start
  simp only [Prices.stored, hidle, hthread, ConsumerAt.inHand, Prices.owed,
    Prices.afterReset_starting, Nat.sub_zero] at hpaid
  omega

theorem event_thread_pace {eventFlagUid : Int}
    {past : List (Transition LoopSystem LoopStep)} {s : LoopSystem}
    (hrun : (eventLoop eventFlagUid).Run past s)
    (hquiet : (Lts.origin past s).race.producer = .idle) :
    let published := Lts.total LoopStep.published past
    let timeouts := Lts.total LoopStep.timedOut past
    let waiting := (Lts.origin past s).race.ring.numWaiting
    Lts.total LoopStep.readCalls past ≤ 2 * published + waiting + timeouts + 2 ∧
      Lts.total LoopStep.flushCalls past ≤ published + waiting + 1 ∧
      Lts.total LoopStep.ofThread past ≤ 22 * published + 17 * waiting + 5 * timeouts + 20 := by
  have hreads := loop_amortized ⟨1, 0, 0⟩ hrun hquiet
  have hflushes := loop_amortized ⟨0, 1, 0⟩ hrun hquiet
  have hsteps := loop_amortized ⟨1, 1, 1⟩ hrun hquiet
  have hread : Prices.cost ⟨1, 0, 0⟩ = LoopStep.readCalls := by
    funext a
    cases a <;> rfl
  have hflush : Prices.cost ⟨0, 1, 0⟩ = LoopStep.flushCalls := by
    funext a
    cases a <;> rfl
  have hthread : Prices.cost ⟨1, 1, 1⟩ = LoopStep.ofThread := by
    funext a
    cases a <;> rfl
  simp only [hread, Prices.event, Prices.check] at hreads
  simp only [hflush, Prices.event, Prices.check] at hflushes
  simp only [hthread, Prices.event, Prices.check] at hsteps
  refine ⟨?_, ?_, ?_⟩ <;> omega

theorem event_thread_pace_woken :
    let past := ((eventLoop 7).played (.boot ⟨fun _ => .zeroed, 0, 0⟩)
      (opening ++ emission ++ draining) woken_plays).1
    Lts.total LoopStep.readCalls past ≤ 4 ∧ Lts.total LoopStep.flushCalls past ≤ 2 ∧
      Lts.total LoopStep.ofThread past ≤ 42 :=
  event_thread_pace (Lts.run_played (start_loop 7 _) woken_plays) (by decide +kernel)

end VitaQmBluetooth
