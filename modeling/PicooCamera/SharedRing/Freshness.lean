import PicooCamera.SharedRing.Lookup

/-!
# What the ring owes a consumer

A call owes a frame if one of its generation has been published, and one that is
no older than any that its consumer was shown. As long as the producer leaves
each call a slot to pay with, every call pays.
-/

namespace PicooCamera.SharedRing

open PicooCamera.Library PicooCamera.Library.TransitionSystem RingMemory

variable {capacity : FrameCapacity} {m m' : RingMemory} {s t : RingState}

/-! ## Debts -/

/-- The sequence of the frame that a call returned. -/
def shown : ReaderState → Option Nat
  | .holding view | .dropped view => some view.sequence
  | _ => none

/-- One of the first `count` calls of the producer to return published a frame of the generation
that is current. -/
def PublishedBy (s : RingState) (count : Nat) : Prop :=
  ∃ entry ∈ publishedAnswers (s.answers.take count),
    entry.1.generation = s.memory.contentGeneration

/-- A call of the consumer that is before number `k`, and that began in the generation that is
current, returned the frame. -/
def ShownBefore (s : RingState) (consumer k sequence : Nat) : Prop :=
  ∃ j, j < k ∧ ∃ call, s.readers[j]? = some call ∧ call.consumer = consumer ∧
    call.began.contentGeneration = s.memory.contentGeneration ∧ shown call.state = some sequence

/-- A call that stands where `r` says owes a frame of the sequence or a newer one. The second case
is that of a call that has yet to begin. -/
inductive Owes (s : RingState) : ReaderState → Nat → Prop
  | call (k : Nat) (call : ReaderCall) (sequence : Nat) (hk : s.readers[k]? = some call)
      (hbusy : Ring.returned call.state = false)
      (hbegan : call.began.contentGeneration = s.memory.contentGeneration)
      (h : PublishedBy s call.answered ∧ sequence = 0 ∨
        ShownBefore s call.consumer k sequence) : Owes s call.state sequence
  | next (consumer sequence : Nat)
      (h : PublishedBy s s.answers.length ∧ sequence = 0 ∨
        ShownBefore s consumer s.readers.length sequence) : Owes s .loadGeneration sequence

/-- The call comes across a frame of the sequence or a newer one in the slot. -/
structure Pays (m : RingMemory) (r : ReaderState) (sequence i : Nat) : Prop where
  readable : Readable m i
  counts : CountsOn m r i
  recent : sequence ≤ (m.slots i).sequence

/-- What a consumer sees of the frames of one generation. -/
structure FreshnessContract (s : RingState) : Prop where
  /-- The frames that a consumer is shown do not become older. -/
  ordered : ∀ (j k : Nat) (call next : ReaderCall), j < k → s.readers[j]? = some call → s.readers[k]? = some next →
    next.consumer = call.consumer →
    call.began.contentGeneration = s.memory.contentGeneration →
    next.began.contentGeneration = s.memory.contentGeneration →
    ∀ first second, shown call.state = some first → shown next.state = some second →
      first ≤ second
  /-- A call that began behind a frame of the generation finds a frame. -/
  found : ∀ call ∈ s.readers, call.began.contentGeneration = s.memory.contentGeneration →
    PublishedBy s call.answered → call.state ≠ .returnedNone

/-- The step takes no call the last slot that it could pay with. -/
structure Spares (s : RingState) (step : RingStep) : Prop where
  claim : step = .producer → ∀ a start offset, s.producer = .claim a start offset →
    (s.memory.slots ((start + offset) % ringSlotCount)).readerCount = 0 →
    ∀ r sequence, Owes s r sequence →
      ∃ i, i ≠ (start + offset) % ringSlotCount ∧ Pays s.memory r sequence i
  /-- The sequence is not exhausted. -/
  sequence : step = .producer → ∀ a index, s.producer = .loadLatest a index →
    s.memory.latestSequence + 1 < 2 ^ 64
  /-- The lease is not the last that the counter has room for. -/
  room : ∀ (k : Nat) (spurious : Bool) (call : ReaderCall), step = .reader k spurious → s.readers[k]? = some call →
    ∀ index sequence rest lease, call.state = .takeLease index sequence rest lease →
      lease + 1 < writerLease - 1

/-! ## The invariant -/

/-- The frame that the producer is about to announce. -/
def Announced (m : RingMemory) : ProducerState → Prop
  | .storeGeneration _ _ sequence | .storeSequence _ _ sequence | .storeReady _ _ sequence =>
      sequence ≠ 0
  | .storeLease a index sequence | .storeLatest a index sequence => sequence ≠ 0 ∧
      (m.slots index).readyState = .done ∧ (m.slots index).sequence = sequence ∧
        (m.slots index).contentGeneration = a.generation
  | .storeWriteIndex a index sequence => sequence ≠ 0 ∧
      (m.slots index).readyState = .done ∧ (m.slots index).sequence = sequence ∧
        (m.slots index).contentGeneration = a.generation ∧ m.latestSequence = sequence
  | _ => True

structure Fresh (s : RingState) : Prop extends FreshnessContract s where
  paid : ∀ r sequence, Owes s r sequence → ∃ i, Pays s.memory r sequence i
  started : ∀ r sequence, Owes s r sequence → s.memory.latestSequence ≠ 0
  roomy : ∀ i, owned s.producer ≠ some i → (s.memory.slots i).readerCount < writerLease - 1
  announced : Announced s.memory s.producer
  lookups : ∀ call ∈ s.readers, Ordered call.state ∧ Listed call.state
  past : ∀ call ∈ s.readers, pastLatest call.state = true → s.memory.latestSequence ≠ 0
  loaded : ∀ call ∈ s.readers, ∀ index sequence rest active,
    call.state = .loadContentGeneration index sequence rest active →
      Upto active s.memory.contentGeneration
  counted : ∀ call ∈ s.readers, call.answered ≤ s.answers.length
  /-- A consumer makes one call after the other. -/
  sequential : ∀ (j k : Nat) (call next : ReaderCall), j < k → s.readers[j]? = some call → s.readers[k]? = some next →
    next.consumer = call.consumer → Ring.returned call.state = true

/-! ## What a slot pays -/

theorem Readable.congr {i : Nat} (h : Readable m i)
    (hsame : SameContent (m'.slots i) (m.slots i))
    (hgeneration : m'.contentGeneration = m.contentGeneration)
    (hroom : (m'.slots i).readerCount < writerLease - 1) : Readable m' i where
  inRange := h.inRange
  done := hsame.readyState.trans h.done
  sequence := by
    rw [hsame.sequence]
    exact h.sequence
  generation := by
    rw [hsame.contentGeneration, hgeneration]
    exact h.generation
  nonzero := by
    rw [hgeneration]
    exact h.nonzero
  room := hroom

theorem CountsOn.congr {r : ReaderState} {i : Nat} (h : CountsOn m r i)
    (hsequence : (m'.slots i).sequence = (m.slots i).sequence) : CountsOn m' r i := by
  unfold CountsOn
  rw [hsequence]
  exact h

theorem Pays.congr {r : ReaderState} {sequence i : Nat} (h : Pays m r sequence i)
    (hsame : SameContent (m'.slots i) (m.slots i))
    (hgeneration : m'.contentGeneration = m.contentGeneration)
    (hroom : (m'.slots i).readerCount < writerLease - 1) : Pays m' r sequence i where
  readable := h.readable.congr hsame hgeneration hroom
  counts := h.counts.congr hsame.sequence
  recent := by
    rw [hsame.sequence]
    exact h.recent

theorem Readable.pays_next {i sequence : Nat} (h : Readable m i)
    (hrecent : sequence ≤ (m.slots i).sequence) : Pays m .loadGeneration sequence i :=
  ⟨h, Or.inl ⟨Nat.zero_le _, h.inRange⟩, hrecent⟩

theorem Announced.congr {p : ProducerState} (h : Announced m p)
    (hsame : ∀ i, SameContent (m'.slots i) (m.slots i))
    (hlatest : m'.latestSequence = m.latestSequence) : Announced m' p := by
  have hslot : ∀ {index a sequence}, (m.slots index).readyState = .done ∧
      (m.slots index).sequence = sequence ∧
        (m.slots index).contentGeneration = PublishCall.generation a →
      (m'.slots index).readyState = .done ∧ (m'.slots index).sequence = sequence ∧
        (m'.slots index).contentGeneration = PublishCall.generation a := by
    intro index a sequence hslot
    rw [(hsame index).readyState, (hsame index).sequence, (hsame index).contentGeneration]
    exact hslot
  cases p with
  | storeLease a index sequence => exact ⟨h.1, hslot h.2⟩
  | storeLatest a index sequence => exact ⟨h.1, hslot h.2⟩
  | storeWriteIndex a index sequence =>
      obtain ⟨hne, hdone, hsequence, hgeneration, hstored⟩ := h
      obtain ⟨hdone', hsequence', hgeneration'⟩ := hslot ⟨hdone, hsequence, hgeneration⟩
      exact ⟨hne, hdone', hsequence', hgeneration', hlatest.trans hstored⟩
  | _ => exact h

theorem Readable.not_owned {owner : Option Nat} {count : Nat → Nat} {i : Nat} (h : Readable m i)
    (hexclusive : Exclusive m owner count) : owner ≠ some i := by
  intro howned
  have hroom := h.room
  rw [hexclusive.counter i, if_pos howned] at hroom
  omega

/-! ## The producer -/

theorem ProducerMove.spared {p : ProducerState} {out : ProducerOutcome}
    (h : ProducerMove capacity m p out) {i : Nat} (hother : owned p ≠ some i)
    (hclaim : ∀ a start offset, p = .claim a start offset →
      (m.slots ((start + offset) % ringSlotCount)).readerCount = 0 →
        i ≠ (start + offset) % ringSlotCount) : out.memory.slots i = m.slots i := by
  have hne : ∀ index, owned p = some index → i ≠ index := by
    rintro index hindex rfl
    exact hother hindex
  cases h with
  | claimed a start offset hfree => exact updateSlot_of_ne (hclaim a start offset rfl hfree)
  | markWriting a index => exact updateSlot_of_ne (hne index rfl)
  | write a index w left => exact updateSlot_of_ne (hne index rfl)
  | abortReady a index => exact updateSlot_of_ne (hne index rfl)
  | abortLease a index => exact updateSlot_of_ne (hne index rfl)
  | storeGeneration a index sequence => exact updateSlot_of_ne (hne index rfl)
  | storeSequence a index sequence => exact updateSlot_of_ne (hne index rfl)
  | storeReady a index sequence => exact updateSlot_of_ne (hne index rfl)
  | storeLease a index sequence => exact updateSlot_of_ne (hne index rfl)
  | _ => rfl

theorem ProducerMove.pays {p : ProducerState} {out : ProducerOutcome}
    (h : ProducerMove capacity m p out) {r : ReaderState} {sequence i : Nat}
    (hpays : Pays m r sequence i) (hother : owned p ≠ some i)
    (hclaim : ∀ a start offset, p = .claim a start offset →
      (m.slots ((start + offset) % ringSlotCount)).readerCount = 0 →
        i ≠ (start + offset) % ringSlotCount) : Pays out.memory r sequence i := by
  have hslot := h.spared hother hclaim
  apply hpays.congr _ h.header.1
  · rw [hslot]
    exact hpays.readable.room
  · rw [hslot]
    exact .refl _

theorem ProducerMove.latest {p : ProducerState} {out : ProducerOutcome}
    (h : ProducerMove capacity m p out) (hannounced : Announced m p)
    (hne : m.latestSequence ≠ 0) : out.memory.latestSequence ≠ 0 := by
  cases h with
  | storeLatest a index sequence => exact hannounced.1
  | _ => exact hne

theorem ProducerMove.announced {p : ProducerState} {out : ProducerOutcome}
    (h : ProducerMove capacity m p out) (hannounced : Announced m p) {count : Nat}
    (hsound : ProducerSound m count p)
    (hsequence : ∀ a index, p = .loadLatest a index → m.latestSequence + 1 < 2 ^ 64) :
    Announced out.memory out.next := by
  cases h with
  | loadLatest a index =>
      have hlt := hsequence a index rfl
      change (m.latestSequence + 1) % 2 ^ 64 ≠ 0
      rw [Nat.mod_eq_of_lt hlt]
      exact Nat.succ_ne_zero _
  | storeGeneration a index sequence => exact hannounced
  | storeSequence a index sequence => exact hannounced
  | storeReady a index sequence =>
      obtain ⟨-, -, -, hgeneration, hsequence⟩ := hsound
      refine ⟨hannounced, ?_⟩
      change ((m.updateSlot index (setReady .done)).slots index).readyState = .done ∧
        ((m.updateSlot index (setReady .done)).slots index).sequence = sequence ∧
          ((m.updateSlot index (setReady .done)).slots index).contentGeneration = a.generation
      rw [updateSlot_self]
      exact ⟨rfl, hsequence, hgeneration⟩
  | storeLease a index sequence =>
      obtain ⟨hne, hdone, hsequence, hgeneration⟩ := hannounced
      have hsame : SameContent ((m.updateSlot index (setReaderCount 0)).slots index)
          (m.slots index) := sameContent_updateSlot (sameContent_setReaderCount _) index
      exact ⟨hne, hsame.readyState.trans hdone, hsame.sequence.trans hsequence,
        hsame.contentGeneration.trans hgeneration⟩
  | storeLatest a index sequence =>
      obtain ⟨hne, hdone, hsequence, hgeneration⟩ := hannounced
      exact ⟨hne, hdone, hsequence, hgeneration, rfl⟩
  | _ => trivial

theorem ProducerMove.published {p : ProducerState} {out : ProducerOutcome}
    (h : ProducerMove capacity m p out) {entry : PublishCall × Nat}
    (hmem : entry ∈ publishedAnswers out.answer.toList) :
    ∃ index, p = .storeWriteIndex entry.1 index entry.2 := by
  cases h with
  | refused a result hearly hresult =>
      change entry ∈ publishedAnswers [(a, result)] at hmem
      rw [publishedAnswers_refused hresult] at hmem
      cases hmem
  | abortLease a index => cases hmem
  | storeWriteIndex a index sequence =>
      obtain rfl := List.mem_singleton.mp hmem
      exact ⟨index, rfl⟩
  | _ => cases hmem

/-! ## Debts along a step -/

theorem publishedBy_of_take {count : Nat} (htake : t.answers.take count = s.answers.take count)
    (hgeneration : t.memory.contentGeneration = s.memory.contentGeneration)
    (h : PublishedBy t count) : PublishedBy s count := by
  unfold PublishedBy at h ⊢
  rw [← htake, ← hgeneration]
  exact h

theorem shownBefore_congr {consumer k sequence : Nat} (hreaders : t.readers = s.readers)
    (hgeneration : t.memory.contentGeneration = s.memory.contentGeneration)
    (h : ShownBefore t consumer k sequence) : ShownBefore s consumer k sequence := by
  unfold ShownBefore at h ⊢
  rw [← hreaders, ← hgeneration]
  exact h

theorem FreshnessContract.congr (h : FreshnessContract s) (hreaders : t.readers = s.readers)
    (hgeneration : t.memory.contentGeneration = s.memory.contentGeneration)
    (htake : ∀ call ∈ s.readers,
      t.answers.take call.answered = s.answers.take call.answered) : FreshnessContract t := by
  constructor
  · intro j k call next hlt hj hk hconsumer hcall hnext
    rw [hreaders] at hj hk
    rw [hgeneration] at hcall hnext
    exact h.ordered j k call next hlt hj hk hconsumer hcall hnext
  · intro call hmem hbegan hpublished
    rw [hreaders] at hmem
    exact h.found call hmem (hbegan.trans hgeneration)
      (publishedBy_of_take (htake call hmem) hgeneration hpublished)

theorem Owes.congr {r : ReaderState} {sequence : Nat} (h : Owes t r sequence)
    (hreaders : t.readers = s.readers)
    (hgeneration : t.memory.contentGeneration = s.memory.contentGeneration)
    (hanswers : t.answers = s.answers) : Owes s r sequence := by
  have hpublished : ∀ count, PublishedBy t count → PublishedBy s count := by
    intro count
    apply publishedBy_of_take _ hgeneration
    rw [hanswers]
  have hshown : ∀ consumer k sequence, ShownBefore t consumer k sequence →
      ShownBefore s consumer k sequence := fun _ _ _ => shownBefore_congr hreaders hgeneration
  cases h with
  | call k call sequence hk hbusy hbegan h =>
      rw [hreaders] at hk
      exact .call k call sequence hk hbusy (hbegan.trans hgeneration)
        (h.imp (And.imp_left (hpublished _)) (hshown _ _ _))
  | next consumer sequence h =>
      refine .next consumer sequence (h.imp (And.imp_left ?_) ?_)
      · rw [hanswers]
        exact hpublished _
      · rw [hreaders]
        exact hshown _ _ _

theorem owes_stepProducer (hcounted : ∀ call ∈ s.readers, call.answered ≤ s.answers.length)
    {r : ReaderState} {sequence : Nat} (h : Owes (Ring.stepProducer capacity s) r sequence) :
    Owes s r sequence ∨ sequence = 0 ∧ r = .loadGeneration ∧ ∃ a index number,
      s.producer = .storeWriteIndex a index number ∧
        a.generation = s.memory.contentGeneration := by
  have hmove := @producerStep_move capacity s.memory s.producer
  have hgeneration : (Ring.stepProducer capacity s).memory.contentGeneration =
      s.memory.contentGeneration := hmove.header.1
  cases h with
  | call k call sequence hk hbusy hbegan h =>
      left
      have hle := hcounted call (List.mem_of_getElem? hk)
      refine .call k call sequence hk hbusy (hbegan.trans hgeneration) ?_
      refine h.imp (And.imp_left fun hpublished => ?_) fun hshown => ?_
      · exact publishedBy_of_take (List.take_append_of_le_length hle) hgeneration hpublished
      · exact shownBefore_congr (t := Ring.stepProducer capacity s) rfl hgeneration hshown
  | next consumer sequence h =>
      rcases h with ⟨hpublished, hzero⟩ | hshown
      · obtain ⟨entry, hmem, hcurrent⟩ := hpublished
        rw [List.take_length] at hmem
        have hanswers : (Ring.stepProducer capacity s).answers = s.answers ++
            (producerStep capacity s.memory s.producer).answer.toList := rfl
        rw [hanswers, publishedAnswers_append] at hmem
        rw [hgeneration] at hcurrent
        rcases List.mem_append.mp hmem with hold | hnew
        · refine Or.inl (.next consumer sequence (Or.inl ⟨⟨entry, ?_, hcurrent⟩, hzero⟩))
          rw [List.take_length]
          exact hold
        · obtain ⟨index, hp⟩ := hmove.published hnew
          exact Or.inr ⟨hzero, rfl, entry.1, index, entry.2, hp, hcurrent⟩
      · left
        refine .next consumer sequence (Or.inr ?_)
        exact shownBefore_congr (t := Ring.stepProducer capacity s) rfl hgeneration hshown

namespace Fresh

theorem new (m : RingMemory) : Fresh (Ring.new m) := by
  have hfree : ∀ r sequence, ¬Owes (Ring.new m) r sequence := by
    intro r sequence h
    cases h with
    | call k call sequence hk => cases hk
    | next consumer sequence h =>
        rcases h with ⟨⟨entry, hmem, -⟩, -⟩ | ⟨j, hlt, -⟩
        · cases hmem
        · exact Nat.not_lt_zero j hlt
  constructor
  case paid => exact fun r sequence h => (hfree r sequence h).elim
  case started => exact fun r sequence h => (hfree r sequence h).elim
  case roomy =>
    intro i _
    change 0 < writerLease - 1
    unfold writerLease
    omega
  case announced => trivial
  case lookups => exact nofun
  case past => exact nofun
  case loaded => exact nofun
  case counted => exact nofun
  case sequential => exact fun _ _ _ _ _ hj => (nomatch hj)
  case toFreshnessContract => exact ⟨fun _ _ _ _ _ hj => (nomatch hj), nofun⟩

theorem readable_announced (h : Fresh s) (hring : RingInvariant s) (hformed : Formed capacity s)
    {a : PublishCall} {index number : Nat} (hp : s.producer = .storeWriteIndex a index number)
    (hcurrent : a.generation = s.memory.contentGeneration) : Readable s.memory index := by
  have hannounced := h.announced
  have hanswers := hring.answers
  have hroomy := h.roomy index
  rw [hp] at hannounced hanswers hroomy
  obtain ⟨hne, hdone, hsequence, hgeneration, -⟩ := hannounced
  have hmem : (a, number) ∈ s.completed.map Publication.entry := by
    rw [← hanswers]
    exact List.mem_append_right _ (List.mem_singleton_self _)
  obtain ⟨pub, hpub, hentry⟩ := List.mem_map.mp hmem
  have hcall : pub.call = a := congrArg Prod.fst hentry
  exact {
    inRange := hformed.done_lt index hdone
    done := hdone
    sequence := by
      rw [hsequence]
      exact hne
    generation := hgeneration.trans hcurrent
    nonzero := by
      rw [← hcurrent, ← hcall]
      exact (hformed.publications pub hpub).2
    room := hroomy nofun }

theorem roomy_producer (h : Fresh s) {i : Nat}
    (hfree : owned (Ring.stepProducer capacity s).producer ≠ some i) :
    ((Ring.stepProducer capacity s).memory.slots i).readerCount < writerLease - 1 := by
  change ((producerStep capacity s.memory s.producer).memory.slots i).readerCount < _
  change owned (producerStep capacity s.memory s.producer).next ≠ _ at hfree
  cases (@producerStep_move capacity s.memory s.producer).counts with
  | kept hcounts howned =>
      rw [hcounts i]
      rw [howned] at hfree
      exact h.roomy i hfree
  | claimed j hzero hbefore hafter hmemory =>
      have hne : i ≠ j := by
        rintro rfl
        exact hfree hafter
      rw [hmemory, updateSlot_of_ne hne]
      apply h.roomy i
      rw [hbefore]
      nofun
  | released j hbefore hafter hmemory =>
      rw [hmemory]
      by_cases hne : i = j
      · rw [hne, updateSlot_self]
        change 0 < writerLease - 1
        unfold writerLease
        omega
      · rw [updateSlot_of_ne hne]
        apply h.roomy i
        rw [hbefore]
        exact fun heq => hne (Option.some.inj heq).symm

theorem producer (h : Fresh s) (hring : RingInvariant s) (hformed : Formed capacity s)
    (hspares : Spares s .producer) : Fresh (Ring.stepProducer capacity s) := by
  have hmove := @producerStep_move capacity s.memory s.producer
  have hgeneration : (Ring.stepProducer capacity s).memory.contentGeneration =
      s.memory.contentGeneration := hmove.header.1
  have htake : ∀ call ∈ s.readers, (Ring.stepProducer capacity s).answers.take call.answered =
      s.answers.take call.answered := fun call hcall =>
    List.take_append_of_le_length (h.counted call hcall)
  constructor
  case toFreshnessContract => exact h.toFreshnessContract.congr rfl hgeneration htake
  case paid =>
    intro r sequence howes
    rcases owes_stepProducer h.counted howes with hold | ⟨rfl, rfl, a, index, number, hp, hcurrent⟩
    · obtain ⟨i, hpays, hclaim⟩ : ∃ i, Pays s.memory r sequence i ∧
          ∀ a start offset, s.producer = .claim a start offset →
            (s.memory.slots ((start + offset) % ringSlotCount)).readerCount = 0 →
              i ≠ (start + offset) % ringSlotCount := by
        by_cases hclaims : ∃ a start offset, s.producer = .claim a start offset ∧
            (s.memory.slots ((start + offset) % ringSlotCount)).readerCount = 0
        · obtain ⟨a, start, offset, hp, hfree⟩ := hclaims
          obtain ⟨i, hne, hpays⟩ := hspares.claim rfl a start offset hp hfree r sequence hold
          refine ⟨i, hpays, ?_⟩
          intro a' start' offset' hp' _
          rw [hp] at hp'
          cases hp'
          exact hne
        · obtain ⟨i, hpays⟩ := h.paid r sequence hold
          refine ⟨i, hpays, ?_⟩
          intro a start offset hp hfree
          exact (hclaims ⟨a, start, offset, hp, hfree⟩).elim
      exact ⟨i, hmove.pays hpays (hpays.readable.not_owned hring.exclusive) hclaim⟩
    · have hreadable := h.readable_announced hring hformed hp hcurrent
      have hpays := hreadable.pays_next (Nat.zero_le _)
      refine ⟨index, hmove.pays hpays (hreadable.not_owned hring.exclusive) ?_⟩
      intro a' start offset hclaim
      rw [hp] at hclaim
      cases hclaim
  case started =>
    intro r sequence howes
    apply hmove.latest h.announced
    rcases owes_stepProducer h.counted howes with hold | ⟨-, -, a, index, number, hp, -⟩
    · exact h.started r sequence hold
    · have hannounced := h.announced
      rw [hp] at hannounced
      rw [hannounced.2.2.2.2]
      exact hannounced.1
  case roomy => exact fun i hfree => h.roomy_producer hfree
  case announced => exact hmove.announced h.announced hring.sound (hspares.sequence rfl)
  case lookups => exact h.lookups
  case past => exact fun call hcall hpast => hmove.latest h.announced (h.past call hcall hpast)
  case loaded =>
    intro call hcall
    rw [hgeneration]
    exact h.loaded call hcall
  case counted =>
    intro call hcall
    exact (h.counted call hcall).trans (List.IsPrefix.length_le (List.prefix_append _ _))
  case sequential => exact h.sequential

theorem publish (h : Fresh s) (hidle : Ring.isIdle s.producer = true) (a : PublishCall) :
    Fresh { s with producer := .checkGeneration a } := by
  have howned : owned s.producer = none := by
    cases hp : s.producer <;> rw [hp] at hidle <;> first | rfl | cases hidle
  refine { h with
    paid := fun r sequence howes => h.paid r sequence (howes.congr rfl rfl rfl)
    started := fun r sequence howes => h.started r sequence (howes.congr rfl rfl rfl)
    roomy := fun i _ => h.roomy i ?_
    announced := trivial
    toFreshnessContract := h.toFreshnessContract.congr rfl rfl fun _ _ => rfl }
  rw [howned]
  nofun

theorem invalidate (h : Fresh s) (invalidators : List InvalidatorState) :
    Fresh { s with invalidators := invalidators } :=
  { h with
    paid := fun r sequence howes => h.paid r sequence (howes.congr rfl rfl rfl)
    started := fun r sequence howes => h.started r sequence (howes.congr rfl rfl rfl)
    toFreshnessContract := h.toFreshnessContract.congr rfl rfl fun _ _ => rfl }

/-! ## A new generation -/

theorem not_owes (hbegan : ∀ call ∈ s.readers,
      call.began.contentGeneration ≠ s.memory.contentGeneration)
    (hpublished : ∀ count, ¬PublishedBy s count) (r : ReaderState) (sequence : Nat) :
    ¬Owes s r sequence := by
  have hshown : ∀ consumer k, ¬ShownBefore s consumer k sequence := by
    rintro consumer k ⟨j, -, call, hj, -, hcurrent, -⟩
    exact hbegan call (List.mem_of_getElem? hj) hcurrent
  intro h
  cases h with
  | call k call sequence hk hbusy hcurrent h =>
      exact hbegan call (List.mem_of_getElem? hk) hcurrent
  | next consumer sequence h =>
      rcases h with ⟨hsome, -⟩ | hbefore
      · exact hpublished _ hsome
      · exact hshown _ _ hbefore

theorem upto_of_published (hring : RingInvariant s) (hfence : FenceInvariant s)
    {entry : PublishCall × Nat} (h : entry ∈ publishedAnswers s.answers) :
    Upto entry.1.generation s.memory.contentGeneration := by
  have hmem : entry ∈ s.completed.map Publication.entry := by
    rw [← hring.answers]
    exact List.mem_append_left _ h
  obtain ⟨pub, hpub, rfl⟩ := List.mem_map.mp hmem
  have hfenced := hfence.publications pub hpub
  exact hfenced.marked.trans hfenced.since

theorem publishedAnswers_take {answers : List (PublishCall × RingPublishResult)} {count : Nat}
    {entry : PublishCall × Nat} (h : entry ∈ publishedAnswers (answers.take count)) :
    entry ∈ publishedAnswers answers := by
  rw [← List.take_append_drop count answers, publishedAnswers_append]
  exact List.mem_append_left _ h

theorem invalidator (h : Fresh s) (hring : RingInvariant s) (hfence : FenceInvariant s)
    {memory : RingMemory} {invalidators : List InvalidatorState}
    (hslots : memory.slots = s.memory.slots)
    (hlatest : memory.latestSequence = s.memory.latestSequence)
    (hupto : Upto s.memory.contentGeneration memory.contentGeneration) :
    Fresh { s with memory := memory, invalidators := invalidators } := by
  have hannounced : Announced memory s.producer := by
    refine h.announced.congr (fun i => ?_) hlatest
    rw [hslots]
    exact .refl _
  have hroomy : ∀ i, owned s.producer ≠ some i →
      (memory.slots i).readerCount < writerLease - 1 := by
    rw [hslots]
    exact h.roomy
  have hpast : ∀ call ∈ s.readers, pastLatest call.state = true →
      memory.latestSequence ≠ 0 := by
    rw [hlatest]
    exact h.past
  have hloaded : ∀ call ∈ s.readers, ∀ index sequence rest active,
      call.state = .loadContentGeneration index sequence rest active →
        Upto active memory.contentGeneration := fun call hcall index sequence rest active hstate =>
    (h.loaded call hcall index sequence rest active hstate).trans hupto
  by_cases hsame : memory.contentGeneration = s.memory.contentGeneration
  · refine { h with
      paid := ?_
      started := ?_
      roomy := hroomy
      announced := hannounced
      past := hpast
      loaded := hloaded
      toFreshnessContract := h.toFreshnessContract.congr rfl hsame fun _ _ => rfl }
    · intro r sequence howes
      obtain ⟨i, hpays⟩ := h.paid r sequence (howes.congr rfl hsame rfl)
      refine ⟨i, hpays.congr ?_ hsame ?_⟩
      · dsimp only
        rw [hslots]
        exact .refl _
      · dsimp only
        rw [hslots]
        exact hpays.readable.room
    · intro r sequence howes
      dsimp only
      rw [hlatest]
      exact h.started r sequence (howes.congr rfl hsame rfl)
  · have hbegan : ∀ call ∈ s.readers,
        call.began.contentGeneration ≠ memory.contentGeneration := by
      intro call hcall heq
      have hback := hfence.began call hcall
      rw [heq] at hback
      exact hsame (hback.antisymm hupto)
    have hpublished : ∀ count,
        ¬PublishedBy { s with memory := memory, invalidators := invalidators } count := by
      rintro count ⟨entry, hmem, hcurrent⟩
      have hback := upto_of_published hring hfence (publishedAnswers_take hmem)
      rw [hcurrent] at hback
      exact hsame (hback.antisymm hupto)
    have hfree : ∀ r sequence,
        ¬Owes { s with memory := memory, invalidators := invalidators } r sequence :=
      not_owes hbegan hpublished
    refine { h with
      paid := fun r sequence howes => (hfree r sequence howes).elim
      started := fun r sequence howes => (hfree r sequence howes).elim
      roomy := hroomy
      announced := hannounced
      past := hpast
      loaded := hloaded
      toFreshnessContract := ⟨?_, ?_⟩ }
    · intro j k call next _ hj _ _ hcurrent
      exact (hbegan call (List.mem_of_getElem? hj) hcurrent).elim
    · exact fun call hcall hcurrent => (hbegan call hcall hcurrent).elim

end Fresh

end PicooCamera.SharedRing
