import PicooCamera.SharedRing.Runs

/-!
# Exclusion and snapshots

The contract of the ring holds in exactly the reachable states in which fewer
than 2^64 frames have been published: the sequence is a `u64` that wraps.
-/

namespace PicooCamera.SharedRing

open PicooCamera.Library RingMemory

variable {capacity : FrameCapacity} {m : RingMemory} {s : RingState}

/-- One completed call has the sequence of the view, and the view shows its arguments. -/
structure ShowsOnly (s : RingState) (view : SharedFrameView) (pub : Publication) : Prop where
  single : s.completed.filter (fun other => other.sequence = view.sequence) = [pub]
  plain : view.plain = pub.call.plain
  kind : SharedFrameKind.fromWire (view.plain .contentKind) = some pub.call.kind
  bytes : view.nv12 s.memory = pub.call.nv12

structure RingContract (capacity : FrameCapacity) (s : RingState) : Prop where
  /-- The producer leaves a slot alone as long as a view of it is held. -/
  excluded : ∀ call ∈ s.readers, ∀ view, call.state = .holding view →
    owned s.producer ≠ some view.index ∧
      (producerStep capacity s.memory s.producer).memory.slots view.index =
        s.memory.slots view.index
  snapshot : ∀ call ∈ s.readers, ∀ view, call.state = .holding view → ∃ pub, ShowsOnly s view pub
  /-- The completed calls are those that returned `Published`, and one more at most. -/
  answered : ∃ pending : List (PublishCall × Nat), pending.length ≤ 1 ∧
    s.completed.map Publication.entry = publishedAnswers s.answers ++ pending
  counters : ∀ i, (s.memory.slots i).readerCount =
    if owned s.producer = some i then writerLease else leases s.readers i
  /-- A lease that is given back was counted. -/
  counted : ∀ call ∈ s.readers, ∀ i, leased call.state = some i →
    0 < (s.memory.slots i).readerCount ∧ (s.memory.slots i).readerCount < writerLease
  increasing : ((publishedAnswers s.answers).map Prod.snd).Pairwise (· < ·)

/-! ## The sequences -/

theorem sequenceOf_of_lt {k : Nat} (h : k + 1 < 2 ^ 64) : sequenceOf k = k + 1 :=
  Nat.mod_eq_of_lt h

theorem sequences_increase_iff (n : Nat) :
    ((List.range n).map sequenceOf).Pairwise (· < ·) ↔ n < 2 ^ 64 := by
  constructor
  · intro hpairwise
    by_contra hmany
    have hlast : 2 ^ 64 - 1 < ((List.range n).map sequenceOf).length := by
      rw [List.length_map, List.length_range]
      omega
    have hlt := List.pairwise_iff_getElem.mp hpairwise (2 ^ 64 - 2) (2 ^ 64 - 1) (by omega) hlast
      (by omega)
    rw [List.getElem_map, List.getElem_map, List.getElem_range, List.getElem_range] at hlt
    unfold sequenceOf at hlt
    omega
  · intro hfew
    rw [List.pairwise_map]
    refine List.pairwise_lt_range.imp_of_mem ?_
    intro j k hj hk hlt
    have := List.mem_range.mp hk
    rw [sequenceOf_of_lt (by omega), sequenceOf_of_lt (by omega)]
    omega

theorem sequences_nodup {n : Nat} (h : n ≤ 2 ^ 64) : ((List.range n).map sequenceOf).Nodup := by
  refine List.Nodup.map_on ?_ List.nodup_range
  intro j hj k hk heq
  have hj' := List.mem_range.mp hj
  have hk' := List.mem_range.mp hk
  unfold sequenceOf at heq
  omega

theorem filter_eq_singleton {α β : Type} [DecidableEq β] {f : α → β} {l : List α} {x : α}
    (hnodup : (l.map f).Nodup) (hx : x ∈ l) : l.filter (fun y => f y = f x) = [x] := by
  have hcount : (l.map f).count (f x) = 1 :=
    List.count_eq_one_of_mem hnodup (List.mem_map_of_mem hx)
  rw [List.count_eq_countP, List.countP_map, List.countP_eq_length_filter] at hcount
  have hfilter : (l.filter fun y => f y = f x) = l.filter ((fun z => z == f x) ∘ f) :=
    List.filter_congr fun y _ => rfl
  rw [← hfilter] at hcount
  obtain ⟨y, hy⟩ := List.length_eq_one_iff.mp hcount
  have hmem : x ∈ l.filter fun y => f y = f x := List.mem_filter.mpr ⟨hx, decide_eq_true rfl⟩
  rw [hy] at hmem ⊢
  rw [List.mem_singleton.mp hmem]

theorem length_unanswered_le (p : ProducerState) : (unanswered p).length ≤ 1 := by
  unfold unanswered
  split <;> simp

namespace RingInvariant

theorem sequences_eq (h : RingInvariant s) :
    (publishedAnswers s.answers).map Prod.snd ++ (unanswered s.producer).map Prod.snd =
      (List.range s.completed.length).map sequenceOf := by
  have hnumbered : s.completed.map (Prod.snd ∘ Publication.entry) =
      (List.range s.completed.length).map sequenceOf := h.numbered
  rw [← List.map_append, h.answers, List.map_map, hnumbered]

theorem length_completed (h : RingInvariant s) :
    s.completed.length = (publishedAnswers s.answers).length + (unanswered s.producer).length := by
  have hlength := congrArg List.length h.answers
  rw [List.length_append, List.length_map] at hlength
  exact hlength.symm

theorem published_eq (h : RingInvariant s) :
    (publishedAnswers s.answers).map Prod.snd =
      (List.range (publishedAnswers s.answers).length).map sequenceOf := by
  have htake := congrArg (List.take (publishedAnswers s.answers).length) h.sequences_eq
  have hle : (publishedAnswers s.answers).length ≤ s.completed.length := by
    rw [h.length_completed]
    exact Nat.le_add_right _ _
  rw [← List.map_take, List.take_range, Nat.min_eq_left hle] at htake
  rw [← htake, List.take_left' (List.length_map _)]

theorem increasing_iff (h : RingInvariant s) :
    ((publishedAnswers s.answers).map Prod.snd).Pairwise (· < ·) ↔
      (publishedAnswers s.answers).length < 2 ^ 64 := by
  rw [h.published_eq, sequences_increase_iff]

theorem snapshot (h : RingInvariant s) (hfew : (publishedAnswers s.answers).length < 2 ^ 64)
    {call : ReaderCall} {view : SharedFrameView} (hcall : call ∈ s.readers)
    (hstate : call.state = .holding view) : ∃ pub, ShowsOnly s view pub := by
  obtain ⟨pub, hpub, hsequence, hplain, hdisplays⟩ := h.view_shows hcall hstate
  refine ⟨pub, ?_, hplain, ?_, ?_⟩
  · rw [hsequence]
    apply filter_eq_singleton _ hpub
    rw [h.numbered]
    have hone := length_unanswered_le s.producer
    have hlength := h.length_completed
    exact sequences_nodup (by omega)
  · rw [hplain]
    exact fromWire_signalBit pub.call.kind
  · rw [SharedFrameView.nv12, hplain]
    exact hdisplays.shows.bytes

theorem excluded (h : RingInvariant s) {call : ReaderCall} {i : Nat} (hcall : call ∈ s.readers)
    (hleased : leased call.state = some i) :
    owned s.producer ≠ some i ∧
      (producerStep capacity s.memory s.producer).memory.slots i = s.memory.slots i := by
  have hother := h.not_owned hcall hleased
  have hpos := leases_pos hcall hleased
  refine ⟨hother, ?_⟩
  exact (producerStep_move s.producer).untouched hother
    (by rw [h.exclusive.counter_free hother]; exact Nat.pos_iff_ne_zero.mp hpos)

theorem counted (h : RingInvariant s) {call : ReaderCall} {i : Nat} (hcall : call ∈ s.readers)
    (hleased : leased call.state = some i) :
    0 < (s.memory.slots i).readerCount ∧ (s.memory.slots i).readerCount < writerLease := by
  rw [h.exclusive.counter_free (h.not_owned hcall hleased)]
  exact ⟨leases_pos hcall hleased, h.exclusive.bound i⟩

end RingInvariant

/-- A reachable state meets the contract if and only if fewer than 2^64 frames were published. -/
theorem ringContract_iff (hreachable : (ringSystem capacity m).Reachable s) :
    RingContract capacity s ↔ (publishedAnswers s.answers).length < 2 ^ 64 := by
  have h := ringInvariant_of_reachable hreachable
  constructor
  · intro hcontract
    exact h.increasing_iff.mp hcontract.increasing
  · intro hfew
    constructor
    · intro call hcall view hstate
      exact h.excluded hcall (by rw [hstate]; rfl)
    · intro call hcall view hstate
      exact h.snapshot hfew hcall hstate
    · exact ⟨unanswered s.producer, length_unanswered_le _, h.answers.symm⟩
    · exact h.exclusive.counter
    · intro call hcall i hleased
      exact h.counted hcall hleased
    · exact h.increasing_iff.mpr hfew

/-- One frame is published, and a consumer holds a view of it. -/
theorem ringContract_iff_oneView : RingContract sampleCapacity
    (ringRun (publishing (sampleFrame 1 .live 7) ++ [.latestFrame 0] ++ reading 0)) := by
  apply (ringContract_iff (reachable_ringRun _)).mpr
  decide +kernel

/-! ## The sequence that wraps -/

/-- A producer that is alone, by where its call stands and how many frames it has published. -/
structure Solo (s : RingState) (count : Nat) (p : ProducerState) : Prop where
  reachable : (ringSystem sampleCapacity blankMemory).Reachable s
  producer : s.producer = p
  readers : s.readers = []
  generation : s.memory.contentGeneration = 1
  kind : signalKind s.memory.contentSignal = some .live
  published : (publishedAnswers s.answers).length = count

namespace Solo

variable {count : Nat} {p : ProducerState}

theorem start : Solo (Ring.new blankMemory) 0 .idle :=
  ⟨.of_init rfl, rfl, rfl, rfl, rfl, rfl⟩

theorem begin (h : Solo s count .idle) (a : PublishCall) :
    ∃ s, Solo s count (.checkGeneration a) := by
  have hidle : Ring.isIdle s.producer = true := by
    rw [h.producer]
    rfl
  have hnext : { s with producer := .checkGeneration a } =
      Ring.ringStep sampleCapacity s (.publish a) := (if_pos hidle).symm
  exact ⟨_, h.reachable.step hnext, rfl, h.readers, h.generation, h.kind, h.published⟩

theorem step (h : Solo s count p) {out : ProducerOutcome}
    (hout : producerStep sampleCapacity s.memory p = out) :
    ∃ s, Solo s (count + (publishedAnswers out.answer.toList).length) out.next := by
  obtain ⟨hgeneration, hsignal⟩ := (@producerStep_move sampleCapacity s.memory p).header
  rw [hout] at hgeneration hsignal
  have hnext : { s with
      memory := out.memory
      producer := out.next
      admitted := Ring.signalAtAdmission s
      completed := s.completed ++ Ring.marksDone s
      answers := s.answers ++ out.answer.toList } =
      Ring.ringStep sampleCapacity s .producer := by
    dsimp only [Ring.ringStep, Ring.stepProducer]
    rw [h.producer, hout]
  refine ⟨_, h.reachable.step hnext, rfl, h.readers, hgeneration.trans h.generation, ?_, ?_⟩
  · dsimp only
    rw [hsignal]
    exact h.kind
  · dsimp only
    rw [publishedAnswers_append, List.length_append, h.published]

theorem free (h : Solo s count p) (howned : owned p = none) (i : Nat) :
    (s.memory.slots i).readerCount = 0 := by
  have hfree := (ringInvariant_of_reachable h.reachable).exclusive.counter i
  rw [h.producer, howned, h.readers] at hfree
  exact hfree

theorem writes {a : PublishCall} {index : Nat} {left : List PlainWrite}
    (h : Solo s count (.write a index left)) : ∃ s, Solo s count (.write a index []) := by
  induction left generalizing s with
  | nil => exact ⟨s, h⟩
  | cons w left ih =>
      obtain ⟨s, h⟩ := h.step rfl
      exact ih h

theorem publish (h : Solo s count .idle) : ∃ s, Solo s (count + 1) .idle := by
  obtain ⟨s, h⟩ := h.begin (sampleFrame 1 .live 7)
  obtain ⟨s, h⟩ := h.step (if_neg (by rw [h.generation]; decide))
  obtain ⟨s, h⟩ := h.step (if_neg (by rw [h.generation]; decide))
  obtain ⟨s, h⟩ := h.step ((if_neg (not_not.mpr h.kind)).trans (if_neg (by decide)))
  obtain ⟨s, h⟩ := h.step rfl
  obtain ⟨s, h⟩ := h.step (if_pos (h.free rfl _))
  obtain ⟨s, h⟩ := h.step rfl
  obtain ⟨s, h⟩ := h.writes
  obtain ⟨s, h⟩ := h.step (if_neg (not_not.mpr h.generation))
  obtain ⟨s, h⟩ := h.step rfl
  obtain ⟨s, h⟩ := h.step rfl
  obtain ⟨s, h⟩ := h.step rfl
  obtain ⟨s, h⟩ := h.step rfl
  obtain ⟨s, h⟩ := h.step rfl
  obtain ⟨s, h⟩ := h.step rfl
  obtain ⟨s, h⟩ := h.step rfl
  exact ⟨s, h⟩

theorem publishes (count : Nat) : ∃ s, Solo s count .idle := by
  induction count with
  | zero => exact ⟨_, start⟩
  | succ count ih =>
      obtain ⟨s, h⟩ := ih
      exact h.publish

end Solo

/-- After 2^64 frames the sequence is zero again. -/
theorem ringContract_fails : ∃ s, (ringSystem sampleCapacity blankMemory).Reachable s ∧
    (publishedAnswers s.answers).length = 2 ^ 64 ∧ ¬RingContract sampleCapacity s := by
  obtain ⟨s, h⟩ := Solo.publishes (2 ^ 64)
  have hinvariant := ringInvariant_of_reachable h.reachable
  refine ⟨s, h.reachable, h.published, fun hcontract => ?_⟩
  have hfew := hinvariant.increasing_iff.mp hcontract.increasing
  rw [h.published] at hfew
  exact Nat.lt_irrefl _ hfew

end PicooCamera.SharedRing
