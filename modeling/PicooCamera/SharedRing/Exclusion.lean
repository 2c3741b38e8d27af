import PicooCamera.Library.TransitionSystem
import PicooCamera.SharedRing.Ring

/-!
# Exclusion on the ring

The counter of a slot is the number of its leases, or the mark of the producer.
So the producer writes no slot that a consumer has a lease on, and what a view
shows is what one publish call wrote.
-/

namespace PicooCamera.SharedRing

open PicooCamera.Library

/-! ## What a step changes of a slot -/

/-- The slots differ in the counter at most. -/
def SameContent (a b : RingSlot) : Prop := setReaderCount 0 a = setReaderCount 0 b

theorem SameContent.refl (a : RingSlot) : SameContent a a := rfl

theorem sameContent_setReaderCount (count : Nat) (a : RingSlot) :
    SameContent (setReaderCount count a) a := rfl

theorem sameContent_fetchSub (a : RingSlot) : SameContent (fetchSub a) a :=
  sameContent_setReaderCount _ a

namespace SameContent

variable {a b : RingSlot}

theorem sequence (h : SameContent a b) : a.sequence = b.sequence :=
  (RingSlot.mk.inj h).1

theorem contentGeneration (h : SameContent a b) : a.contentGeneration = b.contentGeneration :=
  (RingSlot.mk.inj h).2.1

theorem readyState (h : SameContent a b) : a.readyState = b.readyState :=
  (RingSlot.mk.inj h).2.2.1

theorem plain (h : SameContent a b) : a.plain = b.plain :=
  (RingSlot.mk.inj h).2.2.2.2.1

theorem pixels (h : SameContent a b) : a.pixels = b.pixels :=
  (RingSlot.mk.inj h).2.2.2.2.2

end SameContent

namespace RingMemory

variable {m : RingMemory} {i j : Nat} {f : RingSlot → RingSlot}

@[simp] theorem updateSlot_self : (m.updateSlot i f).slots i = f (m.slots i) :=
  Function.update_self _ _ _

theorem updateSlot_of_ne (h : j ≠ i) : (m.updateSlot i f).slots j = m.slots j :=
  Function.update_of_ne h _ _

@[simp] theorem updateSlot_contentGeneration :
    (m.updateSlot i f).contentGeneration = m.contentGeneration := rfl

@[simp] theorem updateSlot_latestSequence :
    (m.updateSlot i f).latestSequence = m.latestSequence := rfl

@[simp] theorem updateSlot_contentSignal :
    (m.updateSlot i f).contentSignal = m.contentSignal := rfl

theorem sameContent_updateSlot (hf : ∀ slot, SameContent (f slot) slot) (j : Nat) :
    SameContent ((m.updateSlot i f).slots j) (m.slots j) := by
  by_cases hj : j = i
  · subst hj
    rw [updateSlot_self]
    exact hf _
  · rw [updateSlot_of_ne hj]
    exact .refl _

theorem readerCount_updateSlot (hf : ∀ slot, (f slot).readerCount = slot.readerCount) (j : Nat) :
    ((m.updateSlot i f).slots j).readerCount = (m.slots j).readerCount := by
  by_cases hj : j = i
  · subst hj
    rw [updateSlot_self]
    exact hf _
  · rw [updateSlot_of_ne hj]

end RingMemory

open RingMemory

theorem readerCount_apply (w : PlainWrite) (slot : RingSlot) :
    (w.apply slot).readerCount = slot.readerCount := by
  cases w <;> rfl

/-! ## What a step of the producer does -/

variable {capacity : FrameCapacity} {m : RingMemory}

/-- The call has no slot yet. -/
def isEarly : ProducerState → Bool
  | .checkGeneration _ | .checkKindGeneration _ | .checkKindSignal _ | .claim _ _ _ => true
  | _ => false

inductive ProducerMove (capacity : FrameCapacity) (m : RingMemory) :
    ProducerState → ProducerOutcome → Prop
  | idle : ProducerMove capacity m .idle (goOn m .idle)
  | refused {p : ProducerState} (a : PublishCall) (result : RingPublishResult)
      (hearly : isEarly p = true) (hresult : ∀ sequence, result ≠ .published sequence) :
      ProducerMove capacity m p (answer m a result)
  | generation (a : PublishCall) (hnonzero : a.generation ≠ 0)
      (hcurrent : a.generation = m.contentGeneration) :
      ProducerMove capacity m (.checkGeneration a) (goOn m (.checkKindGeneration a))
  | kindGeneration (a : PublishCall) :
      ProducerMove capacity m (.checkKindGeneration a) (goOn m (.checkKindSignal a))
  | kindSignal (a : PublishCall) (hkind : signalKind m.contentSignal = some a.kind)
      (hfits : a.nv12.length ≤ capacity.maxFrameBytes) :
      ProducerMove capacity m (.checkKindSignal a) (goOn m (.loadWriteIndex a))
  | loadWriteIndex (a : PublishCall) : ProducerMove capacity m (.loadWriteIndex a)
      (goOn m (.claim a (m.writeIndex % ringSlotCount) 0))
  | claimed (a : PublishCall) (start offset : Nat)
      (hfree : (m.slots ((start + offset) % ringSlotCount)).readerCount = 0) :
      ProducerMove capacity m (.claim a start offset)
        (goOn (m.updateSlot ((start + offset) % ringSlotCount) (setReaderCount writerLease))
          (.markWriting a ((start + offset) % ringSlotCount)))
  | skipped (a : PublishCall) (start offset : Nat) : ProducerMove capacity m
      (.claim a start offset) (goOn m (.claim a start (offset + 1)))
  | markWriting (a : PublishCall) (index : Nat) : ProducerMove capacity m (.markWriting a index)
      (goOn (m.updateSlot index (setReady .writing)) (.write a index a.writes))
  | write (a : PublishCall) (index : Nat) (w : PlainWrite) (left : List PlainWrite) :
      ProducerMove capacity m (.write a index (w :: left))
        (goOn (m.updateSlot index w.apply) (.write a index left))
  | written (a : PublishCall) (index : Nat) (hcurrent : m.contentGeneration = a.generation) :
      ProducerMove capacity m (.write a index []) (goOn m (.loadLatest a index))
  | stale (a : PublishCall) (index : Nat) (hstale : m.contentGeneration ≠ a.generation) :
      ProducerMove capacity m (.write a index []) (goOn m (.abortReady a index))
  | abortReady (a : PublishCall) (index : Nat) : ProducerMove capacity m (.abortReady a index)
      (goOn (m.updateSlot index (setReady .empty)) (.abortLease a index))
  | abortLease (a : PublishCall) (index : Nat) : ProducerMove capacity m (.abortLease a index)
      (answer (m.updateSlot index (setReaderCount 0)) a .contentInvalidated)
  | loadLatest (a : PublishCall) (index : Nat) : ProducerMove capacity m (.loadLatest a index)
      (goOn m (.storeGeneration a index ((m.latestSequence + 1) % 2 ^ 64)))
  | storeGeneration (a : PublishCall) (index sequence : Nat) :
      ProducerMove capacity m (.storeGeneration a index sequence)
        (goOn (m.updateSlot index (setContentGeneration a.generation))
          (.storeSequence a index sequence))
  | storeSequence (a : PublishCall) (index sequence : Nat) :
      ProducerMove capacity m (.storeSequence a index sequence)
        (goOn (m.updateSlot index (setSequence sequence)) (.storeReady a index sequence))
  | storeReady (a : PublishCall) (index sequence : Nat) :
      ProducerMove capacity m (.storeReady a index sequence)
        (goOn (m.updateSlot index (setReady .done)) (.storeLease a index sequence))
  | storeLease (a : PublishCall) (index sequence : Nat) :
      ProducerMove capacity m (.storeLease a index sequence)
        (goOn (m.updateSlot index (setReaderCount 0)) (.storeLatest a index sequence))
  | storeLatest (a : PublishCall) (index sequence : Nat) :
      ProducerMove capacity m (.storeLatest a index sequence)
        (goOn { m with latestSequence := sequence } (.storeWriteIndex a index sequence))
  | storeWriteIndex (a : PublishCall) (index sequence : Nat) :
      ProducerMove capacity m (.storeWriteIndex a index sequence)
        (answer { m with writeIndex := (index + 1) % ringSlotCount } a (.published sequence))

theorem producerStep_move (p : ProducerState) :
    ProducerMove capacity m p (producerStep capacity m p) := by
  cases p with
  | idle => exact .idle
  | checkGeneration a =>
      dsimp only [producerStep]
      split
      · exact .refused a _ rfl nofun
      · rename_i hcheck
        rw [not_or, not_not] at hcheck
        exact .generation a hcheck.1 hcheck.2
  | checkKindGeneration a =>
      dsimp only [producerStep]
      split
      · exact .refused a _ rfl nofun
      · exact .kindGeneration a
  | checkKindSignal a =>
      dsimp only [producerStep]
      split
      · exact .refused a _ rfl nofun
      · rename_i hkind
        split
        · exact .refused a _ rfl nofun
        · rename_i hfits
          exact .kindSignal a (not_not.mp hkind) (Nat.not_lt.mp hfits)
  | loadWriteIndex a => exact .loadWriteIndex a
  | claim a start offset =>
      dsimp only [producerStep]
      split
      · rename_i hfree
        exact .claimed a start offset hfree
      · split
        · exact .skipped a start offset
        · exact .refused a _ rfl nofun
  | markWriting a index => exact .markWriting a index
  | write a index left =>
      cases left with
      | nil =>
          dsimp only [producerStep]
          split
          · rename_i hstale
            exact .stale a index hstale
          · rename_i hcurrent
            exact .written a index (not_not.mp hcurrent)
      | cons w left => exact .write a index w left
  | abortReady a index => exact .abortReady a index
  | abortLease a index => exact .abortLease a index
  | loadLatest a index => exact .loadLatest a index
  | storeGeneration a index sequence => exact .storeGeneration a index sequence
  | storeSequence a index sequence => exact .storeSequence a index sequence
  | storeReady a index sequence => exact .storeReady a index sequence
  | storeLease a index sequence => exact .storeLease a index sequence
  | storeLatest a index sequence => exact .storeLatest a index sequence
  | storeWriteIndex a index sequence => exact .storeWriteIndex a index sequence

/-! ## The producer's slot -/

theorem owned_of_early {p : ProducerState} (h : isEarly p = true) : owned p = none := by
  cases p <;> first | rfl | cases h

/-- How a step of the producer changes the counters. -/
inductive CountEffect (m : RingMemory) (p : ProducerState) (out : ProducerOutcome) : Prop
  | kept (hcounts : ∀ i, (out.memory.slots i).readerCount = (m.slots i).readerCount)
      (howned : owned out.next = owned p)
  | claimed (i : Nat) (hfree : (m.slots i).readerCount = 0) (hbefore : owned p = none)
      (hafter : owned out.next = some i)
      (hmemory : out.memory = m.updateSlot i (setReaderCount writerLease))
  | released (i : Nat) (hbefore : owned p = some i) (hafter : owned out.next = none)
      (hmemory : out.memory = m.updateSlot i (setReaderCount 0))

theorem ProducerMove.counts {p : ProducerState} {out : ProducerOutcome}
    (h : ProducerMove capacity m p out) : CountEffect m p out := by
  cases h with
  | refused a result hearly hresult => exact .kept (fun _ => rfl) (owned_of_early hearly).symm
  | claimed a start offset hfree => exact .claimed _ hfree rfl rfl rfl
  | write a index w left => exact .kept (readerCount_updateSlot (readerCount_apply w)) rfl
  | abortLease a index => exact .released index rfl rfl rfl
  | storeLease a index sequence => exact .released index rfl rfl rfl
  | markWriting a index => exact .kept (readerCount_updateSlot fun _ => rfl) rfl
  | abortReady a index => exact .kept (readerCount_updateSlot fun _ => rfl) rfl
  | storeGeneration a index sequence => exact .kept (readerCount_updateSlot fun _ => rfl) rfl
  | storeSequence a index sequence => exact .kept (readerCount_updateSlot fun _ => rfl) rfl
  | storeReady a index sequence => exact .kept (readerCount_updateSlot fun _ => rfl) rfl
  | _ => exact .kept (fun _ => rfl) rfl

theorem ProducerMove.other {p : ProducerState} {out : ProducerOutcome}
    (h : ProducerMove capacity m p out) {i : Nat} (hother : owned p ≠ some i) :
    SameContent (out.memory.slots i) (m.slots i) := by
  have hupdate : ∀ index, owned p = some index → ∀ f : RingSlot → RingSlot,
      SameContent ((m.updateSlot index f).slots i) (m.slots i) := by
    intro index hindex f
    have hne : i ≠ index := by
      rintro rfl
      exact hother hindex
    rw [updateSlot_of_ne hne]
    exact .refl _
  cases h with
  | claimed a start offset hfree => exact sameContent_updateSlot (sameContent_setReaderCount _) i
  | markWriting a index => exact hupdate index rfl _
  | write a index w left => exact hupdate index rfl w.apply
  | abortReady a index => exact hupdate index rfl _
  | abortLease a index => exact hupdate index rfl _
  | storeGeneration a index sequence => exact hupdate index rfl (setContentGeneration _)
  | storeSequence a index sequence => exact hupdate index rfl (setSequence _)
  | storeReady a index sequence => exact hupdate index rfl _
  | storeLease a index sequence => exact hupdate index rfl _
  | _ => exact .refl _

theorem ProducerMove.untouched {p : ProducerState} {out : ProducerOutcome}
    (h : ProducerMove capacity m p out) {i : Nat} (hother : owned p ≠ some i)
    (hread : (m.slots i).readerCount ≠ 0) : out.memory.slots i = m.slots i := by
  have hne : ∀ index, owned p = some index → i ≠ index := by
    rintro index hindex rfl
    exact hother hindex
  cases h with
  | claimed a start offset hfree =>
      refine updateSlot_of_ne ?_
      rintro rfl
      exact hread hfree
  | markWriting a index => exact updateSlot_of_ne (hne index rfl)
  | write a index w left => exact updateSlot_of_ne (hne index rfl)
  | abortReady a index => exact updateSlot_of_ne (hne index rfl)
  | abortLease a index => exact updateSlot_of_ne (hne index rfl)
  | storeGeneration a index sequence => exact updateSlot_of_ne (hne index rfl)
  | storeSequence a index sequence => exact updateSlot_of_ne (hne index rfl)
  | storeReady a index sequence => exact updateSlot_of_ne (hne index rfl)
  | storeLease a index sequence => exact updateSlot_of_ne (hne index rfl)
  | _ => rfl

theorem ProducerMove.header {p : ProducerState} {out : ProducerOutcome}
    (h : ProducerMove capacity m p out) :
    out.memory.contentGeneration = m.contentGeneration ∧
      out.memory.contentSignal = m.contentSignal := by
  cases h <;> exact ⟨rfl, rfl⟩

/-! ## Leases -/

/-- The slot that a call or its view has a lease on. -/
def leased : ReaderState → Option Nat
  | .recheckReady index _ _ | .recheckSequence index _ _ | .loadActive index _ _
  | .loadContentGeneration index _ _ _ | .release index _ => some index
  | .read view _ _ | .holding view => some view.index
  | _ => none

@[simp] theorem leased_nextCandidate (candidates : Candidates) :
    leased (nextCandidate candidates) = none := by
  unfold nextCandidate
  split <;> rfl

@[simp] theorem leased_nextScan (index : Nat) (candidates : Candidates) :
    leased (nextScan index candidates) = none := by
  unfold nextScan
  split
  · rfl
  · exact leased_nextCandidate _

@[simp] theorem leased_checkLease (index sequence : Nat) (rest : Candidates) (lease : Nat) :
    leased (checkLease index sequence rest lease) = none := by
  unfold checkLease
  split
  · exact leased_nextCandidate _
  · rfl

/-- How a step of a call, or the drop of its view, changes the memory. -/
inductive LeaseEffect (m : RingMemory) (r : ReaderState) : RingMemory × ReaderState → Prop
  | kept (next : ReaderState) (hleased : leased next = leased r) : LeaseEffect m r (m, next)
  | taken (i : Nat) (next : ReaderState) (hroom : (m.slots i).readerCount < writerLease - 1)
      (hbefore : leased r = none) (hafter : leased next = some i) :
      LeaseEffect m r (m.updateSlot i (setReaderCount ((m.slots i).readerCount + 1)), next)
  | returned (i : Nat) (next : ReaderState) (hbefore : leased r = some i)
      (hafter : leased next = none) : LeaseEffect m r (m.updateSlot i fetchSub, next)

theorem LeaseEffect.ite {r next next' : ReaderState} {c : Prop} [Decidable c]
    (h : leased next = leased r) (h' : leased next' = leased r) :
    LeaseEffect m r (m, if c then next else next') := by
  split
  · exact .kept next h
  · exact .kept next' h'

/-- A lease that is about to be taken leaves room for the mark of the producer. -/
def HasRoom : ReaderState → Prop
  | .takeLease _ _ _ lease => lease < writerLease - 1
  | _ => True

theorem hasRoom_nextCandidate (candidates : Candidates) : HasRoom (nextCandidate candidates) := by
  unfold nextCandidate
  split <;> trivial

theorem hasRoom_nextScan (index : Nat) (candidates : Candidates) :
    HasRoom (nextScan index candidates) := by
  unfold nextScan
  split
  · trivial
  · exact hasRoom_nextCandidate _

theorem hasRoom_checkLease (index sequence : Nat) (rest : Candidates) (lease : Nat) :
    HasRoom (checkLease index sequence rest lease) := by
  unfold checkLease
  split
  · exact hasRoom_nextCandidate _
  · rename_i hroom
    exact Nat.lt_of_not_le hroom

theorem readerStep_effect {spurious : Bool} {r : ReaderState} (hroom : HasRoom r) :
    LeaseEffect m r (readerStep capacity m spurious r) := by
  cases r with
  | loadGeneration => exact .ite rfl rfl
  | loadLatest => exact .ite rfl rfl
  | scanReady index candidates => exact .ite rfl (leased_nextScan _ _)
  | scanSequence index candidates => exact .kept _ (leased_nextScan _ _)
  | tryReady index sequence rest => exact .ite rfl (leased_nextCandidate _)
  | trySequence index sequence rest => exact .ite rfl (leased_nextCandidate _)
  | loadLease index sequence rest => exact .kept _ (leased_checkLease _ _ _ _)
  | takeLease index sequence rest lease =>
      dsimp only [readerStep]
      split
      · rename_i htaken
        rw [← htaken.1]
        exact .taken index _ (htaken.1 ▸ hroom) rfl rfl
      · exact .kept _ (leased_checkLease _ _ _ _)
  | recheckReady index sequence rest => exact .ite rfl rfl
  | recheckSequence index sequence rest => exact .ite rfl rfl
  | loadActive index sequence rest => exact .ite rfl rfl
  | loadContentGeneration index sequence rest active => exact .ite rfl rfl
  | read view rest left =>
      cases left with
      | nil => exact .ite rfl rfl
      | cons field left => exact .kept _ rfl
  | release index rest => exact .returned index _ rfl (leased_nextCandidate _)
  | holding view => exact .kept _ rfl
  | returnedNone => exact .kept _ rfl
  | dropped view => exact .kept _ rfl

theorem dropView_effect (r : ReaderState) : LeaseEffect m r (dropView m r) := by
  cases r with
  | holding view => exact .returned view.index _ rfl rfl
  | _ => exact .kept _ rfl

theorem LeaseEffect.sameContent {r : ReaderState} {out : RingMemory × ReaderState}
    (h : LeaseEffect m r out) (i : Nat) : SameContent (out.1.slots i) (m.slots i) := by
  cases h with
  | kept next hleased => exact .refl _
  | taken j next hroom hbefore hafter =>
      exact sameContent_updateSlot (sameContent_setReaderCount _) i
  | returned j next hbefore hafter => exact sameContent_updateSlot sameContent_fetchSub i

theorem LeaseEffect.header {r : ReaderState} {out : RingMemory × ReaderState}
    (h : LeaseEffect m r out) : out.1.contentGeneration = m.contentGeneration ∧
      out.1.contentSignal = m.contentSignal ∧ out.1.latestSequence = m.latestSequence ∧
        out.1.writeIndex = m.writeIndex := by
  cases h <;> exact ⟨rfl, rfl, rfl, rfl⟩

/-! ## The counters -/

/-- A counter holds the producer's mark or the number of the leases. -/
structure Exclusive (m : RingMemory) (owner : Option Nat) (leases : Nat → Nat) : Prop where
  counter : ∀ i, (m.slots i).readerCount = if owner = some i then writerLease else leases i
  apart : ∀ i, owner = some i → leases i = 0
  bound : ∀ i, leases i < writerLease

namespace Exclusive

variable {owner : Option Nat} {count count' : Nat → Nat}

theorem counter_free (h : Exclusive m owner count) {i : Nat} (hfree : owner ≠ some i) :
    (m.slots i).readerCount = count i := by
  rw [h.counter i, if_neg hfree]

theorem not_owned (h : Exclusive m owner count) {i : Nat} (hleased : 0 < count i) :
    owner ≠ some i := by
  intro howned
  have := h.apart i howned
  omega

theorem producer {p : ProducerState} {out : ProducerOutcome} (h : Exclusive m (owned p) count)
    (heffect : CountEffect m p out) : Exclusive out.memory (owned out.next) count := by
  cases heffect with
  | kept hcounts howned =>
      rw [howned]
      refine ⟨?_, h.apart, h.bound⟩
      intro i
      rw [hcounts i]
      exact h.counter i
  | claimed i hfree hbefore hafter hmemory =>
      rw [hbefore] at h
      have hcount : count i = 0 := by
        rw [← h.counter_free (by simp)]
        exact hfree
      rw [hafter, hmemory]
      refine ⟨?_, ?_, h.bound⟩
      · intro j
        by_cases hj : j = i
        · subst hj
          rw [updateSlot_self, if_pos rfl]
          rfl
        · rw [updateSlot_of_ne hj, h.counter_free (by simp), if_neg]
          rintro heq
          exact hj (Option.some.inj heq).symm
      · intro j hj
        rw [← Option.some.inj hj]
        exact hcount
  | released i hbefore hafter hmemory =>
      rw [hbefore] at h
      rw [hafter, hmemory]
      refine ⟨?_, ?_, h.bound⟩
      swap
      · intro j hj
        cases hj
      intro j
      rw [if_neg (by simp)]
      by_cases hj : j = i
      · subst hj
        rw [updateSlot_self, h.apart j rfl]
        rfl
      · rw [updateSlot_of_ne hj]
        apply h.counter_free
        rintro heq
        exact hj (Option.some.inj heq).symm

theorem reader {r : ReaderState} {out : RingMemory × ReaderState}
    (h : Exclusive m owner count) (heffect : LeaseEffect m r out)
    (hheld : ∀ i, leased r = some i → 0 < count i)
    (hcount : ∀ i, count' i + (if leased r = some i then 1 else 0) =
      count i + if leased out.2 = some i then 1 else 0) : Exclusive out.1 owner count' := by
  have hlease : 1 < writerLease := by unfold writerLease; omega
  cases heffect with
  | kept next hleased =>
      have hsame : ∀ i, count' i = count i := by
        intro i
        have := hcount i
        rw [hleased] at this
        omega
      refine ⟨?_, ?_, ?_⟩
      · intro i
        rw [hsame i]
        exact h.counter i
      · intro i howned
        rw [hsame i]
        exact h.apart i howned
      · intro i
        rw [hsame i]
        exact h.bound i
  | taken i next hroom hbefore hafter =>
      have hfree : owner ≠ some i := by
        intro howned
        rw [h.counter i, if_pos howned] at hroom
        omega
      have hcounter := h.counter_free hfree
      have hnext : ∀ j, count' j = if j = i then count i + 1 else count j := by
        intro j
        have := hcount j
        simp only [hbefore, hafter, Option.some.injEq, reduceCtorEq, if_false, Nat.add_zero] at this
        by_cases hj : j = i
        · subst hj
          simpa using this
        · rw [if_neg (fun heq => hj heq.symm)] at this
          rw [if_neg hj]
          exact this
      refine ⟨?_, ?_, ?_⟩
      · intro j
        rw [hnext j]
        by_cases hj : j = i
        · subst hj
          rw [updateSlot_self, if_neg hfree, if_pos rfl, hcounter]
          rfl
        · rw [updateSlot_of_ne hj, if_neg hj]
          exact h.counter j
      · intro j howned
        rw [hnext j, if_neg]
        · exact h.apart j howned
        · rintro rfl
          exact hfree howned
      · intro j
        rw [hnext j]
        split
        · omega
        · exact h.bound j
  | returned i next hbefore hafter =>
      have hpos := hheld i hbefore
      have hfree := h.not_owned hpos
      have hcounter := h.counter_free hfree
      have hnext : ∀ j, count' j = if j = i then count i - 1 else count j := by
        intro j
        have := hcount j
        simp only [hbefore, hafter, Option.some.injEq, reduceCtorEq, if_false, Nat.add_zero] at this
        by_cases hj : j = i
        · subst hj
          rw [if_pos rfl] at this ⊢
          omega
        · rw [if_neg (fun heq => hj heq.symm)] at this
          rw [if_neg hj]
          exact this
      refine ⟨?_, ?_, ?_⟩
      · intro j
        rw [hnext j]
        by_cases hj : j = i
        · subst hj
          rw [updateSlot_self, if_neg hfree, if_pos rfl]
          have hbound := h.bound j
          unfold writerLease at hbound
          change ((m.slots j).readerCount + (2 ^ 32 - 1)) % 2 ^ 32 = count j - 1
          omega
        · rw [updateSlot_of_ne hj, if_neg hj]
          exact h.counter j
      · intro j howned
        rw [hnext j, if_neg]
        · exact h.apart j howned
        · rintro rfl
          exact hfree howned
      · intro j
        rw [hnext j]
        have := h.bound j
        split
        · rename_i hj
          subst hj
          omega
        · exact this

end Exclusive

def leases (readers : List ReaderCall) (i : Nat) : Nat :=
  readers.countP fun call => leased call.state = some i

theorem leases_pos {readers : List ReaderCall} {call : ReaderCall} {i : Nat}
    (hmem : call ∈ readers) (hleased : leased call.state = some i) : 0 < leases readers i :=
  List.countP_pos_iff.mpr ⟨call, hmem, by simpa using hleased⟩

theorem leases_set {readers : List ReaderCall} {k : Nat} {call : ReaderCall}
    (h : readers[k]? = some call) (next : ReaderState) (i : Nat) :
    leases (readers.set k { call with state := next }) i +
        (if leased call.state = some i then 1 else 0) =
      leases readers i + if leased next = some i then 1 else 0 := by
  obtain ⟨hk, hcall⟩ := List.getElem?_eq_some_iff.mp h
  unfold leases
  rw [List.countP_set hk, hcall]
  simp only [decide_eq_true_eq]
  have hheld : (if leased call.state = some i then 1 else 0) ≤
      readers.countP fun call => leased call.state = some i := by
    split
    · rename_i hleased
      exact leases_pos (List.mem_of_getElem? h) hleased
    · exact Nat.zero_le _
  omega

theorem leases_append {readers : List ReaderCall} {call : ReaderCall}
    (h : leased call.state = none) (i : Nat) :
    leases (readers ++ [call]) i = leases readers i := by
  unfold leases
  rw [List.countP_append]
  simp [h]

end PicooCamera.SharedRing
