import PicooCamera.SharedRing.FenceContract

/-!
# What a call comes across

A call of `latest_frame` looks at one slot after the other, and then tries the
candidates, the newest first. A slot that stays available while the call looks
for it is found, or a newer one is.
-/

namespace PicooCamera.SharedRing

open PicooCamera.Library RingMemory

variable {capacity : FrameCapacity} {m m' : RingMemory} {s t : RingState}

/-! ## Slots and calls that are well formed -/

structure Formed (capacity : FrameCapacity) (s : RingState) : Prop where
  owned_lt : ∀ i, owned s.producer = some i → i < ringSlotCount
  done_lt : ∀ i, (s.memory.slots i).readyState = .done → i < ringSlotCount
  fits : ∀ a, signalledCall s.producer = some a → a.nv12.length ≤ capacity.maxFrameBytes
  nonzero : ∀ a, admittedCall s.producer = some a → a.generation ≠ 0
  publications : ∀ pub ∈ s.completed, pub.call.nv12.length ≤ capacity.maxFrameBytes ∧
    pub.call.generation ≠ 0

theorem ProducerMove.owned_lt {p : ProducerState} {out : ProducerOutcome}
    (h : ProducerMove capacity m p out) {i : Nat} (hnext : owned out.next = some i) :
    owned p = some i ∨ i < ringSlotCount := by
  cases h with
  | claimed a start offset hfree =>
      cases hnext
      exact Or.inr (Nat.mod_lt _ (by decide))
  | _ => first | exact Or.inl hnext | cases hnext

namespace Formed

theorem new (m : RingMemory) : Formed capacity (Ring.new m) := by
  constructor
  · exact nofun
  · exact nofun
  · exact nofun
  · exact nofun
  · exact nofun

theorem producer (h : Formed capacity s) : Formed capacity (Ring.stepProducer capacity s) := by
  have hmove := @producerStep_move capacity s.memory s.producer
  constructor
  · intro i hi
    rcases hmove.owned_lt hi with hold | hlt
    · exact h.owned_lt i hold
    · exact hlt
  · intro i hdone
    by_cases hown : owned s.producer = some i
    · exact h.owned_lt i hown
    · exact h.done_lt i ((hmove.other hown).readyState.symm.trans hdone)
  · intro a ha
    rcases hmove.signalledCall ha with hold | ⟨-, -, hfits⟩
    · exact h.fits a hold
    · exact hfits
  · intro a ha
    rcases hmove.admittedCall ha with hold | ⟨hnonzero, -⟩
    · exact h.nonzero a hold
    · exact hnonzero
  · intro pub hpub
    rcases List.mem_append.mp hpub with hold | hnew
    · exact h.publications pub hold
    · obtain ⟨a, index, sequence, hp, rfl⟩ := mem_marksDone hnew
      exact ⟨h.fits a (by rw [hp]; rfl), h.nonzero a (by rw [hp]; rfl)⟩

theorem of_sameContent (h : Formed capacity s)
    (hsame : ∀ i, SameContent (m.slots i) (s.memory.slots i)) {readers : List ReaderCall}
    {invalidators : List InvalidatorState} :
    Formed capacity { s with memory := m, readers := readers, invalidators := invalidators } where
  owned_lt := h.owned_lt
  done_lt i hdone := h.done_lt i ((hsame i).readyState.symm.trans hdone)
  fits := h.fits
  nonzero := h.nonzero
  publications := h.publications

theorem move (h : Formed capacity s) (hring : RingInvariant s) {step : RingStep}
    (hmove : RingMove capacity s step t) : Formed capacity t := by
  cases hmove with
  | still => exact h
  | publish a hidle => exact ⟨nofun, h.done_lt, nofun, nofun, h.publications⟩
  | producer => exact h.producer
  | called consumer hfree => exact h.of_sameContent fun _ => .refl _
  | reader k spurious call hk =>
      have hroom := hring.room call (List.mem_of_getElem? hk)
      exact h.of_sameContent (readerStep_effect hroom).sameContent
  | dropView k call hk => exact h.of_sameContent (dropView_effect call.state).sameContent
  | invalidate => exact h.of_sameContent fun _ => .refl _
  | invalidateAs kind => exact h.of_sameContent fun _ => .refl _
  | invalidator k spurious state hk =>
      refine h.of_sameContent fun i => ?_
      rw [(invalidatorStep_slots state).1]
      exact .refl _

end Formed

theorem formed_of_reachable (h : (ringSystem capacity m).Reachable s) : Formed capacity s := by
  refine h.invariant_of (fun _ hs => ringInvariant_of_reachable hs) ?_ ?_
  · rintro _ rfl
    exact .new m
  · rintro s step _ hring hs rfl
    exact hs.move hring (ringStep_move step)

/-! ## Candidates -/

/-- The candidates that are left, the one that is tried first, and the bounds of all. -/
def candidates : ReaderState → Candidates
  | .scanReady _ found | .scanSequence _ found => found
  | .tryReady index sequence rest | .trySequence index sequence rest
  | .loadLease index sequence rest | .takeLease index sequence rest _
  | .recheckReady index sequence rest | .recheckSequence index sequence rest
  | .loadActive index sequence rest | .loadContentGeneration index sequence rest _ =>
      (index, sequence) :: rest
  | .read view rest _ => (view.index, view.sequence) :: rest
  | .release _ rest => rest
  | .holding view => [(view.index, view.sequence)]
  | _ => []

def scanning : ReaderState → Bool
  | .loadGeneration | .loadLatest | .scanReady _ _ | .scanSequence _ _ => true
  | _ => false

/-- The slots that a call has yet to look at begin here. -/
def scanIndex : ReaderState → Nat
  | .loadGeneration | .loadLatest => 0
  | .scanReady index _ | .scanSequence index _ => index
  | _ => ringSlotCount

/-- The call has yet to look at the slot, or has its frame as a candidate. -/
def CountsOn (m : RingMemory) (r : ReaderState) (i : Nat) : Prop :=
  scanIndex r ≤ i ∧ i < ringSlotCount ∨ (i, (m.slots i).sequence) ∈ candidates r

/-- The candidates stand in the order of their sequences, once the slots were looked at. -/
def Ordered (r : ReaderState) : Prop :=
  scanning r = false → (candidates r).Pairwise fun first second => second.2 ≤ first.2

/-! ## The next state of a call -/

@[simp] theorem candidates_nextCandidate (rest : Candidates) :
    candidates (nextCandidate rest) = rest := by
  cases rest <;> rfl

@[simp] theorem scanning_nextCandidate (rest : Candidates) :
    scanning (nextCandidate rest) = false := by
  cases rest <;> rfl

theorem mem_sortCandidates {entry : Nat × Nat} {found : Candidates} :
    entry ∈ sortCandidates found ↔ entry ∈ found :=
  List.mem_mergeSort

theorem sortCandidates_ordered (found : Candidates) :
    (sortCandidates found).Pairwise fun first second => second.2 ≤ first.2 := by
  have hsorted : (sortCandidates found).Pairwise
      fun first second => decide (second.2 ≤ first.2) = true := by
    apply List.pairwise_mergeSort
    · intro a b c hab hbc
      simp only [decide_eq_true_eq] at hab hbc ⊢
      exact hbc.trans hab
    · intro a b
      simp only [Bool.or_eq_true, decide_eq_true_eq]
      exact Nat.le_total _ _
  exact hsorted.imp of_decide_eq_true

theorem scanIndex_of_not_scanning {r : ReaderState} (h : scanning r = false) :
    scanIndex r = ringSlotCount := by
  cases r <;> first | rfl | cases h

/-- The call has seen that a frame was published. -/
def pastLatest : ReaderState → Bool
  | .loadGeneration | .loadLatest | .returnedNone => false
  | _ => true

theorem pastLatest_readerStep {spurious : Bool} {r : ReaderState}
    (h : pastLatest (readerStep capacity m spurious r).2 = true) :
    pastLatest r = true ∨ m.latestSequence ≠ 0 := by
  cases r with
  | loadGeneration =>
      dsimp only [readerStep] at h
      split at h <;> cases h
  | loadLatest =>
      dsimp only [readerStep] at h
      split at h
      · cases h
      · rename_i hne
        exact Or.inr hne
  | returnedNone => cases h
  | _ => exact Or.inl rfl

/-- Why a call gives up the candidate that it tries. -/
def Fails (capacity : FrameCapacity) (m : RingMemory) (r : ReaderState)
    (index sequence : Nat) : Prop :=
  (m.slots index).readyState ≠ .done ∨ (m.slots index).sequence ≠ sequence ∨
    writerLease - 1 ≤ (m.slots index).readerCount ∨ m.contentGeneration = 0 ∨
      (∃ rest active, r = .loadContentGeneration index sequence rest active ∧
        (m.slots index).contentGeneration ≠ active) ∨
      ∃ view rest, r = .read view rest [] ∧ ¬view.valid capacity

/-- What a step of a call does to its candidates. -/
inductive LookupMove (capacity : FrameCapacity) (m : RingMemory) :
    ReaderState → ReaderState → Prop
  | empty {r : ReaderState} (hscanning : scanning r = true)
      (hempty : m.contentGeneration = 0 ∨ m.latestSequence = 0) :
      LookupMove capacity m r .returnedNone
  | same {r r' : ReaderState} (hcandidates : candidates r' = candidates r)
      (hscan : scanIndex r' = scanIndex r) (hscanning : scanning r' = scanning r) :
      LookupMove capacity m r r'
  | passed (index : Nat) (found : Candidates) (hnot : (m.slots index).readyState ≠ .done) :
      LookupMove capacity m (.scanReady index found) (nextScan index found)
  | found (index : Nat) (found : Candidates) :
      LookupMove capacity m (.scanSequence index found) (nextScan index
        (if (m.slots index).sequence = 0 then found
          else found ++ [(index, (m.slots index).sequence)]))
  | failed {r r' : ReaderState} (index sequence : Nat) (rest : Candidates)
      (hcandidates : candidates r = (index, sequence) :: rest) (hnext : candidates r' = rest)
      (hscanning : scanning r = false) (hscanning' : scanning r' = false)
      (hfails : Fails capacity m r index sequence) : LookupMove capacity m r r'
  | returned (view : SharedFrameView) (rest : Candidates) :
      LookupMove capacity m (.read view rest []) (.holding view)

theorem lookupMove_checkLease {r : ReaderState} {index sequence : Nat} {rest : Candidates}
    (hcandidates : candidates r = (index, sequence) :: rest) (hscanning : scanning r = false) :
    LookupMove capacity m r (checkLease index sequence rest (m.slots index).readerCount) := by
  unfold checkLease
  split
  · rename_i hmany
    exact .failed index sequence rest hcandidates (candidates_nextCandidate _) hscanning
      (scanning_nextCandidate _) (Or.inr (Or.inr (Or.inl hmany)))
  · exact .same hcandidates.symm (scanIndex_of_not_scanning hscanning).symm hscanning.symm

theorem readerStep_lookup {spurious : Bool} (r : ReaderState) :
    LookupMove capacity m r (readerStep capacity m spurious r).2 := by
  cases r with
  | loadGeneration =>
      dsimp only [readerStep]
      split
      · rename_i hzero
        exact .empty rfl (Or.inl hzero)
      · exact .same rfl rfl rfl
  | loadLatest =>
      dsimp only [readerStep]
      split
      · rename_i hzero
        exact .empty rfl (Or.inr hzero)
      · exact .same rfl rfl rfl
  | scanReady index found =>
      dsimp only [readerStep]
      split
      · exact .same rfl rfl rfl
      · rename_i hnot
        exact .passed index found hnot
  | scanSequence index found => exact .found index found
  | tryReady index sequence rest =>
      dsimp only [readerStep]
      split
      · exact .same rfl rfl rfl
      · rename_i hnot
        exact .failed index sequence rest rfl (candidates_nextCandidate _) rfl
          (scanning_nextCandidate _) (Or.inl hnot)
  | trySequence index sequence rest =>
      dsimp only [readerStep]
      split
      · exact .same rfl rfl rfl
      · rename_i hnot
        exact .failed index sequence rest rfl (candidates_nextCandidate _) rfl
          (scanning_nextCandidate _) (Or.inr (Or.inl hnot))
  | loadLease index sequence rest => exact lookupMove_checkLease rfl rfl
  | takeLease index sequence rest lease =>
      dsimp only [readerStep]
      split
      · exact .same rfl rfl rfl
      · exact lookupMove_checkLease rfl rfl
  | recheckReady index sequence rest =>
      dsimp only [readerStep]
      split
      · exact .same rfl rfl rfl
      · rename_i hnot
        exact .failed index sequence rest rfl rfl rfl rfl (Or.inl hnot)
  | recheckSequence index sequence rest =>
      dsimp only [readerStep]
      split
      · exact .same rfl rfl rfl
      · rename_i hnot
        exact .failed index sequence rest rfl rfl rfl rfl (Or.inr (Or.inl hnot))
  | loadActive index sequence rest =>
      dsimp only [readerStep]
      split
      · rename_i hzero
        exact .failed index sequence rest rfl rfl rfl rfl
          (Or.inr (Or.inr (Or.inr (Or.inl hzero))))
      · exact .same rfl rfl rfl
  | loadContentGeneration index sequence rest active =>
      dsimp only [readerStep]
      split
      · exact .same rfl rfl rfl
      · rename_i hnot
        exact .failed index sequence rest rfl rfl rfl rfl
          (Or.inr (Or.inr (Or.inr (Or.inr (Or.inl ⟨rest, active, rfl, hnot⟩)))))
  | read view rest left =>
      cases left with
      | nil =>
          dsimp only [readerStep]
          split
          · exact .returned view rest
          · rename_i hnot
            exact .failed view.index view.sequence rest rfl rfl rfl rfl
              (Or.inr (Or.inr (Or.inr (Or.inr (Or.inr ⟨view, rest, rfl, hnot⟩)))))
      | cons field left => exact .same rfl rfl rfl
  | release index rest =>
      refine .same (candidates_nextCandidate _) ?_ (scanning_nextCandidate _)
      exact scanIndex_of_not_scanning (scanning_nextCandidate _)
  | holding view => exact .same rfl rfl rfl
  | returnedNone => exact .same rfl rfl rfl
  | dropped view => exact .same rfl rfl rfl

/-! ## Order and bounds of the candidates -/

theorem ordered_nextScan (index : Nat) (found : Candidates) : Ordered (nextScan index found) := by
  unfold nextScan
  split
  · exact nofun
  · intro _
    rw [candidates_nextCandidate]
    exact sortCandidates_ordered found

theorem LookupMove.ordered {r r' : ReaderState} (h : LookupMove capacity m r r')
    (hordered : Ordered r) : Ordered r' := by
  cases h with
  | empty hscanning hempty => exact fun _ => List.Pairwise.nil
  | same hcandidates hscan hscanning =>
      intro hnot
      rw [hcandidates]
      exact hordered (hscanning.symm.trans hnot)
  | passed index found hnot => exact ordered_nextScan _ _
  | found index found => exact ordered_nextScan _ _
  | failed index sequence rest hcandidates hnext hscanning hscanning' hfails =>
      intro _
      have hall := hordered hscanning
      rw [hcandidates] at hall
      rw [hnext]
      exact (List.pairwise_cons.mp hall).2
  | returned view rest => exact fun _ => List.pairwise_singleton _ _

/-- A candidate is a slot of the ring, and has a sequence. -/
structure Listed (r : ReaderState) : Prop where
  candidates : ∀ entry ∈ SharedRing.candidates r, entry.1 < ringSlotCount ∧ entry.2 ≠ 0
  scanning : scanning r = true → scanIndex r < ringSlotCount

theorem listed_nextScan {index : Nat} {found : Candidates}
    (h : ∀ entry ∈ found, entry.1 < ringSlotCount ∧ entry.2 ≠ 0) :
    Listed (nextScan index found) := by
  unfold nextScan
  split
  · rename_i hlt
    exact ⟨h, fun _ => hlt⟩
  · refine ⟨?_, ?_⟩
    · rw [candidates_nextCandidate]
      exact fun entry hentry => h entry (mem_sortCandidates.mp hentry)
    · rw [scanning_nextCandidate]
      exact nofun

theorem LookupMove.listed {r r' : ReaderState} (h : LookupMove capacity m r r')
    (hlisted : Listed r) : Listed r' := by
  cases h with
  | empty hscanning hempty => exact ⟨nofun, nofun⟩
  | same hcandidates hscan hscanning =>
      refine ⟨?_, ?_⟩
      · rw [hcandidates]
        exact hlisted.candidates
      · rw [hscanning, hscan]
        exact hlisted.scanning
  | passed index found hnot => exact listed_nextScan hlisted.candidates
  | found index found =>
      apply listed_nextScan
      intro entry hentry
      split at hentry
      · exact hlisted.candidates entry hentry
      · rename_i hne
        rcases List.mem_append.mp hentry with hold | hnew
        · exact hlisted.candidates entry hold
        · rw [List.mem_singleton.mp hnew]
          exact ⟨hlisted.scanning rfl, hne⟩
  | failed index sequence rest hcandidates hnext hscanning hscanning' hfails =>
      refine ⟨?_, ?_⟩
      · rw [hnext]
        intro entry hentry
        apply hlisted.candidates
        rw [hcandidates]
        exact List.mem_cons_of_mem _ hentry
      · rw [hscanning']
        exact nofun
  | returned view rest =>
      refine ⟨?_, nofun⟩
      intro entry hentry
      rw [List.mem_singleton.mp hentry]
      exact hlisted.candidates _ List.mem_cons_self

/-! ## A slot that stays available -/

/-- The slot keeps a frame that a call would return. -/
structure Readable (m : RingMemory) (i : Nat) : Prop where
  inRange : i < ringSlotCount
  done : (m.slots i).readyState = .done
  sequence : (m.slots i).sequence ≠ 0
  generation : (m.slots i).contentGeneration = m.contentGeneration
  nonzero : m.contentGeneration ≠ 0
  room : (m.slots i).readerCount < writerLease - 1

theorem counts_nextScan {index i : Nat} {found : Candidates} (hlt : i < ringSlotCount)
    (h : index < i ∨ (i, (m.slots i).sequence) ∈ found) : CountsOn m (nextScan index found) i := by
  unfold nextScan
  split
  · exact h.imp (fun hindex => ⟨hindex, hlt⟩) id
  · rename_i hlast
    right
    rw [candidates_nextCandidate]
    apply mem_sortCandidates.mpr
    exact h.resolve_left (by omega)

/-- What a call counts on it still counts on after its step, or it has returned a frame that is
as new. -/
theorem LookupMove.counts {r r' : ReaderState} (h : LookupMove capacity m r r') {i : Nat}
    (hordered : Ordered r) (hreadable : Readable m i) (hstarted : m.latestSequence ≠ 0)
    (hactive : ∀ index sequence rest active,
      r = .loadContentGeneration index sequence rest active → active = m.contentGeneration)
    (hvalid : ∀ view rest, r = .read view rest [] → view.valid capacity)
    (hcounts : CountsOn m r i) : CountsOn m r' i ∨
      ∃ view, r' = .holding view ∧ (m.slots i).sequence ≤ view.sequence := by
  cases h with
  | empty hscanning hempty =>
      exact absurd hempty (by simp [hreadable.nonzero, hstarted])
  | same hcandidates hscan hscanning =>
      left
      unfold CountsOn at hcounts ⊢
      rw [hcandidates, hscan]
      exact hcounts
  | passed index found hnot =>
      left
      apply counts_nextScan hreadable.inRange
      refine hcounts.imp (fun hscan => ?_) id
      refine Nat.lt_of_le_of_ne hscan.1 ?_
      rintro heq
      have hindex : index = i := heq
      rw [hindex] at hnot
      exact hnot hreadable.done
  | found index found =>
      left
      apply counts_nextScan hreadable.inRange
      rcases hcounts with ⟨hscan, -⟩ | hmem
      · rcases Nat.lt_or_eq_of_le hscan with hlt | heq
        · exact Or.inl hlt
        · have hindex : index = i := heq
          rw [hindex, if_neg hreadable.sequence]
          exact Or.inr (List.mem_append_right _ (List.mem_singleton_self _))
      · right
        split
        · exact hmem
        · exact List.mem_append_left _ hmem
  | failed index sequence rest hcandidates hnext hscanning hscanning' hfails =>
      left
      right
      rw [hnext]
      have hmem := hcounts.resolve_left fun hscan => by
        rw [scanIndex_of_not_scanning hscanning] at hscan
        exact absurd hscan.2 (Nat.not_lt.mpr hscan.1)
      rw [hcandidates] at hmem
      refine (List.mem_cons.mp hmem).resolve_left fun heq => ?_
      obtain ⟨rfl, rfl⟩ := Prod.mk.inj heq
      rcases hfails with hnot | hnot | hmany | hzero | ⟨rest', active, hr, hnot⟩ |
        ⟨view, rest', hr, hnot⟩
      · exact hnot hreadable.done
      · exact hnot rfl
      · exact absurd hreadable.room (Nat.not_lt.mpr hmany)
      · exact hreadable.nonzero hzero
      · rw [hactive _ _ _ _ hr] at hnot
        exact hnot hreadable.generation
      · exact hnot (hvalid view rest' hr)
  | returned view rest =>
      right
      refine ⟨view, rfl, ?_⟩
      have hmem := hcounts.resolve_left fun hscan => absurd hscan.2 (Nat.not_lt.mpr hscan.1)
      rcases List.mem_cons.mp hmem with heq | hrest
      · exact (Prod.mk.inj heq).2.le
      · exact (List.pairwise_cons.mp (hordered rfl)).1 _ hrest

end PicooCamera.SharedRing
