import PicooCamera.SharedRing.Freshness

/-!
# What a consumer's step does to the debts

A call that takes a step still comes across what pays its debts, or it returns a
frame that pays them. The frame that it returns, a later call comes across too.
-/

namespace PicooCamera.SharedRing

open PicooCamera.Library PicooCamera.Library.TransitionSystem RingMemory

variable {capacity : FrameCapacity} {m : RingMemory} {s : RingState} {k : Nat}
  {call : ReaderCall} {out : RingMemory × ReaderState}

/-! ## The next state of a call -/

@[simp] theorem shown_nextCandidate (rest : Candidates) : shown (nextCandidate rest) = none := by
  cases rest <;> rfl

@[simp] theorem shown_nextScan (index : Nat) (found : Candidates) :
    shown (nextScan index found) = none := by
  unfold nextScan
  split
  · rfl
  · exact shown_nextCandidate _

@[simp] theorem shown_checkLease (index sequence : Nat) (rest : Candidates) (lease : Nat) :
    shown (checkLease index sequence rest lease) = none := by
  unfold checkLease
  split
  · exact shown_nextCandidate _
  · rfl

theorem shown_ite {c : Prop} [Decidable c] {r r' : ReaderState} (h : shown r = none)
    (h' : shown r' = none) : shown (if c then r else r') = none := by
  split
  · exact h
  · exact h'

theorem readerStep_shown {spurious : Bool} {r : ReaderState} (hbusy : Ring.returned r = false)
    {sequence : Nat} (h : shown (readerStep capacity m spurious r).2 = some sequence) :
    ∃ view rest, r = .read view rest [] ∧ view.sequence = sequence := by
  have hnot : shown (readerStep capacity m spurious r).2 ≠ none := by
    rw [h]
    nofun
  cases r with
  | loadGeneration => exact (hnot (shown_ite rfl rfl)).elim
  | loadLatest => exact (hnot (shown_ite rfl rfl)).elim
  | scanReady index found => exact (hnot (shown_ite rfl (shown_nextScan _ _))).elim
  | scanSequence index found => exact (hnot (shown_nextScan _ _)).elim
  | tryReady index sequence rest => exact (hnot (shown_ite rfl (shown_nextCandidate _))).elim
  | trySequence index sequence rest => exact (hnot (shown_ite rfl (shown_nextCandidate _))).elim
  | loadLease index sequence rest => exact (hnot (shown_checkLease _ _ _ _)).elim
  | takeLease index sequence rest lease =>
      refine (hnot ?_).elim
      dsimp only [readerStep]
      split
      · rfl
      · exact shown_checkLease _ _ _ _
  | recheckReady index sequence rest => exact (hnot (shown_ite rfl rfl)).elim
  | recheckSequence index sequence rest => exact (hnot (shown_ite rfl rfl)).elim
  | loadActive index sequence rest => exact (hnot (shown_ite rfl rfl)).elim
  | loadContentGeneration index sequence rest active => exact (hnot (shown_ite rfl rfl)).elim
  | read view rest left =>
      cases left with
      | nil =>
          dsimp only [readerStep] at h
          split at h
          · exact ⟨view, rest, rfl, Option.some.inj h⟩
          · cases h
      | cons field left => cases h
  | release index rest => exact (hnot (shown_nextCandidate _)).elim
  | holding view => cases hbusy
  | returnedNone => cases hbusy
  | dropped view => cases hbusy

theorem readerStep_returned {spurious : Bool} {r : ReaderState}
    (h : Ring.returned r = true) : readerStep capacity m spurious r = (m, r) := by
  cases r <;> first | rfl | cases h

theorem readerStep_takes {spurious : Bool} {r : ReaderState} {i : Nat}
    (hbefore : leased r = none)
    (hafter : leased (readerStep capacity m spurious r).2 = some i) :
    ∃ sequence rest, r = .takeLease i sequence rest (m.slots i).readerCount := by
  have hnot : leased (readerStep capacity m spurious r).2 ≠ none := by
    rw [hafter]
    nofun
  have hite : ∀ {c : Prop} [Decidable c] {r r' : ReaderState}, leased r = none →
      leased r' = none → leased (if c then r else r') = none := by
    intro c _ r r' h h'
    split
    · exact h
    · exact h'
  cases r with
  | loadGeneration => exact (hnot (hite rfl rfl)).elim
  | loadLatest => exact (hnot (hite rfl rfl)).elim
  | scanReady index found => exact (hnot (hite rfl (leased_nextScan _ _))).elim
  | scanSequence index found => exact (hnot (leased_nextScan _ _)).elim
  | tryReady index sequence rest => exact (hnot (hite rfl (leased_nextCandidate _))).elim
  | trySequence index sequence rest => exact (hnot (hite rfl (leased_nextCandidate _))).elim
  | loadLease index sequence rest => exact (hnot (leased_checkLease _ _ _ _)).elim
  | takeLease index sequence rest lease =>
      dsimp only [readerStep] at hafter hnot
      split at hafter
      · rename_i htaken
        cases hafter
        rw [htaken.1]
        exact ⟨sequence, rest, rfl⟩
      · rw [leased_checkLease] at hafter
        cases hafter
  | returnedNone => cases hafter
  | dropped view => cases hafter
  | _ => cases hbefore

theorem readerStep_loads {spurious : Bool} {r : ReaderState} {index sequence active : Nat}
    {rest : Candidates}
    (h : (readerStep capacity m spurious r).2 = .loadContentGeneration index sequence rest active) :
    active = m.contentGeneration := by
  have hafter : leased (readerStep capacity m spurious r).2 = some index := by
    rw [h]
    rfl
  have hite : ∀ {c : Prop} [Decidable c] {next next' : ReaderState},
      (if c then next else next') = .loadContentGeneration index sequence rest active →
        next = .loadContentGeneration index sequence rest active ∨
          next' = .loadContentGeneration index sequence rest active := by
    intro c _ next next' heq
    split at heq
    · exact Or.inl heq
    · exact Or.inr heq
  cases hbefore : leased r with
  | none =>
      obtain ⟨sequence', rest', rfl⟩ := readerStep_takes hbefore hafter
      dsimp only [readerStep] at h
      split at h
      · cases h
      · have hnone := leased_checkLease index sequence' rest' (m.slots index).readerCount
        rw [show checkLease index sequence' rest' _ = _ from h] at hnone
        cases hnone
  | some i =>
      cases r with
      | recheckReady index' sequence' rest' => exact (hite h).elim nofun nofun
      | recheckSequence index' sequence' rest' => exact (hite h).elim nofun nofun
      | loadActive index' sequence' rest' =>
          dsimp only [readerStep] at h
          split at h
          · cases h
          · cases h
            rfl
      | loadContentGeneration index' sequence' rest' active' => exact (hite h).elim nofun nofun
      | read view rest' left =>
          cases left with
          | nil => exact (hite h).elim nofun nofun
          | cons field left => cases h
      | release index' rest' =>
          have hnone := leased_nextCandidate rest'
          rw [show nextCandidate rest' = _ from h] at hnone
          cases hnone
      | holding view => cases h
      | _ => cases hbefore

/-- The call that is number `k` goes on to another state. -/
def movedCall (s : RingState) (k : Nat) (call : ReaderCall) (out : RingMemory × ReaderState) :
    RingState :=
  { s with memory := out.1, readers := s.readers.set k { call with state := out.2 } }

theorem movedCall_readers {j : Nat} {other : ReaderCall} (hk : s.readers[k]? = some call)
    (hj : (movedCall s k call out).readers[j]? = some other) :
    j = k ∧ other = { call with state := out.2 } ∨ j ≠ k ∧ s.readers[j]? = some other := by
  have hlt : k < s.readers.length := List.getElem?_eq_some_iff.mp hk |>.1
  change (s.readers.set k { call with state := out.2 })[j]? = some other at hj
  by_cases heq : j = k
  · rw [heq, List.getElem?_set_self hlt] at hj
    exact Or.inl ⟨heq, (Option.some.inj hj).symm⟩
  · rw [List.getElem?_set_ne (Ne.symm heq)] at hj
    exact Or.inr ⟨heq, hj⟩

theorem movedCall_self (hk : s.readers[k]? = some call) :
    movedCall s k call (s.memory, call.state) = s := by
  have hset : s.readers.set k call = s.readers := by
    obtain ⟨hlt, rfl⟩ := List.getElem?_eq_some_iff.mp hk
    exact List.set_getElem_self hlt
  unfold movedCall
  dsimp only
  rw [hset]

/-- How a call goes on. A call that has not returned yet keeps what it counts on, until it returns
a frame that a later call comes across too. -/
structure CallMove (s : RingState) (call : ReaderCall) (r : ReaderState) : Prop where
  finds : Ring.returned call.state = false →
    call.began.contentGeneration = s.memory.contentGeneration → s.memory.latestSequence ≠ 0 →
      ∀ i, Readable s.memory i → CountsOn s.memory call.state i → CountsOn s.memory r i ∨
        ∃ view, r = .holding view ∧ (s.memory.slots i).sequence ≤ view.sequence
  shows : Ring.returned call.state = false →
    call.began.contentGeneration = s.memory.contentGeneration → ∀ sequence,
      shown r = some sequence → s.memory.latestSequence ≠ 0 ∧
        ∃ i, Readable s.memory i ∧ (s.memory.slots i).sequence = sequence
  returned : Ring.returned call.state = true → Ring.returned r = true ∧
    shown r = shown call.state ∧ (r = .returnedNone → call.state = r)

theorem CountsOn.le_shown {r : ReaderState} {i sequence : Nat} (h : CountsOn m r i)
    (hshown : shown r = some sequence) : (m.slots i).sequence ≤ sequence := by
  have hmem : ringSlotCount = scanIndex r → (i, (m.slots i).sequence) ∈ candidates r := by
    intro hscan
    refine h.resolve_left fun hleft => ?_
    rw [← hscan] at hleft
    exact absurd hleft.2 (Nat.not_lt.mpr hleft.1)
  cases r with
  | holding view =>
      have heq := List.mem_singleton.mp (hmem rfl)
      rw [(Prod.mk.inj heq).2]
      exact (Option.some.inj hshown).le
  | dropped view => cases hmem rfl
  | _ => cases hshown

theorem CountsOn.ne_returnedNone {r : ReaderState} {i : Nat} (h : CountsOn m r i) :
    r ≠ .returnedNone := by
  rintro rfl
  rcases h with hscan | hmem
  · exact absurd hscan.2 (Nat.not_lt.mpr hscan.1)
  · cases hmem

/-! ## Debts -/

theorem shownBefore_movedCall {consumer j sequence : Nat} (hk : s.readers[k]? = some call)
    (hmove : CallMove s call out.2) (hgeneration : out.1.contentGeneration =
      s.memory.contentGeneration)
    (h : ShownBefore (movedCall s k call out) consumer j sequence) :
    ShownBefore s consumer j sequence ∨ Ring.returned call.state = false ∧ k < j ∧
      call.consumer = consumer ∧ call.began.contentGeneration = s.memory.contentGeneration ∧
        shown out.2 = some sequence := by
  obtain ⟨i, hlt, other, hi, hconsumer, hcurrent, hshown⟩ := h
  replace hcurrent := hcurrent.trans hgeneration
  rcases movedCall_readers hk hi with ⟨rfl, rfl⟩ | ⟨-, hold⟩
  · cases hreturned : Ring.returned call.state with
    | false => exact Or.inr ⟨rfl, hlt, hconsumer, hcurrent, hshown⟩
    | true =>
        have hsame := (hmove.returned hreturned).2.1
        exact Or.inl ⟨i, hlt, call, hk, hconsumer, hcurrent, hsame.symm.trans hshown⟩
  · exact Or.inl ⟨i, hlt, other, hold, hconsumer, hcurrent, hshown⟩

/-- A debt is an old one, the call's own, or that of a call that begins after this one has
returned. -/
inductive MovedDebt (s : RingState) (call : ReaderCall) (r : ReaderState) :
    ReaderState → Nat → Prop
  | old {r' : ReaderState} {sequence : Nat} (h : Owes s r' sequence) :
      MovedDebt s call r r' sequence
  | own {sequence : Nat} (hbusy : Ring.returned call.state = false)
      (hbusy' : Ring.returned r = false)
      (hcurrent : call.began.contentGeneration = s.memory.contentGeneration)
      (h : Owes s call.state sequence) : MovedDebt s call r r sequence
  | next {sequence : Nat} (hbusy : Ring.returned call.state = false)
      (hcurrent : call.began.contentGeneration = s.memory.contentGeneration)
      (hshown : shown r = some sequence) : MovedDebt s call r .loadGeneration sequence

namespace Fresh

theorem owes_movedCall (h : Fresh s) (hk : s.readers[k]? = some call)
    (hmove : CallMove s call out.2)
    (hgeneration : out.1.contentGeneration = s.memory.contentGeneration) {r : ReaderState}
    {sequence : Nat} (howes : Owes (movedCall s k call out) r sequence) :
    MovedDebt s call out.2 r sequence := by
  have hpublished : ∀ {count}, PublishedBy (movedCall s k call out) count →
      PublishedBy s count := publishedBy_of_take rfl hgeneration
  cases howes with
  | call j other sequence hj hbusy hbegan howes =>
      replace hbegan := hbegan.trans hgeneration
      rcases movedCall_readers hk hj with ⟨rfl, rfl⟩ | ⟨hne, hold⟩
      · have hbusy₀ : Ring.returned call.state = false := by
          by_contra hreturned
          have hafter := (hmove.returned (Bool.not_eq_false _ ▸ hreturned)).1
          cases hbusy.symm.trans hafter
        refine .own hbusy₀ hbusy hbegan (.call j call sequence hk hbusy₀ hbegan ?_)
        refine howes.imp (And.imp_left hpublished) fun hshown => ?_
        rcases shownBefore_movedCall hk hmove hgeneration hshown with hbefore | ⟨-, hlt, -⟩
        · exact hbefore
        · exact (Nat.lt_irrefl _ hlt).elim
      · refine .old (.call j other sequence hold hbusy hbegan ?_)
        refine howes.imp (And.imp_left hpublished) fun hshown => ?_
        rcases shownBefore_movedCall hk hmove hgeneration hshown with
          hbefore | ⟨hbusy₀, hlt, hconsumer, -⟩
        · exact hbefore
        · cases hbusy₀.symm.trans (h.sequential k j call other hlt hk hold hconsumer.symm)
  | next consumer sequence howes =>
      rcases howes with ⟨hsome, hzero⟩ | hshown
      · exact .old (.next consumer sequence (Or.inl ⟨hpublished hsome, hzero⟩))
      · rcases shownBefore_movedCall hk hmove hgeneration hshown with
          hbefore | ⟨hbusy₀, -, -, hcurrent, hnew⟩
        · refine .old (.next consumer sequence (Or.inr ?_))
          rw [← List.length_set]
          exact hbefore
        · exact .next hbusy₀ hcurrent hnew

theorem le_shown (h : Fresh s) {r : ReaderState} (hmove : CallMove s call r)
    (hbusy : Ring.returned call.state = false)
    (hcurrent : call.began.contentGeneration = s.memory.contentGeneration) {owed sequence : Nat}
    (howes : Owes s call.state owed) (hshown : shown r = some sequence) : owed ≤ sequence := by
  obtain ⟨i, hpays⟩ := h.paid _ _ howes
  apply hpays.recent.trans
  rcases hmove.finds hbusy hcurrent (h.started _ _ howes) i hpays.readable hpays.counts with
    hcounts | ⟨view, rfl, hle⟩
  · exact hcounts.le_shown hshown
  · exact hle.trans (Option.some.inj hshown).le

theorem contract_movedCall (h : Fresh s) (hk : s.readers[k]? = some call)
    (hmove : CallMove s call out.2)
    (hgeneration : out.1.contentGeneration = s.memory.contentGeneration) :
    FreshnessContract (movedCall s k call out) := by
  constructor
  · intro i j first second hlt hi hj hconsumer hbegan hbegan' a b ha hb
    replace hbegan := hbegan.trans hgeneration
    replace hbegan' := hbegan'.trans hgeneration
    rcases movedCall_readers hk hi with ⟨rfl, rfl⟩ | ⟨hne, hold⟩
    · rcases movedCall_readers hk hj with ⟨rfl, -⟩ | ⟨-, hold'⟩
      · exact (Nat.lt_irrefl _ hlt).elim
      · have hreturned := h.sequential i j call second hlt hk hold' hconsumer
        have hshown := (hmove.returned hreturned).2.1
        exact h.ordered i j call second hlt hk hold' hconsumer hbegan hbegan' a b
          (hshown.symm.trans ha) hb
    · rcases movedCall_readers hk hj with ⟨rfl, rfl⟩ | ⟨-, hold'⟩
      · cases hreturned : Ring.returned call.state with
        | false =>
            have howes : Owes s call.state a := .call j call a hk hreturned hbegan'
              (Or.inr ⟨i, hlt, first, hold, hconsumer.symm, hbegan, ha⟩)
            exact h.le_shown hmove hreturned hbegan' howes hb
        | true =>
            have hshown := (hmove.returned hreturned).2.1
            exact h.ordered i j first call hlt hold hk hconsumer hbegan hbegan' a b ha
              (hshown.symm.trans hb)
      · exact h.ordered i j first second hlt hold hold' hconsumer hbegan hbegan' a b ha hb
  · intro other hother hbegan hpublished
    replace hbegan := hbegan.trans hgeneration
    replace hpublished : PublishedBy s other.answered :=
      publishedBy_of_take (t := movedCall s k call out) (s := s) rfl hgeneration hpublished
    rcases mem_set_cases hother with rfl | hold
    · have hcall := List.mem_of_getElem? hk
      intro hnone
      cases hreturned : Ring.returned call.state with
      | false =>
          have howes : Owes s call.state 0 :=
            .call k call 0 hk hreturned hbegan (Or.inl ⟨hpublished, rfl⟩)
          obtain ⟨i, hpays⟩ := h.paid _ _ howes
          rcases hmove.finds hreturned hbegan (h.started _ _ howes) i hpays.readable
            hpays.counts with hcounts | ⟨view, hview, -⟩
          · exact hcounts.ne_returnedNone hnone
          · cases hview.symm.trans hnone
      | true =>
          have hbefore := (hmove.returned hreturned).2.2 hnone
          exact h.found call hcall hbegan hpublished (hbefore.trans hnone)
    · exact h.found other hold hbegan hpublished

theorem movedCall (h : Fresh s) (hring : RingInvariant s) (hk : s.readers[k]? = some call)
    (heffect : LeaseEffect s.memory call.state out) (hmove : CallMove s call out.2)
    (hroomy : ∀ i, owned s.producer ≠ some i →
      (out.1.slots i).readerCount < writerLease - 1)
    (hlookup : Ordered out.2 ∧ Listed out.2)
    (hpast : pastLatest out.2 = true → s.memory.latestSequence ≠ 0)
    (hloaded : ∀ index sequence rest active,
      out.2 = .loadContentGeneration index sequence rest active →
        Upto active s.memory.contentGeneration) :
    Fresh (SharedRing.movedCall s k call out) := by
  obtain ⟨hgeneration, -, hlatest, -⟩ := heffect.header
  constructor
  case toFreshnessContract => exact h.contract_movedCall hk hmove hgeneration
  case paid =>
    intro r sequence howes
    have hcarried : ∀ {r sequence i}, Pays s.memory r sequence i →
        Pays out.1 r sequence i := fun hpays =>
      hpays.congr (heffect.sameContent _) hgeneration
        (hroomy _ (hpays.readable.not_owned hring.exclusive))
    cases h.owes_movedCall hk hmove hgeneration howes with
    | old hold =>
        obtain ⟨i, hpays⟩ := h.paid r sequence hold
        exact ⟨i, hcarried hpays⟩
    | own hbusy hbusy' hcurrent hold =>
        obtain ⟨i, hpays⟩ := h.paid _ _ hold
        rcases hmove.finds hbusy hcurrent (h.started _ _ hold) i hpays.readable hpays.counts with
          hcounts | ⟨view, hview, -⟩
        · exact ⟨i, hcarried ⟨hpays.readable, hcounts, hpays.recent⟩⟩
        · rw [hview] at hbusy'
          cases hbusy'
    | next hbusy hcurrent hshown =>
        obtain ⟨-, i, hreadable, hsequence⟩ := hmove.shows hbusy hcurrent sequence hshown
        exact ⟨i, hcarried (hreadable.pays_next hsequence.symm.le)⟩
  case started =>
    intro r sequence howes
    change out.1.latestSequence ≠ 0
    rw [hlatest]
    cases h.owes_movedCall hk hmove hgeneration howes with
    | old hold => exact h.started r sequence hold
    | own hbusy hbusy' hcurrent hold => exact h.started _ _ hold
    | next hbusy hcurrent hshown => exact (hmove.shows hbusy hcurrent sequence hshown).1
  case roomy => exact hroomy
  case announced => exact h.announced.congr heffect.sameContent hlatest
  case lookups =>
    intro other hother
    rcases mem_set_cases hother with rfl | hold
    · exact hlookup
    · exact h.lookups other hold
  case past =>
    intro other hother
    change pastLatest other.state = true → out.1.latestSequence ≠ 0
    rw [hlatest]
    rcases mem_set_cases hother with rfl | hold
    · exact hpast
    · exact h.past other hold
  case loaded =>
    intro other hother
    change ∀ index sequence rest active,
      other.state = .loadContentGeneration index sequence rest active →
        Upto active out.1.contentGeneration
    rw [hgeneration]
    rcases mem_set_cases hother with rfl | hold
    · exact hloaded
    · exact h.loaded other hold
  case counted =>
    intro other hother
    rcases mem_set_cases hother with rfl | hold
    · exact h.counted call (List.mem_of_getElem? hk)
    · exact h.counted other hold
  case sequential =>
    intro i j first second hlt hi hj hconsumer
    have hreturned : ∀ {other : ReaderCall}, s.readers[j]? = some other →
        other.consumer = first.consumer → Ring.returned first.state = true := by
      intro other hother heq
      rcases movedCall_readers hk hi with ⟨rfl, rfl⟩ | ⟨-, hold⟩
      · have hbefore := h.sequential i j call other hlt hk hother heq
        exact (hmove.returned hbefore).1
      · exact h.sequential i j first other hlt hold hother heq
    rcases movedCall_readers hk hj with ⟨rfl, rfl⟩ | ⟨-, hold⟩
    · exact hreturned hk hconsumer
    · exact hreturned hold hconsumer

/-! ## A step of a call -/

theorem roomy_of_effect (h : Fresh s) (hring : RingInvariant s) (hcall : call ∈ s.readers)
    (heffect : LeaseEffect s.memory call.state out)
    (htaken : ∀ i, leased call.state = none → leased out.2 = some i →
      (s.memory.slots i).readerCount + 1 < writerLease - 1) :
    ∀ i, owned s.producer ≠ some i → (out.1.slots i).readerCount < writerLease - 1 := by
  intro i hfree
  cases heffect with
  | kept next hleased => exact h.roomy i hfree
  | taken j next hroom hbefore hafter =>
      by_cases hij : i = j
      · rw [hij, updateSlot_self]
        exact htaken j hbefore hafter
      · rw [updateSlot_of_ne hij]
        exact h.roomy i hfree
  | returned j next hbefore hafter =>
      by_cases hij : i = j
      · have hcount := leases_pos hcall hbefore
        rw [← hring.exclusive.counter_free (hring.not_owned hcall hbefore)] at hcount
        have hroomy := h.roomy i hfree
        rw [hij] at hroomy
        rw [hij, updateSlot_self]
        change ((s.memory.slots j).readerCount + (2 ^ 32 - 1)) % 2 ^ 32 < writerLease - 1
        unfold writerLease at hroomy ⊢
        omega
      · rw [updateSlot_of_ne hij]
        exact h.roomy i hfree

theorem view_valid (hring : RingInvariant s) (hformed : Formed capacity s)
    (hcall : call ∈ s.readers) {view : SharedFrameView} {rest : Candidates}
    (hstate : call.state = .read view rest []) : view.valid capacity := by
  have hview := hring.views call hcall
  rw [hstate] at hview
  obtain ⟨hdone, -, hread⟩ := hview
  obtain ⟨pub, hpub, hdisplays⟩ := hring.complete view.index hdone
  have hplain : ∀ name, view.plain name = pub.call.plain name := by
    intro name
    rw [hread name List.not_mem_nil, hdisplays.shows.plain]
  refine ⟨?_, ?_, ?_⟩
  · rw [hplain]
    exact (hformed.publications pub hpub).1
  · rw [hplain]
    rfl
  · rw [hplain]
    change SharedFrameKind.fromWire pub.call.kind.signalBit ≠ none
    rw [fromWire_signalBit]
    nofun

theorem readable_view (h : Fresh s) (hring : RingInvariant s) (hfence : FenceInvariant s)
    (hformed : Formed capacity s) (hcall : call ∈ s.readers)
    (hcurrent : call.began.contentGeneration = s.memory.contentGeneration)
    {view : SharedFrameView} {rest : Candidates} (hstate : call.state = .read view rest []) :
    Readable s.memory view.index ∧ (s.memory.slots view.index).sequence = view.sequence := by
  have hview := hring.views call hcall
  have hfenced := hfence.readers call hcall
  have hlisted := (h.lookups call hcall).2.candidates
  have hleased : leased call.state = some view.index := by
    rw [hstate]
    rfl
  rw [hstate] at hview hfenced hlisted
  obtain ⟨hdone, hsequence, -⟩ := hview
  obtain ⟨pub, hpub, hdisplays, -, hpub'⟩ := hfenced
  have hne : s.memory.contentGeneration ≠ 0 := by
    rw [← hcurrent]
    exact hpub'.began_ne
  have hgeneration : pub.call.generation = s.memory.contentGeneration := by
    apply le_antisymm
    · have hsince := (hfence.publications pub hpub).since
      rw [hpub'.marked] at hsince
      exact hsince.le hne
    · rw [← hcurrent]
      exact hpub'.began_le
  refine ⟨⟨hformed.done_lt _ hdone, hdone, ?_, hdisplays.generation.trans hgeneration, hne,
    h.roomy _ (hring.not_owned hcall hleased)⟩, hsequence⟩
  rw [hsequence]
  exact (hlisted (view.index, view.sequence) List.mem_cons_self).2

theorem readerStep_callMove (h : Fresh s) (hring : RingInvariant s) (hfence : FenceInvariant s)
    (hformed : Formed capacity s) (hcall : call ∈ s.readers) (spurious : Bool) :
    CallMove s call (readerStep capacity s.memory spurious call.state).2 := by
  constructor
  · intro _ hcurrent hstarted i hreadable hcounts
    refine (readerStep_lookup call.state).counts (h.lookups call hcall).1 hreadable hstarted
      ?_ ?_ hcounts
    · intro index sequence rest active hstate
      have hfenced := hfence.readers call hcall
      rw [hstate, hcurrent] at hfenced
      exact (h.loaded call hcall index sequence rest active hstate).antisymm hfenced.2.1
    · intro view rest hstate
      exact view_valid hring hformed hcall hstate
  · intro hbusy hcurrent sequence hshown
    obtain ⟨view, rest, hstate, rfl⟩ := readerStep_shown hbusy hshown
    refine ⟨h.past call hcall (by rw [hstate]; rfl), view.index, ?_⟩
    exact h.readable_view hring hfence hformed hcall hcurrent hstate
  · intro hreturned
    rw [readerStep_returned hreturned]
    exact ⟨hreturned, rfl, fun _ => rfl⟩

theorem reader (h : Fresh s) (hring : RingInvariant s) (hfence : FenceInvariant s)
    (hformed : Formed capacity s) (hk : s.readers[k]? = some call) {spurious : Bool}
    (hspares : Spares s (.reader k spurious)) :
    Fresh (SharedRing.movedCall s k call
      (readerStep capacity s.memory spurious call.state)) := by
  have hcall := List.mem_of_getElem? hk
  have heffect := @readerStep_effect capacity s.memory spurious _ (hring.room call hcall)
  have hlookup := @readerStep_lookup capacity s.memory spurious call.state
  apply h.movedCall hring hk heffect
    (h.readerStep_callMove hring hfence hformed hcall spurious)
  · apply h.roomy_of_effect hring hcall heffect
    intro i hbefore hafter
    obtain ⟨sequence, rest, hstate⟩ := readerStep_takes hbefore hafter
    exact hspares.room k spurious call rfl hk i sequence rest _ hstate
  · obtain ⟨hordered, hlisted⟩ := h.lookups call hcall
    exact ⟨hlookup.ordered hordered, hlookup.listed hlisted⟩
  · intro hpast
    rcases pastLatest_readerStep hpast with hbefore | hlatest
    · exact h.past call hcall hbefore
    · exact hlatest
  · intro index sequence rest active hloaded
    rw [readerStep_loads hloaded]
    exact .refl _

theorem dropView (h : Fresh s) (hring : RingInvariant s) (hk : s.readers[k]? = some call) :
    Fresh (SharedRing.movedCall s k call (SharedRing.dropView s.memory call.state)) := by
  have hcall := List.mem_of_getElem? hk
  cases hstate : call.state with
  | holding view =>
      have heffect : LeaseEffect s.memory call.state
          (SharedRing.dropView s.memory (.holding view)) := by
        rw [hstate]
        exact dropView_effect _
      apply h.movedCall hring hk heffect
      · constructor
        · intro hbusy
          rw [hstate] at hbusy
          cases hbusy
        · intro hbusy
          rw [hstate] at hbusy
          cases hbusy
        · intro _
          rw [hstate]
          exact ⟨rfl, rfl, nofun⟩
      · exact h.roomy_of_effect hring hcall heffect fun _ _ => nofun
      · exact ⟨fun _ => List.Pairwise.nil, nofun, nofun⟩
      · intro _
        apply h.past call hcall
        rw [hstate]
        rfl
      · exact nofun
  | _ =>
      dsimp only [SharedRing.dropView]
      rw [← hstate, movedCall_self hk]
      exact h

end Fresh

/-!
## Freshness over runs

The contract holds throughout each run that leaves the calls a slot to pay with.
It fails where the producer claims the last such slot.
-/

namespace Fresh

theorem called (h : Fresh s) {consumer : Nat} (hfree : Ring.calling s consumer = false) :
    Fresh { s with readers := s.readers ++ [Ring.newCall s consumer] } := by
  have hold : ∀ {j other}, (s.readers ++ [Ring.newCall s consumer])[j]? = some other →
      s.readers[j]? = some other ∨ j = s.readers.length ∧ other = Ring.newCall s consumer := by
    intro j other hj
    rw [List.getElem?_append] at hj
    split at hj
    · exact Or.inl hj
    · rw [List.getElem?_singleton] at hj
      split at hj
      · exact Or.inr ⟨by omega, (Option.some.inj hj).symm⟩
      · cases hj
  have hmem : ∀ {P : ReaderCall → Prop}, (∀ other ∈ s.readers, P other) →
      P (Ring.newCall s consumer) → ∀ other ∈ s.readers ++ [Ring.newCall s consumer], P other := by
    intro P hall hnew other hother
    rcases List.mem_append.mp hother with hbefore | hlast
    · exact hall other hbefore
    · rw [List.mem_singleton.mp hlast]
      exact hnew
  have hshown : ∀ {c j sequence},
      ShownBefore { s with readers := s.readers ++ [Ring.newCall s consumer] } c j sequence →
        ShownBefore s c j sequence := by
    rintro c j sequence ⟨i, hlt, other, hi, hconsumer, hcurrent, hshown⟩
    rcases hold hi with hbefore | ⟨-, rfl⟩
    · exact ⟨i, hlt, other, hbefore, hconsumer, hcurrent, hshown⟩
    · cases hshown
  have howes : ∀ {r sequence},
      Owes { s with readers := s.readers ++ [Ring.newCall s consumer] } r sequence →
        Owes s r sequence := by
    intro r sequence howes
    cases howes with
    | call j other sequence hj hbusy hbegan howes =>
        rcases hold hj with hbefore | ⟨rfl, rfl⟩
        · exact .call j other sequence hbefore hbusy hbegan (howes.imp id hshown)
        · exact .next consumer sequence (howes.imp id hshown)
    | next c sequence howes =>
        refine .next c sequence (howes.imp id fun hbefore => ?_)
        obtain ⟨i, -, other, hi, hrest⟩ := hshown hbefore
        exact ⟨i, (List.getElem?_eq_some_iff.mp hi).1, other, hi, hrest⟩
  constructor
  case toFreshnessContract =>
    constructor
    · intro i j first second hlt hi hj hconsumer hbegan hbegan' a b ha hb
      rcases hold hj with hj | ⟨-, rfl⟩
      · rcases hold hi with hi | ⟨-, rfl⟩
        · exact h.ordered i j first second hlt hi hj hconsumer hbegan hbegan' a b ha hb
        · cases ha
      · cases hb
    · exact hmem h.found fun _ _ => nofun
  case paid => exact fun r sequence hdebt => h.paid r sequence (howes hdebt)
  case started => exact fun r sequence hdebt => h.started r sequence (howes hdebt)
  case roomy => exact h.roomy
  case announced => exact h.announced
  case lookups => exact hmem h.lookups ⟨nofun, nofun, fun _ => Nat.succ_pos _⟩
  case past => exact hmem h.past nofun
  case loaded => exact hmem h.loaded nofun
  case counted => exact hmem h.counted (Nat.le_refl _)
  case sequential =>
    intro i j first second hlt hi hj hconsumer
    rcases hold hi with hi | ⟨rfl, -⟩
    · rcases hold hj with hj | ⟨-, rfl⟩
      · exact h.sequential i j first second hlt hi hj hconsumer
      · have hall := List.any_eq_false.mp hfree first (List.mem_of_getElem? hi)
        rw [decide_eq_true_eq, not_and] at hall
        exact Bool.not_eq_false _ ▸ hall hconsumer.symm
    · have hle : j < (s.readers ++ [Ring.newCall s consumer]).length :=
        (List.getElem?_eq_some_iff.mp hj).1
      rw [List.length_append, List.length_singleton] at hle
      omega

theorem move (h : Fresh s) (hring : RingInvariant s) (hfence : FenceInvariant s)
    (hformed : Formed capacity s) {step : RingStep} {t : RingState}
    (hmove : RingMove capacity s step t) (hspares : Spares s step) : Fresh t := by
  cases hmove with
  | still => exact h
  | publish a hidle => exact h.publish hidle a
  | producer => exact h.producer hring hformed hspares
  | called consumer hfree => exact h.called hfree
  | reader k spurious call hk => exact h.reader hring hfence hformed hk hspares
  | dropView k call hk => exact h.dropView hring hk
  | invalidate => exact h.invalidate _
  | invalidateAs kind => exact h.invalidate _
  | invalidator k spurious state hk =>
      obtain ⟨hslots, hlatest⟩ := @invalidatorStep_slots s.memory spurious state
      exact h.invalidator hring hfence hslots hlatest (upto_invalidatorStep spurious state)

end Fresh

/-! ## The contract -/

/-- In a run that leaves each call a slot to pay with, no consumer is shown an older frame after a
newer one, and every call that begins behind a published frame finds one. -/
theorem freshness_of_spares (m : RingMemory) (steps : List RingStep)
    (hspares : MeetsAll Spares (Ring.ringStep capacity) (Ring.new m) steps) :
    HoldsThroughout FreshnessContract (Ring.ringStep capacity) (Ring.new m) steps := by
  refine @HoldsThroughout.of_invariant _ _ FreshnessContract
    (fun s => (ringSystem capacity m).Reachable s ∧ Fresh s) Spares _ ?_ ?_ _ _ ?_ hspares
  · exact fun s hs => hs.2.toFreshnessContract
  · rintro s step ⟨hreachable, hfresh⟩ hstep
    refine ⟨hreachable.step rfl, hfresh.move (ringInvariant_of_reachable hreachable)
      (fenceInvariant_of_reachable hreachable) (formed_of_reachable hreachable)
      (ringStep_move step) hstep⟩
  · exact ⟨.of_init rfl, .new m⟩

/-! ## Keeping the newest frame -/

/-- The slot keeps the newest frame that was shown, every call comes across it, and it is not the
one that is claimed. -/
structure KeepsNewest (s : RingState) (claimed i : Nat) : Prop where
  ne : i ≠ claimed
  readable : Readable s.memory i
  counts : ∀ call ∈ s.readers, Ring.returned call.state = false →
    CountsOn s.memory call.state i
  newest : ∀ call ∈ s.readers, ∀ sequence ∈ shown call.state,
    sequence ≤ (s.memory.slots i).sequence

theorem KeepsNewest.pays {claimed i : Nat} (h : KeepsNewest s claimed i) {r : ReaderState}
    {sequence : Nat} (howes : Owes s r sequence) : Pays s.memory r sequence i := by
  have hrecent : ∀ {consumer j owed}, ShownBefore s consumer j owed →
      owed ≤ (s.memory.slots i).sequence := by
    rintro consumer j owed ⟨j', -, other, hj, -, -, hshown⟩
    exact h.newest other (List.mem_of_getElem? hj) owed hshown
  cases howes with
  | call k call sequence hk hbusy hbegan howes =>
      refine ⟨h.readable, h.counts call (List.mem_of_getElem? hk) hbusy, ?_⟩
      rcases howes with ⟨-, rfl⟩ | hshown
      · exact Nat.zero_le _
      · exact hrecent hshown
  | next consumer sequence howes =>
      apply h.readable.pays_next
      rcases howes with ⟨-, rfl⟩ | hshown
      · exact Nat.zero_le _
      · exact hrecent hshown

theorem not_owes_of_empty (hreaders : s.readers = []) (hanswers : s.answers = [])
    {r : ReaderState} {sequence : Nat} : ¬Owes s r sequence := by
  apply Fresh.not_owes
  · rw [hreaders]
    nofun
  · rintro count ⟨entry, hmem, -⟩
    rw [hanswers, List.take_nil] at hmem
    cases hmem

/-! ## Sample runs -/

instance (m : RingMemory) (i : Nat) : Decidable (Readable m i) :=
  decidable_of_iff (i < ringSlotCount ∧ (m.slots i).readyState = .done ∧
      (m.slots i).sequence ≠ 0 ∧ (m.slots i).contentGeneration = m.contentGeneration ∧
        m.contentGeneration ≠ 0 ∧ (m.slots i).readerCount < writerLease - 1)
    ⟨fun ⟨h, h', h'', h₃, h₄, h₅⟩ => ⟨h, h', h'', h₃, h₄, h₅⟩,
      fun ⟨h, h', h'', h₃, h₄, h₅⟩ => ⟨h, h', h'', h₃, h₄, h₅⟩⟩

theorem countsOn_iff {r : ReaderState} {i : Nat} : CountsOn m r i ↔
    scanIndex r ≤ i ∧ i < ringSlotCount ∨
      ∃ entry ∈ candidates r, entry.1 = i ∧ entry.2 = (m.slots i).sequence := by
  refine or_congr Iff.rfl ⟨fun hmem => ⟨_, hmem, rfl, rfl⟩, ?_⟩
  rintro ⟨entry, hmem, rfl, hsequence⟩
  rw [← hsequence]
  exact hmem

instance (m : RingMemory) (r : ReaderState) (i : Nat) : Decidable (CountsOn m r i) :=
  decidable_of_iff _ countsOn_iff.symm

instance (s : RingState) (claimed i : Nat) : Decidable (KeepsNewest s claimed i) :=
  decidable_of_iff (i ≠ claimed ∧ Readable s.memory i ∧
      (∀ call ∈ s.readers, Ring.returned call.state = false → CountsOn s.memory call.state i) ∧
        ∀ call ∈ s.readers, ∀ sequence ∈ shown call.state,
          sequence ≤ (s.memory.slots i).sequence)
    ⟨fun ⟨h, h', h'', h₃⟩ => ⟨h, h', h'', h₃⟩, fun ⟨h, h', h'', h₃⟩ => ⟨h, h', h'', h₃⟩⟩

/-- The slot that the next exchange is tried on. -/
def claimedSlot : ProducerState → Option Nat
  | .claim _ start offset => some ((start + offset) % ringSlotCount)
  | _ => none

def expectedLease : ReaderState → Option Nat
  | .takeLease _ _ _ lease => some lease
  | _ => none

/-- The step spares each call a slot, as far as the present state shows. -/
def Sparing (s : RingState) : RingStep → Prop
  | .producer => s.memory.latestSequence + 1 < 2 ^ 64 ∧ ∀ claimed ∈ claimedSlot s.producer,
      s.readers = [] ∧ s.answers = [] ∨ ∃ i ∈ List.range ringSlotCount, KeepsNewest s claimed i
  | .reader k _ => ∀ call ∈ s.readers[k]?, ∀ lease ∈ expectedLease call.state,
      lease + 1 < writerLease - 1
  | _ => True

theorem Sparing.spares {step : RingStep} (h : Sparing s step) : Spares s step := by
  constructor
  · rintro rfl a start offset hp - r sequence howes
    rcases h.2 _ (by rw [hp]; rfl) with ⟨hreaders, hanswers⟩ | ⟨i, -, hkeeps⟩
    · exact (not_owes_of_empty hreaders hanswers howes).elim
    · exact ⟨i, hkeeps.ne, hkeeps.pays howes⟩
  · rintro rfl a index hp
    exact h.1
  · rintro k spurious call rfl hk index sequence rest lease hstate
    exact h call hk lease (by rw [hstate]; rfl)

instance (s : RingState) : DecidablePred (Sparing s)
  | .producer => inferInstanceAs (Decidable (_ ∧ _))
  | .reader k _ => inferInstanceAs (Decidable (∀ call ∈ s.readers[k]?, _))
  | .publish _ | .latestFrame _ | .dropView _ | .invalidate | .invalidateAs _
  | .invalidator _ _ => inferInstanceAs (Decidable True)

/-- The second frame takes another slot than the one that is held. -/
def secondFrame : List RingStep :=
  publishing (sampleFrame 1 .live 7) ++ (.latestFrame 0 :: reading 0) ++
    publishing (sampleFrame 1 .live 8)

theorem spares_secondFrame :
    MeetsAll Spares (Ring.ringStep sampleCapacity) (Ring.new blankMemory) secondFrame := by
  have hsparing : MeetsAll Sparing (Ring.ringStep sampleCapacity) (Ring.new blankMemory)
      secondFrame := by decide +kernel
  exact hsparing.imp fun _ _ => Sparing.spares

theorem freshness_of_spares_secondFrame :
    MeetsAll Spares (Ring.ringStep sampleCapacity) (Ring.new blankMemory) secondFrame ∧
      HoldsThroughout FreshnessContract (Ring.ringStep sampleCapacity) (Ring.new blankMemory)
        secondFrame :=
  ⟨spares_secondFrame, freshness_of_spares _ _ spares_secondFrame⟩

/-! ## Frames that are overtaken -/

/-- The candidates that a call sorts in its next step, once it has looked at the last slot. -/
def lastScan (m : RingMemory) : ReaderState → Option Candidates
  | .scanReady 2 found => if (m.slots 2).readyState = .done then none else some found
  | .scanSequence 2 found => some
      (if (m.slots 2).sequence = 0 then found else found ++ [(2, (m.slots 2).sequence)])
  | _ => none

theorem readerStep_lastScan {spurious : Bool} {r : ReaderState} {found : Candidates}
    (h : lastScan m r = some found) :
    readerStep capacity m spurious r = (m, nextCandidate (sortCandidates found)) := by
  unfold lastScan at h
  split at h
  · split at h
    · cases h
    · rename_i hnot
      cases h
      dsimp only [readerStep]
      rw [if_neg hnot]
      rfl
  · cases h
    rfl
  · cases h

theorem foldl_lastScan (k : Nat) (found sorted : Candidates) {before after : List RingStep}
    (h : ((before.foldl (Ring.ringStep capacity) s).readers[k]?.bind fun call =>
      lastScan (before.foldl (Ring.ringStep capacity) s).memory call.state) = some found)
    (hsorted : sortCandidates found = sorted) :
    (before ++ .reader k false :: after).foldl (Ring.ringStep capacity) s =
      after.foldl (Ring.ringStep capacity)
        (Ring.onReader (before.foldl (Ring.ringStep capacity) s) k fun m _ =>
          (m, nextCandidate sorted)) := by
  obtain ⟨call, hk, hscan⟩ := Option.bind_eq_some_iff.mp h
  rw [List.foldl_append, List.foldl_cons]
  dsimp only [Ring.ringStep, Ring.onReader]
  rw [hk]
  dsimp only
  rw [readerStep_lastScan hscan, hsorted]

/-- The first two frames are held and the third was shown. The fourth takes its slot. -/
def fourthFrame : List RingStep :=
  publishing (sampleFrame 1 .live 7) ++ (.latestFrame 0 :: reading 0) ++
    publishing (sampleFrame 1 .live 8) ++ .latestFrame 1 :: List.replicate 6 (.reader 1 false) ++
      .reader 1 false :: (reading 1 ++ publishing (sampleFrame 1 .live 9) ++
        .latestFrame 2 :: List.replicate 7 (.reader 2 false) ++
          .reader 2 false :: (reading 2 ++ .dropView 2 :: .publish (sampleFrame 1 .live 10) ::
            List.replicate 8 .producer ++ .latestFrame 2 ::
              List.replicate 6 (.reader 3 false) ++ .reader 3 false :: reading 3))

theorem fourthFrame_shown : (ringRun fourthFrame).memory.contentGeneration = 1 ∧
    (ringRun fourthFrame).readers.map (fun call =>
      (call.consumer, call.began.contentGeneration, shown call.state)) =
        [(0, 1, some 1), (1, 1, some 2), (2, 1, some 3), (2, 1, some 2)] := by
  unfold ringRun fourthFrame
  rw [foldl_lastScan 1 [(0, 1), (1, 2)] [(1, 2), (0, 1)] (by decide +kernel)
    (by simp [sortCandidates, List.mergeSort])]
  rw [foldl_lastScan 2 [(0, 1), (1, 2), (2, 3)] [(2, 3), (1, 2), (0, 1)] (by decide +kernel)
    (by simp [sortCandidates, List.mergeSort])]
  rw [foldl_lastScan 3 [(0, 1), (1, 2)] [(1, 2), (0, 1)] (by decide +kernel)
    (by simp [sortCandidates, List.mergeSort])]
  decide +kernel

/-- A call has looked at the slots, when three more frames are published. -/
def overtaken : List RingStep :=
  publishing (sampleFrame 1 .live 7) ++ (.latestFrame 0 :: List.replicate 6 (.reader 0 false)) ++
    publishing (sampleFrame 1 .live 8) ++ publishing (sampleFrame 1 .live 9) ++
      publishing (sampleFrame 1 .live 10) ++ reading 0

def isNone : ReaderState → Bool
  | .returnedNone => true
  | _ => false

theorem overtaken_none : (ringRun overtaken).memory.contentGeneration = 1 ∧
    (publishedAnswers ((ringRun overtaken).answers.take 1)).map (·.1.generation) = [1] ∧
    (ringRun overtaken).readers.map (fun call =>
      (call.began.contentGeneration, call.answered, isNone call.state)) = [(1, 1, true)] := by
  decide +kernel

/-- A consumer is shown the second frame after the third, and a call that is overtaken finds
nothing. -/
theorem freshness_fails : ¬FreshnessContract (ringRun fourthFrame) ∧
    ¬FreshnessContract (ringRun overtaken) := by
  have hcall : ∀ {β : Type} {f : ReaderCall → β} {readers : List ReaderCall} {k : Nat} {v : β},
      (readers.map f)[k]? = some v → ∃ call, readers[k]? = some call ∧ f call = v := by
    intro β f readers k v h
    rw [List.getElem?_map] at h
    exact Option.map_eq_some_iff.mp h
  constructor
  · intro h
    obtain ⟨hgeneration, hreaders⟩ := fourthFrame_shown
    obtain ⟨third, hthird, hthird'⟩ := hcall (congrArg (·[2]?) hreaders)
    obtain ⟨second, hsecond, hsecond'⟩ := hcall (congrArg (·[3]?) hreaders)
    obtain ⟨hconsumer, hthird'⟩ := Prod.mk.inj hthird'
    obtain ⟨hbegan, hshown⟩ := Prod.mk.inj hthird'
    obtain ⟨hconsumer', hsecond'⟩ := Prod.mk.inj hsecond'
    obtain ⟨hbegan', hshown'⟩ := Prod.mk.inj hsecond'
    have hle := h.ordered 2 3 third second (by decide) hthird hsecond
      (hconsumer'.trans hconsumer.symm) (hbegan.trans hgeneration.symm)
      (hbegan'.trans hgeneration.symm) 3 2 hshown hshown'
    exact absurd hle (by decide)
  · intro h
    obtain ⟨hgeneration, hpublished, hreaders⟩ := overtaken_none
    obtain ⟨call, hcall, hcall'⟩ := hcall (congrArg (·[0]?) hreaders)
    obtain ⟨hbegan, hcall'⟩ := Prod.mk.inj hcall'
    obtain ⟨hanswered, hnone⟩ := Prod.mk.inj hcall'
    have hone : 1 ∈ (publishedAnswers ((ringRun overtaken).answers.take 1)).map
        (·.1.generation) := by
      rw [hpublished]
      exact List.mem_singleton_self 1
    obtain ⟨entry, hmem, hentry⟩ := List.mem_map.mp hone
    have hfound : call.state ≠ .returnedNone := by
      apply h.found call (List.mem_of_getElem? hcall) (hbegan.trans hgeneration.symm)
      rw [hanswered]
      exact ⟨entry, hmem, hentry.trans hgeneration.symm⟩
    apply hfound
    cases hstate : call.state <;> rw [hstate] at hnone <;> first | rfl | cases hnone

end PicooCamera.SharedRing
