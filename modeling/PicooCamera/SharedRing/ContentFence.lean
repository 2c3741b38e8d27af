import PicooCamera.SharedRing.Runs

/-!
# The content fence

The generation only goes up, and 0 is its end. So a call of `latest_frame`
returns no frame of a generation that was over when the call began, and every
frame that it returns was marked as done in its own generation.
-/

namespace PicooCamera.SharedRing

open PicooCamera.Library RingMemory

variable {capacity : FrameCapacity} {m m' : RingMemory} {s : RingState}

/-! ## Generations -/

/-- The second generation is the first or a later one. Zero is the last. -/
def Upto (g g' : Nat) : Prop := g' = 0 ∨ g ≠ 0 ∧ g ≤ g'

namespace Upto

variable {g g' g'' : Nat}

theorem refl (g : Nat) : Upto g g := by
  unfold Upto
  omega

theorem trans (h : Upto g g') (h' : Upto g' g'') : Upto g g'' := by
  unfold Upto at *
  omega

theorem antisymm (h : Upto g g') (h' : Upto g' g) : g = g' := by
  unfold Upto at *
  omega

theorem ne_zero (h : Upto g g') (hne : g' ≠ 0) : g ≠ 0 :=
  (h.resolve_left hne).1

theorem le (h : Upto g g') (hne : g' ≠ 0) : g ≤ g' :=
  (h.resolve_left hne).2

end Upto

theorem upto_nextGeneration (g : Nat) : Upto g (nextGeneration g) := by
  unfold nextGeneration Upto
  split
  · exact Or.inl rfl
  · split
    · omega
    · exact Or.inl rfl

theorem upto_invalidatorStep (spurious : Bool) (state : InvalidatorState) :
    Upto m.contentGeneration (invalidatorStep m spurious state).1.contentGeneration := by
  cases state with
  | updateSignal kind current =>
      dsimp only [invalidatorStep]
      split <;> exact .refl _
  | updateGeneration kind current =>
      dsimp only [invalidatorStep]
      split
      · rename_i htaken
        rw [← htaken.1]
        exact upto_nextGeneration _
      · exact .refl _
  | _ => exact .refl _

theorem returned_invalidatorStep {spurious : Bool} {state : InvalidatorState}
    {kind : SharedFrameKind} {generation : Nat}
    (h : (invalidatorStep m spurious state).2 = .returned kind generation) :
    state = .returned kind generation ∨
      generation = (invalidatorStep m spurious state).1.contentGeneration := by
  cases state with
  | kindGeneration =>
      dsimp only [invalidatorStep] at h
      split at h <;> cases h
  | updateSignal kind' current =>
      dsimp only [invalidatorStep] at h
      split at h <;> cases h
  | updateGeneration kind' current =>
      dsimp only [invalidatorStep] at h ⊢
      split at h
      · rename_i htaken
        cases h
        rw [if_pos htaken]
        exact Or.inr rfl
      · cases h
  | returned kind' generation' => exact Or.inl h
  | _ => cases h

/-! ## The invariant -/

/-- The call whose generation was checked, up to the mark of its slot. -/
def admittedCall : ProducerState → Option PublishCall
  | .checkKindGeneration a | .checkKindSignal a | .loadWriteIndex a | .claim a _ _
  | .markWriting a _ | .write a _ _ | .loadLatest a _ | .storeGeneration a _ _
  | .storeSequence a _ _ | .storeReady a _ _ => some a
  | _ => none

/-- The call whose kind was checked, up to the mark of its slot. -/
def signalledCall : ProducerState → Option PublishCall
  | .loadWriteIndex a | .claim a _ _ | .markWriting a _ | .write a _ _ | .loadLatest a _
  | .storeGeneration a _ _ | .storeSequence a _ _ | .storeReady a _ _ => some a
  | _ => none

theorem admittedCall_of_signalled {p : ProducerState} {a : PublishCall}
    (h : signalledCall p = some a) : admittedCall p = some a := by
  cases p <;> first | exact h | cases h

/-- The call was admitted under its kind, and its generation was not yet over when its slot was
marked. The argument is the generation now. -/
structure Fenced (generation : Nat) (pub : Publication) : Prop where
  kind : signalKind pub.signal = some pub.call.kind
  marked : Upto pub.call.generation pub.generation
  since : Upto pub.generation generation

/-- The frame was marked as done in its own generation, which is `began` or a later one. -/
structure Current (began : Nat) (pub : Publication) : Prop where
  marked : pub.generation = pub.call.generation
  began_ne : began ≠ 0
  began_le : began ≤ pub.call.generation

/-- What is known of the generation that a call has loaded. The call began under `began`. -/
def ReaderFenced (m : RingMemory) (completed : List Publication) (began : Nat) :
    ReaderState → Prop
  | .loadContentGeneration index _ _ active => active ≠ 0 ∧ Upto began active ∧
      ∃ pub ∈ completed, Displays (m.slots index) pub ∧ Fenced active pub
  | .read view _ _ | .holding view =>
      ∃ pub ∈ completed, Displays (m.slots view.index) pub ∧
        signalKind pub.signal = some pub.call.kind ∧ Current began pub
  | _ => True

structure FenceInvariant (s : RingState) : Prop where
  publications : ∀ pub ∈ s.completed, Fenced s.memory.contentGeneration pub
  generation : ∀ a, admittedCall s.producer = some a →
    Upto a.generation s.memory.contentGeneration
  kind : ∀ a, signalledCall s.producer = some a → signalKind s.admitted = some a.kind
  began : ∀ call ∈ s.readers, Upto call.began.contentGeneration s.memory.contentGeneration
  readers : ∀ call ∈ s.readers,
    ReaderFenced s.memory s.completed call.began.contentGeneration call.state
  invalidators : ∀ kind generation, .returned kind generation ∈ s.invalidators →
    Upto generation s.memory.contentGeneration

theorem Fenced.mono {g g' : Nat} {pub : Publication} (h : Fenced g pub) (hupto : Upto g g') :
    Fenced g' pub :=
  ⟨h.kind, h.marked, h.since.trans hupto⟩

theorem ReaderFenced.congr {completed completed' : List Publication} {began : Nat}
    {r : ReaderState} (h : ReaderFenced m completed began r)
    (hsub : ∀ pub ∈ completed, pub ∈ completed')
    (hsame : ∀ i, leased r = some i → SameContent (m'.slots i) (m.slots i)) :
    ReaderFenced m' completed' began r := by
  cases r with
  | loadContentGeneration index sequence rest active =>
      obtain ⟨hne, hupto, pub, hpub, hdisplays, hfenced⟩ := h
      exact ⟨hne, hupto, pub, hsub pub hpub, hdisplays.congr (hsame index rfl), hfenced⟩
  | read view rest left =>
      obtain ⟨pub, hpub, hdisplays, hcurrent⟩ := h
      exact ⟨pub, hsub pub hpub, hdisplays.congr (hsame _ rfl), hcurrent⟩
  | holding view =>
      obtain ⟨pub, hpub, hdisplays, hcurrent⟩ := h
      exact ⟨pub, hsub pub hpub, hdisplays.congr (hsame _ rfl), hcurrent⟩
  | _ => trivial

theorem readerFenced_of_free {completed : List Publication} {began : Nat} {r : ReaderState}
    (h : leased r = none) : ReaderFenced m completed began r := by
  cases r <;> trivial

theorem Fenced.current {active began : Nat} {pub : Publication} (h : Fenced active pub)
    (hne : active ≠ 0) (hupto : Upto began active) (heq : pub.call.generation = active) :
    Current began pub := by
  refine ⟨?_, hupto.ne_zero hne, ?_⟩
  · have hmarked := h.marked
    rw [heq] at hmarked ⊢
    exact h.since.antisymm hmarked
  · rw [heq]
    exact hupto.le hne

/-! ## Its steps -/

theorem ProducerMove.admittedCall {p : ProducerState} {out : ProducerOutcome}
    (h : ProducerMove capacity m p out) {a : PublishCall}
    (hnext : SharedRing.admittedCall out.next = some a) :
    SharedRing.admittedCall p = some a ∨
      a.generation ≠ 0 ∧ a.generation = m.contentGeneration := by
  cases h with
  | generation b hnonzero hcurrent =>
      cases hnext
      exact Or.inr ⟨hnonzero, hcurrent⟩
  | _ => first | exact Or.inl hnext | cases hnext

theorem ProducerMove.signalledCall {p : ProducerState} {out : ProducerOutcome}
    (h : ProducerMove capacity m p out) {a : PublishCall}
    (hnext : SharedRing.signalledCall out.next = some a) :
    SharedRing.signalledCall p = some a ∨
      p = .checkKindSignal a ∧ signalKind m.contentSignal = some a.kind ∧
        a.nv12.length ≤ capacity.maxFrameBytes := by
  cases h with
  | kindSignal b hkind hfits =>
      cases hnext
      exact Or.inr ⟨rfl, hkind, hfits⟩
  | _ => first | exact Or.inl hnext | cases hnext

theorem signalAtAdmission_of_signalled {a : PublishCall}
    (h : signalledCall s.producer = some a) : Ring.signalAtAdmission s = s.admitted := by
  unfold Ring.signalAtAdmission
  split
  · rename_i hp
    rw [hp] at h
    cases h
  · rfl

theorem mem_marksDone {pub : Publication} (h : pub ∈ Ring.marksDone s) :
    ∃ a index sequence, s.producer = .storeReady a index sequence ∧
      pub = ⟨a, sequence, s.admitted, s.memory.contentGeneration⟩ := by
  unfold Ring.marksDone at h
  split at h
  · rename_i a index sequence hp
    exact ⟨a, index, sequence, hp, List.mem_singleton.mp h⟩
  · cases h

theorem readerFenced_readerStep (h : RingInvariant s)
    (hpublications : ∀ pub ∈ s.completed, Fenced s.memory.contentGeneration pub)
    {call : ReaderCall} (hcall : call ∈ s.readers) {began : Nat}
    (hbegan : Upto began s.memory.contentGeneration)
    (hreader : ReaderFenced s.memory s.completed began call.state) {spurious : Bool} :
    ReaderFenced s.memory s.completed began
      (readerStep capacity s.memory spurious call.state).2 := by
  have hview := h.views call hcall
  generalize call.state = r at hview hreader
  cases r with
  | loadGeneration =>
      dsimp only [readerStep]
      split <;> trivial
  | loadLatest =>
      dsimp only [readerStep]
      split <;> trivial
  | scanReady index candidates =>
      dsimp only [readerStep]
      split
      · trivial
      · exact readerFenced_of_free (leased_nextScan _ _)
  | scanSequence index candidates => exact readerFenced_of_free (leased_nextScan _ _)
  | tryReady index sequence rest =>
      dsimp only [readerStep]
      split
      · trivial
      · exact readerFenced_of_free (leased_nextCandidate _)
  | trySequence index sequence rest =>
      dsimp only [readerStep]
      split
      · trivial
      · exact readerFenced_of_free (leased_nextCandidate _)
  | loadLease index sequence rest => exact readerFenced_of_free (leased_checkLease _ _ _ _)
  | takeLease index sequence rest lease =>
      dsimp only [readerStep]
      split
      · trivial
      · exact readerFenced_of_free (leased_checkLease _ _ _ _)
  | recheckReady index sequence rest =>
      dsimp only [readerStep]
      split <;> trivial
  | recheckSequence index sequence rest =>
      dsimp only [readerStep]
      split <;> trivial
  | loadActive index sequence rest =>
      dsimp only [readerStep]
      split
      · trivial
      · rename_i hne
        obtain ⟨pub, hpub, hdisplays⟩ := h.complete index hview.1
        exact ⟨hne, hbegan, pub, hpub, hdisplays, hpublications pub hpub⟩
  | loadContentGeneration index sequence rest active =>
      obtain ⟨hne, hupto, pub, hpub, hdisplays, hfenced⟩ := hreader
      dsimp only [readerStep]
      split
      · rename_i hactive
        have heq : pub.call.generation = active := hdisplays.generation.symm.trans hactive
        exact ⟨pub, hpub, hdisplays, hfenced.kind, hfenced.current hne hupto heq⟩
      · trivial
  | read view rest left =>
      cases left with
      | nil =>
          dsimp only [readerStep]
          split
          · exact hreader
          · trivial
      | cons field left => exact hreader
  | release index rest => exact readerFenced_of_free (leased_nextCandidate _)
  | holding view => exact hreader
  | returnedNone => trivial
  | dropped view => trivial

theorem readerFenced_dropView {completed : List Publication} {began : Nat} {r : ReaderState}
    (h : ReaderFenced m completed began r) : ReaderFenced m completed began (dropView m r).2 := by
  cases r with
  | holding view => trivial
  | _ => exact h

namespace FenceInvariant

theorem new (m : RingMemory) : FenceInvariant (Ring.new m) := by
  constructor
  · exact nofun
  · exact nofun
  · exact nofun
  · exact nofun
  · exact nofun
  · exact nofun

theorem producer (h : FenceInvariant s) (hring : RingInvariant s) :
    FenceInvariant (Ring.stepProducer capacity s) := by
  have hmove := @producerStep_move capacity s.memory s.producer
  have hgeneration := hmove.header.1
  have hmemory : (Ring.stepProducer capacity s).memory.contentGeneration =
      s.memory.contentGeneration := hgeneration
  constructor
  · rw [hmemory]
    intro pub hpub
    rcases List.mem_append.mp hpub with hold | hnew
    · exact h.publications pub hold
    · obtain ⟨a, index, sequence, hp, rfl⟩ := mem_marksDone hnew
      refine ⟨h.kind a ?_, h.generation a ?_, .refl _⟩ <;> rw [hp] <;> rfl
  · rw [hmemory]
    intro a ha
    rcases hmove.admittedCall ha with hold | ⟨-, hnew⟩
    · exact h.generation a hold
    · rw [hnew]
      exact .refl _
  · intro a ha
    change signalKind (Ring.signalAtAdmission s) = some a.kind
    rcases hmove.signalledCall ha with hold | ⟨hp, hkind, -⟩
    · rw [signalAtAdmission_of_signalled hold]
      exact h.kind a hold
    · unfold Ring.signalAtAdmission
      rw [hp]
      exact hkind
  · rw [hmemory]
    exact h.began
  · intro call hcall
    refine (h.readers call hcall).congr (fun pub hpub => List.mem_append_left _ hpub) ?_
    intro i hleased
    exact hmove.other (hring.not_owned hcall hleased)
  · rw [hmemory]
    exact h.invalidators

theorem reader (h : FenceInvariant s) {k : Nat} {call : ReaderCall}
    {out : RingMemory × ReaderState} (hk : s.readers[k]? = some call)
    (heffect : LeaseEffect s.memory call.state out)
    (hnext : ReaderFenced s.memory s.completed call.began.contentGeneration out.2) :
    FenceInvariant { s with
      memory := out.1, readers := s.readers.set k { call with state := out.2 } } := by
  have hgeneration := heffect.header.1
  constructor
  · dsimp only
    rw [hgeneration]
    exact h.publications
  · dsimp only
    rw [hgeneration]
    exact h.generation
  · exact h.kind
  · intro other hother
    dsimp only
    rw [hgeneration]
    rcases mem_set_cases hother with rfl | hold
    · exact h.began call (List.mem_of_getElem? hk)
    · exact h.began other hold
  · intro other hother
    rcases mem_set_cases hother with rfl | hold
    · exact hnext.congr (fun _ hpub => hpub) fun i _ => heffect.sameContent i
    · exact (h.readers other hold).congr (fun _ hpub => hpub) fun i _ => heffect.sameContent i
  · dsimp only
    rw [hgeneration]
    exact h.invalidators

theorem called (h : FenceInvariant s) (consumer : Nat) :
    FenceInvariant { s with readers := s.readers ++ [Ring.newCall s consumer] } := by
  refine ⟨h.publications, h.generation, h.kind, ?_, ?_, h.invalidators⟩
  · intro call hcall
    rcases List.mem_append.mp hcall with hold | hnew
    · exact h.began call hold
    · rw [List.mem_singleton.mp hnew]
      exact .refl _
  · intro call hcall
    rcases List.mem_append.mp hcall with hold | hnew
    · exact h.readers call hold
    · rw [List.mem_singleton.mp hnew]
      trivial

theorem invalidator (h : FenceInvariant s) {m : RingMemory}
    {invalidators : List InvalidatorState} (hslots : m.slots = s.memory.slots)
    (hupto : Upto s.memory.contentGeneration m.contentGeneration)
    (hreturned : ∀ kind generation, .returned kind generation ∈ invalidators →
      .returned kind generation ∈ s.invalidators ∨ Upto generation m.contentGeneration) :
    FenceInvariant { s with memory := m, invalidators := invalidators } := by
  constructor
  · exact fun pub hpub => (h.publications pub hpub).mono hupto
  · exact fun a ha => (h.generation a ha).trans hupto
  · exact h.kind
  · exact fun call hcall => (h.began call hcall).trans hupto
  · intro call hcall
    refine (h.readers call hcall).congr (fun _ hpub => hpub) fun i _ => ?_
    rw [hslots]
    exact .refl _
  · intro kind generation hmem
    rcases hreturned kind generation hmem with hold | hnew
    · exact (h.invalidators kind generation hold).trans hupto
    · exact hnew

theorem move (h : FenceInvariant s) (hring : RingInvariant s) {step : RingStep} {t : RingState}
    (hmove : RingMove capacity s step t) : FenceInvariant t := by
  cases hmove with
  | still => exact h
  | publish a hidle => exact ⟨h.publications, nofun, nofun, h.began, h.readers, h.invalidators⟩
  | producer => exact h.producer hring
  | called consumer hfree => exact h.called consumer
  | reader k spurious call hk =>
      have hcall := List.mem_of_getElem? hk
      exact h.reader hk (readerStep_effect (hring.room call hcall))
        (readerFenced_readerStep hring h.publications hcall (h.began call hcall)
          (h.readers call hcall))
  | dropView k call hk =>
      exact h.reader hk (dropView_effect _)
        (readerFenced_dropView (h.readers call (List.mem_of_getElem? hk)))
  | invalidate =>
      refine h.invalidator rfl (.refl _) fun kind generation hmem => Or.inl ?_
      exact (List.mem_append.mp hmem).resolve_right (by simp)
  | invalidateAs kind =>
      refine h.invalidator rfl (.refl _) fun kind generation hmem => Or.inl ?_
      exact (List.mem_append.mp hmem).resolve_right (by simp)
  | invalidator k spurious state hk =>
      refine h.invalidator (invalidatorStep_slots state).1 (upto_invalidatorStep spurious state) ?_
      intro kind generation hmem
      rcases List.mem_or_eq_of_mem_set hmem with hold | hnew
      · exact Or.inl hold
      · rcases returned_invalidatorStep hnew.symm with hreturned | hgeneration
        · rw [← hreturned]
          exact Or.inl (List.mem_of_getElem? hk)
        · rw [hgeneration]
          exact Or.inr (.refl _)

end FenceInvariant

theorem fenceInvariant_of_reachable (h : (ringSystem capacity m).Reachable s) :
    FenceInvariant s := by
  refine h.invariant_of (fun _ hs => ringInvariant_of_reachable hs) ?_ ?_
  · rintro _ rfl
    exact .new m
  · rintro s step _ hring hs rfl
    exact hs.move hring (ringStep_move step)

end PicooCamera.SharedRing
