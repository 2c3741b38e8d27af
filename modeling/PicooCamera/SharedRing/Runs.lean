import PicooCamera.SharedRing.Snapshots

/-!
# Runs of the ring

The steps of the producer, of the consumers and of the invalidators interleave
in any order. In every state reached the counters keep the producer off the
slots that are read, a view shows the arguments of one publish call, and the
sequences that were published increase, as long as fewer than 2^64 were.
-/

namespace PicooCamera.SharedRing

open PicooCamera.Library RingMemory

variable {capacity : FrameCapacity} {m m' : RingMemory} {s : RingState}

def ringSystem (capacity : FrameCapacity) (m : RingMemory) :
    TransitionSystem RingState RingStep :=
  .ofFunction (Ring.new m) (Ring.ringStep capacity)

/-! ## What a step of the ring does -/

inductive RingMove (capacity : FrameCapacity) (s : RingState) : RingStep → RingState → Prop
  | still (step : RingStep) : RingMove capacity s step s
  | publish (a : PublishCall) (hidle : Ring.isIdle s.producer = true) :
      RingMove capacity s (.publish a) { s with producer := .checkGeneration a }
  | producer : RingMove capacity s .producer (Ring.stepProducer capacity s)
  | called (consumer : Nat) (hfree : Ring.calling s consumer = false) :
      RingMove capacity s (.latestFrame consumer)
        { s with readers := s.readers ++ [Ring.newCall s consumer] }
  | reader (k : Nat) (spurious : Bool) (call : ReaderCall) (hk : s.readers[k]? = some call) :
      RingMove capacity s (.reader k spurious) { s with
        memory := (readerStep capacity s.memory spurious call.state).1
        readers := s.readers.set k
          { call with state := (readerStep capacity s.memory spurious call.state).2 } }
  | dropView (k : Nat) (call : ReaderCall) (hk : s.readers[k]? = some call) :
      RingMove capacity s (.dropView k) { s with
        memory := (SharedRing.dropView s.memory call.state).1
        readers := s.readers.set k
          { call with state := (SharedRing.dropView s.memory call.state).2 } }
  | invalidate : RingMove capacity s .invalidate
      { s with invalidators := s.invalidators ++ [.kindGeneration] }
  | invalidateAs (kind : SharedFrameKind) : RingMove capacity s (.invalidateAs kind)
      { s with invalidators := s.invalidators ++ [.loadSignal kind] }
  | invalidator (k : Nat) (spurious : Bool) (state : InvalidatorState)
      (hk : s.invalidators[k]? = some state) :
      RingMove capacity s (.invalidator k spurious) { s with
        memory := (invalidatorStep s.memory spurious state).1
        invalidators := s.invalidators.set k (invalidatorStep s.memory spurious state).2 }

theorem ringStep_move (step : RingStep) :
    RingMove capacity s step (Ring.ringStep capacity s step) := by
  cases step with
  | publish a =>
      dsimp only [Ring.ringStep]
      split
      · rename_i hidle
        exact .publish a hidle
      · exact .still _
  | producer => exact .producer
  | latestFrame consumer =>
      dsimp only [Ring.ringStep]
      split
      · exact .still _
      · rename_i hcalling
        exact .called consumer (Bool.not_eq_true _ ▸ hcalling)
  | reader k spurious =>
      dsimp only [Ring.ringStep, Ring.onReader]
      split
      · exact .still _
      · rename_i call hk
        exact .reader k spurious call hk
  | dropView k =>
      dsimp only [Ring.ringStep, Ring.onReader]
      split
      · exact .still _
      · rename_i call hk
        exact .dropView k call hk
  | invalidate => exact .invalidate
  | invalidateAs kind => exact .invalidateAs kind
  | invalidator k spurious =>
      dsimp only [Ring.ringStep, Ring.onInvalidator]
      split
      · exact .still _
      · rename_i state hk
        exact .invalidator k spurious state hk

/-! ## What a call has read -/

/-- What is known of the slot that a call has a lease on. -/
def ViewSound (m : RingMemory) : ReaderState → Prop
  | .recheckSequence index _ _ => (m.slots index).readyState = .done
  | .loadActive index sequence _ | .loadContentGeneration index sequence _ _ =>
      (m.slots index).readyState = .done ∧ (m.slots index).sequence = sequence
  | .read view _ left => (m.slots view.index).readyState = .done ∧
      (m.slots view.index).sequence = view.sequence ∧
        ∀ name ∉ left, view.plain name = (m.slots view.index).plain name
  | .holding view => (m.slots view.index).readyState = .done ∧
      (m.slots view.index).sequence = view.sequence ∧ view.plain = (m.slots view.index).plain
  | _ => True

theorem ViewSound.congr {r : ReaderState} (h : ViewSound m r)
    (hsame : ∀ i, leased r = some i → SameContent (m'.slots i) (m.slots i)) :
    ViewSound m' r := by
  cases r with
  | recheckSequence index sequence rest => exact (hsame index rfl).readyState.trans h
  | loadActive index sequence rest =>
      exact ⟨(hsame index rfl).readyState.trans h.1, (hsame index rfl).sequence.trans h.2⟩
  | loadContentGeneration index sequence rest active =>
      exact ⟨(hsame index rfl).readyState.trans h.1, (hsame index rfl).sequence.trans h.2⟩
  | read view rest left =>
      obtain ⟨hdone, hsequence, hread⟩ := h
      refine ⟨(hsame _ rfl).readyState.trans hdone, (hsame _ rfl).sequence.trans hsequence, ?_⟩
      intro name hname
      rw [(hsame _ rfl).plain]
      exact hread name hname
  | holding view =>
      obtain ⟨hdone, hsequence, hplain⟩ := h
      exact ⟨(hsame _ rfl).readyState.trans hdone, (hsame _ rfl).sequence.trans hsequence,
        hplain.trans (hsame _ rfl).plain.symm⟩
  | _ => trivial

theorem viewSound_of_free {r : ReaderState} (h : leased r = none) : ViewSound m r := by
  cases r <;> trivial

theorem mem_readFields (name : PlainField) : name ∈ readFields := by
  cases name <;> decide

theorem viewSound_readerStep {spurious : Bool} {r : ReaderState} (h : ViewSound m r) :
    ViewSound m (readerStep capacity m spurious r).2 := by
  cases r with
  | loadGeneration =>
      dsimp only [readerStep]
      split <;> trivial
  | loadLatest =>
      dsimp only [readerStep]
      split <;> trivial
  | scanReady index candidates =>
      dsimp only [readerStep]
      split
      · trivial
      · exact viewSound_of_free (leased_nextScan _ _)
  | scanSequence index candidates => exact viewSound_of_free (leased_nextScan _ _)
  | tryReady index sequence rest =>
      dsimp only [readerStep]
      split
      · trivial
      · exact viewSound_of_free (leased_nextCandidate _)
  | trySequence index sequence rest =>
      dsimp only [readerStep]
      split
      · trivial
      · exact viewSound_of_free (leased_nextCandidate _)
  | loadLease index sequence rest => exact viewSound_of_free (leased_checkLease _ _ _ _)
  | takeLease index sequence rest lease =>
      dsimp only [readerStep]
      split
      · trivial
      · exact viewSound_of_free (leased_checkLease _ _ _ _)
  | recheckReady index sequence rest =>
      dsimp only [readerStep]
      split
      · rename_i hdone
        exact hdone
      · trivial
  | recheckSequence index sequence rest =>
      dsimp only [readerStep]
      split
      · rename_i hsequence
        exact ⟨h, hsequence⟩
      · trivial
  | loadActive index sequence rest =>
      dsimp only [readerStep]
      split
      · trivial
      · exact h
  | loadContentGeneration index sequence rest active =>
      dsimp only [readerStep]
      split
      · exact ⟨h.1, h.2, fun name hname => absurd (mem_readFields name) hname⟩
      · trivial
  | read view rest left =>
      obtain ⟨hdone, hsequence, hread⟩ := h
      cases left with
      | nil =>
          dsimp only [readerStep]
          split
          · exact ⟨hdone, hsequence, funext fun name => hread name List.not_mem_nil⟩
          · trivial
      | cons field left =>
          refine ⟨hdone, hsequence, ?_⟩
          intro name hname
          change Function.update view.plain field ((m.slots view.index).plain field) name =
            (m.slots view.index).plain name
          by_cases heq : name = field
          · rw [heq, Function.update_self]
          · rw [Function.update_of_ne heq]
            exact hread name (List.not_mem_cons_of_ne_of_not_mem heq hname)
  | release index rest => exact viewSound_of_free (leased_nextCandidate _)
  | holding view => exact h
  | returnedNone => trivial
  | dropped view => trivial

theorem viewSound_dropView {r : ReaderState} (h : ViewSound m r) :
    ViewSound m (dropView m r).2 := by
  cases r with
  | holding view => trivial
  | _ => exact h

/-! ## The invariant -/

structure RingInvariant (s : RingState) : Prop extends ProducerInvariant s where
  exclusive : Exclusive s.memory (owned s.producer) (leases s.readers)
  room : ∀ call ∈ s.readers, HasRoom call.state
  views : ∀ call ∈ s.readers, ViewSound s.memory call.state

theorem ProducerSound.congr {count : Nat} {p : ProducerState} (h : ProducerSound m count p)
    (hsame : ∀ i, SameContent (m'.slots i) (m.slots i)) : ProducerSound m' count p := by
  have hready : ∀ i, (m.slots i).readyState = .writing → (m'.slots i).readyState = .writing :=
    fun i hwriting => (hsame i).readyState.trans hwriting
  have hshows : ∀ i a, Shows (m.slots i) a → Shows (m'.slots i) a :=
    fun i a hslot => hslot.congr (hsame i).plain (hsame i).pixels
  cases p with
  | write a index left =>
      obtain ⟨hwriting, hsuffix, hwritten⟩ := h
      refine ⟨hready _ hwriting, hsuffix, ?_⟩
      intro w hw
      refine (hwritten w hw).imp id fun hholds => ?_
      cases w with
      | field name value => exact (congrFun (hsame index).plain name).trans hholds
      | pixel i value => exact (congrFun (hsame index).pixels i).trans hholds
  | loadLatest a index => exact ⟨hready _ h.1, hshows _ _ h.2⟩
  | storeGeneration a index sequence => exact ⟨hready _ h.1, hshows _ _ h.2.1, h.2.2⟩
  | storeSequence a index sequence =>
      obtain ⟨hwriting, hslot, hnumber, hgeneration⟩ := h
      exact ⟨hready _ hwriting, hshows _ _ hslot, hnumber,
        (hsame index).contentGeneration.trans hgeneration⟩
  | storeReady a index sequence =>
      obtain ⟨hwriting, hslot, hnumber, hgeneration, hsequence⟩ := h
      exact ⟨hready _ hwriting, hshows _ _ hslot, hnumber,
        (hsame index).contentGeneration.trans hgeneration,
        (hsame index).sequence.trans hsequence⟩
  | storeLease a index sequence =>
      obtain ⟨hdone, hgeneration, hsequence⟩ := h
      exact ⟨(hsame index).readyState.trans hdone,
        (hsame index).contentGeneration.trans hgeneration,
        (hsame index).sequence.trans hsequence⟩
  | _ => trivial

theorem ProducerInvariant.congr {readers : List ReaderCall}
    {invalidators : List InvalidatorState} (h : ProducerInvariant s)
    (hsame : ∀ i, SameContent (m.slots i) (s.memory.slots i))
    (hlatest : m.latestSequence = s.memory.latestSequence) :
    ProducerInvariant { s with memory := m, readers := readers, invalidators := invalidators } where
  complete i := (h.complete i).congr (hsame i)
  sound := h.sound.congr hsame
  latest := hlatest.trans h.latest
  numbered := h.numbered
  answers := h.answers

theorem mem_set_cases {call call' : ReaderCall} {readers : List ReaderCall} {k : Nat}
    (h : call ∈ readers.set k call') : call = call' ∨ call ∈ readers :=
  (List.mem_or_eq_of_mem_set h).symm

theorem HasRoom.ite {c : Prop} [Decidable c] {r r' : ReaderState} (h : HasRoom r)
    (h' : HasRoom r') : HasRoom (if c then r else r') := by
  split
  · exact h
  · exact h'

theorem hasRoom_readerStep {spurious : Bool} (r : ReaderState) :
    HasRoom (readerStep capacity m spurious r).2 := by
  cases r with
  | loadGeneration => exact .ite trivial trivial
  | loadLatest => exact .ite trivial trivial
  | scanReady index candidates => exact .ite trivial (hasRoom_nextScan _ _)
  | scanSequence index candidates => exact hasRoom_nextScan _ _
  | tryReady index sequence rest => exact .ite trivial (hasRoom_nextCandidate _)
  | trySequence index sequence rest => exact .ite trivial (hasRoom_nextCandidate _)
  | loadLease index sequence rest => exact hasRoom_checkLease _ _ _ _
  | takeLease index sequence rest lease =>
      dsimp only [readerStep]
      split
      · trivial
      · exact hasRoom_checkLease _ _ _ _
  | recheckReady index sequence rest => exact .ite trivial trivial
  | recheckSequence index sequence rest => exact .ite trivial trivial
  | loadActive index sequence rest => exact .ite trivial trivial
  | loadContentGeneration index sequence rest active => exact .ite trivial trivial
  | read view rest left =>
      cases left with
      | nil => exact .ite trivial trivial
      | cons field left => trivial
  | release index rest => exact hasRoom_nextCandidate _
  | holding view => trivial
  | returnedNone => trivial
  | dropped view => trivial

theorem hasRoom_dropView {r : ReaderState} (h : HasRoom r) : HasRoom (dropView m r).2 := by
  cases r with
  | holding view => trivial
  | _ => exact h

theorem invalidatorStep_slots {spurious : Bool} (state : InvalidatorState) :
    (invalidatorStep m spurious state).1.slots = m.slots ∧
      (invalidatorStep m spurious state).1.latestSequence = m.latestSequence := by
  cases state with
  | updateSignal kind current =>
      dsimp only [invalidatorStep]
      split <;> exact ⟨rfl, rfl⟩
  | updateGeneration kind current =>
      dsimp only [invalidatorStep]
      split <;> exact ⟨rfl, rfl⟩
  | _ => exact ⟨rfl, rfl⟩

namespace RingInvariant

theorem new (m : RingMemory) : RingInvariant (Ring.new m) where
  complete _ := complete_of_not_done nofun
  sound := trivial
  latest := rfl
  numbered := rfl
  answers := rfl
  exclusive := by
    refine ⟨fun _ => rfl, nofun, fun _ => ?_⟩
    change 0 < writerLease
    unfold writerLease
    omega
  room := nofun
  views := nofun

theorem not_owned (h : RingInvariant s) {call : ReaderCall} {i : Nat} (hcall : call ∈ s.readers)
    (hleased : leased call.state = some i) : owned s.producer ≠ some i :=
  h.exclusive.not_owned (leases_pos hcall hleased)

theorem publish (h : RingInvariant s) (hidle : Ring.isIdle s.producer = true) (a : PublishCall) :
    RingInvariant { s with producer := .checkGeneration a } := by
  obtain ⟨m, p, admitted, readers, invalidators, completed, answers⟩ := s
  cases p with
  | idle => exact ⟨⟨h.complete, trivial, h.latest, h.numbered, h.answers⟩, h.exclusive, h.room,
      h.views⟩
  | _ => cases hidle

theorem producer (h : RingInvariant s) : RingInvariant (Ring.stepProducer capacity s) where
  toProducerInvariant := h.toProducerInvariant.producer
  exclusive := h.exclusive.producer (producerStep_move s.producer).counts
  room := h.room
  views := by
    intro call hcall
    refine (h.views call hcall).congr fun i hleased => ?_
    exact (producerStep_move s.producer).other (h.not_owned hcall hleased)

theorem called (h : RingInvariant s) {call : ReaderCall} (hstate : call.state = .loadGeneration) :
    RingInvariant { s with readers := s.readers ++ [call] } where
  toProducerInvariant := ⟨h.complete, h.sound, h.latest, h.numbered, h.answers⟩
  exclusive := by
    have hleases : leases (s.readers ++ [call]) = leases s.readers :=
      funext fun i => leases_append (by rw [hstate]; rfl) i
    dsimp only
    rw [hleases]
    exact h.exclusive
  room := by
    intro other hother
    rcases List.mem_append.mp hother with hold | hnew
    · exact h.room other hold
    · rw [List.mem_singleton.mp hnew, hstate]
      trivial
  views := by
    intro other hother
    rcases List.mem_append.mp hother with hold | hnew
    · exact h.views other hold
    · rw [List.mem_singleton.mp hnew, hstate]
      trivial

theorem reader (h : RingInvariant s) {k : Nat} {call : ReaderCall}
    {out : RingMemory × ReaderState} (hk : s.readers[k]? = some call)
    (heffect : LeaseEffect s.memory call.state out) (hroom : HasRoom out.2)
    (hview : ViewSound s.memory out.2) :
    RingInvariant { s with
      memory := out.1, readers := s.readers.set k { call with state := out.2 } } where
  toProducerInvariant := h.toProducerInvariant.congr heffect.sameContent heffect.header.2.2.1
  exclusive := by
    refine h.exclusive.reader heffect ?_ (leases_set hk out.2)
    intro i hleased
    exact leases_pos (List.mem_of_getElem? hk) hleased
  room := by
    intro other hother
    rcases mem_set_cases hother with rfl | hold
    · exact hroom
    · exact h.room other hold
  views := by
    intro other hother
    rcases mem_set_cases hother with rfl | hold
    · exact hview.congr fun i _ => heffect.sameContent i
    · exact (h.views other hold).congr fun i _ => heffect.sameContent i

theorem invalidator (h : RingInvariant s) {m : RingMemory} {invalidators : List InvalidatorState}
    (hslots : m.slots = s.memory.slots) (hlatest : m.latestSequence = s.memory.latestSequence) :
    RingInvariant { s with memory := m, invalidators := invalidators } := by
  have hsame : ∀ i, SameContent (m.slots i) (s.memory.slots i) := by
    intro i
    rw [hslots]
    exact .refl _
  refine ⟨h.toProducerInvariant.congr hsame hlatest, ⟨?_, h.exclusive.apart, h.exclusive.bound⟩,
    h.room, fun call hcall => (h.views call hcall).congr fun i _ => hsame i⟩
  intro i
  dsimp only
  rw [hslots]
  exact h.exclusive.counter i

theorem move (h : RingInvariant s) {step : RingStep} {t : RingState}
    (hmove : RingMove capacity s step t) : RingInvariant t := by
  cases hmove with
  | still => exact h
  | publish a hidle => exact h.publish hidle a
  | producer => exact h.producer
  | called consumer hfree => exact h.called rfl
  | reader k spurious call hk =>
      have hcall := List.mem_of_getElem? hk
      exact h.reader hk (readerStep_effect (h.room call hcall)) (hasRoom_readerStep _)
        (viewSound_readerStep (h.views call hcall))
  | dropView k call hk =>
      have hcall := List.mem_of_getElem? hk
      exact h.reader hk (dropView_effect _) (hasRoom_dropView (h.room call hcall))
        (viewSound_dropView (h.views call hcall))
  | invalidate => exact h.invalidator rfl rfl
  | invalidateAs kind => exact h.invalidator rfl rfl
  | invalidator k spurious state hk =>
      obtain ⟨hslots, hlatest⟩ := @invalidatorStep_slots s.memory spurious state
      exact h.invalidator hslots hlatest

theorem view_shows (h : RingInvariant s) {call : ReaderCall} {view : SharedFrameView}
    (hcall : call ∈ s.readers) (hstate : call.state = .holding view) :
    ∃ pub ∈ s.completed, view.sequence = pub.sequence ∧ view.plain = pub.call.plain ∧
      Displays (s.memory.slots view.index) pub := by
  have hview := h.views call hcall
  rw [hstate] at hview
  obtain ⟨hdone, hsequence, hplain⟩ := hview
  obtain ⟨pub, hpub, hdisplays⟩ := h.complete view.index hdone
  exact ⟨pub, hpub, hsequence.symm.trans hdisplays.sequence,
    hplain.trans hdisplays.shows.plain, hdisplays⟩

end RingInvariant

theorem ringInvariant_of_reachable (h : (ringSystem capacity m).Reachable s) :
    RingInvariant s := by
  refine h.invariant ?_ ?_
  · rintro _ rfl
    exact .new m
  · rintro s step _ hs rfl
    exact hs.move (ringStep_move step)

/-! ## The calls of a run -/

theorem RingMove.call {step : RingStep} {t : RingState} (h : RingMove capacity s step t) {k : Nat}
    {call : ReaderCall} (hk : t.readers[k]? = some call) :
    (∃ state, s.readers[k]? = some { call with state := state }) ∨
      k = s.readers.length ∧ ∃ consumer, Ring.calling s consumer = false ∧
        call = Ring.newCall s consumer := by
  have hset : ∀ {j : Nat} {other : ReaderCall} {next : ReaderState}, s.readers[j]? = some other →
      (s.readers.set j { other with state := next })[k]? = some call →
        ∃ state, s.readers[k]? = some { call with state := state } := by
    intro j other next hj hnext
    rw [List.getElem?_set] at hnext
    split at hnext
    · rename_i hjk
      subst hjk
      split at hnext
      · cases hnext
        exact ⟨other.state, hj⟩
      · cases hnext
    · exact ⟨call.state, hnext⟩
  cases h with
  | called consumer hfree =>
      dsimp only at hk
      rw [List.getElem?_append] at hk
      split at hk
      · exact Or.inl ⟨call.state, hk⟩
      · rw [List.getElem?_singleton] at hk
        split at hk
        · cases hk
          exact Or.inr ⟨by omega, consumer, hfree, rfl⟩
        · cases hk
  | reader j spurious other hj => exact Or.inl (hset hj hk)
  | dropView j other hj => exact Or.inl (hset hj hk)
  | _ => exact Or.inl ⟨call.state, hk⟩

/-- The call began after the first state. -/
def Later (s t : RingState) (call : ReaderCall) : Prop :=
  ∃ k, s.readers.length ≤ k ∧ t.readers[k]? = some call

theorem Later.mem {t : RingState} {call : ReaderCall} (h : Later s t call) : call ∈ t.readers := by
  obtain ⟨k, -, hk⟩ := h
  exact List.mem_of_getElem? hk

/-! ## Sample runs -/

def sampleCapacity : FrameCapacity := ⟨16, by decide⟩

def blankMemory : RingMemory where
  writeIndex := 0
  latestSequence := 0
  contentGeneration := 0
  contentSignal := 0
  slots := fun _ => ⟨0, 0, .empty, 0, fun _ => 0, fun _ => 0⟩

def ringRun (steps : List RingStep) : RingState :=
  steps.foldl (Ring.ringStep sampleCapacity) (Ring.new blankMemory)

theorem reachable_ringRun (steps : List RingStep) :
    (ringSystem sampleCapacity blankMemory).Reachable (ringRun steps) :=
  TransitionSystem.reachable_foldl _ _ _

theorem run_ringRun (steps more : List RingStep) :
    (ringSystem sampleCapacity blankMemory).Run (ringRun steps) more (ringRun (steps ++ more)) :=
  TransitionSystem.ofFunction_run.mpr List.foldl_append

/-- A frame of two rows, as the picture that has the number. -/
def sampleFrame (generation : Nat) (kind : SharedFrameKind) (picture : UInt8) : PublishCall :=
  ⟨generation, kind, 2, 2, 2, 0, 40, [picture, picture, picture, picture, 128, 128]⟩

/-- The producer publishes with no step of another thread in between. -/
def publishing (a : PublishCall) : List RingStep :=
  .publish a :: List.replicate 28 .producer

/-- The call that is number `k` goes on to its end, if no other thread steps. -/
def reading (k : Nat) : List RingStep := List.replicate 30 (.reader k false)

end PicooCamera.SharedRing
