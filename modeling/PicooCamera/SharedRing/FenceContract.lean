import PicooCamera.SharedRing.ContentFence

/-!
# What the fence guarantees

After an invalidation has returned, no later call returns an older frame. A
frame that is returned was marked in its own generation, and its kind was the
one that the signal showed when it was admitted. A generation that is exhausted
ends the ring at once; a signal that is exhausted ends it with the next
generation.
-/

namespace PicooCamera.SharedRing

open PicooCamera.Library RingMemory

variable {capacity : FrameCapacity} {m : RingMemory} {s t u : RingState} {steps : List RingStep}

/-- The frame that a view shows. -/
structure FrameOf (s : RingState) (view : SharedFrameView) (pub : Publication) : Prop where
  completed : pub ∈ s.completed
  sequence : view.sequence = pub.sequence
  plain : view.plain = pub.call.plain
  displays : Displays (s.memory.slots view.index) pub

/-- The states are those of one run, in this order. -/
structure FenceContract (s t u : RingState) : Prop where
  committed : ∀ call ∈ u.readers, ∀ view, call.state = .holding view → ∃ pub, FrameOf u view pub ∧
    pub.generation = pub.call.generation ∧ signalKind pub.signal = some pub.call.kind ∧
      SharedFrameKind.fromWire (view.plain .contentKind) = some pub.call.kind
  fenced : ∀ kind generation, .returned kind generation ∈ t.invalidators →
    ∀ call, Later t u call → ∀ view, call.state = .holding view →
      generation ≠ 0 ∧ ∀ pub, FrameOf u view pub → generation ≤ pub.call.generation
  exhausted : t.memory.contentGeneration = 0 → ∀ call, Later t u call →
    ∀ view, call.state ≠ .holding view
  signalExhausted : s.memory.contentSignal = 0 →
    t.memory.contentGeneration ≠ s.memory.contentGeneration → ∀ call, Later t u call →
      ∀ view, call.state ≠ .holding view

/-! ## Along a run -/

theorem readerStep_header (spurious : Bool) (r : ReaderState) :
    (readerStep capacity m spurious r).1.contentGeneration = m.contentGeneration ∧
      (readerStep capacity m spurious r).1.contentSignal = m.contentSignal := by
  cases r with
  | takeLease index sequence rest lease =>
      dsimp only [readerStep]
      split <;> exact ⟨rfl, rfl⟩
  | read view rest left => cases left <;> exact ⟨rfl, rfl⟩
  | _ => exact ⟨rfl, rfl⟩

theorem RingMove.upto {step : RingStep} (h : RingMove capacity s step t) :
    Upto s.memory.contentGeneration t.memory.contentGeneration := by
  cases h with
  | producer =>
      have hgeneration := (@producerStep_move capacity s.memory s.producer).header.1
      change Upto _ (producerStep capacity s.memory s.producer).memory.contentGeneration
      rw [hgeneration]
      exact .refl _
  | reader k spurious call hk =>
      dsimp only
      rw [(readerStep_header spurious call.state).1]
      exact .refl _
  | dropView k call hk =>
      dsimp only
      rw [(@dropView_effect s.memory call.state).header.1]
      exact .refl _
  | invalidator k spurious state hk => exact upto_invalidatorStep spurious state
  | _ => exact .refl _

theorem signal_invalidatorStep {spurious : Bool} {state : InvalidatorState}
    (h : m.contentSignal = 0) : (invalidatorStep m spurious state).1.contentSignal = 0 := by
  cases state with
  | updateSignal kind current =>
      dsimp only [invalidatorStep]
      split
      · rename_i htaken
        rw [← htaken.1, h]
        rfl
      · exact h
  | updateGeneration kind current =>
      dsimp only [invalidatorStep]
      split <;> exact h
  | _ => exact h

theorem RingMove.signal {step : RingStep} (h : RingMove capacity s step t)
    (hzero : s.memory.contentSignal = 0) : t.memory.contentSignal = 0 := by
  cases h with
  | producer => exact (@producerStep_move capacity s.memory s.producer).header.2.trans hzero
  | reader k spurious call hk => exact (readerStep_header spurious call.state).2.trans hzero
  | dropView k call hk => exact (@dropView_effect s.memory call.state).header.2.1.trans hzero
  | invalidator k spurious state hk => exact signal_invalidatorStep hzero
  | _ => exact hzero

theorem began_of_run (hrun : (ringSystem capacity m).Run s steps t) :
    Upto s.memory.contentGeneration t.memory.contentGeneration ∧
      ∀ call, Later s t call →
        Upto s.memory.contentGeneration call.began.contentGeneration := by
  refine @TransitionSystem.Run.preserves _ _ _ s t steps
    (fun t => Upto s.memory.contentGeneration t.memory.contentGeneration ∧
      ∀ call, Later s t call → Upto s.memory.contentGeneration call.began.contentGeneration)
    ?_ hrun ⟨.refl _, ?_⟩
  · rintro t step _ ⟨hupto, hbegan⟩ rfl
    have hmove := @ringStep_move capacity t step
    refine ⟨hupto.trans hmove.upto, ?_⟩
    rintro call ⟨k, hlater, hk⟩
    rcases hmove.call hk with ⟨state, hold⟩ | ⟨-, consumer, -, rfl⟩
    · exact hbegan { call with state := state } ⟨k, hlater, hold⟩
    · exact hupto
  · rintro call ⟨k, hlater, hk⟩
    rw [List.getElem?_eq_none hlater] at hk
    cases hk

theorem RingMove.publication {step : RingStep} (h : RingMove capacity s step t)
    {pub : Publication} (hpub : pub ∈ t.completed) : pub ∈ s.completed ∨
      ∃ a index sequence, s.producer = .storeReady a index sequence ∧
        pub = ⟨a, sequence, s.admitted, s.memory.contentGeneration⟩ := by
  cases h with
  | producer => exact (List.mem_append.mp hpub).imp id mem_marksDone
  | _ => exact Or.inl hpub

theorem RingMove.signalled {step : RingStep} (h : RingMove capacity s step t) {a : PublishCall}
    (ha : signalledCall t.producer = some a) : signalledCall s.producer = some a ∨
      signalKind s.memory.contentSignal = some a.kind := by
  cases h with
  | producer =>
      have hmove := @producerStep_move capacity s.memory s.producer
      exact (hmove.signalledCall ha).imp id fun hnew => hnew.2.1
  | publish b hidle => cases ha
  | _ => exact Or.inl ha

theorem publications_of_run (hs : FenceInvariant s) (hzero : s.memory.contentSignal = 0)
    (hrun : (ringSystem capacity m).Run s steps t) :
    ∀ pub ∈ t.completed, Upto pub.call.generation s.memory.contentGeneration := by
  have hall : t.memory.contentSignal = 0 ∧
      (∀ pub ∈ t.completed, Upto pub.call.generation s.memory.contentGeneration) ∧
        ∀ a, signalledCall t.producer = some a →
          Upto a.generation s.memory.contentGeneration := by
    refine @TransitionSystem.Run.preserves _ _ _ s t steps
      (fun t => t.memory.contentSignal = 0 ∧
        (∀ pub ∈ t.completed, Upto pub.call.generation s.memory.contentGeneration) ∧
          ∀ a, signalledCall t.producer = some a →
            Upto a.generation s.memory.contentGeneration) ?_ hrun ⟨hzero, ?_, ?_⟩
    · rintro t step _ ⟨hsignal, hpublications, hcalls⟩ rfl
      have hmove := @ringStep_move capacity t step
      refine ⟨hmove.signal hsignal, ?_, ?_⟩
      · intro pub hpub
        rcases hmove.publication hpub with hold | ⟨a, index, sequence, hp, rfl⟩
        · exact hpublications pub hold
        · apply hcalls
          rw [hp]
          rfl
      · intro a ha
        rcases hmove.signalled ha with hold | hkind
        · exact hcalls a hold
        · rw [hsignal] at hkind
          cases hkind
    · intro pub hpub
      have hfenced := hs.publications pub hpub
      exact hfenced.marked.trans hfenced.since
    · intro a ha
      exact hs.generation a (admittedCall_of_signalled ha)
  exact hall.2.1

/-! ## The contract -/

theorem RingInvariant.frameOf (h : RingInvariant s) {call : ReaderCall} {view : SharedFrameView}
    (hcall : call ∈ s.readers) (hstate : call.state = .holding view) {pub : Publication}
    (hpub : pub ∈ s.completed) (hdisplays : Displays (s.memory.slots view.index) pub) :
    FrameOf s view pub := by
  have hview := h.views call hcall
  rw [hstate] at hview
  obtain ⟨-, hsequence, hplain⟩ := hview
  exact ⟨hpub, hsequence.symm.trans hdisplays.sequence, hplain.trans hdisplays.shows.plain,
    hdisplays⟩

theorem FenceInvariant.shown (hring : RingInvariant s) (h : FenceInvariant s) {call : ReaderCall}
    {view : SharedFrameView} (hcall : call ∈ s.readers) (hstate : call.state = .holding view) :
    ∃ pub, FrameOf s view pub ∧ signalKind pub.signal = some pub.call.kind ∧
      Current call.began.contentGeneration pub := by
  have hfenced := h.readers call hcall
  rw [hstate] at hfenced
  obtain ⟨pub, hpub, hdisplays, hkind, hcurrent⟩ := hfenced
  exact ⟨pub, hring.frameOf hcall hstate hpub hdisplays, hkind, hcurrent⟩

theorem FrameOf.generation_eq {view : SharedFrameView} {pub other : Publication}
    (h : FrameOf s view pub) (h' : FrameOf s view other) :
    pub.call.generation = other.call.generation :=
  h.displays.generation.symm.trans h'.displays.generation

theorem fenceContract (hs : (ringSystem capacity m).Reachable s)
    (hst : (ringSystem capacity m).Run s steps t) {more : List RingStep}
    (htu : (ringSystem capacity m).Run t more u) : FenceContract s t u := by
  have ht : (ringSystem capacity m).Reachable t := hs.of_run hst
  have hu : (ringSystem capacity m).Reachable u := ht.of_run htu
  have hring := ringInvariant_of_reachable hu
  have hfence := fenceInvariant_of_reachable hu
  obtain ⟨hupto, hbegan⟩ := began_of_run htu
  constructor
  · intro call hcall view hstate
    obtain ⟨pub, hframe, hkind, hcurrent⟩ := hfence.shown hring hcall hstate
    refine ⟨pub, hframe, hcurrent.marked, hkind, ?_⟩
    rw [hframe.plain]
    exact fromWire_signalBit pub.call.kind
  · intro kind generation hreturned call hlater view hstate
    obtain ⟨pub, hframe, -, hcurrent⟩ := hfence.shown hring hlater.mem hstate
    have hsince := ((fenceInvariant_of_reachable ht).invalidators kind generation hreturned).trans
      (hbegan call hlater)
    refine ⟨hsince.ne_zero hcurrent.began_ne, ?_⟩
    intro other hother
    rw [← hframe.generation_eq hother]
    exact (hsince.le hcurrent.began_ne).trans hcurrent.began_le
  · intro hzero call hlater view hstate
    obtain ⟨pub, -, -, hcurrent⟩ := hfence.shown hring hlater.mem hstate
    exact (hbegan call hlater).ne_zero hcurrent.began_ne hzero
  · intro hzero hchanged call hlater view hstate
    obtain ⟨pub, hframe, -, hcurrent⟩ := hfence.shown hring hlater.mem hstate
    -- The frame is of the first generation at most, and the call of the second at least.
    have hpub := publications_of_run (fenceInvariant_of_reachable hs) hzero (hst.append htu) pub
      hframe.completed
    have hne : t.memory.contentGeneration ≠ 0 := (hbegan call hlater).ne_zero hcurrent.began_ne
    have hle : t.memory.contentGeneration ≤ pub.call.generation :=
      ((hbegan call hlater).le hcurrent.began_ne).trans hcurrent.began_le
    have hst' : Upto s.memory.contentGeneration t.memory.contentGeneration :=
      (began_of_run hst).1
    have hfirst := hst'.le hne
    have hlast := hpub.le (hst'.ne_zero hne)
    omega

/-- A frame is published, the ring turns to the placeholder, and a consumer looks for a frame. -/
def turning : List RingStep :=
  .invalidateAs .placeholder :: List.replicate 4 (.invalidator 0 false)

theorem fenceContract_turning :
    FenceContract (ringRun (publishing (sampleFrame 1 .live 7)))
      (ringRun (publishing (sampleFrame 1 .live 7) ++ turning))
      (ringRun (publishing (sampleFrame 1 .live 7) ++ turning ++ (.latestFrame 0 :: reading 0))) :=
  fenceContract (reachable_ringRun _) (run_ringRun _ _) (run_ringRun _ _)

/-! ## A signal that is exhausted -/

theorem reachable_last (hs : (ringSystem capacity m).Reachable s)
    {before : List InvalidatorState} {state next : InvalidatorState} {memory : RingMemory}
    (h : s.invalidators = before ++ [state])
    (hout : invalidatorStep s.memory false state = (memory, next)) :
    (ringSystem capacity m).Reachable
      { s with memory := memory, invalidators := before ++ [next] } := by
  have hlast : s.invalidators[before.length]? = some state := by
    rw [h, List.getElem?_concat_length]
  refine @TransitionSystem.Reachable.step _ _ _ s _ (.invalidator before.length false) hs ?_
  change _ = Ring.ringStep capacity s _
  dsimp only [Ring.ringStep, Ring.onInvalidator]
  rw [hlast]
  dsimp only
  rw [hout, h, List.set_append_right _ _ (Nat.le_refl _), Nat.sub_self]
  rfl

theorem reachable_invalidateAs (hs : (ringSystem capacity m).Reachable s)
    (kind : SharedFrameKind) :
    (ringSystem capacity m).Reachable { s with
      memory := { s.memory with
        contentSignal := nextSignal kind s.memory.contentSignal
        contentGeneration := nextGeneration s.memory.contentGeneration }
      invalidators := s.invalidators ++
        [.returned kind (nextGeneration s.memory.contentGeneration)] } := by
  have hbegun : (ringSystem capacity m).Reachable
      { s with invalidators := s.invalidators ++ [.loadSignal kind] } :=
    @TransitionSystem.Reachable.step _ _ _ s _ (.invalidateAs kind) hs rfl
  have hloaded := reachable_last hbegun rfl rfl
  have hsignalled := reachable_last hloaded rfl (if_pos ⟨rfl, rfl⟩)
  have hreloaded := reachable_last hsignalled rfl rfl
  exact reachable_last hreloaded rfl (if_pos ⟨rfl, rfl⟩)

/-- One call has not looked at the signal yet, and `count` calls have returned. -/
def invalidated (count : Nat) : RingState :=
  { Ring.new blankMemory with
    memory := { blankMemory.initHeader with
      contentSignal := (count + 1) * 2
      contentGeneration := count + 1 }
    invalidators := .loadSignal .placeholder ::
      (List.range count).map fun k => .returned .live (k + 2) }

theorem reachable_invalidated {count : Nat} (h : count + 2 ≤ 2 ^ 63) :
    (ringSystem sampleCapacity blankMemory).Reachable (invalidated count) := by
  induction count with
  | zero =>
      exact @TransitionSystem.Reachable.step _ _ _ (Ring.new blankMemory) _
        (.invalidateAs .placeholder) (.of_init rfl) rfl
  | succ count ih =>
      have hsignal : nextSignal .live ((count + 1) * 2) = (count + 1 + 1) * 2 := by
        unfold nextSignal SharedFrameKind.signalBit
        dsimp only
        rw [if_neg (by omega), if_pos (by omega)]
        omega
      have hgeneration : nextGeneration (count + 1) = count + 1 + 1 := by
        unfold nextGeneration
        rw [if_neg (by omega), if_pos (by omega)]
      have hnext := reachable_invalidateAs (ih (by omega)) .live
      dsimp only [invalidated] at hnext
      rw [hsignal, hgeneration] at hnext
      unfold invalidated
      rw [List.range_succ, List.map_append]
      exact hnext

/-- A frame is published in the last revision of the signal, which is then exhausted. -/
def exhausting : List RingStep :=
  publishing (sampleFrame (2 ^ 63 - 1) .live 7) ++ List.replicate 2 (.invalidator 0 false)

def lastRevision : RingState :=
  exhausting.foldl (Ring.ringStep sampleCapacity) (invalidated (2 ^ 63 - 2))

theorem reachable_lastRevision :
    (ringSystem sampleCapacity blankMemory).Reachable lastRevision :=
  (reachable_invalidated (by decide)).of_run (TransitionSystem.ofFunction_run.mpr rfl)

/-- The sequence of the view that a call holds. -/
def heldSequence : ReaderState → Option Nat
  | .holding view => some view.sequence
  | _ => none

/-- The frame is still shown while the generation lasts. -/
theorem signalExhausted_shown :
    (ringSystem sampleCapacity blankMemory).Reachable lastRevision ∧
      lastRevision.memory.contentSignal = 0 ∧
        (((.latestFrame 0 :: reading 0).foldl (Ring.ringStep sampleCapacity)
          lastRevision).readers.map fun call => heldSequence call.state) = [some 1] := by
  refine ⟨reachable_lastRevision, ?_, ?_⟩
  · decide +kernel
  · decide +kernel

end PicooCamera.SharedRing
