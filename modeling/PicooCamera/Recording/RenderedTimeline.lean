import PicooCamera.FrameHub.NativeFrame
import PicooCamera.Packet.ReassemblyMap

/-!
# The output slots of a processed recording

Slot `k` of a frame rate begins `k * 1000000 / fps` microseconds after the anchor.
A source frame is encoded when it reaches a slot that was not reached before.
-/

namespace PicooCamera.Recording

open PicooCamera.FrameHub PicooCamera.Packet

def segmentDurationSeconds : Nat := 10

structure SourceGeneration where
  connection : Nat
  streamEpoch : Nat
  decoder : Nat
  configRevision : Nat
  deriving DecidableEq, Repr

def SourceGeneration.new (identity : FrameIdentity) (configRevision : Nat) :
    SourceGeneration where
  connection := identity.connectionGeneration
  streamEpoch := identity.streamEpoch
  decoder := identity.decoderGeneration
  configRevision := configRevision

structure RenderedSample where
  source : FrameIdentity
  sourcePtsUs : Nat
  segmentPtsUs : Nat
  missedSlots : Nat
  segmentGeneration : Nat
  forceIdr : Bool
  deriving DecidableEq, Repr

inductive RenderedSampleDecision where
  | skip
  | encode (sample : RenderedSample)
  deriving DecidableEq, Repr

inductive RenderedTimelineError where
  | unsupportedFrameRate
  | sourceIdentityRegressed
  | sourcePtsRegressed
  | generationExhausted
  | timelineOverflow
  deriving DecidableEq, Repr

def RenderedTimelineError.text : RenderedTimelineError → String
  | .unsupportedFrameRate => "processed recording supports only 30fps or 60fps"
  | .sourceIdentityRegressed => "processed recording source frame identity did not advance"
  | .sourcePtsRegressed => "processed recording source PTS did not advance"
  | .generationExhausted => "processed recording timeline generation exhausted"
  | .timelineOverflow => "processed recording timeline arithmetic overflow"

structure RenderedTimeline where
  fps : Nat
  generation : Option SourceGeneration
  segmentGeneration : Nat
  anchorSourcePtsUs : Nat
  segmentStartSlot : Nat
  nextSlot : Nat
  lastSource : Option FrameIdentity
  lastSourcePtsUs : Nat
  deriving DecidableEq, Repr

/-! ## Slots -/

/-- The greatest slot whose time is no later than `elapsedUs`. -/
def reachedSlot (elapsedUs fps : Nat) : Except RenderedTimelineError Nat :=
  let slot := ((elapsedUs + 1) * fps - 1) / 1000000
  if slot ≤ u64Max then .ok slot else .error .timelineOverflow

def slotPtsUs (slot fps : Nat) : Except RenderedTimelineError Nat :=
  let pts := slot * 1000000 / fps
  if pts ≤ u64Max then .ok pts else .error .timelineOverflow

def checkedAdd (a b : Nat) (error : RenderedTimelineError) : Except RenderedTimelineError Nat :=
  if a + b ≤ u64Max then .ok (a + b) else .error error

def checkedSub (a b : Nat) (error : RenderedTimelineError) : Except RenderedTimelineError Nat :=
  if b ≤ a then .ok (a - b) else .error error

namespace RenderedTimeline

def new (fps : Nat) : Except RenderedTimelineError RenderedTimeline :=
  if fps ∈ [30, 60] then
    .ok {
      fps := fps
      generation := none
      segmentGeneration := 0
      anchorSourcePtsUs := 0
      segmentStartSlot := 0
      nextSlot := 0
      lastSource := none
      lastSourcePtsUs := 0 }
  else .error .unsupportedFrameRate

/-- The timeline starts again at the frame, which is the first of a segment. -/
def anchor (t : RenderedTimeline) (source : FrameIdentity) (configRevision sourcePtsUs : Nat) :
    Except RenderedTimelineError (RenderedSampleDecision × RenderedTimeline) := do
  let segmentGeneration ← checkedAdd t.segmentGeneration 1 .generationExhausted
  return (.encode {
      source := source
      sourcePtsUs := sourcePtsUs
      segmentPtsUs := 0
      missedSlots := 0
      segmentGeneration := segmentGeneration
      forceIdr := true },
    { t with
      segmentGeneration := segmentGeneration
      generation := some (.new source configRevision)
      anchorSourcePtsUs := sourcePtsUs
      segmentStartSlot := 0
      nextSlot := 1
      lastSource := some source
      lastSourcePtsUs := sourcePtsUs })

/-- `<` on pairs. -/
def streamBefore (a b : SourceGeneration) : Prop :=
  a.connection < b.connection ∨ a.connection = b.connection ∧ a.streamEpoch < b.streamEpoch

def sameStream (a b : SourceGeneration) : Prop :=
  a.connection = b.connection ∧ a.streamEpoch = b.streamEpoch

instance (a b : SourceGeneration) : Decidable (streamBefore a b) := by
  unfold streamBefore
  infer_instance

instance (a b : SourceGeneration) : Decidable (sameStream a b) := by
  unfold sameStream
  infer_instance

/-- The checks of a frame of the stream that the timeline is in. -/
def checkOrder (t : RenderedTimeline) (current generation : SourceGeneration)
    (source : FrameIdentity) (sourcePtsUs : Nat) : Except RenderedTimelineError Unit :=
  if generation.decoder < current.decoder ∨
      generation.configRevision < current.configRevision then .error .sourceIdentityRegressed
  else if ∃ previous ∈ t.lastSource, source.frameId ≤ previous.frameId then
    .error .sourceIdentityRegressed
  else if sourcePtsUs ≤ t.lastSourcePtsUs then .error .sourcePtsRegressed
  else .ok ()

/-- A sample that forces an IDR begins a segment. -/
def segmentGenerationOf (t : RenderedTimeline) (forceIdr : Bool) :
    Except RenderedTimelineError Nat :=
  if forceIdr = true then checkedAdd t.segmentGeneration 1 .generationExhausted
  else .ok t.segmentGeneration

/-- A frame of the same generation takes the slot that it reached, if that is a new one. -/
def sample (t : RenderedTimeline) (source : FrameIdentity) (sourcePtsUs : Nat) :
    Except RenderedTimelineError (RenderedSampleDecision × RenderedTimeline) := do
  let elapsed ← checkedSub sourcePtsUs t.anchorSourcePtsUs .sourcePtsRegressed
  let reached ← reachedSlot elapsed t.fps
  if reached < t.nextSlot then
    return (.skip, { t with lastSource := some source, lastSourcePtsUs := sourcePtsUs })
  else
    let missedSlots := reached - t.nextSlot
    let scheduledBoundary : Bool := t.fps * segmentDurationSeconds ≤ reached - t.segmentStartSlot
    let forceIdr : Bool := missedSlots ≠ 0 ∨ scheduledBoundary
    let segmentGeneration ← t.segmentGenerationOf forceIdr
    let segmentStartSlot := if forceIdr then reached else t.segmentStartSlot
    let reachedPts ← slotPtsUs reached t.fps
    let startPts ← slotPtsUs segmentStartSlot t.fps
    let segmentPtsUs ← checkedSub reachedPts startPts .timelineOverflow
    let nextSlot ← checkedAdd reached 1 .timelineOverflow
    return (.encode {
        source := source
        sourcePtsUs := sourcePtsUs
        segmentPtsUs := segmentPtsUs
        missedSlots := missedSlots
        segmentGeneration := segmentGeneration
        forceIdr := forceIdr },
      { t with
        segmentGeneration := segmentGeneration
        segmentStartSlot := segmentStartSlot
        nextSlot := nextSlot
        lastSource := some source
        lastSourcePtsUs := sourcePtsUs })

def checkStream (t : RenderedTimeline) (current generation : SourceGeneration)
    (source : FrameIdentity) (sourcePtsUs : Nat) : Except RenderedTimelineError Unit :=
  if streamBefore generation current then .error .sourceIdentityRegressed
  else if sameStream generation current then t.checkOrder current generation source sourcePtsUs
  else .ok ()

/-- An error leaves the timeline as it is. -/
def offer (t : RenderedTimeline) (source : FrameIdentity) (configRevision sourcePtsUs : Nat) :
    Except RenderedTimelineError (RenderedSampleDecision × RenderedTimeline) :=
  let generation := SourceGeneration.new source configRevision
  match t.generation with
  | none => t.anchor source configRevision sourcePtsUs
  | some current => do
      t.checkStream current generation source sourcePtsUs
      if generation ≠ current then t.anchor source configRevision sourcePtsUs
      else t.sample source sourcePtsUs

end RenderedTimeline

end PicooCamera.Recording
