import PicooCamera.Packet.ReassemblyMap

/-!
# The adaptive jitter buffer

Complete access units wait in PTS order for their playout time. Sender PTS and
Receiver time have no common epoch, so only the distance from the smallest
observed transit is used. All times are microseconds.
-/

namespace PicooCamera.Jitter

open PicooCamera.Library PicooCamera.Packet

def startupTargetUs : Nat := 33000
def minTargetUs : Nat := 16000
def maxTargetUs : Nat := 80000
def maxObservedDecodeUs : Nat := 250000
def defaultDecodeUs : Nat := 5000
def renderMarginUs : Nat := 5000
def sampleWindow : Nat := 150
def maxBufferedFrames : Nat := 16

structure Frame where
  streamGeneration : Nat
  frameId : Nat
  ptsUs : Nat
  encodedAtUs : Nat
  receivedAtUs : Nat
  data : Bytes
  keyframe : Bool
  discardable : Bool
  deriving DecidableEq, Repr

structure BufferedFrame where
  frame : Frame
  firstFragmentAtUs : Nat
  completedAtUs : Nat
  deriving DecidableEq, Repr

structure JitterBuffer where
  frames : List BufferedFrame
  lastEmittedPtsUs : Option Nat
  baseTransitUs : Option Int
  lastObservedPtsUs : Option Nat
  transitSamplesUs : List Int
  decodeTimesUs : List Nat
  adaptiveTargetUs : Nat
  fixedTargetUs : Option Nat
  emittedDelaySumUs : Nat
  emittedCount : Nat
  deriving DecidableEq, Repr

inductive PushOutcome where
  | accepted
  | acceptedAfterReferenceDrop
  | droppedLate (requiresRefresh : Bool)
  deriving DecidableEq, Repr

structure FrontFrameDescriptor where
  streamGeneration : Nat
  frameId : Nat
  keyframe : Bool
  discardable : Bool
  deriving DecidableEq, Repr

def saturatingMul (a b : Nat) : Nat := min (a * b) u64Max

def pushBounded {α : Type} (samples : List α) (value : α) : List α :=
  (if samples.length = sampleWindow then samples.tail else samples) ++ [value]

def percentile (samples : List Nat) (percent : Nat) : Option Nat :=
  (samples.mergeSort (· ≤ ·))[(samples.length - 1) * percent / 100]?

def mappedTimeUs (baseTransitUs : Option Int) (ptsUs : Nat) : Nat :=
  min (ptsUs + baseTransitUs.getD 0).toNat u64Max

namespace JitterBuffer

def new : JitterBuffer where
  frames := []
  lastEmittedPtsUs := none
  baseTransitUs := none
  lastObservedPtsUs := none
  transitSamplesUs := []
  decodeTimesUs := []
  adaptiveTargetUs := startupTargetUs
  fixedTargetUs := none
  emittedDelaySumUs := 0
  emittedCount := 0

def setFixedTargetMs (j : JitterBuffer) (targetMs : Option Nat) : JitterBuffer :=
  { j with fixedTargetUs := targetMs.map fun value => saturatingMul value 1000 }

def targetUs (j : JitterBuffer) : Nat := j.fixedTargetUs.getD j.adaptiveTargetUs

def decodeBudgetUs (j : JitterBuffer) : Nat :=
  saturatingAdd ((percentile j.decodeTimesUs 95).getD defaultDecodeUs) renderMarginUs

def decodeReleaseAtUs (j : JitterBuffer) (ptsUs : Nat) : Nat :=
  saturatingAdd (mappedTimeUs j.baseTransitUs ptsUs) (j.targetUs - j.decodeBudgetUs)

/-- The playout budget that the observed arrival and decode times ask for. -/
def desiredTargetUs (j : JitterBuffer) : Nat :=
  let base := j.baseTransitUs.getD 0
  let queueing := j.transitSamplesUs.map fun sample => (sample - base).toNat % 2 ^ 64
  let arrival := (percentile queueing 95).getD 0
  let decode := (percentile j.decodeTimesUs 95).getD defaultDecodeUs
  max minTargetUs
    (min maxTargetUs (saturatingAdd (saturatingAdd arrival decode) renderMarginUs))

/-- The target rises at once and falls by at most one millisecond. -/
def updateTarget (j : JitterBuffer) : JitterBuffer :=
  if j.fixedTargetUs ≠ none then j
  else if j.transitSamplesUs.length < 5 then j
  else
    let desired := j.desiredTargetUs
    if j.adaptiveTargetUs ≤ desired then { j with adaptiveTargetUs := desired }
    else { j with adaptiveTargetUs := max (j.adaptiveTargetUs - 1000) desired }

def observeDecodeTimeUs (j : JitterBuffer) (decodeTimeUs : Nat) : JitterBuffer :=
  { j with
    decodeTimesUs :=
      pushBounded j.decodeTimesUs (min decodeTimeUs maxObservedDecodeUs) }.updateTarget

/-- A late older access unit does not move the scheduling clock backwards. -/
def observeArrival (j : JitterBuffer) (ptsUs completedAtUs : Nat) : JitterBuffer :=
  if ∃ last ∈ j.lastObservedPtsUs, ptsUs ≤ last then j
  else
    let samples := pushBounded j.transitSamplesUs ((completedAtUs : Int) - (ptsUs : Int))
    { j with
      lastObservedPtsUs := some ptsUs
      transitSamplesUs := samples
      baseTransitUs := samples.min? }.updateTarget

/-- The frame that makes room: the oldest that is no keyframe, else the oldest. -/
def removalIndex (frames : List BufferedFrame) : Nat :=
  (frames.findIdx? fun buffered => !buffered.frame.keyframe).getD 0

/-- Remove frames until the bound holds; the flag tells whether a reference was removed. -/
def enforceLimits : Nat → List BufferedFrame → Bool × List BufferedFrame
  | 0, frames => (false, frames)
  | excess + 1, frames =>
      match frames[removalIndex frames]? with
      | none => (false, frames)
      | some removed =>
          let (broken, rest) := enforceLimits excess (frames.eraseIdx (removalIndex frames))
          (!removed.frame.discardable || broken, rest)

/-- Insert behind the frames whose PTS is not larger. -/
def insertByPts (buffered : BufferedFrame) : List BufferedFrame → List BufferedFrame
  | [] => [buffered]
  | head :: rest =>
      if buffered.frame.ptsUs < head.frame.ptsUs then buffered :: head :: rest
      else head :: insertByPts buffered rest

def pushAt (j : JitterBuffer) (frame : Frame) (firstFragmentAtUs completedAtUs : Nat) :
    PushOutcome × JitterBuffer :=
  if ∃ emitted ∈ j.lastEmittedPtsUs, frame.ptsUs ≤ emitted then
    (.droppedLate (!frame.discardable), j)
  else
    let j := j.observeArrival frame.ptsUs completedAtUs
    let queued := insertByPts ⟨frame, firstFragmentAtUs, completedAtUs⟩ j.frames
    let (broken, frames) := enforceLimits (queued.length - maxBufferedFrames) queued
    (if broken then .acceptedAfterReferenceDrop else .accepted, { j with frames := frames })

def popReady (j : JitterBuffer) (nowUs : Nat) : Option Frame × JitterBuffer :=
  match j.frames with
  | [] => (none, j)
  | front :: rest =>
      if nowUs < j.decodeReleaseAtUs front.frame.ptsUs then (none, j)
      else
        (some front.frame,
          { j with
            frames := rest
            lastEmittedPtsUs := some front.frame.ptsUs
            emittedDelaySumUs :=
              min (j.emittedDelaySumUs + (nowUs - front.firstFragmentAtUs)) (2 ^ 128 - 1)
            emittedCount := saturatingAdd j.emittedCount 1 })

/-- The instant up to which a queued frame is kept. -/
def deadlineUs (j : JitterBuffer) (maxQueueAgeUs : Nat) (buffered : BufferedFrame) : Nat :=
  saturatingAdd buffered.completedAtUs (max maxQueueAgeUs j.targetUs)

/-- `true` when a reference access unit was dropped. -/
def dropExpired (j : JitterBuffer) (nowUs maxQueueAgeUs : Nat) : Bool × JitterBuffer :=
  if j.fixedTargetUs ≠ none then (false, j)
  else
    let keep := fun buffered => decide (nowUs ≤ j.deadlineUs maxQueueAgeUs buffered)
    ((j.frames.filter fun buffered => !keep buffered).any
        fun buffered => !buffered.frame.discardable,
      { j with frames := j.frames.filter keep })

def frontFrameId (j : JitterBuffer) : Option Nat :=
  j.frames.head?.map fun buffered => buffered.frame.frameId

def frontFrameDescriptor (j : JitterBuffer) : Option FrontFrameDescriptor :=
  j.frames.head?.map fun buffered =>
    { streamGeneration := buffered.frame.streamGeneration
      frameId := buffered.frame.frameId
      keyframe := buffered.frame.keyframe
      discardable := buffered.frame.discardable }

def nextReleaseDelayUs (j : JitterBuffer) (nowUs : Nat) : Option Nat :=
  j.frames.head?.map fun buffered => j.decodeReleaseAtUs buffered.frame.ptsUs - nowUs

/-- One microsecond after the deadline, at which a frame is still kept. -/
def nextExpirationDelayUs (j : JitterBuffer) (nowUs maxQueueAgeUs : Nat) : Option Nat :=
  if j.fixedTargetUs ≠ none then none
  else
    ((j.frames.map fun buffered =>
      saturatingAdd (j.deadlineUs maxQueueAgeUs buffered) 1).min?).map fun deadline =>
        deadline - nowUs

def discardQueued (j : JitterBuffer) : JitterBuffer :=
  { j with frames := [], lastEmittedPtsUs := none }

def clear (j : JitterBuffer) : JitterBuffer := { new with fixedTargetUs := j.fixedTargetUs }

end JitterBuffer

end PicooCamera.Jitter
