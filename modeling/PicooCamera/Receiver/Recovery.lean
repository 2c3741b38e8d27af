import PicooCamera.Jitter.JitterBuffer
import PicooCamera.Receiver.DecoderWorker

/-!
# Decoder prediction-chain recovery
-/

namespace PicooCamera.Receiver

open PicooCamera.Jitter PicooCamera.Packet

def keyframeRequestMinInterval : Duration := 1000000

inductive RecoveryReason where
  | initialConfig
  | epochChanged
  | referenceAccessUnitLost
  | referenceAccessUnitLate
  | decoderError
  | decoderQueuePressure
  | randomAccessResync
  | manualRepair
  deriving DecidableEq, Repr

structure RefreshCandidate where
  connectionGeneration : Nat
  streamGeneration : Nat
  frameId : Nat
  deriving DecidableEq, Repr

namespace RefreshCandidate

def fromTimeline (timeline : AccessUnitTimeline) : RefreshCandidate where
  connectionGeneration := timeline.connectionGeneration
  streamGeneration := timeline.streamGeneration
  frameId := timeline.frameId

/-- `candidate.matches(timeline)` is `candidate = fromTimeline timeline`. -/
def isFor (candidate : RefreshCandidate) (timeline : AccessUnitTimeline) : Bool :=
  candidate = fromTimeline timeline

end RefreshCandidate

inductive DecoderRecoveryPhase where
  | healthy
  | awaitingRefresh
  | refreshInFlight (candidate : RefreshCandidate)
  deriving DecidableEq, Repr

structure RecoveryTransition where
  newlyAwaiting : Bool
  invalidatedCandidate : Bool
  deriving DecidableEq, Repr

def RecoveryTransition.requiresMediaCleanup (transition : RecoveryTransition) : Bool :=
  transition.newlyAwaiting || transition.invalidatedCandidate

structure DecoderRecovery where
  phase : DecoderRecoveryPhase
  reason : Option RecoveryReason
  lastRequestAt : Option Instant
  deriving DecidableEq, Repr

namespace DecoderRecovery

def new : DecoderRecovery := ⟨.healthy, none, none⟩

def isAwaitingRefresh (r : DecoderRecovery) : Bool := r.phase ≠ .healthy

def refreshInFlight (r : DecoderRecovery) : Bool :=
  match r.phase with
  | .refreshInFlight _ => true
  | _ => false

def enter (r : DecoderRecovery) (reason : RecoveryReason) :
    RecoveryTransition × DecoderRecovery :=
  ({ newlyAwaiting := r.phase = .healthy
     invalidatedCandidate := r.refreshInFlight },
    { r with phase := .awaitingRefresh, reason := some reason })

def admission (r : DecoderRecovery) (connectionGeneration : Nat)
    (frame : FrontFrameDescriptor) : RecoveryAdmission :=
  match r.phase with
  | .healthy => .ready
  | .awaitingRefresh => if frame.keyframe then .ready else .drop
  | .refreshInFlight candidate =>
      if frame.keyframe then .ready
      else if frame.discardable then .drop
      else if candidate.connectionGeneration = connectionGeneration ∧
          candidate.streamGeneration = frame.streamGeneration ∧
          candidate.frameId < frame.frameId then .waitForRefresh
      else .drop

def acceptsCompletion (r : DecoderRecovery) (timeline : AccessUnitTimeline) : Bool :=
  match r.phase with
  | .healthy => true
  | .awaitingRefresh => false
  | .refreshInFlight candidate => candidate.isFor timeline

def isRefreshCandidate (r : DecoderRecovery) (timeline : AccessUnitTimeline) : Bool :=
  match r.phase with
  | .refreshInFlight candidate => candidate.isFor timeline
  | _ => false

def noteRefreshSubmitted (r : DecoderRecovery) (timeline : AccessUnitTimeline) :
    DecoderRecovery :=
  if timeline.kind.isKeyframe ∧ r.phase ≠ .healthy then
    { r with phase := .refreshInFlight (RefreshCandidate.fromTimeline timeline) }
  else r

def requestDue (r : DecoderRecovery) (now : Instant) : Bool :=
  r.isAwaitingRefresh &&
    match r.lastRequestAt with
    | none => true
    | some last => keyframeRequestMinInterval ≤ now - last

def noteRequest (r : DecoderRecovery) (now : Instant) : DecoderRecovery :=
  { r with lastRequestAt := some now }

def markRecovered (r : DecoderRecovery) (timeline : AccessUnitTimeline) :
    Bool × DecoderRecovery :=
  if r.isRefreshCandidate timeline then (true, { r with phase := .healthy, reason := none })
  else (false, r)

def resetSession (_ : DecoderRecovery) : DecoderRecovery := new

end DecoderRecovery

end PicooCamera.Receiver
