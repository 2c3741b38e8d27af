import PicooCamera.FrameHub.FrameBus
import PicooCamera.Recording.EncodedWriter
import PicooCamera.Recording.RenderedTimeline

/-!
# The processed recording

Frames that the timeline takes are rendered, encoded and appended to a segment
of a bundle. The renderer, the hardware encoder and the native segment writer
are part of the platform.
-/

namespace PicooCamera.Recording

open PicooCamera.Library PicooCamera.Bitstream PicooCamera.FrameHub PicooCamera.Protocol

structure RenderedRecordingConfig where
  codec : Codec
  width : Nat
  height : Nat
  fps : Nat
  bitrate : Nat
  sceneRevision : Nat
  deriving DecidableEq, Repr

def RenderedRecordingConfig.validate (config : RenderedRecordingConfig) :
    Except RecordingError RenderedRecordingConfig :=
  if ¬((config.width, config.height) = (1280, 720) ∨
        (config.width, config.height) = (1920, 1080)) ∨ config.fps ∉ [30, 60] ∨
      config.bitrate = 0 ∨ 100000000 < config.bitrate then
    .error (.invalidInput "unsupported rendered recording format")
  else .ok config

def rotationDegrees : Rotation → Nat
  | .none => 0
  | .clockwise90 => 90
  | .clockwise180 => 180
  | .clockwise270 => 270

structure EncodedOutput where
  data : Bytes
  ptsUs : Nat
  /-- The record of the encoder's configuration. -/
  record : Bytes
  deriving DecidableEq, Repr

abbrev Outputs := List EncodedOutput

/-- The native parts, by the number of the question that they are asked. -/
structure RenderedPlatform where
  storage : Storage Outputs
  native : NativeWriter
  instant : Nat → Nat
  createRenderer : Nat → Except RecordingError Unit
  render : Nat → Bytes → Except RecordingError Bytes
  createEncoder : Nat → Except RecordingError Unit
  encode : Nat → Bytes → Nat → Bool → Except RecordingError EncodedOutput
  digest : Bytes → String

structure NativeOutput where
  path : SegmentPath
  outputs : Outputs

structure RenderedSegment where
  generation : Nat
  encoder : Bool
  native : Option NativeOutput
  configurationRecord : Option Bytes
  metadata : SegmentMetadata

structure RecorderState where
  bundle : BundleState Outputs
  config : RenderedRecordingConfig
  timeline : RenderedTimeline
  active : Option RenderedSegment
  questions : Nat

abbrev Recorder (α : Type) := Program RecorderState RecordingError α

namespace RenderedRecorder

/-! ## The environment -/

def onBundle {α : Type} (p : Bundle Outputs α) : Recorder α :=
  Program.focus RecorderState.bundle (fun b s => { s with bundle := b }) p

def ask {α : Type} (answer : Nat → Except RecordingError α) : Recorder α := fun s =>
  (answer s.questions, { s with questions := s.questions + 1 })

def now (P : RenderedPlatform) : Recorder Nat := ask fun n => .ok (P.instant n)

def setActive (active : Option RenderedSegment) : Recorder Unit :=
  Program.update fun s => { s with active := active }

def writePartial (path : SegmentPath) (outputs : Outputs) : Recorder Unit :=
  Program.update fun s => { s with bundle := { s.bundle with
    files := Function.update s.bundle.files path (some outputs) } }

/-! ## Segments -/

def closeSegment (P : RenderedPlatform) : Recorder Unit := do
  match ← Program.read RecorderState.active with
  | none => pure ()
  | some active => do
      setActive none
      match active.native with
      | none => pure ()
      | some native => do
          ask P.native.finish
          writePartial native.path native.outputs
          onBundle (RecordingBundle.commitSegment P.storage ⟨native.path⟩ active.metadata)

def u32Max : Nat := 2 ^ 32 - 1

def streamEpochOf (source : FrameIdentity) : Except RecordingError Nat :=
  if source.streamEpoch ≤ u32Max then .ok source.streamEpoch
  else .error (.invalidInput "source stream epoch overflow")

def gapRange (current : RenderedSample) (previous : SourceRange) :
    Except RecordingError SourceRange := do
  let streamEpoch ← streamEpochOf current.source
  return {
    connectionGeneration := current.source.connectionGeneration
    streamEpoch := streamEpoch
    firstAu := previous.lastAu
    lastAu := current.source.frameId
    firstPtsUs := previous.lastPtsUs
    lastPtsUs := current.sourcePtsUs }

def startSegment (P : RenderedPlatform) (frame : NativeVideoFrame) (sample : RenderedSample) :
    Recorder RenderedSegment := do
  let visible := frame.visibleRect
  let config ← Program.read RecorderState.config
  if visible.x ≠ 0 ∨ visible.y ≠ 0 ∨ visible.width ≠ frame.imageWidth ∨
      visible.height ≠ frame.imageHeight ∨
      frame.pixelAspectRatio.1 ≠ frame.pixelAspectRatio.2 then
    Program.fail (.invalidInput "unsupported rendered source crop or pixel aspect")
  else do
    let streamEpoch ← Program.ofExcept (streamEpochOf sample.source)
    ask P.createRenderer
    pure {
      generation := sample.segmentGeneration
      encoder := false
      native := none
      configurationRecord := none
      metadata := {
        source := {
          connectionGeneration := sample.source.connectionGeneration
          streamEpoch := streamEpoch
          firstAu := sample.source.frameId
          lastAu := sample.source.frameId
          firstPtsUs := sample.sourcePtsUs
          lastPtsUs := sample.sourcePtsUs }
        outputFirstPtsUs := 0
        outputLastPtsUs := 0
        sceneRevision := some config.sceneRevision
        sourceRotation := some (rotationDegrees frame.rotation)
        sourceMirrored := some frame.mirror
        codec := if config.codec = .avc then "avc" else "hevc"
        width := config.width
        height := config.height
        fps := config.fps
        rotation := 0
        mirrored := false
        configurationSha256 := "" } }

/-- A gap is recorded for the slots that were missed since the last sample. -/
def recordMissed (P : RenderedPlatform) (sample : RenderedSample)
    (previous : Option SourceRange) : Recorder Unit := do
  if sample.missedSlots ≠ 0 ∧
      (← Program.read fun s => RecordingBundle.state s.bundle) = .recording then do
    let gap ← Program.ofExcept (previous.mapM (gapRange sample))
    onBundle (RecordingBundle.recordGap P.storage .timeDiscontinuity gap)
  else pure ()

/-- The part of `write_sample` up to the active segment. -/
def selectSegment (P : RenderedPlatform) (frame : NativeVideoFrame) (sample : RenderedSample) :
    Recorder Unit := do
  let active ← Program.read RecorderState.active
  if active.map RenderedSegment.generation ≠ some sample.segmentGeneration then do
    closeSegment P
    recordMissed P sample (active.map fun segment => segment.metadata.source)
    if sample.forceIdr = false ∨ sample.segmentPtsUs ≠ 0 then
      Program.fail (.invalidInput "rendered segment must restart with an IDR at zero")
    else do
      let segment ← startSegment P frame sample
      setActive (some segment)
  else if sample.forceIdr = true ∨ sample.missedSlots ≠ 0 then
    Program.fail (.invalidInput "rendered segment boundary did not advance")
  else pure ()

/-! ## Samples -/

/-- The sleeps between the attempts bound their number, as in the encoded recording. -/
def appendLoop (P : RenderedPlatform) (deadline : Nat) : Nat → Recorder Unit
  | 0 => Program.fail (.platform "rendered recording writer overrun")
  | attempts + 1 => do
      match ← ask P.native.append with
      | .written => pure ()
      | .busy => do
          let instant ← now P
          if instant < deadline then appendLoop P deadline attempts
          else Program.fail (.platform "rendered recording writer overrun")

def renderAndEncode (P : RenderedPlatform) (frame : NativeVideoFrame) (sample : RenderedSample)
    (active : RenderedSegment) : Recorder EncodedOutput := do
  let image ← ask fun n => P.render n frame.image
  if active.encoder = true then pure ()
  else do
    ask P.createEncoder
    setActive (some { active with encoder := true })
  ask fun n => P.encode n image sample.segmentPtsUs sample.forceIdr

/-- The native segment begins with the first output. -/
def openNative (P : RenderedPlatform) (active : RenderedSegment) : Recorder NativeOutput := do
  match active.native with
  | some native => pure native
  | none => do
      let path ← onBundle RecordingBundle.nextPartialPath
      ask P.native.new
      writePartial path []
      pure ⟨path, []⟩

def encodedSegment (P : RenderedPlatform) (active : RenderedSegment) (native : NativeOutput)
    (output : EncodedOutput) : RenderedSegment :=
  { active with
    encoder := true
    native := some native
    configurationRecord := some output.record
    metadata := { active.metadata with
      configurationSha256 :=
        if active.native.isNone then P.digest output.record
        else active.metadata.configurationSha256 } }

def appendedSegment (segment : RenderedSegment) (native : NativeOutput) (output : EncodedOutput)
    (sample : RenderedSample) : RenderedSegment :=
  { segment with
    native := some { native with outputs := native.outputs ++ [output] }
    metadata := { segment.metadata with
      source := { segment.metadata.source with
        lastAu := sample.source.frameId
        lastPtsUs := sample.sourcePtsUs }
      outputLastPtsUs := sample.segmentPtsUs } }

/-- The part of `write_sample` from the active segment on. -/
def encodeSample (P : RenderedPlatform) (frame : NativeVideoFrame) (sample : RenderedSample) :
    Recorder Unit := do
  match ← Program.read RecorderState.active with
  | none => pure ()
  | some active => do
      let output ← renderAndEncode P frame sample active
      if output.ptsUs ≠ sample.segmentPtsUs then
        Program.fail (.invalidInput "hardware encoder changed rendered PTS")
      else if ∃ expected ∈ active.configurationRecord, expected ≠ output.record then
        Program.fail (.invalidInput "hardware encoder configuration changed within segment")
      else do
        let native ← openNative P active
        let segment := encodedSegment P active native output
        setActive (some segment)
        let instant ← now P
        appendLoop P (instant + writeDeadlineUs) 251
        setActive (some (appendedSegment segment native output sample))
        onBundle (RecordingBundle.markStarted P.storage sample.sourcePtsUs)

def writeSample (P : RenderedPlatform) (frame : NativeVideoFrame) (sample : RenderedSample) :
    Recorder Unit := do
  if sample.source ≠ frame.identity ∨ sample.sourcePtsUs ≠ frame.sourcePtsUs then
    Program.fail (.invalidInput "rendered sample source mismatch")
  else do
    selectSegment P frame sample
    encodeSample P frame sample

/-- The decision of the timeline on a frame, which the timeline remembers. -/
def offerFrame (frame : NativeVideoFrame) : Recorder RenderedSampleDecision := do
  let timeline ← Program.read RecorderState.timeline
  match timeline.offer frame.identity frame.configRevision frame.sourcePtsUs with
  | .error error => Program.fail (.platform error.text)
  | .ok (decision, next) => do
      Program.update fun s => { s with timeline := next }
      pure decision

def push (P : RenderedPlatform) (frame : NativeVideoFrame) : Recorder Unit := do
  match ← offerFrame frame with
  | .skip => pure ()
  | .encode sample => writeSample P frame sample

/-! ## The end -/

def endReason : SubscriptionEnd → GapReason
  | .queueFull _ | .tooOld _ => .overrun
  | .reset | .publisherStopped | .cancelled => .sourceStopped

def finish (P : RenderedPlatform) : Recorder Unit := do
  closeSegment P
  onBundle (RecordingBundle.finish P.storage)

def finishAfterSubscriptionEnd (P : RenderedPlatform) (reason : SubscriptionEnd) :
    Recorder Unit := do
  let current ← Program.read fun s => RecordingBundle.state s.bundle
  Program.when (current = .recording) do
    closeSegment P
    onBundle (RecordingBundle.recordGap P.storage (endReason reason) none)
  onBundle (RecordingBundle.finish P.storage)

def abort (P : RenderedPlatform) (reason : String) : Recorder Unit := do
  let _ ← Program.attempt (closeSegment P)
  let _ ← Program.attempt (onBundle (RecordingBundle.fail P.storage reason))
  setActive none

def guarded (P : RenderedPlatform) (operation : Recorder Unit) : Recorder Unit := do
  match ← Program.attempt operation with
  | .ok () => pure ()
  | .error error => do
      abort P error.text
      Program.fail error

def create (P : RenderedPlatform) (parent name : String) (config : RenderedRecordingConfig) :
    Recorder Unit := do
  onBundle (RecordingBundle.create P.storage parent name .rendered)
  match RenderedTimeline.new config.fps with
  | .error _ => Program.fail (.invalidInput "unsupported rendered frame rate")
  | .ok timeline =>
      Program.update fun s => { s with config := config, timeline := timeline, active := none }

end RenderedRecorder

end PicooCamera.Recording
