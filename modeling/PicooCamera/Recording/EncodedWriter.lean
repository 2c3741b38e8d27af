import PicooCamera.Bitstream.Configuration
import PicooCamera.Packet.ReassemblyMap
import PicooCamera.Protocol.Control
import PicooCamera.Recording.Bundle

/-!
# The encoded recording

Access units in their order become segments of a bundle. A file is the list of
the inputs that it holds. The native segment writer and the clock are part of
the platform.
-/

namespace PicooCamera.Recording

open PicooCamera.Library PicooCamera.Bitstream PicooCamera.Packet PicooCamera.Protocol

def segmentDurationUs : Nat := 10000000
def writeDeadlineUs : Nat := 250000

def RecordingError.text : RecordingError → String
  | .io message => "recording I/O failed: " ++ message
  | .manifest message => "recording manifest failed: " ++ message
  | .invalidInput message => "invalid recording input: " ++ message
  | .platform message => "native recording failed: " ++ message
  | .finalizationTimeout => "recording finalization timed out"
  | .inputExpired => "recording input deadline expired"

structure RecordingInput where
  connectionGeneration : Nat
  configuration : StreamConfig
  accessUnit : AssembledAccessUnit
  deadline : Nat
  deriving DecidableEq, Repr

/-- The connection and the stream epoch. -/
def RecordingInput.source (input : RecordingInput) : Nat × Nat :=
  (input.connectionGeneration, input.accessUnit.streamEpoch)

def RecordingInput.id (input : RecordingInput) : Nat := input.accessUnit.frameId

abbrev Samples := List RecordingInput

inductive AppendOutcome where
  | written
  | busy
  deriving DecidableEq, Repr

/-- A native writer of one segment, by the number of the question it is asked. -/
structure NativeWriter where
  new : Nat → Except RecordingError Unit
  append : Nat → Except RecordingError AppendOutcome
  finish : Nat → Except RecordingError Unit

structure WriterPlatform where
  storage : Storage Samples
  native : NativeWriter
  instant : Nat → Nat
  parsers : StandardParsers
  validatedVideoFormat : StreamConfig → Except MediaFormatError VideoFormat
  /-- The digest of a codec configuration, in hexadecimal digits. -/
  digest : Bytes → String

structure ActiveSegment where
  path : SegmentPath
  samples : Samples
  configuration : StreamConfig
  metadata : SegmentMetadata
  boundaryRequested : Bool

structure WriterState where
  bundle : BundleState Samples
  active : Option ActiveSegment
  refreshRequested : Bool
  /-- How often the clock and the native writer were asked. -/
  questions : Nat

abbrev Writer (α : Type) := Program WriterState RecordingError α

/-! ## What an input is -/

/-- What `write_inner` learns of an input before it looks at the active segment. -/
structure InspectedInput where
  codec : Codec
  idr : Bool

def codecOf (config : StreamConfig) : Except RecordingError Codec :=
  if config.codec = codecAvc then .ok .avc
  else if config.codec = codecHevc then .ok .hevc
  else .error (.invalidInput "unknown codec")

/-- `map_err` of a message. -/
def orInvalid {ε α : Type} (message : String) : Except ε α → Except RecordingError α
  | .ok a => .ok a
  | .error _ => .error (.invalidInput message)

def isIdr (kind : PictureKind) : Bool :=
  kind = .randomAccess .avcIdr ∨ kind = .randomAccess .hevcIdr

def inspectInput (P : WriterPlatform) (input : RecordingInput) :
    Except RecordingError InspectedInput := do
  let config := input.configuration
  let au := input.accessUnit
  if au.streamEpoch ≠ config.streamEpoch then
    throw (.invalidInput "AU configuration epoch mismatch")
  let _ ← orInvalid "invalid source format" (P.validatedVideoFormat config)
  let codec ← codecOf config
  let configuration ← orInvalid "invalid codec configuration"
    (CodecConfiguration.parse P.parsers codec config.codecConfiguration)
  let picture ← orInvalid "invalid access unit"
    (AccessUnit.parse codec (.lengthPrefixed configuration.nalLengthSize) au.data)
  orInvalid "AU parameter sets differ" (configuration.validateParameterSets picture)
  let kind := picture.picture.kind
  if isIdr kind = false ∧ kind ≠ .trailing then
    throw (.invalidInput "unsupported leading-picture sequence")
  return ⟨codec, isIdr kind⟩

def changed (active : ActiveSegment) (input : RecordingInput) : Prop :=
  active.metadata.source.connectionGeneration ≠ input.connectionGeneration ∨
    active.configuration.streamEpoch ≠ input.configuration.streamEpoch ∨
    active.configuration.codecConfiguration ≠ input.configuration.codecConfiguration ∨
    active.configuration.fps ≠ input.configuration.fps ∨
    active.configuration.rotation ≠ input.configuration.rotation ∨
    active.configuration.mirrored ≠ input.configuration.mirrored

instance (active : ActiveSegment) (input : RecordingInput) : Decidable (changed active input) := by
  unfold changed
  infer_instance

namespace EncodedWriter

/-! ## The environment -/

def onBundle {α : Type} (p : Bundle Samples α) : Writer α :=
  Program.focus WriterState.bundle (fun b s => { s with bundle := b }) p

def nextQuestion (s : WriterState) : WriterState := { s with questions := s.questions + 1 }

def now (P : WriterPlatform) : Writer Nat := fun s =>
  (.ok (P.instant s.questions), nextQuestion s)

def ask {α : Type} (answer : Nat → Except RecordingError α) : Writer α := fun s =>
  (answer s.questions, nextQuestion s)

def setActive (active : Option ActiveSegment) : Writer Unit :=
  Program.update fun s => { s with active := active }

def setRefreshRequested (requested : Bool) : Writer Unit :=
  Program.update fun s => { s with refreshRequested := requested }

/-- The partial file of the native segment holds what was appended to it. -/
def writePartial (path : SegmentPath) (samples : Samples) : Writer Unit :=
  Program.update fun s => { s with bundle := { s.bundle with
    files := Function.update s.bundle.files path (some samples) } }

/-! ## Segments -/

def closeSegment (P : WriterPlatform) : Writer Unit := do
  match ← Program.read WriterState.active with
  | none => pure ()
  | some active => do
      setActive none
      ask P.native.finish
      writePartial active.path active.samples
      onBundle (RecordingBundle.commitSegment P.storage ⟨active.path⟩ active.metadata)

def abort (P : WriterPlatform) (reason : String) : Writer Unit := do
  let _ ← Program.attempt (closeSegment P)
  let _ ← Program.attempt (onBundle (RecordingBundle.fail P.storage reason))
  setActive none
  setRefreshRequested false

/-- The error of `p` stays the result after the writer was aborted. -/
def abortOnError (P : WriterPlatform) (reason : RecordingError → String) (p : Writer Unit) :
    Writer Unit := do
  match ← Program.attempt p with
  | .ok () => pure ()
  | .error error => do
      abort P (reason error)
      Program.fail error

def gap (P : WriterPlatform) (reason : GapReason) (source : Option SourceRange) :
    Writer Unit := do
  if (← Program.read fun s => RecordingBundle.state s.bundle) = .arming then pure ()
  else abortOnError P (fun _ => "gap boundary finalization failed") do
    closeSegment P
    onBundle (RecordingBundle.recordGap P.storage reason source)
    setRefreshRequested true

def finish (P : WriterPlatform) : Writer Unit :=
  abortOnError P (fun _ => "recording finalization failed") do
    closeSegment P
    onBundle (RecordingBundle.finish P.storage)

/-! ## Inputs -/

def checkDeadline (P : WriterPlatform) (input : RecordingInput) : Writer Unit := do
  let instant ← now P
  if input.deadline ≤ instant then Program.fail .inputExpired

def gapRange (input : RecordingInput) (firstAu lastAu firstPtsUs : Nat) : SourceRange where
  connectionGeneration := input.connectionGeneration
  streamEpoch := input.accessUnit.streamEpoch
  firstAu := firstAu
  lastAu := lastAu
  firstPtsUs := firstPtsUs
  lastPtsUs := input.accessUnit.ptsUs

/-- The part of `write_inner` that looks at the active segment. -/
def advanceActive (P : WriterPlatform) (input : RecordingInput) (idr : Bool)
    (active : ActiveSegment) : Writer Unit := do
  let source := active.metadata.source
  let au := input.accessUnit
  if changed active input then do
    closeSegment P
    setRefreshRequested true
  else if au.frameId ≤ source.lastAu ∨ au.ptsUs ≤ source.lastPtsUs then
    Program.fail (.invalidInput "input is not ordered")
  else if ¬(source.lastAu + 1 ≤ u64Max ∧ source.lastAu + 1 = au.frameId) then
    gap P .networkLoss
      (some (gapRange input (source.lastAu + 1) (au.frameId - 1) source.lastPtsUs))
  else if 3000000 / input.configuration.fps < au.ptsUs - source.lastPtsUs then
    gap P .timeDiscontinuity (some (gapRange input source.lastAu au.frameId source.lastPtsUs))
  else if segmentDurationUs ≤ au.ptsUs - source.firstPtsUs then
    if idr = true then closeSegment P
    else if active.boundaryRequested = false then do
      setActive (some { active with boundaryRequested := true })
      setRefreshRequested true
    else pure ()
  else pure ()

def segmentMetadata (P : WriterPlatform) (input : RecordingInput) (codec : Codec) :
    SegmentMetadata where
  source := {
    connectionGeneration := input.connectionGeneration
    streamEpoch := input.accessUnit.streamEpoch
    firstAu := input.accessUnit.frameId
    lastAu := input.accessUnit.frameId
    firstPtsUs := input.accessUnit.ptsUs
    lastPtsUs := input.accessUnit.ptsUs }
  outputFirstPtsUs := 0
  outputLastPtsUs := 0
  sceneRevision := none
  sourceRotation := none
  sourceMirrored := none
  codec := if codec = .avc then "avc" else "hevc"
  width := input.configuration.width
  height := input.configuration.height
  fps := input.configuration.fps
  rotation := input.configuration.rotation
  mirrored := input.configuration.mirrored
  configurationSha256 := P.digest input.configuration.codecConfiguration

def startSegment (P : WriterPlatform) (input : RecordingInput) (codec : Codec) :
    Writer Unit := do
  let path ← onBundle RecordingBundle.nextPartialPath
  ask P.native.new
  writePartial path []
  setActive (some {
    path := path
    samples := []
    configuration := input.configuration
    metadata := segmentMetadata P input codec
    boundaryRequested := false })

/-- Each attempt after a busy one comes at least a millisecond later, so that no more than 251
of them begin before the write deadline. -/
def appendLoop (P : WriterPlatform) (input : RecordingInput) (deadline : Nat) :
    Nat → Writer Unit
  | 0 => Program.fail (.platform "recording writer overrun")
  | attempts + 1 => do
      checkDeadline P input
      match ← ask P.native.append with
      | .written => pure ()
      | .busy => do
          let instant ← now P
          if instant < deadline then appendLoop P input deadline attempts
          else Program.fail (.platform "recording writer overrun")

def appended (active : ActiveSegment) (input : RecordingInput) : ActiveSegment :=
  { active with
    samples := active.samples ++ [input]
    metadata := { active.metadata with
      source := { active.metadata.source with
        lastAu := input.accessUnit.frameId
        lastPtsUs := input.accessUnit.ptsUs }
      outputLastPtsUs := input.accessUnit.ptsUs - active.metadata.source.firstPtsUs } }

def appendInput (P : WriterPlatform) (input : RecordingInput) (idr : Bool) : Writer Unit := do
  match ← Program.read WriterState.active with
  | none => pure ()
  | some active => do
      let instant ← now P
      appendLoop P input (instant + writeDeadlineUs) 251
      setActive (some (appended active input))
      onBundle (RecordingBundle.markStarted P.storage input.accessUnit.ptsUs)
      checkDeadline P input
      if idr = true then setRefreshRequested false

def placeInput (P : WriterPlatform) (input : RecordingInput) (inspected : InspectedInput) :
    Writer Unit := do
  if (← Program.read WriterState.active).isSome = true then appendInput P input inspected.idr
  else if inspected.idr = false then pure ()
  else do
    startSegment P input inspected.codec
    appendInput P input inspected.idr

def writeInner (P : WriterPlatform) (input : RecordingInput) : Writer Unit := do
  checkDeadline P input
  if (← Program.read fun s => RecordingBundle.state s.bundle).terminal = true then
    Program.fail (.invalidInput "recording already finalized")
  else do
    let inspected ← Program.ofExcept (inspectInput P input)
    match ← Program.read WriterState.active with
    | none => pure ()
    | some active => advanceActive P input inspected.idr active
    placeInput P input inspected

def writeOrdered (P : WriterPlatform) (input : RecordingInput) : Writer Unit :=
  abortOnError P RecordingError.text (writeInner P input)

def create (P : WriterPlatform) (parent name : String) : Writer Unit := do
  onBundle (RecordingBundle.create P.storage parent name .encoded)
  setActive none
  setRefreshRequested true

end EncodedWriter

end PicooCamera.Recording
