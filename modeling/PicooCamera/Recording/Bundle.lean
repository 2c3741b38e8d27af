import PicooCamera.Library.Program

/-!
# The bundle of a recording

A recording is a directory with a manifest and numbered segments. The manifest
is replaced as a whole. Each call of the file system may fail, and the platform
says which calls do, by their number.
-/

namespace PicooCamera.Recording

open PicooCamera.Library

def maxSegments : Nat := 4096
def maxGaps : Nat := 4096

inductive RecordingState where
  | arming
  | recording
  | complete
  | hasGaps
  | failed
  deriving DecidableEq, Repr

inductive RecordingMode where
  | encoded
  | rendered
  deriving DecidableEq, Repr

def RecordingState.terminal : RecordingState → Bool
  | .complete | .hasGaps | .failed => true
  | .arming | .recording => false

structure SourceRange where
  connectionGeneration : Nat
  streamEpoch : Nat
  firstAu : Nat
  lastAu : Nat
  firstPtsUs : Nat
  lastPtsUs : Nat
  deriving DecidableEq, Repr

structure SegmentMetadata where
  source : SourceRange
  outputFirstPtsUs : Nat
  outputLastPtsUs : Nat
  sceneRevision : Option Nat
  sourceRotation : Option Nat
  sourceMirrored : Option Bool
  codec : String
  width : Nat
  height : Nat
  fps : Nat
  rotation : Nat
  mirrored : Bool
  configurationSha256 : String
  deriving DecidableEq, Repr

inductive GapReason where
  | networkLoss
  | sourceStopped
  | timeDiscontinuity
  | overrun
  deriving DecidableEq, Repr

structure Gap where
  reason : GapReason
  source : Option SourceRange
  deriving DecidableEq, Repr

structure Segment where
  file : String
  sha256 : String
  bytes : Nat
  metadata : SegmentMetadata
  deriving DecidableEq, Repr

structure Manifest where
  recordingId : String
  mode : RecordingMode
  softwareVersion : String
  state : RecordingState
  createdAtUnixMs : Nat
  actualStartPtsUs : Option Nat
  endedAtUnixMs : Option Nat
  failure : Option String
  segments : List Segment
  gaps : List Gap
  deriving DecidableEq, Repr

inductive RecordingError where
  | io (message : String)
  | manifest (message : String)
  | invalidInput (message : String)
  | platform (message : String)
  | finalizationTimeout
  | inputExpired
  deriving DecidableEq, Repr

/-! ## Files -/

inductive Extension where
  | partialFile
  | mp4
  deriving DecidableEq, Repr

/-- A file of the directory `segments` of a bundle. -/
structure SegmentPath where
  bundle : String
  number : Nat
  extension : Extension
  deriving DecidableEq, Repr

/-- `{:06}`. -/
def sixDigits (number : Nat) : String :=
  String.ofList (List.replicate (6 - (toString number).length) '0') ++ toString number

def SegmentPath.fileName (path : SegmentPath) : String :=
  sixDigits path.number ++
    match path.extension with
    | .partialFile => ".partial"
    | .mp4 => ".mp4"

def SegmentPath.withMp4 (path : SegmentPath) : SegmentPath := { path with extension := .mp4 }

structure FinalizedSegment where
  path : SegmentPath
  deriving DecidableEq, Repr

/-- What a rename without overwriting did. -/
structure Promotion (κ : Type) where
  source : SegmentPath
  target : SegmentPath
  content : κ
  overwritten : Option κ

inductive SystemCall where
  | canonicalize
  | createBundleDirectory
  | createSegmentsDirectory
  | createTemporary
  | writeManifest
  | flushManifest
  | syncManifest
  | renameManifest
  | syncBundleDirectory
  | openSegment
  | readMetadata
  | syncSegment
  | readSegment
  | resolveSegment
  | promoteSegment
  | syncSegmentsDirectory
  deriving DecidableEq, Repr

/-- The platform under a bundle whose files hold a `κ`. -/
structure Storage (κ : Type) where
  /-- How the call with this number fails, if it does. -/
  fails : SystemCall → Nat → Option RecordingError
  nowMs : Nat → Nat
  isFile : κ → Bool
  length : κ → Nat
  sha256 : κ → String
  softwareVersion : String

/-- A bundle in memory and its directory. -/
structure BundleState (κ : Type) where
  path : String
  manifest : Manifest
  stored : Option Manifest
  files : SegmentPath → Option κ
  promotions : List (Promotion κ)
  calls : Nat

abbrev Bundle (κ α : Type) := Program (BundleState κ) RecordingError α

namespace RecordingBundle

variable {κ : Type}

def setManifest (next : Manifest) : Bundle κ Unit :=
  Program.update fun b => { b with manifest := next }

def systemCall (P : Storage κ) (call : SystemCall) : Bundle κ Unit := fun b =>
  match P.fails call b.calls with
  | none => (.ok (), { b with calls := b.calls + 1 })
  | some error => (.error error, { b with calls := b.calls + 1 })

def now (P : Storage κ) : Bundle κ Nat := Program.read fun b => P.nowMs b.calls

def persist (P : Storage κ) (manifest : Manifest) : Bundle κ Unit := do
  systemCall P .createTemporary
  systemCall P .writeManifest
  systemCall P .flushManifest
  systemCall P .syncManifest
  systemCall P .renameManifest
  Program.update fun b => { b with stored := some manifest }
  systemCall P .syncBundleDirectory

def commit (P : Storage κ) (next : Manifest) : Bundle κ Unit := do
  match ← Program.attempt (persist P next) with
  | .ok () => setManifest next
  | .error error => do
      let ended ← now P
      setManifest { next with
        state := .failed
        failure := some "manifest persistence failed"
        endedAtUnixMs := some ended }
      Program.fail error

def newManifest (P : Storage κ) (recordingId : String) (mode : RecordingMode) (nowMs : Nat) :
    Manifest where
  recordingId := recordingId
  mode := mode
  softwareVersion := P.softwareVersion
  state := .arming
  createdAtUnixMs := nowMs
  actualStartPtsUs := none
  endedAtUnixMs := none
  failure := none
  segments := []
  gaps := []

/-- The directory has a new name, so nothing is in it. -/
def create (P : Storage κ) (parent name : String) (mode : RecordingMode) : Bundle κ Unit := do
  systemCall P .canonicalize
  systemCall P .createBundleDirectory
  systemCall P .createSegmentsDirectory
  let created ← now P
  Program.update fun b => { b with
    path := parent ++ "/" ++ name
    manifest := newManifest P name mode created
    stored := none
    files := fun _ => none
    promotions := [] }
  persist P (newManifest P name mode created)

def state (b : BundleState κ) : RecordingState := b.manifest.state

def ensureOpen : Bundle κ Unit := do
  if (← Program.read state).terminal = true then
    Program.fail (.invalidInput "recording already finalized")

def partialPath (b : BundleState κ) : SegmentPath where
  bundle := b.path
  number := b.manifest.segments.length + 1
  extension := .partialFile

def nextPartialPath : Bundle κ SegmentPath := do
  ensureOpen
  if maxSegments ≤ (← Program.read fun b => b.manifest.segments.length) then
    Program.fail (.invalidInput "segment capacity reached")
  else Program.read partialPath

def started (manifest : Manifest) (sourcePtsUs : Nat) : Manifest :=
  { manifest with actualStartPtsUs := some sourcePtsUs, state := .recording }

def markStarted (P : Storage κ) (sourcePtsUs : Nat) : Bundle κ Unit := do
  ensureOpen
  let manifest ← Program.read BundleState.manifest
  if manifest.actualStartPtsUs.isSome = true then pure ()
  else commit P (started manifest sourcePtsUs)

def failedManifest (manifest : Manifest) (reason : String) (nowMs : Nat) : Manifest :=
  { manifest with
    state := .failed
    failure := some (String.ofList (reason.toList.take 512))
    endedAtUnixMs := some nowMs }

def fail (P : Storage κ) (reason : String) : Bundle κ Unit := do
  let manifest ← Program.read BundleState.manifest
  if manifest.state = .failed then pure ()
  else if manifest.state.terminal = true then
    Program.fail (.invalidInput "recording already finalized")
  else do
    let ended ← now P
    commit P (failedManifest manifest reason ended)

def withGap (manifest : Manifest) (gap : Gap) : Manifest :=
  { manifest with gaps := manifest.gaps ++ [gap] }

def recordGap (P : Storage κ) (reason : GapReason) (source : Option SourceRange) :
    Bundle κ Unit := do
  ensureOpen
  let manifest ← Program.read BundleState.manifest
  if maxGaps ≤ manifest.gaps.length then do
    fail P "gap capacity reached"
    Program.fail (.invalidInput "gap capacity reached")
  else commit P (withGap manifest ⟨reason, source⟩)

def isAsciiHexdigit (c : Char) : Bool :=
  ('0' ≤ c ∧ c ≤ '9') ∨ ('a' ≤ c ∧ c ≤ 'f') ∨ ('A' ≤ c ∧ c ≤ 'F')

def validRotation (rotation : Nat) : Prop := rotation ∈ [0, 90, 180, 270]

instance (rotation : Nat) : Decidable (validRotation rotation) := by
  unfold validRotation
  infer_instance

def validMetadata (metadata : SegmentMetadata) : Prop :=
  metadata.source.firstAu ≤ metadata.source.lastAu ∧
    metadata.source.firstPtsUs ≤ metadata.source.lastPtsUs ∧
    metadata.outputFirstPtsUs ≤ metadata.outputLastPtsUs ∧ metadata.outputFirstPtsUs = 0 ∧
    metadata.codec ∈ ["avc", "hevc"] ∧ metadata.fps ∈ [30, 60] ∧
    metadata.width ≠ 0 ∧ metadata.height ≠ 0 ∧ validRotation metadata.rotation ∧
    metadata.configurationSha256.utf8ByteSize = 64 ∧
    metadata.configurationSha256.toList.all isAsciiHexdigit

instance (metadata : SegmentMetadata) : Decidable (validMetadata metadata) := by
  unfold validMetadata
  infer_instance

def modeMatches (mode : RecordingMode) (metadata : SegmentMetadata) : Prop :=
  match mode with
  | .encoded =>
      metadata.sceneRevision = none ∧ metadata.sourceRotation = none ∧
        metadata.sourceMirrored = none
  | .rendered =>
      metadata.sceneRevision.isSome ∧ (∃ rotation ∈ metadata.sourceRotation, validRotation rotation) ∧
        metadata.sourceMirrored.isSome ∧ metadata.rotation = 0 ∧ metadata.mirrored = false

instance (mode : RecordingMode) (metadata : SegmentMetadata) :
    Decidable (modeMatches mode metadata) := by
  unfold modeMatches
  cases mode <;> infer_instance

/-- The file at `path`, of which a call of the file system says so. -/
def fileAt (P : Storage κ) (call : SystemCall) (path : SegmentPath) : Bundle κ κ := do
  systemCall P call
  match ← Program.read fun b => b.files path with
  | none => Program.fail (.io "no such file")
  | some content => pure content

/-- `persist_noclobber`. -/
def promote (P : Storage κ) (source target : SegmentPath) : Bundle κ Unit := do
  let content ← fileAt P .promoteSegment source
  if (← Program.read fun b => b.files target).isSome = true then
    Program.fail (.io "file exists")
  else Program.update fun b => { b with
    files := Function.update (Function.update b.files source none) target (some content)
    promotions := b.promotions ++ [⟨source, target, content, b.files target⟩] }

def withSegment (manifest : Manifest) (segment : Segment) : Manifest :=
  { manifest with segments := manifest.segments ++ [segment] }

/-- The checked partial file becomes the segment of the same number. -/
def promoteChecked (P : Storage κ) (expected : SegmentPath) (content : κ)
    (metadata : SegmentMetadata) : Bundle κ Segment := do
  systemCall P .syncSegment
  systemCall P .readSegment
  systemCall P .resolveSegment
  promote P expected expected.withMp4
  systemCall P .syncSegmentsDirectory
  pure {
    file := "segments/" ++ expected.withMp4.fileName
    sha256 := P.sha256 content
    bytes := P.length content
    metadata := metadata }

/-- `commit_segment_inner` up to the manifest. -/
def promoteSegment (P : Storage κ) (finalized : FinalizedSegment) (metadata : SegmentMetadata) :
    Bundle κ Segment := do
  let expected ← nextPartialPath
  let mode ← Program.read fun b => b.manifest.mode
  if finalized.path ≠ expected then
    Program.fail (.invalidInput "segment belongs to another bundle or index")
  else if ¬validMetadata metadata then
    Program.fail (.invalidInput "invalid segment metadata")
  else if ¬modeMatches mode metadata then
    Program.fail (.invalidInput "segment metadata does not match recording mode")
  else do
    let content ← fileAt P .openSegment expected
    systemCall P .readMetadata
    if P.isFile content = false ∨ P.length content = 0 then
      Program.fail (.invalidInput "empty or non-file segment")
    else promoteChecked P expected content metadata

def commitSegmentInner (P : Storage κ) (finalized : FinalizedSegment)
    (metadata : SegmentMetadata) : Bundle κ Unit := do
  let segment ← promoteSegment P finalized metadata
  let manifest ← Program.read BundleState.manifest
  commit P (withSegment manifest segment)

def commitSegment (P : Storage κ) (finalized : FinalizedSegment) (metadata : SegmentMetadata) :
    Bundle κ Unit := do
  ensureOpen
  match ← Program.attempt (commitSegmentInner P finalized metadata) with
  | .ok () => pure ()
  | .error error => do
      let current ← Program.read state
      Program.when (current.terminal = false) do
        let _ ← Program.attempt (fail P "segment commit failed")
      Program.fail error

def finished (manifest : Manifest) (nowMs : Nat) : Manifest :=
  { manifest with
    state := if manifest.gaps = [] then .complete else .hasGaps
    endedAtUnixMs := some nowMs }

def finish (P : Storage κ) : Bundle κ Unit := do
  let manifest ← Program.read BundleState.manifest
  if manifest.state.terminal = true then pure ()
  else if manifest.segments = [] then fail P "no finalized video segment"
  else do
    let ended ← now P
    commit P (finished manifest ended)

end RecordingBundle

end PicooCamera.Recording
