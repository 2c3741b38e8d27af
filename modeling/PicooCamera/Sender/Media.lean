import PicooCamera.Sender.Control

/-!
# The native encoder boundary

An access unit of the committed encoder is packetized at once. Inside a
transaction only its keyframe is, after the candidate configuration was sent,
and the transaction commits with it.
-/

namespace PicooCamera.Sender

open PicooCamera.Library PicooCamera.Protocol PicooCamera.Packet PicooCamera.Transport

/-- One encoded output of a native encoder. -/
structure NativeEncoderAccessUnit where
  data : Bytes
  isKeyframe : Bool
  ptsUs : Nat
  encodedAtUs : Nat
  transactionId : Nat
  encoderGeneration : Nat
  streamEpoch : Nat
  height : Nat
  deriving DecidableEq, Repr

def NativeEncoderAccessUnit.facts (unit : NativeEncoderAccessUnit) : EncodedFacts where
  transactionId := unit.transactionId
  encoderGeneration := unit.encoderGeneration
  streamEpoch := unit.streamEpoch
  height := unit.height
  isKeyframe := unit.isKeyframe

/-- One callback of a native encoder, with the configuration observed with it. -/
structure NativeEncoderEvent where
  data : Bytes
  isKeyframe : Bool
  ptsUs : Nat
  encodedAtUs : Nat
  encoderGeneration : Nat
  streamEpoch : Nat
  width : Nat
  height : Nat
  streamConfig : Option StreamConfigParams
  deriving DecidableEq, Repr

/-- The access unit of a callback, with its data aligned to the configuration. -/
def NativeEncoderEvent.accessUnit (event : NativeEncoderEvent) (transactionId : Nat)
    (data : Bytes) : NativeEncoderAccessUnit where
  data := data
  isKeyframe := event.isKeyframe
  ptsUs := event.ptsUs
  encodedAtUs := event.encodedAtUs
  transactionId := transactionId
  encoderGeneration := event.encoderGeneration
  streamEpoch := event.streamEpoch
  height := event.height

namespace EncoderState

/-- The facts are those of the committed encoder. -/
def isCommittedFact (e : EncoderState) (unit : NativeEncoderAccessUnit) : Bool :=
  unit.transactionId = 0 ∧ unit.encoderGeneration ≠ 0 ∧
    unit.encoderGeneration = e.committedEncoderGeneration ∧
    unit.streamEpoch = e.currentStreamEpoch ∧ unit.height = e.committedEncoderHeight

/-- The configuration at hand is of another format than the committed one. -/
def formatChanged (e : EncoderState) : Bool :=
  match e.pendingStreamConfig, e.committedSourceFormat with
  | some config, some format => !format.matches config
  | _, _ => false

def commitSourceFormat (e : EncoderState) (format : SourceFormat) : EncoderState :=
  { e with committedSourceFormat := some format }

/-- The format that the encoder is bound to. -/
def boundFormat (e : EncoderState) : Option SourceFormat :=
  e.committedSourceFormat.or (e.pendingStreamConfig.map StreamConfigParams.sourceFormat)

end EncoderState

/-! ## The checks of a callback -/

def sourceChangeMessage : String :=
  "source format change requires an explicit encoder transaction"

def differingSourceMessage : String := "native configuration differs from requested source format"

/-- What the Receiver's offers say of the configuration and of the size of the access unit. -/
def checkOffer (P : SenderPlatform) (s : SenderSession) (event : NativeEncoderEvent) :
    Except SessionFault Unit :=
  match event.streamConfig.or s.encoder.pendingStreamConfig with
  | none =>
      if s.receiverCapabilities.isSome then
        .error (.protocol "native event has no source configuration")
      else .ok ()
  | some config => do
      let _ ← (config.toProto P.bitstream).mapError SessionFault.codecConfiguration
      match s.receiverCapabilities with
      | none => pure ()
      | some caps => do
          let format ← (P.bitstream.videoFormat config.configuration config.fps).mapError
            SessionFault.protocol
          if 2 ^ 32 ≤ event.data.length then
            throw (.protocol "native access unit exceeds offer budget")
          if caps.supports format (P.bitstream.levelIdc config.configuration)
              event.data.length = false then
            throw (.protocol "actual native event has no matching decoder offer")

def checkEncoderEvent (P : SenderPlatform) (s : SenderSession) (event : NativeEncoderEvent) :
    Except SessionFault Unit := do
  if event.encoderGeneration = 0 ∨ event.width = 0 ∨ event.height = 0 then
    throw (.protocol "native encoder event has invalid generation or dimensions")
  if ∃ config ∈ event.streamConfig,
      config.width ≠ event.width ∨ config.height ≠ event.height then
    throw (.protocol "native stream configuration does not match encoder output dimensions")
  if event.streamConfig.isSome ∧ event.isKeyframe = false ∧
      (s.encoder.applyState.transactionIdForEpoch event.streamEpoch ≠ 0 ∨
        s.encoder.committedEncoderGeneration = 0) then
    throw (.protocol "initial or transactional stream configuration requires a keyframe")
  if s.encoder.applyState.isApplying = false ∧ s.encoder.committedEncoderGeneration ≠ 0 ∧
      ∃ config ∈ event.streamConfig, ∃ format ∈ s.encoder.boundFormat,
        format.matches config = false then
    throw (.protocol sourceChangeMessage)
  checkOffer P s event
  if ∃ config ∈ event.streamConfig, ∃ directive ∈ s.encoder.applyState.directive,
      directive.targetFormat.matches config = false then
    throw (.protocol differingSourceMessage)

inductive PreparedEvent where
  /-- No decoder evidence yet on this connection. -/
  | noEvidence
  /-- The native facts were refused. -/
  | refused
  | ready (unit : NativeEncoderAccessUnit) (configStaged : Bool)
  deriving DecidableEq, Repr

namespace Core

open Program

def takeKeyframeRequest : Core Bool := do
  let s ← session
  modifySession SenderSession.endKeyframeRequest
  pure s.keyframeRequested

def takeCameraCommand : Core (Option CameraCommand) := do
  let s ← session
  modifySession SenderSession.takeCameraCommand
  pure s.pendingCameraCommand

/-! ## Admission -/

def fecProtectionFor (isKeyframe : Bool) : Core FecProtection :=
  if isKeyframe then pure .strong else look Answers.deltaProtection

/-- `ingest_timed_access_unit` of the pipeline. -/
def packetize (P : SenderPlatform) (unit : NativeEncoderAccessUnit) (fec : FecProtection) :
    Core Nat := do
  let s ← session
  let packed := packetizeIntoPending P.codecs s.pipeline unit.data unit.isKeyframe unit.ptsUs
    unit.encodedAtUs unit.streamEpoch fec
  modifySession fun s => s.setPipeline packed.2
  Program.ofExcept (packed.1.mapError SessionFault.packetizer)

/-- The access unit is the last batch of the pending queue. -/
def noteAdmitted (unit : NativeEncoderAccessUnit) : Core Unit := do
  let s ← session
  match s.pipeline.pending.getLast? with
  | none => pure ()
  | some batch => note (.admitted unit.facts batch)

def commitTransaction (unit : NativeEncoderAccessUnit) (config : StreamConfigParams) :
    Core Unit := do
  let s ← session
  let taken := s.encoder.applyState.takeMatchingKeyframe unit.transactionId
    unit.encoderGeneration unit.streamEpoch unit.height true
  modifyEncoder fun e => e.setApplyState taken.2
  match taken.1 with
  -- The match was checked before the packetization.
  | none => pure ()
  | some transaction => do
      modifyEncoder fun e =>
        if transaction.directive.kind = .recovery then
          e.commitEncoder unit.height unit.encoderGeneration config
        else e.commitStreamEpoch transaction unit.height unit.encoderGeneration config
      note (.committed transaction.directive unit.facts)

/-- The keyframe that a transaction waits for. A failure leaves the transaction pending. -/
def ingestCandidate (P : SenderPlatform) (unit : NativeEncoderAccessUnit) : Core Nat := do
  let s ← session
  let e := s.encoder
  if e.applyState.matchesNativeFacts unit.transactionId unit.encoderGeneration unit.streamEpoch
      unit.height = false ∨ unit.isKeyframe = false then
    fail .encoderRefreshPending
  else
    match e.pendingStreamConfig with
    | none => fail (.streamConfigPending unit.streamEpoch)
    | some config =>
        if e.applyState.isStreamConfigStaged = false ∨ config.height ≠ unit.height then
          fail (.streamConfigPending unit.streamEpoch)
        else if ∃ directive ∈ e.applyState.directive,
            directive.targetFormat.matches config = false then
          fail (.protocol differingSourceMessage)
        else do
          let config := { config with streamEpoch := unit.streamEpoch }
          sendStreamConfigForEpoch P config unit.streamEpoch
          let fec ← fecProtectionFor true
          let packets ← packetize P unit fec
          commitTransaction unit config
          noteAdmitted unit
          modifySession SenderSession.endKeyframeRequest
          pure packets

/-- The format of the access unit that was just packetized. -/
def commitSourceFormat : Core Unit := do
  let s ← session
  match s.encoder.pendingStreamConfig with
  | none => pure ()
  | some config => do
      modifyEncoder fun e => e.commitSourceFormat config.sourceFormat
      when (s.encoder.committedSourceFormat = none) (note (.observed config.sourceFormat))

def ingestCommitted (P : SenderPlatform) (unit : NativeEncoderAccessUnit) : Core Nat := do
  let s ← session
  if s.encoder.isCommittedFact unit = false then fail .staleEncoderFact
  else if s.encoder.mediaBlockedForStreamConfig then
    fail (.streamConfigPending s.encoder.currentStreamEpoch)
  else if s.encoder.formatChanged then fail (.protocol sourceChangeMessage)
  else do
    let fec ← fecProtectionFor unit.isKeyframe
    let packets ← packetize P unit fec
    commitSourceFormat
    noteAdmitted unit
    when unit.isKeyframe (modifySession SenderSession.endKeyframeRequest)
    pure packets

def ingestEncoderAccessUnit (P : SenderPlatform) (unit : NativeEncoderAccessUnit) :
    Core Nat := do
  let s ← session
  if unit.data = [] then fail (.packetizer .emptyAccessUnit)
  else if s.activeSession = none then fail .notConnected
  else if s.streaming = false then do
    modifySession SenderSession.clearPendingPackets
    fail .mediaNotReady
  else if s.encoder.applyState.isApplying then ingestCandidate P unit
  else ingestCommitted P unit

/-! ## Sending -/

def sendBatches (session : SessionId) : List VideoDatagramBatch → Core Nat
  | [] => pure 0
  | batch :: rest => do
      let answer ← look Answers.sendVideoBatch
      match answer with
      | .error error => fail (.transport error)
      | .ok () => do
          note (.mediaSent session batch)
          let sent ← sendBatches session rest
          pure (batch.datagrams.length + sent)

/-- The number of datagrams sent. The batches behind a refused one are dropped with it. -/
def flushPending : Core Nat := do
  let session ← requireSession
  let s ← Core.session
  modifySession SenderSession.clearPendingPackets
  if s.streaming = false then fail .mediaNotReady
  else sendBatches session s.pipeline.pending

/-! ## The facts of a callback -/

/-- The first callback with a configuration binds its own shape. -/
def acceptNativeFacts (transactionId : Nat) (event : NativeEncoderEvent) : Core Bool := do
  let s ← session
  if transactionId = 0 ∧ s.encoder.committedEncoderGeneration = 0 ∧
      event.streamConfig.isSome then
    reportInitialEncoderEventStarted event.encoderGeneration event.streamEpoch event.height
  else
    reportEncoderStarted transactionId event.encoderGeneration event.streamEpoch event.height

def stageEventConfig (event : NativeEncoderEvent) : Core Unit :=
  match event.streamConfig with
  | none => pure ()
  | some config => setStreamConfig config

def alignedData (P : SenderPlatform) (data : Bytes) : Core Bytes := do
  let s ← session
  match s.encoder.pendingStreamConfig with
  | none => pure data
  | some config =>
      Program.ofExcept ((P.bitstream.alignAccessUnit config.configuration data).mapError
        SessionFault.codecConfiguration)

/-- What `submit_encoder_event` does before the access unit is admitted. -/
def prepareEncoderEvent (P : SenderPlatform) (event : NativeEncoderEvent) :
    Core PreparedEvent := do
  let s ← session
  Program.ofExcept (checkEncoderEvent P s event)
  if s.receiverCapabilities = none then pure .noEvidence
  else do
    let transactionId := s.encoder.applyState.transactionIdForEpoch event.streamEpoch
    let accepted ← acceptNativeFacts transactionId event
    if accepted then do
      stageEventConfig event
      let data ← alignedData P event.data
      pure (.ready (event.accessUnit transactionId data) event.streamConfig.isSome)
    else pure .refused

end Core

end PicooCamera.Sender
