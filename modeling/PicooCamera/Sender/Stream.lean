import PicooCamera.Sender.Lifecycle

/-!
# Stream epochs and stream configurations of the session

The first encoder is bound outside any transaction; later changes of the encoder
are transactions with an epoch of their own. A configuration is sent once for
each connection and change.
-/

namespace PicooCamera.Sender

open PicooCamera.Library PicooCamera.Protocol PicooCamera.Packet PicooCamera.Session
open PicooCamera.Transport

namespace EncoderState

/-- The checks on every start report. -/
def isEncoderShape (encoderGeneration height : Nat) : Bool :=
  encoderGeneration ≠ 0 ∧ height ≠ 0 ∧ isSupportedHeight height

def bindEncoder (e : EncoderState) (encoderGeneration height : Nat) : EncoderState :=
  { e with committedEncoderGeneration := encoderGeneration, committedEncoderHeight := height }

def stageStreamConfig (e : EncoderState) (config : StreamConfigParams) : EncoderState :=
  { e with
    pendingStreamConfig := some { config with streamEpoch := e.currentStreamEpoch }
    streamConfigSent := false
    applyState := (e.applyState.reduce .streamConfigStaged).2 }

def rollback (e : EncoderState) : EncoderRollback where
  streamConfig := e.pendingStreamConfig
  streamConfigSent := e.streamConfigSent
  encoderGeneration := e.committedEncoderGeneration

def allocateEpoch (e : EncoderState) : EncoderState :=
  { e with lastAllocatedStreamEpoch := e.lastAllocatedStreamEpoch + 1 }

def countDirective (e : EncoderState) : EncoderState :=
  { e with nextEncoderDirectiveId := e.nextEncoderDirectiveId + 1 }

def keepStreamConfig (e : EncoderState) (config : StreamConfigParams) : EncoderState :=
  { e with pendingStreamConfig := some config }

def noteStreamConfigSent (e : EncoderState) : EncoderState :=
  { e with streamConfigSent := true, mediaBlockedForStreamConfig := false }

/-- What both kinds of transactions commit. -/
def commitEncoder (e : EncoderState) (height encoderGeneration : Nat)
    (config : StreamConfigParams) : EncoderState :=
  { e with
    committedEncoderHeight := height
    committedEncoderGeneration := encoderGeneration
    committedSourceFormat := some config.sourceFormat
    pendingStreamConfig := some config
    streamConfigSent := true
    mediaBlockedForStreamConfig := false }

def commitStreamEpoch (e : EncoderState) (transaction : EncoderTransaction)
    (height encoderGeneration : Nat) (config : StreamConfigParams) : EncoderState :=
  { e with currentStreamEpoch := transaction.directive.streamEpoch }.commitEncoder height
    encoderGeneration config

end EncoderState

namespace Core

open Program

/-! ## Start reports -/

/-- A start report outside any transaction binds the first encoder. -/
def bindEncoder (encoderGeneration height : Nat) : Core Unit := do
  modifyEncoder fun e => e.bindEncoder encoderGeneration height
  note (.bound encoderGeneration height)

def reportTransactionStarted (transactionId encoderGeneration streamEpoch height : Nat) :
    Core Bool := do
  let s ← session
  let report :=
    s.encoder.applyState.reportStarted transactionId encoderGeneration streamEpoch height
  modifyEncoder fun e => e.setApplyState report.2
  when (report.2 ≠ s.encoder.applyState) (note (.started encoderGeneration))
  pure report.1

def reportEncoderStarted (transactionId encoderGeneration streamEpoch height : Nat) :
    Core Bool := do
  let s ← session
  if EncoderState.isEncoderShape encoderGeneration height = false then pure false
  else if transactionId ≠ 0 then
    reportTransactionStarted transactionId encoderGeneration streamEpoch height
  else if s.encoder.applyState.isApplying ∨ streamEpoch ≠ s.encoder.currentStreamEpoch then
    pure false
  else if s.encoder.committedEncoderGeneration = 0 then
    if ∃ config ∈ s.encoder.pendingStreamConfig, config.height ≠ height then pure false
    else do
      bindEncoder encoderGeneration height
      pure true
  else
    pure (s.encoder.committedEncoderGeneration = encoderGeneration ∧
      s.encoder.committedEncoderHeight = height)

def reportInitialEncoderEventStarted (encoderGeneration streamEpoch height : Nat) :
    Core Bool := do
  let s ← session
  if EncoderState.isEncoderShape encoderGeneration height = false ∨
      s.encoder.applyState.isApplying ∨ s.encoder.committedEncoderGeneration ≠ 0 ∨
      streamEpoch ≠ s.encoder.currentStreamEpoch then
    pure false
  else do
    bindEncoder encoderGeneration height
    pure true

/-! ## Transactions -/

def setStreamConfig (config : StreamConfigParams) : Core Unit :=
  modifyEncoder fun e => e.stageStreamConfig config

/-- Zero where the epochs are exhausted. -/
def allocateStreamEpoch : Core Nat := do
  let s ← session
  if maxStreamEpoch ≤ s.encoder.lastAllocatedStreamEpoch then do
    setError "STREAM_EPOCH_EXHAUSTED"
    pure 0
  else do
    modifyEncoder EncoderState.allocateEpoch
    note (.allocated (s.encoder.lastAllocatedStreamEpoch + 1))
    pure (s.encoder.lastAllocatedStreamEpoch + 1)

def beginEncoderTransaction (directive : EncoderDirective) : Core Bool := do
  let now ← instantNow
  let s ← session
  let begun := s.encoder.applyState.begin directive s.encoder.rollback now
  modifyEncoder fun e => e.setApplyState begun.2
  when begun.1 (note (.began directive s.encoder.snapshot))
  pure begun.1

/-- The directive of a transaction that has begun. -/
def issueDirective : Core Unit := do
  modifyEncoder EncoderState.countDirective
  modifySession SenderSession.requestKeyframe

def clearMissingOffer : Core Unit := do
  let s ← session
  when (s.lastSessionError = some "NO_MATCHING_DECODER_OFFER")
    (modifySession SenderSession.clearError)

/-- The epoch of the new transaction, or zero. -/
def beginStreamReconfiguration (targetFormat : SourceFormat) : Core Nat := do
  let s ← session
  if s.encoder.applyState.isApplying then pure 0
  else if targetFormat.isProductFormat = false then pure 0
  else if ∃ caps ∈ s.receiverCapabilities, targetFormat.isOfferedBy caps = false then do
    setError "NO_MATCHING_DECODER_OFFER"
    pure 0
  else if 2 ^ 64 ≤ s.encoder.nextEncoderDirectiveId + 1 then do
    setError "ENCODER_DIRECTIVE_ID_EXHAUSTED"
    pure 0
  else do
    let epoch ← allocateStreamEpoch
    if epoch = 0 then pure 0
    else do
      let begun ← beginEncoderTransaction
        ⟨s.encoder.nextEncoderDirectiveId, .localRequest, targetFormat, epoch⟩
      if begun then do
        issueDirective
        clearMissingOffer
        pure epoch
      else pure 0

/-! ## Sending the configuration -/

def sendStreamConfigForEpoch (P : SenderPlatform) (config : StreamConfigParams)
    (streamEpoch : Nat) : Core Unit := do
  let session ← requireSession
  match ({ config with streamEpoch := streamEpoch } : StreamConfigParams).toProto P.bitstream with
  | .error error => fail (.codecConfiguration error)
  | .ok wire => sendControlPayload session (.streamConfig wire)

def sendStreamConfig (P : SenderPlatform) (config : StreamConfigParams) : Core Unit := do
  let s ← session
  let config := { config with streamEpoch := s.encoder.currentStreamEpoch }
  sendStreamConfigForEpoch P config s.encoder.currentStreamEpoch
  modifyEncoder fun e => e.keepStreamConfig config

/-- A configuration that the Receiver offers no decoder for stays unsent. -/
def sendOfferedConfig (P : SenderPlatform) (caps : Capabilities) (config : StreamConfigParams) :
    Core Unit := do
  let s ← session
  let wire ← Program.ofExcept
    ((config.toProto P.bitstream).mapError SessionFault.codecConfiguration)
  let format ← Program.ofExcept
    ((P.bitstream.validatedVideoFormat wire).mapError SessionFault.protocol)
  if caps.supports format wire.levelIdc 1 = false then setError "NO_MATCHING_DECODER_OFFER"
  else if s.encoder.mediaBlockedForStreamConfig ∧
      config.height ≠ s.encoder.committedEncoderHeight then do
    setError "STREAM_CONFIG_HEIGHT_MISMATCH"
    fail (.streamConfigHeightMismatch s.encoder.committedEncoderHeight config.height)
  else do
    sendStreamConfig P config
    modifyEncoder EncoderState.noteStreamConfigSent

def sendPendingStreamConfig (P : SenderPlatform) : Core Unit := do
  let s ← session
  if s.encoder.streamConfigSent ∨ s.encoder.applyState.isApplying then pure ()
  else
    match s.receiverCapabilities, s.encoder.pendingStreamConfig with
    | some caps, some config => sendOfferedConfig P caps config
    | _, _ => pure ()

def startStreaming : Core Unit := do
  modifySession fun s => s.setTrust .authenticated
  modifySession fun s => s.setStream (.streaming s.encoder.currentStreamEpoch)
  modifySession fun s => s.setHealth .healthy
  modifySession SenderSession.requestKeyframe

/-- A configuration that cannot be sent now is left to the next `pump`. -/
def enterStreaming (P : SenderPlatform) : Core Unit := do
  startStreaming
  let _ ← attempt (sendPendingStreamConfig P)
  pure ()

end Core

end PicooCamera.Sender
