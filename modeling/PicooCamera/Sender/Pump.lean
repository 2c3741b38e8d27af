import PicooCamera.Sender.Media

/-!
# The operations of the Sender session

What the host application calls: connecting and disconnecting, the periodic
`pump`, and the reports of the native encoder.
-/

namespace PicooCamera.Sender

open PicooCamera.Library PicooCamera.Protocol PicooCamera.Packet PicooCamera.Session
open PicooCamera.Transport

inductive EncoderFailureOutcome where
  | ignored
  | rolledBack
  | recoveryRequested
  | disconnected
  deriving DecidableEq, Repr

structure EncoderEventOutcome where
  encoderAccepted : Bool
  streamConfigured : Bool
  keyframeRequested : Bool
  packetCount : Nat
  sentCount : Nat
  deriving DecidableEq, Repr

/-- `EncoderEventOutcome::default()`. -/
def EncoderEventOutcome.default : EncoderEventOutcome := ⟨false, false, false, 0, 0⟩

namespace SenderSession

def setEndpoint (s : SenderSession) (endpoint : Endpoint) : SenderSession :=
  { s with reconnectAfter := none, lastEndpoint := some endpoint }

def askForHello (s : SenderSession) : SenderSession :=
  { s with lastSessionError := none, helloRequested := true }

def markPermissionRequired (s : SenderSession) : SenderSession :=
  s.setOutput .permissionRequired

def clearPermissionRequired (s : SenderSession) : SenderSession :=
  if s.lifecycle.runtime.output = .permissionRequired then s.setOutput .ready else s

end SenderSession

namespace Core

open Program

section Operations

variable (P : SenderPlatform)

/-! ## Transport events -/

def handleTransportEvent : TransportEvent → Core Unit
  | .connected session => applyEvent (.transportConnected session.value)
  | .controlMessage session message => do
      let effects ← attempt (applySenderEvent (.controlReceived session.value))
      match effects with
      | .ok effects => when (.acceptControl ∈ effects) (handleControl P session message)
      | .error _ => pure ()
  | .disconnected session _ => do
      let s ← Core.session
      applyEvent (.transportDisconnected session.value s.lastEndpoint.isSome)
  | .videoPackets _ _ _ => pure ()

def takeTransportEvent (event : TransportEvent) : Core Unit := do
  note (.polled event)
  handleTransportEvent P event

def drainLoop : Nat → Core Unit
  | 0 => pure ()
  | fuel + 1 => do
      let event ← look Answers.event
      match event with
      | none => pure ()
      | some event => do
          takeTransportEvent P event
          drainLoop fuel

/-- Each poll takes an answer of the surroundings, and without one there is no event. -/
def drainEvents : Core Unit := do
  let fuel ← read fun s => s.answers.length + 1
  drainLoop P fuel

/-! ## Connections -/

def connect (endpoint : Endpoint) : Core SessionId := do
  modifySession fun s => s.setEndpoint endpoint
  let _ ← applySenderEvent .connectRequested
  let outcome ← look Answers.connect
  note (.asked endpoint outcome)
  match outcome with
  | .ok session => do
      let _ ← applySenderEvent (.transportConnectStarted session.value)
      drainEvents P
      pure session
  | .error error => do
      let _ ← applySenderEvent .explicitConnectFailed
      fail (.transport error)

def disconnect : Core Unit := do
  let s ← session
  applyEvent (.userDisconnect s.hasSessionResources)
  drainEvents P

def setAutoReconnect (enabled : Bool) : Core Unit := do
  when (!enabled) (modifySession SenderSession.disableReconnect)
  applyEvent (.reconnectPolicyChanged enabled)

/-- Before the connection is there the ClientHello is only asked for. -/
def sendClientHello : Core Unit := do
  let s ← session
  if s.activeSession = none ∧ s.lifecycle.runtime.connection.isAttempt = false then
    fail .notConnected
  else do
    modifySession SenderSession.askForHello
    if s.activeSession = none then pure ()
    else do
      emitClientHello
      modifySession fun s => s.setStream .negotiating
      drainEvents P

def sendStartStream : Core Unit := do
  let session ← requireSession
  sendControlPayload session .startStream
  drainEvents P

def sendStopStream : Core Unit := do
  let session ← requireSession
  sendControlPayload session .stopStream
  drainEvents P

/-! ## Encoder failures -/

def giveUpRecovery (code : String) : Core EncoderFailureOutcome := do
  setError code
  disconnect P
  pure .disconnected

def startCommittedEncoderRecovery : Core EncoderFailureOutcome := do
  let s ← session
  let e := s.encoder
  if e.committedEncoderHeight = 0 ∨ e.applyState.isApplying then
    giveUpRecovery P "ENCODER_RECOVERY_UNAVAILABLE"
  else if 2 ^ 64 ≤ e.nextEncoderDirectiveId + 1 then
    giveUpRecovery P "ENCODER_DIRECTIVE_ID_EXHAUSTED"
  else
    match e.pendingStreamConfig with
    | none => giveUpRecovery P "ENCODER_RECOVERY_CONFIGURATION_MISSING"
    | some config => do
        let begun ← beginEncoderTransaction
          ⟨e.nextEncoderDirectiveId, .recovery, config.sourceFormat, e.currentStreamEpoch⟩
        if begun then do
          issueDirective
          pure .recoveryRequested
        else giveUpRecovery P "ENCODER_RECOVERY_STATE_CONFLICT"

def handleEncoderFailureTransition :
    EncoderFailureTransition → Core EncoderFailureOutcome
  | .ignored => pure .ignored
  | .rollback transaction => do
      restoreBefore transaction
      pure .rolledBack
  | .recover transaction => do
      restoreBefore transaction
      startCommittedEncoderRecovery P
  | .disconnect transaction => do
      restoreBefore transaction
      setError "ENCODER_RECOVERY_FAILED"
      disconnect P
      pure .disconnected

def reportTransactionFailed (transactionId encoderGeneration : Nat) :
    Core EncoderFailureOutcome := do
  let s ← session
  let failed := s.encoder.applyState.reportFailed transactionId encoderGeneration
  modifyEncoder fun e => e.setApplyState failed.2
  handleEncoderFailureTransition P failed.1

def reportEncoderFailed (transactionId encoderGeneration : Nat) :
    Core EncoderFailureOutcome := do
  let s ← session
  if transactionId = 0 then
    if s.encoder.applyState.isApplying ∨ encoderGeneration = 0 ∨
        encoderGeneration ≠ s.encoder.committedEncoderGeneration then
      pure .ignored
    else startCommittedEncoderRecovery P
  else reportTransactionFailed P transactionId encoderGeneration

def expireEncoderTransaction : Core Unit := do
  let now ← instantNow
  let s ← session
  let expired := s.encoder.applyState.expire now
  modifyEncoder fun e => e.setApplyState expired.2
  let _ ← handleEncoderFailureTransition P expired.1
  pure ()

/-! ## `pump` -/

def reconnectWhenDue : Core Unit := do
  let s ← session
  match s.reconnectAfter with
  | none => pure ()
  | some deadline => do
      let now ← instantNow
      if now < deadline then pure ()
      else do
        modifySession SenderSession.disableReconnect
        let _ ← applySenderEvent .reconnectDeadlineElapsed
        drainEvents P

def maybeSendSenderStats : Core Unit := do
  let stats ← look Answers.senderStats
  let s ← session
  match stats, s.activeSession with
  | some stats, some session => do
      let _ ← attempt (sendControlPayload session (.senderStats stats))
      pure ()
  | _, _ => pure ()

def publishWhenStreaming : Core Unit := do
  let s ← session
  when s.streaming do
    sendPendingStreamConfig P
    maybeSendSenderStats

def pump : Core Unit := do
  drainEvents P
  expireEncoderTransaction P
  reconnectWhenDue P
  publishWhenStreaming P

/-! ## `submit_encoder_event` -/

/-- A configuration of the committed encoder is published before its access unit. -/
def submitAccessUnit (unit : NativeEncoderAccessUnit) (configStaged : Bool) :
    Core EncoderEventOutcome := do
  let s ← session
  when (configStaged ∧ s.encoder.applyState.isApplying = false) (pump P)
  let packetCount ← ingestEncoderAccessUnit P unit
  let sentCount ← if 0 < packetCount then flushPending else pure 0
  pump P
  let keyframeRequested ← takeKeyframeRequest
  pure ⟨true, configStaged, keyframeRequested, packetCount, sentCount⟩

def submitEncoderEvent (event : NativeEncoderEvent) : Core EncoderEventOutcome := do
  let prepared ← prepareEncoderEvent P event
  match prepared with
  | .noEvidence => pure EncoderEventOutcome.default
  | .refused => do
      pump P
      let keyframeRequested ← takeKeyframeRequest
      pure { EncoderEventOutcome.default with keyframeRequested := keyframeRequested }
  | .ready unit configStaged => submitAccessUnit P unit configStaged

end Operations

end Core

end PicooCamera.Sender
