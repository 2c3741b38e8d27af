import PicooCamera.Sender.Session

/-!
# Applying lifecycle events

The reducer decides, the session applies the effects in order. Some effects apply
a further event; `applySenderEventAt` counts how deep that may go.
-/

namespace PicooCamera.Sender

open PicooCamera.Library PicooCamera.Protocol PicooCamera.Packet PicooCamera.Session
open PicooCamera.Transport

namespace EncoderState

def setApplyState (e : EncoderState) (applyState : EncoderApplyState) : EncoderState :=
  { e with applyState := applyState }

def restoreGeneration (e : EncoderState) (transaction : EncoderTransaction) : EncoderState :=
  { e with committedEncoderGeneration := transaction.rollback.encoderGeneration }

def rollbackEncoderTransaction (e : EncoderState) (transaction : EncoderTransaction) :
    EncoderState :=
  { e with
    pendingStreamConfig := transaction.rollback.streamConfig
    streamConfigSent := transaction.rollback.streamConfigSent }

def endSession (e : EncoderState) : EncoderState := { e with streamConfigSent := false }

end EncoderState

namespace SenderSession

def reduced (s : SenderSession) (event : SenderEvent) : SenderSession :=
  { s with lifecycle := (reduce s.lifecycle event).1 }

/-- What `reset_session_resources` does after the abort of the transaction. -/
def endSession (s : SenderSession) : SenderSession :=
  { s with
    pairing := none
    senderNonce := none
    encoder := s.encoder.endSession
    receiverCapabilities := none
    pipeline.pending := []
    pendingCameraCommand := none
    keyframeRequested := false
    nextControlMessageId := 1
    lastReceivedControlMessageId := 0 }

def hasSessionResources (s : SenderSession) : Bool :=
  s.encoder.applyState.isApplying || s.pairing.isSome || s.senderNonce.isSome ||
    s.encoder.streamConfigSent || s.receiverCapabilities.isSome ||
    (s.pipeline.pending.map fun batch => batch.datagrams.length).sum ≠ 0 ||
    s.pendingCameraCommand.isSome || s.helloRequested || s.lastEndpoint.isSome ||
    s.reconnectAfter.isSome

def prepareConnection (s : SenderSession) : SenderSession :=
  { s with
    reconnectAttempt := 0
    reconnectAfter := none
    nextControlMessageId := 1
    lastReceivedControlMessageId := 0 }

/-- `ReconnectBackoff::next_delay_ms`: 500 ms, 1 s, 2 s, then 5 s forever. -/
def nextDelayMs (s : SenderSession) : Nat :=
  match s.reconnectAttempt with
  | 0 => 500
  | 1 => 1000
  | 2 => 2000
  | _ => 5000

def armReconnect (s : SenderSession) (deadline : Instant) : SenderSession :=
  { s with reconnectAfter := some deadline }

def countReconnect (s : SenderSession) : SenderSession :=
  { s with reconnectAttempt := s.reconnectAttempt + 1 }

def disableReconnect (s : SenderSession) : SenderSession := { s with reconnectAfter := none }

def clearConnectionIntent (s : SenderSession) : SenderSession :=
  { s with reconnectAfter := none, lastEndpoint := none, helloRequested := false }

/-- A new challenge: its nonce, and no answer to it yet. -/
def startChallenge (s : SenderSession) (nonce : Bytes) : SenderSession :=
  { s with senderNonce := some nonce, pairing := none }

def clientHello (s : SenderSession) (nonce : Bytes) : ClientHello where
  senderId := s.identity.deviceId
  deviceName := s.identity.deviceName
  publicKey := s.identity.publicKey
  senderNonce := nonce

end SenderSession

namespace Core

open Program

/-! ## Session resources -/

/-- The end of a transaction without a commit. -/
def restoreBefore (transaction : EncoderTransaction) : Core Unit := do
  modifyEncoder fun e => e.restoreGeneration transaction
  modifyEncoder fun e => e.rollbackEncoderTransaction transaction
  let s ← session
  note (.rolledBack transaction.directive s.encoder.snapshot)

def abortPendingReconfiguration : Core Unit := do
  let s ← session
  modifyEncoder fun e => e.setApplyState (s.encoder.applyState.reduce .abort).2
  match (s.encoder.applyState.reduce .abort).1 with
  | .rollback transaction => restoreBefore transaction
  | .unchanged => pure ()
  | .staged => pure ()

def resetSessionResources : Core Unit := do
  abortPendingReconfiguration
  modifySession SenderSession.endSession

/-! ## ClientHello -/

def emitClientHello : Core Unit := do
  let session ← requireSession
  let nonce ← look Answers.nonce
  match nonce with
  | .error message => fail (.protocol message)
  | .ok nonce => do
      modifySession fun s => s.startChallenge nonce
      let s ← Core.session
      sendControlPayload session (.clientHello (s.clientHello nonce))

/-! ## Events and effects -/

section Layer

-- How an effect applies a further event.
variable (apply : SenderEvent → Core (List SenderEffect))

def rejectAuthenticationWith (code : String) : Core Unit := do
  setError code
  let s ← session
  match s.activeSession with
  | some session => do
      let _ ← attempt (apply (.authenticationRejected session.value))
      pure ()
  | none => do
      let _ ← attempt (apply (.userDisconnect true))
      pure ()

/-- The ClientHello that was asked for before the connection was there. -/
def helloOnConnect : Core Unit := do
  let s ← session
  if s.helloRequested then do
    let outcome ← attempt emitClientHello
    match outcome with
    | .ok () => modifySession fun s => s.setStream .negotiating
    | .error _ => rejectAuthenticationWith apply "CLIENT_HELLO_SEND_FAILED"
  else pure ()

def scheduleReconnect : Core Unit := do
  let s ← session
  match s.lastEndpoint with
  | none => pure ()
  | some _ => do
      modifySession SenderSession.countReconnect
      let now ← instantNow
      modifySession fun t => t.armReconnect (now + s.nextDelayMs * 1000)
      let _ ← apply (.reconnectArmed (s.reconnectAttempt + 1))
      pure ()

def startReconnect : Core Unit := do
  let s ← session
  match s.lastEndpoint with
  | none => fail .notConnected
  | some endpoint => do
      let outcome ← look Answers.connect
      note (.asked endpoint outcome)
      match outcome with
      | .ok session => do
          let _ ← apply (.transportConnectStarted session.value)
          pure ()
      | .error error => do
          let _ ← apply .reconnectConnectFailed
          fail (.transport error)

def applyEffect : SenderEffect → Core Unit
  | .acceptControl => pure ()
  | .resetSessionResources => resetSessionResources
  | .closeTransport generation => note (.closed generation)
  | .prepareConnection generation => do
      note (.connected generation)
      modifySession SenderSession.prepareConnection
      helloOnConnect apply
  | .scheduleReconnect => scheduleReconnect apply
  | .startReconnect => startReconnect apply
  | .disableReconnect => modifySession SenderSession.disableReconnect
  | .clearConnectionIntent => modifySession SenderSession.clearConnectionIntent

def applyEffects : List SenderEffect → Core Unit
  | [] => pure ()
  | effect :: rest => do
      applyEffect apply effect
      applyEffects rest

def applySenderEventWith (event : SenderEvent) : Core (List SenderEffect) := do
  let s ← session
  modifySession fun s => s.reduced event
  applyEffects apply (reduce s.lifecycle event).2
  pure (reduce s.lifecycle event).2

end Layer

def applySenderEventAt : Nat → SenderEvent → Core (List SenderEffect)
  | 0 => fun _ => pure []
  | depth + 1 => applySenderEventWith (applySenderEventAt depth)

/-- The deepest nesting is a reconnect that fails and arms the next one. -/
def applySenderEvent (event : SenderEvent) : Core (List SenderEffect) :=
  applySenderEventAt 3 event

/-- The event for its effects only, whatever it answers. -/
def applyEvent (event : SenderEvent) : Core Unit := do
  let _ ← attempt (applySenderEvent event)
  pure ()

def rejectAuthentication (code : String) : Core Unit :=
  rejectAuthenticationWith applySenderEvent code

end Core

end PicooCamera.Sender
