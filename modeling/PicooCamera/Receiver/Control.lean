import PicooCamera.Receiver.Pairing

/-!
# Control messages at the Receiver
-/

namespace PicooCamera.Receiver

open PicooCamera.Library PicooCamera.Protocol PicooCamera.Packet PicooCamera.Session
open PicooCamera.Transport

namespace ReceiverSession

def controlPhase (s : ReceiverSession) : ReceiverControlPhase :=
  if s.pendingPairing ≠ none then .pairing
  else if s.activeSender = none then .awaitingClientHello
  else if s.streaming then .streaming
  else .authenticatedIdle

/-- The offers that the advertised height admits. -/
def advertised (s : ReceiverSession) (capabilities : Capabilities) : Capabilities where
  offers := capabilities.offers.filter fun offer =>
    match offer.format.bind VideoFormat.visibleRect with
    | none => false
    | some rect => rect.height ≤ s.advertisedMaxHeight

/-- The access-unit budget of the offer that admits `config`. -/
def admittedBudget (s : ReceiverSession) (capabilities : Capabilities) (format : VideoFormat)
    (config : StreamConfig) : Option Nat :=
  if s.advertisedMaxHeight < config.height ∨
      capabilities.supports format config.levelIdc 1 = false then none
  else
    (capabilities.offers.find? fun offer => offer.format = some format).map
      DecoderOffer.maxAccessUnitBytes

/-- A pending configuration of this connection is not replaced by that of an older epoch. -/
def keepsPendingConfiguration (s : ReceiverSession) (session : SessionId)
    (config : StreamConfig) : Bool :=
  match s.pendingDecoderConfiguration with
  | none => false
  | some pending =>
      pending.session = session && pending.controlGeneration = s.control.controlGeneration &&
        config.streamEpoch < pending.config.streamEpoch

end ReceiverSession

namespace MediaState

/-- Commit `config`: what waited for its epoch, or for an older one, waits no longer. -/
def commitConfig (m : MediaState) (config : StreamConfig) (budget : Nat) : MediaState :=
  let m := { m with currentStreamConfig := some config, admittedAccessUnitBudget := some budget }
  match m.waitingForStreamConfigEpoch with
  | none => m
  | some waiting =>
      if waiting = config.streamEpoch then { m with waitingForStreamConfigEpoch := none }
      else if waiting < config.streamEpoch then
        { m with waitingForStreamConfigEpoch := none, pendingStreamConfigIdr := none }
      else m

/-- The recovery that a configuration asks for: the first one, or that of a newer epoch. -/
def configRecovery (m : MediaState) (config : StreamConfig) : Option RecoveryReason :=
  match m.streamEpoch with
  | none => some .initialConfig
  | some previous => if previous < config.streamEpoch then some .epochChanged else none

end MediaState

namespace ReceiverSession

def noteReceived (s : ReceiverSession) (messageId : Nat) : ReceiverSession :=
  { s with control.lastReceivedControlMessageId := messageId }

def markCapabilitiesSent (s : ReceiverSession) : ReceiverSession :=
  { s with receiverCapabilitiesSent := true }

def commitConfig (s : ReceiverSession) (config : StreamConfig) (budget : Nat) :
    ReceiverSession :=
  { s with
    configRevision := s.configRevision + 1
    media := s.media.commitConfig config budget }

/-- Keep `config` until the decoder's capabilities are known. -/
def holdConfiguration (s : ReceiverSession) (session : SessionId) (config : StreamConfig) :
    ReceiverSession :=
  { s with
    pendingDecoderConfiguration := some
      { session := session
        controlGeneration := s.control.controlGeneration
        config := config } }

def takeConfiguration (s : ReceiverSession) : ReceiverSession :=
  { s with pendingDecoderConfiguration := none }

end ReceiverSession

namespace Owner

open Program

def sendCapabilities (session : SessionId) : Owner Unit := do
  let s ← Owner.session
  match s.decoderReadiness with
  | .ready capabilities =>
      sendControlPayload session (.capabilities (s.advertised capabilities))
  | _ => pure ()

def sendCapabilitiesOnce (session : SessionId) : Owner Unit := do
  let s ← Owner.session
  when (!s.receiverCapabilitiesSent) (do
    sendCapabilities session
    modifySession ReceiverSession.markCapabilitiesSent)

/-- `handle_stream_config` for a configuration that the native decoder admits. -/
def commitStreamConfig (session : SessionId) (config : StreamConfig) (budget : Nat) :
    Owner Unit := do
  let previous ← read fun o => o.session.media
  let revision ← read fun o => o.session.configRevision
  if ∃ epoch ∈ previous.streamEpoch, config.streamEpoch < epoch then pure ()
  else if revision = u64Max then
    fail (.protocol "source configuration revision exhausted")
  else do
    modifySession fun s => s.commitConfig config budget
    note (.committed (revision + 1) config)
    let s ← Owner.session
    when (s.videoAllowed ∧ !s.streaming) (modifySession fun s => s.setStream .negotiating)
    sendCapabilitiesOnce session
    let s ← Owner.session
    when (s.videoAllowed ∧ s.lifecycle.runtime.stream = .negotiating)
      (modifySession fun s => s.beginStreaming session)
    let s ← Owner.session
    match previous.configRecovery config with
    | some reason => do
        when s.videoAllowed (enterDecoderRecovery reason (reason = .epochChanged))
        releasePendingStreamConfigIdr config.streamEpoch
    | none => releasePendingStreamConfigIdr config.streamEpoch

def handleStreamConfig (P : Platform) (session : SessionId) (config : StreamConfig) :
    Owner Unit := do
  match P.validatedVideoFormat config with
  | .error message => fail (.protocol message)
  | .ok format =>
      let s ← Owner.session
      match s.decoderReadiness with
      | .pending =>
          if s.keepsPendingConfiguration session config then pure ()
          else
            modifySession fun s => s.holdConfiguration session config
      | .unavailable error => fail (.decode error)
      | .ready capabilities =>
          match s.admittedBudget capabilities format config with
          | none => fail (.protocol "source format was not admitted by native decoder")
          | some budget => commitStreamConfig session config budget

def handleStartStream (session : SessionId) : Owner Unit := do
  let s ← Owner.session
  if s.videoAllowed then modifySession fun s => s.beginStreaming session
  else
    let _ ← attempt (sendControlPayload session (.sessionError
      { code := "UNPAIRED"
        message := "StartStream rejected until pairing completes" }))
    pure ()

/-- A StopStream in the middle of a pairing does not end it. -/
def handleStopStream (session : SessionId) : Owner Unit := do
  let s ← Owner.session
  if s.videoAllowed then applyEvent (.stopStream session.value) else pure ()

/-- The handler of a payload that the phase gate lets through. -/
def handlePayload (P : Platform) (session : SessionId) (phase : ReceiverControlPhase)
    (payload : ControlPayload) : Owner Unit :=
  match phase with
  | .pairing =>
      match payload with
      | .pairingCommit commit => handlePairingCommit P session commit
      | .pairingConfirm confirm => handlePairingConfirm P session confirm
      | .startStream => handleStartStream session
      | .stopStream => handleStopStream session
      | _ => fail (.panicked "receiver phase gate covers pairing payloads")
  | .awaitingClientHello =>
      match payload with
      | .clientHello hello => handleClientHello P session hello
      | _ => fail (.panicked "receiver phase gate requires ClientHello")
  | .authenticatedIdle | .streaming =>
      match payload with
      | .startStream => handleStartStream session
      | .stopStream => handleStopStream session
      | .senderStats _ => pure ()
      | .streamConfig config => handleStreamConfig P session config
      | .clockSyncPong => pure ()
      | _ => fail (.panicked "receiver phase gate covers authenticated payloads")

/-- The first payload of a connection is a ClientHello, whose generation is that of the
connection from then on. -/
def establishGeneration (control : ControlChannel) (envelope : ControlEnvelope) :
    Except ReceiverError ControlChannel :=
  match control.controlGeneration, envelope.payload with
  | some _, _ => .ok control
  | none, .clientHello _ =>
      .ok { control with controlGeneration := some envelope.connectionGeneration }
  | none, _ => .error (.protocol "ClientHello must be the first PCP control payload")

/-- All envelopes carry the generation of the connection, and message ids grow. -/
def checkEnvelope (control : ControlChannel) (envelope : ControlEnvelope) :
    Except ReceiverError Unit :=
  if control.controlGeneration ≠ some envelope.connectionGeneration then
    .error (.protocol "stale control connection_generation")
  else if envelope.messageId ≤ control.lastReceivedControlMessageId then
    .error (.protocol "duplicate or out-of-order control message_id")
  else .ok ()

/-- An envelope that was checked; its id counts also where the phase refuses the payload. -/
def dispatchEnvelope (P : Platform) (session : SessionId) (envelope : ControlEnvelope) :
    Owner Unit := do
  modifySession fun s => s.noteReceived envelope.messageId
  let s ← Owner.session
  if receiverPayloadAllowed s.controlPhase envelope.payload = false then
    fail (.protocol "control payload is not allowed in the current receiver phase")
  else if s.controlPhase.isAuthenticated ∧ s.videoAllowed = false then
    fail (.protocol "control payload requires an authenticated sender")
  else do
    note (.dispatched session envelope)
    handlePayload P session s.controlPhase envelope.payload

def handleEnvelope (P : Platform) (session : SessionId) (envelope : ControlEnvelope) :
    Owner Unit := do
  let s ← Owner.session
  match establishGeneration s.control envelope with
  | .error error => fail error
  | .ok control => do
      modifySession fun s => s.setControl control
      match checkEnvelope control envelope with
      | .error error => fail error
      | .ok () => dispatchEnvelope P session envelope

def handleControl (P : Platform) (session : SessionId) (message : ControlFrame) :
    Owner Unit := do
  let active ← activeSession
  if active ≠ some session then
    fail (.protocol "control event does not belong to the active transport session")
  else
    match decodeControlEnvelope message with
    | .error _ => fail (.protocol "invalid control envelope")
    | .ok envelope => do
        handleEnvelope P session envelope
        note (.handled session.value envelope.payload)

/-- `request_keyframe`, from the user. -/
def requestKeyframe : Owner Unit := do
  let s ← session
  if s.videoAllowed then forceDecoderRecoveryRequest .manualRepair
  else fail (.protocol "RequestKeyframe requires paired streaming session")

def sendCameraCommand (command : CameraCommand) : Owner Unit := do
  let active ← activeSession
  match active with
  | none => fail .notListening
  | some target =>
      let s ← session
      if s.videoAllowed then
        if command.command = .unspecified then fail (.protocol "CameraCommand unspecified")
        else sendControlPayload target (.cameraCommand command)
      else fail (.protocol "CameraCommand requires paired streaming session")

/-- Commit the configuration that waited for the decoder's capabilities. -/
def commitPendingConfiguration (P : Platform) (session : SessionId) : Owner Unit := do
  let s ← Owner.session
  match s.pendingDecoderConfiguration with
  | none => pure ()
  | some pending => do
      modifySession ReceiverSession.takeConfiguration
      if pending.session = session ∧ pending.controlGeneration = s.control.controlGeneration
      then do
        let outcome ← attempt (handleStreamConfig P session pending.config)
        match outcome with
        | .ok () => pure ()
        | .error error => do
            rejectControlSession session
            fail error
      else pure ()

def finishDecoderNegotiation (P : Platform) : Owner Unit := do
  let active ← activeSession
  match active with
  | none => pure ()
  | some session =>
      let s ← Owner.session
      if s.videoAllowed ∧ s.control.controlGeneration ≠ none then
        match s.decoderReadiness with
        | .pending => pure ()
        | .unavailable _ => applyEvent (.abortConnection session.value .decoderUnavailable)
        | .ready _ => do
            sendCapabilitiesOnce session
            commitPendingConfiguration P session
      else pure ()

end Owner

end PicooCamera.Receiver
