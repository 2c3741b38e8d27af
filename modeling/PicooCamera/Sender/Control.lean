import PicooCamera.Sender.Pairing

/-!
# Control messages at the Sender

An envelope is for the active generation and its id is above the last one. What
the phase of the session does not allow ends the session.
-/

namespace PicooCamera.Sender

open PicooCamera.Library PicooCamera.Protocol PicooCamera.Session PicooCamera.Transport

namespace SenderSession

/-- The format that a reconfiguration asks for, or else that of the configuration at hand. -/
def requestedSourceFormat (s : SenderSession) : Option SourceFormat :=
  (s.encoder.applyState.directive.map EncoderDirective.targetFormat).or
    (s.encoder.pendingStreamConfig.map StreamConfigParams.sourceFormat)

def setCapabilities (s : SenderSession) (capabilities : Capabilities) : SenderSession :=
  { s with receiverCapabilities := some capabilities }

def setCameraCommand (s : SenderSession) (command : CameraCommand) : SenderSession :=
  { s with pendingCameraCommand := some command }

def takeCameraCommand (s : SenderSession) : SenderSession :=
  { s with pendingCameraCommand := none }

def noteReceived (s : SenderSession) (messageId : Nat) : SenderSession :=
  { s with lastReceivedControlMessageId := messageId }

def isAuthenticatedStreaming (s : SenderSession) : Bool :=
  s.streaming && s.lifecycle.runtime.trust = .authenticated && s.receiverIsAuthenticated

def controlPayloadAllowed (s : SenderSession) : ControlPayload → Bool
  | .serverHello _ =>
      s.lifecycle.runtime.connection.isConnected ∧
        s.lifecycle.runtime.stream = .negotiating ∧ s.lifecycle.runtime.trust = .unknown
  | .pairingApproval _ | .pairingComplete _ =>
      s.lifecycle.runtime.stream = .negotiating ∧
        (s.lifecycle.runtime.trust = .unknown ∨ s.lifecycle.runtime.trust = .pairing)
  | .capabilities _ | .receiverStats | .requestKeyframe | .cameraCommand _ | .clockSyncPing
  | .stopStream => s.isAuthenticatedStreaming
  | .sessionError _ => true
  | _ => false

end SenderSession

namespace Core

open Program

def handleReceiverStats : Core Unit := do
  let health ← look Answers.networkHealth
  let s ← session
  match health with
  | none => pure ()
  | some health => when s.streaming (modifySession fun s => s.setHealth health)

def noteMissingOffer (capabilities : Capabilities) : Core Unit := do
  let s ← session
  if ∃ format ∈ s.requestedSourceFormat, format.isOfferedBy capabilities = false then
    setError "NO_MATCHING_DECODER_OFFER"
  else clearMissingOffer

/-- Valid alternatives are kept also where the requested format is not among them. -/
def handleCapabilities (P : SenderPlatform) (capabilities : Capabilities) : Core Unit := do
  if capabilities.validate.isOk = false then setError "INVALID_DECODER_CAPABILITIES"
  else do
    noteMissingOffer capabilities
    modifySession fun s => s.setCapabilities capabilities
    let s ← session
    when (s.lifecycle.runtime.stream = .negotiating) (enterStreaming P)

def handleCameraCommand (command : CameraCommand) : Core Unit :=
  when (command.command ≠ .unspecified) (modifySession fun s => s.setCameraCommand command)

def handleClockSyncPing (session : SessionId) : Core Unit := do
  let answers ← look Answers.answersClockSync
  when answers do
    let _ ← attempt (sendControlPayload session .clockSyncPong)
    pure ()

def handlePayload (P : SenderPlatform) (session : SessionId) (payload : ControlPayload) :
    Core Unit :=
  match payload with
  | .pairingApproval proof => handlePairingApproval P session proof
  | .pairingComplete proof => handlePairingComplete P session proof
  | .receiverStats => handleReceiverStats
  | .requestKeyframe => modifySession SenderSession.requestKeyframe
  | .cameraCommand command => handleCameraCommand command
  | .capabilities capabilities => handleCapabilities P capabilities
  | .sessionError error => handleSessionError error
  | .serverHello hello => onServerHello P hello
  | .clockSyncPing => handleClockSyncPing session
  | .stopStream => applyEvent (.userDisconnect true)
  | _ => pure ()

def handleEnvelope (P : SenderPlatform) (session : SessionId) (envelope : ControlEnvelope) :
    Core Unit := do
  let s ← Core.session
  if envelope.connectionGeneration ≠ session.value ∨
      envelope.messageId ≤ s.lastReceivedControlMessageId then
    rejectAuthentication "STALE_CONTROL_ENVELOPE"
  else do
    modifySession fun s => s.noteReceived envelope.messageId
    if s.controlPayloadAllowed envelope.payload then do
      note (.dispatched session envelope)
      handlePayload P session envelope.payload
    else rejectAuthentication "CONTROL_PAYLOAD_NOT_ALLOWED"

def handleControl (P : SenderPlatform) (session : SessionId) (message : ControlFrame) :
    Core Unit := do
  let s ← Core.session
  if s.activeSession ≠ some session then pure ()
  else
    match decodeControlEnvelope message with
    | .error _ => rejectAuthentication "INVALID_CONTROL_ENVELOPE"
    | .ok envelope => handleEnvelope P session envelope

end Core

end PicooCamera.Sender
