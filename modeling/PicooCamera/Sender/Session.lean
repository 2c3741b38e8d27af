import PicooCamera.Library.Program
import PicooCamera.Pairing.TrustedDeviceStore
import PicooCamera.Sender.EncoderTransaction
import PicooCamera.Sender.Packetizer
import PicooCamera.Sender.Reducer
import PicooCamera.Transport.ListenerWorker

/-!
# The Sender session and its surroundings

`SenderSession` has the fields of the source; those about the native encoder are
a record of their own. The transport is a parameter of the source: whatever the
session asks of it, of the clock, of the disk and of the random source, the next
of the `answers` tells.
-/

namespace PicooCamera.Sender

open PicooCamera.Library PicooCamera.Protocol PicooCamera.Packet PicooCamera.Session
open PicooCamera.Pairing PicooCamera.Transport

def initialStreamEpoch : Nat := 1

/-- `i32::MAX`. -/
def maxStreamEpoch : Nat := 2 ^ 31 - 1

def isSupportedHeight (height : Nat) : Bool := height = 720 ∨ height = 1080

/-- `SenderError`, the errors of the packetizer being one of its cases. -/
inductive SessionFault where
  | packetizer (error : SenderError)
  | notConnected
  | mediaNotReady
  | transport (error : TransportError)
  | protocol (message : String)
  | codecConfiguration (error : BitstreamError)
  | store (error : StoreError)
  | streamConfigPending (streamEpoch : Nat)
  | streamConfigHeightMismatch (expected got : Nat)
  | staleEncoderFact
  | encoderRefreshPending
  deriving DecidableEq, Repr

/-! ## The session -/

structure Endpoint where
  host : String
  port : Nat
  deriving DecidableEq, Repr

structure SenderPairing where
  receiverId : String
  displayName : String
  publicKey : Bytes
  transcriptHash : Bytes
  shortCode : String
  pairingRequired : Bool
  confirmSent : Bool
  trustCommitted : Bool
  deriving DecidableEq, Repr

/-- What the session knows of the native encoder and of its stream configuration. -/
structure EncoderState where
  pendingStreamConfig : Option StreamConfigParams
  streamConfigSent : Bool
  applyState : EncoderApplyState
  nextEncoderDirectiveId : Nat
  currentStreamEpoch : Nat
  lastAllocatedStreamEpoch : Nat
  /-- Zero until the first encoder output is bound. -/
  committedEncoderHeight : Nat
  committedSourceFormat : Option SourceFormat
  /-- Zero until the first encoder starts. -/
  committedEncoderGeneration : Nat
  mediaBlockedForStreamConfig : Bool
  deriving DecidableEq, Repr

def EncoderState.new : EncoderState where
  pendingStreamConfig := none
  streamConfigSent := false
  applyState := .committed
  nextEncoderDirectiveId := 1
  currentStreamEpoch := initialStreamEpoch
  lastAllocatedStreamEpoch := initialStreamEpoch
  committedEncoderHeight := 0
  committedSourceFormat := none
  committedEncoderGeneration := 0
  mediaBlockedForStreamConfig := false

/-- What a rollback has to restore. -/
structure EncoderSnapshot where
  streamConfig : Option StreamConfigParams
  streamConfigSent : Bool
  encoderGeneration : Nat
  streamEpoch : Nat
  deriving DecidableEq, Repr

def EncoderState.snapshot (e : EncoderState) : EncoderSnapshot where
  streamConfig := e.pendingStreamConfig
  streamConfigSent := e.streamConfigSent
  encoderGeneration := e.committedEncoderGeneration
  streamEpoch := e.currentStreamEpoch

structure SenderSession where
  pipeline : SenderPipeline
  identity : DeviceIdentity
  pairing : Option SenderPairing
  helloRequested : Bool
  senderNonce : Option Bytes
  trusted : TrustedDeviceStore
  hasTrustedStorePath : Bool
  lifecycle : SenderReducerState
  lastEndpoint : Option Endpoint
  reconnectAttempt : Nat
  reconnectAfter : Option Instant
  receiverCapabilities : Option Capabilities
  keyframeRequested : Bool
  encoder : EncoderState
  pendingCameraCommand : Option CameraCommand
  lastSessionError : Option String
  nextControlMessageId : Nat
  lastReceivedControlMessageId : Nat

namespace SenderSession

def new (identity : DeviceIdentity) (trusted : TrustedDeviceStore) (hasTrustedStorePath : Bool) :
    SenderSession where
  pipeline := SenderPipeline.default
  identity := identity
  pairing := none
  helloRequested := false
  senderNonce := none
  trusted := trusted
  hasTrustedStorePath := hasTrustedStorePath
  lifecycle := SenderReducerState.default
  lastEndpoint := none
  reconnectAttempt := 0
  reconnectAfter := none
  receiverCapabilities := none
  keyframeRequested := false
  encoder := EncoderState.new
  pendingCameraCommand := none
  lastSessionError := none
  nextControlMessageId := 1
  lastReceivedControlMessageId := 0

def activeSession (s : SenderSession) : Option SessionId :=
  s.lifecycle.activeGeneration.map SessionId.mk

def streaming (s : SenderSession) : Bool := s.lifecycle.runtime.stream.isStreaming

def status (s : SenderSession) : SenderStatus := s.lifecycle.runtime.senderStatus

def setTrust (s : SenderSession) (trust : TrustState) : SenderSession :=
  { s with lifecycle.runtime.trust := trust }

def setStream (s : SenderSession) (stream : StreamState) : SenderSession :=
  { s with lifecycle.runtime.stream := stream }

def setOutput (s : SenderSession) (output : OutputState) : SenderSession :=
  { s with lifecycle.runtime.output := output }

def setHealth (s : SenderSession) (health : HealthState) : SenderSession :=
  { s with lifecycle.runtime.health := health }

def setPipeline (s : SenderSession) (pipeline : SenderPipeline) : SenderSession :=
  { s with pipeline := pipeline }

/-- `clear_pending_packets`. -/
def clearPendingPackets (s : SenderSession) : SenderSession :=
  { s with pipeline.pending := [] }

def setEncoder (s : SenderSession) (encoder : EncoderState) : SenderSession :=
  { s with encoder := encoder }

def setTrusted (s : SenderSession) (trusted : TrustedDeviceStore) : SenderSession :=
  { s with trusted := trusted }

def setError (s : SenderSession) (code : String) : SenderSession :=
  { s with lastSessionError := some code }

def clearError (s : SenderSession) : SenderSession := { s with lastSessionError := none }

def requestKeyframe (s : SenderSession) : SenderSession := { s with keyframeRequested := true }

def endKeyframeRequest (s : SenderSession) : SenderSession := { s with keyframeRequested := false }

def countControlMessage (s : SenderSession) : SenderSession :=
  { s with nextControlMessageId := saturatingAdd s.nextControlMessageId 1 }

end SenderSession

/-! ## Programs of the session -/

/-- The native facts that an access unit was encoded under. -/
structure EncodedFacts where
  transactionId : Nat
  encoderGeneration : Nat
  streamEpoch : Nat
  height : Nat
  isKeyframe : Bool
  deriving DecidableEq, Repr

/-- What the session did, as far as the properties of its runs speak about it. -/
inductive SenderMark where
  /-- The transport was asked for a connection. -/
  | asked (endpoint : Endpoint) (outcome : Except TransportError SessionId)
  /-- An event of the transport was taken. -/
  | polled (event : TransportEvent)
  /-- A connection generation was adopted. -/
  | connected (generation : Nat)
  /-- A connection generation was closed from this side. -/
  | closed (generation : Nat)
  /-- The payload of a control message was given to its handler. -/
  | dispatched (session : SessionId) (envelope : ControlEnvelope)
  /-- The transport took a control message. -/
  | controlSent (session : SessionId) (messageId : Nat) (payload : ControlPayload)
  | allocated (streamEpoch : Nat)
  /-- A transaction began; the snapshot is of the moment before. -/
  | began (directive : EncoderDirective) (before : EncoderSnapshot)
  /-- The native encoder was started for the transaction. -/
  | started (encoderGeneration : Nat)
  /-- A transaction ended without a commit; the snapshot is of the moment after. -/
  | rolledBack (directive : EncoderDirective) (after : EncoderSnapshot)
  /-- The first encoder was bound, outside any transaction. -/
  | bound (encoderGeneration height : Nat)
  /-- The first source format was committed, outside any transaction. -/
  | observed (format : SourceFormat)
  /-- A transaction ended with the keyframe of these facts. -/
  | committed (directive : EncoderDirective) (facts : EncodedFacts)
  /-- An access unit became a batch of the pending queue. -/
  | admitted (facts : EncodedFacts) (batch : VideoDatagramBatch)
  /-- The transport took the batch of an access unit. -/
  | mediaSent (session : SessionId) (batch : VideoDatagramBatch)
  deriving DecidableEq

/-- The answers of the surroundings to one look of the session. -/
structure Answers where
  /-- `poll_event`. -/
  event : Option TransportEvent
  connect : Except TransportError SessionId
  sendControl : Except TransportError Unit
  sendVideoBatch : Except TransportError Unit
  channelBinding : Except TransportError Bytes
  /-- The time since the last look. -/
  elapsed : Duration
  nonce : Except String Bytes
  /-- What the file system answers to the next replacement of the trust file. -/
  disk : Except StoreError Unit
  wallClockMs : Nat
  /-- What the loss before FEC asks for; it depends on floating-point statistics. -/
  deltaProtection : FecProtection
  /-- What the loss of a ReceiverStats makes of the health of the network. -/
  networkHealth : Option HealthState
  /-- The SenderStats that are due. -/
  senderStats : Option Protocol.SenderStats
  /-- Whether the media clock can answer a ClockSyncPing. -/
  answersClockSync : Bool

/-- Nothing happens. -/
def Answers.quiet : Answers where
  event := none
  connect := .error .notConnected
  sendControl := .ok ()
  sendVideoBatch := .ok ()
  channelBinding := .error .channelBindingUnavailable
  elapsed := 0
  nonce := .error "no entropy"
  disk := .ok ()
  wallClockMs := 0
  deltaProtection := .none
  networkHealth := none
  senderStats := none
  answersClockSync := false

structure SenderState where
  session : SenderSession
  now : Instant
  /-- The answers to the session's next looks at its surroundings. -/
  answers : List Answers
  trace : List SenderMark

abbrev Core := Program SenderState SessionFault

/-- The third-party code that the session calls. -/
structure SenderPlatform where
  crypto : Cryptography
  codecs : Codecs
  bitstream : Bitstream

namespace SenderState

def answer (s : SenderState) : Answers := s.answers.headD Answers.quiet

/-- The surroundings move on to their next answers. -/
def turn (s : SenderState) : SenderState :=
  { s with now := s.now + s.answer.elapsed, answers := s.answers.tail }

end SenderState

namespace Core

open Program

def session : Core SenderSession := read SenderState.session

def modifySession (f : SenderSession → SenderSession) : Core Unit :=
  update fun s => { s with session := f s.session }

def modifyEncoder (f : EncoderState → EncoderState) : Core Unit :=
  modifySession fun s => s.setEncoder (f s.encoder)

def note (mark : SenderMark) : Core Unit := update fun s => { s with trace := s.trace ++ [mark] }

/-- One look at the surroundings. -/
def look {α : Type} (f : Answers → α) : Core α := do
  let answer ← read fun s => f s.answer
  update SenderState.turn
  pure answer

def instantNow : Core Instant := do
  update SenderState.turn
  read SenderState.now

def setError (code : String) : Core Unit := modifySession fun s => s.setError code

/-- `active_session().ok_or(NotConnected)`. -/
def requireSession : Core SessionId := do
  let s ← session
  match s.activeSession with
  | none => fail .notConnected
  | some session => pure session

def sendControlPayload (session : SessionId) (payload : ControlPayload) : Core Unit := do
  let s ← Core.session
  modifySession SenderSession.countControlMessage
  let answer ← look Answers.sendControl
  match answer with
  | .ok () => note (.controlSent session s.nextControlMessageId payload)
  | .error error => fail (.transport error)

end Core

end PicooCamera.Sender
