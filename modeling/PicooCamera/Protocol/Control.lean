import PicooCamera.Library.BigEndian
import PicooCamera.Protocol.MediaFormat

/-!
# PCP control messages

An envelope names the connection generation and carries an id that only grows.
`ControlFrame` is what the protobuf decoder makes of one frame of the reliable
stream: `none` where the bytes are no envelope.
-/

namespace PicooCamera.Protocol

open PicooCamera.Library

structure ClientHello where
  senderId : String
  deviceName : String
  publicKey : Bytes
  senderNonce : Bytes
  deriving DecidableEq, Repr

structure ServerHello where
  receiverId : String
  displayName : String
  publicKey : Bytes
  pairingRequired : Bool
  receiverNonce : Bytes
  transcriptHash : Bytes
  identitySignature : Bytes
  deriving DecidableEq, Repr

/-- The fields that `PairingConfirm`, `PairingApproval`, `PairingCommit` and
`PairingComplete` have in common. -/
structure PairingProof where
  transcriptHash : Bytes
  identitySignature : Bytes
  deriving DecidableEq, Repr

structure StreamConfig where
  codec : Nat
  profile : Nat
  levelIdc : Nat
  width : Nat
  height : Nat
  fps : Nat
  bitrate : Nat
  rotation : Nat
  mirrored : Bool
  colorRange : Nat
  codecConfiguration : Bytes
  streamEpoch : Nat
  deriving DecidableEq, Repr

inductive CameraCommandKind where
  | unspecified
  | switchFront
  | switchBack
  | setResolution
  | setMirror
  | switchCamera
  deriving DecidableEq, Repr

structure CameraCommand where
  command : CameraCommandKind
  resolution : Option Resolution
  mirrored : Bool
  deriving DecidableEq, Repr

/-- `video_queue_age_ms` is `none` where it is not finite or negative. -/
structure SenderStats where
  videoQueueAgeMs : Option Nat
  videoDroppedAccessUnits : Nat
  deriving DecidableEq, Repr

structure SessionError where
  code : String
  message : String
  deriving DecidableEq, Repr

inductive ControlPayload where
  | clientHello (hello : ClientHello)
  | serverHello (hello : ServerHello)
  | capabilities (capabilities : Capabilities)
  | pairingConfirm (proof : PairingProof)
  | pairingApproval (proof : PairingProof)
  | pairingCommit (proof : PairingProof)
  | pairingComplete (proof : PairingProof)
  | streamConfig (config : StreamConfig)
  | startStream
  | stopStream
  | cameraCommand (command : CameraCommand)
  /-- `EncoderCommand` with `RequestKeyframe`. -/
  | requestKeyframe
  | receiverStats
  | senderStats (stats : SenderStats)
  | heartbeat
  | clockSyncPing
  | clockSyncPong
  | sessionError (error : SessionError)
  deriving DecidableEq, Repr

structure RawControlEnvelope where
  messageId : Nat
  connectionGeneration : Nat
  payload : Option ControlPayload
  deriving DecidableEq, Repr

abbrev ControlFrame := Option RawControlEnvelope

structure ControlEnvelope where
  messageId : Nat
  connectionGeneration : Nat
  payload : ControlPayload
  messageId_pos : 0 < messageId
  connectionGeneration_pos : 0 < connectionGeneration
  deriving DecidableEq, Repr

inductive ControlEnvelopeError where
  | decode
  | missingMessageId
  | missingConnectionGeneration
  | missingPayload
  deriving DecidableEq, Repr

def decodeControlEnvelope (frame : ControlFrame) : Except ControlEnvelopeError ControlEnvelope :=
  match frame with
  | none => .error .decode
  | some raw =>
      if hid : raw.messageId = 0 then .error .missingMessageId
      else if hgen : raw.connectionGeneration = 0 then .error .missingConnectionGeneration
      else
        match raw.payload with
        | none => .error .missingPayload
        | some payload =>
            .ok ⟨raw.messageId, raw.connectionGeneration, payload,
              Nat.pos_of_ne_zero hid, Nat.pos_of_ne_zero hgen⟩

def encodeControlEnvelope (payload : ControlPayload) (messageId connectionGeneration : Nat) :
    ControlFrame :=
  some ⟨messageId, connectionGeneration, some payload⟩

/-! ## The phase gate of the Receiver -/

inductive ReceiverControlPhase where
  | awaitingClientHello
  | pairing
  | authenticatedIdle
  | streaming
  deriving DecidableEq, Repr

/-- The phases of a connection whose handshake is over. -/
def ReceiverControlPhase.isAuthenticated (phase : ReceiverControlPhase) : Bool :=
  phase = .authenticatedIdle ∨ phase = .streaming

def receiverPayloadAllowed (phase : ReceiverControlPhase) (payload : ControlPayload) : Bool :=
  match phase, payload with
  | .awaitingClientHello, .clientHello _ => true
  | .pairing, .pairingCommit _ => true
  | .pairing, .pairingConfirm _ => true
  | .pairing, .startStream => true
  | .pairing, .stopStream => true
  | .authenticatedIdle, .startStream => true
  | .authenticatedIdle, .stopStream => true
  | .authenticatedIdle, .senderStats _ => true
  | .authenticatedIdle, .streamConfig _ => true
  | .streaming, .startStream => true
  | .streaming, .stopStream => true
  | .streaming, .senderStats _ => true
  | .streaming, .streamConfig _ => true
  | .streaming, .clockSyncPong => true
  | _, _ => false

end PicooCamera.Protocol
