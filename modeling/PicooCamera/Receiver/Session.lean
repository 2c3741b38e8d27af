import PicooCamera.Library.Program
import PicooCamera.Pairing.TrustedDeviceStore
import PicooCamera.Receiver.Recovery
import PicooCamera.Receiver.Reducer
import PicooCamera.Transport.ListenerWorker

/-!
# The Receiver owner and its surroundings

`ReceiverSession` has the fields of the source, grouped by the part of the code
that owns them. The owner shares the transport and the decoder with their
threads and asks the platform for the time, for random bytes and for the disk:
all of this is the `World`. Each look of the owner at the world is preceded by
whatever happens there in the meantime, which the `schedule` lists.
-/

namespace PicooCamera.Receiver

open PicooCamera.Library PicooCamera.Protocol PicooCamera.Packet PicooCamera.Session
open PicooCamera.Jitter PicooCamera.Pairing PicooCamera.Transport

/-! ## The world -/

structure World where
  worker : ListenerWorker
  decoder : DecoderWorker
  now : Instant
  wallClockMs : Nat
  /-- What the next request for 32 random bytes answers. -/
  entropy : Except String Bytes
  /-- What the file system answers to the next replacement of the trust file. -/
  disk : Except StoreError Unit
  /-- `media_deadline`, which depends on link statistics. -/
  mediaDeadline : Duration
  /-- The tokens of the submissions that the platform decoder was given so far. -/
  handed : List DecodeToken

inductive WorldStep where
  | worker (step : WorkerStep)
  | decoder (step : DecoderStep)
  | advance (elapsed : Duration)
  | setWallClock (ms : Nat)
  | setEntropy (answer : Except String Bytes)
  | setDisk (answer : Except StoreError Unit)
  | setMediaDeadline (deadline : Duration)

namespace World

def new : World where
  worker := ListenerWorker.new
  decoder := DecoderWorker.new
  now := 0
  wallClockMs := 0
  entropy := .error "no entropy yet"
  disk := .ok ()
  mediaDeadline := 0
  handed := []

def step (w : World) : WorldStep → World
  | .worker label => { w with worker := w.worker.step label }
  | .decoder label =>
      if label.honest w.handed then
        { w with
          decoder := w.decoder.step label
          handed := w.handed ++ w.decoder.handing label }
      else w
  | .advance elapsed => { w with now := w.now + elapsed }
  | .setWallClock ms => { w with wallClockMs := ms }
  | .setEntropy answer => { w with entropy := answer }
  | .setDisk answer => { w with disk := answer }
  | .setMediaDeadline deadline => { w with mediaDeadline := deadline }

def run (w : World) (steps : List WorldStep) : World := steps.foldl step w

end World

/-! ## The session -/

inductive ReceiverError where
  | protocol (message : String)
  | transport (error : TransportError)
  | notListening
  | decode (message : String)
  | store (error : StoreError)
  | staleTrustedIdentityReplacement
  /-- The source panics here. -/
  | panicked (message : String)
  deriving DecidableEq, Repr

structure ActiveSender where
  senderId : String
  deviceName : String
  publicKey : Bytes
  videoAllowed : Bool
  deriving DecidableEq, Repr

structure PendingPairing where
  session : SessionId
  transcriptHash : Bytes
  shortCode : String
  pairingRequired : Bool
  localConfirmed : Bool
  remoteConfirmed : Bool
  approvalSent : Bool
  senderCommitted : Bool
  receiverCommitted : Bool
  expiresAt : Instant
  deriving DecidableEq, Repr

inductive DecoderReadiness where
  | pending
  | ready (capabilities : Capabilities)
  | unavailable (error : String)
  deriving DecidableEq, Repr

structure PendingConfiguration where
  session : SessionId
  controlGeneration : Option Nat
  config : StreamConfig
  deriving DecidableEq, Repr

/-- The PCP envelope counters of one connection. -/
structure ControlChannel where
  controlGeneration : Option Nat
  nextControlMessageId : Nat
  lastReceivedControlMessageId : Nat
  deriving DecidableEq, Repr

def ControlChannel.new : ControlChannel := ⟨none, 1, 0⟩

structure MediaState where
  reassembly : ReassemblyMap
  jitter : JitterBuffer
  decoderRecovery : DecoderRecovery
  currentStreamConfig : Option StreamConfig
  admittedAccessUnitBudget : Option Nat
  waitingForStreamConfigEpoch : Option Nat
  pendingStreamConfigIdr : Option AssembledAccessUnit

namespace MediaState

def new : MediaState where
  reassembly := ReassemblyMap.new 8 maxVideoFragmentsPerAccessUnit
  jitter := JitterBuffer.new
  decoderRecovery := DecoderRecovery.new
  currentStreamConfig := none
  admittedAccessUnitBudget := none
  waitingForStreamConfigEpoch := none
  pendingStreamConfigIdr := none

/-- The media part of `reset_session_resources`: only a fixed playout target stays. -/
def reset (m : MediaState) : MediaState := { new with jitter := m.jitter.clear }

def streamEpoch (m : MediaState) : Option Nat := m.currentStreamConfig.map StreamConfig.streamEpoch

def setReassembly (m : MediaState) (reassembly : ReassemblyMap) : MediaState :=
  { m with reassembly := reassembly }

def setJitter (m : MediaState) (jitter : JitterBuffer) : MediaState :=
  { m with jitter := jitter }

def setRecovery (m : MediaState) (recovery : DecoderRecovery) : MediaState :=
  { m with decoderRecovery := recovery }

def noteRequest (m : MediaState) (now : Instant) : MediaState :=
  m.setRecovery (m.decoderRecovery.noteRequest now)

end MediaState

structure ReceiverSession where
  identity : DeviceIdentity
  trusted : TrustedDeviceStore
  hasTrustedStorePath : Bool
  activeSender : Option ActiveSender
  pendingPairing : Option PendingPairing
  lifecycle : ReceiverReducerState
  permitUnpairedVideo : Bool
  autoAcceptPaired : Bool
  advertisedMaxHeight : Nat
  media : MediaState
  configRevision : Nat
  receiverCapabilitiesSent : Bool
  decoderReadiness : DecoderReadiness
  pendingDecoderConfiguration : Option PendingConfiguration
  control : ControlChannel
  lastFrameHold : Duration
  placeholderAfter : Option Instant
  timingOrigin : Instant
  /-- The tokens of the pictures published so far; `none` is a placeholder. -/
  frames : List (Option DecodeToken)

namespace ReceiverSession

def new (identity : DeviceIdentity) (trusted : TrustedDeviceStore) (hasTrustedStorePath : Bool) :
    ReceiverSession where
  identity := identity
  trusted := trusted
  hasTrustedStorePath := hasTrustedStorePath
  activeSender := none
  pendingPairing := none
  lifecycle := ReceiverReducerState.default
  permitUnpairedVideo := false
  autoAcceptPaired := true
  advertisedMaxHeight := 1080
  media := MediaState.new
  configRevision := 0
  receiverCapabilitiesSent := false
  decoderReadiness := .pending
  pendingDecoderConfiguration := none
  control := ControlChannel.new
  lastFrameHold := 500000
  placeholderAfter := none
  timingOrigin := 0
  frames := []

def videoAllowed (s : ReceiverSession) : Bool :=
  s.permitUnpairedVideo ||
    match s.activeSender with
    | some sender => sender.videoAllowed
    | none => false

def streaming (s : ReceiverSession) : Bool := s.lifecycle.runtime.stream.isStreaming

def setTrust (s : ReceiverSession) (trust : TrustState) : ReceiverSession :=
  { s with lifecycle.runtime.trust := trust }

def setStream (s : ReceiverSession) (stream : StreamState) : ReceiverSession :=
  { s with lifecycle.runtime.stream := stream }

def awaitRefresh (s : ReceiverSession) : ReceiverSession :=
  s.setStream (.awaitingRefresh (s.media.streamEpoch.getD 0))

def resumeStreaming (s : ReceiverSession) : ReceiverSession :=
  s.setStream (.streaming (s.media.streamEpoch.getD 0))

def setMedia (s : ReceiverSession) (media : MediaState) : ReceiverSession :=
  { s with media := media }

def setTrusted (s : ReceiverSession) (trusted : TrustedDeviceStore) : ReceiverSession :=
  { s with trusted := trusted }

def setControl (s : ReceiverSession) (control : ControlChannel) : ReceiverSession :=
  { s with control := control }

def countControlMessage (s : ReceiverSession) : ReceiverSession :=
  { s with control.nextControlMessageId := saturatingAdd s.control.nextControlMessageId 1 }

def setPlaceholderAfter (s : ReceiverSession) (deadline : Instant) : ReceiverSession :=
  { s with placeholderAfter := some deadline }

def pushFrame (s : ReceiverSession) (frame : Option DecodeToken) : ReceiverSession :=
  { s with frames := s.frames ++ [frame] }

def beginStreaming (s : ReceiverSession) (session : SessionId) : ReceiverSession :=
  let connection :=
    match s.lifecycle.runtime.connection with
    | .connected generation => .connected generation
    | _ => .connected session.value
  { s with
    lifecycle.runtime.connection := connection
    lifecycle.runtime.trust := .authenticated
    lifecycle.runtime.stream := .streaming (s.media.streamEpoch.getD 0) }

end ReceiverSession

/-! ## The owner's programs -/

/-- What the owner did, as far as the properties of its runs speak about it. -/
inductive OwnerMark where
  /-- `close_active` closed `session` as an effect of `event`. -/
  | closed (event : ReceiverEvent) (session : SessionId)
  /-- The reducer adopted a connection generation. -/
  | adopted (generation : Nat)
  /-- The payload of a control message was given to its handler. -/
  | dispatched (session : SessionId) (envelope : ControlEnvelope)
  /-- A control message of an active generation was handled without an error. -/
  | handled (generation : Nat) (payload : ControlPayload)
  /-- A datagram of an active generation was given to the reassembly. -/
  | ingested (generation : Nat)
  /-- An access unit was queued for the decoder. -/
  | submitted (timeline : AccessUnitTimeline)
  /-- A StreamConfig was committed and got a revision. -/
  | committed (revision : Nat) (config : StreamConfig)
  /-- A picture was published, in the state given, by the completion of `completed`. -/
  | published (token : DecodeToken) (configuration : Option StreamConfig) (revision : Nat)
      (phase : DecoderRecoveryPhase) (completed : AccessUnitTimeline)
  /-- The user's approval was taken for the pending challenge of a sender. -/
  | approved (senderId : String) (transcriptHash : Bytes)
  /-- A sender was written to the trust store. -/
  | trusted (senderId : String)
  /-- A sender's video was permitted. -/
  | permitted (senderId : String)
  deriving DecidableEq

structure OwnerState where
  session : ReceiverSession
  world : World
  /-- What happens in the world before each of the owner's next looks at it. -/
  schedule : List (List WorldStep)
  trace : List OwnerMark

abbrev Owner := Program OwnerState ReceiverError

/-- The platform and the third-party code that the owner calls. -/
structure Platform where
  crypto : Cryptography
  codecs : Codecs
  /-- `StreamConfig::validated_video_format`, which parses the codec configuration. -/
  validatedVideoFormat : StreamConfig → Except MediaFormatError VideoFormat

namespace OwnerState

/-- The world moves on until the owner's next look at it. -/
def turn (o : OwnerState) : OwnerState :=
  match o.schedule with
  | [] => o
  | steps :: rest => { o with world := o.world.run steps, schedule := rest }

@[simp] theorem session_turn (o : OwnerState) : o.turn.session = o.session := by
  unfold turn
  cases o.schedule <;> rfl

@[simp] theorem trace_turn (o : OwnerState) : o.turn.trace = o.trace := by
  unfold turn
  cases o.schedule <;> rfl

end OwnerState

namespace Owner

open Program

def session : Owner ReceiverSession := read OwnerState.session

def modifySession (f : ReceiverSession → ReceiverSession) : Owner Unit :=
  update fun o => { o with session := f o.session }

def modifyMedia (f : MediaState → MediaState) : Owner Unit :=
  modifySession fun s => s.setMedia (f s.media)

def note (mark : OwnerMark) : Owner Unit := update fun o => { o with trace := o.trace ++ [mark] }

/-- One look at the world. -/
def look {α : Type} (f : World → α) : Owner α := do
  update OwnerState.turn
  read fun o => f o.world

def modifyWorld (f : World → World) : Owner Unit :=
  update fun o => { o with world := f o.turn.world, schedule := o.turn.schedule }

def instantNow : Owner Instant := look World.now

def activeSession : Owner (Option SessionId) := look fun w => w.worker.activeSession

/-- A queue operation on the worker, which answers at once. -/
def transport {α : Type} (f : ListenerWorker → Except TransportError α × ListenerWorker) :
    Owner α := do
  let answer ← look fun w => (f w.worker).1
  update fun o => { o with world.worker := (f o.world.worker).2 }
  match answer with
  | .ok value => pure value
  | .error error => fail (.transport error)

/-- The transport reads the active session and then queues the command. -/
def sendControl (session : SessionId) (message : ControlFrame) : Owner Unit := do
  let active ← activeSession
  if active = some session then
    transport fun w => w.command (.sendControl session message)
  else fail (.transport .notConnected)

def sendControlPayload (session : SessionId) (payload : ControlPayload) : Owner Unit := do
  let s ← Owner.session
  match s.control.controlGeneration with
  | none => fail (.protocol "control generation is not established")
  | some generation =>
      modifySession ReceiverSession.countControlMessage
      sendControl session
        (encodeControlEnvelope payload s.control.nextControlMessageId generation)

/-- `close_active` as an effect of `event`. -/
def closeActive (event : ReceiverEvent) (reason : CloseReason) : Owner Unit := do
  let active ← activeSession
  match active with
  | none => pure ()
  | some session =>
      note (.closed event session)
      let _ ← attempt (transport fun w => w.command (.close session reason))
      pure ()

def mediaConnectionGeneration : Owner Nat := do
  let s ← session
  match s.control.controlGeneration with
  | some generation => pure generation
  | none =>
      let active ← activeSession
      pure ((active.map SessionId.value).getD 0)

end Owner

end PicooCamera.Receiver
