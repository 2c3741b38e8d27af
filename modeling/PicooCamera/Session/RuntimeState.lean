import Mathlib

/-!
# Runtime state of a session

Connection, trust, stream, output and health are independent of each other.
`resetSession` ends a session without touching the output.
-/

namespace PicooCamera.Session

inductive ConnectionState where
  | idle
  | listening
  | connecting
  | connected (generation : Nat)
  | reconnecting (attempt : Nat)
  deriving DecidableEq, Repr

inductive TrustState where
  | unknown
  | pairing
  | authenticated
  | rejected
  deriving DecidableEq, Repr

inductive StreamState where
  | idle
  | negotiating
  | awaitingRefresh (generation : Nat)
  | streaming (generation : Nat)
  | stopping
  deriving DecidableEq, Repr

inductive OutputState where
  | ready
  | permissionRequired
  | virtualCameraUnavailable
  deriving DecidableEq, Repr

inductive HealthState where
  | healthy
  | networkDegraded
  deriving DecidableEq, Repr

inductive SenderStatus where
  | disconnected
  | discovering
  | pairing
  | connecting
  | negotiating
  | streaming
  | networkUnstable
  | reconnecting
  | permissionRequired
  deriving DecidableEq, Repr

def StreamState.isStreaming : StreamState → Bool
  | .streaming _ => true
  | .awaitingRefresh _ => true
  | _ => false

def ConnectionState.isAttempt : ConnectionState → Bool
  | .connecting => true
  | .reconnecting _ => true
  | _ => false

def ConnectionState.isConnected : ConnectionState → Bool
  | .connected _ => true
  | _ => false

structure SessionRuntimeState where
  connection : ConnectionState
  trust : TrustState
  stream : StreamState
  output : OutputState
  health : HealthState
  deriving DecidableEq, Repr

namespace SessionRuntimeState

def default : SessionRuntimeState where
  connection := .idle
  trust := .unknown
  stream := .idle
  output := .ready
  health := .healthy

def resetSession (state : SessionRuntimeState) (connection : ConnectionState) :
    SessionRuntimeState :=
  { state with
    connection := connection
    trust := .unknown
    stream := .idle
    health := .healthy }

def connectedSenderStatus (state : SessionRuntimeState) : SenderStatus :=
  if state.trust = .pairing then .pairing
  else if state.stream = .negotiating then .negotiating
  else if state.stream.isStreaming ∧ state.trust = .authenticated then
    if state.health = .networkDegraded then .networkUnstable else .streaming
  else .connecting

def senderStatus (state : SessionRuntimeState) : SenderStatus :=
  if state.output = .permissionRequired then .permissionRequired
  else
    match state.connection with
    | .idle => .disconnected
    | .listening => .discovering
    | .connecting => .connecting
    | .reconnecting _ => .reconnecting
    | .connected _ => state.connectedSenderStatus

/-- What a session writes to its runtime state beside its reducer: never the connection. -/
inductive Write where
  | setTrust (trust : TrustState)
  | setStream (stream : StreamState)
  | setOutput (output : OutputState)
  | setHealth (health : HealthState)
  deriving DecidableEq, Repr

def write (state : SessionRuntimeState) : Write → SessionRuntimeState
  | .setTrust trust => { state with trust := trust }
  | .setStream stream => { state with stream := stream }
  | .setOutput output => { state with output := output }
  | .setHealth health => { state with health := health }

@[simp] theorem connection_resetSession (state : SessionRuntimeState)
    (connection : ConnectionState) : (state.resetSession connection).connection = connection := rfl

@[simp] theorem output_resetSession (state : SessionRuntimeState) (connection : ConnectionState) :
    (state.resetSession connection).output = state.output := rfl

@[simp] theorem connection_default : default.connection = .idle := rfl

@[simp] theorem output_default : default.output = .ready := rfl

@[simp] theorem connection_write (state : SessionRuntimeState) (w : Write) :
    (state.write w).connection = state.connection := by
  cases w <;> rfl

end SessionRuntimeState

end PicooCamera.Session
