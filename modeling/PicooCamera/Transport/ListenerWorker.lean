import PicooCamera.Packet.ReassemblyFec
import PicooCamera.Protocol.Control

/-!
# The listener worker of the transport

One worker serves one connection at a time. It installs a session in the state
that it shares with the owner before it announces it, and clears the session
from that state before it announces its end. Between these steps the owner may
look at the shared state and take events from the queues.
-/

namespace PicooCamera.Transport

open PicooCamera.Library PicooCamera.Protocol PicooCamera.Packet

structure SessionId where
  value : Nat
  deriving DecidableEq, Repr

inductive CloseReason where
  | localClose
  | peerClose
  | timeout
  | error (message : String)
  deriving DecidableEq, Repr

inductive Command where
  | sendControl (session : SessionId) (message : ControlFrame)
  | close (session : SessionId) (reason : CloseReason)
  deriving DecidableEq, Repr

inductive TransportEvent where
  | connected (session : SessionId)
  | disconnected (session : SessionId) (reason : CloseReason)
  | controlMessage (session : SessionId) (message : ControlFrame)
  | videoPackets (session : SessionId) (receivedAt : Instant) (packets : List VideoPacket)
  deriving DecidableEq

inductive TransportError where
  | connectFailed (message : String)
  | networkBindingFailed (message : String)
  | notConnected
  /-- The bounded media queue is full: the access unit is dropped, the connection stays. -/
  | videoBackpressure
  | sendFailed
  | channelBindingUnavailable
  deriving DecidableEq, Repr

def commandCapacity : Nat := 64

def videoEventCapacity : Nat := 512

/-- Where the worker stands in `server_worker` and `run_connection`. -/
inductive WorkerPhase where
  | accepting
  | installing (session : SessionId) (channelBinding : Bytes)
  | announcing (session : SessionId)
  | serving (session : SessionId)
  | ending (session : SessionId) (reason : CloseReason)
  | leaving (session : SessionId) (reason : CloseReason)
  deriving DecidableEq, Repr

structure ListenerWorker where
  phase : WorkerPhase
  nextSession : Nat
  activeSession : Option SessionId
  channelBinding : Option Bytes
  commands : List Command
  criticalEvents : List TransportEvent
  videoEvents : List TransportEvent
  /-- The frames written to the control streams, the latest last. -/
  sentControl : List (SessionId × ControlFrame)

inductive WorkerStep where
  /-- A connection is accepted; `none` where its TLS exporter fails. -/
  | accept (channelBinding : Option Bytes)
  | refuse (message : String)
  | install
  | announce
  | takeCommand
  | receiveControl (message : ControlFrame)
  | receiveDatagrams (receivedAt : Instant) (packets : List VideoPacket)
  | finish (reason : CloseReason)
  | clear
  | announceEnd
  deriving DecidableEq

namespace ListenerWorker

def new : ListenerWorker where
  phase := .accepting
  nextSession := 1
  activeSession := none
  channelBinding := none
  commands := []
  criticalEvents := []
  videoEvents := []
  sentControl := []

def critical (w : ListenerWorker) (event : TransportEvent) : ListenerWorker :=
  { w with criticalEvents := w.criticalEvents ++ [event] }

/-- Video is lossy when the owner falls behind. -/
def videoEvent (w : ListenerWorker) (event : TransportEvent) : ListenerWorker :=
  if w.videoEvents.length < videoEventCapacity then
    { w with videoEvents := w.videoEvents ++ [event] }
  else w

/-- `run_connection` handles the commands of its own session only. -/
def handleCommand (w : ListenerWorker) (command : Command) : ListenerWorker :=
  match w.phase, command with
  | .serving session, .sendControl target message =>
      if target = session then { w with sentControl := w.sentControl ++ [(session, message)] }
      else w
  | .serving session, .close target reason =>
      if target = session then { w with phase := .ending session reason } else w
  | _, _ => w

def takeCommand (w : ListenerWorker) : ListenerWorker :=
  match w.phase, w.commands with
  | .accepting, _ :: rest => { w with commands := rest }
  | .serving _, command :: rest => { w with commands := rest }.handleCommand command
  | _, _ => w

/-- One step of the worker; a step that its phase does not allow changes nothing. -/
def step (w : ListenerWorker) (label : WorkerStep) : ListenerWorker :=
  match label, w.phase with
  | .accept (some channelBinding), .accepting =>
      { w with
        phase := .installing ⟨w.nextSession⟩ channelBinding
        nextSession := w.nextSession + 1 }
  | .accept none, .accepting =>
      { w with nextSession := w.nextSession + 1 }.critical
        (.disconnected ⟨w.nextSession⟩ (.error "TLS exporter channel binding failed"))
  | .refuse message, .accepting =>
      { w with nextSession := w.nextSession + 1 }.critical
        (.disconnected ⟨w.nextSession⟩ (.error message))
  | .install, .installing session channelBinding =>
      { w with
        phase := .announcing session
        activeSession := some session
        channelBinding := some channelBinding }
  | .announce, .announcing session =>
      { w with phase := .serving session }.critical (.connected session)
  | .takeCommand, _ => w.takeCommand
  | .receiveControl message, .serving session =>
      w.critical (.controlMessage session message)
  | .receiveDatagrams receivedAt packets, .serving session =>
      if packets = [] then w else w.videoEvent (.videoPackets session receivedAt packets)
  | .finish reason, .serving session => { w with phase := .ending session reason }
  | .clear, .ending session reason =>
      if w.activeSession = some session then
        { w with
          phase := .leaving session reason
          activeSession := none
          channelBinding := none }
      else { w with phase := .leaving session reason }
  | .announceEnd, .leaving session reason =>
      { w with phase := .accepting }.critical (.disconnected session reason)
  | _, _ => w

/-! ## The owner's side -/

/-- Control and lifecycle events first, video after them. -/
def pollEvent (w : ListenerWorker) : Option TransportEvent × ListenerWorker :=
  match w.criticalEvents, w.videoEvents with
  | event :: rest, _ => (some event, { w with criticalEvents := rest })
  | [], event :: rest => (some event, { w with videoEvents := rest })
  | [], [] => (none, w)

/-- `try_send` on the bounded command queue. -/
def command (w : ListenerWorker) (command : Command) :
    Except TransportError Unit × ListenerWorker :=
  if w.commands.length < commandCapacity then
    (.ok (), { w with commands := w.commands ++ [command] })
  else (.error .sendFailed, w)

def bindingOf (w : ListenerWorker) (session : SessionId) : Except TransportError Bytes :=
  match w.channelBinding with
  | some binding =>
      if w.activeSession = some session then .ok binding
      else .error .channelBindingUnavailable
  | none => .error .channelBindingUnavailable

end ListenerWorker

end PicooCamera.Transport
