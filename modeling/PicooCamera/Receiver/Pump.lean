import PicooCamera.Receiver.Control

/-!
# The turn of the owner and the commands of the user

`pump` takes the events of the decoder and of the transport, drains what is due
and sends what is due. Between its steps the world moves on.
-/

namespace PicooCamera.Receiver

open PicooCamera.Library PicooCamera.Protocol PicooCamera.Packet PicooCamera.Session
open PicooCamera.Pairing PicooCamera.Transport

def maxTransportEventsPerPump : Nat := 64

def transportBudget : Duration := 2000

namespace Owner

open Program

/-! ## Transport events -/

/-- A connection that has ended in the meantime is not adopted. -/
def handleConnected (session : SessionId) : Owner Unit := do
  let active ← activeSession
  if active = some session then applyEvent (.transportConnected session.value) else pure ()

/-- The end of a connection is ignored while the transport has another one. -/
def handleDisconnected (session : SessionId) : Owner Unit := do
  let active ← activeSession
  if active = none then do
    let s ← Owner.session
    applyEvent (.transportDisconnected session.value s.retainsFrame)
  else pure ()

def acceptControl (P : Platform) (session : SessionId) (message : ControlFrame) :
    Owner Unit := do
  let outcome ← attempt (handleControl P session message)
  match outcome with
  | .ok () => pure ()
  | .error error => do
      rejectControlSession session
      fail error

def receiveControl (P : Platform) (session : SessionId) (message : ControlFrame) :
    Owner Unit := do
  let effects ← applyReceiverEvent (.controlReceived session.value)
  when (.acceptControl ∈ effects) (acceptControl P session message)

/-- A batch that waited longer than the media deadline is given up as a whole. -/
def acceptVideo (P : Platform) (session : SessionId) (receivedAt : Instant)
    (packets : List VideoPacket) : Owner Unit := do
  let now ← instantNow
  let deadline ← look World.mediaDeadline
  if deadline ≤ now - receivedAt then discardStaleVideoBatch packets
  else ingestVideoPackets P session.value receivedAt packets
  drainJitter

def receiveVideo (P : Platform) (session : SessionId) (receivedAt : Instant)
    (packets : List VideoPacket) : Owner Unit := do
  let effects ← applyReceiverEvent (.videoReceived session.value)
  when (.acceptVideo ∈ effects) (acceptVideo P session receivedAt packets)

def handleTransportEvent (P : Platform) : TransportEvent → Owner Unit
  | .connected session => handleConnected session
  | .disconnected session _ => handleDisconnected session
  | .controlMessage session message => receiveControl P session message
  | .videoPackets session receivedAt packets => receiveVideo P session receivedAt packets

def takeTransportEvent : Owner (Option TransportEvent) := do
  let event ← look fun w => w.worker.pollEvent.1
  update fun o => { o with world.worker := o.world.worker.pollEvent.2 }
  pure event

/-- One turn of the transport loop of `pump`; whether there was an event. -/
def pollTransportEvent (P : Platform) : Owner Bool := do
  let event ← takeTransportEvent
  match event with
  | none => pure false
  | some event => do
      handleTransportEvent P event
      pure true

/-! ## Reports -/

/-- `maybe_send_receiver_stats`, whose statistics decide alone when a report is due. -/
def sendReceiverStats : Owner Unit := do
  let s ← session
  if s.streaming then do
    let active ← activeSession
    match active with
    | none => fail .notListening
    | some session => sendControlPayload session .receiverStats
  else pure ()

/-- `maybe_send_clock_sync`, at a time that the clock mapper chooses. -/
def sendClockSync : Owner Unit := do
  let s ← session
  if s.videoAllowed ∧ s.streaming then do
    let active ← activeSession
    match active with
    | none => pure ()
    | some session => sendControlPayload session .clockSyncPing
  else pure ()

/-! ## The turn -/

def drainDecoderLoop : Nat → Owner Unit
  | 0 => pure ()
  | fuel + 1 => do
      let polled ← pollDecoderEvent
      if polled then drainDecoderLoop fuel else pure ()

/-- Each turn takes one event, and the scheduled steps of the decoder thread send at most
one each. -/
def drainDecoderEvents (P : Platform) : Owner Unit := do
  let fuel ← read fun o =>
    o.world.decoder.events.length + (o.schedule.map List.length).sum + 1
  drainDecoderLoop fuel
  finishDecoderNegotiation P

def pumpTransport (P : Platform) (startedAt : Instant) : Nat → Owner Unit
  | 0 => pure ()
  | fuel + 1 => do
      let now ← instantNow
      if now - startedAt < transportBudget then do
        let polled ← pollTransportEvent P
        if polled then pumpTransport P startedAt fuel else pure ()
      else pure ()

/-- `receiverStatsDue` and `clockSyncDue` stand for the timers of the two reports. -/
def pump (P : Platform) (receiverStatsDue clockSyncDue : Bool) : Owner Unit := do
  drainDecoderEvents P
  expirePendingPairingIfNeeded
  expireReassemblyDeadline
  let startedAt ← instantNow
  pumpTransport P startedAt maxTransportEventsPerPump
  expireReassemblyDeadline
  drainJitter
  drainDecoderEvents P
  maybeRequestRecoveryKeyframe
  maybeFinalizeDisconnectHold
  when receiverStatsDue sendReceiverStats
  when clockSyncDue sendClockSync

/-! ## The user's commands -/

def listen : Owner Unit := applyEvent .listenerStarted

def publishWaitingPlaceholder : Owner Unit :=
  modifySession fun s => s.pushFrame none

/-- The Sender is told of a stop by the user, which is no network failure. -/
def announceClose : Owner Unit := do
  let active ← activeSession
  match active with
  | none => pure ()
  | some session => do
      let s ← Owner.session
      when s.videoAllowed (do
        let _ ← attempt (sendControlPayload session .stopStream)
        pure ())

def close : Owner Unit := do
  announceClose
  applyEvent .userClose

/-- `ReceiverRuntime::disconnect`. -/
def disconnect : Owner Unit := do
  close
  publishWaitingPlaceholder

/-- The command that clears the trust store also ends the connection. -/
def clearTrustedDevicesAndDisconnect (P : Platform) : Owner Unit := do
  let _ ← clearTrustedDevices P
  disconnect

end Owner

namespace ReceiverSession

def setAdvertisedMaxHeight (s : ReceiverSession) (height : Nat) : ReceiverSession :=
  { s with advertisedMaxHeight := if height ≤ 720 then 720 else 1080 }

def setDisplayName (s : ReceiverSession) (name : String) : ReceiverSession :=
  { s with identity.deviceName := name }

def setAutoAcceptPaired (s : ReceiverSession) (enabled : Bool) : ReceiverSession :=
  { s with autoAcceptPaired := enabled }

def setOutput (s : ReceiverSession) (output : OutputState) : ReceiverSession :=
  { s with lifecycle.runtime.output := output }

def markVirtualCameraUnavailable (s : ReceiverSession) : ReceiverSession :=
  if s.lifecycle.runtime.output ≠ .permissionRequired then
    s.setOutput .virtualCameraUnavailable
  else s

def clearVirtualCameraUnavailable (s : ReceiverSession) : ReceiverSession :=
  if s.lifecycle.runtime.output = .virtualCameraUnavailable then s.setOutput .ready else s

def markPermissionRequired (s : ReceiverSession) : ReceiverSession :=
  s.setOutput .permissionRequired

end ReceiverSession

end PicooCamera.Receiver
