import PicooCamera.Receiver.Session

/-!
# Applying lifecycle events

The reducer decides, the owner applies the effects in order. There is one
teardown, `resetSessionResources`.
-/

namespace PicooCamera.Receiver

open PicooCamera.Library PicooCamera.Packet PicooCamera.Transport

namespace ReceiverSession

def resetSessionResources (s : ReceiverSession) : ReceiverSession :=
  { s with
    activeSender := none
    pendingPairing := none
    media := s.media.reset
    receiverCapabilitiesSent := false
    pendingDecoderConfiguration := none
    control := ControlChannel.new }

def prepareConnection (s : ReceiverSession) : ReceiverSession :=
  { s with placeholderAfter := none, control := ControlChannel.new }

def applyEvent (s : ReceiverSession) (event : ReceiverEvent) : ReceiverSession :=
  { s with lifecycle := (reduce s.lifecycle event).1 }

def publishPlaceholder (s : ReceiverSession) : ReceiverSession :=
  { s with placeholderAfter := none }.pushFrame none

/-- `retain_frame`: a live picture is held for a while after the peer is gone. -/
def retainsFrame (s : ReceiverSession) : Bool :=
  s.streaming && s.frames ≠ [] && s.lastFrameHold ≠ 0

end ReceiverSession

def ReceiverCloseReason.toCloseReason : ReceiverCloseReason → CloseReason
  | .localClose => .localClose
  | .invalidControl => .error "invalid PCP control message"
  | .decoderUnavailable => .error "native decoder unavailable"
  | .pairingExpired => .error "pairing challenge expired"
  | .pairingRejected => .localClose
  | .publicKeyChanged => .localClose

namespace Owner

open Program

def resetDecoder : Owner Unit :=
  modifyWorld fun w => { w with decoder.queue := w.decoder.queue.reset }

def applyEffect (event : ReceiverEvent) : ReceiverEffect → Owner Unit
  | .prepareConnection => do
      modifySession ReceiverSession.prepareConnection
      note (.adopted (event.generation?.getD 0))
  | .resetSessionResources => do
      resetDecoder
      modifySession ReceiverSession.resetSessionResources
  | .closeActiveTransport reason => closeActive event reason.toCloseReason
  | .scheduleDisconnectHold => do
      let now ← instantNow
      modifySession fun s => s.setPlaceholderAfter (now + s.lastFrameHold)
  | .publishWaitingPlaceholder => modifySession ReceiverSession.publishPlaceholder
  | .publishReconnectingPlaceholder => modifySession ReceiverSession.publishPlaceholder
  | .acceptControl => pure ()
  | .acceptVideo => pure ()

def applyEffects (event : ReceiverEvent) : List ReceiverEffect → Owner Unit
  | [] => pure ()
  | effect :: rest => do
      applyEffect event effect
      applyEffects event rest

def applyReceiverEvent (event : ReceiverEvent) : Owner (List ReceiverEffect) := do
  let s ← session
  modifySession fun s => s.applyEvent event
  applyEffects event (reduce s.lifecycle event).2
  pure (reduce s.lifecycle event).2

/-- The event for its effects only, whatever it answers. -/
def applyEvent (event : ReceiverEvent) : Owner Unit := do
  let _ ← applyReceiverEvent event
  pure ()

def maybeFinalizeDisconnectHold : Owner Unit := do
  let s ← session
  match s.placeholderAfter with
  | none => pure ()
  | some deadline =>
      let now ← instantNow
      if now < deadline then pure () else applyEvent .disconnectHoldElapsed

def rejectControlSession (session : SessionId) : Owner Unit := do
  let _ ← attempt (applyReceiverEvent (.abortConnection session.value .invalidControl))
  pure ()

end Owner

end PicooCamera.Receiver
