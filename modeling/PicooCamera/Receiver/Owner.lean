import PicooCamera.Library.TransitionSystem
import PicooCamera.Receiver.Pump

/-!
# Runs of the owner

One step of the system is one part of `pump`, one command of the user, or a
step of the surroundings. The parts may follow each other in any order: the
order of `pump` is one of them, and an error that ends `pump` early is another.
-/

namespace PicooCamera.Receiver

open PicooCamera.Library PicooCamera.Protocol PicooCamera.Packet PicooCamera.Pairing

inductive OwnerCommand where
  | listen
  | disconnect
  | publishWaitingPlaceholder
  | requestKeyframe
  | sendCameraCommand (command : CameraCommand)
  | confirmPairing
  | rejectPairing
  | removeTrustedDevice (deviceId : String)
  | replaceTrustedIdentityHistory (revision : Nat)
  | dismissTrustedIdentityReplacement (revision : Nat)
  | clearTrustedDevices
  | setAutoAcceptPaired (enabled : Bool)
  | setDisplayName (name : String)
  | setAdvertisedMaxHeight (height : Nat)
  | markVirtualCameraUnavailable
  | clearVirtualCameraUnavailable
  | markPermissionRequired

inductive OwnerStep where
  /-- What will happen in the world before the owner's next looks at it. -/
  | schedule (steps : List (List WorldStep))
  /-- The world moves on until the owner's next look at it. -/
  | turn
  | pollDecoderEvent
  | finishDecoderNegotiation
  | expirePendingPairing
  | expireReassemblyDeadline
  | pollTransportEvent
  | drainJitter
  | requestRecoveryKeyframe
  | finalizeDisconnectHold
  | sendReceiverStats
  | sendClockSync
  | command (command : OwnerCommand)

namespace Owner

open Program

/-- The program for its effects; what it answers goes to the caller. -/
def run {α : Type} (p : Owner α) (o : OwnerState) : OwnerState := (exec p o).2

def runCommand (P : Platform) (o : OwnerState) : OwnerCommand → OwnerState
  | .listen => run listen o
  | .disconnect => run disconnect o
  | .publishWaitingPlaceholder => run publishWaitingPlaceholder o
  | .requestKeyframe => run requestKeyframe o
  | .sendCameraCommand command => run (sendCameraCommand command) o
  | .confirmPairing => run (confirmPairingLocally P) o
  | .rejectPairing => run rejectPairingLocally o
  | .removeTrustedDevice deviceId => run (removeTrustedDevice P deviceId) o
  | .replaceTrustedIdentityHistory revision => run (replaceTrustedIdentityHistory P revision) o
  | .dismissTrustedIdentityReplacement revision =>
      run (dismissTrustedIdentityReplacement P revision) o
  | .clearTrustedDevices => run (clearTrustedDevicesAndDisconnect P) o
  | .setAutoAcceptPaired enabled => run (modifySession fun s => s.setAutoAcceptPaired enabled) o
  | .setDisplayName name => run (modifySession fun s => s.setDisplayName name) o
  | .setAdvertisedMaxHeight height =>
      run (modifySession fun s => s.setAdvertisedMaxHeight height) o
  | .markVirtualCameraUnavailable =>
      run (modifySession ReceiverSession.markVirtualCameraUnavailable) o
  | .clearVirtualCameraUnavailable =>
      run (modifySession ReceiverSession.clearVirtualCameraUnavailable) o
  | .markPermissionRequired => run (modifySession ReceiverSession.markPermissionRequired) o

def next (P : Platform) (o : OwnerState) : OwnerStep → OwnerState
  | .schedule steps => { o with schedule := o.schedule ++ steps }
  | .turn => o.turn
  | .pollDecoderEvent => run pollDecoderEvent o
  | .finishDecoderNegotiation => run (finishDecoderNegotiation P) o
  | .expirePendingPairing => run expirePendingPairingIfNeeded o
  | .expireReassemblyDeadline => run expireReassemblyDeadline o
  | .pollTransportEvent => run (pollTransportEvent P) o
  | .drainJitter => run drainJitter o
  | .requestRecoveryKeyframe => run maybeRequestRecoveryKeyframe o
  | .finalizeDisconnectHold => run maybeFinalizeDisconnectHold o
  | .sendReceiverStats => run sendReceiverStats o
  | .sendClockSync => run sendClockSync o
  | .command command => runCommand P o command

end Owner

def OwnerState.new (identity : DeviceIdentity) (trusted : TrustedDeviceStore)
    (hasTrustedStorePath : Bool) : OwnerState where
  session := ReceiverSession.new identity trusted hasTrustedStorePath
  world := World.new
  schedule := []
  trace := []

def ownerSystem (P : Platform) : TransitionSystem OwnerState OwnerStep where
  init o := ∃ identity trusted hasPath, o = OwnerState.new identity trusted hasPath
  step o label o' := o' = Owner.next P o label

namespace Owner

open Program TransitionSystem

/-! ## `pump` is a run -/

def Steps (P : Platform) (o o' : OwnerState) : Prop :=
  ∃ labels, Run (ownerSystem P) o labels o'

instance (P : Platform) : Frame (Steps P) where
  refl _ := ⟨[], Run.nil⟩
  trans := by
    rintro o u v ⟨labels, hou⟩ ⟨more, huv⟩
    exact ⟨labels ++ more, hou.append huv⟩

theorem steps_of_next (P : Platform) (o : OwnerState) (label : OwnerStep) :
    Steps P o (next P o label) :=
  ⟨[] ++ [label], Run.snoc Run.nil rfl⟩

section Parts

variable {P : Platform}

instance {α : Type} (f : World → α) : Keeps (Steps P) (look f) := by
  have hturn : Keeps (Steps P) (update OwnerState.turn : Owner Unit) :=
    keeps_update fun o => steps_of_next P o .turn
  unfold look
  infer_instance

instance : Keeps (Steps P) pollDecoderEvent := ⟨fun o => steps_of_next P o .pollDecoderEvent⟩

instance : Keeps (Steps P) (finishDecoderNegotiation P) :=
  ⟨fun o => steps_of_next P o .finishDecoderNegotiation⟩

instance : Keeps (Steps P) expirePendingPairingIfNeeded :=
  ⟨fun o => steps_of_next P o .expirePendingPairing⟩

instance : Keeps (Steps P) expireReassemblyDeadline :=
  ⟨fun o => steps_of_next P o .expireReassemblyDeadline⟩

instance : Keeps (Steps P) (pollTransportEvent P) :=
  ⟨fun o => steps_of_next P o .pollTransportEvent⟩

instance : Keeps (Steps P) drainJitter := ⟨fun o => steps_of_next P o .drainJitter⟩

instance : Keeps (Steps P) maybeRequestRecoveryKeyframe :=
  ⟨fun o => steps_of_next P o .requestRecoveryKeyframe⟩

instance : Keeps (Steps P) maybeFinalizeDisconnectHold :=
  ⟨fun o => steps_of_next P o .finalizeDisconnectHold⟩

instance : Keeps (Steps P) sendReceiverStats := ⟨fun o => steps_of_next P o .sendReceiverStats⟩

instance : Keeps (Steps P) sendClockSync := ⟨fun o => steps_of_next P o .sendClockSync⟩

instance keeps_drainDecoderLoop (fuel : Nat) : Keeps (Steps P) (drainDecoderLoop fuel) := by
  induction fuel with
  | zero =>
      unfold drainDecoderLoop
      infer_instance
  | succ fuel ih =>
      unfold drainDecoderLoop
      infer_instance

instance : Keeps (Steps P) (drainDecoderEvents P) := by
  unfold drainDecoderEvents
  infer_instance

instance keeps_pumpTransport (startedAt : Instant) (fuel : Nat) :
    Keeps (Steps P) (pumpTransport P startedAt fuel) := by
  induction fuel with
  | zero =>
      unfold pumpTransport
      infer_instance
  | succ fuel ih =>
      unfold pumpTransport instantNow
      infer_instance

end Parts

theorem pump_run (P : Platform) (receiverStatsDue clockSyncDue : Bool) (o : OwnerState) :
    Steps P o (run (pump P receiverStatsDue clockSyncDue) o) := by
  have hpump : Keeps (Steps P) (pump P receiverStatsDue clockSyncDue) := by
    unfold pump instantNow
    refine keeps_then inferInstance fun _ => ?_
    refine keeps_then inferInstance fun _ => ?_
    refine keeps_then inferInstance fun _ => ?_
    refine keeps_then inferInstance fun startedAt => ?_
    refine keeps_then inferInstance fun _ => ?_
    refine keeps_then inferInstance fun _ => ?_
    refine keeps_then inferInstance fun _ => ?_
    refine keeps_then inferInstance fun _ => ?_
    infer_instance
  exact hpump.keeps o

end Owner

end PicooCamera.Receiver
