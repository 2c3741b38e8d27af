import PicooCamera.Receiver.HandshakeAdmission
import PicooCamera.Receiver.PublishedPictures
import PicooCamera.Sender.EpochAgreement
import PicooCamera.Sender.HandshakeAdmission

/-!
# The trust commits of a handshake

The Sender commits first, and the Receiver once the Sender has. The handlers of
ClientHello and of ServerHello admit any name; the stores do not.
-/

namespace PicooCamera.Session

open PicooCamera.Library PicooCamera.Packet PicooCamera.Pairing PicooCamera.Transport
open TrustedDeviceStore
open PicooCamera.Receiver (Platform OwnerState ActiveSender PendingPairing RevisionLeft)
open PicooCamera.Sender (SenderPlatform SenderState SenderPairing Named)

variable {P : Platform} {Q : SenderPlatform} {codec codec' : TrustCodec}

/-- Both sides store each other for good if and only if neither name is in the way. -/
theorem commit_admission_iff {o : OwnerState} {sender : ActiveSender} {pending : PendingPairing}
    {s : SenderState} {pairing : SenderPairing}
    (hsha : ∀ bytes, (P.crypto.sha256 bytes).length = 32)
    (hreached : (Receiver.handshakeSystem P codec).Reachable o)
    (hcommit : Receiver.AtCommit o sender pending) (hvalid : Valid P.crypto o.session.trusted)
    (hdisk : Receiver.WorkingDisk o)
    (hreached' : (Sender.handshakeSystem Q codec').Reachable s)
    (hcommit' : Sender.AtCommit s pairing) (hvalid' : Valid Q.crypto s.session.trusted)
    (hdisk' : Sender.WorkingDisk s) :
    (Persists codec P.crypto
        (Receiver.Owner.run (Receiver.Owner.advancePairing P) o).session.trusted
        (Receiver.deviceOf P sender o.turn.world.wallClockMs) ↔
      ¬Blank sender.deviceName ∧ RevisionLeft P.crypto o.session.trusted sender) ∧
    (Persists codec' Q.crypto
        (Sender.Core.run (Sender.Core.acceptPairingApproval Q) s).session.trusted
        (Sender.deviceOf Q s.session pairing s.answer.wallClockMs) ↔
      Named s.session pairing) :=
  ⟨Receiver.Owner.receiver_admission_iff hsha hreached hcommit hvalid hdisk,
    Sender.Core.sender_admission_iff hreached' hcommit' hvalid' hdisk'⟩

/-! ## A Sender whose name is blank -/

/-- A codec whose texts are the values. -/
def plainCodec : TrustCodec where
  Text := PersistedTrustedDevices
  encode devices := devices
  decode devices := Except.ok devices
  decode_encode _ := rfl

/-- The Receiver's user has confirmed, and the commit of a Sender of that name has come. -/
def committingReceiver (deviceName : String) : OwnerState :=
  let hello := { Receiver.sampleHello with deviceName := deviceName }
  let labels := Receiver.connecting ++ Receiver.preparingDecoder ++
    Receiver.receiving 1 (.clientHello hello) ++ [.command .confirmPairing] ++
    Receiver.receiving 2 (.pairingConfirm Receiver.sampleProof)
  Receiver.Owner.run (Receiver.Owner.takeCommit Receiver.samplePlatform ⟨1⟩ Receiver.sampleProof)
    (labels.foldl (Receiver.Owner.next Receiver.samplePlatform)
      (OwnerState.new Receiver.sampleIdentity TrustedDeviceStore.new true))

theorem reachable_committingReceiver (deviceName : String) :
    (Receiver.handshakeSystem Receiver.samplePlatform plainCodec).Reachable
      (committingReceiver deviceName) := by
  have hstart : (Receiver.handshakeSystem Receiver.samplePlatform plainCodec).Reachable
      (OwnerState.new Receiver.sampleIdentity TrustedDeviceStore.new true) :=
    TransitionSystem.Reachable.of_init ⟨_, _, _, .inl rfl, rfl⟩
  unfold committingReceiver
  dsimp only
  refine TransitionSystem.Reachable.step (a := .commit ⟨1⟩ Receiver.sampleProof) ?_ rfl
  generalize OwnerState.new Receiver.sampleIdentity TrustedDeviceStore.new true = o at hstart
  generalize Receiver.connecting ++ Receiver.preparingDecoder ++ _ ++ _ ++ _ = labels
  induction labels generalizing o with
  | nil => exact hstart
  | cons label labels ih => exact ih _ (hstart.step (a := .owner label) rfl)

def sampleSender (deviceName : String) : ActiveSender where
  senderId := Receiver.sampleHello.senderId
  deviceName := deviceName
  publicKey := Receiver.sampleHello.publicKey
  videoAllowed := false

def samplePending : PendingPairing where
  session := ⟨1⟩
  transcriptHash := Receiver.sampleDigest
  shortCode := "215045"
  pairingRequired := true
  localConfirmed := true
  remoteConfirmed := true
  approvalSent := true
  senderCommitted := true
  receiverCommitted := false
  expiresAt := 60000000

/-- The Sender's user has confirmed. -/
def approvedSender : SenderState :=
  let labels := Sender.connecting ++ Sender.receiving 1 (.serverHello Sender.sampleHello) ++
    [.sendPairingConfirm Sender.sampleHello.receiverId]
  labels.foldl (Sender.Core.next Sender.samplePlatform)
    (SenderState.new Sender.sampleIdentity TrustedDeviceStore.new true)

theorem reachable_approvedSender :
    (Sender.handshakeSystem Sender.samplePlatform plainCodec).Reachable approvedSender := by
  have hstart : (Sender.handshakeSystem Sender.samplePlatform plainCodec).Reachable
      (SenderState.new Sender.sampleIdentity TrustedDeviceStore.new true) :=
    TransitionSystem.Reachable.of_init ⟨_, _, _, .inl rfl, rfl⟩
  unfold approvedSender
  dsimp only
  generalize SenderState.new Sender.sampleIdentity TrustedDeviceStore.new true = s at hstart
  generalize Sender.connecting ++ _ ++ _ = labels
  induction labels generalizing s with
  | nil => exact hstart
  | cons label labels ih => exact ih _ (hstart.step (a := .session label) rfl)

def samplePairing : SenderPairing where
  receiverId := Sender.sampleHello.receiverId
  displayName := "Receiver"
  publicKey := Sender.sampleHello.publicKey
  transcriptHash := Sender.sampleDigest
  shortCode := "215045"
  pairingRequired := true
  confirmSent := true
  trustCommitted := false

theorem atCommit_approvedSender : Sender.AtCommit approvedSender samplePairing :=
  ⟨by decide +kernel, by decide +kernel, rfl, rfl⟩

theorem workingDisk_approvedSender : Sender.WorkingDisk approvedSender := by
  have hanswers : approvedSender.answers = [] := by decide +kernel
  have hrest : ∀ (n : Nat) (s : SenderState), s.answers = [] →
      (SenderState.turn^[n] s).answer.disk = .ok () := by
    intro n
    induction n with
    | zero =>
        intro s hnone
        rw [Function.iterate_zero, id_eq]
        unfold SenderState.answer
        rw [hnone]
        rfl
    | succ n ih =>
        intro s hnone
        refine ih s.turn ?_
        unfold SenderState.turn
        rw [hnone]
        rfl
  exact fun n => hrest n _ hanswers

theorem workingDisk_committingReceiver {deviceName : String}
    (hschedule : (committingReceiver deviceName).schedule = [])
    (hdisk : (committingReceiver deviceName).world.disk = .ok ()) :
    Receiver.WorkingDisk (committingReceiver deviceName) := by
  have hturn : (committingReceiver deviceName).turn = committingReceiver deviceName := by
    unfold OwnerState.turn
    rw [hschedule]
  intro n
  rw [Function.iterate_fixed hturn]
  exact hdisk

theorem valid_receiver {o : OwnerState} (h : (Receiver.handshakeSystem P codec).Reachable o)
    (haccepted : o.session.trusted.validate P.crypto = .ok ()) :
    Valid P.crypto o.session.trusted := by
  have hkeyed : Keyed o.session.trusted := (Receiver.admitted_of_reachable h).keyed
  exact (valid_iff hkeyed).mpr (validate_ok.mp haccepted)

theorem valid_approvedSender :
    Valid Sender.samplePlatform.crypto approvedSender.session.trusted := by
  have hkeyed : Keyed approvedSender.session.trusted :=
    (Sender.admitted_of_reachable reachable_approvedSender).keyed
  exact (valid_iff hkeyed).mpr (validate_ok.mp (by decide +kernel))

theorem atCommit_committingReceiver :
    Receiver.AtCommit (committingReceiver "Sender") (sampleSender "Sender") samplePending :=
  ⟨by decide +kernel, by decide +kernel, by decide, by decide⟩

theorem commit_admission_iff_named :
    (Persists plainCodec Receiver.samplePlatform.crypto (Receiver.Owner.run
          (Receiver.Owner.advancePairing Receiver.samplePlatform)
          (committingReceiver "Sender")).session.trusted
        (Receiver.deviceOf Receiver.samplePlatform (sampleSender "Sender")
          (committingReceiver "Sender").turn.world.wallClockMs) ↔
      ¬Blank "Sender" ∧ RevisionLeft Receiver.samplePlatform.crypto
        (committingReceiver "Sender").session.trusted (sampleSender "Sender")) ∧
    (Persists plainCodec Sender.samplePlatform.crypto
        (Sender.Core.run (Sender.Core.acceptPairingApproval Sender.samplePlatform)
          approvedSender).session.trusted
        (Sender.deviceOf Sender.samplePlatform approvedSender.session samplePairing
          approvedSender.answer.wallClockMs) ↔
      Named approvedSender.session samplePairing) :=
  commit_admission_iff (fun _ => rfl) (reachable_committingReceiver "Sender")
    atCommit_committingReceiver
    (valid_receiver (reachable_committingReceiver "Sender") (by decide +kernel))
    (workingDisk_committingReceiver (by decide +kernel) (by decide +kernel))
    reachable_approvedSender atCommit_approvedSender valid_approvedSender
    workingDisk_approvedSender

/-- The Sender trusts the Receiver, which refuses to trust it: its name is a space. -/
theorem commit_admission_fails :
    (Receiver.handshakeSystem Receiver.samplePlatform plainCodec).Reachable
        (committingReceiver " ") ∧
      Receiver.AtCommit (committingReceiver " ") (sampleSender " ") samplePending ∧
      Valid Receiver.samplePlatform.crypto (committingReceiver " ").session.trusted ∧
      Receiver.WorkingDisk (committingReceiver " ") ∧
      ¬Persists plainCodec Receiver.samplePlatform.crypto (Receiver.Owner.run
          (Receiver.Owner.advancePairing Receiver.samplePlatform)
          (committingReceiver " ")).session.trusted
        (Receiver.deviceOf Receiver.samplePlatform (sampleSender " ")
          (committingReceiver " ").turn.world.wallClockMs) ∧
      Persists plainCodec Sender.samplePlatform.crypto
        (Sender.Core.run (Sender.Core.acceptPairingApproval Sender.samplePlatform)
          approvedSender).session.trusted
        (Sender.deviceOf Sender.samplePlatform approvedSender.session samplePairing
          approvedSender.answer.wallClockMs) := by
  have hreached := reachable_committingReceiver " "
  have hcommit : Receiver.AtCommit (committingReceiver " ") (sampleSender " ") samplePending :=
    ⟨by decide +kernel, by decide +kernel, by decide, by decide⟩
  have hvalid := valid_receiver hreached (by decide +kernel)
  have hdisk : Receiver.WorkingDisk (committingReceiver " ") :=
    workingDisk_committingReceiver (by decide +kernel) (by decide +kernel)
  have hsha : ∀ bytes, (Receiver.samplePlatform.crypto.sha256 bytes).length = 32 := fun _ => rfl
  refine ⟨hreached, hcommit, hvalid, hdisk, fun hstored => ?_, ?_⟩
  · have hiff := Receiver.Owner.receiver_admission_iff hsha hreached hcommit hvalid
      hdisk
    have hblank : Blank (sampleSender " ").deviceName := by decide
    exact (hiff.mp hstored).1 hblank
  · have hiff := Sender.Core.sender_admission_iff reachable_approvedSender
      atCommit_approvedSender valid_approvedSender workingDisk_approvedSender
    have hname : ¬Blank samplePairing.displayName := by decide
    exact hiff.mpr (.inr (.inr hname))

end PicooCamera.Session
