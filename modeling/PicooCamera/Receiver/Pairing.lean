import PicooCamera.Receiver.Media

/-!
# Pairing at the Receiver

ClientHello installs a challenge. The approval, of the user or of the trust
record, and the Sender's two proofs advance it; the Sender's identity becomes
trusted before its video is permitted.
-/

namespace PicooCamera.Receiver

open PicooCamera.Library PicooCamera.Protocol PicooCamera.Packet PicooCamera.Session
open PicooCamera.Pairing PicooCamera.Transport

/-- `picoo_protocol::ALPN`. -/
def alpn : String := "picoocam"

def pairingChallengeTtl : Duration := 60 * 1000000

namespace ReceiverSession

def updatePending (s : ReceiverSession) (f : PendingPairing → PendingPairing) :
    ReceiverSession :=
  { s with pendingPairing := s.pendingPairing.map f }

def confirmLocal (s : ReceiverSession) : ReceiverSession :=
  s.updatePending fun p => { p with localConfirmed := true }

def confirmRemote (s : ReceiverSession) : ReceiverSession :=
  s.updatePending fun p => { p with remoteConfirmed := true }

def noteApprovalSent (s : ReceiverSession) : ReceiverSession :=
  s.updatePending fun p => { p with approvalSent := true }

def commitSender (s : ReceiverSession) : ReceiverSession :=
  s.updatePending fun p => { p with senderCommitted := true }

def commitReceiver (s : ReceiverSession) : ReceiverSession :=
  s.updatePending fun p => { p with receiverCommitted := true }

def endPairing (s : ReceiverSession) : ReceiverSession := { s with pendingPairing := none }

def setActiveSender (s : ReceiverSession) (sender : ActiveSender) : ReceiverSession :=
  { s with activeSender := some sender }

/-- A known device id with another public key. -/
def publicKeyChanged (s : ReceiverSession) (hello : ClientHello) : Bool :=
  s.trusted.isPaired hello.senderId &&
    !(s.trusted.verifyPairedKey hello.senderId hello.publicKey).isOk

/-- A trusted Sender is accepted without the user, where the user allows it. -/
def autoAccepts (s : ReceiverSession) (hello : ClientHello) : Bool :=
  (s.trusted.verifyPairedKey hello.senderId hello.publicKey).isOk && s.autoAcceptPaired

def transcriptOf (s : ReceiverSession) (hello : ClientHello) (receiverNonce binding : Bytes)
    (connectionGeneration : Nat) : PairingTranscript where
  protocol := alpn
  senderId := hello.senderId
  senderPublicKey := hello.publicKey
  senderNonce := hello.senderNonce
  receiverId := s.identity.deviceId
  receiverPublicKey := s.identity.publicKey
  receiverNonce := receiverNonce
  channelBinding := binding
  connectionGeneration := connectionGeneration

/-- The challenge of an accepted ClientHello and the Sender it is for. -/
def installChallenge (s : ReceiverSession) (session : SessionId) (hello : ClientHello)
    (autoAccept : Bool) (transcriptHash : Bytes) (shortCode : String) (now : Instant) :
    ReceiverSession :=
  ({ s with
    pendingPairing := some
      { session := session
        transcriptHash := transcriptHash
        shortCode := if autoAccept then "" else shortCode
        pairingRequired := !autoAccept
        localConfirmed := autoAccept
        remoteConfirmed := false
        approvalSent := false
        senderCommitted := false
        receiverCommitted := false
        expiresAt := now + pairingChallengeTtl }
    activeSender := some
      { senderId := hello.senderId
        deviceName := hello.deviceName
        publicKey := hello.publicKey
        videoAllowed := false } }.setTrust
    (if autoAccept then .unknown else .pairing)).setStream .negotiating

/-- The end of an expired challenge at a PairingConfirm. -/
def dropExpiredChallenge (s : ReceiverSession) : ReceiverSession :=
  ({ s with pendingPairing := none }.setTrust .unknown).setStream .idle

/-- `prepare_trusted_identity_replacement`, on the store. -/
def prepareReplacement (crypto : Cryptography) (store : TrustedDeviceStore)
    (currentDeviceId : String) : TrustedDeviceStore :=
  let store := store.setIdentityReplacement none
  match store.get currentDeviceId with
  | none => store
  | some current =>
      let previous := (store.sameNameIdentityIds crypto currentDeviceId).filterMap fun id =>
        (store.get id).map fun device =>
          ({ deviceId := device.deviceId
             certificateFingerprint := device.certificateFingerprint
             lastConnectedAtMs := device.lastConnectedAtMs } : TrustedIdentityCandidate)
      if previous = [] then store
      else
        let (revision, store) := store.allocateIdentityReplacementRevision
        store.setIdentityReplacement (some
          { revision := revision
            currentDeviceId := current.deviceId
            deviceName := current.deviceName
            previousIdentities := previous.mergeSort fun left right =>
              (compare (left.lastConnectedAtMs.elim 0 (· + 1))
                  (right.lastConnectedAtMs.elim 0 (· + 1))).isGE &&
                (left.lastConnectedAtMs ≠ right.lastConnectedAtMs ||
                  (compare left.deviceId right.deviceId).isLE) })

/-- The store with the Sender of a completed pairing. -/
def trustedAfterCommit (P : Platform) (s : ReceiverSession) (sender : ActiveSender)
    (nowMs : Nat) : TrustedDeviceStore :=
  let stored := s.trusted.upsert
    (trustedDeviceFromPairing P.crypto sender.senderId sender.deviceName sender.publicKey nowMs)
  if s.trusted.isPaired sender.senderId then stored
  else prepareReplacement P.crypto stored sender.senderId

/-- Each identity of the decision is still the one that was shown. -/
def replacementIsCurrent (s : ReceiverSession) (replacement : TrustedIdentityReplacement) :
    Bool :=
  s.trusted.isPaired replacement.currentDeviceId &&
    replacement.previousIdentities.all fun candidate =>
      match s.trusted.get candidate.deviceId with
      | none => false
      | some device =>
          device.certificateFingerprint = candidate.certificateFingerprint &&
            device.lastConnectedAtMs = candidate.lastConnectedAtMs

/-- Remove the listed identities; the number counts those that were there. -/
def removeCandidates : List TrustedIdentityCandidate → TrustedDeviceStore →
    Nat × TrustedDeviceStore
  | [], store => (0, store)
  | candidate :: rest, store =>
      let (removed, store) := store.remove candidate.deviceId
      let (count, store) := removeCandidates rest store
      ((if removed then 1 else 0) + count, store)

end ReceiverSession

namespace Owner

open Program

/-! ## The trust store -/

def persistTrusted (P : Platform) : Owner Unit := do
  let s ← session
  if s.hasTrustedStorePath then do
    let disk ← look World.disk
    match s.trusted.saveToPath P.crypto disk with
    | .ok () => pure ()
    | .error error => fail (.store error)
  else pure ()

/-- Write `store`; where that fails the previous store stays. -/
def replaceTrusted (P : Platform) (store : TrustedDeviceStore) : Owner Unit := do
  let previous ← read fun o => o.session.trusted
  modifySession fun s => s.setTrusted store
  let outcome ← attempt (persistTrusted P)
  match outcome with
  | .ok () => pure ()
  | .error error => do
      modifySession fun s => s.setTrusted previous
      fail error

def removeTrustedDevice (P : Platform) (deviceId : String) : Owner Bool := do
  let s ← session
  when (s.trusted.remove deviceId).1 (replaceTrusted P (s.trusted.remove deviceId).2)
  pure (s.trusted.remove deviceId).1

def replaceTrustedIdentityHistory (P : Platform) (revision : Nat) : Owner Nat := do
  let s ← session
  match s.trusted.pendingIdentityReplacement with
  | none => fail .staleTrustedIdentityReplacement
  | some replacement =>
      if replacement.revision = revision ∧ s.replacementIsCurrent replacement then do
        let removed := ReceiverSession.removeCandidates replacement.previousIdentities s.trusted
        replaceTrusted P (removed.2.setIdentityReplacement none)
        pure removed.1
      else fail .staleTrustedIdentityReplacement

def dismissTrustedIdentityReplacement (P : Platform) (revision : Nat) : Owner Bool := do
  let s ← session
  let dismissed := s.trusted.dismissIdentityReplacement revision
  when dismissed.1 (replaceTrusted P dismissed.2)
  pure dismissed.1

def clearTrustedDevices (P : Platform) : Owner Nat := do
  let s ← session
  when (0 < s.trusted.clear.1) (replaceTrusted P s.trusted.clear.2)
  pure s.trusted.clear.1

/-! ## The handshake -/

/-- Trust the Sender of the challenge, before the Receiver says that it did. -/
def commitTrust (P : Platform) : Owner Unit := do
  let nowMs ← look World.wallClockMs
  let s ← session
  match s.activeSender with
  | none => fail (.panicked "active sender")
  | some sender => do
      replaceTrusted P (s.trustedAfterCommit P sender nowMs)
      note (.trusted sender.senderId)
      modifySession ReceiverSession.commitReceiver

def proofOf (P : Platform) (s : ReceiverSession) (pending : PendingPairing) (phase : Bytes) :
    PairingProof where
  transcriptHash := pending.transcriptHash
  identitySignature := signTranscriptPhase P.crypto s.identity pending.transcriptHash phase

def permitSender : Owner Unit := do
  let s ← session
  match s.activeSender with
  | none => pure ()
  | some sender => do
      note (.permitted sender.senderId)
      modifySession fun s => s.setActiveSender { sender with videoAllowed := true }

/-- The Sender's video is permitted and the challenge is over. -/
def permitVideo (session : SessionId) : Owner Unit := do
  permitSender
  modifySession ReceiverSession.endPairing
  modifySession fun s => s.beginStreaming session

def advancePairing (P : Platform) : Owner Unit := do
  let s ← session
  match s.pendingPairing with
  | none => pure ()
  | some pending =>
      if pending.localConfirmed ∧ pending.remoteConfirmed then
        if pending.senderCommitted then do
          when (!pending.receiverCommitted) (commitTrust P)
          let s ← session
          sendControlPayload pending.session
            (.pairingComplete (proofOf P s pending pairingCompletePhase))
          permitVideo pending.session
        else if pending.approvalSent then pure ()
        else do
          sendControlPayload pending.session
            (.pairingApproval (proofOf P s pending pairingApprovalPhase))
          modifySession ReceiverSession.noteApprovalSent
      else pure ()

def installClientHello (P : Platform) (session : SessionId) (hello : ClientHello) :
    Owner Unit := do
  let entropy ← look World.entropy
  match entropy with
  | .error message => fail (.protocol message)
  | .ok receiverNonce => do
      let binding ← transport fun w => (w.bindingOf session, w)
      let s ← Owner.session
      match s.control.controlGeneration with
      | none => fail (.protocol "missing control connection generation")
      | some generation =>
          let transcript := s.transcriptOf hello receiverNonce binding generation
          match transcript.hash P.crypto with
          | .error _ => fail (.protocol "invalid pairing transcript")
          | .ok transcriptHash => do
              let autoAccept := s.autoAccepts hello
              sendControlPayload session (.serverHello
                { receiverId := s.identity.deviceId
                  displayName := s.identity.deviceName
                  publicKey := s.identity.publicKey
                  pairingRequired := !autoAccept
                  receiverNonce := receiverNonce
                  transcriptHash := transcriptHash
                  identitySignature :=
                    signTranscriptPhase P.crypto s.identity transcriptHash serverHelloPhase })
              let now ← instantNow
              modifySession fun s =>
                s.installChallenge session hello autoAccept transcriptHash
                  (PairingTranscript.shortCodeOf transcriptHash) now

def handleClientHello (P : Platform) (session : SessionId) (hello : ClientHello) :
    Owner Unit := do
  let s ← Owner.session
  if hello.senderId = "" ∨ P.crypto.deriveDeviceId hello.publicKey ≠ hello.senderId ∨
      hello.senderNonce.length ≠ 32 then
    fail (.protocol "ClientHello contains an invalid Sender identity")
  else if s.publicKeyChanged hello then do
    let _ ← attempt (sendControlPayload session (.sessionError
      { code := "PUBLIC_KEY_CHANGED"
        message := "paired device public key changed; remove and re-pair" }))
    applyEvent (.abortConnection session.value .publicKeyChanged)
  else installClientHello P session hello

def handlePairingConfirm (P : Platform) (session : SessionId) (confirm : PairingProof) :
    Owner Unit := do
  let s ← Owner.session
  match s.pendingPairing with
  | none => fail (.protocol "no pending pairing")
  | some pending => do
      let now ← instantNow
      if pending.expiresAt ≤ now then do
        modifySession ReceiverSession.dropExpiredChallenge
        fail (.protocol "pairing challenge expired")
      else if session ≠ pending.session then fail (.protocol "pairing session mismatch")
      else
        match s.activeSender with
        | none => fail (.protocol "missing active Sender")
        | some sender =>
            if confirm.transcriptHash ≠ pending.transcriptHash then
              fail (.protocol "PairingConfirm transcript mismatch")
            else if verifyTranscriptPhase P.crypto sender.publicKey pending.transcriptHash
                senderConfirmPhase confirm.identitySignature then do
              modifySession ReceiverSession.confirmRemote
              advancePairing P
            else fail (.protocol "invalid identity proof signature")

def verifySenderPhase (P : Platform) (s : ReceiverSession) (session : SessionId)
    (proof : PairingProof) (phase : Bytes) : Bool :=
  match s.pendingPairing, s.activeSender with
  | some pending, some active =>
      session = pending.session && proof.transcriptHash = pending.transcriptHash &&
        verifyTranscriptPhase P.crypto active.publicKey pending.transcriptHash phase
          proof.identitySignature
  | _, _ => false

def handlePairingCommit (P : Platform) (session : SessionId) (commit : PairingProof) :
    Owner Unit := do
  let s ← Owner.session
  if verifySenderPhase P s session commit pairingCommitPhase then do
    modifySession ReceiverSession.commitSender
    advancePairing P
  else fail (.protocol "PairingCommit identity proof is invalid")

/-! ## The user's decisions -/

def expirePendingPairingIfNeeded : Owner Unit := do
  let s ← session
  match s.pendingPairing with
  | none => pure ()
  | some pending => do
      let now ← instantNow
      if now < pending.expiresAt then pure ()
      else
        let _ ← attempt
          (applyReceiverEvent (.abortConnection pending.session.value .pairingExpired))
        pure ()

/-- The user's approval is for whatever challenge is pending. -/
def approvePending : Owner Unit := do
  let s ← session
  match s.pendingPairing with
  | none => pure ()
  | some pending => do
      note (.approved ((s.activeSender.map ActiveSender.senderId).getD "")
        pending.transcriptHash)
      modifySession ReceiverSession.confirmLocal

def confirmPairingLocally (P : Platform) : Owner Unit := do
  expirePendingPairingIfNeeded
  approvePending
  advancePairing P

def rejectPairingLocally : Owner Unit := do
  expirePendingPairingIfNeeded
  let s ← session
  match s.pendingPairing with
  | none => pure ()
  | some pending => do
      sendControlPayload pending.session (.sessionError
        { code := "PAIRING_REJECTED"
          message := "desktop user rejected the pairing challenge" })
      applyEvent (.abortConnection pending.session.value .pairingRejected)

end Owner

end PicooCamera.Receiver
