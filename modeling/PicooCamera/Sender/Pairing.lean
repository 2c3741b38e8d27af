import PicooCamera.Sender.Stream

/-!
# Pairing at the Sender

ServerHello answers the Sender's nonce with a challenge that the Receiver has
signed. The Sender trusts the Receiver when both users have approved, and before
it says so; media starts with the Receiver's authenticated completion.
-/

namespace PicooCamera.Sender

open PicooCamera.Library PicooCamera.Protocol PicooCamera.Packet PicooCamera.Session
open PicooCamera.Pairing PicooCamera.Transport

/-- `picoo_protocol::ALPN`. -/
def alpn : String := "picoocam"

namespace SenderSession

def updatePairing (s : SenderSession) (f : SenderPairing → SenderPairing) : SenderSession :=
  { s with pairing := s.pairing.map f }

def noteConfirmSent (s : SenderSession) : SenderSession :=
  s.updatePairing fun p => { p with confirmSent := true }

def noteTrustCommitted (s : SenderSession) : SenderSession :=
  s.updatePairing fun p => { p with trustCommitted := true }

/-- The Receiver of the challenge is still the one that the store trusts. -/
def receiverIsAuthenticated (s : SenderSession) : Bool :=
  match s.pairing with
  | none => false
  | some pairing =>
      pairing.receiverId ≠ "" &&
        (s.trusted.verifyPairedKey pairing.receiverId pairing.publicKey).isOk

/-- `Pairing` or `Negotiating`. -/
def awaitsProof (s : SenderSession) : Bool := s.status = .pairing ∨ s.status = .negotiating

def transcriptOf (s : SenderSession) (hello : ServerHello) (senderNonce binding : Bytes)
    (connectionGeneration : Nat) : PairingTranscript where
  protocol := alpn
  senderId := s.identity.deviceId
  senderPublicKey := s.identity.publicKey
  senderNonce := senderNonce
  receiverId := hello.receiverId
  receiverPublicKey := hello.publicKey
  receiverNonce := hello.receiverNonce
  channelBinding := binding
  connectionGeneration := connectionGeneration

def installServerHello (s : SenderSession) (hello : ServerHello) (transcriptHash : Bytes) :
    SenderSession :=
  ({ s with
    pairing := some
      { receiverId := hello.receiverId
        displayName := hello.displayName
        publicKey := hello.publicKey
        transcriptHash := transcriptHash
        shortCode :=
          if hello.pairingRequired then PairingTranscript.shortCodeOf transcriptHash else ""
        pairingRequired := hello.pairingRequired
        confirmSent := false
        trustCommitted := false } }.setTrust
    (if hello.pairingRequired then .pairing else .unknown)).setStream .negotiating

/-- The store with the Receiver of an approved pairing. -/
def trustedAfterApproval (P : SenderPlatform) (s : SenderSession) (pairing : SenderPairing)
    (nowMs : Nat) : TrustedDeviceStore :=
  if s.trusted.isPaired pairing.receiverId then
    s.trusted.touchLastConnected pairing.receiverId nowMs
  else
    let displayName :=
      if pairing.displayName = "" then pairing.receiverId else pairing.displayName
    s.trusted.upsert
      (trustedDeviceFromPairing P.crypto pairing.receiverId displayName pairing.publicKey nowMs)

end SenderSession

namespace Core

open Program

/-! ## The trust store -/

def persistTrusted (P : SenderPlatform) : Core Unit := do
  let s ← session
  if s.hasTrustedStorePath then do
    let disk ← look Answers.disk
    match s.trusted.saveToPath P.crypto disk with
    | .ok () => pure ()
    | .error error => fail (.store error)
  else pure ()

/-- Write `store`; where that fails the previous store stays. -/
def replaceTrusted (P : SenderPlatform) (store : TrustedDeviceStore) : Core Unit := do
  let previous ← read fun s => s.session.trusted
  modifySession fun s => s.setTrusted store
  let outcome ← attempt (persistTrusted P)
  match outcome with
  | .ok () => pure ()
  | .error error => do
      modifySession fun s => s.setTrusted previous
      fail error

def removeTrustedDevice (P : SenderPlatform) (deviceId : String) : Core Bool := do
  let s ← session
  when (s.trusted.remove deviceId).1 (replaceTrusted P (s.trusted.remove deviceId).2)
  pure (s.trusted.remove deviceId).1

/-! ## Proofs -/

def proofOf (P : SenderPlatform) (s : SenderSession) (pairing : SenderPairing) (phase : Bytes) :
    PairingProof where
  transcriptHash := pairing.transcriptHash
  identitySignature := signTranscriptPhase P.crypto s.identity pairing.transcriptHash phase

def verifyReceiverPhase (P : SenderPlatform) (s : SenderSession) (session : SessionId)
    (proof : PairingProof) (phase : Bytes) : Bool :=
  match s.pairing with
  | none => false
  | some pairing =>
      s.activeSession = some session && proof.transcriptHash = pairing.transcriptHash &&
        verifyTranscriptPhase P.crypto pairing.publicKey pairing.transcriptHash phase
          proof.identitySignature

def sendIdentityConfirm (P : SenderPlatform) : Core Unit := do
  let session ← requireSession
  let s ← Core.session
  match s.pairing with
  | none => fail (.protocol "no authentication challenge")
  | some pairing => do
      sendControlPayload session (.pairingConfirm (proofOf P s pairing senderConfirmPhase))
      modifySession SenderSession.noteConfirmSent
      modifySession SenderSession.clearError

def sendPairingConfirm (P : SenderPlatform) (receiverId : String) : Core Unit := do
  let s ← session
  match s.pairing with
  | none => fail (.protocol "no pairing challenge")
  | some pairing =>
      if pairing.receiverId ≠ receiverId then
        fail (.protocol "pairing receiver id does not match ServerHello")
      else if pairing.pairingRequired = false then
        fail (.protocol "trusted reconnect does not require user confirmation")
      else sendIdentityConfirm P

/-! ## ServerHello -/

/-- The challenge of a ServerHello whose transcript is the Sender's own. -/
def answerServerHello (P : SenderPlatform) (hello : ServerHello) (transcriptHash : Bytes) :
    Core Unit := do
  let s ← session
  if hello.transcriptHash ≠ transcriptHash ∨
      verifyTranscriptPhase P.crypto hello.publicKey transcriptHash serverHelloPhase
        hello.identitySignature = false then
    rejectAuthentication "INVALID_RECEIVER_PROOF"
  else if s.trusted.isPaired hello.receiverId ∧
      (s.trusted.verifyPairedKey hello.receiverId hello.publicKey).isOk = false then
    rejectAuthentication "PUBLIC_KEY_CHANGED"
  else if hello.pairingRequired = false ∧ s.trusted.isPaired hello.receiverId = false then
    rejectAuthentication "UNTRUSTED_PAIRING_BYPASS"
  else do
    modifySession fun s => s.installServerHello hello transcriptHash
    if hello.pairingRequired then pure ()
    else do
      let outcome ← attempt (sendIdentityConfirm P)
      match outcome with
      | .ok () => pure ()
      | .error _ => rejectAuthentication "SENDER_PROOF_SEND_FAILED"

def onServerHello (P : SenderPlatform) (hello : ServerHello) : Core Unit := do
  let s ← session
  match s.activeSession with
  | none => rejectAuthentication "PAIRING_SESSION_MISSING"
  | some session =>
      match s.senderNonce with
      | none => rejectAuthentication "PAIRING_SENDER_NONCE_MISSING"
      | some senderNonce =>
          if hello.receiverId = "" ∨
              P.crypto.deriveDeviceId hello.publicKey ≠ hello.receiverId ∨
              hello.receiverNonce.length ≠ 32 then
            rejectAuthentication "INVALID_RECEIVER_IDENTITY"
          else do
            let binding ← look Answers.channelBinding
            match binding with
            | .error _ => rejectAuthentication "CHANNEL_BINDING_UNAVAILABLE"
            | .ok binding =>
                match (s.transcriptOf hello senderNonce binding session.value).hash P.crypto with
                | .error _ => rejectAuthentication "INVALID_PAIRING_TRANSCRIPT"
                | .ok transcriptHash => answerServerHello P hello transcriptHash

/-! ## The Receiver's proofs -/

/-- Trust the Receiver of the challenge; false where the store cannot be written. -/
def commitTrust (P : SenderPlatform) (pairing : SenderPairing) : Core Bool := do
  if pairing.trustCommitted then pure true
  else do
    let nowMs ← look Answers.wallClockMs
    let s ← session
    let outcome ← attempt (replaceTrusted P (s.trustedAfterApproval P pairing nowMs))
    match outcome with
    | .ok () => do
        modifySession SenderSession.noteTrustCommitted
        pure true
    | .error _ => do
        setError "PAIRING_STORE_FAILED"
        pure false

def sendPairingCommit (P : SenderPlatform) (pairing : SenderPairing) : Core Unit := do
  let s ← session
  match s.activeSession with
  | none => setError "PAIRING_SESSION_MISSING"
  | some session => do
      let outcome ← attempt
        (sendControlPayload session (.pairingCommit (proofOf P s pairing pairingCommitPhase)))
      match outcome with
      | .ok () => modifySession SenderSession.clearError
      | .error _ => setError "PAIRING_COMMIT_SEND_FAILED"

def acceptPairingApproval (P : SenderPlatform) : Core Unit := do
  let s ← session
  if s.awaitsProof = false then pure ()
  else
    match s.pairing with
    | none => setError "PAIRING_STATE_MISSING"
    | some pairing =>
        if pairing.receiverId = "" then setError "PAIRING_RECEIVER_ID_MISSING"
        else if pairing.confirmSent = false then setError "PAIRING_LOCAL_CONFIRM_MISSING"
        else do
          let committed ← commitTrust P pairing
          when committed (sendPairingCommit P pairing)

def acceptPairingComplete (P : SenderPlatform) : Core Unit := do
  let s ← session
  if s.awaitsProof = false then pure ()
  else
    match s.pairing with
    | none => pure ()
    | some pairing =>
        if pairing.confirmSent = false ∨ pairing.trustCommitted = false then
          setError "PAIRING_COMMIT_MISSING"
        else if (s.trusted.verifyPairedKey pairing.receiverId pairing.publicKey).isOk = false then
          setError "PAIRING_STORE_MISMATCH"
        else do
          modifySession SenderSession.clearError
          enterStreaming P

def handlePairingApproval (P : SenderPlatform) (session : SessionId) (approval : PairingProof) :
    Core Unit := do
  let s ← Core.session
  if verifyReceiverPhase P s session approval pairingApprovalPhase then acceptPairingApproval P
  else rejectAuthentication "INVALID_RECEIVER_APPROVAL"

def handlePairingComplete (P : SenderPlatform) (session : SessionId) (complete : PairingProof) :
    Core Unit := do
  let s ← Core.session
  if verifyReceiverPhase P s session complete pairingCompletePhase then acceptPairingComplete P
  else rejectAuthentication "INVALID_RECEIVER_COMPLETE"

/-- Errors of other codes are not kept. -/
def handleSessionError (error : SessionError) : Core Unit :=
  when (error.code ∈ ["UNPAIRED", "PUBLIC_KEY_CHANGED", "PAIRING_REJECTED"]) (setError error.code)

end Core

end PicooCamera.Sender
