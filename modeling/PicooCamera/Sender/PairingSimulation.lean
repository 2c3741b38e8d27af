import PicooCamera.Pairing.TrustPersistence
import PicooCamera.Sender.PairingPath

/-!
# What the Sender session does to the pairing path

Every step of the session is a sequence of changes, each with what the session
has checked before it.
-/

namespace PicooCamera.Sender

open PicooCamera.Library PicooCamera.Protocol PicooCamera.Packet PicooCamera.Session
open PicooCamera.Pairing PicooCamera.Transport Program TrustedDeviceStore

namespace PairingPath

def updatePairing (c : PairingPath) (f : SenderPairing → SenderPairing) : PairingPath :=
  { c with pairing := c.pairing.map f }

def setTrusted (c : PairingPath) (trusted : TrustedDeviceStore) : PairingPath :=
  { c with trusted := trusted }

/-- The challenge of a Receiver that has proved that it holds the key of its id. -/
structure Installs (P : SenderPlatform) (pairing : SenderPairing) : Prop where
  identified : P.crypto.deriveDeviceId pairing.publicKey = pairing.receiverId
  proved : pairing.publicKey.length = publicKeyLen ∧
    P.crypto.validKey pairing.publicKey = true
  fresh : pairing.confirmSent = false ∧ pairing.trustCommitted = false

inductive Change (P : SenderPlatform) (c : PairingPath) : PairingPath → Prop
  | drop : Change P c c.drop
  | install (pairing : SenderPairing) (installs : Installs P pairing) :
      Change P c { c with pairing := some pairing }
  | confirm : Change P c (c.updatePairing fun p => { p with confirmSent := true })
  | settle : Change P c (c.updatePairing fun p => { p with trustCommitted := true })
  | revoke (store : TrustedDeviceStore)
      (fewer : ∀ id device, store.get id = some device → c.trusted.get id = some device) :
      Change P c (c.setTrusted store)
  | trust (pairing : SenderPairing) (nowMs : Nat) (active : c.pairing = some pairing)
      (confirmed : pairing.confirmSent = true) (s : SenderSession) (same : s.trusted = c.trusted) :
      Change P c (c.setTrusted (s.trustedAfterApproval P pairing nowMs))

def Changes (P : SenderPlatform) : PairingPath → PairingPath → Prop :=
  Relation.ReflTransGen (Change P)

end PairingPath

open PairingPath

/-- The pairing path of `s'` comes from that of `s` by changes. -/
def Pairs (P : SenderPlatform) (s s' : SenderState) : Prop :=
  PairingPath.Changes P s.pairingPath s'.pairingPath

/-- The whole pairing path stays as it is. -/
def SamePath (s s' : SenderState) : Prop := s'.pairingPath = s.pairingPath

instance (P : SenderPlatform) : Endable (Pairs P) where
  refl _ := Relation.ReflTransGen.refl
  trans := Relation.ReflTransGen.trans
  same := by
    intro s s' h
    unfold Pairs
    rw [h]
    exact Relation.ReflTransGen.refl
  drop := by
    intro s s' h
    unfold Pairs
    rw [h]
    exact Relation.ReflTransGen.single .drop

instance : Aside SamePath where
  refl _ := rfl
  trans hst htu := htu.trans hst
  same h := h

namespace Core

variable {P : SenderPlatform} {s s' : SenderState}

theorem pairs_change {c' : PairingPath} (h : PairingPath.Change P s.pairingPath c')
    (heq : s'.pairingPath = c') : Pairs P s s' := by
  unfold Pairs
  rw [heq]
  exact Relation.ReflTransGen.single h

theorem pairs_path (h : s'.pairingPath = s.pairingPath) : Pairs P s s' := Aside.same h

theorem pairs_after {α β : Type} {p : Core α} {f : α → Core β} [hp : Keeps SamePath p]
    (h : ∀ a s', s'.pairingPath = s.pairingPath → Pairs P s' (exec (f a) s').2) :
    Pairs P s (exec (p >>= f) s).2 := by
  have hkept := hp.keeps s
  rw [exec_bind]
  cases hexec : exec p s with
  | mk result after =>
      rw [hexec] at hkept
      have hstart : Pairs P s after := pairs_path hkept
      cases result with
      | error error => exact hstart
      | ok a => exact Frame.trans hstart (h a after hkept)

/-! ## The trust store -/

instance : Keeps SamePath (persistTrusted P) := by
  unfold persistTrusted
  apply keeps_then inferInstance
  intro s
  split
  · apply keeps_then inferInstance
    intro disk
    split <;> infer_instance
  · infer_instance

theorem replaceTrusted_path (P : SenderPlatform) (store : TrustedDeviceStore) (s : SenderState) :
    (exec (replaceTrusted P store) s).2.pairingPath = s.pairingPath.setTrusted store ∨
      (exec (replaceTrusted P store) s).2.pairingPath = s.pairingPath := by
  unfold replaceTrusted modifySession
  rw [exec_read_bind, exec_update_bind, exec_attempt_bind]
  generalize hset : ({ s with session := s.session.setTrusted store } : SenderState) = written
  have hkept : SamePath written (exec (persistTrusted P) written).2 :=
    Keeps.keeps (p := persistTrusted P) written
  have hwritten : written.pairingPath = s.pairingPath.setTrusted store := by
    rw [← hset]
    rfl
  have hpath := hkept.trans hwritten
  cases hresult : (exec (persistTrusted P) written).1 with
  | ok value => exact Or.inl hpath
  | error error =>
      right
      dsimp only
      rw [exec_update_bind, exec_fail]
      change (PairingPath.setTrusted (exec (persistTrusted P) written).2.pairingPath _) = _
      rw [hpath]
      rfl

theorem pairs_replaceTrusted {store : TrustedDeviceStore}
    (h : PairingPath.Change P s.pairingPath (s.pairingPath.setTrusted store)) :
    Pairs P s (exec (replaceTrusted P store) s).2 := by
  rcases replaceTrusted_path P store s with heq | heq
  · exact pairs_change h heq
  · exact pairs_path heq

instance (deviceId : String) : Keeps (Pairs P) (removeTrustedDevice P deviceId) := by
  constructor
  intro s
  unfold removeTrustedDevice session
  rw [exec_read_bind]
  refine keeps_from ?_ fun _ => inferInstance
  by_cases hpaired : (s.session.trusted.remove deviceId).1 = true
  · rw [exec_when_true hpaired]
    refine pairs_replaceTrusted (PairingPath.Change.revoke _ ?_)
    intro id device hdevice
    rw [get_remove] at hdevice
    exact (Option.ite_none_left_eq_some.mp hdevice).2
  · rw [exec_when_false hpaired]
    exact Frame.refl s

/-! ## The challenge -/

instance : Keeps (Pairs P) (sendIdentityConfirm P) := by
  have hconfirm : Keeps (Pairs P) (modifySession SenderSession.noteConfirmSent) :=
    keeps_update fun _ => pairs_change .confirm rfl
  unfold sendIdentityConfirm
  apply keeps_then inferInstance
  intro target
  apply keeps_then inferInstance
  intro s
  split <;> infer_instance

instance (receiverId : String) : Keeps (Pairs P) (sendPairingConfirm P receiverId) := by
  unfold sendPairingConfirm
  apply keeps_then inferInstance
  intro s
  split <;> infer_instance

theorem valid_of_verified {publicKey transcriptHash phase signature : Bytes}
    (h : verifyTranscriptPhase P.crypto publicKey transcriptHash phase signature = true) :
    publicKey.length = publicKeyLen ∧ P.crypto.validKey publicKey = true := by
  unfold verifyTranscriptPhase Cryptography.verifyIdentitySignature at h
  simp only [Bool.and_eq_true, decide_eq_true_eq] at h
  exact ⟨h.1.1.1, h.1.2⟩

theorem installs_challenge {hello : ServerHello}
    (hidentity : P.crypto.deriveDeviceId hello.publicKey = hello.receiverId)
    (hproved : hello.publicKey.length = publicKeyLen ∧ P.crypto.validKey hello.publicKey = true)
    (transcriptHash : Bytes) (s : SenderState) :
    Pairs P s { s with session := s.session.installServerHello hello transcriptHash } := by
  have hinstalls : Installs P
      { receiverId := hello.receiverId
        displayName := hello.displayName
        publicKey := hello.publicKey
        transcriptHash := transcriptHash
        shortCode :=
          if hello.pairingRequired then PairingTranscript.shortCodeOf transcriptHash else ""
        pairingRequired := hello.pairingRequired
        confirmSent := false
        trustCommitted := false } := ⟨hidentity, hproved, rfl, rfl⟩
  exact pairs_change (PairingPath.Change.install _ hinstalls) rfl

theorem pairs_answerServerHello {hello : ServerHello}
    (hidentity : P.crypto.deriveDeviceId hello.publicKey = hello.receiverId)
    (transcriptHash : Bytes) (s : SenderState) :
    Pairs P s (exec (answerServerHello P hello transcriptHash) s).2 := by
  unfold answerServerHello session
  rw [exec_read_bind, exec_ite]
  split
  · exact Keeps.keeps s
  · rename_i hproof
    rw [not_or, Bool.not_eq_false] at hproof
    rw [exec_ite]
    split
    · exact Keeps.keeps s
    · rw [exec_ite]
      split
      · exact Keeps.keeps s
      · refine keeps_from ?_ fun _ => ?_
        · exact installs_challenge hidentity (valid_of_verified hproof.2) transcriptHash s
        · split
          · infer_instance
          · apply keeps_then inferInstance
            intro outcome
            split <;> infer_instance

instance (hello : ServerHello) : Keeps (Pairs P) (onServerHello P hello) := by
  constructor
  intro s
  unfold onServerHello session
  rw [exec_read_bind]
  cases s.session.activeSession with
  | none => exact Keeps.keeps s
  | some target =>
      dsimp only
      cases s.session.senderNonce with
      | none => exact Keeps.keeps s
      | some senderNonce =>
          dsimp only
          rw [exec_ite]
          split
          · exact Keeps.keeps s
          · rename_i hrefused
            apply pairs_after
            intro binding s₁ _
            cases binding with
            | error error => exact Keeps.keeps s₁
            | ok binding =>
                dsimp only
                cases (s.session.transcriptOf hello senderNonce binding target.value).hash
                    P.crypto with
                | error error => exact Keeps.keeps s₁
                | ok transcriptHash =>
                    apply pairs_answerServerHello
                    by_contra hother
                    exact hrefused (.inr (.inl hother))

/-! ## The approval -/

theorem pairs_commitTrust {pairing : SenderPairing} (hpairing : s.session.pairing = some pairing)
    (hconfirmed : pairing.confirmSent = true) :
    Pairs P s (exec (commitTrust P pairing) s).2 := by
  unfold commitTrust
  rw [exec_ite]
  split
  · exact Frame.refl s
  · apply pairs_after
    intro nowMs s₁ hlooked
    unfold session
    rw [exec_read_bind]
    refine keeps_from ?_ fun outcome => ?_
    · refine pairs_replaceTrusted
        (PairingPath.Change.trust pairing nowMs ?_ hconfirmed s₁.session rfl)
      exact (congrArg PairingPath.pairing hlooked).trans hpairing
    · have hsettle : Keeps (Pairs P) (modifySession SenderSession.noteTrustCommitted) :=
        keeps_update fun _ => pairs_change .settle rfl
      split <;> infer_instance

instance (pairing : SenderPairing) : Keeps (Pairs P) (sendPairingCommit P pairing) := by
  unfold sendPairingCommit
  apply keeps_then inferInstance
  intro s
  split
  · infer_instance
  · apply keeps_then inferInstance
    intro outcome
    split <;> infer_instance

instance : Keeps (Pairs P) (acceptPairingApproval P) := by
  constructor
  intro s
  unfold acceptPairingApproval session
  rw [exec_read_bind, exec_ite]
  split
  · exact Frame.refl s
  · cases hpairing : s.session.pairing with
    | none => exact Keeps.keeps s
    | some pairing =>
        dsimp only
        rw [exec_ite]
        split
        · exact Keeps.keeps s
        · rw [exec_ite]
          split
          · exact Keeps.keeps s
          · rename_i hconfirmed
            refine keeps_from (pairs_commitTrust hpairing ?_) fun _ => inferInstance
            exact Bool.not_eq_false _ |>.mp hconfirmed

instance : Keeps (Pairs P) (acceptPairingComplete P) := by
  unfold acceptPairingComplete
  apply keeps_then inferInstance
  intro s
  split
  · infer_instance
  · split <;> infer_instance

/-! ## Steps -/

instance (target : SessionId) (payload : ControlPayload) :
    Keeps (Pairs P) (handlePayload P target payload) := by
  cases payload <;>
  · unfold handlePayload
    try unfold handlePairingApproval
    try unfold handlePairingComplete
    infer_instance

instance (target : SessionId) (message : ControlFrame) :
    Keeps (Pairs P) (handleControl P target message) := by
  have hreceived : ∀ messageId,
      Keeps (Pairs P) (modifySession fun s => s.noteReceived messageId) :=
    fun _ => aside_session fun _ => rfl
  have henvelope : ∀ envelope, Keeps (Pairs P) (handleEnvelope P target envelope) := by
    intro envelope
    unfold handleEnvelope
    infer_instance
  unfold handleControl
  apply keeps_then inferInstance
  intro s
  split
  · infer_instance
  · split <;> infer_instance

instance : Keeps (Pairs P) (drainEvents P) := by
  have hhandle : ∀ event, Keeps (Pairs P) (handleTransportEvent P event) := by
    intro event
    cases event with
    | controlMessage target message =>
        unfold handleTransportEvent
        apply keeps_then inferInstance
        intro effects
        split <;> infer_instance
    | _ =>
        unfold handleTransportEvent
        infer_instance
  have hloop : ∀ fuel, Keeps (Pairs P) (drainLoop P fuel) := by
    intro fuel
    induction fuel with
    | zero =>
        unfold drainLoop
        infer_instance
    | succ fuel ih =>
        unfold drainLoop takeTransportEvent
        apply keeps_then inferInstance
        intro event
        split <;> infer_instance
  unfold drainEvents
  infer_instance

instance (endpoint : Endpoint) : Keeps (Pairs P) (connect P endpoint) := by
  have hset : Keeps (Pairs P) (modifySession fun s => s.setEndpoint endpoint) :=
    aside_session fun _ => rfl
  unfold connect
  apply keeps_then inferInstance
  intro _
  apply keeps_then inferInstance
  intro _
  apply keeps_then inferInstance
  intro outcome
  apply keeps_then inferInstance
  intro _
  split <;> infer_instance

instance : Keeps (Pairs P) (disconnect P) := by
  unfold disconnect
  infer_instance

instance (enabled : Bool) : Keeps (Pairs P) (setAutoReconnect enabled) := by
  unfold setAutoReconnect
  infer_instance

instance : Keeps (Pairs P) (sendClientHello P) := by
  have hask : Keeps (Pairs P) (modifySession SenderSession.askForHello) :=
    aside_session fun _ => rfl
  unfold sendClientHello
  apply keeps_then inferInstance
  intro s
  split
  · infer_instance
  · apply keeps_then inferInstance
    intro _
    split <;> infer_instance

instance : Keeps (Pairs P) (sendStartStream P) := by
  unfold sendStartStream
  infer_instance

instance : Keeps (Pairs P) (sendStopStream P) := by
  unfold sendStopStream
  infer_instance

instance : Keeps (Pairs P) (startCommittedEncoderRecovery P) := by
  have hgiveUp : ∀ code, Keeps (Pairs P) (giveUpRecovery P code) := by
    intro code
    unfold giveUpRecovery
    infer_instance
  unfold startCommittedEncoderRecovery
  apply keeps_then inferInstance
  intro s
  dsimp only
  split
  · infer_instance
  · split
    · infer_instance
    · split <;> infer_instance

instance (transition : EncoderFailureTransition) :
    Keeps (Pairs P) (handleEncoderFailureTransition P transition) := by
  cases transition <;>
  · unfold handleEncoderFailureTransition
    infer_instance

instance (transactionId encoderGeneration : Nat) :
    Keeps (Pairs P) (reportEncoderFailed P transactionId encoderGeneration) := by
  unfold reportEncoderFailed reportTransactionFailed
  infer_instance

instance : Keeps (Pairs P) (expireEncoderTransaction P) := by
  unfold expireEncoderTransaction
  infer_instance

instance : Keeps (Pairs P) (reconnectWhenDue P) := by
  unfold reconnectWhenDue
  apply keeps_then inferInstance
  intro s
  split
  · infer_instance
  · apply keeps_then inferInstance
    intro now
    split <;> infer_instance

theorem next_pairs (P : SenderPlatform) (s : SenderState) (label : SenderStep) :
    Pairs P s (next P s label) := by
  cases label with
  | schedule answers => exact pairs_path rfl
  | turn => exact pairs_path rfl
  | markPermissionRequired => exact pairs_path rfl
  | clearPermissionRequired =>
      apply pairs_path
      change SenderState.pairingPath { s with session := s.session.clearPermissionRequired } =
        s.pairingPath
      unfold SenderSession.clearPermissionRequired SenderState.pairingPath
      split <;> rfl
  | _ => exact Keeps.keeps s

end Core

end PicooCamera.Sender
