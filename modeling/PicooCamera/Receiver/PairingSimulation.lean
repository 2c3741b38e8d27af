import PicooCamera.Receiver.PairingPath
import PicooCamera.Receiver.TrustTransactions

/-!
# What the owner does to the pairing path

Every step of the owner is a sequence of changes, each with what the owner has
checked before it. A challenge is confirmed locally by the user, or where it is
installed for a Sender that the store already trusts.
-/

namespace PicooCamera.Receiver

open PicooCamera.Library PicooCamera.Protocol PicooCamera.Packet PicooCamera.Session
open PicooCamera.Pairing PicooCamera.Transport Program TrustedDeviceStore

namespace PairingPath

def updatePending (c : PairingPath) (f : PendingPairing → PendingPairing) : PairingPath :=
  { c with pending := c.pending.map f }

def setTrusted (c : PairingPath) (trusted : TrustedDeviceStore) : PairingPath :=
  { c with trusted := trusted }

def setSender (c : PairingPath) (sender : ActiveSender) : PairingPath :=
  { c with sender := some sender }

/-- The challenge of `hello` and the Sender it is for. -/
structure Installs (P : Platform) (c : PairingPath) (sender : ActiveSender)
    (pending : PendingPairing) : Prop where
  identified : P.crypto.deriveDeviceId sender.publicKey = sender.senderId
  unproved : pending.remoteConfirmed = false ∧ pending.senderCommitted = false
  unseen : sender.videoAllowed = false
  /-- A challenge that is confirmed from the start is that of a trusted Sender. -/
  known : pending.localConfirmed = true →
    (c.trusted.verifyPairedKey sender.senderId sender.publicKey).isOk = true

/-- The Sender of the connection has proved that it holds a valid key. -/
def Proved (P : Platform) (c : PairingPath) : Prop :=
  ∀ sender ∈ c.sender, sender.publicKey.length = publicKeyLen ∧
    P.crypto.validKey sender.publicKey = true

def Confirmed (c : PairingPath) : Prop :=
  ∃ pending ∈ c.pending, pending.localConfirmed = true ∧ pending.remoteConfirmed = true ∧
    pending.senderCommitted = true

/-- One change; `approving` stands for an approval of the user. -/
inductive Change (P : Platform) (approving : Prop) (c : PairingPath) : PairingPath → Prop
  | tearDown : Change P approving c c.tearDown
  | install (sender : ActiveSender) (pending : PendingPairing)
      (installs : c.Installs P sender pending) :
      Change P approving c { c with sender := some sender, pending := some pending }
  | drop : Change P approving c { c with pending := none }
  | approve (approved : approving) :
      Change P approving c (c.updatePending fun p => { p with localConfirmed := true })
  | confirm (proved : c.Proved P) :
      Change P approving c (c.updatePending fun p => { p with remoteConfirmed := true })
  | offer : Change P approving c (c.updatePending fun p => { p with approvalSent := true })
  | commit (proved : c.Proved P) :
      Change P approving c (c.updatePending fun p => { p with senderCommitted := true })
  | settle : Change P approving c (c.updatePending fun p => { p with receiverCommitted := true })
  /-- Devices are removed, or the decision on older identities ends. -/
  | revoke (store : TrustedDeviceStore)
      (fewer : ∀ id device, store.get id = some device → c.trusted.get id = some device) :
      Change P approving c (c.setTrusted store)
  | trust (sender : ActiveSender) (nowMs : Nat) (active : c.sender = some sender)
      (confirmed : c.Confirmed) (s : ReceiverSession) (same : s.trusted = c.trusted) :
      Change P approving c (c.setTrusted (s.trustedAfterCommit P sender nowMs))
  | permit (sender : ActiveSender) (active : c.sender = some sender) (confirmed : c.Confirmed) :
      Change P approving c (c.setSender { sender with videoAllowed := true })

def Changes (P : Platform) (approving : Prop) : PairingPath → PairingPath → Prop :=
  Relation.ReflTransGen (Change P approving)

theorem Change.mono {P : Platform} {approving approving' : Prop} {c c' : PairingPath}
    (himp : approving → approving') (h : Change P approving c c') : Change P approving' c c' := by
  cases h with
  | approve approved => exact .approve (himp approved)
  | tearDown => exact .tearDown
  | install sender pending installs => exact .install sender pending installs
  | drop => exact .drop
  | confirm proved => exact .confirm proved
  | offer => exact .offer
  | commit proved => exact .commit proved
  | settle => exact .settle
  | revoke store fewer => exact .revoke store fewer
  | trust sender nowMs active confirmed s same => exact .trust sender nowMs active confirmed s same
  | permit sender active confirmed => exact .permit sender active confirmed

theorem Changes.mono {P : Platform} {approving approving' : Prop} {c c' : PairingPath}
    (himp : approving → approving') (h : Changes P approving c c') : Changes P approving' c c' := by
  induction h with
  | refl => exact Relation.ReflTransGen.refl
  | tail _ hchange ih => exact ih.tail (hchange.mono himp)

end PairingPath

open PairingPath

/-- The pairing path of `o'` comes from that of `o` by changes. -/
def Pairs (P : Platform) (approving : Prop) (o o' : OwnerState) : Prop :=
  Changes P approving o.pairingPath o'.pairingPath

/-- The store stays as it is. -/
def SameTrust (o o' : OwnerState) : Prop := o'.session.trusted = o.session.trusted

instance : Frame SameTrust where
  refl _ := rfl
  trans hou huv := huv.trans hou

instance : Adoptable SameTrust :=
  adoptable_of_pairing (congrArg PairingPath.trusted) (congrArg PairingPath.trusted)

/-! ## Relations that admit pairing -/

/-- Only the pairing path changes, to `c`. -/
structure Repairs (o o' : OwnerState) (c : PairingPath) : Prop where
  path : o'.connectionPath = { o.connectionPath with pairing := c }
  vacant : o.session.media.Vacant → o'.session.media.Vacant
  trace : o'.trace = o.trace

theorem Repairs.pairing {o o' : OwnerState} {c : PairingPath} (h : Repairs o o' c) :
    o'.pairingPath = c := congrArg ConnectionPath.pairing h.path

/-- A change that no message of the Sender makes. -/
structure PairingPath.Silent (c c' : PairingPath) : Prop where
  pending : ∀ after ∈ c'.pending, ∃ before ∈ c.pending,
    (after.remoteConfirmed = true → before.remoteConfirmed = true) ∧
      (after.senderCommitted = true → before.senderCommitted = true)
  sender : ∀ after ∈ c'.sender, ∃ before ∈ c.sender,
    after.videoAllowed = true → before.videoAllowed = true ∨ c.Confirmed

/-- `E o kind` says that a message of the kind was heard, which what happens aside keeps. -/
class Evidence (E : OwnerState → (ControlPayload → Prop) → Prop) : Prop where
  undisturbed : ∀ {o o' : OwnerState} {kind : ControlPayload → Prop},
    E o kind → Undisturbed o o' → E o' kind
  dispatched : ∀ {o : OwnerState} {target : SessionId} (envelope : ControlEnvelope)
    {kind : ControlPayload → Prop}, o.connectionPath.connection = some target.value →
    kind envelope.payload → E { o with trace := o.trace ++ [.dispatched target envelope] } kind

instance : Evidence OwnerState.Heard where
  undisturbed := OwnerState.Heard.undisturbed
  dispatched := OwnerState.heard_dispatched

/-- A relation that admits the changes of pairing, each with what was heard before it. -/
class Pairable (P : outParam Platform) (approving : outParam Prop)
    (E : outParam (OwnerState → (ControlPayload → Prop) → Prop))
    (R : OwnerState → OwnerState → Prop) : Prop extends Endable R where
  evidence : Evidence E
  install : ∀ {o o' : OwnerState} (sender : ActiveSender) (pending : PendingPairing),
    o.pairingPath.Installs P sender pending → E o IsClientHello →
    Repairs o o' { o.pairingPath with sender := some sender, pending := some pending } → R o o'
  confirm : ∀ {o o' : OwnerState}, o.pairingPath.Proved P → E o IsPairingConfirm →
    Repairs o o' (o.pairingPath.updatePending fun p => { p with remoteConfirmed := true }) → R o o'
  commit : ∀ {o o' : OwnerState}, o.pairingPath.Proved P → E o IsPairingCommit →
    Repairs o o' (o.pairingPath.updatePending fun p => { p with senderCommitted := true }) → R o o'
  silent : ∀ {o o' : OwnerState} {c : PairingPath}, Change P approving o.pairingPath c →
    o.pairingPath.Silent c → Repairs o o' c → R o o'

/-- An invariant of the owner on the platform `P`. -/
def KeepingOn (_ : Platform) (Inv : OwnerState → Prop) (o o' : OwnerState) : Prop := Inv o → Inv o'

instance (P : Platform) (Inv : OwnerState → Prop) : Frame (KeepingOn P Inv) where
  refl _ h := h
  trans hou huv h := huv (hou h)

section Pairs

variable {P : Platform} {approving : Prop} {o o' : OwnerState}

instance : Frame (Pairs P approving) where
  refl _ := Relation.ReflTransGen.refl
  trans := Relation.ReflTransGen.trans

theorem pairs_path (h : o'.pairingPath = o.pairingPath) : Pairs P approving o o' := by
  unfold Pairs
  rw [h]
  exact Relation.ReflTransGen.refl

theorem pairs_change {c' : PairingPath} (h : Change P approving o.pairingPath c')
    (heq : o'.pairingPath = c') : Pairs P approving o o' := by
  unfold Pairs
  rw [heq]
  exact Relation.ReflTransGen.single h

instance : Adoptable (Pairs P approving) :=
  adoptable_of_pairing pairs_path fun h => pairs_change .tearDown h

instance : Pairable P approving (fun _ _ => True) (Pairs P approving) where
  evidence := ⟨fun _ _ => trivial, fun _ _ _ _ => trivial⟩
  install sender pending installs _ h := pairs_change (.install sender pending installs) h.pairing
  confirm proved _ h := pairs_change (.confirm proved) h.pairing
  commit proved _ h := pairs_change (.commit proved) h.pairing
  silent hchange _ h := pairs_change hchange h.pairing

end Pairs

namespace PairingPath

variable {c c' : PairingPath}

theorem silent_same (hsender : c'.sender = c.sender) (hpending : c'.pending = c.pending) :
    c.Silent c' := by
  constructor
  · rw [hpending]
    exact fun pending h => ⟨pending, h, id, id⟩
  · rw [hsender]
    exact fun sender h => ⟨sender, h, Or.inl⟩

theorem silent_drop (c : PairingPath) : c.Silent { c with pending := none } :=
  ⟨nofun, fun sender h => ⟨sender, h, Or.inl⟩⟩

theorem silent_update {f : PendingPairing → PendingPairing}
    (h : ∀ p, (f p).remoteConfirmed = p.remoteConfirmed ∧
      (f p).senderCommitted = p.senderCommitted) : c.Silent (c.updatePending f) := by
  refine ⟨fun after hafter => ?_, fun sender h => ⟨sender, h, Or.inl⟩⟩
  obtain ⟨before, hbefore, rfl⟩ := Option.mem_map.mp hafter
  exact ⟨before, hbefore, (h before).1 ▸ id, (h before).2 ▸ id⟩

theorem silent_permit {sender : ActiveSender} (active : c.sender = some sender)
    (confirmed : c.Confirmed) : c.Silent (c.setSender { sender with videoAllowed := true }) := by
  refine ⟨fun pending h => ⟨pending, h, id, id⟩, fun after hafter => ?_⟩
  exact ⟨sender, active, fun _ => Or.inr confirmed⟩

end PairingPath

namespace Owner

variable {P : Platform} {approving : Prop} {E : OwnerState → (ControlPayload → Prop) → Prop}
  {R : OwnerState → OwnerState → Prop} {o o' : OwnerState}

theorem keeps_once_aside [Aside R] {α β : Type} {p : Owner α} {f : α → Owner β}
    [hp : Keeps Undisturbed p]
    (h : ∀ a o', Undisturbed o o' → R o' (exec (f a) o').2) : R o (exec (p >>= f) o).2 := by
  have hkept := hp.keeps o
  rw [exec_bind]
  cases hexec : exec p o with
  | mk result after =>
      rw [hexec] at hkept
      have hstart : R o after := Aside.same hkept
      cases result with
      | error error => exact hstart
      | ok a => exact Frame.trans hstart (h a after hkept)

/-! ## Parts of the handshake -/

theorem valid_of_verified {publicKey transcriptHash phase signature : Bytes}
    (h : verifyTranscriptPhase P.crypto publicKey transcriptHash phase signature = true) :
    publicKey.length = publicKeyLen ∧ P.crypto.validKey publicKey = true := by
  unfold verifyTranscriptPhase Cryptography.verifyIdentitySignature at h
  simp only [Bool.and_eq_true, decide_eq_true_eq] at h
  exact ⟨h.1.1.1, h.1.2⟩

theorem proved_of_verified {s : ReceiverSession} {sender : ActiveSender}
    {transcriptHash phase signature : Bytes} (hsender : s.activeSender = some sender)
    (hpath : o.pairingPath.sender = s.activeSender)
    (h : verifyTranscriptPhase P.crypto sender.publicKey transcriptHash phase signature = true) :
    o.pairingPath.Proved P := by
  intro other hother
  rw [hpath, hsender] at hother
  rw [← Option.mem_some.mp hother]
  exact valid_of_verified h

/-- `R`, from and to states with a confirmed challenge. -/
def WhileConfirmed (R : OwnerState → OwnerState → Prop) (o o' : OwnerState) : Prop :=
  o.pairingPath.Confirmed → R o o' ∧ o'.pairingPath.Confirmed

theorem confirmed_settle (h : o.pairingPath.Confirmed) :
    (o.pairingPath.updatePending fun p => { p with receiverCommitted := true }).Confirmed := by
  obtain ⟨pending, hpending, hlocal, hremote, hcommitted⟩ := h
  refine ⟨{ pending with receiverCommitted := true }, ?_, hlocal, hremote, hcommitted⟩
  exact Option.mem_map_of_mem _ hpending

theorem confirmed_of_pairing (h : o.pairingPath.Confirmed)
    (hsender : o'.pairingPath.pending = o.pairingPath.pending) : o'.pairingPath.Confirmed := by
  unfold PairingPath.Confirmed at h ⊢
  rw [hsender]
  exact h

instance [Aside R] : Aside (WhileConfirmed R) where
  refl o h := ⟨Frame.refl o, h⟩
  trans hou huv h := ⟨Frame.trans (hou h).1 (huv (hou h).2).1, (huv (hou h).2).2⟩
  same heq h := ⟨Aside.same heq, confirmed_of_pairing h (congrArg PairingPath.pending heq.pairing)⟩

theorem keeps_while [Aside R] {α β : Type} {p : Owner α} {f : α → Owner β}
    [hp : Keeps (WhileConfirmed R) p] (hconfirmed : o.pairingPath.Confirmed)
    (h : ∀ a o', o'.pairingPath.Confirmed → R o' (exec (f a) o').2) :
    R o (exec (p >>= f) o).2 := by
  obtain ⟨hstart, hstill⟩ := hp.keeps o hconfirmed
  rw [exec_bind]
  cases hexec : exec p o with
  | mk result after =>
      rw [hexec] at hstart hstill
      cases result with
      | error error => exact hstart
      | ok a => exact Frame.trans hstart (h a after hstill)

/-- `handlePairingConfirm` up to `advancePairing`. -/
def takeConfirm (P : Platform) (session : SessionId) (confirm : PairingProof) : Owner Unit := do
  let s ← Owner.session
  match s.pendingPairing with
  | none => fail (.protocol "no pending pairing")
  | some pending => do
      let now ← instantNow
      if pending.expiresAt ≤ now then do
        modifySession ReceiverSession.dropExpiredChallenge
        fail (.protocol "pairing challenge expired")
      else if session ≠ pending.session then fail (.protocol "pairing session mismatch")
      else
        match s.activeSender with
        | none => fail (.protocol "missing active Sender")
        | some sender =>
            if confirm.transcriptHash ≠ pending.transcriptHash then
              fail (.protocol "PairingConfirm transcript mismatch")
            else if verifyTranscriptPhase P.crypto sender.publicKey pending.transcriptHash
                senderConfirmPhase confirm.identitySignature then
              modifySession ReceiverSession.confirmRemote
            else fail (.protocol "invalid identity proof signature")

/-- `handlePairingCommit` up to `advancePairing`. -/
def takeCommit (P : Platform) (session : SessionId) (commit : PairingProof) : Owner Unit := do
  let s ← Owner.session
  if verifySenderPhase P s session commit pairingCommitPhase then
    modifySession ReceiverSession.commitSender
  else fail (.protocol "PairingCommit identity proof is invalid")

theorem handlePairingConfirm_parts (P : Platform) (session : SessionId) (confirm : PairingProof) :
    handlePairingConfirm P session confirm = (do
      takeConfirm P session confirm
      advancePairing P) := by
  unfold handlePairingConfirm takeConfirm
  rw [bind_assoc]
  congr 1
  funext s
  cases s.pendingPairing with
  | none => rfl
  | some pending =>
      dsimp only
      rw [bind_assoc]
      congr 1
      funext now
      by_cases hexpired : pending.expiresAt ≤ now
      · rw [if_pos hexpired, if_pos hexpired]
        rfl
      · rw [if_neg hexpired, if_neg hexpired]
        by_cases hsession : session ≠ pending.session
        · rw [if_pos hsession, if_pos hsession]
          rfl
        · rw [if_neg hsession, if_neg hsession]
          cases s.activeSender with
          | none => rfl
          | some sender =>
              dsimp only
              split
              · rfl
              · split <;> rfl

theorem handlePairingCommit_parts (P : Platform) (session : SessionId) (commit : PairingProof) :
    handlePairingCommit P session commit = (do
      takeCommit P session commit
      advancePairing P) := by
  unfold handlePairingCommit takeCommit
  rw [bind_assoc]
  congr 1
  funext s
  split <;> rfl

/-! ## The trust store -/

instance : Keeps Undisturbed (persistTrusted P) := by
  unfold persistTrusted
  apply keeps_then inferInstance
  intro s
  split
  · apply keeps_then inferInstance
    intro disk
    split <;> infer_instance
  · infer_instance

theorem replaceTrusted_outcome (P : Platform) (store : TrustedDeviceStore) (o : OwnerState) :
    Undisturbed { o with session := o.session.setTrusted store }
        (exec (replaceTrusted P store) o).2 ∨
      Undisturbed o (exec (replaceTrusted P store) o).2 := by
  unfold replaceTrusted modifySession
  rw [exec_read_bind, exec_update_bind, exec_attempt_bind]
  generalize hset : ({ o with session := o.session.setTrusted store } : OwnerState) = written
  have hkept : Undisturbed written (exec (persistTrusted P) written).2 :=
    Keeps.keeps (p := persistTrusted P) written
  cases hresult : (exec (persistTrusted P) written).1 with
  | ok value => exact Or.inl hkept
  | error error =>
      right
      dsimp only
      rw [exec_update_bind, exec_fail]
      -- The store that was there before is back.
      refine ⟨?_, fun hvacant => hkept.vacant ?_, ?_⟩
      · change { (exec (persistTrusted P) written).2.connectionPath with
          pairing := PairingPath.setTrusted
            (exec (persistTrusted P) written).2.connectionPath.pairing o.session.trusted } = _
        rw [hkept.path, ← hset]
        rfl
      · rw [← hset]
        exact hvacant
      · obtain ⟨more, htrace, hmore⟩ := hkept.ordinary
        rw [← hset] at htrace
        exact ⟨more, hset ▸ htrace, hmore⟩

end Owner

namespace PairingPath

open Owner

section Pairable

variable {P : Platform} {approving : Prop} {E : OwnerState → (ControlPayload → Prop) → Prop}
  {R : OwnerState → OwnerState → Prop} {o : OwnerState} [Pairable P approving E R]

include P approving E

theorem keeps_replaceTrusted {store : TrustedDeviceStore}
    (h : Change P approving o.pairingPath (o.pairingPath.setTrusted store)) :
    R o (exec (replaceTrusted P store) o).2 := by
  rcases replaceTrusted_outcome P store o with hwritten | hsame
  · have hstart : R o { o with session := o.session.setTrusted store } :=
      Pairable.silent h (silent_same rfl rfl) ⟨rfl, fun hvacant => hvacant, rfl⟩
    exact Frame.trans hstart (Aside.same hwritten)
  · exact Aside.same hsame

theorem keeps_when_replaceTrusted (c : Prop) [Decidable c] {store : TrustedDeviceStore}
    {α : Type} (value : α)
    (h : Change P approving o.pairingPath (o.pairingPath.setTrusted store)) :
    R o (exec (when c (replaceTrusted P store) >>= fun _ => pure value) o).2 := by
  refine keeps_from ?_ fun _ => inferInstance
  by_cases hc : c
  · rw [exec_when_true hc]
    exact keeps_replaceTrusted h
  · rw [exec_when_false hc]
    exact Frame.refl o

instance (deviceId : String) : Keeps R (removeTrustedDevice P deviceId) := by
  constructor
  intro o
  unfold removeTrustedDevice session
  rw [exec_read_bind]
  apply keeps_when_replaceTrusted
  apply Change.revoke
  intro id device hdevice
  rw [get_remove] at hdevice
  exact (Option.ite_none_left_eq_some.mp hdevice).2

instance : Keeps R (clearTrustedDevices P) := by
  constructor
  intro o
  unfold clearTrustedDevices session
  rw [exec_read_bind]
  apply keeps_when_replaceTrusted
  apply Change.revoke
  intro id device hdevice
  rw [get_clear] at hdevice
  cases hdevice

instance (revision : Nat) : Keeps R (dismissTrustedIdentityReplacement P revision) := by
  constructor
  intro o
  unfold dismissTrustedIdentityReplacement session
  rw [exec_read_bind]
  apply keeps_when_replaceTrusted
  apply Change.revoke
  intro id device hdevice
  rw [get_dismissIdentityReplacement] at hdevice
  exact hdevice

instance (revision : Nat) : Keeps R (replaceTrustedIdentityHistory P revision) := by
  constructor
  intro o
  unfold replaceTrustedIdentityHistory session
  rw [exec_read_bind]
  cases o.session.trusted.pendingIdentityReplacement with
  | none => exact Frame.refl o
  | some replacement =>
      dsimp only
      rw [exec_ite]
      split
      · refine keeps_from (keeps_replaceTrusted (Change.revoke _ ?_)) fun _ => inferInstance
        intro id device hdevice
        rw [get_setIdentityReplacement, get_removeCandidates] at hdevice
        exact (Option.ite_none_left_eq_some.mp hdevice).2
      · exact Frame.refl o

/-! ## The handshake -/

theorem keeps_installClientHello (target : SessionId) {hello : ClientHello}
    (hidentity : P.crypto.deriveDeviceId hello.publicKey = hello.senderId)
    (heard : E o IsClientHello) : R o (exec (installClientHello P target hello) o).2 := by
  have hevidence : Evidence E := Pairable.evidence R
  unfold installClientHello
  apply keeps_once_aside
  intro entropy o₁ hentropy
  cases entropy with
  | error message => exact Frame.refl o₁
  | ok receiverNonce =>
      apply keeps_once_aside
      intro binding o₂ hbinding
      unfold session
      rw [exec_read_bind]
      cases o₂.session.control.controlGeneration with
      | none => exact Frame.refl o₂
      | some generation =>
          dsimp only
          cases (o₂.session.transcriptOf hello receiverNonce binding generation).hash P.crypto with
          | error error => exact Frame.refl o₂
          | ok transcriptHash =>
              apply keeps_once_aside
              intro _ o₃ hsent
              apply keeps_once_aside
              intro now o₄ hlooked
              have hsince : Undisturbed o₂ o₄ := Frame.trans hsent hlooked
              have hinstalls : ∀ pending, pending.remoteConfirmed = false →
                  pending.senderCommitted = false →
                  pending.localConfirmed = o₂.session.autoAccepts hello →
                  o₄.pairingPath.Installs P ⟨hello.senderId, hello.deviceName, hello.publicKey, false⟩
                    pending := by
                intro pending hremote hcommitted hlocal
                refine ⟨hidentity, ⟨hremote, hcommitted⟩, rfl, fun hauto => ?_⟩
                rw [hsince.pairing]
                exact (Bool.and_eq_true _ _ |>.mp (hlocal.symm.trans hauto)).1
              refine Pairable.install _ _ (hinstalls _ rfl rfl rfl) ?_
                ⟨rfl, fun hvacant => hvacant, rfl⟩
              exact Evidence.undisturbed heard
                (Frame.trans hentropy (Frame.trans hbinding hsince))

theorem keeps_handleClientHello (target : SessionId) (hello : ClientHello)
    (heard : E o IsClientHello) : R o (exec (handleClientHello P target hello) o).2 := by
  unfold handleClientHello session
  rw [exec_read_bind, exec_ite]
  split
  · exact Frame.refl o
  · rename_i hrefused
    rw [exec_ite]
    split
    · have hreject : Keeps R (do
          let _ ← attempt (sendControlPayload target (.sessionError
            { code := "PUBLIC_KEY_CHANGED"
              message := "paired device public key changed; remove and re-pair" }))
          applyEvent (.abortConnection target.value .publicKeyChanged)) := inferInstance
      exact hreject.keeps o
    · refine keeps_installClientHello target ?_ heard
      by_contra hother
      exact hrefused (.inr (.inl hother))

/-! ## The challenge advances -/

theorem keeps_commitTrust (hconfirmed : o.pairingPath.Confirmed) :
    R o (exec (commitTrust P) o).2 := by
  unfold commitTrust
  apply keeps_once_aside
  intro nowMs o₁ hlooked
  unfold session
  rw [exec_read_bind]
  cases hsender : o₁.session.activeSender with
  | none => exact Frame.refl o₁
  | some sender =>
      have hsettle : Keeps R (modifySession ReceiverSession.commitReceiver) :=
        keeps_update fun _ => Pairable.silent .settle (silent_update fun _ => ⟨rfl, rfl⟩)
          ⟨rfl, fun hvacant => hvacant, rfl⟩
      refine keeps_from (keeps_replaceTrusted ?_) fun _ => inferInstance
      rw [← hlooked.pairing] at hconfirmed
      exact Change.trust sender nowMs hsender hconfirmed o₁.session rfl

instance : Keeps (WhileConfirmed R) (commitTrust P) := by
  constructor
  intro o hconfirmed
  refine ⟨keeps_commitTrust hconfirmed, ?_⟩
  have haside : Aside (Keeping fun o : OwnerState => o.pairingPath.Confirmed) :=
    { same := fun heq h =>
        confirmed_of_pairing h (congrArg PairingPath.pending heq.pairing) }
  have hstore : ∀ store, Keeps (Keeping fun o : OwnerState => o.pairingPath.Confirmed)
      (replaceTrusted P store) := by
    intro store
    constructor
    intro o h
    rcases replaceTrusted_outcome P store o with heq | heq <;>
    exact confirmed_of_pairing h ((congrArg PairingPath.pending heq.pairing).trans rfl)
  have hsettle : Keeps (Keeping fun o : OwnerState => o.pairingPath.Confirmed)
      (modifySession ReceiverSession.commitReceiver) := keeps_update fun o h => confirmed_settle h
  have hcommit : Keeps (Keeping fun o : OwnerState => o.pairingPath.Confirmed)
      (commitTrust P) := by
    unfold commitTrust
    apply keeps_then inferInstance
    intro nowMs
    apply keeps_then inferInstance
    intro s
    split <;> infer_instance
  exact hcommit.keeps o hconfirmed

instance : Keeps (WhileConfirmed R) permitSender := by
  constructor
  intro o hconfirmed
  unfold permitSender session
  rw [exec_read_bind]
  cases hsender : o.session.activeSender with
  | none => exact ⟨Frame.refl o, hconfirmed⟩
  | some sender =>
      have hnoted : R o { o with trace := o.trace ++ [.permitted sender.senderId] } := by
        have hnote : Keeps R (note (.permitted sender.senderId)) := inferInstance
        exact hnote.keeps o
      refine ⟨Frame.trans hnoted (Pairable.silent (Change.permit sender hsender hconfirmed)
        (silent_permit hsender hconfirmed) ⟨rfl, fun hvacant => hvacant, rfl⟩), hconfirmed⟩

instance : Keeps R (advancePairing P) := by
  constructor
  intro o
  unfold advancePairing session
  rw [exec_read_bind]
  cases hpending : o.session.pendingPairing with
  | none => exact Frame.refl o
  | some pending =>
      dsimp only
      by_cases hboth : pending.localConfirmed = true ∧ pending.remoteConfirmed = true
      · rw [if_pos hboth]
        by_cases hcommitted : pending.senderCommitted = true
        · rw [if_pos hcommitted]
          have hconfirmed : o.pairingPath.Confirmed :=
            ⟨pending, hpending, hboth.1, hboth.2, hcommitted⟩
          apply keeps_while hconfirmed
          intro _ o₁ hconfirmed
          apply keeps_while hconfirmed
          intro s o₂ hconfirmed
          apply keeps_while hconfirmed
          intro _ o₃ hconfirmed
          unfold permitVideo
          apply keeps_while hconfirmed
          intro _ o₄ _
          have hend : Keeps R (modifySession ReceiverSession.endPairing) :=
            keeps_update fun o => Pairable.silent .drop (silent_drop o.pairingPath)
              ⟨rfl, fun hvacant => hvacant, rfl⟩
          have hrest : Keeps R (do
              modifySession ReceiverSession.endPairing
              modifySession fun s => s.beginStreaming pending.session) := inferInstance
          exact hrest.keeps o₄
        · rw [if_neg hcommitted]
          have hoffer : Keeps R (modifySession ReceiverSession.noteApprovalSent) :=
            keeps_update fun _ => Pairable.silent .offer (silent_update fun _ => ⟨rfl, rfl⟩)
              ⟨rfl, fun hvacant => hvacant, rfl⟩
          have hrest : Keeps R (if pending.approvalSent then pure () else do
              sendControlPayload pending.session
                (.pairingApproval (proofOf P o.session pending pairingApprovalPhase))
              modifySession ReceiverSession.noteApprovalSent) := inferInstance
          exact hrest.keeps o
      · rw [if_neg hboth]
        exact Frame.refl o

/-! ## The Sender's proofs -/

theorem keeps_takeConfirm (target : SessionId) (confirm : PairingProof)
    (heard : E o IsPairingConfirm) : R o (exec (takeConfirm P target confirm) o).2 := by
  have hevidence : Evidence E := Pairable.evidence R
  unfold takeConfirm session
  rw [exec_read_bind]
  cases o.session.pendingPairing with
  | none => exact Frame.refl o
  | some pending =>
      apply keeps_once_aside
      intro now o₁ hlooked
      rw [exec_ite]
      split
      · have hdrop : Keeps R (modifySession ReceiverSession.dropExpiredChallenge) :=
          keeps_update fun o => Pairable.silent .drop (silent_drop o.pairingPath)
            ⟨rfl, fun hvacant => hvacant, rfl⟩
        have hexpired : Keeps R (do
            modifySession ReceiverSession.dropExpiredChallenge
            fail (.protocol "pairing challenge expired") : Owner Unit) := inferInstance
        exact hexpired.keeps o₁
      · rw [exec_ite]
        split
        · exact Frame.refl o₁
        · cases hsender : o.session.activeSender with
          | none => exact Frame.refl o₁
          | some sender =>
              dsimp only
              rw [exec_ite]
              split
              · exact Frame.refl o₁
              · rw [exec_ite]
                split
                · rename_i hverified
                  have hproved : o₁.pairingPath.Proved P :=
                    proved_of_verified hsender (congrArg PairingPath.sender hlooked.pairing)
                      hverified
                  exact Pairable.confirm hproved (Evidence.undisturbed heard hlooked)
                    ⟨rfl, fun hvacant => hvacant, rfl⟩
                · exact Frame.refl o₁

theorem keeps_takeCommit (target : SessionId) (commit : PairingProof)
    (heard : E o IsPairingCommit) : R o (exec (takeCommit P target commit) o).2 := by
  unfold takeCommit session
  rw [exec_read_bind, exec_ite]
  split
  · rename_i hverified
    refine Pairable.commit ?_ heard ⟨rfl, fun hvacant => hvacant, rfl⟩
    unfold verifySenderPhase at hverified
    split at hverified
    · rename_i pending sender hpending hsender
      rw [Bool.and_eq_true] at hverified
      exact proved_of_verified hsender rfl hverified.2
    · cases hverified
  · exact Frame.refl o

theorem keeps_handlePairingConfirm (target : SessionId) (confirm : PairingProof)
    (heard : E o IsPairingConfirm) : R o (exec (handlePairingConfirm P target confirm) o).2 := by
  rw [handlePairingConfirm_parts]
  exact keeps_from (keeps_takeConfirm target confirm heard) fun _ => inferInstance

theorem keeps_handlePairingCommit (target : SessionId) (commit : PairingProof)
    (heard : E o IsPairingCommit) : R o (exec (handlePairingCommit P target commit) o).2 := by
  rw [handlePairingCommit_parts]
  exact keeps_from (keeps_takeCommit target commit heard) fun _ => inferInstance

/-! ## The user -/

theorem keeps_approvePending (approved : approving) : Keeps R approvePending := by
  have hconfirm : Keeps R (modifySession ReceiverSession.confirmLocal) :=
    keeps_update fun _ => Pairable.silent (.approve approved) (silent_update fun _ => ⟨rfl, rfl⟩)
      ⟨rfl, fun hvacant => hvacant, rfl⟩
  unfold approvePending
  apply keeps_then inferInstance
  intro s
  split <;> infer_instance

theorem keeps_confirmPairingLocally (approved : approving) :
    Keeps R (confirmPairingLocally P) := by
  have happrove : Keeps R approvePending := keeps_approvePending approved
  unfold confirmPairingLocally
  infer_instance

/-! ## Control messages -/

theorem keeps_handlePayload (target : SessionId) (phase : ReceiverControlPhase)
    (payload : ControlPayload) (heard : ∀ kind : ControlPayload → Prop, kind payload → E o kind) :
    R o (exec (handlePayload P target phase payload) o).2 := by
  have hkeeps : ∀ {p : Owner Unit}, Keeps R p → R o (exec p o).2 := fun hp => hp.keeps o
  unfold handlePayload
  cases phase with
  | awaitingClientHello =>
      cases payload with
      | clientHello hello => exact keeps_handleClientHello target hello (heard _ ⟨hello, rfl⟩)
      | _ => exact hkeeps inferInstance
  | pairing =>
      cases payload with
      | pairingCommit commit => exact keeps_handlePairingCommit target commit (heard _ ⟨commit, rfl⟩)
      | pairingConfirm confirm =>
          exact keeps_handlePairingConfirm target confirm (heard _ ⟨confirm, rfl⟩)
      | _ => exact hkeeps inferInstance
  | authenticatedIdle => cases payload <;> exact hkeeps inferInstance
  | streaming => cases payload <;> exact hkeeps inferInstance

theorem keeps_dispatchEnvelope (target : SessionId) (envelope : ControlEnvelope)
    (hconnection : o.connectionPath.connection = some target.value) :
    R o (exec (dispatchEnvelope P target envelope) o).2 := by
  have hevidence : Evidence E := Pairable.evidence R
  have hreceived : Keeps Undisturbed
      (modifySession fun s => s.noteReceived envelope.messageId) :=
    aside_session fun _ => ⟨rfl, rfl⟩
  unfold dispatchEnvelope
  apply keeps_once_aside
  intro _ o₁ hnoted
  unfold session
  rw [exec_read_bind, exec_ite]
  split
  · exact Frame.refl o₁
  · rw [exec_ite]
    split
    · exact Frame.refl o₁
    · have hnote : Keeps R (note (.dispatched target envelope)) := inferInstance
      have hstart := hnote.keeps o₁
      unfold note at hstart ⊢
      rw [exec_update_bind]
      refine Frame.trans hstart (keeps_handlePayload target _ envelope.payload fun kind hkind => ?_)
      exact Evidence.dispatched envelope (hnoted.connection.trans hconnection) hkind

theorem keeps_handleEnvelope (target : SessionId) (envelope : ControlEnvelope)
    (hconnection : o.connectionPath.connection = some target.value) :
    R o (exec (handleEnvelope P target envelope) o).2 := by
  have hcontrol : ∀ control,
      Keeps Undisturbed (modifySession fun s => s.setControl control) :=
    fun _ => aside_session fun _ => ⟨rfl, rfl⟩
  unfold handleEnvelope session
  rw [exec_read_bind]
  split
  · exact Frame.refl o
  · apply keeps_once_aside
    intro _ o₁ hset
    split
    · exact Frame.refl o₁
    · exact keeps_dispatchEnvelope target envelope (hset.connection.trans hconnection)

theorem keeps_handleControl (target : SessionId) (message : ControlFrame)
    (hconnection : o.connectionPath.connection = some target.value) :
    R o (exec (handleControl P target message) o).2 := by
  unfold handleControl
  apply keeps_once_aside
  intro active o₁ hlooked
  rw [exec_ite]
  split
  · exact Frame.refl o₁
  · split
    · exact Frame.refl o₁
    · refine keeps_from (keeps_handleEnvelope target _ ?_) fun _ => inferInstance
      exact hlooked.connection.trans hconnection

theorem keeps_acceptControl (target : SessionId) (message : ControlFrame)
    (hconnection : o.connectionPath.connection = some target.value) :
    R o (exec (acceptControl P target message) o).2 := by
  unfold acceptControl
  rw [exec_attempt_bind]
  refine Frame.trans (keeps_handleControl target message hconnection) ?_
  generalize (exec (handleControl P target message) o).1 = outcome
  cases outcome with
  | ok _ =>
      have hdone : Keeps R (pure () : Owner Unit) := inferInstance
      exact hdone.keeps _
  | error error =>
      have hrejected : Keeps R (do
          rejectControlSession target
          fail error : Owner Unit) := inferInstance
      exact hrejected.keeps _

/-- A message is accepted of the adopted connection only. -/
instance (target : SessionId) (message : ControlFrame) :
    Keeps R (receiveControl P target message) := by
  constructor
  intro o
  unfold receiveControl
  rw [exec_bind_ok (exec_controlReceived o target.value)]
  by_cases h : o.connectionPath.connection = some target.value
  · rw [if_pos h, exec_when_true (List.mem_singleton_self _)]
    exact keeps_acceptControl target message h
  · rw [if_neg h, exec_when_false List.not_mem_nil]
    exact Frame.refl o

/-! ## Steps -/

theorem keeps_handleTransportEvent {event : TransportEvent}
    (h : ∀ target, event ≠ .connected target) : Keeps R (handleTransportEvent P event) := by
  cases event with
  | connected target => exact absurd rfl (h target)
  | disconnected target reason =>
      unfold handleTransportEvent
      infer_instance
  | controlMessage target message =>
      unfold handleTransportEvent
      infer_instance
  | videoPackets target receivedAt packets =>
      unfold handleTransportEvent
      infer_instance

theorem keeps_pollTransportEvent (h : o.adoption = none) :
    R o (exec (pollTransportEvent P) o).2 := by
  have htaken : R o o.polled :=
    Frame.trans (aside_world o.session_turn o.trace_turn) (aside_world rfl rfl)
  rw [exec_pollTransportEvent]
  apply Frame.trans htaken
  unfold OwnerState.adoption at h
  cases hevent : o.turn.world.worker.pollEvent.1 with
  | none => exact Frame.refl o.polled
  | some event =>
      dsimp only
      refine keeps_from ?_ fun _ => inferInstance
      rw [hevent] at h
      by_cases hconnected : ∃ target, event = .connected target
      · obtain ⟨target, htarget⟩ := hconnected
        subst htarget
        -- The connection has ended in the meantime.
        have hstale : o.polled.turn.world.worker.activeSession ≠ some target := by
          intro hactive
          simp [hactive] at h
        have hexec : exec (handleTransportEvent P (.connected target)) o.polled =
            exec (if o.polled.turn.world.worker.activeSession = some target then
              applyEvent (.transportConnected target.value) else pure ()) o.polled.turn := rfl
        rw [hexec, if_neg hstale]
        exact aside_world o.polled.session_turn o.polled.trace_turn
      · have hkeeps : Keeps R (handleTransportEvent P event) :=
          keeps_handleTransportEvent fun target heq => hconnected ⟨target, heq⟩
        exact hkeeps.keeps o.polled

instance : Keeps R (clearTrustedDevicesAndDisconnect P) := by
  unfold clearTrustedDevicesAndDisconnect
  infer_instance

theorem keeps_runCommand (o : OwnerState) (command : OwnerCommand)
    (approved : command = .confirmPairing → approving) : R o (runCommand P o command) := by
  have hauto : ∀ enabled, Keeps R (modifySession fun s => s.setAutoAcceptPaired enabled) :=
    fun _ => aside_session fun _ => ⟨rfl, rfl⟩
  have hname : ∀ name, Keeps R (modifySession fun s => s.setDisplayName name) :=
    fun _ => aside_session fun _ => ⟨rfl, rfl⟩
  have hheight : ∀ height, Keeps R (modifySession fun s => s.setAdvertisedMaxHeight height) :=
    fun _ => aside_session fun _ => ⟨rfl, rfl⟩
  have hunavailable : Keeps R (modifySession ReceiverSession.markVirtualCameraUnavailable) := by
    apply aside_session
    intro o
    unfold ReceiverSession.markVirtualCameraUnavailable OwnerState.connectionPath
      OwnerState.pairingPath
    split <;> exact ⟨rfl, rfl⟩
  have hready : Keeps R (modifySession ReceiverSession.clearVirtualCameraUnavailable) := by
    apply aside_session
    intro o
    unfold ReceiverSession.clearVirtualCameraUnavailable OwnerState.connectionPath
      OwnerState.pairingPath
    split <;> exact ⟨rfl, rfl⟩
  have hpermission : Keeps R (modifySession ReceiverSession.markPermissionRequired) :=
    aside_session fun _ => ⟨rfl, rfl⟩
  cases command with
  | confirmPairing => exact (keeps_confirmPairingLocally (approved rfl)).keeps o
  | _ => exact Keeps.keeps o

theorem keeps_next (o : OwnerState) {label : OwnerStep} (h : ¬Adopts o label)
    (approved : label = .command .confirmPairing → approving) : R o (next P o label) := by
  cases label with
  | schedule steps => exact aside_world rfl rfl
  | turn => exact aside_world o.session_turn o.trace_turn
  | pollTransportEvent =>
      apply keeps_pollTransportEvent
      by_contra hadoption
      exact h ⟨rfl, hadoption⟩
  | command command =>
      exact keeps_runCommand o command fun hcommand => approved (congrArg _ hcommand)
  | _ => exact Keeps.keeps o

theorem keeps_next_adopting [Adoptable R] (o : OwnerState) {label : OwnerStep}
    (approved : label = .command .confirmPairing → approving) : R o (next P o label) := by
  by_cases hadopts : Adopts o label
  · obtain ⟨rfl, _⟩ := hadopts
    have hpoll : Keeps R (pollTransportEvent P) := by
      unfold pollTransportEvent
      apply keeps_then inferInstance
      intro event
      split
      · infer_instance
      · rename_i event
        apply keeps_then _ fun _ => inferInstance
        cases event <;>
        · unfold handleTransportEvent
          infer_instance
    exact hpoll.keeps o
  · exact keeps_next o hadopts approved

end Pairable

end PairingPath

namespace Owner

open PairingPath

theorem next_pairs (P : Platform) (o : OwnerState) (label : OwnerStep) :
    Pairs P (label = .command .confirmPairing) o (next P o label) :=
  keeps_next_adopting o id

end Owner

end PicooCamera.Receiver
