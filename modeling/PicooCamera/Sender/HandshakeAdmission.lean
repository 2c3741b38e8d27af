import PicooCamera.Pairing.StoreAdmission
import PicooCamera.Sender.PairingSimulation

/-!
# The trust commit of the Sender

A Receiver that is trusted already keeps the name it has. A new one is stored
under the name that it sends, and under its id where it sends none; the store
refuses a name of whitespace only.
-/

namespace PicooCamera.Sender

open PicooCamera.Library PicooCamera.Packet PicooCamera.Protocol PicooCamera.Pairing
open PicooCamera.Transport Program TrustedDeviceStore PairingPath

/-- The steps of the session, and the handlers of the messages that pair. -/
inductive HandshakeStep where
  | session (label : SenderStep)
  /-- A part of a step that does nothing to the handshake. -/
  | elsewhere (s : SenderState)
  | serverHello (hello : ServerHello)
  | approve

/-- A Sender starts with the store that it has read. -/
def handshakeSystem (P : SenderPlatform) (codec : TrustCodec) :
    TransitionSystem SenderState HandshakeStep where
  init s := ∃ identity trusted hasPath, (storeSystem codec P.crypto).init trusted ∧
    s = SenderState.new identity trusted hasPath
  step s label s' :=
    match label with
    | .session label => s' = Core.next P s label
    | .elsewhere other => other.pairingPath = s.pairingPath ∧ s' = other
    | .serverHello hello => s' = Core.run (Core.onServerHello P hello) s
    | .approve => s' = Core.run (Core.acceptPairingApproval P) s

/-! ## Whom the session trusts -/

namespace PairingPath

variable {P : SenderPlatform} {c c' : PairingPath}

/-- The Receiver has the id of its key, and the key is valid. -/
structure Admitted (P : SenderPlatform) (c : PairingPath) : Prop where
  keyed : Keyed c.trusted
  identified : ∀ pairing ∈ c.pairing,
    P.crypto.deriveDeviceId pairing.publicKey = pairing.receiverId
  proved : ∀ pairing ∈ c.pairing, pairing.publicKey.length = publicKeyLen ∧
    P.crypto.validKey pairing.publicKey = true

theorem keyed_trustedAfterApproval {s : SenderSession} (h : Keyed s.trusted)
    (pairing : SenderPairing) (nowMs : Nat) :
    Keyed (s.trustedAfterApproval P pairing nowMs) := by
  unfold SenderSession.trustedAfterApproval
  split
  · exact h.apply (.touchLastConnected pairing.receiverId nowMs)
  · exact h.upsert _

theorem Admitted.update (h : c.Admitted P) {f : SenderPairing → SenderPairing}
    (hsame : ∀ pairing, (f pairing).receiverId = pairing.receiverId ∧
      (f pairing).publicKey = pairing.publicKey) : (c.updatePairing f).Admitted P := by
  refine ⟨h.keyed, ?_, ?_⟩
  · intro pairing hpairing
    obtain ⟨before, hbefore, rfl⟩ := Option.mem_map.mp hpairing
    rw [(hsame before).1, (hsame before).2]
    exact h.identified before hbefore
  · intro pairing hpairing
    obtain ⟨before, hbefore, rfl⟩ := Option.mem_map.mp hpairing
    rw [(hsame before).2]
    exact h.proved before hbefore

theorem Admitted.change (h : c.Admitted P) (hchange : Change P c c') : c'.Admitted P := by
  cases hchange with
  | drop => exact ⟨h.keyed, nofun, nofun⟩
  | install pairing installs =>
      refine ⟨h.keyed, ?_, ?_⟩
      · intro other hother
        rw [← Option.mem_some.mp hother]
        exact installs.identified
      · intro other hother
        rw [← Option.mem_some.mp hother]
        exact installs.proved
  | confirm => exact h.update fun _ => ⟨rfl, rfl⟩
  | settle => exact h.update fun _ => ⟨rfl, rfl⟩
  | revoke store fewer =>
      refine ⟨fun id device hdevice => ?_, h.identified, h.proved⟩
      exact h.keyed id device (fewer id device hdevice)
  | trust pairing nowMs active confirmed s same =>
      exact ⟨keyed_trustedAfterApproval (same ▸ h.keyed) pairing nowMs, h.identified, h.proved⟩

theorem Admitted.changes (h : c.Admitted P) (hchanges : Changes P c c') : c'.Admitted P := by
  induction hchanges with
  | refl => exact h
  | tail _ hchange ih => exact ih.change hchange

end PairingPath

section Reached

variable {P : SenderPlatform} {codec : TrustCodec} {s : SenderState}

theorem handshake_pairs {s' : SenderState} {label : HandshakeStep}
    (h : (handshakeSystem P codec).step s label s') : Pairs P s s' := by
  cases label with
  | session label =>
      rw [show s' = Core.next P s label from h]
      exact Core.next_pairs P s label
  | elsewhere other =>
      obtain ⟨hsame, rfl⟩ := h
      exact Core.pairs_path hsame
  | serverHello hello =>
      rw [show s' = Core.run (Core.onServerHello P hello) s from h]
      exact Keeps.keeps s
  | approve =>
      rw [show s' = Core.run (Core.acceptPairingApproval P) s from h]
      exact Keeps.keeps s

/-- Run lemma. -/
theorem admitted_of_reachable (h : (handshakeSystem P codec).Reachable s) :
    s.pairingPath.Admitted P := by
  refine @TransitionSystem.Reachable.invariant _ _ _ _ (fun s => s.pairingPath.Admitted P) ?_ ?_ h
  · rintro s ⟨identity, trusted, hasPath, hstore, rfl⟩
    exact ⟨keyed_of_reachable (.of_init hstore), nofun, nofun⟩
  · exact fun s label s' hadmitted hstep => hadmitted.changes (handshake_pairs hstep)

end Reached

/-! ## The commit -/

/-- The Receiver's approval will be answered with trust. -/
structure AtCommit (s : SenderState) (pairing : SenderPairing) : Prop where
  challenged : s.session.pairing = some pairing
  awaiting : s.session.awaitsProof = true
  confirmed : pairing.confirmSent = true
  uncommitted : pairing.trustCommitted = false

/-- The file system does what it is asked at all of the session's next looks. -/
def WorkingDisk (s : SenderState) : Prop := ∀ n, (SenderState.turn^[n] s).answer.disk = .ok ()

/-- The device that the approval stores. -/
def deviceOf (P : SenderPlatform) (s : SenderSession) (pairing : SenderPairing) (nowMs : Nat) :
    TrustedDevice :=
  match s.trusted.get pairing.receiverId with
  | some device => { device with lastConnectedAtMs := some nowMs }
  | none =>
      trustedDeviceFromPairing P.crypto pairing.receiverId
        (if pairing.displayName = "" then pairing.receiverId else pairing.displayName)
        pairing.publicKey nowMs

section Commit

variable {P : SenderPlatform} {s : SenderSession} {pairing : SenderPairing} {nowMs : Nat}

theorem trustedAfterApproval_eq (hkeyed : Keyed s.trusted) :
    s.trustedAfterApproval P pairing nowMs = s.trusted.upsert (deviceOf P s pairing nowMs) ∧
      (deviceOf P s pairing nowMs).deviceId = pairing.receiverId := by
  unfold SenderSession.trustedAfterApproval deviceOf
  cases hdevice : s.trusted.get pairing.receiverId with
  | none =>
      have hunpaired : ¬s.trusted.isPaired pairing.receiverId = true := by
        intro hpaired
        obtain ⟨device, hsome⟩ := isPaired_iff.mp hpaired
        rw [hdevice] at hsome
        cases hsome
      rw [if_neg hunpaired]
      exact ⟨rfl, rfl⟩
  | some device =>
      rw [if_pos (isPaired_iff.mpr ⟨device, hdevice⟩)]
      unfold touchLastConnected
      rw [hdevice]
      have hid : device.deviceId = pairing.receiverId := hkeyed _ _ hdevice
      exact ⟨rfl, hid⟩

/-- A name that the store admits: that of a known Receiver, its id or one that is not blank. -/
def Named (s : SenderSession) (pairing : SenderPairing) : Prop :=
  s.trusted.isPaired pairing.receiverId = true ∨ pairing.displayName = "" ∨
    ¬Blank pairing.displayName

theorem accepted_trustedAfterApproval (hkeyed : Keyed s.trusted)
    (h : Accepted P.crypto s.trusted)
    (hid : P.crypto.deriveDeviceId pairing.publicKey = pairing.receiverId)
    (hkey : pairing.publicKey.length = publicKeyLen ∧
      P.crypto.validKey pairing.publicKey = true) :
    Accepted P.crypto (s.trustedAfterApproval P pairing nowMs) ↔ Named s pairing := by
  obtain ⟨heq, hdeviceId⟩ := @trustedAfterApproval_eq P s pairing nowMs hkeyed
  have hstored : (s.trusted.upsert (deviceOf P s pairing nowMs)).get pairing.receiverId =
      some (deviceOf P s pairing nowMs) := by
    rw [get_upsert]
    exact if_pos hdeviceId
  have hvalid : validateDevice P.crypto (deviceOf P s pairing nowMs) = .ok () ↔
      Named s pairing := by
    unfold deviceOf Named
    cases hdevice : s.trusted.get pairing.receiverId with
    | some device =>
        have hold := validateDevice_ok.mp (h.devices _ _ hdevice)
        exact iff_of_true (validateDevice_ok.mpr hold)
          (.inl (isPaired_iff.mpr ⟨device, hdevice⟩))
    | none =>
        have hunpaired : ¬s.trusted.isPaired pairing.receiverId = true := by
          intro hpaired
          obtain ⟨device, hsome⟩ := isPaired_iff.mp hpaired
          rw [hdevice] at hsome
          cases hsome
        rw [or_iff_right hunpaired, validateDevice_ok]
        unfold trustedDeviceFromPairing
        dsimp only
        by_cases hempty : pairing.displayName = ""
        · rw [if_pos hempty, ← hid]
          exact iff_of_true ⟨hkey.1, hkey.2, rfl, rfl,
            fun h => not_blank_deriveDeviceId _ _ (trim_eq_empty.mp h)⟩ (.inl hempty)
        · rw [if_neg hempty, or_iff_right hempty]
          constructor
          · exact fun hall hblank => hall.2.2.2.2 (trim_eq_empty.mpr hblank)
          · exact fun hname => ⟨hkey.1, hkey.2, hid, rfl, fun h => hname (trim_eq_empty.mp h)⟩
  rw [heq, ← hvalid]
  exact ⟨fun haccepted => haccepted.devices _ _ hstored, fun hdevice => h.upsert hdevice⟩

end Commit

/-! ## What the commit writes -/

/-- The store stays as it is. -/
def SameTrust (s s' : SenderState) : Prop := s'.session.trusted = s.session.trusted

instance : Endable SameTrust where
  refl _ := rfl
  trans hst htu := htu.trans hst
  same h := congrArg PairingPath.trusted h
  drop h := congrArg PairingPath.trusted h

namespace Core

variable {P : SenderPlatform} {codec : TrustCodec} {s : SenderState} {store : TrustedDeviceStore}
  {pairing : SenderPairing}

theorem exec_persistTrusted_disk (P : SenderPlatform) (s : SenderState) :
    exec (persistTrusted P) s =
      if s.session.hasTrustedStorePath then
        ((s.session.trusted.saveToPath P.crypto s.answer.disk).mapError SessionFault.store, s.turn)
      else (.ok (), s) := by
  unfold persistTrusted session
  rw [exec_read_bind, exec_ite]
  split
  · unfold look
    rw [bind_assoc, exec_read_bind, bind_assoc, exec_update_bind, pure_bind]
    cases s.session.trusted.saveToPath P.crypto s.answer.disk <;> rfl
  · rfl

/-- With a working disk a store is written unless it is kept in a file and refused. -/
theorem replaceTrusted_trusted (hdisk : s.answer.disk = .ok ()) :
    (exec (replaceTrusted P store) s).2.session.trusted =
      if s.session.hasTrustedStorePath = true ∧ store.validate P.crypto ≠ .ok () then
        s.session.trusted
      else store := by
  unfold replaceTrusted modifySession
  rw [exec_read_bind, exec_update_bind, exec_attempt_bind]
  generalize hset : ({ s with session := s.session.setTrusted store } : SenderState) = written
  have hsession : written.session = s.session.setTrusted store := by rw [← hset]
  have hanswer : written.answer = s.answer := by
    rw [← hset]
    rfl
  have hpersist : exec (persistTrusted P) written =
      if s.session.hasTrustedStorePath then
        ((store.validate P.crypto).mapError SessionFault.store, written.turn)
      else (.ok (), written) := by
    rw [exec_persistTrusted_disk, hanswer, hdisk, hsession]
    change (if s.session.hasTrustedStorePath = true then
      ((store.saveToPath P.crypto (.ok ())).mapError _, _) else _) = _
    rw [saveToPath_ok]
  rw [hpersist]
  by_cases hpath : s.session.hasTrustedStorePath = true
  · rw [if_pos hpath]
    cases hvalid : store.validate P.crypto with
    | ok value =>
        rw [if_neg fun h => h.2 rfl]
        change written.session.trusted = store
        rw [hsession]
        rfl
    | error error =>
        rw [if_pos ⟨hpath, nofun⟩]
        rfl
  · rw [if_neg hpath, if_neg fun h => hpath h.1]
    change written.session.trusted = store
    rw [hsession]
    rfl

theorem trusted_bind {α β : Type} (p : Core α) (f : α → Core β) [hf : ∀ a, Keeps SameTrust (f a)]
    (s : SenderState) :
    (exec (p >>= f) s).2.session.trusted = (exec p s).2.session.trusted := by
  rw [exec_bind]
  cases hexec : exec p s with
  | mk result after =>
      cases result with
      | error error => rfl
      | ok a => exact (hf a).keeps after

instance (pairing : SenderPairing) : Keeps SameTrust (sendPairingCommit P pairing) := by
  unfold sendPairingCommit
  apply keeps_then inferInstance
  intro s
  split
  · infer_instance
  · apply keeps_then inferInstance
    intro outcome
    split <;> infer_instance

theorem acceptPairingApproval_trusted (hcommit : AtCommit s pairing)
    (hreceiver : pairing.receiverId ≠ "") (hdisk : WorkingDisk s) :
    (run (acceptPairingApproval P) s).session.trusted =
      let store := s.session.trustedAfterApproval P pairing s.answer.wallClockMs
      if s.session.hasTrustedStorePath = true ∧ store.validate P.crypto ≠ .ok () then
        s.session.trusted
      else store := by
  have hsettle : Keeps SameTrust (modifySession SenderSession.noteTrustCommitted) :=
    keeps_update fun _ => rfl
  have hawaiting : ¬s.session.awaitsProof = false := by
    rw [hcommit.awaiting]
    exact Bool.noConfusion
  have hconfirmed : ¬pairing.confirmSent = false := by
    rw [hcommit.confirmed]
    exact Bool.noConfusion
  have huncommitted : ¬pairing.trustCommitted = true := by
    rw [hcommit.uncommitted]
    exact Bool.noConfusion
  unfold run acceptPairingApproval session
  rw [exec_read_bind, if_neg hawaiting, hcommit.challenged]
  dsimp only
  rw [if_neg hreceiver, if_neg hconfirmed, trusted_bind]
  unfold commitTrust look session
  rw [if_neg huncommitted, bind_assoc, exec_read_bind, bind_assoc, exec_update_bind, pure_bind,
    exec_read_bind]
  have hturn : s.turn.session = s.session := rfl
  have hwritten := @replaceTrusted_trusted P s.turn
    (s.session.trustedAfterApproval P pairing s.answer.wallClockMs) (hdisk 1)
  rw [hturn] at hwritten
  rw [hturn, exec_attempt_bind]
  refine Eq.trans ?_ hwritten
  cases (exec (replaceTrusted P _) s.turn).1 with
  | ok value =>
      exact (inferInstance : Keeps SameTrust (do
        modifySession SenderSession.noteTrustCommitted
        pure true)).keeps _
  | error fault =>
      exact (inferInstance : Keeps SameTrust (do
        setError "PAIRING_STORE_FAILED"
        pure false)).keeps _

theorem sender_admission_iff (hreached : (handshakeSystem P codec).Reachable s)
    (hcommit : AtCommit s pairing) (hvalid : Valid P.crypto s.session.trusted)
    (hdisk : WorkingDisk s) :
    Persists codec P.crypto (run (acceptPairingApproval P) s).session.trusted
        (deviceOf P s.session pairing s.answer.wallClockMs) ↔ Named s.session pairing := by
  have hadmitted := admitted_of_reachable hreached
  have hkeyed : Keyed s.session.trusted := hadmitted.keyed
  have haccepted := (valid_iff hkeyed).mp hvalid
  have hid := hadmitted.identified pairing hcommit.challenged
  have hkey := hadmitted.proved pairing hcommit.challenged
  have hreceiver : pairing.receiverId ≠ "" := by
    intro hempty
    rw [hempty] at hid
    refine not_blank_deriveDeviceId P.crypto pairing.publicKey ?_
    rw [hid]
    exact nofun
  obtain ⟨heq, hdeviceId⟩ :=
    @trustedAfterApproval_eq P s.session pairing s.answer.wallClockMs hkeyed
  have hstored : (s.session.trustedAfterApproval P pairing s.answer.wallClockMs).get
      (deviceOf P s.session pairing s.answer.wallClockMs).deviceId =
        some (deviceOf P s.session pairing s.answer.wallClockMs) := by
    rw [heq, get_upsert, if_pos rfl]
  rw [acceptPairingApproval_trusted hcommit hreceiver hdisk,
    ← @accepted_trustedAfterApproval P s.session pairing s.answer.wallClockMs hkeyed
      haccepted hid hkey]
  dsimp only
  split
  · rename_i hrefused
    rw [persists_iff hkeyed]
    have hnot : ¬Accepted P.crypto
        (s.session.trustedAfterApproval P pairing s.answer.wallClockMs) :=
      fun h => hrefused.2 (validate_ok.mpr h)
    refine iff_of_false ?_ hnot
    rintro ⟨hdevice, _⟩
    -- A Receiver that is stored already is admitted under the name it has.
    rw [hdeviceId] at hdevice
    refine hnot ((accepted_trustedAfterApproval hkeyed haccepted hid hkey).mpr (.inl ?_))
    exact isPaired_iff.mpr ⟨_, hdevice⟩
  · rw [persists_iff (keyed_trustedAfterApproval hkeyed pairing _)]
    exact and_iff_right hstored

end Core

end PicooCamera.Sender
