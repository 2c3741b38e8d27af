import PicooCamera.Pairing.StoreAdmission
import PicooCamera.Receiver.PairingSimulation

/-!
# The trust commit of the Receiver

A Sender that reaches the commit has a key that the store admits, under the id of
that key. Its name was never looked at: the store refuses it where it is blank.
-/

namespace PicooCamera.Receiver

open PicooCamera.Library PicooCamera.Packet PicooCamera.Protocol PicooCamera.Pairing
open PicooCamera.Transport Program TrustedDeviceStore PairingPath

/-! ## The handshake, part by part -/

/-- The steps of the owner, and the parts of those that advance a challenge. -/
inductive HandshakeStep where
  | owner (label : OwnerStep)
  /-- A part of a step that does nothing to the handshake. -/
  | elsewhere (o : OwnerState)
  | clientHello (session : SessionId) (hello : ClientHello)
  | confirm (session : SessionId) (confirm : PairingProof)
  | commit (session : SessionId) (commit : PairingProof)
  | approve
  | advance

/-- A Receiver starts with the store that it has read. -/
def handshakeSystem (P : Platform) (codec : TrustCodec) :
    TransitionSystem OwnerState HandshakeStep where
  init o := ∃ identity trusted hasPath, (storeSystem codec P.crypto).init trusted ∧
    o = OwnerState.new identity trusted hasPath
  step o label o' :=
    match label with
    | .owner label => o' = Owner.next P o label
    | .elsewhere other => other.pairingPath = o.pairingPath ∧ o' = other
    | .clientHello session hello => o' = Owner.run (Owner.handleClientHello P session hello) o
    | .confirm session confirm => o' = Owner.run (Owner.takeConfirm P session confirm) o
    | .commit session commit => o' = Owner.run (Owner.takeCommit P session commit) o
    | .approve => o' = Owner.run Owner.approvePending o
    | .advance => o' = Owner.run (Owner.advancePairing P) o

/-! ## Who reaches the commit -/

namespace PairingPath

variable {P : Platform} {c c' : PairingPath} {approving : Prop}

/-- The Sender has the id of its key, and the key is valid once it has signed. -/
structure Admitted (P : Platform) (c : PairingPath) : Prop where
  keyed : Keyed c.trusted
  identified : ∀ sender ∈ c.sender, P.crypto.deriveDeviceId sender.publicKey = sender.senderId
  proved : ∀ pending ∈ c.pending,
    pending.remoteConfirmed = true ∨ pending.senderCommitted = true → c.Proved P

theorem keyed_trustedAfterCommit {s : ReceiverSession} (h : Keyed s.trusted)
    (sender : ActiveSender) (nowMs : Nat) : Keyed (s.trustedAfterCommit P sender nowMs) := by
  rcases trustedAfterCommit_cases P s sender nowMs with ⟨_, heq⟩ | heq <;> rw [heq]
  · exact h.upsert _
  · exact keyed_prepareReplacement (h.upsert _) _

theorem Admitted.update (h : c.Admitted P) {f : PendingPairing → PendingPairing}
    (hproved : ∀ pending ∈ c.pending, (f pending).remoteConfirmed = true ∨
      (f pending).senderCommitted = true → c.Proved P) : (c.updatePending f).Admitted P := by
  refine ⟨h.keyed, h.identified, fun pending hpending => ?_⟩
  obtain ⟨before, hbefore, rfl⟩ := Option.mem_map.mp hpending
  exact hproved before hbefore

theorem Admitted.change (h : c.Admitted P) (hchange : Change P approving c c') :
    c'.Admitted P := by
  cases hchange with
  | tearDown => exact ⟨h.keyed, nofun, nofun⟩
  | install sender pending installs =>
      refine ⟨h.keyed, ?_, ?_⟩
      · intro other hother
        rw [← Option.mem_some.mp hother]
        exact installs.identified
      · intro other hother hproved
        rw [← Option.mem_some.mp hother, installs.unproved.1, installs.unproved.2] at hproved
        cases hproved <;> contradiction
  | drop => exact ⟨h.keyed, h.identified, nofun⟩
  | approve => exact h.update h.proved
  | confirm proved => exact h.update fun _ _ _ => proved
  | offer => exact h.update h.proved
  | commit proved => exact h.update fun _ _ _ => proved
  | settle => exact h.update h.proved
  | revoke store fewer =>
      refine ⟨fun id device hdevice => ?_, h.identified, h.proved⟩
      exact h.keyed id device (fewer id device hdevice)
  | trust sender nowMs active confirmed s same =>
      exact ⟨keyed_trustedAfterCommit (same ▸ h.keyed) sender nowMs, h.identified, h.proved⟩
  | permit sender active confirmed =>
      have hsame : ∀ other ∈ (c.setSender { sender with videoAllowed := true }).sender,
          other.publicKey = sender.publicKey ∧ other.senderId = sender.senderId := by
        intro other hother
        rw [← Option.mem_some.mp hother]
        exact ⟨rfl, rfl⟩
      refine ⟨h.keyed, ?_, ?_⟩
      · intro other hother
        rw [(hsame other hother).1, (hsame other hother).2]
        exact h.identified sender active
      · intro pending hpending hproved other hother
        rw [(hsame other hother).1]
        exact h.proved pending hpending hproved sender active

theorem Admitted.changes (h : c.Admitted P) (hchanges : Changes P approving c c') :
    c'.Admitted P := by
  induction hchanges with
  | refl => exact h
  | tail _ hchange ih => exact ih.change hchange

end PairingPath

section Reached

variable {P : Platform} {codec : TrustCodec} {o : OwnerState}

theorem handshake_pairs {o' : OwnerState} {label : HandshakeStep}
    (h : (handshakeSystem P codec).step o label o') : Pairs P True o o' := by
  cases label with
  | owner label =>
      rw [show o' = Owner.next P o label from h]
      exact Changes.mono (fun _ => trivial) (Owner.next_pairs P o label)
  | elsewhere other =>
      obtain ⟨hsame, rfl⟩ := h
      exact pairs_path hsame
  | clientHello session hello =>
      rw [show o' = Owner.run (Owner.handleClientHello P session hello) o from h]
      exact keeps_handleClientHello session hello trivial
  | confirm session confirm =>
      rw [show o' = Owner.run (Owner.takeConfirm P session confirm) o from h]
      exact keeps_takeConfirm session confirm trivial
  | commit session commit =>
      rw [show o' = Owner.run (Owner.takeCommit P session commit) o from h]
      exact keeps_takeCommit session commit trivial
  | approve =>
      rw [show o' = Owner.run Owner.approvePending o from h]
      exact (keeps_approvePending trivial).keeps o
  | advance =>
      rw [show o' = Owner.run (Owner.advancePairing P) o from h]
      exact Keeps.keeps o

/-- Run lemma. -/
theorem admitted_of_reachable (h : (handshakeSystem P codec).Reachable o) :
    o.pairingPath.Admitted P := by
  refine @TransitionSystem.Reachable.invariant _ _ _ _ (fun o => o.pairingPath.Admitted P) ?_ ?_ h
  · rintro o ⟨identity, trusted, hasPath, hstore, rfl⟩
    exact ⟨keyed_of_reachable (.of_init hstore), nofun, nofun⟩
  · exact fun o label o' hadmitted hstep => hadmitted.changes (handshake_pairs hstep)

end Reached

/-! ## The commit -/

/-- The challenge has everything but the trust of the Receiver. -/
structure AtCommit (o : OwnerState) (sender : ActiveSender) (pending : PendingPairing) : Prop where
  active : o.session.activeSender = some sender
  challenged : o.session.pendingPairing = some pending
  confirmed : pending.localConfirmed = true ∧ pending.remoteConfirmed = true
  committed : pending.senderCommitted = true ∧ pending.receiverCommitted = false

/-- The file system does what it is asked at all of the owner's next looks. -/
def WorkingDisk (o : OwnerState) : Prop := ∀ n, (OwnerState.turn^[n] o).world.disk = .ok ()

/-- Another trusted identity has the name of the Sender. -/
def Namesake (crypto : Cryptography) (store : TrustedDeviceStore) (sender : ActiveSender) : Prop :=
  ∃ id device, store.get id = some device ∧ id ≠ sender.senderId ∧
    normalizedDeviceName crypto device.deviceName = normalizedDeviceName crypto sender.deviceName ∧
    normalizedDeviceName crypto sender.deviceName ≠ ""

/-- A decision on older identities can be given a number. -/
def RevisionLeft (crypto : Cryptography) (store : TrustedDeviceStore) (sender : ActiveSender) :
    Prop :=
  store.nextIdentityReplacementRevision < 2 ^ 64 - 1 ∨ store.isPaired sender.senderId = true ∨
    ¬Namesake crypto store sender

section Store

variable {crypto : Cryptography} {store : TrustedDeviceStore} {id : String}

theorem olderIdentities_eq_nil (hkeyed : Keyed store) :
    olderIdentities crypto store id = [] ↔ store.sameNameIdentityIds crypto id = [] := by
  unfold olderIdentities
  rw [List.filterMap_eq_nil_iff]
  constructor
  · intro hnone
    by_contra hne
    obtain ⟨other, hother⟩ := List.exists_mem_of_ne_nil _ hne
    obtain ⟨_, device, hdevice, hid⟩ := mem_sameName hother
    obtain ⟨key, hkey⟩ := mem_values_iff_get.mp hdevice
    have hsame := hkeyed key device hkey
    have hnothing := hnone other hother
    rw [← hid, hsame, hkey] at hnothing
    cases hnothing
  · intro hnil other hother
    rw [hnil] at hother
    cases hother

theorem prepareReplacement_pending {current : TrustedDevice}
    (hcurrent : store.get id = some current) :
    (ReceiverSession.prepareReplacement crypto store id).pendingIdentityReplacement = none ↔
      olderIdentities crypto (store.setIdentityReplacement none) id = [] := by
  unfold ReceiverSession.prepareReplacement
  dsimp only
  rw [get_setIdentityReplacement, hcurrent]
  dsimp only
  split
  · rename_i hnone
    exact iff_of_true (setIdentityReplacement_pending _ _) hnone
  · rename_i hsome
    refine iff_of_false ?_ hsome
    rw [setIdentityReplacement_pending]
    exact Option.some_ne_none _

theorem sameNameIdentityIds_eq_nil {current : TrustedDevice} (hkeyed : Keyed store)
    (hcurrent : store.get id = some current) :
    store.sameNameIdentityIds crypto id = [] ↔
      ¬∃ key device, store.get key = some device ∧ key ≠ id ∧
        normalizedDeviceName crypto device.deviceName =
          normalizedDeviceName crypto current.deviceName ∧
        normalizedDeviceName crypto current.deviceName ≠ "" := by
  unfold sameNameIdentityIds
  rw [hcurrent]
  dsimp only
  split
  · rename_i hempty
    refine iff_of_true rfl ?_
    rintro ⟨_, _, _, _, _, hname⟩
    exact hname hempty
  · rename_i hname
    rw [List.map_eq_nil_iff, List.filter_eq_nil_iff]
    constructor
    · rintro hnone ⟨key, device, hdevice, hother, hsame, _⟩
      have hkey := hkeyed key device hdevice
      refine hnone device (mem_values_iff_get.mpr ⟨key, hdevice⟩) (decide_eq_true ⟨?_, hsame⟩)
      rw [hkey]
      exact hother
    · intro hnone device hdevice hfound
      obtain ⟨key, hkey⟩ := mem_values_iff_get.mp hdevice
      obtain ⟨hother, hsame⟩ := of_decide_eq_true hfound
      refine hnone ⟨key, device, hkey, ?_, hsame, hname⟩
      rw [← hkeyed key device hkey]
      exact hother

variable {device : TrustedDevice}

theorem commit_pending (hkeyed : Keyed store) :
    (ReceiverSession.prepareReplacement crypto (store.upsert device)
        device.deviceId).pendingIdentityReplacement = none ↔
      ¬∃ key other, store.get key = some other ∧ key ≠ device.deviceId ∧
        normalizedDeviceName crypto other.deviceName =
          normalizedDeviceName crypto device.deviceName ∧
        normalizedDeviceName crypto device.deviceName ≠ "" := by
  have hstored : (store.upsert device).get device.deviceId = some device := by
    rw [get_upsert, if_pos rfl]
  have hkeyed' : Keyed ((store.upsert device).setIdentityReplacement none) :=
    keyed_setIdentityReplacement (hkeyed.upsert device) none
  have hcurrent : ((store.upsert device).setIdentityReplacement none).get device.deviceId =
      some device := by
    rw [get_setIdentityReplacement, hstored]
  rw [prepareReplacement_pending hstored, olderIdentities_eq_nil hkeyed',
    sameNameIdentityIds_eq_nil hkeyed' hcurrent]
  refine not_congr (exists_congr fun key => exists_congr fun other => ?_)
  rw [get_setIdentityReplacement, get_upsert]
  constructor
  · rintro ⟨hget, hother, hsame⟩
    rw [if_neg fun hid => hother hid.symm] at hget
    exact ⟨hget, hother, hsame⟩
  · rintro ⟨hget, hother, hsame⟩
    exact ⟨by rw [if_neg fun hid => hother hid.symm]; exact hget, hother, hsame⟩

/-- A decision gets a number below the next one, unless the numbers are used up. -/
theorem accepted_prepareReplacement_iff (hsha : ∀ bytes, (crypto.sha256 bytes).length = 32)
    (hkeyed : Keyed store) (h : Accepted crypto store) :
    Accepted crypto (ReceiverSession.prepareReplacement crypto store id) ↔
      store.nextIdentityReplacementRevision < 2 ^ 64 - 1 ∨
        (ReceiverSession.prepareReplacement crypto store id).pendingIdentityReplacement = none := by
  constructor
  · intro haccepted
    by_contra hnot
    rw [not_or] at hnot
    rcases prepareReplacement_cases crypto store id with heq | ⟨current, previous, _, _, _, heq⟩
    · rw [heq] at hnot
      exact hnot.2 (setIdentityReplacement_pending store none)
    · rw [heq] at haccepted
      have hvalid := haccepted.pending _ (setIdentityReplacement_pending _ _)
      have hrevision := (validateReplacement_ok.mp hvalid).1.2
      rw [setIdentityReplacement_next] at hrevision
      unfold allocateIdentityReplacementRevision saturatingAdd u64Max at hrevision
      rw [setIdentityReplacement_next] at hrevision
      dsimp only at hrevision
      omega
  · rintro (hleft | hnone)
    · exact accepted_prepareReplacement hsha hkeyed h hleft
    · rcases prepareReplacement_cases crypto store id with heq | ⟨current, previous, _, _, _, heq⟩
      · rw [heq]
        exact h.setNone
      · rw [heq, setIdentityReplacement_pending] at hnone
        cases hnone

end Store

section Commit

variable {P : Platform} {codec : TrustCodec} {o : OwnerState} {s : ReceiverSession}
  {sender : ActiveSender} {nowMs : Nat}

/-- The device of a Sender that is trusted at `nowMs`. -/
def deviceOf (P : Platform) (sender : ActiveSender) (nowMs : Nat) : TrustedDevice :=
  trustedDeviceFromPairing P.crypto sender.senderId sender.deviceName sender.publicKey nowMs

theorem get_trustedAfterCommit (P : Platform) (s : ReceiverSession) (sender : ActiveSender)
    (nowMs : Nat) :
    (s.trustedAfterCommit P sender nowMs).get sender.senderId = some (deviceOf P sender nowMs) := by
  have hstored : (s.trusted.upsert (deviceOf P sender nowMs)).get sender.senderId =
      some (deviceOf P sender nowMs) := by
    rw [get_upsert]
    exact if_pos rfl
  rcases trustedAfterCommit_cases P s sender nowMs with ⟨_, heq⟩ | heq <;> rw [heq]
  · exact hstored
  · rw [get_prepareReplacement]
    exact hstored

theorem accepted_trustedAfterCommit (hsha : ∀ bytes, (P.crypto.sha256 bytes).length = 32)
    (hkeyed : Keyed s.trusted) (h : Accepted P.crypto s.trusted)
    (hid : P.crypto.deriveDeviceId sender.publicKey = sender.senderId)
    (hkey : sender.publicKey.length = publicKeyLen ∧ P.crypto.validKey sender.publicKey = true) :
    Accepted P.crypto (s.trustedAfterCommit P sender nowMs) ↔
      trim sender.deviceName ≠ "" ∧ RevisionLeft P.crypto s.trusted sender := by
  have hdevice : validateDevice P.crypto (deviceOf P sender nowMs) = .ok () ↔
      trim sender.deviceName ≠ "" := by
    rw [validateDevice_ok]
    exact ⟨fun hall => hall.2.2.2.2, fun hname => ⟨hkey.1, hkey.2, hid, rfl, hname⟩⟩
  have hupsert : trim sender.deviceName ≠ "" →
      Accepted P.crypto (s.trusted.upsert (deviceOf P sender nowMs)) :=
    fun hname => h.upsert (hdevice.mpr hname)
  have hnamed : Accepted P.crypto (s.trustedAfterCommit P sender nowMs) →
      trim sender.deviceName ≠ "" := fun haccepted =>
    hdevice.mp (haccepted.devices _ _ (get_trustedAfterCommit P s sender nowMs))
  by_cases hpaired : s.trusted.isPaired sender.senderId = true
  · have heq : s.trustedAfterCommit P sender nowMs =
        s.trusted.upsert (deviceOf P sender nowMs) := if_pos hpaired
    constructor
    · exact fun haccepted => ⟨hnamed haccepted, .inr (.inl hpaired)⟩
    · rintro ⟨hname, _⟩
      rw [heq]
      exact hupsert hname
  · have heq : s.trustedAfterCommit P sender nowMs =
        ReceiverSession.prepareReplacement P.crypto
          (s.trusted.upsert (deviceOf P sender nowMs)) sender.senderId := if_neg hpaired
    have hrevision : trim sender.deviceName ≠ "" →
        (Accepted P.crypto (s.trustedAfterCommit P sender nowMs) ↔
          RevisionLeft P.crypto s.trusted sender) := by
      intro hname
      have hpending := @commit_pending P.crypto s.trusted (deviceOf P sender nowMs) hkeyed
      rw [heq, accepted_prepareReplacement_iff hsha (hkeyed.upsert _) (hupsert hname), upsert_next]
      unfold RevisionLeft Namesake
      exact or_congr Iff.rfl (hpending.trans (or_iff_right hpaired).symm)
    constructor
    · exact fun haccepted =>
        ⟨hnamed haccepted, (hrevision (hnamed haccepted)).mp haccepted⟩
    · exact fun hboth => (hrevision hboth.1).mpr hboth.2

end Commit

/-! ## What the commit writes -/

namespace Owner

variable {P : Platform} {codec : TrustCodec} {o : OwnerState} {store : TrustedDeviceStore}
  {sender : ActiveSender} {pending : PendingPairing}

theorem exec_persistTrusted_disk (P : Platform) (o : OwnerState) :
    exec (persistTrusted P) o =
      if o.session.hasTrustedStorePath then
        ((o.session.trusted.saveToPath P.crypto o.turn.world.disk).mapError ReceiverError.store,
          o.turn)
      else (.ok (), o) := by
  unfold persistTrusted session
  rw [exec_read_bind, exec_ite]
  split
  · unfold look
    rw [bind_assoc, exec_update_bind, exec_read_bind]
    cases o.session.trusted.saveToPath P.crypto o.turn.world.disk <;> rfl
  · rfl

/-- With a working disk a store is written unless it is kept in a file and refused. -/
theorem replaceTrusted_trusted (hdisk : o.turn.world.disk = .ok ()) :
    (exec (replaceTrusted P store) o).2.session.trusted =
      if o.session.hasTrustedStorePath = true ∧ store.validate P.crypto ≠ .ok () then
        o.session.trusted
      else store := by
  unfold replaceTrusted modifySession
  rw [exec_read_bind, exec_update_bind, exec_attempt_bind]
  generalize hset : ({ o with session := o.session.setTrusted store } : OwnerState) = written
  have hsession : written.session = o.session.setTrusted store := by rw [← hset]
  have hworld : written.turn.world = o.turn.world := by
    rw [← hset]
    unfold OwnerState.turn
    cases o.schedule <;> rfl
  have hpersist : exec (persistTrusted P) written =
      if o.session.hasTrustedStorePath then
        ((store.validate P.crypto).mapError ReceiverError.store, written.turn)
      else (.ok (), written) := by
    rw [exec_persistTrusted_disk, hworld, hdisk, hsession]
    change (if o.session.hasTrustedStorePath = true then
      ((store.saveToPath P.crypto (.ok ())).mapError _, _) else _) = _
    rw [saveToPath_ok]
  rw [hpersist]
  by_cases hpath : o.session.hasTrustedStorePath = true
  · rw [if_pos hpath]
    cases hvalid : store.validate P.crypto with
    | ok value =>
        rw [if_neg fun h => h.2 rfl]
        change written.turn.session.trusted = store
        rw [OwnerState.session_turn, hsession]
        rfl
    | error error =>
        rw [if_pos ⟨hpath, nofun⟩]
        rfl
  · rw [if_neg hpath, if_neg fun h => hpath h.1]
    change written.session.trusted = store
    rw [hsession]
    rfl

theorem trusted_bind {α β : Type} (p : Owner α) (f : α → Owner β) [hf : ∀ a, Keeps SameTrust (f a)]
    (o : OwnerState) :
    (exec (p >>= f) o).2.session.trusted = (exec p o).2.session.trusted := by
  rw [exec_bind]
  cases hexec : exec p o with
  | mk result after =>
      cases result with
      | error error => rfl
      | ok a => exact (hf a).keeps after

instance : Keeps SameTrust permitSender := by
  have hset : ∀ sender, Keeps SameTrust (modifySession fun s => s.setActiveSender sender) :=
    fun _ => keeps_update fun _ => rfl
  unfold permitSender
  apply keeps_then inferInstance
  intro s
  split <;> infer_instance

instance (target : SessionId) : Keeps SameTrust (permitVideo target) := by
  have hend : Keeps SameTrust (modifySession ReceiverSession.endPairing) :=
    keeps_update fun _ => rfl
  unfold permitVideo
  infer_instance

theorem commitTrust_trusted (hactive : o.session.activeSender = some sender)
    (hdisk : WorkingDisk o) :
    (exec (commitTrust P) o).2.session.trusted =
      let store := o.session.trustedAfterCommit P sender o.turn.world.wallClockMs
      if o.session.hasTrustedStorePath = true ∧ store.validate P.crypto ≠ .ok () then
        o.session.trusted
      else store := by
  have hsettle : Keeps SameTrust (modifySession ReceiverSession.commitReceiver) :=
    keeps_update fun _ => rfl
  unfold commitTrust look session
  rw [bind_assoc, exec_update_bind, exec_read_bind, exec_read_bind, OwnerState.session_turn,
    hactive]
  dsimp only
  rw [trusted_bind, replaceTrusted_trusted (hdisk 2), OwnerState.session_turn]

theorem advancePairing_trusted (hcommit : AtCommit o sender pending) (hdisk : WorkingDisk o) :
    (run (advancePairing P) o).session.trusted =
      let store := o.session.trustedAfterCommit P sender o.turn.world.wallClockMs
      if o.session.hasTrustedStorePath = true ∧ store.validate P.crypto ≠ .ok () then
        o.session.trusted
      else store := by
  unfold run advancePairing
  change (exec (session >>= _) o).2.session.trusted = _
  unfold session
  rw [exec_read_bind, hcommit.challenged]
  dsimp only
  rw [if_pos hcommit.confirmed, if_pos hcommit.committed.1]
  rw [trusted_bind, hcommit.committed.2]
  exact commitTrust_trusted hcommit.active hdisk

theorem receiver_admission_iff (hsha : ∀ bytes, (P.crypto.sha256 bytes).length = 32)
    (hreached : (handshakeSystem P codec).Reachable o)
    (hcommit : AtCommit o sender pending) (hvalid : Valid P.crypto o.session.trusted)
    (hdisk : WorkingDisk o) :
    Persists codec P.crypto (run (advancePairing P) o).session.trusted
        (deviceOf P sender o.turn.world.wallClockMs) ↔
      ¬Blank sender.deviceName ∧ RevisionLeft P.crypto o.session.trusted sender := by
  have hadmitted := admitted_of_reachable hreached
  have hkeyed : Keyed o.session.trusted := hadmitted.keyed
  have haccepted := (valid_iff hkeyed).mp hvalid
  have hid := hadmitted.identified sender hcommit.active
  have hkey := hadmitted.proved pending hcommit.challenged (.inl hcommit.confirmed.2) sender
    hcommit.active
  have hstored := @accepted_trustedAfterCommit P o.session sender o.turn.world.wallClockMs hsha
    hkeyed haccepted hid hkey
  have hblank : trim sender.deviceName ≠ "" ↔ ¬Blank sender.deviceName :=
    not_congr trim_eq_empty
  rw [hblank] at hstored
  rw [← hstored, advancePairing_trusted hcommit hdisk]
  dsimp only
  split
  · rename_i hrefused
    rw [persists_iff hkeyed]
    have hnot : ¬Accepted P.crypto
        (o.session.trustedAfterCommit P sender o.turn.world.wallClockMs) :=
      fun h => hrefused.2 (validate_ok.mpr h)
    refine iff_of_false ?_ hnot
    rintro ⟨hdevice, _⟩
    -- Were the device stored already, then the commit would write the store as it is.
    have hpaired : o.session.trusted.isPaired sender.senderId = true :=
      isPaired_iff.mpr ⟨_, hdevice⟩
    have hsame : o.session.trustedAfterCommit P sender o.turn.world.wallClockMs =
        o.session.trusted := (if_pos hpaired).trans (if_pos hdevice)
    rw [hsame] at hnot
    exact hnot haccepted
  · rw [persists_iff (keyed_trustedAfterCommit hkeyed sender _)]
    exact and_iff_right (get_trustedAfterCommit P o.session sender _)

end Owner

end PicooCamera.Receiver
