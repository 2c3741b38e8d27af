import PicooCamera.Pairing.TrustPersistence
import PicooCamera.Receiver.Pairing

/-!
# Transactions on the trust store

Pairing commits, removals and the user's decisions write a store that the
validator accepts, or leave the store as it was. A decision on older
identities is taken over a frozen list: what is removed is what the list
names, and it has been trusted ever since the list was made.
-/

namespace PicooCamera.Receiver

open PicooCamera.Library PicooCamera.Pairing PicooCamera.Packet Program
open TrustedDeviceStore

inductive TrustOperation where
  /-- The Sender of a completed handshake, known or not. -/
  | commit (sender : ActiveSender)
  | remove (deviceId : String)
  | clear
  | replace (revision : Nat)
  | dismiss (revision : Nat)

namespace TrustOperation

def program (P : Platform) : TrustOperation → Owner Unit
  | commit sender => do
      Owner.modifySession fun s => s.setActiveSender sender
      Owner.commitTrust P
  | remove deviceId => do
      let _ ← Owner.removeTrustedDevice P deviceId
  | clear => do
      let _ ← Owner.clearTrustedDevices P
  | replace revision => do
      let _ ← Owner.replaceTrustedIdentityHistory P revision
  | dismiss revision => do
      let _ ← Owner.dismissTrustedIdentityReplacement P revision

/-- The store that an operation writes, if it writes one. -/
def target (P : Platform) (s : ReceiverSession) (nowMs : Nat) :
    TrustOperation → Option TrustedDeviceStore
  | commit sender => some (s.trustedAfterCommit P sender nowMs)
  | remove deviceId =>
      if (s.trusted.remove deviceId).1 then some (s.trusted.remove deviceId).2 else none
  | clear => if 0 < s.trusted.clear.1 then some s.trusted.clear.2 else none
  | replace revision =>
      match s.trusted.pendingIdentityReplacement with
      | none => none
      | some replacement =>
          if replacement.revision = revision ∧ s.replacementIsCurrent replacement then
            some ((ReceiverSession.removeCandidates replacement.previousIdentities
              s.trusted).2.setIdentityReplacement none)
          else none
  | dismiss revision =>
      if (s.trusted.dismissIdentityReplacement revision).1 then
        some (s.trusted.dismissIdentityReplacement revision).2
      else none

/-- A commit is that of a Sender whose proofs were verified against its id, with a name, while
revisions are left. -/
def Admissible (P : Platform) (s : ReceiverSession) : TrustOperation → Prop
  | commit sender =>
      P.crypto.deriveDeviceId sender.publicKey = sender.senderId ∧
        sender.publicKey.length = publicKeyLen ∧ P.crypto.validKey sender.publicKey = true ∧
        trim sender.deviceName ≠ "" ∧
        s.trusted.nextIdentityReplacementRevision < 2 ^ 64 - 1
  | _ => True

end TrustOperation

/-- The three ends of a transaction on the store `before`, which is kept in a file or not. -/
inductive Transaction (crypto : Cryptography) (hasPath : Bool) (before : TrustedDeviceStore)
    (target : Option TrustedDeviceStore) : Except ReceiverError Unit → TrustedDeviceStore → Prop
  | idle {result : Except ReceiverError Unit} (hnone : target = none)
      (hresult : ∀ error, result ≠ .error (.store error)) :
      Transaction crypto hasPath before target result before
  | written {store : TrustedDeviceStore} {disk : Except StoreError Unit}
      (hsome : target = some store)
      (hsaved : hasPath = true → store.saveToPath crypto disk = .ok ()) :
      Transaction crypto hasPath before target (.ok ()) store
  | refused {store : TrustedDeviceStore} {disk : Except StoreError Unit} {error : StoreError}
      (hsome : target = some store) (hrefused : store.saveToPath crypto disk = .error error) :
      Transaction crypto hasPath before target (.error (.store error)) before

/-- A program that ends in a transaction, and its value where it succeeds. -/
def Transacts {α : Type} (P : Platform) (o : OwnerState) (target : Option TrustedDeviceStore)
    (value : α) (outcome : Except ReceiverError α × OwnerState) : Prop :=
  ∃ result, outcome.1 = result.map (fun _ => value) ∧
    Transaction P.crypto o.session.hasTrustedStorePath o.session.trusted target result
      outcome.2.session.trusted

namespace Owner

variable {P : Platform} {o : OwnerState} {store : TrustedDeviceStore}

/-! ## One transaction -/

theorem exec_persistTrusted (P : Platform) (o : OwnerState) :
    (o.session.hasTrustedStorePath = false ∧ exec (persistTrusted P) o = (.ok (), o)) ∨
      (o.session.hasTrustedStorePath = true ∧ ∃ disk, exec (persistTrusted P) o =
        ((o.session.trusted.saveToPath P.crypto disk).mapError ReceiverError.store, o.turn)) := by
  unfold persistTrusted session
  rw [exec_read_bind, exec_ite]
  by_cases hpath : o.session.hasTrustedStorePath = true
  · refine Or.inr ⟨hpath, o.turn.world.disk, ?_⟩
    rw [if_pos hpath]
    unfold look
    rw [bind_assoc, exec_update_bind, exec_read_bind]
    cases o.session.trusted.saveToPath P.crypto o.turn.world.disk with
    | error error => rfl
    | ok value => rfl
  · rw [if_neg hpath]
    exact Or.inl ⟨Bool.eq_false_of_not_eq_true hpath, rfl⟩

theorem replaceTrusted_transacts (P : Platform) (store : TrustedDeviceStore) (o : OwnerState) :
    Transacts P o (some store) () (exec (replaceTrusted P store) o) := by
  unfold replaceTrusted
  rw [exec_read_bind]
  unfold modifySession
  rw [exec_update_bind, exec_attempt_bind]
  generalize hset : ({ o with session := o.session.setTrusted store } : OwnerState) = written
  have hsession : written.session = o.session.setTrusted store := by rw [← hset]
  have htrusted : written.session.trusted = store := by
    rw [hsession]
    rfl
  rcases exec_persistTrusted P written with ⟨hnone, heq⟩ | ⟨_, disk, heq⟩ <;> rw [heq]
  · refine ⟨.ok (), rfl, ?_⟩
    rw [hsession] at hnone
    change Transaction _ _ _ _ _ written.session.trusted
    rw [htrusted]
    refine @Transaction.written _ _ _ _ store (.ok ()) rfl fun h => ?_
    exact absurd (h.symm.trans hnone) Bool.false_ne_true.symm
  · rw [htrusted]
    cases hsaved : store.saveToPath P.crypto disk with
    | ok value =>
        refine ⟨.ok (), rfl, ?_⟩
        change Transaction _ _ _ _ _ written.turn.session.trusted
        rw [OwnerState.session_turn, htrusted]
        exact Transaction.written rfl fun _ => hsaved
    | error error => exact ⟨.error (.store error), rfl, Transaction.refused rfl hsaved⟩

theorem transacts_bind_pure {α β : Type} {p : Owner α} {target : Option TrustedDeviceStore}
    {value : α} (h : Transacts P o target value (exec p o)) (f : α → β) :
    Transacts P o target (f value) (exec (p >>= fun a => pure (f a)) o) := by
  obtain ⟨result, hresult, htransaction⟩ := h
  rw [exec_bind_pure]
  refine ⟨result, ?_, htransaction⟩
  dsimp only
  rw [hresult]
  cases result <;> rfl

theorem idle_transacts {α : Type} (value : α) (o : OwnerState) :
    Transacts P o none value (.ok value, o) :=
  ⟨.ok (), rfl, Transaction.idle rfl fun _ => nofun⟩

theorem stale_transacts {α : Type} (value : α) (o : OwnerState) :
    Transacts P o none value (.error .staleTrustedIdentityReplacement, o) :=
  ⟨.error .staleTrustedIdentityReplacement, rfl, Transaction.idle rfl fun _ => nofun⟩

theorem when_transacts {α : Type} (c : Prop) [Decidable c] (store : TrustedDeviceStore)
    (value : α) (o : OwnerState) :
    Transacts P o (if c then some store else none) value
      (exec (when c (replaceTrusted P store) >>= fun _ => pure value) o) := by
  by_cases h : c
  · rw [if_pos h, when, if_pos h]
    exact transacts_bind_pure (replaceTrusted_transacts P store o) fun _ => value
  · rw [if_neg h, when, if_neg h]
    exact idle_transacts value o

theorem removeTrustedDevice_transacts (P : Platform) (deviceId : String) (o : OwnerState) :
    Transacts P o ((TrustOperation.remove deviceId).target P o.session 0)
      (o.session.trusted.remove deviceId).1 (exec (removeTrustedDevice P deviceId) o) := by
  unfold removeTrustedDevice session
  rw [exec_read_bind]
  exact when_transacts _ _ _ o

theorem clearTrustedDevices_transacts (P : Platform) (o : OwnerState) :
    Transacts P o (TrustOperation.clear.target P o.session 0) o.session.trusted.clear.1
      (exec (clearTrustedDevices P) o) := by
  unfold clearTrustedDevices session
  rw [exec_read_bind]
  exact when_transacts _ _ _ o

theorem dismissTrustedIdentityReplacement_transacts (P : Platform) (revision : Nat)
    (o : OwnerState) :
    Transacts P o ((TrustOperation.dismiss revision).target P o.session 0)
      (o.session.trusted.dismissIdentityReplacement revision).1
      (exec (dismissTrustedIdentityReplacement P revision) o) := by
  unfold dismissTrustedIdentityReplacement session
  rw [exec_read_bind]
  exact when_transacts _ _ _ o

/-- The number that a successful replacement answers. -/
def replacedCount (s : ReceiverSession) : Nat :=
  match s.trusted.pendingIdentityReplacement with
  | none => 0
  | some replacement =>
      (ReceiverSession.removeCandidates replacement.previousIdentities s.trusted).1

theorem replaceTrustedIdentityHistory_transacts (P : Platform) (revision : Nat)
    (o : OwnerState) :
    Transacts P o ((TrustOperation.replace revision).target P o.session 0)
      (replacedCount o.session) (exec (replaceTrustedIdentityHistory P revision) o) := by
  unfold replaceTrustedIdentityHistory session TrustOperation.target replacedCount
  rw [exec_read_bind]
  cases hpending : o.session.trusted.pendingIdentityReplacement with
  | none => exact stale_transacts 0 o
  | some replacement =>
      dsimp only
      by_cases hcurrent : replacement.revision = revision ∧
          o.session.replacementIsCurrent replacement = true
      · rw [if_pos hcurrent, if_pos hcurrent]
        exact transacts_bind_pure (replaceTrusted_transacts P _ o) _
      · rw [if_neg hcurrent, if_neg hcurrent]
        exact stale_transacts _ o

theorem commitTrust_transacts (P : Platform) (sender : ActiveSender) (o : OwnerState) :
    ∃ nowMs, Transacts P o ((TrustOperation.commit sender).target P o.session nowMs) ()
      (exec ((TrustOperation.commit sender).program P) o) := by
  unfold TrustOperation.program modifySession commitTrust look session
  rw [exec_update_bind, bind_assoc, exec_update_bind, exec_read_bind, exec_read_bind]
  generalize hlooked : ({ o with session := o.session.setActiveSender sender } : OwnerState).turn =
    looked
  have hsession : looked.session = o.session.setActiveSender sender := by
    rw [← hlooked, OwnerState.session_turn]
  have hsender : looked.session.activeSender = some sender := by
    rw [hsession]
    rfl
  refine ⟨looked.world.wallClockMs, ?_⟩
  rw [hsender]
  have hpath : looked.session.hasTrustedStorePath = o.session.hasTrustedStorePath := by
    rw [hsession]
    rfl
  have hbefore : looked.session.trusted = o.session.trusted := by
    rw [hsession]
    rfl
  have htarget : looked.session.trustedAfterCommit P sender looked.world.wallClockMs =
      o.session.trustedAfterCommit P sender looked.world.wallClockMs := by
    unfold ReceiverSession.trustedAfterCommit
    rw [hbefore]
  obtain ⟨result, hresult, htransaction⟩ := replaceTrusted_transacts P
    (looked.session.trustedAfterCommit P sender looked.world.wallClockMs) looked
  rw [hpath, hbefore] at htransaction
  rw [htarget] at hresult htransaction
  rw [exec_bind, htarget]
  generalize exec (replaceTrusted P _) looked = outcome at hresult htransaction
  obtain ⟨answer, after⟩ := outcome
  change answer = _ at hresult
  rw [hresult]
  cases result with
  | error error => exact ⟨.error error, rfl, htransaction⟩
  | ok value => exact ⟨.ok value, rfl, htransaction⟩

theorem program_transacts (P : Platform) (op : TrustOperation) (o : OwnerState) :
    ∃ nowMs, Transacts P o (op.target P o.session nowMs) () (exec (op.program P) o) := by
  cases op with
  | commit sender => exact commitTrust_transacts P sender o
  | remove deviceId =>
      exact ⟨0, transacts_bind_pure (removeTrustedDevice_transacts P deviceId o) fun _ => ()⟩
  | clear => exact ⟨0, transacts_bind_pure (clearTrustedDevices_transacts P o) fun _ => ()⟩
  | replace revision =>
      exact ⟨0, transacts_bind_pure (replaceTrustedIdentityHistory_transacts P revision o)
        fun _ => ()⟩
  | dismiss revision =>
      exact ⟨0, transacts_bind_pure (dismissTrustedIdentityReplacement_transacts P revision o)
        fun _ => ()⟩

end Owner

/-! ## The decision on older identities -/

section Stores

open ReceiverSession

variable {crypto : Cryptography} {store : TrustedDeviceStore} {currentDeviceId id : String}

/-- What the decision shows of a device. -/
def candidateOf (device : TrustedDevice) : TrustedIdentityCandidate where
  deviceId := device.deviceId
  certificateFingerprint := device.certificateFingerprint
  lastConnectedAtMs := device.lastConnectedAtMs

/-- The older identities that a decision lists, before they are sorted. -/
def olderIdentities (crypto : Cryptography) (store : TrustedDeviceStore)
    (currentDeviceId : String) : List TrustedIdentityCandidate :=
  (store.sameNameIdentityIds crypto currentDeviceId).filterMap fun id =>
    (store.get id).map candidateOf

/-- The order in which a decision shows its identities. -/
def newestFirst (left right : TrustedIdentityCandidate) : Bool :=
  (compare (left.lastConnectedAtMs.elim 0 (· + 1)) (right.lastConnectedAtMs.elim 0 (· + 1))).isGE &&
    (left.lastConnectedAtMs ≠ right.lastConnectedAtMs ||
      (compare left.deviceId right.deviceId).isLE)

theorem mem_sameName (h : id ∈ store.sameNameIdentityIds crypto currentDeviceId) :
    id ≠ currentDeviceId ∧ ∃ device, device ∈ store.devices.values ∧ device.deviceId = id := by
  unfold sameNameIdentityIds at h
  split at h
  · exact absurd h List.not_mem_nil
  · dsimp only at h
    split at h
    · exact absurd h List.not_mem_nil
    · obtain ⟨device, hdevice, rfl⟩ := List.mem_map.mp h
      obtain ⟨hmem, hother⟩ := List.mem_filter.mp hdevice
      exact ⟨(of_decide_eq_true hother).1, device, hmem, rfl⟩

theorem nodup_sameName (hkeyed : Keyed store) :
    (store.sameNameIdentityIds crypto currentDeviceId).Nodup := by
  unfold sameNameIdentityIds
  split
  · exact List.nodup_nil
  · dsimp only
    split
    · exact List.nodup_nil
    · exact (List.filter_sublist.map TrustedDevice.deviceId).nodup hkeyed.nodup_ids

theorem mem_olderIdentities {candidate : TrustedIdentityCandidate} (hkeyed : Keyed store)
    (h : candidate ∈ olderIdentities crypto store currentDeviceId) :
    candidate.deviceId ≠ currentDeviceId ∧
      ∃ device, store.get candidate.deviceId = some device ∧ candidate = candidateOf device := by
  obtain ⟨id, hid, hcandidate⟩ := List.mem_filterMap.mp h
  obtain ⟨device, hdevice, rfl⟩ := Option.map_eq_some_iff.mp hcandidate
  have hkey : device.deviceId = id := hkeyed id device hdevice
  have hcandidate : (candidateOf device).deviceId = id := hkey
  rw [hcandidate]
  exact ⟨(mem_sameName hid).1, device, hdevice, rfl⟩

theorem nodup_olderIdentities (hkeyed : Keyed store) :
    ((olderIdentities crypto store currentDeviceId).map
      TrustedIdentityCandidate.deviceId).Nodup := by
  have hids : ∀ ids : List String,
      ((ids.filterMap fun id => (store.get id).map candidateOf).map
        TrustedIdentityCandidate.deviceId).Sublist ids := by
    intro ids
    induction ids with
    | nil => exact List.Sublist.slnil
    | cons id ids ih =>
        cases hdevice : store.get id with
        | none =>
            rw [List.filterMap_cons_none (by rw [hdevice]; rfl)]
            exact ih.cons id
        | some device =>
            rw [List.filterMap_cons_some (b := candidateOf device) (by rw [hdevice]; rfl),
              List.map_cons]
            have hkey : (candidateOf device).deviceId = id := hkeyed id device hdevice
            rw [hkey]
            exact ih.cons_cons id
  exact (hids _).nodup (nodup_sameName hkeyed)

theorem prepareReplacement_cases (crypto : Cryptography) (store : TrustedDeviceStore)
    (currentDeviceId : String) :
    prepareReplacement crypto store currentDeviceId = store.setIdentityReplacement none ∨
      ∃ current previous, store.get currentDeviceId = some current ∧ previous ≠ [] ∧
        previous.Perm (olderIdentities crypto (store.setIdentityReplacement none)
          currentDeviceId) ∧
        prepareReplacement crypto store currentDeviceId =
          ((store.setIdentityReplacement none).allocateIdentityReplacementRevision.2
            ).setIdentityReplacement (some
              { revision := max store.nextIdentityReplacementRevision 1
                currentDeviceId := current.deviceId
                deviceName := current.deviceName
                previousIdentities := previous }) := by
  unfold prepareReplacement
  dsimp only
  cases hcurrent : (store.setIdentityReplacement none).get currentDeviceId with
  | none => exact Or.inl rfl
  | some current =>
      dsimp only
      split
      · exact Or.inl rfl
      · rename_i hnonempty
        rw [get_setIdentityReplacement] at hcurrent
        refine Or.inr ⟨current, (olderIdentities crypto (store.setIdentityReplacement none)
          currentDeviceId).mergeSort newestFirst, hcurrent, ?_, List.mergeSort_perm _ _, ?_⟩
        · intro hnil
          exact hnonempty (List.length_eq_zero_iff.mp
            ((List.length_mergeSort _).symm.trans (congrArg List.length hnil)))
        · unfold allocateIdentityReplacementRevision
          rw [setIdentityReplacement_next]
          rfl

theorem keyed_setIdentityReplacement (h : Keyed store)
    (replacement : Option TrustedIdentityReplacement) :
    Keyed (store.setIdentityReplacement replacement) :=
  h.of_get fun _ => Or.inl (get_setIdentityReplacement replacement)

theorem get_prepareReplacement (crypto : Cryptography) (store : TrustedDeviceStore)
    (currentDeviceId id : String) :
    (prepareReplacement crypto store currentDeviceId).get id = store.get id := by
  rcases prepareReplacement_cases crypto store currentDeviceId with heq | ⟨_, _, _, _, _, heq⟩ <;>
    rw [heq]
  · exact get_setIdentityReplacement none
  · rw [get_setIdentityReplacement, get_allocate, get_setIdentityReplacement]

theorem accepted_prepareReplacement (hsha : ∀ bytes, (crypto.sha256 bytes).length = 32)
    (hkeyed : Keyed store) (h : Accepted crypto store)
    (hleft : store.nextIdentityReplacementRevision < 2 ^ 64 - 1) :
    Accepted crypto (prepareReplacement crypto store currentDeviceId) := by
  rcases prepareReplacement_cases crypto store currentDeviceId with
    heq | ⟨current, previous, hcurrent, hne, hperm, heq⟩
  · rw [heq]
    exact h.setNone
  · have hnext : ((store.setIdentityReplacement none).allocateIdentityReplacementRevision.2
        ).nextIdentityReplacementRevision = store.nextIdentityReplacementRevision + 1 := by
      have hpos := h.next_pos
      unfold allocateIdentityReplacementRevision saturatingAdd u64Max
      rw [setIdentityReplacement_next]
      dsimp only
      omega
    refine ⟨?_, fun id device hdevice => ?_, ?_⟩
    · rw [heq, setIdentityReplacement_next, hnext]
      exact Nat.succ_ne_zero _
    · rw [get_prepareReplacement] at hdevice
      exact h.devices id device hdevice
    · rw [heq, setIdentityReplacement_next, setIdentityReplacement_pending, hnext]
      intro replacement hreplacement
      rw [Option.mem_some_iff] at hreplacement
      rw [← hreplacement]
      have hvalid := validateDevice_ok.mp (h.devices currentDeviceId current hcurrent)
      have hpos := h.next_pos
      refine validateReplacement_ok.mpr ⟨⟨?_, ?_⟩, ⟨?_, hvalid.2.2.2.2, hne⟩, ?_, ?_⟩
      · dsimp only
        omega
      · dsimp only
        omega
      · dsimp only
        rw [← hvalid.2.2.1]
        exact isDeviceId_deriveDeviceId hsha _
      · exact (hperm.map _).nodup_iff.mpr 
          (nodup_olderIdentities (keyed_setIdentityReplacement hkeyed none))
      · intro candidate hcandidate
        obtain ⟨hother, device, hdevice, rfl⟩ := mem_olderIdentities
          (keyed_setIdentityReplacement hkeyed none) (hperm.mem_iff.mp hcandidate)
        rw [get_setIdentityReplacement] at hdevice
        have hkey : current.deviceId = currentDeviceId := hkeyed _ _ hcurrent
        have hdeviceValid := validateDevice_ok.mp (h.devices _ device hdevice)
        refine ⟨hkey ▸ hother, ?_, ?_⟩
        · change isDeviceId device.deviceId = true
          rw [← hdeviceValid.2.2.1]
          exact isDeviceId_deriveDeviceId hsha _
        · change isSha256Fingerprint device.certificateFingerprint = true
          rw [← hdeviceValid.2.2.2.1]
          exact isSha256Fingerprint_publicKey hsha _

theorem get_removeCandidates (candidates : List TrustedIdentityCandidate)
    (store : TrustedDeviceStore) (id : String) :
    (removeCandidates candidates store).2.get id =
      if id ∈ candidates.map TrustedIdentityCandidate.deviceId then none else store.get id := by
  induction candidates generalizing store with
  | nil => rfl
  | cons candidate rest ih =>
      change (removeCandidates rest (store.remove candidate.deviceId).2).2.get id = _
      rw [ih, get_remove, List.map_cons]
      by_cases hrest : id ∈ rest.map TrustedIdentityCandidate.deviceId
      · rw [if_pos hrest, if_pos (List.mem_cons_of_mem _ hrest)]
      · rw [if_neg hrest]
        by_cases hid : candidate.deviceId = id
        · rw [if_pos hid, if_pos (hid ▸ List.mem_cons_self)]
        · rw [if_neg hid, if_neg fun h => (List.mem_cons.mp h).elim (fun heq => hid heq.symm) hrest]

theorem accepted_removeCandidates (candidates : List TrustedIdentityCandidate)
    (hkeyed : Keyed store) (h : Accepted crypto store) :
    Keyed (removeCandidates candidates store).2 ∧
      Accepted crypto (removeCandidates candidates store).2 := by
  induction candidates generalizing store with
  | nil => exact ⟨hkeyed, h⟩
  | cons candidate rest ih => exact ih (hkeyed.remove _) (h.remove _)

theorem removeCandidates_count (candidates : List TrustedIdentityCandidate)
    (hnodup : (candidates.map TrustedIdentityCandidate.deviceId).Nodup)
    (hpaired : ∀ candidate ∈ candidates, store.isPaired candidate.deviceId = true) :
    (removeCandidates candidates store).1 = candidates.length := by
  induction candidates generalizing store with
  | nil => rfl
  | cons candidate rest ih =>
      rw [List.map_cons, List.nodup_cons] at hnodup
      obtain ⟨hfirst, hrest⟩ := List.forall_mem_cons.mp hpaired
      have hremoved : (store.remove candidate.deviceId).1 = true := by
        unfold TrustedDeviceStore.remove
        rw [if_pos hfirst]
      have hstill : ∀ other ∈ rest,
          (store.remove candidate.deviceId).2.isPaired other.deviceId = true := by
        intro other hother
        obtain ⟨device, hdevice⟩ := isPaired_iff.mp (hrest other hother)
        have hne : candidate.deviceId ≠ other.deviceId := by
          intro heq
          rw [heq] at hnodup
          exact hnodup.1 (List.mem_map_of_mem hother)
        refine isPaired_iff.mpr ⟨device, ?_⟩
        rw [get_remove, if_neg hne]
        exact hdevice
      change (if (store.remove candidate.deviceId).1 then 1 else 0) +
        (removeCandidates rest (store.remove candidate.deviceId).2).1 = _
      rw [hremoved, if_pos rfl, ih hnodup.2 hstill, List.length_cons, Nat.add_comm]

end Stores

/-! ## Runs of transactions -/

/-- The store, and the identities that were trusted when the pending decision was made and
have been ever since. -/
structure TrustRun where
  store : TrustedDeviceStore
  since : Set String

def trustedSince (before after : TrustedDeviceStore) (since : Set String) : Set String :=
  {id | after.isPaired id = true ∧
    (after.pendingIdentityReplacement = before.pendingIdentityReplacement → id ∈ since)}

/-- From a store that was read, transactions in any order. Each starts in any state of the
owner that holds the store. -/
def trustSystem (P : Platform) (codec : TrustCodec) :
    TransitionSystem TrustRun (TrustOperation × OwnerState) where
  init x := (x.store = new ∨ ∃ raw, selfFromJson codec P.crypto raw = .ok x.store) ∧
    x.since = {id | x.store.isPaired id = true}
  step x label y := label.2.session.trusted = x.store ∧
    label.1.Admissible P label.2.session ∧
    y.store = (exec (label.1.program P) label.2).2.session.trusted ∧
    y.since = trustedSince x.store y.store x.since

/-- What is replaced: the identities of the pending decision, each as it was shown and
trusted since, and no other. -/
structure ReplacesExactly (x : TrustRun) (revision count : Nat) (after : TrustedDeviceStore)
    (replacement : TrustedIdentityReplacement) : Prop where
  pending : x.store.pendingIdentityReplacement = some replacement
  revision_eq : replacement.revision = revision
  unchanged : ∀ candidate ∈ replacement.previousIdentities, ∃ device,
    x.store.get candidate.deviceId = some device ∧
      device.certificateFingerprint = candidate.certificateFingerprint ∧
      device.lastConnectedAtMs = candidate.lastConnectedAtMs
  since : ∀ candidate ∈ replacement.previousIdentities, candidate.deviceId ∈ x.since
  current_kept : after.isPaired replacement.currentDeviceId = true
  removed : ∀ id, after.get id =
    if id ∈ replacement.previousIdentities.map TrustedIdentityCandidate.deviceId then none
    else x.store.get id
  counted : count = replacement.previousIdentities.length
  decided : after.pendingIdentityReplacement = none

structure TrustStoreContract (P : Platform) (codec : TrustCodec) : Prop where
  /-- A saved text is read back. -/
  readBack : ∀ store devices disk, (storeSystem codec P.crypto).Reachable store →
    devices.Perm store.devices.values → store.saveToPath P.crypto disk = .ok () →
    ∃ text store', savedText codec P.crypto store devices = .ok text ∧
      selfFromJson codec P.crypto text = .ok store' ∧ store'.devices = store.devices ∧
      store'.pendingIdentityReplacement = store.pendingIdentityReplacement ∧
      store'.nextIdentityReplacementRevision = store.nextIdentityReplacementRevision
  /-- The validator accepts every store that is reached. -/
  accepted : ∀ x, (trustSystem P codec).Reachable x → ∀ devices,
    devices.Perm x.store.devices.values →
    validatePersistedDevices P.crypto (x.store.payload devices) = .ok ()
  /-- It accepts every store that an operation is about to write. -/
  written : ∀ x, (trustSystem P codec).Reachable x → ∀ s : ReceiverSession,
    s.trusted = x.store → ∀ (op : TrustOperation) nowMs store devices, op.Admissible P s →
    op.target P s nowMs = some store → devices.Perm store.devices.values →
    validatePersistedDevices P.crypto (store.payload devices) = .ok ()
  /-- An operation that fails leaves the whole store as it was. -/
  restored : ∀ (op : TrustOperation) o error, (exec (op.program P) o).1 = .error error →
    (exec (op.program P) o).2.session.trusted = o.session.trusted
  replaced : ∀ x, (trustSystem P codec).Reachable x → ∀ o : OwnerState,
    o.session.trusted = x.store → ∀ revision count o',
    exec (Owner.replaceTrustedIdentityHistory P revision) o = (.ok count, o') →
    ∃ replacement, ReplacesExactly x revision count o'.session.trusted replacement

section Runs

variable {P : Platform} {codec : TrustCodec} {s : ReceiverSession} {store : TrustedDeviceStore}
  {op : TrustOperation} {nowMs : Nat} {x : TrustRun}

theorem trustedAfterCommit_cases (P : Platform) (s : ReceiverSession) (sender : ActiveSender)
    (nowMs : Nat) :
    (s.trusted.isPaired sender.senderId = true ∧ s.trustedAfterCommit P sender nowMs =
        s.trusted.upsert (trustedDeviceFromPairing P.crypto sender.senderId sender.deviceName
          sender.publicKey nowMs)) ∨
      s.trustedAfterCommit P sender nowMs = ReceiverSession.prepareReplacement P.crypto
        (s.trusted.upsert (trustedDeviceFromPairing P.crypto sender.senderId sender.deviceName
          sender.publicKey nowMs)) sender.senderId := by
  unfold ReceiverSession.trustedAfterCommit
  dsimp only
  split
  · rename_i hpaired
    exact Or.inl ⟨hpaired, rfl⟩
  · exact Or.inr rfl

theorem keyed_prepareReplacement {crypto : Cryptography} (h : Keyed store)
    (currentDeviceId : String) :
    Keyed (ReceiverSession.prepareReplacement crypto store currentDeviceId) :=
  h.of_get fun id => Or.inl (get_prepareReplacement crypto store currentDeviceId id)

/-- Step lemma: an operation writes stores that the validator accepts. -/
theorem target_accepted (hsha : ∀ bytes, (P.crypto.sha256 bytes).length = 32)
    (hkeyed : Keyed s.trusted) (h : Accepted P.crypto s.trusted) (hop : op.Admissible P s)
    (htarget : op.target P s nowMs = some store) : Keyed store ∧ Accepted P.crypto store := by
  cases op with
  | commit sender =>
      obtain ⟨hid, hlength, hvalid, hname, hleft⟩ := hop
      have hdevice : validateDevice P.crypto (trustedDeviceFromPairing P.crypto sender.senderId
          sender.deviceName sender.publicKey nowMs) = .ok () :=
        validateDevice_ok.mpr ⟨hlength, hvalid, hid, rfl, hname⟩
      rw [← Option.some.inj htarget]
      rcases trustedAfterCommit_cases P s sender nowMs with ⟨_, heq⟩ | heq <;> rw [heq]
      · exact ⟨hkeyed.upsert _, h.upsert hdevice⟩
      · refine ⟨keyed_prepareReplacement (hkeyed.upsert _) _,
          accepted_prepareReplacement hsha (hkeyed.upsert _) (h.upsert hdevice) ?_⟩
        rw [upsert_next]
        exact hleft
  | remove deviceId =>
      obtain ⟨_, heq⟩ := Option.ite_none_right_eq_some.mp htarget
      rw [← Option.some.inj heq]
      exact ⟨hkeyed.remove deviceId, h.remove deviceId⟩
  | clear =>
      obtain ⟨_, heq⟩ := Option.ite_none_right_eq_some.mp htarget
      rw [← Option.some.inj heq]
      exact ⟨hkeyed.apply .clear, h.clear⟩
  | replace revision =>
      unfold TrustOperation.target at htarget
      dsimp only at htarget
      split at htarget
      · exact absurd htarget nofun
      · rename_i replacement _
        obtain ⟨_, heq⟩ := Option.ite_none_right_eq_some.mp htarget
        rw [← Option.some.inj heq]
        have hremoved := accepted_removeCandidates replacement.previousIdentities hkeyed h
        exact ⟨keyed_setIdentityReplacement hremoved.1 none, hremoved.2.setNone⟩
  | dismiss revision =>
      obtain ⟨_, heq⟩ := Option.ite_none_right_eq_some.mp htarget
      rw [← Option.some.inj heq]
      exact ⟨hkeyed.apply (.dismissIdentityReplacement revision), h.dismiss revision⟩

theorem isPaired_of_get {s s' : TrustedDeviceStore} {id : String}
    (hget : ∀ device, s'.get id = some device → s.get id = some device)
    (h : s'.isPaired id = true) : s.isPaired id = true := by
  obtain ⟨device, hdevice⟩ := isPaired_iff.mp h
  exact isPaired_iff.mpr ⟨device, hget device hdevice⟩

/-- Step lemma: an identity that becomes trusted ends the pending decision. -/
theorem target_paired (h : Accepted P.crypto s.trusted)
    (htarget : op.target P s nowMs = some store) {replacement : TrustedIdentityReplacement}
    (hbefore : s.trusted.pendingIdentityReplacement = some replacement)
    (hafter : store.pendingIdentityReplacement = some replacement) (id : String)
    (hid : store.isPaired id = true) : s.trusted.isPaired id = true := by
  cases op with
  | commit sender =>
      rw [← Option.some.inj htarget] at hafter hid
      rcases trustedAfterCommit_cases P s sender nowMs with ⟨hpaired, heq⟩ | heq <;>
        rw [heq] at hafter hid
      · obtain ⟨device, hdevice⟩ := isPaired_iff.mp hid
        rw [get_upsert] at hdevice
        split at hdevice
        · rename_i hsender
          rw [← hsender]
          exact hpaired
        · exact isPaired_iff.mpr ⟨device, hdevice⟩
      · -- A new decision has a revision that no earlier one had.
        rcases prepareReplacement_cases P.crypto (s.trusted.upsert (trustedDeviceFromPairing
          P.crypto sender.senderId sender.deviceName sender.publicKey nowMs)) sender.senderId with
          hnone | ⟨current, previous, _, _, _, hsome⟩
        · rw [hnone, setIdentityReplacement_pending] at hafter
          exact absurd hafter nofun
        · rw [hsome, setIdentityReplacement_pending] at hafter
          have hrevision := congrArg TrustedIdentityReplacement.revision (Option.some.inj hafter)
          have hold := (validateReplacement_ok.mp (h.pending replacement hbefore)).1.2
          dsimp only at hrevision
          rw [upsert_next] at hrevision
          omega
  | remove deviceId =>
      obtain ⟨_, heq⟩ := Option.ite_none_right_eq_some.mp htarget
      rw [← Option.some.inj heq] at hid
      refine isPaired_of_get (fun device hdevice => ?_) hid
      rw [get_remove] at hdevice
      split at hdevice
      · exact absurd hdevice nofun
      · exact hdevice
  | clear =>
      obtain ⟨_, heq⟩ := Option.ite_none_right_eq_some.mp htarget
      rw [← Option.some.inj heq] at hid
      refine isPaired_of_get (fun device hdevice => ?_) hid
      rw [get_clear] at hdevice
      exact absurd hdevice nofun
  | replace revision =>
      unfold TrustOperation.target at htarget
      rw [hbefore] at htarget
      obtain ⟨_, heq⟩ := Option.ite_none_right_eq_some.mp htarget
      rw [← Option.some.inj heq, setIdentityReplacement_pending] at hafter
      exact absurd hafter nofun
  | dismiss revision =>
      obtain ⟨hdismissed, heq⟩ := Option.ite_none_right_eq_some.mp htarget
      rw [← Option.some.inj heq] at hafter
      unfold dismissIdentityReplacement at hdismissed hafter
      split at hafter
      · exact absurd hafter nofun
      · rename_i hnot
        rw [if_neg hnot] at hdismissed
        exact absurd hdismissed Bool.false_ne_true

/-- What every reached store satisfies. -/
structure TrustInvariant (P : Platform) (x : TrustRun) : Prop where
  keyed : Keyed x.store
  accepted : Accepted P.crypto x.store
  /-- While a decision is pending, no identity has become trusted. -/
  since : ∀ replacement, x.store.pendingIdentityReplacement = some replacement →
    ∀ id, x.store.isPaired id = true → id ∈ x.since

theorem trustInvariant_init (h : (trustSystem P codec).init x) : TrustInvariant P x := by
  obtain ⟨hstore, hsince⟩ := h
  have hall : ∀ replacement, x.store.pendingIdentityReplacement = some replacement →
      ∀ id, x.store.isPaired id = true → id ∈ x.since := by
    intro _ _ id hid
    rw [hsince]
    exact hid
  rcases hstore with hnew | ⟨raw, hraw⟩
  · refine ⟨?_, ?_, hall⟩
    · rw [hnew]
      exact keyed_new
    · rw [hnew]
      exact accepted_new
  · exact ⟨keyed_selfFromJson hraw, accepted_selfFromJson hraw, hall⟩

/-- An identity that stays trusted under the same decision stays trusted since. -/
theorem since_kept {before after : TrustedDeviceStore} {since : Set String}
    (hsince : ∀ replacement, before.pendingIdentityReplacement = some replacement →
      ∀ id, before.isPaired id = true → id ∈ since)
    (hpaired : ∀ replacement, before.pendingIdentityReplacement = some replacement →
      after.pendingIdentityReplacement = some replacement →
      ∀ id, after.isPaired id = true → before.isPaired id = true)
    (replacement : TrustedIdentityReplacement)
    (hpending : after.pendingIdentityReplacement = some replacement) (id : String)
    (hid : after.isPaired id = true) : id ∈ trustedSince before after since := by
  refine ⟨hid, fun hsame => ?_⟩
  have hbefore := hsame.symm.trans hpending
  exact hsince replacement hbefore id (hpaired replacement hbefore hpending id hid)

theorem trustInvariant_step (hsha : ∀ bytes, (P.crypto.sha256 bytes).length = 32)
    (h : TrustInvariant P x) {label : TrustOperation × OwnerState} {y : TrustRun}
    (hstep : (trustSystem P codec).step x label y) : TrustInvariant P y := by
  obtain ⟨hstore, hop, hafter, hsince⟩ := hstep
  obtain ⟨nowMs, result, _, htransaction⟩ := Owner.program_transacts P label.1 label.2
  rw [← hafter, hstore] at htransaction
  have hkeyed : Keyed label.2.session.trusted := hstore ▸ h.keyed
  have haccepted : Accepted P.crypto label.2.session.trusted := hstore ▸ h.accepted
  have hsame : y.store = x.store → TrustInvariant P y := by
    intro heq
    refine ⟨heq ▸ h.keyed, heq ▸ h.accepted, ?_⟩
    rw [hsince]
    refine since_kept h.since fun _ _ _ id hid => ?_
    rw [← heq]
    exact hid
  generalize hy : y.store = after at htransaction
  cases htransaction with
  | idle _ _ => exact hsame hy
  | refused _ _ => exact hsame hy
  | written hsome _ =>
      obtain ⟨hkeyed', haccepted'⟩ := target_accepted hsha hkeyed haccepted hop hsome
      refine ⟨hy ▸ hkeyed', hy ▸ haccepted', ?_⟩
      rw [hsince]
      refine since_kept h.since fun replacement hbefore hpending id hid => ?_
      rw [hy] at hpending hid
      rw [← hstore] at hbefore ⊢
      exact target_paired haccepted hsome hbefore hpending id hid

/-- Run lemma. -/
theorem trustInvariant_of_reachable (hsha : ∀ bytes, (P.crypto.sha256 bytes).length = 32)
    (h : (trustSystem P codec).Reachable x) : TrustInvariant P x :=
  h.invariant (fun _ hinit => trustInvariant_init hinit)
    fun _ _ _ hinv hstep => trustInvariant_step hsha hinv hstep

theorem replacementIsCurrent_iff {replacement : TrustedIdentityReplacement} :
    s.replacementIsCurrent replacement = true ↔
      s.trusted.isPaired replacement.currentDeviceId = true ∧
        ∀ candidate ∈ replacement.previousIdentities, ∃ device,
          s.trusted.get candidate.deviceId = some device ∧
            device.certificateFingerprint = candidate.certificateFingerprint ∧
            device.lastConnectedAtMs = candidate.lastConnectedAtMs := by
  unfold ReceiverSession.replacementIsCurrent
  rw [Bool.and_eq_true, List.all_eq_true]
  refine and_congr_right fun _ => forall₂_congr fun candidate _ => ?_
  cases s.trusted.get candidate.deviceId with
  | none => exact iff_of_false nofun fun ⟨_, h, _⟩ => absurd h nofun
  | some device => simp

theorem replace_ok {o o' : OwnerState} {revision count : Nat}
    (h : exec (Owner.replaceTrustedIdentityHistory P revision) o = (.ok count, o')) :
    ∃ replacement, o.session.trusted.pendingIdentityReplacement = some replacement ∧
      replacement.revision = revision ∧ o.session.replacementIsCurrent replacement = true ∧
      count = (ReceiverSession.removeCandidates replacement.previousIdentities
        o.session.trusted).1 ∧
      o'.session.trusted = (ReceiverSession.removeCandidates replacement.previousIdentities
        o.session.trusted).2.setIdentityReplacement none := by
  have htransacts := Owner.replaceTrustedIdentityHistory_transacts P revision o
  rw [h] at htransacts
  obtain ⟨result, hresult, htransaction⟩ := htransacts
  unfold Owner.replacedCount at hresult
  unfold TrustOperation.target at htransaction
  dsimp only at hresult htransaction
  unfold Owner.replaceTrustedIdentityHistory Owner.session at h
  rw [exec_read_bind] at h
  cases hpending : o.session.trusted.pendingIdentityReplacement with
  | none =>
      rw [hpending] at h
      exact absurd (congrArg Prod.fst h) nofun
  | some replacement =>
      rw [hpending] at h hresult htransaction
      dsimp only at h hresult htransaction
      by_cases hcurrent : replacement.revision = revision ∧
          o.session.replacementIsCurrent replacement = true
      · rw [if_pos hcurrent] at htransaction
        refine ⟨replacement, rfl, hcurrent.1, hcurrent.2, ?_, ?_⟩
        · cases result with
          | ok value => exact Except.ok.inj hresult
          | error error => exact absurd hresult nofun
        · generalize o'.session.trusted = after at htransaction
          cases htransaction with
          | idle hnone _ => exact absurd hnone nofun
          | written hsome _ => exact (Option.some.inj hsome).symm
          | refused _ _ => exact absurd hresult nofun
      · rw [if_neg hcurrent] at h
        exact absurd (congrArg Prod.fst h) nofun

theorem replacesExactly (hsha : ∀ bytes, (P.crypto.sha256 bytes).length = 32)
    (hx : (trustSystem P codec).Reachable x) {o o' : OwnerState}
    (hstore : o.session.trusted = x.store) {revision count : Nat}
    (h : exec (Owner.replaceTrustedIdentityHistory P revision) o = (.ok count, o')) :
    ∃ replacement, ReplacesExactly x revision count o'.session.trusted replacement := by
  have hinv := trustInvariant_of_reachable hsha hx
  obtain ⟨replacement, hpending, hrevision, hcurrent, hcount, hafter⟩ := replace_ok h
  obtain ⟨hpaired, hunchanged⟩ := replacementIsCurrent_iff.mp hcurrent
  rw [hstore] at hpending hpaired hunchanged hcount hafter
  obtain ⟨_, _, hnodup, hcandidates⟩ := validateReplacement_ok.mp
    (hinv.accepted.pending replacement hpending)
  have hall : ∀ candidate ∈ replacement.previousIdentities,
      x.store.isPaired candidate.deviceId = true := by
    intro candidate hcandidate
    obtain ⟨device, hdevice, _⟩ := hunchanged candidate hcandidate
    exact isPaired_iff.mpr ⟨device, hdevice⟩
  have hremoved : ∀ id, o'.session.trusted.get id =
      if id ∈ replacement.previousIdentities.map TrustedIdentityCandidate.deviceId then none
      else x.store.get id := by
    intro id
    rw [hafter, get_setIdentityReplacement, get_removeCandidates]
  refine ⟨replacement, hpending, hrevision, hunchanged, ?_, ?_, hremoved, ?_, ?_⟩
  · exact fun candidate hcandidate =>
      hinv.since replacement hpending _ (hall candidate hcandidate)
  · obtain ⟨device, hdevice⟩ := isPaired_iff.mp hpaired
    refine isPaired_iff.mpr ⟨device, ?_⟩
    rw [hremoved, if_neg, hdevice]
    intro hmem
    obtain ⟨candidate, hcandidate, heq⟩ := List.mem_map.mp hmem
    exact (hcandidates candidate hcandidate).1 heq
  · rw [hcount, removeCandidates_count _ hnodup hall]
  · rw [hafter, setIdentityReplacement_pending]

/-- The trust store keeps its contract: what is saved is read back, no store is reached or
about to be written that the validator refuses, a failed operation changes nothing, and a
replacement removes exactly the identities of its decision. -/
theorem trustStore_contract (codec : TrustCodec)
    (hsha : ∀ bytes, (P.crypto.sha256 bytes).length = 32) : TrustStoreContract P codec where
  readBack store devices disk hstore hlist hsaved := by
    have hkeyed := keyed_of_reachable hstore
    obtain ⟨text, htext⟩ := @Keyed.saved codec _ _ _ hkeyed hlist _ hsaved
    obtain ⟨store', hread⟩ := hkeyed.read_back hlist htext
    exact ⟨text, store', htext, hread⟩
  accepted x hx devices hlist := by
    have hinv := trustInvariant_of_reachable hsha hx
    exact (hinv.keyed.validatePersisted_ok hlist).mpr hinv.accepted
  written x hx s hs op nowMs store devices hop htarget hlist := by
    have hinv := trustInvariant_of_reachable hsha hx
    obtain ⟨hkeyed, haccepted⟩ := target_accepted hsha (hs ▸ hinv.keyed) (hs ▸ hinv.accepted) hop
      htarget
    exact (hkeyed.validatePersisted_ok hlist).mpr haccepted
  restored op o error herror := by
    obtain ⟨nowMs, result, hresult, htransaction⟩ := Owner.program_transacts P op o
    rw [herror] at hresult
    generalize (exec (op.program P) o).2.session.trusted = after at htransaction
    cases htransaction with
    | idle _ _ => rfl
    | refused _ _ => rfl
    | written _ _ => exact absurd hresult nofun
  replaced x hx o ho revision count o' h := replacesExactly hsha hx ho h

end Runs

/-- The persisted form as its own text. -/
def plainCodec : TrustCodec where
  Text := PersistedTrustedDevices
  encode := id
  decode := .ok
  decode_encode _ := rfl

def plainPlatform : Platform where
  crypto :=
    { sha256 := fun bytes => (bytes ++ List.replicate 32 0).take 32
      validKey := fun _ => true
      verify := fun _ _ _ => true
      sign := fun _ _ => List.replicate 64 1
      lowercase := id }
  codecs _ _ := ⟨fun _ => none, fun _ => none⟩
  validatedVideoFormat _ := .error "invalid codec configuration"

theorem trustStore_contract_plain : TrustStoreContract plainPlatform plainCodec :=
  trustStore_contract plainCodec fun bytes => by
    change ((bytes ++ List.replicate 32 0).take 32).length = 32
    rw [List.length_take, List.length_append, List.length_replicate]
    omega

end PicooCamera.Receiver
