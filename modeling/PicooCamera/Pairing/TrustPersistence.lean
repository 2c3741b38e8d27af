import PicooCamera.Library.TransitionSystem
import PicooCamera.Pairing.TrustedDeviceStore

/-!
# The trust store on disk

A store is written as a list of devices, in the order in which the hash map
lists them, and read back by inserting them one by one. Every device is kept
under its own id, so that the order does not matter.
-/

namespace PicooCamera.Pairing

open PicooCamera.Library

structure PersistedTrustedDevices where
  format : String
  devices : List TrustedDevice
  pendingIdentityReplacement : Option TrustedIdentityReplacement
  nextIdentityReplacementRevision : Nat
  deriving DecidableEq, Repr

/-- `serde_json` on the persisted form. -/
structure TrustCodec where
  Text : Type
  encode : PersistedTrustedDevices → Text
  decode : Text → Except StoreError PersistedTrustedDevices
  decode_encode : ∀ persisted, decode (encode persisted) = .ok persisted

def storeFormat : String := "picoo-camera-ed25519-trust"

namespace TrustedDeviceStore

/-- The device ids before the list are `seen`. -/
def validateDevices (crypto : Cryptography) :
    List String → List TrustedDevice → Except StoreError Unit
  | _, [] => .ok ()
  | seen, device :: devices =>
      match validateDevice crypto device with
      | .error error => .error error
      | .ok () =>
          if device.deviceId ∈ seen then
            .error (.invalidData ("duplicate device id " ++ device.deviceId))
          else validateDevices crypto (device.deviceId :: seen) devices

def validatePersistedDevices (crypto : Cryptography) (persisted : PersistedTrustedDevices) :
    Except StoreError Unit :=
  if persisted.nextIdentityReplacementRevision = 0 then
    .error (.invalidData "next identity replacement revision is invalid")
  else
    match validateDevices crypto [] persisted.devices with
    | .error error => .error error
    | .ok () =>
        match persisted.pendingIdentityReplacement with
        | none => .ok ()
        | some replacement =>
            validateReplacement persisted.nextIdentityReplacementRevision replacement

def selfFromJson (codec : TrustCodec) (crypto : Cryptography) (raw : codec.Text) :
    Except StoreError TrustedDeviceStore :=
  match codec.decode raw with
  | .error error => .error error
  | .ok persisted =>
      if persisted.format ≠ storeFormat then .error (.unsupportedFormat persisted.format)
      else
        match validatePersistedDevices crypto persisted with
        | .error error => .error error
        | .ok () => .ok
            { persisted.devices.foldl upsert new with
              pendingIdentityReplacement := persisted.pendingIdentityReplacement
              nextIdentityReplacementRevision := persisted.nextIdentityReplacementRevision }

/-- What `save_to_path` writes, where the hash map lists its devices as `devices`. -/
def payload (s : TrustedDeviceStore) (devices : List TrustedDevice) :
    PersistedTrustedDevices where
  format := storeFormat
  devices := devices
  pendingIdentityReplacement := s.pendingIdentityReplacement
  nextIdentityReplacementRevision := s.nextIdentityReplacementRevision

/-- The text of a successful `save_to_path`. -/
def savedText (codec : TrustCodec) (crypto : Cryptography) (s : TrustedDeviceStore)
    (devices : List TrustedDevice) : Except StoreError codec.Text :=
  match validatePersistedDevices crypto (s.payload devices) with
  | .error error => .error error
  | .ok () => .ok (codec.encode (s.payload devices))

/-! ## Stores that the API builds -/

inductive StoreOperation where
  | upsert (device : TrustedDevice)
  | touchLastConnected (deviceId : String) (nowMs : Nat)
  | remove (deviceId : String)
  | clear
  | allocateIdentityReplacementRevision
  | setIdentityReplacement (replacement : Option TrustedIdentityReplacement)
  | dismissIdentityReplacement (revision : Nat)

def apply (s : TrustedDeviceStore) : StoreOperation → TrustedDeviceStore
  | .upsert device => s.upsert device
  | .touchLastConnected deviceId nowMs => s.touchLastConnected deviceId nowMs
  | .remove deviceId => (s.remove deviceId).2
  | .clear => s.clear.2
  | .allocateIdentityReplacementRevision => s.allocateIdentityReplacementRevision.2
  | .setIdentityReplacement replacement => s.setIdentityReplacement replacement
  | .dismissIdentityReplacement revision => (s.dismissIdentityReplacement revision).2

/-- A store starts as an empty one or as one that was read. -/
def storeSystem (codec : TrustCodec) (crypto : Cryptography) :
    TransitionSystem TrustedDeviceStore StoreOperation where
  init s := s = new ∨ ∃ raw, selfFromJson codec crypto raw = .ok s
  step s op s' := s' = s.apply op

/-- Every device is kept under its own id. -/
def Keyed (s : TrustedDeviceStore) : Prop :=
  ∀ id device, s.get id = some device → device.deviceId = id

variable {codec : TrustCodec} {crypto : Cryptography} {s : TrustedDeviceStore}
  {devices : List TrustedDevice} {device : TrustedDevice} {id : String}

/-! ## Lookups -/

@[simp] theorem get_bumpRevision : s.bumpRevision.get id = s.get id := rfl

theorem get_new : new.get id = none := Std.ExtTreeMap.getElem?_empty

theorem get_upsert (s : TrustedDeviceStore) (device : TrustedDevice) (id : String) :
    (s.upsert device).get id = if device.deviceId = id then some device else s.get id := by
  unfold upsert
  split
  · rename_i hsame
    split
    · rename_i hid
      rw [← hid, hsame]
    · rfl
  · rw [get_bumpRevision]
    unfold get
    rw [Std.ExtTreeMap.getElem?_insert]
    simp only [Std.LawfulEqCmp.compare_eq_iff_eq]

theorem get_remove (s : TrustedDeviceStore) (deviceId id : String) :
    (s.remove deviceId).2.get id = if deviceId = id then none else s.get id := by
  unfold remove
  split
  · rw [get_bumpRevision]
    unfold get
    rw [Std.ExtTreeMap.getElem?_erase]
    simp only [Std.LawfulEqCmp.compare_eq_iff_eq]
  · rename_i hnot
    split
    · rename_i hid
      have hmem : id ∉ s.devices := by
        rw [← hid, ← Std.ExtTreeMap.contains_iff_mem]
        exact hnot
      exact Std.ExtTreeMap.getElem?_eq_none hmem
    · rfl

theorem get_clear (s : TrustedDeviceStore) (id : String) : s.clear.2.get id = none := by
  unfold clear
  split
  · exact Std.ExtTreeMap.getElem?_empty
  · rename_i hempty
    have hnone : s.devices = ∅ :=
      Std.ExtTreeMap.eq_empty_iff_size_eq_zero.mpr (by omega)
    unfold get
    rw [hnone]
    exact Std.ExtTreeMap.getElem?_empty

@[simp] theorem get_allocate :
    s.allocateIdentityReplacementRevision.2.get id = s.get id := rfl

@[simp] theorem get_setIdentityReplacement (replacement : Option TrustedIdentityReplacement) :
    (s.setIdentityReplacement replacement).get id = s.get id := by
  unfold setIdentityReplacement
  split <;> rfl

@[simp] theorem get_dismissIdentityReplacement (revision : Nat) :
    (s.dismissIdentityReplacement revision).2.get id = s.get id := by
  unfold dismissIdentityReplacement
  split <;> rfl

theorem isPaired_iff : s.isPaired id = true ↔ ∃ device, s.get id = some device := by
  unfold isPaired get
  rw [Std.ExtTreeMap.contains_iff_mem, ← Std.ExtTreeMap.isSome_getElem?_iff_mem,
    Option.isSome_iff_exists]

/-! ## Devices are kept under their ids -/

theorem keyed_new : Keyed new := by
  intro id device h
  rw [get_new] at h
  exact absurd h nofun

theorem Keyed.of_get {s' : TrustedDeviceStore} (h : Keyed s)
    (hget : ∀ id, s'.get id = s.get id ∨ s'.get id = none) : Keyed s' := by
  intro id device hdevice
  rcases hget id with hsame | hnone
  · exact h id device (hsame ▸ hdevice)
  · rw [hnone] at hdevice
    exact absurd hdevice nofun

theorem Keyed.upsert (h : Keyed s) (device : TrustedDevice) : Keyed (s.upsert device) := by
  intro id other hother
  rw [get_upsert] at hother
  split at hother
  · rename_i hid
    rw [← Option.some.inj hother]
    exact hid
  · exact h id other hother

theorem Keyed.remove (h : Keyed s) (deviceId : String) : Keyed (s.remove deviceId).2 := by
  refine h.of_get fun id => ?_
  rw [get_remove]
  split
  · exact Or.inr rfl
  · exact Or.inl rfl

theorem Keyed.apply (h : Keyed s) (op : StoreOperation) : Keyed (s.apply op) := by
  cases op with
  | upsert device => exact h.upsert device
  | touchLastConnected deviceId nowMs =>
      change Keyed (s.touchLastConnected deviceId nowMs)
      unfold TrustedDeviceStore.touchLastConnected
      split
      · exact h
      · exact h.upsert _
  | remove deviceId => exact h.remove deviceId
  | clear => exact h.of_get fun id => Or.inr (get_clear s id)
  | allocateIdentityReplacementRevision => exact h.of_get fun _ => Or.inl get_allocate
  | setIdentityReplacement replacement =>
      exact h.of_get fun _ => Or.inl (get_setIdentityReplacement replacement)
  | dismissIdentityReplacement revision =>
      exact h.of_get fun _ => Or.inl (get_dismissIdentityReplacement revision)

theorem keyed_foldl (h : Keyed s) (devices : List TrustedDevice) :
    Keyed (devices.foldl TrustedDeviceStore.upsert s) := by
  induction devices generalizing s with
  | nil => exact h
  | cons device devices ih => exact ih (h.upsert device)

theorem selfFromJson_ok {raw : codec.Text} (h : selfFromJson codec crypto raw = .ok s) :
    ∃ persisted, codec.decode raw = .ok persisted ∧
      validatePersistedDevices crypto persisted = .ok () ∧
      s.devices = (persisted.devices.foldl TrustedDeviceStore.upsert new).devices ∧
      s.pendingIdentityReplacement = persisted.pendingIdentityReplacement ∧
      s.nextIdentityReplacementRevision = persisted.nextIdentityReplacementRevision := by
  unfold selfFromJson at h
  split at h
  · exact absurd h nofun
  · rename_i persisted hdecode
    split at h
    · exact absurd h nofun
    · split at h
      · exact absurd h nofun
      · rename_i hvalid
        obtain rfl := Except.ok.inj h
        exact ⟨persisted, hdecode, hvalid, rfl, rfl, rfl⟩

theorem keyed_selfFromJson {raw : codec.Text} (h : selfFromJson codec crypto raw = .ok s) :
    Keyed s := by
  obtain ⟨persisted, _, _, hdevices, _, _⟩ := selfFromJson_ok h
  refine (keyed_foldl keyed_new persisted.devices).of_get fun id => Or.inl ?_
  unfold get
  rw [hdevices]

/-- Run lemma: every store that the API builds is keyed. -/
theorem keyed_of_reachable (h : (storeSystem codec crypto).Reachable s) : Keyed s := by
  refine h.invariant ?_ ?_
  · rintro s (rfl | ⟨raw, hraw⟩)
    · exact keyed_new
    · exact keyed_selfFromJson hraw
  · rintro s op _ hs rfl
    exact hs.apply op

/-! ## Reading back what was written -/

theorem mem_values_iff_get : device ∈ s.devices.values ↔ ∃ id, s.get id = some device :=
  mem_values_iff

theorem Keyed.nodup_ids (h : Keyed s) :
    (s.devices.values.map TrustedDevice.deviceId).Nodup := by
  have hids : s.devices.values.map TrustedDevice.deviceId = s.devices.keys := by
    rw [values_eq_map_toList, ← Std.ExtTreeMap.map_fst_toList_eq_keys, List.map_map]
    refine List.map_congr_left fun entry hentry => ?_
    exact h entry.1 entry.2 (Std.ExtTreeMap.mem_toList_iff_getElem?_eq_some.mp hentry)
  rw [hids]
  exact Std.ExtTreeMap.nodup_keys

theorem get_foldl_upsert (hnodup : (devices.map TrustedDevice.deviceId).Nodup) :
    (devices.foldl upsert s).get id = some device ↔
      (device ∈ devices ∧ device.deviceId = id) ∨
        (s.get id = some device ∧ ∀ other ∈ devices, other.deviceId ≠ id) := by
  induction devices generalizing s with
  | nil => simp
  | cons first devices ih =>
      rw [List.map_cons, List.nodup_cons] at hnodup
      have hfirst : ∀ other ∈ devices, other.deviceId ≠ first.deviceId := fun other hother heq =>
        hnodup.1 (heq ▸ List.mem_map_of_mem hother)
      rw [List.foldl_cons, ih hnodup.2, get_upsert, List.forall_mem_cons, List.mem_cons]
      constructor
      · rintro (⟨hmem, hid⟩ | ⟨hget, hrest⟩)
        · exact Or.inl ⟨Or.inr hmem, hid⟩
        · split at hget
          · rename_i hid
            obtain rfl := Option.some.inj hget
            exact Or.inl ⟨Or.inl rfl, hid⟩
          · rename_i hid
            exact Or.inr ⟨hget, hid, hrest⟩
      · rintro (⟨rfl | hmem, hid⟩ | ⟨hget, hid, hrest⟩)
        · refine Or.inr ⟨if_pos hid, fun other hother => ?_⟩
          rw [← hid]
          exact hfirst other hother
        · exact Or.inl ⟨hmem, hid⟩
        · exact Or.inr ⟨by rw [if_neg hid]; exact hget, hrest⟩

theorem Keyed.devices_of_listed (h : Keyed s) (hlist : devices.Perm s.devices.values) :
    (devices.foldl TrustedDeviceStore.upsert new).devices = s.devices := by
  have hnodup : (devices.map TrustedDevice.deviceId).Nodup :=
    (hlist.map TrustedDevice.deviceId).nodup_iff.mpr h.nodup_ids
  refine Std.ExtTreeMap.ext_getElem? fun id => ?_
  refine Option.ext fun device => ?_
  have hget := @get_foldl_upsert new _ device id hnodup
  rw [get_new] at hget
  refine hget.trans ?_
  rw [hlist.mem_iff, mem_values_iff_get]
  constructor
  · rintro (⟨⟨key, hkey⟩, hid⟩ | ⟨hnone, _⟩)
    · rw [← hid, h key device hkey]
      exact hkey
    · exact absurd hnone nofun
  · exact fun hdevice => Or.inl ⟨⟨id, hdevice⟩, h id device hdevice⟩

theorem Keyed.read_back (h : Keyed s) (hlist : devices.Perm s.devices.values) {text : codec.Text}
    (hsaved : savedText codec crypto s devices = .ok text) :
    ∃ s', selfFromJson codec crypto text = .ok s' ∧ s'.devices = s.devices ∧
      s'.pendingIdentityReplacement = s.pendingIdentityReplacement ∧
      s'.nextIdentityReplacementRevision = s.nextIdentityReplacementRevision := by
  unfold savedText at hsaved
  split at hsaved
  · exact absurd hsaved nofun
  · rename_i hvalid
    obtain rfl := Except.ok.inj hsaved
    unfold selfFromJson
    rw [codec.decode_encode]
    dsimp only
    have hformat : (s.payload devices).format = storeFormat := rfl
    rw [if_neg (not_not_intro hformat), hvalid]
    exact ⟨_, rfl, h.devices_of_listed hlist, rfl, rfl⟩

/-! ## What the validator accepts -/

theorem validateDevices_ok {seen : List String} :
    validateDevices crypto seen devices = .ok () ↔
      (∀ device ∈ devices, validateDevice crypto device = .ok ()) ∧
        (devices.map TrustedDevice.deviceId).Nodup ∧
          ∀ device ∈ devices, device.deviceId ∉ seen := by
  induction devices generalizing seen with
  | nil => simp [validateDevices]
  | cons first devices ih =>
      rw [validateDevices, List.forall_mem_cons, List.forall_mem_cons, List.map_cons,
        List.nodup_cons]
      cases hfirst : validateDevice crypto first with
      | error error => simp
      | ok value =>
          cases value
          dsimp only
          by_cases hseen : first.deviceId ∈ seen
          · rw [if_pos hseen]
            exact iff_of_false nofun fun h => h.2.2.1 hseen
          · rw [if_neg hseen, ih]
            simp only [List.mem_cons, not_or, forall_and, List.mem_map, not_exists, not_and]
            tauto

/-- What a store may hold. -/
structure Accepted (crypto : Cryptography) (s : TrustedDeviceStore) : Prop where
  next_pos : s.nextIdentityReplacementRevision ≠ 0
  devices : ∀ id device, s.get id = some device → validateDevice crypto device = .ok ()
  pending : ∀ replacement ∈ s.pendingIdentityReplacement,
    validateReplacement s.nextIdentityReplacementRevision replacement = .ok ()

theorem forM_ok {α : Type} {f : α → Except StoreError Unit} {items : List α} :
    items.forM f = .ok () ↔ ∀ item ∈ items, f item = .ok () := by
  induction items with
  | nil => exact iff_of_true rfl nofun
  | cons item items ih =>
      rw [List.forall_mem_cons, ← ih]
      change (f item >>= fun _ => items.forM f) = .ok () ↔ _
      cases hitem : f item with
      | error error => exact iff_of_false nofun fun h => absurd h.1 nofun
      | ok value => exact (and_iff_right rfl).symm

theorem accepted_iff (hnext : s.nextIdentityReplacementRevision ≠ 0)
    (hdevices : ∀ id device, s.get id = some device → validateDevice crypto device = .ok ()) :
    Accepted crypto s ↔ ∀ replacement ∈ s.pendingIdentityReplacement,
      validateReplacement s.nextIdentityReplacementRevision replacement = .ok () :=
  ⟨Accepted.pending, fun h => ⟨hnext, hdevices, h⟩⟩

theorem validate_ok : s.validate crypto = .ok () ↔ Accepted crypto s := by
  have hdevices : s.devices.values.forM (validateDevice crypto) = .ok () ↔
      ∀ id device, s.get id = some device → validateDevice crypto device = .ok () := by
    rw [forM_ok]
    constructor
    · exact fun h id device hdevice => h device (mem_values_iff_get.mpr ⟨id, hdevice⟩)
    · intro h device hdevice
      obtain ⟨id, hid⟩ := mem_values_iff_get.mp hdevice
      exact h id device hid
  unfold validate
  by_cases hnext : s.nextIdentityReplacementRevision = 0
  · rw [if_pos hnext]
    exact iff_of_false nofun fun h => h.next_pos hnext
  · rw [if_neg hnext]
    change (s.devices.values.forM (validateDevice crypto) >>= fun _ => _) = .ok () ↔ _
    cases hforM : s.devices.values.forM (validateDevice crypto) with
    | error error =>
        refine iff_of_false nofun fun h => ?_
        rw [hdevices.mpr h.devices] at hforM
        exact absurd hforM nofun
    | ok value =>
        rw [accepted_iff hnext (hdevices.mp hforM)]
        cases s.pendingIdentityReplacement with
        | none => exact iff_of_true rfl nofun
        | some replacement =>
            simp only [Option.mem_some_iff, forall_eq']
            rfl

theorem Keyed.validatePersisted_ok (h : Keyed s) (hlist : devices.Perm s.devices.values) :
    validatePersistedDevices crypto (s.payload devices) = .ok () ↔ Accepted crypto s := by
  have hdevices : validateDevices crypto [] devices = .ok () ↔
      ∀ id device, s.get id = some device → validateDevice crypto device = .ok () := by
    rw [validateDevices_ok]
    constructor
    · exact fun hall id device hdevice =>
        hall.1 device (hlist.mem_iff.mpr (mem_values_iff_get.mpr ⟨id, hdevice⟩))
    · intro hall
      refine ⟨?_, (hlist.map TrustedDevice.deviceId).nodup_iff.mpr h.nodup_ids, fun _ _ => nofun⟩
      intro device hdevice
      obtain ⟨id, hid⟩ := mem_values_iff_get.mp (hlist.mem_iff.mp hdevice)
      exact hall id device hid
  unfold validatePersistedDevices payload
  dsimp only
  by_cases hnext : s.nextIdentityReplacementRevision = 0
  · rw [if_pos hnext]
    exact iff_of_false nofun fun h => h.next_pos hnext
  · rw [if_neg hnext]
    cases hvalid : validateDevices crypto [] devices with
    | error error =>
        refine iff_of_false nofun fun h => ?_
        rw [hdevices.mpr h.devices] at hvalid
        exact absurd hvalid nofun
    | ok value =>
        rw [accepted_iff hnext (hdevices.mp hvalid)]
        cases s.pendingIdentityReplacement with
        | none => exact iff_of_true rfl nofun
        | some replacement => simp only [Option.mem_some_iff, forall_eq']

theorem Keyed.saved (h : Keyed s) (hlist : devices.Perm s.devices.values)
    {disk : Except StoreError Unit} (hsaved : s.saveToPath crypto disk = .ok ()) :
    ∃ text, savedText codec crypto s devices = .ok text := by
  have hvalid : s.validate crypto = .ok () := by
    unfold saveToPath at hsaved
    cases hvalidate : s.validate crypto with
    | error error =>
        rw [hvalidate] at hsaved
        exact absurd hsaved nofun
    | ok value => rfl
  unfold savedText
  rw [(h.validatePersisted_ok hlist).mpr (validate_ok.mp hvalid)]
  exact ⟨_, rfl⟩

/-! ## Operations on accepted stores -/

@[simp] theorem upsert_pending (s : TrustedDeviceStore) (device : TrustedDevice) :
    (s.upsert device).pendingIdentityReplacement = s.pendingIdentityReplacement := by
  unfold upsert
  split <;> rfl

@[simp] theorem upsert_next (s : TrustedDeviceStore) (device : TrustedDevice) :
    (s.upsert device).nextIdentityReplacementRevision = s.nextIdentityReplacementRevision := by
  unfold upsert
  split <;> rfl

@[simp] theorem remove_pending (s : TrustedDeviceStore) (deviceId : String) :
    (s.remove deviceId).2.pendingIdentityReplacement = s.pendingIdentityReplacement := by
  unfold remove
  split <;> rfl

@[simp] theorem remove_next (s : TrustedDeviceStore) (deviceId : String) :
    (s.remove deviceId).2.nextIdentityReplacementRevision =
      s.nextIdentityReplacementRevision := by
  unfold remove
  split <;> rfl

@[simp] theorem clear_pending (s : TrustedDeviceStore) :
    s.clear.2.pendingIdentityReplacement = s.pendingIdentityReplacement := by
  unfold clear
  split <;> rfl

@[simp] theorem clear_next (s : TrustedDeviceStore) :
    s.clear.2.nextIdentityReplacementRevision = s.nextIdentityReplacementRevision := by
  unfold clear
  split <;> rfl

@[simp] theorem setIdentityReplacement_pending (s : TrustedDeviceStore)
    (replacement : Option TrustedIdentityReplacement) :
    (s.setIdentityReplacement replacement).pendingIdentityReplacement = replacement := by
  unfold setIdentityReplacement
  split
  · rename_i hsame
    exact hsame
  · rfl

@[simp] theorem setIdentityReplacement_next (s : TrustedDeviceStore)
    (replacement : Option TrustedIdentityReplacement) :
    (s.setIdentityReplacement replacement).nextIdentityReplacementRevision =
      s.nextIdentityReplacementRevision := by
  unfold setIdentityReplacement
  split <;> rfl

theorem Accepted.of_fewer {s' : TrustedDeviceStore} (h : Accepted crypto s)
    (hnext : s'.nextIdentityReplacementRevision = s.nextIdentityReplacementRevision)
    (hdevices : ∀ id device, s'.get id = some device → s.get id = some device)
    (hpending : s'.pendingIdentityReplacement = s.pendingIdentityReplacement ∨
      s'.pendingIdentityReplacement = none) : Accepted crypto s' := by
  refine ⟨?_, fun id device hdevice => h.devices id device (hdevices id device hdevice), ?_⟩
  · rw [hnext]
    exact h.next_pos
  · intro replacement hreplacement
    rcases hpending with hsame | hnone
    · rw [hnext]
      exact h.pending replacement (hsame ▸ hreplacement)
    · rw [hnone] at hreplacement
      exact absurd hreplacement nofun

theorem Accepted.remove (h : Accepted crypto s) (deviceId : String) :
    Accepted crypto (s.remove deviceId).2 := by
  refine h.of_fewer (remove_next s deviceId) ?_ (Or.inl (remove_pending s deviceId))
  intro id device hdevice
  rw [get_remove] at hdevice
  split at hdevice
  · exact absurd hdevice nofun
  · exact hdevice

theorem Accepted.clear (h : Accepted crypto s) : Accepted crypto s.clear.2 := by
  refine h.of_fewer (clear_next s) ?_ (Or.inl (clear_pending s))
  intro id device hdevice
  rw [get_clear] at hdevice
  exact absurd hdevice nofun

theorem Accepted.setNone (h : Accepted crypto s) :
    Accepted crypto (s.setIdentityReplacement none) := by
  refine h.of_fewer (setIdentityReplacement_next s none) ?_
    (Or.inr (setIdentityReplacement_pending s none))
  exact fun id device hdevice => get_setIdentityReplacement none ▸ hdevice

theorem Accepted.dismiss (h : Accepted crypto s) (revision : Nat) :
    Accepted crypto (s.dismissIdentityReplacement revision).2 := by
  unfold dismissIdentityReplacement
  split
  · exact h.of_fewer rfl (fun _ _ hdevice => hdevice) (Or.inr rfl)
  · exact h

theorem Accepted.upsert (h : Accepted crypto s) {device : TrustedDevice}
    (hdevice : validateDevice crypto device = .ok ()) : Accepted crypto (s.upsert device) := by
  refine ⟨?_, ?_, ?_⟩
  · rw [upsert_next]
    exact h.next_pos
  · intro id other hother
    rw [get_upsert] at hother
    split at hother
    · rw [← Option.some.inj hother]
      exact hdevice
    · exact h.devices id other hother
  · rw [upsert_next, upsert_pending]
    exact h.pending

theorem accepted_new : Accepted crypto new := by
  refine ⟨by decide, fun id device hdevice => ?_, nofun⟩
  rw [get_new] at hdevice
  exact absurd hdevice nofun

theorem accepted_selfFromJson {raw : codec.Text} (h : selfFromJson codec crypto raw = .ok s) :
    Accepted crypto s := by
  obtain ⟨persisted, _, hvalid, hdevices, hpending, hnext⟩ := selfFromJson_ok h
  unfold validatePersistedDevices at hvalid
  split at hvalid
  · exact absurd hvalid nofun
  · rename_i hpos
    cases hlist : validateDevices crypto [] persisted.devices with
    | error error =>
        rw [hlist] at hvalid
        exact absurd hvalid nofun
    | ok value =>
        rw [hlist] at hvalid
        obtain ⟨hall, hnodup, _⟩ := validateDevices_ok.mp hlist
        refine ⟨hnext ▸ hpos, ?_, ?_⟩
        · intro id device hdevice
          have hget : (persisted.devices.foldl TrustedDeviceStore.upsert new).get id =
              some device := by
            unfold get at hdevice ⊢
            rw [← hdevices]
            exact hdevice
          rcases (get_foldl_upsert hnodup).mp hget with ⟨hmem, _⟩ | ⟨hnew, _⟩
          · exact hall device hmem
          · rw [get_new] at hnew
            exact absurd hnew nofun
        · intro replacement hreplacement
          rw [hpending] at hreplacement
          rw [hnext]
          dsimp only at hvalid
          rw [Option.mem_def.mp hreplacement] at hvalid
          exact hvalid

theorem validateReplacement_ok {nextRevision : Nat} {replacement : TrustedIdentityReplacement} :
    validateReplacement nextRevision replacement = .ok () ↔
      (replacement.revision ≠ 0 ∧ replacement.revision < nextRevision) ∧
        (isDeviceId replacement.currentDeviceId = true ∧
          trim replacement.deviceName ≠ "" ∧ replacement.previousIdentities ≠ []) ∧
        (replacement.previousIdentities.map TrustedIdentityCandidate.deviceId).Nodup ∧
        ∀ candidate ∈ replacement.previousIdentities,
          candidate.deviceId ≠ replacement.currentDeviceId ∧
            isDeviceId candidate.deviceId = true ∧
            isSha256Fingerprint candidate.certificateFingerprint = true := by
  unfold validateReplacement
  dsimp only
  split
  · rename_i hrevision
    refine iff_of_false nofun fun h => ?_
    omega
  · rename_i hrevision
    split
    · rename_i hcurrent
      refine iff_of_false nofun fun h => ?_
      simp_all
    · rename_i hcurrent
      split
      · rename_i hcandidates
        refine iff_of_false nofun fun h => ?_
        simp only [List.any_eq_true, decide_eq_true_eq] at hcandidates
        rcases hcandidates with hnodup | ⟨candidate, hmem, hbad⟩
        · exact hnodup h.2.2.1
        · have hgood := h.2.2.2 candidate hmem
          simp_all
      · rename_i hcandidates
        simp only [List.any_eq_true, decide_eq_true_eq, not_or, not_not, not_exists, not_and]
          at hcandidates hcurrent hrevision
        refine iff_of_true rfl ⟨⟨hrevision.1, by omega⟩, ?_, hcandidates.1, ?_⟩
        · simp_all
        · intro candidate hmem
          have hgood := hcandidates.2 candidate hmem
          simp_all

/-! ## Derived identifiers -/

theorem hexDigit_lower {n : Nat} (h : n < 16) :
    ('0' ≤ hexDigit n ∧ hexDigit n ≤ '9') ∨ ('a' ≤ hexDigit n ∧ hexDigit n ≤ 'f') := by
  have hall : ∀ n < 16, ('0' ≤ hexDigit n ∧ hexDigit n ≤ '9') ∨
      ('a' ≤ hexDigit n ∧ hexDigit n ≤ 'f') := by decide
  exact hall n h

theorem isLowerHex_hexEncode (bytes : Bytes) : isLowerHex (hexEncode bytes) = true := by
  unfold isLowerHex hexEncode
  rw [String.toList_ofList, List.all_eq_true]
  intro c hc
  obtain ⟨byte, _, hc⟩ := List.mem_flatMap.mp hc
  have hbyte := byte.toNat_lt
  rw [List.mem_cons, List.mem_singleton] at hc
  rcases hc with rfl | rfl
  · exact decide_eq_true (hexDigit_lower (by omega))
  · exact decide_eq_true (hexDigit_lower (by omega))

theorem length_hexEncode (bytes : Bytes) : (hexEncode bytes).toList.length = 2 * bytes.length := by
  unfold hexEncode
  rw [String.toList_ofList, List.length_flatMap]
  induction bytes with
  | nil => rfl
  | cons byte bytes ih =>
      rw [List.map_cons, List.sum_cons, ih]
      simp only [List.length_cons, List.length_nil]
      omega

theorem isDeviceId_deriveDeviceId (hsha : ∀ bytes, (crypto.sha256 bytes).length = 32)
    (publicKey : Bytes) : isDeviceId (crypto.deriveDeviceId publicKey) = true := by
  unfold isDeviceId Cryptography.deriveDeviceId
  have hprefix : "picoo-".toList.length = 6 := by decide
  rw [String.toList_append, ← hprefix, List.drop_left, List.take_left]
  refine decide_eq_true ⟨rfl, ?_, ?_⟩
  · rw [length_hexEncode, List.length_take, hsha]
    rfl
  · rw [String.ofList_toList]
    exact isLowerHex_hexEncode _

theorem isSha256Fingerprint_publicKey (hsha : ∀ bytes, (crypto.sha256 bytes).length = 32)
    (publicKey : Bytes) : isSha256Fingerprint (crypto.publicKeyFingerprint publicKey) = true := by
  unfold isSha256Fingerprint Cryptography.publicKeyFingerprint
  refine decide_eq_true ⟨?_, isLowerHex_hexEncode _⟩
  rw [length_hexEncode, hsha]

theorem validateDevice_ok : validateDevice crypto device = .ok () ↔
    device.publicKey.length = publicKeyLen ∧ crypto.validKey device.publicKey = true ∧
      crypto.deriveDeviceId device.publicKey = device.deviceId ∧
      crypto.publicKeyFingerprint device.publicKey = device.certificateFingerprint ∧
      trim device.deviceName ≠ "" := by
  unfold validateDevice
  split
  next hlength => exact iff_of_false nofun fun h => hlength h.1
  next hlength =>
    split
    next hkey =>
      refine iff_of_false nofun fun h => ?_
      rw [h.2.1] at hkey
      exact Bool.false_ne_true hkey.symm
    next hkey =>
      split
      next hid => exact iff_of_false nofun fun h => hid h.2.2.1
      next hid =>
        split
        next hfingerprint => exact iff_of_false nofun fun h => hfingerprint h.2.2.2.1
        next hfingerprint =>
          split
          next hname => exact iff_of_false nofun fun h => h.2.2.2.2 hname
          next hname =>
            exact iff_of_true rfl ⟨not_not.mp hlength, (Bool.not_eq_false _).mp hkey,
              not_not.mp hid, not_not.mp hfingerprint, hname⟩

end TrustedDeviceStore

end PicooCamera.Pairing
