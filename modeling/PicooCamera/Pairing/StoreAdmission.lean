import PicooCamera.Pairing.TrustPersistence

/-!
# Devices that a store admits

A device is stored for good when the validator accepts the store that holds it
and the store is read back. A device whose name is blank is refused.
-/

namespace PicooCamera.Pairing

open PicooCamera.Library TrustedDeviceStore

variable {codec : TrustCodec} {crypto : Cryptography} {store : TrustedDeviceStore}
  {device : TrustedDevice}

theorem not_blank_deriveDeviceId (crypto : Cryptography) (publicKey : Bytes) :
    ¬Blank (crypto.deriveDeviceId publicKey) := by
  intro hblank
  have hfirst : 'p' ∈ (crypto.deriveDeviceId publicKey).toList := by
    unfold Cryptography.deriveDeviceId
    rw [String.toList_append]
    exact List.mem_append_left _ (by decide)
  have hspace := hblank 'p' hfirst
  revert hspace
  decide

/-- `validate_persisted_devices` accepts the store, in whatever order its map lists the devices. -/
def Valid (crypto : Cryptography) (store : TrustedDeviceStore) : Prop :=
  ∀ devices, devices.Perm store.devices.values →
    validatePersistedDevices crypto (store.payload devices) = .ok ()

/-- The store holds `device`, the validator accepts it, and it is read back as it is. -/
structure Persists (codec : TrustCodec) (crypto : Cryptography) (store : TrustedDeviceStore)
    (device : TrustedDevice) : Prop where
  stored : store.get device.deviceId = some device
  valid : Valid crypto store
  reloaded : ∀ devices, devices.Perm store.devices.values → ∃ text store',
    savedText codec crypto store devices = .ok text ∧
      selfFromJson codec crypto text = .ok store' ∧ store'.devices = store.devices ∧
      store'.pendingIdentityReplacement = store.pendingIdentityReplacement ∧
      store'.nextIdentityReplacementRevision = store.nextIdentityReplacementRevision

theorem valid_iff (hkeyed : Keyed store) : Valid crypto store ↔ Accepted crypto store := by
  constructor
  · exact fun h => (hkeyed.validatePersisted_ok (List.Perm.refl _)).mp (h _ (List.Perm.refl _))
  · exact fun h devices hlist => (hkeyed.validatePersisted_ok hlist).mpr h

theorem persists_iff (hkeyed : Keyed store) : Persists codec crypto store device ↔
    store.get device.deviceId = some device ∧ Accepted crypto store := by
  constructor
  · exact fun h => ⟨h.stored, (valid_iff hkeyed).mp h.valid⟩
  · intro ⟨hstored, haccepted⟩
    refine ⟨hstored, (valid_iff hkeyed).mpr haccepted, fun devices hlist => ?_⟩
    have hvalid := (hkeyed.validatePersisted_ok hlist).mpr haccepted
    have htext : savedText codec crypto store devices =
        .ok (codec.encode (store.payload devices)) := by
      unfold savedText
      rw [hvalid]
    obtain ⟨store', hread⟩ := hkeyed.read_back hlist htext
    exact ⟨_, store', htext, hread⟩

theorem saveToPath_ok (crypto : Cryptography) (store : TrustedDeviceStore) :
    store.saveToPath crypto (.ok ()) = store.validate crypto := by
  unfold saveToPath
  cases store.validate crypto <;> rfl

end PicooCamera.Pairing
