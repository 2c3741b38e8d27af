import PicooCamera.Library.OrderedMap
import PicooCamera.Packet.ReassemblyMap
import PicooCamera.Pairing.Handshake

/-!
# The store of trusted devices

Devices by id, the pending decision on older identities of the same name, and
the checks that a store has to pass before it is written.
-/

namespace PicooCamera.Pairing

open PicooCamera.Library PicooCamera.Packet

/-! ## Texts -/

/-- `char::is_whitespace`. -/
def isWhitespace (c : Char) : Bool :=
  let n := c.toNat
  (0x9 ≤ n ∧ n ≤ 0xD) ∨ n = 0x20 ∨ n = 0x85 ∨ n = 0xA0 ∨ n = 0x1680 ∨ (0x2000 ≤ n ∧ n ≤ 0x200A) ∨
    n = 0x2028 ∨ n = 0x2029 ∨ n = 0x202F ∨ n = 0x205F ∨ n = 0x3000

/-- `str::trim`. -/
def trim (s : String) : String :=
  String.ofList ((s.toList.dropWhile isWhitespace).rdropWhile isWhitespace)

/-- Empty, or of whitespace only. -/
def Blank (s : String) : Prop := ∀ c ∈ s.toList, isWhitespace c = true

instance (s : String) : Decidable (Blank s) :=
  decidable_of_iff (s.toList.all isWhitespace = true) List.all_eq_true

theorem trim_eq_empty {s : String} : trim s = "" ↔ Blank s := by
  have hofList : trim s = "" ↔
      (s.toList.dropWhile isWhitespace).rdropWhile isWhitespace = [] := by
    unfold trim
    rw [← String.toList_inj, String.toList_ofList]
    rfl
  rw [hofList, List.rdropWhile_eq_nil_iff]
  unfold Blank
  constructor
  · intro hleft
    by_contra hblank
    push Not at hblank
    obtain ⟨c, hc, hnot⟩ := hblank
    have hsplit := List.takeWhile_append_dropWhile (p := isWhitespace) (l := s.toList)
    rw [← hsplit] at hc
    cases List.mem_append.mp hc with
    | inl hfirst => exact hnot (List.mem_takeWhile_imp hfirst)
    | inr hrest => exact hnot (hleft c hrest)
  · exact fun hblank c hc => hblank c (List.dropWhile_subset _ hc)

/-! ## Devices -/

structure TrustedDevice where
  deviceId : String
  deviceName : String
  publicKey : Bytes
  certificateFingerprint : String
  pairedAtMs : Nat
  lastConnectedAtMs : Option Nat
  deriving DecidableEq, Repr

structure TrustedIdentityCandidate where
  deviceId : String
  certificateFingerprint : String
  lastConnectedAtMs : Option Nat
  deriving DecidableEq, Repr

structure TrustedIdentityReplacement where
  revision : Nat
  currentDeviceId : String
  deviceName : String
  previousIdentities : List TrustedIdentityCandidate
  deriving DecidableEq, Repr

inductive PairingError where
  | publicKeyMismatch (deviceId : String)
  | notPaired
  deriving DecidableEq, Repr

def verifyPublicKey (device : TrustedDevice) (observedKey : Bytes) : Except PairingError Unit :=
  if device.publicKey = observedKey then .ok ()
  else .error (.publicKeyMismatch device.deviceId)

def trustedDeviceFromPairing (crypto : Cryptography) (senderId deviceName : String)
    (publicKey : Bytes) (pairedAtMs : Nat) : TrustedDevice where
  deviceId := senderId
  deviceName := deviceName
  publicKey := publicKey
  certificateFingerprint := crypto.publicKeyFingerprint publicKey
  pairedAtMs := pairedAtMs
  lastConnectedAtMs := some pairedAtMs

inductive StoreError where
  | io (message : String)
  | json (message : String)
  | unsupportedFormat (format : String)
  | invalidData (message : String)
  deriving DecidableEq, Repr

structure TrustedDeviceStore where
  devices : Std.ExtTreeMap String TrustedDevice
  pendingIdentityReplacement : Option TrustedIdentityReplacement
  nextIdentityReplacementRevision : Nat
  revision : Nat

namespace TrustedDeviceStore

def new : TrustedDeviceStore where
  devices := ∅
  pendingIdentityReplacement := none
  nextIdentityReplacementRevision := 1
  revision := 1

def bumpRevision (s : TrustedDeviceStore) : TrustedDeviceStore :=
  { s with revision := saturatingAdd s.revision 1 }

def get (s : TrustedDeviceStore) (deviceId : String) : Option TrustedDevice :=
  s.devices[deviceId]?

def isPaired (s : TrustedDeviceStore) (deviceId : String) : Bool := s.devices.contains deviceId

def upsert (s : TrustedDeviceStore) (device : TrustedDevice) : TrustedDeviceStore :=
  if s.get device.deviceId = some device then s
  else { s with devices := s.devices.insert device.deviceId device }.bumpRevision

def touchLastConnected (s : TrustedDeviceStore) (deviceId : String) (nowMs : Nat) :
    TrustedDeviceStore :=
  match s.get deviceId with
  | none => s
  | some device => s.upsert { device with lastConnectedAtMs := some nowMs }

def remove (s : TrustedDeviceStore) (deviceId : String) : Bool × TrustedDeviceStore :=
  if s.isPaired deviceId then
    (true, { s with devices := s.devices.erase deviceId }.bumpRevision)
  else (false, s)

def clear (s : TrustedDeviceStore) : Nat × TrustedDeviceStore :=
  if 0 < s.devices.size then (s.devices.size, { s with devices := ∅ }.bumpRevision)
  else (0, s)

def normalizedDeviceName (crypto : Cryptography) (name : String) : String :=
  crypto.lowercase (trim name)

/-- The other trusted identities with the name of `deviceId`, in the order of their ids. -/
def sameNameIdentityIds (crypto : Cryptography) (s : TrustedDeviceStore) (deviceId : String) :
    List String :=
  match s.get deviceId with
  | none => []
  | some current =>
      let name := normalizedDeviceName crypto current.deviceName
      if name = "" then []
      else
        (s.devices.values.filter fun device =>
          device.deviceId ≠ deviceId ∧
            normalizedDeviceName crypto device.deviceName = name).map TrustedDevice.deviceId

def allocateIdentityReplacementRevision (s : TrustedDeviceStore) : Nat × TrustedDeviceStore :=
  let revision := max s.nextIdentityReplacementRevision 1
  (revision, { s with nextIdentityReplacementRevision := saturatingAdd revision 1 })

def setIdentityReplacement (s : TrustedDeviceStore)
    (replacement : Option TrustedIdentityReplacement) : TrustedDeviceStore :=
  if s.pendingIdentityReplacement = replacement then s
  else { s with pendingIdentityReplacement := replacement }.bumpRevision

def dismissIdentityReplacement (s : TrustedDeviceStore) (revision : Nat) :
    Bool × TrustedDeviceStore :=
  if ∃ replacement ∈ s.pendingIdentityReplacement, replacement.revision = revision then
    (true, { s with pendingIdentityReplacement := none }.bumpRevision)
  else (false, s)

def verifyPairedKey (s : TrustedDeviceStore) (deviceId : String) (observedKey : Bytes) :
    Except PairingError Unit :=
  match s.get deviceId with
  | none => .error .notPaired
  | some device => verifyPublicKey device observedKey

/-! ## What may be written -/

def isLowerHex (value : String) : Bool :=
  value.toList.all fun c => ('0' ≤ c ∧ c ≤ '9') ∨ ('a' ≤ c ∧ c ≤ 'f')

def isDeviceId (value : String) : Bool :=
  let rest := value.toList.drop 6
  value.toList.take 6 = "picoo-".toList ∧ rest.length = 32 ∧ isLowerHex (String.ofList rest)

def isSha256Fingerprint (value : String) : Bool :=
  value.toList.length = 64 ∧ isLowerHex value

def validateDevice (crypto : Cryptography) (device : TrustedDevice) : Except StoreError Unit :=
  if device.publicKey.length ≠ publicKeyLen then
    .error (.invalidData "invalid identity file: Ed25519 public-key length")
  else if crypto.validKey device.publicKey = false then
    .error (.invalidData "invalid identity file: invalid Ed25519 public key")
  else if crypto.deriveDeviceId device.publicKey ≠ device.deviceId then
    .error (.invalidData ("device id does not match public key for " ++ device.deviceId))
  else if crypto.publicKeyFingerprint device.publicKey ≠ device.certificateFingerprint then
    .error (.invalidData ("public-key fingerprint does not match for " ++ device.deviceId))
  else if trim device.deviceName = "" then
    .error (.invalidData ("device name is empty for " ++ device.deviceId))
  else .ok ()

def validateReplacement (nextRevision : Nat)
    (replacement : TrustedIdentityReplacement) : Except StoreError Unit :=
  let ids := replacement.previousIdentities.map TrustedIdentityCandidate.deviceId
  if replacement.revision = 0 ∨ nextRevision ≤ replacement.revision then
    .error (.invalidData "identity replacement revision is invalid")
  else if isDeviceId replacement.currentDeviceId = false ∨
      trim replacement.deviceName = "" ∨ replacement.previousIdentities = [] then
    .error (.invalidData "identity replacement current snapshot is invalid")
  else if ¬ids.Nodup ∨ replacement.previousIdentities.any (fun candidate =>
      candidate.deviceId = replacement.currentDeviceId ∨ isDeviceId candidate.deviceId = false ∨
        isSha256Fingerprint candidate.certificateFingerprint = false) then
    .error (.invalidData "identity replacement contains an invalid candidate")
  else .ok ()

/-- The devices of a store have distinct ids, as they are the values of a map by id. -/
def validate (crypto : Cryptography) (s : TrustedDeviceStore) : Except StoreError Unit := do
  if s.nextIdentityReplacementRevision = 0 then
    throw (.invalidData "next identity replacement revision is invalid")
  s.devices.values.forM (validateDevice crypto)
  match s.pendingIdentityReplacement with
  | none => pure ()
  | some replacement =>
      validateReplacement s.nextIdentityReplacementRevision replacement

/-- `save_to_path`, where `disk` is what the file system answers to the atomic replace. -/
def saveToPath (crypto : Cryptography) (s : TrustedDeviceStore) (disk : Except StoreError Unit) :
    Except StoreError Unit := do
  s.validate crypto
  disk

end TrustedDeviceStore

end PicooCamera.Pairing
