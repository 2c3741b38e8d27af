import PicooCamera.Library.Properties

/-!
# The advertisement of a Receiver

The TXT record that a Receiver broadcasts and how a Sender reads it. A record is
accepted exactly where it has the six properties of an advertisement, in any order.
-/

namespace PicooCamera.Discovery

open PicooCamera.Library

def serviceType : String := "_picoocam._udp.local."

def allowedTxtKeys : List String :=
  ["receiver_id", "display_name", "platform", "quic_port", "pairing_state",
    "public_key_fingerprint_prefix"]

inductive ReceiverPlatform where
  | windows
  | macos
  deriving DecidableEq, Repr

namespace ReceiverPlatform

def asStr : ReceiverPlatform → String
  | .windows => "windows"
  | .macos => "macos"

def parse (value : String) : Option ReceiverPlatform :=
  if value = "windows" then some .windows
  else if value = "macos" then some .macos
  else none

end ReceiverPlatform

inductive PairingState where
  | open
  | pairedOnly
  deriving DecidableEq, Repr

namespace PairingState

def asStr : PairingState → String
  | .open => "open"
  | .pairedOnly => "paired_only"

def parse (value : String) : Option PairingState :=
  if value = "open" then some .open
  else if value = "paired_only" then some .pairedOnly
  else none

end PairingState

structure ReceiverAdvertisement where
  receiverId : String
  displayName : String
  platform : ReceiverPlatform
  quicPort : UInt16
  pairingState : PairingState
  publicKeyFingerprintPrefix : String
  deriving DecidableEq, Repr

inductive AdvertisementError where
  | duplicateField (field : String)
  | missingField (field : String)
  | unknownField (field : String)
  | invalidPort
  | invalidPlatform
  | invalidPairingState
  deriving DecidableEq, Repr

abbrev TxtProperties := List (String × String)

/-- `str::parse::<u16>`: a plus sign may stand before the digits. -/
def parsePort (text : String) : Option UInt16 :=
  let digits := if text.toList.head? = some '+' then text.toList.tail else text.toList
  let value := Nat.ofDigitChars 10 digits 0
  if digits ≠ [] ∧ digits.all Char.isDigit ∧ value < 2 ^ 16 then some (UInt16.ofNat value)
  else none

namespace ReceiverAdvertisement

def new (receiverId displayName : String) (platform : ReceiverPlatform) (quicPort : UInt16)
    (publicKeyFingerprintPrefix : String) : ReceiverAdvertisement where
  receiverId := receiverId
  displayName := displayName
  platform := platform
  quicPort := quicPort
  pairingState := .open
  publicKeyFingerprintPrefix := publicKeyFingerprintPrefix

def withPairingState (a : ReceiverAdvertisement) (state : PairingState) : ReceiverAdvertisement :=
  { a with pairingState := state }

def toTxtProperties (a : ReceiverAdvertisement) : TxtProperties :=
  [("receiver_id", a.receiverId), ("display_name", a.displayName),
    ("platform", a.platform.asStr), ("quic_port", toString a.quicPort.toNat),
    ("pairing_state", a.pairingState.asStr),
    ("public_key_fingerprint_prefix", a.publicKeyFingerprintPrefix)]

/-- The first property that may not be there, if there is one. -/
def checkKeys (seen : List String) : TxtProperties → Except AdvertisementError Unit
  | [] => .ok ()
  | (key, _) :: rest =>
      if key ∈ seen then .error (.duplicateField key)
      else if key ∉ allowedTxtKeys then .error (.unknownField key)
      else checkKeys (key :: seen) rest

def required (properties : TxtProperties) (key : String) : Except AdvertisementError String :=
  match properties.lookup key with
  | none => .error (.missingField key)
  | some value => .ok value

def orError {α : Type} (value : Option α) (error : AdvertisementError) :
    Except AdvertisementError α :=
  match value with
  | none => .error error
  | some value => .ok value

def fromTxtProperties (properties : TxtProperties) :
    Except AdvertisementError ReceiverAdvertisement := do
  checkKeys [] properties
  let receiverId ← required properties "receiver_id"
  let displayName ← required properties "display_name"
  let platform ← required properties "platform"
  let platform ← orError (ReceiverPlatform.parse platform) .invalidPlatform
  let quicPort ← required properties "quic_port"
  let quicPort ← orError (parsePort quicPort) .invalidPort
  if quicPort = 0 then throw .invalidPort
  let pairingState ← required properties "pairing_state"
  let pairingState ← orError (PairingState.parse pairingState) .invalidPairingState
  let publicKeyFingerprintPrefix ← required properties "public_key_fingerprint_prefix"
  pure { receiverId, displayName, platform, quicPort, pairingState, publicKeyFingerprintPrefix }

/-! ## What is read -/

variable {properties : TxtProperties} {a : ReceiverAdvertisement} {seen : List String}

/-- The record of `a`, with its port in the spelling `port`. -/
def writtenWith (a : ReceiverAdvertisement) (port : String) : TxtProperties :=
  [("receiver_id", a.receiverId), ("display_name", a.displayName),
    ("platform", a.platform.asStr), ("quic_port", port), ("pairing_state", a.pairingState.asStr),
    ("public_key_fingerprint_prefix", a.publicKeyFingerprintPrefix)]

theorem platform_parse_iff {text : String} {platform : ReceiverPlatform} :
    ReceiverPlatform.parse text = some platform ↔ text = platform.asStr := by
  unfold ReceiverPlatform.parse
  cases platform <;> simp only [ReceiverPlatform.asStr] <;> split <;> simp_all

theorem pairingState_parse_iff {text : String} {state : PairingState} :
    PairingState.parse text = some state ↔ text = state.asStr := by
  unfold PairingState.parse
  cases state <;> simp only [PairingState.asStr] <;> split <;> simp_all

theorem parsePort_toString (port : UInt16) : parsePort (toString port.toNat) = some port := by
  have hdigits : (toString port.toNat).toList = Nat.toDigits 10 port.toNat := Nat.toList_repr
  have hall : ∀ c ∈ Nat.toDigits 10 port.toNat, c.isDigit = true := fun c hc =>
    Nat.isDigit_of_mem_toDigits (by decide) (by decide) hc
  have hplus : (Nat.toDigits 10 port.toNat).head? ≠ some '+' := by
    intro hhead
    have hdigit := hall '+' (List.mem_of_mem_head? hhead)
    cases hdigit
  unfold parsePort
  rw [hdigits, if_neg hplus, if_pos]
  · rw [Nat.ofDigitChars_ten_toDigits, UInt16.ofNat_toNat]
  · refine ⟨Nat.toDigits_ne_nil, List.all_eq_true.mpr hall, ?_⟩
    rw [Nat.ofDigitChars_ten_toDigits]
    exact port.toNat_lt

theorem checkKeys_iff : checkKeys seen properties = .ok () ↔
    (properties.map Prod.fst).Nodup ∧
      ∀ key ∈ properties.map Prod.fst, key ∉ seen ∧ key ∈ allowedTxtKeys := by
  induction properties generalizing seen with
  | nil => simp [checkKeys]
  | cons property rest ih =>
      obtain ⟨key, value⟩ := property
      unfold checkKeys
      rw [List.map_cons, List.nodup_cons, List.forall_mem_cons]
      by_cases hseen : key ∈ seen
      · rw [if_pos hseen]
        exact iff_of_false nofun fun h => h.2.1.1 hseen
      · by_cases hallowed : key ∈ allowedTxtKeys
        · rw [if_neg hseen, if_neg (not_not_intro hallowed), ih]
          constructor
          · rintro ⟨hnodup, hrest⟩
            refine ⟨⟨fun hmem => (hrest key hmem).1 List.mem_cons_self, hnodup⟩,
              ⟨hseen, hallowed⟩, fun other hother => ⟨fun hmem => ?_, (hrest other hother).2⟩⟩
            exact (hrest other hother).1 (List.mem_cons_of_mem _ hmem)
          · rintro ⟨⟨hfresh, hnodup⟩, _, hrest⟩
            refine ⟨hnodup, fun other hother => ⟨fun hmem => ?_, (hrest other hother).2⟩⟩
            rcases List.mem_cons.mp hmem with rfl | hmem
            · exact hfresh hother
            · exact (hrest other hother).1 hmem
        · rw [if_neg hseen, if_pos hallowed]
          exact iff_of_false nofun fun h => hallowed h.2.1.2

theorem required_iff {key value : String} :
    required properties key = .ok value ↔ properties.lookup key = some value := by
  unfold required
  cases properties.lookup key <;> simp

theorem orError_iff {α : Type} {value : Option α} {error : AdvertisementError} {result : α} :
    orError value error = .ok result ↔ value = some result := by
  unfold orError
  cases value <;> simp

theorem bind_eq_ok {α β : Type} {x : Except AdvertisementError α}
    {f : α → Except AdvertisementError β} {b : β} :
    x >>= f = .ok b ↔ ∃ a, x = .ok a ∧ f a = .ok b := by
  cases x with
  | error error => exact iff_of_false nofun fun ⟨_, h, _⟩ => absurd h nofun
  | ok a =>
      constructor
      · exact fun h => ⟨a, rfl, h⟩
      · rintro ⟨a', ha, h⟩
        rwa [← Except.ok.inj ha] at h

/-- The fields of `a` as a record holds them. -/
structure Holds (properties : TxtProperties) (a : ReceiverAdvertisement) (port : String) :
    Prop where
  keys : checkKeys [] properties = .ok ()
  receiverId : properties.lookup "receiver_id" = some a.receiverId
  displayName : properties.lookup "display_name" = some a.displayName
  platform : properties.lookup "platform" = some a.platform.asStr
  quicPort : properties.lookup "quic_port" = some port
  pairingState : properties.lookup "pairing_state" = some a.pairingState.asStr
  publicKeyFingerprintPrefix :
    properties.lookup "public_key_fingerprint_prefix" = some a.publicKeyFingerprintPrefix

theorem fromTxtProperties_holds : fromTxtProperties properties = .ok a ↔
    ∃ port, parsePort port = some a.quicPort ∧ a.quicPort ≠ 0 ∧ Holds properties a port := by
  unfold fromTxtProperties
  constructor
  · intro h
    obtain ⟨_, hkeys, h⟩ := bind_eq_ok.mp h
    obtain ⟨receiverId, hreceiver, h⟩ := bind_eq_ok.mp h
    obtain ⟨displayName, hdisplay, h⟩ := bind_eq_ok.mp h
    obtain ⟨platformText, hplatformText, h⟩ := bind_eq_ok.mp h
    obtain ⟨platform, hplatform, h⟩ := bind_eq_ok.mp h
    obtain ⟨port, hport, h⟩ := bind_eq_ok.mp h
    obtain ⟨quicPort, hquicPort, h⟩ := bind_eq_ok.mp h
    by_cases hzero : quicPort = 0
    · rw [if_pos hzero] at h
      cases h
    · rw [if_neg hzero] at h
      obtain ⟨stateText, hstateText, h⟩ := bind_eq_ok.mp h
      obtain ⟨state, hstate, h⟩ := bind_eq_ok.mp h
      obtain ⟨fingerprint, hfingerprint, h⟩ := bind_eq_ok.mp h
      rw [← Except.ok.inj h]
      rw [required_iff] at hreceiver hdisplay hplatformText hport hstateText hfingerprint
      rw [orError_iff] at hplatform hquicPort hstate
      refine ⟨port, hquicPort, hzero, hkeys, hreceiver, hdisplay, ?_, hport, ?_, hfingerprint⟩
      · rw [hplatformText, platform_parse_iff.mp hplatform]
      · rw [hstateText, pairingState_parse_iff.mp hstate]
  · rintro ⟨port, hquicPort, hzero, hholds⟩
    refine bind_eq_ok.mpr ⟨_, hholds.keys, ?_⟩
    refine bind_eq_ok.mpr ⟨_, required_iff.mpr hholds.receiverId, ?_⟩
    refine bind_eq_ok.mpr ⟨_, required_iff.mpr hholds.displayName, ?_⟩
    refine bind_eq_ok.mpr ⟨_, required_iff.mpr hholds.platform, ?_⟩
    refine bind_eq_ok.mpr ⟨_, orError_iff.mpr (platform_parse_iff.mpr rfl), ?_⟩
    refine bind_eq_ok.mpr ⟨_, required_iff.mpr hholds.quicPort, ?_⟩
    refine bind_eq_ok.mpr ⟨_, orError_iff.mpr hquicPort, ?_⟩
    rw [if_neg hzero]
    refine bind_eq_ok.mpr ⟨_, required_iff.mpr hholds.pairingState, ?_⟩
    refine bind_eq_ok.mpr ⟨_, orError_iff.mpr (pairingState_parse_iff.mpr rfl), ?_⟩
    exact bind_eq_ok.mpr ⟨_, required_iff.mpr hholds.publicKeyFingerprintPrefix, rfl⟩

theorem holds_iff_perm {port : String} :
    Holds properties a port ↔ properties.Perm (a.writtenWith port) := by
  have hwritten : a.writtenWith port =
      allowedTxtKeys.map fun key => (key, ((a.writtenWith port).lookup key).getD "") := by
    simp [writtenWith, allowedTxtKeys, List.lookup]
  constructor
  · intro h
    obtain ⟨hnodup, hallowed⟩ := checkKeys_iff.mp h.keys
    rw [hwritten]
    apply perm_of_lookup hnodup (by decide) fun key hkey => (hallowed key hkey).2
    simp only [allowedTxtKeys, List.forall_mem_cons, List.not_mem_nil, false_implies,
      implies_true, and_true]
    exact ⟨h.receiverId, h.displayName, h.platform, h.quicPort, h.pairingState,
      h.publicKeyFingerprintPrefix⟩
  · intro h
    have hkeys : (properties.map Prod.fst).Perm allowedTxtKeys := h.map Prod.fst
    have hnodup : (properties.map Prod.fst).Nodup := hkeys.nodup_iff.mpr (by decide)
    have hlookup : ∀ key, properties.lookup key = (a.writtenWith port).lookup key :=
      fun key => (lookup_perm hnodup h).symm
    refine ⟨checkKeys_iff.mpr ⟨hnodup, fun key hkey => ⟨List.not_mem_nil, ?_⟩⟩, ?_, ?_, ?_, ?_, ?_,
      ?_⟩
    · exact hkeys.mem_iff.mp hkey
    all_goals
    · rw [hlookup]
      rfl

/-! ## Why a record is refused -/

theorem bind_eq_error {α β : Type} {x : Except AdvertisementError α}
    {f : α → Except AdvertisementError β} {error : AdvertisementError} :
    x >>= f = .error error ↔ x = .error error ∨ ∃ a, x = .ok a ∧ f a = .error error := by
  cases x with
  | error own =>
      constructor
      · intro h
        exact Or.inl (congrArg Except.error (Except.error.inj h))
      · rintro (h | ⟨_, h, _⟩)
        · exact congrArg Except.error (Except.error.inj h)
        · cases h
  | ok a =>
      constructor
      · exact fun h => Or.inr ⟨a, rfl, h⟩
      · rintro (h | ⟨a', ha, h⟩)
        · cases h
        · rwa [← Except.ok.inj ha] at h

/-- What an error says of the record is so. -/
def Justified (properties : TxtProperties) : AdvertisementError → Prop
  | .duplicateField field => 2 ≤ (properties.map Prod.fst).count field
  | .missingField field => field ∈ allowedTxtKeys ∧ field ∉ properties.map Prod.fst
  | .unknownField field => field ∈ properties.map Prod.fst ∧ field ∉ allowedTxtKeys
  | .invalidPort => ∃ text, properties.lookup "quic_port" = some text ∧
      (parsePort text = none ∨ parsePort text = some 0)
  | .invalidPlatform => ∃ text, properties.lookup "platform" = some text ∧
      ReceiverPlatform.parse text = none
  | .invalidPairingState => ∃ text, properties.lookup "pairing_state" = some text ∧
      PairingState.parse text = none

theorem checkKeys_error {error : AdvertisementError} (h : checkKeys seen properties = .error error) :
    (∃ field, error = .duplicateField field ∧ field ∈ properties.map Prod.fst ∧
      (field ∈ seen ∨ 2 ≤ (properties.map Prod.fst).count field)) ∨
    ∃ field, error = .unknownField field ∧ field ∈ properties.map Prod.fst ∧
      field ∉ allowedTxtKeys := by
  induction properties generalizing seen with
  | nil => cases h
  | cons property rest ih =>
      obtain ⟨key, value⟩ := property
      unfold checkKeys at h
      rw [List.map_cons]
      by_cases hseen : key ∈ seen
      · rw [if_pos hseen] at h
        exact Or.inl ⟨key, (Except.error.inj h).symm, List.mem_cons_self, Or.inl hseen⟩
      · rw [if_neg hseen] at h
        by_cases hallowed : key ∈ allowedTxtKeys
        · rw [if_neg (not_not_intro hallowed)] at h
          rcases ih h with ⟨field, rfl, hmem, htwice⟩ | ⟨field, rfl, hmem, hother⟩
          · refine Or.inl ⟨field, rfl, List.mem_cons_of_mem _ hmem, ?_⟩
            rcases htwice with hbefore | htwice
            · rcases List.mem_cons.mp hbefore with rfl | hbefore
              · right
                have hagain := List.count_pos_iff.mpr hmem
                rw [List.count_cons_self]
                omega
              · exact Or.inl hbefore
            · exact Or.inr (Nat.le_trans htwice List.count_le_count_cons)
          · exact Or.inr ⟨field, rfl, List.mem_cons_of_mem _ hmem, hother⟩
        · rw [if_pos hallowed] at h
          exact Or.inr ⟨key, (Except.error.inj h).symm, List.mem_cons_self, hallowed⟩

theorem required_error {key : String} {error : AdvertisementError} (hkey : key ∈ allowedTxtKeys)
    (h : required properties key = .error error) : Justified properties error := by
  unfold required at h
  cases hlookup : properties.lookup key with
  | some value =>
      rw [hlookup] at h
      cases h
  | none =>
      rw [hlookup] at h
      rw [← Except.error.inj h]
      refine ⟨hkey, fun hmem => ?_⟩
      obtain ⟨property, hproperty, rfl⟩ := List.mem_map.mp hmem
      have hdiffers := List.lookup_eq_none_iff.mp hlookup property hproperty
      exact absurd rfl (bne_iff_ne.mp hdiffers)

theorem orError_error {α : Type} {value : Option α} {error own : AdvertisementError}
    (h : orError value own = .error error) : value = none ∧ error = own := by
  cases value with
  | some value => cases h
  | none => exact ⟨rfl, (Except.error.inj h).symm⟩

theorem fromTxtProperties_error {error : AdvertisementError}
    (h : fromTxtProperties properties = .error error) : Justified properties error := by
  unfold fromTxtProperties at h
  rcases bind_eq_error.mp h with hkeys | ⟨_, _, h⟩
  · rcases checkKeys_error hkeys with ⟨field, rfl, _, htwice⟩ | ⟨field, rfl, hmem, hother⟩
    · exact htwice.resolve_left List.not_mem_nil
    · exact ⟨hmem, hother⟩
  rcases bind_eq_error.mp h with hmissing | ⟨_, _, h⟩
  · exact required_error (by decide) hmissing
  rcases bind_eq_error.mp h with hmissing | ⟨_, _, h⟩
  · exact required_error (by decide) hmissing
  rcases bind_eq_error.mp h with hmissing | ⟨platform, hplatform, h⟩
  · exact required_error (by decide) hmissing
  rcases bind_eq_error.mp h with hinvalid | ⟨_, _, h⟩
  · obtain ⟨hnone, rfl⟩ := orError_error hinvalid
    exact ⟨platform, required_iff.mp hplatform, hnone⟩
  rcases bind_eq_error.mp h with hmissing | ⟨port, hport, h⟩
  · exact required_error (by decide) hmissing
  rcases bind_eq_error.mp h with hinvalid | ⟨quicPort, hquicPort, h⟩
  · obtain ⟨hnone, rfl⟩ := orError_error hinvalid
    exact ⟨port, required_iff.mp hport, Or.inl hnone⟩
  by_cases hzero : quicPort = 0
  · rw [if_pos hzero] at h
    cases h
    exact ⟨port, required_iff.mp hport, Or.inr (hzero ▸ orError_iff.mp hquicPort)⟩
  rw [if_neg hzero] at h
  rcases bind_eq_error.mp h with hmissing | ⟨state, hstate, h⟩
  · exact required_error (by decide) hmissing
  rcases bind_eq_error.mp h with hinvalid | ⟨_, _, h⟩
  · obtain ⟨hnone, rfl⟩ := orError_error hinvalid
    exact ⟨state, required_iff.mp hstate, hnone⟩
  rcases bind_eq_error.mp h with hmissing | ⟨_, _, h⟩
  · exact required_error (by decide) hmissing
  · cases h

/-- A record is accepted exactly where it is, in some order, the record of the advertisement,
whose port may be spelled in any way; the record that a Receiver writes is read back; and where
a record is refused the error is justified. -/
theorem txt_record_contract (properties : TxtProperties) (a : ReceiverAdvertisement) :
    (fromTxtProperties properties = .ok a ↔ ∃ port, parsePort port = some a.quicPort ∧
      a.quicPort ≠ 0 ∧ properties.Perm (a.writtenWith port)) ∧
      (a.quicPort ≠ 0 → properties.Perm a.toTxtProperties →
        fromTxtProperties properties = .ok a) ∧
      ∀ error, fromTxtProperties properties = .error error → Justified properties error := by
  have hiff := @fromTxtProperties_holds properties a
  simp only [holds_iff_perm] at hiff
  refine ⟨hiff, fun hzero hperm => ?_, fun error => fromTxtProperties_error⟩
  exact hiff.mpr ⟨_, parsePort_toString a.quicPort, hzero, hperm⟩

/-- A record in another order, with a port in another spelling. -/
theorem txt_record_contract_sample :
    fromTxtProperties [("quic_port", "+04433"), ("platform", "macos"), ("receiver_id", "recv-1"),
      ("pairing_state", "open"), ("display_name", "Work PC"),
      ("public_key_fingerprint_prefix", "ab12cd34")] =
      .ok (new "recv-1" "Work PC" .macos 4433 "ab12cd34") :=
  (txt_record_contract _ (new "recv-1" "Work PC" .macos 4433 "ab12cd34")).1.mpr
    ⟨"+04433", by decide, by decide, by decide⟩

end ReceiverAdvertisement

end PicooCamera.Discovery
