import PicooCamera.Library.Text
import PicooCamera.Pairing.TrustedDeviceStore

/-!
# The diagnostic report

A report is exported with hosts, device names, ids and fingerprints redacted. A
text is the list of its characters.
-/

namespace PicooCamera.Diagnostics

open PicooCamera.Library PicooCamera.Pairing

abbrev Text := List Char

def reportVersion : Nat := 1

structure RedactionPolicy where
  redactIps : Bool
  redactDeviceNames : Bool
  redactFingerprints : Bool
  deriving DecidableEq, Repr

def RedactionPolicy.default : RedactionPolicy := ⟨true, true, true⟩

structure DiagnosticSessionSnapshot where
  role : Text
  status : Text
  accessUnits : Nat
  packets : Nat
  packetsDroppedUnpaired : Nat
  fecRecoveredFragments : Nat
  reassemblyPartialAccessUnitDrops : Nat
  reassemblyWholeAccessUnitGapDrops : Nat
  receiveQueueExpiredAccessUnits : Nat
  decodeInvocations : Nat
  decodedFrames : Nat
  orientationTransformFrames : Nat
  orientationTransformTotalUs : Nat
  orientationTransformMaxUs : Nat
  recoveryDroppedAccessUnits : Nat
  decoderCapacityDroppedAccessUnits : Nat
  decoderResets : Nat
  recoveryReferenceLost : Nat
  recoveryReferenceLate : Nat
  recoveryJitterCapacity : Nat
  recoveryArrivedAfterPlayout : Nat
  recoveryJitterExpired : Nat
  recoveryDecoderErrors : Nat
  keyframeRequests : Nat
  hosts : List Text
  deriving DecidableEq, Repr

structure DiagnosticTrustedDevice where
  deviceId : Text
  deviceName : Text
  certificateFingerprint : Text
  pairedAtMs : Nat
  lastConnectedAtMs : Option Nat
  deriving DecidableEq, Repr

structure DiagnosticReport (Preview : Type) where
  version : Nat
  exportedAtMs : Nat
  platform : Text
  appVersion : Text
  buildNumber : Option Text
  preview : Option Preview
  protocolName : Text
  redactionEnabled : Bool
  includesVideo : Bool
  session : Option DiagnosticSessionSnapshot
  trustedDevices : List DiagnosticTrustedDevice
  deriving DecidableEq, Repr

structure DiagnosticInput (Preview : Type) where
  platform : Text
  appVersion : Text
  buildNumber : Option Text
  preview : Option Preview
  exportedAtMs : Nat
  redaction : RedactionPolicy
  session : Option DiagnosticSessionSnapshot
  trustedDevices : List TrustedDevice
  hosts : List Text
  deriving DecidableEq, Repr

/-! ## Redaction -/

/-- `str::parse::<u8>` succeeds. It takes a sign and leading zeros. -/
def parsesU8 (part : Text) : Bool :=
  let digits := if part.head? = some '+' then part.tail else part
  digits ≠ [] ∧ digits.all Char.isDigit ∧ Nat.ofDigitChars 10 digits 0 ≤ 255

def redactIpv4 (ip : Text) : Text :=
  let parts := ip.splitOn '.'
  if parts.length = 4 ∧ parts.all parsesU8 then
    parts.getD 0 [] ++ '.' :: parts.getD 1 [] ++ ".xxx.xxx".toList
  else "xxx.xxx.xxx.xxx".toList

/-- Both branches behind the first character give the same. -/
def redactDeviceName : Text → Text
  | [] => "***".toList
  | first :: _ => first :: "***".toList

def splitPort (host : Text) : Text × Option Text :=
  match rsplitOnce ':' host with
  | some (addr, port) => if port.all Char.isDigit then (addr, some port) else (host, none)
  | none => (host, none)

def redactAddr (addr : Text) : Text :=
  if (addr.splitOn '.').length = 4 then redactIpv4 addr
  else if ':' ∈ addr then "xxxx:xxxx:xxxx:xxxx::".toList
  else
    let label := (addr.splitOn '.').head?.getD addr
    ((redactDeviceName label).rdropWhile fun c => c = '*') ++ ".***".toList

def withPort (redacted : Text) : Option Text → Text
  | some port => redacted ++ ':' :: port
  | none => redacted

def redactHost (host : Text) (redactIps : Bool) : Text :=
  if redactIps = false then host
  else withPort (redactAddr (trimMatches '[' ']' (splitPort host).1)) (splitPort host).2

def redactFingerprint (fingerprint : Text) : Text :=
  if fingerprint.take 8 = [] then "********".toList else fingerprint.take 8 ++ ['…']

def redactDeviceId (deviceId : Text) : Text :=
  if deviceId.take 6 = [] then "******".toList else deviceId.take 6 ++ ['…']

/-! ## The report -/

def mapTrustedDevice (policy : RedactionPolicy) (device : TrustedDevice) :
    DiagnosticTrustedDevice where
  deviceId :=
    if policy.redactDeviceNames then redactDeviceId device.deviceId.toList
    else device.deviceId.toList
  deviceName :=
    if policy.redactDeviceNames then redactDeviceName device.deviceName.toList
    else device.deviceName.toList
  certificateFingerprint :=
    if policy.redactFingerprints then redactFingerprint device.certificateFingerprint.toList
    else device.certificateFingerprint.toList
  pairedAtMs := device.pairedAtMs
  lastConnectedAtMs := device.lastConnectedAtMs

def unknownSession (hosts : List Text) : DiagnosticSessionSnapshot where
  role := "unknown".toList
  status := "unknown".toList
  accessUnits := 0
  packets := 0
  packetsDroppedUnpaired := 0
  fecRecoveredFragments := 0
  reassemblyPartialAccessUnitDrops := 0
  reassemblyWholeAccessUnitGapDrops := 0
  receiveQueueExpiredAccessUnits := 0
  decodeInvocations := 0
  decodedFrames := 0
  orientationTransformFrames := 0
  orientationTransformTotalUs := 0
  orientationTransformMaxUs := 0
  recoveryDroppedAccessUnits := 0
  decoderCapacityDroppedAccessUnits := 0
  decoderResets := 0
  recoveryReferenceLost := 0
  recoveryReferenceLate := 0
  recoveryJitterCapacity := 0
  recoveryArrivedAfterPlayout := 0
  recoveryJitterExpired := 0
  recoveryDecoderErrors := 0
  keyframeRequests := 0
  hosts := hosts

variable {Preview : Type}

def exportedSession (input : DiagnosticInput Preview) : Option DiagnosticSessionSnapshot :=
  let redact := fun host => redactHost host input.redaction.redactIps
  match input.session with
  | some session => some { session with hosts := (session.hosts ++ input.hosts).map redact }
  | none => if input.hosts ≠ [] then some (unknownSession (input.hosts.map redact)) else none

def buildReport (input : DiagnosticInput Preview) : DiagnosticReport Preview where
  version := reportVersion
  exportedAtMs := input.exportedAtMs
  platform := input.platform
  appVersion := input.appVersion
  buildNumber := input.buildNumber
  preview := input.preview
  protocolName := "PCP".toList
  redactionEnabled := input.redaction.redactIps ∨ input.redaction.redactDeviceNames ∨
    input.redaction.redactFingerprints
  includesVideo := false
  session := exportedSession input
  trustedDevices := input.trustedDevices.map (mapTrustedDevice input.redaction)

end PicooCamera.Diagnostics
