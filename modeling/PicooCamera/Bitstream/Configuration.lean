import PicooCamera.Bitstream.Conversion

/-!
# Codec configurations

A configuration record is bounded, handed to the standard parsers, and
admitted if its parameter sets carry the NAL types they are declared with. The
record parsers and the SPS syntax are taken as given.
-/

namespace PicooCamera.Bitstream

open PicooCamera.Library

def maxConfigBytes : Nat := 64 * 1024

def maxParameterSets : Nat := 64

structure VideoColorFacts where
  fullRange : Bool
  primaries : Nat
  transfer : Nat
  matrix : Nat
  deriving DecidableEq, Repr

structure VideoSpsFacts where
  codedWidth : Nat
  codedHeight : Nat
  visibleX : Nat
  visibleY : Nat
  visibleWidth : Nat
  visibleHeight : Nat
  pixelAspectRatio : Option (Nat × Nat)
  color : Option VideoColorFacts
  chromaLocation : Nat
  deriving DecidableEq, Repr

/-- The `avcC` fields that `CodecConfiguration::parse` reads. -/
structure AvcRecord where
  profileIndication : UInt8
  profileCompatibility : UInt8
  levelIndication : UInt8
  lengthSizeMinusOne : UInt8
  sps : List Bytes
  pps : List Bytes
  /-- Chroma format and the two bit depths minus eight. -/
  extendedConfig : Option (UInt8 × UInt8 × UInt8)

structure HevcArray where
  nalUnitType : UInt8
  nalus : List Bytes

/-- The `hvcC` fields that `CodecConfiguration::parse` reads. -/
structure HevcRecord where
  generalProfileSpace : UInt8
  generalProfileIdc : UInt8
  generalTierFlag : Bool
  generalLevelIdc : UInt8
  chromaFormatIdc : UInt8
  bitDepthLumaMinus8 : UInt8
  bitDepthChromaMinus8 : UInt8
  lengthSizeMinusOne : UInt8
  arrays : List HevcArray

/-- The standard record parsers, with the bytes they consumed, and the SPS parser. -/
structure StandardParsers where
  avcRecord : Bytes → Except BitstreamError (AvcRecord × Nat)
  hevcRecord : Bytes → Except BitstreamError (HevcRecord × Nat)
  avcSps : Bytes → Except BitstreamError VideoSpsFacts

/-! ## The bounds of a record -/

/-- The bytes that are still to be read, and the parameter sets counted so far. -/
structure RecordBounds where
  remaining : Bytes
  count : Nat

namespace RecordBounds

def skip (reader : RecordBounds) (count : Nat) : Except BitstreamError RecordBounds :=
  if reader.remaining.length < count then .error .truncated
  else .ok { reader with remaining := reader.remaining.drop count }

def byte (reader : RecordBounds) : Except BitstreamError (UInt8 × RecordBounds) :=
  match reader.remaining with
  | [] => .error .truncated
  | byte :: remaining => .ok (byte, { reader with remaining := remaining })

def u16 (reader : RecordBounds) : Except BitstreamError (Nat × RecordBounds) := do
  let (high, reader) ← reader.byte
  let (low, reader) ← reader.byte
  return (getBE [high, low], reader)

def skipSets (reader : RecordBounds) : Nat → Except BitstreamError RecordBounds
  | 0 => .ok reader
  | count + 1 => do
      let (length, reader) ← reader.u16
      if length = 0 then throw (.malformed "empty parameter set")
      let reader ← reader.skip length
      reader.skipSets count

def sets (reader : RecordBounds) (count : Nat) : Except BitstreamError RecordBounds :=
  let reader := { reader with count := reader.count + count }
  if maxParameterSets < reader.count then .error .limit else reader.skipSets count

def hevcArrays (reader : RecordBounds) : Nat → Except BitstreamError RecordBounds
  | 0 => .ok reader
  | arrays + 1 => do
      let (kind, reader) ← reader.byte
      if kind &&& 63 ∉ [32, 33, 34] then
        throw (.unsupported "HEVC configuration NAL type")
      let (count, reader) ← reader.u16
      let reader ← reader.sets count
      reader.hevcArrays arrays

end RecordBounds

def preflightAvc (reader : RecordBounds) : Except BitstreamError RecordBounds := do
  let reader ← reader.skip 5
  let (count, reader) ← reader.byte
  let reader ← reader.sets (count &&& 31).toNat
  let (count, reader) ← reader.byte
  let reader ← reader.sets count.toNat
  if reader.remaining = [] then return reader
  let reader ← reader.skip 3
  let (extensions, reader) ← reader.byte
  if extensions ≠ 0 then throw (.unsupported "AVC SPS extensions")
  return reader

def preflightHevc (reader : RecordBounds) : Except BitstreamError RecordBounds := do
  let reader ← reader.skip 22
  let (arrays, reader) ← reader.byte
  if 3 < arrays then throw (.unsupported "HEVC configuration arrays")
  reader.hevcArrays arrays.toNat

def preflight (codec : Codec) (data : Bytes) : Except BitstreamError Unit := do
  let reader ← match codec with
    | .avc => preflightAvc ⟨data, 0⟩
    | .hevc => preflightHevc ⟨data, 0⟩
  if reader.remaining ≠ [] then throw (.malformed "configuration trailing bytes")

/-! ## Parameter sets -/

structure ParameterSets where
  vps : List Bytes
  sps : List Bytes
  pps : List Bytes
  deriving DecidableEq, Repr

/-- The parameter sets that a NAL unit of this type is compared with. -/
def ParameterSets.ofKind (sets : ParameterSets) (codec : Codec) (kind : UInt8) :
    Option (List Bytes) :=
  match codec with
  | .avc => if kind = 7 then some sets.sps else if kind = 8 then some sets.pps else none
  | .hevc =>
      if kind = 33 then some sets.sps
      else if kind = 34 then some sets.pps
      else if kind = 32 then some sets.vps
      else none

/-- Every parameter set is a NAL unit of the type it is declared with. -/
def ParameterSets.Typed (sets : ParameterSets) (codec : Codec) : Prop :=
  ∀ kind list, sets.ofKind codec kind = some list →
    ∀ set ∈ list, 3 ≤ set.length ∧ nalType codec set = .ok kind

def checkSets (codec : Codec) (expected : UInt8) : List Bytes → Except BitstreamError Unit
  | [] => .ok ()
  | set :: sets => do
      if set.length < 3 then throw (.malformed "parameter NAL type")
      let kind ← nalType codec set
      if kind ≠ expected then throw (.malformed "parameter NAL type")
      checkSets codec expected sets

def checkParameterSets (codec : Codec) (sets : ParameterSets) : Except BitstreamError Unit := do
  checkSets codec 32 sets.vps
  checkSets codec (if codec = .avc then 7 else 33) sets.sps
  checkSets codec (if codec = .avc then 8 else 34) sets.pps

theorem checkSets_sound {codec : Codec} {expected : UInt8} {sets : List Bytes}
    (h : checkSets codec expected sets = .ok ()) :
    ∀ set ∈ sets, 3 ≤ set.length ∧ nalType codec set = .ok expected := by
  induction sets with
  | nil => exact nofun
  | cons set sets ih =>
      unfold checkSets at h
      split at h
      · exact absurd h nofun
      · rename_i hlength
        obtain ⟨kind, hkind, h⟩ := bind_ok.mp h
        split at h
        · exact absurd h nofun
        · rename_i hexpected
          intro other hother
          rcases List.mem_cons.mp hother with rfl | hother
          · rw [hkind, Decidable.not_not.mp hexpected]
            exact ⟨Nat.not_lt.mp hlength, rfl⟩
          · exact ih h other hother

theorem checkParameterSets_sound {codec : Codec} {sets : ParameterSets}
    (h : checkParameterSets codec sets = .ok ()) : sets.Typed codec := by
  obtain ⟨_, hvps, h⟩ := bind_ok.mp h
  obtain ⟨_, hsps, hpps⟩ := bind_ok.mp h
  intro kind list hlist
  cases codec with
  | avc =>
      unfold ParameterSets.ofKind at hlist
      dsimp only at hlist
      split at hlist
      · rename_i hkind
        rw [← Option.some.inj hlist, hkind]
        exact checkSets_sound hsps
      · split at hlist
        · rename_i hkind
          rw [← Option.some.inj hlist, hkind]
          exact checkSets_sound hpps
        · exact absurd hlist nofun
  | hevc =>
      unfold ParameterSets.ofKind at hlist
      dsimp only at hlist
      split at hlist
      · rename_i hkind
        rw [← Option.some.inj hlist, hkind]
        exact checkSets_sound hsps
      · split at hlist
        · rename_i hkind
          rw [← Option.some.inj hlist, hkind]
          exact checkSets_sound hpps
        · split at hlist
          · rename_i hkind
            rw [← Option.some.inj hlist, hkind]
            exact checkSets_sound hvps
          · exact absurd hlist nofun

/-! ## Configurations -/

structure CodecConfiguration where
  codec : Codec
  nalLengthSize : NalLengthSize
  profileIdc : UInt8
  levelIdc : UInt8
  highTier : Bool
  record : Bytes
  sets : ParameterSets
  typed : sets.Typed codec

def lengthSize (minusOne : UInt8) : Except BitstreamError NalLengthSize :=
  if minusOne = 0 then .ok .one
  else if minusOne = 1 then .ok .two
  else if minusOne = 3 then .ok .four
  else .error (.unsupported "NAL length size")

namespace CodecConfiguration

/-- What a record declares before its parameter sets are checked. -/
structure Draft where
  profileIdc : UInt8
  levelIdc : UInt8
  highTier : Bool
  nalLengthSize : NalLengthSize
  sets : ParameterSets
  /-- The position of the cursor after the record. -/
  position : Nat

def draftAvc (P : StandardParsers) (record : Bytes) : Except BitstreamError Draft := do
  let (avc, position) ← P.avcRecord record
  if avc.profileIndication ≠ 100 then
    throw (.unsupported "AVC profile is not High/Constrained High")
  if avc.extendedConfig.any fun ext => ext.1 ≠ 1 ∨ ext.2.1 ≠ 0 ∨ ext.2.2 ≠ 0 then
    throw (.unsupported "AVC requires 8-bit 4:2:0")
  if avc.sps.any fun sps => sps.length < 4 ∨ (sps.drop 1).take 3 ≠
      [avc.profileIndication, avc.profileCompatibility, avc.levelIndication] then
    throw (.malformed "avcC header differs from SPS")
  let nalLengthSize ← lengthSize avc.lengthSizeMinusOne
  return ⟨avc.profileIndication, avc.levelIndication, false, nalLengthSize,
    ⟨[], avc.sps, avc.pps⟩, position⟩

def addArray (sets : ParameterSets) (array : HevcArray) : Except BitstreamError ParameterSets :=
  if array.nalUnitType = 32 then .ok { sets with vps := sets.vps ++ array.nalus }
  else if array.nalUnitType = 33 then .ok { sets with sps := sets.sps ++ array.nalus }
  else if array.nalUnitType = 34 then .ok { sets with pps := sets.pps ++ array.nalus }
  else .error (.unsupported "configuration contains non-parameter NAL")

def draftHevc (P : StandardParsers) (record : Bytes) : Except BitstreamError Draft := do
  let (hevc, position) ← P.hevcRecord record
  if hevc.generalProfileSpace ≠ 0 ∨ hevc.generalProfileIdc ≠ 1 ∨ hevc.chromaFormatIdc ≠ 1 ∨
      hevc.bitDepthLumaMinus8 ≠ 0 ∨ hevc.bitDepthChromaMinus8 ≠ 0 then
    throw (.unsupported "HEVC requires Main 8-bit 4:2:0")
  let nalLengthSize ← lengthSize hevc.lengthSizeMinusOne
  let sets ← hevc.arrays.foldlM addArray ⟨[], [], []⟩
  return ⟨hevc.generalProfileIdc, hevc.generalLevelIdc, hevc.generalTierFlag, nalLengthSize,
    sets, position⟩

def parse (P : StandardParsers) (codec : Codec) (record : Bytes) :
    Except BitstreamError CodecConfiguration := do
  if record = [] ∨ maxConfigBytes < record.length then throw .limit
  if record.head? ≠ some 1 then throw (.unsupported "configuration record version")
  preflight codec record
  let draft ← match codec with
    | .avc => draftAvc P record
    | .hevc => draftHevc P record
  if draft.position ≠ record.length then throw (.malformed "trailing configuration bytes")
  if draft.sets.sps = [] ∨ draft.sets.pps = [] ∨ codec = .hevc ∧ draft.sets.vps = [] then
    throw (.malformed "incomplete parameter sets")
  match hsets : checkParameterSets codec draft.sets with
  | .error error => throw error
  | .ok () => return {
      codec := codec
      nalLengthSize := draft.nalLengthSize
      profileIdc := draft.profileIdc
      levelIdc := draft.levelIdc
      highTier := draft.highTier
      record := record
      sets := draft.sets
      typed := checkParameterSets_sound hsets }

/-- The parameter sets that a NAL unit of this type is compared with. -/
def setsFor (config : CodecConfiguration) (kind : UInt8) : Option (List Bytes) :=
  config.sets.ofKind config.codec kind

def validateNal (config : CodecConfiguration) (nal : Bytes) : Except BitstreamError Unit := do
  let kind ← nalType config.codec nal
  if (config.setsFor kind).any (nal ∉ ·) then
    throw (.malformed "in-band parameter set differs from configuration")

def validateParameterSets (config : CodecConfiguration) (picture : AccessUnit) :
    Except BitstreamError Unit := do
  if picture.codec ≠ config.codec then
    throw (.malformed "picture codec differs from configuration")
  picture.nals.forM config.validateNal

/-- `VideoSpsFacts::parse_avc`. -/
def parseAvcSps (P : StandardParsers) (nal : Bytes) : Except BitstreamError VideoSpsFacts :=
  if 64 * 1024 < nal.length then .error .limit
  else if nal.head?.all fun byte => byte &&& 0x9f ≠ 7 then .error (.malformed "expected SPS NAL")
  else P.avcSps nal

def bt709 : VideoColorFacts := ⟨false, 1, 1, 1⟩

/-- The colour of an SPS without BT.709 VUI. -/
def unspecifiedColor : VideoColorFacts := ⟨false, 2, 2, 2⟩

def avcSpsMayAlign (P : StandardParsers) (incoming admitted : Bytes) :
    Except BitstreamError Bool := do
  let incoming ← parseAvcSps P incoming
  let admitted ← parseAvcSps P admitted
  return { incoming with color := none } = { admitted with color := none } ∧
    admitted.color = some bt709 ∧
    (incoming.color = none ∨ incoming.color = some unspecifiedColor)

/-- The framing that `align_access_unit` reads the data in. -/
def alignFormat (config : CodecConfiguration) (data : Bytes) : NalFormat :=
  if [0, 0, 1] <+: data ∨ [0, 0, 0, 1] <+: data then .annexB
  else .lengthPrefixed config.nalLengthSize

/-- The NAL unit that is written for this one, and whether it differs. -/
def alignNal (P : StandardParsers) (config : CodecConfiguration) (nal : Bytes) :
    Except BitstreamError (Bytes × Bool) := do
  let kind ← nalType config.codec nal
  match config.setsFor kind with
  | none => return (nal, false)
  | some sets =>
      if nal ∈ sets then return (nal, false)
      match sets with
      | [admitted] =>
          if config.codec = .avc ∧ kind = 7 then
            if ← avcSpsMayAlign P nal admitted then return (admitted, true)
          throw (.malformed "in-band parameter set differs from configuration")
      | _ => throw (.malformed "in-band parameter set differs from configuration")

def alignAccessUnit (P : StandardParsers) (config : CodecConfiguration) (data : Bytes) :
    Except BitstreamError Bytes :=
  match AccessUnit.parse config.codec (config.alignFormat data) data with
  | .error _ => .ok data
  | .ok picture => do
      let aligned ← picture.nals.mapM (config.alignNal P)
      if aligned.any (·.2) then
        writeNals (aligned.map (·.1)) (config.alignFormat data = .annexB)
      else return data

end CodecConfiguration

end PicooCamera.Bitstream
