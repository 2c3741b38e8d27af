import PicooCamera.Library.BigEndian
import PicooCamera.Library.Window

/-!
# Access units

An access unit is a list of NAL units of one picture. It comes framed by start
codes or by length prefixes, and leaves in either form.
-/

namespace PicooCamera.Bitstream

open PicooCamera.Library

inductive Codec where
  | avc
  | hevc
  deriving DecidableEq, Repr

inductive BitstreamError where
  | limit
  | truncated
  | malformed (reason : String)
  | unsupported (reason : String)
  | configuration
  deriving DecidableEq, Repr

def maxAccessUnitBytes : Nat := 2 * 1024 * 1024

def maxNalsPerAccessUnit : Nat := 256

inductive NalLengthSize where
  | one
  | two
  | four
  deriving DecidableEq, Repr

def NalLengthSize.bytes : NalLengthSize → Nat
  | one => 1
  | two => 2
  | four => 4

theorem NalLengthSize.bytes_pos (size : NalLengthSize) : 0 < size.bytes := by
  cases size <;> decide

inductive NalFormat where
  | annexB
  | lengthPrefixed (size : NalLengthSize)
  deriving DecidableEq, Repr

inductive RandomAccessPoint where
  | avcIdr
  | hevcIdr
  | hevcCra
  deriving DecidableEq, Repr

inductive PictureKind where
  | randomAccess (point : RandomAccessPoint)
  | trailing
  | hevcRasl
  | hevcRadl
  deriving DecidableEq, Repr

structure PictureInfo where
  kind : PictureKind
  discardable : Bool
  deriving DecidableEq, Repr

/-! ## NAL units -/

def pushNal (nals : List Bytes) (nal : Bytes) : Except BitstreamError (List Bytes) :=
  if nal = [] then .error (.malformed "empty NAL")
  else if nals.length = maxNalsPerAccessUnit then .error .limit
  else .ok (nals ++ [nal])

def splitLengthPrefixed (size : NalLengthSize) (nals : List Bytes) (remaining : Bytes) :
    Except BitstreamError (List Bytes) :=
  if remaining = [] then .ok nals
  else if remaining.length < size.bytes then .error .truncated
  else
    let length := getBE (remaining.take size.bytes)
    let rest := remaining.drop size.bytes
    if rest.length < length then .error .truncated
    else
      match pushNal nals (rest.take length) with
      | .error error => .error error
      | .ok nals => splitLengthPrefixed size nals (rest.drop length)
termination_by remaining.length
decreasing_by
  rename_i hnotEmpty _ _
  have _hlength := List.length_pos_iff.mpr hnotEmpty
  have hpos := size.bytes_pos
  simp only [List.length_drop]
  omega

/-- The next start code of the bytes from `payload` on, as its first byte and the byte after
it; a zero byte before `00 00 01` is part of it. -/
def startCode (payload : Bytes) : Option (Nat × Nat) := do
  let relative ← window? [0, 0, 1] payload
  let start :=
    if 0 < relative ∧ payload[relative - 1]? = some 0 then relative - 1 else relative
  pure (start, relative + 3)

theorem startCode_next {payload : Bytes} {start next : Nat}
    (h : startCode payload = some (start, next)) : 3 ≤ next ∧ next ≤ payload.length := by
  obtain ⟨relative, hrelative, heq⟩ := Option.bind_eq_some_iff.mp h
  have hle := window?_lt hrelative
  have hnext : relative + 3 = next := congrArg Prod.snd (Option.some.inj heq)
  rw [List.length_cons, List.length_cons, List.length_singleton] at hle
  omega

/-- The payload of a NAL unit ends before `trailing_zero_8bits`. -/
def stripTrailingZeros (nal : Bytes) : Bytes := nal.rdropWhile (· = 0)

def splitAnnexB (nals : List Bytes) (payload : Bytes) : Except BitstreamError (List Bytes) :=
  match _hnext : startCode payload with
  | none => pushNal nals (stripTrailingZeros payload)
  | some (start, next) =>
      match pushNal nals (stripTrailingZeros (payload.take start)) with
      | .error error => .error error
      | .ok nals => splitAnnexB nals (payload.drop next)
termination_by payload.length
decreasing_by
  have hle := startCode_next _hnext
  rw [List.length_drop]
  omega

def splitNals (format : NalFormat) (data : Bytes) : Except BitstreamError (List Bytes) :=
  if data = [] then .error (.malformed "empty AU")
  else if maxAccessUnitBytes < data.length then .error .limit
  else
    match format with
    | .lengthPrefixed size => splitLengthPrefixed size [] data
    | .annexB =>
        match startCode data with
        | none => .error (.malformed "missing Annex-B prefix")
        | some (start, payload) =>
            if (data.take start).any (· ≠ 0) then .error (.malformed "Annex-B leading garbage")
            else splitAnnexB [] (data.drop payload)

/-- The bytes that `write_nals` writes. -/
def framed (annexB : Bool) (nals : List Bytes) : Bytes :=
  nals.flatMap fun nal => putBE 4 (if annexB then 1 else nal.length) ++ nal

/-- The length that `write_nals` computes. -/
def framedLength (nals : List Bytes) : Nat := (nals.map fun nal => 4 + nal.length).sum

def writeNals (nals : List Bytes) (annexB : Bool) : Except BitstreamError Bytes :=
  if maxAccessUnitBytes < framedLength nals then .error .limit
  else .ok (framed annexB nals)

/-! ## Pictures -/

def avcNalType (first : UInt8) : Except BitstreamError UInt8 :=
  let kind := first &&& 31
  if ¬ (kind = 1 ∨ 5 ≤ kind ∧ kind ≤ 12) then .error (.unsupported "AVC NAL type")
  else if (kind = 5 ∨ kind = 7 ∨ kind = 8) ∧ first &&& 0x60 = 0 then
    .error (.malformed "AVC reference NAL without nal_ref_idc")
  else .ok kind

def hevcNalType (first second : UInt8) : Except BitstreamError UInt8 :=
  let kind := (first >>> 1) &&& 63
  let temporal := second &&& 7
  if first &&& 1 ≠ 0 ∨ second >>> 3 ≠ 0 then .error (.unsupported "HEVC multilayer")
  else if temporal = 0 ∨ ((16 ≤ kind ∧ kind ≤ 23 ∨ kind = 32 ∨ kind = 33 ∨ kind = 36 ∨
      kind = 37) ∧ temporal ≠ 1) then
    .error (.malformed "HEVC temporal id")
  else if (2 ≤ kind ∧ kind ≤ 5) ∧ temporal = 1 then
    .error (.malformed "HEVC temporal switching id")
  else if ¬ (kind ≤ 9 ∨ 19 ≤ kind ∧ kind ≤ 21 ∨ 32 ≤ kind ∧ kind ≤ 40) then
    .error (.unsupported "HEVC NAL type")
  else .ok kind

def nalType (codec : Codec) (nal : Bytes) : Except BitstreamError UInt8 :=
  match nal with
  | [] => .error .truncated
  | first :: rest =>
      if first &&& 0x80 ≠ 0 then .error (.malformed "forbidden_zero_bit")
      else
        match codec with
        | .avc => avcNalType first
        | .hevc =>
            match rest with
            | [] => .error .truncated
            | second :: _ => hevcNalType first second

/-- The header of a NAL unit that carries a slice. -/
def isVcl (codec : Codec) (kind : UInt8) : Bool :=
  match codec with
  | .avc => kind = 1 ∨ kind = 5
  | .hevc => kind ≤ 31

/-- The byte that begins the slice header. -/
def sliceByte (codec : Codec) (nal : Bytes) : Except BitstreamError UInt8 :=
  match nal[match codec with | .avc => 1 | .hevc => 2]? with
  | none => .error .truncated
  | some byte => .ok byte

def pictureKind : Codec → UInt8 → PictureKind
  | .avc, 5 => .randomAccess .avcIdr
  | .hevc, 19 | .hevc, 20 => .randomAccess .hevcIdr
  | .hevc, 21 => .randomAccess .hevcCra
  | .hevc, 8 | .hevc, 9 => .hevcRasl
  | .hevc, 6 | .hevc, 7 => .hevcRadl
  | _, _ => .trailing

def discardable (codec : Codec) (kind : UInt8) (nal : Bytes) : Bool :=
  match codec with
  | .avc => (nal.headD 0) &&& 0x60 = 0
  | .hevc => kind ≤ 9 ∧ kind % 2 = 0

/-- What `inspect_picture` knows after some NAL units. -/
structure Inspection where
  picture : Option PictureInfo
  vclType : Option UInt8
  deriving DecidableEq, Repr

def inspectNal (codec : Codec) (seen : Inspection) (nal : Bytes) :
    Except BitstreamError Inspection := do
  let kind ← nalType codec nal
  if isVcl codec kind = false then return seen
  let byte ← sliceByte codec nal
  let firstSlice : Bool := byte &&& 0x80 ≠ 0
  if firstSlice ∧ seen.picture.isSome then
    throw (.unsupported "multiple pictures in AU")
  if ¬ firstSlice ∧ seen.picture.isNone then
    throw (.malformed "missing first slice")
  if seen.vclType.any (· ≠ kind) then
    throw (.unsupported "mixed VCL types")
  let current : PictureInfo :=
    ⟨pictureKind codec kind, discardable codec kind nal⟩
  if seen.picture.any (· ≠ current) then
    throw (.unsupported "inconsistent picture reference status")
  return ⟨some current, some kind⟩

def inspectPicture (codec : Codec) (nals : List Bytes) : Except BitstreamError PictureInfo := do
  let seen ← nals.foldlM (inspectNal codec) ⟨none, none⟩
  match seen.picture with
  | none => throw (.malformed "AU has no picture")
  | some picture => return picture

/-! ## Access units -/

structure AccessUnit where
  codec : Codec
  nals : List Bytes
  picture : PictureInfo
  deriving DecidableEq, Repr

namespace AccessUnit

def parse (codec : Codec) (format : NalFormat) (data : Bytes) :
    Except BitstreamError AccessUnit := do
  let nals ← splitNals format data
  let picture ← inspectPicture codec nals
  return ⟨codec, nals, picture⟩

def toLengthPrefixed (unit : AccessUnit) : Except BitstreamError Bytes :=
  writeNals unit.nals false

def toAnnexB (unit : AccessUnit) : Except BitstreamError Bytes :=
  writeNals unit.nals true

end AccessUnit

/-- Canonical input is returned as it came, after validation. -/
def canonicalAccessUnit (codec : Codec) (format : NalFormat) (data : Bytes) :
    Except BitstreamError Bytes := do
  let picture ← AccessUnit.parse codec format data
  if format = .lengthPrefixed .four then return data
  else picture.toLengthPrefixed

end PicooCamera.Bitstream
