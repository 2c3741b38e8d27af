import PicooCamera.Bitstream.Configuration
import PicooCamera.Bitstream.SpsSyntax

/-!
# Explicit BT.709 VUI

`ensure_bt709_limited` finds the VUI of a sequence parameter set, writes or
inserts the colour description and encodes the result as a NAL. The parser of
the parameter set and the emulation prevention decoder are those of the crate;
the bit positions are the adapter's own.
-/

namespace PicooCamera.Bitstream

open PicooCamera.Library CodecConfiguration

/-! ## The crate -/

/-- What the adapter uses of the h264_reader crate. -/
structure H264Reader where
  /-- `SeqParameterSet::from_bits` over the RBSP of a NAL. -/
  seqParameterSet : Bytes → Option SeqParameterSet
  /-- `rbsp::decode_nal`. -/
  decodeNal : Bytes → Option Bytes
  /-- `AspectRatioInfo::get`. -/
  aspectRatio : AspectRatioInfo → Option (Nat × Nat)
  /-- The aspect ratio is an `AspectRatioInfo::Reserved`. -/
  reservedAspect : AspectRatioInfo → Bool

namespace SeqParameterSet

/-- The chroma format and the two bit depths; a parameter set without them is 8-bit 4:2:0. -/
def chromaFacts (sps : SeqParameterSet) : Nat × Nat × Nat :=
  match sps.head.chromaInfo with
  | none => (1, 0, 0)
  | some chroma => (chroma.chromaFormatIdc, chroma.bitDepthLumaMinus8, chroma.bitDepthChromaMinus8)

def videoSignalType (sps : SeqParameterSet) : Option VideoSignalType :=
  sps.vuiParameters.bind VuiParameters.videoSignalType

end SeqParameterSet

def VideoSignalType.color (signal : VideoSignalType) : VideoColorFacts where
  fullRange := signal.videoFullRangeFlag
  primaries := (signal.colourDescription.map ColourDescription.colourPrimaries).getD 2
  transfer := (signal.colourDescription.map ColourDescription.transferCharacteristics).getD 2
  matrix := (signal.colourDescription.map ColourDescription.matrixCoefficients).getD 2

/-- A dimension in macroblocks minus one; the checked arithmetic of `u32` cannot pass where the
result is above 8192. -/
def spsDimension (blocks : Nat) : Except BitstreamError Nat :=
  if 8192 < (blocks + 1) * 16 then .error .limit else .ok ((blocks + 1) * 16)

def spsCrop (offset : Nat) : Except BitstreamError Nat :=
  if 2 ^ 32 ≤ offset * 2 then .error .limit else .ok (offset * 2)

def spsVisible (coded before after : Nat) : Except BitstreamError Nat :=
  if coded ≤ before + after then .error (.malformed "SPS crop removes the entire image")
  else .ok (coded - before - after)

def spsCropping (cropping : Option FrameCropping) :
    Except BitstreamError (Nat × Nat × Nat × Nat) :=
  match cropping with
  | none => .ok (0, 0, 0, 0)
  | some cropping => do
      let left ← spsCrop cropping.leftOffset
      let right ← spsCrop cropping.rightOffset
      let top ← spsCrop cropping.topOffset
      let bottom ← spsCrop cropping.bottomOffset
      return (left, right, top, bottom)

def spsChromaLocation (info : Option ChromaLocInfo) : Except BitstreamError Nat :=
  match info with
  | none => .ok 0
  | some info =>
      if info.topField = info.bottomField ∧ info.topField ≤ 5 then .ok info.topField
      else .error (.unsupported "invalid progressive chroma location")

/-- `VideoSpsFacts::from_sps`. -/
def H264Reader.factsOfSps (R : H264Reader) (sps : SeqParameterSet) :
    Except BitstreamError VideoSpsFacts :=
  if sps.head.frameMbsOnlyFlag = false then .error (.unsupported "interlaced AVC")
  else if sps.chromaFacts ≠ (1, 0, 0) then .error (.unsupported "requires 8-bit 4:2:0 AVC")
  else do
    let codedWidth ← spsDimension sps.head.picWidthInMbsMinus1
    let codedHeight ← spsDimension sps.head.picHeightInMapUnitsMinus1
    let (left, right, top, bottom) ← spsCropping sps.head.frameCropping
    let aspect := sps.vuiParameters.bind VuiParameters.aspectRatioInfo
    if aspect.any R.reservedAspect then .error (.unsupported "reserved AVC aspect ratio")
    else do
      let chromaLocation ←
        spsChromaLocation (sps.vuiParameters.bind fun vui => vui.tail.chromaLocInfo)
      let visibleWidth ← spsVisible codedWidth left right
      let visibleHeight ← spsVisible codedHeight top bottom
      return {
        codedWidth := codedWidth
        codedHeight := codedHeight
        visibleX := left
        visibleY := top
        visibleWidth := visibleWidth
        visibleHeight := visibleHeight
        pixelAspectRatio := aspect.bind R.aspectRatio
        color := sps.videoSignalType.map VideoSignalType.color
        chromaLocation := chromaLocation }

def H264Reader.avcSps (R : H264Reader) (nal : Bytes) : Except BitstreamError VideoSpsFacts :=
  match R.seqParameterSet nal with
  | none => .error (.malformed "invalid AVC SPS")
  | some sps => R.factsOfSps sps

/-- The SPS parser of a configuration, with the crate's syntax under it. -/
def H264Reader.parsers (R : H264Reader) (P : StandardParsers) : StandardParsers :=
  { P with avcSps := R.avcSps }

/-! ## Bits -/

/-- How a function of the adapter ends early: with an error, or where a slice or an index is
out of range. -/
inductive VuiFault where
  | error (error : BitstreamError)
  | outOfRange
  deriving DecidableEq, Repr

structure Bits where
  bits : List Bool
  pos : Nat
  deriving DecidableEq, Repr

abbrev BitsM (α : Type) := StateT Bits (Except VuiFault) α

namespace Bits

def fromRbsp (rbsp : Bytes) : Bits := ⟨bitsOf rbsp, 0⟩

/-- `self.bits[start..end]`, which panics out of range. -/
def slice (bits : Bits) (start stop : Nat) : Except VuiFault (List Bool) :=
  if start ≤ stop ∧ stop ≤ bits.bits.length then .ok ((bits.bits.take stop).drop start)
  else .error .outOfRange

/-- `prefix`, the slice from the start on. -/
def prefixTo (bits : Bits) (stop : Nat) : Except VuiFault (List Bool) := bits.slice 0 stop

def readAt (bits : Bits) (index : Nat) : Except VuiFault Bool :=
  match bits.bits[index]? with
  | none => .error (.error .truncated)
  | some bit => .ok bit

/-- The loop of `read_n`; at most 32 bits are read into the `u64`. -/
def readNFrom (bits : Bits) (start value : Nat) : Nat → Except VuiFault Nat
  | 0 => .ok value
  | width + 1 => do
      let bit ← bits.readAt start
      bits.readNFrom (start + 1) (2 * value + bit.toNat) width

def readN (bits : Bits) (start width : Nat) : Except VuiFault Nat := bits.readNFrom start 0 width

def readBit : BitsM Bool := fun bits => do
  let bit ← bits.readAt bits.pos
  return (bit, { bits with pos := bits.pos + 1 })

def read (width : Nat) : BitsM Nat := fun bits => do
  let value ← bits.readN bits.pos width
  return (value, { bits with pos := bits.pos + width })

def skip (width : Nat) : BitsM Unit := do
  let _ ← read width
  return ()

def fail {α : Type} (error : BitstreamError) : BitsM α := fun _ => .error (.error error)

/-- The loop of `read_ue` after `leading` zeros, `budget` short of the limit; the code that is
read fits a `u32`. -/
def readUeFrom (leading : Nat) : Nat → BitsM Nat
  | 0 => do
      if ← readBit then
        let suffix ← read leading
        return 2 ^ leading - 1 + suffix
      else fail .limit
  | budget + 1 => do
      if ← readBit then
        let suffix ← read leading
        return 2 ^ leading - 1 + suffix
      else readUeFrom (leading + 1) budget

def readUe : BitsM Nat := readUeFrom 0 31

def readSe : BitsM Int := do
  let ue ← readUe
  return if ue % 2 = 0 then -(ue / 2 : Nat) else (ue / 2 : Nat) + 1

/-- The eight bits from `start` on become those of `value`. -/
def writeU8 (bits : Bits) (start value : Nat) : Except VuiFault Bits :=
  if bits.bits.length < start + 8 then .error (.error .truncated)
  else
    .ok { bits with
      bits := bits.bits.take start ++ bitsOfNumber 8 value ++ bits.bits.drop (start + 8) }

/-- The position of the last bit that is set. -/
def stopBit (bits : Bits) : Except VuiFault Nat :=
  match bits.bits.reverse.findIdx? id with
  | none => .error (.error (.malformed "missing RBSP trailing bit"))
  | some index => .ok (bits.bits.length - 1 - index)

/-- `finish_from(usize::MAX)` of the bits: they are closed by a stop bit and packed. -/
def finish (bits : List Bool) : Bytes := packBits (bits ++ [true])

/-- `finish_from` of a stop position. -/
def finishFrom (bits : Bits) (stop : Nat) : Except VuiFault Bytes := do
  let payload ← bits.slice 0 stop
  return finish payload

end Bits

/-! ## The position of the VUI -/

section Skip

open Bits

/-- The profiles after which the adapter looks for chroma elements. -/
def adapterChromaProfiles : List Nat := [100, 110, 122, 244, 44, 83, 86]

def skipChromaInfo : BitsM Unit := do
  let chromaFormatIdc ← readUe
  if chromaFormatIdc ≠ 1 then fail (.unsupported "AVC requires 8-bit 4:2:0")
  else do
    let _ ← readUe
    let _ ← readUe
    skip 1
    let scaling ← readBit
    if scaling then fail (.unsupported "AVC scaling matrix") else return ()

def skipOffsets : Nat → BitsM Unit
  | 0 => return ()
  | cycle + 1 => do
      let _ ← readSe
      skipOffsets cycle

def skipPicOrderCntOne : BitsM Unit := do
  skip 1
  let _ ← readSe
  let _ ← readSe
  let cycle ← readUe
  if 255 < cycle then fail .limit else skipOffsets cycle

def skipPicOrderCnt : BitsM Unit := do
  let kind ← readUe
  if kind = 0 then
    let _ ← readUe
    return ()
  else if kind = 1 then skipPicOrderCntOne
  else if kind = 2 then return ()
  else fail (.unsupported "AVC pic_order_cnt_type")

def skipFrameCropping : BitsM Unit := do
  let cropping ← readBit
  if cropping then
    let _ ← readUe
    let _ ← readUe
    let _ ← readUe
    let _ ← readUe
    return ()
  else return ()

def skipFrameMbs : BitsM Unit := do
  let frameMbsOnly ← readBit
  if frameMbsOnly then return () else fail (.unsupported "interlaced AVC")

def skipProfileChroma (profile : Nat) : BitsM Unit :=
  if profile ∈ adapterChromaProfiles then skipChromaInfo else pure ()

/-- The cursor is left on `vui_parameters_present_flag`. -/
def skipSpsToVuiFlag : BitsM Unit := do
  let profile ← read 8
  skip 16
  let _ ← readUe
  skipProfileChroma profile
  let _ ← readUe
  skipPicOrderCnt
  let _ ← readUe
  skip 1
  let _ ← readUe
  let _ ← readUe
  skipFrameMbs
  skip 1
  skipFrameCropping

end Skip

/-! ## The rewritten parameter set -/

/-- The cursor behind the aspect ratio. -/
def skipAspectRatio (bits : Bits) (cursor : Nat) : Except VuiFault Nat := do
  let present ← bits.readAt cursor
  if present then
    let idc ← bits.readN (cursor + 1) 8
    return if idc = 255 then cursor + 9 + 32 else cursor + 9
  else return cursor + 1

def skipOverscan (bits : Bits) (cursor : Nat) : Except VuiFault Nat := do
  let present ← bits.readAt cursor
  return if present then cursor + 2 else cursor + 1

/-- Primaries, transfer and matrix of BT.709. -/
def bt709Bits : List Bool := bitsOfNumber 8 1 ++ bitsOfNumber 8 1 ++ bitsOfNumber 8 1

/-- `push_video_signal`: unspecified format, limited range, BT.709. -/
def videoSignalBits : List Bool := bitsOfNumber 3 5 ++ [false, true] ++ bt709Bits

/-- A colour description is overwritten. -/
def patchColour (bits : Bits) (cursor : Nat) : Except VuiFault Bytes := do
  let patched ← bits.writeU8 cursor 1
  let patched ← patched.writeU8 (cursor + 8) 1
  let patched ← patched.writeU8 (cursor + 16) 1
  let stop ← patched.stopBit
  patched.finishFrom stop

/-- A flag that is not set is replaced by a set one and `inserted`. -/
def insertAtFlag (bits : Bits) (cursor : Nat) (inserted : List Bool) : Except VuiFault Bytes := do
  let out ← bits.prefixTo cursor
  let stop ← bits.stopBit
  let rest ← bits.slice (cursor + 1) stop
  return Bits.finish (out ++ [true] ++ inserted ++ rest)

def rewriteVideoSignal (bits : Bits) (videoSignalFlag : Nat) : Except VuiFault Bytes := do
  let fullRange ← bits.readAt (videoSignalFlag + 4)
  if fullRange then throw (.error (.unsupported "full-range AVC source"))
  else do
    let described ← bits.readAt (videoSignalFlag + 5)
    if described then patchColour bits (videoSignalFlag + 6)
    else insertAtFlag bits (videoSignalFlag + 5) bt709Bits

def rewriteExistingVui (bits : Bits) (vuiFlag : Nat) : Except VuiFault Bytes := do
  let cursor ← skipAspectRatio bits (vuiFlag + 1)
  let videoSignalFlag ← skipOverscan bits cursor
  let present ← bits.readAt videoSignalFlag
  if present then rewriteVideoSignal bits videoSignalFlag
  else insertAtFlag bits videoSignalFlag videoSignalBits

def insertMinimalVui (bits : Bits) (vuiFlag : Nat) : Except VuiFault Bytes := do
  let out ← bits.prefixTo vuiFlag
  return Bits.finish (out ++ [true, false, false, true] ++ videoSignalBits ++
    [false, false, false, false, false, false])

/-- The loop counts at most two zeros in a row, so that its `u8` does not overflow. -/
def encodeNal (header : UInt8) (rbsp : Bytes) : Bytes := header :: escape rbsp

/-! ## The adapter -/

def liftError {α : Type} (result : Except BitstreamError α) : Except VuiFault α :=
  match result with
  | .error error => .error (.error error)
  | .ok a => .ok a

def orError {α : Type} (error : BitstreamError) (result : Option α) : Except VuiFault α :=
  match result with
  | none => .error (.error error)
  | some a => .ok a

def rewriteVui (bits : Bits) (vuiFlag : Nat) (present : Bool) : Except VuiFault Bytes :=
  if present then rewriteExistingVui bits vuiFlag else insertMinimalVui bits vuiFlag

/-- Write the colour into the VUI of a parameter set that leaves it unspecified. -/
def rewriteSps (R : H264Reader) (nal : Bytes) : Except VuiFault Bytes := do
  let header ← orError .truncated nal.head?
  let rbsp ← orError (.malformed "invalid AVC SPS RBSP") (R.decodeNal nal)
  let (_, bits) ← skipSpsToVuiFlag (Bits.fromRbsp rbsp)
  let present ← bits.readAt bits.pos
  let rewritten ← rewriteVui bits bits.pos present
  return encodeNal header rewritten

/-- The rewritten parameter set is BT.709 and has the other facts of the source. -/
def admits (facts admitted : VideoSpsFacts) : Prop :=
  admitted.color = some bt709 ∧ { admitted with color := none } = { facts with color := none }

instance (facts admitted : VideoSpsFacts) : Decidable (admits facts admitted) :=
  inferInstanceAs (Decidable (_ ∧ _))

/-- The colour is signalled and is neither BT.709 limited nor unspecified. -/
def foreignColor (color : VideoColorFacts) : Prop :=
  color.fullRange = true ∨ (color.primaries, color.transfer, color.matrix) ≠ (2, 2, 2)

instance (color : VideoColorFacts) : Decidable (foreignColor color) :=
  inferInstanceAs (Decidable (_ ∨ _))

def ensureBt709Limited (R : H264Reader) (P : StandardParsers) (nal : Bytes) :
    Except VuiFault Bytes := do
  let facts ← liftError (parseAvcSps (R.parsers P) nal)
  if facts.color = some bt709 then return nal
  else if ∃ color ∈ facts.color, foreignColor color then
    throw (.error (.unsupported "source is not BT.709 limited or unspecified SDR"))
  else do
    let encoded ← rewriteSps R nal
    let admitted ← liftError (parseAvcSps (R.parsers P) encoded)
    if admits facts admitted then return encoded
    else throw (.error (.malformed "rewritten SPS changed source geometry"))

end PicooCamera.Bitstream
