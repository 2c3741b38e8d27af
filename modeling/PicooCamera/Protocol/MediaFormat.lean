import Mathlib

/-!
# Decoder offers and their admission

Enumerations of the wire are numbers, as a peer may send any value.
-/

namespace PicooCamera.Protocol

def maxDecoderOffers : Nat := 16

def maxMediaAccessUnitBytes : Nat := 2 * 1024 * 1024

def codecAvc : Nat := 1
def codecHevc : Nat := 2
def profileAvcHigh : Nat := 1
def profileHevcMain : Nat := 2
def tierAvc : Nat := 1
def tierHevcMain : Nat := 2
def tierHevcHigh : Nat := 3
def chromaYuv420 : Nat := 1
def rangeLimited : Nat := 1
def rangeFull : Nat := 2
def bt709 : Nat := 1

structure Resolution where
  width : Nat
  height : Nat
  deriving DecidableEq, Repr

structure VisibleRect where
  x : Nat
  y : Nat
  width : Nat
  height : Nat
  deriving DecidableEq, Repr

structure FrameRate where
  numerator : Nat
  denominator : Nat
  deriving DecidableEq, Repr

structure ColorDescription where
  range : Nat
  primaries : Nat
  transfer : Nat
  matrix : Nat
  deriving DecidableEq, Repr

structure VideoFormat where
  codec : Nat
  profile : Nat
  tier : Nat
  bitDepth : Nat
  chroma : Nat
  codedSize : Option Resolution
  visibleRect : Option VisibleRect
  frameRate : Option FrameRate
  color : Option ColorDescription
  deriving DecidableEq, Repr

structure DecoderOffer where
  format : Option VideoFormat
  maxAccessUnitBytes : Nat
  maxLevelIdc : Nat
  deriving DecidableEq, Repr

structure Capabilities where
  offers : List DecoderOffer
  deriving DecidableEq, Repr

abbrev MediaFormatError := String

namespace VideoFormat

def validateCodec (format : VideoFormat) : Except MediaFormatError Unit :=
  if format.codec ≤ 2 then
    if format.profile ≤ 2 then
      if (format.codec = codecAvc ∧ format.profile = profileAvcHigh) ∨
          (format.codec = codecHevc ∧ format.profile = profileHevcMain) then
        if (format.codec = codecAvc ∧ format.tier = tierAvc) ∨
            (format.codec = codecHevc ∧
              (format.tier = tierHevcMain ∨ format.tier = tierHevcHigh)) then
          .ok ()
        else .error "codec/tier combination"
      else .error "codec/profile combination"
    else .error "unknown profile"
  else .error "unknown codec"

def validateRect (rect : VisibleRect) (size : Resolution) : Except MediaFormatError Unit :=
  if ((rect.width, rect.height) = (1280, 720) ∨ (rect.width, rect.height) = (1920, 1080)) ∧
      (∀ v ∈ [rect.x, rect.y, rect.width, rect.height], v % 2 = 0) ∧
      rect.x + rect.width ≤ size.width ∧ rect.y + rect.height ≤ size.height then
    .ok ()
  else .error "visible rect outside 4:2:0 coded image"

def validate (format : VideoFormat) : Except MediaFormatError Unit := do
  format.validateCodec
  if format.bitDepth ≠ 8 ∨ format.chroma ≠ chromaYuv420 then
    throw "requires 8-bit 4:2:0"
  let some size := format.codedSize | throw "missing coded size"
  unless (size.width, size.height) ∈ [(1280, 720), (1280, 736), (1920, 1080), (1920, 1088)] do
    throw "unsupported coded size"
  let some rect := format.visibleRect | throw "missing visible rect"
  validateRect rect size
  let some fps := format.frameRate | throw "missing frame rate"
  if fps.denominator ≠ 1 ∨ (fps.numerator ≠ 30 ∧ fps.numerator ≠ 60) then
    throw "requires explicit 30/1 or 60/1 frame rate"
  let some color := format.color | throw "missing color description"
  if (color.range ≠ rangeLimited ∧ color.range ≠ rangeFull) ∨ color.primaries ≠ bt709 ∨
      color.transfer ≠ bt709 ∨ color.matrix ≠ bt709 then
    throw "requires explicit BT.709 SDR color description"

/-- Rows `(level_idc, picture bound, rate bound)` of ITU-T H.264 and H.265 Annex A. -/
def levelLimits (codec : Nat) : List (Nat × Nat × Nat) :=
  if codec = codecAvc then
    [(31, 3600, 108000), (32, 5120, 216000), (40, 8192, 245760), (42, 8704, 522240)]
  else
    [(93, 983040, 33177600), (120, 2228224, 66846720), (123, 2228224, 133693440)]

/-- Macroblocks for AVC, luma samples for HEVC, storage padding included. -/
def pictureSize (codec : Nat) (size : Resolution) : Nat :=
  if codec = codecAvc then ((size.width + 15) / 16) * ((size.height + 15) / 16)
  else size.width * size.height

def minimumLevelIdc (format : VideoFormat) : Option Nat := do
  let size ← format.codedSize
  let fps ← format.frameRate
  let picture := pictureSize format.codec size
  let row ← (levelLimits format.codec).find? fun (_, maxPicture, maxRate) =>
    picture ≤ maxPicture ∧ picture * fps.numerator ≤ maxRate
  pure row.1

def knownLevel (codec level : Nat) : Bool :=
  if codec = codecAvc then level ∈ [31, 32, 40, 41, 42, 50, 51, 52]
  else if codec = codecHevc then level ∈ [93, 120, 123, 150, 153, 156]
  else false

def acceptsLevel (format : VideoFormat) (level : Nat) : Bool :=
  knownLevel format.codec level &&
    (match format.minimumLevelIdc with
      | some minimum => decide (minimum ≤ level)
      | none => false) &&
    (format.tier ≠ tierHevcHigh || 120 ≤ level)

end VideoFormat

namespace Capabilities

def validateOffers : List DecoderOffer → List DecoderOffer → Except MediaFormatError Unit
  | _, [] => .ok ()
  | earlier, offer :: rest => do
      let some format := offer.format | throw "missing offer format"
      format.validate
      unless format.acceptsLevel offer.maxLevelIdc do
        throw "decoder level ceiling"
      if offer.maxAccessUnitBytes = 0 ∨ maxMediaAccessUnitBytes < offer.maxAccessUnitBytes then
        throw "access unit budget"
      if earlier.any (fun other => other.format = offer.format) then
        throw "duplicate format"
      validateOffers (earlier ++ [offer]) rest

def validate (capabilities : Capabilities) : Except MediaFormatError Unit :=
  if capabilities.offers = [] ∨ maxDecoderOffers < capabilities.offers.length then
    .error "decoder offer count"
  else validateOffers [] capabilities.offers

def supports (capabilities : Capabilities) (format : VideoFormat)
    (levelIdc accessUnitBytes : Nat) : Bool :=
  capabilities.validate.isOk && format.validate.isOk && format.acceptsLevel levelIdc &&
    0 < accessUnitBytes &&
    capabilities.offers.any fun offer =>
      offer.format = some format ∧ levelIdc ≤ offer.maxLevelIdc ∧
        accessUnitBytes ≤ offer.maxAccessUnitBytes

end Capabilities

end PicooCamera.Protocol
