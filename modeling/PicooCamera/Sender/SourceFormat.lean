import PicooCamera.Library.BigEndian
import PicooCamera.Protocol.Control

/-!
# Source formats and stream configurations of the Sender

A source format is what the user asks for; a stream configuration is what the
native encoder produced. The parser of codec configuration records is taken as
given.
-/

namespace PicooCamera.Sender

open PicooCamera.Library PicooCamera.Protocol

inductive SourceCodec where
  | avc
  | hevc
  deriving DecidableEq, Repr

/-- The facts of the SPS that `to_proto` reads. -/
structure SourceColor where
  primaries : Nat
  transfer : Nat
  matrix : Nat
  fullRange : Bool
  deriving DecidableEq, Repr

structure CodecConfiguration where
  codec : SourceCodec
  record : Bytes
  deriving DecidableEq, Repr

abbrev BitstreamError := String

/-- What the bitstream library answers about a parsed configuration. -/
structure Bitstream where
  levelIdc : CodecConfiguration → Nat
  validateVisibleSize : CodecConfiguration → Nat → Nat → Except BitstreamError Unit
  sourceColor : CodecConfiguration → Except BitstreamError (Option SourceColor)
  nalLengthSize : CodecConfiguration → Nat
  /-- `VideoFormat::from_codec_configuration`. -/
  videoFormat : CodecConfiguration → Nat → Except MediaFormatError VideoFormat
  alignAccessUnit : CodecConfiguration → Bytes → Except BitstreamError Bytes
  /-- `StreamConfig::validated_video_format`. -/
  validatedVideoFormat : StreamConfig → Except MediaFormatError VideoFormat

structure SourceFormat where
  codec : SourceCodec
  height : Nat
  fps : Nat
  deriving DecidableEq, Repr

structure StreamConfigParams where
  width : Nat
  height : Nat
  fps : Nat
  bitrateBps : Nat
  streamEpoch : Nat
  mirrored : Bool
  rotation : Nat
  configuration : CodecConfiguration
  deriving DecidableEq, Repr

namespace StreamConfigParams

def sourceFormat (config : StreamConfigParams) : SourceFormat :=
  ⟨config.configuration.codec, config.height, config.fps⟩

def toProto (bitstream : Bitstream) (config : StreamConfigParams) :
    Except BitstreamError StreamConfig := do
  if config.fps ∉ [30, 60] ∨ config.rotation ∉ [0, 90, 180, 270] then
    throw "source frame rate or rotation"
  let configuration := config.configuration
  bitstream.validateVisibleSize configuration config.width config.height
  let some color ← bitstream.sourceColor configuration | throw "missing source color"
  if (color.primaries, color.transfer, color.matrix) ≠ (1, 1, 1) then
    throw "source is not BT.709 SDR"
  if bitstream.nalLengthSize configuration ≠ 4 then
    throw "wire requires four-byte NAL lengths"
  let (codec, profile) := match configuration.codec with
    | .avc => (codecAvc, profileAvcHigh)
    | .hevc => (codecHevc, profileHevcMain)
  pure {
    codec := codec
    profile := profile
    levelIdc := bitstream.levelIdc configuration
    width := config.width
    height := config.height
    fps := config.fps
    bitrate := config.bitrateBps
    rotation := config.rotation
    mirrored := config.mirrored
    colorRange := if color.fullRange then rangeFull else rangeLimited
    codecConfiguration := configuration.record
    streamEpoch := config.streamEpoch }

end StreamConfigParams

namespace SourceFormat

def isProductFormat (format : SourceFormat) : Bool :=
  format.height ∈ [720, 1080] ∧ format.fps ∈ [30, 60]

/-- The width of the product's two picture sizes. -/
def visibleWidth (format : SourceFormat) : Nat := if format.height = 720 then 1280 else 1920

def wireCodec (format : SourceFormat) : Nat :=
  match format.codec with
  | .avc => codecAvc
  | .hevc => codecHevc

/-- `VideoFormat::sdr_709` at the limited range, with the storage, tier and crop origin of
an offer. -/
def requested (format : SourceFormat) (candidate : VideoFormat) (crop : VisibleRect) :
    VideoFormat where
  codec := format.wireCodec
  profile := match format.codec with
    | .avc => profileAvcHigh
    | .hevc => profileHevcMain
  tier := candidate.tier
  bitDepth := 8
  chroma := chromaYuv420
  codedSize := candidate.codedSize
  visibleRect := some { crop with width := format.visibleWidth, height := format.height }
  frameRate := some ⟨format.fps, 1⟩
  color := some ⟨rangeLimited, bt709, bt709, bt709⟩

def isOfferedBy (format : SourceFormat) (caps : Capabilities) : Bool :=
  format.isProductFormat && caps.validate.isOk &&
    caps.offers.any fun offer =>
      match offer.format with
      | none => false
      | some candidate =>
          match candidate.visibleRect with
          | none => false
          | some crop => candidate = format.requested candidate crop

def «matches» (format : SourceFormat) (config : StreamConfigParams) : Bool :=
  format.isProductFormat ∧ format.codec = config.configuration.codec ∧
    format.height = config.height ∧ config.width = format.visibleWidth ∧
    format.fps = config.fps

end SourceFormat

end PicooCamera.Sender
