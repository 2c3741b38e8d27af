import PicooCamera.Bitstream.Configuration
import PicooCamera.Protocol.Control

/-!
# Source facts of a configuration and its video format

All SPS of a configuration must state the same facts. The video format that is
looked for among the decoder offers is made of these facts and of the frame
rate, by the Sender from its own configuration and by the Receiver from the
wire. The HEVC SPS parser is taken as given.
-/

namespace PicooCamera.Protocol

open PicooCamera.Library PicooCamera.Bitstream

/-- What `source_facts` compares with the header of the record. -/
structure HevcIdentity where
  profileIdc : UInt8
  tierFlag : Bool
  levelIdc : Option UInt8
  deriving DecidableEq

/-- The standard parsers, with `hevc_facts::parse_source`. -/
structure SourceParsers extends StandardParsers where
  hevcSource : Bytes → Except BitstreamError (HevcIdentity × VideoSpsFacts)

theorem parse_codec {P : StandardParsers} {codec : Codec} {record : Bytes}
    {config : CodecConfiguration} (h : CodecConfiguration.parse P codec record = .ok config) :
    config.codec = codec := by
  unfold CodecConfiguration.parse at h
  by_cases hlimit : record = [] ∨ maxConfigBytes < record.length
  · rw [if_pos hlimit] at h
    exact nomatch h
  rw [if_neg hlimit] at h
  dsimp only at h
  by_cases hversion : record.head? ≠ some 1
  · rw [if_pos hversion] at h
    exact nomatch h
  rw [if_neg hversion] at h
  obtain ⟨_, -, h⟩ := bind_ok.mp h
  cases codec with
  | avc =>
      obtain ⟨draft, -, h⟩ := bind_ok.mp h
      split at h
      · exact nomatch h
      split at h
      · exact nomatch h
      split at h
      · exact nomatch h
      · rw [← Except.ok.inj h]
  | hevc =>
      obtain ⟨draft, -, h⟩ := bind_ok.mp h
      split at h
      · exact nomatch h
      split at h
      · exact nomatch h
      split at h
      · exact nomatch h
      · rw [← Except.ok.inj h]

/-! ## Source facts -/

/-- The facts of one SPS. -/
def spsFacts (P : SourceParsers) (config : CodecConfiguration) (sps : Bytes) :
    Except BitstreamError VideoSpsFacts :=
  match config.codec with
  | .avc => CodecConfiguration.parseAvcSps P.toStandardParsers sps
  | .hevc => do
      let (identity, facts) ← P.hevcSource sps
      if identity ≠ ⟨config.profileIdc, config.highTier, some config.levelIdc⟩ then
        throw (.malformed "hvcC identity differs from SPS")
      return facts

/-- One SPS after those with the facts so far. -/
def agreeFacts (P : SourceParsers) (config : CodecConfiguration) (facts : Option VideoSpsFacts)
    (sps : Bytes) : Except BitstreamError (Option VideoSpsFacts) := do
  let current ← spsFacts P config sps
  if facts.any (· ≠ current) then throw (.malformed "conflicting SPS source facts")
  return some current

def sourceFacts (P : SourceParsers) (config : CodecConfiguration) :
    Except BitstreamError VideoSpsFacts := do
  match ← config.sets.sps.foldlM (agreeFacts P config) none with
  | none => throw (.malformed "missing source SPS")
  | some facts => return facts

def validateVisibleSize (P : SourceParsers) (config : CodecConfiguration) (width height : Nat) :
    Except BitstreamError Unit := do
  let facts ← sourceFacts P config
  if (facts.visibleWidth, facts.visibleHeight) ≠ (width, height) then
    throw (.malformed "source dimensions differ from SPS")

/-! ## Video formats -/

def wireCodec : Codec → Nat
  | .avc => codecAvc
  | .hevc => codecHevc

def wireProfile : Codec → Nat
  | .avc => profileAvcHigh
  | .hevc => profileHevcMain

def wireRange (fullRange : Bool) : Nat := if fullRange then rangeFull else rangeLimited

namespace VideoFormat

def sdr709 (codec : Codec) (codedSize : Resolution) (frameRate : FrameRate) (range : Nat) :
    VideoFormat where
  codec := wireCodec codec
  profile := wireProfile codec
  tier := match codec with
    | .avc => tierAvc
    | .hevc => tierHevcMain
  bitDepth := 8
  chroma := chromaYuv420
  codedSize := some codedSize
  visibleRect := some ⟨0, 0, codedSize.width, codedSize.height⟩
  frameRate := some frameRate
  color := some ⟨range, bt709, bt709, bt709⟩

/-- The format of the facts, before it is validated. -/
def ofFacts (config : CodecConfiguration) (facts : VideoSpsFacts) (fullRange : Bool) (fps : Nat) :
    VideoFormat :=
  let format := sdr709 config.codec ⟨facts.codedWidth, facts.codedHeight⟩ ⟨fps, 1⟩
    (wireRange fullRange)
  { format with
    tier := if config.highTier then tierHevcHigh else format.tier
    visibleRect :=
      some ⟨facts.visibleX, facts.visibleY, facts.visibleWidth, facts.visibleHeight⟩ }

def fromCodecConfiguration (P : SourceParsers) (config : CodecConfiguration) (fps : Nat) :
    Except MediaFormatError VideoFormat := do
  if config.nalLengthSize ≠ .four then throw "requires four-byte NAL lengths"
  let facts ← (sourceFacts P config).mapError fun _ => "invalid codec source facts"
  let some color := facts.color | throw "missing source color"
  if (color.primaries, color.transfer, color.matrix) ≠ (1, 1, 1) ∨
      (∃ ratio ∈ facts.pixelAspectRatio, ratio.1 ≠ ratio.2) ∨ 1 < facts.chromaLocation then
    throw "unsupported source presentation"
  (ofFacts config facts color.fullRange fps).validate
  return ofFacts config facts color.fullRange fps

theorem fromCodecConfiguration_ok {P : SourceParsers} {config : CodecConfiguration} {fps : Nat}
    {format : VideoFormat} (h : fromCodecConfiguration P config fps = .ok format) :
    ∃ facts color, sourceFacts P config = .ok facts ∧ facts.color = some color ∧
      format = ofFacts config facts color.fullRange fps := by
  unfold fromCodecConfiguration at h
  split at h
  · exact nomatch h
  · cases hfacts : sourceFacts P config with
    | error error =>
        rw [hfacts] at h
        exact nomatch h
    | ok facts =>
        rw [hfacts] at h
        cases hcolor : facts.color with
        | none =>
            change (match facts.color with
              | some color => _
              | x => throw "missing source color") = _ at h
            rw [hcolor] at h
            exact nomatch h
        | some color =>
            change (match facts.color with
              | some color => _
              | x => throw "missing source color") = _ at h
            rw [hcolor] at h
            dsimp only at h
            split at h
            · exact nomatch h
            · obtain ⟨-, -, hformat⟩ := bind_ok.mp h
              exact ⟨facts, color, rfl, hcolor, (Except.ok.inj hformat).symm⟩

end VideoFormat

/-! ## The configuration on the wire -/

def namedCodec (codec : Nat) : Option Codec :=
  if codec = codecAvc then some .avc else if codec = codecHevc then some .hevc else none

/-- The wire labels are those of the record. -/
structure StreamConfig.Labelled (wire : StreamConfig) (config : CodecConfiguration)
    (format : VideoFormat) : Prop where
  profile : wire.profile = format.profile
  level : wire.levelIdc = config.levelIdc.toNat
  visible : format.visibleRect.map (fun rect => (rect.width, rect.height)) =
    some (wire.width, wire.height)
  range : format.color.map ColorDescription.range = some wire.colorRange
  rotation : wire.rotation ∈ [0, 90, 180, 270]

instance (wire : StreamConfig) (config : CodecConfiguration) (format : VideoFormat) :
    Decidable (wire.Labelled config format) :=
  decidable_of_iff (wire.profile = format.profile ∧ wire.levelIdc = config.levelIdc.toNat ∧
      format.visibleRect.map (fun rect => (rect.width, rect.height)) =
        some (wire.width, wire.height) ∧
      format.color.map ColorDescription.range = some wire.colorRange ∧
      wire.rotation ∈ [0, 90, 180, 270])
    ⟨fun ⟨profile, level, visible, range, rotation⟩ => ⟨profile, level, visible, range, rotation⟩,
      fun h => ⟨h.profile, h.level, h.visible, h.range, h.rotation⟩⟩

def StreamConfig.validatedVideoFormat (P : SourceParsers) (wire : StreamConfig) :
    Except MediaFormatError VideoFormat := do
  let some codec := namedCodec wire.codec | throw "unknown stream codec"
  let config ← (CodecConfiguration.parse P.toStandardParsers codec
    wire.codecConfiguration).mapError fun _ => "invalid codec configuration"
  let format ← VideoFormat.fromCodecConfiguration P config wire.fps
  if ¬wire.Labelled config format then throw "stream labels differ from actual source"
  return format

theorem namedCodec_wireCodec (codec : Codec) : namedCodec (wireCodec codec) = some codec := by
  cases codec <;> rfl

/-- The Receiver reads the format that the record has, where the labels are those of the
record. -/
theorem StreamConfig.validatedVideoFormat_of_labelled {P : SourceParsers} {wire : StreamConfig}
    {config : CodecConfiguration} {codec : Codec} {format : VideoFormat}
    (hcodec : wire.codec = wireCodec codec)
    (hparse : CodecConfiguration.parse P.toStandardParsers codec wire.codecConfiguration =
      .ok config)
    (hformat : VideoFormat.fromCodecConfiguration P config wire.fps = .ok format)
    (hlabelled : wire.Labelled config format) :
    wire.validatedVideoFormat P = .ok format := by
  unfold StreamConfig.validatedVideoFormat
  rw [hcodec, namedCodec_wireCodec]
  dsimp only
  rw [hparse]
  change (VideoFormat.fromCodecConfiguration P config wire.fps >>= fun format => _) = _
  rw [hformat]
  exact if_neg (not_not_intro hlabelled)

end PicooCamera.Protocol
