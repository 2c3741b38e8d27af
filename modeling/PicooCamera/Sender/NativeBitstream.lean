import PicooCamera.Protocol.NativeConfiguration
import PicooCamera.Sender.Session

/-!
# The bitstream library of the Sender

A configuration of the Sender is a codec and a record that was parsed before.
What the session asks about it is answered from the parsed record, so that the
format it looks for among the offers is the one that the Receiver reads from
the wire.
-/

namespace PicooCamera.Sender

open PicooCamera.Library PicooCamera.Protocol

def SourceCodec.codec : SourceCodec → Bitstream.Codec
  | .avc => .avc
  | .hevc => .hevc

/-- The text of an error. -/
def describe : Bitstream.BitstreamError → BitstreamError
  | .limit => "bitstream exceeds resource limits"
  | .truncated => "truncated bitstream"
  | .malformed reason => "malformed bitstream: " ++ reason
  | .unsupported reason => "unsupported bitstream: " ++ reason
  | .configuration => "codec configuration"

def SourceColor.of (color : Bitstream.VideoColorFacts) : SourceColor :=
  ⟨color.primaries, color.transfer, color.matrix, color.fullRange⟩

section Native

variable (P : SourceParsers)

/-- The configuration that was parsed from the record. -/
def parsed (config : CodecConfiguration) :
    Except Bitstream.BitstreamError Bitstream.CodecConfiguration :=
  Bitstream.CodecConfiguration.parse P.toStandardParsers config.codec.codec config.record

def nativeBitstream : Bitstream where
  levelIdc config :=
    match parsed P config with
    | .error _ => 0
    | .ok native => native.levelIdc.toNat
  validateVisibleSize config width height :=
    (parsed P config >>= fun native => validateVisibleSize P native width height).mapError describe
  sourceColor config :=
    ((parsed P config >>= sourceFacts P).map fun facts => facts.color.map SourceColor.of).mapError
      describe
  nalLengthSize config :=
    match parsed P config with
    | .error _ => 0
    | .ok native => native.nalLengthSize.bytes
  videoFormat config fps :=
    match parsed P config with
    | .error _ => .error "invalid codec configuration"
    | .ok native => VideoFormat.fromCodecConfiguration P native fps
  alignAccessUnit config data :=
    (parsed P config >>= fun native =>
      native.alignAccessUnit P.toStandardParsers data).mapError describe
  validatedVideoFormat wire := wire.validatedVideoFormat P

end Native

/-! ## The format of a configuration that was sent -/

variable {P : SourceParsers} {config : StreamConfigParams} {wire : StreamConfig}
  {format : VideoFormat}

theorem of_mapError_ok {ε ε' α : Type} {x : Except ε α} {f : ε → ε'} {a : α}
    (h : x.mapError f = .ok a) : x = .ok a := by
  cases x with
  | error error => exact nomatch h
  | ok value => exact congrArg Except.ok (Except.ok.inj h)

/-- What the session knows of the parsed record where it made the wire form of a configuration. -/
structure OnWire (P : SourceParsers) (config : StreamConfigParams) (wire : StreamConfig)
    (native : Bitstream.CodecConfiguration) (facts : Bitstream.VideoSpsFacts)
    (color : Bitstream.VideoColorFacts) : Prop where
  record : parsed P config.configuration = .ok native
  source : sourceFacts P native = .ok facts
  visible : (facts.visibleWidth, facts.visibleHeight) = (config.width, config.height)
  colored : facts.color = some color
  rotated : config.rotation ∈ [0, 90, 180, 270]
  wire : wire = {
    codec := wireCodec config.configuration.codec.codec
    profile := wireProfile config.configuration.codec.codec
    levelIdc := native.levelIdc.toNat
    width := config.width
    height := config.height
    fps := config.fps
    bitrate := config.bitrateBps
    rotation := config.rotation
    mirrored := config.mirrored
    colorRange := wireRange color.fullRange
    codecConfiguration := config.configuration.record
    streamEpoch := config.streamEpoch }

theorem onWire_of_toProto (h : config.toProto (nativeBitstream P) = .ok wire) :
    ∃ native facts color, OnWire P config wire native facts color := by
  unfold StreamConfigParams.toProto at h
  split at h
  · exact nomatch h
  next hshape =>
    rw [not_or, not_not, not_not] at hshape
    obtain ⟨_, hsize, h⟩ := Bitstream.bind_ok.mp h
    obtain ⟨color, hcolor, h⟩ := Bitstream.bind_ok.mp h
    obtain ⟨native, hnative, hsize⟩ := Bitstream.bind_ok.mp (of_mapError_ok hsize)
    obtain ⟨facts, hfacts, hsize⟩ := Bitstream.bind_ok.mp hsize
    have hcolored : facts.color.map SourceColor.of = color := by
      have hmapped := of_mapError_ok hcolor
      rw [hnative] at hmapped
      change (sourceFacts P native).map _ = _ at hmapped
      rw [hfacts] at hmapped
      exact Except.ok.inj hmapped
    cases hnamed : facts.color with
    | none =>
        rw [hnamed] at hcolored
        rw [← hcolored] at h
        exact nomatch h
    | some signal =>
        rw [hnamed] at hcolored
        rw [← hcolored] at h
        dsimp only [Option.map_some] at h
        split at h
        · exact nomatch h
        split at h
        · exact nomatch h
        have hlevel : (nativeBitstream P).levelIdc config.configuration =
            native.levelIdc.toNat := by
          unfold nativeBitstream
          dsimp only
          rw [hnative]
        refine ⟨native, facts, signal, hnative, hfacts, ?_, hnamed, hshape.2, ?_⟩
        · by_contra hdiffers
          rw [if_pos hdiffers] at hsize
          exact nomatch hsize
        · rw [hlevel] at h
          cases hcodec : config.configuration.codec with
          | avc =>
              rw [hcodec] at h
              exact (Except.ok.inj h).symm
          | hevc =>
              rw [hcodec] at h
              exact (Except.ok.inj h).symm

theorem validated_of_toProto (h : config.toProto (nativeBitstream P) = .ok wire)
    (hformat : (nativeBitstream P).videoFormat config.configuration config.fps = .ok format) :
    (nativeBitstream P).validatedVideoFormat wire = .ok format := by
  obtain ⟨native, facts, color, hwire⟩ := onWire_of_toProto h
  have hnative : VideoFormat.fromCodecConfiguration P native config.fps = .ok format := by
    unfold nativeBitstream at hformat
    dsimp only at hformat
    rwa [hwire.record] at hformat
  obtain ⟨facts', color', hfacts, hcolor, hmade⟩ := VideoFormat.fromCodecConfiguration_ok hnative
  rw [hwire.source] at hfacts
  obtain rfl := Except.ok.inj hfacts
  rw [hwire.colored] at hcolor
  obtain rfl := Option.some.inj hcolor
  have hlabels := hwire.wire
  have hcodec : native.codec = config.configuration.codec.codec :=
    parse_codec hwire.record
  refine @StreamConfig.validatedVideoFormat_of_labelled P wire native
    config.configuration.codec.codec format ?_ ?_ ?_ ?_
  · rw [hlabels]
  · rw [hlabels]
    exact hwire.record
  · rw [hlabels]
    exact hnative
  · rw [hlabels, hmade]
    exact {
      profile := by
        rw [← hcodec]
        rfl
      level := rfl
      visible := congrArg some hwire.visible
      range := rfl
      rotation := hwire.rotated }

end PicooCamera.Sender
