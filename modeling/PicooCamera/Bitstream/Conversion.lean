import PicooCamera.Bitstream.Framing

/-!
# Conversion between the framings

An access unit is meant to survive each change of framing. Length prefixes
keep every NAL unit; start codes keep the clean ones. A length-prefixed input
is accepted without a look at its payloads, so it may hold a NAL unit that
Annex B reads as several.
-/

namespace PicooCamera.Bitstream

open PicooCamera.Library

variable {codec : Codec} {format : NalFormat} {data out : Bytes} {unit : AccessUnit}

/-- Both written forms are accepted as the same access unit, and the canonical form is
canonical. -/
structure ConvertsFaithfully (codec : Codec) (format : NalFormat) (data : Bytes)
    (unit : AccessUnit) : Prop where
  lengthPrefixed : ∀ out, unit.toLengthPrefixed = .ok out →
    AccessUnit.parse codec (.lengthPrefixed .four) out = .ok unit
  annexB : ∀ out, unit.toAnnexB = .ok out → AccessUnit.parse codec .annexB out = .ok unit
  canonical : ∀ out, canonicalAccessUnit codec format data = .ok out →
    canonicalAccessUnit codec (.lengthPrefixed .four) out = .ok out

theorem bind_ok {ε α β : Type} {x : Except ε α} {f : α → Except ε β} {b : β} :
    x >>= f = .ok b ↔ ∃ a, x = .ok a ∧ f a = .ok b := by
  cases x with
  | error error => exact iff_of_false nofun fun ⟨_, h, _⟩ => absurd h nofun
  | ok a =>
      constructor
      · exact fun h => ⟨a, rfl, h⟩
      · rintro ⟨a', ha, h⟩
        rwa [← Except.ok.inj ha] at h

theorem AccessUnit.parse_ok : AccessUnit.parse codec format data = .ok unit ↔
    unit.codec = codec ∧ splitNals format data = .ok unit.nals ∧
      inspectPicture codec unit.nals = .ok unit.picture := by
  unfold AccessUnit.parse
  constructor
  · intro h
    obtain ⟨nals, hnals, h⟩ := bind_ok.mp h
    obtain ⟨picture, hpicture, h⟩ := bind_ok.mp h
    rw [← Except.ok.inj h]
    exact ⟨rfl, hnals, hpicture⟩
  · rintro ⟨rfl, hnals, hpicture⟩
    rw [hnals]
    refine bind_ok.mpr ⟨_, rfl, ?_⟩
    rw [hpicture]
    rfl

theorem AccessUnit.parse_error {nals : List Bytes} {error : BitstreamError}
    (hnals : splitNals format data = .ok nals)
    (hpicture : inspectPicture codec nals = .error error) :
    AccessUnit.parse codec format data = .error error := by
  unfold AccessUnit.parse
  rw [hnals]
  change (inspectPicture codec nals >>= fun picture => _) = _
  rw [hpicture]
  rfl

theorem inspectPicture_ne_nil {nals : List Bytes} {picture : PictureInfo}
    (h : inspectPicture codec nals = .ok picture) : nals ≠ [] := by
  rintro rfl
  exact absurd h nofun

theorem writeNals_ok {nals : List Bytes} {annexB : Bool} (h : writeNals nals annexB = .ok out) :
    framedLength nals ≤ maxAccessUnitBytes ∧ out = framed annexB nals := by
  unfold writeNals at h
  split at h
  · exact absurd h nofun
  · rename_i hfits
    exact ⟨Nat.not_lt.mp hfits, (Except.ok.inj h).symm⟩

theorem writeNals_of_fits {nals : List Bytes} (h : framedLength nals ≤ maxAccessUnitBytes)
    (annexB : Bool) : writeNals nals annexB = .ok (framed annexB nals) :=
  if_neg (Nat.not_lt.mpr h)

namespace AccessUnit

theorem parse_toLengthPrefixed (h : parse codec format data = .ok unit)
    (hout : unit.toLengthPrefixed = .ok out) :
    parse codec (.lengthPrefixed .four) out = .ok unit := by
  obtain ⟨hcodec, hnals, hpicture⟩ := parse_ok.mp h
  obtain ⟨hfits, rfl⟩ := writeNals_ok hout
  exact parse_ok.mpr ⟨hcodec, splitNals_framed_false (splitNals_admissible hnals)
    (inspectPicture_ne_nil hpicture) hfits, hpicture⟩

theorem parse_toAnnexB (h : parse codec format data = .ok unit)
    (hclean : ∀ nal ∈ unit.nals, Clean nal) (hout : unit.toAnnexB = .ok out) :
    parse codec .annexB out = .ok unit := by
  obtain ⟨hcodec, hnals, hpicture⟩ := parse_ok.mp h
  obtain ⟨hfits, rfl⟩ := writeNals_ok hout
  exact parse_ok.mpr ⟨hcodec, splitNals_framed_true (splitNals_admissible hnals)
    (inspectPicture_ne_nil hpicture) hfits hclean, hpicture⟩

end AccessUnit

theorem canonicalAccessUnit_parsed (h : AccessUnit.parse codec (.lengthPrefixed .four) data =
    .ok unit) : canonicalAccessUnit codec (.lengthPrefixed .four) data = .ok data := by
  unfold canonicalAccessUnit
  rw [h]
  rfl

theorem canonicalAccessUnit_sound (h : AccessUnit.parse codec format data = .ok unit)
    (hout : canonicalAccessUnit codec format data = .ok out) :
    AccessUnit.parse codec (.lengthPrefixed .four) out = .ok unit := by
  unfold canonicalAccessUnit at hout
  rw [h] at hout
  obtain ⟨unit', hunit, hout⟩ := bind_ok.mp hout
  rw [← Except.ok.inj hunit] at hout
  split at hout
  · rename_i hfour
    rw [← Except.ok.inj hout, ← hfour]
    exact h
  · exact AccessUnit.parse_toLengthPrefixed h hout

/-- An accepted access unit converts faithfully exactly when, if its Annex-B form is within
the limit, start codes delimit each of its NAL units. -/
theorem convertsFaithfully_iff (h : AccessUnit.parse codec format data = .ok unit) :
    ConvertsFaithfully codec format data unit ↔
      (framedLength unit.nals ≤ maxAccessUnitBytes → ∀ nal ∈ unit.nals, Clean nal) := by
  constructor
  · intro hfaithful hfits
    have hparse := hfaithful.annexB _ (writeNals_of_fits hfits true)
    exact splitNals_annexB_clean (AccessUnit.parse_ok.mp hparse).2.1
  · intro hclean
    refine ⟨fun out hout => AccessUnit.parse_toLengthPrefixed h hout, ?_, ?_⟩
    · intro out hout
      exact AccessUnit.parse_toAnnexB h (hclean (writeNals_ok hout).1) hout
    · intro out hout
      exact canonicalAccessUnit_parsed (canonicalAccessUnit_sound h hout)

theorem annexB_clean (h : AccessUnit.parse codec .annexB data = .ok unit) :
    ∀ nal ∈ unit.nals, Clean nal :=
  splitNals_annexB_clean (AccessUnit.parse_ok.mp h).2.1

/-! ## A NAL unit that holds a start code -/

/-- An IDR slice whose payload holds a start code and an SPS header. -/
def smugglingNal : Bytes := [0x65, 0x88, 0, 0, 1, 0x67, 0x42]

def smugglingUnit : AccessUnit := ⟨.avc, [smugglingNal], ⟨.randomAccess .avcIdr, false⟩⟩

theorem parse_smuggling : AccessUnit.parse .avc (.lengthPrefixed .four)
    [0, 0, 0, 7, 0x65, 0x88, 0, 0, 1, 0x67, 0x42] = .ok smugglingUnit := by
  refine AccessUnit.parse_ok.mpr ⟨rfl, ?_, by decide⟩
  have hadmissible : Admissible smugglingUnit.nals := ⟨by decide, by decide⟩
  exact splitNals_framed_false hadmissible (by decide) (by decide)

theorem convertsFaithfully_iff_smuggling :
    ConvertsFaithfully .avc (.lengthPrefixed .four)
        [0, 0, 0, 7, 0x65, 0x88, 0, 0, 1, 0x67, 0x42] smugglingUnit ↔
      (framedLength smugglingUnit.nals ≤ maxAccessUnitBytes →
        ∀ nal ∈ smugglingUnit.nals, Clean nal) :=
  convertsFaithfully_iff parse_smuggling

/-- The Annex-B form of this access unit is not read back as the access unit. -/
theorem smuggled_parameterSet : ¬ ∀ codec format data unit,
    format = .annexB ∨ format = .lengthPrefixed .four →
    AccessUnit.parse codec format data = .ok unit → ConvertsFaithfully codec format data unit := by
  intro h
  have hfaithful := h .avc _ _ _ (Or.inr rfl) parse_smuggling
  have hparse := hfaithful.annexB _ (writeNals_of_fits (by decide) true)
  exact absurd (annexB_clean hparse smugglingNal (by decide)) (by decide)

end PicooCamera.Bitstream
