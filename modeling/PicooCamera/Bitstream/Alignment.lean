import PicooCamera.Bitstream.Configuration

/-!
# Alignment of parameter sets

`align_access_unit` tells Annex B from length prefixes by the first bytes of
the data. A canonical access unit whose first NAL unit is one byte long, or
256 to 511, begins like a start code; it is then read as what it is not, and
returned without a look at its parameter sets.
-/

namespace PicooCamera.Bitstream

open PicooCamera.Library

namespace CodecConfiguration

variable {P : StandardParsers} {config : CodecConfiguration} {data out : Bytes}
  {unit : AccessUnit} {nals : List Bytes} {nal : Bytes}

def isParameterSet (config : CodecConfiguration) (nal : Bytes) : Bool :=
  match nalType config.codec nal with
  | .ok kind => (config.setsFor kind).isSome
  | .error _ => false

/-- An access unit is aligned if it is accepted, carries declared parameter sets only, has
the same other NAL units as the input, and is not changed again. -/
structure IsAligned (P : StandardParsers) (config : CodecConfiguration) (unit : AccessUnit)
    (out : Bytes) : Prop where
  accepted : ∃ aligned, AccessUnit.parse config.codec (.lengthPrefixed .four) out = .ok aligned ∧
    config.validateParameterSets aligned = .ok () ∧
    aligned.nals.filter (fun nal => !config.isParameterSet nal) =
      unit.nals.filter (fun nal => !config.isParameterSet nal)
  again : config.alignAccessUnit P out = .ok out

/-- What is asked of the alignment of a canonical access unit: neither it nor the result is
taken for Annex B or for another prefix length, and the result is aligned. -/
structure AlignsFaithfully (P : StandardParsers) (config : CodecConfiguration) (data : Bytes)
    (unit : AccessUnit) : Prop where
  readAsWritten : config.alignFormat data = .lengthPrefixed .four
  aligned : ∀ out, config.alignAccessUnit P data = .ok out →
    config.alignFormat out = .lengthPrefixed .four ∧ IsAligned P config unit out

/-- The length prefix is `00 00 00 01` or begins with `00 00 01`. -/
def ImitatesStartCode (length : Nat) : Prop := length = 1 ∨ 256 ≤ length ∧ length < 512

instance decidableImitatesStartCode : DecidablePred ImitatesStartCode := fun length =>
  inferInstanceAs (Decidable (length = 1 ∨ 256 ≤ length ∧ length < 512))

/-- The single declared SPS, for an AVC SPS that only lacks its BT.709 colour. -/
def replacement (P : StandardParsers) (config : CodecConfiguration) (nal : Bytes) :
    Option Bytes :=
  match config.codec, config.sets.sps with
  | .avc, [admitted] =>
      if nalType .avc nal = .ok 7 ∧ nal ≠ admitted ∧ avcSpsMayAlign P nal admitted = .ok true
      then some admitted
      else none
  | _, _ => none

def settled (P : StandardParsers) (config : CodecConfiguration) (nal : Bytes) : Bytes :=
  (replacement P config nal).getD nal

/-- Every parameter set is declared or replaced, and the result is within the limit. -/
structure Settles (P : StandardParsers) (config : CodecConfiguration) (nals : List Bytes) :
    Prop where
  declared : ∀ nal ∈ nals, ∀ kind sets, nalType config.codec nal = .ok kind →
    config.setsFor kind = some sets → nal ∈ sets ∨ (replacement P config nal).isSome = true
  fits : framedLength (nals.map (settled P config)) ≤ maxAccessUnitBytes

/-- No first length prefix imitates a start code, neither that of the input nor, where the
parameter sets settle, that of an SPS that replaces its first NAL unit. -/
structure ReadsUnambiguously (P : StandardParsers) (config : CodecConfiguration)
    (nals : List Bytes) : Prop where
  four : config.nalLengthSize = .four
  first : ∀ nal ∈ nals.head?, ¬ ImitatesStartCode nal.length
  replaced : Settles P config nals → ∀ nal ∈ nals.head?, ∀ admitted ∈ replacement P config nal,
    ¬ ImitatesStartCode admitted.length

/-! ## The first length prefix -/

theorem prefix_putBE_iff {code : Bytes} (hcode : code.length ≤ 4) (length : Nat) (rest : Bytes) :
    code <+: putBE 4 length ++ rest ↔ code <+: putBE 4 length := by
  constructor
  · intro h
    exact List.prefix_of_prefix_length_le h (List.prefix_append _ _) (by simpa using hcode)
  · exact fun h => h.trans (List.prefix_append _ _)

theorem imitates_iff {length : Nat} (h : length < 256 ^ 4) (rest : Bytes) :
    ([0, 0, 1] <+: putBE 4 length ++ rest ∨ [0, 0, 0, 1] <+: putBE 4 length ++ rest) ↔
      ImitatesStartCode length := by
  rw [prefix_putBE_iff (by decide), prefix_putBE_iff (by decide)]
  have hbyte : ∀ n k : Nat, k < 256 → (UInt8.ofNat k = UInt8.ofNat n ↔ n % 256 = k) := by
    intro n k hk
    rw [← UInt8.toNat_inj, UInt8.toNat_ofNat', UInt8.toNat_ofNat', Nat.mod_eq_of_lt hk]
    exact eq_comm
  have hzero : ∀ n : Nat, (0 : UInt8) = UInt8.ofNat n ↔ n % 256 = 0 := fun n => hbyte n 0 (by decide)
  have hone : ∀ n : Nat, (1 : UInt8) = UInt8.ofNat n ↔ n % 256 = 1 := fun n => hbyte n 1 (by decide)
  simp only [putBE, List.cons_prefix_cons, List.nil_prefix, and_true, hzero, hone]
  unfold ImitatesStartCode
  omega

theorem alignFormat_framed (hfits : framedLength (nal :: nals) ≤ maxAccessUnitBytes) :
    config.alignFormat (framed false (nal :: nals)) = .lengthPrefixed .four ↔
      config.nalLengthSize = .four ∧ ¬ ImitatesStartCode nal.length := by
  have hlength : nal.length < 256 ^ 4 := by
    have hle := length_le_framedLength (List.mem_cons_self (a := nal) (l := nals))
    have hbound : maxAccessUnitBytes < 256 ^ 4 := by decide
    omega
  have hiff := imitates_iff hlength (nal ++ prefixed .four nals)
  have hdata : framed false (nal :: nals) =
      putBE 4 nal.length ++ (nal ++ prefixed .four nals) := @prefixed_cons nals nal .four
  unfold alignFormat
  rw [hdata]
  split
  · rename_i hlooks
    exact iff_of_false nofun fun h => h.2 (hiff.mp hlooks)
  · rename_i hlooks
    constructor
    · intro h
      exact ⟨NalFormat.lengthPrefixed.inj h, fun himitates => hlooks (hiff.mpr himitates)⟩
    · intro h
      rw [h.1]

/-! ## One NAL unit -/

theorem replacement_some {admitted : Bytes} (h : replacement P config nal = some admitted) :
    config.codec = .avc ∧ config.sets.sps = [admitted] ∧ nalType .avc nal = .ok 7 ∧
      nal ≠ admitted ∧ avcSpsMayAlign P nal admitted = .ok true := by
  unfold replacement at h
  split at h
  · rename_i other hcodec hsps
    split at h
    · rename_i hmay
      rw [← Option.some.inj h]
      exact ⟨hcodec, hsps, hmay⟩
    · exact absurd h nofun
  · exact absurd h nofun

theorem replacement_of {admitted : Bytes} (hcodec : config.codec = .avc)
    (hsps : config.sets.sps = [admitted]) (hkind : nalType .avc nal = .ok 7)
    (hne : nal ≠ admitted) (hmay : avcSpsMayAlign P nal admitted = .ok true) :
    replacement P config nal = some admitted := by
  unfold replacement
  rw [hcodec, hsps]
  exact if_pos ⟨hkind, hne, hmay⟩

theorem setsFor_sps (hcodec : config.codec = .avc) :
    config.setsFor 7 = some config.sets.sps := by
  unfold setsFor
  rw [hcodec]
  rfl

theorem replacement_typed {admitted : Bytes} (h : replacement P config nal = some admitted) :
    nalType config.codec admitted = .ok 7 ∧ nalType config.codec nal = .ok 7 ∧
      config.setsFor 7 = some [admitted] ∧ 3 ≤ admitted.length := by
  obtain ⟨hcodec, hsps, hkind, _, _⟩ := replacement_some h
  have hsets := setsFor_sps hcodec
  rw [hsps] at hsets
  have htyped := config.typed 7 [admitted] hsets admitted (List.mem_singleton.mpr rfl)
  exact ⟨htyped.2, hcodec ▸ hkind, hsets, htyped.1⟩

theorem replacement_declared {kind : UInt8} {sets : List Bytes}
    (hkind : nalType config.codec nal = .ok kind) (hsets : config.setsFor kind = some sets)
    (hmem : nal ∈ sets) : replacement P config nal = none := by
  refine Option.eq_none_iff_forall_ne_some.mpr fun admitted h => ?_
  obtain ⟨_, hnal, hseven, _⟩ := replacement_typed h
  rw [hkind, Except.ok.injEq] at hnal
  rw [hnal, hseven, Option.some_inj] at hsets
  rw [← hsets, List.mem_singleton] at hmem
  exact (replacement_some h).2.2.2.1 hmem

theorem replacement_other {kind : UInt8} (hkind : nalType config.codec nal = .ok kind)
    (hsets : config.setsFor kind = none) : replacement P config nal = none := by
  refine Option.eq_none_iff_forall_ne_some.mpr fun admitted h => ?_
  obtain ⟨_, hnal, hseven, _⟩ := replacement_typed h
  rw [hkind, Except.ok.injEq] at hnal
  rw [hnal, hseven] at hsets
  exact absurd hsets nofun

theorem settled_of_none (h : replacement P config nal = none) : settled P config nal = nal := by
  rw [settled, h]
  rfl

theorem settled_of_some {admitted : Bytes} (h : replacement P config nal = some admitted) :
    settled P config nal = admitted := by
  rw [settled, h]
  rfl

/-- What is required of one NAL unit. -/
def Declared (P : StandardParsers) (config : CodecConfiguration) (nal : Bytes) : Prop :=
  ∀ kind sets, nalType config.codec nal = .ok kind → config.setsFor kind = some sets →
    nal ∈ sets ∨ (replacement P config nal).isSome = true

theorem not_declared {kind : UInt8} {sets : List Bytes}
    (hkind : nalType config.codec nal = .ok kind) (hsets : config.setsFor kind = some sets)
    (hmem : nal ∉ sets) (hnone : replacement P config nal = none) : ¬ Declared P config nal := by
  intro hdeclared
  rcases hdeclared kind sets hkind hsets with hin | hsome
  · exact hmem hin
  · rw [hnone] at hsome
    exact Bool.false_ne_true hsome

theorem replacement_iff {kind : UInt8} {sets : List Bytes} {admitted : Bytes}
    (hkind : nalType config.codec nal = .ok kind) (hsets : config.setsFor kind = some sets)
    (hmem : nal ∉ sets) : replacement P config nal = some admitted ↔
      sets = [admitted] ∧ (config.codec = .avc ∧ kind = 7) ∧
        avcSpsMayAlign P nal admitted = .ok true := by
  constructor
  · intro h
    obtain ⟨hcodec, _, _, _, hmay⟩ := replacement_some h
    obtain ⟨_, hnal, hseven, _⟩ := replacement_typed h
    rw [hkind, Except.ok.injEq] at hnal
    rw [hnal, hseven, Option.some_inj] at hsets
    exact ⟨hsets.symm, ⟨hcodec, hnal⟩, hmay⟩
  · rintro ⟨rfl, ⟨hcodec, rfl⟩, hmay⟩
    have hsps := setsFor_sps hcodec
    rw [hsets, Option.some_inj] at hsps
    refine replacement_of hcodec hsps.symm (hcodec ▸ hkind) ?_ hmay
    exact fun heq => hmem (List.mem_singleton.mpr heq)

theorem replacement_none {kind : UInt8} {sets : List Bytes}
    (hkind : nalType config.codec nal = .ok kind) (hsets : config.setsFor kind = some sets)
    (hmem : nal ∉ sets) (hnot : ∀ admitted, sets = [admitted] →
      (config.codec = .avc ∧ kind = 7) → avcSpsMayAlign P nal admitted ≠ .ok true) :
    replacement P config nal = none := by
  refine Option.eq_none_iff_forall_ne_some.mpr fun admitted h => ?_
  obtain ⟨hone, havc, hmay⟩ := (replacement_iff hkind hsets hmem).mp h
  exact hnot admitted hone havc hmay

theorem keeps_iff {result : Bytes × Bool} (hdeclared : Declared P config nal)
    (hnone : replacement P config nal = none) :
    (Except.ok (nal, false) : Except BitstreamError _) = .ok result ↔ Declared P config nal ∧
      result = (settled P config nal, (replacement P config nal).isSome) := by
  rw [settled_of_none hnone, hnone, Except.ok.injEq, and_iff_right hdeclared]
  exact eq_comm

theorem alignNal_ok {kind : UInt8} (hkind : nalType config.codec nal = .ok kind)
    {result : Bytes × Bool} :
    config.alignNal P nal = .ok result ↔ Declared P config nal ∧
      result = (settled P config nal, (replacement P config nal).isSome) := by
  unfold alignNal
  rw [hkind]
  dsimp only [bind, Except.bind, pure, Except.pure]
  cases hsets : config.setsFor kind with
  | none =>
      refine keeps_iff ?_ (replacement_other hkind hsets)
      intro kind' sets hkind' hsets'
      rw [hkind, Except.ok.injEq] at hkind'
      rw [← hkind', hsets] at hsets'
      exact absurd hsets' nofun
  | some sets =>
      dsimp only
      by_cases hmem : nal ∈ sets
      · rw [if_pos hmem]
        refine keeps_iff ?_ (replacement_declared hkind hsets hmem)
        intro kind' sets' hkind' hsets'
        rw [hkind, Except.ok.injEq] at hkind'
        rw [← hkind', hsets, Option.some_inj] at hsets'
        exact Or.inl (hsets' ▸ hmem)
      · rw [if_neg hmem]
        have hrefused : (∀ admitted, sets = [admitted] → (config.codec = .avc ∧ kind = 7) →
            avcSpsMayAlign P nal admitted ≠ .ok true) → ¬ (Declared P config nal ∧
              result = (settled P config nal, (replacement P config nal).isSome)) :=
          fun hnot h => not_declared hkind hsets hmem (replacement_none hkind hsets hmem hnot) h.1
        cases sets with
        | nil => exact iff_of_false nofun (hrefused nofun)
        | cons admitted rest =>
            cases rest with
            | cons second rest => exact iff_of_false nofun (hrefused nofun)
            | nil =>
                dsimp only
                by_cases havc : config.codec = .avc ∧ kind = 7
                · rw [if_pos havc]
                  cases hmay : avcSpsMayAlign P nal admitted with
                  | error error =>
                      refine iff_of_false nofun (hrefused ?_)
                      intro other hother _
                      rw [← (List.cons.inj hother).1, hmay]
                      exact nofun
                  | ok may =>
                      cases may with
                      | false =>
                          refine iff_of_false nofun (hrefused ?_)
                          intro other hother _
                          rw [← (List.cons.inj hother).1, hmay]
                          exact nofun
                      | true =>
                          have hsome := (replacement_iff hkind hsets hmem).mpr ⟨rfl, havc, hmay⟩
                          have hdeclared : Declared P config nal := by
                            intro _ _ _ _
                            rw [hsome]
                            exact Or.inr rfl
                          rw [settled_of_some hsome, hsome, and_iff_right hdeclared]
                          exact ⟨fun h => (Except.ok.inj h).symm, fun h => congrArg _ h.symm⟩
                · rw [if_neg havc]
                  refine iff_of_false nofun (hrefused ?_)
                  intro other _ h
                  exact absurd h havc

/-! ## Whole access units -/

theorem nalType_of_inspected {codec : Codec} {seen last : Inspection}
    (h : nals.foldlM (inspectNal codec) seen = .ok last) :
    ∀ nal ∈ nals, ∃ kind, nalType codec nal = .ok kind := by
  induction nals generalizing seen with
  | nil => exact nofun
  | cons nal nals ih =>
      rw [List.foldlM_cons] at h
      obtain ⟨next, hnext, h⟩ := bind_ok.mp h
      obtain ⟨kind, hkind, _⟩ := bind_ok.mp hnext
      intro other hother
      rcases List.mem_cons.mp hother with rfl | hother
      · exact ⟨kind, hkind⟩
      · exact ih h other hother

theorem nalTypes_of_picture {codec : Codec} {picture : PictureInfo}
    (h : inspectPicture codec nals = .ok picture) :
    ∀ nal ∈ nals, ∃ kind, nalType codec nal = .ok kind := by
  obtain ⟨last, hlast, _⟩ := bind_ok.mp h
  exact nalType_of_inspected hlast

theorem mapM_alignNal_ok (htyped : ∀ nal ∈ nals, ∃ kind, nalType config.codec nal = .ok kind)
    {results : List (Bytes × Bool)} :
    nals.mapM (config.alignNal P) = .ok results ↔ (∀ nal ∈ nals, Declared P config nal) ∧
      results = nals.map fun nal =>
        (settled P config nal, (replacement P config nal).isSome) := by
  induction nals generalizing results with
  | nil =>
      rw [List.mapM_nil]
      exact ⟨fun h => ⟨nofun, (Except.ok.inj h).symm⟩, fun h => congrArg _ h.2.symm⟩
  | cons nal nals ih =>
      obtain ⟨kind, hkind⟩ := htyped nal List.mem_cons_self
      have ih' := fun results => @ih (fun other hother =>
        htyped other (List.mem_cons_of_mem nal hother)) results
      rw [List.mapM_cons]
      constructor
      · intro h
        obtain ⟨first, hfirst, h⟩ := bind_ok.mp h
        obtain ⟨rest, hrest, h⟩ := bind_ok.mp h
        obtain ⟨hdeclared, rfl⟩ := (alignNal_ok hkind).mp hfirst
        obtain ⟨hall, rfl⟩ := (ih' rest).mp hrest
        exact ⟨List.forall_mem_cons.mpr ⟨hdeclared, hall⟩, (Except.ok.inj h).symm⟩
      · rintro ⟨hall, rfl⟩
        obtain ⟨hdeclared, hrest⟩ := List.forall_mem_cons.mp hall
        refine bind_ok.mpr ⟨_, (alignNal_ok hkind).mpr ⟨hdeclared, rfl⟩, ?_⟩
        exact bind_ok.mpr ⟨_, (ih' _).mpr ⟨hrest, rfl⟩, rfl⟩

theorem map_settled_of_unchanged
    (h : ∀ nal ∈ nals, replacement P config nal = none) : nals.map (settled P config) = nals :=
  calc
    nals.map (settled P config) = nals.map id :=
      List.map_congr_left fun nal hnal => settled_of_none (h nal hnal)
    _ = nals := List.map_id nals

theorem any_replaced_iff :
    ((nals.map fun nal => (settled P config nal, (replacement P config nal).isSome)).any
      fun result => result.2) = true ↔ ¬ ∀ nal ∈ nals, replacement P config nal = none := by
  rw [List.any_map, List.any_eq_true]
  simp only [Function.comp, Option.isSome_iff_ne_none, not_forall, exists_prop]

theorem map_fst_results :
    (nals.map fun nal => (settled P config nal, (replacement P config nal).isSome)).map
      (fun result => result.1) = nals.map (settled P config) := by
  rw [List.map_map]
  rfl

/-- Spec of the alignment of data that is read as the access unit it is. -/
theorem alignAccessUnit_ok (hformat : config.alignFormat data = .lengthPrefixed .four)
    (hunit : AccessUnit.parse config.codec (.lengthPrefixed .four) data = .ok unit) :
    config.alignAccessUnit P data = .ok out ↔ Settles P config unit.nals ∧
      out = framed false (unit.nals.map (settled P config)) := by
  obtain ⟨_, hnals, hpicture⟩ := AccessUnit.parse_ok.mp hunit
  obtain ⟨hdata, hlimit⟩ := splitNals_prefixed_sound hnals
  have hmap := fun results =>
    @mapM_alignNal_ok P _ _ (nalTypes_of_picture hpicture) results
  have hsame : (∀ nal ∈ unit.nals, replacement P config nal = none) →
      data = framed false (unit.nals.map (settled P config)) := fun hnone => by
    rw [map_settled_of_unchanged hnone]
    exact hdata
  unfold alignAccessUnit
  rw [hformat, hunit]
  dsimp only
  constructor
  · intro h
    obtain ⟨results, hresults, h⟩ := bind_ok.mp h
    obtain ⟨hdeclared, rfl⟩ := (hmap results).mp hresults
    rw [map_fst_results] at h
    by_cases hnone : ∀ nal ∈ unit.nals, replacement P config nal = none
    · rw [if_neg fun hany => any_replaced_iff.mp hany hnone] at h
      have hout : data = out := Except.ok.inj h
      rw [hsame hnone, length_framed] at hlimit
      exact ⟨⟨hdeclared, hlimit⟩, hout ▸ hsame hnone⟩
    · rw [if_pos (any_replaced_iff.mpr hnone)] at h
      obtain ⟨hfits, hout⟩ := writeNals_ok h
      exact ⟨⟨hdeclared, hfits⟩, hout⟩
  · rintro ⟨hsettles, rfl⟩
    refine bind_ok.mpr ⟨_, (hmap _).mpr ⟨hsettles.declared, rfl⟩, ?_⟩
    rw [map_fst_results]
    by_cases hnone : ∀ nal ∈ unit.nals, replacement P config nal = none
    · rw [if_neg fun hany => any_replaced_iff.mp hany hnone, ← hsame hnone]
      rfl
    · rw [if_pos (any_replaced_iff.mpr hnone)]
      exact writeNals_of_fits hsettles.fits _

/-! ## The aligned access unit -/

theorem inspectNal_settled (nal : Bytes) (seen : Inspection) :
    inspectNal config.codec seen (settled P config nal) = inspectNal config.codec seen nal := by
  cases hreplacement : replacement P config nal with
  | none => rw [settled_of_none hreplacement]
  | some admitted =>
      obtain ⟨hadmitted, hnal, _⟩ := replacement_typed hreplacement
      have hvcl : isVcl config.codec 7 = false := by
        rw [(replacement_some hreplacement).1]
        rfl
      have hseen : ∀ other, nalType config.codec other = .ok 7 →
          inspectNal config.codec seen other = .ok seen := by
        intro other hother
        unfold inspectNal
        rw [hother]
        exact if_pos hvcl
      rw [settled_of_some hreplacement, hseen admitted hadmitted, hseen nal hnal]

theorem inspectPicture_settled {picture : PictureInfo}
    (h : inspectPicture config.codec nals = .ok picture) :
    inspectPicture config.codec (nals.map (settled P config)) = .ok picture := by
  have hfold : ∀ seen, (nals.map (settled P config)).foldlM (inspectNal config.codec) seen =
      nals.foldlM (inspectNal config.codec) seen := by
    clear h
    induction nals with
    | nil => exact fun _ => rfl
    | cons nal nals ih =>
        intro seen
        rw [List.map_cons, List.foldlM_cons, List.foldlM_cons, inspectNal_settled]
        exact bind_congr fun next => ih next
  unfold inspectPicture
  rw [hfold]
  exact h

theorem admissible_settled (h : Admissible nals) : Admissible (nals.map (settled P config)) := by
  refine ⟨?_, ?_⟩
  · intro other hother
    obtain ⟨nal, hnal, rfl⟩ := List.mem_map.mp hother
    cases hreplacement : replacement P config nal with
    | none =>
        rw [settled_of_none hreplacement]
        exact h.nonempty nal hnal
    | some admitted =>
        have hlength := (replacement_typed hreplacement).2.2.2
        rw [settled_of_some hreplacement]
        rintro rfl
        exact absurd hlength (by decide)
  · rw [List.length_map]
    exact h.count

theorem settled_declared (hdeclared : Declared P config nal) {kind : UInt8} {sets : List Bytes}
    (hkind : nalType config.codec (settled P config nal) = .ok kind)
    (hsets : config.setsFor kind = some sets) : settled P config nal ∈ sets := by
  cases hreplacement : replacement P config nal with
  | none =>
      rw [settled_of_none hreplacement] at hkind ⊢
      rcases hdeclared kind sets hkind hsets with hmem | hsome
      · exact hmem
      · rw [hreplacement] at hsome
        exact absurd hsome Bool.false_ne_true
  | some admitted =>
      obtain ⟨hadmitted, _, hseven, _⟩ := replacement_typed hreplacement
      rw [settled_of_some hreplacement] at hkind ⊢
      rw [hadmitted, Except.ok.injEq] at hkind
      rw [← hkind, hseven, Option.some_inj] at hsets
      rw [← hsets]
      exact List.mem_singleton.mpr rfl

theorem replacement_settled (hdeclared : Declared P config nal) :
    replacement P config (settled P config nal) = none := by
  refine Option.eq_none_iff_forall_ne_some.mpr fun admitted h => ?_
  obtain ⟨_, hkind, hsets, _⟩ := replacement_typed h
  have hmem := settled_declared hdeclared hkind hsets
  exact (replacement_some h).2.2.2.1 (List.mem_singleton.mp hmem)

theorem isParameterSet_settled (nal : Bytes) (hne : settled P config nal ≠ nal) :
    config.isParameterSet (settled P config nal) = true ∧ config.isParameterSet nal = true := by
  cases hreplacement : replacement P config nal with
  | none => exact absurd (settled_of_none hreplacement) hne
  | some admitted =>
      obtain ⟨hadmitted, hnal, hsets, _⟩ := replacement_typed hreplacement
      unfold isParameterSet
      rw [settled_of_some hreplacement, hadmitted, hnal]
      dsimp only
      rw [hsets]
      exact ⟨rfl, rfl⟩

theorem others_settled : (nals.map (settled P config)).filter (fun nal =>
    !config.isParameterSet nal) = nals.filter (fun nal => !config.isParameterSet nal) := by
  induction nals with
  | nil => rfl
  | cons nal nals ih =>
      rw [List.map_cons, List.filter_cons, List.filter_cons, ih]
      by_cases hsame : settled P config nal = nal
      · rw [hsame]
      · obtain ⟨hset, hset'⟩ := isParameterSet_settled nal hsame
        rw [hset, hset']
        rfl

theorem validateParameterSets_ok {picture : AccessUnit} (hcodec : picture.codec = config.codec)
    (hnals : ∀ nal ∈ picture.nals, ∃ kind, nalType config.codec nal = .ok kind ∧
      ∀ sets, config.setsFor kind = some sets → nal ∈ sets) :
    config.validateParameterSets picture = .ok () := by
  unfold validateParameterSets
  rw [if_neg (not_not_intro hcodec)]
  have hall : picture.nals.forM config.validateNal = .ok () := by
    generalize picture.nals = nals at hnals
    induction nals with
    | nil => rfl
    | cons nal nals ih =>
        obtain ⟨kind, hkind, hmem⟩ := hnals nal List.mem_cons_self
        have hfirst : config.validateNal nal = .ok () := by
          unfold validateNal
          rw [hkind]
          refine if_neg fun hany => ?_
          cases hsets : config.setsFor kind with
          | none =>
              rw [hsets] at hany
              exact Bool.false_ne_true hany
          | some sets =>
              rw [hsets] at hany
              exact of_decide_eq_true hany (hmem sets hsets)
        change (config.validateNal nal >>= fun _ => nals.forM config.validateNal) = _
        rw [hfirst]
        exact ih fun other hother => hnals other (List.mem_cons_of_mem nal hother)
  exact hall

/-! ## Alignment of a canonical access unit -/

theorem alignFormat_head (hne : nals ≠ []) (hfits : framedLength nals ≤ maxAccessUnitBytes) :
    config.alignFormat (framed false nals) = .lengthPrefixed .four ↔
      config.nalLengthSize = .four ∧ ∀ nal ∈ nals.head?, ¬ ImitatesStartCode nal.length := by
  cases nals with
  | nil => exact absurd rfl hne
  | cons nal nals =>
      rw [alignFormat_framed hfits, List.head?_cons]
      simp only [Option.mem_some_iff, forall_eq']

theorem head_settled (hsettles : Settles P config nals)
    (h : ReadsUnambiguously P config nals) :
    ∀ nal ∈ (nals.map (settled P config)).head?, ¬ ImitatesStartCode nal.length := by
  cases nals with
  | nil => exact nofun
  | cons nal nals =>
      intro other hother
      rw [List.map_cons, List.head?_cons, Option.mem_some_iff] at hother
      rw [← hother]
      cases hreplacement : replacement P config nal with
      | none =>
          rw [settled_of_none hreplacement]
          exact h.first nal rfl
      | some admitted =>
          rw [settled_of_some hreplacement]
          exact h.replaced hsettles nal rfl admitted hreplacement

theorem map_settled_settled (hsettles : Settles P config nals) :
    (nals.map (settled P config)).map (settled P config) = nals.map (settled P config) := by
  refine map_settled_of_unchanged fun other hother => ?_
  obtain ⟨nal, hnal, rfl⟩ := List.mem_map.mp hother
  exact replacement_settled (hsettles.declared nal hnal)

theorem settles_settled (hsettles : Settles P config nals) :
    Settles P config (nals.map (settled P config)) := by
  refine ⟨?_, ?_⟩
  · intro other hother kind sets hkind hsets
    obtain ⟨nal, hnal, rfl⟩ := List.mem_map.mp hother
    exact Or.inl (settled_declared (hsettles.declared nal hnal) hkind hsets)
  · rw [map_settled_settled hsettles]
    exact hsettles.fits

theorem isAligned_settled
    (hunit : AccessUnit.parse config.codec (.lengthPrefixed .four) data = .ok unit)
    (hsettles : Settles P config unit.nals)
    (hformat : config.alignFormat (framed false (unit.nals.map (settled P config))) =
      .lengthPrefixed .four) :
    IsAligned P config unit (framed false (unit.nals.map (settled P config))) := by
  obtain ⟨_, hnals, hpicture⟩ := AccessUnit.parse_ok.mp hunit
  have hpicture' := inspectPicture_settled (P := P) hpicture
  have hparse : AccessUnit.parse config.codec (.lengthPrefixed .four)
      (framed false (unit.nals.map (settled P config))) =
        .ok ⟨config.codec, unit.nals.map (settled P config), unit.picture⟩ :=
    AccessUnit.parse_ok.mpr ⟨rfl, splitNals_framed_false
      (admissible_settled (splitNals_admissible hnals)) (inspectPicture_ne_nil hpicture')
      hsettles.fits, hpicture'⟩
  refine ⟨⟨_, hparse, ?_, others_settled⟩, ?_⟩
  · refine validateParameterSets_ok rfl fun other hother => ?_
    obtain ⟨kind, hkind⟩ := nalTypes_of_picture hpicture' other hother
    refine ⟨kind, hkind, fun sets hsets => ?_⟩
    obtain ⟨nal, hnal, rfl⟩ := List.mem_map.mp hother
    exact settled_declared (hsettles.declared nal hnal) hkind hsets
  · refine (alignAccessUnit_ok hformat hparse).mpr ⟨settles_settled hsettles, ?_⟩
    dsimp only
    rw [map_settled_settled hsettles]

/-- The alignment of a canonical access unit is faithful exactly when the record declares
four-byte lengths and no first length prefix imitates a start code. -/
theorem alignsFaithfully_iff
    (hunit : AccessUnit.parse config.codec (.lengthPrefixed .four) data = .ok unit) :
    AlignsFaithfully P config data unit ↔ ReadsUnambiguously P config unit.nals := by
  obtain ⟨_, hnals, hpicture⟩ := AccessUnit.parse_ok.mp hunit
  obtain ⟨hdata, hlimit⟩ := splitNals_prefixed_sound hnals
  have hne := inspectPicture_ne_nil hpicture
  have hfits : framedLength unit.nals ≤ maxAccessUnitBytes := by
    rw [← length_framed false, framed_false, ← hdata]
    exact hlimit
  have hread := @alignFormat_head config _ hne hfits
  rw [framed_false, ← hdata] at hread
  have hne' : unit.nals.map (settled P config) ≠ [] := fun h =>
    hne (List.map_eq_nil_iff.mp h)
  constructor
  · intro hfaithful
    obtain ⟨hfour, hfirst⟩ := hread.mp hfaithful.readAsWritten
    refine ⟨hfour, hfirst, fun hsettles nal hnal admitted hadmitted => ?_⟩
    have hout := (alignAccessUnit_ok hfaithful.readAsWritten hunit).mpr ⟨hsettles, rfl⟩
    have hformat := (hfaithful.aligned _ hout).1
    refine ((alignFormat_head hne' hsettles.fits).mp hformat).2 admitted ?_
    rw [List.head?_map, Option.mem_def.mp hnal, Option.map_some, settled_of_some hadmitted]
    rfl
  · intro hreads
    have hformat := hread.mpr ⟨hreads.four, hreads.first⟩
    refine ⟨hformat, fun out hout => ?_⟩
    obtain ⟨hsettles, rfl⟩ := (alignAccessUnit_ok hformat hunit).mp hout
    have hformat' := (alignFormat_head hne' hsettles.fits).mpr
      ⟨hreads.four, head_settled hsettles hreads⟩
    exact ⟨hformat', isAligned_settled hunit hsettles hformat'⟩

/-! ## A first NAL unit of 300 bytes -/

def sampleRecord : Bytes :=
  [1, 100, 0, 31, 0xff, 0xe1, 0, 4, 0x67, 100, 0, 31, 1, 0, 3, 0x68, 0xee, 6]

/-- The parsers on the record: its two parameter sets, and no facts of an SPS. -/
def sampleParsers : StandardParsers where
  avcRecord record :=
    if record = sampleRecord then
      .ok (⟨100, 0, 31, 3, [[0x67, 100, 0, 31]], [[0x68, 0xee, 6]], none⟩, 18)
    else .error .configuration
  hevcRecord _ := .error .configuration
  avcSps _ := .error .truncated

/-- The SPS of another level. -/
def foreignSps : Bytes := [0x67, 100, 0, 40]

def declaredSlice : Bytes := [0x65, 0x88]

def supplementalNal : Bytes := 6 :: List.replicate 299 0x80

def foreignUnit : AccessUnit :=
  ⟨.avc, [supplementalNal, foreignSps, declaredSlice], ⟨.randomAccess .avcIdr, false⟩⟩

def foreignData : Bytes := framed false foreignUnit.nals

theorem sampleRecord_accepted : ∃ config, parse sampleParsers .avc sampleRecord = .ok config ∧
    config.codec = .avc ∧ config.nalLengthSize = .four ∧
    config.sets = ⟨[], [[0x67, 100, 0, 31]], [[0x68, 0xee, 6]]⟩ :=
  ⟨_, rfl, rfl, rfl, rfl⟩

theorem parse_foreignData :
    AccessUnit.parse .avc (.lengthPrefixed .four) foreignData = .ok foreignUnit := by
  refine AccessUnit.parse_ok.mpr ⟨rfl, ?_, by decide +kernel⟩
  have hadmissible : Admissible foreignUnit.nals := ⟨by decide, by decide⟩
  exact splitNals_framed_false hadmissible (by decide) (by decide +kernel)

theorem alignsFaithfully_iff_foreign :
    ∃ config, parse sampleParsers .avc sampleRecord = .ok config ∧
      (AlignsFaithfully sampleParsers config foreignData foreignUnit ↔
        ReadsUnambiguously sampleParsers config foreignUnit.nals) := by
  obtain ⟨config, hconfig, hcodec, _, _⟩ := sampleRecord_accepted
  exact ⟨config, hconfig, alignsFaithfully_iff (hcodec ▸ parse_foreignData)⟩

theorem parse_foreignData_annexB :
    AccessUnit.parse .avc .annexB foreignData = .error (.malformed "AU has no picture") := by
  have hfirst : startCode foreignData = some (0, 3) := by decide +kernel
  have hlast : startCode (foreignData.drop 3) = none := by decide +kernel
  have hpush : pushNal [] (stripTrailingZeros (foreignData.drop 3)) =
      .ok [foreignData.drop 3] := by decide +kernel
  have hsplit : splitNals .annexB foreignData = .ok [foreignData.drop 3] := by
    unfold splitNals
    rw [if_neg (by decide +kernel), if_neg (by decide +kernel)]
    dsimp only
    rw [hfirst]
    dsimp only
    rw [if_neg (by decide +kernel), splitAnnexB_last hlast, hpush]
  have hpicture : inspectPicture .avc [foreignData.drop 3] =
      .error (.malformed "AU has no picture") := by decide +kernel
  exact AccessUnit.parse_error hsplit hpicture

/-- The access unit of a foreign SPS comes back unchanged, and is not valid. -/
theorem foreignSps_bypasses : ¬ ∀ P codec record config data unit,
    parse P codec record = .ok config →
    AccessUnit.parse config.codec (.lengthPrefixed .four) data = .ok unit →
    AlignsFaithfully P config data unit := by
  intro h
  obtain ⟨config, hconfig, hcodec, _, hsets⟩ := sampleRecord_accepted
  have hunit : AccessUnit.parse config.codec (.lengthPrefixed .four) foreignData =
      .ok foreignUnit := hcodec ▸ parse_foreignData
  have hfaithful := h sampleParsers .avc sampleRecord config foreignData foreignUnit hconfig hunit
  have hformat : config.alignFormat foreignData = .annexB := if_pos (by decide +kernel)
  have hout : config.alignAccessUnit sampleParsers foreignData = .ok foreignData := by
    unfold alignAccessUnit
    rw [hformat, hcodec, parse_foreignData_annexB]
  obtain ⟨aligned, haligned, hvalid, _⟩ := (hfaithful.aligned _ hout).2.accepted
  rw [hunit, Except.ok.injEq] at haligned
  rw [← haligned] at hvalid
  have hrefused : config.validateNal foreignSps =
      .error (.malformed "in-band parameter set differs from configuration") := by
    unfold validateNal setsFor
    rw [hcodec, hsets]
    decide
  have hsei : config.validateNal supplementalNal = .ok () := by
    unfold validateNal setsFor
    rw [hcodec, hsets]
    decide +kernel
  unfold validateParameterSets at hvalid
  rw [hcodec, if_neg (by decide)] at hvalid
  change (config.validateNal supplementalNal >>= fun _ =>
    config.validateNal foreignSps >>= fun _ => _) = _ at hvalid
  rw [hsei] at hvalid
  change (config.validateNal foreignSps >>= fun _ => _) = _ at hvalid
  rw [hrefused] at hvalid
  exact absurd hvalid nofun

end CodecConfiguration

end PicooCamera.Bitstream
