import PicooCamera.Bitstream.Conversion

/-!
# The access units of one picture

`inspect_picture` walks the NAL units once and keeps what the slices before
showed. It accepts the lists whose slices are the slices of one picture, of
which the first one alone begins it, and answers what they have in common.
-/

namespace PicooCamera.Bitstream

open PicooCamera.Library

variable {codec : Codec} {nals : List Bytes} {nal : Bytes} {picture : PictureInfo}

/-- The NAL unit type, of a NAL unit that carries a slice. -/
def vclType (codec : Codec) (nal : Bytes) : Option UInt8 :=
  match nalType codec nal with
  | .error _ => none
  | .ok kind => if isVcl codec kind then some kind else none

def vclNals (codec : Codec) (nals : List Bytes) : List Bytes :=
  nals.filter fun nal => (vclType codec nal).isSome

/-- The bit of the slice header that is set for the first slice of a picture. -/
def isFirstSlice (codec : Codec) (nal : Bytes) : Bool :=
  match sliceByte codec nal with
  | .error _ => false
  | .ok byte => byte &&& 0x80 ≠ 0

/-- The picture type and the reference status that one slice shows. -/
def slicePicture (codec : Codec) (nal : Bytes) : Option PictureInfo :=
  (vclType codec nal).map fun kind => ⟨pictureKind codec kind, discardable codec kind nal⟩

/-- The slices share a picture type and a reference status, and the first one alone begins
a picture. -/
structure SlicesAgree (codec : Codec) (nals : List Bytes) (picture : PictureInfo) : Prop where
  headers : ∀ nal ∈ nals, ∃ kind, nalType codec nal = .ok kind
  slices : ∃ first more, vclNals codec nals = first :: more ∧
    isFirstSlice codec first = true ∧ ∀ nal ∈ more, isFirstSlice codec nal = false
  picture : ∀ nal ∈ vclNals codec nals, slicePicture codec nal = some picture

/-- The slices agree, each has the byte that begins its header, and they have one NAL unit
type. -/
structure OnePicture (codec : Codec) (nals : List Bytes) (picture : PictureInfo) : Prop
    extends SlicesAgree codec nals picture where
  sliceHeaders : ∀ nal ∈ vclNals codec nals, ∃ byte, sliceByte codec nal = .ok byte
  oneType : ∃ kind, ∀ nal ∈ vclNals codec nals, vclType codec nal = some kind

/-! ## One NAL unit -/

theorem vclType_eq_some {kind : UInt8} : vclType codec nal = some kind ↔
    nalType codec nal = .ok kind ∧ isVcl codec kind = true := by
  unfold vclType
  cases hkind : nalType codec nal with
  | error error => exact iff_of_false nofun fun ⟨h, _⟩ => absurd h nofun
  | ok other =>
      simp only [Except.ok.injEq]
      constructor
      · intro h
        split at h
        · rename_i hvcl
          obtain rfl := Option.some.inj h
          exact ⟨rfl, hvcl⟩
        · exact absurd h nofun
      · rintro ⟨rfl, hvcl⟩
        rw [if_pos hvcl]

theorem vclType_eq_none {kind : UInt8} (hkind : nalType codec nal = .ok kind) :
    vclType codec nal = none ↔ isVcl codec kind = false := by
  unfold vclType
  rw [hkind]
  dsimp only
  split
  · rename_i hvcl
    exact iff_of_false nofun (by simp [hvcl])
  · rename_i hvcl
    exact iff_of_true rfl (by simpa using hvcl)

theorem vclNals_snoc_other (nals : List Bytes) (h : vclType codec nal = none) :
    vclNals codec (nals ++ [nal]) = vclNals codec nals := by
  simp [vclNals, h]

theorem vclNals_snoc_vcl (nals : List Bytes) {kind : UInt8} (h : vclType codec nal = some kind) :
    vclNals codec (nals ++ [nal]) = vclNals codec nals ++ [nal] := by
  simp [vclNals, h]

theorem ite_error_ok {ε α : Type} {c : Prop} [Decidable c] {error : ε} {x : Except ε α}
    {a : α} : (if c then .error error else x) = .ok a ↔ ¬ c ∧ x = .ok a := by
  by_cases h : c
  · rw [if_pos h]
    exact iff_of_false nofun fun hand => hand.1 h
  · rw [if_neg h]
    exact (and_iff_right h).symm

theorem any_ne_iff {α : Type} [DecidableEq α] {a : α} {o : Option α} :
    ¬ o.any (fun x => decide (x ≠ a)) = true ↔ ∀ x ∈ o, x = a := by
  cases o with
  | none => simp
  | some x => simp

theorem inspectNal_other {kind : UInt8} (hkind : nalType codec nal = .ok kind)
    (hvcl : isVcl codec kind = false) (seen : Inspection) :
    inspectNal codec seen nal = .ok seen := by
  unfold inspectNal
  rw [hkind]
  exact if_pos hvcl

/-- What the slices before ask of a slice. -/
structure Continues (codec : Codec) (seen : Inspection) (nal : Bytes) (kind : UInt8) :
    Prop where
  sliceHeader : ∃ byte, sliceByte codec nal = .ok byte
  firstSlice : isFirstSlice codec nal = seen.picture.isNone
  sameType : ∀ other ∈ seen.vclType, other = kind
  samePicture : ∀ other ∈ seen.picture,
    other = ⟨pictureKind codec kind, discardable codec kind nal⟩

theorem inspectNal_vcl {kind : UInt8} {seen next : Inspection}
    (hkind : vclType codec nal = some kind) :
    inspectNal codec seen nal = .ok next ↔ Continues codec seen nal kind ∧
      next = ⟨some ⟨pictureKind codec kind, discardable codec kind nal⟩, some kind⟩ := by
  obtain ⟨htype, hvcl⟩ := vclType_eq_some.mp hkind
  unfold inspectNal
  rw [htype]
  simp only [bind, Except.bind, hvcl, Bool.true_eq_false, if_false]
  cases hbyte : sliceByte codec nal with
  | error error =>
      refine iff_of_false nofun fun ⟨h, _⟩ => ?_
      obtain ⟨byte, hok⟩ := h.sliceHeader
      exact absurd (hbyte.symm.trans hok) nofun
  | ok byte =>
      have hfirst : isFirstSlice codec nal = decide (byte &&& 0x80 ≠ 0) := by
        unfold isFirstSlice
        rw [hbyte]
      simp only [throw, throwThe, MonadExceptOf.throw, ite_error_ok, pure, Except.pure,
        Except.ok.injEq]
      rw [← hfirst, any_ne_iff, any_ne_iff]
      constructor
      · rintro ⟨hmultiple, hmissing, htypes, hpictures, hnext⟩
        refine ⟨⟨⟨byte, hbyte⟩, ?_, htypes, hpictures⟩, hnext.symm⟩
        cases hseen : seen.picture with
        | none => simpa [hseen] using hmissing
        | some _ => simpa [hseen] using hmultiple
      · rintro ⟨h, hnext⟩
        refine ⟨?_, ?_, h.sameType, h.samePicture, hnext.symm⟩
        · rw [h.firstSlice]
          cases seen.picture <;> simp
        · rw [h.firstSlice]
          cases seen.picture <;> simp

/-! ## The walk -/

/-- What the walk over some NAL units has seen: no slice yet, or the slices of one picture. -/
inductive Inspected (codec : Codec) (nals : List Bytes) : Inspection → Prop
  | noSlice (headers : ∀ nal ∈ nals, ∃ kind, nalType codec nal = .ok kind)
      (empty : vclNals codec nals = []) : Inspected codec nals ⟨none, none⟩
  | slices {picture : PictureInfo} {kind : UInt8} (h : OnePicture codec nals picture)
      (oneType : ∀ nal ∈ vclNals codec nals, vclType codec nal = some kind) :
      Inspected codec nals ⟨some picture, some kind⟩

theorem foldlM_snoc_ok {ε σ α : Type} (f : σ → α → Except ε σ) (xs : List α) (x : α)
    (s u : σ) : (xs ++ [x]).foldlM f s = .ok u ↔ ∃ t, xs.foldlM f s = .ok t ∧ f t x = .ok u := by
  rw [List.foldlM_append]
  simp only [List.foldlM_cons, List.foldlM_nil]
  constructor
  · intro h
    obtain ⟨t, ht, h⟩ := bind_ok.mp h
    obtain ⟨u', hu, h⟩ := bind_ok.mp h
    obtain rfl := Except.ok.inj h
    exact ⟨t, ht, hu⟩
  · rintro ⟨t, ht, hu⟩
    exact bind_ok.mpr ⟨t, ht, bind_ok.mpr ⟨u, hu, rfl⟩⟩

theorem headers_snoc (h : ∀ other ∈ nals, ∃ kind, nalType codec other = .ok kind)
    (hnal : ∃ kind, nalType codec nal = .ok kind) :
    ∀ other ∈ nals ++ [nal], ∃ kind, nalType codec other = .ok kind := by
  intro other hother
  rcases List.mem_append.mp hother with hother | hother
  · exact h other hother
  · rwa [List.mem_singleton.mp hother]

theorem Inspected.snoc_other {seen : Inspection} (h : Inspected codec nals seen)
    (hheader : ∃ kind, nalType codec nal = .ok kind) (hvcl : vclType codec nal = none) :
    Inspected codec (nals ++ [nal]) seen := by
  have hsame := vclNals_snoc_other nals hvcl
  cases h with
  | noSlice headers hnone =>
      exact .noSlice (headers_snoc headers hheader) (hsame.trans hnone)
  | slices h oneType =>
      refine .slices ⟨⟨headers_snoc h.headers hheader, ?_, ?_⟩, ?_, ?_⟩ ?_
      all_goals rw [hsame]
      · exact h.slices
      · exact h.picture
      · exact h.sliceHeaders
      · exact h.oneType
      · exact oneType

theorem Inspected.snoc_vcl {seen : Inspection} {kind : UInt8} (h : Inspected codec nals seen)
    (hkind : vclType codec nal = some kind) (hcontinues : Continues codec seen nal kind) :
    Inspected codec (nals ++ [nal])
      ⟨some ⟨pictureKind codec kind, discardable codec kind nal⟩, some kind⟩ := by
  have hsnoc := vclNals_snoc_vcl nals hkind
  have hheader : ∃ kind, nalType codec nal = .ok kind := ⟨kind, (vclType_eq_some.mp hkind).1⟩
  have hpicture : slicePicture codec nal =
      some ⟨pictureKind codec kind, discardable codec kind nal⟩ := by
    rw [slicePicture, hkind]
    rfl
  cases h with
  | noSlice headers hnone =>
      rw [hnone, List.nil_append] at hsnoc
      refine .slices ⟨⟨headers_snoc headers hheader, ?_, ?_⟩, ?_, kind, ?_⟩ ?_
      · exact ⟨nal, [], hsnoc, hcontinues.firstSlice, nofun⟩
      all_goals
        intro other hother
        rw [hsnoc] at hother
        rw [List.mem_singleton.mp hother]
      · exact hpicture
      · exact hcontinues.sliceHeader
      · exact hkind
      · exact hkind
  | slices h oneType =>
      have hsameType := hcontinues.sameType _ rfl
      have hsamePicture := hcontinues.samePicture _ rfl
      obtain ⟨first, more, hvcl, hfirst, hmore⟩ := h.slices
      have hall : ∀ P : Bytes → Prop, (∀ other ∈ vclNals codec nals, P other) → P nal →
          ∀ other ∈ vclNals codec (nals ++ [nal]), P other := by
        intro P hP hnal other hother
        rw [hsnoc] at hother
        rcases List.mem_append.mp hother with hother | hother
        · exact hP other hother
        · rwa [List.mem_singleton.mp hother]
      subst hsameType
      have htypes := hall _ oneType hkind
      refine .slices ⟨⟨headers_snoc h.headers hheader, ?_, ?_⟩,
        hall _ h.sliceHeaders hcontinues.sliceHeader, _, htypes⟩ htypes
      · refine ⟨first, more ++ [nal], by rw [hsnoc, hvcl, List.cons_append], hfirst, ?_⟩
        intro other hother
        rcases List.mem_append.mp hother with hother | hother
        · exact hmore other hother
        · rw [List.mem_singleton.mp hother]
          exact hcontinues.firstSlice
      · exact hall _ (hsamePicture ▸ h.picture) hpicture

theorem Inspected.of_snoc_other {seen : Inspection} (h : Inspected codec (nals ++ [nal]) seen)
    (hvcl : vclType codec nal = none) : Inspected codec nals seen := by
  have hsame := vclNals_snoc_other nals hvcl
  cases h with
  | noSlice headers hnone =>
      exact .noSlice (fun other hother => headers other (List.mem_append_left _ hother))
        (hsame.symm.trans hnone)
  | slices h oneType =>
      rw [hsame] at oneType
      exact .slices
        ⟨⟨fun other hother => h.headers other (List.mem_append_left _ hother),
          hsame ▸ h.slices, hsame ▸ h.picture⟩, hsame ▸ h.sliceHeaders, hsame ▸ h.oneType⟩ oneType

theorem Inspected.of_snoc_vcl {next : Inspection} {kind : UInt8}
    (h : Inspected codec (nals ++ [nal]) next) (hkind : vclType codec nal = some kind) :
    ∃ seen, Inspected codec nals seen ∧ Continues codec seen nal kind ∧
      next = ⟨some ⟨pictureKind codec kind, discardable codec kind nal⟩, some kind⟩ := by
  have hsnoc := vclNals_snoc_vcl nals hkind
  have hpicture : slicePicture codec nal =
      some ⟨pictureKind codec kind, discardable codec kind nal⟩ := by
    rw [slicePicture, hkind]
    rfl
  have hlast : nal ∈ vclNals codec (nals ++ [nal]) := by
    rw [hsnoc]
    exact List.mem_append_right _ (List.mem_singleton_self nal)
  cases h with
  | noSlice headers hnone =>
      rw [hnone] at hlast
      exact absurd hlast List.not_mem_nil
  | slices h oneType =>
      rename_i picture kind'
      obtain rfl : kind = kind' := Option.some.inj (hkind.symm.trans (oneType nal hlast))
      obtain rfl := Option.some.inj ((h.picture nal hlast).symm.trans hpicture)
      have hearlier : ∀ other ∈ vclNals codec nals, other ∈ vclNals codec (nals ++ [nal]) := by
        intro other hother
        rw [hsnoc]
        exact List.mem_append_left _ hother
      have headers : ∀ other ∈ nals, ∃ kind, nalType codec other = .ok kind :=
        fun other hother => h.headers other (List.mem_append_left _ hother)
      obtain ⟨first, more, hvcl, hfirst, hmore⟩ := h.slices
      rw [hsnoc] at hvcl
      cases hbefore : vclNals codec nals with
      | nil =>
          rw [hbefore, List.nil_append, List.cons.injEq] at hvcl
          obtain ⟨rfl, -⟩ := hvcl
          exact ⟨_, .noSlice headers hbefore, ⟨h.sliceHeaders _ hlast, hfirst, nofun, nofun⟩, rfl⟩
      | cons other before =>
          rw [hbefore, List.cons_append, List.cons.injEq] at hvcl
          obtain ⟨rfl, rfl⟩ := hvcl
          refine ⟨⟨some ⟨pictureKind codec kind, discardable codec kind nal⟩, some kind⟩,
            .slices ⟨⟨headers, ⟨other, before, hbefore, hfirst, ?_⟩, ?_⟩, ?_, ?_⟩ ?_,
            ⟨h.sliceHeaders _ hlast, ?_, ?_, ?_⟩, rfl⟩
          · exact fun slice hslice => hmore slice (List.mem_append_left _ hslice)
          · exact fun slice hslice => h.picture slice (hearlier slice hslice)
          · exact fun slice hslice => h.sliceHeaders slice (hearlier slice hslice)
          · exact ⟨kind, fun slice hslice => oneType slice (hearlier slice hslice)⟩
          · exact fun slice hslice => oneType slice (hearlier slice hslice)
          · exact hmore nal (List.mem_append_right _ (List.mem_singleton_self nal))
          · intro type htype
            exact (Option.some.inj htype).symm
          · intro info hinfo
            exact (Option.some.inj hinfo).symm

theorem foldlM_inspectNal_iff (nals : List Bytes) (seen : Inspection) :
    nals.foldlM (inspectNal codec) ⟨none, none⟩ = .ok seen ↔ Inspected codec nals seen := by
  induction nals using List.reverseRecOn generalizing seen with
  | nil =>
      constructor
      · intro h
        obtain rfl := Except.ok.inj h
        exact .noSlice nofun rfl
      · intro h
        cases h with
        | noSlice _ _ => rfl
        | slices h _ =>
            obtain ⟨first, more, hvcl, _⟩ := h.slices
            exact absurd hvcl nofun
  | append_singleton nals nal ih =>
      rw [foldlM_snoc_ok]
      constructor
      · rintro ⟨before, hbefore, hnal⟩
        have hinspected := (ih before).mp hbefore
        cases hkind : nalType codec nal with
        | error error =>
            unfold inspectNal at hnal
            rw [hkind] at hnal
            exact absurd hnal nofun
        | ok kind =>
            cases hvcl : isVcl codec kind with
            | false =>
                rw [inspectNal_other hkind hvcl] at hnal
                obtain rfl := Except.ok.inj hnal
                exact hinspected.snoc_other ⟨kind, hkind⟩ ((vclType_eq_none hkind).mpr hvcl)
            | true =>
                have htype := vclType_eq_some.mpr ⟨hkind, hvcl⟩
                obtain ⟨hcontinues, rfl⟩ := (inspectNal_vcl htype).mp hnal
                exact hinspected.snoc_vcl htype hcontinues
      · intro h
        cases htype : vclType codec nal with
        | none =>
            have hheaders : ∀ other ∈ nals ++ [nal], ∃ kind, nalType codec other = .ok kind := by
              cases h with
              | noSlice headers _ => exact headers
              | slices h _ => exact h.headers
            obtain ⟨kind, hkind⟩ := hheaders nal (List.mem_append_right _ (List.mem_singleton_self nal))
            exact ⟨seen, (ih seen).mpr (h.of_snoc_other htype),
              inspectNal_other hkind ((vclType_eq_none hkind).mp htype) seen⟩
        | some kind =>
            obtain ⟨before, hbefore, hcontinues, hnext⟩ := h.of_snoc_vcl htype
            exact ⟨before, (ih before).mpr hbefore, (inspectNal_vcl htype).mpr ⟨hcontinues, hnext⟩⟩

theorem inspectPicture_iff (nals : List Bytes) (picture : PictureInfo) :
    inspectPicture codec nals = .ok picture ↔ OnePicture codec nals picture := by
  unfold inspectPicture
  rw [bind_ok]
  constructor
  · rintro ⟨seen, hseen, hpicture⟩
    cases (foldlM_inspectNal_iff nals seen).mp hseen with
    | noSlice _ _ => exact absurd hpicture nofun
    | slices h _ =>
        obtain rfl := Except.ok.inj hpicture
        exact h
  · intro h
    obtain ⟨kind, hkind⟩ := h.oneType
    exact ⟨_, (foldlM_inspectNal_iff nals _).mpr (.slices h hkind), rfl⟩

/-! ## Classification -/

/-- Both entry points accept the NAL units of one picture and nothing else. -/
structure ClassifiesPictures (codec : Codec) : Prop where
  inspect : ∀ nals picture, inspectPicture codec nals = .ok picture ↔
    OnePicture codec nals picture
  parse : ∀ format data unit, AccessUnit.parse codec format data = .ok unit ↔
    unit.codec = codec ∧ splitNals format data = .ok unit.nals ∧
      OnePicture codec unit.nals unit.picture

theorem classifiesPictures (codec : Codec) : ClassifiesPictures codec where
  inspect := inspectPicture_iff
  parse format data unit := by
    rw [AccessUnit.parse_ok, inspectPicture_iff]

/-- An IDR slice with and one without leading pictures: the same picture type, but two NAL
unit types. -/
def mixedIdrTypes : List Bytes := [[0x26, 1, 0x80], [0x28, 1, 0]]

/-- The second slice ends with its NAL unit header. -/
def headerOnlySlice : List Bytes := [[0x65, 0x80], [0x65]]

theorem mixedIdrTypes_rejected :
    SlicesAgree .hevc mixedIdrTypes ⟨.randomAccess .hevcIdr, false⟩ ∧
      inspectPicture .hevc mixedIdrTypes = .error (.unsupported "mixed VCL types") ∧
    SlicesAgree .avc headerOnlySlice ⟨.randomAccess .avcIdr, false⟩ ∧
      inspectPicture .avc headerOnlySlice = .error .truncated := by
  refine ⟨⟨?_, ⟨[0x26, 1, 0x80], [[0x28, 1, 0]], rfl, rfl, ?_⟩, ?_⟩, rfl,
    ⟨?_, ⟨[0x65, 0x80], [[0x65]], rfl, rfl, ?_⟩, ?_⟩, rfl⟩
  · simp only [mixedIdrTypes, List.forall_mem_cons]
    exact ⟨⟨19, rfl⟩, ⟨20, rfl⟩, nofun⟩
  · decide
  · decide
  · simp only [headerOnlySlice, List.forall_mem_cons]
    exact ⟨⟨5, rfl⟩, ⟨5, rfl⟩, nofun⟩
  · decide
  · decide

end PicooCamera.Bitstream
