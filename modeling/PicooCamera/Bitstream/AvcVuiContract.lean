import PicooCamera.Bitstream.AvcVuiRewrite

/-!
# What the BT.709 adapter promises

Over a crate that reads parameter sets by the syntax tables, the adapter keeps
its promise for every NAL.
-/

namespace PicooCamera.Bitstream

open PicooCamera.Library PicooCamera.Library.BitReader CodecConfiguration

/-- The crate accepts nothing but what the syntax tables read, and decodes it so. -/
structure H264Reader.Standard (R : H264Reader) : Prop where
  seqParameterSet : ∀ nal sps, R.seqParameterSet nal = some sps → spsOfNal nal = some sps
  decodeNal : ∀ nal rbsp, R.decodeNal nal = some rbsp → rbsp = unescape nal.tail

/-- The NAL is a header and an escaped RBSP. -/
structure EscapedNal (nal : Bytes) (rbsp : Bytes) : Prop where
  header : ∃ header, nal = header :: escape rbsp
  decoded : unescape nal.tail = rbsp
  noStartCode : ∀ front byte rest, nal.tail = front ++ 0 :: 0 :: byte :: rest → 3 ≤ byte

theorem escapedNal_encodeNal (header : UInt8) (rbsp : Bytes) :
    EscapedNal (encodeNal header rbsp) rbsp where
  header := ⟨header, rfl⟩
  decoded := unescape_escape rbsp
  noStartCode := fun _ _ _ h => escape_window h

/-- The adapter ends within its bits, and a NAL that it returns is the source with the colour
of BT.709. -/
structure Bt709Contract (R : H264Reader) (P : StandardParsers) (nal : Bytes) : Prop where
  inRange : ensureBt709Limited R P nal ≠ .error .outOfRange
  valid : ∀ sps out, R.seqParameterSet nal = some sps → ensureBt709Limited R P nal = .ok out →
    R.seqParameterSet out = some sps.withBt709
  color : ∀ sps out, R.seqParameterSet nal = some sps → ensureBt709Limited R P nal = .ok out →
    sps.withBt709.videoSignalType.map VideoSignalType.color = some bt709
  again : ∀ out, ensureBt709Limited R P nal = .ok out → ensureBt709Limited R P out = .ok out
  /-- The NAL is returned as it was, or it is encoded anew. -/
  escaped : ∀ out, ensureBt709Limited R P nal = .ok out →
    out = nal ∨ ∃ rbsp, EscapedNal out rbsp

/-! ## The rewritten NAL -/

theorem isTrailing_eq_true {rest : List Bool} (h : isTrailing rest = true) :
    ∃ zeros, rest = true :: zeros ∧ ∀ bit ∈ zeros, bit = false := by
  unfold isTrailing at h
  split at h
  next zeros =>
    refine ⟨zeros, rfl, fun bit hbit => ?_⟩
    have hall := List.all_eq_true.mp h bit hbit
    simpa using hall
  · cases h

theorem spsOfRbsp_eq_some {rbsp : Bytes} {sps : SeqParameterSet} (h : spsOfRbsp rbsp = some sps) :
    ∃ flagRest zeros, spsHeadSyntax (bitsOf rbsp) = some (sps.head, flagRest) ∧
      flagged vuiSyntax flagRest = some (sps.vuiParameters, true :: zeros) ∧
        ∀ bit ∈ zeros, bit = false := by
  obtain ⟨⟨sps', rest⟩, hread, hrest⟩ := Option.bind_eq_some_iff.mp h
  dsimp only at hrest
  split at hrest
  next htrailing =>
    cases hrest
    obtain ⟨zeros, rfl, hzeros⟩ := isTrailing_eq_true htrailing
    obtain ⟨head, flagRest, hhead, hflagged⟩ := bind_eq_some hread
    obtain ⟨vui, last, hvui, hpure⟩ := bind_eq_some hflagged
    cases hpure
    exact ⟨flagRest, zeros, hhead, hvui, hzeros⟩
  · cases hrest

theorem writes_rewriteVui {rbsp : Bytes} {sps : SeqParameterSet} {flagRest zeros : List Bool}
    {cursor : Nat} (hhead : spsHeadSyntax (bitsOf rbsp) = some (sps.head, flagRest))
    (hvui : flagged vuiSyntax flagRest = some (sps.vuiParameters, true :: zeros))
    (hzeros : ∀ bit ∈ zeros, bit = false) (hat : At (bitsOf rbsp) cursor flagRest) :
    ∃ present, Bits.readAt ⟨bitsOf rbsp, cursor⟩ cursor = .ok present ∧
      Writes (rewriteVui ⟨bitsOf rbsp, cursor⟩ cursor present) sps.withBt709 := by
  cases sps with
  | mk head vuiParameters =>
      rcases flagged_eq_some hvui with ⟨rfl, hnone⟩ | ⟨vui, vuiRest, rfl, hread, hsome⟩
      · refine ⟨false, hat.readAt, ?_⟩
        dsimp only at hnone
        rw [hnone]
        exact writes_insertMinimalVui hhead hat
      · refine ⟨true, hat.readAt, ?_⟩
        dsimp only at hsome
        rw [hsome]
        exact writes_rewriteExistingVui hhead hread hat hzeros

theorem rewriteSps_error {R : H264Reader} {header : UInt8} {payload rbsp : Bytes}
    {error : BitstreamError} (hdecode : R.decodeNal (header :: payload) = some rbsp)
    (hskip : skipSpsToVuiFlag (Bits.fromRbsp rbsp) = .error (.error error)) :
    rewriteSps R (header :: payload) = .error (.error error) := by
  unfold rewriteSps
  rw [hdecode]
  show (skipSpsToVuiFlag (Bits.fromRbsp rbsp) >>= _) = _
  rw [hskip]
  rfl

theorem rewriteSps_eq {R : H264Reader} {header : UInt8} {payload rbsp : Bytes} {cursor : Nat}
    {present : Bool} (hdecode : R.decodeNal (header :: payload) = some rbsp)
    (hskip : skipSpsToVuiFlag (Bits.fromRbsp rbsp) = .ok ((), ⟨bitsOf rbsp, cursor⟩))
    (hpresent : Bits.readAt ⟨bitsOf rbsp, cursor⟩ cursor = .ok present) :
    rewriteSps R (header :: payload) =
      rewriteVui ⟨bitsOf rbsp, cursor⟩ cursor present >>= fun rewritten =>
        .ok (encodeNal header rewritten) := by
  unfold rewriteSps
  rw [hdecode]
  show (skipSpsToVuiFlag (Bits.fromRbsp rbsp) >>= _) = _
  rw [hskip]
  show (Bits.readAt ⟨bitsOf rbsp, cursor⟩ cursor >>= _) = _
  rw [hpresent]
  rfl

theorem rewriteSps_spec {R : H264Reader} (hstandard : R.Standard) {nal : Bytes}
    {sps : SeqParameterSet} (hsps : R.seqParameterSet nal = some sps) :
    (∃ error, rewriteSps R nal = .error (.error error)) ∨
      ∃ header rbsp, rewriteSps R nal = .ok (encodeNal header rbsp) ∧
        spsOfRbsp rbsp = some sps.withBt709 := by
  have hnal := hstandard.seqParameterSet nal sps hsps
  unfold spsOfNal at hnal
  cases nal with
  | nil => exact Or.inl ⟨.truncated, rfl⟩
  | cons header payload =>
      cases hdecode : R.decodeNal (header :: payload) with
      | none =>
          refine Or.inl ⟨.malformed "invalid AVC SPS RBSP", ?_⟩
          unfold rewriteSps
          rw [hdecode]
          rfl
      | some rbsp =>
          rw [← hstandard.decodeNal _ _ hdecode] at hnal
          obtain ⟨flagRest, zeros, hhead, hvui, hzeros⟩ := spsOfRbsp_eq_some hnal
          rcases skipSpsToVuiFlag_at hhead with ⟨error, hskip⟩ | ⟨cursor, hskip, hat⟩
          · exact Or.inl ⟨error, rewriteSps_error hdecode hskip⟩
          obtain ⟨present, hpresent, hwrites⟩ := writes_rewriteVui hhead hvui hzeros hat
          rw [rewriteSps_eq hdecode hskip hpresent]
          rcases hwrites with ⟨error, herror⟩ | ⟨out, hout, hreads⟩
          · rw [herror]
            exact Or.inl ⟨error, rfl⟩
          · rw [hout]
            exact Or.inr ⟨header, Bits.finish out, rfl, hreads.spsOfRbsp⟩

/-! ## The contract -/

theorem parseAvcSps_ok {R : H264Reader} {P : StandardParsers} {nal : Bytes}
    {facts : VideoSpsFacts} (h : parseAvcSps (R.parsers P) nal = .ok facts) :
    ∃ sps, R.seqParameterSet nal = some sps ∧ R.factsOfSps sps = .ok facts := by
  unfold parseAvcSps at h
  split at h
  · cases h
  split at h
  · cases h
  have havc : R.avcSps nal = .ok facts := h
  unfold H264Reader.avcSps at havc
  cases hsps : R.seqParameterSet nal with
  | none =>
      rw [hsps] at havc
      cases havc
  | some sps =>
      rw [hsps] at havc
      exact ⟨sps, rfl, havc⟩

section Cases

variable {R : H264Reader} {P : StandardParsers} {nal : Bytes} {facts : VideoSpsFacts}

theorem ensureBt709Limited_of_facts (h : parseAvcSps (R.parsers P) nal = .ok facts) :
    ensureBt709Limited R P nal =
      if facts.color = some bt709 then .ok nal
      else if ∃ color ∈ facts.color, foreignColor color then
        .error (.error (.unsupported "source is not BT.709 limited or unspecified SDR"))
      else rewriteSps R nal >>= fun encoded =>
        liftError (parseAvcSps (R.parsers P) encoded) >>= fun admitted =>
          if admits facts admitted then .ok encoded
          else .error (.error (.malformed "rewritten SPS changed source geometry")) := by
  unfold ensureBt709Limited
  rw [h]
  rfl

theorem ensureBt709Limited_bt709 (h : parseAvcSps (R.parsers P) nal = .ok facts)
    (hcolor : facts.color = some bt709) : ensureBt709Limited R P nal = .ok nal := by
  rw [ensureBt709Limited_of_facts h, if_pos hcolor]

theorem unspecified_of_not_foreign {color : Option VideoColorFacts}
    (h : ¬ ∃ value ∈ color, foreignColor value) :
    color = none ∨ color = some unspecifiedColor := by
  cases color with
  | none => exact Or.inl rfl
  | some value =>
      refine Or.inr (congrArg some ?_)
      have hvalue : ¬ foreignColor value := fun hforeign => h ⟨value, rfl, hforeign⟩
      unfold foreignColor at hvalue
      rw [not_or, not_not, Bool.not_eq_true] at hvalue
      obtain ⟨hrange, hcicp⟩ := hvalue
      rw [Prod.mk.injEq, Prod.mk.injEq] at hcicp
      cases value with
      | mk fullRange primaries transfer matrix =>
          dsimp only at hrange hcicp
          rw [hrange, hcicp.1, hcicp.2.1, hcicp.2.2]
          rfl

/-- How the adapter ends, by the colour of the source. -/
inductive Ending (R : H264Reader) (P : StandardParsers) (nal : Bytes) : Prop
  | refused (error : BitstreamError) :
      ensureBt709Limited R P nal = .error (.error error) → Ending R P nal
  | kept (facts : VideoSpsFacts) : parseAvcSps (R.parsers P) nal = .ok facts →
      facts.color = some bt709 → ensureBt709Limited R P nal = .ok nal → Ending R P nal
  | faulty (facts : VideoSpsFacts) (fault : VuiFault) :
      parseAvcSps (R.parsers P) nal = .ok facts →
        (facts.color = none ∨ facts.color = some unspecifiedColor) →
          rewriteSps R nal = .error fault → ensureBt709Limited R P nal = .error fault →
            Ending R P nal
  | rewritten (facts admitted : VideoSpsFacts) (encoded : Bytes) :
      parseAvcSps (R.parsers P) nal = .ok facts →
        (facts.color = none ∨ facts.color = some unspecifiedColor) →
          rewriteSps R nal = .ok encoded →
            parseAvcSps (R.parsers P) encoded = .ok admitted → admitted.color = some bt709 →
              ensureBt709Limited R P nal = .ok encoded → Ending R P nal

theorem ending (R : H264Reader) (P : StandardParsers) (nal : Bytes) : Ending R P nal := by
  cases hfacts : parseAvcSps (R.parsers P) nal with
  | error error =>
      refine .refused error ?_
      unfold ensureBt709Limited
      rw [hfacts]
      rfl
  | ok facts =>
      by_cases hcolor : facts.color = some bt709
      · exact .kept facts hfacts hcolor (ensureBt709Limited_bt709 hfacts hcolor)
      have heq := ensureBt709Limited_of_facts hfacts
      rw [if_neg hcolor] at heq
      by_cases hforeign : ∃ color ∈ facts.color, foreignColor color
      · rw [if_pos hforeign] at heq
        exact .refused _ heq
      rw [if_neg hforeign] at heq
      have hopen := unspecified_of_not_foreign hforeign
      cases hrewrite : rewriteSps R nal with
      | error fault =>
          rw [hrewrite] at heq
          exact .faulty facts fault hfacts hopen hrewrite heq
      | ok encoded =>
          rw [hrewrite] at heq
          cases hadmitted : parseAvcSps (R.parsers P) encoded with
          | error error =>
              refine .refused error (heq.trans ?_)
              show (liftError (parseAvcSps (R.parsers P) encoded) >>= _) = _
              rw [hadmitted]
              rfl
          | ok admitted =>
              have hlast : ensureBt709Limited R P nal =
                  if admits facts admitted then .ok encoded
                  else .error (.error (.malformed "rewritten SPS changed source geometry")) := by
                refine heq.trans ?_
                show (liftError (parseAvcSps (R.parsers P) encoded) >>= _) = _
                rw [hadmitted]
                rfl
              by_cases hadmits : admits facts admitted
              · rw [if_pos hadmits] at hlast
                exact .rewritten facts admitted encoded hfacts hopen hrewrite hadmitted
                  hadmits.1 hlast
              · rw [if_neg hadmits] at hlast
                exact .refused _ hlast

end Cases

/-! ## The colour of the facts -/

theorem color_of_factsOfSps {R : H264Reader} {sps : SeqParameterSet} {facts : VideoSpsFacts}
    (h : R.factsOfSps sps = .ok facts) :
    facts.color = sps.videoSignalType.map VideoSignalType.color := by
  unfold H264Reader.factsOfSps at h
  split at h
  · cases h
  split at h
  · cases h
  obtain ⟨codedWidth, _, h⟩ := bind_ok.mp h
  obtain ⟨codedHeight, _, h⟩ := bind_ok.mp h
  obtain ⟨⟨left, right, top, bottom⟩, _, h⟩ := bind_ok.mp h
  dsimp only at h
  split at h
  · cases h
  obtain ⟨chromaLocation, _, h⟩ := bind_ok.mp h
  obtain ⟨visibleWidth, _, h⟩ := bind_ok.mp h
  obtain ⟨visibleHeight, _, h⟩ := bind_ok.mp h
  cases h
  rfl

theorem withBt709_of_color {sps : SeqParameterSet}
    (h : sps.videoSignalType.map VideoSignalType.color = some bt709) : sps.withBt709 = sps := by
  obtain ⟨signal, hsignal, hcolor⟩ := Option.map_eq_some_iff.mp h
  obtain ⟨vui, hvui, hvuiSignal⟩ := Option.bind_eq_some_iff.mp hsignal
  have hdescribed : signal.colourDescription = some bt709Description := by
    unfold VideoSignalType.color bt709 at hcolor
    rw [VideoColorFacts.mk.injEq] at hcolor
    obtain ⟨_, hprimaries, htransfer, hmatrix⟩ := hcolor
    cases hdescription : signal.colourDescription with
    | none =>
        rw [hdescription] at hprimaries
        cases hprimaries
    | some description =>
        rw [hdescription] at hprimaries htransfer hmatrix
        exact congrArg some (ColourDescription.ext hprimaries htransfer hmatrix)
  have hsame : bt709Signal (some signal) = signal := by
    unfold bt709Signal
    dsimp only
    rw [← hdescribed]
  have hkept : bt709Vui (some vui) = vui := by
    unfold bt709Vui
    dsimp only
    rw [hvuiSignal, hsame, ← hvuiSignal]
  unfold SeqParameterSet.withBt709
  rw [hvui, hkept, ← hvui]

theorem color_withBt709 {sps : SeqParameterSet}
    (h : sps.videoSignalType.map VideoSignalType.color = none ∨
      sps.videoSignalType.map VideoSignalType.color = some unspecifiedColor) :
    sps.withBt709.videoSignalType.map VideoSignalType.color = some bt709 := by
  have hsome : sps.withBt709.videoSignalType = some (bt709Signal sps.videoSignalType) := by
    unfold SeqParameterSet.withBt709 SeqParameterSet.videoSignalType
    cases sps.vuiParameters <;> rfl
  rw [hsome, Option.map_some]
  cases hsignal : sps.videoSignalType with
  | none => rfl
  | some signal =>
      rw [hsignal, Option.map_some] at h
      have hlimited : signal.videoFullRangeFlag = false := by
        rcases h with hnone | hunspecified
        · cases hnone
        · exact congrArg VideoColorFacts.fullRange (Option.some.inj hunspecified)
      unfold bt709Signal VideoSignalType.color
      dsimp only
      rw [hlimited]
      rfl

theorem spsOfNal_encodeNal (header : UInt8) (rbsp : Bytes) :
    spsOfNal (encodeNal header rbsp) = spsOfRbsp rbsp := by
  show spsOfRbsp (unescape (escape rbsp)) = spsOfRbsp rbsp
  rw [unescape_escape]

theorem Bt709Contract.of_refused {R : H264Reader} {P : StandardParsers} {nal : Bytes}
    {error : BitstreamError} (h : ensureBt709Limited R P nal = .error (.error error)) :
    Bt709Contract R P nal := by
  refine ⟨?_, ?_, ?_, ?_, ?_⟩ <;> rw [h]
  · exact fun hfault => nomatch hfault
  · exact fun _ _ _ hok => nomatch hok
  · exact fun _ _ _ hok => nomatch hok
  · exact fun _ hok => nomatch hok
  · exact fun _ hok => nomatch hok

theorem Bt709Contract.of_ok {R : H264Reader} {P : StandardParsers} {nal out : Bytes}
    {sps : SeqParameterSet} (h : ensureBt709Limited R P nal = .ok out)
    (hsource : R.seqParameterSet nal = some sps)
    (hvalid : R.seqParameterSet out = some sps.withBt709)
    (hcolor : sps.withBt709.videoSignalType.map VideoSignalType.color = some bt709)
    (hagain : ensureBt709Limited R P out = .ok out)
    (hescaped : out = nal ∨ ∃ rbsp, EscapedNal out rbsp) : Bt709Contract R P nal := by
  have hout : ∀ out', ensureBt709Limited R P nal = .ok out' → out' = out := by
    intro out' hok
    rw [h] at hok
    exact (Except.ok.inj hok).symm
  have hsps : ∀ sps', R.seqParameterSet nal = some sps' → sps' = sps := by
    intro sps' hsome
    rw [hsource] at hsome
    exact (Option.some.inj hsome).symm
  refine ⟨?_, ?_, ?_, ?_, ?_⟩
  · rw [h]
    exact fun hfault => nomatch hfault
  · intro sps' out' hsome hok
    rw [hsps sps' hsome, hout out' hok]
    exact hvalid
  · intro sps' out' hsome _
    rw [hsps sps' hsome]
    exact hcolor
  · intro out' hok
    rw [hout out' hok]
    exact hagain
  · intro out' hok
    rw [hout out' hok]
    exact hescaped

theorem ensureBt709Limited_contract {R : H264Reader} (hstandard : R.Standard)
    (P : StandardParsers) (nal : Bytes) : Bt709Contract R P nal := by
  cases ending R P nal with
  | refused error heq => exact .of_refused heq
  | kept facts hfacts hcolor heq =>
      obtain ⟨sps, hsps, hparsed⟩ := parseAvcSps_ok hfacts
      rw [color_of_factsOfSps hparsed] at hcolor
      have hsame := withBt709_of_color hcolor
      exact .of_ok heq hsps (hsame.symm ▸ hsps) (hsame.symm ▸ hcolor) heq (Or.inl rfl)
  | faulty facts fault hfacts hopen hrewrite heq =>
      obtain ⟨sps, hsps, _⟩ := parseAvcSps_ok hfacts
      rcases rewriteSps_spec hstandard hsps with ⟨error, herror⟩ | ⟨header, rbsp, hok, _⟩
      · rw [hrewrite] at herror
        rw [Except.error.inj herror] at heq
        exact .of_refused heq
      · rw [hrewrite] at hok
        cases hok
  | rewritten facts admitted encoded hfacts hopen hrewrite hadmitted hcolor heq =>
      obtain ⟨sps, hsps, hparsed⟩ := parseAvcSps_ok hfacts
      rcases rewriteSps_spec hstandard hsps with ⟨error, herror⟩ | ⟨header, rbsp, hok, hrbsp⟩
      · rw [hrewrite] at herror
        cases herror
      rw [hrewrite] at hok
      obtain rfl := Except.ok.inj hok
      -- The crate has read the rewritten NAL, so that it is what the tables read.
      obtain ⟨rewritten, hrewritten, _⟩ := parseAvcSps_ok hadmitted
      have htables := hstandard.seqParameterSet _ _ hrewritten
      rw [spsOfNal_encodeNal, hrbsp] at htables
      rw [← Option.some.inj htables] at hrewritten
      rw [color_of_factsOfSps hparsed] at hopen
      exact .of_ok heq hsps hrewritten (color_withBt709 hopen)
        (ensureBt709Limited_bt709 hadmitted hcolor)
        (Or.inr ⟨rbsp, escapedNal_encodeNal header rbsp⟩)

/-! ## A crate by the tables -/

/-- A crate that reads what the syntax tables read; it knows no aspect ratio. -/
def tableReader : H264Reader where
  seqParameterSet := spsOfNal
  decodeNal := fun nal => some (unescape nal.tail)
  aspectRatio := fun _ => none
  reservedAspect := fun _ => false

theorem tableReader_standard : tableReader.Standard where
  seqParameterSet := fun _ _ h => h
  decodeNal := fun _ _ h => (Option.some.inj h).symm

def noParsers : StandardParsers :=
  ⟨fun _ => .error .configuration, fun _ => .error .configuration, fun _ => .error .configuration⟩

/-- A parameter set of 16x16 luma samples in the High profile, without VUI, is encoded anew. -/
theorem ensureBt709Limited_contract_high :
    ensureBt709Limited tableReader noParsers [0x67, 0x64, 0x00, 0x1e, 0xac, 0xf7, 0x90] =
        .ok [0x67, 0x64, 0x00, 0x1e, 0xac, 0xf7, 0xa6, 0xa0, 0x20, 0x20, 0x20, 0x40] ∧
      Bt709Contract tableReader noParsers [0x67, 0x64, 0x00, 0x1e, 0xac, 0xf7, 0x90] :=
  ⟨by decide +kernel, ensureBt709Limited_contract tableReader_standard noParsers _⟩

/-- The same bytes in the Multiview High profile are no parameter set to the crate. -/
example : tableReader.seqParameterSet [0x67, 0x76, 0x00, 0x1e, 0xac, 0xf7, 0x90] = none := by
  decide

end PicooCamera.Bitstream
