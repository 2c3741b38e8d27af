import PicooCamera.Bitstream.Framing

/-!
# Guessing the framing of an AVC access unit

The helpers of `avc.rs` take bytes of either framing and decide by their shape
which one it is. A length prefix may read as a start code: then the access
unit is taken for Annex B.
-/

namespace PicooCamera.Bitstream

open PicooCamera.Library

variable {nals more : List Bytes} {nal data payload : Bytes}

/-! ## Annex B -/

/-- `find_start`: where the first start code begins and where its payload does. -/
def findStart : Bytes → Option (Nat × Nat)
  | [] => none
  | byte :: rest =>
      if [0, 0, 0, 1] <+: byte :: rest then some (0, 4)
      else if [0, 0, 1] <+: byte :: rest then some (0, 3)
      else (findStart rest).map fun (start, payload) => (start + 1, payload + 1)

theorem window?_zero {rest : Bytes} (h : window? [0, 0, 1] rest = some 0) : [0, 0, 1] <+: rest := by
  cases rest with
  | nil => exact absurd h nofun
  | cons byte rest =>
      by_contra hnot
      rw [window?_cons_of_not hnot] at h
      obtain ⟨_, -, hsucc⟩ := Option.map_eq_some_iff.mp h
      exact absurd hsucc nofun

theorem window?_of_start {rest : Bytes} (h : [0, 0, 1] <+: rest) :
    window? [0, 0, 1] rest = some 0 := by
  cases rest with
  | nil => exact absurd h (by decide)
  | cons byte rest => exact if_pos h

theorem findStart_eq_startCode (data : Bytes) : findStart data = startCode data := by
  induction data with
  | nil => rfl
  | cons byte rest ih =>
      by_cases hthree : [0, 0, 1] <+: byte :: rest
      · have hfour : ¬ [0, 0, 0, 1] <+: byte :: rest := by
          obtain ⟨after, hafter⟩ := hthree
          rw [← hafter]
          simp
        rw [findStart, if_neg hfour, if_pos hthree]
        unfold startCode
        rw [window?_of_start hthree]
        rfl
      · have hfour : [0, 0, 0, 1] <+: byte :: rest ↔ byte = 0 ∧ [0, 0, 1] <+: rest := by
          rw [List.cons_prefix_cons, eq_comm]
        have hstart : startCode (byte :: rest) = (window? [0, 0, 1] rest).map fun relative =>
            (if (byte :: rest)[relative]? = some 0 then relative else relative + 1, relative + 4) := by
          unfold startCode
          rw [window?_cons_of_not hthree]
          cases window? [0, 0, 1] rest <;> simp
        rw [findStart, if_neg hthree, ih, hstart]
        cases hwindow : window? [0, 0, 1] rest with
        | none =>
            have hnot : ¬ (byte = 0 ∧ [0, 0, 1] <+: rest) := by
              rintro ⟨-, hrest⟩
              rw [window?_of_start hrest] at hwindow
              exact absurd hwindow nofun
            rw [if_neg (hfour.not.mpr hnot)]
            unfold startCode
            rw [hwindow]
            rfl
        | some relative =>
            unfold startCode
            rw [hwindow]
            cases relative with
            | zero =>
                have hrest := window?_zero hwindow
                by_cases hbyte : byte = 0
                · rw [if_pos (hfour.mpr ⟨hbyte, hrest⟩), hbyte]
                  rfl
                · rw [if_neg (hfour.not.mpr fun h => hbyte h.1)]
                  simp [hbyte]
            | succ relative =>
                have hnot : ¬ (byte = 0 ∧ [0, 0, 1] <+: rest) := by
                  rintro ⟨-, hrest⟩
                  rw [window?_of_start hrest] at hwindow
                  exact absurd hwindow nofun
                rw [if_neg (hfour.not.mpr hnot)]
                by_cases hzero : rest[relative]? = some 0 <;> simp [hzero]

theorem findStart_next {start next : Nat} (h : findStart data = some (start, next)) :
    3 ≤ next ∧ next ≤ data.length :=
  startCode_next ((findStart_eq_startCode data).symm.trans h)

/-- Where the next start code begins, or the end of the bytes. -/
def nextStart (payload : Bytes) : Nat :=
  match findStart payload with
  | none => payload.length
  | some (start, _) => start

/-- Empty pieces between two start codes are left out. -/
def splitAnnexBNals (data : Bytes) : List Bytes :=
  match _hstart : findStart data with
  | none => []
  | some (_, payloadStart) =>
      let payload := data.drop payloadStart
      let next := nextStart payload
      let nals := splitAnnexBNals (payload.drop next)
      if 0 < next then payload.take next :: nals else nals
termination_by data.length
decreasing_by
  have hnext := findStart_next _hstart
  rw [List.length_drop, List.length_drop]
  omega

/-! ## Length prefixes -/

/-- The loop of `is_length_prefixed_access_unit`, after `nalCount` NAL units. -/
def lengthPrefixedFrom (nalCount : Nat) (data : Bytes) : Bool :=
  if data.length < 4 then decide (1 ≤ nalCount ∧ data = [])
  else
    let length := getBE (data.take 4)
    if length = 0 ∨ data.length < 4 + length then false
    else
      let nalType := (data.drop 4).headD 0 &&& 0x1f
      if nalType = 0 ∨ 12 < nalType then false
      else lengthPrefixedFrom (nalCount + 1) (data.drop (4 + length))
termination_by data.length
decreasing_by
  rw [List.length_drop]
  omega

def isLengthPrefixedAccessUnit (data : Bytes) : Bool :=
  if data.length < 5 then false
  else if [0, 0, 0, 1] <+: data ∨ [0, 0, 1] <+: data then false
  else lengthPrefixedFrom 0 data

/-- The loop of `length_prefixed_to_annex_b`. -/
def annexBFrom (data : Bytes) : Bytes :=
  if data.length < 4 then []
  else
    let length := getBE (data.take 4)
    [0, 0, 0, 1] ++ (data.drop 4).take length ++ annexBFrom (data.drop (4 + length))
termination_by data.length
decreasing_by
  rw [List.length_drop]
  omega

def lengthPrefixedToAnnexB (data : Bytes) : Option Bytes :=
  if isLengthPrefixedAccessUnit data = false then none else some (annexBFrom data)

def annexBToLengthPrefixed (data : Bytes) : Option Bytes :=
  let nals := splitAnnexBNals data
  if nals = [] then none else some (nals.flatMap fun nal => putBE 4 nal.length ++ nal)

def accessUnitToAnnexB (data : Bytes) : Bytes :=
  (lengthPrefixedToAnnexB data).getD data

def isIdr (nal : Bytes) : Bool := nal.head?.any fun byte => byte &&& 0x1f = 5

def accessUnitContainsIdr (data : Bytes) : Bool :=
  (splitAnnexBNals (accessUnitToAnnexB data)).any isIdr

/-! ## Framed NAL units -/

/-- NAL units that an access unit is framed from: types 1 to 12, cut off by start codes, and
short enough for a length prefix. -/
structure AvcUnits (nals : List Bytes) : Prop where
  some_nal : nals ≠ []
  nonempty : ∀ nal ∈ nals, nal ≠ []
  types : ∀ nal ∈ nals, 1 ≤ nal.headD 0 &&& 0x1f ∧ nal.headD 0 &&& 0x1f ≤ 12
  clean : ∀ nal ∈ nals, Clean nal
  lengths : ∀ nal ∈ nals, nal.length < 2 ^ 32

theorem splitAnnexBNals_none (h : findStart data = none) : splitAnnexBNals data = [] := by
  rw [splitAnnexBNals]
  split
  · rfl
  · rename_i hstart
    exact absurd (h.symm.trans hstart) nofun

theorem splitAnnexBNals_some {start payloadStart : Nat}
    (h : findStart data = some (start, payloadStart))
    (hnext : 0 < nextStart (data.drop payloadStart)) :
    splitAnnexBNals data =
      (data.drop payloadStart).take (nextStart (data.drop payloadStart)) ::
        splitAnnexBNals ((data.drop payloadStart).drop (nextStart (data.drop payloadStart))) := by
  rw [splitAnnexBNals]
  split
  · rename_i hstart
    exact absurd (h.symm.trans hstart) nofun
  · rename_i hstart
    obtain ⟨-, rfl⟩ := Prod.mk.inj (Option.some.inj (h.symm.trans hstart))
    exact if_pos hnext

theorem nextStart_framed (hclean : Clean nal) (more : List Bytes) :
    nextStart (nal ++ framed true more) = nal.length := by
  unfold nextStart
  rw [findStart_eq_startCode]
  cases more with
  | nil =>
      have hnone : startCode nal = none := by
        unfold startCode
        rw [window?_eq_none.mpr hclean.no_startCode]
        rfl
      rw [framed, List.flatMap_nil, List.append_nil, hnone]
  | cons second more => rw [framed_true_cons, startCode_framed hclean.no_startCode]

theorem splitAnnexBNals_framed (hnonempty : ∀ nal ∈ nals, nal ≠ [])
    (hclean : ∀ nal ∈ nals, Clean nal) : splitAnnexBNals (framed true nals) = nals := by
  induction nals with
  | nil => exact splitAnnexBNals_none rfl
  | cons nal more ih =>
      have hstart : findStart (framed true (nal :: more)) = some (0, 4) := by
        rw [findStart_eq_startCode, framed_true_cons]
        exact startCode_zero _
      have hpayload : (framed true (nal :: more)).drop 4 = nal ++ framed true more := by
        rw [framed_true_cons]
        rfl
      have hnext := nextStart_framed (hclean nal List.mem_cons_self) more
      have hpos : 0 < nal.length := List.length_pos_iff.mpr (hnonempty nal List.mem_cons_self)
      rw [splitAnnexBNals_some hstart (by rwa [hpayload, hnext]), hpayload, hnext, List.take_left,
        List.drop_left, ih (fun other hother => hnonempty other (List.mem_cons_of_mem _ hother))
          fun other hother => hclean other (List.mem_cons_of_mem _ hother)]

theorem framed_false_cons (nal : Bytes) (more : List Bytes) :
    framed false (nal :: more) = putBE 4 nal.length ++ (nal ++ framed false more) := by
  rw [framed_false, framed_false]
  exact prefixed_cons

/-- What the two loops over length prefixes see of the first NAL unit. -/
structure FirstPrefix (nal : Bytes) (more : List Bytes) : Prop where
  long : ¬ (framed false (nal :: more)).length < 4
  length : getBE ((framed false (nal :: more)).take 4) = nal.length
  fits : ¬ (framed false (nal :: more)).length < 4 + nal.length
  payload : (framed false (nal :: more)).drop 4 = nal ++ framed false more
  rest : (framed false (nal :: more)).drop (4 + nal.length) = framed false more

theorem firstPrefix (hlength : nal.length < 2 ^ 32) (more : List Bytes) :
    FirstPrefix nal more := by
  have hpayload : (framed false (nal :: more)).drop 4 = nal ++ framed false more := by
    rw [framed_false_cons, drop_putBE_append]
  have hall : (framed false (nal :: more)).length =
      4 + (nal.length + (framed false more).length) := by
    rw [framed_false_cons, List.length_append, length_putBE, List.length_append]
  refine ⟨by omega, ?_, by omega, hpayload, ?_⟩
  · rw [framed_false_cons, take_putBE_append]
    exact getBE_putBE (by omega)
  · rw [← List.drop_drop, hpayload, List.drop_left]

theorem lengthPrefixedFrom_framed (nalCount : Nat) (hnonempty : ∀ nal ∈ nals, nal ≠ [])
    (htypes : ∀ nal ∈ nals, 1 ≤ nal.headD 0 &&& 0x1f ∧ nal.headD 0 &&& 0x1f ≤ 12)
    (hlengths : ∀ nal ∈ nals, nal.length < 2 ^ 32) :
    lengthPrefixedFrom nalCount (framed false nals) = decide (1 ≤ nalCount + nals.length) := by
  induction nals generalizing nalCount with
  | nil =>
      have hempty : framed false [] = [] := rfl
      rw [hempty, lengthPrefixedFrom]
      simp
  | cons nal more ih =>
      have hfirst := firstPrefix (hlengths nal List.mem_cons_self) more
      have hpos : nal.length ≠ 0 := fun hzero =>
        hnonempty nal List.mem_cons_self (List.eq_nil_of_length_eq_zero hzero)
      have hhead : (nal ++ framed false more).headD 0 = nal.headD 0 := by
        cases nal with
        | nil => exact absurd rfl (hnonempty [] List.mem_cons_self)
        | cons byte rest => rfl
      obtain ⟨hone, htwelve⟩ := htypes nal List.mem_cons_self
      have htype : ¬ (nal.headD 0 &&& 0x1f = 0 ∨ 12 < nal.headD 0 &&& 0x1f) := by
        rintro (hzero | hlt)
        · rw [hzero] at hone
          exact absurd hone (by decide)
        · exact absurd htwelve (UInt8.not_le.mpr hlt)
      rw [lengthPrefixedFrom, if_neg hfirst.long]
      dsimp only
      rw [hfirst.length, if_neg (by have hfits := hfirst.fits; omega), hfirst.payload, hhead,
        if_neg htype, hfirst.rest,
        ih (nalCount + 1) (fun other hother => hnonempty other (List.mem_cons_of_mem _ hother))
          (fun other hother => htypes other (List.mem_cons_of_mem _ hother))
          fun other hother => hlengths other (List.mem_cons_of_mem _ hother),
        List.length_cons]
      exact decide_eq_decide.mpr (by omega)

theorem annexBFrom_framed (hlengths : ∀ nal ∈ nals, nal.length < 2 ^ 32) :
    annexBFrom (framed false nals) = framed true nals := by
  induction nals with
  | nil =>
      rw [annexBFrom]
      rfl
  | cons nal more ih =>
      have hfirst := firstPrefix (hlengths nal List.mem_cons_self) more
      rw [annexBFrom, if_neg hfirst.long]
      dsimp only
      rw [hfirst.length, hfirst.payload, List.take_left, hfirst.rest,
        ih fun other hother => hlengths other (List.mem_cons_of_mem _ hother), framed_true_cons]
      rfl

/-! ## Lengths that read as start codes -/

/-- The length of the first NAL unit, in four bytes, begins with a start code. -/
def ReadsAsStartCode (nals : List Bytes) : Prop :=
  (nals.headD []).length = 1 ∨
    256 ≤ (nals.headD []).length ∧ (nals.headD []).length < 512

instance (nals : List Bytes) : Decidable (ReadsAsStartCode nals) := by
  unfold ReadsAsStartCode
  infer_instance

theorem prefix_iff {length : Nat} (hlength : length < 2 ^ 32) (rest : Bytes) :
    ([0, 0, 0, 1] <+: putBE 4 length ++ rest ∨ [0, 0, 1] <+: putBE 4 length ++ rest) ↔
      length = 1 ∨ 256 ≤ length ∧ length < 512 := by
  have hbytes : putBE 4 length ++ rest = UInt8.ofNat (length / 256 ^ 3) ::
      UInt8.ofNat (length / 256 ^ 2) :: UInt8.ofNat (length / 256 ^ 1) ::
        UInt8.ofNat (length / 256 ^ 0) :: rest := rfl
  rw [hbytes]
  simp only [List.cons_prefix_cons, List.nil_prefix, and_true, ← UInt8.toNat_inj,
    UInt8.toNat_ofNat', UInt8.reduceToNat]
  omega

theorem isLengthPrefixed_framed (h : AvcUnits nals) :
    isLengthPrefixedAccessUnit (framed false nals) = true ↔ ¬ ReadsAsStartCode nals := by
  have hloop := lengthPrefixedFrom_framed 0 h.nonempty h.types h.lengths
  obtain ⟨nal, more, rfl⟩ := List.exists_cons_of_ne_nil h.some_nal
  have hpos : 0 < nal.length := List.length_pos_iff.mpr (h.nonempty nal List.mem_cons_self)
  have hlong : ¬ (framed false (nal :: more)).length < 5 := by
    rw [framed_false_cons, List.length_append, length_putBE, List.length_append]
    omega
  have hcode := prefix_iff (h.lengths nal List.mem_cons_self) (nal ++ framed false more)
  rw [← framed_false_cons] at hcode
  unfold isLengthPrefixedAccessUnit ReadsAsStartCode
  rw [if_neg hlong, List.headD_cons, ← hcode]
  by_cases hreads : [0, 0, 0, 1] <+: framed false (nal :: more) ∨
      [0, 0, 1] <+: framed false (nal :: more)
  · rw [if_pos hreads]
    exact iff_of_false nofun (not_not.mpr hreads)
  · rw [if_neg hreads, hloop]
    exact iff_of_true (by simp) hreads

theorem isLengthPrefixed_annexB (nal : Bytes) (more : List Bytes) :
    isLengthPrefixedAccessUnit (framed true (nal :: more)) = false := by
  have hcode : [0, 0, 0, 1] <+: framed true (nal :: more) := by
    rw [framed_true_cons]
    exact List.prefix_append [0, 0, 0, 1] _
  unfold isLengthPrefixedAccessUnit
  split
  · rfl
  · exact if_pos (Or.inl hcode)

/-! ## Detection -/

/-- The length-prefixed form is recognised, survives the change of framing and back, and shows
an IDR slice as the Annex B form does. -/
structure FormatDetected (nals : List Bytes) : Prop where
  recognised : isLengthPrefixedAccessUnit (framed false nals) = true
  roundTrip : (lengthPrefixedToAnnexB (framed false nals)).bind annexBToLengthPrefixed =
    some (framed false nals)
  idrLengthPrefixed : accessUnitContainsIdr (framed false nals) = nals.any isIdr
  idrAnnexB : accessUnitContainsIdr (framed true nals) = nals.any isIdr

theorem containsIdr_annexB (h : AvcUnits nals) :
    accessUnitContainsIdr (framed true nals) = nals.any isIdr := by
  obtain ⟨nal, more, hnals⟩ := List.exists_cons_of_ne_nil h.some_nal
  have hnone : lengthPrefixedToAnnexB (framed true nals) = none := by
    rw [hnals]
    exact if_pos (isLengthPrefixed_annexB nal more)
  unfold accessUnitContainsIdr accessUnitToAnnexB
  rw [hnone, Option.getD_none, splitAnnexBNals_framed h.nonempty h.clean]

/-- Detection is right unless the first length reads as a start code. -/
theorem formatDetected_iff (h : AvcUnits nals) :
    FormatDetected nals ↔ ¬ ReadsAsStartCode nals := by
  constructor
  · intro hdetected
    exact (isLengthPrefixed_framed h).mp hdetected.recognised
  · intro hreads
    have hrecognised := (isLengthPrefixed_framed h).mpr hreads
    have hconverted : lengthPrefixedToAnnexB (framed false nals) = some (framed true nals) := by
      unfold lengthPrefixedToAnnexB
      rw [hrecognised, if_neg (by simp), annexBFrom_framed h.lengths]
    refine ⟨hrecognised, ?_, ?_, containsIdr_annexB h⟩
    · rw [hconverted, Option.bind_some]
      unfold annexBToLengthPrefixed
      rw [splitAnnexBNals_framed h.nonempty h.clean]
      exact if_neg h.some_nal
    · unfold accessUnitContainsIdr accessUnitToAnnexB
      rw [hconverted, Option.getD_some, splitAnnexBNals_framed h.nonempty h.clean]

/-- An IDR slice of two bytes behind an access unit delimiter. -/
def delimitedIdr : List Bytes := [[9, 16], [0x65, 0x88]]

theorem avcUnits_delimitedIdr : AvcUnits delimitedIdr :=
  ⟨by decide, by decide, by decide, by decide, by decide⟩

theorem formatDetected_delimitedIdr : FormatDetected delimitedIdr :=
  (formatDetected_iff avcUnits_delimitedIdr).mpr (by decide)

/-- One slice of 300 bytes. -/
def shortSlice : List Bytes := [0x41 :: List.replicate 299 0x80]

theorem length_shortSlice (h : nal ∈ shortSlice) : nal.length = 300 := by
  rw [List.mem_singleton.mp h, List.length_cons, List.length_replicate]

/-- The prefix `00 00 01 2c` reads as a start code, and the rest as a NAL unit. -/
theorem shortSlice_notDetected : ¬ (AvcUnits shortSlice → FormatDetected shortSlice) := by
  have hzero : ∀ nal ∈ shortSlice, (0 : UInt8) ∉ nal := by
    intro nal hnal hmem
    rw [List.mem_singleton.mp hnal] at hmem
    rcases List.mem_cons.mp hmem with hhead | htail
    · exact absurd hhead (by decide)
    · exact absurd (List.eq_of_mem_replicate htail) (by decide)
  have hunits : AvcUnits shortSlice := by
    refine ⟨by decide, by decide, by decide, fun nal hnal => ⟨?_, ?_⟩, fun nal hnal => ?_⟩
    · intro hcode
      exact hzero nal hnal (hcode.subset List.mem_cons_self)
    · intro hlast
      exact hzero nal hnal (List.mem_of_getLast? hlast)
    · rw [length_shortSlice hnal]
      omega
  intro hclaim
  have hlength : (shortSlice.headD []).length = 300 :=
    length_shortSlice (List.mem_singleton_self _)
  exact (isLengthPrefixed_framed hunits).mp (hclaim hunits).recognised (Or.inr (by omega))

end PicooCamera.Bitstream
