import PicooCamera.Bitstream.AccessUnit

/-!
# The two framings of NAL units

Length prefixes give back every list of NAL units. Start codes give back those
that hold no start code and do not end in a zero byte, and nothing else comes
out of an Annex-B byte string.
-/

namespace PicooCamera.Bitstream

open PicooCamera.Library

variable {nals more out : List Bytes} {nal payload data : Bytes} {codec : Codec}
  {format : NalFormat} {size : NalLengthSize}

/-- What every split yields. -/
structure Admissible (nals : List Bytes) : Prop where
  nonempty : ∀ nal ∈ nals, nal ≠ []
  count : nals.length ≤ maxNalsPerAccessUnit

/-- A NAL unit that start codes delimit. -/
structure Clean (nal : Bytes) : Prop where
  no_startCode : ¬ [0, 0, 1] <:+: nal
  no_trailingZero : nal.getLast? ≠ some 0

instance decidableClean (nal : Bytes) : Decidable (Clean nal) :=
  decidable_of_iff (¬ [0, 0, 1] <:+: nal ∧ nal.getLast? ≠ some 0)
    ⟨fun h => ⟨h.1, h.2⟩, fun h => ⟨h.1, h.2⟩⟩

theorem pushNal_ok (h : pushNal nals nal = .ok out) :
    out = nals ++ [nal] ∧ nal ≠ [] ∧ nals.length ≠ maxNalsPerAccessUnit := by
  unfold pushNal at h
  split at h
  · exact absurd h nofun
  · rename_i hempty
    split at h
    · exact absurd h nofun
    · rename_i hfull
      exact ⟨(Except.ok.inj h).symm, hempty, hfull⟩

theorem pushNal_of_room (hne : nal ≠ []) (hroom : nals.length < maxNalsPerAccessUnit) :
    pushNal nals nal = .ok (nals ++ [nal]) := by
  rw [pushNal, if_neg hne, if_neg (Nat.ne_of_lt hroom)]

theorem Admissible.snoc (h : Admissible nals) (hne : nal ≠ [])
    (hroom : nals.length ≠ maxNalsPerAccessUnit) : Admissible (nals ++ [nal]) := by
  refine ⟨?_, ?_⟩
  · intro other hother
    rcases List.mem_append.mp hother with hother | hother
    · exact h.nonempty other hother
    · rw [List.mem_singleton.mp hother]
      exact hne
  · have hcount := h.count
    rw [List.length_append, List.length_singleton]
    omega

theorem admissible_nil : Admissible [] := ⟨nofun, Nat.zero_le _⟩

/-! ## Length prefixes -/

def prefixed (size : NalLengthSize) (nals : List Bytes) : Bytes :=
  nals.flatMap fun nal => putBE size.bytes nal.length ++ nal

theorem prefixed_cons : prefixed size (nal :: more) =
    putBE size.bytes nal.length ++ (nal ++ prefixed size more) := by
  rw [prefixed, List.flatMap_cons, List.append_assoc]
  rfl

theorem framed_false : framed false nals = prefixed .four nals := rfl

theorem splitLengthPrefixed_sound (hadmissible : Admissible nals)
    (h : splitLengthPrefixed size nals data = .ok out) :
    Admissible out ∧ ∃ more, out = nals ++ more ∧ data = prefixed size more := by
  induction nals, data using splitLengthPrefixed.induct size with
  | case1 nals =>
      rw [splitLengthPrefixed, if_pos rfl] at h
      obtain rfl := Except.ok.inj h
      exact ⟨hadmissible, [], (List.append_nil _).symm, rfl⟩
  | case2 nals data hempty htruncated =>
      rw [splitLengthPrefixed, if_neg hempty, if_pos htruncated] at h
      exact absurd h nofun
  | case3 nals data hempty htruncated length rest hshort =>
      rw [splitLengthPrefixed, if_neg hempty, if_neg htruncated] at h
      simp only [] at h
      rw [if_pos hshort] at h
      exact absurd h nofun
  | case4 nals data hempty htruncated length rest hshort error hpush =>
      rw [splitLengthPrefixed, if_neg hempty, if_neg htruncated] at h
      simp only [] at h
      rw [if_neg hshort, hpush] at h
      exact absurd h nofun
  | case5 nals data hempty htruncated length rest hshort pushed hpush ih =>
      rw [splitLengthPrefixed, if_neg hempty, if_neg htruncated] at h
      simp only [] at h
      rw [if_neg hshort, hpush] at h
      obtain ⟨hpushed, hne, hroom⟩ := pushNal_ok hpush
      rw [hpushed] at ih h
      obtain ⟨hout, more, hmore, hdata⟩ := ih (hadmissible.snoc hne hroom) h
      refine ⟨hout, rest.take length :: more, ?_, ?_⟩
      · rw [hmore, List.append_assoc, List.singleton_append]
      · have htake : (rest.take length).length = length :=
          List.length_take_of_le (Nat.not_lt.mp hshort)
        have hsize : (data.take size.bytes).length = size.bytes :=
          List.length_take_of_le (Nat.not_lt.mp htruncated)
        have hprefix : putBE size.bytes length = data.take size.bytes := by
          have hback := putBE_getBE (data.take size.bytes)
          rwa [hsize] at hback
        rw [prefixed_cons, htake, hprefix, ← hdata, List.take_append_drop,
          List.take_append_drop]

theorem splitLengthPrefixed_prefixed (hadmissible : Admissible (nals ++ more))
    (hfits : ∀ nal ∈ more, nal.length < 256 ^ size.bytes) :
    splitLengthPrefixed size nals (prefixed size more) = .ok (nals ++ more) := by
  induction more generalizing nals with
  | nil =>
      rw [splitLengthPrefixed, List.append_nil]
      exact if_pos rfl
  | cons nal more ih =>
      have hsplit : nals ++ nal :: more = (nals ++ [nal]) ++ more := by simp
      have hne : nal ≠ [] := hadmissible.nonempty nal (by simp)
      have hroom : nals.length < maxNalsPerAccessUnit := by
        have hcount := hadmissible.count
        rw [List.length_append, List.length_cons] at hcount
        omega
      have hlength := hfits nal List.mem_cons_self
      have hpos := size.bytes_pos
      have hlong : size.bytes + nal.length ≤ (prefixed size (nal :: more)).length := by
        rw [prefixed_cons]
        simp only [List.length_append, length_putBE]
        omega
      have hdata : prefixed size (nal :: more) ≠ [] := by
        intro hnil
        rw [hnil, List.length_nil] at hlong
        omega
      have hvalue : getBE ((prefixed size (nal :: more)).take size.bytes) = nal.length := by
        rw [prefixed_cons, take_putBE_append, getBE_putBE hlength]
      have hrest : (prefixed size (nal :: more)).drop size.bytes = nal ++ prefixed size more := by
        rw [prefixed_cons, drop_putBE_append]
      rw [splitLengthPrefixed, if_neg hdata, if_neg (by omega)]
      simp only [hvalue, hrest]
      rw [if_neg (by simp), List.take_left, List.drop_left, pushNal_of_room hne hroom, hsplit]
      exact ih (hsplit ▸ hadmissible) fun other hother => hfits other (List.mem_cons_of_mem _ hother)

/-! ## Start codes -/

theorem stripTrailingZeros_isPrefix (nal : Bytes) : stripTrailingZeros nal <+: nal :=
  List.rdropWhile_prefix _ nal

theorem stripTrailingZeros_last (nal : Bytes) :
    (stripTrailingZeros nal).getLast? ≠ some 0 := by
  intro hlast
  have hne : stripTrailingZeros nal ≠ [] := by
    intro hnil
    rw [hnil] at hlast
    exact absurd hlast nofun
  have hnot := List.rdropWhile_last_not (fun byte : UInt8 => decide (byte = 0)) nal hne
  rw [List.getLast?_eq_some_getLast hne] at hlast
  exact hnot (decide_eq_true (Option.some.inj hlast))

theorem stripTrailingZeros_of_clean (h : Clean nal) : stripTrailingZeros nal = nal := by
  refine List.rdropWhile_eq_self_iff.mpr fun hne hzero => h.no_trailingZero ?_
  rw [List.getLast?_eq_some_getLast hne, of_decide_eq_true hzero]

theorem clean_stripTrailingZeros (h : ¬ [0, 0, 1] <:+: nal) : Clean (stripTrailingZeros nal) :=
  ⟨fun hin => h (hin.trans (stripTrailingZeros_isPrefix nal).isInfix), stripTrailingZeros_last nal⟩

theorem startCode_none (h : startCode payload = none) : ¬ [0, 0, 1] <:+: payload := by
  refine window?_eq_none.mp ?_
  unfold startCode at h
  cases hwindow : window? [0, 0, 1] payload with
  | none => rfl
  | some relative =>
      rw [hwindow] at h
      exact absurd h nofun

theorem startCode_before {start next : Nat} (h : startCode payload = some (start, next)) :
    ¬ [0, 0, 1] <:+: payload.take start := by
  obtain ⟨relative, hrelative, heq⟩ := Option.bind_eq_some_iff.mp h
  have hstart : start ≤ relative := by
    have heq' := congrArg Prod.fst (Option.some.inj heq)
    dsimp only at heq'
    split at heq' <;> omega
  refine not_infix_of_window? hrelative (List.take_prefix start payload) ?_
  have hlength := List.length_take_le start payload
  rw [List.length_cons, List.length_cons, List.length_singleton]
  omega

theorem splitAnnexB_last (h : startCode payload = none) :
    splitAnnexB nals payload = pushNal nals (stripTrailingZeros payload) := by
  fun_cases splitAnnexB nals payload with
  | case1 hnext => rfl
  | case2 start next hnext nals hpush => exact absurd (h.symm.trans hnext) nofun
  | case3 start next hnext error hpush => exact absurd (h.symm.trans hnext) nofun

theorem splitAnnexB_next {start next : Nat} (h : startCode payload = some (start, next)) :
    splitAnnexB nals payload =
      (pushNal nals (stripTrailingZeros (payload.take start))).bind fun nals =>
        splitAnnexB nals (payload.drop next) := by
  fun_cases splitAnnexB nals payload with
  | case1 hnext => exact absurd (h.symm.trans hnext) nofun
  | case2 start' next' hnext nals hpush =>
      rw [h, Option.some_inj, Prod.mk.injEq] at hnext
      obtain ⟨rfl, rfl⟩ := hnext
      rw [hpush]
      rfl
  | case3 start' next' hnext error hpush =>
      rw [h, Option.some_inj, Prod.mk.injEq] at hnext
      obtain ⟨rfl, rfl⟩ := hnext
      rw [hpush]
      rfl

theorem mem_pushed (hclean : ∀ nal ∈ nals, Clean nal) (hnal : Clean nal) :
    ∀ other ∈ nals ++ [nal], Clean other := by
  intro other hother
  rcases List.mem_append.mp hother with hother | hother
  · exact hclean other hother
  · rw [List.mem_singleton.mp hother]
    exact hnal

theorem splitAnnexB_sound (hadmissible : Admissible nals) (hclean : ∀ nal ∈ nals, Clean nal)
    (h : splitAnnexB nals payload = .ok out) :
    Admissible out ∧ ∀ nal ∈ out, Clean nal := by
  induction hlength : payload.length using Nat.strong_induction_on generalizing nals payload with
  | _ length ih =>
    cases hnext : startCode payload with
    | none =>
        rw [splitAnnexB_last hnext] at h
        obtain ⟨rfl, hne, hroom⟩ := pushNal_ok h
        exact ⟨hadmissible.snoc hne hroom,
          mem_pushed hclean (clean_stripTrailingZeros (startCode_none hnext))⟩
    | some code =>
        obtain ⟨start, next⟩ := code
        rw [splitAnnexB_next hnext] at h
        cases hpush : pushNal nals (stripTrailingZeros (payload.take start)) with
        | error error =>
            rw [hpush] at h
            exact absurd h nofun
        | ok pushed =>
            rw [hpush] at h
            obtain ⟨rfl, hne, hroom⟩ := pushNal_ok hpush
            have hle := startCode_next hnext
            have hshorter : (payload.drop next).length < length := by
              rw [List.length_drop]
              omega
            exact ih _ hshorter (hadmissible.snoc hne hroom)
              (mem_pushed hclean (clean_stripTrailingZeros (startCode_before hnext))) h rfl

theorem window?_startCode (h : ¬ [0, 0, 1] <:+: nal) (rest : Bytes) :
    window? [0, 0, 1] (nal ++ 0 :: 0 :: 0 :: 1 :: rest) = some (nal.length + 1) := by
  induction nal with
  | nil => simp [window?]
  | cons x xs ih =>
      have hnot : ¬ [0, 0, 1] <+: x :: (xs ++ 0 :: 0 :: 0 :: 1 :: rest) := by
        intro hprefix
        cases xs with
        | nil => simp at hprefix
        | cons y ys =>
            cases ys with
            | nil => simp at hprefix
            | cons z zs =>
                refine h (List.IsPrefix.isInfix ?_)
                simp only [List.cons_append, List.cons_prefix_cons, List.nil_prefix, and_true]
                  at hprefix ⊢
                exact hprefix
      have htail : ¬ [0, 0, 1] <:+: xs := fun hin =>
        h (hin.trans (List.suffix_cons x xs).isInfix)
      rw [List.cons_append, window?_cons_of_not hnot, ih htail]
      rfl

theorem startCode_framed (h : ¬ [0, 0, 1] <:+: nal) (rest : Bytes) :
    startCode (nal ++ 0 :: 0 :: 0 :: 1 :: rest) = some (nal.length, nal.length + 4) := by
  unfold startCode
  rw [window?_startCode h]
  simp

theorem framed_true_cons : framed true (nal :: more) =
    0 :: 0 :: 0 :: 1 :: (nal ++ framed true more) := by
  have hcode : putBE 4 1 = [0, 0, 0, 1] := by decide
  rw [framed, List.flatMap_cons, if_pos rfl, hcode, List.append_assoc]
  rfl

theorem splitAnnexB_framed (hadmissible : Admissible (nals ++ nal :: more))
    (hclean : ∀ other ∈ nal :: more, Clean other) :
    splitAnnexB nals (nal ++ framed true more) = .ok (nals ++ nal :: more) := by
  induction more generalizing nals nal with
  | nil =>
      have hnal := hclean nal List.mem_cons_self
      have hnone : startCode (nal ++ framed true []) = none := by
        unfold startCode
        rw [framed, List.flatMap_nil, List.append_nil,
          window?_eq_none.mpr hnal.no_startCode]
        rfl
      have hroom : nals.length < maxNalsPerAccessUnit := by
        have hcount := hadmissible.count
        rw [List.length_append, List.length_singleton] at hcount
        omega
      rw [splitAnnexB_last hnone, framed, List.flatMap_nil, List.append_nil,
        stripTrailingZeros_of_clean hnal]
      exact pushNal_of_room (hadmissible.nonempty nal (by simp)) hroom
  | cons second more ih =>
      have hnal := hclean nal List.mem_cons_self
      have hsplit : nals ++ nal :: second :: more = (nals ++ [nal]) ++ second :: more := by simp
      have hroom : nals.length < maxNalsPerAccessUnit := by
        have hcount := hadmissible.count
        rw [List.length_append, List.length_cons, List.length_cons] at hcount
        omega
      have hdrop : (nal ++ 0 :: 0 :: 0 :: 1 :: (second ++ framed true more)).drop
          (nal.length + 4) = second ++ framed true more := by
        rw [List.drop_append, List.drop_eq_nil_of_le (Nat.le_add_right _ _),
          Nat.add_sub_cancel_left]
        rfl
      rw [framed_true_cons, splitAnnexB_next (startCode_framed hnal.no_startCode _),
        List.take_left, stripTrailingZeros_of_clean hnal,
        pushNal_of_room (hadmissible.nonempty nal (by simp)) hroom, hdrop, hsplit]
      exact ih (hsplit ▸ hadmissible) fun other hother => hclean other (List.mem_cons_of_mem _ hother)

/-! ## Byte strings that are split -/

theorem splitNals_admissible (h : splitNals format data = .ok nals) : Admissible nals := by
  unfold splitNals at h
  split at h
  · exact absurd h nofun
  · split at h
    · exact absurd h nofun
    · split at h
      · exact (splitLengthPrefixed_sound admissible_nil h).1
      · split at h
        · exact absurd h nofun
        · split at h
          · exact absurd h nofun
          · exact (splitAnnexB_sound admissible_nil nofun h).1

theorem splitNals_annexB_clean (h : splitNals .annexB data = .ok nals) :
    ∀ nal ∈ nals, Clean nal := by
  unfold splitNals at h
  split at h
  · exact absurd h nofun
  · split at h
    · exact absurd h nofun
    · dsimp only at h
      split at h
      · exact absurd h nofun
      · split at h
        · exact absurd h nofun
        · exact (splitAnnexB_sound admissible_nil nofun h).2

theorem splitNals_prefixed_sound (h : splitNals (.lengthPrefixed size) data = .ok nals) :
    data = prefixed size nals ∧ data.length ≤ maxAccessUnitBytes := by
  unfold splitNals at h
  split at h
  · exact absurd h nofun
  · split at h
    · exact absurd h nofun
    · rename_i hlimit
      obtain ⟨_, more, rfl, hdata⟩ := splitLengthPrefixed_sound admissible_nil h
      exact ⟨hdata, Nat.not_lt.mp hlimit⟩

theorem length_framed (annexB : Bool) (nals : List Bytes) :
    (framed annexB nals).length = framedLength nals := by
  unfold framed framedLength
  rw [List.length_flatMap]
  congr 1
  refine List.map_congr_left fun nal _ => ?_
  rw [List.length_append, length_putBE]

theorem length_le_framedLength (h : nal ∈ nals) : nal.length + 4 ≤ framedLength nals := by
  have hle := List.le_sum_of_mem (List.mem_map_of_mem (f := fun nal => 4 + nal.length) h)
  unfold framedLength
  omega

theorem framed_ne_nil {annexB : Bool} (hne : nals ≠ []) : framed annexB nals ≠ [] := by
  intro hnil
  obtain ⟨nal, hnal⟩ := List.exists_mem_of_ne_nil nals hne
  have hle := length_le_framedLength hnal
  rw [← length_framed annexB, hnil, List.length_nil] at hle
  omega

theorem splitNals_framed_false (hadmissible : Admissible nals) (hne : nals ≠ [])
    (hfits : framedLength nals ≤ maxAccessUnitBytes) :
    splitNals (.lengthPrefixed .four) (framed false nals) = .ok nals := by
  have hshort : ∀ nal ∈ nals, nal.length < 256 ^ NalLengthSize.four.bytes := by
    intro nal hnal
    have hle := length_le_framedLength hnal
    have hbound : maxAccessUnitBytes < 256 ^ NalLengthSize.four.bytes := by decide
    omega
  unfold splitNals
  rw [if_neg (framed_ne_nil hne), length_framed, if_neg (Nat.not_lt.mpr hfits)]
  exact @splitLengthPrefixed_prefixed [] nals .four hadmissible hshort

theorem startCode_zero (rest : Bytes) : startCode (0 :: 0 :: 0 :: 1 :: rest) = some (0, 4) :=
  @startCode_framed [] (by decide) rest

theorem splitNals_framed_true (hadmissible : Admissible nals) (hne : nals ≠ [])
    (hfits : framedLength nals ≤ maxAccessUnitBytes) (hclean : ∀ nal ∈ nals, Clean nal) :
    splitNals .annexB (framed true nals) = .ok nals := by
  unfold splitNals
  rw [if_neg (framed_ne_nil hne), length_framed, if_neg (Nat.not_lt.mpr hfits)]
  cases nals with
  | nil => exact absurd rfl hne
  | cons nal more =>
      rw [framed_true_cons, startCode_zero]
      exact @splitAnnexB_framed [] more nal hadmissible hclean

end PicooCamera.Bitstream
