import PicooCamera.Bitstream.AvcVui

/-!
# The position of the VUI

The adapter's own reading of a parameter set follows the syntax tables up to
`vui_parameters_present_flag`.
-/

namespace PicooCamera.Bitstream

open PicooCamera.Library PicooCamera.Library.BitReader

/-! ## Positions -/

/-- What is left of the bits at a cursor. -/
structure At (bits : List Bool) (cursor : Nat) (rest : List Bool) : Prop where
  drop : bits.drop cursor = rest
  le : cursor ≤ bits.length

namespace At

variable {bits : List Bool} {cursor pos : Nat} {rest : List Bool}

theorem take_append (h : At bits cursor rest) : bits.take cursor ++ rest = bits := by
  rw [← h.drop, List.take_append_drop]

theorem length (h : At bits cursor rest) : cursor + rest.length = bits.length := by
  rw [← h.drop, List.length_drop]
  have hle := h.le
  omega

theorem of_front {front : List Bool} (h : At bits cursor (front ++ rest)) :
    At bits (cursor + front.length) rest := by
  have hlength := h.length
  rw [List.length_append] at hlength
  refine ⟨?_, by omega⟩
  rw [← List.drop_drop, h.drop, List.drop_left]

theorem of_cons {bit : Bool} (h : At bits cursor (bit :: rest)) : At bits (cursor + 1) rest :=
  @of_front bits cursor rest [bit] h

theorem readAt {bit : Bool} (h : At bits cursor (bit :: rest)) : (Bits.mk bits pos).readAt cursor = .ok bit := by
  have hget : bits[cursor]? = some bit := by
    have hzero : (bits.drop cursor)[0]? = some bit := by rw [h.drop, List.getElem?_cons_zero]
    rwa [List.getElem?_drop, Nat.add_zero] at hzero
  unfold Bits.readAt
  rw [hget]

theorem take_front {front : List Bool} (h : At bits cursor (front ++ rest)) :
    bits.take (cursor + front.length) = bits.take cursor ++ front := by
  rw [List.take_add, h.drop, List.take_left]

theorem slice_front {front : List Bool} (h : At bits cursor (front ++ rest)) :
    (Bits.mk bits pos).slice cursor (cursor + front.length) = .ok front := by
  have hle := h.of_front.le
  unfold Bits.slice
  rw [if_pos ⟨Nat.le_add_right _ _, hle⟩, h.take_front, List.drop_left' (by
    rw [List.length_take]
    have := h.le
    omega)]

theorem prefixTo (h : At bits cursor rest) :
    (Bits.mk bits pos).prefixTo cursor = .ok (bits.take cursor) := by
  unfold Bits.prefixTo Bits.slice
  rw [if_pos ⟨Nat.zero_le _, h.le⟩, List.drop_zero]

theorem readNFrom {value width result : Nat} (h : At bits cursor rest) {after : List Bool}
    (hread : numberFrom value width rest = some (result, after)) :
    (Bits.mk bits pos).readNFrom cursor value width = .ok result ∧ At bits (cursor + width) after := by
  induction width generalizing cursor value rest with
  | zero =>
      cases hread
      exact ⟨rfl, h⟩
  | succ width ih =>
      obtain ⟨bit, middle, hbit, hnext⟩ := bind_eq_some hread
      cases rest with
      | nil => cases hbit
      | cons head tail =>
          cases hbit
          obtain ⟨hresult, hafter⟩ := ih h.of_cons hnext
          refine ⟨?_, ?_⟩
          · unfold Bits.readNFrom
            rw [h.readAt]
            exact hresult
          · rwa [Nat.add_assoc, Nat.add_comm 1] at hafter

theorem readN {width result : Nat} (h : At bits cursor rest) {after : List Bool}
    (hread : number width rest = some (result, after)) :
    (Bits.mk bits pos).readN cursor width = .ok result ∧ At bits (cursor + width) after :=
  h.readNFrom hread

end At

/-! ## Reading as the tables do -/

theorem bitsM_bind_ok {β δ : Type} {code : BitsM β} {s t : Bits} {b : β}
    (h : code s = .ok (b, t)) (k : β → BitsM δ) : (code >>= k) s = k b t := by
  show (code s >>= fun result => k result.1 result.2) = _
  rw [h]
  rfl

theorem bitsM_bind_error {β δ : Type} {code : BitsM β} {s : Bits} {fault : VuiFault}
    (h : code s = .error fault) (k : β → BitsM δ) : (code >>= k) s = .error fault := by
  show (code s >>= fun result => k result.1 result.2) = _
  rw [h]
  rfl

/-- Where a table reads a value, the code ends with an error or behind the same bits. -/
def Follows {α β : Type} (code : BitsM β) (table : BitReader α) (R : α → β → Prop) : Prop :=
  ∀ (s : Bits) (a : α) (after : List Bool), s.pos ≤ s.bits.length →
    table (s.bits.drop s.pos) = some (a, after) →
      (∃ error, code s = .error (.error error)) ∨
        ∃ b stop, code s = .ok (b, ⟨s.bits, stop⟩) ∧ R a b ∧ At s.bits stop after

namespace Follows

variable {α β γ δ : Type} {R : α → β → Prop} {R' : γ → δ → Prop}

theorem pure {a : α} {b : β} (h : R a b) : Follows (pure b) (pure a) R := by
  intro s a' after hle hread
  cases hread
  exact Or.inr ⟨b, s.pos, rfl, h, rfl, hle⟩

theorem fail (error : BitstreamError) (table : BitReader α) : Follows (Bits.fail error) table R := by
  intro s a after _ _
  exact Or.inl ⟨error, rfl⟩

theorem fail_bind (error : BitstreamError) (k : δ → BitsM β) (table : BitReader α) :
    Follows (Bits.fail error >>= k) table R := by
  intro s a after _ _
  exact Or.inl ⟨error, rfl⟩

theorem bind {code : BitsM β} {table : BitReader α} {k : β → BitsM δ} {f : α → BitReader γ}
    (hcode : Follows code table R) (hk : ∀ a b, R a b → Follows (k b) (f a) R') :
    Follows (code >>= k) (table >>= f) R' := by
  intro s c after hle hread
  obtain ⟨a, middle, hfirst, hsecond⟩ := bind_eq_some hread
  rcases hcode s a middle hle hfirst with ⟨error, herror⟩ | ⟨b, stop, hok, hab, hat⟩
  · exact Or.inl ⟨error, bitsM_bind_error herror k⟩
  · rw [bitsM_bind_ok hok k]
    exact hk a b hab ⟨s.bits, stop⟩ c after hat.le (hat.drop ▸ hsecond)

theorem mono {code : BitsM β} {table : BitReader α} (h : Follows code table R)
    {S : α → β → Prop} (hS : ∀ a b, R a b → S a b) : Follows code table S := by
  intro s a after hle hread
  rcases h s a after hle hread with herror | ⟨b, stop, hok, hab, hat⟩
  · exact Or.inl herror
  · exact Or.inr ⟨b, stop, hok, hS a b hab, hat⟩

end Follows

theorem follows_readBit : Follows Bits.readBit bit Eq := by
  intro s a after hle hread
  have hat : At s.bits s.pos (a :: after) := by
    refine ⟨?_, hle⟩
    cases hdrop : s.bits.drop s.pos with
    | nil =>
        rw [hdrop] at hread
        cases hread
    | cons head tail =>
        rw [hdrop] at hread
        cases hread
        rfl
  refine Or.inr ⟨a, s.pos + 1, ?_, rfl, hat.of_cons⟩
  unfold Bits.readBit
  rw [hat.readAt]
  rfl

theorem follows_read (width : Nat) : Follows (Bits.read width) (number width) Eq := by
  intro s a after hle hread
  obtain ⟨hresult, hat⟩ := (At.mk rfl hle).readN hread
  refine Or.inr ⟨a, s.pos + width, ?_, rfl, hat⟩
  unfold Bits.read
  rw [hresult]
  rfl

theorem follows_skip (width : Nat) :
    Follows (Bits.skip width) (number width) fun _ _ => True := by
  have hread := (follows_read width).bind (k := fun _ => pure ()) (f := pure)
    (fun _ _ _ => Follows.pure (R := fun (_ : Nat) (_ : Unit) => True) trivial)
  rwa [bind_pure] at hread

theorem follows_readUeFrom (leading budget : Nat) :
    Follows (Bits.readUeFrom leading budget) (expGolombFrom leading budget) Eq := by
  induction budget generalizing leading with
  | zero =>
      refine follows_readBit.bind fun first _ hfirst => ?_
      subst hfirst
      cases first with
      | false => exact Follows.fail _ _
      | true =>
          refine (follows_read leading).bind fun tail _ htail => ?_
          subst htail
          exact Follows.pure rfl
  | succ budget ih =>
      refine follows_readBit.bind fun first _ hfirst => ?_
      subst hfirst
      cases first with
      | false => exact ih (leading + 1)
      | true =>
          refine (follows_read leading).bind fun tail _ htail => ?_
          subst htail
          exact Follows.pure rfl

theorem follows_readUe : Follows Bits.readUe expGolomb Eq := follows_readUeFrom 0 31

theorem follows_readSe : Follows Bits.readSe signedExpGolomb Eq := by
  refine follows_readUe.bind fun code _ hcode => ?_
  subst hcode
  exact Follows.pure rfl

/-! ## The syntax elements in front of the VUI -/

theorem adapterChromaProfiles_eq : adapterChromaProfiles = chromaProfiles := rfl

/-- A value of the table that the code reads over. -/
abbrev Skips {α β : Type} (code : BitsM β) (table : BitReader α) : Prop :=
  Follows code table fun _ _ => True

theorem Follows.skips_map {α β γ : Type} {R : α → β → Prop} {code : BitsM β}
    {table : BitReader α} (h : Follows code table R) (f : α → γ) :
    Skips code (table >>= fun a => Pure.pure (f a)) := by
  have hbind := h.bind (k := Pure.pure) (f := fun a => Pure.pure (f a))
    (fun _ _ _ => Follows.pure (R := fun (_ : γ) (_ : β) => True) trivial)
  rwa [bind_pure] at hbind

theorem skips_readUe : Skips Bits.readUe expGolomb := follows_readUe.mono fun _ _ _ => trivial

theorem skips_readSe : Skips Bits.readSe signedExpGolomb :=
  follows_readSe.mono fun _ _ _ => trivial

theorem skips_flag : Skips (Bits.skip 1) bit := by
  have hnumber : bit = (number 1 >>= fun value => pure (value == 1)) := by
    funext bits
    cases bits with
    | nil => rfl
    | cons first rest => cases first <;> rfl
  rw [hnumber]
  exact (follows_skip 1).skips_map (· == 1)

theorem skips_chromaInfo : Skips skipChromaInfo chromaInfoSyntax := by
  unfold skipChromaInfo chromaInfoSyntax
  refine follows_readUe.bind fun format _ hformat => ?_
  subst hformat
  by_cases hformat : format = 1
  · rw [if_neg (not_not_intro hformat), hformat, optional_of_not (by decide), pure_bind]
    refine skips_readUe.bind fun _ _ _ => ?_
    refine skips_readUe.bind fun _ _ _ => ?_
    refine skips_flag.bind fun _ _ _ => ?_
    unfold flagged
    rw [bind_assoc]
    refine follows_readBit.bind fun scaling _ hscaling => ?_
    subst hscaling
    cases scaling with
    | false =>
        rw [if_neg Bool.false_ne_true, if_neg Bool.false_ne_true, pure_bind]
        exact Follows.pure trivial
    | true => exact Follows.fail _ _
  · rw [if_pos hformat]
    exact Follows.fail _ _

theorem skips_profileChroma (profile : Nat) :
    Skips (skipProfileChroma profile)
      (BitReader.optional (profile ∈ chromaProfiles) chromaInfoSyntax) := by
  unfold skipProfileChroma
  rw [adapterChromaProfiles_eq]
  by_cases hmem : profile ∈ chromaProfiles
  · rw [if_pos hmem, optional_of hmem]
    exact skips_chromaInfo.skips_map some
  · rw [if_neg hmem, optional_of_not hmem]
    exact Follows.pure trivial

theorem skips_offsets (count : Nat) :
    Skips (skipOffsets count) (BitReader.repeated signedExpGolomb count) := by
  induction count with
  | zero => exact Follows.pure trivial
  | succ count ih =>
      exact skips_readSe.bind fun _ _ _ => ih.skips_map _

theorem skips_picOrderCntOne : Skips skipPicOrderCntOne picOrderCntOneSyntax := by
  unfold skipPicOrderCntOne picOrderCntOneSyntax
  refine skips_flag.bind fun _ _ _ => ?_
  refine skips_readSe.bind fun _ _ _ => ?_
  refine skips_readSe.bind fun _ _ _ => ?_
  refine follows_readUe.bind fun count _ hcount => ?_
  subst hcount
  split
  · exact Follows.fail _ _
  · exact (skips_offsets count).skips_map _

theorem skips_picOrderCnt : Skips skipPicOrderCnt picOrderCntSyntax := by
  unfold skipPicOrderCnt picOrderCntSyntax
  refine follows_readUe.bind fun kind _ hkind => ?_
  subst hkind
  by_cases hzero : kind = 0
  · rw [if_pos hzero, if_pos hzero]
    exact skips_readUe.bind fun _ _ _ => Follows.pure trivial
  rw [if_neg hzero, if_neg hzero]
  by_cases hone : kind = 1
  · rw [if_pos hone, if_pos hone]
    exact skips_picOrderCntOne
  rw [if_neg hone, if_neg hone]
  by_cases htwo : kind = 2
  · rw [if_pos htwo, if_pos htwo]
    exact Follows.pure trivial
  · rw [if_neg htwo]
    exact Follows.fail _ _

theorem skips_frameCropping : Skips skipFrameCropping (flagged frameCroppingSyntax) := by
  unfold skipFrameCropping flagged
  refine follows_readBit.bind fun cropping _ hcropping => ?_
  subst hcropping
  cases cropping with
  | false => exact Follows.pure trivial
  | true =>
      rw [if_pos rfl, if_pos rfl]
      unfold frameCroppingSyntax
      simp only [bind_assoc, pure_bind]
      refine skips_readUe.bind fun _ _ _ => ?_
      refine skips_readUe.bind fun _ _ _ => ?_
      refine skips_readUe.bind fun _ _ _ => ?_
      exact skips_readUe.bind fun _ _ _ => Follows.pure trivial

theorem skips_sixteen {γ δ : Type} {R : γ → δ → Prop} {code : BitsM δ}
    {table : Nat → Nat → BitReader γ} (h : ∀ a b, Follows code (table a b) R) :
    Follows (Bits.skip 16 >>= fun _ => code)
      (number 8 >>= fun a => number 8 >>= fun b => table a b) R := by
  intro s c after hle hread
  obtain ⟨a, middle, hfirst, hrest⟩ := bind_eq_some hread
  obtain ⟨b, last, hsecond, htable⟩ := bind_eq_some hrest
  obtain ⟨result, hresult⟩ := number_add hfirst hsecond
  have hskip := (follows_skip 16).bind (k := fun _ => code) (f := fun _ => table a b)
    fun _ _ _ => h a b
  exact hskip s c after hle ((bind_of_eq_some hresult).trans htable)

theorem skips_frameMbs {γ δ : Type} {R : γ → δ → Prop} {code : BitsM δ}
    {table : Bool → Option Bool → BitReader γ} (h : Follows code (table true none) R) :
    Follows (skipFrameMbs >>= fun _ => code)
      (bit >>= fun frameMbsOnly =>
        BitReader.optional (frameMbsOnly = false) bit >>= table frameMbsOnly) R := by
  unfold skipFrameMbs
  rw [bind_assoc]
  refine follows_readBit.bind fun frameMbsOnly _ hflag => ?_
  subst hflag
  cases frameMbsOnly with
  | false => exact Follows.fail_bind _ _ _
  | true =>
      rw [if_pos rfl, optional_of_not (by decide), pure_bind, pure_bind]
      exact h

theorem follows_spsHeadAfter (profile : Nat) :
    Skips (do
      Bits.skip 16
      let _ ← Bits.readUe
      skipProfileChroma profile
      let _ ← Bits.readUe
      skipPicOrderCnt
      let _ ← Bits.readUe
      Bits.skip 1
      let _ ← Bits.readUe
      let _ ← Bits.readUe
      skipFrameMbs
      Bits.skip 1
      skipFrameCropping) (spsHeadAfter profile) := by
  unfold spsHeadAfter
  refine skips_sixteen fun _ _ => ?_
  refine skips_readUe.bind fun _ _ _ => ?_
  refine (skips_profileChroma profile).bind fun _ _ _ => ?_
  refine skips_readUe.bind fun _ _ _ => ?_
  refine skips_picOrderCnt.bind fun _ _ _ => ?_
  refine skips_readUe.bind fun _ _ _ => ?_
  refine skips_flag.bind fun _ _ _ => ?_
  refine skips_readUe.bind fun _ _ _ => ?_
  refine skips_readUe.bind fun _ _ _ => ?_
  refine skips_frameMbs ?_
  refine skips_flag.bind fun _ _ _ => ?_
  exact skips_frameCropping.skips_map _

theorem skipSpsToVuiFlag_at {rbsp : Bytes} {head : SpsHead} {after : List Bool}
    (hread : spsHeadSyntax (bitsOf rbsp) = some (head, after)) :
    (∃ error, skipSpsToVuiFlag (Bits.fromRbsp rbsp) = .error (.error error)) ∨
      ∃ stop, skipSpsToVuiFlag (Bits.fromRbsp rbsp) = .ok ((), ⟨bitsOf rbsp, stop⟩) ∧
        At (bitsOf rbsp) stop after := by
  obtain ⟨profile, middle, hnumber, hafter⟩ := bind_eq_some hread
  have hstart : (Bits.fromRbsp rbsp).pos ≤ (Bits.fromRbsp rbsp).bits.length := Nat.zero_le _
  rcases follows_read 8 _ profile middle hstart hnumber with
    ⟨error, herror⟩ | ⟨_, stop, hok, rfl, hat⟩
  · exact Or.inl ⟨error, bitsM_bind_error herror _⟩
  · have hcode : skipSpsToVuiFlag (Bits.fromRbsp rbsp) = _ := bitsM_bind_ok hok _
    rw [hcode]
    rcases follows_spsHeadAfter profile ⟨bitsOf rbsp, stop⟩ head after hat.le
      (hat.drop.symm ▸ hafter) with herror | ⟨_, last, hlast, _, hat'⟩
    · exact Or.inl herror
    · exact Or.inr ⟨last, hlast, hat'⟩

end PicooCamera.Bitstream
