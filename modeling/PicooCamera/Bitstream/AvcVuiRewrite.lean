import PicooCamera.Bitstream.AvcVuiPosition

/-!
# The rewritten VUI

The adapter changes the colour of a parameter set and nothing else: the bits it
writes are those of the same syntax elements with BT.709 in their video signal
type.
-/

namespace PicooCamera.Bitstream

open PicooCamera.Library PicooCamera.Library.BitReader

/-! ## BT.709 -/

def bt709Description : ColourDescription := ⟨1, 1, 1⟩

/-- The video signal with the colour of BT.709; an absent one is of unspecified format and
limited range. -/
def bt709Signal (signal : Option VideoSignalType) : VideoSignalType :=
  match signal with
  | none => ⟨5, false, some bt709Description⟩
  | some signal => { signal with colourDescription := some bt709Description }

def minimalVuiTail : VuiTail := ⟨none, none, none, none, none, false, none⟩

def bt709Vui (vui : Option VuiParameters) : VuiParameters :=
  match vui with
  | none => ⟨none, none, some (bt709Signal none), minimalVuiTail⟩
  | some vui => { vui with videoSignalType := some (bt709Signal vui.videoSignalType) }

/-- The parameter set with the colour of BT.709 and every other element as it was. -/
def SeqParameterSet.withBt709 (sps : SeqParameterSet) : SeqParameterSet :=
  { sps with vuiParameters := some (bt709Vui sps.vuiParameters) }

/-! ## Bits that read as a parameter set -/

/-- Closed by a stop bit, the bits read as the parameter set. -/
def ReadsAs (out : List Bool) (sps : SeqParameterSet) : Prop :=
  ∀ zeros, spsSyntax (out ++ true :: zeros) = some (sps, true :: zeros)

theorem ReadsAs.spsOfRbsp {out : List Bool} {sps : SeqParameterSet} (h : ReadsAs out sps) :
    spsOfRbsp (Bits.finish out) = some sps := by
  unfold Bitstream.spsOfRbsp Bits.finish
  rw [bitsOf_packBits, List.append_assoc, List.singleton_append, h, Option.bind_some]
  refine if_pos ?_
  show (List.all _ _) = true
  rw [List.all_replicate]
  simp

/-- The result is an error, or closed bits that read as the parameter set. -/
def Writes (result : Except VuiFault Bytes) (sps : SeqParameterSet) : Prop :=
  (∃ error, result = .error (.error error)) ∨
    ∃ out, result = .ok (Bits.finish out) ∧ ReadsAs out sps

theorem Local_take {α : Type} {p : BitReader α} (hp : Local p) {bits rest : List Bool} {a : α}
    {cursor : Nat} (hread : p bits = some (a, rest)) (hat : At bits cursor rest)
    (other : List Bool) : p (bits.take cursor ++ other) = some (a, other) := by
  obtain ⟨front, hbits, hfront⟩ := hp bits a rest hread
  have htake : bits.take cursor = front := by
    refine @List.append_cancel_right _ _ rest _ ?_
    rw [hat.take_append, hbits]
  rw [htake]
  exact hfront other

/-! ## Without VUI -/

theorem writes_insertMinimalVui {bits rest : List Bool} {head : SpsHead} {pos cursor : Nat}
    (hread : spsHeadSyntax bits = some (head, rest)) (hat : At bits cursor rest) :
    Writes (insertMinimalVui ⟨bits, pos⟩ cursor) (SeqParameterSet.withBt709 ⟨head, none⟩) := by
  refine Or.inr ⟨bits.take cursor ++ [true, false, false, true] ++ videoSignalBits ++
    [false, false, false, false, false, false], ?_, fun zeros => ?_⟩
  · unfold insertMinimalVui
    rw [hat.prefixTo]
    rfl
  · have hvui : flagged vuiSyntax ([true, false, false, true] ++ videoSignalBits ++
        [false, false, false, false, false, false] ++ true :: zeros) =
          some (some (bt709Vui none), true :: zeros) := rfl
    simp only [List.append_assoc] at hvui ⊢
    unfold spsSyntax
    rw [bind_of_eq_some (Local_take local_spsHeadSyntax hread hat _), bind_of_eq_some hvui]
    rfl

/-! ## The cursors in a VUI -/

section Cursor

variable {bits rest after : List Bool} {pos cursor : Nat}

theorem flagged_eq_some {α : Type} {p : BitReader α} {a : Option α} {bits after : List Bool}
    (h : flagged p bits = some (a, after)) :
    (bits = false :: after ∧ a = none) ∨
      ∃ value behind, bits = true :: behind ∧ p behind = some (value, after) ∧
        a = some value := by
  cases bits with
  | nil => cases h
  | cons first behind =>
      cases first with
      | false =>
          cases h
          exact Or.inl ⟨rfl, rfl⟩
      | true =>
          obtain ⟨value, middle, hvalue, hpure⟩ :=
            bind_eq_some (p := p) (f := fun a => pure (some a)) h
          cases hpure
          exact Or.inr ⟨value, behind, rfl, hvalue, rfl⟩

theorem skipAspectRatio_at {aspect : Option AspectRatioInfo} (hat : At bits cursor rest)
    (hread : flagged aspectRatioSyntax rest = some (aspect, after)) :
    ∃ stop, skipAspectRatio ⟨bits, pos⟩ cursor = .ok stop ∧ At bits stop after := by
  rcases flagged_eq_some hread with ⟨rfl, _⟩ | ⟨value, behind, rfl, hvalue, _⟩
  · refine ⟨cursor + 1, ?_, hat.of_cons⟩
    unfold skipAspectRatio
    rw [hat.readAt]
    rfl
  · obtain ⟨idc, middle, hidc, hsar⟩ := bind_eq_some hvalue
    obtain ⟨hreadN, hmiddle⟩ := (@At.readN bits (cursor + 1) pos behind 8 idc hat.of_cons) hidc
    have hcode : skipAspectRatio ⟨bits, pos⟩ cursor =
        .ok (if idc = 255 then cursor + 9 + 32 else cursor + 9) := by
      unfold skipAspectRatio
      rw [hat.readAt]
      show (Bits.readN ⟨bits, pos⟩ (cursor + 1) 8 >>= _) = _
      rw [hreadN]
      rfl
    refine ⟨_, hcode, ?_⟩
    by_cases hextended : idc = 255
    · rw [if_pos hextended]
      rw [optional_of hextended, bind_assoc] at hsar
      obtain ⟨sar, last, hboth, hpure⟩ := bind_eq_some hsar
      cases hpure
      obtain ⟨width, between, hwidth, hrest⟩ := bind_eq_some hboth
      obtain ⟨height, behind, hheight, hpair⟩ := bind_eq_some hrest
      cases hpair
      have hbetween := (@At.readN bits _ pos _ 16 width hmiddle _ hwidth).2
      exact (@At.readN bits _ pos _ 16 height hbetween _ hheight).2
    · rw [if_neg hextended]
      rw [optional_of_not hextended, pure_bind] at hsar
      cases hsar
      exact hmiddle

theorem skipOverscan_at {overscan : Option Bool} (hat : At bits cursor rest)
    (hread : flagged bit rest = some (overscan, after)) :
    ∃ stop, skipOverscan ⟨bits, pos⟩ cursor = .ok stop ∧ At bits stop after := by
  rcases flagged_eq_some hread with ⟨rfl, _⟩ | ⟨value, behind, rfl, hvalue, _⟩
  · refine ⟨cursor + 1, ?_, hat.of_cons⟩
    unfold skipOverscan
    rw [hat.readAt]
    rfl
  · refine ⟨cursor + 2, ?_, ?_⟩
    · unfold skipOverscan
      rw [hat.readAt]
      rfl
    · cases behind with
      | nil => cases hvalue
      | cons first tail =>
          cases hvalue
          exact hat.of_cons.of_cons

theorem stopBit_append (front : List Bool) {zeros : List Bool} (hzeros : ∀ bit ∈ zeros, bit = false)
    (pos : Nat) : Bits.stopBit ⟨front ++ true :: zeros, pos⟩ = .ok front.length := by
  have hfind : (front ++ true :: zeros).reverse.findIdx? id = some zeros.length := by
    rw [List.reverse_append, List.reverse_cons, List.append_assoc, List.findIdx?_append,
      List.findIdx?_eq_none_iff.mpr]
    · simp [List.findIdx?_cons]
    · intro bit hbit
      exact hzeros bit (List.mem_reverse.mp hbit)
  unfold Bits.stopBit
  dsimp only
  rw [hfind]
  dsimp only
  rw [List.length_append, List.length_cons]
  congr 1
  omega

theorem At.stopBit {tailBits zeros : List Bool} (hat : At bits cursor (tailBits ++ true :: zeros))
    (hzeros : ∀ bit ∈ zeros, bit = false) (pos : Nat) :
    Bits.stopBit ⟨bits, pos⟩ = .ok (cursor + tailBits.length) := by
  have hbits := hat.take_append
  rw [← List.append_assoc] at hbits
  have hlength : (bits.take cursor ++ tailBits).length = cursor + tailBits.length := by
    rw [List.length_append, List.length_take, Nat.min_eq_left hat.le]
  rw [← hlength, ← stopBit_append (bits.take cursor ++ tailBits) hzeros pos, hbits]

theorem insertAtFlag_eq {tailBits zeros : List Bool}
    (hat : At bits cursor (false :: (tailBits ++ true :: zeros)))
    (hzeros : ∀ bit ∈ zeros, bit = false) (inserted : List Bool) :
    insertAtFlag ⟨bits, pos⟩ cursor inserted =
      .ok (Bits.finish (bits.take cursor ++ [true] ++ inserted ++ tailBits)) := by
  unfold insertAtFlag
  rw [hat.prefixTo, hat.of_cons.stopBit hzeros]
  show (Bits.slice ⟨bits, pos⟩ (cursor + 1) (cursor + 1 + tailBits.length) >>= _) = _
  rw [hat.of_cons.slice_front]
  rfl

theorem writeU8_eq {old : List Bool} (hat : At bits cursor (old ++ rest)) (hold : old.length = 8)
    (value : Nat) :
    ∃ written, Bits.writeU8 ⟨bits, pos⟩ cursor value = .ok ⟨written, pos⟩ ∧
      written.take (cursor + 8) = bits.take cursor ++ bitsOfNumber 8 value ∧
        At written (cursor + 8) rest := by
  have hafter := hat.of_front
  rw [hold] at hafter
  have hlength : (bits.take cursor ++ bitsOfNumber 8 value).length = cursor + 8 := by
    rw [List.length_append, List.length_take, Nat.min_eq_left hat.le, length_bitsOfNumber]
  refine ⟨bits.take cursor ++ bitsOfNumber 8 value ++ rest, ?_, List.take_left' hlength,
    List.drop_left' hlength, ?_⟩
  · unfold Bits.writeU8
    dsimp only
    rw [if_neg (Nat.not_lt.mpr hafter.le), hafter.drop]
  · rw [List.length_append, hlength]
    exact Nat.le_add_right _ _

theorem patchColour_eq {old tailBits zeros : List Bool} {old' old'' : List Bool}
    (hat : At bits cursor (old ++ (old' ++ (old'' ++ (tailBits ++ true :: zeros)))))
    (hold : old.length = 8) (hold' : old'.length = 8) (hold'' : old''.length = 8)
    (hzeros : ∀ bit ∈ zeros, bit = false) :
    patchColour ⟨bits, pos⟩ cursor =
      .ok (Bits.finish (bits.take cursor ++ bt709Bits ++ tailBits)) := by
  obtain ⟨first, hfirst, htake, hat'⟩ := @writeU8_eq _ _ pos _ _ hat hold 1
  obtain ⟨second, hsecond, htake', hat''⟩ := @writeU8_eq _ _ pos _ _ hat' hold' 1
  obtain ⟨third, hthird, htake'', hlast⟩ := @writeU8_eq _ _ pos _ _ hat'' hold'' 1
  unfold patchColour
  rw [hfirst]
  show (Bits.writeU8 _ (cursor + 8) 1 >>= _) = _
  rw [hsecond]
  show (Bits.writeU8 _ (cursor + 8 + 8) 1 >>= _) = _
  rw [hthird]
  show (Bits.stopBit _ >>= _) = _
  rw [hlast.stopBit hzeros]
  show (Bits.finishFrom _ _) = _
  have hstop := hlast.of_front
  have hbits := hlast.take_front
  rw [htake'', htake', htake] at hbits
  unfold Bits.finishFrom Bits.slice
  rw [if_pos ⟨Nat.zero_le _, hstop.le⟩, List.drop_zero]
  dsimp only
  rw [hbits]
  unfold bt709Bits
  simp only [List.append_assoc]
  rfl

end Cursor

/-! ## An existing VUI -/

/-- The elements of a parameter set with VUI in front of its video signal type. -/
def spsToSignal : BitReader (SpsHead × Option AspectRatioInfo × Option Bool) := do
  let head ← spsHeadSyntax
  let present ← bit
  if present then
    let aspect ← flagged aspectRatioSyntax
    let overscan ← flagged bit
    return (head, aspect, overscan)
  else fail

theorem local_spsToSignal : Local spsToSignal := by
  refine local_spsHeadSyntax.bind fun _ => ?_
  refine local_bit.bind fun _ => ?_
  refine Local.ite ?_ local_fail
  exact local_aspectRatioSyntax.flagged.bind fun _ => local_bit.flagged.bind fun _ => local_pure _

section Existing

variable {bits signalRest tailRest rest : List Bool} {head : SpsHead}
  {aspect : Option AspectRatioInfo} {overscan : Option Bool} {tail : VuiTail} {cursor pos : Nat}

theorem spsToSignal_eq_some
    (h : spsToSignal bits = some ((head, aspect, overscan), rest)) :
    ∃ vuiRest overscanRest, spsHeadSyntax bits = some (head, true :: vuiRest) ∧
      flagged aspectRatioSyntax vuiRest = some (aspect, overscanRest) ∧
        flagged bit overscanRest = some (overscan, rest) := by
  obtain ⟨head', flagRest, hhead, hflag⟩ := bind_eq_some h
  obtain ⟨present, vuiRest, hbit, hvui⟩ := bind_eq_some hflag
  cases flagRest with
  | nil => cases hbit
  | cons first behind =>
      cases hbit
      cases present with
      | false => cases hvui
      | true =>
          rw [if_pos rfl] at hvui
          obtain ⟨aspect', overscanRest, haspect, hrest⟩ := bind_eq_some hvui
          obtain ⟨overscan', last, hoverscan, hpure⟩ := bind_eq_some hrest
          cases hpure
          exact ⟨vuiRest, overscanRest, hhead, haspect, hoverscan⟩

theorem spsSyntax_of_signal {signal : Option VideoSignalType}
    (hfront : spsToSignal bits = some ((head, aspect, overscan), signalRest))
    (hsignal : flagged videoSignalTypeSyntax signalRest = some (signal, tailRest))
    (htail : vuiTailSyntax tailRest = some (tail, rest)) :
    spsSyntax bits = some (⟨head, some ⟨aspect, overscan, signal, tail⟩⟩, rest) := by
  obtain ⟨vuiRest, overscanRest, hhead, haspect, hoverscan⟩ := spsToSignal_eq_some hfront
  have hvui : vuiSyntax vuiRest = some (⟨aspect, overscan, signal, tail⟩, rest) := by
    unfold vuiSyntax
    rw [bind_of_eq_some haspect, bind_of_eq_some hoverscan, bind_of_eq_some hsignal,
      bind_of_eq_some htail]
    rfl
  have hflagged : flagged vuiSyntax (true :: vuiRest) =
      some (some ⟨aspect, overscan, signal, tail⟩, rest) :=
    bind_of_eq_some (p := vuiSyntax) (f := fun vui => pure (some vui)) hvui
  unfold spsSyntax
  rw [bind_of_eq_some hhead, bind_of_eq_some hflagged]
  rfl

/-- With another video signal type in its place, the bits read as the same parameter set but
for the signal. -/
theorem readsAs_splice {signal : VideoSignalType} {signalBits tailBits : List Bool}
    (hfront : spsToSignal bits = some ((head, aspect, overscan), signalRest))
    (hat : At bits cursor signalRest)
    (hsignal : ∀ other,
      flagged videoSignalTypeSyntax (signalBits ++ other) = some (some signal, other))
    (htail : ∀ other, vuiTailSyntax (tailBits ++ other) = some (tail, other)) :
    ReadsAs (bits.take cursor ++ signalBits ++ tailBits)
      ⟨head, some ⟨aspect, overscan, some signal, tail⟩⟩ := by
  intro zeros
  rw [List.append_assoc, List.append_assoc]
  exact spsSyntax_of_signal (Local_take local_spsToSignal hfront hat _) (hsignal _) (htail _)

theorem videoSignalTypeSyntax_eq_some {signal : VideoSignalType} {behind : List Bool}
    (h : videoSignalTypeSyntax behind = some (signal, tailRest)) :
    ∃ format described, format.length = 3 ∧
      behind = format ++ signal.videoFullRangeFlag :: described ∧
        flagged colourDescriptionSyntax described = some (signal.colourDescription, tailRest) ∧
          ∀ other, number 3 (format ++ other) = some (signal.videoFormat, other) := by
  obtain ⟨format, fullRest, hnumber, hrest⟩ := bind_eq_some h
  obtain ⟨fullRange, described, hbit, hdescribed⟩ := bind_eq_some hrest
  obtain ⟨description, last, hdescription, hpure⟩ := bind_eq_some hdescribed
  cases hpure
  obtain ⟨front, hlength, rfl, hfront⟩ := number_front hnumber
  cases fullRest with
  | nil => cases hbit
  | cons first tail =>
      cases hbit
      exact ⟨front, described, hlength, rfl, hdescription, hfront⟩

theorem reads_bt709Signal {signal : VideoSignalType} {format : List Bool}
    (hlimited : signal.videoFullRangeFlag = false)
    (hformat : ∀ other, number 3 (format ++ other) = some (signal.videoFormat, other))
    (other : List Bool) :
    flagged videoSignalTypeSyntax
        (true :: (format ++ false :: true :: bt709Bits) ++ other) =
      some (some (bt709Signal (some signal)), other) := by
  have hsignal : videoSignalTypeSyntax ((format ++ false :: true :: bt709Bits) ++ other) =
      some (bt709Signal (some signal), other) := by
    unfold videoSignalTypeSyntax
    rw [List.append_assoc, bind_of_eq_some (hformat _)]
    unfold bt709Signal
    dsimp only
    rw [hlimited]
    rfl
  exact bind_of_eq_some (p := videoSignalTypeSyntax) (f := fun vui => pure (some vui)) hsignal

variable {behind tailBits zeros : List Bool} {signal : VideoSignalType}

theorem writes_rewriteVideoSignal
    (hfront : spsToSignal bits = some ((head, aspect, overscan), true :: behind))
    (hat : At bits cursor (true :: behind))
    (hsignal : videoSignalTypeSyntax behind = some (signal, tailBits ++ true :: zeros))
    (htail : ∀ other, vuiTailSyntax (tailBits ++ other) = some (tail, other))
    (hzeros : ∀ bit ∈ zeros, bit = false) :
    Writes (rewriteVideoSignal ⟨bits, pos⟩ cursor)
      ⟨head, some ⟨aspect, overscan, some (bt709Signal (some signal)), tail⟩⟩ := by
  obtain ⟨format, described, hlength, rfl, hdescription, hformat⟩ :=
    videoSignalTypeSyntax_eq_some hsignal
  have hfull : At bits (cursor + 4) (signal.videoFullRangeFlag :: described) := by
    have hafter := hat.of_cons.of_front
    rwa [hlength, Nat.add_assoc] at hafter
  cases hlimited : signal.videoFullRangeFlag with
  | true =>
      rw [hlimited] at hfull
      refine Or.inl ⟨.unsupported "full-range AVC source", ?_⟩
      unfold rewriteVideoSignal
      rw [hfull.readAt]
      rfl
  | false =>
      rw [hlimited] at hfull hat hfront
      have hreads := readsAs_splice hfront hat (reads_bt709Signal hlimited hformat) htail
      have htake : bits.take (cursor + 5) = bits.take cursor ++ (true :: (format ++ [false])) := by
        have hfrontBits := @At.take_front bits cursor described (true :: (format ++ [false]))
          (by simpa using hat)
        rwa [List.length_cons, List.length_append, hlength] at hfrontBits
      rcases flagged_eq_some hdescription with ⟨rfl, _⟩ | ⟨_, colourRest, rfl, hcolour, _⟩
      · refine Or.inr ⟨_, ?_, hreads⟩
        unfold rewriteVideoSignal
        rw [hfull.readAt]
        show (Bits.readAt ⟨bits, pos⟩ (cursor + 5) >>= _) = _
        rw [hfull.of_cons.readAt]
        show insertAtFlag ⟨bits, pos⟩ (cursor + 5) bt709Bits = _
        rw [insertAtFlag_eq hfull.of_cons hzeros, htake]
        simp
      · obtain ⟨_, rest', hfirst, hsecond⟩ := bind_eq_some hcolour
        obtain ⟨_, rest'', hmiddle, hlast⟩ := bind_eq_some hsecond
        obtain ⟨_, restLast, hthird, hpure⟩ := bind_eq_some hlast
        cases hpure
        obtain ⟨old, hold, rfl, _⟩ := number_front hfirst
        obtain ⟨old', hold', rfl, _⟩ := number_front hmiddle
        obtain ⟨old'', hold'', rfl, _⟩ := number_front hthird
        have htakeFlag : bits.take (cursor + 6) = bits.take (cursor + 5) ++ [true] :=
          @At.take_front bits (cursor + 5) _ [true] hfull.of_cons
        refine Or.inr ⟨_, ?_, hreads⟩
        unfold rewriteVideoSignal
        rw [hfull.readAt]
        show (Bits.readAt ⟨bits, pos⟩ (cursor + 5) >>= _) = _
        rw [hfull.of_cons.readAt]
        show patchColour ⟨bits, pos⟩ (cursor + 6) = _
        rw [patchColour_eq hfull.of_cons.of_cons hold hold' hold'' hzeros, htakeFlag, htake]
        simp

theorem writes_rewriteExistingVui {vui : VuiParameters} {vuiRest : List Bool}
    (hread : spsHeadSyntax bits = some (head, true :: vuiRest))
    (hvui : vuiSyntax vuiRest = some (vui, true :: zeros)) (hat : At bits cursor (true :: vuiRest))
    (hzeros : ∀ bit ∈ zeros, bit = false) :
    Writes (rewriteExistingVui ⟨bits, pos⟩ cursor)
      (SeqParameterSet.withBt709 ⟨head, some vui⟩) := by
  obtain ⟨aspect, overscanRest, haspect, hrest⟩ := bind_eq_some hvui
  obtain ⟨overscan, signalRest, hoverscan, hrest⟩ := bind_eq_some hrest
  obtain ⟨signal, tailRest, hsignal, hrest⟩ := bind_eq_some hrest
  obtain ⟨tail, last, htail, hpure⟩ := bind_eq_some hrest
  cases hpure
  obtain ⟨tailBits, rfl, htailBits⟩ := local_vuiTailSyntax _ _ _ htail
  obtain ⟨behindAspect, hskipAspect, hatAspect⟩ :=
    @skipAspectRatio_at _ _ _ pos _ _ hat.of_cons haspect
  obtain ⟨flag, hskipOverscan, hatFlag⟩ := @skipOverscan_at _ _ _ pos _ _ hatAspect hoverscan
  have hfront : spsToSignal bits = some ((head, aspect, overscan), signalRest) := by
    unfold spsToSignal
    have hpresent : bit (true :: vuiRest) = some (true, vuiRest) := rfl
    rw [bind_of_eq_some hread, bind_of_eq_some hpresent, if_pos rfl, bind_of_eq_some haspect,
      bind_of_eq_some hoverscan]
    rfl
  have hcode : ∀ present, Bits.readAt ⟨bits, pos⟩ flag = .ok present →
      rewriteExistingVui ⟨bits, pos⟩ cursor =
        if present then rewriteVideoSignal ⟨bits, pos⟩ flag
        else insertAtFlag ⟨bits, pos⟩ flag videoSignalBits := by
    intro present hpresent
    unfold rewriteExistingVui
    rw [hskipAspect]
    show (skipOverscan ⟨bits, pos⟩ behindAspect >>= _) = _
    rw [hskipOverscan]
    show (Bits.readAt ⟨bits, pos⟩ flag >>= _) = _
    rw [hpresent]
    rfl
  rcases flagged_eq_some hsignal with ⟨rfl, rfl⟩ | ⟨value, behind, rfl, hvalue, rfl⟩
  · rw [hcode false hatFlag.readAt, if_neg Bool.false_ne_true]
    refine Or.inr ⟨_, insertAtFlag_eq hatFlag hzeros videoSignalBits, ?_⟩
    have hsignalBits : ∀ other, flagged videoSignalTypeSyntax
        ([true] ++ videoSignalBits ++ other) = some (some (bt709Signal none), other) :=
      fun _ => rfl
    have hreads := readsAs_splice hfront hatFlag hsignalBits htailBits
    rwa [← List.append_assoc] at hreads
  · rw [hcode true hatFlag.readAt, if_pos rfl]
    exact writes_rewriteVideoSignal hfront hatFlag hvalue htailBits hzeros

end Existing

end PicooCamera.Bitstream
