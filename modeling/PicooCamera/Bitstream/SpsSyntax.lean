import PicooCamera.Library.BitReader
import PicooCamera.Library.EmulationPrevention

/-!
# The syntax of an AVC sequence parameter set

The syntax elements of a sequence parameter set and the reader of the H.264
syntax tables, as the third-party crate that the adapter uses follows them:
parameter sets of the later profiles with chroma elements it reads without these.
Everything behind the video signal type is one part of the VUI, `VuiTail`.
-/

namespace PicooCamera.Bitstream

open PicooCamera.Library PicooCamera.Library.BitReader

/-! ## Syntax elements -/

structure ChromaInfo where
  chromaFormatIdc : Nat
  separateColourPlaneFlag : Option Bool
  bitDepthLumaMinus8 : Nat
  bitDepthChromaMinus8 : Nat
  qpprimeYZeroTransformBypassFlag : Bool
  /-- The lists of a scaling matrix, each one with its delta scales. -/
  seqScalingMatrix : Option (List (Option (List Int)))
  deriving DecidableEq, Repr

inductive PicOrderCnt where
  | typeZero (log2MaxPicOrderCntLsbMinus4 : Nat)
  | typeOne (deltaPicOrderAlwaysZeroFlag : Bool) (offsetForNonRefPic : Int)
      (offsetForTopToBottomField : Int) (offsetsForRefFrame : List Int)
  | typeTwo
  deriving DecidableEq, Repr

structure FrameCropping where
  leftOffset : Nat
  rightOffset : Nat
  topOffset : Nat
  bottomOffset : Nat
  deriving DecidableEq, Repr

/-- The elements up to `vui_parameters_present_flag`. -/
structure SpsHead where
  profileIdc : Nat
  constraintFlags : Nat
  levelIdc : Nat
  seqParameterSetId : Nat
  chromaInfo : Option ChromaInfo
  log2MaxFrameNumMinus4 : Nat
  picOrderCnt : PicOrderCnt
  maxNumRefFrames : Nat
  gapsInFrameNumValueAllowedFlag : Bool
  picWidthInMbsMinus1 : Nat
  picHeightInMapUnitsMinus1 : Nat
  frameMbsOnlyFlag : Bool
  mbAdaptiveFrameFieldFlag : Option Bool
  direct8x8InferenceFlag : Bool
  frameCropping : Option FrameCropping
  deriving DecidableEq, Repr

structure AspectRatioInfo where
  aspectRatioIdc : Nat
  extendedSar : Option (Nat × Nat)
  deriving DecidableEq, Repr

@[ext] structure ColourDescription where
  colourPrimaries : Nat
  transferCharacteristics : Nat
  matrixCoefficients : Nat
  deriving DecidableEq, Repr

structure VideoSignalType where
  videoFormat : Nat
  videoFullRangeFlag : Bool
  colourDescription : Option ColourDescription
  deriving DecidableEq, Repr

structure ChromaLocInfo where
  topField : Nat
  bottomField : Nat
  deriving DecidableEq, Repr

structure TimingInfo where
  numUnitsInTick : Nat
  timeScale : Nat
  fixedFrameRateFlag : Bool
  deriving DecidableEq, Repr

structure HrdParameters where
  bitRateScale : Nat
  cpbSizeScale : Nat
  /-- Bit rate, buffer size and constant rate of each coded picture buffer. -/
  cpbs : List (Nat × Nat × Bool)
  initialCpbRemovalDelayLengthMinus1 : Nat
  cpbRemovalDelayLengthMinus1 : Nat
  dpbOutputDelayLengthMinus1 : Nat
  timeOffsetLength : Nat
  deriving DecidableEq, Repr

structure BitstreamRestriction where
  motionVectorsOverPicBoundariesFlag : Bool
  /-- The six Exp-Golomb elements of the restriction. -/
  limits : List Nat
  deriving DecidableEq, Repr

/-- The VUI elements behind the video signal type. -/
structure VuiTail where
  chromaLocInfo : Option ChromaLocInfo
  timingInfo : Option TimingInfo
  nalHrdParameters : Option HrdParameters
  vclHrdParameters : Option HrdParameters
  lowDelayHrdFlag : Option Bool
  picStructPresentFlag : Bool
  bitstreamRestriction : Option BitstreamRestriction
  deriving DecidableEq, Repr

structure VuiParameters where
  aspectRatioInfo : Option AspectRatioInfo
  overscanAppropriateFlag : Option Bool
  videoSignalType : Option VideoSignalType
  tail : VuiTail
  deriving DecidableEq, Repr

structure SeqParameterSet where
  head : SpsHead
  vuiParameters : Option VuiParameters
  deriving DecidableEq, Repr

/-! ## Syntax tables -/

/-- The profiles whose parameter sets are read with the chroma elements. -/
def chromaProfiles : List Nat := [100, 110, 122, 244, 44, 83, 86]

/-- The delta scales of a list: none is read once the next scale is zero. -/
def scalingListFrom (lastScale nextScale : Int) : Nat → BitReader (List Int)
  | 0 => pure []
  | size + 1 =>
      if nextScale = 0 then scalingListFrom lastScale 0 size
      else do
        let delta ← signedExpGolomb
        let next := (lastScale + delta + 256) % 256
        let rest ← scalingListFrom (if next = 0 then lastScale else next) next size
        return delta :: rest

/-- The scaling lists from list `index` on: six of 4x4, and the rest of 8x8. -/
def scalingLists (index : Nat) : Nat → BitReader (List (Option (List Int)))
  | 0 => pure []
  | count + 1 => do
      let first ← flagged (scalingListFrom 8 8 (if index < 6 then 16 else 64))
      let rest ← scalingLists (index + 1) count
      return first :: rest

def chromaInfoSyntax : BitReader ChromaInfo := do
  let chromaFormatIdc ← expGolomb
  let separateColourPlaneFlag ← optional (chromaFormatIdc = 3) bit
  let bitDepthLumaMinus8 ← expGolomb
  let bitDepthChromaMinus8 ← expGolomb
  let qpprimeYZeroTransformBypassFlag ← bit
  let seqScalingMatrix ← flagged (scalingLists 0 (if chromaFormatIdc = 3 then 12 else 8))
  return ⟨chromaFormatIdc, separateColourPlaneFlag, bitDepthLumaMinus8, bitDepthChromaMinus8,
    qpprimeYZeroTransformBypassFlag, seqScalingMatrix⟩

def picOrderCntOneSyntax : BitReader PicOrderCnt := do
  let deltaPicOrderAlwaysZeroFlag ← bit
  let offsetForNonRefPic ← signedExpGolomb
  let offsetForTopToBottomField ← signedExpGolomb
  let count ← expGolomb
  let offsetsForRefFrame ← repeated signedExpGolomb count
  return .typeOne deltaPicOrderAlwaysZeroFlag offsetForNonRefPic offsetForTopToBottomField
    offsetsForRefFrame

def picOrderCntSyntax : BitReader PicOrderCnt := do
  let kind ← expGolomb
  if kind = 0 then
    let log2MaxPicOrderCntLsbMinus4 ← expGolomb
    return .typeZero log2MaxPicOrderCntLsbMinus4
  else if kind = 1 then picOrderCntOneSyntax
  else if kind = 2 then return .typeTwo
  else fail

def frameCroppingSyntax : BitReader FrameCropping := do
  let leftOffset ← expGolomb
  let rightOffset ← expGolomb
  let topOffset ← expGolomb
  let bottomOffset ← expGolomb
  return ⟨leftOffset, rightOffset, topOffset, bottomOffset⟩

/-- The elements behind the profile. -/
def spsHeadAfter (profileIdc : Nat) : BitReader SpsHead := do
  let constraintFlags ← number 8
  let levelIdc ← number 8
  let seqParameterSetId ← expGolomb
  let chromaInfo ← optional (profileIdc ∈ chromaProfiles) chromaInfoSyntax
  let log2MaxFrameNumMinus4 ← expGolomb
  let picOrderCnt ← picOrderCntSyntax
  let maxNumRefFrames ← expGolomb
  let gapsInFrameNumValueAllowedFlag ← bit
  let picWidthInMbsMinus1 ← expGolomb
  let picHeightInMapUnitsMinus1 ← expGolomb
  let frameMbsOnlyFlag ← bit
  let mbAdaptiveFrameFieldFlag ← optional (frameMbsOnlyFlag = false) bit
  let direct8x8InferenceFlag ← bit
  let frameCropping ← flagged frameCroppingSyntax
  return ⟨profileIdc, constraintFlags, levelIdc, seqParameterSetId, chromaInfo,
    log2MaxFrameNumMinus4, picOrderCnt, maxNumRefFrames, gapsInFrameNumValueAllowedFlag,
    picWidthInMbsMinus1, picHeightInMapUnitsMinus1, frameMbsOnlyFlag,
    mbAdaptiveFrameFieldFlag, direct8x8InferenceFlag, frameCropping⟩

def spsHeadSyntax : BitReader SpsHead := do
  let profileIdc ← number 8
  spsHeadAfter profileIdc

def aspectRatioSyntax : BitReader AspectRatioInfo := do
  let aspectRatioIdc ← number 8
  let extendedSar ← optional (aspectRatioIdc = 255) do
    let sarWidth ← number 16
    let sarHeight ← number 16
    return (sarWidth, sarHeight)
  return ⟨aspectRatioIdc, extendedSar⟩

def colourDescriptionSyntax : BitReader ColourDescription := do
  let colourPrimaries ← number 8
  let transferCharacteristics ← number 8
  let matrixCoefficients ← number 8
  return ⟨colourPrimaries, transferCharacteristics, matrixCoefficients⟩

def videoSignalTypeSyntax : BitReader VideoSignalType := do
  let videoFormat ← number 3
  let videoFullRangeFlag ← bit
  let colourDescription ← flagged colourDescriptionSyntax
  return ⟨videoFormat, videoFullRangeFlag, colourDescription⟩

def chromaLocInfoSyntax : BitReader ChromaLocInfo := do
  let topField ← expGolomb
  let bottomField ← expGolomb
  return ⟨topField, bottomField⟩

def timingInfoSyntax : BitReader TimingInfo := do
  let numUnitsInTick ← number 32
  let timeScale ← number 32
  let fixedFrameRateFlag ← bit
  return ⟨numUnitsInTick, timeScale, fixedFrameRateFlag⟩

def cpbSyntax : BitReader (Nat × Nat × Bool) := do
  let bitRateValueMinus1 ← expGolomb
  let cpbSizeValueMinus1 ← expGolomb
  let cbrFlag ← bit
  return (bitRateValueMinus1, cpbSizeValueMinus1, cbrFlag)

def hrdSyntax : BitReader HrdParameters := do
  let cpbCntMinus1 ← expGolomb
  let bitRateScale ← number 4
  let cpbSizeScale ← number 4
  let cpbs ← repeated cpbSyntax (cpbCntMinus1 + 1)
  let initialCpbRemovalDelayLengthMinus1 ← number 5
  let cpbRemovalDelayLengthMinus1 ← number 5
  let dpbOutputDelayLengthMinus1 ← number 5
  let timeOffsetLength ← number 5
  return ⟨bitRateScale, cpbSizeScale, cpbs, initialCpbRemovalDelayLengthMinus1,
    cpbRemovalDelayLengthMinus1, dpbOutputDelayLengthMinus1, timeOffsetLength⟩

def bitstreamRestrictionSyntax : BitReader BitstreamRestriction := do
  let motionVectorsOverPicBoundariesFlag ← bit
  let limits ← repeated expGolomb 6
  return ⟨motionVectorsOverPicBoundariesFlag, limits⟩

def vuiTailSyntax : BitReader VuiTail := do
  let chromaLocInfo ← flagged chromaLocInfoSyntax
  let timingInfo ← flagged timingInfoSyntax
  let nalHrdParameters ← flagged hrdSyntax
  let vclHrdParameters ← flagged hrdSyntax
  let lowDelayHrdFlag ← optional (nalHrdParameters ≠ none ∨ vclHrdParameters ≠ none) bit
  let picStructPresentFlag ← bit
  let bitstreamRestriction ← flagged bitstreamRestrictionSyntax
  return ⟨chromaLocInfo, timingInfo, nalHrdParameters, vclHrdParameters, lowDelayHrdFlag,
    picStructPresentFlag, bitstreamRestriction⟩

def vuiSyntax : BitReader VuiParameters := do
  let aspectRatioInfo ← flagged aspectRatioSyntax
  let overscanAppropriateFlag ← flagged bit
  let videoSignalType ← flagged videoSignalTypeSyntax
  let tail ← vuiTailSyntax
  return ⟨aspectRatioInfo, overscanAppropriateFlag, videoSignalType, tail⟩

def spsSyntax : BitReader SeqParameterSet := do
  let head ← spsHeadSyntax
  let vuiParameters ← flagged vuiSyntax
  return ⟨head, vuiParameters⟩

/-- `rbsp_trailing_bits`: the stop bit and zeros. -/
def isTrailing : List Bool → Bool
  | true :: zeros => zeros.all fun bit => !bit
  | _ => false

/-- The parameter set of an RBSP. -/
def spsOfRbsp (rbsp : Bytes) : Option SeqParameterSet :=
  (spsSyntax (bitsOf rbsp)).bind fun result =>
    if isTrailing result.2 then some result.1 else none

/-- The parameter set of a NAL, by the syntax tables. -/
def spsOfNal (nal : Bytes) : Option SeqParameterSet := spsOfRbsp (unescape nal.tail)

/-! ## The tables are local -/

theorem local_scalingListFrom (lastScale nextScale : Int) (size : Nat) :
    Local (scalingListFrom lastScale nextScale size) := by
  induction size generalizing lastScale nextScale with
  | zero => exact local_pure []
  | succ size ih =>
      exact (ih lastScale 0).ite (local_signedExpGolomb.bind fun _ =>
        (ih _ _).bind fun _ => local_pure _)

theorem local_scalingLists (index count : Nat) : Local (scalingLists index count) := by
  induction count generalizing index with
  | zero => exact local_pure []
  | succ count ih =>
      exact (local_scalingListFrom 8 8 _).flagged.bind fun _ =>
        (ih (index + 1)).bind fun _ => local_pure _

theorem local_chromaInfoSyntax : Local chromaInfoSyntax := by
  refine local_expGolomb.bind fun _ => ?_
  refine (local_bit.optional _).bind fun _ => ?_
  refine local_expGolomb.bind fun _ => ?_
  refine local_expGolomb.bind fun _ => ?_
  refine local_bit.bind fun _ => ?_
  exact (local_scalingLists 0 _).flagged.bind fun _ => local_pure _

theorem local_picOrderCntSyntax : Local picOrderCntSyntax := by
  have hone : Local picOrderCntOneSyntax := by
    refine local_bit.bind fun _ => ?_
    refine local_signedExpGolomb.bind fun _ => ?_
    refine local_signedExpGolomb.bind fun _ => ?_
    refine local_expGolomb.bind fun _ => ?_
    exact (local_signedExpGolomb.repeated _).bind fun _ => local_pure _
  refine local_expGolomb.bind fun _ => ?_
  refine (local_expGolomb.bind fun _ => local_pure _).ite ?_
  exact hone.ite ((local_pure _).ite local_fail)

theorem local_frameCroppingSyntax : Local frameCroppingSyntax :=
  local_expGolomb.bind fun _ => local_expGolomb.bind fun _ => local_expGolomb.bind fun _ =>
    local_expGolomb.bind fun _ => local_pure _

theorem local_spsHeadSyntax : Local spsHeadSyntax := by
  refine (local_number 8).bind fun _ => ?_
  refine (local_number 8).bind fun _ => ?_
  refine (local_number 8).bind fun _ => ?_
  refine local_expGolomb.bind fun _ => ?_
  refine (local_chromaInfoSyntax.optional _).bind fun _ => ?_
  refine local_expGolomb.bind fun _ => ?_
  refine local_picOrderCntSyntax.bind fun _ => ?_
  refine local_expGolomb.bind fun _ => ?_
  refine local_bit.bind fun _ => ?_
  refine local_expGolomb.bind fun _ => ?_
  refine local_expGolomb.bind fun _ => ?_
  refine local_bit.bind fun _ => ?_
  refine (local_bit.optional _).bind fun _ => ?_
  refine local_bit.bind fun _ => ?_
  exact local_frameCroppingSyntax.flagged.bind fun _ => local_pure _

theorem local_aspectRatioSyntax : Local aspectRatioSyntax := by
  refine (local_number 8).bind fun _ => ?_
  refine Local.bind (Local.optional ?_ _) fun _ => local_pure _
  exact (local_number 16).bind fun _ => (local_number 16).bind fun _ => local_pure _

theorem local_hrdSyntax : Local hrdSyntax := by
  have hcpb : Local cpbSyntax :=
    local_expGolomb.bind fun _ => local_expGolomb.bind fun _ => local_bit.bind fun _ =>
      local_pure _
  refine local_expGolomb.bind fun _ => ?_
  refine (local_number 4).bind fun _ => ?_
  refine (local_number 4).bind fun _ => ?_
  refine (hcpb.repeated _).bind fun _ => ?_
  refine (local_number 5).bind fun _ => ?_
  refine (local_number 5).bind fun _ => ?_
  refine (local_number 5).bind fun _ => ?_
  exact (local_number 5).bind fun _ => local_pure _

theorem local_vuiTailSyntax : Local vuiTailSyntax := by
  have hchroma : Local chromaLocInfoSyntax :=
    local_expGolomb.bind fun _ => local_expGolomb.bind fun _ => local_pure _
  have htiming : Local timingInfoSyntax :=
    (local_number 32).bind fun _ => (local_number 32).bind fun _ => local_bit.bind fun _ =>
      local_pure _
  have hrestriction : Local bitstreamRestrictionSyntax :=
    local_bit.bind fun _ => (local_expGolomb.repeated 6).bind fun _ => local_pure _
  refine hchroma.flagged.bind fun _ => ?_
  refine htiming.flagged.bind fun _ => ?_
  refine local_hrdSyntax.flagged.bind fun _ => ?_
  refine local_hrdSyntax.flagged.bind fun _ => ?_
  refine (local_bit.optional _).bind fun _ => ?_
  refine local_bit.bind fun _ => ?_
  exact hrestriction.flagged.bind fun _ => local_pure _

end PicooCamera.Bitstream
