import PicooCamera.FrameHub.Nv12Transform

/-!
# What the NV12 transform shows

The planes of the output are the planes of the source, turned clockwise and then
mirrored. The loops write every byte of the output, so that nothing is left of
what the storage held before.
-/

namespace PicooCamera.FrameHub

open PicooCamera.Library

/-! ## Cells -/

theorem readIndex_of_lt {bytes : Bytes} {i : Nat} (h : i < bytes.length) :
    readIndex bytes i = .ok (bytes.getD i 0) := by
  rw [readIndex, List.getD_eq_getElem?_getD, List.getElem?_eq_getElem h]
  rfl

theorem writeIndex_of_lt {bytes : Bytes} {i : Nat} (h : i < bytes.length) (value : UInt8) :
    writeIndex bytes i value = .ok (bytes.set i value) := if_pos h

theorem lastMinus_of_lt {length i : Nat} (h : i < length) :
    lastMinus length i = .ok (length - 1 - i) := if_pos h

/-- A normalized rotation. -/
def IsQuarter (rotation : UInt32) : Prop :=
  rotation = 0 ∨ rotation = 90 ∨ rotation = 180 ∨ rotation = 270

theorem isQuarter_normalize (degrees : UInt32) :
    IsQuarter (normalizeRotationDegrees degrees) := by
  unfold normalizeRotationDegrees IsQuarter
  dsimp only
  split_ifs <;> decide

def quarterTurns (rotation : UInt32) : ZMod 4 :=
  if rotation = 90 then 1 else if rotation = 180 then 2 else if rotation = 270 then 3 else 0

def Turned (rotation : UInt32) : Prop := rotation = 90 ∨ rotation = 270

instance (rotation : UInt32) : Decidable (Turned rotation) := inferInstanceAs (Decidable (_ ∨ _))

def outWidth (rotation : UInt32) (width height : Nat) : Nat :=
  if Turned rotation then height else width

def outHeight (rotation : UInt32) (width height : Nat) : Nat :=
  if Turned rotation then width else height

/-- The result of `map_output_to_source` inside the output. -/
def mappedCell (rotation : UInt32) (x y width height : Nat) : Nat × Nat :=
  if rotation = 0 then (x, y)
  else if rotation = 90 then (y, height - 1 - x)
  else if rotation = 180 then (width - 1 - x, height - 1 - y)
  else (width - 1 - y, x)

def orientedCell (rotation : UInt32) (mirrored : Bool) (x y width height : Nat) : Nat × Nat :=
  mappedCell rotation (if mirrored then outWidth rotation width height - 1 - x else x) y
    width height

section Cells

variable {rotation : UInt32} {width height x y : Nat}

theorem mapOutputToSource_eq (hrotation : IsQuarter rotation)
    (hx : x < outWidth rotation width height) (hy : y < outHeight rotation width height) :
    mapOutputToSource rotation x y width height = .ok (mappedCell rotation x y width height) := by
  rcases hrotation with rfl | rfl | rfl | rfl
  · rfl
  · have hx : x < height := hx
    simp [mapOutputToSource, mappedCell, lastMinus_of_lt hx, bind, Except.bind]
  · have hx : x < width := hx
    have hy : y < height := hy
    simp [mapOutputToSource, mappedCell, lastMinus_of_lt hx, lastMinus_of_lt hy, bind,
      Except.bind]
  · have hy : y < width := hy
    simp [mapOutputToSource, mappedCell, lastMinus_of_lt hy, bind, Except.bind]

theorem mappedCell_lt (hrotation : IsQuarter rotation)
    (hx : x < outWidth rotation width height) (hy : y < outHeight rotation width height) :
    (mappedCell rotation x y width height).1 < width ∧
      (mappedCell rotation x y width height).2 < height := by
  rcases hrotation with rfl | rfl | rfl | rfl
  · exact ⟨hx, hy⟩
  · have hx : x < height := hx
    have hy : y < width := hy
    refine ⟨hy, ?_⟩
    change height - 1 - x < height
    omega
  · have hx : x < width := hx
    have hy : y < height := hy
    constructor
    · change width - 1 - x < width
      omega
    · change height - 1 - y < height
      omega
  · have hx : x < height := hx
    have hy : y < width := hy
    refine ⟨?_, hx⟩
    change width - 1 - y < width
    omega

theorem mirrored_lt (mirrored : Bool) {length : Nat} (hx : x < length) :
    (if mirrored then length - 1 - x else x) < length := by
  split <;> omega

theorem sourceCell_eq (hrotation : IsQuarter rotation) (mirrored : Bool)
    (hx : x < outWidth rotation width height) (hy : y < outHeight rotation width height) :
    sourceCell rotation mirrored (outWidth rotation width height) width height x y =
      .ok (orientedCell rotation mirrored x y width height) := by
  have hmapped := mapOutputToSource_eq hrotation (mirrored_lt mirrored hx) hy
  unfold sourceCell orientedCell
  cases mirrored with
  | false => exact hmapped
  | true =>
      rw [if_pos rfl, lastMinus_of_lt hx]
      exact hmapped

theorem orientedCell_lt (hrotation : IsQuarter rotation) (mirrored : Bool)
    (hx : x < outWidth rotation width height) (hy : y < outHeight rotation width height) :
    (orientedCell rotation mirrored x y width height).1 < width ∧
      (orientedCell rotation mirrored x y width height).2 < height :=
  mappedCell_lt hrotation (mirrored_lt mirrored hx) hy

end Cells

/-! ## The reference -/

/-- The clockwise turn by the normalized angle, and then the mirror. -/
def orientation (rotation : UInt32) (mirrored : Bool) : DihedralGroup 4 :=
  if mirrored then .sr (quarterTurns rotation) else .r (quarterTurns rotation)

section Reference

variable {α : Type} {rotation : UInt32}

theorem turn_ofReader (hrotation : IsQuarter rotation) (width height : Nat)
    (read : Nat → Nat → α) :
    DihedralGroup.r (quarterTurns rotation) • Image.ofReader width height read =
      Image.ofReader (outWidth rotation width height) (outHeight rotation width height)
        fun x y => read (mappedCell rotation x y width height).1
          (mappedCell rotation x y width height).2 := by
  rw [Image.r_smul]
  rcases hrotation with rfl | rfl | rfl | rfl
  · rfl
  · exact Image.rotate_ofReader width height read
  · change (Image.ofReader width height read).rotate.rotate = _
    rw [Image.rotate_ofReader, Image.rotate_ofReader]
    rfl
  · change (Image.ofReader width height read).rotate.rotate.rotate = _
    rw [Image.rotate_ofReader, Image.rotate_ofReader, Image.rotate_ofReader]
    apply Image.ofReader_congr
    intro x hx y _
    change read (width - 1 - y) (height - 1 - (height - 1 - x)) = read (width - 1 - y) x
    congr
    omega

theorem orientation_ofReader (hrotation : IsQuarter rotation) (mirrored : Bool)
    (width height : Nat) (read : Nat → Nat → α) :
    orientation rotation mirrored • Image.ofReader width height read =
      Image.ofReader (outWidth rotation width height) (outHeight rotation width height)
        fun x y => read (orientedCell rotation mirrored x y width height).1
          (orientedCell rotation mirrored x y width height).2 := by
  unfold orientation
  cases mirrored with
  | false => exact turn_ofReader hrotation width height read
  | true =>
      rw [if_pos rfl, Image.sr_smul, turn_ofReader hrotation, Image.mirror_ofReader]
      rfl

end Reference

/-! ## The loops -/

/-- A source of even dimensions whose planes are inside its buffer. -/
structure PlaneLayout (width height stride : Nat) (pixels : Bytes) : Prop where
  evenWidth : width % 2 = 0
  evenHeight : height % 2 = 0
  wide : width ≤ stride
  buffer : stride * height + stride * height / 2 ≤ pixels.length

def lumaAt (stride : Nat) (pixels : Bytes) (x y : Nat) : UInt8 :=
  pixels.getD (y * stride + x) 0

/-- The pair at a cell of the chroma plane, which starts at `yBytes`. -/
def chromaAt (stride yBytes : Nat) (pixels : Bytes) (x y : Nat) : UInt8 × UInt8 :=
  (pixels.getD (y * stride + x * 2 + yBytes) 0, pixels.getD (y * stride + x * 2 + yBytes + 1) 0)

theorem cell_inj {width x y x' y' : Nat} (hx : x < width) (hx' : x' < width)
    (h : y * width + x = y' * width + x') : x = x' ∧ y = y' := by
  have hpos : 0 < width := Nat.zero_lt_of_lt hx
  have hrow : ∀ {x y : Nat}, x < width → (y * width + x) / width = y := by
    intro x y hx
    rw [Nat.mul_comm, Nat.mul_add_div hpos, Nat.div_eq_of_lt hx, Nat.add_zero]
  have hy : y = y' := by rw [← hrow (y := y) hx, h, hrow hx']
  subst hy
  exact ⟨Nat.add_left_cancel h, rfl⟩

theorem cell_lt {width height x y : Nat} (hx : x < width) (hy : y < height) :
    y * width + x < height * width := by
  calc
    y * width + x < (y + 1) * width := by rw [Nat.succ_mul]; omega
    _ ≤ height * width := Nat.mul_le_mul_right width hy

namespace PlaneLayout

variable {width height stride x y : Nat} {pixels : Bytes}

theorem luma_lt (h : PlaneLayout width height stride pixels) (hx : x < width) (hy : y < height) :
    y * stride + x < pixels.length := by
  have hcell : y * stride + x < height * stride := cell_lt (hx.trans_le h.wide) hy
  have hcomm : height * stride = stride * height := Nat.mul_comm _ _
  have hbuffer := h.buffer
  omega

theorem chroma_lt (h : PlaneLayout width height stride pixels) (hx : x < width / 2)
    (hy : y < height / 2) : y * stride + x * 2 + stride * height + 1 < pixels.length := by
  have hwide := h.wide
  have hcell : y * stride + (x * 2 + 1) < height / 2 * stride := cell_lt (by omega) hy
  have hhalf : stride * height / 2 = height / 2 * stride := by
    rw [Nat.mul_div_assoc _ (Nat.dvd_of_mod_eq_zero h.evenHeight), Nat.mul_comm]
  have hbuffer := h.buffer
  omega

end PlaneLayout

section Loops

variable {rotation : UInt32} {mirrored : Bool} {width height stride : Nat} {pixels : Bytes}

/-- The size of the output, in either orientation of even dimensions. -/
def outSize (rotation : UInt32) (width height : Nat) : Nat :=
  outWidth rotation width height * outHeight rotation width height +
    outWidth rotation width height * outHeight rotation width height / 2

/-- The output shows the source in the given orientation, in every byte. -/
structure Painted (rotation : UInt32) (mirrored : Bool) (width height stride : Nat)
    (pixels output : Bytes) : Prop where
  length : output.length = outSize rotation width height
  luma : ∀ x < outWidth rotation width height, ∀ y < outHeight rotation width height,
    output[y * outWidth rotation width height + x]? =
      some (lumaAt stride pixels (orientedCell rotation mirrored x y width height).1
        (orientedCell rotation mirrored x y width height).2)
  chroma : ∀ x < outWidth rotation width height / 2, ∀ y < outHeight rotation width height / 2,
    output[y * outWidth rotation width height + x * 2 +
        outWidth rotation width height * outHeight rotation width height]? =
      some (chromaAt stride (stride * height) pixels
        (orientedCell rotation mirrored x y (width / 2) (height / 2)).1
        (orientedCell rotation mirrored x y (width / 2) (height / 2)).2).1 ∧
    output[y * outWidth rotation width height + x * 2 +
        outWidth rotation width height * outHeight rotation width height + 1]? =
      some (chromaAt stride (stride * height) pixels
        (orientedCell rotation mirrored x y (width / 2) (height / 2)).1
        (orientedCell rotation mirrored x y (width / 2) (height / 2)).2).2

/-- The luma loop after `count` cells. -/
structure LumaPainted (rotation : UInt32) (mirrored : Bool) (width height stride : Nat)
    (pixels : Bytes) (count : Nat) (output : Bytes) : Prop where
  length : output.length = outSize rotation width height
  cells : ∀ x < outWidth rotation width height, ∀ y,
    y * outWidth rotation width height + x < count →
    output[y * outWidth rotation width height + x]? =
      some (lumaAt stride pixels (orientedCell rotation mirrored x y width height).1
        (orientedCell rotation mirrored x y width height).2)

theorem copyLuma_ok (hrotation : IsQuarter rotation) (h : PlaneLayout width height stride pixels)
    {x y : Nat} (hx : x < outWidth rotation width height)
    (hy : y < outHeight rotation width height) {output : Bytes}
    (hpainted : LumaPainted rotation mirrored width height stride pixels
      (y * outWidth rotation width height + x) output) :
    ∃ next, copyLuma rotation mirrored width height stride (outWidth rotation width height)
        (outWidth rotation width height) pixels output x y = .ok next ∧
      LumaPainted rotation mirrored width height stride pixels
        (y * outWidth rotation width height + x + 1) next := by
  have hcell := orientedCell_lt hrotation mirrored hx hy
  have hindex : y * outWidth rotation width height + x < output.length := by
    have hlt := cell_lt hx hy
    rw [Nat.mul_comm (outHeight _ _ _)] at hlt
    rw [hpainted.length, outSize]
    omega
  refine ⟨output.set (y * outWidth rotation width height + x)
    (lumaAt stride pixels (orientedCell rotation mirrored x y width height).1
      (orientedCell rotation mirrored x y width height).2), ?_, ?_, ?_⟩
  · unfold copyLuma
    rw [sourceCell_eq hrotation mirrored hx hy]
    change (readIndex pixels _ >>= fun value => writeIndex output _ value) = _
    rw [readIndex_of_lt (h.luma_lt hcell.1 hcell.2)]
    exact writeIndex_of_lt hindex _
  · rw [List.length_set, hpainted.length]
  · intro x' hx' y' hcount
    by_cases heq : y * outWidth rotation width height + x =
        y' * outWidth rotation width height + x'
    · obtain ⟨rfl, rfl⟩ := cell_inj hx hx' heq
      rw [List.getElem?_set_self hindex]
    · rw [List.getElem?_set_ne heq]
      exact hpainted.cells x' hx' y' (by omega)

theorem outWidth_half :
    outWidth rotation (width / 2) (height / 2) = outWidth rotation width height / 2 := by
  unfold outWidth
  split <;> rfl

theorem outHeight_half :
    outHeight rotation (width / 2) (height / 2) = outHeight rotation width height / 2 := by
  unfold outHeight
  split <;> rfl

theorem PlaneLayout.even_out (h : PlaneLayout width height stride pixels) (rotation : UInt32) :
    outWidth rotation width height % 2 = 0 ∧ outHeight rotation width height % 2 = 0 := by
  unfold outWidth outHeight
  split
  · exact ⟨h.evenHeight, h.evenWidth⟩
  · exact ⟨h.evenWidth, h.evenHeight⟩

theorem pair_index {length : Nat} (heven : length % 2 = 0) (x y base : Nat) :
    y * length + x * 2 + base = (y * (length / 2) + x) * 2 + base := by
  have hrow : y * length = y * (length / 2) * 2 := by
    rw [Nat.mul_assoc, Nat.div_mul_cancel (Nat.dvd_of_mod_eq_zero heven)]
  omega

theorem half_area {a b : Nat} (ha : a % 2 = 0) (hb : b % 2 = 0) :
    a * b / 2 = b / 2 * (a / 2) * 2 := by
  obtain ⟨m, rfl⟩ := Nat.dvd_of_mod_eq_zero ha
  obtain ⟨n, rfl⟩ := Nat.dvd_of_mod_eq_zero hb
  rw [Nat.mul_div_cancel_left m (by decide), Nat.mul_div_cancel_left n (by decide),
    show 2 * m * (2 * n) = 2 * (n * m * 2) by ring, Nat.mul_div_cancel_left _ (by decide)]

/-- The chroma loop after `count` pairs. -/
structure ChromaPainted (rotation : UInt32) (mirrored : Bool) (width height stride : Nat)
    (pixels : Bytes) (count : Nat) (output : Bytes) : Prop where
  length : output.length = outSize rotation width height
  luma : ∀ x < outWidth rotation width height, ∀ y < outHeight rotation width height,
    output[y * outWidth rotation width height + x]? =
      some (lumaAt stride pixels (orientedCell rotation mirrored x y width height).1
        (orientedCell rotation mirrored x y width height).2)
  pairs : ∀ x < outWidth rotation width height / 2, ∀ y,
    y * (outWidth rotation width height / 2) + x < count →
    output[y * outWidth rotation width height + x * 2 +
        outWidth rotation width height * outHeight rotation width height]? =
      some (chromaAt stride (stride * height) pixels
        (orientedCell rotation mirrored x y (width / 2) (height / 2)).1
        (orientedCell rotation mirrored x y (width / 2) (height / 2)).2).1 ∧
    output[y * outWidth rotation width height + x * 2 +
        outWidth rotation width height * outHeight rotation width height + 1]? =
      some (chromaAt stride (stride * height) pixels
        (orientedCell rotation mirrored x y (width / 2) (height / 2)).1
        (orientedCell rotation mirrored x y (width / 2) (height / 2)).2).2

theorem copyChroma_ok (hrotation : IsQuarter rotation)
    (h : PlaneLayout width height stride pixels) {x y : Nat}
    (hx : x < outWidth rotation width height / 2) (hy : y < outHeight rotation width height / 2)
    {output : Bytes}
    (hpainted : ChromaPainted rotation mirrored width height stride pixels
      (y * (outWidth rotation width height / 2) + x) output) :
    ∃ next, copyChroma rotation mirrored (width / 2) (height / 2) stride
        (outWidth rotation width height / 2) (outWidth rotation width height) (stride * height)
        (outWidth rotation width height * outHeight rotation width height) pixels output x y =
        .ok next ∧
      ChromaPainted rotation mirrored width height stride pixels
        (y * (outWidth rotation width height / 2) + x + 1) next := by
  obtain ⟨hevenWidth, hevenHeight⟩ := h.even_out rotation
  have hpair := fun x y => pair_index hevenWidth x y
    (outWidth rotation width height * outHeight rotation width height)
  have hcount := cell_lt hx hy
  have hlength : output.length = _ := hpainted.length
  rw [outSize, half_area hevenWidth hevenHeight] at hlength
  have hx' : x < outWidth rotation (width / 2) (height / 2) := outWidth_half ▸ hx
  have hy' : y < outHeight rotation (width / 2) (height / 2) := outHeight_half ▸ hy
  have hcell := orientedCell_lt hrotation mirrored hx' hy'
  have hread := h.chroma_lt hcell.1 hcell.2
  have hrun := sourceCell_eq hrotation mirrored hx' hy'
  rw [outWidth_half] at hrun
  let pair := chromaAt stride (stride * height) pixels
    (orientedCell rotation mirrored x y (width / 2) (height / 2)).1
    (orientedCell rotation mirrored x y (width / 2) (height / 2)).2
  generalize hindex : y * outWidth rotation width height + x * 2 +
    outWidth rotation width height * outHeight rotation width height = index at *
  have hfirst : index < output.length := by
    rw [← hindex, hpair]
    omega
  have hsecond : index + 1 < (output.set index pair.1).length := by
    rw [List.length_set, ← hindex, hpair]
    omega
  refine ⟨(output.set index pair.1).set (index + 1) pair.2, ?_, ?_, ?_, ?_⟩
  · unfold copyChroma
    rw [hrun]
    dsimp only [bind, Except.bind]
    rw [hindex, readIndex_of_lt (Nat.lt_of_succ_lt hread), readIndex_of_lt hread]
    dsimp only
    rw [writeIndex_of_lt hfirst]
    exact writeIndex_of_lt hsecond _
  · rw [List.length_set, List.length_set, hpainted.length]
  · intro a ha b hb
    have hlt := cell_lt ha hb
    rw [Nat.mul_comm (outHeight _ _ _)] at hlt
    rw [List.getElem?_set_ne (by omega), List.getElem?_set_ne (by omega)]
    exact hpainted.luma a ha b hb
  · intro a ha b hb
    have hbase := (hpair x y).symm.trans hindex
    by_cases heq : y * (outWidth rotation width height / 2) + x =
        b * (outWidth rotation width height / 2) + a
    · obtain ⟨rfl, rfl⟩ := cell_inj hx ha heq
      rw [hindex]
      constructor
      · rw [List.getElem?_set_ne (by omega), List.getElem?_set_self hfirst]
      · rw [List.getElem?_set_self hsecond]
    · have hold := hpainted.pairs a ha b (by omega)
      rw [hpair a b] at hold ⊢
      constructor
      · rw [List.getElem?_set_ne (by omega), List.getElem?_set_ne (by omega)]
        exact hold.1
      · rw [List.getElem?_set_ne (by omega), List.getElem?_set_ne (by omega)]
        exact hold.2

/-- The loops write the oriented source, whatever the storage held. -/
theorem transformPlanes_ok (mirrored : Bool) (hrotation : IsQuarter rotation)
    (h : PlaneLayout width height stride pixels) {output : Bytes}
    (hlength : output.length = outSize rotation width height) :
    ∃ painted, transformPlanes rotation mirrored width height stride
        (outWidth rotation width height) (outHeight rotation width height) pixels output =
        .ok painted ∧
      Painted rotation mirrored width height stride pixels painted := by
  have hempty : LumaPainted rotation mirrored width height stride pixels 0 output :=
    ⟨hlength, fun _ _ _ hcount => (Nat.not_lt_zero _ hcount).elim⟩
  obtain ⟨middle, hluma, hmiddle⟩ := scan_ok
    (fun x hx y hy _ hpainted => copyLuma_ok hrotation h hx hy hpainted) hempty
  have hstart : ChromaPainted rotation mirrored width height stride pixels 0 middle :=
    ⟨hmiddle.length, fun x hx y hy => hmiddle.cells x hx y (cell_lt hx hy),
      fun _ _ _ hcount => (Nat.not_lt_zero _ hcount).elim⟩
  obtain ⟨painted, hchroma, hpainted⟩ := scan_ok
    (fun x hx y hy _ hpainted => copyChroma_ok hrotation h hx hy hpainted) hstart
  refine ⟨painted, ?_, hpainted.length, hpainted.luma,
    fun x hx y hy => hpainted.pairs x hx y (cell_lt hx hy)⟩
  unfold transformPlanes
  rw [hluma]
  exact hchroma

end Loops

/-! ## Frames -/

namespace TransformedNv12

/-- The bytes that `validate_layout` asks for. -/
def required (frame : TransformedNv12) : Nat :=
  frame.stride.toNat * frame.height.toNat + frame.stride.toNat * frame.height.toNat / 2

/-- A frame of even dimensions whose buffer holds its planes. No allocation is larger than
`isize::MAX`. -/
structure Valid (frame : TransformedNv12) : Prop where
  width : frame.width ≠ 0
  height : frame.height ≠ 0
  evenWidth : frame.width.toNat % 2 = 0
  evenHeight : frame.height.toNat % 2 = 0
  wide : frame.width ≤ frame.stride
  buffer : frame.required ≤ frame.pixels.length
  addressable : frame.pixels.length < 2 ^ 63

/-- A frame without padding and without a tail. -/
def Compact (frame : TransformedNv12) : Prop :=
  frame.stride = frame.width ∧ frame.pixels.length = frame.required

def luma (frame : TransformedNv12) : Image UInt8 :=
  Image.ofReader frame.width.toNat frame.height.toNat (lumaAt frame.stride.toNat frame.pixels)

/-- The plane of the chroma pairs. -/
def chroma (frame : TransformedNv12) : Image (UInt8 × UInt8) :=
  Image.ofReader (frame.width.toNat / 2) (frame.height.toNat / 2)
    (chromaAt frame.stride.toNat (frame.stride.toNat * frame.height.toNat) frame.pixels)

def sliced (frame : TransformedNv12) : TransformedNv12 :=
  { frame with pixels := frame.pixels.take frame.required }

variable {frame other : TransformedNv12}

theorem Valid.planeLayout (h : frame.Valid) :
    PlaneLayout frame.width.toNat frame.height.toNat frame.stride.toNat
      (frame.pixels.take frame.required) where
  evenWidth := h.evenWidth
  evenHeight := h.evenHeight
  wide := UInt32.le_iff_toNat_le.mp h.wide
  buffer := by
    rw [List.length_take, Nat.min_eq_left h.buffer]
    exact Nat.le_refl _

theorem getD_take {bytes : Bytes} {i n : Nat} (h : i < n) :
    (bytes.take n).getD i 0 = bytes.getD i 0 := by
  rw [List.getD_eq_getElem?_getD, List.getD_eq_getElem?_getD, List.getElem?_take_of_lt h]

theorem Valid.luma_sliced (h : frame.Valid) : frame.sliced.luma = frame.luma := by
  apply Image.ofReader_congr
  intro x hx y hy
  have hindex := h.planeLayout.luma_lt hx hy
  exact getD_take (hindex.trans_le (List.length_take_le _ _))

theorem Valid.chroma_sliced (h : frame.Valid) : frame.sliced.chroma = frame.chroma := by
  apply Image.ofReader_congr
  intro x hx y hy
  have hindex := (h.planeLayout.chroma_lt hx hy).trans_le (List.length_take_le _ _)
  unfold chromaAt sliced
  rw [getD_take hindex, getD_take (Nat.lt_of_succ_lt hindex)]

theorem Valid.sliced (h : frame.Valid) : frame.sliced.Valid := by
  have hlength : (frame.pixels.take frame.required).length = frame.required := by
    rw [List.length_take, Nat.min_eq_left h.buffer]
  exact ⟨h.width, h.height, h.evenWidth, h.evenHeight, h.wide, hlength.ge,
    (List.length_take_le' _ _).trans_lt h.addressable⟩

theorem pixels_ext {width height : Nat} {p q : Bytes} (hwidth : width % 2 = 0)
    (hheight : height % 2 = 0) (hp : p.length = width * height + width * height / 2)
    (hq : q.length = width * height + width * height / 2)
    (hluma : ∀ x < width, ∀ y < height, lumaAt width p x y = lumaAt width q x y)
    (hchroma : ∀ x < width / 2, ∀ y < height / 2,
      chromaAt width (width * height) p x y = chromaAt width (width * height) q x y) : p = q := by
  have hread : ∀ i, i < width * height + width * height / 2 → p.getD i 0 = q.getD i 0 := by
    intro i hi
    by_cases hplane : i < width * height
    · have hpos : 0 < width := Nat.pos_of_mul_pos_right (Nat.zero_lt_of_lt hplane)
      have hcell := hluma (i % width) (Nat.mod_lt i hpos) (i / width)
        (Nat.div_lt_of_lt_mul hplane)
      unfold lumaAt at hcell
      rwa [Nat.div_add_mod'] at hcell
    · obtain ⟨j, rfl⟩ := Nat.exists_eq_add_of_le (Nat.le_of_not_lt hplane)
      rw [half_area hwidth hheight] at hi
      have hpair : j / 2 < width / 2 * (height / 2) := by
        rw [Nat.mul_comm (width / 2)]
        omega
      have hpos : 0 < width / 2 := Nat.pos_of_mul_pos_right (Nat.zero_lt_of_lt hpair)
      have hcell := hchroma (j / 2 % (width / 2)) (Nat.mod_lt _ hpos) (j / 2 / (width / 2))
        (Nat.div_lt_of_lt_mul hpair)
      unfold chromaAt at hcell
      rw [pair_index hwidth, Nat.div_add_mod'] at hcell
      obtain ⟨hfirst, hsecond⟩ := Prod.mk.inj hcell
      rcases Nat.mod_two_eq_zero_or_one j with heven | hodd
      · have hindex : width * height + j = j / 2 * 2 + width * height := by omega
        rw [hindex]
        exact hfirst
      · have hindex : width * height + j = j / 2 * 2 + width * height + 1 := by omega
        rw [hindex]
        exact hsecond
  apply List.ext_getElem (hp.trans hq.symm)
  intro i hi hi'
  have heq := hread i (hp ▸ hi)
  rwa [List.getD_eq_getElem _ _ hi, List.getD_eq_getElem _ _ hi'] at heq

theorem Compact.ext (hframe : frame.Compact) (hother : other.Compact) (h : frame.Valid)
    (hluma : frame.luma = other.luma) (hchroma : frame.chroma = other.chroma) :
    frame = other := by
  have hwidth : frame.width = other.width := UInt32.toNat_inj.mp (congrArg Image.width hluma)
  have hheight : frame.height = other.height :=
    UInt32.toNat_inj.mp (congrArg Image.height hluma)
  obtain ⟨width, height, stride, pixels⟩ := frame
  obtain ⟨width', height', stride', pixels'⟩ := other
  obtain ⟨hstride, hlength⟩ := hframe
  obtain ⟨hstride', hlength'⟩ := hother
  dsimp only at hwidth hheight hstride hstride'
  subst hwidth hheight hstride hstride'
  have hpixels : pixels = pixels' :=
    pixels_ext h.evenWidth h.evenHeight hlength hlength'
      (fun x hx y hy => Image.ofReader_injective hluma hx hy)
      fun x hx y hy => Image.ofReader_injective hchroma hx hy
  rw [hpixels]

/-! ## One call -/

theorem length_resize (bytes : Bytes) (n : Nat) : (resize bytes n).length = n := by
  unfold resize
  rw [List.length_take, List.length_append, List.length_replicate]
  omega

theorem length_outputStorage (pool : Option PoolState) (n : Nat) :
    (outputStorage pool n).1.length = n := by
  cases pool with
  | none => exact List.length_replicate
  | some state =>
      change (state.checkout n).1.length = n
      unfold PoolState.checkout
      dsimp only
      cases (takeBestFit state n).1 with
      | none => exact List.length_replicate
      | some storage => exact length_resize storage.bytes n

theorem checkedUsize_of_lt {n : Nat} (h : n < 2 ^ 64) : checkedUsize n = some n := if_pos h

theorem Valid.required_lt (h : frame.Valid) : frame.required < 2 ^ 63 :=
  h.buffer.trans_lt h.addressable

theorem Valid.validateLayout_eq (h : frame.Valid) :
    validateLayout frame.width frame.height frame.stride frame.pixels.length =
      .ok frame.required := by
  have hrequired := h.required_lt
  unfold required at hrequired
  have hbytes : frame.stride.toNat * frame.height.toNat < 2 ^ 64 := by omega
  have htotal : frame.stride.toNat * frame.height.toNat +
      frame.stride.toNat * frame.height.toNat / 2 < 2 ^ 64 := by omega
  unfold validateLayout
  rw [if_neg, if_neg, checkedUsize_of_lt hbytes, Option.bind_some, checkedUsize_of_lt htotal]
  · exact if_neg (Nat.not_lt.mpr h.buffer)
  · exact UInt32.not_lt.mpr h.wide
  · simp [h.width, h.height, h.evenWidth, h.evenHeight]

theorem outWidth_toNat (rotation width height : UInt32) :
    (if rotation = 90 ∨ rotation = 270 then height else width).toNat =
      outWidth rotation width.toNat height.toNat := by
  unfold outWidth
  exact apply_ite UInt32.toNat _ _ _

theorem outHeight_toNat (rotation width height : UInt32) :
    (if rotation = 90 ∨ rotation = 270 then width else height).toNat =
      outHeight rotation width.toNat height.toNat := by
  unfold outHeight
  exact apply_ite UInt32.toNat _ _ _

theorem outArea (rotation : UInt32) (width height : Nat) :
    outWidth rotation width height * outHeight rotation width height = width * height := by
  unfold outWidth outHeight
  split
  · exact Nat.mul_comm _ _
  · rfl

theorem Valid.area_le (h : frame.Valid) :
    frame.width.toNat * frame.height.toNat ≤ frame.stride.toNat * frame.height.toNat :=
  Nat.mul_le_mul_right _ (UInt32.le_iff_toNat_le.mp h.wide)

theorem Valid.outSize_lt (h : frame.Valid) (rotation : UInt32) :
    outSize rotation frame.width.toNat frame.height.toNat < 2 ^ 63 := by
  have harea := h.area_le
  have hrequired := h.required_lt
  unfold required at hrequired
  rw [outSize, outArea]
  omega

theorem Valid.nv12ByteSize_eq (h : frame.Valid) (rotation : UInt32) :
    nv12ByteSize (if rotation = 90 ∨ rotation = 270 then frame.height else frame.width)
        (if rotation = 90 ∨ rotation = 270 then frame.width else frame.height) =
      .ok (outSize rotation frame.width.toNat frame.height.toNat) := by
  have hsize := h.outSize_lt rotation
  unfold nv12ByteSize
  rw [outWidth_toNat, outHeight_toNat]
  rw [outSize] at hsize ⊢
  rw [checkedUsize_of_lt (by omega)]
  change Except.ok _ = Except.ok _
  congr 1
  omega

/-- The frame that a call returns, whatever its pool holds. -/
structure Shows (source : TransformedNv12) (degrees : UInt32) (mirrored : Bool)
    (frame : TransformedNv12) : Prop where
  valid : frame.Valid
  luma : frame.luma = orientation (normalizeRotationDegrees degrees) mirrored • source.luma
  chroma : frame.chroma = orientation (normalizeRotationDegrees degrees) mirrored • source.chroma
  /-- Without a transformation the pixels are handed on, without the tail. -/
  kept : normalizeRotationDegrees degrees = 0 ∧ mirrored = false → frame = source.sliced
  /-- A transformed frame has no padding. -/
  compact : ¬ (normalizeRotationDegrees degrees = 0 ∧ mirrored = false) → frame.Compact

theorem Valid.shows_sliced (h : frame.Valid) {degrees : UInt32} {mirrored : Bool}
    (hupright : normalizeRotationDegrees degrees = 0 ∧ mirrored = false) :
    Shows frame degrees mirrored frame.sliced where
  valid := h.sliced
  luma := by
    rw [hupright.1, hupright.2, h.luma_sliced]
    exact (one_smul (DihedralGroup 4) frame.luma).symm
  chroma := by
    rw [hupright.1, hupright.2, h.chroma_sliced]
    exact (one_smul (DihedralGroup 4) frame.chroma).symm
  kept := fun _ => rfl
  compact := fun hturned => (hturned hupright).elim

theorem toNat_pos_iff {a : UInt32} : 0 < a.toNat ↔ a ≠ 0 :=
  UInt32.lt_iff_toNat_lt.symm.trans UInt32.pos_iff_ne_zero

section Painted

variable {source : TransformedNv12} {degrees : UInt32} {mirrored : Bool} {width height : UInt32}
  {output : Bytes}

theorem luma_of_painted (h : source.Valid)
    (hwidth : width.toNat = outWidth (normalizeRotationDegrees degrees) source.width.toNat
      source.height.toNat)
    (hheight : height.toNat = outHeight (normalizeRotationDegrees degrees) source.width.toNat
      source.height.toNat)
    (hpainted : Painted (normalizeRotationDegrees degrees) mirrored source.width.toNat
      source.height.toNat source.stride.toNat (source.pixels.take source.required) output) :
    (TransformedNv12.mk width height width output).luma =
      orientation (normalizeRotationDegrees degrees) mirrored • source.luma := by
  rw [← h.luma_sliced]
  unfold luma sliced
  rw [orientation_ofReader (isQuarter_normalize degrees), hwidth, hheight]
  apply Image.ofReader_congr
  intro x hx y hy
  rw [lumaAt, List.getD_eq_getElem?_getD, hpainted.luma x hx y hy]
  rfl

theorem chroma_of_painted (h : source.Valid)
    (hwidth : width.toNat = outWidth (normalizeRotationDegrees degrees) source.width.toNat
      source.height.toNat)
    (hheight : height.toNat = outHeight (normalizeRotationDegrees degrees) source.width.toNat
      source.height.toNat)
    (hpainted : Painted (normalizeRotationDegrees degrees) mirrored source.width.toNat
      source.height.toNat source.stride.toNat (source.pixels.take source.required) output) :
    (TransformedNv12.mk width height width output).chroma =
      orientation (normalizeRotationDegrees degrees) mirrored • source.chroma := by
  rw [← h.chroma_sliced]
  unfold chroma sliced
  rw [orientation_ofReader (isQuarter_normalize degrees), hwidth, hheight, outWidth_half,
    outHeight_half]
  apply Image.ofReader_congr
  intro x hx y hy
  obtain ⟨hfirst, hsecond⟩ := hpainted.chroma x hx y hy
  rw [chromaAt, List.getD_eq_getElem?_getD, List.getD_eq_getElem?_getD, hfirst, hsecond]
  rfl

theorem shows_of_painted (h : source.Valid)
    (hturned : ¬ (normalizeRotationDegrees degrees = 0 ∧ mirrored = false))
    (hwidth : width.toNat = outWidth (normalizeRotationDegrees degrees) source.width.toNat
      source.height.toNat)
    (hheight : height.toNat = outHeight (normalizeRotationDegrees degrees) source.width.toNat
      source.height.toNat)
    (hpainted : Painted (normalizeRotationDegrees degrees) mirrored source.width.toNat
      source.height.toNat source.stride.toNat (source.pixels.take source.required) output) :
    Shows source degrees mirrored ⟨width, height, width, output⟩ := by
  have hlength : output.length = (TransformedNv12.mk width height width output).required := by
    rw [hpainted.length, required, outSize, hwidth, hheight]
  have heven := h.planeLayout.even_out (normalizeRotationDegrees degrees)
  have hdims : 0 < width.toNat ∧ 0 < height.toNat := by
    have hsource : 0 < source.width.toNat * source.height.toNat :=
      Nat.mul_pos (toNat_pos_iff.mpr h.width)
        (toNat_pos_iff.mpr h.height)
    rw [← outArea (normalizeRotationDegrees degrees), ← hwidth, ← hheight] at hsource
    exact ⟨Nat.pos_of_mul_pos_right hsource, Nat.pos_of_mul_pos_left hsource⟩
  constructor
  case valid =>
    constructor
    case width => exact toNat_pos_iff.mp hdims.1
    case height => exact toNat_pos_iff.mp hdims.2
    case evenWidth => rw [hwidth]; exact heven.1
    case evenHeight => rw [hheight]; exact heven.2
    case wide => exact UInt32.le_refl _
    case buffer => exact hlength.ge
    case addressable =>
      rw [hpainted.length]
      exact h.outSize_lt _
  case luma => exact luma_of_painted h hwidth hheight hpainted
  case chroma => exact chroma_of_painted h hwidth hheight hpainted
  case kept => exact fun hupright => (hturned hupright).elim
  case compact => exact fun _ => ⟨rfl, hlength⟩

end Painted

theorem Shows.unique {source : TransformedNv12} {degrees : UInt32} {mirrored : Bool}
    (h : Shows source degrees mirrored frame) (hother : Shows source degrees mirrored other) :
    frame = other := by
  by_cases hupright : normalizeRotationDegrees degrees = 0 ∧ mirrored = false
  · rw [h.kept hupright, hother.kept hupright]
  · exact (h.compact hupright).ext (hother.compact hupright) h.valid
      (h.luma.trans hother.luma.symm) (h.chroma.trans hother.chroma.symm)

theorem impl_shows {source : TransformedNv12} (h : source.Valid) (degrees : UInt32)
    (mirrored : Bool) (pool : Option PoolState) :
    ∃ frame, (transformNv12Impl source.width source.height source.stride degrees mirrored
        source.pixels pool).1 = .ok frame ∧ Shows source degrees mirrored frame := by
  unfold transformNv12Impl
  rw [h.validateLayout_eq]
  dsimp only
  by_cases hupright : normalizeRotationDegrees degrees = 0 ∧ mirrored = false
  · rw [if_pos hupright]
    exact ⟨_, rfl, h.shows_sliced hupright⟩
  · rw [if_neg hupright, h.nv12ByteSize_eq]
    dsimp only
    have hlength := length_outputStorage pool (outSize (normalizeRotationDegrees degrees)
      source.width.toNat source.height.toNat)
    obtain ⟨painted, hrun, hpainted⟩ := transformPlanes_ok mirrored
      (isQuarter_normalize degrees) h.planeLayout hlength
    rw [outWidth_toNat, outHeight_toNat, hrun]
    exact ⟨_, rfl, shows_of_painted h hupright (outWidth_toNat _ _ _) (outHeight_toNat _ _ _)
      hpainted⟩

/-! ## Several calls -/

/-- One call after the other, each on the frame of the one before. -/
def transformAll (steps : List (UInt32 × Bool)) (source : TransformedNv12) :
    Except Nv12Failure TransformedNv12 :=
  steps.foldlM (fun frame step =>
    transformNv12 frame.width frame.height frame.stride step.1 step.2 frame.pixels) source

/-- The product of the orientations, the first call rightmost. -/
def orientationOf : List (UInt32 × Bool) → DihedralGroup 4
  | [] => 1
  | step :: steps =>
      orientationOf steps * orientation (normalizeRotationDegrees step.1) step.2

theorem Shows.compact_of_compact {source : TransformedNv12} {degrees : UInt32} {mirrored : Bool}
    (h : Shows source degrees mirrored frame) (hsource : source.Compact) : frame.Compact := by
  by_cases hupright : normalizeRotationDegrees degrees = 0 ∧ mirrored = false
  · rw [h.kept hupright]
    refine ⟨hsource.1, ?_⟩
    change (source.pixels.take source.required).length = source.required
    rw [List.length_take, hsource.2, Nat.min_self]
  · exact h.compact hupright

theorem transformAll_ok {source : TransformedNv12} (h : source.Valid)
    (steps : List (UInt32 × Bool)) :
    ∃ frame, transformAll steps source = .ok frame ∧
      frame.luma = orientationOf steps • source.luma ∧
      frame.chroma = orientationOf steps • source.chroma ∧
      (source.Compact → frame.Compact) := by
  induction steps generalizing source with
  | nil =>
      exact ⟨source, rfl, (one_smul (DihedralGroup 4) source.luma).symm,
        (one_smul (DihedralGroup 4) source.chroma).symm, id⟩
  | cons step steps ih =>
      obtain ⟨middle, hrun, hshows⟩ := impl_shows h step.1 step.2 none
      obtain ⟨frame, hrest, hluma, hchroma, hcompact⟩ := ih hshows.valid
      refine ⟨frame, ?_, ?_, ?_, fun hsource => hcompact (hshows.compact_of_compact hsource)⟩
      · unfold transformAll
        rw [List.foldlM_cons]
        unfold transformNv12
        rw [hrun]
        exact hrest
      · rw [hluma, hshows.luma, orientationOf, mul_smul]
      · rw [hchroma, hshows.chroma, orientationOf, mul_smul]

theorem orientationOf_two_mirrors (degrees : UInt32) :
    orientationOf [(degrees, true), (degrees, true)] = 1 := by
  change 1 * DihedralGroup.sr _ * DihedralGroup.sr _ = 1
  rw [one_mul]
  exact DihedralGroup.sr_mul_self _

theorem orientationOf_four_turns (degrees : UInt32) :
    orientationOf (List.replicate 4 (degrees, false)) = 1 := by
  change 1 * DihedralGroup.r _ * DihedralGroup.r _ * DihedralGroup.r _ * DihedralGroup.r _ = 1
  generalize quarterTurns (normalizeRotationDegrees degrees) = i
  revert i
  decide

/-- Every call shows the source turned clockwise and then mirrored, from any pool, and the calls
compose as the symmetries of the square. -/
theorem nv12_orientation_exact (source : TransformedNv12) (h : source.Valid) :
    (∀ degrees mirrored, ∃ frame,
      transformNv12 source.width source.height source.stride degrees mirrored source.pixels =
        .ok frame ∧
      (∀ pool, (transformNv12WithPool source.width source.height source.stride degrees mirrored
        source.pixels pool).1 = .ok frame) ∧
      Shows source degrees mirrored frame) ∧
    (∀ steps, ∃ frame, transformAll steps source = .ok frame ∧
      frame.luma = orientationOf steps • source.luma ∧
      frame.chroma = orientationOf steps • source.chroma ∧
      (orientationOf steps = 1 → source.Compact → frame = source)) ∧
    ∀ degrees, orientationOf (List.replicate 4 (degrees, false)) = 1 ∧
      orientationOf [(degrees, true), (degrees, true)] = 1 := by
  refine ⟨?_, ?_, fun degrees =>
    ⟨orientationOf_four_turns degrees, orientationOf_two_mirrors degrees⟩⟩
  · intro degrees mirrored
    obtain ⟨frame, hrun, hshows⟩ := impl_shows h degrees mirrored none
    refine ⟨frame, hrun, ?_, hshows⟩
    intro pool
    obtain ⟨pooled, hpooled, hpooledShows⟩ := impl_shows h degrees mirrored (some pool)
    rw [hshows.unique hpooledShows]
    exact hpooled
  · intro steps
    obtain ⟨frame, hrun, hluma, hchroma, hcompact⟩ := transformAll_ok h steps
    refine ⟨frame, hrun, hluma, hchroma, ?_⟩
    intro hone hsource
    rw [hone, one_smul] at hluma hchroma
    exact (hsource.ext (hcompact hsource) h hluma.symm hchroma.symm).symm

theorem nv12_orientation_exact_four_by_two :
    ∃ frame, transformNv12 4 2 4 90 true [1, 2, 3, 4, 5, 6, 7, 8, 10, 11, 20, 21] = .ok frame :=
  (nv12_orientation_exact ⟨4, 2, 4, [1, 2, 3, 4, 5, 6, 7, 8, 10, 11, 20, 21]⟩
    ⟨by decide, by decide, by decide, by decide, by decide, by decide, by decide⟩).1 90 true
    |>.imp fun _ h => h.1

end TransformedNv12

end PicooCamera.FrameHub
