import Mathlib

/-!
# Images and their orientations

The symmetries of the square act on images: `r 1` is a quarter turn clockwise
and `sr 0` exchanges left and right. `scan` is a loop over the cells of an image,
row by row.
-/

namespace PicooCamera.Library

universe u v

structure Image (α : Type u) where
  width : Nat
  height : Nat
  pixel : Fin width → Fin height → α

namespace Image

variable {α : Type u}

/-- A quarter turn clockwise: the left column becomes the top row. -/
def rotate (image : Image α) : Image α :=
  ⟨image.height, image.width, fun x y => image.pixel y x.rev⟩

def mirror (image : Image α) : Image α :=
  ⟨image.width, image.height, fun x y => image.pixel x.rev y⟩

theorem rotate_four (image : Image α) : image.rotate.rotate.rotate.rotate = image := by
  simp [rotate]

theorem mirror_mirror (image : Image α) : image.mirror.mirror = image := by
  simp [mirror]

theorem rotate_mirror_rotate (image : Image α) : image.rotate.mirror.rotate = image.mirror := by
  simp [rotate, mirror]

/-! ## The action of the dihedral group -/

def rotation : Equiv.Perm (Image α) where
  toFun := rotate
  invFun image := image.rotate.rotate.rotate
  left_inv := rotate_four
  right_inv := rotate_four

def reflection : Equiv.Perm (Image α) where
  toFun := mirror
  invFun := mirror
  left_inv := mirror_mirror
  right_inv := mirror_mirror

theorem rotation_pow_four : (rotation : Equiv.Perm (Image α)) ^ 4 = 1 :=
  Equiv.ext rotate_four

theorem reflection_mul_self : (reflection : Equiv.Perm (Image α)) * reflection = 1 :=
  Equiv.ext mirror_mirror

theorem rotation_mul_reflection :
    (rotation : Equiv.Perm (Image α)) * reflection = reflection * rotation⁻¹ := by
  rw [eq_mul_inv_iff_mul_eq]
  exact Equiv.ext rotate_mirror_rotate

theorem rotation_pow_val_add (i j : ZMod 4) :
    (rotation : Equiv.Perm (Image α)) ^ (i + j).val = rotation ^ i.val * rotation ^ j.val := by
  rw [ZMod.val_add, ← pow_add, ← pow_eq_pow_mod _ rotation_pow_four]

theorem rotation_pow_val_sub (i j : ZMod 4) :
    (rotation : Equiv.Perm (Image α)) ^ (j - i).val = (rotation⁻¹) ^ i.val * rotation ^ j.val := by
  have hsum := rotation_pow_val_add (α := α) i (j - i)
  rw [add_sub_cancel] at hsum
  rw [hsum, inv_pow, inv_mul_cancel_left]

theorem rotation_pow_mul_reflection (n : Nat) :
    (rotation : Equiv.Perm (Image α)) ^ n * reflection = reflection * (rotation⁻¹) ^ n := by
  induction n with
  | zero => rfl
  | succ n ih =>
      calc
        rotation ^ (n + 1) * reflection = rotation * (rotation ^ n * reflection) := by
          rw [pow_succ', mul_assoc]
        _ = rotation * reflection * (rotation⁻¹) ^ n := by rw [ih, mul_assoc]
        _ = reflection * (rotation⁻¹) ^ (n + 1) := by
          rw [rotation_mul_reflection, pow_succ' (rotation⁻¹), mul_assoc]

def orient : DihedralGroup 4 → Equiv.Perm (Image α)
  | .r i => rotation ^ i.val
  | .sr i => reflection * rotation ^ i.val

theorem orient_mul (g h : DihedralGroup 4) :
    (orient (g * h) : Equiv.Perm (Image α)) = orient g * orient h := by
  cases g with
  | r i =>
      cases h with
      | r j => exact rotation_pow_val_add i j
      | sr j =>
          change reflection * rotation ^ (j - i).val =
            rotation ^ i.val * (reflection * rotation ^ j.val)
          rw [rotation_pow_val_sub, ← mul_assoc, ← mul_assoc, rotation_pow_mul_reflection]
  | sr i =>
      cases h with
      | r j =>
          change reflection * rotation ^ (i + j).val =
            reflection * rotation ^ i.val * rotation ^ j.val
          rw [rotation_pow_val_add, mul_assoc]
      | sr j =>
          change rotation ^ (j - i).val =
            reflection * rotation ^ i.val * (reflection * rotation ^ j.val)
          rw [rotation_pow_val_sub, ← mul_assoc, mul_assoc reflection,
            rotation_pow_mul_reflection, ← mul_assoc reflection, reflection_mul_self, one_mul]

instance : MulAction (DihedralGroup 4) (Image α) where
  smul g image := orient g image
  one_smul _ := rfl
  mul_smul g h image := congrArg (fun p : Equiv.Perm (Image α) => p image) (orient_mul g h)

theorem r_smul (i : ZMod 4) (image : Image α) :
    DihedralGroup.r i • image = rotate^[i.val] image :=
  congrFun (Equiv.Perm.iterate_eq_pow rotation i.val).symm image

theorem sr_smul (i : ZMod 4) (image : Image α) :
    DihedralGroup.sr i • image = (DihedralGroup.r i • image).mirror := rfl

/-! ## Images that are read from a buffer -/

/-- The image of a function of the column and the row. -/
def ofReader (width height : Nat) (read : Nat → Nat → α) : Image α :=
  ⟨width, height, fun x y => read x y⟩

theorem ofReader_congr {width height : Nat} {f g : Nat → Nat → α}
    (h : ∀ x < width, ∀ y < height, f x y = g x y) :
    ofReader width height f = ofReader width height g := by
  unfold ofReader
  congr
  funext x y
  exact h x x.isLt y y.isLt

theorem ofReader_injective {width height : Nat} {f g : Nat → Nat → α}
    (h : ofReader width height f = ofReader width height g) {x y : Nat} (hx : x < width)
    (hy : y < height) : f x y = g x y := by
  unfold ofReader at h
  simp only [Image.mk.injEq, heq_eq_eq, true_and] at h
  exact congrFun (congrFun h ⟨x, hx⟩) ⟨y, hy⟩

theorem rotate_ofReader (width height : Nat) (read : Nat → Nat → α) :
    (ofReader width height read).rotate =
      ofReader height width fun x y => read y (height - 1 - x) := by
  unfold rotate ofReader
  congr
  funext x y
  change read y (Fin.rev (n := height) x) = read y (height - 1 - x)
  rw [Fin.val_rev, Nat.sub_sub, Nat.add_comm]

theorem mirror_ofReader (width height : Nat) (read : Nat → Nat → α) :
    (ofReader width height read).mirror =
      ofReader width height fun x y => read (width - 1 - x) y := by
  unfold mirror ofReader
  congr
  funext x y
  change read (Fin.rev (n := width) x) y = read (width - 1 - x) y
  rw [Fin.val_rev, Nat.sub_sub, Nat.add_comm]

end Image

/-! ## Loops over the cells -/

section Scan

variable {σ : Type u} {ε : Type v}

theorem foldlM_range_ok {step : σ → Nat → Except ε σ} {I : Nat → σ → Prop} {n : Nat}
    (hstep : ∀ k < n, ∀ s, I k s → ∃ t, step s k = .ok t ∧ I (k + 1) t) {s : σ} (hs : I 0 s) :
    ∃ t, (List.range n).foldlM step s = .ok t ∧ I n t := by
  induction n with
  | zero => exact ⟨s, rfl, hs⟩
  | succ n ih =>
      obtain ⟨t, hrun, ht⟩ := ih fun k hk => hstep k (Nat.lt_succ_of_lt hk)
      obtain ⟨u, hlast, hu⟩ := hstep n (Nat.lt_succ_self n) t ht
      refine ⟨u, ?_, hu⟩
      rw [List.range_succ, List.foldlM_append, hrun]
      change ([n].foldlM step t : Except ε σ) = _
      rw [List.foldlM_cons, hlast]
      rfl

/-- `for y in 0..height { for x in 0..width { .. } }` -/
def scan (width height : Nat) (step : σ → Nat → Nat → Except ε σ) (s : σ) : Except ε σ :=
  (List.range height).foldlM (fun s y => (List.range width).foldlM (fun s x => step s x y) s) s

theorem scan_ok {width height : Nat} {step : σ → Nat → Nat → Except ε σ} {I : Nat → σ → Prop}
    (hstep : ∀ x < width, ∀ y < height, ∀ s, I (y * width + x) s →
      ∃ t, step s x y = .ok t ∧ I (y * width + x + 1) t) {s : σ} (hs : I 0 s) :
    ∃ t, scan width height step s = .ok t ∧ I (height * width) t := by
  refine foldlM_range_ok (I := fun y => I (y * width)) ?_ ?_
  · intro y hy s hs
    rw [Nat.succ_mul]
    refine foldlM_range_ok (I := fun x => I (y * width + x)) ?_ hs
    intro x hx s hs
    exact hstep x hx y hy s hs
  · rw [Nat.zero_mul]
    exact hs

end Scan

end PicooCamera.Library
