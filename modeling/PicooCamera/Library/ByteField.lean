import Mathlib

/-!
# The field of 256 elements on bytes

Addition is exclusive or, and multiplication is that of polynomials over two
elements modulo `x^8 + x^4 + x^3 + x^2 + 1`. Both sides of a ring law are
additive in each argument, so that it is enough to check it on the eight bits.
-/

namespace PicooCamera.Library

@[ext] structure ByteField where
  bits : BitVec 8
  deriving DecidableEq, Repr

namespace ByteField

/-! ## Sums of bits -/

def bit (index : Nat) : BitVec 8 := 1#8 <<< index

private theorem xor_xor_xor_comm (a b c d : BitVec 8) :
    (a ^^^ b) ^^^ (c ^^^ d) = (a ^^^ c) ^^^ (b ^^^ d) := by
  ac_rfl

theorem sum_bits (a : BitVec 8) :
    (List.range 8).foldl (fun acc index => acc ^^^ if a.getLsbD index then bit index else 0#8)
      0#8 = a := by
  revert a
  decide +kernel

theorem xor_induction {P : BitVec 8 → Prop} (zero : P 0#8) (bits : ∀ index < 8, P (bit index))
    (xor : ∀ a b, P a → P b → P (a ^^^ b)) (a : BitVec 8) : P a := by
  have hfold : ∀ (indices : List Nat) (acc : BitVec 8), (∀ index ∈ indices, index < 8) →
      P acc → P (indices.foldl
        (fun acc index => acc ^^^ if a.getLsbD index then bit index else 0#8) acc) := by
    intro indices
    induction indices with
    | nil => exact fun acc _ hacc => hacc
    | cons index indices ih =>
        intro acc hindices hacc
        refine ih _ (fun other hother => hindices other (List.mem_cons_of_mem _ hother)) ?_
        refine xor _ _ hacc ?_
        by_cases hbit : a.getLsbD index = true
        · rw [if_pos hbit]
          exact bits index (hindices index List.mem_cons_self)
        · rw [if_neg hbit]
          exact zero
  rw [← sum_bits a]
  exact hfold _ _ (fun index hindex => List.mem_range.mp hindex) zero

/-! ## Multiplication -/

/-- Multiplication by the generator: a shift, reduced where the top bit falls out. -/
def double (a : BitVec 8) : BitVec 8 :=
  (a <<< 1) ^^^ (if a.getLsbD 7 then 0x1D#8 else 0#8)

/-- The products of `b` with the bits of `a` from `index` on, `count` bits to go. -/
def mulFrom (a : BitVec 8) : Nat → Nat → BitVec 8 → BitVec 8
  | 0, _, _ => 0#8
  | count + 1, index, b =>
      (if a.getLsbD index then b else 0#8) ^^^ mulFrom a count (index + 1) (double b)

def mulBits (a b : BitVec 8) : BitVec 8 := mulFrom a 8 0 b

theorem double_xor (a b : BitVec 8) : double (a ^^^ b) = double a ^^^ double b := by
  unfold double
  rw [BitVec.shiftLeft_xor_distrib, xor_xor_xor_comm, BitVec.getLsbD_xor]
  cases a.getLsbD 7 <;> cases b.getLsbD 7 <;> simp

theorem mulFrom_xor_right (a : BitVec 8) (count index : Nat) (b c : BitVec 8) :
    mulFrom a count index (b ^^^ c) = mulFrom a count index b ^^^ mulFrom a count index c := by
  induction count generalizing index b c with
  | zero => simp [mulFrom]
  | succ count ih =>
      rw [mulFrom, mulFrom, mulFrom, double_xor, ih, xor_xor_xor_comm]
      cases a.getLsbD index <;> simp

theorem mulFrom_xor_left (a b : BitVec 8) (count index : Nat) (c : BitVec 8) :
    mulFrom (a ^^^ b) count index c = mulFrom a count index c ^^^ mulFrom b count index c := by
  induction count generalizing index c with
  | zero => simp [mulFrom]
  | succ count ih =>
      rw [mulFrom, mulFrom, mulFrom, ih, xor_xor_xor_comm, BitVec.getLsbD_xor]
      cases a.getLsbD index <;> cases b.getLsbD index <;> simp

theorem mulBits_xor_right (a b c : BitVec 8) :
    mulBits a (b ^^^ c) = mulBits a b ^^^ mulBits a c :=
  mulFrom_xor_right a 8 0 b c

theorem mulBits_xor_left (a b c : BitVec 8) :
    mulBits (a ^^^ b) c = mulBits a c ^^^ mulBits b c :=
  mulFrom_xor_left a b 8 0 c

theorem mulBits_zero_right (a : BitVec 8) : mulBits a 0#8 = 0#8 := by
  have h := mulBits_xor_right a 0#8 0#8
  simpa using h

theorem mulBits_zero_left (a : BitVec 8) : mulBits 0#8 a = 0#8 := by
  have h := mulBits_xor_left 0#8 0#8 a
  simpa using h

theorem mulBits_comm (a b : BitVec 8) : mulBits a b = mulBits b a := by
  induction a using xor_induction with
  | zero => rw [mulBits_zero_left, mulBits_zero_right]
  | xor a a' ha ha' => rw [mulBits_xor_left, mulBits_xor_right, ha, ha']
  | bits index hindex =>
      induction b using xor_induction with
      | zero => rw [mulBits_zero_left, mulBits_zero_right]
      | xor b b' hb hb' => rw [mulBits_xor_left, mulBits_xor_right, hb, hb']
      | bits other hother =>
          have hbits : ∀ index < 8, ∀ other < 8,
              mulBits (bit index) (bit other) = mulBits (bit other) (bit index) := by
            decide +kernel
          exact hbits index hindex other hother

theorem mulBits_assoc (a b c : BitVec 8) :
    mulBits (mulBits a b) c = mulBits a (mulBits b c) := by
  induction a using xor_induction with
  | zero => rw [mulBits_zero_left, mulBits_zero_left, mulBits_zero_left]
  | xor a a' ha ha' =>
      rw [mulBits_xor_left, mulBits_xor_left, mulBits_xor_left, ha, ha']
  | bits i hi =>
      induction b using xor_induction with
      | zero =>
          rw [mulBits_zero_right, mulBits_zero_left, mulBits_zero_right]
      | xor b b' hb hb' =>
          rw [mulBits_xor_right, mulBits_xor_left, mulBits_xor_left, mulBits_xor_right, hb, hb']
      | bits j hj =>
          induction c using xor_induction with
          | zero => rw [mulBits_zero_right, mulBits_zero_right, mulBits_zero_right]
          | xor c c' hc hc' =>
              rw [mulBits_xor_right, mulBits_xor_right, mulBits_xor_right, hc, hc']
          | bits k hk =>
              have hbits : ∀ i < 8, ∀ j < 8, ∀ k < 8,
                  mulBits (mulBits (bit i) (bit j)) (bit k) =
                    mulBits (bit i) (mulBits (bit j) (bit k)) := by
                decide +kernel
              exact hbits i hi j hj k hk

theorem one_mulBits (a : BitVec 8) : mulBits 1#8 a = a := by
  induction a using xor_induction with
  | zero => exact mulBits_zero_right _
  | xor a a' ha ha' => rw [mulBits_xor_right, ha, ha']
  | bits index hindex =>
      have hbits : ∀ index < 8, mulBits 1#8 (bit index) = bit index := by decide +kernel
      exact hbits index hindex

/-! ## Ring -/

instance : Zero ByteField := ⟨⟨0#8⟩⟩

instance : One ByteField := ⟨⟨1#8⟩⟩

instance : Add ByteField := ⟨fun a b => ⟨a.bits ^^^ b.bits⟩⟩

instance : Neg ByteField := ⟨id⟩

instance : Mul ByteField := ⟨fun a b => ⟨mulBits a.bits b.bits⟩⟩

instance : CommRing ByteField where
  add_assoc _ _ _ := ByteField.ext (BitVec.xor_assoc _ _ _)
  zero_add _ := ByteField.ext BitVec.zero_xor
  add_zero _ := ByteField.ext BitVec.xor_zero
  add_comm _ _ := ByteField.ext (BitVec.xor_comm _ _)
  neg_add_cancel _ := ByteField.ext BitVec.xor_self
  mul_assoc _ _ _ := ByteField.ext (mulBits_assoc _ _ _)
  one_mul _ := ByteField.ext (one_mulBits _)
  mul_one a := ByteField.ext (by
    change mulBits a.bits 1#8 = a.bits
    rw [mulBits_comm, one_mulBits])
  mul_comm _ _ := ByteField.ext (mulBits_comm _ _)
  left_distrib _ _ _ := ByteField.ext (mulBits_xor_right _ _ _)
  right_distrib _ _ _ := ByteField.ext (mulBits_xor_left _ _ _)
  zero_mul _ := ByteField.ext (mulBits_zero_left _)
  mul_zero _ := ByteField.ext (mulBits_zero_right _)
  nsmul := nsmulRec
  zsmul := zsmulRec

/-! ## Inverses -/

def square (a : ByteField) : ByteField := a * a

theorem add_self (a : ByteField) : a + a = 0 := ByteField.ext BitVec.xor_self

theorem square_add (a b : ByteField) : square (a + b) = square a + square b := by
  have hcross : a * b + b * a = 0 := by
    rw [mul_comm b a]
    exact add_self _
  calc
    square (a + b) = a * a + b * b + (a * b + b * a) := by unfold square; ring
    _ = square a + square b := by rw [hcross, add_zero]; rfl

theorem iterate_square (a : ByteField) : square^[8] a = a := by
  have hadd : ∀ (count : Nat) (a b : ByteField),
      square^[count] (a + b) = square^[count] a + square^[count] b := by
    intro count
    induction count with
    | zero => exact fun _ _ => rfl
    | succ count ih =>
        intro a b
        rw [Function.iterate_succ_apply, Function.iterate_succ_apply,
          Function.iterate_succ_apply, square_add, ih]
  obtain ⟨bits⟩ := a
  induction bits using xor_induction with
  | zero => decide +kernel
  | bits index hindex =>
      have hbits : ∀ index < 8, square^[8] ⟨bit index⟩ = ⟨bit index⟩ := by decide +kernel
      exact hbits index hindex
  | xor a b ha hb =>
      have hsum := hadd 8 ⟨a⟩ ⟨b⟩
      rw [ha, hb] at hsum
      exact hsum

theorem pow_card (a : ByteField) : a ^ 256 = a := by
  calc
    a ^ 256 = square^[8] a := by
      simp only [Function.iterate_succ, Function.iterate_zero, Function.comp_apply, id_eq,
        square]
      ring
    _ = a := iterate_square a

theorem eq_zero_or_one {a : ByteField} (h : a * a = a) : a = 0 ∨ a = 1 := by
  have hbits : ∀ bits : BitVec 8, mulBits bits bits = bits → bits = 0#8 ∨ bits = 1#8 := by
    decide +kernel
  rcases hbits a.bits (congrArg bits h) with hzero | hone
  · exact Or.inl (ByteField.ext hzero)
  · exact Or.inr (ByteField.ext hone)

theorem pow_units {a : ByteField} (h : a ≠ 0) : a ^ 255 = 1 := by
  have hidem : a ^ 255 * a ^ 255 = a ^ 255 := by
    calc
      a ^ 255 * a ^ 255 = a ^ 256 * a ^ 254 := by ring
      _ = a ^ 255 := by rw [pow_card]; ring
  rcases eq_zero_or_one hidem with hzero | hone
  · exfalso
    apply h
    calc
      a = a ^ 255 * a := by rw [← pow_succ, pow_card]
      _ = 0 := by rw [hzero, zero_mul]
  · exact hone

/-- `a ^ (2 ^ count - 1)`. -/
def powOnes (a : ByteField) : Nat → ByteField
  | 0 => 1
  | count + 1 => a * square (powOnes a count)

instance : Inv ByteField := ⟨fun a => square (powOnes a 7)⟩

theorem inv_eq_pow (a : ByteField) : a⁻¹ = a ^ 254 := by
  change square (powOnes a 7) = a ^ 254
  simp only [powOnes, square]
  ring

instance : Field ByteField where
  exists_pair_ne := ⟨0, 1, by decide⟩
  mul_inv_cancel a h := by
    rw [inv_eq_pow, ← pow_succ', pow_units h]
  inv_zero := by
    rw [inv_eq_pow]
    exact zero_pow (by decide)
  nnqsmul := _
  qsmul := _

end ByteField

end PicooCamera.Library
