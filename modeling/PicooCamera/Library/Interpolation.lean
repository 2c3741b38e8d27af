import Mathlib

/-!
# Interpolation at a point

Lagrange interpolation by its sum of products, so that it computes over a
computable field. Values that lie on one polynomial of low degree are
interpolated to the same result from any set of nodes that is large enough,
which is why a Reed-Solomon code can be decoded from any of its symbols.
-/

namespace PicooCamera.Library

universe u

variable {F : Type u} [Field F] {node : Nat → F} {s t : Finset Nat}

/-- The value at `x` of the polynomial with the given values at the nodes of `s`. -/
def interpolateAt (s : Finset Nat) (node value : Nat → F) (x : F) : F :=
  ∑ i ∈ s, value i * ∏ j ∈ s.erase i, (node i - node j)⁻¹ * (x - node j)

theorem interpolateAt_eq_eval (s : Finset Nat) (node value : Nat → F) (x : F) :
    interpolateAt s node value x = (Lagrange.interpolate s node value).eval x := by
  rw [Lagrange.interpolate_apply, Polynomial.eval_finsetSum]
  unfold interpolateAt Lagrange.basis Lagrange.basisDivisor
  refine Finset.sum_congr rfl fun i _ => ?_
  rw [Polynomial.eval_mul, Polynomial.eval_C, Polynomial.eval_prod]
  refine congrArg (value i * ·) (Finset.prod_congr rfl fun j _ => ?_)
  rw [Polynomial.eval_mul, Polynomial.eval_C, Polynomial.eval_sub, Polynomial.eval_X,
    Polynomial.eval_C]

theorem interpolateAt_node (hnode : Set.InjOn node s) (value : Nat → F) {i : Nat}
    (hi : i ∈ s) : interpolateAt s node value (node i) = value i := by
  rw [interpolateAt_eq_eval]
  exact Lagrange.eval_interpolate_at_node value hnode hi

theorem interpolateAt_eq (hs : Set.InjOn node s) (ht : Set.InjOn node t)
    (hcard : s.card ≤ t.card) {value value' : Nat → F}
    (h : ∀ i ∈ t, value' i = interpolateAt s node value (node i)) (x : F) :
    interpolateAt t node value' x = interpolateAt s node value x := by
  have hdegree : (Lagrange.interpolate s node value).degree < t.card :=
    lt_of_lt_of_le (Lagrange.degree_interpolate_lt value hs) (by exact_mod_cast hcard)
  have heq : Lagrange.interpolate s node value = Lagrange.interpolate t node value' := by
    refine Lagrange.eq_interpolate_of_eval_eq value' ht hdegree fun i hi => ?_
    rw [h i hi, interpolateAt_eq_eval]
  rw [interpolateAt_eq_eval, interpolateAt_eq_eval, heq]

end PicooCamera.Library
