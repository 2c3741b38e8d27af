import Mathlib

/-!
# The first of a sorted list

Sorting by a key and taking the first gives an element of least key. Which one it
is does not depend on the order of the list, up to what the key determines.
-/

namespace PicooCamera.Library

variable {α β κ : Type*} [LinearOrder κ] {key : α → κ} {xs ys : List α} {x : α}

def leastBy (key : α → κ) (xs : List α) : Option α :=
  (xs.mergeSort fun a b => key a ≤ key b).head?

theorem leastBy_eq_none : leastBy key xs = none ↔ xs = [] := by
  unfold leastBy
  rw [List.head?_eq_none_iff]
  constructor
  · intro hnil
    have hperm := List.mergeSort_perm xs fun a b => key a ≤ key b
    rw [hnil] at hperm
    exact List.nil_perm.mp hperm
  · rintro rfl
    exact List.mergeSort_nil

theorem leastBy_spec (h : leastBy key xs = some x) : x ∈ xs ∧ ∀ y ∈ xs, key x ≤ key y := by
  unfold leastBy at h
  have hsorted : (xs.mergeSort fun a b => key a ≤ key b).Pairwise
      fun a b => decide (key a ≤ key b) = true := by
    apply List.pairwise_mergeSort
    · intro a b c hab hbc
      exact decide_eq_true ((of_decide_eq_true hab).trans (of_decide_eq_true hbc))
    · intro a b
      rcases le_total (key a) (key b) with hle | hle <;> simp [hle]
  obtain ⟨rest, heq⟩ := List.head?_eq_some_iff.mp h
  rw [heq, List.pairwise_cons] at hsorted
  have hmem : ∀ y, y ∈ x :: rest ↔ y ∈ xs := fun y => heq ▸ List.mem_mergeSort
  refine ⟨(hmem x).mp List.mem_cons_self, fun y hy => ?_⟩
  rcases List.mem_cons.mp ((hmem y).mpr hy) with rfl | hrest
  · exact le_rfl
  · exact of_decide_eq_true (hsorted.1 y hrest)

theorem leastBy_map_perm {f : α → β}
    (hkey : ∀ a ∈ xs, ∀ b ∈ xs, key a = key b → f a = f b) (hperm : xs.Perm ys) :
    (leastBy key xs).map f = (leastBy key ys).map f := by
  cases hxs : leastBy key xs with
  | none =>
      rw [leastBy_eq_none.mp hxs] at hperm
      rw [leastBy_eq_none.mpr (List.nil_perm.mp hperm)]
  | some a =>
      obtain ⟨ha, hleast⟩ := leastBy_spec hxs
      cases hys : leastBy key ys with
      | none =>
          rw [leastBy_eq_none.mp hys] at hperm
          rw [List.perm_nil.mp hperm] at ha
          exact absurd ha List.not_mem_nil
      | some b =>
          obtain ⟨hb, hleast'⟩ := leastBy_spec hys
          have hb' := hperm.mem_iff.mpr hb
          have hsame := le_antisymm (hleast b hb') (hleast' a (hperm.mem_iff.mp ha))
          rw [Option.map_some, Option.map_some, hkey a ha b hb' hsame]

end PicooCamera.Library
