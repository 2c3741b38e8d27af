import Mathlib

/-!
# The first occurrence of a pattern

`window? p xs` is the position of the first of the consecutive windows of `xs`
that is `p`.
-/

namespace PicooCamera.Library

universe u

variable {α : Type u} [DecidableEq α] {p : List α}

def window? (p : List α) : List α → Option Nat
  | [] => if p = [] then some 0 else none
  | x :: xs => if p <+: x :: xs then some 0 else (window? p xs).map (· + 1)

theorem window?_cons_of_not {x : α} {xs : List α} (h : ¬ p <+: x :: xs) :
    window? p (x :: xs) = (window? p xs).map (· + 1) :=
  if_neg h

theorem window?_le (before after : List α) :
    ∃ i, window? p (before ++ p ++ after) = some i ∧ i ≤ before.length := by
  induction before with
  | nil =>
      refine ⟨0, ?_, Nat.le_refl 0⟩
      rw [List.nil_append]
      cases hxs : p ++ after with
      | nil => exact if_pos (List.append_eq_nil_iff.mp hxs).1
      | cons x xs =>
          rw [← hxs]
          unfold window?
          rw [hxs]
          exact if_pos (hxs ▸ List.prefix_append p after)
  | cons x before ih =>
      obtain ⟨i, hi, hle⟩ := ih
      by_cases hprefix : p <+: x :: (before ++ p ++ after)
      · exact ⟨0, if_pos hprefix, Nat.zero_le _⟩
      · refine ⟨i + 1, ?_, Nat.succ_le_succ hle⟩
        rw [List.cons_append, List.cons_append, window?_cons_of_not hprefix, hi]
        rfl

theorem window?_eq_none {xs : List α} : window? p xs = none ↔ ¬ p <:+: xs := by
  constructor
  · rintro hnone ⟨before, after, rfl⟩
    obtain ⟨i, hi, _⟩ := window?_le (p := p) before after
    rw [hnone] at hi
    exact absurd hi nofun
  · intro hnot
    induction xs with
    | nil =>
        refine if_neg fun hp => hnot ?_
        rw [hp]
    | cons x xs ih =>
        rw [window?_cons_of_not fun h => hnot h.isInfix,
          ih fun h => hnot (h.trans (List.suffix_cons x xs).isInfix)]
        rfl

theorem not_infix_of_window? {xs ys : List α} {i : Nat} (h : window? p xs = some i)
    (hys : ys <+: xs) (hlength : ys.length < i + p.length) : ¬ p <:+: ys := by
  rintro ⟨before, after, rfl⟩
  obtain ⟨rest, rfl⟩ := hys
  obtain ⟨j, hj, hle⟩ := window?_le (p := p) before (after ++ rest)
  rw [← List.append_assoc, h, Option.some_inj] at hj
  simp only [List.length_append] at hlength
  omega

theorem window?_lt {xs : List α} {i : Nat} (h : window? p xs = some i) :
    i + p.length ≤ xs.length := by
  induction xs generalizing i with
  | nil =>
      unfold window? at h
      split at h
      · rename_i hp
        rw [← Option.some.inj h, hp]
        exact Nat.le_refl 0
      · exact absurd h nofun
  | cons x xs ih =>
      unfold window? at h
      split at h
      · rename_i hprefix
        rw [← Option.some.inj h, Nat.zero_add]
        exact hprefix.length_le
      · obtain ⟨j, hj, rfl⟩ := Option.map_eq_some_iff.mp h
        have hle := ih hj
        rw [List.length_cons]
        omega

end PicooCamera.Library
