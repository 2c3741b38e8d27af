import Mathlib

/-!
# Splitting and trimming a text

A text is a list of characters. It is split at the last separator, and trimmed
of the characters that match at its ends.
-/

namespace PicooCamera.Library

universe u

variable {α : Type u} [DecidableEq α] {sep left right : α} {xs before after : List α}

/-- The parts before and behind the last separator. -/
def rsplitOnce (sep : α) : List α → Option (List α × List α)
  | [] => none
  | x :: xs =>
      match rsplitOnce sep xs with
      | some (before, after) => some (x :: before, after)
      | none => if x = sep then some ([], xs) else none

/-- Without the leading `left` and the trailing `right`. -/
def trimMatches (left right : α) (xs : List α) : List α :=
  (xs.dropWhile fun x => x = left).rdropWhile fun x => x = right

theorem rsplitOnce_of_not_mem (h : sep ∉ xs) : rsplitOnce sep xs = none := by
  induction xs with
  | nil => rfl
  | cons x xs ih =>
      rw [List.mem_cons, not_or] at h
      rw [rsplitOnce, ih h.2]
      exact if_neg fun heq => h.1 heq.symm

theorem rsplitOnce_append (h : sep ∉ after) :
    rsplitOnce sep (before ++ sep :: after) = some (before, after) := by
  induction before with
  | nil =>
      rw [List.nil_append, rsplitOnce, rsplitOnce_of_not_mem h]
      exact if_pos rfl
  | cons x before ih => rw [List.cons_append, rsplitOnce, ih]

theorem eq_append_of_mem (h : sep ∈ xs) : ∃ before after, xs = before ++ sep :: after ∧
    sep ∉ after := by
  induction xs with
  | nil => cases h
  | cons x xs ih =>
      by_cases hmem : sep ∈ xs
      · obtain ⟨before, after, rfl, hafter⟩ := ih hmem
        exact ⟨x :: before, after, rfl, hafter⟩
      · rcases List.mem_cons.mp h with rfl | htail
        · exact ⟨[], xs, rfl, hmem⟩
        · exact absurd htail hmem

theorem rdropWhile_of_not_mem (h : right ∉ xs) : (xs.rdropWhile fun x => x = right) = xs := by
  rw [List.rdropWhile_eq_self_iff]
  intro hne hlast
  exact h (of_decide_eq_true hlast ▸ List.getLast_mem hne)

theorem dropWhile_of_not_mem (h : left ∉ xs) : (xs.dropWhile fun x => x = left) = xs := by
  cases xs with
  | nil => rfl
  | cons x xs =>
      rw [List.dropWhile_cons_of_neg]
      rw [decide_eq_true_eq]
      rintro rfl
      exact h List.mem_cons_self

theorem trimMatches_of_not_mem (hleft : left ∉ xs) (hright : right ∉ xs) :
    trimMatches left right xs = xs := by
  unfold trimMatches
  rw [dropWhile_of_not_mem hleft, rdropWhile_of_not_mem hright]

theorem trimMatches_enclosed (hleft : left ∉ xs) (hright : right ∉ xs) (hne : left ≠ right) :
    trimMatches left right (left :: xs ++ [right]) = xs := by
  have hleft' : left ∉ xs ++ [right] := by
    rw [List.mem_append, List.mem_singleton, not_or]
    exact ⟨hleft, hne⟩
  unfold trimMatches
  rw [List.cons_append, List.dropWhile_cons, if_pos (decide_eq_true rfl),
    dropWhile_of_not_mem hleft', List.rdropWhile_concat, if_pos (decide_eq_true rfl),
    rdropWhile_of_not_mem hright]

end PicooCamera.Library
