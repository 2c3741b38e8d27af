import Mathlib

/-!
# Stable insertion by a key

`orderedInsert` with the strict order of a key puts an element behind those whose
key is not larger. A sorted list stays sorted, and elements of one key stay in
the order in which they were inserted.
-/

namespace PicooCamera.Library

universe u v

variable {α : Type u} {κ : Type v} [LinearOrder κ] {key : α → κ} {l : List α}

def SortedBy (key : α → κ) (l : List α) : Prop := l.Pairwise fun a b => key a ≤ key b

def insertBehind (key : α → κ) (a : α) (l : List α) : List α :=
  l.orderedInsert (fun a b => key a < key b) a

theorem insertBehind_nil (a : α) : insertBehind key a [] = [a] := rfl

theorem insertBehind_cons (a b : α) (l : List α) :
    insertBehind key a (b :: l) =
      if key a < key b then a :: b :: l else b :: insertBehind key a l := rfl

theorem insertBehind_perm (a : α) (l : List α) : (insertBehind key a l).Perm (a :: l) :=
  List.perm_orderedInsert _ a l

theorem SortedBy.insertBehind (h : SortedBy key l) (a : α) :
    SortedBy key (insertBehind key a l) := by
  induction l with
  | nil => exact List.pairwise_singleton _ a
  | cons b l ih =>
      obtain ⟨hhead, htail⟩ := List.pairwise_cons.mp h
      rw [insertBehind_cons]
      by_cases hlt : key a < key b
      · rw [if_pos hlt]
        refine List.pairwise_cons.mpr ⟨?_, h⟩
        intro c hc
        cases List.mem_cons.mp hc with
        | inl heq => exact heq ▸ hlt.le
        | inr hrest => exact hlt.le.trans (hhead c hrest)
      · rw [if_neg hlt]
        refine List.pairwise_cons.mpr ⟨?_, ih htail⟩
        intro c hc
        cases List.mem_cons.mp ((insertBehind_perm a l).mem_iff.mp hc) with
        | inl heq => exact heq ▸ not_lt.mp hlt
        | inr hrest => exact hhead c hrest

theorem SortedBy.filter_insertBehind (h : SortedBy key l) (a : α) (k : κ) :
    (Library.insertBehind key a l).filter (key · = k) =
      l.filter (key · = k) ++ if key a = k then [a] else [] := by
  induction l with
  | nil =>
      rw [insertBehind_nil]
      by_cases hk : key a = k <;> simp [hk]
  | cons b l ih =>
      obtain ⟨hhead, htail⟩ := List.pairwise_cons.mp h
      rw [insertBehind_cons]
      by_cases hlt : key a < key b
      · rw [if_pos hlt]
        by_cases hk : key a = k
        · -- behind the place of insertion every key is larger
          have hnone : (b :: l).filter (key · = k) = [] := by
            rw [List.filter_eq_nil_iff]
            intro c hc
            have hle : key b ≤ key c := by
              cases List.mem_cons.mp hc with
              | inl heq => exact heq ▸ le_refl _
              | inr hrest => exact hhead c hrest
            simpa using (hk ▸ hlt.trans_le hle).ne'
          rw [List.filter_cons_of_pos (by simpa using hk), hnone, if_pos hk]
          rfl
        · rw [List.filter_cons_of_neg (by simpa using hk), if_neg hk, List.append_nil]
      · rw [if_neg hlt, List.filter_cons, List.filter_cons, ih htail]
        split <;> rfl

theorem SortedBy.sublist {l' : List α} (h : SortedBy key l) (hsub : l'.Sublist l) :
    SortedBy key l' := List.Pairwise.sublist hsub h

end PicooCamera.Library
