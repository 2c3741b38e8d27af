import Mathlib

/-!
# Histories

A history is the list of events of a run, the last event last. `Splits P h` says
of every event of the history how what came before it and what came after it
are related.
-/

namespace PicooCamera.Library

universe u v

variable {α : Type u} {β : Type v} {h : List α} {e x : α}

theorem snoc_eq_split {before after : List α} (heq : h ++ [e] = before ++ x :: after) :
    (before = h ∧ x = e ∧ after = []) ∨
      ∃ early, after = early ++ [e] ∧ h = before ++ x :: early := by
  cases after using List.reverseRecOn with
  | nil =>
      obtain ⟨hbefore, hx⟩ := List.append_inj' heq rfl
      exact Or.inl ⟨hbefore.symm, (List.cons.inj hx).1.symm, rfl⟩
  | append_singleton early last =>
      rw [← List.cons_append, ← List.append_assoc] at heq
      obtain ⟨hfront, hlast⟩ := List.append_inj' heq rfl
      exact Or.inr ⟨early, by rw [(List.cons.inj hlast).1], hfront⟩

def Splits (P : List α → α → List α → Prop) (h : List α) : Prop :=
  ∀ before x after, h = before ++ x :: after → P before x after

theorem Splits.nil {P : List α → α → List α → Prop} : Splits P [] := by
  intro before x after heq
  exact absurd heq (by simp)

theorem Splits.snoc {P : List α → α → List α → Prop} (hnew : P h e [])
    (hold : ∀ before x early, h = before ++ x :: early → P before x (early ++ [e])) :
    Splits P (h ++ [e]) := by
  intro before x after heq
  cases snoc_eq_split heq with
  | inl hlast =>
      obtain ⟨rfl, rfl, rfl⟩ := hlast
      exact hnew
  | inr hearly =>
      obtain ⟨early, rfl, hsplit⟩ := hearly
      exact hold before x early hsplit

theorem filterMap_snoc (f : α → Option β) (l : List α) (a : α) :
    (l ++ [a]).filterMap f = l.filterMap f ++ (f a).toList := by
  rw [List.filterMap_append]
  cases hfa : f a <;> simp [hfa]

theorem filterMap_cons_toList (f : α → Option β) (a : α) (l : List α) :
    (a :: l).filterMap f = (f a).toList ++ l.filterMap f := by
  rw [List.filterMap_cons]
  cases f a <;> rfl

/-! ## What stands at the end -/

/-- `x` was announced and nothing later has superseded it. -/
def Stands (announces : α → Option β) (supersedes : α → β → Prop) (h : List α) (x : β) : Prop :=
  ∃ before e after, h = before ++ e :: after ∧ announces e = some x ∧
    ∀ later ∈ after, ¬supersedes later x

section Stands

variable {announces : α → Option β} {supersedes : α → β → Prop} {x : β}

theorem stands_nil : ¬Stands announces supersedes [] x := by
  rintro ⟨before, e, after, heq, _⟩
  exact absurd heq (by simp)

theorem stands_snoc : Stands announces supersedes (h ++ [e]) x ↔
    announces e = some x ∨ Stands announces supersedes h x ∧ ¬supersedes e x := by
  constructor
  · rintro ⟨before, own, after, heq, hown, hafter⟩
    rcases snoc_eq_split heq with ⟨_, rfl, _⟩ | ⟨early, rfl, hsplit⟩
    · exact Or.inl hown
    · refine Or.inr ⟨⟨before, own, early, hsplit, hown, fun later hlater => ?_⟩, ?_⟩
      · exact hafter later (List.mem_append_left _ hlater)
      · exact hafter e (List.mem_append_right _ (List.mem_singleton_self e))
  · rintro (hown | ⟨⟨before, own, after, rfl, hown, hafter⟩, hlast⟩)
    · exact ⟨h, e, [], rfl, hown, nofun⟩
    · refine ⟨before, own, after ++ [e], by simp, hown, fun later hlater => ?_⟩
      rcases List.mem_append.mp hlater with hearly | hnew
      · exact hafter later hearly
      · rwa [List.mem_singleton.mp hnew]

end Stands

/-! ## Removing one element -/

theorem filterMap_eraseIdx_sublist (f : α → Option β) (l : List α) (i : Nat) :
    ((l.eraseIdx i).filterMap f).Sublist (l.filterMap f) :=
  (l.eraseIdx_sublist i).filterMap f

theorem filterMap_eraseIdx_of_none {f : α → Option β} {l : List α} {i : Nat} {hi : i < l.length}
    (hnone : f l[i] = none) : (l.eraseIdx i).filterMap f = l.filterMap f := by
  induction l generalizing i with
  | nil => rfl
  | cons a l ih =>
      cases i with
      | zero =>
          simp only [List.getElem_cons_zero] at hnone
          rw [List.eraseIdx_cons_zero, List.filterMap_cons_none hnone]
      | succ i =>
          have hrest : f (l.get ⟨i, by simpa using hi⟩) = none := by simpa using hnone
          rw [List.eraseIdx_cons_succ, List.filterMap_cons, List.filterMap_cons, ih hrest]

end PicooCamera.Library
