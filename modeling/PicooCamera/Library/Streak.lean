import Mathlib

/-!
# Runs of consecutive items in a history

A history is a list with the latest item last. `streak p` counts how many of
its last items satisfy `p` without interruption, as a counter that is cleared
by any other item does; `HasRun p n` says that `n` such items stand somewhere
in a row.
-/

namespace PicooCamera.Library

universe u

variable {α : Type u} {p : α → Prop}

/-- Some `n` consecutive items satisfy `p`. -/
def HasRun (p : α → Prop) (n : Nat) (history : List α) : Prop :=
  ∃ before run after, history = before ++ run ++ after ∧ run.length = n ∧ ∀ x ∈ run, p x

/-- How many items at the end of the history satisfy `p` in a row. -/
def streak (p : α → Prop) [DecidablePred p] (history : List α) : Nat :=
  (history.reverse.takeWhile fun x => p x).length

theorem HasRun.append_left {n : Nat} {history : List α} (h : HasRun p n history)
    (before : List α) : HasRun p n (before ++ history) := by
  obtain ⟨before', run, after, rfl, hlength, hall⟩ := h
  exact ⟨before ++ before', run, after, by simp, hlength, hall⟩

theorem HasRun.append_right {n : Nat} {history : List α} (h : HasRun p n history)
    (after : List α) : HasRun p n (history ++ after) := by
  obtain ⟨before, run, after', rfl, hlength, hall⟩ := h
  exact ⟨before, run, after' ++ after, by simp, hlength, hall⟩

theorem HasRun.length_le {n : Nat} {history : List α} (h : HasRun p n history) :
    n ≤ history.length := by
  obtain ⟨before, run, after, rfl, rfl, _⟩ := h
  simp only [List.length_append]
  omega

section Streak

variable [DecidablePred p]

@[simp] theorem streak_nil : streak p [] = 0 := rfl

theorem streak_snoc_of_pos {history : List α} {x : α} (h : p x) :
    streak p (history ++ [x]) = streak p history + 1 := by
  unfold streak
  rw [List.reverse_append, List.reverse_singleton, List.singleton_append,
    List.takeWhile_cons_of_pos (by simpa using h), List.length_cons]

theorem streak_snoc_of_neg {history : List α} {x : α} (h : ¬ p x) :
    streak p (history ++ [x]) = 0 := by
  unfold streak
  rw [List.reverse_append, List.reverse_singleton, List.singleton_append,
    List.takeWhile_cons_of_neg (by simpa using h), List.length_nil]

theorem le_streak_iff {n : Nat} {history : List α} :
    n ≤ streak p history ↔
      ∃ before run, history = before ++ run ∧ run.length = n ∧ ∀ x ∈ run, p x := by
  induction history using List.reverseRecOn generalizing n with
  | nil =>
      constructor
      · intro h
        exact ⟨[], [], rfl, (Nat.le_zero.mp h).symm, fun x hx => by cases hx⟩
      · rintro ⟨before, run, hsplit, rfl, _⟩
        have hrun : run = [] := (List.append_eq_nil_iff.mp hsplit.symm).2
        rw [hrun]
        exact Nat.le_refl 0
  | append_singleton history x ih =>
      constructor
      · intro h
        cases n with
        | zero => exact ⟨history ++ [x], [], by simp, rfl, fun y hy => by cases hy⟩
        | succ n =>
            by_cases hx : p x
            · rw [streak_snoc_of_pos hx] at h
              obtain ⟨before, run, rfl, hlength, hall⟩ := ih.mp (Nat.le_of_succ_le_succ h)
              refine ⟨before, run ++ [x], by simp, by simp [hlength], ?_⟩
              intro y hy
              rcases List.mem_append.mp hy with hy | hy
              · exact hall y hy
              · rwa [List.mem_singleton.mp hy]
            · rw [streak_snoc_of_neg hx] at h
              exact absurd h (Nat.not_succ_le_zero n)
      · rintro ⟨before, run, hsplit, rfl, hall⟩
        cases run using List.reverseRecOn with
        | nil => exact Nat.zero_le _
        | append_singleton run y =>
            rw [← List.append_assoc] at hsplit
            obtain ⟨hsplit, hlast⟩ := List.append_inj' hsplit rfl
            have hxy : x = y := by simpa using hlast
            have hx : p x := hxy ▸ hall y (by simp)
            rw [streak_snoc_of_pos hx, List.length_append, List.length_singleton]
            refine Nat.succ_le_succ (ih.mpr ⟨before, run, hsplit, rfl, ?_⟩)
            exact fun z hz => hall z (List.mem_append_left _ hz)

theorem hasRun_snoc {n : Nat} {history : List α} {x : α} :
    HasRun p n (history ++ [x]) ↔ HasRun p n history ∨ n ≤ streak p (history ++ [x]) := by
  constructor
  · rintro ⟨before, run, after, hsplit, hlength, hall⟩
    cases after using List.reverseRecOn with
    | nil =>
        rw [List.append_nil] at hsplit
        exact Or.inr (le_streak_iff.mpr ⟨before, run, hsplit, hlength, hall⟩)
    | append_singleton after y =>
        rw [← List.append_assoc] at hsplit
        exact Or.inl ⟨before, run, after, (List.append_inj' hsplit rfl).1, hlength, hall⟩
  · rintro (h | h)
    · exact h.append_right [x]
    · obtain ⟨before, run, hsplit, hlength, hall⟩ := le_streak_iff.mp h
      exact ⟨before, run, [], by rw [hsplit, List.append_nil], hlength, hall⟩

end Streak

/-- Where the first run of two ends with `last`, what follows any run of two is a suffix of
what follows `last`. -/
theorem suffix_of_earliest {earliest before after after' : List α} {last x y : α}
    (hnone : ¬ HasRun p 2 earliest) (hx : p x) (hy : p y)
    (hsplit : earliest ++ last :: after = before ++ x :: y :: after') : after' <:+ after := by
  have hle : earliest.length < before.length + 2 := by
    by_contra hge
    have hlong : before ++ [x, y] <+: earliest ++ last :: after :=
      ⟨after', by rw [hsplit]; simp⟩
    have htake : before ++ [x, y] <+: earliest := by
      refine List.prefix_of_prefix_length_le hlong (List.prefix_append _ _) ?_
      simp only [List.length_append, List.length_cons, List.length_nil]
      omega
    obtain ⟨rest, rfl⟩ := htake
    refine hnone ⟨before, [x, y], rest, rfl, rfl, ?_⟩
    intro z hz
    rcases List.mem_cons.mp hz with rfl | hz
    · exact hx
    · rwa [List.mem_singleton.mp hz]
  have hlength := congrArg List.length hsplit
  simp only [List.length_append, List.length_cons] at hlength
  have hlong : after' <:+ earliest ++ last :: after := by
    rw [hsplit]
    exact ⟨before ++ [x, y], by simp⟩
  have hown : after <:+ earliest ++ last :: after := ⟨earliest ++ [last], by simp⟩
  exact List.suffix_of_suffix_length_le hlong hown (by omega)

end PicooCamera.Library
