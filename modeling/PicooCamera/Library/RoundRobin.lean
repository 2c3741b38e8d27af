import Mathlib

/-!
# Round robin

A round robin visits `count` queues in turn: turn `round * count + queue` is
the turn of a queue in a round. Any run of at most `count` turns visits each
queue at most once.
-/

namespace PicooCamera.Library

theorem flatMap_rounds (rounds count : Nat) :
    (List.range rounds).flatMap (fun round =>
      (List.range count).map fun queue => round * count + queue) =
        List.range (rounds * count) := by
  induction rounds with
  | zero => simp
  | succ rounds ih =>
      rw [List.range_succ, List.flatMap_append, ih, List.flatMap_singleton, Nat.succ_mul,
        List.range_add]

theorem turn_unique {count first turn other queue : Nat} (hturn : first ≤ turn)
    (hturn' : turn < first + count) (hother : first ≤ other) (hother' : other < first + count)
    (hqueue : turn % count = queue) (hqueue' : other % count = queue) : turn = other := by
  have hdiv := Nat.div_add_mod turn count
  have hdiv' := Nat.div_add_mod other count
  rw [hqueue] at hdiv
  rw [hqueue'] at hdiv'
  rcases Nat.lt_trichotomy (turn / count) (other / count) with hlt | heq | hgt
  · have hmul := Nat.mul_le_mul_left count (Nat.succ_le_of_lt hlt)
    rw [Nat.mul_succ] at hmul
    omega
  · rw [heq] at hdiv
    omega
  · have hmul := Nat.mul_le_mul_left count (Nat.succ_le_of_lt hgt)
    rw [Nat.mul_succ] at hmul
    omega

theorem length_filter_run_le_one {α : Type} {total count length queue : Nat} {f : Nat → α}
    {p : α → Bool} (hlength : length ≤ count)
    (hqueue : ∀ turn < total, p (f turn) = true → turn % count = queue) (first : Nat) :
    (((((List.range total).map f).drop first).take length).filter p).length ≤ 1 := by
  have hrun : ∀ turn ∈ ((List.range total).drop first).take length,
      first ≤ turn ∧ turn < first + length ∧ turn < total := by
    intro turn hturn
    rw [List.range_eq_range', List.drop_range', List.mem_take_iff_getElem] at hturn
    obtain ⟨offset, hoffset, rfl⟩ := hturn
    rw [List.length_range'] at hoffset
    rw [List.getElem_range']
    omega
  have hnodup : ((((List.range total).drop first).take length).filter (p ∘ f)).Nodup :=
    ((List.nodup_range.sublist (List.drop_sublist _ _)).sublist (List.take_sublist _ _)).filter _
  rw [← List.map_drop, ← List.map_take, List.filter_map, List.length_map,
    ← List.toFinset_card_of_nodup hnodup, Finset.card_le_one]
  intro turn hturn other hother
  rw [List.mem_toFinset, List.mem_filter] at hturn hother
  obtain ⟨hfirst, hlast, htotal⟩ := hrun turn hturn.1
  obtain ⟨hfirst', hlast', htotal'⟩ := hrun other hother.1
  exact turn_unique hfirst (by omega) hfirst' (by omega) (hqueue turn htotal hturn.2)
    (hqueue other htotal' hother.2)

/-! ## Lists by index -/

theorem filterMap_range_of_lt {α : Type} {total count : Nat} (h : total ≤ count) (f : Nat → α) :
    (List.range count).filterMap (fun ix => if ix < total then some (f ix) else none) =
      (List.range total).map f := by
  obtain ⟨rest, rfl⟩ := Nat.exists_eq_add_of_le h
  have hfront : (List.range total).filterMap
      (fun ix => if ix < total then some (f ix) else none) = (List.range total).map f := by
    rw [← List.filterMap_eq_map]
    refine List.filterMap_congr fun ix hix => ?_
    rw [if_pos (List.mem_range.mp hix)]
    rfl
  have hback : ((List.range rest).map (total + ·)).filterMap
      (fun ix => if ix < total then some (f ix) else none) = [] := by
    rw [List.filterMap_eq_nil_iff]
    intro ix hix
    obtain ⟨offset, -, rfl⟩ := List.mem_map.mp hix
    rw [if_neg (Nat.not_lt.mpr (Nat.le_add_right _ _))]
  rw [List.range_add, List.filterMap_append, hfront, hback, List.append_nil]

theorem filterMap_getElem?_range {α : Type} (items : List α) {count : Nat}
    (h : items.length ≤ count) :
    (List.range count).filterMap (fun ix => items[ix]?) = items := by
  induction items generalizing count with
  | nil =>
      rw [List.filterMap_eq_nil_iff]
      exact fun _ _ => List.getElem?_nil
  | cons item items ih =>
      obtain ⟨rest, rfl⟩ := Nat.exists_eq_add_of_le h
      have hcount : (item :: items).length + rest = items.length + rest + 1 := by
        rw [List.length_cons]
        omega
      rw [hcount, List.range_succ_eq_map, List.filterMap_cons, List.getElem?_cons_zero,
        List.filterMap_map]
      exact congrArg (item :: ·) (ih (Nat.le_add_right _ _))

theorem flatMap_getElem?_range {α : Type} (items : List (List α)) {count : Nat}
    (h : items.length = count) :
    (List.range count).flatMap (fun ix => (items[ix]?).getD []) = items.flatten := by
  have hflatten : ∀ indices : List Nat,
      indices.flatMap (fun ix => (items[ix]?).getD []) =
        (indices.filterMap fun ix => items[ix]?).flatten := by
    intro indices
    induction indices with
    | nil => rfl
    | cons ix indices ih =>
        rw [List.flatMap_cons, ih, List.filterMap_cons]
        cases items[ix]? with
        | none => rfl
        | some item => rfl
  rw [hflatten, filterMap_getElem?_range items (Nat.le_of_eq h)]

end PicooCamera.Library
