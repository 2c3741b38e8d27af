import Mathlib

/-!
# Keys of least and greatest weight in a finite map

Rust's `iter().min_by_key(..)` and `.max()` over the keys of a hash map, for
extensional tree maps and sets: the result does not depend on the order in
which a hash map is walked as long as the weight is injective on the keys.
-/

namespace PicooCamera.Library

universe u v

/-! ## Membership under a lawful comparison -/

section Membership

variable {α : Type u} {β : Type v} {cmp : α → α → Ordering} [Std.TransCmp cmp]
  [Std.LawfulEqCmp cmp]

theorem mem_map_erase {map : Std.ExtTreeMap α β cmp} {key k : α} :
    k ∈ map.erase key ↔ k ≠ key ∧ k ∈ map := by
  rw [Std.ExtTreeMap.mem_erase, ne_eq, Std.LawfulEqCmp.compare_eq_iff_eq, ne_comm]

theorem mem_map_insert {map : Std.ExtTreeMap α β cmp} {key k : α} {value : β} :
    k ∈ map.insert key value ↔ k = key ∨ k ∈ map := by
  rw [Std.ExtTreeMap.mem_insert, Std.LawfulEqCmp.compare_eq_iff_eq, eq_comm]

theorem mem_set_erase {set : Std.ExtTreeSet α cmp} {key k : α} :
    k ∈ set.erase key ↔ k ≠ key ∧ k ∈ set := by
  rw [Std.ExtTreeSet.mem_erase, ne_eq, Std.LawfulEqCmp.compare_eq_iff_eq, ne_comm]

theorem mem_set_insert {set : Std.ExtTreeSet α cmp} {key k : α} :
    k ∈ set.insert key ↔ k = key ∨ k ∈ set := by
  rw [Std.ExtTreeSet.mem_insert, Std.LawfulEqCmp.compare_eq_iff_eq, eq_comm]

omit [Std.LawfulEqCmp cmp] in
theorem values_eq_map_toList (map : Std.ExtTreeMap α β cmp) :
    map.values = map.toList.map Prod.snd := by
  have h : map.values = map.foldr (fun _ value values => value :: values) [] := rfl
  rw [h, Std.ExtTreeMap.foldr_eq_foldr_toList]
  induction map.toList with
  | nil => rfl
  | cons entry entries ih => rw [List.foldr_cons, ih, List.map_cons]

theorem mem_values_iff {map : Std.ExtTreeMap α β cmp} {value : β} :
    value ∈ map.values ↔ ∃ key : α, map[key]? = some value := by
  rw [values_eq_map_toList, List.mem_map]
  constructor
  · rintro ⟨⟨key, _⟩, hmem, rfl⟩
    exact ⟨key, Std.ExtTreeMap.mem_toList_iff_getElem?_eq_some.mp hmem⟩
  · rintro ⟨key, hkey⟩
    exact ⟨(key, value), Std.ExtTreeMap.mem_toList_iff_getElem?_eq_some.mpr hkey, rfl⟩

end Membership

/-! ## Maps on an initial segment -/

section Segment

variable {β : Type v} {map : Std.ExtTreeMap Nat β} {bound : Nat}

private theorem keys_subset_range (h : ∀ key ∈ map, key < bound) :
    List.Subperm map.keys (List.range bound) := by
  refine List.subperm_of_subset Std.ExtTreeMap.nodup_keys ?_
  intro key hkey
  exact List.mem_range.mpr (h key (Std.ExtTreeMap.mem_keys.mp hkey))

theorem size_le_of_keys_lt (h : ∀ key ∈ map, key < bound) : map.size ≤ bound := by
  have hle := (keys_subset_range h).length_le
  rwa [Std.ExtTreeMap.length_keys, List.length_range] at hle

theorem size_eq_iff_covers (h : ∀ key ∈ map, key < bound) :
    map.size = bound ↔ ∀ key < bound, key ∈ map := by
  constructor
  · intro hsize key hkey
    have hperm : map.keys.Perm (List.range bound) := by
      refine (keys_subset_range h).perm_of_length_le ?_
      rw [Std.ExtTreeMap.length_keys, hsize, List.length_range]
    exact Std.ExtTreeMap.mem_keys.mp (hperm.mem_iff.mpr (List.mem_range.mpr hkey))
  · intro hall
    have hge : List.Subperm (List.range bound) map.keys := by
      refine List.subperm_of_subset List.nodup_range ?_
      intro key hkey
      exact Std.ExtTreeMap.mem_keys.mpr (hall key (List.mem_range.mp hkey))
    have hle := hge.length_le
    rw [Std.ExtTreeMap.length_keys, List.length_range] at hle
    exact Nat.le_antisymm (size_le_of_keys_lt h) hle

end Segment

/-! ## Bounds and greatest elements -/

/-- `Option::map_or(value, |bound| bound.max(value))`: a bound that only rises. -/
def raiseBound (bound : Option Nat) (value : Nat) : Nat :=
  match bound with
  | none => value
  | some current => max current value

/-- `bound.is_some_and(|bound| value <= bound)`. -/
def atOrBelow (bound : Option Nat) (value : Nat) : Prop :=
  ∃ current, bound = some current ∧ value ≤ current

instance (bound : Option Nat) (value : Nat) : Decidable (atOrBelow bound value) :=
  match bound with
  | none => isFalse (by simp [atOrBelow])
  | some current => decidable_of_iff (value ≤ current) (by simp [atOrBelow])

@[simp] theorem not_atOrBelow_none (value : Nat) : ¬ atOrBelow none value := by
  simp [atOrBelow]

@[simp] theorem atOrBelow_some {current value : Nat} :
    atOrBelow (some current) value ↔ value ≤ current := by
  simp [atOrBelow]

@[simp] theorem atOrBelow_raiseBound {bound : Option Nat} {raised value : Nat} :
    atOrBelow (some (raiseBound bound raised)) value ↔
      atOrBelow bound value ∨ value ≤ raised := by
  cases bound with
  | none => simp [raiseBound]
  | some current => simp [raiseBound]

theorem atOrBelow_of_le {bound : Option Nat} {value smaller : Nat}
    (h : atOrBelow bound value) (hle : smaller ≤ value) : atOrBelow bound smaller := by
  obtain ⟨current, hbound, hvalue⟩ := h
  exact ⟨current, hbound, Nat.le_trans hle hvalue⟩

/-- `Iterator::max` of a list of numbers. -/
def maxOf (values : List Nat) : Option Nat :=
  values.foldl (fun bound value => some (raiseBound bound value)) none

private theorem foldl_maxOf {values : List Nat} {bound : Option Nat} {value : Nat} :
    atOrBelow (values.foldl (fun bound value => some (raiseBound bound value)) bound) value ↔
      atOrBelow bound value ∨ ∃ v ∈ values, value ≤ v := by
  induction values generalizing bound with
  | nil => simp
  | cons v values ih =>
      rw [List.foldl_cons, ih, atOrBelow_raiseBound, or_assoc]
      simp

theorem atOrBelow_maxOf {values : List Nat} {value : Nat} :
    atOrBelow (maxOf values) value ↔ ∃ v ∈ values, value ≤ v := by
  rw [maxOf, foldl_maxOf]
  simp

theorem le_maxOf {values : List Nat} {top v : Nat} (h : maxOf values = some top)
    (hv : v ∈ values) : v ≤ top := by
  have hbelow : atOrBelow (maxOf values) v := atOrBelow_maxOf.mpr ⟨v, hv, Nat.le_refl v⟩
  rw [h] at hbelow
  simpa using hbelow

theorem maxOf_eq_none {values : List Nat} : maxOf values = none ↔ values = [] := by
  cases values with
  | nil => simp [maxOf]
  | cons v values =>
      have hbelow : atOrBelow (maxOf (v :: values)) v :=
        atOrBelow_maxOf.mpr ⟨v, by simp, Nat.le_refl v⟩
      constructor
      · intro hnone
        rw [hnone] at hbelow
        exact absurd hbelow (not_atOrBelow_none v)
      · intro hcons
        exact absurd hcons (by simp)

end PicooCamera.Library
