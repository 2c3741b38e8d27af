import Mathlib

/-!
# Lists of properties

A list of keys with their values. Where the keys are distinct the list is a map, and
the order does not matter.
-/

namespace PicooCamera.Library

variable {α β : Type*} [DecidableEq α] {properties other : List (α × β)} {key : α} {value : β}

theorem mem_of_lookup (h : properties.lookup key = some value) : (key, value) ∈ properties := by
  obtain ⟨before, after, rfl, _⟩ := List.lookup_eq_some_iff.mp h
  exact List.mem_append_right _ List.mem_cons_self

theorem lookup_of_mem (hnodup : (properties.map Prod.fst).Nodup)
    (h : (key, value) ∈ properties) : properties.lookup key = some value := by
  obtain ⟨before, after, rfl⟩ := List.append_of_mem h
  refine List.lookup_eq_some_iff.mpr ⟨before, after, rfl, fun p hp => ?_⟩
  rw [List.map_append, List.map_cons, List.nodup_append] at hnodup
  have hother := hnodup.2.2 p.1 (List.mem_map_of_mem hp) key List.mem_cons_self
  rw [bne_iff_ne]
  exact hother.symm

theorem lookup_perm (hnodup : (properties.map Prod.fst).Nodup) (h : properties.Perm other) :
    other.lookup key = properties.lookup key := by
  have hnodup' : (other.map Prod.fst).Nodup := (h.map Prod.fst).nodup_iff.mp hnodup
  refine Option.ext fun value => ?_
  constructor
  · exact fun hfound => lookup_of_mem hnodup (h.mem_iff.mpr (mem_of_lookup hfound))
  · exact fun hfound => lookup_of_mem hnodup' (h.mem_iff.mp (mem_of_lookup hfound))

theorem perm_of_lookup {keys : List α} {get : α → β} (hnodup : (properties.map Prod.fst).Nodup)
    (hkeys : keys.Nodup) (hsubset : ∀ key ∈ properties.map Prod.fst, key ∈ keys)
    (hget : ∀ key ∈ keys, properties.lookup key = some (get key)) :
    properties.Perm (keys.map fun key => (key, get key)) := by
  have hpairs : (keys.map fun key => (key, get key)).Nodup :=
    hkeys.map fun _ _ heq => congrArg Prod.fst heq
  rw [List.perm_ext_iff_of_nodup hnodup.of_map hpairs]
  rintro ⟨key, value⟩
  rw [List.mem_map]
  constructor
  · intro hmem
    have hkey := hsubset key (List.mem_map_of_mem hmem)
    have hvalue := (hget key hkey).symm.trans (lookup_of_mem hnodup hmem)
    exact ⟨key, hkey, Prod.ext rfl (Option.some.inj hvalue)⟩
  · rintro ⟨own, hown, heq⟩
    rw [← heq]
    exact mem_of_lookup (hget own hown)

end PicooCamera.Library
