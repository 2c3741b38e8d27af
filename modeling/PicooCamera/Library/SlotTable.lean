import Mathlib

/-!
# Slot tables

A fixed number of slots, each empty or holding an entry, where no two entries
have the same key.
-/

namespace PicooCamera.Library

universe u v w

variable {α : Type u} {κ : Type v} {key : α → κ} {slots : List (Option α)} {i : Nat} {a b : α}

def HeldOnce (key : α → κ) (slots : List (Option α)) : Prop :=
  ∀ (i j : Nat) (a b : α), slots[i]? = some (some a) → slots[j]? = some (some b) →
    key a = key b → i = j

theorem getElem?_set_of_mem {v w : Option α} (hslot : slots[i]? = some w) (j : Nat) :
    (slots.set i v)[j]? = if j = i then some v else slots[j]? := by
  obtain ⟨hlt, -⟩ := List.getElem?_eq_some_iff.mp hslot
  by_cases hj : j = i
  · rw [if_pos hj, hj, List.getElem?_set_self hlt]
  · rw [if_neg hj, List.getElem?_set_ne (Ne.symm hj)]

/-! ## Filling an empty slot -/

theorem mem_fill (hslot : slots[i]? = some none) :
    some b ∈ slots.set i (some a) ↔ b = a ∨ some b ∈ slots := by
  constructor
  · intro h
    obtain ⟨j, hj⟩ := List.mem_iff_getElem?.mp h
    rw [getElem?_set_of_mem hslot] at hj
    split at hj
    · cases hj
      exact Or.inl rfl
    · exact Or.inr (List.mem_of_getElem? hj)
  · rintro (rfl | h)
    · exact List.mem_of_getElem? (i := i) (by rw [getElem?_set_of_mem hslot, if_pos rfl])
    · obtain ⟨j, hj⟩ := List.mem_iff_getElem?.mp h
      apply List.mem_of_getElem? (i := j)
      rw [getElem?_set_of_mem hslot, if_neg, hj]
      rintro rfl
      rw [hslot] at hj
      cases hj

theorem HeldOnce.fill (h : HeldOnce key slots) (hslot : slots[i]? = some none)
    (hnew : ∀ b, some b ∈ slots → key b ≠ key a) : HeldOnce key (slots.set i (some a)) := by
  intro j k b c hj hk hkey
  rw [getElem?_set_of_mem hslot] at hj hk
  split at hj
  · split at hk
    · omega
    · cases hj
      exact (hnew c (List.mem_of_getElem? hk) hkey.symm).elim
  · split at hk
    · cases hk
      exact (hnew b (List.mem_of_getElem? hj) hkey).elim
    · exact h j k b c hj hk hkey

/-! ## Replacing an entry -/

theorem HeldOnce.replace (h : HeldOnce key slots) (hslot : slots[i]? = some (some a))
    {v : Option α} (hv : ∀ b, v = some b → key b = key a) : HeldOnce key (slots.set i v) := by
  intro j k b c hj hk hkey
  rw [getElem?_set_of_mem hslot] at hj hk
  split at hj
  · split at hk
    · omega
    · rename_i hji _
      have hb := hv b (Option.some.inj hj)
      exact hji.trans (h i k a c hslot hk (hb.symm.trans hkey))
  · split at hk
    · rename_i hki
      have hc := hv c (Option.some.inj hk)
      exact (h j i b a hj hslot (hkey.trans hc)).trans hki.symm
    · exact h j k b c hj hk hkey

theorem HeldOnce.mem_replace (h : HeldOnce key slots) (hslot : slots[i]? = some (some a))
    {v : Option α} : some b ∈ slots.set i v ↔ v = some b ∨ some b ∈ slots ∧ key b ≠ key a := by
  constructor
  · intro hmem
    obtain ⟨j, hj⟩ := List.mem_iff_getElem?.mp hmem
    rw [getElem?_set_of_mem hslot] at hj
    split at hj
    · exact Or.inl (Option.some.inj hj)
    · rename_i hji
      exact Or.inr ⟨List.mem_of_getElem? hj, fun hkey => hji (h j i b a hj hslot hkey)⟩
  · rintro (rfl | ⟨hmem, hkey⟩)
    · exact List.mem_of_getElem? (i := i) (by rw [getElem?_set_of_mem hslot, if_pos rfl])
    · obtain ⟨j, hj⟩ := List.mem_iff_getElem?.mp hmem
      apply List.mem_of_getElem? (i := j)
      rw [getElem?_set_of_mem hslot, if_neg, hj]
      rintro rfl
      rw [hslot] at hj
      cases hj
      exact hkey rfl

/-! ## The entries -/

theorem HeldOnce.tail {slot : Option α} (h : HeldOnce key (slot :: slots)) :
    HeldOnce key slots := by
  intro i j a b hi hj hkey
  exact Nat.succ.inj (h (i + 1) (j + 1) a b hi hj hkey)

theorem HeldOnce.nodup (h : HeldOnce key slots) : (slots.reduceOption.map key).Nodup := by
  induction slots with
  | nil => exact List.nodup_nil
  | cons slot slots ih =>
      cases slot with
      | none => exact ih h.tail
      | some a =>
          rw [List.reduceOption_cons_of_some, List.map_cons, List.nodup_cons]
          refine ⟨?_, ih h.tail⟩
          intro hmem
          obtain ⟨b, hb, hkey⟩ := List.mem_map.mp hmem
          obtain ⟨j, hj⟩ := List.mem_iff_getElem?.mp (List.reduceOption_mem_iff.mp hb)
          cases h (j + 1) 0 b a hj rfl hkey

theorem length_le_slots {keys : List κ} (hnodup : keys.Nodup)
    (hheld : ∀ k ∈ keys, ∃ a, some a ∈ slots ∧ key a = k) : keys.length ≤ slots.length := by
  have hsubset : keys ⊆ slots.reduceOption.map key := by
    intro k hk
    obtain ⟨a, ha, rfl⟩ := hheld k hk
    exact List.mem_map_of_mem (List.reduceOption_mem_iff.mpr ha)
  calc
    keys.length ≤ (slots.reduceOption.map key).length :=
      (List.subperm_of_subset hnodup hsubset).length_le
    _ = slots.reduceOption.length := List.length_map key
    _ ≤ slots.length := List.reduceOption_length_le slots

section Select

variable {β : Type w} [DecidableEq κ] {f : α → β} {l : List α} {k : κ}

theorem filterMap_key_of_forall (h : ∀ a ∈ l, key a ≠ k) :
    l.filterMap (fun a => if key a = k then some (f a) else none) = [] := by
  rw [List.filterMap_eq_nil_iff]
  intro a ha
  exact if_neg (h a ha)

theorem filterMap_key_of_mem (hnodup : (l.map key).Nodup) (ha : a ∈ l) :
    l.filterMap (fun b => if key b = key a then some (f b) else none) = [f a] := by
  induction l with
  | nil => cases ha
  | cons c l ih =>
      rw [List.map_cons, List.nodup_cons] at hnodup
      by_cases hkey : key c = key a
      · have hrest : ∀ b ∈ l, key b ≠ key a := by
          intro b hb heq
          exact hnodup.1 (List.mem_map.mpr ⟨b, hb, heq.trans hkey.symm⟩)
        have hca : a = c := by
          rcases List.mem_cons.mp ha with heq | hmem
          · exact heq
          · exact (hrest a hmem rfl).elim
        subst hca
        rw [List.filterMap_cons, if_pos rfl, filterMap_key_of_forall hrest]
      · rw [List.filterMap_cons, if_neg hkey]
        rcases List.mem_cons.mp ha with rfl | hmem
        · exact (hkey rfl).elim
        · exact ih hnodup.2 hmem

end Select

end PicooCamera.Library
