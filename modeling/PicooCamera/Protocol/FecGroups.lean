import PicooCamera.Library.BalancedPartition
import PicooCamera.Protocol.VideoFec

/-!
# The groups of `fec_group_ranges`

The loop of `fec_group_ranges` and the lookup of `fec_group_for_fragment`
describe the same balanced partition: groups of at most six fragments, none of
them a single fragment unless the access unit is one.
-/

namespace PicooCamera.Protocol

open PicooCamera.Library

/-- The range of group `groupIndex` of an access unit. -/
def fecGroupRange (fragmentCount groupIndex : Nat) : FragmentRange :=
  let base := fragmentCount / fecGroupCount fragmentCount
  let larger := fragmentCount % fecGroupCount fragmentCount
  ⟨groupStart base larger groupIndex, groupStart base larger (groupIndex + 1)⟩

/-- The index of the group that holds one fragment. -/
def fecGroupIndex (fragmentCount fragmentIndex : Nat) : Nat :=
  groupIndexOf (fragmentCount / fecGroupCount fragmentCount)
    (fragmentCount % fecGroupCount fragmentCount) fragmentIndex

/-! ## Sizes -/

theorem fecGroupCount_pos {fragmentCount : Nat} (h : 0 < fragmentCount) :
    0 < fecGroupCount fragmentCount := by
  unfold fecGroupCount fecDataShards
  omega

theorem fecGroupBase_pos {fragmentCount : Nat} (h : 0 < fragmentCount) :
    0 < fragmentCount / fecGroupCount fragmentCount := by
  refine Nat.div_pos ?_ (fecGroupCount_pos h)
  unfold fecGroupCount fecDataShards
  omega

private theorem fecGroup_division (fragmentCount : Nat) :
    fecGroupCount fragmentCount * (fragmentCount / fecGroupCount fragmentCount) +
      fragmentCount % fecGroupCount fragmentCount = fragmentCount :=
  Nat.div_add_mod fragmentCount (fecGroupCount fragmentCount)

theorem fecGroupRange_len (fragmentCount groupIndex : Nat) :
    (fecGroupRange fragmentCount groupIndex).len =
      fragmentCount / fecGroupCount fragmentCount +
        if groupIndex < fragmentCount % fecGroupCount fragmentCount then 1 else 0 := by
  unfold FragmentRange.len fecGroupRange
  dsimp only
  rw [groupStart_succ, Nat.add_sub_cancel_left]

theorem fecGroupRange_len_pos {fragmentCount : Nat} (h : 0 < fragmentCount)
    (groupIndex : Nat) : 0 < (fecGroupRange fragmentCount groupIndex).len := by
  rw [fecGroupRange_len]
  have hbase := fecGroupBase_pos h
  omega

theorem fecGroupRange_len_le {fragmentCount : Nat} (h : 0 < fragmentCount)
    (groupIndex : Nat) :
    (fecGroupRange fragmentCount groupIndex).len ≤ fecDataShards := by
  rw [fecGroupRange_len]
  have hcount := fecGroupCount_pos h
  have hdiv := fecGroup_division fragmentCount
  have hfit : fragmentCount ≤ fecGroupCount fragmentCount * 6 := by
    unfold fecGroupCount fecDataShards
    omega
  have hbase : fragmentCount / fecGroupCount fragmentCount ≤ 6 :=
    Nat.div_le_of_le_mul hfit
  unfold fecDataShards
  by_cases hlarger : groupIndex < fragmentCount % fecGroupCount fragmentCount
  · rw [if_pos hlarger]
    by_contra hsix
    have hbase' : fragmentCount / fecGroupCount fragmentCount = 6 := by omega
    rw [hbase'] at hdiv
    omega
  · rw [if_neg hlarger]
    omega

theorem two_le_fecGroupRange_len {fragmentCount : Nat} (h : 2 ≤ fragmentCount)
    (groupIndex : Nat) : 2 ≤ (fecGroupRange fragmentCount groupIndex).len := by
  rw [fecGroupRange_len]
  have hpos := fecGroupCount_pos (Nat.lt_of_lt_of_le Nat.two_pos h)
  have hbase : 2 ≤ fragmentCount / fecGroupCount fragmentCount := by
    rw [Nat.le_div_iff_mul_le hpos]
    unfold fecGroupCount fecDataShards
    omega
  omega

theorem fecGroupRange_stop_le {fragmentCount groupIndex : Nat}
    (h : groupIndex < fecGroupCount fragmentCount) :
    (fecGroupRange fragmentCount groupIndex).stop ≤ fragmentCount := by
  have hmono := @groupStart_mono (fragmentCount / fecGroupCount fragmentCount)
    (fragmentCount % fecGroupCount fragmentCount) (groupIndex + 1) _ h
  rwa [groupStart_count (Nat.lt_of_le_of_lt (Nat.zero_le _) h)] at hmono

theorem fecGroupRange_start_le_stop (fragmentCount groupIndex : Nat) :
    (fecGroupRange fragmentCount groupIndex).start ≤
      (fecGroupRange fragmentCount groupIndex).stop :=
  groupStart_mono (Nat.le_succ groupIndex)

theorem fecGroupRange_start_add_len (fragmentCount groupIndex : Nat) :
    (fecGroupRange fragmentCount groupIndex).start +
      (fecGroupRange fragmentCount groupIndex).len =
        (fecGroupRange fragmentCount groupIndex).stop := by
  have hle := fecGroupRange_start_le_stop fragmentCount groupIndex
  unfold FragmentRange.len
  omega

/-! ## The group of a fragment -/

theorem fecGroupIndex_lt {fragmentCount fragmentIndex : Nat}
    (h : fragmentIndex < fragmentCount) :
    fecGroupIndex fragmentCount fragmentIndex < fecGroupCount fragmentCount :=
  groupIndexOf_lt (fecGroupCount_pos (Nat.zero_lt_of_lt h))
    (fecGroupBase_pos (Nat.zero_lt_of_lt h)) h

theorem fecGroupIndex_spec {fragmentCount fragmentIndex : Nat}
    (h : fragmentIndex < fragmentCount) :
    (fecGroupRange fragmentCount (fecGroupIndex fragmentCount fragmentIndex)).start ≤
        fragmentIndex ∧
      fragmentIndex <
        (fecGroupRange fragmentCount (fecGroupIndex fragmentCount fragmentIndex)).stop :=
  groupIndexOf_spec _ (fecGroupBase_pos (Nat.zero_lt_of_lt h)) fragmentIndex

theorem fecGroupIndex_unique {fragmentCount fragmentIndex groupIndex : Nat}
    (h : fragmentIndex < fragmentCount)
    (hstart : (fecGroupRange fragmentCount groupIndex).start ≤ fragmentIndex)
    (hstop : fragmentIndex < (fecGroupRange fragmentCount groupIndex).stop) :
    fecGroupIndex fragmentCount fragmentIndex = groupIndex :=
  groupStart_unique (fecGroupIndex_spec h).1 (fecGroupIndex_spec h).2 hstart hstop

theorem mem_fecGroupRange_indices {fragmentCount fragmentIndex groupIndex : Nat}
    (h : fragmentIndex < fragmentCount) :
    fragmentIndex ∈ (fecGroupRange fragmentCount groupIndex).indices ↔
      fecGroupIndex fragmentCount fragmentIndex = groupIndex := by
  rw [FragmentRange.mem_indices]
  constructor
  · rintro ⟨hstart, hstop⟩
    exact fecGroupIndex_unique h hstart hstop
  · rintro rfl
    exact fecGroupIndex_spec h

theorem fecGroupIndex_start {fragmentCount groupIndex : Nat}
    (h : groupIndex < fecGroupCount fragmentCount) :
    (fecGroupRange fragmentCount groupIndex).start < fragmentCount ∧
      fecGroupIndex fragmentCount (fecGroupRange fragmentCount groupIndex).start =
        groupIndex := by
  have hcount : 0 < fragmentCount := by
    by_contra hzero
    have hfragments : fragmentCount = 0 := by omega
    rw [hfragments] at h
    exact Nat.not_lt_zero _ h
  have hlen := fecGroupRange_len_pos hcount groupIndex
  have hstop := fecGroupRange_stop_le h
  have hsum := fecGroupRange_start_add_len fragmentCount groupIndex
  have hlt : (fecGroupRange fragmentCount groupIndex).start < fragmentCount := by omega
  exact ⟨hlt, fecGroupIndex_unique hlt (Nat.le_refl _) (by omega)⟩

/-! ## The loop and the lookup -/

private theorem fecGroupRangesFrom_eq (base larger fuel groupIndex : Nat) :
    fecGroupRangesFrom base larger fuel groupIndex (groupStart base larger groupIndex) =
      (List.range' groupIndex fuel).map fun ix =>
        ⟨groupStart base larger ix, groupStart base larger (ix + 1)⟩ := by
  induction fuel generalizing groupIndex with
  | zero => rfl
  | succ fuel ih =>
      rw [fecGroupRangesFrom, ← groupStart_succ, ih, List.range'_succ, List.map_cons]

theorem fecGroupRanges_eq (fragmentCount : Nat) :
    fecGroupRanges fragmentCount =
      (List.range (fecGroupCount fragmentCount)).map (fecGroupRange fragmentCount) := by
  unfold fecGroupRanges
  by_cases h : fragmentCount = 0
  · rw [if_pos h, h]
    rfl
  · have hloop := fecGroupRangesFrom_eq (fragmentCount / fecGroupCount fragmentCount)
      (fragmentCount % fecGroupCount fragmentCount) (fecGroupCount fragmentCount) 0
    rw [groupStart_zero] at hloop
    rw [if_neg h, hloop, List.range_eq_range']
    rfl

@[simp] theorem length_fecGroupRanges (fragmentCount : Nat) :
    (fecGroupRanges fragmentCount).length = fecGroupCount fragmentCount := by
  rw [fecGroupRanges_eq, List.length_map, List.length_range]

theorem fecGroupForFragment_eq {fragmentCount fragmentIndex : Nat}
    (h : fragmentIndex < fragmentCount) :
    fecGroupForFragment fragmentCount fragmentIndex =
      some (fecGroupRange fragmentCount (fecGroupIndex fragmentCount fragmentIndex)) := by
  have hin : ¬ (fragmentCount = 0 ∨ fragmentCount ≤ fragmentIndex) := by omega
  unfold fecGroupForFragment fecGroupRange fecGroupIndex groupIndexOf
  rw [if_neg hin]
  dsimp only
  by_cases hlarger : fragmentIndex < fragmentCount % fecGroupCount fragmentCount *
      (fragmentCount / fecGroupCount fragmentCount + 1)
  · have hix : fragmentIndex / (fragmentCount / fecGroupCount fragmentCount + 1) <
        fragmentCount % fecGroupCount fragmentCount :=
      Nat.div_lt_of_lt_mul (by rwa [Nat.mul_comm])
    rw [if_pos hlarger, if_pos hlarger, groupStart_succ, if_pos hix]
    unfold groupStart
    rw [Nat.min_eq_left (Nat.le_of_lt hix), Nat.mul_succ]
  · rw [if_neg hlarger, if_neg hlarger, groupStart_succ,
      if_neg (Nat.not_lt.mpr (Nat.le_add_right _ _)), Nat.add_sub_cancel_left]
    unfold groupStart
    rw [Nat.min_eq_right (Nat.le_add_right _ _), Nat.add_mul, Nat.mul_succ]
    congr 2 <;> omega

example : fecGroupRanges 8 = [⟨0, 4⟩, ⟨4, 8⟩] := by decide

/-! ## Agreement of sender and receiver -/

theorem fecGroupRange_mem {fragmentCount groupIndex : Nat}
    (h : groupIndex < fecGroupCount fragmentCount) :
    fecGroupRange fragmentCount groupIndex ∈ fecGroupRanges fragmentCount := by
  rw [fecGroupRanges_eq]
  exact List.mem_map_of_mem (List.mem_range.mpr h)

theorem exists_of_mem_fecGroupRanges {fragmentCount : Nat} {range : FragmentRange}
    (h : range ∈ fecGroupRanges fragmentCount) :
    ∃ groupIndex, groupIndex < fecGroupCount fragmentCount ∧
      range = fecGroupRange fragmentCount groupIndex := by
  rw [fecGroupRanges_eq] at h
  obtain ⟨groupIndex, hmem, heq⟩ := List.mem_map.mp h
  exact ⟨groupIndex, List.mem_range.mp hmem, heq.symm⟩

private theorem flatMap_indices_take (fragmentCount groups : Nat) :
    ((List.range groups).map (fecGroupRange fragmentCount)).flatMap FragmentRange.indices =
      List.range (fecGroupRange fragmentCount groups).start := by
  induction groups with
  | zero =>
      have hstart : (fecGroupRange fragmentCount 0).start = 0 := groupStart_zero _ _
      rw [hstart]
      rfl
  | succ groups ih =>
      have hsum := fecGroupRange_start_add_len fragmentCount groups
      have hnext : (fecGroupRange fragmentCount (groups + 1)).start =
          (fecGroupRange fragmentCount groups).stop := rfl
      rw [List.range_succ, List.map_append, List.flatMap_append, ih, List.map_singleton,
        List.flatMap_singleton, hnext, ← hsum, List.range_add]
      unfold FragmentRange.indices
      rw [List.range'_eq_map_range]

theorem fecGroupRanges_flatMap_indices (fragmentCount : Nat) :
    (fecGroupRanges fragmentCount).flatMap FragmentRange.indices =
      List.range fragmentCount := by
  by_cases h : fragmentCount = 0
  · rw [h]
    rfl
  · have hstart : (fecGroupRange fragmentCount (fecGroupCount fragmentCount)).start =
        fragmentCount := groupStart_count (fecGroupCount_pos (Nat.pos_of_ne_zero h))
    rw [fecGroupRanges_eq, flatMap_indices_take, hstart]

/-- The groups of an access unit of `fragmentCount` fragments, as the sender enumerates them
and as the receiver looks them up. -/
structure GroupsAgree (fragmentCount : Nat) : Prop where
  count : (fecGroupRanges fragmentCount).length = (fragmentCount + 5) / 6
  /-- One after the other, the groups list every fragment once and in order. -/
  partition : (fecGroupRanges fragmentCount).flatMap FragmentRange.indices =
    List.range fragmentCount
  balanced : ∀ range ∈ fecGroupRanges fragmentCount,
    ∀ other ∈ fecGroupRanges fragmentCount, range.len ≤ other.len + 1
  sizes : 2 ≤ fragmentCount → ∀ range ∈ fecGroupRanges fragmentCount,
    2 ≤ range.len ∧ range.len ≤ 6
  /-- The running `start + size`, the only `u16` sum, stays within the fragment count. -/
  inside : ∀ range ∈ fecGroupRanges fragmentCount,
    range.start + range.len = range.stop ∧ range.stop ≤ fragmentCount
  lookup : ∀ fragmentIndex < fragmentCount, ∀ range,
    fecGroupForFragment fragmentCount fragmentIndex = some range ↔
      range ∈ fecGroupRanges fragmentCount ∧ fragmentIndex ∈ range.indices

private theorem fecGroupForFragment_iff {fragmentCount fragmentIndex : Nat}
    (h : fragmentIndex < fragmentCount) (range : FragmentRange) :
    fecGroupForFragment fragmentCount fragmentIndex = some range ↔
      range ∈ fecGroupRanges fragmentCount ∧ fragmentIndex ∈ range.indices := by
  rw [fecGroupForFragment_eq h]
  constructor
  · intro heq
    obtain rfl := Option.some.inj heq
    exact ⟨fecGroupRange_mem (fecGroupIndex_lt h), (mem_fecGroupRange_indices h).mpr rfl⟩
  · rintro ⟨hrange, hindex⟩
    obtain ⟨groupIndex, -, rfl⟩ := exists_of_mem_fecGroupRanges hrange
    rw [(mem_fecGroupRange_indices h).mp hindex]

theorem groupsAgree (fragmentCount : Nat) : GroupsAgree fragmentCount where
  count := length_fecGroupRanges fragmentCount
  partition := fecGroupRanges_flatMap_indices fragmentCount
  balanced := by
    intro range hrange other hother
    obtain ⟨ix, -, rfl⟩ := exists_of_mem_fecGroupRanges hrange
    obtain ⟨jx, -, rfl⟩ := exists_of_mem_fecGroupRanges hother
    rw [fecGroupRange_len, fecGroupRange_len]
    split <;> omega
  sizes := by
    intro htwo range hrange
    obtain ⟨ix, -, rfl⟩ := exists_of_mem_fecGroupRanges hrange
    exact ⟨two_le_fecGroupRange_len htwo ix, fecGroupRange_len_le (by omega) ix⟩
  inside := by
    intro range hrange
    obtain ⟨ix, hix, rfl⟩ := exists_of_mem_fecGroupRanges hrange
    exact ⟨fecGroupRange_start_add_len fragmentCount ix, fecGroupRange_stop_le hix⟩
  lookup := fun _ h range => fecGroupForFragment_iff h range

end PicooCamera.Protocol
