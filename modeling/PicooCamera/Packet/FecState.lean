import PicooCamera.Packet.ReassemblyFec
import PicooCamera.Protocol.FecGroups

/-!
# The group state of a partial frame

What `build_fec_state` builds, what the bits of the group masks say, and what
the recovery loop inserts.
-/

namespace PicooCamera.Packet

open PicooCamera.Library PicooCamera.Protocol PartialFrame

/-! ## Built groups -/

theorem buildFecState_groups {fragmentCount groupIndex : Nat}
    (h : groupIndex < fecGroupCount fragmentCount) :
    (buildFecState fragmentCount).1[groupIndex]? =
      some (emptyGroup (fecGroupRange fragmentCount groupIndex)) := by
  unfold buildFecState
  dsimp only
  rw [fecGroupRanges_eq, List.getElem?_map, List.getElem?_map, List.getElem?_range h,
    Option.map_some, Option.map_some]

@[simp] theorem length_buildFecState_groups (fragmentCount : Nat) :
    (buildFecState fragmentCount).1.length = fecGroupCount fragmentCount := by
  unfold buildFecState
  dsimp only
  rw [List.length_map, length_fecGroupRanges]

private theorem getElem?_foldl_set (indices : List Nat) (groups : List Nat)
    (groupIx index : Nat) :
    (indices.foldl (fun groups ix => groups.set ix groupIx) groups)[index]? =
      if index ∈ indices ∧ index < groups.length then some groupIx else groups[index]? := by
  induction indices generalizing groups with
  | nil => simp
  | cons ix indices ih =>
      rw [List.foldl_cons, ih, List.length_set, List.getElem?_set]
      by_cases hlen : index < groups.length
      · by_cases hmem : index ∈ indices
        · rw [if_pos ⟨hmem, hlen⟩, if_pos ⟨List.mem_cons_of_mem _ hmem, hlen⟩]
        · by_cases heq : ix = index
          · simp [hmem, heq, hlen]
          · have heq' : ¬ index = ix := fun h => heq h.symm
            simp [hmem, heq, heq']
      · by_cases heq : ix = index
        · simp [hlen, heq]
        · simp [hlen, heq]

theorem getElem?_assignGroup (groups : List Nat) (groupIx index : Nat)
    (range : FragmentRange) :
    (assignGroup groups groupIx range)[index]? =
      if index ∈ range.indices ∧ index < groups.length then some groupIx
      else groups[index]? :=
  getElem?_foldl_set _ _ _ _

@[simp] theorem length_assignGroup (groups : List Nat) (groupIx : Nat)
    (range : FragmentRange) : (assignGroup groups groupIx range).length = groups.length := by
  unfold assignGroup
  induction range.indices generalizing groups with
  | nil => rfl
  | cons index indices ih => rw [List.foldl_cons, ih, List.length_set]

private theorem foldl_assignGroup {fragmentCount index : Nat} (h : index < fragmentCount)
    (count : Nat) :
    let groups := ((List.range count).map (fecGroupRange fragmentCount)).zipIdx.foldl
      (fun groups entry => assignGroup groups entry.2 entry.1)
      (List.replicate fragmentCount 0)
    groups.length = fragmentCount ∧
      (fecGroupIndex fragmentCount index < count →
        groups[index]? = some (fecGroupIndex fragmentCount index)) := by
  induction count with
  | zero => simp
  | succ count ih =>
      dsimp only at ih ⊢
      rw [List.range_succ, List.map_append, List.zipIdx_append, List.foldl_append]
      simp only [List.length_map, List.length_range, Nat.zero_add, List.map_cons, List.map_nil,
        List.zipIdx_cons, List.zipIdx_nil, List.foldl_cons, List.foldl_nil,
        length_assignGroup, getElem?_assignGroup, mem_fecGroupRange_indices h]
      refine ⟨ih.1, ?_⟩
      intro hlt
      by_cases heq : fecGroupIndex fragmentCount index = count
      · rw [ih.1, if_pos ⟨heq, h⟩, heq]
      · rw [if_neg (fun hand => heq hand.1)]
        exact ih.2 (by omega)

theorem buildFecState_fragmentGroups {fragmentCount index : Nat} (h : index < fragmentCount) :
    (buildFecState fragmentCount).2[index]? = some (fecGroupIndex fragmentCount index) := by
  have hall := (foldl_assignGroup h (fecGroupCount fragmentCount)).2 (fecGroupIndex_lt h)
  unfold buildFecState
  dsimp only at hall ⊢
  rwa [fecGroupRanges_eq]

/-! ## Masks -/

theorem getLsbD_maskBit (offset bit : Nat) :
    (maskBit offset).getLsbD bit = (decide (bit < 8) && decide (bit = offset)) := by
  unfold maskBit
  rw [BitVec.getLsbD_shiftLeft, BitVec.getLsbD_one]
  by_cases heq : bit = offset
  · simp [heq]
  · by_cases hlt : bit < offset
    · simp [heq, hlt]
    · have hne : ¬ bit - offset = 0 := by omega
      simp [heq, hne]

/-- `(1 << len) - 1` has the bits below `len`. -/
theorem getLsbD_groupMask {len : Nat} (hlen : len ≤ fecDataShards) (bit : Nat) :
    (maskBit len - 1).getLsbD bit = decide (bit < len) := by
  by_cases hbit : bit < 8
  · have hall : ∀ len ≤ fecDataShards, ∀ bit < 8,
        (maskBit len - 1).getLsbD bit = decide (bit < len) := by decide
    exact hall len hlen bit hbit
  · have hge : ¬ bit < len := by
      unfold fecDataShards at hlen
      omega
    rw [BitVec.getLsbD_of_ge _ _ (by omega)]
    simp [hge]

theorem and_maskBit_eq_zero {mask : BitVec 8} {offset : Nat} (h : offset < 8) :
    mask &&& maskBit offset = 0 ↔ mask.getLsbD offset = false := by
  constructor
  · intro hzero
    have hbit := congrArg (fun m => BitVec.getLsbD m offset) hzero
    simp only [BitVec.getLsbD_and, getLsbD_maskBit, h, decide_true, Bool.and_true] at hbit
    rw [hbit]
    exact BitVec.getLsbD_zero
  · intro hbit
    apply BitVec.eq_of_getLsbD_eq
    intro bit hlt
    rw [BitVec.getLsbD_and, getLsbD_maskBit]
    by_cases heq : bit = offset
    · simp [heq, hbit]
    · simp [heq]

theorem getLsbD_missingMask {group : FecGroupState} (hlen : group.range.len ≤ fecDataShards)
    (bit : Nat) :
    (missingMask group).getLsbD bit =
      (decide (bit < group.range.len) && !group.presentMask.getLsbD bit) := by
  unfold missingMask
  rw [BitVec.getLsbD_and, getLsbD_groupMask hlen, BitVec.getLsbD_not]
  by_cases hbit : bit < group.range.len
  · have height : bit < 8 := by
      unfold fecDataShards at hlen
      omega
    simp [hbit, height]
  · simp [hbit]

theorem countOnes_missingMask {group : FecGroupState}
    (hlen : group.range.len ≤ fecDataShards) :
    countOnes (missingMask group) =
      (List.range group.range.len).countP fun bit => !group.presentMask.getLsbD bit := by
  have height : group.range.len ≤ 8 := Nat.le_trans hlen (by decide)
  have hsplit : List.range 8 = List.range group.range.len ++
      (List.range (8 - group.range.len)).map (group.range.len + ·) := by
    rw [← List.range_add]
    congr 1
    omega
  have hlow : (List.range group.range.len).countP (missingMask group).getLsbD =
      (List.range group.range.len).countP fun bit => !group.presentMask.getLsbD bit := by
    apply List.countP_congr
    intro bit hbit
    rw [getLsbD_missingMask hlen]
    simp [List.mem_range.mp hbit]
  have hhigh : ((List.range (8 - group.range.len)).map (group.range.len + ·)).countP
      (missingMask group).getLsbD = 0 := by
    rw [List.countP_eq_zero]
    intro bit hbit
    obtain ⟨more, _, rfl⟩ := List.mem_map.mp hbit
    rw [getLsbD_missingMask hlen]
    simp
  rw [countOnes, hsplit, List.countP_append, hlow, hhigh, Nat.add_zero]

/-! ## The recovery loop -/

section Insert

variable {range : FragmentRange} {missing : BitVec 8} {state : Recovered} {shard : Shard}
  {offset : Nat}

theorem insertRecovered_fragments (hoffset : offset < 8) (index : Nat) :
    (insertRecovered range missing state (some shard, offset)).fragments[index]? =
      if index = range.start + offset ∧ missing.getLsbD offset = true then some shard
      else state.fragments[index]? := by
  unfold insertRecovered
  by_cases hbit : missing.getLsbD offset = true
  · have hne : ¬ missing &&& maskBit offset = 0 := by
      rw [and_maskBit_eq_zero hoffset, hbit]
      simp
    rw [if_neg hne]
    dsimp only
    rw [Std.ExtTreeMap.getElem?_insert]
    by_cases hat : index = range.start + offset
    · rw [if_pos (Std.compare_eq_iff_eq.mpr hat.symm), if_pos ⟨hat, hbit⟩]
    · rw [if_neg (fun hcmp => hat (Std.compare_eq_iff_eq.mp hcmp).symm),
        if_neg (fun hand => hat hand.1)]
  · have hzero : missing &&& maskBit offset = 0 := by
      rw [and_maskBit_eq_zero hoffset]
      simpa using hbit
    rw [if_pos hzero, if_neg (fun hand => hbit hand.2)]

theorem insertRecovered_mask (hoffset : offset < 8) (bit : Nat) :
    (insertRecovered range missing state (some shard, offset)).mask.getLsbD bit = true ↔
      state.mask.getLsbD bit = true ∨ bit = offset ∧ missing.getLsbD offset = true := by
  unfold insertRecovered
  by_cases hbit : missing.getLsbD offset = true
  · have hne : ¬ missing &&& maskBit offset = 0 := by
      rw [and_maskBit_eq_zero hoffset, hbit]
      simp
    rw [if_neg hne]
    dsimp only
    rw [BitVec.getLsbD_or, getLsbD_maskBit, Bool.or_eq_true, Bool.and_eq_true,
      decide_eq_true_iff, decide_eq_true_iff]
    constructor
    · rintro (hold | ⟨_, heq⟩)
      · exact Or.inl hold
      · exact Or.inr ⟨heq, hbit⟩
    · rintro (hold | ⟨heq, _⟩)
      · exact Or.inl hold
      · exact Or.inr ⟨by omega, heq⟩
  · have hzero : missing &&& maskBit offset = 0 := by
      rw [and_maskBit_eq_zero hoffset]
      simpa using hbit
    rw [if_pos hzero]
    constructor
    · exact Or.inl
    · rintro (hold | ⟨_, hmissing⟩)
      · exact hold
      · exact absurd hmissing hbit

end Insert

theorem foldl_insertRecovered_fragments {range : FragmentRange} {missing : BitVec 8}
    (shards : List Shard) (offset : Nat) (state : Recovered)
    (hlen : offset + shards.length ≤ 8) (index : Nat) :
    (((shards.map some).zipIdx offset).foldl (insertRecovered range missing)
        state).fragments[index]? =
      if range.start + offset ≤ index ∧ index < range.start + offset + shards.length ∧
          missing.getLsbD (index - range.start) = true then
        shards[index - range.start - offset]?
      else state.fragments[index]? := by
  induction shards generalizing offset state with
  | nil =>
      rw [if_neg (by simp only [List.length_nil]; omega)]
      rfl
  | cons shard shards ih =>
      rw [List.length_cons] at hlen
      rw [List.map_cons, List.zipIdx_cons, List.foldl_cons, List.length_cons,
        ih (offset + 1) _ (by omega), insertRecovered_fragments (by omega)]
      by_cases hat : index = range.start + offset
      · have hsub : index - range.start = offset := by omega
        rw [if_neg (by omega), hsub, Nat.sub_self, List.getElem?_cons_zero]
        by_cases hbit : missing.getLsbD offset = true
        · rw [if_pos ⟨hat, hbit⟩, if_pos ⟨by omega, by omega, hbit⟩]
        · rw [if_neg (fun hand => hbit hand.2), if_neg (fun hand => hbit hand.2.2)]
      · rw [if_neg (c := index = range.start + offset ∧ _) (fun hand => hat hand.1)]
        by_cases hin : range.start + (offset + 1) ≤ index ∧
            index < range.start + (offset + 1) + shards.length ∧
            missing.getLsbD (index - range.start) = true
        · have hsub : index - range.start - offset =
              index - range.start - (offset + 1) + 1 := by omega
          rw [if_pos hin, if_pos ⟨by omega, by omega, hin.2.2⟩, hsub,
            List.getElem?_cons_succ]
        · rw [if_neg hin, if_neg]
          rintro ⟨hle, hlt, hbit⟩
          exact hin ⟨by omega, by omega, hbit⟩

theorem foldl_insertRecovered_mask {range : FragmentRange} {missing : BitVec 8}
    (shards : List Shard) (offset : Nat) (state : Recovered)
    (hlen : offset + shards.length ≤ 8) (bit : Nat) :
    (((shards.map some).zipIdx offset).foldl (insertRecovered range missing)
        state).mask.getLsbD bit = true ↔
      state.mask.getLsbD bit = true ∨
        offset ≤ bit ∧ bit < offset + shards.length ∧ missing.getLsbD bit = true := by
  induction shards generalizing offset state with
  | nil =>
      rw [List.length_nil]
      constructor
      · exact Or.inl
      · rintro (hold | ⟨hle, hlt, _⟩)
        · exact hold
        · omega
  | cons shard shards ih =>
      rw [List.length_cons] at hlen
      rw [List.map_cons, List.zipIdx_cons, List.foldl_cons, List.length_cons,
        ih (offset + 1) _ (by omega), insertRecovered_mask (by omega)]
      constructor
      · rintro ((hold | ⟨rfl, hbit⟩) | ⟨hle, hlt, hbit⟩)
        · exact Or.inl hold
        · exact Or.inr ⟨by omega, by omega, hbit⟩
        · exact Or.inr ⟨by omega, by omega, hbit⟩
      · rintro (hold | ⟨hle, hlt, hbit⟩)
        · exact Or.inl (Or.inl hold)
        · by_cases heq : bit = offset
          · exact Or.inl (Or.inr ⟨heq, heq ▸ hbit⟩)
          · exact Or.inr ⟨by omega, by omega, hbit⟩

end PicooCamera.Packet
