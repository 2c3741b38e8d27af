import PicooCamera.Packet.FecState
import PicooCamera.Packet.ReassemblyMap
import PicooCamera.Sender.Shards

/-!
# A partial frame that holds shards of one access unit

`FrameHolds` relates a partial frame to the access unit whose shards it has
received: each stored fragment is the one of the access unit, the masks say
which are there, and each stored parity shard is the one of its group. Storing
a shard and recovering a group keep it.
-/

namespace PicooCamera.Packet

open PicooCamera.Library PicooCamera.Protocol PicooCamera.Sender PartialFrame

section Relation

variable (codecs : Codecs) (unit : AccessUnit) (received : List ShardId)

/-- One group of the frame, next to the fragments that the frame holds. -/
structure GroupHolds (fragments : Std.ExtTreeMap Nat Bytes) (groupIndex : Nat)
    (group : FecGroupState) : Prop where
  range : group.range = unit.groupRange groupIndex
  present : ∀ offset < (unit.groupRange groupIndex).len,
    group.presentMask.getLsbD offset = true ↔
      (unit.groupRange groupIndex).start + offset ∈ fragments
  slots : group.parityShards.length = fecParityShards
  parity : ∀ (parityIndex : Nat) (shard : StoredParityShard), group.parityShards[parityIndex]? = some (some shard) →
    (unit.groupRows codecs groupIndex)[parityIndex]? = some shard.bytes ∧
      shard.lastDataLen = unit.groupLastLength groupIndex
  received : ∀ parityIndex : Nat, ShardId.parity groupIndex parityIndex ∈ received →
    ∃ shard : StoredParityShard, group.parityShards[parityIndex]? = some (some shard)

structure FrameHolds (frame : PartialFrame) : Prop where
  fragmentCount : frame.fragmentCount = unit.fragmentCount
  flags : frame.flags.semantic = (unit.isKeyframe, false)
  ptsUs : frame.ptsUs = unit.ptsUs
  encodedAtUs : frame.encodedAtUs = unit.encodedAtUs
  fragmentGroups : frame.fragmentGroups = (buildFecState unit.fragmentCount).2
  groupCount : frame.fecGroups.length = unit.groupCount
  groups : ∀ groupIndex group, frame.fecGroups[groupIndex]? = some group →
    GroupHolds codecs unit received frame.fragments groupIndex group
  fragments : ∀ index bytes, frame.fragments[index]? = some bytes →
    index < unit.fragmentCount ∧ bytes = chunk unit.data index
  received : ∀ index, ShardId.data index ∈ received → index ∈ frame.fragments

/-- No recovery is possible in the group: nothing is missing, or too little parity is there. -/
def Saturated (frame : PartialFrame) (groupIndex : Nat) : Prop :=
  ∀ group, frame.fecGroups[groupIndex]? = some group → 2 ≤ group.range.len →
    countOnes (missingMask group) = 0 ∨
      group.parityShards.countP Option.isSome < countOnes (missingMask group)

end Relation

variable {codecs : Codecs} {unit : AccessUnit} {received : List ShardId}

/-! ## A new frame -/

theorem semantic_flags (id : ShardId) :
    (id.flags unit).semantic = (unit.isKeyframe, false) := by
  cases id <;> rfl

theorem frameHolds_new {id : ShardId} {packet : VideoPacket}
    (hcarried : id.Carried codecs unit packet) (firstFragmentAt : Instant) :
    FrameHolds codecs unit [] (ReassemblyMap.newFrame packet firstFragmentAt) where
  fragmentCount := hcarried.fragmentCount
  flags := by
    have hflags : (ReassemblyMap.newFrame packet firstFragmentAt).flags = packet.flags := rfl
    rw [hflags, hcarried.flags, semantic_flags]
  ptsUs := hcarried.ptsUs
  encodedAtUs := hcarried.encodedAtUs
  fragmentGroups := by
    have hgroups : (ReassemblyMap.newFrame packet firstFragmentAt).fragmentGroups =
        (buildFecState packet.fragmentCount).2 := rfl
    rw [hgroups, hcarried.fragmentCount]
  groupCount := by
    have hgroups : (ReassemblyMap.newFrame packet firstFragmentAt).fecGroups =
        (buildFecState packet.fragmentCount).1 := rfl
    rw [hgroups, length_buildFecState_groups, hcarried.fragmentCount]
    rfl
  groups := by
    intro groupIndex group hgroup
    have hgroups : (ReassemblyMap.newFrame packet firstFragmentAt).fecGroups =
        (buildFecState unit.fragmentCount).1 := by
      rw [← hcarried.fragmentCount]
      rfl
    have hlt : groupIndex < fecGroupCount unit.fragmentCount := by
      rw [← length_buildFecState_groups, ← hgroups]
      exact (List.getElem?_eq_some_iff.mp hgroup).1
    rw [hgroups, buildFecState_groups hlt] at hgroup
    cases hgroup
    refine ⟨rfl, ?_, rfl, ?_, fun _ hmem => absurd hmem List.not_mem_nil⟩
    · intro offset _
      constructor
      · intro hbit
        have hzero : (0#8).getLsbD offset = true := hbit
        rw [BitVec.getLsbD_zero] at hzero
        cases hzero
      · intro hmem
        exact absurd hmem Std.ExtTreeMap.not_mem_empty
    · intro parityIndex shard hshard
      have hnone := List.eq_of_mem_replicate (List.mem_of_getElem? hshard)
      cases hnone
  fragments := by
    intro index bytes hget
    have hempty : (∅ : Std.ExtTreeMap Nat Bytes)[index]? = some bytes := hget
    rw [Std.ExtTreeMap.getElem?_empty] at hempty
    cases hempty
  received _ hmem := absurd hmem List.not_mem_nil

theorem saturated_of_absent {frame : PartialFrame} {groupIndex : Nat}
    (hget : frame.fecGroups[groupIndex]? = none) : Saturated frame groupIndex := by
  intro group hgroup
  rw [hget] at hgroup
  cases hgroup

theorem saturated_of_group {frame : PartialFrame} {groupIndex : Nat} {group : FecGroupState}
    (hget : frame.fecGroups[groupIndex]? = some group)
    (h : 2 ≤ group.range.len → countOnes (missingMask group) = 0 ∨
      group.parityShards.countP Option.isSome < countOnes (missingMask group)) :
    Saturated frame groupIndex := by
  intro other hother htwo
  rw [hget] at hother
  cases hother
  exact h htwo

theorem saturated_new (packet : VideoPacket) (firstFragmentAt : Instant) (groupIndex : Nat) :
    Saturated (ReassemblyMap.newFrame packet firstFragmentAt) groupIndex := by
  intro group hgroup _
  have hmem : group ∈ (buildFecState packet.fragmentCount).1 := List.mem_of_getElem? hgroup
  obtain ⟨range, _, rfl⟩ := List.mem_map.mp hmem
  by_cases hzero : countOnes (missingMask (emptyGroup range)) = 0
  · exact Or.inl hzero
  · right
    have hnone : (emptyGroup range).parityShards.countP Option.isSome = 0 := by rfl
    omega

/-! ## Updating one group -/

namespace FrameHolds

theorem groupOf {frame : PartialFrame} (h : FrameHolds codecs unit received frame)
    {index : Nat} (hindex : index < unit.fragmentCount) :
    ∃ group, frame.fecGroups[fecGroupIndex unit.fragmentCount index]? = some group ∧
      frame.groupOf index = some (fecGroupIndex unit.fragmentCount index, group) := by
  have hlt : fecGroupIndex unit.fragmentCount index < frame.fecGroups.length := by
    rw [h.groupCount]
    exact fecGroupIndex_lt hindex
  have hget := List.getElem?_eq_getElem hlt
  refine ⟨frame.fecGroups[fecGroupIndex unit.fragmentCount index], hget, ?_⟩
  unfold PartialFrame.groupOf
  rw [h.fragmentGroups, buildFecState_fragmentGroups hindex, Option.bind_eq_bind,
    Option.bind_some, hget]
  rfl

theorem update {frame : PartialFrame} (h : FrameHolds codecs unit received frame)
    {received' : List ShardId} {fragments' : Std.ExtTreeMap Nat Bytes} {groupIndex : Nat}
    {group' : FecGroupState}
    (hgroup : GroupHolds codecs unit received' fragments' groupIndex group')
    (hfragments : ∀ index bytes, fragments'[index]? = some bytes →
      index < unit.fragmentCount ∧ bytes = chunk unit.data index)
    (hothers : ∀ index < unit.fragmentCount,
      fecGroupIndex unit.fragmentCount index ≠ groupIndex →
        (index ∈ fragments' ↔ index ∈ frame.fragments))
    (hparity : ∀ other parityIndex, other ≠ groupIndex →
      ShardId.parity other parityIndex ∈ received' →
        ShardId.parity other parityIndex ∈ received)
    (hreceived : ∀ index, ShardId.data index ∈ received' → index ∈ fragments') :
    FrameHolds codecs unit received'
      { frame with
        fragments := fragments'
        fecGroups := frame.fecGroups.set groupIndex group' } where
  fragmentCount := h.fragmentCount
  flags := h.flags
  ptsUs := h.ptsUs
  encodedAtUs := h.encodedAtUs
  fragmentGroups := h.fragmentGroups
  groupCount := by
    dsimp only
    rw [List.length_set]
    exact h.groupCount
  groups := by
    intro other group hother
    dsimp only at hother ⊢
    by_cases heq : groupIndex = other
    · rw [heq, List.getElem?_set_self'] at hother
      rw [← heq]
      cases hold : frame.fecGroups[other]? with
      | none =>
          rw [hold] at hother
          cases hother
      | some old =>
          rw [hold] at hother
          cases hother
          exact hgroup
    · rw [List.getElem?_set_ne heq] at hother
      have hold := h.groups other group hother
      have hlt : other < unit.groupCount := by
        rw [← h.groupCount]
        exact (List.getElem?_eq_some_iff.mp hother).1
      have hstop : (unit.groupRange other).stop ≤ unit.fragmentCount :=
        fecGroupRange_stop_le hlt
      have hsum : (unit.groupRange other).start + (unit.groupRange other).len =
          (unit.groupRange other).stop := fecGroupRange_start_add_len _ _
      refine ⟨hold.range, ?_, hold.slots, hold.parity,
        fun parityIndex hmem => hold.received parityIndex
          (hparity other parityIndex (Ne.symm heq) hmem)⟩
      intro offset hoffset
      have hindex : (unit.groupRange other).start + offset < unit.fragmentCount := by omega
      have hgroupIndex : fecGroupIndex unit.fragmentCount
          ((unit.groupRange other).start + offset) = other :=
        fecGroupIndex_unique hindex (Nat.le_add_right _ _)
          (by
            have hstop' : (fecGroupRange unit.fragmentCount other).stop =
                (unit.groupRange other).stop := rfl
            omega)
      rw [hold.present offset hoffset]
      exact (hothers _ hindex (by rw [hgroupIndex]; exact Ne.symm heq)).symm
  fragments := hfragments
  received := hreceived

end FrameHolds

theorem Saturated.congr {frame frame' : PartialFrame} {groupIndex : Nat}
    (h : Saturated frame groupIndex)
    (hsame : frame'.fecGroups[groupIndex]? = frame.fecGroups[groupIndex]?) :
    Saturated frame' groupIndex := by
  intro group hgroup
  rw [hsame] at hgroup
  exact h group hgroup

/-! ## Storing a shard -/

namespace FrameHolds

variable {frame : PartialFrame}

theorem receive_again (h : FrameHolds codecs unit received frame) {id : ShardId}
    (hdata : ∀ index, id = .data index → index ∈ frame.fragments)
    (hparity : ∀ groupIndex parityIndex group, id = .parity groupIndex parityIndex →
      frame.fecGroups[groupIndex]? = some group →
        ∃ shard, group.parityShards[parityIndex]? = some (some shard)) :
    FrameHolds codecs unit (id :: received) frame where
  fragmentCount := h.fragmentCount
  flags := h.flags
  ptsUs := h.ptsUs
  encodedAtUs := h.encodedAtUs
  fragmentGroups := h.fragmentGroups
  groupCount := h.groupCount
  groups groupIndex group hgroup := by
    have hold := h.groups groupIndex group hgroup
    refine ⟨hold.range, hold.present, hold.slots, hold.parity, ?_⟩
    intro parityIndex hmem
    rcases List.mem_cons.mp hmem with heq | htail
    · exact hparity groupIndex parityIndex group heq.symm hgroup
    · exact hold.received parityIndex htail
  fragments := h.fragments
  received index hmem := by
    rcases List.mem_cons.mp hmem with heq | htail
    · exact hdata index heq.symm
    · exact h.received index htail

theorem store_data (h : FrameHolds codecs unit received frame) {index : Nat}
    (hindex : index < unit.fragmentCount) :
    ∃ stored, ({ frame with fragments := frame.fragments.insert index (chunk unit.data index)
        }.markDataPresent index) = (stored, fecGroupIndex unit.fragmentCount index) ∧
      FrameHolds codecs unit (.data index :: received) stored ∧
      ∀ other, other ≠ fecGroupIndex unit.fragmentCount index →
        stored.fecGroups[other]? = frame.fecGroups[other]? := by
  obtain ⟨group, hget, hgroupOf⟩ := h.groupOf hindex
  have hold := h.groups _ group hget
  have hspec := fecGroupIndex_spec hindex
  have hgroupOf' : { frame with
      fragments := frame.fragments.insert index (chunk unit.data index) }.groupOf index =
      some (fecGroupIndex unit.fragmentCount index, group) := hgroupOf
  unfold markDataPresent
  rw [hgroupOf']
  refine ⟨_, rfl, ?_, ?_⟩
  · refine h.update ?_ ?_ ?_ ?_ ?_
    · refine ⟨hold.range, ?_, hold.slots, hold.parity, ?_⟩
      · intro offset hoffset
        have hstart : group.range.start =
            (fecGroupRange unit.fragmentCount (fecGroupIndex unit.fragmentCount index)).start :=
          congrArg FragmentRange.start hold.range
        have hlen : (unit.groupRange (fecGroupIndex unit.fragmentCount index)).len ≤
            fecDataShards :=
          fecGroupRange_len_le (Nat.zero_lt_of_lt hindex) _
        have hstart' : (unit.groupRange (fecGroupIndex unit.fragmentCount index)).start =
            (fecGroupRange unit.fragmentCount
              (fecGroupIndex unit.fragmentCount index)).start := rfl
        unfold fecDataShards at hlen
        rw [mem_map_insert, ← hold.present offset hoffset, BitVec.getLsbD_or,
          getLsbD_maskBit, Bool.or_eq_true, Bool.and_eq_true, decide_eq_true_iff,
          decide_eq_true_iff, hstart]
        constructor
        · rintro (hbit | ⟨_, heq⟩)
          · exact Or.inr hbit
          · exact Or.inl (by omega)
        · rintro (heq | hbit)
          · exact Or.inr ⟨by omega, by omega⟩
          · exact Or.inl hbit
      · intro parityIndex hmem
        rcases List.mem_cons.mp hmem with heq | htail
        · cases heq
        · exact hold.received parityIndex htail
    · intro other bytes hother
      rw [Std.ExtTreeMap.getElem?_insert] at hother
      by_cases heq : index = other
      · rw [if_pos (Std.compare_eq_iff_eq.mpr heq)] at hother
        cases hother
        exact ⟨heq ▸ hindex, heq ▸ rfl⟩
      · rw [if_neg (fun hcmp => heq (Std.compare_eq_iff_eq.mp hcmp))] at hother
        exact h.fragments other bytes hother
    · intro other _ hne
      rw [mem_map_insert]
      constructor
      · rintro (rfl | hmem)
        · exact absurd rfl hne
        · exact hmem
      · exact Or.inr
    · intro other parityIndex _ hmem
      rcases List.mem_cons.mp hmem with heq | htail
      · cases heq
      · exact htail
    · intro other hmem
      rw [mem_map_insert]
      rcases List.mem_cons.mp hmem with heq | htail
      · cases heq
        exact Or.inl rfl
      · exact Or.inr (h.received other htail)
  · intro other hne
    exact List.getElem?_set_ne (Ne.symm hne)

/-! ### Parity -/

theorem parityIndex_payload {groupIndex parityIndex : Nat}
    (h : (ShardId.parity groupIndex parityIndex).Sent unit) :
    Packet.parityIndex ((ShardId.parity groupIndex parityIndex).payload codecs unit) =
      parityIndex := by
  have hlt : parityIndex < 256 ^ 1 := Nat.lt_trans h.2.2 (by decide)
  rw [ShardId.payload_parity, Packet.parityIndex, parityHeader, List.append_assoc,
    peekBE_putBE_append hlt]

theorem groupLastLength_lt {groupIndex : Nat} (htwo : 2 ≤ unit.fragmentCount)
    (hgroup : groupIndex < unit.groupCount) :
    0 < unit.groupLastLength groupIndex ∧
      unit.groupLastLength groupIndex ≤ maxFecFragmentPayload :=
  have hdata := ShardId.groupData htwo hgroup
  ⟨hdata.lastLength_pos, hdata.lastLength_le⟩

theorem parityLastDataLen_payload {groupIndex parityIndex : Nat}
    (h : (ShardId.parity groupIndex parityIndex).Sent unit) :
    parityLastDataLen ((ShardId.parity groupIndex parityIndex).payload codecs unit) =
      unit.groupLastLength groupIndex := by
  have hle := (groupLastLength_lt h.1 h.2.1).2
  have hlt : unit.groupLastLength groupIndex < 256 ^ 2 :=
    Nat.lt_of_le_of_lt hle (by decide)
  rw [ShardId.payload_parity, parityLastDataLen, parityHeader, List.append_assoc,
    drop_putBE_append, peekBE_putBE_append hlt]

theorem parityBytes_payload {groupIndex parityIndex : Nat} {row : Shard}
    (hrow : (unit.groupRows codecs groupIndex)[parityIndex]? = some row) :
    parityBytes ((ShardId.parity groupIndex parityIndex).payload codecs unit) = row := by
  have hsize : fecParityPrefixSize = 1 + 2 := rfl
  rw [ShardId.payload_parity, parityBytes, parityHeader, hrow, Option.getD_some, hsize,
    ← List.drop_drop, List.append_assoc, drop_putBE_append, drop_putBE_append]

theorem validateParityShard_ok (hlawful : codecs.Lawful) {groupIndex parityIndex : Nat}
    (h : (ShardId.parity groupIndex parityIndex).Sent unit) :
    validateParityShard unit.fragmentCount (unit.groupRange groupIndex).start
      ((ShardId.parity groupIndex parityIndex).payload codecs unit) = .ok () := by
  obtain ⟨row, hrow, hlen⟩ := ShardId.Sent.row hlawful h
  have hlast := groupLastLength_lt h.1 h.2.1
  have hpayload : ((ShardId.parity groupIndex parityIndex).payload codecs unit).length =
      fecParityPrefixSize + maxFecFragmentPayload := by
    rw [ShardId.payload_parity, hrow, Option.getD_some, List.length_append, parityHeader,
      List.length_append, length_putBE, length_putBE, hlen]
    rfl
  have hshort : ¬ ((ShardId.parity groupIndex parityIndex).payload codecs unit).length ≤
      fecParityPrefixSize := by
    rw [hpayload, maxFecFragmentPayload_eq]
    omega
  have hindex : ¬ fecParityShards ≤
      Packet.parityIndex ((ShardId.parity groupIndex parityIndex).payload codecs unit) := by
    rw [parityIndex_payload h]
    exact Nat.not_le.mpr h.2.2
  have hbytes : ¬ (parityLastDataLen
        ((ShardId.parity groupIndex parityIndex).payload codecs unit) = 0 ∨
      (parityBytes ((ShardId.parity groupIndex parityIndex).payload codecs unit)).length <
        parityLastDataLen ((ShardId.parity groupIndex parityIndex).payload codecs unit) ∨
      maxFecFragmentPayload <
        (parityBytes ((ShardId.parity groupIndex parityIndex).payload codecs unit)).length) := by
    rw [parityLastDataLen_payload h, parityBytes_payload hrow, hlen]
    omega
  have hstart := fecGroupIndex_start h.2.1
  have hgroup : fecGroupForFragment unit.fragmentCount (unit.groupRange groupIndex).start =
      some (unit.groupRange groupIndex) := by
    have hlookup := fecGroupForFragment_eq hstart.1
    rw [hstart.2] at hlookup
    exact hlookup
  unfold validateParityShard
  rw [if_neg hshort, if_neg hindex, if_neg hbytes, hgroup]
  exact if_pos ⟨rfl, two_le_fecGroupRange_len h.1 groupIndex⟩

theorem store_parity (hlawful : codecs.Lawful) (h : FrameHolds codecs unit received frame)
    {groupIndex parityIndex : Nat}
    (hsent : (ShardId.parity groupIndex parityIndex).Sent unit) :
    (frame.storeParityShard (unit.groupRange groupIndex).start
        ((ShardId.parity groupIndex parityIndex).payload codecs unit) =
          .error .duplicateFragment ∧
      FrameHolds codecs unit (.parity groupIndex parityIndex :: received) frame) ∨
    ∃ stored, frame.storeParityShard (unit.groupRange groupIndex).start
        ((ShardId.parity groupIndex parityIndex).payload codecs unit) =
          .ok (stored, groupIndex) ∧
      FrameHolds codecs unit (.parity groupIndex parityIndex :: received) stored ∧
      stored.fragments = frame.fragments ∧
      ∀ other, other ≠ groupIndex → stored.fecGroups[other]? = frame.fecGroups[other]? := by
  obtain ⟨row, hrow, _⟩ := ShardId.Sent.row hlawful hsent
  have hstart := fecGroupIndex_start hsent.2.1
  obtain ⟨group, hget, hgroupOf⟩ := h.groupOf hstart.1
  rw [hstart.2] at hget hgroupOf
  have hold := h.groups groupIndex group hget
  have hlen : 2 ≤ (unit.groupRange groupIndex).len :=
    two_le_fecGroupRange_len hsent.1 groupIndex
  have hparityGroup : frame.parityGroup (unit.groupRange groupIndex).start =
      some (groupIndex, group) := by
    unfold parityGroup
    unfold PartialFrame.groupOf at hgroupOf
    have hix : frame.fragmentGroups[(unit.groupRange groupIndex).start]? = some groupIndex := by
      rw [h.fragmentGroups]
      have hlookup := buildFecState_fragmentGroups hstart.1
      rw [hstart.2] at hlookup
      exact hlookup
    rw [hix, Option.bind_eq_bind, Option.bind_some, hget, Option.bind_eq_bind,
      Option.bind_some, hold.range, if_pos ⟨rfl, hlen⟩]
  unfold storeParityShard
  simp only [hparityGroup, parityIndex_payload hsent, parityLastDataLen_payload hsent,
    parityBytes_payload hrow]
  by_cases hthere : (group.parityShards[parityIndex]?.getD none).isSome = true
  · left
    refine ⟨if_pos hthere, ?_⟩
    refine h.receive_again (fun index heq => by cases heq) ?_
    intro other otherParity group' heq hget'
    cases heq
    rw [hget] at hget'
    cases hget'
    obtain ⟨shard, hshard⟩ := Option.isSome_iff_exists.mp hthere
    cases hslot : group.parityShards[parityIndex]? with
    | none =>
        rw [hslot] at hshard
        cases hshard
    | some slot =>
        rw [hslot, Option.getD_some] at hshard
        exact ⟨shard, by rw [hshard]⟩
  · right
    have hslot : parityIndex < group.parityShards.length := by
      rw [hold.slots]
      exact hsent.2.2
    refine ⟨_, if_neg hthere, ?_, rfl, fun other hne => List.getElem?_set_ne (Ne.symm hne)⟩
    refine @FrameHolds.update codecs unit received frame h
      (.parity groupIndex parityIndex :: received) frame.fragments groupIndex _ ?_ h.fragments
      (fun _ _ _ => Iff.rfl) ?_ ?_
    · refine ⟨hold.range, hold.present, ?_, ?_, ?_⟩
      · rw [List.length_set]
        exact hold.slots
      · intro other shard hshard
        dsimp only at hshard
        by_cases heq : parityIndex = other
        · rw [← heq, List.getElem?_set_self hslot] at hshard
          cases hshard
          rw [← heq]
          exact ⟨hrow, rfl⟩
        · rw [List.getElem?_set_ne heq] at hshard
          exact hold.parity other shard hshard
      · intro other hmem
        dsimp only
        by_cases heq : parityIndex = other
        · rw [← heq, List.getElem?_set_self hslot]
          exact ⟨_, rfl⟩
        · rw [List.getElem?_set_ne heq]
          rcases List.mem_cons.mp hmem with hhead | htail
          · cases hhead
            exact absurd rfl heq
          · exact hold.received other htail
    · intro other otherParity hne hmem
      rcases List.mem_cons.mp hmem with hhead | htail
      · cases hhead
        exact absurd rfl hne
      · exact htail
    · intro index hmem
      rcases List.mem_cons.mp hmem with hhead | htail
      · cases hhead
      · exact h.received index htail

/-! ## Recovery -/

theorem known_fragments (h : FrameHolds codecs unit received frame) (groupIndex : Nat) :
    Known ((unit.groupRange groupIndex).indices.map (frame.fragments[·]?))
      (groupChunks unit.data (unit.groupRange groupIndex)) := by
  unfold Known groupChunks
  rw [List.forall₂_map_left_iff, List.forall₂_map_right_iff, List.forall₂_same]
  intro index _
  cases hget : frame.fragments[index]? with
  | none => exact Or.inl rfl
  | some bytes => exact Or.inr (congrArg some (h.fragments index bytes hget).2)

theorem known_parity {fragments : Std.ExtTreeMap Nat Bytes} {groupIndex : Nat}
    {group : FecGroupState}
    (hrows : (unit.groupRows codecs groupIndex).length = fecParityShards)
    (h : GroupHolds codecs unit received fragments groupIndex group) :
    Known (group.parityShards.map (Option.map StoredParityShard.bytes))
      (unit.groupRows codecs groupIndex) := by
  unfold Known
  rw [List.forall₂_map_left_iff, List.forall₂_iff_get]
  refine ⟨by rw [h.slots, hrows], ?_⟩
  intro parityIndex hslot hrow
  rw [List.get_eq_getElem, List.get_eq_getElem]
  cases hget : group.parityShards[parityIndex] with
  | none => exact Or.inl rfl
  | some shard =>
      right
      have hsome : group.parityShards[parityIndex]? = some (some shard) := by
        rw [List.getElem?_eq_getElem hslot, hget]
      have hbytes := (h.parity parityIndex shard hsome).1
      rw [List.getElem?_eq_getElem hrow] at hbytes
      rw [Option.map_some, ← Option.some.inj hbytes]

theorem getLsbD_missing {fragments : Std.ExtTreeMap Nat Bytes} {groupIndex : Nat}
    {group : FecGroupState} (h : GroupHolds codecs unit received fragments groupIndex group)
    (hlen : (unit.groupRange groupIndex).len ≤ fecDataShards) {offset : Nat}
    (hoffset : offset < (unit.groupRange groupIndex).len) :
    (missingMask group).getLsbD offset = true ↔
      (unit.groupRange groupIndex).start + offset ∉ fragments := by
  rw [getLsbD_missingMask (by rw [h.range]; exact hlen), h.range, ← h.present offset hoffset]
  simp [hoffset]

theorem countOnes_missing (hvalid : unit.Valid) {fragments : Std.ExtTreeMap Nat Bytes}
    {groupIndex : Nat} {group : FecGroupState}
    (h : GroupHolds codecs unit received fragments groupIndex group) :
    countOnes (missingMask group) =
      ((unit.groupRange groupIndex).indices.map (fragments[·]?)).countP Option.isNone := by
  have hlen : (unit.groupRange groupIndex).len ≤ fecDataShards :=
    fecGroupRange_len_le hvalid.fragmentCount_pos groupIndex
  rw [countOnes_missingMask (by rw [h.range]; exact hlen), h.range, FragmentRange.indices,
    List.range'_eq_map_range, List.map_map, List.countP_map]
  apply List.countP_congr
  intro offset hoffset
  have hpresent := h.present offset (List.mem_range.mp hoffset)
  rw [Std.ExtTreeMap.mem_iff_isSome_getElem?] at hpresent
  rw [Bool.not_eq_true', ← Bool.not_eq_true, hpresent, Function.comp_apply,
    Function.comp_apply]
  cases fragments[(unit.groupRange groupIndex).start + offset]? <;> simp

theorem agreedLastDataLen_eq {fragments : Std.ExtTreeMap Nat Bytes} {groupIndex : Nat}
    {group : FecGroupState} (h : GroupHolds codecs unit received fragments groupIndex group)
    (hsome : 0 < group.parityShards.countP Option.isSome) :
    agreedLastDataLen group = some (unit.groupLastLength groupIndex) := by
  have hall : ∀ shard ∈ group.parityShards.filterMap id,
      shard.lastDataLen = unit.groupLastLength groupIndex := by
    intro shard hshard
    obtain ⟨slot, hslot, heq⟩ := List.mem_filterMap.mp hshard
    rw [id_eq] at heq
    rw [heq] at hslot
    obtain ⟨parityIndex, hget⟩ := List.mem_iff_getElem?.mp hslot
    exact (h.parity parityIndex shard hget).2
  unfold agreedLastDataLen
  cases hlist : group.parityShards.filterMap id with
  | nil =>
      obtain ⟨slot, hslot, hisSome⟩ := List.countP_pos_iff.mp hsome
      obtain ⟨shard, rfl⟩ := Option.isSome_iff_exists.mp hisSome
      have hmem : shard ∈ group.parityShards.filterMap id :=
        List.mem_filterMap.mpr ⟨some shard, hslot, rfl⟩
      rw [hlist] at hmem
      cases hmem
  | cons shard shards =>
      rw [hlist] at hall
      have hagree : shards.all (fun other => other.lastDataLen = shard.lastDataLen) = true := by
        rw [List.all_eq_true]
        intro other hother
        rw [hall other (List.mem_cons_of_mem _ hother), hall shard List.mem_cons_self]
        exact decide_eq_true rfl
      dsimp only
      rw [if_pos hagree, hall shard List.mem_cons_self]

theorem reconstructed (hlawful : codecs.Lawful) (hvalid : unit.Valid)
    (h : FrameHolds codecs unit received frame) {groupIndex : Nat} {group : FecGroupState}
    (hgroup : GroupHolds codecs unit received frame.fragments groupIndex group)
    (hlt : groupIndex < unit.groupCount) (htwo : 2 ≤ unit.fragmentCount)
    (hmissing : countOnes (missingMask group) ≠ 0)
    (henough : countOnes (missingMask group) ≤ group.parityShards.countP Option.isSome) :
    reconstructFecGroup codecs
        ((unit.groupRange groupIndex).indices.map (frame.fragments[·]?))
        (group.parityShards.map (Option.map StoredParityShard.bytes))
        (unit.groupLastLength groupIndex) =
      some ((groupChunks unit.data (unit.groupRange groupIndex)).map some) := by
  have hdata := ShardId.groupData htwo hlt
  have hrows : (unit.groupRows codecs groupIndex).length = fecParityShards :=
    (hdata.parityRows_spec hlawful).2.1
  have hcount := countOnes_missing hvalid hgroup
  have hparityCount : (group.parityShards.map (Option.map StoredParityShard.bytes)).countP
      Option.isSome = group.parityShards.countP Option.isSome := by
    rw [List.countP_map]
    apply List.countP_congr
    intro slot _
    cases slot <;> rfl
  exact hdata.reconstructFecGroup_eq hlawful (h.known_fragments groupIndex)
    (known_parity hrows hgroup) (by omega) (by omega)

/-- The loop over the rebuilt fragments has put those of the group that were missing. -/
structure Refilled (unit : AccessUnit) (frame : PartialFrame) (groupIndex : Nat)
    (group : FecGroupState) (out : Recovered) : Prop where
  fragment : ∀ index, out.fragments[index]? =
    if (unit.groupRange groupIndex).start ≤ index ∧
        index < (unit.groupRange groupIndex).start + (unit.groupRange groupIndex).len ∧
        (missingMask group).getLsbD (index - (unit.groupRange groupIndex).start) = true then
      some (chunk unit.data index)
    else frame.fragments[index]?
  bit : ∀ offset, out.mask.getLsbD offset = true ↔
    offset < (unit.groupRange groupIndex).len ∧ (missingMask group).getLsbD offset = true

theorem refilled (unit : AccessUnit) (frame : PartialFrame) {groupIndex : Nat}
    (group : FecGroupState) (hlen : (unit.groupRange groupIndex).len ≤ fecDataShards) :
    Refilled unit frame groupIndex group
      (((groupChunks unit.data (unit.groupRange groupIndex)).map some).zipIdx.foldl
        (insertRecovered (unit.groupRange groupIndex) (missingMask group))
        ⟨frame.fragments, 0, 0⟩) := by
  have hchunks : (groupChunks unit.data (unit.groupRange groupIndex)).length =
      (unit.groupRange groupIndex).len := by
    rw [groupChunks, List.length_map, FragmentRange.length_indices]
  have hfit : 0 + (groupChunks unit.data (unit.groupRange groupIndex)).length ≤ 8 := by
    rw [hchunks]
    unfold fecDataShards at hlen
    omega
  constructor
  · intro index
    rw [foldl_insertRecovered_fragments _ _ _ hfit, hchunks]
    simp only [Nat.add_zero, Nat.sub_zero]
    split
    · rename_i hin
      have hoffset : index - (unit.groupRange groupIndex).start <
          (unit.groupRange groupIndex).len := by omega
      have hindex : (unit.groupRange groupIndex).start +
          (index - (unit.groupRange groupIndex).start) = index := by omega
      rw [groupChunks_getElem?, if_pos hoffset, hindex]
    · rfl
  · intro offset
    rw [foldl_insertRecovered_mask _ _ _ hfit, hchunks]
    simp

namespace Refilled

variable {groupIndex : Nat} {group : FecGroupState} {out : Recovered}

theorem kept (h : Refilled unit frame groupIndex group out) {index : Nat}
    (hmem : index ∈ frame.fragments) : index ∈ out.fragments := by
  rw [Std.ExtTreeMap.mem_iff_isSome_getElem?] at hmem ⊢
  rw [h.fragment]
  split
  · rfl
  · exact hmem

theorem others (h : Refilled unit frame groupIndex group out) {index : Nat}
    (hindex : index < unit.fragmentCount)
    (hne : fecGroupIndex unit.fragmentCount index ≠ groupIndex) :
    index ∈ out.fragments ↔ index ∈ frame.fragments := by
  rw [Std.ExtTreeMap.mem_iff_isSome_getElem?, Std.ExtTreeMap.mem_iff_isSome_getElem?,
    h.fragment, if_neg]
  rintro ⟨hle, hlt, _⟩
  have hstop : index < (unit.groupRange groupIndex).stop :=
    hlt.trans_eq (fecGroupRange_start_add_len _ _)
  exact hne (fecGroupIndex_unique hindex hle hstop)

variable (h : Refilled unit frame groupIndex group out)
  (hgroup : GroupHolds codecs unit received frame.fragments groupIndex group)
  (hlen : (unit.groupRange groupIndex).len ≤ fecDataShards) {offset : Nat}
  (hoffset : offset < (unit.groupRange groupIndex).len)

include h hgroup hlen hoffset

/-- A fragment of the group was there, or the loop has put it. -/
theorem there : (unit.groupRange groupIndex).start + offset ∈ out.fragments := by
  by_cases hmem : (unit.groupRange groupIndex).start + offset ∈ frame.fragments
  · exact h.kept hmem
  · have hbit := (getLsbD_missing hgroup hlen hoffset).mpr hmem
    rw [Std.ExtTreeMap.mem_iff_isSome_getElem?, h.fragment, Nat.add_sub_cancel_left,
      if_pos ⟨Nat.le_add_right _ _, Nat.add_lt_add_left hoffset _, hbit⟩]
    rfl

theorem bits : (group.presentMask ||| out.mask).getLsbD offset = true := by
  rw [BitVec.getLsbD_or, Bool.or_eq_true, h.bit, hgroup.present offset hoffset,
    getLsbD_missing hgroup hlen hoffset]
  by_cases hmem : (unit.groupRange groupIndex).start + offset ∈ frame.fragments
  · exact Or.inl hmem
  · exact Or.inr ⟨hoffset, hmem⟩

end Refilled

theorem recover (hlawful : codecs.Lawful) (hvalid : unit.Valid)
    (h : FrameHolds codecs unit received frame) (groupIndex : Nat) :
    FrameHolds codecs unit received (frame.recoverAffectedGroup codecs groupIndex).frame ∧
      Saturated (frame.recoverAffectedGroup codecs groupIndex).frame groupIndex ∧
      ∀ other, other ≠ groupIndex →
        (frame.recoverAffectedGroup codecs groupIndex).frame.fecGroups[other]? =
          frame.fecGroups[other]? := by
  unfold recoverAffectedGroup
  cases hget : frame.fecGroups[groupIndex]? with
  | none => exact ⟨h, saturated_of_absent hget, fun _ _ => rfl⟩
  | some group =>
      have hgroup := h.groups groupIndex group hget
      dsimp only
      by_cases hsmall : group.range.len < 2
      · rw [if_pos hsmall]
        refine ⟨h, saturated_of_group hget fun htwo => ?_, fun _ _ => rfl⟩
        omega
      rw [if_neg hsmall]
      by_cases hmany : countOnes (missingMask group) = 0 ∨
          fecParityShards < countOnes (missingMask group)
      · rw [if_pos hmany]
        refine ⟨h, saturated_of_group hget fun _ => ?_, fun _ _ => rfl⟩
        have hslots : group.parityShards.countP Option.isSome ≤ fecParityShards := by
          rw [← hgroup.slots]
          exact List.countP_le_length
        exact hmany.imp id (Nat.lt_of_le_of_lt hslots)
      rw [if_neg hmany]
      by_cases hfew : group.parityShards.countP Option.isSome < countOnes (missingMask group)
      · rw [if_pos hfew]
        exact ⟨h, saturated_of_group hget fun _ => Or.inr hfew, fun _ _ => rfl⟩
      rw [if_neg hfew]
      -- From here on the codec rebuilds the group.
      have hlt : groupIndex < unit.groupCount := by
        rw [← h.groupCount]
        exact (List.getElem?_eq_some_iff.mp hget).1
      have hstop : (unit.groupRange groupIndex).stop ≤ unit.fragmentCount :=
        fecGroupRange_stop_le hlt
      have hsum : (unit.groupRange groupIndex).start + (unit.groupRange groupIndex).len =
          (unit.groupRange groupIndex).stop := fecGroupRange_start_add_len _ _
      have hlen : (unit.groupRange groupIndex).len ≤ fecDataShards :=
        fecGroupRange_len_le hvalid.fragmentCount_pos groupIndex
      rw [hgroup.range] at hsmall
      rw [agreedLastDataLen_eq hgroup (by omega), hgroup.range]
      simp only [reconstructed hlawful hvalid h hgroup hlt (by omega) (by omega) (by omega)]
      have hfilled := refilled unit frame group hlen
      generalize ((groupChunks unit.data (unit.groupRange groupIndex)).map some).zipIdx.foldl
        (insertRecovered (unit.groupRange groupIndex) (missingMask group))
        ⟨frame.fragments, 0, 0⟩ = out at hfilled ⊢
      refine ⟨?_, ?_, fun other hne => List.getElem?_set_ne (Ne.symm hne)⟩
      · refine h.update ⟨rfl, ?_, hgroup.slots, hgroup.parity, hgroup.received⟩ ?_
          (fun _ hindex hne => hfilled.others hindex hne) (fun _ _ _ hmem => hmem)
          (fun index hmem => hfilled.kept (h.received index hmem))
        · intro offset hoffset
          exact iff_of_true (hfilled.bits hgroup hlen hoffset) (hfilled.there hgroup hlen hoffset)
        · intro index bytes hbytes
          rw [hfilled.fragment] at hbytes
          split at hbytes
          · cases hbytes
            exact ⟨by omega, rfl⟩
          · exact h.fragments index bytes hbytes
      · have hset : groupIndex < frame.fecGroups.length := (List.getElem?_eq_some_iff.mp hget).1
        refine saturated_of_group (List.getElem?_set_self hset) fun _ => Or.inl ?_
        rw [countOnes_missingMask hlen, List.countP_eq_zero]
        intro offset hoffset
        dsimp only at hoffset ⊢
        rw [hfilled.bits hgroup hlen (List.mem_range.mp hoffset)]
        decide

end FrameHolds

end PicooCamera.Packet
