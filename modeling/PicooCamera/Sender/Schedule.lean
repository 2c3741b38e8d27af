import PicooCamera.Library.RoundRobin
import PicooCamera.Sender.Shards

/-!
# The order of the datagrams of an access unit

`schedule_fec_datagrams` is a round robin over the FEC groups: one shard of each
group per turn, the data shards of all groups ahead of the parity shards. A run
of datagrams no longer than the number of groups takes at most one data shard
and one parity shard of a group.
-/

namespace PicooCamera.Sender

open PicooCamera.Library PicooCamera.Protocol PicooCamera.Transport

/-! ## Shards by slot -/

/-- The shard that a slot of a group stands for. -/
def shardAt (slot : Slot) (entry : FragmentRange × Nat) : Option ShardId :=
  match slot with
  | .data offset =>
      if entry.1.start + offset < entry.1.stop then some (.data (entry.1.start + offset))
      else none
  | .parity index => some (.parity entry.2 index)

/-- The shards of the groups in the order in which the scheduler looks for them. -/
def shardOrder (groups : List FragmentRange) : List ShardId :=
  slots.flatMap fun slot => groups.zipIdx.filterMap (shardAt slot)

/-- The datagram of a shard in the packet lists. -/
def datagramAt (dataDatagrams : List Bytes) (parityByGroup : List (List Bytes)) :
    ShardId → Option Bytes
  | .data index => dataDatagrams[index]?
  | .parity groupIndex index => (parityByGroup[groupIndex]?).bind fun packets => packets[index]?

/-- The datagram of a shard that a schedule state still holds. -/
def ScheduleState.held (state : ScheduleState) : ShardId → Option Bytes
  | .data index => (state.data[index]?).join
  | .parity groupIndex index =>
      ((state.parity[groupIndex]?).bind fun packets => packets[index]?).join

theorem ScheduleState.held_initial (dataDatagrams : List Bytes)
    (parityByGroup : List (List Bytes)) (id : ShardId) :
    (ScheduleState.mk (dataDatagrams.map some) (parityByGroup.map (List.map some)) []).held id =
      datagramAt dataDatagrams parityByGroup id := by
  cases id with
  | data index =>
      unfold held datagramAt
      dsimp only
      rw [List.getElem?_map]
      cases dataDatagrams[index]? <;> rfl
  | parity groupIndex index =>
      unfold held datagramAt
      dsimp only
      rw [List.getElem?_map]
      cases parityByGroup[groupIndex]? with
      | none => rfl
      | some packets =>
          rw [Option.map_some, Option.bind_some, Option.bind_some, List.getElem?_map]
          cases packets[index]? <;> rfl

/-! ## One turn -/

theorem scheduleSlot_none {slot : Slot} {entry : FragmentRange × Nat}
    (h : shardAt slot entry = none) (state : ScheduleState) :
    scheduleSlot slot state entry = state := by
  cases slot with
  | data offset =>
      unfold shardAt at h
      dsimp only at h
      split at h
      · cases h
      next hstop =>
        unfold scheduleSlot takeSlot
        dsimp only
        rw [if_neg hstop]
  | parity index => cases h

private theorem join_getElem?_set (items : List (Option Bytes)) (index other : Nat) :
    ((items.set index none)[other]?).join =
      if other = index then none else (items[other]?).join := by
  by_cases h : other = index
  · rw [if_pos h, h, List.getElem?_set_self']
    cases items[index]? <;> rfl
  · rw [if_neg h, List.getElem?_set_ne (Ne.symm h)]

theorem scheduleSlot_eq (slot : Slot) (state : ScheduleState) (entry : FragmentRange × Nat) :
    scheduleSlot slot state entry =
      { (takeSlot slot state entry.1 entry.2).2 with
        scheduled := (takeSlot slot state entry.1 entry.2).2.scheduled ++
          (takeSlot slot state entry.1 entry.2).1.toList } := by
  unfold scheduleSlot
  cases takeSlot slot state entry.1 entry.2 with
  | mk packet taken =>
      cases packet with
      | none =>
          dsimp only
          rw [Option.toList_none, List.append_nil]
      | some packet => rfl

theorem takeSlot_some {slot : Slot} {entry : FragmentRange × Nat} {id : ShardId}
    (h : shardAt slot entry = some id) (state : ScheduleState) :
    (takeSlot slot state entry.1 entry.2).1 = state.held id ∧
      (takeSlot slot state entry.1 entry.2).2.scheduled = state.scheduled ∧
      ∀ other, (takeSlot slot state entry.1 entry.2).2.held other =
        if other = id then none else state.held other := by
  cases slot with
  | data offset =>
      unfold shardAt at h
      dsimp only at h
      split at h
      next hstop =>
        obtain rfl := Option.some.inj h
        unfold takeSlot
        dsimp only
        rw [if_pos hstop]
        refine ⟨rfl, rfl, fun other => ?_⟩
        cases other with
        | data index =>
            simp only [ShardId.data.injEq]
            exact join_getElem?_set state.data _ index
        | parity groupIndex index =>
            rw [if_neg (fun heq => nomatch heq)]
            rfl
      · cases h
  | parity index =>
      obtain rfl := Option.some.inj h
      unfold takeSlot
      dsimp only
      cases hpackets : state.parity[entry.2]? with
      | none =>
          dsimp only
          refine ⟨?_, rfl, fun other => ?_⟩
          · unfold ScheduleState.held
            dsimp only
            rw [hpackets]
            rfl
          · by_cases heq : other = .parity entry.2 index
            · rw [if_pos heq, heq]
              unfold ScheduleState.held
              dsimp only
              rw [hpackets]
              rfl
            · rw [if_neg heq]
      | some packets =>
          dsimp only
          refine ⟨?_, rfl, fun other => ?_⟩
          · unfold ScheduleState.held
            dsimp only
            rw [hpackets]
            rfl
          · cases other with
            | data index =>
                rw [if_neg (fun heq => nomatch heq)]
                rfl
            | parity groupIndex other =>
                simp only [ShardId.parity.injEq]
                unfold ScheduleState.held
                dsimp only
                by_cases hgroup : groupIndex = entry.2
                · have hlt := (List.getElem?_eq_some_iff.mp hpackets).1
                  rw [hgroup, List.getElem?_set_self hlt, hpackets, Option.bind_some,
                    Option.bind_some, join_getElem?_set]
                  simp only [true_and]
                · rw [List.getElem?_set_ne (Ne.symm hgroup), if_neg (fun hboth => hgroup hboth.1)]

theorem scheduleSlot_some {slot : Slot} {entry : FragmentRange × Nat} {id : ShardId}
    (h : shardAt slot entry = some id) (state : ScheduleState) :
    (scheduleSlot slot state entry).scheduled = state.scheduled ++ (state.held id).toList ∧
      ∀ other, (scheduleSlot slot state entry).held other =
        if other = id then none else state.held other := by
  obtain ⟨hpacket, hscheduled, hheld⟩ := takeSlot_some h state
  rw [scheduleSlot_eq, hpacket, hscheduled]
  exact ⟨rfl, hheld⟩

/-! ## All turns -/

theorem foldl_scheduleSlot (turns : List (Slot × FragmentRange × Nat)) (state : ScheduleState)
    (h : (turns.filterMap fun turn => shardAt turn.1 turn.2).Nodup) :
    (turns.foldl (fun state turn => scheduleSlot turn.1 state turn.2) state).scheduled =
      state.scheduled ++
        (turns.filterMap fun turn => shardAt turn.1 turn.2).filterMap state.held := by
  induction turns generalizing state with
  | nil => simp
  | cons turn turns ih =>
      rw [List.foldl_cons]
      cases hshard : shardAt turn.1 turn.2 with
      | none =>
          simp only [List.filterMap_cons, hshard] at h ⊢
          rw [scheduleSlot_none hshard]
          exact ih state h
      | some id =>
          simp only [List.filterMap_cons, hshard] at h ⊢
          obtain ⟨hfresh, hnodup⟩ := List.nodup_cons.mp h
          obtain ⟨hscheduled, hheld⟩ := scheduleSlot_some hshard state
          have hrest : (turns.filterMap fun turn => shardAt turn.1 turn.2).filterMap
              (scheduleSlot turn.1 state turn.2).held =
                (turns.filterMap fun turn => shardAt turn.1 turn.2).filterMap state.held := by
            refine List.filterMap_congr fun other hother => ?_
            rw [hheld, if_neg]
            intro heq
            exact hfresh (heq ▸ hother)
          rw [ih _ hnodup, hscheduled, hrest, List.append_assoc]
          cases state.held id <;> rfl

theorem scheduleFecDatagrams_eq (dataDatagrams : List Bytes) (parityByGroup : List (List Bytes))
    {groups : List FragmentRange} (h : (shardOrder groups).Nodup) :
    scheduleFecDatagrams dataDatagrams parityByGroup groups =
      (shardOrder groups).filterMap (datagramAt dataDatagrams parityByGroup) := by
  have hturns : (slots.flatMap fun slot => groups.zipIdx.map (slot, ·)).filterMap
      (fun turn => shardAt turn.1 turn.2) = shardOrder groups := by
    unfold shardOrder
    rw [List.filterMap_flatMap]
    refine congrArg (List.flatMap · slots) (funext fun slot => ?_)
    rw [List.filterMap_map]
    rfl
  have hfold := foldl_scheduleSlot (slots.flatMap fun slot => groups.zipIdx.map (slot, ·))
    ⟨dataDatagrams.map some, parityByGroup.map (List.map some), []⟩ (hturns ▸ h)
  rw [hturns, List.foldl_flatMap, List.nil_append] at hfold
  simp only [List.foldl_map] at hfold
  unfold scheduleFecDatagrams
  rw [hfold]
  exact List.filterMap_congr fun id _ =>
    ScheduleState.held_initial dataDatagrams parityByGroup id

/-! ## The groups of an access unit -/

section Turns

variable (fragmentCount : Nat)

/-- The data shard of a turn: one offset further into each group after a round of the
groups. -/
def dataTurn (turn : Nat) : ShardId :=
  .data ((fecGroupRange fragmentCount (turn % fecGroupCount fragmentCount)).start +
    turn / fecGroupCount fragmentCount)

def parityTurn (turn : Nat) : ShardId :=
  .parity (turn % fecGroupCount fragmentCount) (turn / fecGroupCount fragmentCount)

variable {fragmentCount}

private theorem turn_div_mod (round : Nat) {group count : Nat} (h : group < count) :
    (round * count + group) % count = group ∧ (round * count + group) / count = round := by
  have hcount : 0 < count := Nat.zero_lt_of_lt h
  rw [Nat.mul_comm, Nat.mul_add_mod, Nat.mul_add_div hcount, Nat.mod_eq_of_lt h,
    Nat.div_eq_of_lt h]
  exact ⟨rfl, rfl⟩

theorem offset_lt_len_iff {groupIndex : Nat}
    (h : groupIndex < fecGroupCount fragmentCount) (offset : Nat) :
    offset < (fecGroupRange fragmentCount groupIndex).len ↔
      offset * fecGroupCount fragmentCount + groupIndex < fragmentCount := by
  have hdiv := Nat.div_add_mod fragmentCount (fecGroupCount fragmentCount)
  have hmod := Nat.mod_lt fragmentCount (Nat.zero_lt_of_lt h)
  rw [fecGroupRange_len]
  rw [Nat.mul_comm] at hdiv
  rcases Nat.lt_trichotomy offset (fragmentCount / fecGroupCount fragmentCount) with
    hlt | heq | hgt
  · have hmul := Nat.mul_le_mul_right (fecGroupCount fragmentCount) (Nat.succ_le_of_lt hlt)
    rw [Nat.succ_mul] at hmul
    split <;> omega
  · rw [← heq] at hdiv ⊢
    split <;> omega
  · have hmul := Nat.mul_le_mul_right (fecGroupCount fragmentCount) (Nat.succ_le_of_lt hgt)
    rw [Nat.succ_mul] at hmul
    split <;> omega

theorem shardAt_data {groupIndex : Nat} (h : groupIndex < fecGroupCount fragmentCount)
    (offset : Nat) :
    shardAt (.data offset) (fecGroupRange fragmentCount groupIndex, groupIndex) =
      if offset * fecGroupCount fragmentCount + groupIndex < fragmentCount then
        some (dataTurn fragmentCount (offset * fecGroupCount fragmentCount + groupIndex))
      else none := by
  have hsum := fecGroupRange_start_add_len fragmentCount groupIndex
  have hiff : (fecGroupRange fragmentCount groupIndex).start + offset <
      (fecGroupRange fragmentCount groupIndex).stop ↔
        offset * fecGroupCount fragmentCount + groupIndex < fragmentCount := by
    rw [← offset_lt_len_iff h offset]
    omega
  obtain ⟨hmod, hdiv⟩ := turn_div_mod offset h
  unfold shardAt dataTurn
  dsimp only
  rw [hmod, hdiv]
  simp only [hiff]

theorem zipIdx_fecGroupRanges :
    (fecGroupRanges fragmentCount).zipIdx =
      (List.range (fecGroupCount fragmentCount)).map fun groupIndex =>
        (fecGroupRange fragmentCount groupIndex, groupIndex) := by
  rw [fecGroupRanges_eq]
  apply List.ext_getElem
  · simp
  · intro groupIndex _ _
    simp

theorem fragmentCount_le_turns (fragmentCount : Nat) :
    fragmentCount ≤ fecDataShards * fecGroupCount fragmentCount := by
  unfold fecGroupCount fecDataShards
  omega

private theorem dataSlots_shards :
    ((List.range fecDataShards).map Slot.data).flatMap
        (fun slot => (fecGroupRanges fragmentCount).zipIdx.filterMap (shardAt slot)) =
      (List.range fragmentCount).map (dataTurn fragmentCount) := by
  have hround : ∀ offset,
      (fecGroupRanges fragmentCount).zipIdx.filterMap (shardAt (.data offset)) =
        ((List.range (fecGroupCount fragmentCount)).map fun groupIndex =>
          offset * fecGroupCount fragmentCount + groupIndex).filterMap fun turn =>
            if turn < fragmentCount then some (dataTurn fragmentCount turn) else none := by
    intro offset
    rw [zipIdx_fecGroupRanges, List.filterMap_map, List.filterMap_map]
    refine List.filterMap_congr fun groupIndex hgroup => ?_
    exact shardAt_data (List.mem_range.mp hgroup) offset
  rw [List.flatMap_map]
  simp only [hround]
  rw [← List.filterMap_flatMap, flatMap_rounds,
    filterMap_range_of_lt (fragmentCount_le_turns fragmentCount)]

private theorem paritySlots_shards :
    ((List.range fecParityShards).map Slot.parity).flatMap
        (fun slot => (fecGroupRanges fragmentCount).zipIdx.filterMap (shardAt slot)) =
      (List.range (fecParityShards * fecGroupCount fragmentCount)).map
        (parityTurn fragmentCount) := by
  have hround : ∀ index,
      (fecGroupRanges fragmentCount).zipIdx.filterMap (shardAt (.parity index)) =
        ((List.range (fecGroupCount fragmentCount)).map fun groupIndex =>
          index * fecGroupCount fragmentCount + groupIndex).map (parityTurn fragmentCount) := by
    intro index
    rw [zipIdx_fecGroupRanges, List.filterMap_map, List.map_map, ← List.filterMap_eq_map]
    refine List.filterMap_congr fun groupIndex hgroup => ?_
    obtain ⟨hmod, hdiv⟩ := turn_div_mod index (List.mem_range.mp hgroup)
    show some (ShardId.parity groupIndex index) = some (parityTurn fragmentCount _)
    unfold parityTurn
    rw [hmod, hdiv]
  rw [List.flatMap_map]
  simp only [hround]
  rw [← List.map_flatMap, flatMap_rounds]

theorem shardOrder_fecGroupRanges (fragmentCount : Nat) :
    shardOrder (fecGroupRanges fragmentCount) =
      (List.range fragmentCount).map (dataTurn fragmentCount) ++
        (List.range (fecParityShards * fecGroupCount fragmentCount)).map
          (parityTurn fragmentCount) := by
  have hslots : slots =
      (List.range fecDataShards).map Slot.data ++
        (List.range fecParityShards).map Slot.parity := rfl
  unfold shardOrder
  rw [hslots, List.flatMap_append, dataSlots_shards, paritySlots_shards]

/-! ## Each shard once -/

theorem dataTurn_group {turn : Nat} (h : turn < fragmentCount) :
    (fecGroupRange fragmentCount (turn % fecGroupCount fragmentCount)).start +
        turn / fecGroupCount fragmentCount < fragmentCount ∧
      fecGroupIndex fragmentCount
          ((fecGroupRange fragmentCount (turn % fecGroupCount fragmentCount)).start +
            turn / fecGroupCount fragmentCount) = turn % fecGroupCount fragmentCount := by
  have hcount := fecGroupCount_pos (Nat.zero_lt_of_lt h)
  have hgroup := Nat.mod_lt turn hcount
  have hdiv := Nat.div_add_mod turn (fecGroupCount fragmentCount)
  rw [Nat.mul_comm] at hdiv
  have hoffset := (offset_lt_len_iff hgroup (turn / fecGroupCount fragmentCount)).mpr
    (by omega)
  have hsum := fecGroupRange_start_add_len fragmentCount
    (turn % fecGroupCount fragmentCount)
  have hstop := fecGroupRange_stop_le hgroup
  have hlt : (fecGroupRange fragmentCount (turn % fecGroupCount fragmentCount)).start +
      turn / fecGroupCount fragmentCount < fragmentCount := by omega
  exact ⟨hlt, fecGroupIndex_unique hlt (Nat.le_add_right _ _) (by omega)⟩

theorem turn_ext {count turn other : Nat} (hmod : turn % count = other % count)
    (hdiv : turn / count = other / count) : turn = other := by
  rw [← Nat.div_add_mod turn count, hmod, hdiv, Nat.div_add_mod]

theorem nodup_dataTurns (fragmentCount : Nat) :
    ((List.range fragmentCount).map (dataTurn fragmentCount)).Nodup := by
  rw [List.nodup_map_iff_inj_on List.nodup_range]
  intro turn hturn other hother heq
  obtain ⟨_, hgroup⟩ := dataTurn_group (List.mem_range.mp hturn)
  obtain ⟨_, hgroup'⟩ := dataTurn_group (List.mem_range.mp hother)
  have hindex := ShardId.data.inj heq
  have hmod : turn % fecGroupCount fragmentCount = other % fecGroupCount fragmentCount := by
    rw [← hgroup, ← hgroup', hindex]
  rw [hmod] at hindex
  exact turn_ext hmod (Nat.add_left_cancel hindex)

theorem nodup_parityTurns (fragmentCount count : Nat) :
    ((List.range count).map (parityTurn fragmentCount)).Nodup := by
  rw [List.nodup_map_iff_inj_on List.nodup_range]
  intro turn _ other _ heq
  obtain ⟨hmod, hdiv⟩ := ShardId.parity.inj heq
  exact turn_ext hmod hdiv

theorem nodup_shardOrder (fragmentCount : Nat) :
    (shardOrder (fecGroupRanges fragmentCount)).Nodup := by
  rw [shardOrder_fecGroupRanges, List.nodup_append]
  refine ⟨nodup_dataTurns _, nodup_parityTurns _ _, ?_⟩
  intro id hdata other hparity heq
  obtain ⟨_, _, rfl⟩ := List.mem_map.mp hdata
  obtain ⟨_, _, rfl⟩ := List.mem_map.mp hparity
  cases heq

theorem mem_dataTurns {id : ShardId} :
    id ∈ (List.range fragmentCount).map (dataTurn fragmentCount) ↔
      id ∈ (List.range fragmentCount).map ShardId.data := by
  rw [List.mem_map, List.mem_map]
  constructor
  · rintro ⟨turn, hturn, rfl⟩
    exact ⟨_, List.mem_range.mpr (dataTurn_group (List.mem_range.mp hturn)).1, rfl⟩
  · rintro ⟨index, hindex, rfl⟩
    have hlt := List.mem_range.mp hindex
    have hgroup := fecGroupIndex_lt hlt
    obtain ⟨hstart, hstop⟩ := fecGroupIndex_spec hlt
    have hsum := fecGroupRange_start_add_len fragmentCount (fecGroupIndex fragmentCount index)
    obtain ⟨offset, hoffset⟩ := Nat.exists_eq_add_of_le hstart
    obtain ⟨hmod, hdiv⟩ := turn_div_mod offset hgroup
    refine ⟨offset * fecGroupCount fragmentCount + fecGroupIndex fragmentCount index,
      List.mem_range.mpr ((offset_lt_len_iff hgroup offset).mp (by omega)), ?_⟩
    unfold dataTurn
    rw [hmod, hdiv, ← hoffset]

theorem mem_parityTurns {id : ShardId} :
    id ∈ (List.range (fecParityShards * fecGroupCount fragmentCount)).map
        (parityTurn fragmentCount) ↔
      ∃ groupIndex index, groupIndex < fecGroupCount fragmentCount ∧ index < fecParityShards ∧
        id = .parity groupIndex index := by
  rw [List.mem_map]
  constructor
  · rintro ⟨turn, hturn, rfl⟩
    have hlt := List.mem_range.mp hturn
    have hcount : 0 < fecGroupCount fragmentCount := by
      by_contra hzero
      rw [Nat.eq_zero_of_not_pos hzero, Nat.mul_zero] at hlt
      exact Nat.not_lt_zero _ hlt
    exact ⟨_, _, Nat.mod_lt _ hcount, Nat.div_lt_of_lt_mul (by rwa [Nat.mul_comm]), rfl⟩
  · rintro ⟨groupIndex, index, hgroup, hindex, rfl⟩
    obtain ⟨hmod, hdiv⟩ := turn_div_mod index hgroup
    have hround := Nat.mul_le_mul_right (fecGroupCount fragmentCount)
      (Nat.succ_le_of_lt hindex)
    rw [Nat.succ_mul] at hround
    refine ⟨index * fecGroupCount fragmentCount + groupIndex,
      List.mem_range.mpr (by omega), ?_⟩
    unfold parityTurn
    rw [hmod, hdiv]

end Turns

/-! ## Packet lists -/

/-- What `packetize_into_pending` hands to the scheduler for an access unit of `fragmentCount`
fragments: a datagram for each fragment, and for each group the parity datagrams of the mode
or, where the codec makes no parity, none. -/
structure PacketLists (fragmentCount : Nat) (fec : FecProtection) (dataDatagrams : List Bytes)
    (parityByGroup : List (List Bytes)) : Prop where
  data : dataDatagrams.length = fragmentCount
  groups : parityByGroup.length = (fecGroupRanges fragmentCount).length
  parity : ∀ packets ∈ parityByGroup, packets = [] ∨ packets.length = fec.parityShards

/-- The shards of the scheduled datagrams, position by position. -/
def scheduledShards (dataDatagrams : List Bytes) (parityByGroup : List (List Bytes))
    (groups : List FragmentRange) : List ShardId :=
  (shardOrder groups).filter fun id => (datagramAt dataDatagrams parityByGroup id).isSome

/-- The shard belongs to a group, given by its range and its index. -/
def ShardId.ofGroup (entry : FragmentRange × Nat) : ShardId → Bool
  | .data index => entry.1.start ≤ index ∧ index < entry.1.stop
  | .parity groupIndex _ => groupIndex = entry.2

variable {fragmentCount : Nat} {fec : FecProtection} {dataDatagrams : List Bytes}
  {parityByGroup : List (List Bytes)}

theorem FecProtection.parityShards_le (fec : FecProtection) :
    fec.parityShards ≤ fecParityShards := by
  cases fec <;> decide

theorem PacketLists.length_le (h : PacketLists fragmentCount fec dataDatagrams parityByGroup)
    {packets : List Bytes} (hmem : packets ∈ parityByGroup) :
    packets.length ≤ fecParityShards := by
  rcases h.parity packets hmem with rfl | hlength
  · exact Nat.zero_le _
  · rw [hlength]
    exact fec.parityShards_le

theorem PacketLists.mem_shardOrder
    (h : PacketLists fragmentCount fec dataDatagrams parityByGroup) {id : ShardId}
    (hsome : (datagramAt dataDatagrams parityByGroup id).isSome) :
    id ∈ shardOrder (fecGroupRanges fragmentCount) := by
  rw [shardOrder_fecGroupRanges, List.mem_append, mem_dataTurns, mem_parityTurns]
  cases id with
  | data index =>
      have hlt : index < dataDatagrams.length := by
        simpa [datagramAt] using hsome
      rw [h.data] at hlt
      exact Or.inl (List.mem_map_of_mem (List.mem_range.mpr hlt))
  | parity groupIndex index =>
      unfold datagramAt at hsome
      dsimp only at hsome
      cases hpackets : parityByGroup[groupIndex]? with
      | none =>
          rw [hpackets] at hsome
          cases hsome
      | some packets =>
          rw [hpackets, Option.bind_some] at hsome
          have hgroup := (List.getElem?_eq_some_iff.mp hpackets).1
          have hindex : index < packets.length := by simpa using hsome
          have hle := h.length_le (List.mem_of_getElem? hpackets)
          rw [h.groups, length_fecGroupRanges] at hgroup
          exact Or.inr ⟨groupIndex, index, hgroup, Nat.lt_of_lt_of_le hindex hle, rfl⟩

private theorem map_filter_isSome {α β : Type} (f : α → Option β) (items : List α) :
    (items.filter fun item => (f item).isSome).map f = (items.filterMap f).map some := by
  induction items with
  | nil => rfl
  | cons item items ih =>
      cases hitem : f item with
      | none => simp [hitem, ih]
      | some result => simp [hitem, ih]

/-! ### The packet lists of the packetizer -/

theorem length_parityDatagrams {codecs : Codecs} (hlawful : codecs.Lawful) {unit : AccessUnit}
    {groupIndex : Nat} (hgroup : groupIndex < unit.groupCount) (fec : FecProtection)
    {datagrams : List Bytes}
    (h : parityDatagrams codecs unit unit.fragmentCount fec (unit.groupRange groupIndex) =
      .ok datagrams) :
    (datagrams = [] ∨ datagrams.length = fec.parityShards) ∧
      (2 ≤ unit.fragmentCount → datagrams.length = fec.parityShards) := by
  unfold parityDatagrams at h
  by_cases hnone : fec.parityShards = 0
  · rw [if_pos hnone] at h
    cases h
    exact ⟨Or.inl rfl, fun _ => hnone.symm⟩
  rw [if_neg hnone] at h
  by_cases htwo : 2 ≤ unit.fragmentCount
  · have hdata := ShardId.groupData htwo hgroup
    have hencode : encodeFecParity codecs
        ((unit.groupRange groupIndex).indices.map (chunk unit.data)) fec.parityShards =
        some (unit.groupLastLength groupIndex,
          (unit.groupRows codecs groupIndex).take fec.parityShards) :=
      hdata.encodeFecParity_eq hlawful (Nat.pos_of_ne_zero hnone) fec.parityShards_le
    have hrows : (unit.groupRows codecs groupIndex).length = fecParityShards :=
      (hdata.parityRows_spec hlawful).2.1
    rw [hencode] at h
    have hlength := (forall₂_mapM h).length_eq
    rw [List.length_zipIdx, List.length_take, hrows, Nat.min_eq_left fec.parityShards_le]
      at hlength
    exact ⟨Or.inr hlength.symm, fun _ => hlength.symm⟩
  · have hstop : (unit.groupRange groupIndex).stop ≤ unit.fragmentCount :=
      fecGroupRange_stop_le hgroup
    have hencode : encodeFecParity codecs
        ((unit.groupRange groupIndex).indices.map (chunk unit.data)) fec.parityShards =
        none := by
      unfold encodeFecParity
      rw [if_pos]
      rw [List.length_map, FragmentRange.length_indices]
      unfold FragmentRange.len
      omega
    rw [hencode] at h
    cases h
    exact ⟨Or.inl rfl, fun hle => absurd hle htwo⟩

/-- What the packetizer sends of an access unit is the schedule of such packet lists; where
there are several fragments, each group has all the parity of the mode. -/
theorem datagramsOf_packetLists {codecs : Codecs} (hlawful : codecs.Lawful) {unit : AccessUnit}
    {fec : FecProtection} {datagrams : List Bytes} {created : Nat}
    (h : datagramsOf codecs unit fec = .ok (datagrams, created)) :
    ∃ dataDatagrams parityByGroup,
      datagrams = scheduleFecDatagrams dataDatagrams parityByGroup
          (fecGroupRanges unit.fragmentCount) ∧
        PacketLists unit.fragmentCount fec dataDatagrams parityByGroup ∧
          (2 ≤ unit.fragmentCount →
            ∀ packets ∈ parityByGroup, packets.length = fec.parityShards) := by
  unfold datagramsOf at h
  dsimp only at h
  cases hdata : (List.range (fragmentCountOf unit.data)).mapM
      (dataDatagram unit (fragmentCountOf unit.data)) with
  | error error =>
      rw [hdata] at h
      cases h
  | ok dataDatagrams =>
      cases hparity : (fecGroupRanges (fragmentCountOf unit.data)).mapM
          (parityDatagrams codecs unit (fragmentCountOf unit.data) fec) with
      | error error =>
          simp only [hdata, hparity] at h
          cases h
      | ok parityByGroup =>
          simp only [hdata, hparity] at h
          cases h
          have hlength := (forall₂_mapM hdata).length_eq
          rw [List.length_range] at hlength
          have hmember : ∀ packets ∈ parityByGroup,
              (packets = [] ∨ packets.length = fec.parityShards) ∧
                (2 ≤ unit.fragmentCount → packets.length = fec.parityShards) := by
            intro packets hmem
            obtain ⟨group, hgroup, hpackets⟩ := forall₂_right (forall₂_mapM hparity) hmem
            obtain ⟨groupIndex, hindex, rfl⟩ := exists_of_mem_fecGroupRanges hgroup
            exact length_parityDatagrams hlawful hindex fec hpackets
          exact ⟨dataDatagrams, parityByGroup, rfl,
            ⟨hlength.symm, (forall₂_mapM hparity).length_eq.symm, fun packets hmem => (hmember packets hmem).1⟩,
            fun htwo packets hmem => (hmember packets hmem).2 htwo⟩

/-! ### Permutation -/

theorem perm_dataDatagrams (h : dataDatagrams.length = fragmentCount) :
    (((List.range fragmentCount).map (dataTurn fragmentCount)).filterMap
      (datagramAt dataDatagrams parityByGroup)).Perm dataDatagrams := by
  have hperm : ((List.range fragmentCount).map (dataTurn fragmentCount)).Perm
      ((List.range fragmentCount).map ShardId.data) :=
    (List.perm_ext_iff_of_nodup (nodup_dataTurns fragmentCount)
      (List.nodup_range.map fun _ _ heq => ShardId.data.inj heq)).mpr fun _ => mem_dataTurns
  have hlookup : ((List.range fragmentCount).map ShardId.data).filterMap
      (datagramAt dataDatagrams parityByGroup) = dataDatagrams := by
    rw [List.filterMap_map]
    exact filterMap_getElem?_range dataDatagrams (Nat.le_of_eq h)
  have hfound := hperm.filterMap (datagramAt dataDatagrams parityByGroup)
  rwa [hlookup] at hfound

/-- The parity shards group by group. -/
def parityShardsByGroup (groupCount : Nat) : List ShardId :=
  (List.range groupCount).flatMap fun groupIndex =>
    (List.range fecParityShards).map fun index => .parity groupIndex index

theorem filterMap_parityShardsByGroup {groupCount : Nat}
    (hgroups : parityByGroup.length = groupCount)
    (hparity : ∀ packets ∈ parityByGroup, packets.length ≤ fecParityShards) :
    (parityShardsByGroup groupCount).filterMap (datagramAt dataDatagrams parityByGroup) =
      parityByGroup.flatten := by
  have hgroup : ∀ groupIndex,
      ((List.range fecParityShards).map fun index => ShardId.parity groupIndex index).filterMap
          (datagramAt dataDatagrams parityByGroup) =
        (parityByGroup[groupIndex]?).getD [] := by
    intro groupIndex
    rw [List.filterMap_map]
    cases hpackets : parityByGroup[groupIndex]? with
    | none =>
        rw [Option.getD_none, List.filterMap_eq_nil_iff]
        intro index _
        show (parityByGroup[groupIndex]?).bind _ = none
        rw [hpackets]
        rfl
    | some packets =>
        have hle := hparity packets (List.mem_of_getElem? hpackets)
        calc _ = (List.range fecParityShards).filterMap fun index => packets[index]? := by
              refine List.filterMap_congr fun index _ => ?_
              show (parityByGroup[groupIndex]?).bind _ = _
              rw [hpackets, Option.bind_some]
          _ = packets := filterMap_getElem?_range packets hle
  unfold parityShardsByGroup
  rw [List.filterMap_flatMap]
  simp only [hgroup]
  exact flatMap_getElem?_range parityByGroup hgroups

theorem nodup_parityShardsByGroup (groupCount : Nat) :
    (parityShardsByGroup groupCount).Nodup := by
  unfold parityShardsByGroup
  rw [List.nodup_flatMap]
  constructor
  · intro groupIndex _
    exact List.nodup_range.map fun _ _ heq => (ShardId.parity.inj heq).2
  · refine List.nodup_range.imp fun {groupIndex other} hne => ?_
    intro id hid hother
    obtain ⟨_, _, rfl⟩ := List.mem_map.mp hid
    obtain ⟨_, _, heq⟩ := List.mem_map.mp hother
    exact hne (ShardId.parity.inj heq).1.symm

theorem mem_parityShardsByGroup {groupCount : Nat} {id : ShardId} :
    id ∈ parityShardsByGroup groupCount ↔
      ∃ groupIndex index, groupIndex < groupCount ∧ index < fecParityShards ∧
        id = .parity groupIndex index := by
  unfold parityShardsByGroup
  simp only [List.mem_flatMap, List.mem_map, List.mem_range]
  constructor
  · rintro ⟨groupIndex, hgroup, index, hindex, rfl⟩
    exact ⟨groupIndex, index, hgroup, hindex, rfl⟩
  · rintro ⟨groupIndex, index, hgroup, hindex, rfl⟩
    exact ⟨groupIndex, hgroup, index, hindex, rfl⟩

theorem perm_parityDatagrams
    (h : PacketLists fragmentCount fec dataDatagrams parityByGroup) :
    (((List.range (fecParityShards * fecGroupCount fragmentCount)).map
      (parityTurn fragmentCount)).filterMap
        (datagramAt dataDatagrams parityByGroup)).Perm parityByGroup.flatten := by
  have hgroups : parityByGroup.length = fecGroupCount fragmentCount := by
    rw [h.groups, length_fecGroupRanges]
  have hperm : ((List.range (fecParityShards * fecGroupCount fragmentCount)).map
      (parityTurn fragmentCount)).Perm
        (parityShardsByGroup (fecGroupCount fragmentCount)) := by
    rw [List.perm_ext_iff_of_nodup (nodup_parityTurns _ _) (nodup_parityShardsByGroup _)]
    intro id
    rw [mem_parityTurns, mem_parityShardsByGroup]
  have hfound := hperm.filterMap (datagramAt dataDatagrams parityByGroup)
  rwa [filterMap_parityShardsByGroup hgroups fun _ hmem => h.length_le hmem] at hfound

/-! ### Loss bursts -/

theorem ofGroup_dataTurn {turn groupIndex : Nat} (h : turn < fragmentCount)
    (hgroup : (dataTurn fragmentCount turn).ofGroup
      (fecGroupRange fragmentCount groupIndex, groupIndex) = true) :
    turn % fecGroupCount fragmentCount = groupIndex := by
  obtain ⟨hlt, hindex⟩ := dataTurn_group h
  unfold dataTurn ShardId.ofGroup at hgroup
  rw [decide_eq_true_eq] at hgroup
  rw [← hindex]
  exact fecGroupIndex_unique hlt hgroup.1 hgroup.2

theorem ofGroup_parityTurn {turn : Nat} {entry : FragmentRange × Nat}
    (h : (parityTurn fragmentCount turn).ofGroup entry = true) :
    turn % fecGroupCount fragmentCount = entry.2 := by
  unfold parityTurn ShardId.ofGroup at h
  rwa [decide_eq_true_eq] at h

/-- A run of turns no longer than the number of groups has one data shard and one parity shard
of a group at most. -/
theorem length_filter_burst_le_two (groupIndex : Nat) {before lost after : List ShardId}
    (hburst : lost.length ≤ fecGroupCount fragmentCount)
    (hsplit : shardOrder (fecGroupRanges fragmentCount) = before ++ lost ++ after) :
    (lost.filter
      (ShardId.ofGroup (fecGroupRange fragmentCount groupIndex, groupIndex))).length ≤ 2 := by
  have hlost : lost =
      ((shardOrder (fecGroupRanges fragmentCount)).drop before.length).take lost.length := by
    rw [hsplit, List.append_assoc, List.drop_left, List.take_left]
  rw [shardOrder_fecGroupRanges, List.drop_append, List.take_append] at hlost
  rw [hlost, List.filter_append, List.length_append]
  refine Nat.add_le_add (b := 1) (d := 1) ?_ ?_
  · exact length_filter_run_le_one hburst
      (fun turn hturn hgroup => ofGroup_dataTurn hturn hgroup) _
  · exact length_filter_run_le_one (Nat.le_trans (Nat.sub_le _ _) hburst)
      (fun turn _ hgroup => ofGroup_parityTurn hgroup) _

theorem len_add_two_le {groupIndex : Nat} (h : groupIndex < fecGroupCount fragmentCount) :
    (fecGroupRange fragmentCount groupIndex).len + 2 ≤
      ((shardOrder (fecGroupRanges fragmentCount)).filter
        (ShardId.ofGroup (fecGroupRange fragmentCount groupIndex, groupIndex))).length := by
  let entry := (fecGroupRange fragmentCount groupIndex, groupIndex)
  let shards := (fecGroupRange fragmentCount groupIndex).indices.map ShardId.data ++
    (List.range fecParityShards).map (ShardId.parity groupIndex)
  have hnodup : shards.Nodup := by
    refine List.nodup_append.mpr ⟨?_, ?_, ?_⟩
    · exact List.Nodup.map (fun _ _ heq => ShardId.data.inj heq) List.nodup_range'
    · exact List.nodup_range.map fun _ _ heq => (ShardId.parity.inj heq).2
    · intro id hdata other hparity heq
      obtain ⟨_, _, rfl⟩ := List.mem_map.mp hdata
      obtain ⟨_, _, rfl⟩ := List.mem_map.mp hparity
      cases heq
  have hsub : shards ⊆
      (shardOrder (fecGroupRanges fragmentCount)).filter (ShardId.ofGroup entry) := by
    intro id hid
    rw [List.mem_filter, shardOrder_fecGroupRanges, List.mem_append, mem_dataTurns,
      mem_parityTurns]
    rcases List.mem_append.mp hid with hdata | hparity
    · obtain ⟨index, hindex, rfl⟩ := List.mem_map.mp hdata
      rw [FragmentRange.mem_indices] at hindex
      have hstop := fecGroupRange_stop_le h
      exact ⟨Or.inl (List.mem_map_of_mem (List.mem_range.mpr (by omega))),
        decide_eq_true hindex⟩
    · obtain ⟨index, hindex, rfl⟩ := List.mem_map.mp hparity
      exact ⟨Or.inr ⟨groupIndex, index, h, List.mem_range.mp hindex, rfl⟩,
        decide_eq_true rfl⟩
  have hlength : shards.length = (fecGroupRange fragmentCount groupIndex).len + 2 := by
    rw [List.length_append, List.length_map, List.length_map, FragmentRange.length_indices,
      List.length_range]
    rfl
  rw [← hlength]
  exact (List.subperm_of_subset hnodup hsub).length_le

/-! ## The schedule -/

/-- What the schedule of the packet lists of an access unit does. -/
structure Scheduled (fragmentCount : Nat) (dataDatagrams : List Bytes)
    (parityByGroup : List (List Bytes)) : Prop where
  perm : (scheduleFecDatagrams dataDatagrams parityByGroup (fecGroupRanges fragmentCount)).Perm
    (dataDatagrams ++ parityByGroup.flatten)
  dataFirst : ∃ firsts lasts,
    scheduleFecDatagrams dataDatagrams parityByGroup (fecGroupRanges fragmentCount) =
        firsts ++ lasts ∧
      firsts.Perm dataDatagrams ∧ lasts.Perm parityByGroup.flatten
  /-- `scheduledShards` names the datagram of each position. -/
  positions : (scheduledShards dataDatagrams parityByGroup (fecGroupRanges fragmentCount)).map
      (datagramAt dataDatagrams parityByGroup) =
    (scheduleFecDatagrams dataDatagrams parityByGroup (fecGroupRanges fragmentCount)).map some
  /-- Each shard of the packet lists has one position. -/
  once : (scheduledShards dataDatagrams parityByGroup (fecGroupRanges fragmentCount)).Nodup ∧
    ∀ id, id ∈ scheduledShards dataDatagrams parityByGroup (fecGroupRanges fragmentCount) ↔
      (datagramAt dataDatagrams parityByGroup id).isSome
  /-- With two parity shards to a group, each group survives the loss of a run of positions
  no longer than the number of groups. -/
  burst : (∀ packets ∈ parityByGroup, packets.length = 2) →
    ∀ before lost after,
      scheduledShards dataDatagrams parityByGroup (fecGroupRanges fragmentCount) =
          before ++ lost ++ after →
        lost.length ≤ (fecGroupRanges fragmentCount).length →
          ∀ entry ∈ (fecGroupRanges fragmentCount).zipIdx,
            entry.1.len ≤ ((before ++ after).filter (ShardId.ofGroup entry)).length

theorem PacketLists.scheduledShards_eq
    (h : PacketLists fragmentCount fec dataDatagrams parityByGroup)
    (hfull : ∀ packets ∈ parityByGroup, packets.length = 2) :
    scheduledShards dataDatagrams parityByGroup (fecGroupRanges fragmentCount) =
      shardOrder (fecGroupRanges fragmentCount) := by
  unfold scheduledShards
  rw [List.filter_eq_self]
  intro id hid
  rw [shardOrder_fecGroupRanges, List.mem_append, mem_dataTurns, mem_parityTurns] at hid
  rcases hid with hdata | ⟨groupIndex, index, hgroup, hindex, rfl⟩
  · obtain ⟨index, hindex, rfl⟩ := List.mem_map.mp hdata
    rw [List.mem_range, ← h.data] at hindex
    unfold datagramAt
    dsimp only
    rw [List.getElem?_eq_getElem hindex]
    rfl
  · rw [← length_fecGroupRanges, ← h.groups] at hgroup
    have hlength := hfull _ (List.getElem_mem hgroup)
    unfold datagramAt
    dsimp only
    rw [List.getElem?_eq_getElem hgroup, Option.bind_some,
      List.getElem?_eq_getElem (hlength ▸ hindex)]
    rfl

theorem PacketLists.burst (h : PacketLists fragmentCount fec dataDatagrams parityByGroup)
    (hfull : ∀ packets ∈ parityByGroup, packets.length = 2)
    {before lost after : List ShardId}
    (hsplit : scheduledShards dataDatagrams parityByGroup (fecGroupRanges fragmentCount) =
      before ++ lost ++ after)
    (hburst : lost.length ≤ (fecGroupRanges fragmentCount).length)
    {entry : FragmentRange × Nat} (hentry : entry ∈ (fecGroupRanges fragmentCount).zipIdx) :
    entry.1.len ≤ ((before ++ after).filter (ShardId.ofGroup entry)).length := by
  rw [zipIdx_fecGroupRanges] at hentry
  obtain ⟨groupIndex, hgroup, rfl⟩ := List.mem_map.mp hentry
  rw [h.scheduledShards_eq hfull] at hsplit
  rw [length_fecGroupRanges] at hburst
  have hlost := length_filter_burst_le_two groupIndex hburst hsplit
  have hall := len_add_two_le (List.mem_range.mp hgroup)
  rw [hsplit] at hall
  simp only [List.filter_append, List.length_append] at hall ⊢
  omega

theorem scheduleFecDatagrams_scheduled
    (h : PacketLists fragmentCount fec dataDatagrams parityByGroup) :
    Scheduled fragmentCount dataDatagrams parityByGroup := by
  have heq := scheduleFecDatagrams_eq dataDatagrams parityByGroup
    (nodup_shardOrder fragmentCount)
  have hfirst : ∃ firsts lasts,
      scheduleFecDatagrams dataDatagrams parityByGroup (fecGroupRanges fragmentCount) =
          firsts ++ lasts ∧
        firsts.Perm dataDatagrams ∧ lasts.Perm parityByGroup.flatten := by
    rw [heq, shardOrder_fecGroupRanges, List.filterMap_append]
    exact ⟨_, _, rfl, perm_dataDatagrams h.data, perm_parityDatagrams h⟩
  refine ⟨?_, hfirst, ?_, ⟨?_, ?_⟩, ?_⟩
  · obtain ⟨firsts, lasts, hsplit, hdata, hparity⟩ := hfirst
    rw [hsplit]
    exact hdata.append hparity
  · rw [heq]
    exact map_filter_isSome _ _
  · exact (nodup_shardOrder fragmentCount).filter _
  · intro id
    unfold scheduledShards
    rw [List.mem_filter]
    exact ⟨fun hid => hid.2, fun hsome => ⟨h.mem_shardOrder hsome, hsome⟩⟩
  · intro hfull before lost after hsplit hburst entry hentry
    exact h.burst hfull hsplit hburst hentry

/-- Eight fragments in two groups of four, with two parity datagrams each. -/
theorem scheduleFecDatagrams_scheduled_eight :
    Scheduled 8 [[0], [1], [2], [3], [4], [5], [6], [7]] [[[10], [11]], [[12], [13]]] :=
  @scheduleFecDatagrams_scheduled 8 .strong _ _ ⟨rfl, rfl, by decide⟩

example : scheduleFecDatagrams [[0], [1], [2], [3], [4], [5], [6], [7]]
    [[[10], [11]], [[12], [13]]] (fecGroupRanges 8) =
      [[0], [4], [1], [5], [2], [6], [3], [7], [10], [12], [11], [13]] := by
  decide

end PicooCamera.Sender
