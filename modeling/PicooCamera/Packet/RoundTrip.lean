import PicooCamera.Packet.PartialUnit
import PicooCamera.Packet.Tracking
import PicooCamera.Protocol.ReedSolomon

/-!
# From the packetizer to the reassembly map

The datagrams of one access unit, lost, repeated and reordered at will, meet a
reassembly map that holds no other frame. What the map returns is the access
unit, and it returns it once enough shards of each group have arrived.
-/

namespace PicooCamera.Packet

open PicooCamera.Library PicooCamera.Protocol PicooCamera.Sender PartialFrame ReassemblyMap

/-! ## The Receiver's side -/

/-- Decode one datagram and ingest its packet. -/
def receiveDatagram (codecs : Codecs) (m : ReassemblyMap) (datagram : Bytes) (now : Instant) :
    Option AssembledAccessUnit × ReassemblyMap :=
  match VideoPacket.decodeBytes datagram with
  | .error _ => (none, m)
  | .ok packet => m.perform codecs (.ingestAt packet now)

/-- The access units that a list of datagrams returns, in order, and the map after it. -/
def receiveAll (codecs : Codecs) (m : ReassemblyMap) :
    List (Bytes × Instant) → List AssembledAccessUnit × ReassemblyMap
  | [] => ([], m)
  | (datagram, now) :: rest =>
      let outcome := receiveDatagram codecs m datagram now
      let later := receiveAll codecs outcome.2 rest
      (outcome.1.toList ++ later.1, later.2)

/-- The datagram carries a shard of the group: a fragment, or parity at the group's start. -/
def inGroup (group : FragmentRange) (datagram : Bytes) : Bool :=
  match VideoPacket.decodeBytes datagram with
  | .error _ => false
  | .ok packet => group.start ≤ packet.fragmentIndex ∧ packet.fragmentIndex < group.stop

/-- The number of distinct shards of the group among the received datagrams. -/
def distinctShards (group : FragmentRange) (received : List (Bytes × Instant)) : Nat :=
  (received.map Prod.fst).dedup.countP (inGroup group)

/-! ## Storing the packet of a shard -/

variable {codecs : Codecs} {unit : AccessUnit} {received : List ShardId}

theorem FrameHolds.storePacket {frame : PartialFrame} (hlawful : codecs.Lawful)
    (h : FrameHolds codecs unit received frame) {id : ShardId} (hsent : id.Sent unit)
    {packet : VideoPacket} (hcarried : id.Carried codecs unit packet) :
    (∃ result, ReassemblyMap.storePacket frame packet = .error result ∧
      returned result = none ∧ FrameHolds codecs unit (id :: received) frame) ∨
    ∃ stored, ReassemblyMap.storePacket frame packet = .ok (stored, id.groupIndex unit) ∧
      FrameHolds codecs unit (id :: received) stored ∧
      ∀ other, other ≠ id.groupIndex unit →
        stored.fecGroups[other]? = frame.fecGroups[other]? := by
  unfold ReassemblyMap.storePacket
  rw [hcarried.flags, hcarried.fragmentIndex, hcarried.payload]
  cases id with
  | data index =>
      have hflag : ¬ ((ShardId.data index).flags unit).fecParity = true := Bool.false_ne_true
      rw [if_neg hflag, ShardId.payload_data]
      by_cases hthere : (ShardId.data index).fragmentIndex unit ∈ frame.fragments
      · left
        have hagain : FrameHolds codecs unit (.data index :: received) frame := by
          refine h.receive_again ?_ (fun _ _ _ heq => by cases heq)
          intro other heq
          cases heq
          exact hthere
        rw [if_pos hthere]
        by_cases hrecovered :
            frame.isRecoveredFragment ((ShardId.data index).fragmentIndex unit) = true
        · rw [if_pos hrecovered]
          exact ⟨_, rfl, rfl, hagain⟩
        · rw [if_neg hrecovered]
          exact ⟨_, rfl, rfl, hagain⟩
      · right
        rw [if_neg hthere]
        obtain ⟨stored, hstored, hholds, hothers⟩ := h.store_data hsent
        exact ⟨stored, congrArg Except.ok hstored, hholds, hothers⟩
  | parity groupIndex parityIndex =>
      have hflag : ((ShardId.parity groupIndex parityIndex).flags unit).fecParity = true := rfl
      have hindex : (ShardId.parity groupIndex parityIndex).fragmentIndex unit =
          (unit.groupRange groupIndex).start := rfl
      rw [if_pos hflag, hindex]
      rcases h.store_parity hlawful hsent with ⟨hstore, hholds⟩ | ⟨stored, hstore, hholds, _, hothers⟩
      · left
        rw [hstore]
        exact ⟨_, rfl, rfl, hholds⟩
      · right
        rw [hstore]
        exact ⟨stored, rfl, hholds, hothers⟩

theorem FrameHolds.fragments_lt {frame : PartialFrame}
    (h : FrameHolds codecs unit received frame) :
    ∀ index ∈ frame.fragments, index < unit.fragmentCount := by
  intro index hmem
  have hget := Std.ExtTreeMap.getElem?_eq_some_getElem hmem
  exact (h.fragments index _ hget).1

theorem FrameHolds.assemble {frame : PartialFrame} (h : FrameHolds codecs unit received frame)
    (hall : ∀ index < unit.fragmentCount, index ∈ frame.fragments) :
    ReassemblyMap.assemble frame = some unit.data := by
  have hmap : ∀ indices : List Nat, (∀ index ∈ indices, index < unit.fragmentCount) →
      indices.mapM (fun index => frame.fragments[index]?) =
        some (indices.map (chunk unit.data)) := by
    intro indices hindices
    induction indices with
    | nil => rfl
    | cons index indices ih =>
        have hmem := hall index (hindices index List.mem_cons_self)
        have hget := Std.ExtTreeMap.getElem?_eq_some_getElem hmem
        have hchunk := (h.fragments index _ hget).2
        rw [List.mapM_cons, hget, hchunk,
          ih fun other hother => hindices other (List.mem_cons_of_mem _ hother)]
        rfl
  unfold ReassemblyMap.assemble
  rw [h.fragmentCount, hmap _ fun index hindex => List.mem_range.mp hindex, Option.map_some]
  exact congrArg some (flatten_chunks unit.data)

/-! ## The map before and after completion -/

def keyOfUnit (unit : AccessUnit) : FrameKey := ⟨unit.streamEpoch, unit.frameId⟩

theorem keyOf_carried {id : ShardId} {packet : VideoPacket}
    (hcarried : id.Carried codecs unit packet) : keyOf packet = keyOfUnit unit := by
  rw [keyOf, keyOfUnit, hcarried.streamEpoch, hcarried.frameId]

/-- The map holds no frame, and nothing that would refuse the access unit. -/
structure Ready (unit : AccessUnit) (m : ReassemblyMap) : Prop where
  maxFragments : maxVideoFragmentsPerAccessUnit ≤ m.maxFragments
  frames : m.frames = ∅
  epoch : m.currentEpoch ≤ unit.streamEpoch
  unexpired : m.currentEpoch = unit.streamEpoch →
    ¬ atOrBelow m.expiredThroughFrameId unit.frameId
  terminal : m.currentEpoch = unit.streamEpoch → keyOfUnit unit ∉ m.terminalFrames
  rejected : m.currentEpoch = unit.streamEpoch → keyOfUnit unit ∉ m.rejectedFrames

theorem ready_new (unit : AccessUnit) (maxFrames : Nat) {maxFragments : Nat}
    (h : maxVideoFragmentsPerAccessUnit ≤ maxFragments) :
    Ready unit (new maxFrames maxFragments) where
  maxFragments := h
  frames := rfl
  epoch := Nat.zero_le _
  unexpired _ := not_atOrBelow_none _
  terminal _ := Std.ExtTreeSet.not_mem_empty
  rejected _ := Std.ExtTreeSet.not_mem_empty

/-- The partial frame of the access unit, incomplete and with nothing to recover. -/
structure Incomplete (codecs : Codecs) (unit : AccessUnit) (received : List ShardId)
    (frame : PartialFrame) : Prop where
  holds : FrameHolds codecs unit received frame
  saturated : ∀ groupIndex, Saturated frame groupIndex
  size : frame.fragments.size ≠ unit.fragmentCount

/-- The map in the epoch of the access unit, before the access unit is complete. -/
structure Awaiting (codecs : Codecs) (unit : AccessUnit) (received : List ShardId)
    (m : ReassemblyMap) : Prop where
  maxFragments : maxVideoFragmentsPerAccessUnit ≤ m.maxFragments
  epoch : m.currentEpoch = unit.streamEpoch
  unexpired : ¬ atOrBelow m.expiredThroughFrameId unit.frameId
  terminal : keyOfUnit unit ∉ m.terminalFrames
  rejected : keyOfUnit unit ∉ m.rejectedFrames
  frame : (m.frames = ∅ ∧ received = []) ∨
    ∃ frame, m.frames[keyOfUnit unit]? = some frame ∧ Incomplete codecs unit received frame

/-- The access unit has been returned. -/
structure Done (unit : AccessUnit) (m : ReassemblyMap) : Prop where
  epoch : m.currentEpoch = unit.streamEpoch
  terminal : keyOfUnit unit ∈ m.terminalFrames

/-- The returned access unit is the one that the sender packetized. -/
structure Matches (unit : AccessUnit) (assembled : AssembledAccessUnit) : Prop where
  data : assembled.data = unit.data
  frameId : assembled.frameId = unit.frameId
  ptsUs : assembled.ptsUs = unit.ptsUs
  encodedAtUs : assembled.encodedAtUs = unit.encodedAtUs
  keyframe : assembled.keyframe = unit.isKeyframe
  streamEpoch : assembled.streamEpoch = unit.streamEpoch

theorem Ready.awaiting {m : ReassemblyMap} (h : Ready unit m) :
    Awaiting codecs unit [] (m.enterEpoch unit.streamEpoch) := by
  unfold enterEpoch
  by_cases hnewer : m.currentEpoch < unit.streamEpoch
  · rw [if_pos hnewer]
    exact {
      maxFragments := h.maxFragments
      epoch := rfl
      unexpired := not_atOrBelow_none _
      terminal := Std.ExtTreeSet.not_mem_empty
      rejected := Std.ExtTreeSet.not_mem_empty
      frame := Or.inl ⟨rfl, rfl⟩ }
  · have hsame : m.currentEpoch = unit.streamEpoch := by
      have := h.epoch
      omega
    rw [if_neg hnewer]
    exact {
      maxFragments := h.maxFragments
      epoch := hsame
      unexpired := h.unexpired hsame
      terminal := h.terminal hsame
      rejected := h.rejected hsame
      frame := Or.inl ⟨h.frames, rfl⟩ }

theorem unexpired_observe {m : ReassemblyMap} {frameId : Nat} (now : Instant)
    (h : ¬ atOrBelow m.expiredThroughFrameId frameId) :
    ¬ atOrBelow (m.observeFrameId frameId now).expiredThroughFrameId frameId := by
  by_cases hover : m.GapOverflow frameId
  · rw [(observeFrameId_overflow m frameId now hover).2.1, atOrBelow_raiseBound]
    obtain ⟨highest, _, hlt, _⟩ := hover
    rintro (hold | hle)
    · exact h hold
    · omega
  · rwa [observeFrameId_expired m frameId now hover]

theorem Awaiting.observe {m : ReassemblyMap} (h : Awaiting codecs unit received m)
    (now : Instant) : Awaiting codecs unit received (m.observeFrameId unit.frameId now) where
  maxFragments := by
    rw [observeFrameId_maxFragments]
    exact h.maxFragments
  epoch := by
    rw [observeFrameId_epoch]
    exact h.epoch
  unexpired := unexpired_observe now h.unexpired
  terminal := by
    rw [observeFrameId_terminal]
    exact h.terminal
  rejected := by
    rw [observeFrameId_rejected]
    exact h.rejected
  frame := by
    rw [observeFrameId_frames]
    exact h.frame

theorem Awaiting.entry {m : ReassemblyMap} (hvalid : unit.Valid)
    (h : Awaiting codecs unit received m) {id : ShardId} {packet : VideoPacket}
    (hcarried : id.Carried codecs unit packet) (firstFragmentAt : Instant) :
    Incomplete codecs unit received
      (m.frames[keyOfUnit unit]?.getD (newFrame packet firstFragmentAt)) := by
  rcases h.frame with ⟨hempty, rfl⟩ | ⟨frame, hget, hincomplete⟩
  · rw [hempty, Std.ExtTreeMap.getElem?_empty, Option.getD_none]
    refine ⟨frameHolds_new hcarried firstFragmentAt, saturated_new packet firstFragmentAt, ?_⟩
    have hzero : (newFrame packet firstFragmentAt).fragments.size = 0 :=
      Std.ExtTreeMap.size_empty
    rw [hzero]
    exact Nat.ne_of_lt hvalid.fragmentCount_pos
  · rw [hget, Option.getD_some]
    exact hincomplete

theorem Awaiting.makeRoom {m : ReassemblyMap} (h : Awaiting codecs unit received m) :
    m.makeRoom (keyOfUnit unit) = m := by
  unfold ReassemblyMap.makeRoom
  rw [if_neg]
  rintro ⟨hfull, hnew⟩
  rcases h.frame with ⟨hempty, _⟩ | ⟨frame, hget, _⟩
  · have hpos := m.maxFrames_pos
    rw [hempty, Std.ExtTreeMap.size_empty] at hfull
    omega
  · exact hnew (Std.ExtTreeMap.mem_iff_isSome_getElem?.mpr (by rw [hget]; rfl))

/-- The outcome of one datagram of the access unit, while it is not complete. -/
def Progress (codecs : Codecs) (unit : AccessUnit) (received : List ShardId)
    (outcome : Option AssembledAccessUnit × ReassemblyMap) : Prop :=
  (outcome.1 = none ∧ Awaiting codecs unit received outcome.2) ∨
    ∃ assembled, outcome.1 = some assembled ∧ Matches unit assembled ∧ Done unit outcome.2

/-- The map with another frame of the access unit, and otherwise the same as far as the
access unit goes. -/
theorem Awaiting.insert {m base : ReassemblyMap} (h : Awaiting codecs unit received m)
    (hbase : UpToFecCounters base m) {received' : List ShardId} {frame : PartialFrame}
    (hframe : Incomplete codecs unit received' frame) :
    Awaiting codecs unit received'
      { base with frames := base.frames.insert (keyOfUnit unit) frame } := by
  rw [hbase]
  exact {
    maxFragments := h.maxFragments
    epoch := h.epoch
    unexpired := h.unexpired
    terminal := h.terminal
    rejected := h.rejected
    frame := Or.inr ⟨frame, Std.ExtTreeMap.getElem?_insert_self, hframe⟩ }

theorem Awaiting.finish {m base : ReassemblyMap} (hvalid : unit.Valid)
    (h : Awaiting codecs unit received m) (hbase : UpToFecCounters base m)
    {received' : List ShardId} {frame : PartialFrame}
    (hholds : FrameHolds codecs unit received' frame)
    (hsaturated : ∀ groupIndex, Saturated frame groupIndex) :
    Progress codecs unit received'
      (returned (base.finishFrame (keyOfUnit unit) frame).1,
        (base.finishFrame (keyOfUnit unit) frame).2) := by
  have hsize := size_le_of_keys_lt hholds.fragments_lt
  have hmod : frame.fragments.size % 2 ^ 16 = frame.fragments.size := by
    have hlt := hvalid.fragmentCount_lt
    exact Nat.mod_eq_of_lt (Nat.lt_of_le_of_lt hsize hlt)
  unfold finishFrame
  rw [hmod, hholds.fragmentCount]
  by_cases hcomplete : frame.fragments.size = unit.fragmentCount
  · right
    have hall := (size_eq_iff_covers hholds.fragments_lt).mp hcomplete
    rw [if_neg (not_not.mpr hcomplete), hholds.assemble hall]
    have hkeyframe : frame.flags.keyframe = unit.isKeyframe :=
      congrArg Prod.fst hholds.flags
    refine ⟨_, rfl, ⟨rfl, rfl, hholds.ptsUs, hholds.encodedAtUs, hkeyframe, rfl⟩, ?_, ?_⟩
    · rw [hbase]
      exact h.epoch
    · exact mem_terminalAfter_self _ _
  · left
    rw [if_pos hcomplete]
    exact ⟨rfl, h.insert hbase ⟨hholds, hsaturated, hcomplete⟩⟩

theorem Awaiting.accept (hlawful : codecs.Lawful) (hvalid : unit.Valid) {m : ReassemblyMap}
    (h : Awaiting codecs unit received m) {id : ShardId} (hsent : id.Sent unit)
    {packet : VideoPacket} (hcarried : id.Carried codecs unit packet)
    (firstFragmentAt : Instant) :
    Progress codecs unit (id :: received)
      (returned (acceptPacket codecs m packet firstFragmentAt).1,
        (acceptPacket codecs m packet firstFragmentAt).2) := by
  have hentry := h.entry hvalid hcarried firstFragmentAt
  unfold acceptPacket
  rw [keyOf_carried hcarried]
  dsimp only
  generalize m.frames[keyOfUnit unit]?.getD (newFrame packet firstFragmentAt) = entry
    at hentry
  have hholds := hentry.holds
  have hsameCount : ¬ entry.fragmentCount ≠ packet.fragmentCount := by
    rw [hholds.fragmentCount, hcarried.fragmentCount]
    exact fun hne => hne rfl
  have hsameMetadata : ¬ (entry.ptsUs ≠ packet.ptsUs ∨ entry.encodedAtUs ≠ packet.encodedAtUs ∨
      entry.flags.semantic ≠ packet.flags.semantic) := by
    rw [hholds.ptsUs, hholds.encodedAtUs, hholds.flags, hcarried.ptsUs, hcarried.encodedAtUs,
      hcarried.flags, semantic_flags]
    simp
  rw [if_neg hsameCount, if_neg hsameMetadata]
  rcases hholds.storePacket hlawful hsent hcarried with
    ⟨result, hstore, hnone, hagain⟩ | ⟨stored, hstore, hstored, hothers⟩
  · rw [hstore]
    left
    exact ⟨hnone, h.insert (upToFecCounters_refl _) ⟨hagain, hentry.saturated, hentry.size⟩⟩
  · rw [hstore]
    dsimp only
    obtain ⟨hrecovered, hsaturated, hsame⟩ :=
      hstored.recover hlawful hvalid (id.groupIndex unit)
    refine h.finish hvalid (countRecovery_upToFecCounters _ _) hrecovered ?_
    intro groupIndex
    by_cases heq : groupIndex = id.groupIndex unit
    · rw [heq]
      exact hsaturated
    · refine (hentry.saturated groupIndex).congr ?_
      rw [hsame groupIndex heq, hothers groupIndex heq]

theorem parityError_carried (hlawful : codecs.Lawful) {id : ShardId} (hsent : id.Sent unit)
    {packet : VideoPacket} (hcarried : id.Carried codecs unit packet) :
    parityError packet = none := by
  unfold parityError
  rw [hcarried.flags, hcarried.fragmentCount, hcarried.fragmentIndex, hcarried.payload]
  cases id with
  | data index => rfl
  | parity groupIndex parityIndex =>
      have hok := FrameHolds.validateParityShard_ok hlawful hsent
      have hindex : (ShardId.parity groupIndex parityIndex).fragmentIndex unit =
          (unit.groupRange groupIndex).start := rfl
      rw [hindex, hok]
      rfl

theorem enterEpoch_carried {m : ReassemblyMap} (hepoch : m.currentEpoch = unit.streamEpoch)
    {id : ShardId} {packet : VideoPacket} (hcarried : id.Carried codecs unit packet) :
    ¬ packet.streamEpoch < m.currentEpoch ∧ m.enterEpoch packet.streamEpoch = m := by
  unfold enterEpoch
  rw [hcarried.streamEpoch, hepoch]
  exact ⟨Nat.lt_irrefl _, if_neg (Nat.lt_irrefl _)⟩

theorem Awaiting.receive (hlawful : codecs.Lawful) (hvalid : unit.Valid) {m : ReassemblyMap}
    (h : Awaiting codecs unit received m) {id : ShardId} (hsent : id.Sent unit)
    {packet : VideoPacket} (hcarried : id.Carried codecs unit packet) (now : Instant) :
    Progress codecs unit (id :: received) (m.perform codecs (.ingestAt packet now)) := by
  obtain ⟨hepoch, henter⟩ := enterEpoch_carried h.epoch hcarried
  have hobserved := h.observe now
  have hcovered : ¬ (atOrBelow
      (m.observeFrameId unit.frameId now).expiredThroughFrameId unit.frameId ∨
        keyOfUnit unit ∈ (m.observeFrameId unit.frameId now).terminalFrames) :=
    fun hcase => hcase.elim hobserved.unexpired hobserved.terminal
  have hcount : ¬ (m.observeFrameId unit.frameId now).maxFragments < packet.fragmentCount := by
    rw [hcarried.fragmentCount]
    have hfits : unit.fragmentCount ≤ maxVideoFragmentsPerAccessUnit := hvalid.fits
    have hmax := hobserved.maxFragments
    omega
  unfold perform ingestAt
  dsimp only
  rw [if_neg hepoch, henter]
  unfold admitPacket
  dsimp only
  rw [keyOf_carried hcarried, hcarried.frameId, if_neg hcovered, if_neg hobserved.rejected,
    if_neg hcount, parityError_carried hlawful hsent hcarried]
  dsimp only
  rw [hobserved.makeRoom]
  exact hobserved.accept hlawful hvalid hsent hcarried _

theorem Done.receive {m : ReassemblyMap} (h : Done unit m) {id : ShardId}
    {packet : VideoPacket} (hcarried : id.Carried codecs unit packet) (now : Instant) :
    (m.perform codecs (.ingestAt packet now)).1 = none ∧
      Done unit (m.perform codecs (.ingestAt packet now)).2 := by
  obtain ⟨hepoch, henter⟩ := enterEpoch_carried h.epoch hcarried
  have hcovered : atOrBelow (m.observeFrameId packet.frameId now).expiredThroughFrameId
      packet.frameId ∨
        keyOf packet ∈ (m.observeFrameId packet.frameId now).terminalFrames := by
    right
    rw [observeFrameId_terminal, keyOf_carried hcarried]
    exact h.terminal
  unfold perform ingestAt admitPacket
  dsimp only
  rw [if_neg hepoch, henter, if_pos hcovered]
  refine ⟨rfl, ?_, ?_⟩
  · rw [observeFrameId_epoch]
    exact h.epoch
  · rw [observeFrameId_terminal]
    exact h.terminal

/-! ## Runs -/

/-- The ids are those of the received datagrams. -/
def Covers (codecs : Codecs) (unit : AccessUnit) (ids : List ShardId)
    (received : List (Bytes × Instant)) : Prop :=
  (∀ id ∈ ids, id.Sent unit) ∧
    ∀ entry ∈ received, ∃ id ∈ ids, entry.1 = id.datagram codecs unit

theorem Done.receiveAll (hlawful : codecs.Lawful) (hvalid : unit.Valid) {m : ReassemblyMap}
    (h : Done unit m) {received : List (Bytes × Instant)}
    (hmade : ∀ entry ∈ received, Made codecs unit entry.1) :
    (receiveAll codecs m received).1 = [] := by
  induction received generalizing m with
  | nil => rfl
  | cons entry rest ih =>
      obtain ⟨datagram, now⟩ := entry
      obtain ⟨id, hsent, heq⟩ := hmade (datagram, now) List.mem_cons_self
      obtain ⟨packet, hdecode, hcarried⟩ := hsent.decode hlawful hvalid
      obtain ⟨hnone, hdone⟩ := h.receive hcarried now
      have hrest := ih hdone fun other hother => hmade other (List.mem_cons_of_mem _ hother)
      have hone : receiveDatagram codecs m datagram now =
          m.perform codecs (.ingestAt packet now) := by
        unfold receiveDatagram
        dsimp only at heq
        rw [heq, hdecode]
      rw [Packet.receiveAll, hone]
      dsimp only
      rw [hnone, hrest]
      rfl

/-- A whole run: either one access unit is returned, and it is the packetized one, or the
map still waits for shards. -/
theorem Awaiting.receiveAll (hlawful : codecs.Lawful) (hvalid : unit.Valid)
    {m : ReassemblyMap} {ids : List ShardId} (h : Awaiting codecs unit ids m)
    (hids : ∀ id ∈ ids, id.Sent unit) {received : List (Bytes × Instant)}
    (hmade : ∀ entry ∈ received, Made codecs unit entry.1) :
    (∃ assembled, (receiveAll codecs m received).1 = [assembled] ∧ Matches unit assembled) ∨
      (receiveAll codecs m received).1 = [] ∧ ∃ ids', (∀ id ∈ ids, id ∈ ids') ∧
        Covers codecs unit ids' received ∧
        Awaiting codecs unit ids' (receiveAll codecs m received).2 := by
  induction received generalizing m ids with
  | nil =>
      right
      exact ⟨rfl, ids, fun _ hid => hid,
        ⟨hids, fun _ hmem => absurd hmem List.not_mem_nil⟩, h⟩
  | cons entry rest ih =>
      obtain ⟨datagram, now⟩ := entry
      obtain ⟨id, hsent, heq⟩ := hmade (datagram, now) List.mem_cons_self
      dsimp only at heq
      obtain ⟨packet, hdecode, hcarried⟩ := hsent.decode hlawful hvalid
      have hrest : ∀ other ∈ rest, Made codecs unit other.1 :=
        fun other hother => hmade other (List.mem_cons_of_mem _ hother)
      have hone : receiveDatagram codecs m datagram now =
          m.perform codecs (.ingestAt packet now) := by
        unfold receiveDatagram
        rw [heq, hdecode]
      rw [Packet.receiveAll, hone]
      dsimp only
      rcases h.receive hlawful hvalid hsent hcarried now with
        ⟨hnone, hawaiting⟩ | ⟨assembled, hsome, hmatches, hdone⟩
      · have hids' : ∀ other ∈ id :: ids, other.Sent unit := by
          intro other hother
          rcases List.mem_cons.mp hother with rfl | htail
          · exact hsent
          · exact hids other htail
        rw [hnone]
        dsimp only [Option.toList]
        rw [List.nil_append]
        rcases ih hawaiting hids' hrest with hdone | ⟨hempty, ids', hmore, hcovers, hlater⟩
        · exact Or.inl hdone
        · right
          refine ⟨hempty, ids', fun other hother => hmore other (List.mem_cons_of_mem _ hother),
            ⟨hcovers.1, ?_⟩, hlater⟩
          intro other hother
          rcases List.mem_cons.mp hother with rfl | htail
          · exact ⟨id, hmore id List.mem_cons_self, heq⟩
          · exact hcovers.2 other htail
      · left
        rw [hsome, hdone.receiveAll hlawful hvalid hrest]
        exact ⟨assembled, rfl, hmatches⟩

/-! ## Counting shards -/

theorem inGroup_datagram (hlawful : codecs.Lawful) (hvalid : unit.Valid) {id : ShardId}
    (hsent : id.Sent unit) {groupIndex : Nat}
    (hin : inGroup (unit.groupRange groupIndex) (id.datagram codecs unit) = true) :
    id.groupIndex unit = groupIndex := by
  obtain ⟨packet, hdecode, hcarried⟩ := hsent.decode hlawful hvalid
  obtain ⟨hlt, _, hgroup⟩ := hsent.group
  unfold inGroup at hin
  rw [hdecode] at hin
  dsimp only at hin
  rw [decide_eq_true_iff, hcarried.fragmentIndex] at hin
  rw [← hgroup]
  exact fecGroupIndex_unique hlt hin.1 hin.2

theorem distinctShards_le (hlawful : codecs.Lawful) (hvalid : unit.Valid)
    {ids : List ShardId} {received : List (Bytes × Instant)}
    (hcovers : Covers codecs unit ids received) {frame : PartialFrame}
    (h : FrameHolds codecs unit ids frame) {groupIndex : Nat} {group : FecGroupState}
    (hgroup : GroupHolds codecs unit ids frame.fragments groupIndex group) :
    distinctShards (unit.groupRange groupIndex) received ≤
      (unit.groupRange groupIndex).indices.countP (· ∈ frame.fragments) +
        if 2 ≤ unit.fragmentCount then group.parityShards.countP Option.isSome else 0 := by
  have hslot : ∀ parityIndex < fecParityShards,
      (∃ shard, group.parityShards[parityIndex]? = some (some shard)) ↔
        ((group.parityShards[parityIndex]?).getD none).isSome = true := by
    intro parityIndex hlt
    rw [← hgroup.slots] at hlt
    rw [List.getElem?_eq_getElem hlt, Option.getD_some]
    cases group.parityShards[parityIndex] <;> simp
  have hparityCount : group.parityShards.countP Option.isSome =
      (List.range fecParityShards).countP
        fun parityIndex => ((group.parityShards[parityIndex]?).getD none).isSome := by
    obtain ⟨first, second, htwo⟩ := List.length_eq_two.mp hgroup.slots
    rw [htwo]
    cases first <;> cases second <;> rfl
  -- Each distinct datagram of the group is that of a stored fragment or parity shard.
  let stored : List Bytes :=
    ((unit.groupRange groupIndex).indices.filter (· ∈ frame.fragments)).map
        (fun index => (ShardId.data index).datagram codecs unit) ++
      if 2 ≤ unit.fragmentCount then
        ((List.range fecParityShards).filter fun parityIndex =>
          ((group.parityShards[parityIndex]?).getD none).isSome).map
            fun parityIndex => (ShardId.parity groupIndex parityIndex).datagram codecs unit
      else []
  have hsubset : (((received.map Prod.fst).dedup).filter
      (inGroup (unit.groupRange groupIndex))) ⊆ stored := by
    intro datagram hmem
    rw [List.mem_filter, List.mem_dedup] at hmem
    obtain ⟨entry, hentry, rfl⟩ := List.mem_map.mp hmem.1
    obtain ⟨id, hid, heq⟩ := hcovers.2 entry hentry
    have hsent := hcovers.1 id hid
    have hin := hmem.2
    rw [heq] at hin ⊢
    have hix := inGroup_datagram hlawful hvalid hsent hin
    rw [List.mem_append]
    cases id with
    | data index =>
        left
        rw [List.mem_map]
        refine ⟨index, ?_, rfl⟩
        rw [List.mem_filter, decide_eq_true_iff]
        exact ⟨(mem_fecGroupRange_indices hsent).mpr hix, h.received index hid⟩
    | parity other parityIndex =>
        right
        cases hix
        rw [if_pos hsent.1, List.mem_map]
        refine ⟨parityIndex, ?_, rfl⟩
        rw [List.mem_filter, List.mem_range]
        exact ⟨hsent.2.2, (hslot parityIndex hsent.2.2).mp (hgroup.received parityIndex hid)⟩
  have hnodup : (((received.map Prod.fst).dedup).filter
      (inGroup (unit.groupRange groupIndex))).Nodup :=
    (List.nodup_dedup _).filter _
  have hle := (List.subperm_of_subset hnodup hsubset).length_le
  unfold distinctShards
  rw [List.countP_eq_length_filter, hparityCount]
  refine Nat.le_trans hle (Nat.le_of_eq ?_)
  rw [List.length_append, List.length_map, ← List.countP_eq_length_filter]
  by_cases htwo : 2 ≤ unit.fragmentCount
  · rw [if_pos htwo, if_pos htwo, List.length_map, ← List.countP_eq_length_filter]
  · rw [if_neg htwo, if_neg htwo, List.length_nil]

theorem Incomplete.lacks (hlawful : codecs.Lawful) (hvalid : unit.Valid)
    {ids : List ShardId} {received : List (Bytes × Instant)}
    (hcovers : Covers codecs unit ids received) {frame : PartialFrame}
    (h : Incomplete codecs unit ids frame) :
    ∃ group ∈ fecGroupRanges unit.fragmentCount,
      distinctShards group received < group.len := by
  by_contra hnone
  push Not at hnone
  refine h.size ((size_eq_iff_covers h.holds.fragments_lt).mpr ?_)
  intro index hindex
  obtain ⟨group, hget, _⟩ := h.holds.groupOf hindex
  have hgroup := h.holds.groups _ group hget
  have hlt := fecGroupIndex_lt hindex
  generalize hix : fecGroupIndex unit.fragmentCount index = groupIndex at hget hgroup hlt
  have henough : (unit.groupRange groupIndex).len ≤
      distinctShards (unit.groupRange groupIndex) received := by
    refine hnone _ ?_
    rw [fecGroupRanges_eq, List.mem_map]
    exact ⟨groupIndex, List.mem_range.mpr hlt, rfl⟩
  have hcount := distinctShards_le hlawful hvalid hcovers h.holds hgroup
  have hsplit : (unit.groupRange groupIndex).indices.countP (· ∈ frame.fragments) +
      countOnes (missingMask group) = (unit.groupRange groupIndex).len := by
    rw [FrameHolds.countOnes_missing hvalid hgroup, List.countP_map,
      ← FragmentRange.length_indices]
    rw [List.length_eq_countP_add_countP (p := (· ∈ frame.fragments))]
    congr 1
    apply List.countP_congr
    intro other _
    rw [Function.comp_apply]
    by_cases hmem : other ∈ frame.fragments
    · simp [hmem]
    · simp [hmem]
  have hmissing : countOnes (missingMask group) = 0 := by
    by_cases htwo : 2 ≤ unit.fragmentCount
    · have hlen : 2 ≤ group.range.len := by
        rw [hgroup.range]
        exact two_le_fecGroupRange_len htwo groupIndex
      have hsaturated := h.saturated groupIndex group hget hlen
      rw [if_pos htwo] at hcount
      omega
    · rw [if_neg htwo] at hcount
      omega
  have hall : (unit.groupRange groupIndex).indices.countP (· ∈ frame.fragments) =
      (unit.groupRange groupIndex).indices.length := by
    rw [FragmentRange.length_indices]
    omega
  rw [List.countP_eq_length] at hall
  have hmem := hall index ((mem_fecGroupRange_indices hindex).mpr hix)
  rwa [decide_eq_true_iff] at hmem

/-! ## The round trip -/

theorem Ready.receiveAll_enterEpoch (hlawful : codecs.Lawful) (hvalid : unit.Valid)
    {m : ReassemblyMap} (h : Ready unit m) {received : List (Bytes × Instant)}
    (hmade : ∀ entry ∈ received, Made codecs unit entry.1) :
    (receiveAll codecs m received).1 =
      (receiveAll codecs (m.enterEpoch unit.streamEpoch) received).1 := by
  cases received with
  | nil => rfl
  | cons entry rest =>
      obtain ⟨datagram, now⟩ := entry
      obtain ⟨id, hsent, heq⟩ := hmade (datagram, now) List.mem_cons_self
      dsimp only at heq
      obtain ⟨packet, hdecode, hcarried⟩ := hsent.decode hlawful hvalid
      have hawaiting : Awaiting codecs unit [] (m.enterEpoch unit.streamEpoch) := h.awaiting
      obtain ⟨hepoch, henter⟩ := enterEpoch_carried hawaiting.epoch hcarried
      have hold : ¬ packet.streamEpoch < m.currentEpoch := by
        rw [hcarried.streamEpoch]
        exact Nat.not_lt.mpr h.epoch
      have hone : m.perform codecs (.ingestAt packet now) =
          (m.enterEpoch unit.streamEpoch).perform codecs (.ingestAt packet now) := by
        unfold perform ingestAt
        dsimp only
        rw [if_neg hold, if_neg hepoch, henter, hcarried.streamEpoch]
      rw [receiveAll, receiveAll, receiveDatagram, receiveDatagram, heq, hdecode]
      dsimp only
      rw [hone]

theorem valid_of_size {data : Bytes} (isKeyframe : Bool)
    {ptsUs encodedAtUs streamEpoch frameId : Nat} (hnonempty : data ≠ [])
    (hsize : data.length ≤ maxVideoFragmentsPerAccessUnit * maxFecFragmentPayload)
    (hptsUs : ptsUs < 2 ^ 64) (hencodedAtUs : encodedAtUs < 2 ^ 64)
    (hstreamEpoch : streamEpoch < 2 ^ 32) (hframeId : frameId < 2 ^ 64) :
    (AccessUnit.mk data isKeyframe ptsUs encodedAtUs streamEpoch frameId).Valid where
  nonempty := hnonempty
  fits := by
    have hlast : ¬ maxVideoFragmentsPerAccessUnit < fragmentCountOf data := by
      rw [lt_fragmentCountOf]
      exact Nat.not_lt.mpr hsize
    exact Nat.not_lt.mp hlast
  streamEpoch_lt := hstreamEpoch
  frameId_lt := hframeId
  ptsUs_lt := hptsUs
  encodedAtUs_lt := hencodedAtUs

/-- An access unit of legal size is queued as a batch. Whatever of its datagrams reaches a
map that holds no other frame, in whatever order and however often, the map returns at most
one access unit, and only the original; it returns it if of each FEC group as many
distinct shards arrive as the group has data fragments. -/
theorem packetize_reassemble (codecs : Codecs) (hlawful : codecs.Lawful)
    (pipeline : SenderPipeline) (data : Bytes) (isKeyframe : Bool)
    (ptsUs encodedAtUs streamEpoch : Nat) (fec : FecProtection) (hnonempty : data ≠ [])
    (hsize : data.length ≤ maxVideoFragmentsPerAccessUnit * maxFecFragmentPayload)
    (hptsUs : ptsUs < 2 ^ 64) (hencodedAtUs : encodedAtUs < 2 ^ 64)
    (hstreamEpoch : streamEpoch < 2 ^ 32) (hframeId : pipeline.frameId + 1 < 2 ^ 64)
    (m : ReassemblyMap)
    (hready : Ready ⟨data, isKeyframe, ptsUs, encodedAtUs, streamEpoch,
      pipeline.frameId + 1⟩ m) :
    ∃ created batch pipeline',
      packetizeIntoPending codecs pipeline data isKeyframe ptsUs encodedAtUs streamEpoch fec =
          (.ok created, pipeline') ∧
        pipeline'.pending.getLast? = some batch ∧
        ∀ received : List (Bytes × Instant),
          (∀ entry ∈ received, entry.1 ∈ batch.datagrams) →
            (receiveAll codecs m received).1.length ≤ 1 ∧
            (∀ assembled ∈ (receiveAll codecs m received).1,
              assembled.data = data ∧ assembled.ptsUs = ptsUs ∧
                assembled.encodedAtUs = encodedAtUs ∧ assembled.keyframe = isKeyframe ∧
                assembled.streamEpoch = streamEpoch) ∧
            ((∀ group ∈ fecGroupRanges (fragmentCountOf data),
                group.len ≤ distinctShards group received) →
              (receiveAll codecs m received).1.length = 1) := by
  have hvalid := valid_of_size isKeyframe hnonempty hsize hptsUs hencodedAtUs hstreamEpoch
    hframeId
  obtain ⟨created, batch, pipeline', hpacketize, hlast, hdatagrams⟩ :=
    packetizeIntoPending_ok hlawful pipeline fec hvalid
  refine ⟨created, batch, pipeline', hpacketize, hlast, ?_⟩
  intro received hreceived
  have hmade : ∀ entry ∈ received, Made codecs ⟨data, isKeyframe, ptsUs, encodedAtUs,
      streamEpoch, pipeline.frameId + 1⟩ entry.1 :=
    fun entry hentry => hdatagrams entry.1 (hreceived entry hentry)
  rw [hready.receiveAll_enterEpoch hlawful hvalid hmade]
  have hawaiting := @Ready.awaiting codecs _ _ hready
  rcases hawaiting.receiveAll hlawful hvalid (fun _ hid => absurd hid List.not_mem_nil) hmade
    with ⟨assembled, hone, hmatches⟩ | ⟨hempty, ids, _, hcovers, hlater⟩
  · rw [hone]
    refine ⟨Nat.le_refl _, ?_, fun _ => rfl⟩
    intro other hother
    rw [List.mem_singleton.mp hother]
    exact ⟨hmatches.data, hmatches.ptsUs, hmatches.encodedAtUs, hmatches.keyframe,
      hmatches.streamEpoch⟩
  · rw [hempty]
    refine ⟨Nat.zero_le _, fun _ hmem => absurd hmem List.not_mem_nil, ?_⟩
    intro henough
    exfalso
    rcases hlater.frame with ⟨_, hnone⟩ | ⟨frame, _, hincomplete⟩
    · -- No shard arrived, yet the first group needs one.
      have hpos : 0 < fragmentCountOf data := fragmentCountOf_pos hnonempty
      have hgroup := henough (fecGroupRange (fragmentCountOf data) 0) (by
        rw [fecGroupRanges_eq, List.mem_map]
        exact ⟨0, List.mem_range.mpr (fecGroupCount_pos hpos), rfl⟩)
      have hlen := fecGroupRange_len_pos hpos 0
      cases received with
      | nil =>
          have hzero : distinctShards (fecGroupRange (fragmentCountOf data) 0) [] = 0 := rfl
          omega
      | cons entry rest =>
          obtain ⟨id, hid, _⟩ := hcovers.2 entry List.mem_cons_self
          rw [hnone] at hid
          cases hid
    · obtain ⟨group, hgroup, hlacks⟩ := hincomplete.lacks hlawful hvalid hcovers
      exact absurd (henough group hgroup) (Nat.not_le.mpr hlacks)

/-- An access unit of two fragments under strong protection, and a new map. -/
theorem packetize_reassemble_two_fragments :
    ∃ created batch pipeline',
      packetizeIntoPending reedSolomon SenderPipeline.default (List.replicate 1115 7) true 40 50
          1 .strong = (.ok created, pipeline') ∧
        pipeline'.pending.getLast? = some batch ∧
        ∀ received : List (Bytes × Instant),
          (∀ entry ∈ received, entry.1 ∈ batch.datagrams) →
            (receiveAll reedSolomon (new 8 1024) received).1.length ≤ 1 ∧
            (∀ assembled ∈ (receiveAll reedSolomon (new 8 1024) received).1,
              assembled.data = List.replicate 1115 7 ∧ assembled.ptsUs = 40 ∧
                assembled.encodedAtUs = 50 ∧ assembled.keyframe = true ∧
                assembled.streamEpoch = 1) ∧
            ((∀ group ∈ fecGroupRanges (fragmentCountOf (List.replicate 1115 7)),
                group.len ≤ distinctShards group received) →
              (receiveAll reedSolomon (new 8 1024) received).1.length = 1) :=
  packetize_reassemble reedSolomon reedSolomon_lawful SenderPipeline.default
    (List.replicate 1115 7) true 40 50 1 .strong (List.cons_ne_nil _ _)
    (by rw [List.length_replicate]; decide) (by decide) (by decide) (by decide) (by decide)
    (new 8 1024) (ready_new _ 8 (Nat.le_refl _))

end PicooCamera.Packet
