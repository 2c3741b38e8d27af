import PicooCamera.Protocol.FecCodec
import PicooCamera.Protocol.FecGroups
import PicooCamera.Sender.Packetizer

/-!
# The shards of an access unit and their datagrams

Every datagram that `packetize_into_pending` queues for a valid access unit
carries one shard: a data fragment, or a parity shard of one FEC group.
-/

namespace PicooCamera.Sender

open PicooCamera.Library PicooCamera.Protocol PicooCamera.Transport

/-! ## Fragments of the data -/

theorem chunk_eq (data : Bytes) (index : Nat) :
    chunk data index = (data.drop (index * maxFecFragmentPayload)).take maxFecFragmentPayload := by
  unfold chunk fragmentDescriptor
  dsimp only
  rw [List.drop_take, List.take_eq_take_iff, List.length_drop]
  omega

theorem length_chunk (data : Bytes) (index : Nat) :
    (chunk data index).length =
      min maxFecFragmentPayload (data.length - index * maxFecFragmentPayload) := by
  rw [chunk_eq, List.length_take, List.length_drop]

theorem lt_fragmentCountOf {data : Bytes} {index : Nat} :
    index < fragmentCountOf data ↔ index * maxFecFragmentPayload < data.length := by
  unfold fragmentCountOf
  rw [maxFecFragmentPayload_eq]
  omega

theorem fragmentCountOf_pos {data : Bytes} (h : data ≠ []) : 0 < fragmentCountOf data := by
  rw [lt_fragmentCountOf, Nat.zero_mul]
  exact List.length_pos_iff.mpr h

theorem length_chunk_pos {data : Bytes} {index : Nat} (h : index < fragmentCountOf data) :
    0 < (chunk data index).length := by
  rw [lt_fragmentCountOf] at h
  rw [length_chunk, maxFecFragmentPayload_eq] at *
  omega

theorem length_chunk_le (data : Bytes) (index : Nat) :
    (chunk data index).length ≤ maxFecFragmentPayload := by
  rw [length_chunk]
  exact Nat.min_le_left _ _

theorem length_chunk_full {data : Bytes} {index : Nat}
    (h : index + 1 < fragmentCountOf data) :
    (chunk data index).length = maxFecFragmentPayload := by
  rw [lt_fragmentCountOf] at h
  rw [length_chunk, maxFecFragmentPayload_eq] at *
  omega

private theorem flatten_chunks_take (data : Bytes) (count : Nat) :
    ((List.range count).map (chunk data)).flatten =
      data.take (count * maxFecFragmentPayload) := by
  induction count with
  | zero => simp
  | succ count ih =>
      rw [List.range_succ, List.map_append, List.flatten_append, ih, Nat.succ_mul,
        List.take_add, List.map_singleton, List.flatten_singleton, chunk_eq]

theorem flatten_chunks (data : Bytes) :
    ((List.range (fragmentCountOf data)).map (chunk data)).flatten = data := by
  have hcover : ¬ fragmentCountOf data * maxFecFragmentPayload < data.length := by
    rw [← lt_fragmentCountOf]
    exact Nat.lt_irrefl _
  rw [flatten_chunks_take, List.take_of_length_le (Nat.not_lt.mp hcover)]

/-- The fragments of one group. -/
def groupChunks (data : Bytes) (group : FragmentRange) : List Shard :=
  group.indices.map (chunk data)

theorem groupChunks_getElem? (data : Bytes) (group : FragmentRange) (offset : Nat) :
    (groupChunks data group)[offset]? =
      if offset < group.len then some (chunk data (group.start + offset)) else none := by
  unfold groupChunks FragmentRange.indices
  rw [List.getElem?_map]
  by_cases h : offset < group.len
  · rw [List.getElem?_range' h, if_pos h, Option.map_some, Nat.one_mul]
  · rw [List.getElem?_eq_none (by simpa using h), if_neg h, Option.map_none]

theorem groupData_groupChunks {data : Bytes} {groupIndex : Nat}
    (htwo : 2 ≤ fragmentCountOf data) (h : groupIndex < fecGroupCount (fragmentCountOf data)) :
    GroupData maxFecFragmentPayload
      (groupChunks data (fecGroupRange (fragmentCountOf data) groupIndex)) := by
  have hlen : (groupChunks data (fecGroupRange (fragmentCountOf data) groupIndex)).length =
      (fecGroupRange (fragmentCountOf data) groupIndex).len := by
    rw [groupChunks, List.length_map, FragmentRange.length_indices]
  have hstop := fecGroupRange_stop_le h
  have hsum := fecGroupRange_start_add_len (fragmentCountOf data) groupIndex
  have hmem : ∀ shard ∈ groupChunks data (fecGroupRange (fragmentCountOf data) groupIndex),
      ∃ index, index < fragmentCountOf data ∧ shard = chunk data index := by
    intro shard hshard
    obtain ⟨index, hindex, rfl⟩ := List.mem_map.mp hshard
    rw [FragmentRange.mem_indices] at hindex
    exact ⟨index, by omega, rfl⟩
  refine ⟨?_, ?_, by decide, ?_, ?_, ?_⟩
  · rw [hlen]
    exact two_le_fecGroupRange_len htwo groupIndex
  · rw [hlen]
    exact fecGroupRange_len_le (Nat.lt_of_lt_of_le Nat.two_pos htwo) groupIndex
  · intro shard hshard
    obtain ⟨index, hindex, rfl⟩ := hmem shard hshard
    exact length_chunk_pos hindex
  · intro shard hshard
    obtain ⟨index, _, rfl⟩ := hmem shard hshard
    exact length_chunk_le data index
  · intro offset shard hshard hlast
    rw [groupChunks_getElem?] at hshard
    rw [hlen] at hlast
    rw [if_pos (by omega)] at hshard
    cases hshard
    exact length_chunk_full (by omega)

/-! ## Valid access units -/

/-- What `packetize_into_pending` requires of an access unit, and the widths of its fields. -/
structure AccessUnit.Valid (unit : AccessUnit) : Prop where
  nonempty : unit.data ≠ []
  fits : fragmentCountOf unit.data ≤ maxVideoFragmentsPerAccessUnit
  streamEpoch_lt : unit.streamEpoch < 256 ^ 4
  frameId_lt : unit.frameId < 256 ^ 8
  ptsUs_lt : unit.ptsUs < 256 ^ 8
  encodedAtUs_lt : unit.encodedAtUs < 256 ^ 8

namespace AccessUnit

def fragmentCount (unit : AccessUnit) : Nat := fragmentCountOf unit.data

def groupCount (unit : AccessUnit) : Nat := fecGroupCount unit.fragmentCount

def groupRange (unit : AccessUnit) (groupIndex : Nat) : FragmentRange :=
  fecGroupRange unit.fragmentCount groupIndex

/-- The two parity shards of a group. -/
def groupRows (codecs : Codecs) (unit : AccessUnit) (groupIndex : Nat) : List Shard :=
  parityRows codecs maxFecFragmentPayload (groupChunks unit.data (unit.groupRange groupIndex))

def groupLastLength (unit : AccessUnit) (groupIndex : Nat) : Nat :=
  lastLength (groupChunks unit.data (unit.groupRange groupIndex))

theorem Valid.fragmentCount_pos {unit : AccessUnit} (h : unit.Valid) :
    0 < unit.fragmentCount :=
  fragmentCountOf_pos h.nonempty

theorem Valid.fragmentCount_lt {unit : AccessUnit} (h : unit.Valid) :
    unit.fragmentCount < 256 ^ 2 :=
  Nat.lt_of_le_of_lt h.fits (by decide)

end AccessUnit

/-! ## Shards -/

inductive ShardId where
  | data (index : Nat)
  | parity (groupIndex parityIndex : Nat)
  deriving DecidableEq, Repr

namespace ShardId

variable (codecs : Codecs) (unit : AccessUnit)

/-- The shard is one that the sender makes for the access unit. -/
def Sent : ShardId → Prop
  | data index => index < unit.fragmentCount
  | parity groupIndex parityIndex =>
      2 ≤ unit.fragmentCount ∧ groupIndex < unit.groupCount ∧ parityIndex < fecParityShards

def flags : ShardId → VideoPacketFlags
  | data index => dataFlags unit.isKeyframe unit.fragmentCount index
  | parity _ _ => parityFlags unit.isKeyframe

/-- The fragment index on the wire; a parity shard names the start of its group. -/
def fragmentIndex : ShardId → Nat
  | data index => index
  | parity groupIndex _ => (unit.groupRange groupIndex).start

def payload : ShardId → Bytes
  | data index => chunk unit.data index
  | parity groupIndex parityIndex =>
      parityHeader parityIndex (unit.groupLastLength groupIndex) ++
        ((unit.groupRows codecs groupIndex)[parityIndex]?).getD []

/-- The group that the shard belongs to. -/
def groupIndex : ShardId → Nat
  | data index => fecGroupIndex unit.fragmentCount index
  | parity groupIndex _ => groupIndex

/-- The datagram that carries the shard. -/
def datagram (id : ShardId) : Bytes :=
  VideoPacket.encodeHeader (id.flags unit) unit.streamEpoch unit.frameId unit.ptsUs
    unit.encodedAtUs (id.fragmentIndex unit) unit.fragmentCount ++ id.payload codecs unit

/-- The packet carries the shard. -/
structure Carried (id : ShardId) (packet : VideoPacket) : Prop where
  flags : packet.flags = id.flags unit
  streamEpoch : packet.streamEpoch = unit.streamEpoch
  frameId : packet.frameId = unit.frameId
  ptsUs : packet.ptsUs = unit.ptsUs
  encodedAtUs : packet.encodedAtUs = unit.encodedAtUs
  fragmentIndex : packet.fragmentIndex = id.fragmentIndex unit
  fragmentCount : packet.fragmentCount = unit.fragmentCount
  payload : packet.payload = id.payload codecs unit

theorem payload_data (index : Nat) : (data index).payload codecs unit = chunk unit.data index :=
  rfl

theorem payload_parity (groupIndex parityIndex : Nat) :
    (parity groupIndex parityIndex).payload codecs unit =
      parityHeader parityIndex (unit.groupLastLength groupIndex) ++
        ((unit.groupRows codecs groupIndex)[parityIndex]?).getD [] :=
  rfl

variable {codecs unit}

theorem Sent.group {id : ShardId} (h : id.Sent unit) :
    id.fragmentIndex unit < unit.fragmentCount ∧ id.groupIndex unit < unit.groupCount ∧
      fecGroupIndex unit.fragmentCount (id.fragmentIndex unit) = id.groupIndex unit := by
  cases id with
  | data index => exact ⟨h, fecGroupIndex_lt h, rfl⟩
  | parity groupIndex parityIndex =>
      have hstart := fecGroupIndex_start h.2.1
      exact ⟨hstart.1, h.2.1, hstart.2⟩

theorem groupData {groupIndex : Nat} (htwo : 2 ≤ unit.fragmentCount)
    (hgroup : groupIndex < unit.groupCount) :
    GroupData maxFecFragmentPayload
      (groupChunks unit.data (unit.groupRange groupIndex)) :=
  groupData_groupChunks htwo hgroup

theorem Sent.row (hlawful : codecs.Lawful) {groupIndex parityIndex : Nat}
    (h : (parity groupIndex parityIndex).Sent unit) :
    ∃ row, (unit.groupRows codecs groupIndex)[parityIndex]? = some row ∧
      row.length = maxFecFragmentPayload := by
  obtain ⟨_, hcount, hlen⟩ := (groupData h.1 h.2.1).parityRows_spec hlawful
  have hlt : parityIndex < (unit.groupRows codecs groupIndex).length := by
    have hrows : (unit.groupRows codecs groupIndex).length = fecParityShards := hcount
    rw [hrows]
    exact h.2.2
  exact ⟨_, List.getElem?_eq_getElem hlt, hlen _ (List.getElem_mem hlt)⟩

theorem Sent.payload_le (hlawful : codecs.Lawful) {id : ShardId} (h : id.Sent unit) :
    videoPacketHeaderSize + (id.payload codecs unit).length ≤ maxDatagramSize := by
  cases id with
  | data index =>
      have hle := length_chunk_le unit.data index
      rw [maxFecFragmentPayload_eq] at hle
      rw [payload_data]
      unfold videoPacketHeaderSize maxDatagramSize
      omega
  | parity groupIndex parityIndex =>
      obtain ⟨row, hrow, hlen⟩ := Sent.row hlawful h
      rw [maxFecFragmentPayload_eq] at hlen
      unfold videoPacketHeaderSize maxDatagramSize
      rw [payload_parity, parityHeader, hrow, Option.getD_some, List.length_append,
        List.length_append, length_putBE, length_putBE, hlen]

theorem Sent.decode (hlawful : codecs.Lawful) (hvalid : unit.Valid) {id : ShardId}
    (h : id.Sent unit) :
    ∃ packet, VideoPacket.decodeBytes (id.datagram codecs unit) = .ok packet ∧
      id.Carried codecs unit packet := by
  let packet : VideoPacket := {
    flags := id.flags unit
    streamEpoch := unit.streamEpoch
    frameId := unit.frameId
    ptsUs := unit.ptsUs
    encodedAtUs := unit.encodedAtUs
    fragmentIndex := id.fragmentIndex unit
    fragmentCount := unit.fragmentCount
    payload := id.payload codecs unit
    streamEpoch_lt := hvalid.streamEpoch_lt
    frameId_lt := hvalid.frameId_lt
    ptsUs_lt := hvalid.ptsUs_lt
    encodedAtUs_lt := hvalid.encodedAtUs_lt
    fragmentCount_lt := hvalid.fragmentCount_lt
    fragmentIndex_lt := h.group.1 }
  exact ⟨packet, VideoPacket.decodeBytes_wireBytes packet (h.payload_le hlawful),
    ⟨rfl, rfl, rfl, rfl, rfl, rfl, rfl, rfl⟩⟩

theorem Sent.length_datagram_le (hlawful : codecs.Lawful) {id : ShardId}
    (h : id.Sent unit) : (id.datagram codecs unit).length ≤ maxDatagramSize := by
  unfold datagram
  rw [List.length_append, VideoPacket.length_encodeHeader]
  exact h.payload_le hlawful

/-! ## What the sender makes -/

theorem dataDatagram_eq (hlawful : codecs.Lawful) {index : Nat}
    (h : index < unit.fragmentCount) :
    dataDatagram unit unit.fragmentCount index =
      .ok ((data index).datagram codecs unit) := by
  have hsize := @Sent.payload_le codecs unit hlawful (data index) h
  rw [payload_data] at hsize
  have hflat : [chunk unit.data index].flatten = chunk unit.data index :=
    List.flatten_singleton
  unfold dataDatagram VideoPacket.encodeDatagram VideoPacket.encodeDatagramSegments
  rw [if_neg (Nat.not_le.mpr h), hflat, if_neg (Nat.not_lt.mpr hsize)]
  rfl

theorem parityDatagram_eq (hlawful : codecs.Lawful) {groupIndex parityIndex : Nat}
    (h : (parity groupIndex parityIndex).Sent unit) {row : Shard}
    (hrow : (unit.groupRows codecs groupIndex)[parityIndex]? = some row) :
    parityDatagram unit unit.fragmentCount (unit.groupRange groupIndex).start
        (unit.groupLastLength groupIndex) (row, parityIndex) =
      .ok ((parity groupIndex parityIndex).datagram codecs unit) := by
  have hsize := Sent.payload_le hlawful h
  have hpayload : (parity groupIndex parityIndex).payload codecs unit =
      [parityHeader parityIndex (unit.groupLastLength groupIndex), row].flatten := by
    rw [payload_parity, hrow, Option.getD_some, List.flatten_cons, List.flatten_singleton]
  have hindex : ¬ unit.fragmentCount ≤ (unit.groupRange groupIndex).start :=
    Nat.not_le.mpr h.group.1
  unfold parityDatagram VideoPacket.encodeDatagramSegments datagram
  dsimp only
  rw [hpayload] at hsize ⊢
  rw [if_neg hindex, if_neg (Nat.not_lt.mpr hsize)]
  rfl

end ShardId

/-- The datagram carries a shard that the sender makes. -/
def Made (codecs : Codecs) (unit : AccessUnit) (datagram : Bytes) : Prop :=
  ∃ id : ShardId, id.Sent unit ∧ datagram = id.datagram codecs unit

theorem mapM_ok {α β ε : Type} {f : α → Except ε β} {P : α → β → Prop} {items : List α}
    (h : ∀ item ∈ items, ∃ result, f item = .ok result ∧ P item result) :
    ∃ results, items.mapM f = .ok results ∧ List.Forall₂ P items results := by
  induction items with
  | nil => exact ⟨[], rfl, List.Forall₂.nil⟩
  | cons item items ih =>
      obtain ⟨result, hresult, hp⟩ := h item List.mem_cons_self
      obtain ⟨results, hresults, hall⟩ :=
        ih fun other hother => h other (List.mem_cons_of_mem _ hother)
      refine ⟨result :: results, ?_, List.Forall₂.cons hp hall⟩
      rw [List.mapM_cons, hresult, hresults]
      rfl

theorem forall₂_mapM {α β ε : Type} {f : α → Except ε β} {items : List α} {results : List β}
    (h : items.mapM f = .ok results) :
    List.Forall₂ (fun item result => f item = .ok result) items results := by
  induction items generalizing results with
  | nil =>
      rw [List.mapM_nil] at h
      cases h
      exact List.Forall₂.nil
  | cons item items ih =>
      rw [List.mapM_cons] at h
      cases hitem : f item with
      | error error =>
          rw [hitem] at h
          cases h
      | ok first =>
          cases hitems : items.mapM f with
          | error error =>
              rw [hitem, hitems] at h
              cases h
          | ok rest =>
              rw [hitem, hitems] at h
              cases h
              exact List.Forall₂.cons hitem (ih hitems)

theorem forall₂_right {α β : Type} {P : α → β → Prop} {items : List α}
    {results : List β} (h : List.Forall₂ P items results) {result : β}
    (hmem : result ∈ results) : ∃ item ∈ items, P item result := by
  induction h with
  | nil => cases hmem
  | cons hhead _ ih =>
      rcases List.mem_cons.mp hmem with rfl | htail
      · exact ⟨_, List.mem_cons_self, hhead⟩
      · obtain ⟨item, hitem, hp⟩ := ih htail
        exact ⟨item, List.mem_cons_of_mem _ hitem, hp⟩

theorem parityDatagrams_ok {codecs : Codecs} (hlawful : codecs.Lawful) {unit : AccessUnit}
    (hvalid : unit.Valid) (fec : FecProtection) {groupIndex : Nat}
    (hgroup : groupIndex < unit.groupCount) :
    ∃ datagrams, parityDatagrams codecs unit unit.fragmentCount fec
        (unit.groupRange groupIndex) = .ok datagrams ∧
      ∀ datagram ∈ datagrams, Made codecs unit datagram := by
  unfold parityDatagrams
  by_cases hnone : fec.parityShards = 0
  · rw [if_pos hnone]
    exact ⟨[], rfl, fun _ hmem => absurd hmem List.not_mem_nil⟩
  rw [if_neg hnone]
  by_cases htwo : 2 ≤ unit.fragmentCount
  · have hdata := ShardId.groupData htwo hgroup
    have hmode : fec.parityShards ≤ fecParityShards := by cases fec <;> decide
    have hencode : encodeFecParity codecs
        ((unit.groupRange groupIndex).indices.map (chunk unit.data)) fec.parityShards =
        some (unit.groupLastLength groupIndex,
          (unit.groupRows codecs groupIndex).take fec.parityShards) :=
      hdata.encodeFecParity_eq hlawful (Nat.pos_of_ne_zero hnone) hmode
    rw [hencode]
    have hitem : ∀ entry ∈ ((unit.groupRows codecs groupIndex).take fec.parityShards).zipIdx,
        ∃ datagram, parityDatagram unit unit.fragmentCount (unit.groupRange groupIndex).start
          (unit.groupLastLength groupIndex) entry = .ok datagram ∧
          Made codecs unit datagram := by
      rintro ⟨row, parityIndex⟩ hentry
      have hrow := List.mem_zipIdx_iff_getElem?.mp hentry
      dsimp only at hrow
      rw [List.getElem?_take] at hrow
      by_cases hlt : parityIndex < fec.parityShards
      · rw [if_pos hlt] at hrow
        have hsent : (ShardId.parity groupIndex parityIndex).Sent unit :=
          ⟨htwo, hgroup, Nat.lt_of_lt_of_le hlt hmode⟩
        exact ⟨_, ShardId.parityDatagram_eq hlawful hsent hrow, _, hsent, rfl⟩
      · rw [if_neg hlt] at hrow
        cases hrow
    obtain ⟨datagrams, hdatagrams, hall⟩ := mapM_ok hitem
    refine ⟨datagrams, hdatagrams, ?_⟩
    intro datagram hmem
    obtain ⟨_, _, hmade⟩ := forall₂_right hall hmem
    exact hmade
  · -- An access unit of one fragment has no parity.
    have hone : unit.fragmentCount = 1 := by
      have := hvalid.fragmentCount_pos
      omega
    have hstop : (unit.groupRange groupIndex).stop ≤ unit.fragmentCount :=
      fecGroupRange_stop_le hgroup
    have hencode : encodeFecParity codecs
        ((unit.groupRange groupIndex).indices.map (chunk unit.data)) fec.parityShards =
        none := by
      unfold encodeFecParity
      rw [if_pos]
      rw [List.length_map, FragmentRange.length_indices]
      unfold FragmentRange.len
      omega
    rw [hencode]
    exact ⟨[], rfl, fun _ hmem => absurd hmem List.not_mem_nil⟩

/-! ## The schedule -/

/-- Every datagram that a schedule state holds meets `P`. -/
structure ScheduleState.All (P : Bytes → Prop) (state : ScheduleState) : Prop where
  data : ∀ datagram, some datagram ∈ state.data → P datagram
  parity : ∀ packets ∈ state.parity, ∀ datagram, some datagram ∈ packets → P datagram
  scheduled : ∀ datagram ∈ state.scheduled, P datagram

private theorem some_mem_set_none {items : List (Option Bytes)} {index : Nat}
    {datagram : Bytes} (h : some datagram ∈ items.set index none) : some datagram ∈ items := by
  rcases List.mem_or_eq_of_mem_set h with hmem | heq
  · exact hmem
  · cases heq

private theorem some_mem_of_join {items : List (Option Bytes)} {index : Nat}
    {datagram : Bytes} (h : (items[index]?).join = some datagram) :
    some datagram ∈ items := by
  rw [Option.join_eq_some_iff] at h
  exact List.mem_of_getElem? h

theorem ScheduleState.All.scheduleSlot {P : Bytes → Prop} {state : ScheduleState}
    (h : state.All P) (slot : Slot) (entry : FragmentRange × Nat) :
    (scheduleSlot slot state entry).All P := by
  have htaken : ∀ packet state', takeSlot slot state entry.1 entry.2 = (packet, state') →
      state'.All P ∧ ∀ datagram, packet = some datagram → P datagram := by
    intro packet state' htake
    unfold takeSlot at htake
    cases slot with
    | data offset =>
        dsimp only at htake
        split at htake
        · cases htake
          exact ⟨⟨fun datagram hmem => h.data datagram (some_mem_set_none hmem), h.parity,
            h.scheduled⟩, fun datagram hjoin => h.data datagram (some_mem_of_join hjoin)⟩
        · cases htake
          exact ⟨h, fun _ hnone => by cases hnone⟩
    | parity index =>
        dsimp only at htake
        split at htake
        · cases htake
          exact ⟨h, fun _ hnone => by cases hnone⟩
        · rename_i packets hpackets
          have hmem := List.mem_of_getElem? hpackets
          cases htake
          refine ⟨⟨h.data, ?_, h.scheduled⟩,
            fun datagram hjoin => h.parity packets hmem datagram (some_mem_of_join hjoin)⟩
          intro other hother datagram hdatagram
          rcases List.mem_or_eq_of_mem_set hother with hold | rfl
          · exact h.parity other hold datagram hdatagram
          · exact h.parity packets hmem datagram (some_mem_set_none hdatagram)
  unfold Sender.scheduleSlot
  split
  · rename_i heq
    exact (htaken _ _ heq).1
  · rename_i packet state' heq
    obtain ⟨hall, hpacket⟩ := htaken _ _ heq
    refine ⟨hall.data, hall.parity, ?_⟩
    intro datagram hmem
    rcases List.mem_append.mp hmem with hold | hnew
    · exact hall.scheduled datagram hold
    · rw [List.mem_singleton] at hnew
      rw [hnew]
      exact hpacket packet rfl

private theorem foldl_preserves {σ α : Type} {P : σ → Prop} {f : σ → α → σ}
    (hstep : ∀ state item, P state → P (f state item)) (items : List α) {state : σ}
    (h : P state) : P (items.foldl f state) := by
  induction items generalizing state with
  | nil => exact h
  | cons item items ih => exact ih (hstep state item h)

theorem scheduleFecDatagrams_all {P : Bytes → Prop} {dataDatagrams : List Bytes}
    {parityByGroup : List (List Bytes)} (hdata : ∀ datagram ∈ dataDatagrams, P datagram)
    (hparity : ∀ datagrams ∈ parityByGroup, ∀ datagram ∈ datagrams, P datagram)
    (groups : List FragmentRange) :
    ∀ datagram ∈ scheduleFecDatagrams dataDatagrams parityByGroup groups, P datagram := by
  unfold scheduleFecDatagrams
  refine (foldl_preserves (P := ScheduleState.All P) ?_ slots ?_).scheduled
  · intro state slot hall
    exact foldl_preserves (fun state entry h => h.scheduleSlot slot entry) _ hall
  · refine ⟨?_, ?_, fun _ hmem => absurd hmem List.not_mem_nil⟩
    · intro datagram hmem
      obtain ⟨other, hother, heq⟩ := List.mem_map.mp hmem
      cases heq
      exact hdata datagram hother
    · intro packets hpackets datagram hmem
      obtain ⟨datagrams, hdatagrams, rfl⟩ := List.mem_map.mp hpackets
      obtain ⟨other, hother, heq⟩ := List.mem_map.mp hmem
      cases heq
      exact hparity datagrams hdatagrams datagram hother

private theorem scheduleSlot_ne_nil {state : ScheduleState} (h : state.scheduled ≠ [])
    (slot : Slot) (entry : FragmentRange × Nat) :
    (scheduleSlot slot state entry).scheduled ≠ [] := by
  have htaken : ∀ packet state', takeSlot slot state entry.1 entry.2 = (packet, state') →
      state'.scheduled = state.scheduled := by
    intro packet state' htake
    unfold takeSlot at htake
    cases slot with
    | data offset =>
        dsimp only at htake
        split at htake <;> cases htake <;> rfl
    | parity index =>
        dsimp only at htake
        split at htake <;> cases htake <;> rfl
  unfold scheduleSlot
  split
  · rename_i heq
    rw [htaken _ _ heq]
    exact h
  · exact List.append_ne_nil_of_right_ne_nil _ (List.cons_ne_nil _ _)

theorem scheduleFecDatagrams_ne_nil (first : Bytes) (dataDatagrams : List Bytes)
    (parityByGroup : List (List Bytes)) {group : FragmentRange} (groups : List FragmentRange)
    (hstart : group.start = 0) (hstop : 0 < group.stop) :
    scheduleFecDatagrams (first :: dataDatagrams) parityByGroup (group :: groups) ≠ [] := by
  have hkeep : ∀ (slot : Slot) (state : ScheduleState) (entries : List (FragmentRange × Nat)),
      state.scheduled ≠ [] → (entries.foldl (scheduleSlot slot) state).scheduled ≠ [] :=
    fun slot state entries h =>
      foldl_preserves (P := fun state : ScheduleState => state.scheduled ≠ [])
        (fun _ entry hstate => scheduleSlot_ne_nil hstate slot entry) entries h
  unfold scheduleFecDatagrams slots
  rw [List.foldl_cons]
  refine foldl_preserves (P := fun state : ScheduleState => state.scheduled ≠ [])
    (fun state slot h => hkeep slot state _ h) _ ?_
  rw [List.zipIdx_cons, List.foldl_cons]
  refine hkeep _ _ _ ?_
  unfold scheduleSlot takeSlot
  dsimp only
  rw [hstart, if_pos hstop]
  exact List.append_ne_nil_of_right_ne_nil _ (List.cons_ne_nil _ _)

/-! ## One access unit -/

theorem datagramsOf_ok {codecs : Codecs} (hlawful : codecs.Lawful) {unit : AccessUnit}
    (hvalid : unit.Valid) (fec : FecProtection) :
    ∃ datagrams created, datagramsOf codecs unit fec = .ok (datagrams, created) ∧
      datagrams ≠ [] ∧ ∀ datagram ∈ datagrams, Made codecs unit datagram := by
  have hdata : ∀ index ∈ List.range unit.fragmentCount, ∃ datagram,
      dataDatagram unit unit.fragmentCount index = .ok datagram ∧
        Made codecs unit datagram := by
    intro index hindex
    have hlt := List.mem_range.mp hindex
    exact ⟨_, ShardId.dataDatagram_eq hlawful hlt, .data index, hlt, rfl⟩
  have hparity : ∀ group ∈ fecGroupRanges unit.fragmentCount, ∃ datagrams,
      parityDatagrams codecs unit unit.fragmentCount fec group = .ok datagrams ∧
        ∀ datagram ∈ datagrams, Made codecs unit datagram := by
    intro group hgroup
    rw [fecGroupRanges_eq] at hgroup
    obtain ⟨groupIndex, hindex, rfl⟩ := List.mem_map.mp hgroup
    exact parityDatagrams_ok hlawful hvalid fec (List.mem_range.mp hindex)
  obtain ⟨dataDatagrams, hdataOk, hdataAll⟩ := mapM_ok hdata
  obtain ⟨parityByGroup, hparityOk, hparityAll⟩ := mapM_ok hparity
  refine ⟨scheduleFecDatagrams dataDatagrams parityByGroup
    (fecGroupRanges unit.fragmentCount),
    dataDatagrams.length + (parityByGroup.map List.length).sum, ?_, ?_, ?_⟩
  · unfold AccessUnit.fragmentCount at hdataOk hparityOk
    simp only [datagramsOf, hdataOk, hparityOk, bind, Except.bind]
    rfl
  · have hpos := hvalid.fragmentCount_pos
    have hlength := hdataAll.length_eq
    rw [List.length_range] at hlength
    obtain ⟨first, rest, hcons⟩ := List.exists_cons_of_length_pos (hlength ▸ hpos)
    have hcount : 0 < fecGroupCount unit.fragmentCount := fecGroupCount_pos hpos
    obtain ⟨count, hsucc⟩ := Nat.exists_eq_add_of_lt hcount
    rw [fecGroupRanges_eq, hcons, hsucc, Nat.zero_add, List.range_succ_eq_map, List.map_cons]
    have hlen := fecGroupRange_len_pos hpos 0
    have hstart : (fecGroupRange unit.fragmentCount 0).start = 0 := groupStart_zero _ _
    refine scheduleFecDatagrams_ne_nil first rest parityByGroup _ hstart ?_
    unfold FragmentRange.len at hlen
    omega
  · refine scheduleFecDatagrams_all ?_ ?_ _
    · intro datagram hmem
      obtain ⟨_, _, hmade⟩ := forall₂_right hdataAll hmem
      exact hmade
    · intro datagrams hdatagrams
      obtain ⟨_, _, hmade⟩ := forall₂_right hparityAll hdatagrams
      exact hmade

theorem batch_new_ok {codecs : Codecs} (hlawful : codecs.Lawful) {unit : AccessUnit}
    (hvalid : unit.Valid) {datagrams : List Bytes} (hne : datagrams ≠ [])
    (hmade : ∀ datagram ∈ datagrams, Made codecs unit datagram) :
    ∃ batch, VideoDatagramBatch.new datagrams = .ok batch ∧ batch.datagrams = datagrams ∧
      batch.keyframe = unit.isKeyframe := by
  obtain ⟨first, rest, hcons⟩ := List.exists_cons_of_ne_nil hne
  have hsize : (datagrams.any fun item => maxDatagramSize < item.length) = false := by
    rw [List.any_eq_false]
    intro item hitem
    obtain ⟨id, hsent, rfl⟩ := hmade item hitem
    have hle := ShardId.Sent.length_datagram_le hlawful hsent
    simpa using hle
  obtain ⟨id, hsent, hfirst⟩ := hmade first (hcons ▸ List.mem_cons_self)
  obtain ⟨packet, hdecode, hcarried⟩ := hsent.decode hlawful hvalid
  refine ⟨⟨datagrams, (datagrams.map List.length).sum, packet.flags.keyframe⟩, ?_, rfl, ?_⟩
  · unfold VideoDatagramBatch.new
    rw [hcons] at hsize ⊢
    dsimp only
    rw [hsize, hfirst, hdecode]
    rfl
  · dsimp only
    rw [hcarried.flags]
    cases id <;> rfl

theorem packetizeIntoPending_ok {codecs : Codecs} (hlawful : codecs.Lawful)
    (pipeline : SenderPipeline) {data : Bytes} {isKeyframe : Bool}
    {ptsUs encodedAtUs streamEpoch : Nat} (fec : FecProtection)
    (hvalid : (AccessUnit.mk data isKeyframe ptsUs encodedAtUs streamEpoch
      (pipeline.frameId + 1)).Valid) :
    ∃ created batch pipeline',
      packetizeIntoPending codecs pipeline data isKeyframe ptsUs encodedAtUs streamEpoch fec =
          (.ok created, pipeline') ∧
        pipeline'.pending.getLast? = some batch ∧
        ∀ datagram ∈ batch.datagrams,
          Made codecs ⟨data, isKeyframe, ptsUs, encodedAtUs, streamEpoch,
            pipeline.frameId + 1⟩ datagram := by
  obtain ⟨datagrams, created, hdatagrams, hne, hmade⟩ := datagramsOf_ok hlawful hvalid fec
  have hfits : ¬ maxVideoFragmentsPerAccessUnit < fragmentCountOf data :=
    Nat.not_lt.mpr hvalid.fits
  have hframe : ¬ 2 ^ 64 ≤ pipeline.frameId + 1 := Nat.not_le.mpr hvalid.frameId_lt
  obtain ⟨batch, hbatch, rfl, _⟩ := batch_new_ok hlawful hvalid hne hmade
  unfold packetizeIntoPending
  rw [if_neg hvalid.nonempty, if_neg hfits, if_neg hframe]
  simp only [hdatagrams, hbatch]
  exact ⟨_, _, _, rfl, List.getLast?_concat, hmade⟩

end PicooCamera.Sender
