import PicooCamera.Protocol.VideoFec
import PicooCamera.Transport.VideoBatch

/-!
# Fragmentation of access units

`packetize_into_pending`: one access unit becomes data datagrams, parity
datagrams for each FEC group of at least two fragments, and one batch of the
pending queue.
-/

namespace PicooCamera.Sender

open PicooCamera.Library PicooCamera.Protocol PicooCamera.Transport

inductive SenderError where
  | emptyAccessUnit
  | accessUnitTooLarge
  | frameIdExhausted
  | packet (error : VideoPacketError)
  | videoBatch (error : VideoDatagramBatchError)
  deriving DecidableEq, Repr

structure SenderStats where
  accessUnits : Nat
  packets : Nat
  bytes : Nat
  droppedAccessUnits : Nat
  deriving DecidableEq, Repr

inductive FecProtection where
  | none
  | light
  | strong
  deriving DecidableEq, Repr

def FecProtection.parityShards : FecProtection → Nat
  | .none => 0
  | .light => 1
  | .strong => 2

structure FragmentDescriptor where
  index : Nat
  start : Nat
  stop : Nat
  deriving DecidableEq, Repr

structure SenderPipeline where
  frameId : Nat
  stats : SenderStats
  pending : List VideoDatagramBatch
  deriving DecidableEq, Repr

/-- `SenderPipeline::default()`. -/
def SenderPipeline.default : SenderPipeline := ⟨0, ⟨0, 0, 0, 0⟩, []⟩

def pendingAccessUnitCapacity : Nat := 3

/-- The access unit and the wire fields that all its datagrams share. -/
structure AccessUnit where
  data : Bytes
  isKeyframe : Bool
  ptsUs : Nat
  encodedAtUs : Nat
  streamEpoch : Nat
  frameId : Nat
  deriving DecidableEq, Repr

/-! ## Fragments -/

def fragmentCountOf (data : Bytes) : Nat :=
  (data.length + maxFecFragmentPayload - 1) / maxFecFragmentPayload

def fragmentDescriptor (data : Bytes) (index : Nat) : FragmentDescriptor where
  index := index
  start := index * maxFecFragmentPayload
  stop := min (index * maxFecFragmentPayload + maxFecFragmentPayload) data.length

/-- `data[descriptor.start..descriptor.end]`. -/
def chunk (data : Bytes) (index : Nat) : Bytes :=
  let descriptor := fragmentDescriptor data index
  (data.take descriptor.stop).drop descriptor.start

def dataFlags (isKeyframe : Bool) (fragmentCount index : Nat) : VideoPacketFlags where
  keyframe := isKeyframe
  startOfAccessUnit := index = 0
  endOfAccessUnit := index + 1 = fragmentCount
  discardable := false
  fecParity := false

def dataDatagram (unit : AccessUnit) (fragmentCount index : Nat) :
    Except VideoPacketError Bytes :=
  VideoPacket.encodeDatagram (dataFlags unit.isKeyframe fragmentCount index) unit.streamEpoch
    unit.frameId unit.ptsUs unit.encodedAtUs index fragmentCount (chunk unit.data index)

/-! ## Parity -/

/-- The base flags of the access unit with `FEC_PARITY`. -/
def parityFlags (isKeyframe : Bool) : VideoPacketFlags where
  keyframe := isKeyframe
  startOfAccessUnit := false
  endOfAccessUnit := false
  discardable := false
  fecParity := true

def parityHeader (parityIndex lastDataLen : Nat) : Bytes :=
  putBE 1 parityIndex ++ putBE 2 lastDataLen

def parityDatagram (unit : AccessUnit) (fragmentCount groupStart lastDataLen : Nat)
    (entry : Shard × Nat) : Except VideoPacketError Bytes :=
  VideoPacket.encodeDatagramSegments (parityFlags unit.isKeyframe) unit.streamEpoch
    unit.frameId unit.ptsUs unit.encodedAtUs groupStart fragmentCount
    [parityHeader entry.2 lastDataLen, entry.1]

/-- The parity datagrams of one group; none where the codec makes no parity for it. -/
def parityDatagrams (codecs : Codecs) (unit : AccessUnit) (fragmentCount : Nat)
    (fec : FecProtection) (group : FragmentRange) : Except VideoPacketError (List Bytes) :=
  if fec.parityShards = 0 then .ok []
  else
    match encodeFecParity codecs (group.indices.map (chunk unit.data)) fec.parityShards with
    | none => .ok []
    | some (lastDataLen, parity) =>
        parity.zipIdx.mapM (parityDatagram unit fragmentCount group.start lastDataLen)

/-! ## Scheduling -/

inductive Slot where
  | data (offset : Nat)
  | parity (index : Nat)
  deriving DecidableEq, Repr

def slots : List Slot :=
  [.data 0, .data 1, .data 2, .data 3, .data 4, .data 5, .parity 0, .parity 1]

structure ScheduleState where
  data : List (Option Bytes)
  parity : List (List (Option Bytes))
  scheduled : List Bytes
  deriving DecidableEq, Repr

/-- `take()` of the datagram in one slot of one group. -/
def takeSlot (slot : Slot) (state : ScheduleState) (group : FragmentRange) (groupIndex : Nat) :
    Option Bytes × ScheduleState :=
  match slot with
  | .data offset =>
      let index := group.start + offset
      if index < group.stop then
        ((state.data[index]?).join, { state with data := state.data.set index none })
      else (none, state)
  | .parity index =>
      match state.parity[groupIndex]? with
      | none => (none, state)
      | some packets =>
          ((packets[index]?).join,
            { state with parity := state.parity.set groupIndex (packets.set index none) })

def scheduleSlot (slot : Slot) (state : ScheduleState) (entry : FragmentRange × Nat) :
    ScheduleState :=
  match takeSlot slot state entry.1 entry.2 with
  | (none, state) => state
  | (some packet, state) => { state with scheduled := state.scheduled ++ [packet] }

/-- Interleave equal-position shards across FEC groups, all data ahead of parity. -/
def scheduleFecDatagrams (dataDatagrams : List Bytes) (parityByGroup : List (List Bytes))
    (groups : List FragmentRange) : List Bytes :=
  (slots.foldl (fun state slot => groups.zipIdx.foldl (scheduleSlot slot) state)
    ⟨dataDatagrams.map some, parityByGroup.map (List.map some), []⟩).scheduled

/-! ## Packetization -/

/-- The datagrams of one access unit in the order in which they are sent, and their number
before scheduling. -/
def datagramsOf (codecs : Codecs) (unit : AccessUnit) (fec : FecProtection) :
    Except VideoPacketError (List Bytes × Nat) := do
  let fragmentCount := fragmentCountOf unit.data
  let dataDatagrams ← (List.range fragmentCount).mapM (dataDatagram unit fragmentCount)
  let groups := fecGroupRanges fragmentCount
  let parityByGroup ← groups.mapM (parityDatagrams codecs unit fragmentCount fec)
  .ok (scheduleFecDatagrams dataDatagrams parityByGroup groups,
    dataDatagrams.length + (parityByGroup.map List.length).sum)

/-- Drop the oldest non-keyframe batch, or else the oldest, when the queue is full. -/
def makePendingRoom (pipeline : SenderPipeline) : SenderPipeline :=
  if pipeline.pending.length = pendingAccessUnitCapacity then
    let dropIndex :=
      (pipeline.pending.findIdx? fun batch => !batch.keyframe).getD 0
    { pipeline with
      pending := pipeline.pending.eraseIdx dropIndex
      stats := { pipeline.stats with
        droppedAccessUnits := min (pipeline.stats.droppedAccessUnits + 1) (2 ^ 64 - 1) } }
  else pipeline

def packetizeIntoPending (codecs : Codecs) (pipeline : SenderPipeline) (data : Bytes)
    (isKeyframe : Bool) (ptsUs encodedAtUs streamEpoch : Nat) (fec : FecProtection) :
    Except SenderError Nat × SenderPipeline :=
  if data = [] then (.error .emptyAccessUnit, pipeline)
  else if maxVideoFragmentsPerAccessUnit < fragmentCountOf data then
    (.error .accessUnitTooLarge, pipeline)
  else if 2 ^ 64 ≤ pipeline.frameId + 1 then (.error .frameIdExhausted, pipeline)
  else
    let pipeline := { pipeline with frameId := pipeline.frameId + 1 }
    let unit : AccessUnit :=
      ⟨data, isKeyframe, ptsUs, encodedAtUs, streamEpoch, pipeline.frameId⟩
    match datagramsOf codecs unit fec with
    | .error error => (.error (.packet error), pipeline)
    | .ok (datagrams, created) =>
        let pipeline := makePendingRoom pipeline
        match VideoDatagramBatch.new datagrams with
        | .error error => (.error (.videoBatch error), pipeline)
        | .ok batch =>
            (.ok created, { pipeline with
              pending := pipeline.pending ++ [batch]
              stats := { pipeline.stats with
                accessUnits := pipeline.stats.accessUnits + 1
                packets := pipeline.stats.packets + created
                bytes := pipeline.stats.bytes + data.length } })

end PicooCamera.Sender
