import PicooCamera.Library.BigEndian

/-!
# The PCP video packet

Wire layout of one video datagram: a 33-byte big-endian header and a payload.
A `VideoPacket` carries the bounds of its fixed-width fields and the check
that `decode_bytes` and `encode_datagram` both make on the fragment index.
-/

namespace PicooCamera.Protocol

open PicooCamera.Library

/-- Maximum QUIC datagram size (path MTU safe). -/
def maxDatagramSize : Nat := 1150

def videoPacketHeaderSize : Nat := 33

/-- `parity_index` (u8) and `last_data_shard_len` (u16). -/
def fecParityPrefixSize : Nat := 3

def maxFecFragmentPayload : Nat :=
  maxDatagramSize - videoPacketHeaderSize - fecParityPrefixSize

def maxVideoFragmentsPerAccessUnit : Nat := 1024

theorem maxFecFragmentPayload_eq : maxFecFragmentPayload = 1114 := rfl

structure VideoPacketFlags where
  keyframe : Bool
  startOfAccessUnit : Bool
  endOfAccessUnit : Bool
  discardable : Bool
  fecParity : Bool
  deriving DecidableEq, Repr

namespace VideoPacketFlags

def empty : VideoPacketFlags := ⟨false, false, false, false, false⟩

def bits (flags : VideoPacketFlags) : Nat :=
  flags.keyframe.toNat + 2 * flags.startOfAccessUnit.toNat +
    4 * flags.endOfAccessUnit.toNat + 8 * flags.discardable.toNat +
    16 * flags.fecParity.toNat

/-- `None` when a bit outside the known flags is set. -/
def fromBits (n : Nat) : Option VideoPacketFlags :=
  if n < 32 then
    some ⟨n.testBit 0, n.testBit 1, n.testBit 2, n.testBit 3, n.testBit 4⟩
  else none

theorem bits_lt (flags : VideoPacketFlags) : flags.bits < 32 := by
  rcases flags with ⟨_ | _, _ | _, _ | _, _ | _, _ | _⟩ <;> decide

theorem fromBits_bits (flags : VideoPacketFlags) : fromBits flags.bits = some flags := by
  rcases flags with ⟨_ | _, _ | _, _ | _, _ | _, _ | _⟩ <;> decide

/-- The flags that all datagrams of one access unit have in common
(`KEYFRAME | DISCARDABLE`). -/
def semantic (flags : VideoPacketFlags) : Bool × Bool :=
  (flags.keyframe, flags.discardable)

end VideoPacketFlags

structure VideoPacket where
  flags : VideoPacketFlags
  streamEpoch : Nat
  frameId : Nat
  ptsUs : Nat
  encodedAtUs : Nat
  fragmentIndex : Nat
  fragmentCount : Nat
  payload : Bytes
  streamEpoch_lt : streamEpoch < 256 ^ 4
  frameId_lt : frameId < 256 ^ 8
  ptsUs_lt : ptsUs < 256 ^ 8
  encodedAtUs_lt : encodedAtUs < 256 ^ 8
  fragmentCount_lt : fragmentCount < 256 ^ 2
  fragmentIndex_lt : fragmentIndex < fragmentCount
  deriving DecidableEq, Repr

inductive VideoPacketError where
  | bufferTooShort
  | datagramTooLarge
  | invalidFragmentIndex
  deriving DecidableEq, Repr

namespace VideoPacket

def encodeHeader (flags : VideoPacketFlags)
    (streamEpoch frameId ptsUs encodedAtUs fragmentIndex fragmentCount : Nat) : Bytes :=
  putBE 1 flags.bits ++ (putBE 4 streamEpoch ++ (putBE 8 frameId ++ (putBE 8 ptsUs ++
    (putBE 8 encodedAtUs ++ (putBE 2 fragmentIndex ++ putBE 2 fragmentCount)))))

/-- `encode_datagram_segments`; its checked length sums cannot overflow on lists. -/
def encodeDatagramSegments (flags : VideoPacketFlags)
    (streamEpoch frameId ptsUs encodedAtUs fragmentIndex fragmentCount : Nat)
    (payloadSegments : List Bytes) : Except VideoPacketError Bytes :=
  if fragmentCount ≤ fragmentIndex then
    .error .invalidFragmentIndex
  else if maxDatagramSize < videoPacketHeaderSize + payloadSegments.flatten.length then
    .error .datagramTooLarge
  else
    .ok (encodeHeader flags streamEpoch frameId ptsUs encodedAtUs fragmentIndex
      fragmentCount ++ payloadSegments.flatten)

def encodeDatagram (flags : VideoPacketFlags)
    (streamEpoch frameId ptsUs encodedAtUs fragmentIndex fragmentCount : Nat)
    (payload : Bytes) : Except VideoPacketError Bytes :=
  encodeDatagramSegments flags streamEpoch frameId ptsUs encodedAtUs fragmentIndex
    fragmentCount [payload]

def encode (packet : VideoPacket) : Except VideoPacketError Bytes :=
  encodeDatagram packet.flags packet.streamEpoch packet.frameId packet.ptsUs
    packet.encodedAtUs packet.fragmentIndex packet.fragmentCount packet.payload

def decodeBytes (buf : Bytes) : Except VideoPacketError VideoPacket :=
  if buf.length < videoPacketHeaderSize then
    .error .bufferTooShort
  else if maxDatagramSize < buf.length then
    .error .datagramTooLarge
  else if h : peekBE 2 (buf.drop 29) < peekBE 2 (buf.drop 31) then
    .ok {
      flags := (VideoPacketFlags.fromBits (peekBE 1 buf)).getD VideoPacketFlags.empty
      streamEpoch := peekBE 4 (buf.drop 1)
      frameId := peekBE 8 (buf.drop 5)
      ptsUs := peekBE 8 (buf.drop 13)
      encodedAtUs := peekBE 8 (buf.drop 21)
      fragmentIndex := peekBE 2 (buf.drop 29)
      fragmentCount := peekBE 2 (buf.drop 31)
      payload := buf.drop 33
      streamEpoch_lt := peekBE_lt 4 _
      frameId_lt := peekBE_lt 8 _
      ptsUs_lt := peekBE_lt 8 _
      encodedAtUs_lt := peekBE_lt 8 _
      fragmentCount_lt := peekBE_lt 2 _
      fragmentIndex_lt := h }
  else
    .error .invalidFragmentIndex

/-- A packet of one-byte fields: fragment `fragmentIndex`, with `fragmentsAfter` more to
come. -/
def ofSmall (flags : VideoPacketFlags) (streamEpoch frameId ptsUs fragmentIndex
    fragmentsAfter : UInt8) (payload : Bytes) : VideoPacket where
  flags := flags
  streamEpoch := streamEpoch.toNat
  frameId := frameId.toNat
  ptsUs := ptsUs.toNat
  encodedAtUs := ptsUs.toNat
  fragmentIndex := fragmentIndex.toNat
  fragmentCount := fragmentIndex.toNat + fragmentsAfter.toNat + 1
  payload := payload
  streamEpoch_lt := Nat.lt_trans streamEpoch.toNat_lt (by decide)
  frameId_lt := Nat.lt_trans frameId.toNat_lt (by decide)
  ptsUs_lt := Nat.lt_trans ptsUs.toNat_lt (by decide)
  encodedAtUs_lt := Nat.lt_trans ptsUs.toNat_lt (by decide)
  fragmentCount_lt := by
    have hindex := fragmentIndex.toNat_lt
    have hafter := fragmentsAfter.toNat_lt
    omega
  fragmentIndex_lt := by omega

theorem fragmentIndex_lt_wire (packet : VideoPacket) : packet.fragmentIndex < 256 ^ 2 :=
  Nat.lt_trans packet.fragmentIndex_lt packet.fragmentCount_lt

/-! ## Round trip -/

/-- The bytes that `encode_datagram_segments` writes for the fields of `packet`. -/
def wireBytes (packet : VideoPacket) : Bytes :=
  encodeHeader packet.flags packet.streamEpoch packet.frameId packet.ptsUs
    packet.encodedAtUs packet.fragmentIndex packet.fragmentCount ++ packet.payload

@[simp] theorem length_encodeHeader (flags : VideoPacketFlags) (e f p t i c : Nat) :
    (encodeHeader flags e f p t i c).length = videoPacketHeaderSize := by
  simp [encodeHeader, videoPacketHeaderSize]

@[simp] theorem length_wireBytes (packet : VideoPacket) :
    packet.wireBytes.length = videoPacketHeaderSize + packet.payload.length := by
  simp [wireBytes]

theorem encode_eq_ok (packet : VideoPacket)
    (hsize : videoPacketHeaderSize + packet.payload.length ≤ maxDatagramSize) :
    packet.encode = .ok packet.wireBytes := by
  have hindex : ¬ packet.fragmentCount ≤ packet.fragmentIndex :=
    Nat.not_le.mpr packet.fragmentIndex_lt
  have hflat : [packet.payload].flatten = packet.payload := by simp
  rw [encode, encodeDatagram, encodeDatagramSegments, if_neg hindex, hflat,
    if_neg (Nat.not_lt.mpr hsize), wireBytes]

theorem decodeBytes_wireBytes (packet : VideoPacket)
    (hsize : videoPacketHeaderSize + packet.payload.length ≤ maxDatagramSize) :
    decodeBytes packet.wireBytes = .ok packet := by
  have hflags : packet.flags.bits < 256 ^ 1 :=
    Nat.lt_trans packet.flags.bits_lt (by decide)
  have d1 : packet.wireBytes.drop 1 =
      putBE 4 packet.streamEpoch ++ (putBE 8 packet.frameId ++ (putBE 8 packet.ptsUs ++
        (putBE 8 packet.encodedAtUs ++ (putBE 2 packet.fragmentIndex ++
          (putBE 2 packet.fragmentCount ++ packet.payload))))) := by
    simp only [wireBytes, encodeHeader, List.append_assoc]
    exact drop_putBE_append 1 _ _
  have d5 : packet.wireBytes.drop 5 =
      putBE 8 packet.frameId ++ (putBE 8 packet.ptsUs ++
        (putBE 8 packet.encodedAtUs ++ (putBE 2 packet.fragmentIndex ++
          (putBE 2 packet.fragmentCount ++ packet.payload)))) := by
    rw [show 5 = 1 + 4 from rfl, ← List.drop_drop, d1]
    exact drop_putBE_append 4 _ _
  have d13 : packet.wireBytes.drop 13 =
      putBE 8 packet.ptsUs ++ (putBE 8 packet.encodedAtUs ++
        (putBE 2 packet.fragmentIndex ++ (putBE 2 packet.fragmentCount ++
          packet.payload))) := by
    rw [show 13 = 5 + 8 from rfl, ← List.drop_drop, d5]
    exact drop_putBE_append 8 _ _
  have d21 : packet.wireBytes.drop 21 =
      putBE 8 packet.encodedAtUs ++ (putBE 2 packet.fragmentIndex ++
        (putBE 2 packet.fragmentCount ++ packet.payload)) := by
    rw [show 21 = 13 + 8 from rfl, ← List.drop_drop, d13]
    exact drop_putBE_append 8 _ _
  have d29 : packet.wireBytes.drop 29 =
      putBE 2 packet.fragmentIndex ++ (putBE 2 packet.fragmentCount ++
        packet.payload) := by
    rw [show 29 = 21 + 8 from rfl, ← List.drop_drop, d21]
    exact drop_putBE_append 8 _ _
  have d31 : packet.wireBytes.drop 31 =
      putBE 2 packet.fragmentCount ++ packet.payload := by
    rw [show 31 = 29 + 2 from rfl, ← List.drop_drop, d29]
    exact drop_putBE_append 2 _ _
  have d33 : packet.wireBytes.drop 33 = packet.payload := by
    rw [show 33 = 31 + 2 from rfl, ← List.drop_drop, d31]
    exact drop_putBE_append 2 _ _
  have r0 : peekBE 1 packet.wireBytes = packet.flags.bits := by
    simp only [wireBytes, encodeHeader, List.append_assoc]
    exact peekBE_putBE_append hflags _
  have r1 : peekBE 4 (packet.wireBytes.drop 1) = packet.streamEpoch := by
    rw [d1, peekBE_putBE_append packet.streamEpoch_lt]
  have r5 : peekBE 8 (packet.wireBytes.drop 5) = packet.frameId := by
    rw [d5, peekBE_putBE_append packet.frameId_lt]
  have r13 : peekBE 8 (packet.wireBytes.drop 13) = packet.ptsUs := by
    rw [d13, peekBE_putBE_append packet.ptsUs_lt]
  have r21 : peekBE 8 (packet.wireBytes.drop 21) = packet.encodedAtUs := by
    rw [d21, peekBE_putBE_append packet.encodedAtUs_lt]
  have r29 : peekBE 2 (packet.wireBytes.drop 29) = packet.fragmentIndex := by
    rw [d29, peekBE_putBE_append packet.fragmentIndex_lt_wire]
  have r31 : peekBE 2 (packet.wireBytes.drop 31) = packet.fragmentCount := by
    rw [d31, peekBE_putBE_append packet.fragmentCount_lt]
  have hindex : peekBE 2 (packet.wireBytes.drop 29) <
      peekBE 2 (packet.wireBytes.drop 31) := by
    rw [r29, r31]
    exact packet.fragmentIndex_lt
  rw [decodeBytes, if_neg (by rw [length_wireBytes]; omega),
    if_neg (by rw [length_wireBytes]; omega), dif_pos hindex]
  congr 1
  simp only [r0, r1, r5, r13, r21, r29, r31, d33, VideoPacketFlags.fromBits_bits,
    Option.getD_some]

end VideoPacket

end PicooCamera.Protocol
