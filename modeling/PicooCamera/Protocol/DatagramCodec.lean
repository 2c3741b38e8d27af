import PicooCamera.Protocol.VideoPacket

/-!
# The two directions of the video datagram codec

What the encoder writes is read back as it was. What the decoder accepts is
written back as it was, except where the flag byte has a bit that is not one of
the five known flags: there all flags are read as clear.
-/

namespace PicooCamera.Protocol

open PicooCamera.Library

namespace VideoPacketFlags

theorem bits_fromBits {n : Nat} (h : n < 32) :
    ((fromBits n).getD empty).bits = n := by
  interval_cases n <;> rfl

theorem fecParity_fromBits {n : Nat} (h : n < 32) :
    ((fromBits n).getD empty).fecParity = n.testBit 4 := by
  interval_cases n <;> rfl

end VideoPacketFlags

namespace VideoPacket

/-- The flag byte of a datagram. -/
def flagByte (buf : Bytes) : Nat := peekBE 1 buf

theorem encode_ok_size {packet : VideoPacket} {segments : List Bytes} {buf : Bytes}
    (h : encodeDatagramSegments packet.flags packet.streamEpoch packet.frameId packet.ptsUs
      packet.encodedAtUs packet.fragmentIndex packet.fragmentCount segments = .ok buf)
    (hpayload : segments.flatten = packet.payload) :
    videoPacketHeaderSize + packet.payload.length ≤ maxDatagramSize ∧
      buf = packet.wireBytes := by
  have hindex : ¬ packet.fragmentCount ≤ packet.fragmentIndex :=
    Nat.not_le.mpr packet.fragmentIndex_lt
  rw [encodeDatagramSegments, if_neg hindex, hpayload] at h
  by_cases hsize : maxDatagramSize < videoPacketHeaderSize + packet.payload.length
  · rw [if_pos hsize] at h
    cases h
  · rw [if_neg hsize] at h
    cases h
    exact ⟨Nat.le_of_not_lt hsize, rfl⟩

theorem decodeBytes_encoded {packet : VideoPacket} {segments : List Bytes} {buf : Bytes}
    (h : encodeDatagramSegments packet.flags packet.streamEpoch packet.frameId packet.ptsUs
      packet.encodedAtUs packet.fragmentIndex packet.fragmentCount segments = .ok buf)
    (hpayload : segments.flatten = packet.payload) : decodeBytes buf = .ok packet := by
  obtain ⟨hsize, rfl⟩ := encode_ok_size h hpayload
  exact decodeBytes_wireBytes packet hsize

/-- The fields that `decode_bytes` reads, where it accepts. -/
structure Decoded (buf : Bytes) (packet : VideoPacket) : Prop where
  header : videoPacketHeaderSize ≤ buf.length
  size : buf.length ≤ maxDatagramSize
  flags : packet.flags = (VideoPacketFlags.fromBits (flagByte buf)).getD VideoPacketFlags.empty
  streamEpoch : packet.streamEpoch = peekBE 4 (buf.drop 1)
  frameId : packet.frameId = peekBE 8 (buf.drop 5)
  ptsUs : packet.ptsUs = peekBE 8 (buf.drop 13)
  encodedAtUs : packet.encodedAtUs = peekBE 8 (buf.drop 21)
  fragmentIndex : packet.fragmentIndex = peekBE 2 (buf.drop 29)
  fragmentCount : packet.fragmentCount = peekBE 2 (buf.drop 31)
  payload : packet.payload = buf.drop 33

theorem decoded_of_ok {buf : Bytes} {packet : VideoPacket} (h : decodeBytes buf = .ok packet) :
    Decoded buf packet := by
  unfold decodeBytes at h
  by_cases hshort : buf.length < videoPacketHeaderSize
  · rw [if_pos hshort] at h
    cases h
  by_cases hlarge : maxDatagramSize < buf.length
  · rw [if_neg hshort, if_pos hlarge] at h
    cases h
  by_cases hindex : peekBE 2 (buf.drop 29) < peekBE 2 (buf.drop 31)
  · rw [if_neg hshort, if_neg hlarge, dif_pos hindex] at h
    cases h
    exact ⟨Nat.le_of_not_lt hshort, Nat.le_of_not_lt hlarge, rfl, rfl, rfl, rfl, rfl, rfl,
      rfl, rfl⟩
  · rw [if_neg hshort, if_neg hlarge, dif_neg hindex] at h
    cases h

theorem putBE_field {buf : Bytes} {offset w : Nat} (h : offset + w ≤ buf.length) :
    putBE w (peekBE w (buf.drop offset)) ++ buf.drop (offset + w) = buf.drop offset := by
  have hw : w ≤ (buf.drop offset).length := by
    rw [List.length_drop]
    omega
  rw [putBE_peekBE hw, ← List.drop_drop, List.take_append_drop]

theorem wireBytes_of_decoded {buf : Bytes} {packet : VideoPacket} (h : Decoded buf packet) :
    packet.wireBytes = putBE 1 packet.flags.bits ++ buf.drop 1 := by
  have hlength : 33 ≤ buf.length := h.header
  unfold wireBytes encodeHeader
  rw [h.streamEpoch, h.frameId, h.ptsUs, h.encodedAtUs, h.fragmentIndex, h.fragmentCount,
    h.payload]
  simp only [List.append_assoc]
  rw [putBE_field (show 31 + 2 ≤ buf.length by omega),
    putBE_field (show 29 + 2 ≤ buf.length by omega),
    putBE_field (show 21 + 8 ≤ buf.length by omega),
    putBE_field (show 13 + 8 ≤ buf.length by omega),
    putBE_field (show 5 + 8 ≤ buf.length by omega),
    putBE_field (show 1 + 4 ≤ buf.length by omega)]

theorem encode_of_decoded {buf : Bytes} {packet : VideoPacket} (h : Decoded buf packet) :
    packet.encode = .ok packet.wireBytes := by
  apply encode_eq_ok
  have hlength : packet.payload.length = buf.length - 33 := by
    rw [h.payload, List.length_drop]
  have hheader : videoPacketHeaderSize = 33 := rfl
  have hsize := h.size
  have hshort := h.header
  omega

theorem putBE_flagByte {buf : Bytes} (h : videoPacketHeaderSize ≤ buf.length) :
    putBE 1 (flagByte buf) ++ buf.drop 1 = buf := by
  have hone : 0 + 1 ≤ buf.length := by
    have hheader : videoPacketHeaderSize = 33 := rfl
    omega
  simpa [flagByte] using putBE_field hone

/-- The codec loses nothing in either direction, and reads no flag as another one, exactly
on the datagrams whose flag byte has known bits only. -/
theorem codec_faithful_iff (buf : Bytes) :
    (∀ (packet : VideoPacket) (segments : List Bytes), segments.flatten = packet.payload →
      encodeDatagramSegments packet.flags packet.streamEpoch packet.frameId packet.ptsUs
        packet.encodedAtUs packet.fragmentIndex packet.fragmentCount segments = .ok buf →
      decodeBytes buf = .ok packet) ∧
    ∀ packet : VideoPacket, decodeBytes buf = .ok packet →
      ((packet.encode = .ok buf ∧
          packet.flags.fecParity = (flagByte buf).testBit 4) ↔ flagByte buf < 32) := by
  constructor
  · intro packet segments hpayload h
    exact decodeBytes_encoded h hpayload
  · intro packet hok
    have h := decoded_of_ok hok
    rw [encode_of_decoded h, wireBytes_of_decoded h]
    constructor
    · rintro ⟨hencode, -⟩
      have hbytes : putBE 1 packet.flags.bits ++ buf.drop 1 = buf := Except.ok.inj hencode
      have hfield : peekBE 1 (putBE 1 packet.flags.bits ++ buf.drop 1) = packet.flags.bits :=
        peekBE_putBE_append (Nat.lt_trans packet.flags.bits_lt (by decide)) _
      rw [hbytes] at hfield
      calc
        flagByte buf = packet.flags.bits := hfield
        _ < 32 := packet.flags.bits_lt
    · intro hbits
      have hflags : packet.flags.bits = flagByte buf := by
        rw [h.flags]
        exact VideoPacketFlags.bits_fromBits hbits
      constructor
      · rw [hflags, putBE_flagByte h.header]
      · rw [h.flags]
        exact VideoPacketFlags.fecParity_fromBits hbits

/-- A parity datagram whose flag byte also has the unknown bit `0x20`. -/
def unknownFlagDatagram : Bytes :=
  putBE 1 48 ++ putBE 4 1 ++ putBE 8 1 ++ putBE 8 1 ++ putBE 8 1 ++ putBE 2 0 ++ putBE 2 1

/-- It is decoded as the only data fragment of its access unit. -/
theorem unknownFlagDatagram_isData :
    ∃ packet, decodeBytes unknownFlagDatagram = .ok packet ∧
      packet.encode ≠ .ok unknownFlagDatagram ∧
      (flagByte unknownFlagDatagram).testBit 4 = true ∧ packet.flags.fecParity = false :=
  ⟨ofSmall VideoPacketFlags.empty 1 1 1 0 0 [], by rfl, by decide, by decide, by rfl⟩

theorem codec_faithful_iff_sample :
    decodeBytes (ofSmall VideoPacketFlags.empty 1 2 3 0 0 [7]).wireBytes =
        .ok (ofSmall VideoPacketFlags.empty 1 2 3 0 0 [7]) ∧
      (ofSmall VideoPacketFlags.empty 1 2 3 0 0 [7]).encode =
        .ok (ofSmall VideoPacketFlags.empty 1 2 3 0 0 [7]).wireBytes := by
  have hdecode : decodeBytes (ofSmall VideoPacketFlags.empty 1 2 3 0 0 [7]).wireBytes =
      .ok (ofSmall VideoPacketFlags.empty 1 2 3 0 0 [7]) :=
    (codec_faithful_iff _).1 _ [[7]] rfl rfl
  exact ⟨hdecode, (((codec_faithful_iff _).2 _ hdecode).mpr (by decide)).1⟩

end VideoPacket

end PicooCamera.Protocol
