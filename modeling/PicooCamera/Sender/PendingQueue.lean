import PicooCamera.Sender.Shards

/-!
# The pending queue of the packetizer

The epoch and the keyframe flag of an access unit are on every datagram of its
batch. A full queue loses its oldest delta, or its oldest batch where there are
only keyframes.
-/

namespace PicooCamera.Sender

open PicooCamera.Library PicooCamera.Protocol PicooCamera.Transport

/-- The epoch field of a datagram. -/
def streamEpochOf (datagram : Bytes) : Nat := peekBE 4 (datagram.drop 1)

/-- A batch of one access unit of the given kind and epoch. -/
structure Carries (batch : VideoDatagramBatch) (isKeyframe : Bool) (streamEpoch : Nat) :
    Prop where
  keyframe : batch.keyframe = isKeyframe
  epoch : ∀ datagram ∈ batch.datagrams, streamEpochOf datagram = streamEpoch
  nonempty : batch.datagrams ≠ []

/-! ## Datagrams of an access unit -/

/-- The datagram begins with a header of the access unit. -/
def HasHeader (unit : AccessUnit) (datagram : Bytes) : Prop :=
  ∃ (flags : VideoPacketFlags) (index count : Nat) (payload : Bytes),
    flags.keyframe = unit.isKeyframe ∧
      datagram = VideoPacket.encodeHeader flags unit.streamEpoch unit.frameId unit.ptsUs
        unit.encodedAtUs index count ++ payload

theorem HasHeader.streamEpoch {unit : AccessUnit} {datagram : Bytes}
    (h : HasHeader unit datagram) (hlt : unit.streamEpoch < 256 ^ 4) :
    streamEpochOf datagram = unit.streamEpoch := by
  obtain ⟨flags, index, count, payload, _, rfl⟩ := h
  unfold streamEpochOf VideoPacket.encodeHeader
  simp only [List.append_assoc]
  rw [drop_putBE_append, peekBE_putBE_append hlt]

theorem HasHeader.flags {unit : AccessUnit} {datagram : Bytes} (h : HasHeader unit datagram) :
    ((VideoPacketFlags.fromBits (peekBE 1 datagram)).getD VideoPacketFlags.empty).keyframe =
      unit.isKeyframe := by
  obtain ⟨flags, index, count, payload, hkeyframe, rfl⟩ := h
  have hbits : flags.bits < 256 ^ 1 := Nat.lt_trans flags.bits_lt (by decide)
  unfold VideoPacket.encodeHeader
  simp only [List.append_assoc]
  rw [peekBE_putBE_append hbits, VideoPacketFlags.fromBits_bits, Option.getD_some, hkeyframe]

theorem hasHeader_segments {unit : AccessUnit} {flags : VideoPacketFlags} {index count : Nat}
    {segments : List Bytes} {datagram : Bytes} (hkeyframe : flags.keyframe = unit.isKeyframe)
    (h : VideoPacket.encodeDatagramSegments flags unit.streamEpoch unit.frameId unit.ptsUs
      unit.encodedAtUs index count segments = .ok datagram) : HasHeader unit datagram := by
  unfold VideoPacket.encodeDatagramSegments at h
  split at h
  · cases h
  · split at h
    · cases h
    · exact ⟨flags, index, count, _, hkeyframe, (Except.ok.inj h).symm⟩

theorem mem_of_mapM_ok {α β ε : Type} {f : α → Except ε β} {P : β → Prop} {items : List α}
    {results : List β} (hf : ∀ item result, f item = .ok result → P result)
    (h : items.mapM f = .ok results) : ∀ result ∈ results, P result := by
  intro result hmem
  obtain ⟨item, _, hitem⟩ := forall₂_right (forall₂_mapM h) hmem
  exact hf item result hitem

theorem hasHeader_parityDatagrams {codecs : Codecs} {unit : AccessUnit} {fragmentCount : Nat}
    {fec : FecProtection} {group : FragmentRange} {datagrams : List Bytes}
    (h : parityDatagrams codecs unit fragmentCount fec group = .ok datagrams) :
    ∀ datagram ∈ datagrams, HasHeader unit datagram := by
  unfold parityDatagrams at h
  split at h
  · cases h
    exact fun _ hmem => absurd hmem List.not_mem_nil
  · split at h
    · cases h
      exact fun _ hmem => absurd hmem List.not_mem_nil
    · exact mem_of_mapM_ok (fun _ _ hone => hasHeader_segments rfl hone) h

theorem hasHeader_datagramsOf {codecs : Codecs} {unit : AccessUnit} {fec : FecProtection}
    {datagrams : List Bytes} {created : Nat}
    (h : datagramsOf codecs unit fec = .ok (datagrams, created)) :
    ∀ datagram ∈ datagrams, HasHeader unit datagram := by
  unfold datagramsOf at h
  dsimp only at h
  cases hdata : (List.range (fragmentCountOf unit.data)).mapM
      (dataDatagram unit (fragmentCountOf unit.data)) with
  | error error =>
      rw [hdata] at h
      cases h
  | ok dataDatagrams =>
      cases hparity : (fecGroupRanges (fragmentCountOf unit.data)).mapM
          (parityDatagrams codecs unit (fragmentCountOf unit.data) fec) with
      | error error =>
          simp only [hdata, hparity] at h
          cases h
      | ok parityByGroup =>
          simp only [hdata, hparity] at h
          cases h
          apply scheduleFecDatagrams_all
          · exact mem_of_mapM_ok (fun _ _ hone => hasHeader_segments rfl hone) hdata
          · exact mem_of_mapM_ok (fun _ _ hgroup => hasHeader_parityDatagrams hgroup) hparity

theorem carries_new {unit : AccessUnit} {datagrams : List Bytes} {batch : VideoDatagramBatch}
    (hlt : unit.streamEpoch < 256 ^ 4)
    (hheader : ∀ datagram ∈ datagrams, HasHeader unit datagram)
    (h : VideoDatagramBatch.new datagrams = .ok batch) :
    Carries batch unit.isKeyframe unit.streamEpoch := by
  unfold VideoDatagramBatch.new at h
  split at h
  · cases h
  next first rest =>
    split at h
    · cases h
    · split at h
      · cases h
      next packet hdecode =>
        cases h
        refine ⟨?_, fun datagram hmem => (hheader datagram hmem).streamEpoch hlt,
          List.cons_ne_nil _ _⟩
        have hfirst := (hheader first List.mem_cons_self).flags
        unfold VideoPacket.decodeBytes at hdecode
        split at hdecode
        · cases hdecode
        · split at hdecode
          · cases hdecode
          · split at hdecode
            · cases hdecode
              exact hfirst
            · cases hdecode

/-! ## Room in the queue -/

def dropIndex (pending : List VideoDatagramBatch) : Nat :=
  (pending.findIdx? fun batch => !batch.keyframe).getD 0

def pendingRoom (pending : List VideoDatagramBatch) : List VideoDatagramBatch :=
  if pending.length = pendingAccessUnitCapacity then pending.eraseIdx (dropIndex pending)
  else pending

theorem makePendingRoom_pending (pipeline : SenderPipeline) :
    (makePendingRoom pipeline).pending = pendingRoom pipeline.pending := by
  unfold makePendingRoom pendingRoom
  split <;> rfl

theorem mem_of_mem_pendingRoom {pending : List VideoDatagramBatch} {batch : VideoDatagramBatch}
    (h : batch ∈ pendingRoom pending) : batch ∈ pending := by
  unfold pendingRoom at h
  split at h
  · exact List.mem_of_mem_eraseIdx h
  · exact h

theorem packetizeIntoPending_cases (codecs : Codecs) (pipeline : SenderPipeline) (data : Bytes)
    (isKeyframe : Bool) (ptsUs encodedAtUs : Nat) {streamEpoch : Nat} (fec : FecProtection)
    (hlt : streamEpoch < 256 ^ 4) :
    let packed := packetizeIntoPending codecs pipeline data isKeyframe ptsUs encodedAtUs
      streamEpoch fec
    (∃ error, packed.1 = .error error ∧
      (packed.2.pending = pipeline.pending ∨ packed.2.pending = pendingRoom pipeline.pending)) ∨
      ∃ created batch, packed.1 = .ok created ∧
        packed.2.pending = pendingRoom pipeline.pending ++ [batch] ∧
          Carries batch isKeyframe streamEpoch := by
  dsimp only
  unfold packetizeIntoPending
  split
  · exact Or.inl ⟨_, rfl, Or.inl rfl⟩
  split
  · exact Or.inl ⟨_, rfl, Or.inl rfl⟩
  split
  · exact Or.inl ⟨_, rfl, Or.inl rfl⟩
  dsimp only
  split
  · exact Or.inl ⟨_, rfl, Or.inl rfl⟩
  next datagrams created hdatagrams =>
    have hroom := makePendingRoom_pending { pipeline with frameId := pipeline.frameId + 1 }
    split
    · exact Or.inl ⟨_, rfl, Or.inr hroom⟩
    next batch hbatch =>
      refine Or.inr ⟨created, batch, rfl, ?_, ?_⟩
      · dsimp only
        rw [hroom]
      · exact carries_new hlt (hasHeader_datagramsOf hdatagrams) hbatch

end PicooCamera.Sender
