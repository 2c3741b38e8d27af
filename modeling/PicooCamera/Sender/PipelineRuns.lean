import PicooCamera.Library.TransitionSystem
import PicooCamera.Protocol.ReedSolomon
import PicooCamera.Sender.PendingQueue

/-!
# Runs of the packetizer

`SenderPipeline` over any sequence of offered access units, with the queue
taken or cleared in between. The history keeps the access units accepted so
far: the queue is made of whole access units of that history, in its order.
-/

namespace PicooCamera.Sender

open PicooCamera.Library PicooCamera.Protocol PicooCamera.Transport

/-! ## Offers -/

/-- The arguments of one ingest call, within the widths of their types. -/
structure Offer where
  data : Bytes
  isKeyframe : Bool
  ptsUs : Nat
  encodedAtUs : Nat
  streamEpoch : Nat
  fec : FecProtection
  ptsUs_lt : ptsUs < 256 ^ 8
  encodedAtUs_lt : encodedAtUs < 256 ^ 8
  streamEpoch_lt : streamEpoch < 256 ^ 4

namespace Offer

def unit (offer : Offer) (frameId : Nat) : AccessUnit :=
  ⟨offer.data, offer.isKeyframe, offer.ptsUs, offer.encodedAtUs, offer.streamEpoch, frameId⟩

/-- The offer is empty, too large, or comes after the last frame id. -/
def Refused (offer : Offer) (frameId : Nat) : Prop :=
  offer.data = [] ∨ maxVideoFragmentsPerAccessUnit < fragmentCountOf offer.data ∨
    2 ^ 64 ≤ frameId + 1

theorem unit_valid {offer : Offer} {frameId : Nat} (h : ¬ offer.Refused frameId) :
    (offer.unit (frameId + 1)).Valid := by
  unfold Refused at h
  rw [not_or, not_or] at h
  exact ⟨h.1, Nat.not_lt.mp h.2.1, offer.streamEpoch_lt, Nat.not_le.mp h.2.2, offer.ptsUs_lt,
    offer.encodedAtUs_lt⟩

end Offer

/-- `ingest_timed_access_unit`. -/
def ingestTimedAccessUnit (codecs : Codecs) (pipeline : SenderPipeline) (offer : Offer) :
    Except SenderError Nat × SenderPipeline :=
  packetizeIntoPending codecs pipeline offer.data offer.isKeyframe offer.ptsUs
    offer.encodedAtUs offer.streamEpoch offer.fec

/-- An access unit that was accepted, with its protection. -/
structure AcceptedUnit where
  unit : AccessUnit
  fec : FecProtection
  deriving DecidableEq, Repr

/-- The batch holds all the datagrams of an access unit. -/
structure AcceptedUnit.IsBatch (codecs : Codecs) (accepted : AcceptedUnit)
    (batch : VideoDatagramBatch) : Prop where
  datagrams : ∃ created,
    datagramsOf codecs accepted.unit accepted.fec = .ok (batch.datagrams, created)
  keyframe : batch.keyframe = accepted.unit.isKeyframe

/-- What one offer does. -/
inductive IngestOutcome (codecs : Codecs) (pipeline : SenderPipeline) (offer : Offer) :
    Except SenderError Nat × SenderPipeline → Prop
  | rejected (error : SenderError) : offer.Refused pipeline.frameId →
      error ∈ [.emptyAccessUnit, .accessUnitTooLarge, .frameIdExhausted] →
        IngestOutcome codecs pipeline offer (.error error, pipeline)
  | accepted (created : Nat) (batch : VideoDatagramBatch) (pipeline' : SenderPipeline) :
      ¬ offer.Refused pipeline.frameId →
        AcceptedUnit.IsBatch codecs ⟨offer.unit (pipeline.frameId + 1), offer.fec⟩ batch →
          pipeline'.frameId = pipeline.frameId + 1 →
            pipeline'.pending = pendingRoom pipeline.pending ++ [batch] →
              IngestOutcome codecs pipeline offer (.ok created, pipeline')

theorem ingestTimedAccessUnit_outcome {codecs : Codecs} (hlawful : codecs.Lawful)
    (pipeline : SenderPipeline) (offer : Offer) :
    IngestOutcome codecs pipeline offer (ingestTimedAccessUnit codecs pipeline offer) := by
  unfold ingestTimedAccessUnit packetizeIntoPending
  by_cases hempty : offer.data = []
  · rw [if_pos hempty]
    exact .rejected _ (Or.inl hempty) (by simp)
  rw [if_neg hempty]
  by_cases hlarge : maxVideoFragmentsPerAccessUnit < fragmentCountOf offer.data
  · rw [if_pos hlarge]
    exact .rejected _ (Or.inr (Or.inl hlarge)) (by simp)
  rw [if_neg hlarge]
  by_cases hframe : 2 ^ 64 ≤ pipeline.frameId + 1
  · rw [if_pos hframe]
    exact .rejected _ (Or.inr (Or.inr hframe)) (by simp)
  rw [if_neg hframe]
  have haccepted : ¬ offer.Refused pipeline.frameId := by
    unfold Offer.Refused
    rw [not_or, not_or]
    exact ⟨hempty, hlarge, hframe⟩
  have hvalid := Offer.unit_valid haccepted
  obtain ⟨datagrams, created, hdatagrams, hne, hmade⟩ :=
    datagramsOf_ok hlawful hvalid offer.fec
  obtain ⟨batch, hbatch, rfl, hkeyframe⟩ := batch_new_ok hlawful hvalid hne hmade
  have hroom := makePendingRoom_pending { pipeline with frameId := pipeline.frameId + 1 }
  have hunit : AccessUnit.mk offer.data offer.isKeyframe offer.ptsUs offer.encodedAtUs
      offer.streamEpoch (pipeline.frameId + 1) = offer.unit (pipeline.frameId + 1) := rfl
  dsimp only
  rw [hunit, hdatagrams]
  dsimp only
  rw [hbatch]
  dsimp only
  refine .accepted created batch _ haccepted ⟨⟨created, hdatagrams⟩, hkeyframe⟩ ?_ ?_
  · unfold makePendingRoom
    split <;> rfl
  · dsimp only
    rw [hroom]

/-! ## Eviction -/

/-- The batch that a full queue gives up: the oldest delta, or the oldest batch of all where
there are only keyframes. -/
structure Evicted (pending : List VideoDatagramBatch) (victim : VideoDatagramBatch)
    (remaining : List VideoDatagramBatch) : Prop where
  whole : ∃ older newer, pending = older ++ victim :: newer ∧ remaining = older ++ newer ∧
    ∀ batch ∈ older, batch.keyframe = true
  oldest : victim.keyframe = false ∨
    (∀ batch ∈ pending, batch.keyframe = true) ∧ pending.head? = some victim

theorem pendingRoom_evicted {pending : List VideoDatagramBatch}
    (h : pending.length = pendingAccessUnitCapacity) :
    ∃ victim, Evicted pending victim (pendingRoom pending) := by
  unfold pendingRoom dropIndex
  rw [if_pos h]
  cases hfind : pending.findIdx? fun batch => !batch.keyframe with
  | none =>
      obtain ⟨victim, newer, rfl⟩ : ∃ victim newer, pending = victim :: newer :=
        List.exists_cons_of_length_pos (by rw [h]; decide)
      rw [List.findIdx?_eq_none_iff] at hfind
      refine ⟨victim, ⟨[], newer, rfl, rfl, fun _ hmem => absurd hmem List.not_mem_nil⟩,
        Or.inr ⟨fun batch hmem => ?_, rfl⟩⟩
      have hkeyframe := hfind batch hmem
      rwa [Bool.not_eq_false'] at hkeyframe
  | some index =>
      rw [List.findIdx?_eq_some_iff_getElem] at hfind
      obtain ⟨hlt, hdelta, holder⟩ := hfind
      refine ⟨pending[index], ⟨pending.take index, pending.drop (index + 1), ?_, ?_, ?_⟩,
        Or.inl ?_⟩
      · rw [List.getElem_cons_drop, List.take_append_drop]
      · rw [Option.getD_some, List.eraseIdx_eq_take_drop_succ]
      · intro batch hmem
        obtain ⟨other, hother, rfl⟩ := List.mem_take_iff_getElem.mp hmem
        have hkeyframe := holder other (by omega)
        simpa using hkeyframe
      · simpa using hdelta

theorem pendingRoom_of_lt {pending : List VideoDatagramBatch}
    (h : pending.length < pendingAccessUnitCapacity) : pendingRoom pending = pending := by
  unfold pendingRoom
  rw [if_neg (Nat.ne_of_lt h)]

theorem length_pendingRoom_lt {pending : List VideoDatagramBatch}
    (h : pending.length ≤ pendingAccessUnitCapacity) :
    (pendingRoom pending).length < pendingAccessUnitCapacity := by
  by_cases hfull : pending.length = pendingAccessUnitCapacity
  · obtain ⟨victim, hevicted⟩ := pendingRoom_evicted hfull
    obtain ⟨older, newer, hpending, hremaining, _⟩ := hevicted.whole
    rw [hremaining, List.length_append]
    rw [hpending, List.length_append, List.length_cons] at hfull
    omega
  · have hlt := Nat.lt_of_le_of_ne h hfull
    rwa [pendingRoom_of_lt hlt]

/-! ## Runs -/

inductive PipelineOp where
  | ingest (offer : Offer)
  | takePendingBatches
  | clearPendingPackets

/-- The pipeline with the access units that it has accepted, in order. -/
structure PipelineHistory where
  pipeline : SenderPipeline
  accepted : List AcceptedUnit
  deriving DecidableEq, Repr

namespace PipelineHistory

def start : PipelineHistory := ⟨SenderPipeline.default, []⟩

/-- Record an ingest call; an accepted access unit has the frame id of the pipeline after
the call. -/
def ingested (s : PipelineHistory) (offer : Offer)
    (packed : Except SenderError Nat × SenderPipeline) : PipelineHistory :=
  match packed.1 with
  | .error _ => ⟨packed.2, s.accepted⟩
  | .ok _ => ⟨packed.2, s.accepted ++ [⟨offer.unit packed.2.frameId, offer.fec⟩]⟩

def step (codecs : Codecs) (s : PipelineHistory) : PipelineOp → PipelineHistory
  | .ingest offer => s.ingested offer (ingestTimedAccessUnit codecs s.pipeline offer)
  | .takePendingBatches => ⟨{ s.pipeline with pending := [] }, s.accepted⟩
  | .clearPendingPackets => ⟨{ s.pipeline with pending := [] }, s.accepted⟩

def system (codecs : Codecs) : TransitionSystem PipelineHistory PipelineOp :=
  TransitionSystem.ofFunction start (step codecs)

end PipelineHistory

/-- The queue holds, in order, some of the accepted access units, each one whole. -/
def HoldsWhole (codecs : Codecs) (kept : List AcceptedUnit)
    (pending : List VideoDatagramBatch) : Prop :=
  List.Forall₂ (AcceptedUnit.IsBatch codecs) kept pending

theorem forall₂_eraseIdx {α β : Type} {R : α → β → Prop} {as : List α} {bs : List β}
    (h : List.Forall₂ R as bs) (index : Nat) :
    List.Forall₂ R (as.eraseIdx index) (bs.eraseIdx index) := by
  induction h generalizing index with
  | nil => exact List.Forall₂.nil
  | cons hhead htail ih =>
      cases index with
      | zero => exact htail
      | succ index => exact List.Forall₂.cons hhead (ih index)

theorem HoldsWhole.pendingRoom {codecs : Codecs} {kept : List AcceptedUnit}
    {pending : List VideoDatagramBatch} (h : HoldsWhole codecs kept pending) :
    ∃ kept', kept'.Sublist kept ∧ HoldsWhole codecs kept' (pendingRoom pending) := by
  unfold Sender.pendingRoom
  split
  · exact ⟨_, List.eraseIdx_sublist _ _, forall₂_eraseIdx h _⟩
  · exact ⟨kept, List.Sublist.refl kept, h⟩

/-- What every run keeps. -/
structure PipelineInvariant (codecs : Codecs) (s : PipelineHistory) : Prop where
  valid : ∀ accepted ∈ s.accepted, accepted.unit.Valid
  ids : (s.accepted.map fun accepted => accepted.unit.frameId) =
    List.range' 1 s.pipeline.frameId
  bounded : s.pipeline.pending.length ≤ pendingAccessUnitCapacity
  whole : ∃ kept, kept.Sublist s.accepted ∧ HoldsWhole codecs kept s.pipeline.pending

namespace PipelineInvariant

variable {codecs : Codecs} {s : PipelineHistory}

theorem start (codecs : Codecs) : PipelineInvariant codecs PipelineHistory.start where
  valid := fun _ hmem => absurd hmem List.not_mem_nil
  ids := rfl
  bounded := Nat.zero_le _
  whole := ⟨[], List.Sublist.refl [], List.Forall₂.nil⟩

theorem emptied (h : PipelineInvariant codecs s) :
    PipelineInvariant codecs ⟨{ s.pipeline with pending := [] }, s.accepted⟩ where
  valid := h.valid
  ids := h.ids
  bounded := Nat.zero_le _
  whole := ⟨[], List.nil_sublist _, List.Forall₂.nil⟩

theorem ingested (h : PipelineInvariant codecs s) {offer : Offer}
    {packed : Except SenderError Nat × SenderPipeline}
    (hpacked : IngestOutcome codecs s.pipeline offer packed) :
    PipelineInvariant codecs (s.ingested offer packed) := by
  cases hpacked with
  | rejected error _ _ => exact h
  | accepted created batch pipeline' haccepted hbatch hframe hpending =>
      obtain ⟨kept, hsublist, hwhole⟩ := h.whole
      obtain ⟨kept', hsublist', hwhole'⟩ := hwhole.pendingRoom
      have hlt := length_pendingRoom_lt h.bounded
      refine ⟨?_, ?_, ?_, ?_⟩
      · intro accepted hmem
        rcases List.mem_append.mp hmem with hold | hnew
        · exact h.valid accepted hold
        · rw [List.mem_singleton.mp hnew]
          dsimp only
          rw [hframe]
          exact Offer.unit_valid haccepted
      · dsimp only [PipelineHistory.ingested]
        rw [List.map_append, h.ids, hframe, List.range'_concat, Nat.one_mul, Nat.add_comm 1]
        rfl
      · dsimp only [PipelineHistory.ingested]
        rw [hpending, List.length_append, List.length_singleton]
        omega
      · refine ⟨kept' ++ [⟨offer.unit pipeline'.frameId, offer.fec⟩],
          (hsublist'.trans hsublist).append (List.Sublist.refl _), ?_⟩
        dsimp only [PipelineHistory.ingested]
        rw [hpending, hframe]
        exact List.rel_append hwhole' (List.Forall₂.cons hbatch List.Forall₂.nil)

theorem step (hlawful : codecs.Lawful) (h : PipelineInvariant codecs s) (op : PipelineOp) :
    PipelineInvariant codecs (s.step codecs op) := by
  cases op with
  | ingest offer => exact h.ingested (ingestTimedAccessUnit_outcome hlawful s.pipeline offer)
  | takePendingBatches => exact h.emptied
  | clearPendingPackets => exact h.emptied

theorem reachable (hlawful : codecs.Lawful)
    (hs : (PipelineHistory.system codecs).Reachable s) : PipelineInvariant codecs s := by
  refine hs.invariant ?_ ?_
  · intro t ht
    have hstart : t = PipelineHistory.start := ht
    rw [hstart]
    exact start codecs
  · intro t op t' ht hstep
    have hnext : t' = t.step codecs op := hstep
    rw [hnext]
    exact ht.step hlawful op

end PipelineInvariant

/-! ## The datagrams in the queue -/

/-- The frame id field of a datagram. -/
def frameIdOf (datagram : Bytes) : Nat := peekBE 8 (datagram.drop 5)

theorem HasHeader.frameIdOf {unit : AccessUnit} {datagram : Bytes}
    (h : HasHeader unit datagram) (hlt : unit.frameId < 256 ^ 8) :
    frameIdOf datagram = unit.frameId := by
  obtain ⟨flags, index, count, payload, _, rfl⟩ := h
  unfold Sender.frameIdOf VideoPacket.encodeHeader
  simp only [List.append_assoc]
  have hdrop : ∀ rest, (putBE 1 flags.bits ++ (putBE 4 unit.streamEpoch ++ rest)).drop 5 =
      rest := by
    intro rest
    rw [← List.append_assoc]
    exact List.drop_left' (by rw [List.length_append, length_putBE, length_putBE])
  rw [hdrop, peekBE_putBE_append hlt]

theorem datagramsOf_fits {codecs : Codecs} (hlawful : codecs.Lawful) {unit : AccessUnit}
    (hvalid : unit.Valid) {fec : FecProtection} {datagrams : List Bytes} {created : Nat}
    (h : datagramsOf codecs unit fec = .ok (datagrams, created)) :
    ∀ datagram ∈ datagrams,
      datagram.length ≤ maxDatagramSize ∧ frameIdOf datagram = unit.frameId := by
  obtain ⟨datagrams', created', hok, _, hmade⟩ := datagramsOf_ok hlawful hvalid fec
  rw [hok] at h
  cases h
  intro datagram hmem
  obtain ⟨id, hsent, rfl⟩ := hmade datagram hmem
  exact ⟨ShardId.Sent.length_datagram_le hlawful hsent,
    (hasHeader_datagramsOf hok _ hmem).frameIdOf hvalid.frameId_lt⟩

/-- An access unit is in the queue with all its datagrams or with none of them. -/
structure QueuedWhole (codecs : Codecs) (s : PipelineHistory) (kept : List AcceptedUnit) :
    Prop where
  inOrder : kept.Sublist s.accepted
  batches : HoldsWhole codecs kept s.pipeline.pending
  noRemnant : ∀ accepted ∈ s.accepted, accepted ∉ kept →
    ∀ batch ∈ s.pipeline.pending, ∀ datagram ∈ batch.datagrams,
      frameIdOf datagram ≠ accepted.unit.frameId

/-- What holds of the packetizer after any sequence of calls, and of the next call. -/
structure PipelineContract (codecs : Codecs) (s : PipelineHistory) : Prop where
  /-- The accepted access units are numbered from one on, without a gap. -/
  ids : (s.accepted.map fun accepted => accepted.unit.frameId) =
    List.range' 1 s.pipeline.frameId
  /-- The datagrams of an accepted access unit fit the limit, sent or not. -/
  fits : ∀ accepted ∈ s.accepted, ∃ datagrams created,
    datagramsOf codecs accepted.unit accepted.fec = .ok (datagrams, created) ∧
      ∀ datagram ∈ datagrams, datagram.length ≤ 1150
  bounded : s.pipeline.pending.length ≤ 3
  whole : ∃ kept, QueuedWhole codecs s kept
  next : ∀ offer, IngestOutcome codecs s.pipeline offer
    (ingestTimedAccessUnit codecs s.pipeline offer)
  /-- Making room removes one batch from a full queue, and none from another. -/
  room : (s.pipeline.pending.length = 3 ∧
      ∃ victim, Evicted s.pipeline.pending victim (pendingRoom s.pipeline.pending)) ∨
    (s.pipeline.pending.length < 3 ∧ pendingRoom s.pipeline.pending = s.pipeline.pending)

theorem PipelineInvariant.queuedWhole {codecs : Codecs} (hlawful : codecs.Lawful)
    {s : PipelineHistory} (h : PipelineInvariant codecs s) :
    ∃ kept, QueuedWhole codecs s kept := by
  obtain ⟨kept, hsublist, hwhole⟩ := h.whole
  refine ⟨kept, hsublist, hwhole, ?_⟩
  intro accepted haccepted hgone batch hbatch datagram hdatagram heq
  obtain ⟨owner, howner, hisBatch⟩ := forall₂_right hwhole hbatch
  obtain ⟨created, hok⟩ := hisBatch.datagrams
  have hmem := hsublist.subset howner
  have hframe := (datagramsOf_fits hlawful (h.valid owner hmem) hok datagram hdatagram).2
  have hnodup : (s.accepted.map fun accepted => accepted.unit.frameId).Nodup := by
    rw [h.ids]
    exact List.nodup_range'
  have hsame : owner = accepted :=
    List.inj_on_of_nodup_map hnodup hmem haccepted (hframe.symm.trans heq)
  exact hgone (hsame ▸ howner)

theorem pipelineContract_reachable {codecs : Codecs} (hlawful : codecs.Lawful)
    {s : PipelineHistory} (hs : (PipelineHistory.system codecs).Reachable s) :
    PipelineContract codecs s := by
  have hinv := PipelineInvariant.reachable hlawful hs
  refine ⟨hinv.ids, ?_, hinv.bounded, hinv.queuedWhole hlawful,
    ingestTimedAccessUnit_outcome hlawful s.pipeline, ?_⟩
  · intro accepted hmem
    have hvalid := hinv.valid accepted hmem
    obtain ⟨datagrams, created, hok, _⟩ := datagramsOf_ok hlawful hvalid accepted.fec
    exact ⟨datagrams, created, hok,
      fun datagram hdatagram => (datagramsOf_fits hlawful hvalid hok datagram hdatagram).1⟩
  · rcases Nat.lt_or_eq_of_le hinv.bounded with hlt | hfull
    · exact Or.inr ⟨hlt, pendingRoom_of_lt hlt⟩
    · exact Or.inl ⟨hfull, pendingRoom_evicted hfull⟩

/-- A keyframe and four deltas in a queue of three, a batch that is taken, and a new epoch. -/
def sampleOps : List PipelineOp :=
  [.ingest ⟨[1, 2, 3], true, 40, 50, 1, .strong, by decide, by decide, by decide⟩] ++
    List.replicate 4 (.ingest ⟨[4, 5], false, 73, 80, 1, .none, by decide, by decide, by decide⟩) ++
    [.takePendingBatches,
      .ingest ⟨[6, 7, 8], true, 173, 180, 2, .strong, by decide, by decide, by decide⟩]

theorem pipelineContract_reachable_keyframe :
    PipelineContract reedSolomon
      (sampleOps.foldl (PipelineHistory.step reedSolomon) PipelineHistory.start) :=
  pipelineContract_reachable reedSolomon_lawful (TransitionSystem.reachable_foldl _ _ _)

end PicooCamera.Sender
