import PicooCamera.Library.TransitionSystem
import PicooCamera.Packet.Bookkeeping

/-!
# Operations on the reassembly map, and the invariant of its runs

`Admission` says once what a packet can do to the map. `WellFormed` relates
the tracked frames, the gaps, the caches and the observed ids, and holds in
every state that the operations reach.
-/

namespace PicooCamera.Packet.ReassemblyMap

open PicooCamera.Library PicooCamera.Protocol

/-! ## Outcomes of one packet -/

/-- The access unit that a call of `ingest_at` returned, if it returned one. -/
def returned (result : IngestResult) : Option AssembledAccessUnit :=
  match result with
  | .ok unit => unit
  | .error _ => none

/-- `base` is `room` but for the FEC statistics. -/
def UpToFecCounters (base room : ReassemblyMap) : Prop :=
  base = { room with
    fecRecoveredFragments := base.fecRecoveredFragments
    fecGroupChecks := base.fecGroupChecks
    fecRecoveryAttempts := base.fecRecoveryAttempts }

/-- The flags by which the map knows an access unit when `packet` arrives. -/
def flagsOf (m : ReassemblyMap) (packet : VideoPacket) : VideoPacketFlags :=
  (m.frames[keyOf packet]?.map PartialFrame.flags).getD packet.flags

/-- Every outcome of `admit_packet`, with the guards that lead to it. -/
inductive Admission (m : ReassemblyMap) (packet : VideoPacket) :
    IngestResult → ReassemblyMap → Prop
  | covered (hcovered : atOrBelow m.expiredThroughFrameId packet.frameId ∨
      keyOf packet ∈ m.terminalFrames) :
      Admission m packet (.ok none) m
  | rejectedBefore (hrejected : keyOf packet ∈ m.rejectedFrames) :
      Admission m packet (.error .tooManyFragments) m
  | tooMany (hnew : keyOf packet ∉ m.rejectedFrames) :
      Admission m packet (.error .tooManyFragments) (m.rejectFrame (keyOf packet) packet.flags)
  | badParity {error : ReassemblyError} (hparity : parityError packet = some error)
      (hopen : ¬ atOrBelow m.expiredThroughFrameId packet.frameId)
      (hterminal : keyOf packet ∉ m.terminalFrames)
      (hrejected : keyOf packet ∉ m.rejectedFrames)
      (hcount : packet.fragmentCount ≤ m.maxFragments) :
      Admission m packet (.error error) (m.makeRoom (keyOf packet))
  | abandoned {base : ReassemblyMap} {entry : PartialFrame} {result : IngestResult}
      (hbase : UpToFecCounters base (m.makeRoom (keyOf packet)))
      (hflags : entry.flags = m.flagsOf packet) (hnone : returned result = none) :
      Admission m packet result (base.abandonFrame (keyOf packet) entry)
  | kept {base : ReassemblyMap} {entry : PartialFrame} {result : IngestResult}
      (hbase : UpToFecCounters base (m.makeRoom (keyOf packet)))
      (hnone : returned result = none) :
      Admission m packet result
        { base with frames := base.frames.insert (keyOf packet) entry }
  | completed {base : ReassemblyMap} {unit : AssembledAccessUnit} {resolved : Nat}
      (hbase : UpToFecCounters base (m.makeRoom (keyOf packet)))
      (hopen : ¬ atOrBelow m.expiredThroughFrameId packet.frameId)
      (hterminal : keyOf packet ∉ m.terminalFrames)
      (hrejected : keyOf packet ∉ m.rejectedFrames)
      (hkey : (⟨unit.streamEpoch, unit.frameId⟩ : FrameKey) = keyOf packet) :
      Admission m packet (.ok (some unit))
        { { base with frames := base.frames.erase (keyOf packet) }.rememberTerminal
            (keyOf packet) with
          resolvedFragments := resolved }

theorem storeParityShard_flags {frame stored : PartialFrame} {groupStart groupIx : Nat}
    {payload : Bytes} (h : frame.storeParityShard groupStart payload = .ok (stored, groupIx)) :
    stored.flags = frame.flags := by
  unfold PartialFrame.storeParityShard at h
  split at h
  · cases h
  · split at h
    · cases h
    · cases h
      rfl

theorem markDataPresent_flags (frame : PartialFrame) (index : Nat) :
    (frame.markDataPresent index).1.flags = frame.flags := by
  unfold PartialFrame.markDataPresent
  split <;> rfl

theorem storePacket_flags {frame stored : PartialFrame} {packet : VideoPacket} {groupIx : Nat}
    (h : storePacket frame packet = .ok (stored, groupIx)) : stored.flags = frame.flags := by
  unfold storePacket at h
  split at h
  · split at h
    · rename_i heq
      cases h
      exact storeParityShard_flags heq
    · cases h
  · split at h
    · split at h <;> cases h
    · have hstored : _ = stored := congrArg Prod.fst (Except.ok.inj h)
      rw [← hstored]
      exact markDataPresent_flags _ _

theorem storePacket_error_none {frame : PartialFrame} {packet : VideoPacket}
    {result : IngestResult} (h : storePacket frame packet = .error result) :
    returned result = none := by
  unfold storePacket at h
  split at h
  · split at h
    · cases h
    · cases h
      rfl
  · split at h
    · split at h <;> cases h <;> rfl
    · cases h

theorem recoverAffectedGroup_flags (codecs : Codecs) (frame : PartialFrame) (groupIx : Nat) :
    (frame.recoverAffectedGroup codecs groupIx).frame.flags = frame.flags := by
  unfold PartialFrame.recoverAffectedGroup
  split
  · rfl
  · dsimp only
    split
    · rfl
    · split
      · rfl
      · split
        · rfl
        · split
          · rfl
          · split <;> rfl

theorem upToFecCounters_refl (room : ReassemblyMap) : UpToFecCounters room room := rfl

theorem countRecovery_upToFecCounters (room : ReassemblyMap)
    (outcome : PartialFrame.RecoveryOutcome) :
    UpToFecCounters (room.countRecovery outcome) room := rfl

theorem acceptPacket_cases (codecs : Codecs) {m : ReassemblyMap} {packet : VideoPacket}
    (firstFragmentAt : Instant)
    (hopen : ¬ atOrBelow m.expiredThroughFrameId packet.frameId)
    (hterminal : keyOf packet ∉ m.terminalFrames)
    (hrejected : keyOf packet ∉ m.rejectedFrames) :
    Admission m packet
      (acceptPacket codecs (m.makeRoom (keyOf packet)) packet firstFragmentAt).1
      (acceptPacket codecs (m.makeRoom (keyOf packet)) packet firstFragmentAt).2 := by
  have hentry : ((m.frames[keyOf packet]?).getD (newFrame packet firstFragmentAt)).flags =
      m.flagsOf packet := by
    unfold flagsOf
    cases m.frames[keyOf packet]? <;> rfl
  unfold acceptPacket
  simp only [makeRoom_getElem?_self]
  split
  · exact Admission.abandoned (upToFecCounters_refl _) hentry rfl
  · split
    · exact Admission.abandoned (upToFecCounters_refl _) hentry rfl
    · split
      · rename_i result hstore
        exact Admission.kept (upToFecCounters_refl _) (storePacket_error_none hstore)
      · rename_i stored groupIx hstore
        have hflags : (stored.recoverAffectedGroup codecs groupIx).frame.flags =
            m.flagsOf packet := by
          rw [recoverAffectedGroup_flags, storePacket_flags hstore, hentry]
        unfold finishFrame
        split
        · exact Admission.kept (countRecovery_upToFecCounters _ _) rfl
        · split
          · exact Admission.abandoned (countRecovery_upToFecCounters _ _) hflags rfl
          · exact Admission.completed (countRecovery_upToFecCounters _ _) hopen hterminal
              hrejected rfl

theorem admitPacket_cases (codecs : Codecs) (m : ReassemblyMap) (packet : VideoPacket)
    (firstFragmentAt : Instant) :
    Admission m packet (admitPacket codecs m packet firstFragmentAt).1
      (admitPacket codecs m packet firstFragmentAt).2 := by
  unfold admitPacket
  dsimp only
  split
  · rename_i hcovered
    exact Admission.covered hcovered
  · rename_i hcovered
    have hopen : ¬ atOrBelow m.expiredThroughFrameId packet.frameId :=
      fun h => hcovered (Or.inl h)
    have hterminal : keyOf packet ∉ m.terminalFrames := fun h => hcovered (Or.inr h)
    split
    · rename_i hrejected
      exact Admission.rejectedBefore hrejected
    · rename_i hrejected
      split
      · exact Admission.tooMany hrejected
      · rename_i hcount
        split
        · rename_i error hparity
          exact Admission.badParity hparity hopen hterminal hrejected (Nat.not_lt.mp hcount)
        · exact acceptPacket_cases codecs firstFragmentAt hopen hterminal hrejected

theorem Admission.same {m m' : ReassemblyMap} {packet : VideoPacket} {result : IngestResult}
    (h : Admission m packet result m') :
    m'.frameGaps = m.frameGaps ∧ m'.highestObservedFrameId = m.highestObservedFrameId ∧
      m'.currentEpoch = m.currentEpoch ∧ m'.expiredThroughFrameId = m.expiredThroughFrameId := by
  have hroom : (m.makeRoom (keyOf packet)).frameGaps = m.frameGaps ∧
      (m.makeRoom (keyOf packet)).highestObservedFrameId = m.highestObservedFrameId ∧
      (m.makeRoom (keyOf packet)).currentEpoch = m.currentEpoch ∧
      (m.makeRoom (keyOf packet)).expiredThroughFrameId = m.expiredThroughFrameId :=
    ⟨makeRoom_frameGaps _ _, makeRoom_highest _ _, makeRoom_epoch _ _, makeRoom_expired _ _⟩
  cases h with
  | covered _ => exact ⟨rfl, rfl, rfl, rfl⟩
  | rejectedBefore _ => exact ⟨rfl, rfl, rfl, rfl⟩
  | tooMany hnew =>
      obtain ⟨kept, _, _, heq⟩ := m.rejectFrame_spec packet.flags hnew
      rw [heq]
      exact ⟨rfl, rfl, rfl, rfl⟩
  | badParity _ _ _ _ _ => exact hroom
  | abandoned hbase _ _ =>
      rw [hbase]
      exact hroom
  | kept hbase _ =>
      rw [hbase]
      exact hroom
  | completed hbase _ _ _ _ =>
      rw [hbase]
      exact hroom

/-! ## Operations -/

inductive Operation where
  | ingestAt (packet : VideoPacket) (now : Instant)
  | expireIncompleteOlderThan (now : Instant) (maxAge : Duration)
  | discardStaleAccessUnit (streamEpoch frameId : Nat) (flags : VideoPacketFlags)
  /-- With the order in which the hash map of frames drains. -/
  | clearPending (abandoned : List FrameKey)
  | takeKeyframeLoss
  | takeReferenceChainLoss

/-- The map after an operation, and the access unit that it returned. -/
def perform (codecs : Codecs) (m : ReassemblyMap) :
    Operation → Option AssembledAccessUnit × ReassemblyMap
  | .ingestAt packet now =>
      let outcome := m.ingestAt codecs packet now
      (returned outcome.1, outcome.2)
  | .expireIncompleteOlderThan now maxAge => (none, m.expireIncompleteOlderThan now maxAge)
  | .discardStaleAccessUnit streamEpoch frameId flags =>
      (none, (m.discardStaleAccessUnit streamEpoch frameId flags).2)
  | .clearPending abandoned => (none, m.clearPendingIn abandoned)
  | .takeKeyframeLoss => (none, m.takeKeyframeLoss.2)
  | .takeReferenceChainLoss => (none, m.takeReferenceChainLoss.2)

/-- A drain order lists the frames of the map. -/
def Operation.Valid (m : ReassemblyMap) : Operation → Prop
  | .clearPending abandoned => abandoned.Perm m.frames.keys
  | _ => True

instance (m : ReassemblyMap) (op : Operation) : Decidable (op.Valid m) := by
  cases op <;> unfold Operation.Valid <;> infer_instance

/-- All runs of one reassembly map. -/
def system (codecs : Codecs) (maxFrames maxFragments : Nat) :
    TransitionSystem ReassemblyMap Operation where
  init m := m = new maxFrames maxFragments
  step m op m' := op.Valid m ∧ m' = (m.perform codecs op).2

/-! ## Well-formedness -/

/-- The id has been observed and is not waiting as a gap. -/
def Settled (m : ReassemblyMap) (frameId : Nat) : Prop :=
  atOrBelow m.highestObservedFrameId frameId ∧ frameId ∉ m.frameGaps

structure WellFormed (m : ReassemblyMap) : Prop where
  frames_epoch : ∀ k ∈ m.frames, k.streamEpoch = m.currentEpoch
  frames_settled : ∀ k ∈ m.frames, m.Settled k.frameId
  rejected_epoch : ∀ k ∈ m.rejectedFrames, k.streamEpoch = m.currentEpoch
  rejected_settled : ∀ k ∈ m.rejectedFrames, m.Settled k.frameId
  terminal_epoch : ∀ k ∈ m.terminalFrames, k.streamEpoch = m.currentEpoch
  /-- A terminal id that still waits as a gap lies below the boundary. -/
  terminal_settled : ∀ k ∈ m.terminalFrames,
    atOrBelow m.expiredThroughFrameId k.frameId ∨ m.Settled k.frameId
  gaps_observed : ∀ id ∈ m.frameGaps, atOrBelow m.highestObservedFrameId id

theorem wellFormed_new (maxFrames maxFragments : Nat) :
    WellFormed (new maxFrames maxFragments) where
  frames_epoch _ hk := absurd hk Std.ExtTreeMap.not_mem_empty
  frames_settled _ hk := absurd hk Std.ExtTreeMap.not_mem_empty
  rejected_epoch _ hk := absurd hk Std.ExtTreeSet.not_mem_empty
  rejected_settled _ hk := absurd hk Std.ExtTreeSet.not_mem_empty
  terminal_epoch _ hk := absurd hk Std.ExtTreeSet.not_mem_empty
  terminal_settled _ hk := absurd hk Std.ExtTreeSet.not_mem_empty
  gaps_observed _ hk := absurd hk Std.ExtTreeMap.not_mem_empty

theorem WellFormed.enterEpoch {m : ReassemblyMap} (h : WellFormed m) (streamEpoch : Nat) :
    WellFormed (m.enterEpoch streamEpoch) := by
  unfold ReassemblyMap.enterEpoch
  split
  · exact {
      frames_epoch := fun _ hk => absurd hk Std.ExtTreeMap.not_mem_empty
      frames_settled := fun _ hk => absurd hk Std.ExtTreeMap.not_mem_empty
      rejected_epoch := fun _ hk => absurd hk Std.ExtTreeSet.not_mem_empty
      rejected_settled := fun _ hk => absurd hk Std.ExtTreeSet.not_mem_empty
      terminal_epoch := fun _ hk => absurd hk Std.ExtTreeSet.not_mem_empty
      terminal_settled := fun _ hk => absurd hk Std.ExtTreeSet.not_mem_empty
      gaps_observed := fun _ hk => absurd hk Std.ExtTreeMap.not_mem_empty }
  · exact h

theorem enterEpoch_self {m : ReassemblyMap} {streamEpoch : Nat}
    (h : ¬ m.currentEpoch < streamEpoch) : m.enterEpoch streamEpoch = m := by
  rw [ReassemblyMap.enterEpoch, if_neg h]

theorem enterEpoch_currentEpoch {m : ReassemblyMap} {streamEpoch : Nat}
    (h : ¬ streamEpoch < m.currentEpoch) :
    (m.enterEpoch streamEpoch).currentEpoch = streamEpoch := by
  unfold ReassemblyMap.enterEpoch
  split
  · rfl
  · omega

theorem Settled.observe {m : ReassemblyMap} {id : Nat} (h : m.Settled id) (frameId : Nat)
    (now : Instant) : (m.observeFrameId frameId now).Settled id := by
  refine ⟨(observeFrameId_highest m frameId now).mpr (Or.inl h.1), ?_⟩
  by_cases hover : m.GapOverflow frameId
  · rw [(observeFrameId_overflow m frameId now hover).1]
    exact Std.ExtTreeMap.not_mem_empty
  · rw [mem_observeFrameId_frameGaps m frameId now hover]
    rintro (⟨_, hgap⟩ | ⟨highest, hhighest, hlt, _⟩)
    · exact h.2 hgap
    · have hle := h.1
      rw [hhighest, atOrBelow_some] at hle
      omega

theorem settled_observe_self (m : ReassemblyMap) (frameId : Nat) (now : Instant) :
    (m.observeFrameId frameId now).Settled frameId := by
  refine ⟨(observeFrameId_highest m frameId now).mpr (Or.inr (Nat.le_refl _)), ?_⟩
  by_cases hover : m.GapOverflow frameId
  · rw [(observeFrameId_overflow m frameId now hover).1]
    exact Std.ExtTreeMap.not_mem_empty
  · rw [mem_observeFrameId_frameGaps m frameId now hover]
    rintro (⟨hne, _⟩ | ⟨highest, _, _, hlt⟩)
    · exact hne rfl
    · exact Nat.lt_irrefl _ hlt

theorem atOrBelow_expired_observe {m : ReassemblyMap} {id : Nat} (frameId : Nat)
    (now : Instant) (h : atOrBelow m.expiredThroughFrameId id) :
    atOrBelow (m.observeFrameId frameId now).expiredThroughFrameId id := by
  by_cases hover : m.GapOverflow frameId
  · rw [(observeFrameId_overflow m frameId now hover).2.1, atOrBelow_raiseBound]
    exact Or.inl h
  · rwa [observeFrameId_expired m frameId now hover]

theorem WellFormed.observe {m : ReassemblyMap} (h : WellFormed m) (frameId : Nat)
    (now : Instant) : WellFormed (m.observeFrameId frameId now) where
  frames_epoch k hk := by
    rw [observeFrameId_frames] at hk
    rw [observeFrameId_epoch, h.frames_epoch k hk]
  frames_settled k hk := by
    rw [observeFrameId_frames] at hk
    exact (h.frames_settled k hk).observe frameId now
  rejected_epoch k hk := by
    rw [observeFrameId_rejected] at hk
    rw [observeFrameId_epoch, h.rejected_epoch k hk]
  rejected_settled k hk := by
    rw [observeFrameId_rejected] at hk
    exact (h.rejected_settled k hk).observe frameId now
  terminal_epoch k hk := by
    rw [observeFrameId_terminal] at hk
    rw [observeFrameId_epoch, h.terminal_epoch k hk]
  terminal_settled k hk := by
    rw [observeFrameId_terminal] at hk
    rcases h.terminal_settled k hk with hbelow | hsettled
    · exact Or.inl (atOrBelow_expired_observe frameId now hbelow)
    · exact Or.inr (hsettled.observe frameId now)
  gaps_observed id hid := by
    by_cases hover : m.GapOverflow frameId
    · rw [(observeFrameId_overflow m frameId now hover).1] at hid
      exact absurd hid Std.ExtTreeMap.not_mem_empty
    · rw [mem_observeFrameId_frameGaps m frameId now hover] at hid
      rw [observeFrameId_highest]
      rcases hid with ⟨_, hgap⟩ | ⟨_, _, _, hlt⟩
      · exact Or.inl (h.gaps_observed id hgap)
      · exact Or.inr (Nat.le_of_lt hlt)

/-- A step that leaves gaps, observed ids, boundary and epoch alone, and adds at most
one settled key of the epoch to the frames and the caches, keeps the map well formed. -/
theorem WellFormed.of_key {m m' : ReassemblyMap} (h : WellFormed m) (key : FrameKey)
    (hepoch : key.streamEpoch = m.currentEpoch) (hsettled : m.Settled key.frameId)
    (sameEpoch : m'.currentEpoch = m.currentEpoch) (sameGaps : m'.frameGaps = m.frameGaps)
    (sameHighest : m'.highestObservedFrameId = m.highestObservedFrameId)
    (sameExpired : m'.expiredThroughFrameId = m.expiredThroughFrameId)
    (hframes : ∀ k ∈ m'.frames, k = key ∨ k ∈ m.frames)
    (hrejected : ∀ k ∈ m'.rejectedFrames, k = key ∨ k ∈ m.rejectedFrames)
    (hterminal : ∀ k ∈ m'.terminalFrames, k = key ∨ k ∈ m.terminalFrames ∨ k ∈ m.frames) :
    WellFormed m' := by
  have hsame : ∀ id, m'.Settled id ↔ m.Settled id := by
    intro id
    rw [Settled, Settled, sameHighest, sameGaps]
  refine ⟨?_, ?_, ?_, ?_, ?_, ?_, ?_⟩
  · intro k hk
    rw [sameEpoch]
    rcases hframes k hk with rfl | hk
    · exact hepoch
    · exact h.frames_epoch k hk
  · intro k hk
    rw [hsame]
    rcases hframes k hk with rfl | hk
    · exact hsettled
    · exact h.frames_settled k hk
  · intro k hk
    rw [sameEpoch]
    rcases hrejected k hk with rfl | hk
    · exact hepoch
    · exact h.rejected_epoch k hk
  · intro k hk
    rw [hsame]
    rcases hrejected k hk with rfl | hk
    · exact hsettled
    · exact h.rejected_settled k hk
  · intro k hk
    rw [sameEpoch]
    rcases hterminal k hk with rfl | hk | hk
    · exact hepoch
    · exact h.terminal_epoch k hk
    · exact h.frames_epoch k hk
  · intro k hk
    rw [hsame, sameExpired]
    rcases hterminal k hk with rfl | hk | hk
    · exact Or.inr hsettled
    · exact h.terminal_settled k hk
    · exact Or.inr (h.frames_settled k hk)
  · intro id hid
    rw [sameGaps] at hid
    rw [sameHighest]
    exact h.gaps_observed id hid

theorem makeRoom_frames_subset {m : ReassemblyMap} {key k : FrameKey}
    (hk : k ∈ (m.makeRoom key).frames) : k ∈ m.frames := by
  rcases m.makeRoom_cases key with h | ⟨victim, frame, _, _, _, _, h⟩ <;> rw [h] at hk
  · exact hk
  · exact (mem_map_erase.mp hk).2

theorem makeRoom_terminal_subset {m : ReassemblyMap} {key k : FrameKey}
    (hk : k ∈ (m.makeRoom key).terminalFrames) : k ∈ m.terminalFrames ∨ k ∈ m.frames := by
  rcases m.makeRoom_cases key with h | ⟨victim, frame, _, hget, _, _, h⟩ <;> rw [h] at hk
  · exact Or.inl hk
  · rcases mem_terminalAfter hk with rfl | hk
    · exact Or.inr (Std.ExtTreeMap.mem_iff_isSome_getElem?.mpr (by rw [hget]; rfl))
    · exact Or.inl hk

theorem WellFormed.admission {m m' : ReassemblyMap} {packet : VideoPacket}
    {result : IngestResult} (h : WellFormed m) (hepoch : packet.streamEpoch = m.currentEpoch)
    (hsettled : m.Settled packet.frameId) (hadm : Admission m packet result m') :
    WellFormed m' := by
  cases hadm with
  | covered _ => exact h
  | rejectedBefore _ => exact h
  | tooMany hnew =>
      obtain ⟨kept, hkept, _, heq⟩ := m.rejectFrame_spec packet.flags hnew
      rw [heq]
      refine h.of_key (keyOf packet) hepoch hsettled rfl rfl rfl rfl
        (fun k hk => Or.inr hk) ?_ (fun k hk => Or.inr (Or.inl hk))
      intro k hk
      rcases mem_set_insert.mp hk with hk | hk
      · exact Or.inl hk
      · exact Or.inr (hkept k hk)
  | badParity _ _ _ _ _ =>
      refine h.of_key (keyOf packet) hepoch hsettled (makeRoom_epoch _ _)
        (makeRoom_frameGaps _ _) (makeRoom_highest _ _) (makeRoom_expired _ _)
        (fun k hk => Or.inr (makeRoom_frames_subset hk)) ?_
        (fun k hk => Or.inr (makeRoom_terminal_subset hk))
      intro k hk
      rw [makeRoom_rejected] at hk
      exact Or.inr hk
  | abandoned hbase _ _ =>
      rw [hbase]
      refine h.of_key (keyOf packet) hepoch hsettled (makeRoom_epoch _ _)
        (makeRoom_frameGaps _ _) (makeRoom_highest _ _) (makeRoom_expired _ _) ?_ ?_ ?_
      · intro k hk
        exact Or.inr (makeRoom_frames_subset (mem_map_erase.mp hk).2)
      · intro k hk
        exact Or.inr (by simpa using hk)
      · intro k hk
        rcases mem_terminalAfter hk with hk | hk
        · exact Or.inl hk
        · exact Or.inr (makeRoom_terminal_subset hk)
  | kept hbase _ =>
      rw [hbase]
      refine h.of_key (keyOf packet) hepoch hsettled (makeRoom_epoch _ _)
        (makeRoom_frameGaps _ _) (makeRoom_highest _ _) (makeRoom_expired _ _) ?_ ?_ ?_
      · intro k hk
        rcases mem_map_insert.mp hk with hk | hk
        · exact Or.inl hk
        · exact Or.inr (makeRoom_frames_subset hk)
      · intro k hk
        exact Or.inr (by simpa using hk)
      · intro k hk
        exact Or.inr (makeRoom_terminal_subset hk)
  | completed hbase _ _ _ _ =>
      rw [hbase]
      refine h.of_key (keyOf packet) hepoch hsettled (makeRoom_epoch _ _)
        (makeRoom_frameGaps _ _) (makeRoom_highest _ _) (makeRoom_expired _ _) ?_ ?_ ?_
      · intro k hk
        exact Or.inr (makeRoom_frames_subset (mem_map_erase.mp hk).2)
      · intro k hk
        exact Or.inr (by simpa using hk)
      · intro k hk
        rcases mem_terminalAfter hk with hk | hk
        · exact Or.inl hk
        · exact Or.inr (makeRoom_terminal_subset hk)

theorem WellFormed.ingestAt {m : ReassemblyMap} (h : WellFormed m) (codecs : Codecs)
    (packet : VideoPacket) (now : Instant) : WellFormed (m.ingestAt codecs packet now).2 := by
  unfold ReassemblyMap.ingestAt
  split
  · exact h
  · rename_i hepoch
    have hobserved := (h.enterEpoch packet.streamEpoch).observe packet.frameId now
    refine hobserved.admission ?_ (settled_observe_self _ _ _)
      (admitPacket_cases codecs _ packet _)
    rw [observeFrameId_epoch, enterEpoch_currentEpoch hepoch]

/-! ### Stale discards -/

theorem discardStaleAccessUnit_cases (m : ReassemblyMap) (streamEpoch frameId : Nat)
    (flags : VideoPacketFlags) :
    m.discardStaleAccessUnit streamEpoch frameId flags = (false, m.enterEpoch streamEpoch) ∨
      (m.enterEpoch streamEpoch).currentEpoch = streamEpoch ∧
        m.discardStaleAccessUnit streamEpoch frameId flags =
          (true, (m.enterEpoch streamEpoch).discardFrame ⟨streamEpoch, frameId⟩ flags) := by
  unfold ReassemblyMap.discardStaleAccessUnit
  split
  · rename_i hstale
    left
    rw [ReassemblyMap.enterEpoch, if_neg (Nat.lt_asymm hstale)]
  · rename_i hepoch
    dsimp only
    split
    · exact Or.inl rfl
    · exact Or.inr ⟨enterEpoch_currentEpoch hepoch, rfl⟩

theorem WellFormed.discardFrame {m : ReassemblyMap} (h : WellFormed m) {key : FrameKey}
    (hepoch : key.streamEpoch = m.currentEpoch) (flags : VideoPacketFlags) :
    WellFormed (m.discardFrame key flags) := by
  have hkeep : ∀ id, m.Settled id →
      atOrBelow m.highestObservedFrameId id ∧ id ∉ m.frameGaps.erase key.frameId := by
    intro id hid
    exact ⟨hid.1, fun hgap => hid.2 (mem_map_erase.mp hgap).2⟩
  refine ⟨?_, ?_, ?_, ?_, ?_, ?_, ?_⟩
  · exact fun k hk => h.frames_epoch k (mem_map_erase.mp hk).2
  · exact fun k hk => hkeep _ (h.frames_settled k (mem_map_erase.mp hk).2)
  · exact fun k hk => h.rejected_epoch k (mem_set_erase.mp hk).2
  · exact fun k hk => hkeep _ (h.rejected_settled k (mem_set_erase.mp hk).2)
  · intro k hk
    rcases mem_terminalAfter hk with rfl | hk
    · exact hepoch
    · exact h.terminal_epoch k hk
  · intro k hk
    change atOrBelow (some (raiseBound m.expiredThroughFrameId key.frameId)) k.frameId ∨ _
    rw [atOrBelow_raiseBound]
    rcases mem_terminalAfter hk with rfl | hk
    · exact Or.inl (Or.inr (Nat.le_refl _))
    · rcases h.terminal_settled k hk with hbelow | hsettled
      · exact Or.inl (Or.inl hbelow)
      · exact Or.inr (hkeep _ hsettled)
  · exact fun id hid => h.gaps_observed id (mem_map_erase.mp hid).2

theorem WellFormed.discardStaleAccessUnit {m : ReassemblyMap} (h : WellFormed m)
    (streamEpoch frameId : Nat) (flags : VideoPacketFlags) :
    WellFormed (m.discardStaleAccessUnit streamEpoch frameId flags).2 := by
  rcases m.discardStaleAccessUnit_cases streamEpoch frameId flags with heq | ⟨hepoch, heq⟩
  · rw [heq]
    exact h.enterEpoch streamEpoch
  · rw [heq]
    exact (h.enterEpoch streamEpoch).discardFrame hepoch.symm flags

/-! ### Clearing -/

/-- `m'` differs from `m` in its frames, its terminal cache, and its loss accounting only. -/
structure SameIds (m m' : ReassemblyMap) : Prop where
  epoch : m'.currentEpoch = m.currentEpoch
  gaps : m'.frameGaps = m.frameGaps
  highest : m'.highestObservedFrameId = m.highestObservedFrameId
  expired : m'.expiredThroughFrameId = m.expiredThroughFrameId
  rejected : m'.rejectedFrames = m.rejectedFrames

theorem SameIds.refl (m : ReassemblyMap) : SameIds m m := ⟨rfl, rfl, rfl, rfl, rfl⟩

theorem SameIds.trans {m₁ m₂ m₃ : ReassemblyMap} (h : SameIds m₁ m₂) (h' : SameIds m₂ m₃) :
    SameIds m₁ m₃ :=
  ⟨h'.epoch.trans h.epoch, h'.gaps.trans h.gaps, h'.highest.trans h.highest,
    h'.expired.trans h.expired, h'.rejected.trans h.rejected⟩

theorem foldl_rememberTerminal_sameIds (keys : List FrameKey) (m : ReassemblyMap) :
    SameIds m (keys.foldl rememberTerminal m) ∧
      (keys.foldl rememberTerminal m).frames = m.frames ∧
      (keys.foldl rememberTerminal m).referenceLossPending = m.referenceLossPending := by
  induction keys generalizing m with
  | nil => exact ⟨SameIds.refl m, rfl, rfl⟩
  | cons key keys ih =>
      have hstep : SameIds m (m.rememberTerminal key) := ⟨rfl, rfl, rfl, rfl, rfl⟩
      obtain ⟨hids, hframes, hloss⟩ := ih (m.rememberTerminal key)
      exact ⟨hstep.trans hids, hframes, hloss⟩

theorem mem_foldl_rememberTerminal {keys : List FrameKey} {m : ReassemblyMap} {k : FrameKey}
    (hk : k ∈ (keys.foldl rememberTerminal m).terminalFrames) :
    k ∈ keys ∨ k ∈ m.terminalFrames := by
  induction keys generalizing m with
  | nil => exact Or.inr hk
  | cons key keys ih =>
      rcases ih hk with hmem | hmem
      · exact Or.inl (List.mem_cons_of_mem key hmem)
      · rcases mem_terminalAfter hmem with rfl | hold
        · exact Or.inl List.mem_cons_self
        · exact Or.inr hold

theorem clearedThrough_covers (m : ReassemblyMap) {id : Nat}
    (h : atOrBelow m.expiredThroughFrameId id ∨ (∃ k ∈ m.frames, k.frameId = id) ∨
      id ∈ m.frameGaps) : atOrBelow m.clearedThrough id := by
  unfold clearedThrough
  cases hmax : maxOf (m.frames.keys.map FrameKey.frameId ++ m.frameGaps.keys) with
  | none =>
      have hempty := maxOf_eq_none.mp hmax
      rw [List.append_eq_nil_iff, List.map_eq_nil_iff] at hempty
      rcases h with hbelow | ⟨k, hk, _⟩ | hgap
      · exact hbelow
      · rw [← Std.ExtTreeMap.mem_keys, hempty.1] at hk
        cases hk
      · rw [← Std.ExtTreeMap.mem_keys, hempty.2] at hgap
        cases hgap
  | some latest =>
      rw [atOrBelow_raiseBound]
      rcases h with hbelow | ⟨k, hk, rfl⟩ | hgap
      · exact Or.inl hbelow
      · refine Or.inr (le_maxOf hmax (List.mem_append_left _ ?_))
        exact List.mem_map_of_mem (Std.ExtTreeMap.mem_keys.mpr hk)
      · refine Or.inr (le_maxOf hmax (List.mem_append_right _ ?_))
        exact Std.ExtTreeMap.mem_keys.mpr hgap

theorem WellFormed.clearPendingIn {m : ReassemblyMap} (h : WellFormed m)
    {abandoned : List FrameKey} (hperm : abandoned.Perm m.frames.keys) :
    WellFormed (m.clearPendingIn abandoned) := by
  unfold ReassemblyMap.clearPendingIn
  obtain ⟨hids, hframes, _⟩ := foldl_rememberTerminal_sameIds abandoned
    { m with frames := ∅, frameGaps := ∅, expiredThroughFrameId := m.clearedThrough }
  have hrejected : ∀ id, m.Settled id →
      atOrBelow m.highestObservedFrameId id ∧ id ∉ (∅ : Std.ExtTreeMap Nat Instant) :=
    fun id hid => ⟨hid.1, Std.ExtTreeMap.not_mem_empty⟩
  refine ⟨?_, ?_, ?_, ?_, ?_, ?_, ?_⟩
  · intro k hk
    rw [hframes] at hk
    exact absurd hk Std.ExtTreeMap.not_mem_empty
  · intro k hk
    rw [hframes] at hk
    exact absurd hk Std.ExtTreeMap.not_mem_empty
  · intro k hk
    rw [hids.rejected] at hk
    rw [hids.epoch]
    exact h.rejected_epoch k hk
  · intro k hk
    rw [hids.rejected] at hk
    rw [Settled, hids.highest, hids.gaps]
    exact hrejected _ (h.rejected_settled k hk)
  · intro k hk
    rw [hids.epoch]
    rcases mem_foldl_rememberTerminal hk with hmem | hmem
    · exact h.frames_epoch k (Std.ExtTreeMap.mem_keys.mp (hperm.mem_iff.mp hmem))
    · exact h.terminal_epoch k hmem
  · intro k hk
    rw [hids.expired, Settled, hids.highest, hids.gaps]
    rcases mem_foldl_rememberTerminal hk with hmem | hmem
    · have hframe := Std.ExtTreeMap.mem_keys.mp (hperm.mem_iff.mp hmem)
      exact Or.inl (m.clearedThrough_covers (Or.inr (Or.inl ⟨k, hframe, rfl⟩)))
    · rcases h.terminal_settled k hmem with hbelow | hsettled
      · exact Or.inl (m.clearedThrough_covers (Or.inl hbelow))
      · exact Or.inr (hrejected _ hsettled)
  · intro id hid
    rw [hids.gaps] at hid
    exact absurd hid Std.ExtTreeMap.not_mem_empty

/-! ### Expiry -/

theorem mem_frames_of_getElem? {m : ReassemblyMap} {key : FrameKey} {frame : PartialFrame}
    (h : m.frames[key]? = some frame) : key ∈ m.frames := by
  rw [Std.ExtTreeMap.mem_iff_isSome_getElem?, h]
  rfl

theorem expireFrame_spec (m : ReassemblyMap) (key : FrameKey) :
    SameIds m (m.expireFrame key) ∧
      (m.expireFrame key).terminalFrames = m.terminalFrames ∧
      (∀ k, k ∈ (m.expireFrame key).frames ↔ k ≠ key ∧ k ∈ m.frames) ∧
      ((m.expireFrame key).referenceLossPending = true ↔
        m.referenceLossPending = true ∨
          ∃ frame, m.frames[key]? = some frame ∧ frame.flags.discardable = false) := by
  unfold expireFrame
  cases hget : m.frames[key]? with
  | none =>
      have hnot : key ∉ m.frames := by
        rw [Std.ExtTreeMap.mem_iff_isSome_getElem?, hget]
        decide
      refine ⟨SameIds.refl m, rfl, ?_, by simp⟩
      intro k
      constructor
      · intro hk
        refine ⟨?_, hk⟩
        rintro rfl
        exact hnot hk
      · exact And.right
  | some frame =>
      refine ⟨⟨rfl, rfl, rfl, rfl, rfl⟩, rfl, fun k => mem_map_erase, ?_⟩
      simp [recordIncompleteDrop, flagLoss]

theorem foldl_expireFrame_spec (keys : List FrameKey) (m : ReassemblyMap) :
    SameIds m (keys.foldl expireFrame m) ∧
      (keys.foldl expireFrame m).terminalFrames = m.terminalFrames ∧
      (∀ k, k ∈ (keys.foldl expireFrame m).frames ↔ k ∉ keys ∧ k ∈ m.frames) := by
  induction keys generalizing m with
  | nil => exact ⟨SameIds.refl m, rfl, by simp⟩
  | cons key keys ih =>
      obtain ⟨hids, hterminal, hframes, _⟩ := m.expireFrame_spec key
      obtain ⟨hids', hterminal', hframes'⟩ := ih (m.expireFrame key)
      refine ⟨hids.trans hids', hterminal'.trans hterminal, ?_⟩
      intro k
      rw [List.foldl_cons, hframes', hframes, List.mem_cons]
      tauto

theorem expireGaps_spec (m : ReassemblyMap) (through : Nat) :
    (m.expireGaps through).currentEpoch = m.currentEpoch ∧
      (m.expireGaps through).frames = m.frames ∧
      (m.expireGaps through).highestObservedFrameId = m.highestObservedFrameId ∧
      (m.expireGaps through).expiredThroughFrameId = m.expiredThroughFrameId ∧
      (m.expireGaps through).rejectedFrames = m.rejectedFrames ∧
      (m.expireGaps through).terminalFrames = m.terminalFrames ∧
      (∀ id, id ∈ (m.expireGaps through).frameGaps ↔ through < id ∧ id ∈ m.frameGaps) := by
  unfold expireGaps
  dsimp only
  split
  · rename_i hnone
    refine ⟨rfl, rfl, rfl, rfl, rfl, rfl, ?_⟩
    intro id
    constructor
    · intro hid
      refine ⟨?_, hid⟩
      by_contra hle
      have hmem : id ∈ m.frameGaps.filter fun id _ => id ≤ through := by
        rw [Std.ExtTreeMap.mem_filter]
        exact ⟨hid, by simpa using hle⟩
      rw [Std.ExtTreeMap.eq_empty_iff_size_eq_zero.mpr hnone] at hmem
      exact Std.ExtTreeMap.not_mem_empty hmem
    · exact And.right
  · refine ⟨rfl, rfl, rfl, rfl, rfl, rfl, ?_⟩
    intro id
    rw [Std.ExtTreeMap.mem_filter]
    simp [and_comm]

theorem expireThrough_spec (m : ReassemblyMap) (through : Nat) :
    (m.expireThrough through).currentEpoch = m.currentEpoch ∧
      (m.expireThrough through).highestObservedFrameId = m.highestObservedFrameId ∧
      (m.expireThrough through).expiredThroughFrameId =
        some (raiseBound m.expiredThroughFrameId through) ∧
      (m.expireThrough through).terminalFrames = m.terminalFrames ∧
      (∀ k, k ∈ (m.expireThrough through).frames ↔ through < k.frameId ∧ k ∈ m.frames) ∧
      (∀ id, id ∈ (m.expireThrough through).frameGaps ↔ through < id ∧ id ∈ m.frameGaps) ∧
      (∀ k, k ∈ (m.expireThrough through).rejectedFrames ↔
        through < k.frameId ∧ k ∈ m.rejectedFrames) := by
  have hfold := foldl_expireFrame_spec
    (m.frames.keys.filter fun key => key.frameId ≤ through) m
  have hgaps := expireGaps_spec
    ((m.frames.keys.filter fun key => key.frameId ≤ through).foldl expireFrame m) through
  obtain ⟨hids, hterminal, hframes⟩ := hfold
  obtain ⟨gepoch, gframes, ghighest, gexpired, grejected, gterminal, ggaps⟩ := hgaps
  refine ⟨gepoch.trans hids.epoch, ghighest.trans hids.highest, ?_, gterminal.trans hterminal,
    ?_, ?_, ?_⟩
  · rw [← hids.expired, ← gexpired]
    rfl
  · intro k
    change k ∈ (ReassemblyMap.expireGaps _ through).frames ↔ _
    rw [gframes, hframes, List.mem_filter, Std.ExtTreeMap.mem_keys, decide_eq_true_eq]
    constructor
    · rintro ⟨hnot, hk⟩
      exact ⟨Nat.not_le.mp fun hle => hnot ⟨hk, hle⟩, hk⟩
    · rintro ⟨hlt, hk⟩
      exact ⟨fun hmem => Nat.not_le.mpr hlt hmem.2, hk⟩
  · intro id
    change id ∈ (ReassemblyMap.expireGaps _ through).frameGaps ↔ _
    rw [ggaps, hids.gaps]
  · intro k
    change k ∈ ((ReassemblyMap.expireGaps _ through).rejectedFrames.filter _) ↔ _
    rw [grejected, hids.rejected, Std.ExtTreeSet.mem_filter]
    simp [and_comm]

theorem WellFormed.expireThrough {m : ReassemblyMap} (h : WellFormed m) (through : Nat) :
    WellFormed (m.expireThrough through) := by
  obtain ⟨hepoch, hhighest, hexpired, hterminal, hframes, hgaps, hrejected⟩ :=
    m.expireThrough_spec through
  have hkeep : ∀ id, m.Settled id → (m.expireThrough through).Settled id := by
    intro id hid
    rw [Settled, hhighest, hgaps]
    exact ⟨hid.1, fun hgap => hid.2 hgap.2⟩
  refine ⟨?_, ?_, ?_, ?_, ?_, ?_, ?_⟩
  · intro k hk
    rw [hepoch]
    exact h.frames_epoch k ((hframes k).mp hk).2
  · intro k hk
    exact hkeep _ (h.frames_settled k ((hframes k).mp hk).2)
  · intro k hk
    rw [hepoch]
    exact h.rejected_epoch k ((hrejected k).mp hk).2
  · intro k hk
    exact hkeep _ (h.rejected_settled k ((hrejected k).mp hk).2)
  · intro k hk
    rw [hterminal] at hk
    rw [hepoch]
    exact h.terminal_epoch k hk
  · intro k hk
    rw [hterminal] at hk
    rw [hexpired, atOrBelow_raiseBound]
    rcases h.terminal_settled k hk with hbelow | hsettled
    · exact Or.inl (Or.inl hbelow)
    · exact Or.inr (hkeep _ hsettled)
  · intro id hid
    rw [hhighest]
    exact h.gaps_observed id ((hgaps id).mp hid).2

theorem expireIncompleteOlderThan_cases (m : ReassemblyMap) (now : Instant)
    (maxAge : Duration) :
    m.expireIncompleteOlderThan now maxAge = m ∨
      ∃ through, m.expireIncompleteOlderThan now maxAge = m.expireThrough through := by
  unfold expireIncompleteOlderThan
  cases checkedSub now maxAge with
  | none => exact Or.inl rfl
  | some deadline =>
      dsimp only
      cases m.expiredThrough deadline with
      | none => exact Or.inl rfl
      | some through => exact Or.inr ⟨through, rfl⟩

/-! ### Runs -/

theorem WellFormed.perform {m : ReassemblyMap} (h : WellFormed m) (codecs : Codecs)
    {op : Operation} (hvalid : op.Valid m) : WellFormed (m.perform codecs op).2 := by
  cases op with
  | ingestAt packet now => exact h.ingestAt codecs packet now
  | expireIncompleteOlderThan now maxAge =>
      change WellFormed (m.expireIncompleteOlderThan now maxAge)
      rcases m.expireIncompleteOlderThan_cases now maxAge with heq | ⟨through, heq⟩
      · rw [heq]
        exact h
      · rw [heq]
        exact h.expireThrough through
  | discardStaleAccessUnit streamEpoch frameId flags =>
      exact h.discardStaleAccessUnit streamEpoch frameId flags
  | clearPending abandoned => exact h.clearPendingIn hvalid
  | takeKeyframeLoss =>
      exact ⟨h.frames_epoch, h.frames_settled, h.rejected_epoch, h.rejected_settled,
        h.terminal_epoch, h.terminal_settled, h.gaps_observed⟩
  | takeReferenceChainLoss =>
      exact ⟨h.frames_epoch, h.frames_settled, h.rejected_epoch, h.rejected_settled,
        h.terminal_epoch, h.terminal_settled, h.gaps_observed⟩

theorem wellFormed_of_reachable {codecs : Codecs} {maxFrames maxFragments : Nat}
    {m : ReassemblyMap} (h : (system codecs maxFrames maxFragments).Reachable m) :
    WellFormed m := by
  refine h.invariant ?_ ?_
  · rintro s rfl
    exact wellFormed_new maxFrames maxFragments
  · rintro s op s' hs ⟨hvalid, rfl⟩
    exact hs.perform codecs hvalid

/-! ### Sample packets -/

/-- An access unit of one fragment. -/
def wholeFrame (frameId : UInt8) : VideoPacket :=
  .ofSmall { VideoPacketFlags.empty with startOfAccessUnit := true, endOfAccessUnit := true }
    1 frameId 0 0 0 [7]

/-- The first of two fragments of an access unit. -/
def halfFrame (frameId : UInt8) : VideoPacket :=
  .ofSmall { VideoPacketFlags.empty with startOfAccessUnit := true } 1 frameId 0 0 1 [7]

/-- Codecs that fail, for frames of one fragment. -/
def noCodecs : Codecs := fun _ _ => ⟨fun _ => none, fun _ => none⟩

end PicooCamera.Packet.ReassemblyMap
