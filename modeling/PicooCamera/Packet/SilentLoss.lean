import PicooCamera.Packet.LossFlag

/-!
# Frames that leave the reassembly map without a trace

`NoSilentLoss` asks of one call that every id it stops tracking, skips or
begins to observe is accounted for. The calls that break it are the packets
of `SilentlyUntracked`: their own gap is removed, or the highest observed id
advances, before the packet is dropped at the boundary or refused for its
parity shard.
-/

namespace PicooCamera.Packet.ReassemblyMap

open PicooCamera.Library PicooCamera.Protocol

/-! ## The property -/

/-- The map in the stream epoch of the operation. -/
def baseline (m : ReassemblyMap) : Operation → ReassemblyMap
  | .ingestAt packet _ => m.enterEpoch packet.streamEpoch
  | .discardStaleAccessUnit streamEpoch _ _ => m.enterEpoch streamEpoch
  | _ => m

/-- The id is in `frames ∪ frame_gaps`. -/
def Tracked (m : ReassemblyMap) (frameId : Nat) : Prop :=
  (⟨m.currentEpoch, frameId⟩ : FrameKey) ∈ m.frames ∨ frameId ∈ m.frameGaps

instance (m : ReassemblyMap) (frameId : Nat) : Decidable (m.Tracked frameId) :=
  inferInstanceAs (Decidable (_ ∨ _))

/-- The flags that the operation itself states for an access unit. -/
def Operation.flagsFor : Operation → Nat → Option VideoPacketFlags
  | .ingestAt packet _, frameId => if packet.frameId = frameId then some packet.flags else none
  | .discardStaleAccessUnit _ id flags, frameId => if id = frameId then some flags else none
  | _, _ => none

def knownFlags (m : ReassemblyMap) (op : Operation) (frameId : Nat) : Option VideoPacketFlags :=
  (m.frames[(⟨m.currentEpoch, frameId⟩ : FrameKey)]?.map PartialFrame.flags).or
    (op.flagsFor frameId)

/-- The call itself sets `reference_loss_pending`. -/
def LossRaised (codecs : Codecs) (m : ReassemblyMap) (op : Operation) : Prop :=
  (((m.baseline op).setLoss false).perform codecs op).2.referenceLossPending = true

instance (codecs : Codecs) (m : ReassemblyMap) (op : Operation) :
    Decidable (m.LossRaised codecs op) :=
  inferInstanceAs (Decidable (_ = true))

def Returns (codecs : Codecs) (m : ReassemblyMap) (op : Operation) (frameId : Nat) : Prop :=
  ∃ unit, (m.perform codecs op).1 = some unit ∧ unit.frameId = frameId

structure NoSilentLoss (codecs : Codecs) (m : ReassemblyMap) (op : Operation) : Prop where
  /-- An id leaves the tracked set by its return, a flagged drop, or a clear. -/
  leaves : ∀ id, (m.baseline op).Tracked id → ¬ (m.perform codecs op).2.Tracked id →
    m.Returns codecs op id ∨ m.LossRaised codecs op ∨
      (∃ flags, (m.baseline op).knownFlags op id = some flags ∧ flags.discardable = true) ∨
      ∃ abandoned, op = .clearPending abandoned
  /-- Skipped ids become gaps or a flagged loss. -/
  skipped : ∀ id highest highest', (m.baseline op).highestObservedFrameId = some highest →
    (m.perform codecs op).2.highestObservedFrameId = some highest' →
    highest < id → id < highest' →
    id ∈ (m.perform codecs op).2.frameGaps ∨ m.LossRaised codecs op
  /-- The id of a packet that advances the highest id or closes its gap is accounted for. -/
  observed : ∀ packet now, op = .ingestAt packet now → ¬ packet.streamEpoch < m.currentEpoch →
    ((m.baseline op).Advances packet.frameId ∨ packet.frameId ∈ (m.baseline op).frameGaps) →
    m.Returns codecs op packet.frameId ∨ keyOf packet ∈ (m.perform codecs op).2.frames ∨
      keyOf packet ∈ (m.perform codecs op).2.terminalFrames ∨
      keyOf packet ∈ (m.perform codecs op).2.rejectedFrames ∨ m.LossRaised codecs op
  /-- A refused parity shard untracks no frame. A frame that it is the first packet of is tracked
  from then on, unless the jump to it is too far and flagged as a loss. -/
  refused : ∀ packet now, op = .ingestAt packet now →
    (m.ingestAt codecs packet now).1 = .error .invalidFecParity →
    ((m.baseline op).Tracked packet.frameId ∨ (m.baseline op).Advances packet.frameId) →
    (m.perform codecs op).2.Tracked packet.frameId ∨
      (m.baseline op).GapOverflow packet.frameId

/-! ## The packets that break it -/

/-- The packet closes its own gap or advances the highest id within the gap bound, and is
then dropped at the boundary, or refused for its parity shard. -/
def SilentlyUntracked (m : ReassemblyMap) (packet : VideoPacket) : Prop :=
  (m.Advances packet.frameId ∨ packet.frameId ∈ m.frameGaps) ∧
    ¬ m.GapOverflow packet.frameId ∧
    (atOrBelow m.expiredThroughFrameId packet.frameId ∧
        (keyOf packet ∉ m.terminalFrames ∨
          packet.frameId ∈ m.frameGaps ∧ packet.flags.discardable = false) ∨
      ¬ atOrBelow m.expiredThroughFrameId packet.frameId ∧
        packet.fragmentCount ≤ m.maxFragments ∧
        ∃ error, parityError packet = some error)

/-- No packet of the operation is silently untracked. -/
def Accounted (m : ReassemblyMap) (op : Operation) : Prop :=
  ∀ packet now, op = .ingestAt packet now → ¬ packet.streamEpoch < m.currentEpoch →
    ¬ (m.enterEpoch packet.streamEpoch).SilentlyUntracked packet

/-! ## Losses that the outcomes flag -/

theorem makeRoom_loss_mono {m : ReassemblyMap} (key : FrameKey)
    (hloss : m.referenceLossPending = true) : (m.makeRoom key).referenceLossPending = true := by
  rcases m.makeRoom_cases key with h | ⟨victim, frame, _, _, _, _, h⟩
  · rw [h]
    exact hloss
  · rw [h, abandonFrame_referenceLoss, hloss, Bool.true_or]

theorem makeRoom_of_mem {m : ReassemblyMap} {key : FrameKey} (hkey : key ∈ m.frames) :
    m.makeRoom key = m :=
  if_neg fun hfull => hfull.2 hkey

theorem makeRoom_loss_of_mem {m : ReassemblyMap} {key k : FrameKey} (hk : k ∈ m.frames)
    (hgone : k ∉ (m.makeRoom key).frames) :
    (m.makeRoom key).referenceLossPending = true ∨
      ∃ frame, m.frames[k]? = some frame ∧ frame.flags.discardable = true := by
  rcases m.makeRoom_cases key with h | ⟨victim, frame, _, hget, _, _, h⟩
  · rw [h] at hgone
    exact absurd hk hgone
  · rw [h] at hgone ⊢
    have hvictim : k = victim := by
      by_contra hne
      exact hgone (mem_map_erase.mpr ⟨hne, hk⟩)
    subst hvictim
    cases hflags : frame.flags.discardable with
    | true => exact Or.inr ⟨frame, hget, hflags⟩
    | false =>
        left
        rw [abandonFrame_referenceLoss, hflags]
        simp

namespace Admission

variable {m m' : ReassemblyMap} {packet : VideoPacket} {result : IngestResult}

theorem loss_mono (h : Admission m packet result m') (hloss : m.referenceLossPending = true) :
    m'.referenceLossPending = true := by
  have hroom : (m.makeRoom (keyOf packet)).referenceLossPending = true :=
    makeRoom_loss_mono (keyOf packet) hloss
  cases h with
  | covered _ => exact hloss
  | rejectedBefore _ => exact hloss
  | tooMany hnew =>
      obtain ⟨kept, _, _, heq⟩ := m.rejectFrame_spec packet.flags hnew
      rw [heq]
      simp [flagLoss, hloss]
  | badParity _ _ _ _ _ => exact hroom
  | abandoned hbase _ _ =>
      rw [hbase, abandonFrame_referenceLoss, hroom, Bool.true_or]
  | kept hbase _ =>
      rw [hbase]
      exact hroom
  | completed hbase _ _ _ _ =>
      rw [hbase]
      exact hroom

theorem frames_leave (h : Admission m packet result m') {k : FrameKey} (hk : k ∈ m.frames)
    (hgone : k ∉ m'.frames) :
    (∃ unit, returned result = some unit ∧ unit.frameId = k.frameId) ∨
      m'.referenceLossPending = true ∨
      ∃ frame, m.frames[k]? = some frame ∧ frame.flags.discardable = true := by
  -- The frame is either the packet's own or the one evicted to make room.
  have hroom : ∀ {base : ReassemblyMap},
      UpToFecCounters base (m.makeRoom (keyOf packet)) → k ∉ base.frames →
      base.referenceLossPending = true ∨
        ∃ frame, m.frames[k]? = some frame ∧ frame.flags.discardable = true := by
    intro base hbase hnot
    rw [hbase] at hnot ⊢
    exact makeRoom_loss_of_mem hk hnot
  cases h with
  | covered _ => exact absurd hk hgone
  | rejectedBefore _ => exact absurd hk hgone
  | tooMany hnew =>
      obtain ⟨kept, _, _, heq⟩ := m.rejectFrame_spec packet.flags hnew
      rw [heq] at hgone
      exact absurd hk hgone
  | badParity _ _ _ _ _ => exact Or.inr (makeRoom_loss_of_mem hk hgone)
  | @abandoned base entry _ hbase hflags _ =>
      by_cases hown : k = keyOf packet
      · subst hown
        have hget := Std.ExtTreeMap.getElem?_eq_some_getElem hk
        have hentry : entry.flags = m.frames[keyOf packet].flags := by
          rw [hflags, flagsOf, hget]
          rfl
        cases hdiscardable : entry.flags.discardable with
        | true => exact Or.inr (Or.inr ⟨_, hget, by rw [← hentry, hdiscardable]⟩)
        | false => exact Or.inr (Or.inl (by simp [hdiscardable]))
      · have hnot : k ∉ base.frames := fun hmem =>
          hgone (mem_map_erase.mpr ⟨hown, hmem⟩)
        rcases hroom hbase hnot with hloss | hflagged
        · exact Or.inr (Or.inl (by simp [hloss]))
        · exact Or.inr (Or.inr hflagged)
  | @kept base entry _ hbase _ =>
      have hnot : k ∉ base.frames := fun hmem => hgone (mem_map_insert.mpr (Or.inr hmem))
      rcases hroom hbase hnot with hloss | hflagged
      · exact Or.inr (Or.inl hloss)
      · exact Or.inr (Or.inr hflagged)
  | @completed base unit _ hbase _ _ _ hkey =>
      by_cases hown : k = keyOf packet
      · left
        refine ⟨unit, rfl, ?_⟩
        rw [hown, ← hkey]
      · have hnot : k ∉ base.frames := fun hmem =>
          hgone (mem_map_erase.mpr ⟨hown, hmem⟩)
        rcases hroom hbase hnot with hloss | hflagged
        · exact Or.inr (Or.inl hloss)
        · exact Or.inr (Or.inr hflagged)

end Admission

/-! ## One packet of the current epoch -/

theorem WellFormed.setLoss {m : ReassemblyMap} (h : WellFormed m) (pending : Bool) :
    WellFormed (m.setLoss pending) :=
  ⟨h.frames_epoch, h.frames_settled, h.rejected_epoch, h.rejected_settled, h.terminal_epoch,
    h.terminal_settled, h.gaps_observed⟩

/-- An id that is observed for the first time, or waits as a gap, is in no frame and not
rejected. -/
theorem WellFormed.fresh {m : ReassemblyMap} (h : WellFormed m) (key : FrameKey)
    (hobserved : m.Advances key.frameId ∨ key.frameId ∈ m.frameGaps) :
    key ∉ m.frames ∧ key ∉ m.rejectedFrames := by
  have hsettled : ¬ m.Settled key.frameId := by
    rintro ⟨hseen, hgap⟩
    rcases hobserved with hadvances | hmem
    · exact hadvances hseen
    · exact hgap hmem
  exact ⟨fun hk => hsettled (h.frames_settled key hk),
    fun hk => hsettled (h.rejected_settled key hk)⟩

section Packet

variable {b m' : ReassemblyMap} {packet : VideoPacket} {now : Instant} {result : IngestResult}

theorem Admission.accounts (hb : WellFormed b)
    (hadm : Admission (b.observeFrameId packet.frameId now) packet result m')
    (hok : ¬ b.SilentlyUntracked packet)
    (hobserved : b.Advances packet.frameId ∨ packet.frameId ∈ b.frameGaps) :
    (∃ unit, returned result = some unit ∧ unit.frameId = packet.frameId) ∨
      keyOf packet ∈ m'.frames ∨ keyOf packet ∈ m'.terminalFrames ∨
      keyOf packet ∈ m'.rejectedFrames ∨ m'.referenceLossPending = true := by
  have hloss := hadm.loss_mono
  obtain ⟨hframe, hrejected⟩ := hb.fresh (keyOf packet) hobserved
  by_cases hover : b.GapOverflow packet.frameId
  · have hflag := (observeFrameId_overflow b packet.frameId now hover).2.2
    exact Or.inr (Or.inr (Or.inr (Or.inr (hloss hflag))))
  · have hexpired := observeFrameId_expired b packet.frameId now hover
    cases hadm with
    | covered hcovered =>
        rw [hexpired, observeFrameId_terminal] at hcovered
        rw [observeFrameId_terminal]
        rcases hcovered with hbelow | hterminal
        · by_cases hterminal : keyOf packet ∈ b.terminalFrames
          · exact Or.inr (Or.inr (Or.inl hterminal))
          · exact absurd ⟨hobserved, hover, Or.inl ⟨hbelow, Or.inl hterminal⟩⟩ hok
        · exact Or.inr (Or.inr (Or.inl hterminal))
    | rejectedBefore hmem => exact Or.inr (Or.inr (Or.inr (Or.inl hmem)))
    | tooMany hnew =>
        obtain ⟨kept, _, _, heq⟩ := rejectFrame_spec _ packet.flags hnew
        refine Or.inr (Or.inr (Or.inr (Or.inl ?_)))
        rw [heq]
        exact mem_set_insert.mpr (Or.inl rfl)
    | badParity hparity hopen _ _ hcount =>
        rw [hexpired] at hopen
        rw [observeFrameId_maxFragments] at hcount
        exact absurd ⟨hobserved, hover, Or.inr ⟨hopen, hcount, _, hparity⟩⟩ hok
    | abandoned hbase _ _ =>
        refine Or.inr (Or.inr (Or.inl ?_))
        exact mem_terminalAfter_self _ _
    | kept hbase _ => exact Or.inr (Or.inl (mem_map_insert.mpr (Or.inl rfl)))
    | completed hbase _ _ _ hkey =>
        refine Or.inl ⟨_, rfl, ?_⟩
        exact congrArg FrameKey.frameId hkey

theorem Admission.ownGap (hb : WellFormed b) (hepoch : packet.streamEpoch = b.currentEpoch)
    (hadm : Admission (b.observeFrameId packet.frameId now) packet result m')
    (hok : ¬ b.SilentlyUntracked packet) (hover : ¬ b.GapOverflow packet.frameId)
    (hgap : packet.frameId ∈ b.frameGaps) (hgone : ¬ m'.Tracked packet.frameId) :
    (∃ unit, returned result = some unit ∧ unit.frameId = packet.frameId) ∨
      m'.referenceLossPending = true ∨ packet.flags.discardable = true := by
  obtain ⟨hframe, hrejected⟩ := hb.fresh (keyOf packet) (Or.inr hgap)
  have hexpired := observeFrameId_expired b packet.frameId now hover
  have hepoch' : m'.currentEpoch = packet.streamEpoch := by
    rw [hadm.same.2.2.1, observeFrameId_epoch, hepoch]
  have hnot : keyOf packet ∉ m'.frames := by
    intro hmem
    refine hgone (Or.inl ?_)
    rw [hepoch']
    exact hmem
  cases hdiscardable : packet.flags.discardable with
  | true => exact Or.inr (Or.inr rfl)
  | false =>
      cases hadm with
      | covered hcovered =>
          rw [hexpired, observeFrameId_terminal] at hcovered
          have hbelow : atOrBelow b.expiredThroughFrameId packet.frameId := by
            rcases hcovered with hbelow | hterminal
            · exact hbelow
            · rcases hb.terminal_settled _ hterminal with hbelow | hsettled
              · exact hbelow
              · exact absurd hgap hsettled.2
          exact absurd ⟨Or.inr hgap, hover, Or.inl ⟨hbelow, Or.inr ⟨hgap, hdiscardable⟩⟩⟩ hok
      | rejectedBefore hmem =>
          rw [observeFrameId_rejected] at hmem
          exact absurd hmem hrejected
      | tooMany hnew =>
          obtain ⟨kept, _, _, heq⟩ := rejectFrame_spec _ packet.flags hnew
          refine Or.inr (Or.inl ?_)
          rw [heq]
          simp [flagLoss, hdiscardable]
      | badParity hparity hopen _ _ hcount =>
          rw [hexpired] at hopen
          rw [observeFrameId_maxFragments] at hcount
          exact absurd ⟨Or.inr hgap, hover, Or.inr ⟨hopen, hcount, _, hparity⟩⟩ hok
      | @abandoned base entry _ hbase hflags _ =>
          have hentry : entry.flags = packet.flags := by
            have hnone : (b.observeFrameId packet.frameId now).frames[keyOf packet]? = none := by
              rw [observeFrameId_frames]
              exact Std.ExtTreeMap.getElem?_eq_none hframe
            rw [hflags, flagsOf, hnone]
            rfl
          refine Or.inr (Or.inl ?_)
          rw [abandonFrame_referenceLoss, hentry, hdiscardable]
          simp
      | kept hbase _ => exact absurd (mem_map_insert.mpr (Or.inl rfl)) hnot
      | completed hbase _ _ _ hkey =>
          exact Or.inl ⟨_, rfl, congrArg FrameKey.frameId hkey⟩

end Packet

/-! ## The call -/

theorem not_lt_enterEpoch (m : ReassemblyMap) (streamEpoch : Nat) :
    ¬ (m.enterEpoch streamEpoch).currentEpoch < streamEpoch := by
  unfold enterEpoch
  split
  · exact Nat.lt_irrefl _
  · assumption

theorem perform_baseline (codecs : Codecs) (m : ReassemblyMap) (op : Operation) :
    (m.baseline op).perform codecs op = m.perform codecs op := by
  have hself := fun e => enterEpoch_self (m.not_lt_enterEpoch e)
  have hstale : ∀ e, (m.enterEpoch e).currentEpoch = m.currentEpoch ∧ m.enterEpoch e = m ∨
      (m.enterEpoch e).currentEpoch = e ∧ m.currentEpoch < e := by
    intro e
    unfold enterEpoch
    split
    · rename_i hlt
      exact Or.inr ⟨rfl, hlt⟩
    · exact Or.inl ⟨rfl, rfl⟩
  cases op with
  | ingestAt packet now =>
      simp only [perform, baseline]
      rcases hstale packet.streamEpoch with ⟨_, heq⟩ | ⟨hepoch, hlt⟩
      · rw [heq]
      · have hlow : ¬ packet.streamEpoch < (m.enterEpoch packet.streamEpoch).currentEpoch := by
          omega
        unfold ingestAt
        rw [if_neg hlow, if_neg (Nat.lt_asymm hlt), hself]
  | discardStaleAccessUnit streamEpoch frameId flags =>
      simp only [perform, baseline]
      rcases hstale streamEpoch with ⟨_, heq⟩ | ⟨hepoch, hlt⟩
      · rw [heq]
      · have hlow : ¬ streamEpoch < (m.enterEpoch streamEpoch).currentEpoch := by omega
        unfold discardStaleAccessUnit
        rw [if_neg hlow, if_neg (Nat.lt_asymm hlt), hself]
  | expireIncompleteOlderThan now maxAge => rfl
  | clearPending abandoned => rfl
  | takeKeyframeLoss => rfl
  | takeReferenceChainLoss => rfl

theorem baseline_setLoss_agree (m : ReassemblyMap) (op : Operation) :
    AgreeUpToLoss (m.baseline op) ((m.baseline op).setLoss false) :=
  ⟨(m.baseline op).referenceLossPending, rfl⟩

theorem perform_cleared (codecs : Codecs) (m : ReassemblyMap) {op : Operation}
    (hkeeps : op.Keeps) :
    OutcomeAgree (m.perform codecs op) (((m.baseline op).setLoss false).perform codecs op) := by
  rw [← perform_baseline codecs m op]
  exact perform_agree codecs hkeeps (m.baseline_setLoss_agree op)

theorem parityError_eq {packet : VideoPacket} {error : ReassemblyError}
    (h : parityError packet = some error) : error = .invalidFecParity := by
  unfold parityError validateParityShard at h
  split at h
  · split at h <;> grind
  · cases h

theorem keyOf_mem_of_refused {codecs : Codecs} {m : ReassemblyMap} {packet : VideoPacket}
    {firstFragmentAt : Instant}
    (h : (m.acceptPacket codecs packet firstFragmentAt).1 = .error .invalidFecParity) :
    keyOf packet ∈ (m.acceptPacket codecs packet firstFragmentAt).2.frames := by
  unfold acceptPacket at h ⊢
  dsimp only at h ⊢
  split at h
  · cases h
  · rename_i hcount
    rw [if_neg hcount]
    split at h
    · cases h
    · rename_i hmetadata
      rw [if_neg hmetadata]
      split at h
      · exact mem_map_insert.mpr (Or.inl rfl)
      · unfold finishFrame at h
        split at h
        · cases h
        · split at h <;> cases h

theorem admitPacket_covered (codecs : Codecs) {m : ReassemblyMap} {packet : VideoPacket}
    (firstFragmentAt : Instant) (h : atOrBelow m.expiredThroughFrameId packet.frameId) :
    m.admitPacket codecs packet firstFragmentAt = (.ok none, m) := by
  unfold admitPacket
  exact if_pos (Or.inl h)

/-- A packet that is refused for its parity shard is in a frame of the map, or fails the check
before it gets to its frame. -/
theorem admitPacket_refused {codecs : Codecs} {m : ReassemblyMap} {packet : VideoPacket}
    {firstFragmentAt : Instant}
    (h : (m.admitPacket codecs packet firstFragmentAt).1 = .error .invalidFecParity) :
    keyOf packet ∈ (m.admitPacket codecs packet firstFragmentAt).2.frames ∨
      ¬ atOrBelow m.expiredThroughFrameId packet.frameId ∧
        packet.fragmentCount ≤ m.maxFragments ∧ (∃ error, parityError packet = some error) ∧
        (m.admitPacket codecs packet firstFragmentAt).2 = m.makeRoom (keyOf packet) := by
  unfold admitPacket at h ⊢
  dsimp only at h ⊢
  split at h
  · cases h
  · rename_i hopen
    rw [if_neg hopen]
    split at h
    · cases h
    · rename_i hrejected
      rw [if_neg hrejected]
      split at h
      · cases h
      · rename_i hcount
        rw [if_neg hcount]
        cases hparity : parityError packet with
        | some error =>
            exact Or.inr ⟨fun hbelow => hopen (Or.inl hbelow), Nat.not_lt.mp hcount,
              ⟨error, rfl⟩, rfl⟩
        | none =>
            rw [hparity] at h
            exact Or.inl (keyOf_mem_of_refused h)

theorem admitPacket_badParity (codecs : Codecs) {m : ReassemblyMap} {packet : VideoPacket}
    (firstFragmentAt : Instant) {error : ReassemblyError}
    (hopen : ¬ atOrBelow m.expiredThroughFrameId packet.frameId)
    (hterminal : keyOf packet ∉ m.terminalFrames) (hrejected : keyOf packet ∉ m.rejectedFrames)
    (hcount : packet.fragmentCount ≤ m.maxFragments) (hparity : parityError packet = some error) :
    m.admitPacket codecs packet firstFragmentAt =
      (.error error, m.makeRoom (keyOf packet)) := by
  unfold admitPacket
  dsimp only
  rw [if_neg (not_or.mpr ⟨hopen, hterminal⟩), if_neg hrejected, if_neg (Nat.not_lt.mpr hcount),
    hparity]

section Ingest

variable {codecs : Codecs} {m : ReassemblyMap} {packet : VideoPacket} {now : Instant}

/-- The map after observation, from the cleared flag. -/
def observedFrom (m : ReassemblyMap) (packet : VideoPacket) (now : Instant) : ReassemblyMap :=
  ((m.enterEpoch packet.streamEpoch).setLoss false).observeFrameId packet.frameId now

/-- The outcome of the packet, from the cleared flag. -/
def clearedOutcome (codecs : Codecs) (m : ReassemblyMap) (packet : VideoPacket)
    (now : Instant) : IngestResult × ReassemblyMap :=
  (observedFrom m packet now).admitPacket codecs packet
    ((m.enterEpoch packet.streamEpoch).frameGaps[packet.frameId]?.getD now)

theorem clearedOutcome_cases (codecs : Codecs) (m : ReassemblyMap) (packet : VideoPacket)
    (now : Instant) :
    Admission (observedFrom m packet now) packet (clearedOutcome codecs m packet now).1
      (clearedOutcome codecs m packet now).2 :=
  admitPacket_cases codecs _ packet _

theorem ingestAt_cleared (codecs : Codecs) (now : Instant)
    (hepoch : ¬ packet.streamEpoch < m.currentEpoch) :
    ((m.enterEpoch packet.streamEpoch).setLoss false).ingestAt codecs packet now =
      clearedOutcome codecs m packet now := by
  have hcurrent : ((m.enterEpoch packet.streamEpoch).setLoss false).currentEpoch =
      packet.streamEpoch := enterEpoch_currentEpoch hepoch
  have hself : ((m.enterEpoch packet.streamEpoch).setLoss false).enterEpoch
      packet.streamEpoch = (m.enterEpoch packet.streamEpoch).setLoss false :=
    enterEpoch_self (by rw [hcurrent]; exact Nat.lt_irrefl _)
  unfold ingestAt
  rw [if_neg (by rw [hcurrent]; exact Nat.lt_irrefl _), hself]
  rfl

theorem ingestAt_eq_cleared (codecs : Codecs) (now : Instant)
    (hepoch : ¬ packet.streamEpoch < m.currentEpoch) :
    (m.perform codecs (.ingestAt packet now)).1 =
        returned (clearedOutcome codecs m packet now).1 ∧
      ∃ pending, (m.perform codecs (.ingestAt packet now)).2 =
        (clearedOutcome codecs m packet now).2.setLoss pending := by
  have hagree := @perform_cleared codecs m (.ingestAt packet now) trivial
  simp only [perform, baseline, ingestAt_cleared codecs now hepoch] at hagree
  exact hagree

theorem ingestAt_result (codecs : Codecs) (now : Instant)
    (hepoch : ¬ packet.streamEpoch < m.currentEpoch) :
    (m.ingestAt codecs packet now).1 = (clearedOutcome codecs m packet now).1 := by
  have hagree := (m.baseline_setLoss_agree (.ingestAt packet now)).observeFrameId packet.frameId now
  unfold ingestAt
  rw [if_neg hepoch]
  exact (hagree.admitPacket codecs packet _).1

theorem lossRaised_ingestAt (hepoch : ¬ packet.streamEpoch < m.currentEpoch) :
    m.LossRaised codecs (.ingestAt packet now) ↔
      (clearedOutcome codecs m packet now).2.referenceLossPending = true := by
  simp only [LossRaised, perform, baseline, ingestAt_cleared codecs now hepoch]

theorem returns_ingestAt (hepoch : ¬ packet.streamEpoch < m.currentEpoch) {id : Nat} :
    m.Returns codecs (.ingestAt packet now) id ↔
      ∃ unit, returned (clearedOutcome codecs m packet now).1 = some unit ∧
        unit.frameId = id := by
  rw [Returns, (ingestAt_eq_cleared codecs now hepoch).1]

theorem knownFlags_of_frame (m : ReassemblyMap) (op : Operation) {id : Nat}
    {frame : PartialFrame}
    (hframe : m.frames[(⟨m.currentEpoch, id⟩ : FrameKey)]? = some frame) :
    m.knownFlags op id = some frame.flags := by
  rw [knownFlags, hframe]
  rfl

theorem knownFlags_of_packet {b : ReassemblyMap}
    (hframe : (⟨b.currentEpoch, packet.frameId⟩ : FrameKey) ∉ b.frames) :
    b.knownFlags (.ingestAt packet now) packet.frameId = some packet.flags := by
  rw [knownFlags, Std.ExtTreeMap.getElem?_eq_none hframe]
  simp [Operation.flagsFor]

/-- A packet dropped at the boundary after its gap was closed, or after it advanced the
highest id, breaks the property. -/
theorem breaks_of_covered (h : WellFormed m) (hepoch : ¬ packet.streamEpoch < m.currentEpoch)
    (hobserved : (m.enterEpoch packet.streamEpoch).Advances packet.frameId ∨
      packet.frameId ∈ (m.enterEpoch packet.streamEpoch).frameGaps)
    (hover : ¬ (m.enterEpoch packet.streamEpoch).GapOverflow packet.frameId)
    (hbelow : atOrBelow (m.enterEpoch packet.streamEpoch).expiredThroughFrameId packet.frameId)
    (hcase : keyOf packet ∉ (m.enterEpoch packet.streamEpoch).terminalFrames ∨
      packet.frameId ∈ (m.enterEpoch packet.streamEpoch).frameGaps ∧
        packet.flags.discardable = false) :
    ¬ m.NoSilentLoss codecs (.ingestAt packet now) := by
  intro hno
  have hb := h.enterEpoch packet.streamEpoch
  have hcurrent := enterEpoch_currentEpoch hepoch
  obtain ⟨hframe, hrejected⟩ := hb.fresh (keyOf packet) hobserved
  have hexpired := observeFrameId_expired
    ((m.enterEpoch packet.streamEpoch).setLoss false) packet.frameId now hover
  have hloss := observeFrameId_referenceLoss
    ((m.enterEpoch packet.streamEpoch).setLoss false) packet.frameId now hover
  have heq : clearedOutcome codecs m packet now = (.ok none, observedFrom m packet now) :=
    admitPacket_covered codecs _ (by rw [observedFrom, hexpired]; exact hbelow)
  obtain ⟨_, pending, hmap⟩ := ingestAt_eq_cleared codecs now hepoch
  have hquiet : ¬ m.LossRaised codecs (.ingestAt packet now) := by
    rw [lossRaised_ingestAt hepoch, heq]
    dsimp only
    rw [observedFrom, hloss]
    exact Bool.false_ne_true
  have hnone : ∀ id, ¬ m.Returns codecs (.ingestAt packet now) id := by
    intro id hret
    rw [returns_ingestAt hepoch, heq] at hret
    obtain ⟨unit, hunit, _⟩ := hret
    cases hunit
  rw [heq] at hmap
  dsimp only at hmap
  have hterminal : keyOf packet ∈ (m.enterEpoch packet.streamEpoch).terminalFrames := by
    have haccount := hno.observed packet now rfl hepoch hobserved
    rw [hmap, setLoss_frames, setLoss_terminal, setLoss_rejected, observedFrom,
      observeFrameId_frames, observeFrameId_terminal, observeFrameId_rejected] at haccount
    rcases haccount with hret | hmem | hmem | hmem | hflag
    · exact absurd hret (hnone _)
    · exact absurd hmem hframe
    · exact hmem
    · exact absurd hmem hrejected
    · exact absurd hflag hquiet
  rcases hcase with hnot | ⟨hgap, hdiscardable⟩
  · exact hnot hterminal
  · have hgone : ¬ (m.perform codecs (.ingestAt packet now)).2.Tracked packet.frameId := by
      rw [hmap]
      rintro (hmem | hmem)
      · rw [setLoss_frames, setLoss_epoch, observedFrom, observeFrameId_frames,
          observeFrameId_epoch, setLoss_epoch, hcurrent] at hmem
        exact hframe hmem
      · exact (settled_observe_self _ packet.frameId now).2 hmem
    rcases hno.leaves packet.frameId (Or.inr hgap) hgone with
      hret | hflag | ⟨flags, hknown, hflags⟩ | ⟨abandoned, hop⟩
    · exact hnone _ hret
    · exact hquiet hflag
    · have hpacket := @knownFlags_of_packet packet now (m.enterEpoch packet.streamEpoch)
        (by rw [hcurrent]; exact hframe)
      have hsame : some flags = some packet.flags := hknown.symm.trans hpacket
      rw [Option.some.inj hsame, hdiscardable] at hflags
      cases hflags
    · cases hop

/-- A packet refused for its parity shard after its gap was closed, or after it advanced the
highest id, breaks the property. -/
theorem breaks_of_badParity (h : WellFormed m)
    (hepoch : ¬ packet.streamEpoch < m.currentEpoch)
    (hobserved : (m.enterEpoch packet.streamEpoch).Advances packet.frameId ∨
      packet.frameId ∈ (m.enterEpoch packet.streamEpoch).frameGaps)
    (hover : ¬ (m.enterEpoch packet.streamEpoch).GapOverflow packet.frameId)
    (hopen : ¬ atOrBelow (m.enterEpoch packet.streamEpoch).expiredThroughFrameId
      packet.frameId)
    (hcount : packet.fragmentCount ≤ (m.enterEpoch packet.streamEpoch).maxFragments)
    {error : ReassemblyError} (hparity : parityError packet = some error) :
    ¬ m.NoSilentLoss codecs (.ingestAt packet now) := by
  intro hno
  have hb := h.enterEpoch packet.streamEpoch
  obtain ⟨hframe, hrejected⟩ := hb.fresh (keyOf packet) hobserved
  have hcurrent := enterEpoch_currentEpoch hepoch
  have hexpired := observeFrameId_expired
    ((m.enterEpoch packet.streamEpoch).setLoss false) packet.frameId now hover
  have hterminal : keyOf packet ∉ (m.enterEpoch packet.streamEpoch).terminalFrames := by
    intro hmem
    rcases hb.terminal_settled _ hmem with hbelow | hsettled
    · exact hopen hbelow
    · rcases hobserved with hadvances | hgap
      · exact hadvances hsettled.1
      · exact hsettled.2 hgap
  have heq : clearedOutcome codecs m packet now =
      (.error error, (observedFrom m packet now).makeRoom (keyOf packet)) := by
    refine admitPacket_badParity codecs _ ?_ ?_ ?_ ?_ hparity
    · rw [observedFrom, hexpired]
      exact hopen
    · rw [observedFrom, observeFrameId_terminal]
      exact hterminal
    · rw [observedFrom, observeFrameId_rejected]
      exact hrejected
    · rw [observedFrom, observeFrameId_maxFragments]
      exact hcount
  obtain ⟨_, pending, hmap⟩ := ingestAt_eq_cleared codecs now hepoch
  have hrefused : (m.ingestAt codecs packet now).1 = .error .invalidFecParity := by
    rw [ingestAt_result codecs now hepoch, heq, parityError_eq hparity]
  have hobserved' : (m.enterEpoch packet.streamEpoch).Tracked packet.frameId ∨
      (m.enterEpoch packet.streamEpoch).Advances packet.frameId :=
    hobserved.symm.imp_left Or.inr
  rcases hno.refused packet now rfl hrefused hobserved' with htracked | hfar
  · rw [hmap, heq] at htracked
    rcases htracked with hmem | hmem
    · have hmem' := makeRoom_frames_subset hmem
      rw [observedFrom, observeFrameId_frames, setLoss_epoch, makeRoom_epoch,
        observeFrameId_epoch, setLoss_epoch, hcurrent] at hmem'
      exact hframe hmem'
    · rw [setLoss_frameGaps, makeRoom_frameGaps] at hmem
      exact (settled_observe_self _ packet.frameId now).2 hmem
  · exact hover hfar

/-- A packet that is not silently untracked and refused for its parity shard leaves its frame
tracked. -/
theorem refused_of_accounted (hepoch : ¬ packet.streamEpoch < m.currentEpoch)
    (hok : ¬ (m.enterEpoch packet.streamEpoch).SilentlyUntracked packet)
    (hrefused : (m.ingestAt codecs packet now).1 = .error .invalidFecParity)
    (hknown : (m.enterEpoch packet.streamEpoch).Tracked packet.frameId ∨
      (m.enterEpoch packet.streamEpoch).Advances packet.frameId) :
    (clearedOutcome codecs m packet now).2.Tracked packet.frameId ∨
      (m.enterEpoch packet.streamEpoch).GapOverflow packet.frameId := by
  have hcurrent := enterEpoch_currentEpoch hepoch
  have hafter : (clearedOutcome codecs m packet now).2.currentEpoch = packet.streamEpoch := by
    rw [(clearedOutcome_cases codecs m packet now).same.2.2.1, observedFrom,
      observeFrameId_epoch, setLoss_epoch, hcurrent]
  have htracked : keyOf packet ∈ (clearedOutcome codecs m packet now).2.frames →
      (clearedOutcome codecs m packet now).2.Tracked packet.frameId := by
    intro hmem
    refine Or.inl ?_
    rw [hafter]
    exact hmem
  rw [ingestAt_result codecs now hepoch] at hrefused
  rcases admitPacket_refused hrefused with hmem | ⟨hopen, hcount, hparity, hmap⟩
  · exact Or.inl (htracked hmem)
  · by_cases hover : (m.enterEpoch packet.streamEpoch).GapOverflow packet.frameId
    · exact Or.inr hover
    rw [observedFrom, observeFrameId_expired
      ((m.enterEpoch packet.streamEpoch).setLoss false) packet.frameId now hover] at hopen
    rw [observedFrom, observeFrameId_maxFragments] at hcount
    rcases hknown with (hframe | hgap) | hadvances
    · refine Or.inl (htracked ?_)
      have hmem : keyOf packet ∈ (observedFrom m packet now).frames := by
        rw [observedFrom, observeFrameId_frames]
        rw [hcurrent] at hframe
        exact hframe
      rw [clearedOutcome, hmap, makeRoom_of_mem hmem]
      exact hmem
    · exact absurd ⟨Or.inr hgap, hover, Or.inr ⟨hopen, hcount, hparity⟩⟩ hok
    · exact absurd ⟨Or.inl hadvances, hover, Or.inr ⟨hopen, hcount, hparity⟩⟩ hok

theorem noSilentLoss_of_accounted (h : WellFormed m)
    (hepoch : ¬ packet.streamEpoch < m.currentEpoch)
    (hok : ¬ (m.enterEpoch packet.streamEpoch).SilentlyUntracked packet) :
    m.NoSilentLoss codecs (.ingestAt packet now) := by
  have hb₀ := (h.enterEpoch packet.streamEpoch).setLoss false
  have hcurrent := enterEpoch_currentEpoch hepoch
  have hadm := clearedOutcome_cases codecs m packet now
  obtain ⟨hgaps, hhighest, hsameEpoch, _⟩ := hadm.same
  obtain ⟨_, pending, hmap⟩ := ingestAt_eq_cleared codecs now hepoch
  refine ⟨?_, ?_, ?_, ?_⟩
  · intro id htracked hgone
    rw [returns_ingestAt hepoch, lossRaised_ingestAt hepoch]
    have hgone' : ¬ (clearedOutcome codecs m packet now).2.Tracked id := by
      rwa [hmap] at hgone
    rcases htracked with hframe | hgap
    · -- A frame leaves: it is returned, evicted or abandoned.
      have hleft : (⟨(m.enterEpoch packet.streamEpoch).currentEpoch, id⟩ : FrameKey) ∉
          (clearedOutcome codecs m packet now).2.frames := by
        intro hmem
        refine hgone' (Or.inl ?_)
        rw [hsameEpoch, observedFrom, observeFrameId_epoch, setLoss_epoch]
        exact hmem
      have hframe' : (⟨(m.enterEpoch packet.streamEpoch).currentEpoch, id⟩ : FrameKey) ∈
          (observedFrom m packet now).frames := by
        rw [observedFrom, observeFrameId_frames]
        exact hframe
      rcases hadm.frames_leave hframe' hleft with hret | hflag | ⟨frame, hget, hflags⟩
      · exact Or.inl hret
      · exact Or.inr (Or.inl hflag)
      · rw [observedFrom, observeFrameId_frames] at hget
        exact Or.inr (Or.inr (Or.inl
          ⟨frame.flags, knownFlags_of_frame _ _ hget, hflags⟩))
    · -- A gap leaves: by an overflow, or as the packet's own.
      by_cases hover : (m.enterEpoch packet.streamEpoch).GapOverflow packet.frameId
      · have hflag := (observeFrameId_overflow
          ((m.enterEpoch packet.streamEpoch).setLoss false) packet.frameId now hover).2.2
        exact Or.inr (Or.inl (hadm.loss_mono hflag))
      · have hown : id = packet.frameId := by
          by_contra hne
          refine hgone' (Or.inr ?_)
          rw [hgaps]
          exact (mem_observeFrameId_frameGaps
            ((m.enterEpoch packet.streamEpoch).setLoss false) _ now hover).mpr
              (Or.inl ⟨hne, hgap⟩)
        subst hown
        rcases hadm.ownGap hb₀ hcurrent.symm hok hover hgap hgone' with hret | hflag | hflags
        · exact Or.inl hret
        · exact Or.inr (Or.inl hflag)
        · have hframe := (hb₀.fresh (keyOf packet) (Or.inr hgap)).1
          refine Or.inr (Or.inr (Or.inl ⟨packet.flags, knownFlags_of_packet ?_, hflags⟩))
          change (⟨(m.enterEpoch packet.streamEpoch).currentEpoch, packet.frameId⟩ :
            FrameKey) ∉ _
          rw [hcurrent]
          exact hframe
  · intro id highest highest' hold hnew hlt hlt'
    rw [lossRaised_ingestAt hepoch, hmap, setLoss_frameGaps, hgaps]
    by_cases hover : (m.enterEpoch packet.streamEpoch).GapOverflow packet.frameId
    · have hflag := (observeFrameId_overflow
        ((m.enterEpoch packet.streamEpoch).setLoss false) packet.frameId now hover).2.2
      exact Or.inr (hadm.loss_mono hflag)
    · left
      have hid : id < packet.frameId := by
        have hbound : atOrBelow (observedFrom m packet now).highestObservedFrameId highest' := by
          rw [hmap, setLoss_highest, hhighest] at hnew
          rw [hnew, atOrBelow_some]
        rw [observedFrom, observeFrameId_highest] at hbound
        rcases hbound with hbound | hbound
        · have hle : highest' ≤ highest := by
            obtain ⟨current, hcur, hle⟩ := hbound
            have : some current = some highest := hcur.symm.trans hold
            cases this
            exact hle
          omega
        · omega
      exact (mem_observeFrameId_frameGaps
        ((m.enterEpoch packet.streamEpoch).setLoss false) _ now hover).mpr
          (Or.inr ⟨highest, hold, hlt, hid⟩)
  · intro packet' now' hop _ hobserved
    cases hop
    rw [returns_ingestAt hepoch, lossRaised_ingestAt hepoch, hmap]
    exact hadm.accounts hb₀ hok hobserved
  · intro packet' now' hop hrefused hknown
    cases hop
    rw [hmap]
    exact refused_of_accounted hepoch hok hrefused hknown

end Ingest

/-! ## The other operations -/

theorem noSilentLoss_of_leaves {codecs : Codecs} {m : ReassemblyMap} {op : Operation}
    (hop : ∀ packet now, op ≠ .ingestAt packet now)
    (hhighest : (m.perform codecs op).2.highestObservedFrameId =
      (m.baseline op).highestObservedFrameId)
    (hleaves : ∀ id, (m.baseline op).Tracked id → ¬ (m.perform codecs op).2.Tracked id →
      m.LossRaised codecs op ∨
        (∃ flags, (m.baseline op).knownFlags op id = some flags ∧ flags.discardable = true) ∨
        ∃ abandoned, op = .clearPending abandoned) :
    m.NoSilentLoss codecs op := by
  refine ⟨fun id htracked hgone => Or.inr (hleaves id htracked hgone), ?_, ?_, ?_⟩
  · intro id highest highest' hold hnew hlt hlt'
    rw [hhighest, hold] at hnew
    cases hnew
    omega
  · intro packet now heq
    exact absurd heq (hop packet now)
  · intro packet now heq
    exact absurd heq (hop packet now)

theorem foldl_expireFrame_loss {keys : List FrameKey} {m : ReassemblyMap}
    (h : m.referenceLossPending = true ∨ ∃ k ∈ keys, ∃ frame, m.frames[k]? = some frame ∧
      frame.flags.discardable = false) :
    (keys.foldl expireFrame m).referenceLossPending = true := by
  induction keys generalizing m with
  | nil =>
      rcases h with hloss | ⟨k, hk, _⟩
      · exact hloss
      · cases hk
  | cons key keys ih =>
      obtain ⟨_, _, hframes, hflag⟩ := m.expireFrame_spec key
      rw [List.foldl_cons]
      apply ih
      rcases h with hloss | ⟨k, hk, frame, hget, hdiscardable⟩
      · exact Or.inl (hflag.mpr (Or.inl hloss))
      · by_cases hsame : k = key
        · subst hsame
          exact Or.inl (hflag.mpr (Or.inr ⟨frame, hget, hdiscardable⟩))
        · refine Or.inr ⟨k, (List.mem_cons.mp hk).resolve_left hsame, frame, ?_, hdiscardable⟩
          unfold expireFrame
          cases m.frames[key]? with
          | none => exact hget
          | some other =>
              change (m.frames.erase key)[k]? = some frame
              rw [Std.ExtTreeMap.getElem?_erase, if_neg]
              · exact hget
              · rw [Std.compare_eq_iff_eq]
                exact fun heq => hsame heq.symm

theorem expireGaps_loss {m : ReassemblyMap} {through : Nat}
    (h : m.referenceLossPending = true ∨ ∃ id ∈ m.frameGaps, id ≤ through) :
    (m.expireGaps through).referenceLossPending = true := by
  unfold expireGaps
  dsimp only
  split
  · rename_i hnone
    rcases h with hloss | ⟨id, hid, hle⟩
    · exact hloss
    · have hmem : id ∈ m.frameGaps.filter fun id _ => id ≤ through := by
        rw [Std.ExtTreeMap.mem_filter]
        exact ⟨hid, by simpa using hle⟩
      rw [Std.ExtTreeMap.eq_empty_iff_size_eq_zero.mpr hnone] at hmem
      exact absurd hmem Std.ExtTreeMap.not_mem_empty
  · rfl

theorem expireThrough_loss {m : ReassemblyMap} (through : Nat) {id : Nat} (hle : id ≤ through)
    (h : (∃ (k : FrameKey) (frame : PartialFrame), k.frameId = id ∧ m.frames[k]? = some frame ∧
      frame.flags.discardable = false) ∨ id ∈ m.frameGaps) :
    (m.expireThrough through).referenceLossPending = true := by
  change (ReassemblyMap.expireGaps _ through).referenceLossPending = true
  apply expireGaps_loss
  rcases h with ⟨k, frame, rfl, hget, hdiscardable⟩ | hgap
  · refine Or.inl (foldl_expireFrame_loss (Or.inr ⟨k, ?_, frame, hget, hdiscardable⟩))
    rw [List.mem_filter, Std.ExtTreeMap.mem_keys, decide_eq_true_eq]
    exact ⟨mem_frames_of_getElem? hget, hle⟩
  · refine Or.inr ⟨id, ?_, hle⟩
    rw [(foldl_expireFrame_spec _ m).1.gaps]
    exact hgap

theorem noSilentLoss_expire (codecs : Codecs) (m : ReassemblyMap) (now : Instant)
    (maxAge : Duration) :
    m.NoSilentLoss codecs (.expireIncompleteOlderThan now maxAge) := by
  obtain ⟨_, pending, hmap⟩ :=
    @perform_cleared codecs m (.expireIncompleteOlderThan now maxAge) trivial
  simp only [perform, baseline] at hmap
  have hcases := (m.setLoss false).expireIncompleteOlderThan_cases now maxAge
  refine noSilentLoss_of_leaves (fun _ _ => Operation.noConfusion) ?_ ?_
  · simp only [perform, baseline, hmap, setLoss_highest]
    rcases hcases with heq | ⟨through, heq⟩ <;> rw [heq]
    · rfl
    · exact ((m.setLoss false).expireThrough_spec through).2.1
  · intro id htracked hgone
    simp only [perform, hmap] at hgone
    rcases hcases with heq | ⟨through, heq⟩
    · rw [heq] at hgone
      exact absurd htracked hgone
    · have hraise : ((m.setLoss false).expireThrough through).referenceLossPending = true →
          m.LossRaised codecs (.expireIncompleteOlderThan now maxAge) := by
        intro hflag
        simpa only [LossRaised, perform, baseline, heq] using hflag
      obtain ⟨hepoch, _, _, _, hframes, hgaps, _⟩ :=
        (m.setLoss false).expireThrough_spec through
      rw [heq] at hgone
      have hgone' : ¬ ((m.setLoss false).expireThrough through).Tracked id := hgone
      rw [Tracked, hepoch, hframes, hgaps, not_or] at hgone'
      rcases htracked with hframe | hgap
      · have hle : id ≤ through := by
          by_contra hlt
          exact hgone'.1 ⟨Nat.not_le.mp hlt, hframe⟩
        obtain ⟨frame, hget⟩ := Option.isSome_iff_exists.mp
          (Std.ExtTreeMap.mem_iff_isSome_getElem?.mp hframe)
        cases hdiscardable : frame.flags.discardable with
        | true => exact Or.inr (Or.inl ⟨_, knownFlags_of_frame m _ hget, hdiscardable⟩)
        | false =>
            exact Or.inl (hraise (expireThrough_loss through hle
              (Or.inl ⟨_, _, rfl, hget, hdiscardable⟩)))
      · have hle : id ≤ through := by
          by_contra hlt
          exact hgone'.2 ⟨Nat.not_le.mp hlt, hgap⟩
        exact Or.inl (hraise (expireThrough_loss through hle (Or.inr hgap)))

theorem noSilentLoss_discard (codecs : Codecs) (m : ReassemblyMap) (streamEpoch frameId : Nat)
    (flags : VideoPacketFlags) :
    m.NoSilentLoss codecs (.discardStaleAccessUnit streamEpoch frameId flags) := by
  obtain ⟨_, pending, hmap⟩ :=
    @perform_cleared codecs m (.discardStaleAccessUnit streamEpoch frameId flags) trivial
  simp only [perform, baseline] at hmap
  have hraise : (((m.enterEpoch streamEpoch).setLoss false).discardStaleAccessUnit streamEpoch
      frameId flags).2.referenceLossPending = true →
      m.LossRaised codecs (.discardStaleAccessUnit streamEpoch frameId flags) := id
  have hself : ((m.enterEpoch streamEpoch).setLoss false).enterEpoch streamEpoch =
      (m.enterEpoch streamEpoch).setLoss false :=
    enterEpoch_self (m.not_lt_enterEpoch streamEpoch)
  have hcases := ((m.enterEpoch streamEpoch).setLoss false).discardStaleAccessUnit_cases
    streamEpoch frameId flags
  rw [hself] at hcases
  refine noSilentLoss_of_leaves (fun _ _ => Operation.noConfusion) ?_ ?_
  · simp only [perform, baseline, hmap, setLoss_highest]
    rcases hcases with heq | ⟨_, heq⟩ <;> rw [heq] <;> rfl
  · intro id htracked hgone
    simp only [perform, hmap] at hgone
    rcases hcases with heq | ⟨hepoch, heq⟩
    · rw [heq] at hgone
      exact absurd htracked hgone
    · rw [heq] at hgone hraise
      have hepoch' : (m.enterEpoch streamEpoch).currentEpoch = streamEpoch := hepoch
      have hown : id = frameId := by
        by_contra hne
        apply hgone
        rcases htracked with hframe | hgap
        · refine Or.inl (mem_map_erase.mpr ⟨?_, hframe⟩)
          exact fun hkey => hne (congrArg FrameKey.frameId hkey)
        · exact Or.inr (mem_map_erase.mpr ⟨hne, hgap⟩)
      subst hown
      cases hget : (m.enterEpoch streamEpoch).frames[(⟨streamEpoch, id⟩ : FrameKey)]? with
      | some frame =>
          cases hdiscardable : frame.flags.discardable with
          | true =>
              refine Or.inr (Or.inl ⟨frame.flags, ?_, hdiscardable⟩)
              exact knownFlags_of_frame _ _ (by rw [baseline, hepoch', hget])
          | false =>
              refine Or.inl (hraise ?_)
              simp [discardFrame, flagLoss, hget, hdiscardable]
      | none =>
          cases hdiscardable : flags.discardable with
          | true =>
              refine Or.inr (Or.inl ⟨flags, ?_, hdiscardable⟩)
              rw [knownFlags, baseline, hepoch', hget]
              simp [Operation.flagsFor]
          | false =>
              refine Or.inl (hraise ?_)
              simp [discardFrame, flagLoss, hget, hdiscardable]

/-! ## The exact condition -/

/-- In every reachable state a call loses nothing silently exactly when it accounts for the
packet that it ingests. -/
theorem noSilentLoss_iff {codecs : Codecs} {maxFrames maxFragments : Nat} {m : ReassemblyMap}
    {op : Operation} (hm : (system codecs maxFrames maxFragments).Reachable m) :
    m.NoSilentLoss codecs op ↔ m.Accounted op := by
  have h := wellFormed_of_reachable hm
  have htrivial : ∀ {op : Operation}, (∀ packet now, op ≠ .ingestAt packet now) →
      m.Accounted op := fun hop packet now heq => absurd heq (hop packet now)
  cases op with
  | ingestAt packet now =>
      constructor
      · rintro hno packet' now' hop hepoch ⟨hobserved, hover, hbad⟩
        cases hop
        rcases hbad with ⟨hbelow, hcase⟩ | ⟨hopen, hcount, error, hparity⟩
        · exact breaks_of_covered h hepoch hobserved hover hbelow hcase hno
        · exact breaks_of_badParity h hepoch hobserved hover hopen hcount hparity hno
      · intro hok
        by_cases hepoch : packet.streamEpoch < m.currentEpoch
        · -- A packet of an older epoch changes nothing.
          have hself : m.enterEpoch packet.streamEpoch = m :=
            enterEpoch_self (Nat.lt_asymm hepoch)
          have hsame : (m.perform codecs (.ingestAt packet now)).2 = m := by
            simp only [perform, ReassemblyMap.ingestAt, if_pos hepoch]
          refine ⟨?_, ?_, ?_, ?_⟩
          · intro id htracked hgone
            rw [hsame] at hgone
            rw [baseline, hself] at htracked
            exact absurd htracked hgone
          · intro id highest highest' hold hnew hlt hlt'
            rw [hsame] at hnew
            rw [baseline, hself, hnew] at hold
            cases hold
            omega
          · intro packet' now' hop hepoch'
            cases hop
            exact absurd hepoch hepoch'
          · intro packet' now' hop hrefused
            cases hop
            rw [ReassemblyMap.ingestAt, if_pos hepoch] at hrefused
            cases hrefused
        · exact noSilentLoss_of_accounted h hepoch (hok packet now rfl hepoch)
  | expireIncompleteOlderThan now maxAge =>
      exact ⟨fun _ => htrivial fun _ _ => Operation.noConfusion,
        fun _ => noSilentLoss_expire codecs m now maxAge⟩
  | discardStaleAccessUnit streamEpoch frameId flags =>
      exact ⟨fun _ => htrivial fun _ _ => Operation.noConfusion,
        fun _ => noSilentLoss_discard codecs m streamEpoch frameId flags⟩
  | clearPending abandoned =>
      refine ⟨fun _ => htrivial fun _ _ => Operation.noConfusion, fun _ => ?_⟩
      refine noSilentLoss_of_leaves (fun _ _ => Operation.noConfusion) ?_ ?_
      · exact (foldl_rememberTerminal_sameIds abandoned _).1.highest
      · exact fun _ _ _ => Or.inr (Or.inr ⟨abandoned, rfl⟩)
  | takeKeyframeLoss =>
      refine ⟨fun _ => htrivial fun _ _ => Operation.noConfusion, fun _ => ?_⟩
      exact noSilentLoss_of_leaves (fun _ _ => Operation.noConfusion) rfl
        fun _ htracked hgone => absurd htracked hgone
  | takeReferenceChainLoss =>
      refine ⟨fun _ => htrivial fun _ _ => Operation.noConfusion, fun _ => ?_⟩
      exact noSilentLoss_of_leaves (fun _ _ => Operation.noConfusion) rfl
        fun _ htracked hgone => absurd htracked hgone

/-- A map for one frame at a time: frame 1 is complete, frame 3 waits for its second fragment,
and frame 2 is a gap. -/
def gapBeforePartial : ReassemblyMap :=
  (((new 1 1024).perform noCodecs (.ingestAt (wholeFrame 1) 0)).2.perform noCodecs
    (.ingestAt (halfFrame 3) 0)).2

theorem gapBeforePartial_reachable : (system noCodecs 1 1024).Reachable gapBeforePartial := by
  have h₁ := TransitionSystem.Reachable.step
    (T := system noCodecs 1 1024) (a := .ingestAt (wholeFrame 1) 0)
    (TransitionSystem.Reachable.of_init rfl) ⟨trivial, rfl⟩
  exact h₁.step (a := .ingestAt (halfFrame 3) 0) ⟨trivial, rfl⟩

/-- Frame 2 arrives after all, and evicts frame 3. -/
theorem noSilentLoss_iff_gapBeforePartial :
    gapBeforePartial.NoSilentLoss noCodecs (.ingestAt (wholeFrame 2) 1) ↔
      gapBeforePartial.Accounted (.ingestAt (wholeFrame 2) 1) :=
  noSilentLoss_iff gapBeforePartial_reachable

/-! ### Frame 2 is lost after an invalid parity datagram -/

/-- A parity datagram of frame 2 without its prefix. -/
def emptyParity : VideoPacket :=
  .ofSmall { VideoPacketFlags.empty with fecParity := true } 1 2 0 0 1 []

/-- Frames 1 and 3 are complete, frame 2 waits as a gap. -/
def gapAtTwo : ReassemblyMap :=
  (((new 8 1024).perform noCodecs (.ingestAt (wholeFrame 1) 0)).2.perform noCodecs
    (.ingestAt (wholeFrame 3) 0)).2

theorem emptyParity_untracks :
    (system noCodecs 8 1024).Reachable gapAtTwo ∧
      ¬ gapAtTwo.NoSilentLoss noCodecs (.ingestAt emptyParity 1) := by
  constructor
  · have h₁ := TransitionSystem.Reachable.step
      (T := system noCodecs 8 1024) (a := .ingestAt (wholeFrame 1) 0)
      (TransitionSystem.Reachable.of_init rfl) ⟨trivial, rfl⟩
    exact h₁.step (a := .ingestAt (wholeFrame 3) 0) ⟨trivial, rfl⟩
  · intro h
    have htracked : (gapAtTwo.baseline (.ingestAt emptyParity 1)).Tracked 2 := by
      decide +kernel
    have hgone : ¬ (gapAtTwo.perform noCodecs (.ingestAt emptyParity 1)).2.Tracked 2 := by
      decide +kernel
    rcases h.leaves 2 htracked hgone with hret | hraised | ⟨flags, hknown, hflags⟩ | ⟨_, hop⟩
    · have hnone : (gapAtTwo.perform noCodecs (.ingestAt emptyParity 1)).1 = none := by
        decide +kernel
      obtain ⟨unit, hunit, _⟩ := hret
      rw [hnone] at hunit
      cases hunit
    · have hquiet : ¬ gapAtTwo.LossRaised noCodecs (.ingestAt emptyParity 1) := by
        decide +kernel
      exact hquiet hraised
    · have hflags' : (gapAtTwo.baseline (.ingestAt emptyParity 1)).knownFlags
          (.ingestAt emptyParity 1) 2 = some emptyParity.flags := by
        decide +kernel
      rw [hflags'] at hknown
      cases hknown
      cases hflags
    · cases hop

end PicooCamera.Packet.ReassemblyMap
