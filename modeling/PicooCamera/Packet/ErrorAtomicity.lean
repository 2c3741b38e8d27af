import PicooCamera.Packet.Boundary
import PicooCamera.Packet.FecState
import PicooCamera.Packet.SilentLoss

/-!
# What a refused datagram leaves behind

A duplicate is refused by the frame it belongs to and changes nothing. A
malformed parity datagram is refused only after its frame id was observed and
room was made for its frame: it may untrack a gap, open new ones or evict a
healthy frame.
-/

namespace PicooCamera.Packet

open PicooCamera.Library PicooCamera.Protocol

namespace ReassemblyMap

/-- The pending frames, gaps, boundary, loss flags and counters are those of `m`. -/
structure SameMedia (m m' : ReassemblyMap) : Prop where
  frames : m'.frames = m.frames
  frameGaps : m'.frameGaps = m.frameGaps
  expired : m'.expiredThroughFrameId = m.expiredThroughFrameId
  referenceLoss : m'.referenceLossPending = m.referenceLossPending
  keyframeLoss : m'.keyframeLossPending = m.keyframeLossPending
  drops : m'.drops = m.drops
  partialDrops : m'.partialAccessUnitDrops = m.partialAccessUnitDrops
  gapDrops : m'.wholeAccessUnitGapDrops = m.wholeAccessUnitGapDrops
  missing : m'.missingFragments = m.missingFragments
  resolved : m'.resolvedFragments = m.resolvedFragments
  recovered : m'.fecRecoveredFragments = m.fecRecoveredFragments
  checks : m'.fecGroupChecks = m.fecGroupChecks
  attempts : m'.fecRecoveryAttempts = m.fecRecoveryAttempts

/-- A packet of the current epoch that is refused as malformed parity or as a duplicate leaves
the media as it was. -/
def RefusedWithoutTrace (codecs : Codecs) (m : ReassemblyMap) (packet : VideoPacket)
    (now : Instant) : Prop :=
  packet.streamEpoch = m.currentEpoch →
    ((m.ingestAt codecs packet now).1 = .error .invalidFecParity ∨
      (m.ingestAt codecs packet now).1 = .error .duplicateFragment) →
    SameMedia m (m.ingestAt codecs packet now).2

/-- The packet gets as far as the check of its parity shard, and fails it. -/
structure MalformedParity (m : ReassemblyMap) (packet : VideoPacket) : Prop where
  malformed : parityError packet ≠ none
  aboveBoundary : ¬ atOrBelow m.expiredThroughFrameId packet.frameId
  notTerminal : keyOf packet ∉ m.terminalFrames
  notRejected : keyOf packet ∉ m.rejectedFrames
  count : packet.fragmentCount ≤ m.maxFragments

/-- Some id lies between those observed so far and `frameId`. -/
def Skips (m : ReassemblyMap) (frameId : Nat) : Prop :=
  ∃ highest, m.highestObservedFrameId = some highest ∧ highest + 1 < frameId

/-- A jump to `frameId` past the gap bound has already been recorded: nothing is left to drop,
and the counters are at their end. -/
structure JumpOnRecord (m : ReassemblyMap) (frameId : Nat) : Prop where
  jump : m.GapOverflow frameId
  noGaps : m.frameGaps = ∅
  boundary : atOrBelow m.expiredThroughFrameId (frameId - 1)
  referenceLoss : m.referenceLossPending = true
  drops : m.drops = u64Max
  gapDrops : m.wholeAccessUnitGapDrops = u64Max

/-- The frame id is no gap and skips none, and its frame needs no room. -/
structure NothingToDisturb (m : ReassemblyMap) (packet : VideoPacket) : Prop where
  noGap : packet.frameId ∉ m.frameGaps
  noSkip : m.Skips packet.frameId → m.JumpOnRecord packet.frameId
  room : keyOf packet ∉ m.frames → m.frames.size < m.maxFrames

/-! ## Observing the frame id -/

theorem erase_eq_self_iff {gaps : Std.ExtTreeMap Nat Instant} {id : Nat} :
    gaps.erase id = gaps ↔ id ∉ gaps := by
  constructor
  · intro heq hmem
    rw [← heq, mem_map_erase] at hmem
    exact hmem.1 rfl
  · intro hnot
    apply Std.ExtTreeMap.ext_getElem?
    intro k
    rw [Std.ExtTreeMap.getElem?_erase]
    split
    · rename_i heq
      rw [Std.LawfulEqOrd.eq_of_compare heq] at hnot
      exact (Std.ExtTreeMap.getElem?_eq_none hnot).symm
    · rfl

theorem saturatingAdd_eq_self_iff {total more : Nat} (hmore : 0 < more) :
    saturatingAdd total more = total ↔ total = u64Max := by
  unfold saturatingAdd
  omega

variable {m : ReassemblyMap} {packet : VideoPacket} {frameId : Nat}

theorem sameMedia_observe_of (now : Instant)
    (hgaps : (m.observeFrameId frameId now).frameGaps = m.frameGaps)
    (hexpired : (m.observeFrameId frameId now).expiredThroughFrameId = m.expiredThroughFrameId)
    (hreference : (m.observeFrameId frameId now).referenceLossPending = m.referenceLossPending)
    (hdrops : (m.observeFrameId frameId now).drops = m.drops)
    (hgapDrops : (m.observeFrameId frameId now).wholeAccessUnitGapDrops =
      m.wholeAccessUnitGapDrops) : SameMedia m (m.observeFrameId frameId now) := by
  have hrest : (m.observeFrameId frameId now).keyframeLossPending = m.keyframeLossPending ∧
      (m.observeFrameId frameId now).partialAccessUnitDrops = m.partialAccessUnitDrops ∧
      (m.observeFrameId frameId now).missingFragments = m.missingFragments ∧
      (m.observeFrameId frameId now).resolvedFragments = m.resolvedFragments ∧
      (m.observeFrameId frameId now).fecRecoveredFragments = m.fecRecoveredFragments ∧
      (m.observeFrameId frameId now).fecGroupChecks = m.fecGroupChecks ∧
      (m.observeFrameId frameId now).fecRecoveryAttempts = m.fecRecoveryAttempts := by
    unfold observeFrameId
    cases m.highestObservedFrameId with
    | none => exact ⟨rfl, rfl, rfl, rfl, rfl, rfl, rfl⟩
    | some highest =>
        dsimp only
        split
        · exact ⟨rfl, rfl, rfl, rfl, rfl, rfl, rfl⟩
        · split <;> exact ⟨rfl, rfl, rfl, rfl, rfl, rfl, rfl⟩
  obtain ⟨hkeyframe, hpartial, hmissing, hresolved, hrecovered, hchecks, hattempts⟩ := hrest
  exact ⟨observeFrameId_frames _ _ _, hgaps, hexpired, hreference, hkeyframe, hdrops, hpartial,
    hgapDrops, hmissing, hresolved, hrecovered, hchecks, hattempts⟩

theorem observeFrameId_noSkip (now : Instant) (hskip : ¬ m.Skips frameId) :
    ∃ highest, m.observeFrameId frameId now =
      { m with frameGaps := m.frameGaps.erase frameId, highestObservedFrameId := highest } := by
  unfold observeFrameId
  cases hhighest : m.highestObservedFrameId with
  | none => exact ⟨_, rfl⟩
  | some highest =>
      have hnext : frameId ≤ highest + 1 := Nat.not_lt.mp fun hlt => hskip ⟨highest, hhighest, hlt⟩
      dsimp only
      by_cases hle : frameId ≤ highest
      · rw [if_pos hle]
        exact ⟨_, rfl⟩
      · have hzero : frameId - (highest + 1) = 0 := by omega
        rw [if_neg hle, hzero, if_neg (Nat.not_lt_zero _)]
        refine ⟨some frameId, ?_⟩
        unfold insertGaps
        rw [hzero]
        rfl

theorem observeFrameId_opens (now : Instant) {highest : Nat}
    (hhighest : m.highestObservedFrameId = some highest) (hskip : highest + 1 < frameId)
    (hfits : ¬ m.GapOverflow frameId) :
    highest + 1 ∈ (m.observeFrameId frameId now).frameGaps := by
  rw [mem_observeFrameId_frameGaps m frameId now hfits]
  exact Or.inr ⟨highest, hhighest, Nat.lt_succ_self highest, hskip⟩

theorem observeFrameId_overflow_drops (now : Instant) (hover : m.GapOverflow frameId) :
    ∃ missing, 0 < missing ∧
      (m.observeFrameId frameId now).drops = saturatingAdd m.drops missing ∧
      (m.observeFrameId frameId now).wholeAccessUnitGapDrops =
        saturatingAdd m.wholeAccessUnitGapDrops missing := by
  obtain ⟨highest, hhighest, hlt, hbound⟩ := hover
  refine ⟨frameId - (highest + 1), Nat.zero_lt_of_lt hbound, ?_⟩
  unfold observeFrameId
  simp only [hhighest, if_neg (Nat.not_le.mpr hlt), if_pos hbound, and_self]

theorem raiseBound_eq_self_iff {bound : Option Nat} {value : Nat} :
    some (raiseBound bound value) = bound ↔ atOrBelow bound value := by
  cases bound with
  | none => simp
  | some current =>
      rw [atOrBelow_some, Option.some_inj]
      exact max_eq_left_iff

theorem sameMedia_overflow_iff (now : Instant) (hover : m.GapOverflow frameId) :
    SameMedia m (m.observeFrameId frameId now) ↔ m.JumpOnRecord frameId := by
  obtain ⟨hgaps, hexpired, hreference⟩ := observeFrameId_overflow m frameId now hover
  obtain ⟨missing, hmissing, hdrops, hgapDrops⟩ := observeFrameId_overflow_drops now hover
  constructor
  · intro h
    exact ⟨hover, h.frameGaps.symm.trans hgaps,
      raiseBound_eq_self_iff.mp (hexpired.symm.trans h.expired),
      h.referenceLoss.symm.trans hreference,
      (saturatingAdd_eq_self_iff hmissing).mp (hdrops.symm.trans h.drops),
      (saturatingAdd_eq_self_iff hmissing).mp (hgapDrops.symm.trans h.gapDrops)⟩
  · intro h
    exact sameMedia_observe_of now (hgaps.trans h.noGaps.symm)
      (hexpired.trans (raiseBound_eq_self_iff.mpr h.boundary))
      (hreference.trans h.referenceLoss.symm)
      (hdrops.trans ((saturatingAdd_eq_self_iff hmissing).mpr h.drops))
      (hgapDrops.trans ((saturatingAdd_eq_self_iff hmissing).mpr h.gapDrops))

theorem sameMedia_observe_iff (hm : WellFormed m) (now : Instant) :
    SameMedia m (m.observeFrameId frameId now) ↔
      frameId ∉ m.frameGaps ∧ (m.Skips frameId → m.JumpOnRecord frameId) := by
  by_cases hskip : m.Skips frameId
  · obtain ⟨highest, hhighest, hlt⟩ := hskip
    have hobserved : ∀ id ∈ m.frameGaps, id ≤ highest := by
      intro id hid
      have hgap := hm.gaps_observed id hid
      rwa [hhighest, atOrBelow_some] at hgap
    have hnoGap : frameId ∉ m.frameGaps := fun hid => by
      have hle := hobserved frameId hid
      omega
    rw [and_iff_right hnoGap, imp_iff_right ⟨highest, hhighest, hlt⟩]
    by_cases hover : m.GapOverflow frameId
    · exact sameMedia_overflow_iff now hover
    · constructor
      · intro hsame
        have hopened := observeFrameId_opens now hhighest hlt hover
        rw [hsame.frameGaps] at hopened
        have hle := hobserved _ hopened
        omega
      · intro hrecord
        exact absurd hrecord.jump hover
  · rw [and_iff_left (fun h => absurd h hskip)]
    obtain ⟨highest, heq⟩ := observeFrameId_noSkip now hskip
    constructor
    · intro hsame
      have hgaps := hsame.frameGaps
      rw [heq] at hgaps
      exact erase_eq_self_iff.mp hgaps
    · intro hnot
      apply sameMedia_observe_of now <;> rw [heq]
      exact erase_eq_self_iff.mpr hnot

/-! ## Malformed parity -/

theorem atOrBelow_observe_self {now : Instant} (hopen : ¬ atOrBelow m.expiredThroughFrameId frameId) :
    ¬ atOrBelow (m.observeFrameId frameId now).expiredThroughFrameId frameId := by
  by_cases hover : m.GapOverflow frameId
  · have hpos : 0 < frameId := by
      obtain ⟨highest, -, hlt, -⟩ := hover
      omega
    rw [(observeFrameId_overflow m frameId now hover).2.1, atOrBelow_raiseBound]
    rintro (hold | hle)
    · exact hopen hold
    · omega
  · rwa [observeFrameId_expired m frameId now hover]

/-- A malformed parity datagram of the current epoch is refused after its id is observed and
room is made. -/
theorem ingestAt_malformed (codecs : Codecs) (now : Instant)
    (hepoch : packet.streamEpoch = m.currentEpoch) (h : m.MalformedParity packet) :
    m.ingestAt codecs packet now =
      (.error .invalidFecParity,
        (m.observeFrameId packet.frameId now).makeRoom (keyOf packet)) := by
  obtain ⟨error, hparity⟩ := Option.ne_none_iff_exists'.mp h.malformed
  have hclosed : ¬ (atOrBelow (m.observeFrameId packet.frameId now).expiredThroughFrameId
      packet.frameId ∨ keyOf packet ∈ (m.observeFrameId packet.frameId now).terminalFrames) := by
    rw [observeFrameId_terminal]
    rintro (hexpired | hterminal)
    · exact atOrBelow_observe_self h.aboveBoundary hexpired
    · exact h.notTerminal hterminal
  have hcount := h.count
  unfold ingestAt
  rw [if_neg (by omega), enterEpoch_self (by omega)]
  dsimp only
  unfold admitPacket
  rw [if_neg hclosed, observeFrameId_rejected, if_neg h.notRejected, observeFrameId_maxFragments,
    if_neg (by omega), hparity, parityError_eq hparity]

theorem makeRoom_frames_iff {key : FrameKey} :
    (m.makeRoom key).frames = m.frames ↔ (key ∉ m.frames → m.frames.size < m.maxFrames) := by
  have hpos := m.maxFrames_pos
  by_cases hfull : m.maxFrames ≤ m.frames.size ∧ key ∉ m.frames
  · obtain ⟨victim, hvictim⟩ := evictionVictim_isSome (m := m) (by omega)
    have hmem : victim ∈ m.frames := evictionVictim_mem hvictim
    have heq : m.makeRoom key = m.abandonFrame victim m.frames[victim] := by
      unfold makeRoom dropOldest
      rw [if_pos hfull, hvictim]
      simp only [Std.ExtTreeMap.getElem?_eq_some_getElem hmem]
    refine iff_of_false ?_ ?_
    · intro hsame
      rw [heq, abandonFrame_frames] at hsame
      rw [← hsame, mem_map_erase] at hmem
      exact hmem.1 rfl
    · intro hroom
      have hlt := hroom hfull.2
      omega
  · have heq : m.makeRoom key = m := if_neg hfull
    rw [heq]
    refine iff_of_true rfl fun hkey => ?_
    exact Nat.not_le.mp fun hge => hfull ⟨hge, hkey⟩

/-! ## Packets that meet their frame -/

theorem validateParityShard_ok {fragmentCount groupStart : Nat} {payload : Bytes}
    (h : validateParityShard fragmentCount groupStart payload = .ok ()) :
    ∃ group, fecGroupForFragment fragmentCount groupStart = some group ∧
      group.start = groupStart ∧ 2 ≤ group.len := by
  unfold validateParityShard at h
  split at h
  · exact absurd h nofun
  · split at h
    · exact absurd h nofun
    · split at h
      · exact absurd h nofun
      · split at h
        · rename_i group hgroup
          split at h
          · rename_i hvalid
            exact ⟨group, hgroup, hvalid⟩
          · exact absurd h nofun
        · exact absurd h nofun

theorem parityGroup_new (firstFragmentAt : Instant) {groupStart : Nat} {payload : Bytes}
    (h : validateParityShard packet.fragmentCount groupStart payload = .ok ()) :
    ∃ groupIx range, (newFrame packet firstFragmentAt).parityGroup groupStart =
      some (groupIx, emptyGroup range) := by
  obtain ⟨group, hgroup, hstart, hlen⟩ := validateParityShard_ok h
  have hlt : groupStart < packet.fragmentCount := by
    by_contra hge
    unfold fecGroupForFragment at hgroup
    rw [if_pos (Or.inr (Nat.not_lt.mp hge))] at hgroup
    exact absurd hgroup nofun
  rw [fecGroupForFragment_eq hlt, Option.some_inj] at hgroup
  refine ⟨fecGroupIndex packet.fragmentCount groupStart, group, ?_⟩
  unfold PartialFrame.parityGroup newFrame
  dsimp only
  rw [buildFecState_fragmentGroups hlt]
  dsimp only [bind, Option.bind]
  rw [buildFecState_groups (fecGroupIndex_lt hlt), hgroup]
  exact if_pos ⟨hstart, hlen⟩

theorem storeParityShard_new (firstFragmentAt : Instant) (hparity : packet.flags.fecParity = true)
    (h : parityError packet = none) :
    ∃ stored, (newFrame packet firstFragmentAt).storeParityShard packet.fragmentIndex
      packet.payload = .ok stored := by
  unfold parityError at h
  rw [if_pos hparity] at h
  split at h
  · exact absurd h nofun
  · rename_i hvalid
    obtain ⟨groupIx, range, hgroup⟩ := parityGroup_new firstFragmentAt hvalid
    have hfree : ((emptyGroup range).parityShards[parityIndex packet.payload]?.getD none) =
        none := by
      unfold emptyGroup
      dsimp only
      rw [List.getElem?_replicate]
      split <;> rfl
    unfold PartialFrame.storeParityShard
    rw [hgroup]
    dsimp only
    rw [hfree, if_neg (by simp)]
    exact ⟨_, rfl⟩

theorem storePacket_new (firstFragmentAt : Instant) (h : parityError packet = none) :
    ∃ stored, storePacket (newFrame packet firstFragmentAt) packet = .ok stored := by
  unfold storePacket
  by_cases hparity : packet.flags.fecParity = true
  · obtain ⟨stored, hstored⟩ := storeParityShard_new firstFragmentAt hparity h
    rw [if_pos hparity, hstored]
    exact ⟨stored, rfl⟩
  · have hnone : packet.fragmentIndex ∉ (newFrame packet firstFragmentAt).fragments :=
      Std.ExtTreeMap.not_mem_empty
    rw [if_neg hparity, if_neg hnone]
    exact ⟨_, rfl⟩

theorem finishFrame_ok (m : ReassemblyMap) (key : FrameKey) (frame : PartialFrame) :
    ∃ unit, (m.finishFrame key frame).1 = .ok unit := by
  unfold finishFrame
  split
  · exact ⟨_, rfl⟩
  · split <;> exact ⟨_, rfl⟩

theorem insert_eq_self {frames : Std.ExtTreeMap FrameKey PartialFrame} {key : FrameKey}
    {frame : PartialFrame} (h : frames[key]? = some frame) : frames.insert key frame = frames := by
  apply Std.ExtTreeMap.ext_getElem?
  intro k
  rw [Std.ExtTreeMap.getElem?_insert]
  split
  · rename_i heq
    rw [← Std.LawfulEqOrd.eq_of_compare heq, h]
  · rfl

theorem acceptPacket_refused (codecs : Codecs) {firstFragmentAt : Instant}
    (hparity : parityError packet = none)
    (h : (acceptPacket codecs m packet firstFragmentAt).1 = .error .invalidFecParity ∨
      (acceptPacket codecs m packet firstFragmentAt).1 = .error .duplicateFragment) :
    keyOf packet ∈ m.frames ∧ (acceptPacket codecs m packet firstFragmentAt).2 = m := by
  unfold acceptPacket at h ⊢
  dsimp only at h ⊢
  split at h
  · exact absurd h (by simp)
  · rename_i hcount
    rw [if_neg hcount]
    split at h
    · exact absurd h (by simp)
    · rename_i hmetadata
      rw [if_neg hmetadata]
      split at h
      · rename_i result hstore
        dsimp only
        cases hframe : m.frames[keyOf packet]? with
        | none =>
            rw [hframe, Option.getD_none] at hstore
            obtain ⟨stored, hstored⟩ := storePacket_new firstFragmentAt hparity
            cases hstore.symm.trans hstored
        | some frame =>
            refine ⟨mem_frames_of_getElem? hframe, ?_⟩
            rw [Option.getD_some, insert_eq_self hframe]
      · rename_i stored groupIx hstore
        obtain ⟨unit, hunit⟩ := finishFrame_ok
          (m.countRecovery (stored.recoverAffectedGroup codecs groupIx)) (keyOf packet)
          (stored.recoverAffectedGroup codecs groupIx).frame
        rw [hunit] at h
        exact absurd h (by simp)

/-! ## Refusals -/

theorem makeRoom_eq_self {key : FrameKey} (h : key ∉ m.frames → m.frames.size < m.maxFrames) :
    m.makeRoom key = m := by
  refine if_neg ?_
  rintro ⟨hfull, hkey⟩
  exact absurd (h hkey) (Nat.not_lt.mpr hfull)

theorem nothingToDisturb_of_mem (hm : WellFormed m) (h : keyOf packet ∈ m.frames) :
    m.NothingToDisturb packet := by
  obtain ⟨hobserved, hnoGap⟩ := hm.frames_settled _ h
  refine ⟨hnoGap, ?_, fun hnot => absurd h hnot⟩
  rintro ⟨highest, hhighest, hlt⟩
  rw [hhighest, atOrBelow_some] at hobserved
  have hle : packet.frameId ≤ highest := hobserved
  omega

theorem NothingToDisturb.room_observed (h : m.NothingToDisturb packet) (now : Instant) :
    keyOf packet ∉ (m.observeFrameId packet.frameId now).frames →
      (m.observeFrameId packet.frameId now).frames.size <
        (m.observeFrameId packet.frameId now).maxFrames := by
  rw [observeFrameId_frames, observeFrameId_maxFrames]
  exact h.room

theorem malformed_sameMedia_iff (hm : WellFormed m) (now : Instant) :
    SameMedia m ((m.observeFrameId packet.frameId now).makeRoom (keyOf packet)) ↔
      m.NothingToDisturb packet := by
  have hobserve := @sameMedia_observe_iff m packet.frameId hm now
  constructor
  · intro hsame
    have hroom := makeRoom_frames_iff.mp
      (hsame.frames.trans (observeFrameId_frames m packet.frameId now).symm)
    rw [makeRoom_eq_self hroom] at hsame
    obtain ⟨hnoGap, hnoSkip⟩ := hobserve.mp hsame
    rw [observeFrameId_frames, observeFrameId_maxFrames] at hroom
    exact ⟨hnoGap, hnoSkip, hroom⟩
  · intro h
    rw [makeRoom_eq_self (h.room_observed now)]
    exact hobserve.mpr ⟨h.noGap, h.noSkip⟩

theorem refused_by_frame (codecs : Codecs) (now : Instant)
    (hepoch : packet.streamEpoch = m.currentEpoch) (hformed : ¬ m.MalformedParity packet)
    (h : (m.ingestAt codecs packet now).1 = .error .invalidFecParity ∨
      (m.ingestAt codecs packet now).1 = .error .duplicateFragment) :
    keyOf packet ∈ m.frames ∧ (m.ingestAt codecs packet now).2 =
      (m.observeFrameId packet.frameId now).makeRoom (keyOf packet) := by
  unfold ingestAt at h ⊢
  rw [if_neg (by omega), enterEpoch_self (by omega)] at h ⊢
  dsimp only at h ⊢
  unfold admitPacket at h ⊢
  dsimp only at h ⊢
  split at h
  · exact absurd h (by simp)
  · rename_i hopen
    rw [if_neg hopen]
    split at h
    · exact absurd h (by simp)
    · rename_i hrejected
      rw [if_neg hrejected]
      split at h
      · exact absurd h (by simp)
      · rename_i hcount
        rw [if_neg hcount]
        cases hparity : parityError packet with
        | some error =>
            rw [observeFrameId_terminal] at hopen
            rw [observeFrameId_rejected] at hrejected
            rw [observeFrameId_maxFragments] at hcount
            refine absurd ⟨?_, ?_, fun hterminal => hopen (Or.inr hterminal), hrejected,
              Nat.not_lt.mp hcount⟩ hformed
            · rw [hparity]
              exact nofun
            · exact fun hexpired =>
                hopen (Or.inl (atOrBelow_expired_observe packet.frameId now hexpired))
        | none =>
            rw [hparity] at h
            obtain ⟨hmem, heq⟩ := acceptPacket_refused codecs hparity h
            refine ⟨?_, heq⟩
            have hget := makeRoom_getElem?_self (m.observeFrameId packet.frameId now) (keyOf packet)
            rw [Std.ExtTreeMap.getElem?_eq_some_getElem hmem, observeFrameId_frames] at hget
            exact mem_frames_of_getElem? hget.symm

theorem refusedWithoutTrace_iff_of_wellFormed (hm : WellFormed m) (codecs : Codecs)
    (now : Instant) :
    RefusedWithoutTrace codecs m packet now ↔
      (packet.streamEpoch = m.currentEpoch → m.MalformedParity packet →
        m.NothingToDisturb packet) := by
  constructor
  · intro hclaim hepoch hmalformed
    have hingest := ingestAt_malformed codecs now hepoch hmalformed
    have hsame := hclaim hepoch (Or.inl (congrArg Prod.fst hingest))
    rw [hingest] at hsame
    exact (malformed_sameMedia_iff hm now).mp hsame
  · intro hcondition hepoch hrefused
    by_cases hmalformed : m.MalformedParity packet
    · rw [ingestAt_malformed codecs now hepoch hmalformed]
      exact (malformed_sameMedia_iff hm now).mpr (hcondition hepoch hmalformed)
    · obtain ⟨hmem, heq⟩ := refused_by_frame codecs now hepoch hmalformed hrefused
      rw [heq]
      exact (malformed_sameMedia_iff hm now).mpr (nothingToDisturb_of_mem hm hmem)

/-! ## Reachable maps -/

/-- In every reachable map, for every packet. -/
theorem refusedWithoutTrace_iff {codecs : Codecs} {maxFrames maxFragments : Nat}
    (h : (system codecs maxFrames maxFragments).Reachable m) (packet : VideoPacket)
    (now : Instant) :
    RefusedWithoutTrace codecs m packet now ↔
      (packet.streamEpoch = m.currentEpoch → m.MalformedParity packet →
        m.NothingToDisturb packet) :=
  refusedWithoutTrace_iff_of_wellFormed (wellFormed_of_reachable h) codecs now

/-- The parity datagram of the test `malformed_fec_parity_is_rejected`, for some frame. -/
def malformedParity (frameId : UInt8) : VideoPacket :=
  .ofSmall { VideoPacketFlags.empty with fecParity := true } 1 frameId 0 0 1 [0x62, 0x61, 0x64]

/-- A map for one frame at a time, in which frame 1 waits for its second fragment. -/
def oneFramePending : ReassemblyMap := ((new 1 16).ingestAt noCodecs (halfFrame 1) 0).2

theorem oneFramePending_reachable : (system noCodecs 1 16).Reachable oneFramePending :=
  (TransitionSystem.Reachable.of_init rfl).step
    (show (system noCodecs 1 16).step _ (.ingestAt (halfFrame 1) 0) _ from ⟨trivial, rfl⟩)

theorem refusedWithoutTrace_iff_oneFramePending :
    RefusedWithoutTrace noCodecs oneFramePending (malformedParity 1) 0 ↔
      ((malformedParity 1).streamEpoch = oneFramePending.currentEpoch →
        oneFramePending.MalformedParity (malformedParity 1) →
        oneFramePending.NothingToDisturb (malformedParity 1)) :=
  refusedWithoutTrace_iff oneFramePending_reachable (malformedParity 1) 0

/-- Three bytes for frame 2 evict the healthy frame 1. -/
theorem malformedParity_evicts : (system noCodecs 1 16).Reachable oneFramePending ∧
    ¬ RefusedWithoutTrace noCodecs oneFramePending (malformedParity 2) 0 := by
  refine ⟨oneFramePending_reachable, fun hclaim => ?_⟩
  have hrefused : (oneFramePending.ingestAt noCodecs (malformedParity 2) 0).1 =
      .error .invalidFecParity := by decide +kernel
  have hsame := hclaim (by decide +kernel) (Or.inl hrefused)
  have hsize := congrArg Std.ExtTreeMap.size hsame.frames
  exact absurd hsize (by decide +kernel)

end ReassemblyMap

end PicooCamera.Packet
