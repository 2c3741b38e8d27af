import PicooCamera.Packet.Tracking

/-!
# How much the reassembly map remembers

The frames and the two caches make room before they take an entry. The gaps
are bounded for each jump of the frame id only: they stay within twice the
frames exactly as long as no jump adds more ids than that leaves room for.
-/

namespace PicooCamera.Packet.ReassemblyMap

open PicooCamera.Library PicooCamera.Protocol TransitionSystem

/-- The bounds that are enforced where an entry is inserted. -/
structure CachesBounded (m : ReassemblyMap) : Prop where
  frames : m.frames.size ≤ m.maxFrames
  rejected : m.rejectedFrames.size ≤ m.maxFrames
  terminal : m.terminalFrames.size ≤ m.cacheCapacity

/-- `m'` holds as many frames as `m` and is within the bounds. -/
def BoundedLike (m m' : ReassemblyMap) : Prop := m'.maxFrames = m.maxFrames ∧ CachesBounded m'

structure MemoryBounded (m : ReassemblyMap) : Prop where
  frames : m.frames.size ≤ m.maxFrames
  rejected : m.rejectedFrames.size ≤ m.maxFrames
  terminal : m.terminalFrames.size ≤ 2 * m.maxFrames
  gaps : m.frameGaps.size ≤ 2 * m.maxFrames

/-- A packet that skips ids, but too few for an overflow, leaves room for them beside the
gaps that already wait. -/
def GapsFit (m : ReassemblyMap) : Operation → Prop
  | .ingestAt packet _ =>
      let entered := m.enterEpoch packet.streamEpoch
      m.currentEpoch ≤ packet.streamEpoch → entered.Advances packet.frameId →
        ¬ entered.GapOverflow packet.frameId →
        ∀ highest ∈ entered.highestObservedFrameId,
          entered.frameGaps.size + (packet.frameId - (highest + 1)) ≤ 2 * m.maxFrames
  | _ => True

theorem cacheCapacity_le (m : ReassemblyMap) : m.cacheCapacity ≤ 2 * m.maxFrames := by
  have hpos := m.maxFrames_pos
  unfold cacheCapacity
  omega

/-! ## The terminal cache -/

theorem oldestOf_isSome {keys : List FrameKey} (h : keys ≠ []) :
    ∃ key, oldestOf keys = some key := by
  cases hold : oldestOf keys with
  | none => exact absurd (List.argmin_eq_none.mp hold) h
  | some key => exact ⟨key, rfl⟩

theorem terminalAfter_size {m : ReassemblyMap} (key : FrameKey)
    (h : m.terminalFrames.size ≤ m.cacheCapacity) :
    (m.terminalAfter key).size ≤ m.cacheCapacity := by
  have hpos : 1 ≤ m.cacheCapacity := Nat.le_max_right _ _
  unfold terminalAfter
  cases hv : m.terminalVictim with
  | none =>
      have hroom : m.terminalFrames.size < m.cacheCapacity := by
        by_contra hfull
        unfold terminalVictim at hv
        rw [if_pos (Nat.not_lt.mp hfull)] at hv
        have hne : m.terminalFrames.toList ≠ [] := by
          intro hnil
          have hlen := Std.ExtTreeSet.length_toList (t := m.terminalFrames)
          rw [hnil, List.length_nil] at hlen
          omega
        obtain ⟨oldest, hold⟩ := oldestOf_isSome hne
        rw [hold] at hv
        cases hv
      have hle := Std.ExtTreeSet.size_insert_le (t := m.terminalFrames) (k := key)
      show (m.terminalFrames.insert key).size ≤ _
      omega
  | some oldest =>
      have hmem : oldest ∈ m.terminalFrames := by
        unfold terminalVictim at hv
        split at hv
        · exact Std.ExtTreeSet.mem_toList.mp (oldestOf_mem hv)
        · cases hv
      have herase := Std.ExtTreeSet.size_erase (t := m.terminalFrames) (k := oldest)
      have hle := Std.ExtTreeSet.size_insert_le (t := m.terminalFrames.erase oldest) (k := key)
      rw [if_pos (Std.ExtTreeSet.contains_iff_mem.mpr hmem)] at herase
      show ((m.terminalFrames.erase oldest).insert key).size ≤ _
      omega

theorem foldl_rememberTerminal_size (keys : List FrameKey) {m : ReassemblyMap}
    (h : m.terminalFrames.size ≤ m.cacheCapacity) :
    (keys.foldl rememberTerminal m).maxFrames = m.maxFrames ∧
      (keys.foldl rememberTerminal m).terminalFrames.size ≤ m.cacheCapacity := by
  induction keys generalizing m with
  | nil => exact ⟨rfl, h⟩
  | cons key keys ih =>
      have hstep : (m.rememberTerminal key).terminalFrames.size ≤
          (m.rememberTerminal key).cacheCapacity := terminalAfter_size key h
      exact ih hstep

/-! ## Frames and rejected frames -/

theorem evictionVictim_isSome {m : ReassemblyMap} (h : 0 < m.frames.size) :
    ∃ victim, m.evictionVictim = some victim := by
  have hne : m.frames.keys ≠ [] := by
    intro hnil
    have hlen := Std.ExtTreeMap.length_keys (t := m.frames)
    rw [hnil, List.length_nil] at hlen
    omega
  obtain ⟨oldest, hold⟩ := oldestOf_isSome hne
  unfold evictionVictim
  cases oldestOf (m.frames.filter fun _ frame => !frame.flags.keyframe).keys with
  | none => exact ⟨oldest, hold⟩
  | some victim => exact ⟨victim, rfl⟩

theorem makeRoom_room {m : ReassemblyMap} (h : CachesBounded m) (key : FrameKey) :
    (m.makeRoom key).maxFrames = m.maxFrames ∧ CachesBounded (m.makeRoom key) ∧
      (key ∈ (m.makeRoom key).frames ∨ (m.makeRoom key).frames.size < m.maxFrames) := by
  have hpos := m.maxFrames_pos
  by_cases hfull : m.maxFrames ≤ m.frames.size ∧ key ∉ m.frames
  · obtain ⟨victim, hvictim⟩ := evictionVictim_isSome (m := m) (by omega)
    have hmem : victim ∈ m.frames := evictionVictim_mem hvictim
    have heq : m.makeRoom key = m.abandonFrame victim m.frames[victim] := by
      unfold makeRoom dropOldest
      rw [if_pos hfull, hvictim]
      simp only [Std.ExtTreeMap.getElem?_eq_some_getElem hmem]
    have hsize := Std.ExtTreeMap.size_erase (t := m.frames) (k := victim)
    rw [if_pos (Std.ExtTreeMap.contains_iff_mem.mpr hmem)] at hsize
    have hframes := h.frames
    rw [heq]
    refine ⟨rfl, ⟨?_, h.rejected, terminalAfter_size victim h.terminal⟩, Or.inr ?_⟩
    · show (m.frames.erase victim).size ≤ m.maxFrames
      omega
    · show (m.frames.erase victim).size < m.maxFrames
      omega
  · have heq : m.makeRoom key = m := if_neg hfull
    rw [heq]
    refine ⟨rfl, h, ?_⟩
    by_cases hkey : key ∈ m.frames
    · exact Or.inl hkey
    · exact Or.inr (by_contra fun hge => hfull ⟨Nat.not_lt.mp hge, hkey⟩)

theorem rejectFrame_size {m : ReassemblyMap} (h : CachesBounded m) {key : FrameKey}
    (flags : VideoPacketFlags) (hnew : key ∉ m.rejectedFrames) :
    (m.rejectFrame key flags).rejectedFrames.size ≤ m.maxFrames := by
  have hpos := m.maxFrames_pos
  have hrejected := h.rejected
  cases hv : m.rejectedVictim with
  | none =>
      have hroom : m.rejectedFrames.size < m.maxFrames := by
        by_contra hfull
        unfold rejectedVictim at hv
        rw [if_pos (by omega)] at hv
        have hne : m.rejectedFrames.toList ≠ [] := by
          intro hnil
          have hlen := Std.ExtTreeSet.length_toList (t := m.rejectedFrames)
          rw [hnil, List.length_nil] at hlen
          omega
        obtain ⟨oldest, hold⟩ := oldestOf_isSome hne
        rw [hold] at hv
        cases hv
      have hle := Std.ExtTreeSet.size_insert_le (t := m.rejectedFrames) (k := key)
      unfold rejectFrame dropOldestRejected
      simp only [hv, if_neg hnew]
      omega
  | some victim =>
      have hmem : victim ∈ m.rejectedFrames := by
        unfold rejectedVictim at hv
        split at hv
        · exact Std.ExtTreeSet.mem_toList.mp (oldestOf_mem hv)
        · cases hv
      have hnew' : key ∉ m.rejectedFrames.erase victim := fun hkey =>
        hnew (Std.ExtTreeSet.mem_of_mem_erase hkey)
      have herase := Std.ExtTreeSet.size_erase (t := m.rejectedFrames) (k := victim)
      have hle := Std.ExtTreeSet.size_insert_le (t := m.rejectedFrames.erase victim) (k := key)
      rw [if_pos (Std.ExtTreeSet.contains_iff_mem.mpr hmem)] at herase
      unfold rejectFrame dropOldestRejected
      simp only [hv, if_neg hnew']
      omega

theorem CachesBounded.admission {m m' : ReassemblyMap} {packet : VideoPacket}
    {result : IngestResult} (h : CachesBounded m) (hadm : Admission m packet result m') :
    BoundedLike m m' := by
  obtain ⟨hmax, hroom, hfree⟩ := makeRoom_room h (keyOf packet)
  cases hadm with
  | covered _ => exact ⟨rfl, h⟩
  | rejectedBefore _ => exact ⟨rfl, h⟩
  | tooMany hnew =>
      have hsize := rejectFrame_size h packet.flags hnew
      obtain ⟨kept, _, _, heq⟩ := m.rejectFrame_spec packet.flags hnew
      rw [heq] at hsize ⊢
      exact ⟨rfl, h.frames, hsize, h.terminal⟩
  | badParity _ _ _ _ _ => exact ⟨hmax, hroom⟩
  | abandoned hbase _ _ =>
      rw [hbase]
      refine ⟨hmax, ?_, hroom.rejected, terminalAfter_size _ hroom.terminal⟩
      exact Nat.le_trans Std.ExtTreeMap.size_erase_le hroom.frames
  | kept hbase _ =>
      rw [hbase]
      refine ⟨hmax, ?_, hroom.rejected, hroom.terminal⟩
      have hframes := hroom.frames
      show ((m.makeRoom (keyOf packet)).frames.insert _ _).size ≤
        (m.makeRoom (keyOf packet)).maxFrames
      rw [Std.ExtTreeMap.size_insert]
      rcases hfree with hmem | hlt
      · rwa [if_pos (Std.ExtTreeMap.contains_iff_mem.mpr hmem)]
      · rw [hmax]
        split <;> omega
  | completed hbase _ _ _ _ =>
      rw [hbase]
      refine ⟨hmax, ?_, hroom.rejected, terminalAfter_size _ hroom.terminal⟩
      exact Nat.le_trans Std.ExtTreeMap.size_erase_le hroom.frames

/-! ## The operations -/

theorem CachesBounded.enterEpoch {m : ReassemblyMap} (h : CachesBounded m)
    (streamEpoch : Nat) :
    BoundedLike m (m.enterEpoch streamEpoch) := by
  unfold ReassemblyMap.enterEpoch
  split
  · exact ⟨rfl, Nat.zero_le _, Nat.zero_le _, Nat.zero_le _⟩
  · exact ⟨rfl, h⟩

theorem CachesBounded.observe {m : ReassemblyMap} (h : CachesBounded m) (frameId : Nat)
    (now : Instant) : CachesBounded (m.observeFrameId frameId now) := by
  refine ⟨?_, ?_, ?_⟩
  · rw [observeFrameId_frames, observeFrameId_maxFrames]
    exact h.frames
  · rw [observeFrameId_rejected, observeFrameId_maxFrames]
    exact h.rejected
  · rw [observeFrameId_terminal, cacheCapacity, observeFrameId_maxFrames]
    exact h.terminal

theorem foldl_expireFrame_size (keys : List FrameKey) (m : ReassemblyMap) :
    (keys.foldl expireFrame m).maxFrames = m.maxFrames ∧
      (keys.foldl expireFrame m).frames.size ≤ m.frames.size := by
  induction keys generalizing m with
  | nil => exact ⟨rfl, Nat.le_refl _⟩
  | cons key keys ih =>
      have hstep : (m.expireFrame key).maxFrames = m.maxFrames ∧
          (m.expireFrame key).frames.size ≤ m.frames.size := by
        unfold expireFrame
        cases m.frames[key]? with
        | none => exact ⟨rfl, Nat.le_refl _⟩
        | some frame => exact ⟨rfl, Std.ExtTreeMap.size_erase_le⟩
      obtain ⟨hmax, hsize⟩ := ih (m.expireFrame key)
      exact ⟨hmax.trans hstep.1, Nat.le_trans hsize hstep.2⟩

theorem expireThrough_size (m : ReassemblyMap) (through : Nat) :
    (m.expireThrough through).maxFrames = m.maxFrames ∧
      (m.expireThrough through).frames.size ≤ m.frames.size ∧
      (m.expireThrough through).frameGaps.size ≤ m.frameGaps.size ∧
      (m.expireThrough through).rejectedFrames.size ≤ m.rejectedFrames.size := by
  obtain ⟨hmax, hsize⟩ := foldl_expireFrame_size
    (m.frames.keys.filter fun key => key.frameId ≤ through) m
  obtain ⟨hids, _, _⟩ := foldl_expireFrame_spec
    (m.frames.keys.filter fun key => key.frameId ≤ through) m
  have hfolded : ∀ folded : ReassemblyMap,
      (folded.expireGaps through).maxFrames = folded.maxFrames ∧
        (folded.expireGaps through).frames = folded.frames ∧
        (folded.expireGaps through).frameGaps.size ≤ folded.frameGaps.size ∧
        (folded.expireGaps through).rejectedFrames = folded.rejectedFrames := by
    intro folded
    unfold expireGaps
    dsimp only
    split
    · exact ⟨rfl, rfl, Nat.le_refl _, rfl⟩
    · exact ⟨rfl, rfl, Std.ExtTreeMap.size_filter_le_size, rfl⟩
  obtain ⟨gmax, gframes, ggaps, grejected⟩ := hfolded
    ((m.frames.keys.filter fun key => key.frameId ≤ through).foldl expireFrame m)
  rw [hids.gaps] at ggaps
  refine ⟨gmax.trans hmax, ?_, ggaps, ?_⟩
  · show (ReassemblyMap.expireGaps _ through).frames.size ≤ _
    rw [gframes]
    exact hsize
  · refine Nat.le_trans Std.ExtTreeSet.size_filter_le_size ?_
    rw [grejected, hids.rejected]

theorem CachesBounded.perform {m : ReassemblyMap} (h : CachesBounded m) (codecs : Codecs)
    (op : Operation) :
    BoundedLike m (m.perform codecs op).2 := by
  cases op with
  | ingestAt packet now =>
      show BoundedLike m (m.ingestAt codecs packet now).2
      unfold ingestAt
      split
      · exact ⟨rfl, h⟩
      · obtain ⟨hmax, hentered⟩ := h.enterEpoch packet.streamEpoch
        obtain ⟨hmax', hadmitted⟩ := (hentered.observe packet.frameId now).admission
          (admitPacket_cases codecs _ packet _)
        refine ⟨hmax'.trans ?_, hadmitted⟩
        rw [observeFrameId_maxFrames, hmax]
  | expireIncompleteOlderThan now maxAge =>
      show BoundedLike m (m.expireIncompleteOlderThan now maxAge)
      rcases m.expireIncompleteOlderThan_cases now maxAge with heq | ⟨through, heq⟩
      · rw [heq]
        exact ⟨rfl, h⟩
      · obtain ⟨hmax, hframes, _, hrejected⟩ := m.expireThrough_size through
        obtain ⟨_, _, _, hterminal, _⟩ := m.expireThrough_spec through
        rw [heq]
        refine ⟨hmax, ?_, ?_, ?_⟩
        · rw [hmax]
          exact Nat.le_trans hframes h.frames
        · rw [hmax]
          exact Nat.le_trans hrejected h.rejected
        · rw [hterminal, cacheCapacity, hmax]
          exact h.terminal
  | discardStaleAccessUnit streamEpoch frameId flags =>
      obtain ⟨hmax, hentered⟩ := h.enterEpoch streamEpoch
      show BoundedLike m (m.discardStaleAccessUnit streamEpoch frameId flags).2
      rcases m.discardStaleAccessUnit_cases streamEpoch frameId flags with heq | ⟨_, heq⟩
      · rw [heq]
        exact ⟨hmax, hentered⟩
      · rw [heq]
        refine ⟨hmax, ?_, ?_, terminalAfter_size _ hentered.terminal⟩
        · exact Nat.le_trans Std.ExtTreeMap.size_erase_le hentered.frames
        · exact Nat.le_trans Std.ExtTreeSet.size_erase_le hentered.rejected
  | clearPending abandoned =>
      show BoundedLike m (m.clearPendingIn abandoned)
      unfold clearPendingIn
      obtain ⟨hids, hframes, _⟩ := foldl_rememberTerminal_sameIds abandoned
        { m with frames := ∅, frameGaps := ∅, expiredThroughFrameId := m.clearedThrough }
      obtain ⟨hmax, hterminal⟩ := foldl_rememberTerminal_size abandoned
        (m := { m with
          frames := ∅, frameGaps := ∅, expiredThroughFrameId := m.clearedThrough }) h.terminal
      refine ⟨hmax, ?_, ?_, ?_⟩
      · rw [hframes]
        exact Nat.zero_le _
      · rw [hids.rejected, hmax]
        exact h.rejected
      · rw [cacheCapacity, hmax]
        exact hterminal
  | takeKeyframeLoss => exact ⟨rfl, h.frames, h.rejected, h.terminal⟩
  | takeReferenceChainLoss => exact ⟨rfl, h.frames, h.rejected, h.terminal⟩

theorem cachesBounded_new (maxFrames maxFragments : Nat) :
    CachesBounded (new maxFrames maxFragments) :=
  ⟨Nat.zero_le _, Nat.zero_le _, Nat.zero_le _⟩

/-! ## Gaps -/

theorem foldl_insertIfNew_size {ids : List Nat} {gaps : Std.ExtTreeMap Nat Instant}
    {now : Instant} (hnodup : ids.Nodup) (hnew : ∀ id ∈ ids, id ∉ gaps) :
    (ids.foldl (fun gaps missingId => gaps.insertIfNew missingId now) gaps).size =
      gaps.size + ids.length := by
  induction ids generalizing gaps with
  | nil => rfl
  | cons missing ids ih =>
      obtain ⟨hmissing, hnodup⟩ := List.nodup_cons.mp hnodup
      have hrest : ∀ id ∈ ids, id ∉ gaps.insertIfNew missing now := by
        intro id hid hmem
        rw [Std.ExtTreeMap.mem_insertIfNew, Std.compare_eq_iff_eq] at hmem
        rcases hmem with heq | hmem
        · exact hmissing (heq ▸ hid)
        · exact hnew id (List.mem_cons_of_mem missing hid) hmem
      rw [List.foldl_cons, ih hnodup hrest, Std.ExtTreeMap.size_insertIfNew,
        if_neg (hnew missing List.mem_cons_self), List.length_cons]
      omega

theorem observeFrameId_gaps_size {m : ReassemblyMap} (h : WellFormed m) {frameId highest : Nat}
    (now : Instant) (hhighest : m.highestObservedFrameId = some highest)
    (hlt : highest < frameId) (hfit : ¬ m.GapOverflow frameId) :
    (m.observeFrameId frameId now).frameGaps.size =
      m.frameGaps.size + (frameId - (highest + 1)) := by
  have hbelow : ∀ id ∈ m.frameGaps, id ≤ highest := by
    intro id hid
    have hle := h.gaps_observed id hid
    rwa [hhighest, atOrBelow_some] at hle
  have howned : frameId ∉ m.frameGaps := fun hid => by
    have hle := hbelow frameId hid
    omega
  have hroom : ¬ m.cacheCapacity < frameId - (highest + 1) := fun hover =>
    hfit ⟨highest, hhighest, hlt, hover⟩
  have herase : (m.frameGaps.erase frameId).size = m.frameGaps.size := by
    rw [Std.ExtTreeMap.size_erase,
      if_neg (mt Std.ExtTreeMap.contains_iff_mem.mp howned)]
  unfold observeFrameId
  simp only [hhighest, if_neg (Nat.not_le.mpr hlt), if_neg hroom]
  unfold insertGaps
  rw [foldl_insertIfNew_size List.nodup_range', herase, List.length_range']
  intro id hid hmem
  have hle := hbelow id (mem_map_erase.mp hmem).2
  rw [List.mem_range'_1] at hid
  omega

theorem observeFrameId_gaps_le {m : ReassemblyMap} {frameId : Nat} (now : Instant)
    (h : ¬ m.Advances frameId ∨ m.highestObservedFrameId = none ∨ m.GapOverflow frameId) :
    (m.observeFrameId frameId now).frameGaps.size ≤ m.frameGaps.size := by
  rcases h with hle | hnone | hover
  · unfold Advances at hle
    obtain ⟨highest, hhighest, hle⟩ := not_not.mp hle
    unfold observeFrameId
    simp only [hhighest, if_pos hle]
    exact Std.ExtTreeMap.size_erase_le
  · unfold observeFrameId
    simp only [hnone]
    exact Std.ExtTreeMap.size_erase_le
  · rw [(observeFrameId_overflow m frameId now hover).1]
    exact Nat.zero_le _

theorem enterEpoch_gaps_size (m : ReassemblyMap) (streamEpoch : Nat) :
    (m.enterEpoch streamEpoch).frameGaps.size ≤ m.frameGaps.size := by
  unfold enterEpoch
  split
  · exact Nat.zero_le _
  · exact Nat.le_refl _

/-- From a state within the bound, the ingest of a packet stays within it exactly when the
skipped ids fit. -/
theorem ingestAt_gaps_iff {m : ReassemblyMap} (hm : WellFormed m)
    (hbound : m.frameGaps.size ≤ 2 * m.maxFrames) (codecs : Codecs) (packet : VideoPacket)
    (now : Instant) :
    (m.ingestAt codecs packet now).2.frameGaps.size ≤ 2 * m.maxFrames ↔
      m.GapsFit (.ingestAt packet now) := by
  by_cases hstale : packet.streamEpoch < m.currentEpoch
  · rw [ingestAt, if_pos hstale]
    exact iff_of_true hbound fun hepoch => absurd hepoch (Nat.not_le.mpr hstale)
  · have hgaps : (m.ingestAt codecs packet now).2.frameGaps =
        ((m.enterEpoch packet.streamEpoch).observeFrameId packet.frameId now).frameGaps := by
      unfold ingestAt
      rw [if_neg hstale]
      exact (admitPacket_cases codecs _ packet _).same.1
    have hentered := Nat.le_trans (m.enterEpoch_gaps_size packet.streamEpoch) hbound
    rw [hgaps]
    by_cases hgrow : (m.enterEpoch packet.streamEpoch).Advances packet.frameId ∧
        ¬ (m.enterEpoch packet.streamEpoch).GapOverflow packet.frameId
    · cases hhighest : (m.enterEpoch packet.streamEpoch).highestObservedFrameId with
      | none =>
          refine iff_of_true (Nat.le_trans (observeFrameId_gaps_le now (Or.inr (Or.inl hhighest)))
            hentered) ?_
          intro _ _ _ highest hmem
          rw [hhighest] at hmem
          cases hmem
      | some highest =>
          have hlt : highest < packet.frameId := by
            have hadv := hgrow.1
            rwa [Advances, hhighest, atOrBelow_some, Nat.not_le] at hadv
          rw [observeFrameId_gaps_size (hm.enterEpoch packet.streamEpoch) now hhighest hlt
            hgrow.2]
          constructor
          · intro hle _ _ _ highest' hmem
            rw [hhighest, Option.mem_some_iff] at hmem
            rwa [← hmem]
          · intro hfit
            exact hfit (Nat.not_lt.mp hstale) hgrow.1 hgrow.2 highest hhighest
    · refine iff_of_true (Nat.le_trans (observeFrameId_gaps_le now ?_) hentered) ?_
      · by_cases hadv : (m.enterEpoch packet.streamEpoch).Advances packet.frameId
        · exact Or.inr (Or.inr (by_contra fun hfit => hgrow ⟨hadv, hfit⟩))
        · exact Or.inl hadv
      · intro _ hadv hfit
        exact absurd ⟨hadv, hfit⟩ hgrow

theorem perform_gaps_le (codecs : Codecs) (m : ReassemblyMap) (op : Operation)
    (hop : ∀ packet now, op ≠ .ingestAt packet now) :
    (m.perform codecs op).2.frameGaps.size ≤ m.frameGaps.size := by
  cases op with
  | ingestAt packet now => exact absurd rfl (hop packet now)
  | expireIncompleteOlderThan now maxAge =>
      show (m.expireIncompleteOlderThan now maxAge).frameGaps.size ≤ _
      rcases m.expireIncompleteOlderThan_cases now maxAge with heq | ⟨through, heq⟩
      · rw [heq]
      · rw [heq]
        exact (m.expireThrough_size through).2.2.1
  | discardStaleAccessUnit streamEpoch frameId flags =>
      show (m.discardStaleAccessUnit streamEpoch frameId flags).2.frameGaps.size ≤ _
      have hentered := m.enterEpoch_gaps_size streamEpoch
      rcases m.discardStaleAccessUnit_cases streamEpoch frameId flags with heq | ⟨_, heq⟩
      · rw [heq]
        exact hentered
      · rw [heq]
        exact Nat.le_trans Std.ExtTreeMap.size_erase_le hentered
  | clearPending abandoned =>
      show (m.clearPendingIn abandoned).frameGaps.size ≤ _
      unfold clearPendingIn
      rw [(foldl_rememberTerminal_sameIds abandoned _).1.gaps]
      exact Nat.zero_le _
  | takeKeyframeLoss => exact Nat.le_refl _
  | takeReferenceChainLoss => exact Nat.le_refl _

theorem perform_gaps_iff {m : ReassemblyMap} (hm : WellFormed m)
    (hbound : m.frameGaps.size ≤ 2 * m.maxFrames) (codecs : Codecs) (op : Operation) :
    (m.perform codecs op).2.frameGaps.size ≤ 2 * m.maxFrames ↔ m.GapsFit op := by
  cases op with
  | ingestAt packet now => exact ingestAt_gaps_iff hm hbound codecs packet now
  | expireIncompleteOlderThan now maxAge =>
      refine iff_of_true (Nat.le_trans (m.perform_gaps_le codecs _ ?_) hbound) trivial
      exact fun _ _ h => by cases h
  | discardStaleAccessUnit streamEpoch frameId flags =>
      refine iff_of_true (Nat.le_trans (m.perform_gaps_le codecs _ ?_) hbound) trivial
      exact fun _ _ h => by cases h
  | clearPending abandoned =>
      refine iff_of_true (Nat.le_trans (m.perform_gaps_le codecs _ ?_) hbound) trivial
      exact fun _ _ h => by cases h
  | takeKeyframeLoss => exact iff_of_true hbound trivial
  | takeReferenceChainLoss => exact iff_of_true hbound trivial

theorem CachesBounded.bounded_iff_frames {m : ReassemblyMap} (h : CachesBounded m) :
    MemoryBounded m ↔ m.frameGaps.size ≤ 2 * m.maxFrames :=
  ⟨MemoryBounded.gaps, fun hgaps =>
    ⟨h.frames, h.rejected, Nat.le_trans h.terminal m.cacheCapacity_le, hgaps⟩⟩

/-! ## Runs -/

/-- The map of a run stays within its bounds throughout if and only if each packet leaves
room for the ids that it skips. -/
theorem memoryBounded_iff (codecs : Codecs) (maxFrames maxFragments : Nat)
    (ops : List Operation)
    (hvalid : MeetsAll (fun m op => op.Valid m) (fun m op => (m.perform codecs op).2)
      (new maxFrames maxFragments) ops) :
    HoldsThroughout MemoryBounded (fun m op => (m.perform codecs op).2)
        (new maxFrames maxFragments) ops ↔
      MeetsAll GapsFit (fun m op => (m.perform codecs op).2) (new maxFrames maxFragments)
        ops := by
  refine @holdsThroughout_iff _ _ (fun m => WellFormed m ∧ CachesBounded m) _ _ _ _
    ?_ ?_ _ _ ⟨wellFormed_new _ _, cachesBounded_new _ _⟩ ?_ hvalid
  · intro m op hm hop
    exact ⟨hm.1.perform codecs hop, (hm.2.perform codecs op).2⟩
  · intro m op hm _ hbounded
    obtain ⟨hmax, hcaches⟩ := hm.2.perform codecs op
    rw [hcaches.bounded_iff_frames, hmax]
    exact perform_gaps_iff hm.1 hbounded.gaps codecs op
  · exact ⟨Nat.zero_le _, Nat.zero_le _, Nat.zero_le _, Nat.zero_le _⟩

/-- A jump leaves two gaps, the first partial frame is evicted, and a clear drops the rest. -/
def gapsAndClear : List Operation :=
  [.ingestAt (wholeFrame 1) 0, .ingestAt (halfFrame 4) 1, .ingestAt (halfFrame 2) 2,
    .clearPending [⟨1, 2⟩], .ingestAt (wholeFrame 7) 3]

theorem memoryBounded_iff_gapsAndClear :
    HoldsThroughout MemoryBounded (fun m op => (m.perform noCodecs op).2) (new 1 1024)
        gapsAndClear ↔
      MeetsAll GapsFit (fun m op => (m.perform noCodecs op).2) (new 1 1024) gapsAndClear :=
  memoryBounded_iff noCodecs 1 1024 gapsAndClear (by decide +kernel)

/-! ### Two jumps that each fit leave four gaps in a map for one frame -/

def twoJumps : List Operation :=
  [.ingestAt (wholeFrame 1) 0, .ingestAt (wholeFrame 4) 0, .ingestAt (wholeFrame 7) 0]

theorem twoJumps_exceed :
    ¬ HoldsThroughout MemoryBounded (fun m op => (m.perform noCodecs op).2) (new 1 1024)
      twoJumps := by
  intro h
  have hgaps := h.last.gaps
  revert hgaps
  decide +kernel

end PicooCamera.Packet.ReassemblyMap
