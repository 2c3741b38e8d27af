import PicooCamera.Packet.Tracking

/-!
# At most one assembly of each frame

A finished frame is closed to late packets by its epoch, by the boundary, or
by one of the two bounded caches. `History` records along a run which frames
were returned or ended, and which keys a full cache chose as its oldest: the
frames that ended stay closed but for those.
-/

namespace PicooCamera.Packet.ReassemblyMap

open PicooCamera.Library PicooCamera.Protocol

/-- The map admits no packet of this frame. -/
def Closed (m : ReassemblyMap) (k : FrameKey) : Prop :=
  k.streamEpoch < m.currentEpoch ∨
    k.streamEpoch = m.currentEpoch ∧
      (atOrBelow m.expiredThroughFrameId k.frameId ∨ k ∈ m.terminalFrames ∨
        k ∈ m.rejectedFrames)

instance (m : ReassemblyMap) (k : FrameKey) : Decidable (m.Closed k) :=
  inferInstanceAs (Decidable (_ ∨ _))

/-- The keys that the full caches choose as their oldest while the terminal keys of
`abandoned` are remembered. -/
def clearVictims : List FrameKey → ReassemblyMap → Set FrameKey
  | [], _ => ∅
  | key :: keys, m => {k | m.terminalVictim = some k} ∪ clearVictims keys (m.rememberTerminal key)

instance decidableMemClearVictims : ∀ (keys : List FrameKey) (m : ReassemblyMap) (k : FrameKey),
    Decidable (k ∈ clearVictims keys m)
  | [], _, _ => isFalse (Set.notMem_empty _)
  | key :: keys, m, k =>
      have := decidableMemClearVictims keys (m.rememberTerminal key) k
      inferInstanceAs (Decidable (m.terminalVictim = some k ∨ _))

/-- The keys that a full cache chooses as its oldest during the operation. -/
def Operation.victims (m : ReassemblyMap) : Operation → Set FrameKey
  | .ingestAt packet now =>
      let observed := (m.enterEpoch packet.streamEpoch).observeFrameId packet.frameId now
      {k | observed.terminalVictim = some k ∨
        (observed.makeRoom (keyOf packet)).terminalVictim = some k ∨
        observed.rejectedVictim = some k}
  | .discardStaleAccessUnit streamEpoch _ _ =>
      {k | (m.enterEpoch streamEpoch).terminalVictim = some k}
  | .clearPending abandoned =>
      clearVictims abandoned
        { m with frames := ∅, frameGaps := ∅, expiredThroughFrameId := m.clearedThrough }
  | _ => ∅

instance (m : ReassemblyMap) (op : Operation) (k : FrameKey) : Decidable (k ∈ op.victims m) :=
  match op with
  | .ingestAt _ _ => inferInstanceAs (Decidable (_ = _ ∨ _ = _ ∨ _ = _))
  | .expireIncompleteOlderThan _ _ => isFalse (Set.notMem_empty _)
  | .discardStaleAccessUnit _ _ _ => inferInstanceAs (Decidable (_ = _))
  | .clearPending _ => decidableMemClearVictims _ _ _
  | .takeKeyframeLoss => isFalse (Set.notMem_empty _)
  | .takeReferenceChainLoss => isFalse (Set.notMem_empty _)

/-- The frames without fragments that the operation drops, expires, discards or abandons. -/
def Operation.Drops (m : ReassemblyMap) : Operation → FrameKey → Prop
  | .ingestAt packet _, k =>
      ¬ packet.streamEpoch < m.currentEpoch ∧ k.streamEpoch = packet.streamEpoch ∧
        (m.enterEpoch packet.streamEpoch).GapOverflow packet.frameId ∧
        k.frameId ≠ packet.frameId ∧
        (k.frameId ∈ (m.enterEpoch packet.streamEpoch).frameGaps ∨
          ∃ highest, (m.enterEpoch packet.streamEpoch).highestObservedFrameId = some highest ∧
            highest < k.frameId ∧ k.frameId < packet.frameId)
  | .expireIncompleteOlderThan now maxAge, k =>
      k.streamEpoch = m.currentEpoch ∧ k.frameId ∈ m.frameGaps ∧
        k.frameId ∉ (m.expireIncompleteOlderThan now maxAge).frameGaps
  | .discardStaleAccessUnit streamEpoch frameId flags, k =>
      (m.discardStaleAccessUnit streamEpoch frameId flags).1 = true ∧
        k = ⟨streamEpoch, frameId⟩
  | .clearPending _, k => k.streamEpoch = m.currentEpoch ∧ k.frameId ∈ m.frameGaps
  | _, _ => False

/-- The frames that the operation ends: frames that leave the map, rejected frames, and
dropped frames of which no fragment had arrived. -/
def Ended (codecs : Codecs) (m : ReassemblyMap) (op : Operation) (k : FrameKey) : Prop :=
  k ∈ m.frames ∧ k ∉ (m.perform codecs op).2.frames ∨
    k ∈ (m.perform codecs op).2.rejectedFrames ∧ k ∉ m.rejectedFrames ∨ op.Drops m k

def unitKey (unit : AssembledAccessUnit) : FrameKey := ⟨unit.streamEpoch, unit.frameId⟩

/-! ## Histories -/

structure History where
  map : ReassemblyMap
  returned : List FrameKey
  ended : Set FrameKey
  /-- The keys that a full cache has chosen as its oldest so far. -/
  rotated : Set FrameKey

namespace History

def start (maxFrames maxFragments : Nat) : History := ⟨new maxFrames maxFragments, [], ∅, ∅⟩

def next (codecs : Codecs) (h : History) (op : Operation) : History where
  map := (h.map.perform codecs op).2
  returned := h.returned ++ ((h.map.perform codecs op).1.map unitKey).toList
  ended := h.ended ∪ {k | h.map.Ended codecs op k}
  rotated := h.rotated ∪ op.victims h.map

def system (codecs : Codecs) (maxFrames maxFragments : Nat) :
    TransitionSystem History Operation where
  init h := h = start maxFrames maxFragments
  step h op h' := op.Valid h.map ∧ h' = h.next codecs op

/-- No packet arrives for a frame that a full cache has rotated out, unless the boundary, the
epoch or a cache closes the frame all the same. -/
def NoRotatedPacket (h : History) (op : Operation) : Prop :=
  ∀ packet now, op = .ingestAt packet now → keyOf packet ∈ h.rotated →
    h.map.Closed (keyOf packet)

instance (maxFrames maxFragments : Nat) (k : FrameKey) :
    Decidable (k ∈ (start maxFrames maxFragments).rotated) :=
  isFalse (Set.notMem_empty k)

instance (codecs : Codecs) (h : History) (op : Operation) (k : FrameKey)
    [Decidable (k ∈ h.rotated)] : Decidable (k ∈ (h.next codecs op).rotated) :=
  inferInstanceAs (Decidable (k ∈ h.rotated ∨ k ∈ op.victims h.map))

instance (h : History) (op : Operation) [∀ k, Decidable (k ∈ h.rotated)] :
    Decidable (h.NoRotatedPacket op) :=
  match op with
  | .ingestAt packet _ =>
      decidable_of_iff (keyOf packet ∈ h.rotated → h.map.Closed (keyOf packet))
        ⟨fun hclosed _ _ heq => by cases heq; exact hclosed, fun hop => hop packet _ rfl⟩
  | .expireIncompleteOlderThan _ _ => isTrue fun _ _ heq => by cases heq
  | .discardStaleAccessUnit _ _ _ => isTrue fun _ _ heq => by cases heq
  | .clearPending _ => isTrue fun _ _ heq => by cases heq
  | .takeKeyframeLoss => isTrue fun _ _ heq => by cases heq
  | .takeReferenceChainLoss => isTrue fun _ _ heq => by cases heq

end History

/-! ## A closed frame is closed until a cache rotates it out -/

theorem mem_terminalAfter_of_mem {m : ReassemblyMap} (key : FrameKey) {k : FrameKey}
    (hk : k ∈ m.terminalFrames) : k ∈ m.terminalAfter key ∨ m.terminalVictim = some k := by
  unfold terminalAfter
  cases hv : m.terminalVictim with
  | none => exact Or.inl (mem_set_insert.mpr (Or.inr hk))
  | some oldest =>
      by_cases hold : k = oldest
      · exact Or.inr (by rw [hold])
      · exact Or.inl (mem_set_insert.mpr (Or.inr (mem_set_erase.mpr ⟨hold, hk⟩)))

theorem makeRoom_terminal_of_mem {m : ReassemblyMap} (key : FrameKey) {k : FrameKey}
    (hk : k ∈ m.terminalFrames) :
    k ∈ (m.makeRoom key).terminalFrames ∨ m.terminalVictim = some k := by
  rcases m.makeRoom_cases key with h | ⟨victim, frame, _, _, _, _, h⟩ <;> rw [h]
  · exact Or.inl hk
  · rw [abandonFrame_terminal]
    exact mem_terminalAfter_of_mem victim hk

theorem makeRoom_evicted {m : ReassemblyMap} {key k : FrameKey} (hk : k ∈ m.frames)
    (hgone : k ∉ (m.makeRoom key).frames) : k ∈ (m.makeRoom key).terminalFrames := by
  rcases m.makeRoom_cases key with h | ⟨victim, frame, _, _, _, _, h⟩ <;> rw [h] at hgone ⊢
  · exact absurd hk hgone
  · have hvictim : k = victim := by
      by_contra hne
      exact hgone (mem_map_erase.mpr ⟨hne, hk⟩)
    rw [hvictim, abandonFrame_terminal]
    exact mem_terminalAfter_self m victim

namespace Admission

variable {m m' : ReassemblyMap} {packet : VideoPacket} {result : IngestResult}

theorem cached (h : Admission m packet result m') {k : FrameKey}
    (hk : k ∈ m.terminalFrames ∨ k ∈ m.rejectedFrames) :
    (k ∈ m'.terminalFrames ∨ k ∈ m'.rejectedFrames) ∨
      m.terminalVictim = some k ∨ (m.makeRoom (keyOf packet)).terminalVictim = some k ∨
      m.rejectedVictim = some k := by
  have hroom : k ∈ (m.makeRoom (keyOf packet)).terminalFrames ∨
      k ∈ (m.makeRoom (keyOf packet)).rejectedFrames ∨ m.terminalVictim = some k := by
    rcases hk with hterminal | hrejected
    · rcases makeRoom_terminal_of_mem (keyOf packet) hterminal with hmem | hvictim
      · exact Or.inl hmem
      · exact Or.inr (Or.inr hvictim)
    · exact Or.inr (Or.inl (by rwa [makeRoom_rejected]))
  -- The two outcomes that remember the packet's own key may rotate `k` out.
  have hremember : k ∈ (m.makeRoom (keyOf packet)).terminalAfter (keyOf packet) ∨
      k ∈ (m.makeRoom (keyOf packet)).rejectedFrames ∨ m.terminalVictim = some k ∨
      (m.makeRoom (keyOf packet)).terminalVictim = some k := by
    rcases hroom with hmem | hmem | hvictim
    · rcases mem_terminalAfter_of_mem (keyOf packet) hmem with hafter | hvictim
      · exact Or.inl hafter
      · exact Or.inr (Or.inr (Or.inr hvictim))
    · exact Or.inr (Or.inl hmem)
    · exact Or.inr (Or.inr (Or.inl hvictim))
  cases h with
  | covered _ => exact Or.inl hk
  | rejectedBefore _ => exact Or.inl hk
  | tooMany hnew =>
      obtain ⟨kept, _, hrotated, heq⟩ := m.rejectFrame_spec packet.flags hnew
      rw [heq]
      rcases hk with hterminal | hrejected
      · exact Or.inl (Or.inl hterminal)
      · by_cases hkept : k ∈ kept
        · exact Or.inl (Or.inr (mem_set_insert.mpr (Or.inr hkept)))
        · exact Or.inr (Or.inr (Or.inr (hrotated k hrejected hkept)))
  | badParity _ _ _ _ _ =>
      rcases hroom with hmem | hmem | hvictim
      · exact Or.inl (Or.inl hmem)
      · exact Or.inl (Or.inr hmem)
      · exact Or.inr (Or.inl hvictim)
  | abandoned hbase _ _ =>
      rw [hbase]
      rcases hremember with hmem | hmem | hvictim | hvictim
      · exact Or.inl (Or.inl hmem)
      · exact Or.inl (Or.inr hmem)
      · exact Or.inr (Or.inl hvictim)
      · exact Or.inr (Or.inr (Or.inl hvictim))
  | kept hbase _ =>
      rw [hbase]
      rcases hroom with hmem | hmem | hvictim
      · exact Or.inl (Or.inl hmem)
      · exact Or.inl (Or.inr hmem)
      · exact Or.inr (Or.inl hvictim)
  | completed hbase _ _ _ _ =>
      rw [hbase]
      rcases hremember with hmem | hmem | hvictim | hvictim
      · exact Or.inl (Or.inl hmem)
      · exact Or.inl (Or.inr hmem)
      · exact Or.inr (Or.inl hvictim)
      · exact Or.inr (Or.inr (Or.inl hvictim))

theorem remembered (h : Admission m packet result m') {k : FrameKey} (hk : k ∈ m.frames)
    (hgone : k ∉ m'.frames) :
    k ∈ m'.terminalFrames ∨ (m.makeRoom (keyOf packet)).terminalVictim = some k := by
  have hremember : k ∉ (m.makeRoom (keyOf packet)).frames.erase (keyOf packet) →
      k ∈ (m.makeRoom (keyOf packet)).terminalAfter (keyOf packet) ∨
        (m.makeRoom (keyOf packet)).terminalVictim = some k := by
    intro hnot
    by_cases hown : k = keyOf packet
    · rw [hown]
      exact Or.inl (mem_terminalAfter_self _ _)
    · have hevicted : k ∉ (m.makeRoom (keyOf packet)).frames := fun hmem =>
        hnot (mem_map_erase.mpr ⟨hown, hmem⟩)
      exact mem_terminalAfter_of_mem _ (makeRoom_evicted hk hevicted)
  cases h with
  | covered _ => exact absurd hk hgone
  | rejectedBefore _ => exact absurd hk hgone
  | tooMany hnew =>
      obtain ⟨kept, _, _, heq⟩ := m.rejectFrame_spec packet.flags hnew
      rw [heq] at hgone
      exact absurd hk hgone
  | badParity _ _ _ _ _ => exact Or.inl (makeRoom_evicted hk hgone)
  | abandoned hbase _ _ =>
      rw [hbase] at hgone ⊢
      exact hremember hgone
  | kept hbase _ =>
      rw [hbase] at hgone ⊢
      exact Or.inl (makeRoom_evicted hk fun hmem => hgone (mem_map_insert.mpr (Or.inr hmem)))
  | completed hbase _ _ _ _ =>
      rw [hbase] at hgone ⊢
      exact hremember hgone

end Admission

/-! ## One operation -/

/-- What ends, or was closed, is closed after an operation but for the caches' victims. -/
def KeepsClosed (m m' : ReassemblyMap) (victims : Set FrameKey) : Prop :=
  ∀ k, m.Closed k → m'.Closed k ∨ k ∈ victims

theorem closed_of_older {m m' : ReassemblyMap} {k : FrameKey}
    (hnewer : m.currentEpoch < m'.currentEpoch) (hk : k.streamEpoch ≤ m.currentEpoch) :
    m'.Closed k :=
  Or.inl (Nat.lt_of_le_of_lt hk hnewer)

theorem Closed.le {m : ReassemblyMap} {k : FrameKey} (h : m.Closed k) :
    k.streamEpoch ≤ m.currentEpoch := by
  rcases h with hlt | ⟨heq, _⟩
  · exact Nat.le_of_lt hlt
  · exact Nat.le_of_eq heq

theorem enterEpoch_cases (m : ReassemblyMap) (streamEpoch : Nat) :
    m.enterEpoch streamEpoch = m ∨
      m.currentEpoch < (m.enterEpoch streamEpoch).currentEpoch ∧
        (m.enterEpoch streamEpoch).frames = ∅ ∧
        (m.enterEpoch streamEpoch).rejectedFrames = ∅ := by
  unfold enterEpoch
  split
  · rename_i hlt
    exact Or.inr ⟨hlt, rfl, rfl⟩
  · exact Or.inl rfl

theorem closed_enterEpoch {m : ReassemblyMap} (streamEpoch : Nat) {k : FrameKey}
    (h : m.Closed k) : (m.enterEpoch streamEpoch).Closed k := by
  rcases m.enterEpoch_cases streamEpoch with heq | ⟨hnewer, _⟩
  · rw [heq]
    exact h
  · exact closed_of_older hnewer h.le

theorem closed_observe {m : ReassemblyMap} (frameId : Nat) (now : Instant) {k : FrameKey}
    (h : m.Closed k) : (m.observeFrameId frameId now).Closed k := by
  unfold Closed at h ⊢
  rw [observeFrameId_epoch, observeFrameId_terminal, observeFrameId_rejected]
  rcases h with hlt | ⟨hepoch, hbelow | hcached⟩
  · exact Or.inl hlt
  · exact Or.inr ⟨hepoch, Or.inl (atOrBelow_expired_observe frameId now hbelow)⟩
  · exact Or.inr ⟨hepoch, Or.inr hcached⟩

theorem ingestAt_admission (codecs : Codecs) {m : ReassemblyMap} {packet : VideoPacket}
    (now : Instant) (hepoch : ¬ packet.streamEpoch < m.currentEpoch) :
    Admission ((m.enterEpoch packet.streamEpoch).observeFrameId packet.frameId now) packet
      (m.ingestAt codecs packet now).1 (m.ingestAt codecs packet now).2 := by
  unfold ingestAt
  rw [if_neg hepoch]
  exact admitPacket_cases codecs _ packet _

theorem keepsClosed_ingestAt (codecs : Codecs) (m : ReassemblyMap) (packet : VideoPacket)
    (now : Instant) :
    KeepsClosed m (m.ingestAt codecs packet now).2
      ((Operation.ingestAt packet now).victims m) := by
  intro k hclosed
  by_cases hepoch : packet.streamEpoch < m.currentEpoch
  · rw [ingestAt, if_pos hepoch]
    exact Or.inl hclosed
  · have hadm := ingestAt_admission codecs now hepoch
    have hobserved := closed_observe packet.frameId now
      (closed_enterEpoch packet.streamEpoch hclosed)
    rcases hobserved with hlt | ⟨heq, hbelow | hcached⟩
    · refine Or.inl (Or.inl ?_)
      rw [hadm.same.2.2.1]
      exact hlt
    · refine Or.inl (Or.inr ⟨?_, Or.inl ?_⟩)
      · rw [hadm.same.2.2.1]
        exact heq
      · rw [hadm.same.2.2.2]
        exact hbelow
    · rcases hadm.cached hcached with hcached' | hvictim
      · refine Or.inl (Or.inr ⟨?_, Or.inr hcached'⟩)
        rw [hadm.same.2.2.1]
        exact heq
      · exact Or.inr hvictim

theorem ended_ingestAt (codecs : Codecs) {m : ReassemblyMap} (h : WellFormed m)
    (packet : VideoPacket) (now : Instant) {k : FrameKey}
    (hk : m.Ended codecs (.ingestAt packet now) k) :
    (m.ingestAt codecs packet now).2.Closed k ∨
      k ∈ (Operation.ingestAt packet now).victims m := by
  have h' := h.ingestAt codecs packet now
  by_cases hepoch : packet.streamEpoch < m.currentEpoch
  · have hsame : (m.ingestAt codecs packet now).2 = m := by
      rw [ingestAt, if_pos hepoch]
    simp only [Ended, perform, hsame, Operation.Drops] at hk
    rcases hk with ⟨hmem, hnot⟩ | ⟨hmem, hnot⟩ | ⟨hnot, _⟩
    · exact absurd hmem hnot
    · exact absurd hmem hnot
    · exact absurd hepoch hnot
  · have hadm := ingestAt_admission codecs now hepoch
    have hcurrent : (m.ingestAt codecs packet now).2.currentEpoch = packet.streamEpoch := by
      rw [hadm.same.2.2.1, observeFrameId_epoch, enterEpoch_currentEpoch hepoch]
    simp only [Ended, perform] at hk
    rcases hk with ⟨hmem, hgone⟩ | ⟨hmem, _⟩ | ⟨_, hkepoch, hover, hne, hskipped⟩
    · rcases m.enterEpoch_cases packet.streamEpoch with heq | ⟨hnewer, _⟩
      · rw [heq] at hadm
        have hmem' : k ∈ (m.observeFrameId packet.frameId now).frames := by
          rwa [observeFrameId_frames]
        rcases hadm.remembered hmem' hgone with hterminal | hvictim
        · exact Or.inl (Or.inr ⟨h'.terminal_epoch k hterminal, Or.inr (Or.inl hterminal)⟩)
        · refine Or.inr (Or.inr (Or.inl ?_))
          rw [heq]
          exact hvictim
      · refine Or.inl (Or.inl ?_)
        rw [h.frames_epoch k hmem, hcurrent, ← enterEpoch_currentEpoch hepoch]
        exact hnewer
    · exact Or.inl (Or.inr ⟨h'.rejected_epoch k hmem, Or.inr (Or.inr hmem)⟩)
    · -- An overflow raises the boundary over every id below the packet's.
      refine Or.inl (Or.inr ⟨hkepoch.trans hcurrent.symm, Or.inl ?_⟩)
      rw [hadm.same.2.2.2, (observeFrameId_overflow _ packet.frameId now hover).2.1,
        atOrBelow_raiseBound]
      right
      obtain ⟨highest, hhighest, hlt, _⟩ := hover
      rcases hskipped with hgap | ⟨_, _, _, hlt'⟩
      · have hle := (h.enterEpoch packet.streamEpoch).gaps_observed _ hgap
        rw [hhighest, atOrBelow_some] at hle
        omega
      · omega

theorem atOrBelow_expireThrough {m : ReassemblyMap} (through : Nat) {id : Nat}
    (h : atOrBelow m.expiredThroughFrameId id ∨ id ≤ through) :
    atOrBelow (m.expireThrough through).expiredThroughFrameId id := by
  rw [(m.expireThrough_spec through).2.2.1, atOrBelow_raiseBound]
  exact h

theorem closed_expireThrough {m : ReassemblyMap} (through : Nat) {k : FrameKey}
    (h : m.Closed k) : (m.expireThrough through).Closed k := by
  obtain ⟨hepoch, _, _, hterminal, _, _, hrejected⟩ := m.expireThrough_spec through
  unfold Closed
  rw [hepoch, hterminal, hrejected]
  rcases h with hlt | ⟨heq, hbelow | hterm | hrej⟩
  · exact Or.inl hlt
  · exact Or.inr ⟨heq, Or.inl (atOrBelow_expireThrough through (Or.inl hbelow))⟩
  · exact Or.inr ⟨heq, Or.inr (Or.inl hterm)⟩
  · by_cases hle : k.frameId ≤ through
    · exact Or.inr ⟨heq, Or.inl (atOrBelow_expireThrough through (Or.inr hle))⟩
    · exact Or.inr ⟨heq, Or.inr (Or.inr ⟨Nat.not_le.mp hle, hrej⟩)⟩

theorem ended_expire (codecs : Codecs) {m : ReassemblyMap} (h : WellFormed m) (now : Instant)
    (maxAge : Duration) {k : FrameKey}
    (hk : m.Ended codecs (.expireIncompleteOlderThan now maxAge) k) :
    (m.expireIncompleteOlderThan now maxAge).Closed k := by
  simp only [Ended, perform, Operation.Drops] at hk
  rcases m.expireIncompleteOlderThan_cases now maxAge with heq | ⟨through, heq⟩
  · rw [heq] at hk
    rcases hk with ⟨hmem, hnot⟩ | ⟨hmem, hnot⟩ | ⟨_, hmem, hnot⟩
    · exact absurd hmem hnot
    · exact absurd hmem hnot
    · exact absurd hmem hnot
  · rw [heq] at hk ⊢
    obtain ⟨hepoch, _, _, _, hframes, hgaps, hrejected⟩ := m.expireThrough_spec through
    have hle : k.streamEpoch = m.currentEpoch ∧ k.frameId ≤ through := by
      rcases hk with ⟨hmem, hnot⟩ | ⟨hmem, hnot⟩ | ⟨hkepoch, hmem, hnot⟩
      · rw [hframes] at hnot
        exact ⟨h.frames_epoch k hmem, by by_contra hlt; exact hnot ⟨Nat.not_le.mp hlt, hmem⟩⟩
      · exact absurd ((hrejected k).mp hmem).2 hnot
      · rw [hgaps] at hnot
        exact ⟨hkepoch, by by_contra hlt; exact hnot ⟨Nat.not_le.mp hlt, hmem⟩⟩
    exact Or.inr ⟨hle.1.trans hepoch.symm,
      Or.inl (atOrBelow_expireThrough through (Or.inr hle.2))⟩

theorem keepsClosed_discardFrame {m : ReassemblyMap} {key : FrameKey}
    (hkey : key.streamEpoch = m.currentEpoch) (flags : VideoPacketFlags) :
    KeepsClosed m (m.discardFrame key flags) {k | m.terminalVictim = some k} := by
  have hbelow : ∀ {id}, atOrBelow m.expiredThroughFrameId id ∨ id ≤ key.frameId →
      atOrBelow (m.discardFrame key flags).expiredThroughFrameId id :=
    fun h => atOrBelow_raiseBound.mpr h
  intro k hk
  rcases hk with hlt | ⟨heq, hold | hterminal | hrejected⟩
  · exact Or.inl (Or.inl hlt)
  · exact Or.inl (Or.inr ⟨heq, Or.inl (hbelow (Or.inl hold))⟩)
  · rcases mem_terminalAfter_of_mem key hterminal with hmem | hvictim
    · exact Or.inl (Or.inr ⟨heq, Or.inr (Or.inl hmem)⟩)
    · exact Or.inr hvictim
  · by_cases hown : k = key
    · subst hown
      exact Or.inl (Or.inr ⟨heq, Or.inl (hbelow (Or.inr (Nat.le_refl _)))⟩)
    · exact Or.inl (Or.inr ⟨heq, Or.inr (Or.inr (mem_set_erase.mpr ⟨hown, hrejected⟩))⟩)

theorem keepsClosed_discard (m : ReassemblyMap) (streamEpoch frameId : Nat)
    (flags : VideoPacketFlags) :
    KeepsClosed m (m.discardStaleAccessUnit streamEpoch frameId flags).2
      ((Operation.discardStaleAccessUnit streamEpoch frameId flags).victims m) := by
  intro k hk
  have hentered := closed_enterEpoch streamEpoch hk
  rcases m.discardStaleAccessUnit_cases streamEpoch frameId flags with heq | ⟨hepoch, heq⟩
  · rw [heq]
    exact Or.inl hentered
  · rw [heq]
    exact keepsClosed_discardFrame hepoch.symm flags k hentered

theorem ended_discard (codecs : Codecs) {m : ReassemblyMap} (h : WellFormed m)
    (streamEpoch frameId : Nat) (flags : VideoPacketFlags) {k : FrameKey}
    (hk : m.Ended codecs (.discardStaleAccessUnit streamEpoch frameId flags) k) :
    (m.discardStaleAccessUnit streamEpoch frameId flags).2.Closed k := by
  simp only [Ended, perform, Operation.Drops] at hk
  have hcases := m.enterEpoch_cases streamEpoch
  rcases m.discardStaleAccessUnit_cases streamEpoch frameId flags with heq | ⟨hepoch, heq⟩
  · rw [heq] at hk ⊢
    rcases hcases with hself | ⟨hnewer, _, hrejected⟩
    · rw [hself] at hk
      rcases hk with ⟨hmem, hnot⟩ | ⟨hmem, hnot⟩ | ⟨hfalse, _⟩
      · exact absurd hmem hnot
      · exact absurd hmem hnot
      · cases hfalse
    · rcases hk with ⟨hmem, _⟩ | ⟨hmem, _⟩ | ⟨hfalse, _⟩
      · exact closed_of_older hnewer (Nat.le_of_eq (h.frames_epoch k hmem))
      · rw [hrejected] at hmem
        exact absurd hmem Std.ExtTreeSet.not_mem_empty
      · cases hfalse
  · rw [heq] at hk ⊢
    have hown : ((m.enterEpoch streamEpoch).discardFrame ⟨streamEpoch, frameId⟩ flags).Closed
        ⟨streamEpoch, frameId⟩ :=
      Or.inr ⟨hepoch.symm, Or.inr (Or.inl (mem_terminalAfter_self _ _))⟩
    rcases hk with ⟨hmem, hgone⟩ | ⟨hmem, hnot⟩ | ⟨_, rfl⟩
    · by_cases hkey : k = ⟨streamEpoch, frameId⟩
      · rw [hkey]
        exact hown
      · rcases hcases with hself | ⟨hnewer, _⟩
        · rw [hself] at hgone
          exact absurd (mem_map_erase.mpr ⟨hkey, hmem⟩) hgone
        · exact closed_of_older hnewer (Nat.le_of_eq (h.frames_epoch k hmem))
    · have hold := (mem_set_erase.mp hmem).2
      rcases hcases with hself | ⟨_, _, hrejected⟩
      · rw [hself] at hold
        exact absurd hold hnot
      · rw [hrejected] at hold
        exact absurd hold Std.ExtTreeSet.not_mem_empty
    · exact hown

theorem mem_foldl_rememberTerminal_of_mem (abandoned : List FrameKey) {m : ReassemblyMap}
    {k : FrameKey} (hk : k ∈ m.terminalFrames) :
    k ∈ (abandoned.foldl rememberTerminal m).terminalFrames ∨
      k ∈ clearVictims abandoned m := by
  induction abandoned generalizing m with
  | nil => exact Or.inl hk
  | cons key keys ih =>
      rcases mem_terminalAfter_of_mem key hk with hmem | hvictim
      · have hmem' : k ∈ (m.rememberTerminal key).terminalFrames := hmem
        rcases ih hmem' with hfold | hlater
        · exact Or.inl hfold
        · exact Or.inr (Or.inr hlater)
      · exact Or.inr (Or.inl hvictim)

theorem keepsClosed_clear (m : ReassemblyMap) (abandoned : List FrameKey) :
    KeepsClosed m (m.clearPendingIn abandoned)
      ((Operation.clearPending abandoned).victims m) := by
  intro k hk
  obtain ⟨hids, _, _⟩ := foldl_rememberTerminal_sameIds abandoned
    { m with frames := ∅, frameGaps := ∅, expiredThroughFrameId := m.clearedThrough }
  have hepoch : (m.clearPendingIn abandoned).currentEpoch = m.currentEpoch := hids.epoch
  rcases hk with hlt | ⟨heq, hbelow | hterminal | hrejected⟩
  · refine Or.inl (Or.inl ?_)
    rw [hepoch]
    exact hlt
  · refine Or.inl (Or.inr ⟨heq.trans hepoch.symm, Or.inl ?_⟩)
    rw [clearPendingIn, hids.expired]
    exact m.clearedThrough_covers (Or.inl hbelow)
  · rcases mem_foldl_rememberTerminal_of_mem abandoned
      (m := { m with frames := ∅, frameGaps := ∅, expiredThroughFrameId := m.clearedThrough })
      hterminal with hmem | hvictim
    · exact Or.inl (Or.inr ⟨heq.trans hepoch.symm, Or.inr (Or.inl hmem)⟩)
    · exact Or.inr hvictim
  · refine Or.inl (Or.inr ⟨heq.trans hepoch.symm, Or.inr (Or.inr ?_)⟩)
    rw [clearPendingIn, hids.rejected]
    exact hrejected

theorem ended_clear (codecs : Codecs) {m : ReassemblyMap} (h : WellFormed m)
    (abandoned : List FrameKey) {k : FrameKey}
    (hk : m.Ended codecs (.clearPending abandoned) k) :
    (m.clearPendingIn abandoned).Closed k := by
  obtain ⟨hids, _, _⟩ := foldl_rememberTerminal_sameIds abandoned
    { m with frames := ∅, frameGaps := ∅, expiredThroughFrameId := m.clearedThrough }
  have hcovered : k.streamEpoch = m.currentEpoch ∧ atOrBelow m.clearedThrough k.frameId := by
    rcases hk with ⟨hmem, _⟩ | ⟨hmem, hnot⟩ | ⟨hepoch, hgap⟩
    · exact ⟨h.frames_epoch k hmem,
        m.clearedThrough_covers (Or.inr (Or.inl ⟨k, hmem, rfl⟩))⟩
    · have hsame : (m.perform codecs (.clearPending abandoned)).2.rejectedFrames =
          m.rejectedFrames := hids.rejected
      rw [hsame] at hmem
      exact absurd hmem hnot
    · exact ⟨hepoch, m.clearedThrough_covers (Or.inr (Or.inr hgap))⟩
  refine Or.inr ⟨?_, Or.inl ?_⟩
  · rw [clearPendingIn, hids.epoch]
    exact hcovered.1
  · rw [clearPendingIn, hids.expired]
    exact hcovered.2

/-- Step lemma: what was closed, and what the operation ends, is closed afterwards unless a
full cache chose it as its oldest. -/
theorem closed_perform (codecs : Codecs) {m : ReassemblyMap} (h : WellFormed m)
    (op : Operation) {k : FrameKey} (hk : m.Closed k ∨ m.Ended codecs op k) :
    (m.perform codecs op).2.Closed k ∨ k ∈ op.victims m := by
  cases op with
  | ingestAt packet now =>
      rcases hk with hk | hk
      · exact keepsClosed_ingestAt codecs m packet now k hk
      · exact ended_ingestAt codecs h packet now hk
  | expireIncompleteOlderThan now maxAge =>
      rcases hk with hk | hk
      · left
        change (m.expireIncompleteOlderThan now maxAge).Closed k
        rcases m.expireIncompleteOlderThan_cases now maxAge with heq | ⟨through, heq⟩
        · rw [heq]
          exact hk
        · rw [heq]
          exact closed_expireThrough through hk
      · exact Or.inl (ended_expire codecs h now maxAge hk)
  | discardStaleAccessUnit streamEpoch frameId flags =>
      rcases hk with hk | hk
      · exact keepsClosed_discard m streamEpoch frameId flags k hk
      · exact Or.inl (ended_discard codecs h streamEpoch frameId flags hk)
  | clearPending abandoned =>
      rcases hk with hk | hk
      · exact keepsClosed_clear m abandoned k hk
      · exact Or.inl (ended_clear codecs h abandoned hk)
  | takeKeyframeLoss =>
      rcases hk with hk | ⟨hmem, hnot⟩ | ⟨hmem, hnot⟩ | hfalse
      · exact Or.inl hk
      · exact absurd hmem hnot
      · exact absurd hmem hnot
      · exact absurd hfalse id
  | takeReferenceChainLoss =>
      rcases hk with hk | ⟨hmem, hnot⟩ | ⟨hmem, hnot⟩ | hfalse
      · exact Or.inl hk
      · exact absurd hmem hnot
      · exact absurd hmem hnot
      · exact absurd hfalse id

theorem perform_returned (codecs : Codecs) {m : ReassemblyMap} {op : Operation}
    {unit : AssembledAccessUnit} (hunit : (m.perform codecs op).1 = some unit) :
    ∃ packet now, op = .ingestAt packet now ∧ keyOf packet = unitKey unit ∧
      ¬ m.Closed (unitKey unit) ∧ (m.perform codecs op).2.Closed (unitKey unit) := by
  cases op with
  | ingestAt packet now =>
      by_cases hepoch : packet.streamEpoch < m.currentEpoch
      · simp only [perform, ReassemblyMap.ingestAt, if_pos hepoch, returned] at hunit
        cases hunit
      · have hadm := ingestAt_admission codecs now hepoch
        have hcurrent : (m.ingestAt codecs packet now).2.currentEpoch = packet.streamEpoch := by
          rw [hadm.same.2.2.1, observeFrameId_epoch, enterEpoch_currentEpoch hepoch]
        simp only [perform] at hunit ⊢
        refine ⟨packet, now, rfl, ?_⟩
        generalize (m.ingestAt codecs packet now).1 = result at hadm hunit
        generalize (m.ingestAt codecs packet now).2 = m' at hadm hcurrent ⊢
        cases hadm with
        | covered _ => cases hunit
        | rejectedBefore _ => cases hunit
        | tooMany _ => cases hunit
        | badParity _ _ _ _ _ => cases hunit
        | abandoned _ _ hnone =>
            rw [hnone] at hunit
            cases hunit
        | kept _ hnone =>
            rw [hnone] at hunit
            cases hunit
        | completed hbase hopen hterminal hrejected hkey =>
            have hsame : some _ = some unit := hunit
            cases hsame
            have hkey' : unitKey unit = keyOf packet := hkey
            refine ⟨hkey'.symm, ?_, ?_⟩
            · rw [hkey']
              intro hclosed
              have hobserved := closed_observe packet.frameId now
                (closed_enterEpoch packet.streamEpoch hclosed)
              rcases hobserved with hlt | ⟨_, hbelow | hmem | hmem⟩
              · rw [observeFrameId_epoch, enterEpoch_currentEpoch hepoch] at hlt
                exact Nat.lt_irrefl _ hlt
              · exact hopen hbelow
              · exact hterminal hmem
              · exact hrejected hmem
            · rw [hkey']
              exact Or.inr ⟨hcurrent.symm, Or.inr (Or.inl (mem_terminalAfter_self _ _))⟩
  | expireIncompleteOlderThan now maxAge => cases hunit
  | discardStaleAccessUnit streamEpoch frameId flags => cases hunit
  | clearPending abandoned => cases hunit
  | takeKeyframeLoss => cases hunit
  | takeReferenceChainLoss => cases hunit

/-! ## Runs -/

namespace History

/-- Every frame that was returned or ended is closed, or was rotated out; none was returned
twice. -/
structure Sound (h : History) : Prop where
  wellFormed : WellFormed h.map
  closed : ∀ k, k ∈ h.returned ∨ k ∈ h.ended → h.map.Closed k ∨ k ∈ h.rotated
  nodup : h.returned.Nodup

theorem sound_start (maxFrames maxFragments : Nat) : Sound (start maxFrames maxFragments) where
  wellFormed := wellFormed_new maxFrames maxFragments
  closed k hk := by
    rcases hk with hk | hk
    · cases hk
    · exact absurd hk (Set.notMem_empty k)
  nodup := List.nodup_nil

theorem Sound.fresh {codecs : Codecs} {h : History} (hs : h.Sound) {op : Operation}
    (hop : h.NoRotatedPacket op) {unit : AssembledAccessUnit}
    (hunit : (h.map.perform codecs op).1 = some unit) :
    unitKey unit ∉ h.returned ∧ unitKey unit ∉ h.ended := by
  obtain ⟨packet, now, heq, hkey, hopen, _⟩ := perform_returned codecs hunit
  have hnot : ¬ (unitKey unit ∈ h.returned ∨ unitKey unit ∈ h.ended) := by
    intro hold
    rcases hs.closed _ hold with hclosed | hrotated
    · exact hopen hclosed
    · rw [← hkey] at hrotated hopen
      exact hopen (hop packet now heq hrotated)
  exact not_or.mp hnot

theorem Sound.next {codecs : Codecs} {h : History} (hs : h.Sound) {op : Operation}
    (hvalid : op.Valid h.map) (hop : h.NoRotatedPacket op) : Sound (h.next codecs op) where
  wellFormed := hs.wellFormed.perform codecs hvalid
  closed k hk := by
    have hold : ∀ {k}, h.map.Closed k ∨ k ∈ h.rotated ∨ h.map.Ended codecs op k →
        (h.next codecs op).map.Closed k ∨ k ∈ (h.next codecs op).rotated := by
      intro k hk
      rcases hk with hk | hk | hk
      · exact (closed_perform codecs hs.wellFormed op (Or.inl hk)).imp id Or.inr
      · exact Or.inr (Or.inl hk)
      · exact (closed_perform codecs hs.wellFormed op (Or.inr hk)).imp id Or.inr
    rcases hk with hk | hk | hk
    · rcases List.mem_append.mp hk with hk | hk
      · rcases hs.closed k (Or.inl hk) with hclosed | hrotated
        · exact hold (Or.inl hclosed)
        · exact hold (Or.inr (Or.inl hrotated))
      · cases hunit : (h.map.perform codecs op).1 with
        | none =>
            rw [hunit] at hk
            cases hk
        | some unit =>
            rw [hunit] at hk
            have hkey : k = unitKey unit := by simpa using hk
            obtain ⟨_, _, _, _, _, hclosed⟩ := perform_returned codecs hunit
            rw [hkey]
            exact Or.inl hclosed
    · rcases hs.closed k (Or.inr hk) with hclosed | hrotated
      · exact hold (Or.inl hclosed)
      · exact hold (Or.inr (Or.inl hrotated))
    · exact hold (Or.inr (Or.inr hk))
  nodup := by
    rw [History.next]
    cases hunit : (h.map.perform codecs op).1 with
    | none => simpa using hs.nodup
    | some unit =>
        have hfresh := (hs.fresh hop hunit).1
        simp only [Option.map_some, Option.toList_some]
        rw [List.nodup_append]
        refine ⟨hs.nodup, List.nodup_singleton _, ?_⟩
        intro k hk k' hk' heq
        rw [List.mem_singleton] at hk'
        rw [heq, hk'] at hk
        exact hfresh hk

theorem sound_of_reachable {codecs : Codecs} {maxFrames maxFragments : Nat} {h : History}
    (hreach : ((system codecs maxFrames maxFragments).restrict NoRotatedPacket).Reachable h) :
    Sound h := by
  refine hreach.invariant ?_ ?_
  · rintro s rfl
    exact sound_start maxFrames maxFragments
  · rintro s op s' hs ⟨hop, hvalid, rfl⟩
    exact hs.next hvalid hop

/-- In a run in which no packet arrives for a rotated-out frame, no frame is returned twice,
and a call returns no frame that was returned or ended before. -/
theorem atMostOnce {codecs : Codecs} {maxFrames maxFragments : Nat} {h : History}
    (hreach : ((system codecs maxFrames maxFragments).restrict NoRotatedPacket).Reachable h) :
    h.returned.Nodup ∧
      ∀ op unit, h.NoRotatedPacket op → (h.map.perform codecs op).1 = some unit →
        unitKey unit ∉ h.returned ∧ unitKey unit ∉ h.ended := by
  have hs := sound_of_reachable hreach
  exact ⟨hs.nodup, fun op unit hop hunit => hs.fresh hop hunit⟩

/-- Three access units and a partial frame that expires rotate frame 1 out of the cache of two,
and frame 3 comes twice. -/
def rotatingOps : List Operation :=
  [.ingestAt (wholeFrame 1) 0, .ingestAt (wholeFrame 2) 0, .ingestAt (wholeFrame 3) 0,
    .ingestAt (wholeFrame 3) 1, .ingestAt (halfFrame 4) 1, .expireIncompleteOlderThan 10 5,
    .ingestAt (halfFrame 4) 11]

def rotatingRun : History := rotatingOps.foldl (next noCodecs) (start 1 1024)

theorem rotatingRun_reachable :
    ((system noCodecs 1 1024).restrict NoRotatedPacket).Reachable rotatingRun := by
  have hmeets : TransitionSystem.MeetsAll (fun h op => h.NoRotatedPacket op ∧ op.Valid h.map)
      (next noCodecs) (start 1 1024) rotatingOps := by
    refine ⟨?_, ?_, ?_, ?_, ?_, ?_, ?_, trivial⟩ <;> decide +kernel
  unfold rotatingRun
  refine TransitionSystem.Reachable.foldl ?_ (TransitionSystem.Reachable.of_init ?_) hmeets
  · exact fun _ _ hstep => ⟨hstep.1, hstep.2, rfl⟩
  · rfl

theorem atMostOnce_rotatingRun :
    rotatingRun.returned.Nodup ∧ ∀ op unit, rotatingRun.NoRotatedPacket op →
      (rotatingRun.map.perform noCodecs op).1 = some unit →
      unitKey unit ∉ rotatingRun.returned ∧ unitKey unit ∉ rotatingRun.ended :=
  atMostOnce rotatingRun_reachable

/-! ### Frame 1 is assembled again after sixteen others -/

theorem reachable_ingests (codecs : Codecs) (maxFrames maxFragments : Nat)
    (packets : List VideoPacket) :
    (system codecs maxFrames maxFragments).Reachable
      (packets.foldl (fun h packet => h.next codecs (.ingestAt packet 0))
        (start maxFrames maxFragments)) := by
  induction packets using List.reverseRecOn with
  | nil => exact TransitionSystem.Reachable.of_init rfl
  | append_singleton packets packet ih =>
      rw [List.foldl_append]
      exact ih.step (a := .ingestAt packet 0) ⟨trivial, rfl⟩

/-- The first packet once more after the access units 1 to 17. -/
def lateDuplicate : List VideoPacket :=
  (List.range' 1 17).map (fun frameId => wholeFrame (UInt8.ofNat frameId)) ++
    [wholeFrame 1]

theorem lateDuplicate_twice :
    ∃ h, (system noCodecs 8 1024).Reachable h ∧ ¬ h.returned.Nodup := by
  refine ⟨_, reachable_ingests noCodecs 8 1024 lateDuplicate, ?_⟩
  decide +kernel

end History

end PicooCamera.Packet.ReassemblyMap
