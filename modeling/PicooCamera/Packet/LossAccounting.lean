import PicooCamera.Packet.Boundary
import PicooCamera.Packet.LossCharges

/-!
# Each access unit is counted once

`Ledger` follows a run with the access units that it charged, the ids that
ever waited as a gap, and the frames that ended without being a loss. Over the
runs that meet `Ledger.Accounted` no access unit is charged twice, and an id
that waited as a gap and is closed was returned, released, or charged.
-/

namespace PicooCamera.Packet.ReassemblyMap

open PicooCamera.Library PicooCamera.Protocol

/-- The access units that a clear ends without counting them as a loss. -/
def Operation.Releases (m : ReassemblyMap) : Operation → FrameKey → Prop
  | .clearPending _, k => m.Unresolved k
  | _, _ => False

/-- The access unit that an effective stale discard ends, which it does not count either. -/
def Operation.Discards (m : ReassemblyMap) : Operation → FrameKey → Prop
  | .discardStaleAccessUnit streamEpoch frameId flags, k =>
      (m.discardStaleAccessUnit streamEpoch frameId flags).1 = true ∧
        k = ⟨streamEpoch, frameId⟩
  | _, _ => False

/-- An overflow meets no gap, ids are skipped above the boundary only, the first packet of a
gap passes the parity check, and no packet with too many fragments is admitted for a partial
frame. -/
def PacketAccounted (m : ReassemblyMap) (packet : VideoPacket) : Prop :=
  let entered := m.enterEpoch packet.streamEpoch
  (entered.GapOverflow packet.frameId → entered.frameGaps = ∅) ∧
    (¬ entered.GapOverflow packet.frameId → ∀ highest ∈ entered.highestObservedFrameId,
      ∀ id, highest < id → id < packet.frameId →
        ¬ atOrBelow entered.expiredThroughFrameId id) ∧
    (packet.frameId ∈ entered.frameGaps → packet.fragmentCount ≤ m.maxFragments →
      parityError packet = none) ∧
    (m.maxFragments < packet.fragmentCount → keyOf packet ∈ entered.frames →
      entered.Covers packet)

instance (highest bound : Option Nat) (frameId : Nat) :
    Decidable (∀ h ∈ highest, ∀ id, h < id → id < frameId → ¬ atOrBelow bound id) :=
  inferInstanceAs
    (Decidable (∀ h ∈ highest, ∀ id, h + 1 ≤ id → id < frameId → ¬ atOrBelow bound id))

instance (m : ReassemblyMap) (packet : VideoPacket) : Decidable (m.PacketAccounted packet) :=
  have : Decidable ((m.enterEpoch packet.streamEpoch).frameGaps = ∅) :=
    decidable_of_iff _ Std.ExtTreeMap.isEmpty_iff
  inferInstanceAs (Decidable ((_ → _) ∧ (¬ _ → _) ∧ (_ → _ → _) ∧ (_ → _ → _)))

/-- The frame of an effective stale discard is older than all gaps. -/
def DiscardAccounted (m : ReassemblyMap) (streamEpoch frameId : Nat) : Prop :=
  let entered := m.enterEpoch streamEpoch
  ¬ atOrBelow entered.expiredThroughFrameId frameId →
    (⟨streamEpoch, frameId⟩ : FrameKey) ∉ entered.terminalFrames →
    ∀ id ∈ entered.frameGaps, frameId < id

instance (m : ReassemblyMap) (streamEpoch frameId : Nat) :
    Decidable (m.DiscardAccounted streamEpoch frameId) :=
  have : Decidable (∀ id ∈ (m.enterEpoch streamEpoch).frameGaps, frameId < id) :=
    decidable_of_iff (∀ id ∈ (m.enterEpoch streamEpoch).frameGaps.keys, frameId < id)
      (forall_congr' fun _ => imp_congr_left Std.ExtTreeMap.mem_keys)
  inferInstanceAs (Decidable (¬ _ → _ ∉ _ → _))

structure Ledger where
  history : History
  charges : List Charge
  /-- The frames whose ids ever waited as a gap. -/
  tracked : Set FrameKey
  released : Set FrameKey

namespace Ledger

abbrev map (l : Ledger) : ReassemblyMap := l.history.map

def charged (l : Ledger) : List FrameKey := l.charges.map Charge.key

def start (maxFrames maxFragments : Nat) : Ledger :=
  ⟨History.start maxFrames maxFragments, [], ∅, ∅⟩

def next (codecs : Codecs) (l : Ledger) (op : Operation) : Ledger where
  history := l.history.next codecs op
  charges := l.charges ++ op.charges codecs l.map
  tracked := l.tracked ∪ {k | k.streamEpoch = (l.history.next codecs op).map.currentEpoch ∧
    k.frameId ∈ (l.history.next codecs op).map.frameGaps}
  released := l.released ∪ {k | op.Releases l.map k}

def system (codecs : Codecs) (maxFrames maxFragments : Nat) :
    TransitionSystem Ledger Operation where
  init l := l = start maxFrames maxFragments
  step l op l' := op.Valid l.map ∧ l' = l.next codecs op

/-- No packet arrives for a frame that a full cache rotated out, and no step takes a gap, or a
frame that was one, out of the accounts or counts a partial frame as rejected. -/
def Accounted (l : Ledger) (op : Operation) : Prop :=
  l.history.NoRotatedPacket op ∧
    (∀ packet now, op = .ingestAt packet now → l.map.currentEpoch ≤ packet.streamEpoch →
      l.map.PacketAccounted packet) ∧
    (∀ streamEpoch frameId flags, op = .discardStaleAccessUnit streamEpoch frameId flags →
      l.map.currentEpoch ≤ streamEpoch → l.map.DiscardAccounted streamEpoch frameId) ∧
    ∀ k, op.Discards l.map k → k ∉ l.tracked

instance (maxFrames maxFragments : Nat) (k : FrameKey) :
    Decidable (k ∈ (start maxFrames maxFragments).tracked) :=
  isFalse (Set.notMem_empty k)

instance (maxFrames maxFragments : Nat) (k : FrameKey) :
    Decidable (k ∈ (start maxFrames maxFragments).history.rotated) :=
  isFalse (Set.notMem_empty k)

instance (codecs : Codecs) (l : Ledger) (op : Operation) (k : FrameKey)
    [Decidable (k ∈ l.history.rotated)] : Decidable (k ∈ (l.next codecs op).history.rotated) :=
  inferInstanceAs (Decidable (k ∈ (l.history.next codecs op).rotated))

instance (codecs : Codecs) (l : Ledger) (op : Operation) (k : FrameKey)
    [Decidable (k ∈ l.tracked)] : Decidable (k ∈ (l.next codecs op).tracked) :=
  inferInstanceAs (Decidable (k ∈ l.tracked ∨ _ = _ ∧ _ ∈ _))

theorem accounted_of_other {l : Ledger} {op : Operation}
    (hpacket : ∀ packet now, op ≠ .ingestAt packet now)
    (hdiscard : ∀ streamEpoch frameId flags, op ≠ .discardStaleAccessUnit streamEpoch frameId flags) :
    l.Accounted op := by
  refine ⟨fun packet now heq => absurd heq (hpacket packet now),
    fun packet now heq => absurd heq (hpacket packet now),
    fun streamEpoch frameId flags heq => absurd heq (hdiscard streamEpoch frameId flags), ?_⟩
  intro k hk
  cases op with
  | discardStaleAccessUnit streamEpoch frameId flags => exact absurd rfl (hdiscard _ _ _)
  | _ => exact False.elim hk

theorem accounted_packet {l : Ledger} {packet : VideoPacket} {now : Instant} :
    l.Accounted (.ingestAt packet now) ↔ l.history.NoRotatedPacket (.ingestAt packet now) ∧
      (l.map.currentEpoch ≤ packet.streamEpoch → l.map.PacketAccounted packet) := by
  constructor
  · exact fun h => ⟨h.1, h.2.1 packet now rfl⟩
  · rintro ⟨hrotated, hpacket⟩
    refine ⟨hrotated, ?_, nofun, fun _ hk => False.elim hk⟩
    rintro packet' now' heq
    cases heq
    exact hpacket

theorem accounted_discard {l : Ledger} {streamEpoch frameId : Nat} {flags : VideoPacketFlags} :
    l.Accounted (.discardStaleAccessUnit streamEpoch frameId flags) ↔
      (l.map.currentEpoch ≤ streamEpoch → l.map.DiscardAccounted streamEpoch frameId) ∧
        ((l.map.discardStaleAccessUnit streamEpoch frameId flags).1 = true →
          (⟨streamEpoch, frameId⟩ : FrameKey) ∉ l.tracked) := by
  constructor
  · exact fun h => ⟨h.2.2.1 streamEpoch frameId flags rfl, fun heff => h.2.2.2 _ ⟨heff, rfl⟩⟩
  · rintro ⟨hdiscard, htracked⟩
    refine ⟨nofun, nofun, ?_, ?_⟩
    · rintro streamEpoch' frameId' flags' heq
      cases heq
      exact hdiscard
    · rintro k ⟨heff, rfl⟩
      exact htracked heff

instance (l : Ledger) (op : Operation) [∀ k, Decidable (k ∈ l.history.rotated)]
    [∀ k, Decidable (k ∈ l.tracked)] : Decidable (l.Accounted op) :=
  match op with
  | .ingestAt _ _ => decidable_of_iff _ accounted_packet.symm
  | .discardStaleAccessUnit _ _ _ => decidable_of_iff _ accounted_discard.symm
  | .expireIncompleteOlderThan _ _ => isTrue (accounted_of_other nofun nofun)
  | .clearPending _ => isTrue (accounted_of_other nofun nofun)
  | .takeKeyframeLoss => isTrue (accounted_of_other nofun nofun)
  | .takeReferenceChainLoss => isTrue (accounted_of_other nofun nofun)

structure LossAccounting (l : Ledger) : Prop where
  /-- Below saturation the counters add up, and are the charges of the run. -/
  total : l.map.drops < u64Max →
    l.map.drops = l.map.partialAccessUnitDrops + l.map.wholeAccessUnitGapDrops +
        (ofKind .rejected l.charges).length ∧
      l.map.drops = l.charges.length
  /-- No frame id of an epoch is counted twice. -/
  once : l.charged.Nodup
  /-- An id that waited as a gap and is closed was completed, cleared, or counted once. -/
  gaps : ∀ k ∈ l.tracked, k.streamEpoch = l.map.currentEpoch → l.map.Closed k →
    k ∉ l.map.frames →
    k ∈ l.history.returned ∨ k ∈ l.released ∨ l.charged.count k = 1
  fragments : l.map.missingFragments ≤ l.map.resolvedFragments

end Ledger

/-! ## The keys that one packet charges -/

theorem mem_evictionCharges {m : ReassemblyMap} {key : FrameKey} {c : Charge}
    (h : c ∈ m.evictionCharges key) :
    c.key ∈ m.frames ∧ c.key ≠ key ∧ c.key ∉ (m.makeRoom key).frames := by
  unfold evictionCharges at h
  split at h
  · rename_i hfull
    obtain ⟨victim, hv, rfl⟩ := Option.map_eq_some_iff.mp (Option.mem_toList.mp h)
    have hmem : victim ∈ m.frames := evictionVictim_mem hv
    refine ⟨hmem, fun heq => hfull.2 (heq ▸ hmem), ?_⟩
    have hget := Std.ExtTreeMap.getElem?_eq_some_getElem hmem
    unfold makeRoom dropOldest
    rw [if_pos hfull, hv]
    simp only [hget]
    exact fun hk => (mem_map_erase.mp hk).1 rfl
  · cases h

theorem charged_of_evicted {m : ReassemblyMap} {key k : FrameKey} (hk : k ∈ m.frames)
    (hgone : k ∉ (m.makeRoom key).frames) : k ∈ (m.evictionCharges key).map Charge.key := by
  unfold evictionCharges
  by_cases hfull : m.maxFrames ≤ m.frames.size ∧ key ∉ m.frames
  · unfold makeRoom dropOldest at hgone
    rw [if_pos hfull] at hgone ⊢
    cases hv : m.evictionVictim with
    | none =>
        rw [hv] at hgone
        exact absurd hk hgone
    | some victim =>
        have hget := Std.ExtTreeMap.getElem?_eq_some_getElem (evictionVictim_mem hv)
        simp only [hv, hget, abandonFrame_frames] at hgone
        have hkey : k = victim := by
          by_contra hne
          exact hgone (mem_map_erase.mpr ⟨hne, hk⟩)
        rw [hkey]
        simp
  · rw [makeRoom, if_neg hfull] at hgone
    exact absurd hk hgone

theorem evictionCharges_nodup (m : ReassemblyMap) (key : FrameKey) :
    ((m.evictionCharges key).map Charge.key).Nodup := by
  unfold evictionCharges
  split
  · cases m.evictionVictim with
    | none => exact List.nodup_nil
    | some victim => exact List.nodup_singleton victim
  · exact List.nodup_nil

section Admission

variable {m m' : ReassemblyMap} {packet : VideoPacket} {result : IngestResult}

theorem Verdict.frames_subset (h : Verdict m packet result m') {k : FrameKey}
    (hk : k ∈ m'.frames) :
    k ∈ m.frames ∨ k = keyOf packet ∧ ¬ m.Covers packet ∧ keyOf packet ∉ m.rejectedFrames := by
  cases h with
  | covered _ => exact Or.inl hk
  | rejectedBefore _ _ => exact Or.inl hk
  | tooMany _ hnew _ =>
      obtain ⟨kept, _, _, heq⟩ := m.rejectFrame_spec packet.flags hnew
      rw [heq] at hk
      exact Or.inl hk
  | badParity _ _ _ _ => exact Or.inl (makeRoom_frames_subset hk)
  | accepted hopen hnew _ _ hacc =>
      rcases hacc.frames hk with heq | hroom
      · exact Or.inr ⟨heq, hopen, hnew⟩
      · exact Or.inl (makeRoom_frames_subset hroom)

/-- An outcome and the charges that the packet makes with it. -/
structure Charging (m : ReassemblyMap) (packet : VideoPacket) (result : IngestResult)
    (m' : ReassemblyMap) (charges : List Charge) : Prop where
  verdict : Verdict m packet result m'
  nodup : (charges.map Charge.key).Nodup
  /-- The packet charges its own frame, if that is open, or a frame that it evicts. -/
  sources : ∀ k ∈ charges.map Charge.key,
    k ∈ m.frames ∧ k ≠ keyOf packet ∧ k ∉ m'.frames ∨
      k = keyOf packet ∧ ¬ m.Covers packet ∧ keyOf packet ∉ m.rejectedFrames ∧
        (m.maxFragments < packet.fragmentCount ∧ keyOf packet ∈ m'.rejectedFrames ∧
            m'.frames = m.frames ∨
          keyOf packet ∉ m'.frames ∧ keyOf packet ∈ m'.terminalFrames)
  /-- A frame that leaves the map is charged or returned. -/
  left : ∀ k, k ∈ m.frames → k ∉ m'.frames →
    k ∈ charges.map Charge.key ∨ (returned result).map unitKey = some k
  /-- An admitted packet leaves its frame in the map, charges it or returns it. -/
  own : ¬ m.Covers packet → keyOf packet ∉ m.rejectedFrames →
    (packet.fragmentCount ≤ m.maxFragments → parityError packet = none) →
    keyOf packet ∈ m'.frames ∨ keyOf packet ∈ charges.map Charge.key ∨
      (returned result).map unitKey = some (keyOf packet)

theorem ownCharges_of_gone {key : FrameKey} {outcome : IngestResult × ReassemblyMap}
    (hnone : returned outcome.1 = none) (hgone : key ∉ outcome.2.frames) :
    ownCharges key outcome = [⟨.partialUnit, key⟩] := if_pos ⟨hnone, hgone⟩

theorem Acceptance.own {room m' : ReassemblyMap} {key : FrameKey}
    (h : Acceptance room key result m') :
    key ∈ m'.frames ∧ ownCharges key (result, m') = [] ∨
      key ∉ m'.frames ∧ key ∈ m'.terminalFrames ∧
        (ownCharges key (result, m') = [⟨.partialUnit, key⟩] ∨
          ownCharges key (result, m') = [] ∧ (returned result).map unitKey = some key) := by
  cases h with
  | @abandoned base entry _ hbase hnone =>
      have hgone : key ∉ (base.abandonFrame key entry).frames := fun hmem =>
        (mem_map_erase.mp hmem).1 rfl
      refine Or.inr ⟨hgone, mem_terminalAfter_self _ _, Or.inl ?_⟩
      exact ownCharges_of_gone hnone hgone
  | @kept base entry _ hbase hnone =>
      have hmem : key ∈ base.frames.insert key entry := mem_map_insert.mpr (Or.inl rfl)
      exact Or.inl ⟨hmem, if_neg fun hgone => hgone.2 hmem⟩
  | completed hbase hkey =>
      refine Or.inr ⟨fun hmem => (mem_map_erase.mp hmem).1 rfl, mem_terminalAfter_self _ _,
        Or.inr ⟨if_neg fun hnone => ?_, ?_⟩⟩
      · cases hnone.1
      · show some (unitKey _) = some key
        rw [hkey]

theorem Acceptance.mem_ownCharges {room : ReassemblyMap} {key k : FrameKey}
    (h : Acceptance room key result m')
    (hk : k ∈ (ownCharges key (result, m')).map Charge.key) :
    k = key ∧ key ∉ m'.frames ∧ key ∈ m'.terminalFrames := by
  rcases h.own with ⟨_, hnone⟩ | ⟨hgone, hterminal, hcharge | ⟨hnone, _⟩⟩
  · rw [hnone] at hk
    cases hk
  · rw [hcharge] at hk
    exact ⟨List.mem_singleton.mp hk, hgone, hterminal⟩
  · rw [hnone] at hk
    cases hk

theorem Acceptance.ownCharges_nodup {room : ReassemblyMap} {key : FrameKey}
    (h : Acceptance room key result m') :
    ((ownCharges key (result, m')).map Charge.key).Nodup := by
  rcases h.own with ⟨_, hnone⟩ | ⟨_, _, hcharge | ⟨hnone, _⟩⟩
  · rw [hnone]
    exact List.nodup_nil
  · rw [hcharge]
    exact List.nodup_singleton _
  · rw [hnone]
    exact List.nodup_nil

/-- The accepted packet keeps its frame, charges it or returns it. -/
theorem Acceptance.settles {room : ReassemblyMap} {key : FrameKey}
    (h : Acceptance room key result m') :
    key ∈ m'.frames ∨ key ∈ (ownCharges key (result, m')).map Charge.key ∨
      (returned result).map unitKey = some key := by
  rcases h.own with ⟨hmem, _⟩ | ⟨_, _, hcharge | ⟨_, hreturned⟩⟩
  · exact Or.inl hmem
  · refine Or.inr (Or.inl ?_)
    rw [hcharge]
    exact List.mem_singleton.mpr rfl
  · exact Or.inr (Or.inr hreturned)

theorem Acceptance.charging (hopen : ¬ m.Covers packet) (hnew : keyOf packet ∉ m.rejectedFrames)
    (hacc : Acceptance (m.makeRoom (keyOf packet)) (keyOf packet) result m')
    (hverdict : Verdict m packet result m') :
    Charging m packet result m'
      (m.evictionCharges (keyOf packet) ++ ownCharges (keyOf packet) (result, m')) := by
  have hevicted : ∀ k ∈ (m.evictionCharges (keyOf packet)).map Charge.key,
      k ∈ m.frames ∧ k ≠ keyOf packet ∧ k ∉ m'.frames := by
    intro k hk
    obtain ⟨c, hc, rfl⟩ := List.mem_map.mp hk
    obtain ⟨hmem, hne, hgone⟩ := mem_evictionCharges hc
    refine ⟨hmem, hne, fun hmem' => ?_⟩
    rcases hacc.frames hmem' with heq | hroom
    · exact hne heq
    · exact hgone hroom
  refine ⟨hverdict, ?_, ?_, ?_, ?_⟩
  · rw [List.map_append, List.nodup_append]
    refine ⟨m.evictionCharges_nodup _, hacc.ownCharges_nodup, ?_⟩
    intro k hk k' hk' heq
    rw [(hacc.mem_ownCharges hk').1] at heq
    exact (hevicted k hk).2.1 heq
  · intro k hk
    rw [List.map_append] at hk
    rcases List.mem_append.mp hk with hk | hk
    · exact Or.inl (hevicted k hk)
    · obtain ⟨heq, hgone, hterminal⟩ := hacc.mem_ownCharges hk
      exact Or.inr ⟨heq, hopen, hnew, Or.inr ⟨hgone, hterminal⟩⟩
  · intro k hk hgone
    rw [List.map_append]
    by_cases hroom : k ∈ (m.makeRoom (keyOf packet)).frames
    · have hkey : k = keyOf packet := by
        by_contra hne
        exact hgone (hacc.frames_of_ne hne hroom)
      rw [hkey] at hgone ⊢
      rcases hacc.settles with hmem | hcharge | hreturned
      · exact absurd hmem hgone
      · exact Or.inl (List.mem_append_right _ hcharge)
      · exact Or.inr hreturned
    · exact Or.inl (List.mem_append_left _ (charged_of_evicted hk hroom))
  · intro _ _ _
    rw [List.map_append]
    rcases hacc.settles with hmem | hcharge | hreturned
    · exact Or.inl hmem
    · exact Or.inr (Or.inl (List.mem_append_right _ hcharge))
    · exact Or.inr (Or.inr hreturned)

theorem admitPacket_charging (codecs : Codecs) (m : ReassemblyMap) (packet : VideoPacket)
    (firstFragmentAt : Instant) :
    Charging m packet (admitPacket codecs m packet firstFragmentAt).1
      (admitPacket codecs m packet firstFragmentAt).2
      (admissionCharges codecs m packet firstFragmentAt) := by
  have h := admitPacket_verdict codecs m packet firstFragmentAt
  unfold admissionCharges
  dsimp only
  generalize admitPacket codecs m packet firstFragmentAt = outcome at h ⊢
  obtain ⟨result, m'⟩ := outcome
  change Verdict m packet result m' at h
  change Charging m packet result m' _
  have hverdict := h
  have hnil : ∀ k ∈ ([] : List Charge).map Charge.key, False := fun k hk => by cases hk
  cases h with
  | covered hcovered =>
      rw [if_pos (Or.inl hcovered)]
      exact ⟨hverdict, List.nodup_nil, fun k hk => (hnil k hk).elim,
        fun k hk hgone => absurd hk hgone, fun hopen => absurd hcovered hopen⟩
  | rejectedBefore _ hrejected =>
      rw [if_pos (Or.inr hrejected)]
      exact ⟨hverdict, List.nodup_nil, fun k hk => (hnil k hk).elim,
        fun k hk hgone => absurd hk hgone, fun _ hnew => absurd hrejected hnew⟩
  | tooMany hopen hnew hcount =>
      rw [if_neg (not_or.mpr ⟨hopen, hnew⟩), if_pos hcount]
      obtain ⟨kept, _, _, heq⟩ := m.rejectFrame_spec packet.flags hnew
      refine ⟨hverdict, List.nodup_singleton _, ?_, ?_, ?_⟩
      · intro k hk
        have hkey : k = keyOf packet := List.mem_singleton.mp hk
        refine Or.inr ⟨hkey, hopen, hnew, Or.inl ⟨hcount, ?_⟩⟩
        rw [heq]
        exact ⟨mem_set_insert.mpr (Or.inl rfl), rfl⟩
      · intro k hk hgone
        rw [heq] at hgone
        exact absurd hk hgone
      · exact fun _ _ _ => Or.inr (Or.inl (List.mem_singleton.mpr rfl))
  | badParity hopen hnew hcount hparity =>
      rw [if_neg (not_or.mpr ⟨hopen, hnew⟩), if_neg (Nat.not_lt.mpr hcount),
        if_pos (by rw [hparity]; exact Option.some_ne_none _)]
      refine ⟨hverdict, m.evictionCharges_nodup _, ?_, ?_, ?_⟩
      · intro k hk
        obtain ⟨c, hc, rfl⟩ := List.mem_map.mp hk
        exact Or.inl (mem_evictionCharges hc)
      · exact fun k hk hgone => Or.inl (charged_of_evicted hk hgone)
      · intro _ _ hnone
        have hclash := hnone hcount
        rw [hparity] at hclash
        cases hclash
  | accepted hopen hnew hcount hparity hacc =>
      rw [if_neg (not_or.mpr ⟨hopen, hnew⟩), if_neg (Nat.not_lt.mpr hcount),
        if_neg (not_not.mpr hparity)]
      exact hacc.charging hopen hnew hverdict

end Admission

/-! ## The keys that one operation charges -/

/-- How an operation charges, keeps and releases access units. -/
structure Charged (m : ReassemblyMap) (op : Operation) (unit : Option FrameKey)
    (m' : ReassemblyMap) (keys : List FrameKey) : Prop where
  epoch : m.currentEpoch ≤ m'.currentEpoch
  nodup : keys.Nodup
  /-- A charged frame was unresolved, skipped, or the open frame of the packet. -/
  sources : ∀ k ∈ keys, m.Unresolved k ∨
    m.currentEpoch ≤ k.streamEpoch ∧
        (k.streamEpoch = m.currentEpoch → ¬ atOrBelow m.highestObservedFrameId k.frameId) ∨
      ∃ packet now, op = .ingestAt packet now ∧ k = keyOf packet ∧ ¬ m.Closed k
  gone : ∀ k ∈ keys, k.streamEpoch = m'.currentEpoch ∧ m'.Settled k.frameId ∧
    k ∉ m'.frames ∧ (m'.Closed k ∨ k ∈ op.victims m)
  /-- What is settled and gone stays so while it is closed to packets of its own. -/
  old : m.currentEpoch = m'.currentEpoch → ∀ k, m.Settled k.frameId → k ∉ m.frames →
    (∀ packet now, op = .ingestAt packet now → k = keyOf packet → m.Closed k) →
    m'.Settled k.frameId ∧ k ∉ m'.frames
  /-- What was unresolved still is, or was returned, released, discarded or charged. -/
  tracked : m.currentEpoch = m'.currentEpoch → ∀ k, m.Unresolved k →
    m'.Unresolved k ∨ unit = some k ∨ (op.Releases m k ∨ op.Discards m k) ∨ k ∈ keys
  gapsOpen : (∀ id ∈ m.frameGaps, ¬ atOrBelow m.expiredThroughFrameId id) →
    ∀ id ∈ m'.frameGaps, ¬ atOrBelow m'.expiredThroughFrameId id

theorem Charged.idle {m m' : ReassemblyMap} {op : Operation} {unit : Option FrameKey}
    (hepoch : m'.currentEpoch = m.currentEpoch) (hframes : m'.frames = m.frames)
    (hgaps : m'.frameGaps = m.frameGaps)
    (hhighest : m'.highestObservedFrameId = m.highestObservedFrameId)
    (hexpired : m'.expiredThroughFrameId = m.expiredThroughFrameId) :
    Charged m op unit m' [] := by
  refine ⟨Nat.le_of_eq hepoch.symm, List.nodup_nil, ?_, ?_, ?_, ?_, ?_⟩
  · exact fun k hk => by cases hk
  · exact fun k hk => by cases hk
  · intro _ k hsettled hgone _
    rw [Settled, hhighest, hgaps, hframes]
    exact ⟨hsettled, hgone⟩
  · intro _ k hk
    left
    rwa [Unresolved, hframes, hgaps, hepoch]
  · rw [hgaps, hexpired]
    exact id

theorem Charged.of_newer {m entered m' : ReassemblyMap} {op : Operation}
    {unit : Option FrameKey} {keys : List FrameKey}
    (hnewer : m.currentEpoch < entered.currentEpoch)
    (hempty : ∀ id ∈ entered.frameGaps, False) (hvictims : op.victims entered = op.victims m)
    (h : Charged entered op unit m' keys) (hsource : ∀ k ∈ keys, m.currentEpoch < k.streamEpoch) :
    Charged m op unit m' keys := by
  have hlt : m.currentEpoch < m'.currentEpoch := Nat.lt_of_lt_of_le hnewer h.epoch
  refine ⟨Nat.le_of_lt hlt, h.nodup, ?_, ?_, ?_, ?_, ?_⟩
  · intro k hk
    have hk' := hsource k hk
    exact Or.inr (Or.inl ⟨Nat.le_of_lt hk', fun heq => by omega⟩)
  · rw [← hvictims]
    exact h.gone
  · exact fun heq => absurd heq (Nat.ne_of_lt hlt)
  · exact fun heq => absurd heq (Nat.ne_of_lt hlt)
  · exact fun _ => h.gapsOpen fun id hid => (hempty id hid).elim

/-! ### Packets -/

theorem mem_overflowCharges {m : ReassemblyMap} {frameId : Nat} {k : FrameKey} :
    k ∈ (m.overflowCharges frameId).map Charge.key ↔
      m.GapOverflow frameId ∧ k.streamEpoch = m.currentEpoch ∧
        ∃ highest, m.highestObservedFrameId = some highest ∧ highest < k.frameId ∧
          k.frameId < frameId := by
  unfold overflowCharges GapOverflow
  cases hh : m.highestObservedFrameId with
  | none => simp
  | some highest =>
      dsimp only
      by_cases hover : highest < frameId ∧ m.cacheCapacity < frameId - (highest + 1)
      · rw [if_pos hover, List.map_map, List.mem_map]
        constructor
        · rintro ⟨id, hid, rfl⟩
          rw [List.mem_range'_1] at hid
          exact ⟨⟨highest, rfl, hover⟩, rfl, highest, rfl, by
            show highest < id
            omega, by
            show id < frameId
            omega⟩
        · rintro ⟨_, hepoch, _, hsome, hlt, hlt'⟩
          cases hsome
          refine ⟨k.frameId, List.mem_range'_1.mpr ⟨hlt, by omega⟩, ?_⟩
          show (⟨m.currentEpoch, k.frameId⟩ : FrameKey) = k
          rw [← hepoch]
      · rw [if_neg hover]
        constructor
        · intro hk
          cases hk
        · rintro ⟨⟨_, hsome, hlt⟩, _⟩
          cases hsome
          exact absurd hlt hover

theorem overflowCharges_nodup (m : ReassemblyMap) (frameId : Nat) :
    ((m.overflowCharges frameId).map Charge.key).Nodup := by
  unfold overflowCharges
  cases m.highestObservedFrameId with
  | none => exact List.nodup_nil
  | some highest =>
      dsimp only
      split
      · rw [List.map_map]
        refine List.Nodup.map ?_ List.nodup_range'
        intro id id' heq
        exact congrArg FrameKey.frameId heq
      · exact List.nodup_nil

theorem Covers.observe {m : ReassemblyMap} {packet : VideoPacket} (h : m.Covers packet)
    (now : Instant) : (m.observeFrameId packet.frameId now).Covers packet := by
  rcases h with hbelow | hterminal
  · exact Or.inl (atOrBelow_expired_observe packet.frameId now hbelow)
  · refine Or.inr ?_
    rwa [observeFrameId_terminal]

theorem not_closed_of_open {m : ReassemblyMap} {packet : VideoPacket} {now : Instant}
    (hepoch : packet.streamEpoch = m.currentEpoch)
    (hopen : ¬ (m.observeFrameId packet.frameId now).Covers packet)
    (hnew : keyOf packet ∉ (m.observeFrameId packet.frameId now).rejectedFrames) :
    ¬ m.Closed (keyOf packet) := by
  intro hclosed
  rcases closed_observe packet.frameId now hclosed with hlt | ⟨_, hbelow | hmem | hmem⟩
  · rw [observeFrameId_epoch, ← hepoch] at hlt
    exact Nat.lt_irrefl _ hlt
  · exact hopen (Or.inl hbelow)
  · exact hopen (Or.inr hmem)
  · exact hnew hmem

/-- A packet of the current epoch was taken with its charges. -/
structure TakenPacket (m m' : ReassemblyMap) (packet : VideoPacket) (now : Instant)
    (result : IngestResult) (charges : List Charge) : Prop where
  wellFormed : WellFormed m
  epoch : packet.streamEpoch = m.currentEpoch
  gapsOpen : ∀ id ∈ m.frameGaps, ¬ atOrBelow m.expiredThroughFrameId id
  accounted : (m.GapOverflow packet.frameId → m.frameGaps = ∅) ∧
    (¬ m.GapOverflow packet.frameId → ∀ highest ∈ m.highestObservedFrameId,
      ∀ id, highest < id → id < packet.frameId → ¬ atOrBelow m.expiredThroughFrameId id) ∧
    (packet.frameId ∈ m.frameGaps → packet.fragmentCount ≤ m.maxFragments →
      parityError packet = none) ∧
    (m.maxFragments < packet.fragmentCount → keyOf packet ∈ m.frames → m.Covers packet)
  same : m'.frameGaps = (m.observeFrameId packet.frameId now).frameGaps ∧
    m'.highestObservedFrameId = (m.observeFrameId packet.frameId now).highestObservedFrameId ∧
    m'.currentEpoch = (m.observeFrameId packet.frameId now).currentEpoch ∧
    m'.expiredThroughFrameId = (m.observeFrameId packet.frameId now).expiredThroughFrameId
  ended : ∀ k ∈ m.frames, k ∉ m'.frames →
    m'.Closed k ∨ k ∈ (Operation.ingestAt packet now).victims m
  charging : Charging (m.observeFrameId packet.frameId now) packet result m' charges

namespace TakenPacket

variable {m m' : ReassemblyMap} {packet : VideoPacket} {now : Instant} {result : IngestResult}
  {charges : List Charge} {k : FrameKey}

theorem currentEpoch (h : TakenPacket m m' packet now result charges) :
    m'.currentEpoch = m.currentEpoch := by
  rw [h.same.2.2.1, observeFrameId_epoch]

theorem settled (h : TakenPacket m m' packet now result charges) {id : Nat}
    (hid : (m.observeFrameId packet.frameId now).Settled id) : m'.Settled id := by
  rwa [Settled, h.same.2.1, h.same.1]

theorem below (h : TakenPacket m m' packet now result charges) {highest : Nat}
    (hk : k ∈ m.frames) (hhighest : m.highestObservedFrameId = some highest) :
    k.frameId ≤ highest := by
  have hle := (h.wellFormed.frames_settled k hk).1
  rwa [hhighest, atOrBelow_some] at hle

theorem frames (h : TakenPacket m m' packet now result charges) (hk : k ∈ m'.frames) :
    k ∈ m.frames ∨
      k = keyOf packet ∧ ¬ (m.observeFrameId packet.frameId now).Covers packet ∧
        keyOf packet ∉ (m.observeFrameId packet.frameId now).rejectedFrames := by
  have hsub := h.charging.verdict.frames_subset hk
  rwa [observeFrameId_frames] at hsub

theorem nodup (h : TakenPacket m m' packet now result charges) :
    ((m.overflowCharges packet.frameId).map Charge.key ++ charges.map Charge.key).Nodup := by
  rw [List.nodup_append]
  refine ⟨m.overflowCharges_nodup _, h.charging.nodup, ?_⟩
  rintro k hk k' hk' rfl
  obtain ⟨_, _, highest, hhighest, hlt, hlt'⟩ := mem_overflowCharges.mp hk
  rcases h.charging.sources k hk' with ⟨hmem, _⟩ | ⟨rfl, _⟩
  · rw [observeFrameId_frames] at hmem
    exact absurd (h.below hmem hhighest) (Nat.not_le.mpr hlt)
  · exact Nat.lt_irrefl _ hlt'

theorem gone_of_overflow (h : TakenPacket m m' packet now result charges)
    (hk : k ∈ (m.overflowCharges packet.frameId).map Charge.key) :
    k.streamEpoch = m'.currentEpoch ∧ m'.Settled k.frameId ∧ k ∉ m'.frames ∧ m'.Closed k := by
  obtain ⟨hover, hkepoch, highest, hhighest, hlt, hlt'⟩ := mem_overflowCharges.mp hk
  obtain ⟨ogaps, oexpired, _⟩ := observeFrameId_overflow m packet.frameId now hover
  have hepoch : k.streamEpoch = m'.currentEpoch := hkepoch.trans h.currentEpoch.symm
  refine ⟨hepoch, h.settled ⟨?_, ?_⟩, ?_, Or.inr ⟨hepoch, Or.inl ?_⟩⟩
  · exact (observeFrameId_highest m packet.frameId now).mpr (Or.inr (Nat.le_of_lt hlt'))
  · rw [ogaps]
    exact Std.ExtTreeMap.not_mem_empty
  · intro hmem
    rcases h.frames hmem with hmem | ⟨rfl, _⟩
    · exact absurd (h.below hmem hhighest) (Nat.not_le.mpr hlt)
    · exact Nat.lt_irrefl _ hlt'
  · rw [h.same.2.2.2, oexpired, atOrBelow_raiseBound]
    exact Or.inr (by omega)

theorem gone_of_charge (h : TakenPacket m m' packet now result charges)
    (hk : k ∈ charges.map Charge.key) :
    k.streamEpoch = m'.currentEpoch ∧ m'.Settled k.frameId ∧ k ∉ m'.frames ∧
      (m'.Closed k ∨ k ∈ (Operation.ingestAt packet now).victims m) := by
  rcases h.charging.sources k hk with ⟨hmem, _, hgone⟩ | ⟨rfl, hcovers, hnew, hout⟩
  · rw [observeFrameId_frames] at hmem
    exact ⟨(h.wellFormed.frames_epoch k hmem).trans h.currentEpoch.symm,
      h.settled ((h.wellFormed.frames_settled k hmem).observe _ _), hgone, h.ended k hmem hgone⟩
  · have hkepoch : (keyOf packet).streamEpoch = m'.currentEpoch :=
      h.epoch.trans h.currentEpoch.symm
    refine ⟨hkepoch, h.settled (settled_observe_self m packet.frameId now), ?_,
      Or.inl (Or.inr ⟨hkepoch, ?_⟩)⟩
    · rcases hout with ⟨hmany, _, hsameFrames⟩ | ⟨hgone, _⟩
      · intro hmem
        rw [hsameFrames, observeFrameId_frames] at hmem
        rw [observeFrameId_maxFragments] at hmany
        exact hcovers ((h.accounted.2.2.2 hmany hmem).observe now)
      · exact hgone
    · rcases hout with ⟨_, hrejected, _⟩ | ⟨_, hterminal⟩
      · exact Or.inr (Or.inr hrejected)
      · exact Or.inr (Or.inl hterminal)

/-- The gap's own packet is admitted, as gaps are open. -/
theorem own_gap (h : TakenPacket m m' packet now result charges)
    (hfit : ¬ m.GapOverflow packet.frameId) (hgap : packet.frameId ∈ m.frameGaps) :
    keyOf packet ∈ m'.frames ∨ keyOf packet ∈ charges.map Charge.key ∨
      (returned result).map unitKey = some (keyOf packet) := by
  have hadmits := h.wellFormed.admits_gap (k := keyOf packet) hgap (h.gapsOpen _ hgap)
  have hcovers : ¬ (m.observeFrameId packet.frameId now).Covers packet := by
    rintro (hb | hterminal)
    · rw [observeFrameId_expired m packet.frameId now hfit] at hb
      exact hadmits.1 hb
    · rw [observeFrameId_terminal] at hterminal
      exact hadmits.2.1 hterminal
  have hnew : keyOf packet ∉ (m.observeFrameId packet.frameId now).rejectedFrames := by
    rw [observeFrameId_rejected]
    exact hadmits.2.2
  exact h.charging.own hcovers hnew (by
    rw [observeFrameId_maxFragments]
    exact h.accounted.2.2.1 hgap)

theorem tracked (h : TakenPacket m m' packet now result charges) (hk : m.Unresolved k) :
    m'.Unresolved k ∨ (returned result).map unitKey = some k ∨ k ∈ charges.map Charge.key := by
  rcases hk with hk | ⟨hkepoch, hgap⟩
  · by_cases hstay : k ∈ m'.frames
    · exact Or.inl (Or.inl hstay)
    · have hk' : k ∈ (m.observeFrameId packet.frameId now).frames := by
        rwa [observeFrameId_frames]
      exact Or.inr (h.charging.left k hk' hstay).symm
  · have hfit : ¬ m.GapOverflow packet.frameId := fun hover => by
      rw [h.accounted.1 hover] at hgap
      exact absurd hgap Std.ExtTreeMap.not_mem_empty
    by_cases hown : k.frameId = packet.frameId
    · have hkey : k = keyOf packet := by
        show k = ⟨packet.streamEpoch, packet.frameId⟩
        rw [h.epoch, ← hkepoch, ← hown]
      rw [hown] at hgap
      rw [hkey]
      rcases h.own_gap hfit hgap with hmem | hcharge | hreturned
      · exact Or.inl (Or.inl hmem)
      · exact Or.inr (Or.inr hcharge)
      · exact Or.inr (Or.inl hreturned)
    · refine Or.inl (Or.inr ⟨hkepoch.trans h.currentEpoch.symm, ?_⟩)
      rw [h.same.1]
      exact (mem_observeFrameId_frameGaps m packet.frameId now hfit).mpr (Or.inl ⟨hown, hgap⟩)

theorem gapsOpen_after (h : TakenPacket m m' packet now result charges) {id : Nat}
    (hid : id ∈ m'.frameGaps) : ¬ atOrBelow m'.expiredThroughFrameId id := by
  rw [h.same.1] at hid
  rw [h.same.2.2.2]
  by_cases hover : m.GapOverflow packet.frameId
  · rw [(observeFrameId_overflow m packet.frameId now hover).1] at hid
    exact absurd hid Std.ExtTreeMap.not_mem_empty
  · rw [observeFrameId_expired m packet.frameId now hover]
    rcases (mem_observeFrameId_frameGaps m packet.frameId now hover).mp hid with
      ⟨_, hgap⟩ | ⟨highest, hhighest, hlt, hlt'⟩
    · exact h.gapsOpen id hgap
    · exact h.accounted.2.1 hover highest hhighest id hlt hlt'

theorem charged (h : TakenPacket m m' packet now result charges) :
    Charged m (.ingestAt packet now) ((returned result).map unitKey) m'
      ((m.overflowCharges packet.frameId ++ charges).map Charge.key) := by
  rw [List.map_append]
  refine ⟨Nat.le_of_eq h.currentEpoch.symm, h.nodup, fun k hk => ?_, fun k hk => ?_, ?_, ?_,
    fun _ id hid => h.gapsOpen_after hid⟩
  · rcases List.mem_append.mp hk with hk | hk
    · obtain ⟨_, hkepoch, highest, hhighest, hlt, _⟩ := mem_overflowCharges.mp hk
      refine Or.inr (Or.inl ⟨Nat.le_of_eq hkepoch.symm, fun _ => ?_⟩)
      rw [hhighest, atOrBelow_some]
      exact Nat.not_le.mpr hlt
    · rcases h.charging.sources k hk with ⟨hmem, _⟩ | ⟨rfl, hcovers, hnew, _⟩
      · rw [observeFrameId_frames] at hmem
        exact Or.inl (Or.inl hmem)
      · exact Or.inr (Or.inr ⟨packet, now, rfl, rfl, not_closed_of_open h.epoch hcovers hnew⟩)
  · rcases List.mem_append.mp hk with hk | hk
    · obtain ⟨hepoch, hsettled, hgone, hclosed⟩ := h.gone_of_overflow hk
      exact ⟨hepoch, hsettled, hgone, Or.inl hclosed⟩
    · exact h.gone_of_charge hk
  · intro _ k hk hgone hclosed
    refine ⟨h.settled (hk.observe packet.frameId now), fun hmem => ?_⟩
    rcases h.frames hmem with hmem | ⟨heq, hcovers, hnew⟩
    · exact hgone hmem
    · rw [heq] at hclosed
      exact not_closed_of_open h.epoch hcovers hnew (hclosed packet now rfl rfl)
  · intro _ k hk
    rcases h.tracked hk with hstill | hreturned | hcharge
    · exact Or.inl hstill
    · exact Or.inr (Or.inl hreturned)
    · exact Or.inr (Or.inr (Or.inr (List.mem_append_right _ hcharge)))

end TakenPacket

theorem charged_ingest (codecs : Codecs) {m : ReassemblyMap} (hm : WellFormed m)
    (hopen : ∀ id ∈ m.frameGaps, ¬ atOrBelow m.expiredThroughFrameId id)
    (packet : VideoPacket) (now : Instant)
    (hop : m.currentEpoch ≤ packet.streamEpoch → m.PacketAccounted packet) :
    Charged m (.ingestAt packet now)
      ((returned (m.ingestAt codecs packet now).1).map unitKey)
      (m.ingestAt codecs packet now).2
      (((Operation.ingestAt packet now).charges codecs m).map Charge.key) := by
  by_cases hstale : packet.streamEpoch < m.currentEpoch
  · rw [ingestAt, if_pos hstale, Operation.charges, if_pos hstale]
    exact Charged.idle rfl rfl rfl rfl rfl
  · have hadm := ingestAt_admission codecs now hstale
    have hentered := enterEpoch_currentEpoch hstale
    rcases m.enterEpoch_cases packet.streamEpoch with heq | ⟨hnewer, _⟩
    · rw [heq] at hentered hadm
      have hop' := hop (Nat.not_lt.mp hstale)
      unfold PacketAccounted at hop'
      rw [heq] at hop'
      have hcharging := admitPacket_charging codecs (m.observeFrameId packet.frameId now) packet
        (m.frameGaps[packet.frameId]?.getD now)
      rw [Operation.charges, if_neg hstale, heq]
      refine TakenPacket.charged ⟨hm, hentered.symm, hopen, hop', hadm.same,
        fun k hk hgone => ended_ingestAt codecs hm packet now (Or.inl ⟨hk, hgone⟩), ?_⟩
      rw [ingestAt, if_neg hstale, heq]
      exact hcharging
    · -- A packet of a newer epoch meets a map that tracks nothing.
      have hempty : ∀ id ∈ (m.enterEpoch packet.streamEpoch).frameGaps, False := by
        unfold enterEpoch
        rw [if_pos (by omega)]
        exact fun id hid => Std.ExtTreeMap.not_mem_empty hid
      have hnone : (m.enterEpoch packet.streamEpoch).highestObservedFrameId = none := by
        unfold enterEpoch
        rw [if_pos (by omega)]
        rfl
      have hself : (m.enterEpoch packet.streamEpoch).enterEpoch packet.streamEpoch =
          m.enterEpoch packet.streamEpoch := enterEpoch_self (by omega)
      have hwell := hm.enterEpoch packet.streamEpoch
      have hover : ¬ (m.enterEpoch packet.streamEpoch).GapOverflow packet.frameId := by
        rintro ⟨highest, hhighest, _⟩
        rw [hnone] at hhighest
        cases hhighest
      have hcharging := admitPacket_charging codecs
        ((m.enterEpoch packet.streamEpoch).observeFrameId packet.frameId now) packet
        ((m.enterEpoch packet.streamEpoch).frameGaps[packet.frameId]?.getD now)
      have hop' := hop (Nat.not_lt.mp hstale)
      have hingest : (m.enterEpoch packet.streamEpoch).ingestAt codecs packet now =
          m.ingestAt codecs packet now := by
        rw [ingestAt, ingestAt, if_neg hstale, if_neg (by omega), hself]
      have hmany : m.maxFragments = (m.enterEpoch packet.streamEpoch).maxFragments := by
        unfold enterEpoch
        split <;> rfl
      unfold PacketAccounted at hop'
      rw [hmany] at hop'
      rw [Operation.charges, if_neg hstale]
      refine Charged.of_newer hnewer hempty ?_ (TakenPacket.charged ⟨hwell, hentered.symm,
        fun id hid => (hempty id hid).elim, hop', hadm.same, ?_, ?_⟩) ?_
      · unfold Operation.victims
        dsimp only
        rw [hself]
      · intro k hk hgone
        refine (ended_ingestAt codecs hwell packet now (Or.inl ⟨hk, ?_⟩)).imp ?_ id
        · show k ∉ ((m.enterEpoch packet.streamEpoch).ingestAt codecs packet now).2.frames
          rwa [hingest]
        · rw [hingest]
          exact id
      · rw [ingestAt, if_neg hstale]
        exact hcharging
      · intro k hk
        rw [List.map_append] at hk
        rcases List.mem_append.mp hk with hk | hk
        · exact absurd (mem_overflowCharges.mp hk).1 hover
        · rcases hcharging.sources k hk with ⟨hmem, _⟩ | ⟨rfl, _⟩
          · rw [observeFrameId_frames] at hmem
            rw [hwell.frames_epoch k hmem]
            exact hnewer
          · show m.currentEpoch < packet.streamEpoch
            omega

/-! ### The other operations -/

theorem charged_expireThrough {m : ReassemblyMap} (hm : WellFormed m) {op : Operation}
    (through : Nat) :
    Charged m op none (m.expireThrough through)
      ((m.expiryCharges (m.expireThrough through)).map Charge.key) := by
  obtain ⟨hepoch, hhighest, hexpired, _, hframes, hgaps, _⟩ := m.expireThrough_spec through
  have hsettled : ∀ {id}, m.Settled id → (m.expireThrough through).Settled id := by
    intro id hid
    rw [Settled, hhighest, hgaps]
    exact ⟨hid.1, fun hgap => hid.2 hgap.2⟩
  have hkeys : (m.expiryCharges (m.expireThrough through)).map Charge.key =
      (m.frames.keys.filter fun key => key.frameId ≤ through) ++
        (m.frameGaps.keys.filter fun id => id ≤ through).map (⟨m.currentEpoch, ·⟩) := by
    rw [expiryCharges_expireThrough, List.map_append, List.map_map, List.map_map]
    congr 1
    exact List.map_id _
  have hmem : ∀ k, k ∈ (m.expiryCharges (m.expireThrough through)).map Charge.key ↔
      m.Unresolved k ∧ k.frameId ≤ through := by
    intro k
    rw [hkeys, List.mem_append, List.mem_filter, List.mem_map, Unresolved,
      Std.ExtTreeMap.mem_keys, decide_eq_true_eq]
    constructor
    · rintro (⟨hk, hle⟩ | ⟨id, hid, rfl⟩)
      · exact ⟨Or.inl hk, hle⟩
      · rw [List.mem_filter, Std.ExtTreeMap.mem_keys, decide_eq_true_eq] at hid
        exact ⟨Or.inr ⟨rfl, hid.1⟩, hid.2⟩
    · rintro ⟨hk | ⟨hkepoch, hgap⟩, hle⟩
      · exact Or.inl ⟨hk, hle⟩
      · refine Or.inr ⟨k.frameId, ?_, by rw [← hkepoch]⟩
        rw [List.mem_filter, Std.ExtTreeMap.mem_keys, decide_eq_true_eq]
        exact ⟨hgap, hle⟩
  refine ⟨Nat.le_of_eq hepoch.symm, ?_, ?_, ?_, ?_, ?_, ?_⟩
  · rw [hkeys, List.nodup_append]
    refine ⟨Std.ExtTreeMap.nodup_keys.filter _, List.Nodup.map ?_
      (Std.ExtTreeMap.nodup_keys.filter _), ?_⟩
    · exact fun id id' heq => congrArg FrameKey.frameId heq
    · rintro k hk k' hk' rfl
      rw [List.mem_filter, Std.ExtTreeMap.mem_keys] at hk
      obtain ⟨id, hid, rfl⟩ := List.mem_map.mp hk'
      rw [List.mem_filter, Std.ExtTreeMap.mem_keys] at hid
      exact (hm.frames_settled _ hk.1).2 hid.1
  · exact fun k hk => Or.inl ((hmem k).mp hk).1
  · intro k hk
    obtain ⟨hunresolved, hle⟩ := (hmem k).mp hk
    have hkepoch : k.streamEpoch = m.currentEpoch := by
      rcases hunresolved with hframe | ⟨hkepoch, _⟩
      · exact hm.frames_epoch k hframe
      · exact hkepoch
    refine ⟨hkepoch.trans hepoch.symm, ⟨?_, ?_⟩, ?_, Or.inl (Or.inr ⟨hkepoch.trans hepoch.symm,
      Or.inl (atOrBelow_expireThrough through (Or.inr hle))⟩)⟩
    · rw [hhighest]
      rcases hunresolved with hframe | ⟨_, hgap⟩
      · exact (hm.frames_settled k hframe).1
      · exact hm.gaps_observed _ hgap
    · rw [hgaps]
      exact fun hgap => absurd hle (Nat.not_le.mpr hgap.1)
    · rw [hframes]
      exact fun hframe => absurd hle (Nat.not_le.mpr hframe.1)
  · intro _ k hk hgone _
    exact ⟨hsettled hk, fun hmem => hgone ((hframes k).mp hmem).2⟩
  · intro _ k hk
    by_cases hle : k.frameId ≤ through
    · exact Or.inr (Or.inr (Or.inr ((hmem k).mpr ⟨hk, hle⟩)))
    · rw [Unresolved, hframes, hgaps, hepoch]
      rcases hk with hframe | ⟨hkepoch, hgap⟩
      · exact Or.inl (Or.inl ⟨Nat.not_le.mp hle, hframe⟩)
      · exact Or.inl (Or.inr ⟨hkepoch, Nat.not_le.mp hle, hgap⟩)
  · intro hopen id hid
    obtain ⟨hlt, hgap⟩ := (hgaps id).mp hid
    rw [hexpired, atOrBelow_raiseBound]
    rintro (hbelow | hle)
    · exact hopen id hgap hbelow
    · exact absurd hle (Nat.not_le.mpr hlt)

theorem charged_expire {m : ReassemblyMap} (hm : WellFormed m) (now : Instant)
    (maxAge : Duration) :
    Charged m (.expireIncompleteOlderThan now maxAge) none
      (m.expireIncompleteOlderThan now maxAge)
      ((m.expiryCharges (m.expireIncompleteOlderThan now maxAge)).map Charge.key) := by
  rcases m.expireIncompleteOlderThan_cases now maxAge with heq | ⟨through, heq⟩
  · rw [heq, expiryCharges_self]
    exact Charged.idle rfl rfl rfl rfl rfl
  · rw [heq]
    exact charged_expireThrough hm through

theorem charged_discardFrame {m : ReassemblyMap} {op : Operation} {key : FrameKey}
    (hepoch : key.streamEpoch = m.currentEpoch) (hdiscards : op.Discards m key)
    (hgaps : ∀ id ∈ m.frameGaps, key.frameId < id) (flags : VideoPacketFlags) :
    Charged m op none (m.discardFrame key flags) [] := by
  refine ⟨Nat.le_refl _, List.nodup_nil, ?_, ?_, ?_, ?_, ?_⟩
  · exact fun k hk => by cases hk
  · exact fun k hk => by cases hk
  · intro _ k hk hgone _
    exact ⟨⟨hk.1, fun hgap => hk.2 (mem_map_erase.mp hgap).2⟩,
      fun hmem => hgone (mem_map_erase.mp hmem).2⟩
  · intro _ k hk
    by_cases hown : k = key
    · rw [hown]
      exact Or.inr (Or.inr (Or.inl (Or.inr hdiscards)))
    · left
      rcases hk with hframe | ⟨hkepoch, hgap⟩
      · exact Or.inl (mem_map_erase.mpr ⟨hown, hframe⟩)
      · refine Or.inr ⟨hkepoch, mem_map_erase.mpr ⟨fun heq => hown ?_, hgap⟩⟩
        show k = ⟨key.streamEpoch, key.frameId⟩
        rw [hepoch, ← hkepoch, ← heq]
  · intro hopen id hid hbelow
    obtain ⟨hne, hid⟩ := mem_map_erase.mp hid
    have hle := hgaps id hid
    rcases atOrBelow_raiseBound.mp hbelow with hold | hle'
    · exact hopen id hid hold
    · omega

theorem charged_discard {m : ReassemblyMap} (streamEpoch frameId : Nat)
    (flags : VideoPacketFlags)
    (hop : m.currentEpoch ≤ streamEpoch → m.DiscardAccounted streamEpoch frameId) :
    Charged m (.discardStaleAccessUnit streamEpoch frameId flags) none
      (m.discardStaleAccessUnit streamEpoch frameId flags).2 [] := by
  by_cases hstale : streamEpoch < m.currentEpoch
  · rw [discardStaleAccessUnit, if_pos hstale]
    exact Charged.idle rfl rfl rfl rfl rfl
  · have hentered := enterEpoch_currentEpoch hstale
    rcases m.enterEpoch_cases streamEpoch with heq | ⟨hnewer, _⟩
    · have hop' := hop (Nat.not_lt.mp hstale)
      unfold DiscardAccounted at hop'
      by_cases hcovered : atOrBelow m.expiredThroughFrameId frameId ∨
          (⟨streamEpoch, frameId⟩ : FrameKey) ∈ m.terminalFrames
      · rw [discardStaleAccessUnit, if_neg hstale, heq]
        dsimp only
        rw [if_pos hcovered]
        exact Charged.idle rfl rfl rfl rfl rfl
      · have hdone : m.discardStaleAccessUnit streamEpoch frameId flags =
            (true, m.discardFrame ⟨streamEpoch, frameId⟩ flags) := by
          rw [discardStaleAccessUnit, if_neg hstale, heq]
          dsimp only
          rw [if_neg hcovered]
        rw [heq] at hentered hop'
        obtain ⟨hbelow, hterminal⟩ := not_or.mp hcovered
        have hdiscards : (Operation.discardStaleAccessUnit streamEpoch frameId flags).Discards m
            ⟨streamEpoch, frameId⟩ := ⟨by rw [hdone], rfl⟩
        rw [hdone]
        exact charged_discardFrame hentered.symm hdiscards (hop' hbelow hterminal) flags
    · have hlt : m.currentEpoch < (m.discardStaleAccessUnit streamEpoch frameId
          flags).2.currentEpoch := by
        rcases m.discardStaleAccessUnit_cases streamEpoch frameId flags with h | ⟨_, h⟩ <;>
          rw [h] <;> exact hnewer
      refine ⟨Nat.le_of_lt hlt, List.nodup_nil, ?_, ?_, ?_, ?_, ?_⟩
      · exact fun k hk => by cases hk
      · exact fun k hk => by cases hk
      · exact fun heq => absurd heq (Nat.ne_of_lt hlt)
      · exact fun heq => absurd heq (Nat.ne_of_lt hlt)
      · intro _ id hid
        have hempty : id ∉ (m.enterEpoch streamEpoch).frameGaps := by
          unfold enterEpoch
          rw [if_pos (by omega)]
          exact Std.ExtTreeMap.not_mem_empty
        rcases m.discardStaleAccessUnit_cases streamEpoch frameId flags with h | ⟨_, h⟩
        · rw [h] at hid
          exact absurd hid hempty
        · rw [h] at hid
          exact absurd (mem_map_erase.mp hid).2 hempty

theorem charged_clear (m : ReassemblyMap) (abandoned : List FrameKey) :
    Charged m (.clearPending abandoned) none (m.clearPendingIn abandoned) [] := by
  obtain ⟨hids, hframes, _⟩ := foldl_rememberTerminal_sameIds abandoned
    { m with frames := ∅, frameGaps := ∅, expiredThroughFrameId := m.clearedThrough }
  have hgaps : (m.clearPendingIn abandoned).frameGaps = ∅ := hids.gaps
  have hframes' : (m.clearPendingIn abandoned).frames = ∅ := hframes
  have hhighest : (m.clearPendingIn abandoned).highestObservedFrameId =
      m.highestObservedFrameId := hids.highest
  refine ⟨Nat.le_of_eq hids.epoch.symm, List.nodup_nil, ?_, ?_, ?_, ?_, ?_⟩
  · exact fun k hk => by cases hk
  · exact fun k hk => by cases hk
  · intro _ k hk _ _
    rw [Settled, hhighest, hgaps, hframes']
    exact ⟨⟨hk.1, Std.ExtTreeMap.not_mem_empty⟩, Std.ExtTreeMap.not_mem_empty⟩
  · exact fun _ k hk => Or.inr (Or.inr (Or.inl (Or.inl hk)))
  · intro _ id hid
    rw [hgaps] at hid
    exact absurd hid Std.ExtTreeMap.not_mem_empty

namespace Ledger

/-- Step lemma: how the next operation of an accounted run charges. -/
theorem charged_perform (codecs : Codecs) {l : Ledger} (hm : WellFormed l.map)
    (hopen : ∀ id ∈ l.map.frameGaps, ¬ atOrBelow l.map.expiredThroughFrameId id)
    {op : Operation} (hop : l.Accounted op) :
    ReassemblyMap.Charged l.map op ((l.map.perform codecs op).1.map unitKey)
      (l.map.perform codecs op).2 ((op.charges codecs l.map).map Charge.key) := by
  cases op with
  | ingestAt packet now =>
      exact charged_ingest codecs hm hopen packet now (hop.2.1 packet now rfl)
  | expireIncompleteOlderThan now maxAge => exact charged_expire hm now maxAge
  | discardStaleAccessUnit streamEpoch frameId flags =>
      exact charged_discard streamEpoch frameId flags (hop.2.2.1 streamEpoch frameId flags rfl)
  | clearPending abandoned => exact l.map.charged_clear abandoned
  | takeKeyframeLoss => exact Charged.idle rfl rfl rfl rfl rfl
  | takeReferenceChainLoss => exact Charged.idle rfl rfl rfl rfl rfl

/-! ## Runs -/

/-- The invariant of an accounted run. -/
structure Sound (l : Ledger) : Prop where
  wellFormed : WellFormed l.map
  drops : Shows l.map.drops l.charges.length
  partialUnits : Shows l.map.partialAccessUnitDrops (ofKind .partialUnit l.charges).length
  gapDrops : Shows l.map.wholeAccessUnitGapDrops (ofKind .gap l.charges).length
  fragments : FragmentsResolved l.map
  gapsOpen : ∀ id ∈ l.map.frameGaps, ¬ atOrBelow l.map.expiredThroughFrameId id
  nodup : l.charged.Nodup
  charged_epoch : ∀ k ∈ l.charged, k.streamEpoch ≤ l.map.currentEpoch
  charged_gone : ∀ k ∈ l.charged, k.streamEpoch = l.map.currentEpoch →
    l.map.Settled k.frameId ∧ k ∉ l.map.frames
  charged_closed : ∀ k ∈ l.charged, l.map.Closed k ∨ k ∈ l.history.rotated
  tracked_epoch : ∀ k ∈ l.tracked, k.streamEpoch ≤ l.map.currentEpoch
  tracked_known : ∀ k ∈ l.tracked, k.streamEpoch = l.map.currentEpoch →
    l.map.Unresolved k ∨ k ∈ l.history.returned ∨ k ∈ l.released ∨ k ∈ l.charged

theorem sound_start (maxFrames maxFragments : Nat) :
    Sound (start maxFrames maxFragments) := by
  refine ⟨wellFormed_new _ _, rfl, rfl, rfl, Nat.zero_le _, ?_, List.nodup_nil, ?_, ?_, ?_, ?_, ?_⟩
  · exact fun id hid => absurd hid Std.ExtTreeMap.not_mem_empty
  · exact fun k hk => by cases hk
  · exact fun k hk => by cases hk
  · exact fun k hk => by cases hk
  · exact fun k hk => absurd hk (Set.notMem_empty k)
  · exact fun k hk => absurd hk (Set.notMem_empty k)

theorem Sound.fresh {codecs : Codecs} {l : Ledger} (hs : l.Sound) {op : Operation}
    (hop : l.Accounted op) {k : FrameKey} (hold : k ∈ l.charged) :
    k ∉ (op.charges codecs l.map).map Charge.key := by
  intro hk
  have hcharged := charged_perform codecs hs.wellFormed hs.gapsOpen hop
  rcases hcharged.sources k hk with hunresolved | ⟨hepoch, hnew⟩ | ⟨packet, now, heq, rfl, hopen⟩
  · rcases hunresolved with hframe | ⟨hepoch, hgap⟩
    · exact (hs.charged_gone k hold (hs.wellFormed.frames_epoch k hframe)).2 hframe
    · exact (hs.charged_gone k hold hepoch).1.2 hgap
  · have hsame := Nat.le_antisymm (hs.charged_epoch k hold) hepoch
    exact hnew hsame (hs.charged_gone k hold hsame).1.1
  · rcases hs.charged_closed _ hold with hclosed | hrotated
    · exact hopen hclosed
    · exact hopen (hop.1 packet now heq hrotated)

theorem Sound.next {codecs : Codecs} {l : Ledger} (hs : l.Sound) {op : Operation}
    (hvalid : op.Valid l.map) (hop : l.Accounted op) : Sound (l.next codecs op) := by
  have hcharged := charged_perform codecs hs.wellFormed hs.gapsOpen hop
  have hcounts := l.map.perform_counts codecs op
  have hkeys : (l.next codecs op).charged =
      l.charged ++ (op.charges codecs l.map).map Charge.key := List.map_append
  have hmap : (l.next codecs op).map = (l.map.perform codecs op).2 := rfl
  refine ⟨hs.wellFormed.perform codecs hvalid, ?_, ?_, ?_, hcounts.fragments hs.fragments,
    hcharged.gapsOpen hs.gapsOpen, ?_, ?_, ?_, ?_, ?_, ?_⟩
  · show Shows _ (l.charges ++ op.charges codecs l.map).length
    rw [List.length_append]
    exact hcounts.drops _ hs.drops
  · show Shows _ (ofKind .partialUnit (l.charges ++ op.charges codecs l.map)).length
    rw [ofKind_append, List.length_append]
    exact hcounts.partialUnits _ hs.partialUnits
  · show Shows _ (ofKind .gap (l.charges ++ op.charges codecs l.map)).length
    rw [ofKind_append, List.length_append]
    exact hcounts.gaps _ hs.gapDrops
  · rw [hkeys, List.nodup_append]
    refine ⟨hs.nodup, hcharged.nodup, ?_⟩
    rintro k hold k' hnew rfl
    exact hs.fresh hop hold hnew
  · intro k hk
    rw [hkeys] at hk
    rw [hmap]
    rcases List.mem_append.mp hk with hold | hnew
    · exact Nat.le_trans (hs.charged_epoch k hold) hcharged.epoch
    · exact Nat.le_of_eq (hcharged.gone k hnew).1
  · intro k hk hepoch
    rw [hkeys] at hk
    rw [hmap] at hepoch ⊢
    rcases List.mem_append.mp hk with hold | hnew
    · have hle := hs.charged_epoch k hold
      have hsame : l.map.currentEpoch = (l.map.perform codecs op).2.currentEpoch :=
        Nat.le_antisymm hcharged.epoch (hepoch ▸ hle)
      obtain ⟨hsettled, hgone⟩ := hs.charged_gone k hold (hepoch.trans hsame.symm)
      refine hcharged.old hsame k hsettled hgone ?_
      rintro packet now heq rfl
      rcases hs.charged_closed _ hold with hclosed | hrotated
      · exact hclosed
      · exact hop.1 packet now heq hrotated
    · exact ⟨(hcharged.gone k hnew).2.1, (hcharged.gone k hnew).2.2.1⟩
  · intro k hk
    rw [hkeys] at hk
    rcases List.mem_append.mp hk with hold | hnew
    · rcases hs.charged_closed k hold with hclosed | hrotated
      · exact (closed_perform codecs hs.wellFormed op (Or.inl hclosed)).imp id Or.inr
      · exact Or.inr (Or.inl hrotated)
    · exact (hcharged.gone k hnew).2.2.2.imp id Or.inr
  · rintro k (hold | ⟨hepoch, _⟩)
    · exact Nat.le_trans (hs.tracked_epoch k hold) hcharged.epoch
    · exact Nat.le_of_eq hepoch
  · rintro k (hold | ⟨hepoch, hgap⟩) hcurrent
    · have hle := hs.tracked_epoch k hold
      rw [hmap] at hcurrent
      have hsame : l.map.currentEpoch = (l.map.perform codecs op).2.currentEpoch :=
        Nat.le_antisymm hcharged.epoch (hcurrent ▸ hle)
      rw [hkeys]
      rcases hs.tracked_known k hold (hcurrent.trans hsame.symm) with hk | hk | hk | hk
      · rcases hcharged.tracked hsame k hk with hk | hk | (hk | hk) | hk
        · exact Or.inl hk
        · refine Or.inr (Or.inl (List.mem_append_right _ ?_))
          rw [Option.mem_toList]
          exact hk
        · exact Or.inr (Or.inr (Or.inl (Or.inr hk)))
        · exact absurd hold (hop.2.2.2 k hk)
        · exact Or.inr (Or.inr (Or.inr (List.mem_append_right _ hk)))
      · exact Or.inr (Or.inl (List.mem_append_left _ hk))
      · exact Or.inr (Or.inr (Or.inl (Or.inl hk)))
      · exact Or.inr (Or.inr (Or.inr (List.mem_append_left _ hk)))
    · exact Or.inl (Or.inr ⟨hepoch, hgap⟩)

theorem sound_of_reachable {codecs : Codecs} {maxFrames maxFragments : Nat} {l : Ledger}
    (h : ((system codecs maxFrames maxFragments).restrict Accounted).Reachable l) : Sound l := by
  refine h.invariant ?_ ?_
  · rintro s rfl
    exact sound_start maxFrames maxFragments
  · rintro s op s' hs ⟨hop, hvalid, rfl⟩
    exact hs.next hvalid hop

theorem length_eq_ofKind (charges : List Charge) :
    charges.length = (ofKind .partialUnit charges).length + (ofKind .gap charges).length +
      (ofKind .rejected charges).length := by
  induction charges with
  | nil => rfl
  | cons c charges ih =>
      obtain ⟨kind, key⟩ := c
      unfold ofKind at ih ⊢
      cases kind <;> simp [ih] <;> omega

/-- The losses of an accounted run add up, and each access unit is counted once. -/
theorem lossAccounting {codecs : Codecs} {maxFrames maxFragments : Nat} {l : Ledger}
    (h : ((system codecs maxFrames maxFragments).restrict Accounted).Reachable l) :
    LossAccounting l := by
  have hs := sound_of_reachable h
  refine ⟨?_, hs.nodup, ?_, Nat.le_trans hs.fragments (Nat.min_le_left _ _)⟩
  · intro hbelow
    have hdrops := hs.drops
    have hunits := hs.partialUnits
    have hgaps := hs.gapDrops
    have hlength := length_eq_ofKind l.charges
    unfold Shows at hdrops hunits hgaps
    omega
  · intro k hk hepoch hclosed hframe
    rcases hs.tracked_known k hk hepoch with hunresolved | hreturned | hreleased | hcharged
    · rcases hunresolved with hmem | ⟨_, hgap⟩
      · exact absurd hmem hframe
      · have hadmits := hs.wellFormed.admits_gap hgap (hs.gapsOpen _ hgap)
        exact absurd hclosed ((not_closed_iff hepoch).mpr hadmits)
    · exact Or.inl hreturned
    · exact Or.inr (Or.inl hreleased)
    · exact Or.inr (Or.inr (List.count_eq_one_of_mem hs.nodup hcharged))

/-- The first of three fragments of an access unit. -/
def thirdFrame (frameId : UInt8) : VideoPacket :=
  .ofSmall { VideoPacketFlags.empty with startOfAccessUnit := true } 1 frameId 0 0 2 [7]

/-- Frame 2 fills its gap, frame 1 and gap 4 expire, frame 6 is discarded as stale, frame 8 has
too many fragments, and gap 7 is cleared. -/
def mixedOps : List Operation :=
  [.ingestAt (halfFrame 1) 0, .ingestAt (wholeFrame 3) 0, .ingestAt (wholeFrame 2) 0,
    .ingestAt (wholeFrame 5) 0, .expireIncompleteOlderThan 10 5, .ingestAt (halfFrame 6) 11,
    .discardStaleAccessUnit 1 6 VideoPacketFlags.empty, .ingestAt (wholeFrame 9) 12,
    .ingestAt (thirdFrame 8) 12, .clearPending []]

theorem lossAccounting_mixedOps :
    LossAccounting (mixedOps.foldl (next noCodecs) (start 8 2)) := by
  have hmeets : TransitionSystem.MeetsAll (fun l op => l.Accounted op ∧ op.Valid l.map)
      (next noCodecs) (start 8 2) mixedOps := by
    refine ⟨?_, ?_, ?_, ?_, ?_, ?_, ?_, ?_, ?_, ?_, trivial⟩ <;> decide +kernel
  refine @lossAccounting noCodecs 8 2 _
    (TransitionSystem.Reachable.foldl ?_ (TransitionSystem.Reachable.of_init ?_) hmeets)
  · exact fun _ _ hstep => ⟨hstep.1, hstep.2, rfl⟩
  · rfl

/-! ### A partial frame is counted as rejected, and again when it expires -/

theorem reachable_operations (codecs : Codecs) (maxFrames maxFragments : Nat)
    {ops : List Operation}
    (hvalid : ∀ op ∈ ops, ∀ l : Ledger, op.Valid l.map) :
    (system codecs maxFrames maxFragments).Reachable
      (ops.foldl (fun l op => l.next codecs op) (start maxFrames maxFragments)) := by
  induction ops using List.reverseRecOn with
  | nil => exact TransitionSystem.Reachable.of_init rfl
  | append_singleton ops op ih =>
      rw [List.foldl_append]
      refine (ih fun op' hop' => hvalid op' (List.mem_append_left _ hop')).step (a := op)
        ⟨hvalid op (by simp) _, rfl⟩

def rejectedPartial : List Operation :=
  [.ingestAt (halfFrame 1) 0, .ingestAt (thirdFrame 1) 0, .expireIncompleteOlderThan 10 5]

theorem rejectedPartial_twice :
    ∃ l, (system noCodecs 8 2).Reachable l ∧ ¬ LossAccounting l := by
  refine ⟨_, @reachable_operations noCodecs 8 2 rejectedPartial ?_, ?_⟩
  · intro op hop l
    simp only [rejectedPartial, List.mem_cons, List.not_mem_nil, or_false] at hop
    rcases hop with rfl | rfl | rfl <;> trivial
  · intro h
    have honce := h.once
    revert honce
    decide +kernel

end Ledger

end PicooCamera.Packet.ReassemblyMap
