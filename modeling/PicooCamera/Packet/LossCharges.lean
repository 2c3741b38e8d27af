import PicooCamera.Packet.Verdict

/-!
# Which access units an operation counts as dropped

The loss counters of the map hold numbers only. `Operation.charges` names the
access units behind them, and the step lemma of this module says that the
counters move by exactly these.
-/

namespace PicooCamera.Packet.ReassemblyMap

open PicooCamera.Library PicooCamera.Protocol

inductive LossKind where
  /-- At least one fragment arrived. -/
  | partialUnit
  /-- Inferred from a skipped frame id. -/
  | gap
  /-- Refused with `TooManyFragments`. -/
  | rejected
  deriving DecidableEq, Repr

/-- One access unit that is counted in `drops`. -/
structure Charge where
  kind : LossKind
  key : FrameKey
  deriving DecidableEq, Repr

/-- The ids that an overflow counts at once. -/
def overflowCharges (m : ReassemblyMap) (frameId : Nat) : List Charge :=
  match m.highestObservedFrameId with
  | none => []
  | some highest =>
      if highest < frameId ∧ m.cacheCapacity < frameId - (highest + 1) then
        (List.range' (highest + 1) (frameId - (highest + 1))).map fun id =>
          ⟨.gap, ⟨m.currentEpoch, id⟩⟩
      else []

/-- The frame that makes room for the packet's. -/
def evictionCharges (m : ReassemblyMap) (key : FrameKey) : List Charge :=
  if m.maxFrames ≤ m.frames.size ∧ key ∉ m.frames then
    (m.evictionVictim.map fun victim => ⟨.partialUnit, victim⟩).toList
  else []

/-- The frame of the packet itself, when the packet ends it without completing it. -/
def ownCharges (key : FrameKey) (outcome : IngestResult × ReassemblyMap) : List Charge :=
  if returned outcome.1 = none ∧ key ∉ outcome.2.frames then [⟨.partialUnit, key⟩] else []

def admissionCharges (codecs : Codecs) (m : ReassemblyMap) (packet : VideoPacket)
    (firstFragmentAt : Instant) : List Charge :=
  let key := keyOf packet
  if m.Covers packet ∨ key ∈ m.rejectedFrames then []
  else if m.maxFragments < packet.fragmentCount then [⟨.rejected, key⟩]
  else if parityError packet ≠ none then m.evictionCharges key
  else m.evictionCharges key ++ ownCharges key (admitPacket codecs m packet firstFragmentAt)

/-- The frames and the gaps that an expiry removes. -/
def expiryCharges (m m' : ReassemblyMap) : List Charge :=
  (m.frames.keys.filter (· ∉ m'.frames)).map (⟨.partialUnit, ·⟩) ++
    (m.frameGaps.keys.filter (· ∉ m'.frameGaps)).map fun id => ⟨.gap, ⟨m.currentEpoch, id⟩⟩

/-- The access units that an operation counts as dropped. -/
def Operation.charges (codecs : Codecs) (m : ReassemblyMap) : Operation → List Charge
  | .ingestAt packet now =>
      if packet.streamEpoch < m.currentEpoch then []
      else
        let entered := m.enterEpoch packet.streamEpoch
        entered.overflowCharges packet.frameId ++
          admissionCharges codecs (entered.observeFrameId packet.frameId now) packet
            (entered.frameGaps[packet.frameId]?.getD now)
  | .expireIncompleteOlderThan now maxAge =>
      m.expiryCharges (m.expireIncompleteOlderThan now maxAge)
  | _ => []

def ofKind (kind : LossKind) (charges : List Charge) : List FrameKey :=
  (charges.filter (·.kind = kind)).map Charge.key

@[simp] theorem ofKind_nil (kind : LossKind) : ofKind kind [] = [] := rfl

theorem ofKind_append (kind : LossKind) (charges more : List Charge) :
    ofKind kind (charges ++ more) = ofKind kind charges ++ ofKind kind more := by
  unfold ofKind
  rw [List.filter_append, List.map_append]

theorem ofKind_map_same (kind : LossKind) (keys : List FrameKey) :
    ofKind kind (keys.map (⟨kind, ·⟩)) = keys := by
  unfold ofKind
  rw [List.filter_eq_self.mpr (by simp), List.map_map]
  exact List.map_id keys

theorem ofKind_map_other {kind other : LossKind} (hne : other ≠ kind) (keys : List FrameKey) :
    ofKind kind (keys.map (⟨other, ·⟩)) = [] := by
  unfold ofKind
  rw [List.filter_eq_nil_iff.mpr (by simp [hne]), List.map_nil]

/-! ## The counters -/

/-- The counter shows a total, or its greatest value once the total exceeds it. -/
def Shows (counter total : Nat) : Prop := counter = min total u64Max

theorem Shows.add {counter total : Nat} (h : Shows counter total) (more : Nat) :
    Shows (saturatingAdd counter more) (total + more) := by
  unfold Shows saturatingAdd at *
  omega

/-- No more fragments are missing than belong to access units whose outcome is known. -/
def FragmentsResolved (m : ReassemblyMap) : Prop :=
  m.missingFragments ≤ min m.resolvedFragments u64Max

/-- The counters of `m'` are those of `m` after `charges`. -/
structure Counts (m m' : ReassemblyMap) (charges : List Charge) : Prop where
  drops : ∀ total, Shows m.drops total → Shows m'.drops (total + charges.length)
  partialUnits : ∀ total, Shows m.partialAccessUnitDrops total →
    Shows m'.partialAccessUnitDrops (total + (ofKind .partialUnit charges).length)
  gaps : ∀ total, Shows m.wholeAccessUnitGapDrops total →
    Shows m'.wholeAccessUnitGapDrops (total + (ofKind .gap charges).length)
  fragments : FragmentsResolved m → FragmentsResolved m'

namespace Counts

variable {m m₁ m₂ : ReassemblyMap} {charges more : List Charge}

theorem same (hdrops : m₁.drops = m.drops)
    (hunits : m₁.partialAccessUnitDrops = m.partialAccessUnitDrops)
    (hgaps : m₁.wholeAccessUnitGapDrops = m.wholeAccessUnitGapDrops)
    (hmissing : m₁.missingFragments = m.missingFragments)
    (hresolved : m₁.resolvedFragments = m.resolvedFragments) : Counts m m₁ [] := by
  refine ⟨?_, ?_, ?_, ?_⟩
  · rw [hdrops]
    exact fun _ h => h
  · rw [hunits]
    exact fun _ h => h
  · rw [hgaps]
    exact fun _ h => h
  · rw [FragmentsResolved, FragmentsResolved, hmissing, hresolved]
    exact id

theorem refl (m : ReassemblyMap) : Counts m m [] := same rfl rfl rfl rfl rfl

theorem trans (h : Counts m m₁ charges) (h' : Counts m₁ m₂ more) :
    Counts m m₂ (charges ++ more) := by
  refine ⟨fun total hm => ?_, fun total hm => ?_, fun total hm => ?_, fun hm => ?_⟩
  · rw [List.length_append, ← Nat.add_assoc]
    exact h'.drops _ (h.drops total hm)
  · rw [ofKind_append, List.length_append, ← Nat.add_assoc]
    exact h'.partialUnits _ (h.partialUnits total hm)
  · rw [ofKind_append, List.length_append, ← Nat.add_assoc]
    exact h'.gaps _ (h.gaps total hm)
  · exact h'.fragments (h.fragments hm)

end Counts

theorem recordIncompleteDrop_counts (m : ReassemblyMap) (key : FrameKey)
    (frame : PartialFrame) :
    Counts m (m.recordIncompleteDrop frame) [⟨.partialUnit, key⟩] := by
  refine ⟨fun total h => h.add 1, fun total h => h.add 1, fun total h => h, fun h => ?_⟩
  show saturatingAdd m.missingFragments _ ≤ min (saturatingAdd m.resolvedFragments _) u64Max
  unfold FragmentsResolved at h
  unfold saturatingAdd
  omega

theorem abandonFrame_counts (m : ReassemblyMap) (key : FrameKey) (frame : PartialFrame) :
    Counts m (m.abandonFrame key frame) [⟨.partialUnit, key⟩] := by
  have h := { m with frames := m.frames.erase key }.recordIncompleteDrop_counts key frame
  exact ⟨h.drops, h.partialUnits, h.gaps, h.fragments⟩

theorem enterEpoch_counts (m : ReassemblyMap) (streamEpoch : Nat) :
    Counts m (m.enterEpoch streamEpoch) [] := by
  unfold enterEpoch
  split
  · exact Counts.same rfl rfl rfl rfl rfl
  · exact Counts.refl m

theorem observeFrameId_counts (m : ReassemblyMap) (frameId : Nat) (now : Instant) :
    Counts m (m.observeFrameId frameId now) (m.overflowCharges frameId) := by
  unfold observeFrameId overflowCharges
  cases m.highestObservedFrameId with
  | none => exact Counts.same rfl rfl rfl rfl rfl
  | some highest =>
      dsimp only
      by_cases hle : frameId ≤ highest
      · rw [if_pos hle, if_neg (by omega)]
        exact Counts.same rfl rfl rfl rfl rfl
      · rw [if_neg hle]
        by_cases hover : m.cacheCapacity < frameId - (highest + 1)
        · rw [if_pos hover, if_pos ⟨Nat.not_le.mp hle, hover⟩]
          have hkeys : (List.range' (highest + 1) (frameId - (highest + 1))).map
              (fun id => (⟨.gap, ⟨m.currentEpoch, id⟩⟩ : Charge)) =
              ((List.range' (highest + 1) (frameId - (highest + 1))).map
                (fun id => (⟨m.currentEpoch, id⟩ : FrameKey))).map (⟨.gap, ·⟩) := by
            rw [List.map_map]
            rfl
          refine ⟨fun total h => ?_, fun total h => ?_, fun total h => ?_, id⟩
          · rw [List.length_map, List.length_range']
            exact h.add _
          · rw [hkeys, ofKind_map_other (by decide)]
            exact h
          · rw [hkeys, ofKind_map_same, List.length_map, List.length_range']
            exact h.add _
        · rw [if_neg hover, if_neg fun h => hover h.2]
          exact Counts.same rfl rfl rfl rfl rfl

theorem makeRoom_counts (m : ReassemblyMap) (key : FrameKey) :
    Counts m (m.makeRoom key) (m.evictionCharges key) := by
  unfold makeRoom evictionCharges
  by_cases hfull : m.maxFrames ≤ m.frames.size ∧ key ∉ m.frames
  · rw [if_pos hfull, if_pos hfull]
    unfold dropOldest
    cases hv : m.evictionVictim with
    | none => exact Counts.refl m
    | some victim =>
        have hget := Std.ExtTreeMap.getElem?_eq_some_getElem (evictionVictim_mem hv)
        simp only [hget]
        exact m.abandonFrame_counts victim _
  · rw [if_neg hfull, if_neg hfull]
    exact Counts.refl m

theorem rejectFrame_counts (m : ReassemblyMap) {key : FrameKey} (flags : VideoPacketFlags)
    (hnew : key ∉ m.rejectedFrames) :
    Counts m (m.rejectFrame key flags) [⟨.rejected, key⟩] := by
  obtain ⟨kept, _, _, heq⟩ := m.rejectFrame_spec flags hnew
  rw [heq]
  exact ⟨fun total h => h.add 1, fun total h => h, fun total h => h, id⟩

theorem Acceptance.counts {room m' : ReassemblyMap} {key : FrameKey} {result : IngestResult}
    (h : Acceptance room key result m') : Counts room m' (ownCharges key (result, m')) := by
  unfold ownCharges
  cases h with
  | @abandoned base entry _ hbase hnone =>
      have hgone : key ∉ (base.abandonFrame key entry).frames := fun hmem =>
        (mem_map_erase.mp hmem).1 rfl
      rw [if_pos ⟨hnone, hgone⟩]
      rw [hbase]
      have hcounts := room.abandonFrame_counts key entry
      exact ⟨hcounts.drops, hcounts.partialUnits, hcounts.gaps, hcounts.fragments⟩
  | @kept base entry _ hbase hnone =>
      rw [if_neg fun hgone => hgone.2 (mem_map_insert.mpr (Or.inl rfl))]
      rw [hbase]
      exact Counts.same rfl rfl rfl rfl rfl
  | @completed base entry unit hbase hkey =>
      have hsome : ¬ (returned (.ok (some unit)) = none ∧ key ∉
          ({ { base with frames := base.frames.erase key }.rememberTerminal key with
            resolvedFragments :=
              saturatingAdd base.resolvedFragments entry.fragmentCount } :
            ReassemblyMap).frames) := by
        rintro ⟨hnone, _⟩
        cases hnone
      rw [if_neg hsome]
      rw [hbase]
      refine ⟨fun total h => h, fun total h => h, fun total h => h, fun hle => ?_⟩
      show room.missingFragments ≤
        min (saturatingAdd room.resolvedFragments entry.fragmentCount) u64Max
      unfold FragmentsResolved at hle
      unfold saturatingAdd
      omega

theorem admitPacket_counts (codecs : Codecs) (m : ReassemblyMap) (packet : VideoPacket)
    (firstFragmentAt : Instant) :
    Counts m (admitPacket codecs m packet firstFragmentAt).2
      (admissionCharges codecs m packet firstFragmentAt) := by
  have h := admitPacket_verdict codecs m packet firstFragmentAt
  unfold admissionCharges
  dsimp only
  generalize admitPacket codecs m packet firstFragmentAt = outcome at h ⊢
  obtain ⟨result, m'⟩ := outcome
  cases h with
  | covered hcovered =>
      rw [if_pos (Or.inl hcovered)]
      exact Counts.refl _
  | rejectedBefore _ hrejected =>
      rw [if_pos (Or.inr hrejected)]
      exact Counts.refl _
  | tooMany hopen hnew hcount =>
      rw [if_neg (not_or.mpr ⟨hopen, hnew⟩), if_pos hcount]
      exact m.rejectFrame_counts packet.flags hnew
  | badParity hopen hnew hcount hparity =>
      rw [if_neg (not_or.mpr ⟨hopen, hnew⟩), if_neg (Nat.not_lt.mpr hcount),
        if_pos (by rw [hparity]; exact Option.some_ne_none _)]
      exact m.makeRoom_counts (keyOf packet)
  | accepted hopen hnew hcount hparity hacc =>
      rw [if_neg (not_or.mpr ⟨hopen, hnew⟩), if_neg (Nat.not_lt.mpr hcount),
        if_neg (not_not.mpr hparity)]
      exact (m.makeRoom_counts (keyOf packet)).trans hacc.counts

/-! ## Expiry -/

theorem foldl_expireFrame_counts {keys : List FrameKey} {m : ReassemblyMap}
    (hnodup : keys.Nodup) (hmem : ∀ k ∈ keys, k ∈ m.frames) :
    Counts m (keys.foldl expireFrame m) (keys.map (⟨.partialUnit, ·⟩)) := by
  induction keys generalizing m with
  | nil => exact Counts.refl m
  | cons key keys ih =>
      obtain ⟨hkey, hnodup⟩ := List.nodup_cons.mp hnodup
      have hfirst := hmem key List.mem_cons_self
      have hget := Std.ExtTreeMap.getElem?_eq_some_getElem hfirst
      have hstep : Counts m (m.expireFrame key) [⟨.partialUnit, key⟩] := by
        unfold expireFrame
        simp only [hget]
        have h := { m with frames := m.frames.erase key }.recordIncompleteDrop_counts key
          m.frames[key]
        exact ⟨h.drops, h.partialUnits, h.gaps, h.fragments⟩
      have hrest : ∀ k ∈ keys, k ∈ (m.expireFrame key).frames := by
        intro k hk
        rw [(m.expireFrame_spec key).2.2.1]
        refine ⟨?_, hmem k (List.mem_cons_of_mem key hk)⟩
        rintro rfl
        exact hkey hk
      exact hstep.trans (ih hnodup hrest)

theorem expireGaps_counts (m : ReassemblyMap) (streamEpoch through : Nat) :
    Counts m (m.expireGaps through)
      ((m.frameGaps.filter fun id _ => id ≤ through).keys.map
        fun id => ⟨.gap, ⟨streamEpoch, id⟩⟩) := by
  have hkeys : (m.frameGaps.filter fun id _ => id ≤ through).keys.map
      (fun id => (⟨.gap, ⟨streamEpoch, id⟩⟩ : Charge)) =
      ((m.frameGaps.filter fun id _ => id ≤ through).keys.map
        (fun id => (⟨streamEpoch, id⟩ : FrameKey))).map (⟨.gap, ·⟩) := by
    rw [List.map_map]
    rfl
  have hsize : (m.frameGaps.filter fun id _ => id ≤ through).keys.length =
      (m.frameGaps.filter fun id _ => id ≤ through).size := Std.ExtTreeMap.length_keys
  unfold expireGaps
  dsimp only
  split
  · rename_i hnone
    rw [List.eq_nil_of_length_eq_zero (hsize.trans hnone)]
    exact Counts.refl m
  · refine ⟨fun total h => ?_, fun total h => ?_, fun total h => ?_, id⟩
    · rw [List.length_map, hsize]
      exact h.add _
    · rw [hkeys, ofKind_map_other (by decide)]
      exact h
    · rw [hkeys, ofKind_map_same, List.length_map, hsize]
      exact h.add _

theorem expiryCharges_expireThrough (m : ReassemblyMap) (through : Nat) :
    m.expiryCharges (m.expireThrough through) =
      (m.frames.keys.filter fun key => key.frameId ≤ through).map (⟨.partialUnit, ·⟩) ++
        (m.frameGaps.keys.filter fun id => id ≤ through).map
          fun id => ⟨.gap, ⟨m.currentEpoch, id⟩⟩ := by
  obtain ⟨_, _, _, _, hframes, hgaps, _⟩ := m.expireThrough_spec through
  have hframes' : m.frames.keys.filter (· ∉ (m.expireThrough through).frames) =
      m.frames.keys.filter fun key => key.frameId ≤ through := by
    refine List.filter_congr ?_
    intro k hk
    have hk' := Std.ExtTreeMap.mem_keys.mp hk
    rw [decide_eq_decide, hframes, and_iff_left hk', Nat.not_lt]
  have hgaps' : m.frameGaps.keys.filter (· ∉ (m.expireThrough through).frameGaps) =
      m.frameGaps.keys.filter fun id => id ≤ through := by
    refine List.filter_congr ?_
    intro id hid
    have hid' := Std.ExtTreeMap.mem_keys.mp hid
    rw [decide_eq_decide, hgaps, and_iff_left hid', Nat.not_lt]
  unfold expiryCharges
  rw [hframes', hgaps']

theorem expiryCharges_self (m : ReassemblyMap) : m.expiryCharges m = [] := by
  unfold expiryCharges
  rw [List.filter_eq_nil_iff.mpr (by simp), List.filter_eq_nil_iff.mpr (by simp)]
  rfl

theorem expireThrough_counts (m : ReassemblyMap) (through : Nat) :
    Counts m (m.expireThrough through) (m.expiryCharges (m.expireThrough through)) := by
  rw [expiryCharges_expireThrough]
  have hexpired : ∀ k ∈ m.frames.keys.filter (fun key => key.frameId ≤ through),
      k ∈ m.frames := fun k hk => Std.ExtTreeMap.mem_keys.mp (List.mem_filter.mp hk).1
  have hframes := foldl_expireFrame_counts
    (Std.ExtTreeMap.nodup_keys.filter fun key => decide (key.frameId ≤ through)) hexpired
  have hgaps := expireGaps_counts
    ((m.frames.keys.filter fun key => key.frameId ≤ through).foldl expireFrame m)
    m.currentEpoch through
  rw [(foldl_expireFrame_spec _ m).1.gaps, Std.ExtTreeMap.keys_filter_key] at hgaps
  have hall := hframes.trans hgaps
  exact ⟨hall.drops, hall.partialUnits, hall.gaps, hall.fragments⟩

/-- Step lemma: an operation moves the loss counters by the access units that it charges. -/
theorem perform_counts (codecs : Codecs) (m : ReassemblyMap) (op : Operation) :
    Counts m (m.perform codecs op).2 (op.charges codecs m) := by
  cases op with
  | ingestAt packet now =>
      show Counts m (m.ingestAt codecs packet now).2 _
      by_cases hstale : packet.streamEpoch < m.currentEpoch
      · rw [ingestAt, if_pos hstale, Operation.charges, if_pos hstale]
        exact Counts.refl m
      · rw [ingestAt, if_neg hstale, Operation.charges, if_neg hstale]
        exact (m.enterEpoch_counts packet.streamEpoch).trans
          ((observeFrameId_counts _ packet.frameId now).trans
            (admitPacket_counts codecs _ packet _))
  | expireIncompleteOlderThan now maxAge =>
      show Counts m (m.expireIncompleteOlderThan now maxAge)
        (m.expiryCharges (m.expireIncompleteOlderThan now maxAge))
      rcases m.expireIncompleteOlderThan_cases now maxAge with heq | ⟨through, heq⟩
      · rw [heq, expiryCharges_self]
        exact Counts.refl m
      · rw [heq]
        exact m.expireThrough_counts through
  | discardStaleAccessUnit streamEpoch frameId flags =>
      show Counts m (m.discardStaleAccessUnit streamEpoch frameId flags).2 []
      rcases m.discardStaleAccessUnit_cases streamEpoch frameId flags with heq | ⟨_, heq⟩
      · rw [heq]
        exact m.enterEpoch_counts streamEpoch
      · rw [heq]
        have h := m.enterEpoch_counts streamEpoch
        exact ⟨h.drops, h.partialUnits, h.gaps, h.fragments⟩
  | clearPending abandoned =>
      show Counts m (m.clearPendingIn abandoned) []
      have hfold : ∀ (keys : List FrameKey) (start : ReassemblyMap),
          Counts start (keys.foldl rememberTerminal start) [] := by
        intro keys
        induction keys with
        | nil => exact Counts.refl
        | cons key keys ih =>
            intro start
            have h := ih (start.rememberTerminal key)
            exact ⟨h.drops, h.partialUnits, h.gaps, h.fragments⟩
      have h := hfold abandoned
        { m with frames := ∅, frameGaps := ∅, expiredThroughFrameId := m.clearedThrough }
      exact ⟨h.drops, h.partialUnits, h.gaps, h.fragments⟩
  | takeKeyframeLoss => exact Counts.same rfl rfl rfl rfl rfl
  | takeReferenceChainLoss => exact Counts.same rfl rfl rfl rfl rfl


end PicooCamera.Packet.ReassemblyMap
