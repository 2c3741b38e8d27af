import PicooCamera.Packet.CacheBounds
import PicooCamera.Packet.Verdict

/-!
# Unresolved access units and the boundary

Playout waits for the oldest partial frame or gap, so none of them may lie
where packets are no longer admitted. Expiry and clearing remove what they
put behind the boundary. A gap overflow and a stale discard do not, and a
packet with too many fragments closes a frame that stays in the map: the
steps that keep every unresolved access unit open are named exactly.
-/

namespace PicooCamera.Packet.ReassemblyMap

open PicooCamera.Library PicooCamera.Protocol TransitionSystem

/-- An access unit that playout waits for: a partial frame or a gap. -/
def Unresolved (m : ReassemblyMap) (k : FrameKey) : Prop :=
  k ∈ m.frames ∨ k.streamEpoch = m.currentEpoch ∧ k.frameId ∈ m.frameGaps

structure BoundaryClear (m : ReassemblyMap) : Prop where
  frames : ∀ k ∈ m.frames, ¬ atOrBelow m.expiredThroughFrameId k.frameId
  gaps : ∀ id ∈ m.frameGaps, ¬ atOrBelow m.expiredThroughFrameId id
  /-- The remaining fragments of an unresolved access unit are still admitted. -/
  acceptable : ∀ k, m.Unresolved k → ¬ m.Closed k
  oldest : ∀ id, m.oldestUnresolvedFrameId = some id → ¬ m.Closed ⟨m.currentEpoch, id⟩

/-- An overflow meets no older frame that outlives it, ids are skipped above the boundary
only, and no packet with too many fragments belongs to a partial frame. -/
def PacketKeepsClear (m : ReassemblyMap) (packet : VideoPacket) : Prop :=
  let entered := m.enterEpoch packet.streamEpoch
  (entered.GapOverflow packet.frameId →
      entered.frames = ∅ ∨ m.maxFrames = 1 ∧ packet.fragmentCount ≤ m.maxFragments) ∧
    (¬ entered.GapOverflow packet.frameId → ∀ highest ∈ entered.highestObservedFrameId,
      ∀ id, highest < id → id < packet.frameId →
        ¬ atOrBelow entered.expiredThroughFrameId id) ∧
    (m.maxFragments < packet.fragmentCount → keyOf packet ∉ entered.frames)

/-- The frame of an effective stale discard is older than all that is unresolved. -/
def DiscardKeepsClear (m : ReassemblyMap) (streamEpoch frameId : Nat) : Prop :=
  let entered := m.enterEpoch streamEpoch
  ¬ atOrBelow entered.expiredThroughFrameId frameId →
    (⟨streamEpoch, frameId⟩ : FrameKey) ∉ entered.terminalFrames →
    (∀ k ∈ entered.frames, frameId ≤ k.frameId) ∧ ∀ id ∈ entered.frameGaps, frameId ≤ id

def KeepsClear (m : ReassemblyMap) : Operation → Prop
  | .ingestAt packet _ => m.currentEpoch ≤ packet.streamEpoch → m.PacketKeepsClear packet
  | .discardStaleAccessUnit streamEpoch frameId _ =>
      m.currentEpoch ≤ streamEpoch → m.DiscardKeepsClear streamEpoch frameId
  | _ => True

/-! ## Unresolved access units are open -/

/-- A packet of the frame passes the checks of `ingest_at` on ids. -/
def Admits (m : ReassemblyMap) (k : FrameKey) : Prop :=
  ¬ atOrBelow m.expiredThroughFrameId k.frameId ∧ k ∉ m.terminalFrames ∧
    k ∉ m.rejectedFrames

structure AllOpen (m : ReassemblyMap) : Prop where
  frames : ∀ k ∈ m.frames, m.Admits k
  gaps : ∀ id ∈ m.frameGaps, ¬ atOrBelow m.expiredThroughFrameId id

theorem not_closed_iff {m : ReassemblyMap} {k : FrameKey}
    (hepoch : k.streamEpoch = m.currentEpoch) : ¬ m.Closed k ↔ m.Admits k := by
  unfold Closed Admits
  rw [hepoch]
  simp only [Nat.lt_irrefl, true_and, false_or, not_or]

theorem WellFormed.admits_gap {m : ReassemblyMap} (h : WellFormed m) {k : FrameKey}
    (hgap : k.frameId ∈ m.frameGaps)
    (habove : ¬ atOrBelow m.expiredThroughFrameId k.frameId) : m.Admits k := by
  refine ⟨habove, ?_, ?_⟩
  · intro hterminal
    rcases h.terminal_settled k hterminal with hbelow | hsettled
    · exact habove hbelow
    · exact hsettled.2 hgap
  · intro hrejected
    exact (h.rejected_settled k hrejected).2 hgap

theorem oldestUnresolved_mem {m : ReassemblyMap} {id : Nat}
    (h : m.oldestUnresolvedFrameId = some id) :
    (∃ k ∈ m.frames, k.frameId = id) ∨ id ∈ m.frameGaps := by
  unfold oldestUnresolvedFrameId at h
  rcases List.mem_append.mp (List.min?_mem h) with hmem | hmem
  · obtain ⟨k, hk, rfl⟩ := List.mem_map.mp hmem
    exact Or.inl ⟨k, Std.ExtTreeMap.mem_keys.mp hk, rfl⟩
  · exact Or.inr (Std.ExtTreeMap.mem_keys.mp hmem)

theorem WellFormed.clear_iff_allOpen {m : ReassemblyMap} (h : WellFormed m) :
    BoundaryClear m ↔ AllOpen m := by
  constructor
  · intro hclear
    refine ⟨fun k hk => ?_, hclear.gaps⟩
    exact (not_closed_iff (h.frames_epoch k hk)).mp (hclear.acceptable k (Or.inl hk))
  · intro hopen
    have hacceptable : ∀ k, m.Unresolved k → ¬ m.Closed k := by
      rintro k (hk | ⟨hepoch, hgap⟩)
      · exact (not_closed_iff (h.frames_epoch k hk)).mpr (hopen.frames k hk)
      · exact (not_closed_iff hepoch).mpr (h.admits_gap hgap (hopen.gaps _ hgap))
    refine ⟨fun k hk => (hopen.frames k hk).1, hopen.gaps, hacceptable, ?_⟩
    intro id hold
    rcases oldestUnresolved_mem hold with ⟨k, hk, rfl⟩ | hgap
    · have hkey : (⟨m.currentEpoch, k.frameId⟩ : FrameKey) = k := by
        rw [← h.frames_epoch k hk]
      rw [hkey]
      exact hacceptable k (Or.inl hk)
    · exact hacceptable _ (Or.inr ⟨rfl, hgap⟩)

theorem AllOpen.enterEpoch {m : ReassemblyMap} (h : AllOpen m) (streamEpoch : Nat) :
    AllOpen (m.enterEpoch streamEpoch) := by
  unfold ReassemblyMap.enterEpoch
  split
  · exact ⟨fun _ hk => absurd hk Std.ExtTreeMap.not_mem_empty,
      fun _ hid => absurd hid Std.ExtTreeMap.not_mem_empty⟩
  · exact h

/-! ## Packets -/

theorem makeRoom_terminal_evicted {m : ReassemblyMap} {key k : FrameKey}
    (hk : k ∈ (m.makeRoom key).terminalFrames) :
    k ∈ m.terminalFrames ∨ k ≠ key ∧ k ∉ (m.makeRoom key).frames := by
  rcases m.makeRoom_cases key with h | ⟨victim, frame, _, _, hne, _, h⟩ <;> rw [h] at hk ⊢
  · exact Or.inl hk
  · rcases mem_terminalAfter hk with rfl | hk
    · exact Or.inr ⟨hne, fun hmem => (mem_map_erase.mp hmem).1 rfl⟩
    · exact Or.inl hk

theorem makeRoom_clears {m : ReassemblyMap} {key : FrameKey} (hbound : CachesBounded m)
    (hne : m.frames ≠ ∅) (hgone : ∀ k ∈ m.frames, k ∉ (m.makeRoom key).frames) :
    m.maxFrames = 1 := by
  have hpos := m.maxFrames_pos
  have hsize : m.frames.size ≠ 0 := fun h0 =>
    hne (Std.ExtTreeMap.eq_empty_iff_size_eq_zero.mpr h0)
  have hroom := (makeRoom_room hbound key).2.2
  have hempty : (m.makeRoom key).frames = ∅ := by
    refine Std.ExtTreeMap.eq_empty_iff_forall_not_mem.mpr ?_
    intro k hk
    exact hgone k (makeRoom_frames_subset hk) hk
  rcases m.makeRoom_cases key with h | ⟨victim, frame, _, hget, _, _, h⟩
  · rw [h] at hempty
    exact absurd hempty hne
  · have hmem := mem_frames_of_getElem? hget
    have herase := Std.ExtTreeMap.size_erase (t := m.frames) (k := victim)
    rw [if_pos (Std.ExtTreeMap.contains_iff_mem.mpr hmem)] at herase
    rw [h] at hempty
    change m.frames.erase victim = ∅ at hempty
    rw [hempty] at herase
    have hzero : (∅ : Std.ExtTreeMap FrameKey PartialFrame).size = 0 := rfl
    by_contra hmax
    have hnot : ¬ (m.maxFrames ≤ m.frames.size ∧ key ∉ m.frames) := by omega
    have hsame : m.makeRoom key = m := if_neg hnot
    rw [hsame] at h
    have hframes : m.frames = m.frames.erase victim := congrArg ReassemblyMap.frames h
    rw [hframes, hempty] at hsize
    exact hsize hzero

theorem makeRoom_single {m : ReassemblyMap} {key k : FrameKey} (hbound : CachesBounded m)
    (hmax : m.maxFrames = 1) (hkey : key ∉ m.frames) : k ∉ (m.makeRoom key).frames := by
  obtain ⟨_, _, hmem | hlt⟩ := makeRoom_room hbound key
  · exact absurd (makeRoom_frames_subset hmem) hkey
  · intro hk
    have hzero : (m.makeRoom key).frames.size = 0 := by omega
    rw [Std.ExtTreeMap.eq_empty_iff_size_eq_zero.mpr hzero] at hk
    exact Std.ExtTreeMap.not_mem_empty hk

theorem Admits.of_same {m m' : ReassemblyMap} {k : FrameKey} (h : m.Admits k)
    (hexpired : m'.expiredThroughFrameId = m.expiredThroughFrameId)
    (hterminal : k ∈ m'.terminalFrames → k ∈ m.terminalFrames)
    (hrejected : k ∈ m'.rejectedFrames → k ∈ m.rejectedFrames) : m'.Admits k := by
  refine ⟨?_, fun hk => h.2.1 (hterminal hk), fun hk => h.2.2 (hrejected hk)⟩
  rw [hexpired]
  exact h.1

theorem Verdict.allOpen {m m' : ReassemblyMap} {packet : VideoPacket} {result : IngestResult}
    (h : Verdict m packet result m') (hsame : m'.frameGaps = m.frameGaps ∧
      m'.expiredThroughFrameId = m.expiredThroughFrameId)
    (hgaps : ∀ id ∈ m.frameGaps, ¬ atOrBelow m.expiredThroughFrameId id)
    (hframes : ∀ k ∈ m.frames, k ∈ m'.frames → m.Admits k)
    (hcount : m.maxFragments < packet.fragmentCount → keyOf packet ∉ m.frames) :
    AllOpen m' := by
  refine ⟨?_, ?_⟩
  · cases h with
    | covered _ => exact fun k hk => hframes k hk hk
    | rejectedBefore _ _ => exact fun k hk => hframes k hk hk
    | tooMany _ hnew hmany =>
        obtain ⟨kept, hkept, _, heq⟩ := m.rejectFrame_spec packet.flags hnew
        rw [heq] at hframes ⊢
        intro k hk
        refine (hframes k hk hk).of_same rfl id ?_
        intro hrejected
        rcases mem_set_insert.mp hrejected with rfl | hrejected
        · exact absurd hk (hcount hmany)
        · exact hkept k hrejected
    | badParity _ _ _ _ =>
        intro k hk
        refine (hframes k (makeRoom_frames_subset hk) hk).of_same (makeRoom_expired _ _) ?_ ?_
        · intro hterminal
          rcases makeRoom_terminal_evicted hterminal with hold | ⟨_, hgone⟩
          · exact hold
          · exact absurd hk hgone
        · rw [makeRoom_rejected]
          exact id
    | accepted hopen hnew _ _ hacc =>
        intro k hk
        have hadmits : m.Admits k := by
          rcases hacc.frames hk with rfl | hroom
          · exact ⟨fun hbelow => hopen (Or.inl hbelow), fun hmem => hopen (Or.inr hmem), hnew⟩
          · exact hframes k (makeRoom_frames_subset hroom) hk
        refine hadmits.of_same hsame.2 ?_ ?_
        · intro hterminal
          rcases hacc.terminal hterminal with ⟨rfl, hgone⟩ | hroom
          · exact absurd hk hgone
          · rcases makeRoom_terminal_evicted hroom with hold | ⟨hne, hgone⟩
            · exact hold
            · rcases hacc.frames hk with rfl | hmem
              · exact absurd rfl hne
              · exact absurd hmem hgone
        · rw [hacc.rejected, makeRoom_rejected]
          exact id
  · intro id hid
    rw [hsame.1] at hid
    rw [hsame.2]
    exact hgaps id hid

section Packets

variable {m m' : ReassemblyMap} {packet : VideoPacket} {result : IngestResult} {now : Instant}

theorem not_mem_frames_of_overflow (h : WellFormed m) (hover : m.GapOverflow packet.frameId) :
    keyOf packet ∉ m.frames := by
  intro hmem
  obtain ⟨highest, hhighest, hlt, _⟩ := hover
  have hle := (h.frames_settled _ hmem).1
  rw [hhighest, atOrBelow_some] at hle
  exact absurd hle (Nat.not_le.mpr hlt)

theorem overflow_covers (h : WellFormed m) (hover : m.GapOverflow packet.frameId)
    {k : FrameKey} (hk : k ∈ m.frames) :
    atOrBelow (m.observeFrameId packet.frameId now).expiredThroughFrameId k.frameId := by
  rw [(observeFrameId_overflow m packet.frameId now hover).2.1, atOrBelow_raiseBound]
  obtain ⟨highest, hhighest, hlt, _⟩ := hover
  have hle := (h.frames_settled k hk).1
  rw [hhighest, atOrBelow_some] at hle
  exact Or.inr (by omega)

/-- The frames that an overflow puts behind the boundary are all gone after the packet if and
only if there are none, or the packet evicts the only one. -/
theorem overflow_keeps_iff (hm : WellFormed m) (hbound : CachesBounded m) (hopen : AllOpen m)
    (hover : m.GapOverflow packet.frameId)
    (h : Verdict (m.observeFrameId packet.frameId now) packet result m') :
    (∀ k ∈ m.frames, k ∉ m'.frames) ↔
      m.frames = ∅ ∨ m.maxFrames = 1 ∧ packet.fragmentCount ≤ m.maxFragments := by
  have hkey := not_mem_frames_of_overflow hm hover
  have hbound' := hbound.observe packet.frameId now
  have hkey' : keyOf packet ∉ (m.observeFrameId packet.frameId now).frames := by
    rwa [observeFrameId_frames]
  constructor
  · intro hgone
    by_cases hempty : m.frames = ∅
    · exact Or.inl hempty
    · obtain ⟨k, hk⟩ : ∃ k, k ∈ m.frames := by
        by_contra hnone
        exact hempty (Std.ExtTreeMap.eq_empty_iff_forall_not_mem.mpr (not_exists.mp hnone))
      have hempty' : (m.observeFrameId packet.frameId now).frames ≠ ∅ := by
        rwa [observeFrameId_frames]
      right
      cases h with
      | covered _ => exact absurd (by rwa [observeFrameId_frames]) (hgone k hk)
      | rejectedBefore _ _ => exact absurd (by rwa [observeFrameId_frames]) (hgone k hk)
      | tooMany _ hnew _ =>
          obtain ⟨kept, _, _, heq⟩ := ReassemblyMap.rejectFrame_spec _ packet.flags hnew
          rw [heq] at hgone
          refine absurd ?_ (hgone k hk)
          show k ∈ (m.observeFrameId packet.frameId now).frames
          rwa [observeFrameId_frames]
      | badParity _ _ hcount _ =>
          rw [observeFrameId_maxFragments] at hcount
          refine ⟨?_, hcount⟩
          rw [← observeFrameId_maxFrames m packet.frameId now]
          refine @makeRoom_clears _ (keyOf packet) hbound' hempty' ?_
          intro k' hk'
          rw [observeFrameId_frames] at hk'
          exact hgone k' hk'
      | accepted _ _ hcount _ hacc =>
          rw [observeFrameId_maxFragments] at hcount
          refine ⟨?_, hcount⟩
          rw [← observeFrameId_maxFrames m packet.frameId now]
          refine @makeRoom_clears _ (keyOf packet) hbound' hempty' ?_
          intro k' hk' hroom
          rw [observeFrameId_frames] at hk'
          refine hgone k' hk' (hacc.frames_of_ne ?_ hroom)
          rintro rfl
          exact hkey hk'
  · rintro (hempty | ⟨hmax, hcount⟩) k hk
    · rw [hempty] at hk
      exact absurd hk Std.ExtTreeMap.not_mem_empty
    · have hmax' : (m.observeFrameId packet.frameId now).maxFrames = 1 := by
        rwa [observeFrameId_maxFrames]
      obtain ⟨highest, hhighest, hlt, _⟩ := id hover
      cases h with
      | covered hcovered =>
          -- A boundary as high as the packet would have closed `k` before the packet.
          exfalso
          have hle := (hm.frames_settled k hk).1
          rw [hhighest, atOrBelow_some] at hle
          have hbelow : ¬ atOrBelow m.expiredThroughFrameId packet.frameId := fun hb =>
            (hopen.frames k hk).1 (atOrBelow_of_le hb (by omega))
          rcases hcovered with hb | hterminal
          · rw [(observeFrameId_overflow m packet.frameId now hover).2.1,
              atOrBelow_raiseBound] at hb
            rcases hb with hb | hb
            · exact hbelow hb
            · omega
          · rw [observeFrameId_terminal] at hterminal
            rcases hm.terminal_settled _ hterminal with hb | hsettled
            · exact hbelow hb
            · have hle' := hsettled.1
              rw [hhighest, atOrBelow_some] at hle'
              exact absurd hle' (Nat.not_le.mpr hlt)
      | rejectedBefore _ hrejected =>
          exfalso
          rw [observeFrameId_rejected] at hrejected
          have hle := (hm.rejected_settled _ hrejected).1
          rw [hhighest, atOrBelow_some] at hle
          exact absurd hle (Nat.not_le.mpr hlt)
      | tooMany _ _ hmany =>
          rw [observeFrameId_maxFragments] at hmany
          exact absurd hcount (Nat.not_le.mpr hmany)
      | badParity _ _ _ _ => exact makeRoom_single hbound' hmax' hkey'
      | accepted _ _ _ _ hacc =>
          intro hmem
          rcases hacc.frames hmem with rfl | hroom
          · exact hkey hk
          · exact makeRoom_single hbound' hmax' hkey' hroom

theorem tooMany_closes (hopen : m.Admits (keyOf packet))
    (hmany : m.maxFragments < packet.fragmentCount) (hmem : keyOf packet ∈ m.frames)
    (h : Verdict m packet result m') :
    keyOf packet ∈ m'.frames ∧ keyOf packet ∈ m'.rejectedFrames := by
  cases h with
  | covered hcovered =>
      rcases hcovered with hbelow | hterminal
      · exact absurd hbelow hopen.1
      · exact absurd hterminal hopen.2.1
  | rejectedBefore _ hrejected => exact absurd hrejected hopen.2.2
  | tooMany _ hnew _ =>
      obtain ⟨kept, _, _, heq⟩ := m.rejectFrame_spec packet.flags hnew
      rw [heq]
      exact ⟨hmem, mem_set_insert.mpr (Or.inl rfl)⟩
  | badParity _ _ hcount _ => exact absurd hcount (Nat.not_le.mpr hmany)
  | accepted _ _ hcount _ _ => exact absurd hcount (Nat.not_le.mpr hmany)

/-- In the epoch that it enters, a packet keeps all open exactly when it meets the
condition. -/
theorem admission_allOpen_iff (hm : WellFormed m) (hbound : CachesBounded m)
    (hopen : AllOpen m) (h : Verdict (m.observeFrameId packet.frameId now) packet result m')
    (hsame : m'.frameGaps = (m.observeFrameId packet.frameId now).frameGaps ∧
      m'.expiredThroughFrameId =
        (m.observeFrameId packet.frameId now).expiredThroughFrameId) :
    AllOpen m' ↔
      (m.GapOverflow packet.frameId →
        m.frames = ∅ ∨ m.maxFrames = 1 ∧ packet.fragmentCount ≤ m.maxFragments) ∧
      (¬ m.GapOverflow packet.frameId → ∀ highest ∈ m.highestObservedFrameId,
        ∀ id, highest < id → id < packet.frameId → ¬ atOrBelow m.expiredThroughFrameId id) ∧
      (m.maxFragments < packet.fragmentCount → keyOf packet ∉ m.frames) := by
  by_cases hover : m.GapOverflow packet.frameId
  · have hkey := not_mem_frames_of_overflow hm hover
    rw [← overflow_keeps_iff hm hbound hopen hover h]
    constructor
    · intro hopen'
      refine ⟨fun _ k hk hmem => ?_, fun hfit => absurd hover hfit, fun _ => hkey⟩
      refine (hopen'.frames k hmem).1 ?_
      rw [hsame.2]
      exact overflow_covers hm hover hk
    · rintro ⟨hgone, _, _⟩
      refine h.allOpen hsame ?_ ?_ ?_
      · intro id hid
        rw [(observeFrameId_overflow m packet.frameId now hover).1] at hid
        exact absurd hid Std.ExtTreeMap.not_mem_empty
      · intro k hk hmem
        rw [observeFrameId_frames] at hk
        exact absurd hmem (hgone hover k hk)
      · intro _
        rwa [observeFrameId_frames]
  · have hexpired := observeFrameId_expired m packet.frameId now hover
    have hadmits : ∀ k, m.Admits k → (m.observeFrameId packet.frameId now).Admits k := by
      intro k hk
      refine hk.of_same hexpired ?_ ?_
      · rw [observeFrameId_terminal]
        exact id
      · rw [observeFrameId_rejected]
        exact id
    constructor
    · intro hopen'
      refine ⟨fun hover' => absurd hover' hover, ?_, ?_⟩
      · intro _ highest hhighest id hlt hlt'
        rw [← hexpired, ← hsame.2]
        refine hopen'.gaps id ?_
        rw [hsame.1]
        exact (mem_observeFrameId_frameGaps m packet.frameId now hover).mpr
          (Or.inr ⟨highest, hhighest, hlt, hlt'⟩)
      · intro hmany hmem
        have hmany' : (m.observeFrameId packet.frameId now).maxFragments <
            packet.fragmentCount := by
          rwa [observeFrameId_maxFragments]
        have hmem' : keyOf packet ∈ (m.observeFrameId packet.frameId now).frames := by
          rwa [observeFrameId_frames]
        obtain ⟨hframe, hrejected⟩ := tooMany_closes (hadmits _ (hopen.frames _ hmem)) hmany'
          hmem' h
        exact (hopen'.frames _ hframe).2.2 hrejected
    · rintro ⟨_, hskip, hcount⟩
      refine h.allOpen hsame ?_ ?_ ?_
      · intro id hid
        rw [hexpired]
        rcases (mem_observeFrameId_frameGaps m packet.frameId now hover).mp hid with
          ⟨_, hgap⟩ | ⟨highest, hhighest, hlt, hlt'⟩
        · exact hopen.gaps id hgap
        · exact hskip hover highest hhighest id hlt hlt'
      · intro k hk _
        rw [observeFrameId_frames] at hk
        exact hadmits k (hopen.frames k hk)
      · intro hmany
        rw [observeFrameId_maxFragments] at hmany
        rw [observeFrameId_frames]
        exact hcount hmany

end Packets

theorem ingestAt_allOpen_iff {m : ReassemblyMap} (hm : WellFormed m) (hbound : CachesBounded m)
    (hopen : AllOpen m) (codecs : Codecs) (packet : VideoPacket) (now : Instant) :
    AllOpen (m.ingestAt codecs packet now).2 ↔ m.KeepsClear (.ingestAt packet now) := by
  by_cases hstale : packet.streamEpoch < m.currentEpoch
  · rw [ingestAt, if_pos hstale]
    exact iff_of_true hopen fun hepoch => absurd hepoch (Nat.not_le.mpr hstale)
  · have hadm := ingestAt_admission codecs now hstale
    obtain ⟨hmax, hbound'⟩ := hbound.enterEpoch packet.streamEpoch
    have hfragments : (m.enterEpoch packet.streamEpoch).maxFragments = m.maxFragments := by
      unfold enterEpoch
      split <;> rfl
    rw [admission_allOpen_iff (hm.enterEpoch _) hbound' (hopen.enterEpoch _)
      (ingestAt_verdict codecs now hstale) ⟨hadm.same.1, hadm.same.2.2.2⟩, hmax, hfragments]
    exact ⟨fun hall _ => hall, fun hall => hall (Nat.not_lt.mp hstale)⟩

/-! ## The other operations -/

theorem discardFrame_allOpen_iff {m : ReassemblyMap} (hm : WellFormed m) (hopen : AllOpen m)
    {key : FrameKey} (hepoch : key.streamEpoch = m.currentEpoch) (flags : VideoPacketFlags) :
    AllOpen (m.discardFrame key flags) ↔
      (∀ k ∈ m.frames, key.frameId ≤ k.frameId) ∧ ∀ id ∈ m.frameGaps, key.frameId ≤ id := by
  have hexpired : ∀ {id}, atOrBelow (m.discardFrame key flags).expiredThroughFrameId id ↔
      atOrBelow m.expiredThroughFrameId id ∨ id ≤ key.frameId := atOrBelow_raiseBound
  constructor
  · intro hopen'
    refine ⟨?_, ?_⟩
    · intro k hk
      by_cases hown : k = key
      · rw [hown]
      · by_contra hlt
        refine (hopen'.frames k (mem_map_erase.mpr ⟨hown, hk⟩)).1 (hexpired.mpr ?_)
        exact Or.inr (Nat.le_of_not_le hlt)
    · intro id hid
      by_contra hlt
      refine hopen'.gaps id (mem_map_erase.mpr ⟨?_, hid⟩) (hexpired.mpr ?_)
      · omega
      · exact Or.inr (Nat.le_of_not_le hlt)
  · rintro ⟨hframes, hgaps⟩
    refine ⟨?_, ?_⟩
    · intro k hk
      obtain ⟨hne, hk⟩ := mem_map_erase.mp hk
      have hadmits := hopen.frames k hk
      have hother : k.frameId ≠ key.frameId := fun heq => hne (by
        have hkepoch := hm.frames_epoch k hk
        cases k
        cases key
        simp_all)
      have hle := hframes k hk
      refine ⟨?_, ?_, fun hrejected => hadmits.2.2 (mem_set_erase.mp hrejected).2⟩
      · rw [hexpired]
        rintro (hbelow | hle')
        · exact hadmits.1 hbelow
        · omega
      · intro hterminal
        rcases mem_terminalAfter hterminal with rfl | hterminal
        · exact hne rfl
        · exact hadmits.2.1 hterminal
    · intro id hid
      obtain ⟨hne, hid⟩ := mem_map_erase.mp hid
      have hle := hgaps id hid
      rw [hexpired]
      rintro (hbelow | hle')
      · exact hopen.gaps id hid hbelow
      · omega

theorem discard_allOpen_iff {m : ReassemblyMap} (hm : WellFormed m) (hopen : AllOpen m)
    (streamEpoch frameId : Nat) (flags : VideoPacketFlags) :
    AllOpen (m.discardStaleAccessUnit streamEpoch frameId flags).2 ↔
      m.KeepsClear (.discardStaleAccessUnit streamEpoch frameId flags) := by
  unfold ReassemblyMap.discardStaleAccessUnit
  by_cases hstale : streamEpoch < m.currentEpoch
  · rw [if_pos hstale]
    exact iff_of_true hopen fun hepoch => absurd hepoch (Nat.not_le.mpr hstale)
  · rw [if_neg hstale]
    have hepoch := enterEpoch_currentEpoch hstale
    dsimp only
    split
    · rename_i hcovered
      refine iff_of_true (hopen.enterEpoch streamEpoch) ?_
      rintro _ hbelow hterminal
      rcases hcovered with hcovered | hcovered
      · exact absurd hcovered hbelow
      · exact absurd hcovered hterminal
    · rename_i hcovered
      rw [discardFrame_allOpen_iff (hm.enterEpoch streamEpoch) (hopen.enterEpoch streamEpoch)
        hepoch.symm flags]
      constructor
      · exact fun hall _ _ _ => hall
      · intro hall
        exact hall (Nat.not_lt.mp hstale) (fun hbelow => hcovered (Or.inl hbelow))
          (fun hterminal => hcovered (Or.inr hterminal))

theorem AllOpen.expireThrough {m : ReassemblyMap} (h : AllOpen m) (through : Nat) :
    AllOpen (m.expireThrough through) := by
  obtain ⟨_, _, hexpired, hterminal, hframes, hgaps, hrejected⟩ := m.expireThrough_spec through
  refine ⟨?_, ?_⟩
  · intro k hk
    obtain ⟨hlt, hk⟩ := (hframes k).mp hk
    have hadmits := h.frames k hk
    refine ⟨?_, ?_, fun hmem => hadmits.2.2 ((hrejected k).mp hmem).2⟩
    · rw [hexpired, atOrBelow_raiseBound]
      rintro (hbelow | hle)
      · exact hadmits.1 hbelow
      · exact absurd hle (Nat.not_le.mpr hlt)
    · rw [hterminal]
      exact hadmits.2.1
  · intro id hid
    obtain ⟨hlt, hid⟩ := (hgaps id).mp hid
    rw [hexpired, atOrBelow_raiseBound]
    rintro (hbelow | hle)
    · exact h.gaps id hid hbelow
    · exact absurd hle (Nat.not_le.mpr hlt)

theorem clearPendingIn_allOpen (m : ReassemblyMap) (abandoned : List FrameKey) :
    AllOpen (m.clearPendingIn abandoned) := by
  unfold clearPendingIn
  obtain ⟨hids, hframes, _⟩ := foldl_rememberTerminal_sameIds abandoned
    { m with frames := ∅, frameGaps := ∅, expiredThroughFrameId := m.clearedThrough }
  refine ⟨?_, ?_⟩
  · intro k hk
    rw [hframes] at hk
    exact absurd hk Std.ExtTreeMap.not_mem_empty
  · intro id hid
    rw [hids.gaps] at hid
    exact absurd hid Std.ExtTreeMap.not_mem_empty

theorem perform_allOpen_iff {m : ReassemblyMap} (hm : WellFormed m) (hbound : CachesBounded m)
    (hopen : AllOpen m) (codecs : Codecs) (op : Operation) :
    AllOpen (m.perform codecs op).2 ↔ m.KeepsClear op := by
  cases op with
  | ingestAt packet now => exact ingestAt_allOpen_iff hm hbound hopen codecs packet now
  | expireIncompleteOlderThan now maxAge =>
      refine iff_of_true ?_ trivial
      show AllOpen (m.expireIncompleteOlderThan now maxAge)
      rcases m.expireIncompleteOlderThan_cases now maxAge with heq | ⟨through, heq⟩
      · rw [heq]
        exact hopen
      · rw [heq]
        exact hopen.expireThrough through
  | discardStaleAccessUnit streamEpoch frameId flags =>
      exact discard_allOpen_iff hm hopen streamEpoch frameId flags
  | clearPending abandoned => exact iff_of_true (m.clearPendingIn_allOpen abandoned) trivial
  | takeKeyframeLoss => exact iff_of_true ⟨hopen.frames, hopen.gaps⟩ trivial
  | takeReferenceChainLoss => exact iff_of_true ⟨hopen.frames, hopen.gaps⟩ trivial

theorem allOpen_new (maxFrames maxFragments : Nat) : AllOpen (new maxFrames maxFragments) :=
  ⟨fun _ hk => absurd hk Std.ExtTreeMap.not_mem_empty,
    fun _ hid => absurd hid Std.ExtTreeMap.not_mem_empty⟩

/-! ## Runs -/

/-- All that is unresolved stays open throughout a run if and only if no step of the run
puts an unresolved access unit behind the boundary or among the rejected frames. -/
theorem boundaryClear_iff (codecs : Codecs) (maxFrames maxFragments : Nat)
    (ops : List Operation)
    (hvalid : MeetsAll (fun m op => op.Valid m) (fun m op => (m.perform codecs op).2)
      (new maxFrames maxFragments) ops) :
    HoldsThroughout BoundaryClear (fun m op => (m.perform codecs op).2)
        (new maxFrames maxFragments) ops ↔
      MeetsAll KeepsClear (fun m op => (m.perform codecs op).2) (new maxFrames maxFragments)
        ops := by
  refine @holdsThroughout_iff _ _ (fun m => WellFormed m ∧ CachesBounded m) _ _ _ _
    ?_ ?_ _ _ ⟨wellFormed_new _ _, cachesBounded_new _ _⟩ ?_ hvalid
  · intro m op hm hop
    exact ⟨hm.1.perform codecs hop, (hm.2.perform codecs op).2⟩
  · intro m op hm hop hclear
    rw [(hm.1.perform codecs hop).clear_iff_allOpen]
    exact perform_allOpen_iff hm.1 hm.2 (hm.1.clear_iff_allOpen.mp hclear) codecs op
  · exact (wellFormed_new _ _).clear_iff_allOpen.mpr (allOpen_new _ _)

/-- A partial frame and a gap expire, and the next partial frame is cleared with its gap. -/
def expiryAndClear : List Operation :=
  [.ingestAt (halfFrame 1) 0, .ingestAt (wholeFrame 3) 0, .expireIncompleteOlderThan 10 5,
    .ingestAt (halfFrame 5) 11, .clearPending [⟨1, 5⟩], .ingestAt (wholeFrame 6) 12]

theorem boundaryClear_iff_expiryAndClear :
    HoldsThroughout BoundaryClear (fun m op => (m.perform noCodecs op).2) (new 8 1024)
        expiryAndClear ↔
      MeetsAll KeepsClear (fun m op => (m.perform noCodecs op).2) (new 8 1024)
        expiryAndClear :=
  boundaryClear_iff noCodecs 8 1024 expiryAndClear (by decide +kernel)

/-! ### A jump past the gap bound leaves the partial frame 1 behind the boundary -/

def jumpOverPartial : List Operation :=
  [.ingestAt (halfFrame 1) 0, .ingestAt (wholeFrame 19) 0]

theorem jumpOverPartial_stalls :
    ¬ HoldsThroughout BoundaryClear (fun m op => (m.perform noCodecs op).2) (new 8 1024)
      jumpOverPartial := by
  intro h
  have hold := h.last.oldest 1
  revert hold
  decide +kernel

end PicooCamera.Packet.ReassemblyMap
