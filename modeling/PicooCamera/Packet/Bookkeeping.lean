import PicooCamera.Packet.ReassemblyMap

/-!
# What each bookkeeping step of the reassembly map changes

One lemma for each field that a step changes, and case lemmas for the steps
that branch. Later modules use these and never unfold the steps.
-/

namespace PicooCamera.Packet.ReassemblyMap

open PicooCamera.Library PicooCamera.Protocol

/-! ## Steps that are one record update -/

section Updates

variable (m : ReassemblyMap) (key : FrameKey) (frame : PartialFrame)
  (flags : VideoPacketFlags) (outcome : PartialFrame.RecoveryOutcome)

@[simp] theorem rememberTerminal_frames : (m.rememberTerminal key).frames = m.frames := rfl

@[simp] theorem rememberTerminal_frameGaps :
    (m.rememberTerminal key).frameGaps = m.frameGaps := rfl

@[simp] theorem rememberTerminal_highest :
    (m.rememberTerminal key).highestObservedFrameId = m.highestObservedFrameId := rfl

@[simp] theorem rememberTerminal_expired :
    (m.rememberTerminal key).expiredThroughFrameId = m.expiredThroughFrameId := rfl

@[simp] theorem rememberTerminal_rejected :
    (m.rememberTerminal key).rejectedFrames = m.rejectedFrames := rfl

@[simp] theorem rememberTerminal_epoch :
    (m.rememberTerminal key).currentEpoch = m.currentEpoch := rfl

@[simp] theorem rememberTerminal_referenceLoss :
    (m.rememberTerminal key).referenceLossPending = m.referenceLossPending := rfl

@[simp] theorem abandonFrame_frames :
    (m.abandonFrame key frame).frames = m.frames.erase key := rfl

@[simp] theorem abandonFrame_frameGaps :
    (m.abandonFrame key frame).frameGaps = m.frameGaps := rfl

@[simp] theorem abandonFrame_highest :
    (m.abandonFrame key frame).highestObservedFrameId = m.highestObservedFrameId := rfl

@[simp] theorem abandonFrame_expired :
    (m.abandonFrame key frame).expiredThroughFrameId = m.expiredThroughFrameId := rfl

@[simp] theorem abandonFrame_rejected :
    (m.abandonFrame key frame).rejectedFrames = m.rejectedFrames := rfl

@[simp] theorem abandonFrame_epoch :
    (m.abandonFrame key frame).currentEpoch = m.currentEpoch := rfl

@[simp] theorem abandonFrame_terminal :
    (m.abandonFrame key frame).terminalFrames = m.terminalAfter key := rfl

@[simp] theorem abandonFrame_referenceLoss :
    (m.abandonFrame key frame).referenceLossPending =
      (m.referenceLossPending || !frame.flags.discardable) := rfl

end Updates

/-! ## The terminal cache -/

theorem mem_terminalAfter_self (m : ReassemblyMap) (key : FrameKey) :
    key ∈ m.terminalAfter key := by
  unfold terminalAfter
  cases m.terminalVictim with
  | none => simp
  | some oldest => simp

theorem mem_terminalAfter {m : ReassemblyMap} {key k : FrameKey}
    (h : k ∈ m.terminalAfter key) : k = key ∨ k ∈ m.terminalFrames := by
  unfold terminalAfter at h
  cases hv : m.terminalVictim with
  | none =>
      simpa only [hv, mem_set_insert] using h
  | some oldest =>
      simp only [hv, mem_set_insert, mem_set_erase] at h
      exact h.imp id And.right

/-! ## Eviction -/

theorem oldestOf_mem {keys : List FrameKey} {key : FrameKey} (h : oldestOf keys = some key) :
    key ∈ keys :=
  List.argmin_mem (Option.mem_def.mpr h)

theorem evictionVictim_mem {m : ReassemblyMap} {key : FrameKey}
    (h : m.evictionVictim = some key) : key ∈ m.frames := by
  unfold evictionVictim at h
  rcases Option.or_eq_some_iff.mp h with hold | ⟨_, hold⟩
  · have hmem := oldestOf_mem hold
    rw [Std.ExtTreeMap.mem_keys, Std.ExtTreeMap.mem_filter] at hmem
    exact hmem.1
  · have hmem := oldestOf_mem hold
    rwa [Std.ExtTreeMap.mem_keys] at hmem

theorem makeRoom_cases (m : ReassemblyMap) (key : FrameKey) :
    m.makeRoom key = m ∨
      ∃ victim frame, m.evictionVictim = some victim ∧ m.frames[victim]? = some frame ∧
        victim ≠ key ∧ key ∉ m.frames ∧ m.makeRoom key = m.abandonFrame victim frame := by
  unfold makeRoom
  by_cases hfull : m.maxFrames ≤ m.frames.size ∧ key ∉ m.frames
  · rw [if_pos hfull]
    unfold dropOldest
    cases hv : m.evictionVictim with
    | none => exact Or.inl rfl
    | some victim =>
        right
        have hmem : victim ∈ m.frames := evictionVictim_mem hv
        have hget : m.frames[victim]? = some (m.frames[victim]) :=
          Std.ExtTreeMap.getElem?_eq_some_getElem hmem
        refine ⟨victim, m.frames[victim], rfl, hget, ?_, hfull.2, ?_⟩
        · rintro rfl
          exact hfull.2 hmem
        · simp only [hget]
  · rw [if_neg hfull]
    exact Or.inl rfl

section MakeRoom

variable (m : ReassemblyMap) (key : FrameKey)

@[simp] theorem makeRoom_frameGaps : (m.makeRoom key).frameGaps = m.frameGaps := by
  rcases m.makeRoom_cases key with h | ⟨victim, frame, _, _, _, _, h⟩ <;> rw [h]
  rfl

@[simp] theorem makeRoom_highest :
    (m.makeRoom key).highestObservedFrameId = m.highestObservedFrameId := by
  rcases m.makeRoom_cases key with h | ⟨victim, frame, _, _, _, _, h⟩ <;> rw [h]
  rfl

@[simp] theorem makeRoom_expired :
    (m.makeRoom key).expiredThroughFrameId = m.expiredThroughFrameId := by
  rcases m.makeRoom_cases key with h | ⟨victim, frame, _, _, _, _, h⟩ <;> rw [h]
  rfl

@[simp] theorem makeRoom_rejected :
    (m.makeRoom key).rejectedFrames = m.rejectedFrames := by
  rcases m.makeRoom_cases key with h | ⟨victim, frame, _, _, _, _, h⟩ <;> rw [h]
  rfl

@[simp] theorem makeRoom_epoch : (m.makeRoom key).currentEpoch = m.currentEpoch := by
  rcases m.makeRoom_cases key with h | ⟨victim, frame, _, _, _, _, h⟩ <;> rw [h]
  rfl

@[simp] theorem makeRoom_getElem?_self : (m.makeRoom key).frames[key]? = m.frames[key]? := by
  rcases m.makeRoom_cases key with h | ⟨victim, frame, _, _, hne, _, h⟩ <;> rw [h]
  rw [abandonFrame_frames, Std.ExtTreeMap.getElem?_erase]
  simp [hne]

end MakeRoom

/-! ## Rejection -/

theorem rejectFrame_spec (m : ReassemblyMap) {key : FrameKey} (flags : VideoPacketFlags)
    (hnew : key ∉ m.rejectedFrames) :
    ∃ kept : Std.ExtTreeSet FrameKey, (∀ k, k ∈ kept → k ∈ m.rejectedFrames) ∧
      (∀ k, k ∈ m.rejectedFrames → k ∉ kept → m.rejectedVictim = some k) ∧
      m.rejectFrame key flags =
        { m.flagLoss flags with
          rejectedFrames := kept.insert key
          drops := saturatingAdd m.drops 1 } := by
  unfold rejectFrame dropOldestRejected
  cases hv : m.rejectedVictim with
  | none =>
      refine ⟨m.rejectedFrames, fun k hk => hk, fun k hk hnot => absurd hk hnot, ?_⟩
      simp only [if_neg hnew]
  | some victim =>
      have hnew' : key ∉ m.rejectedFrames.erase victim := fun hmem =>
        hnew (Std.ExtTreeSet.mem_of_mem_erase hmem)
      refine ⟨m.rejectedFrames.erase victim, fun k hk => Std.ExtTreeSet.mem_of_mem_erase hk,
        ?_, ?_⟩
      · intro k hk hnot
        by_cases hk' : victim = k
        · rw [hk']
        · exact absurd (mem_set_erase.mpr ⟨fun heq => hk' heq.symm, hk⟩) hnot
      · simp only [if_neg hnew']
        rfl

/-! ## Gaps -/

private theorem mem_foldl_insertIfNew {ids : List Nat} {gaps : Std.ExtTreeMap Nat Instant}
    {now : Instant} {id : Nat} :
    id ∈ ids.foldl (fun gaps missingId => gaps.insertIfNew missingId now) gaps ↔
      id ∈ gaps ∨ id ∈ ids := by
  induction ids generalizing gaps with
  | nil => simp
  | cons missing ids ih =>
      rw [List.foldl_cons, ih, Std.ExtTreeMap.mem_insertIfNew, Std.compare_eq_iff_eq,
        List.mem_cons]
      tauto

theorem mem_insertGaps {gaps : Std.ExtTreeMap Nat Instant} {firstMissing frameId id : Nat}
    {now : Instant} :
    id ∈ insertGaps gaps firstMissing frameId now ↔
      id ∈ gaps ∨ firstMissing ≤ id ∧ id < frameId := by
  rw [insertGaps, mem_foldl_insertIfNew, List.mem_range'_1]
  constructor
  · rintro (h | ⟨hle, hlt⟩)
    · exact Or.inl h
    · exact Or.inr ⟨hle, by omega⟩
  · rintro (h | ⟨hle, hlt⟩)
    · exact Or.inl h
    · exact Or.inr ⟨hle, by omega⟩

/-- The id is newer than every id observed so far. -/
def Advances (m : ReassemblyMap) (frameId : Nat) : Prop :=
  ¬ atOrBelow m.highestObservedFrameId frameId

instance (m : ReassemblyMap) (frameId : Nat) : Decidable (m.Advances frameId) :=
  inferInstanceAs (Decidable (¬ _))

/-- The ids skipped by an advance to `frameId` exceed the gap bound. -/
def GapOverflow (m : ReassemblyMap) (frameId : Nat) : Prop :=
  ∃ highest, m.highestObservedFrameId = some highest ∧ highest < frameId ∧
    m.cacheCapacity < frameId - (highest + 1)

instance (m : ReassemblyMap) (frameId : Nat) : Decidable (m.GapOverflow frameId) :=
  match h : m.highestObservedFrameId with
  | none => isFalse (by simp [GapOverflow, h])
  | some highest =>
      decidable_of_iff (highest < frameId ∧ m.cacheCapacity < frameId - (highest + 1))
        (by simp [GapOverflow, h])

section Observe

variable (m : ReassemblyMap) (frameId : Nat) (now : Instant)

@[simp] theorem observeFrameId_frames : (m.observeFrameId frameId now).frames = m.frames := by
  unfold observeFrameId
  cases m.highestObservedFrameId with
  | none => rfl
  | some highest =>
      dsimp only
      split
      · rfl
      · split <;> rfl

@[simp] theorem observeFrameId_terminal :
    (m.observeFrameId frameId now).terminalFrames = m.terminalFrames := by
  unfold observeFrameId
  cases m.highestObservedFrameId with
  | none => rfl
  | some highest =>
      dsimp only
      split
      · rfl
      · split <;> rfl

@[simp] theorem observeFrameId_rejected :
    (m.observeFrameId frameId now).rejectedFrames = m.rejectedFrames := by
  unfold observeFrameId
  cases m.highestObservedFrameId with
  | none => rfl
  | some highest =>
      dsimp only
      split
      · rfl
      · split <;> rfl

@[simp] theorem observeFrameId_epoch :
    (m.observeFrameId frameId now).currentEpoch = m.currentEpoch := by
  unfold observeFrameId
  cases m.highestObservedFrameId with
  | none => rfl
  | some highest =>
      dsimp only
      split
      · rfl
      · split <;> rfl

@[simp] theorem observeFrameId_maxFragments :
    (m.observeFrameId frameId now).maxFragments = m.maxFragments := by
  unfold observeFrameId
  cases m.highestObservedFrameId with
  | none => rfl
  | some highest =>
      dsimp only
      split
      · rfl
      · split <;> rfl

@[simp] theorem observeFrameId_maxFrames :
    (m.observeFrameId frameId now).maxFrames = m.maxFrames := by
  unfold observeFrameId
  cases m.highestObservedFrameId with
  | none => rfl
  | some highest =>
      dsimp only
      split
      · rfl
      · split <;> rfl

@[simp] theorem observeFrameId_highest {id : Nat} :
    atOrBelow (m.observeFrameId frameId now).highestObservedFrameId id ↔
      atOrBelow m.highestObservedFrameId id ∨ id ≤ frameId := by
  unfold observeFrameId
  cases hh : m.highestObservedFrameId with
  | none => simp
  | some highest =>
      dsimp only
      by_cases hle : frameId ≤ highest
      · simp only [if_pos hle, atOrBelow_some]
        omega
      · simp only [if_neg hle, atOrBelow_some]
        split <;> simp only [atOrBelow_some] <;> omega

theorem observeFrameId_overflow (h : m.GapOverflow frameId) :
    (m.observeFrameId frameId now).frameGaps = ∅ ∧
      (m.observeFrameId frameId now).expiredThroughFrameId =
        some (raiseBound m.expiredThroughFrameId (frameId - 1)) ∧
      (m.observeFrameId frameId now).referenceLossPending = true := by
  obtain ⟨highest, hhighest, hlt, hover⟩ := h
  unfold observeFrameId
  simp only [hhighest, if_neg (Nat.not_le.mpr hlt), if_pos hover, and_self]

theorem observeFrameId_expired (h : ¬ m.GapOverflow frameId) :
    (m.observeFrameId frameId now).expiredThroughFrameId = m.expiredThroughFrameId := by
  unfold observeFrameId
  cases hh : m.highestObservedFrameId with
  | none => rfl
  | some highest =>
      dsimp only
      split
      · rfl
      · rename_i hlt
        have hfit : ¬ m.cacheCapacity < frameId - (highest + 1) := fun hover =>
          h ⟨highest, hh, Nat.not_le.mp hlt, hover⟩
        rw [if_neg hfit]

theorem observeFrameId_referenceLoss (h : ¬ m.GapOverflow frameId) :
    (m.observeFrameId frameId now).referenceLossPending = m.referenceLossPending := by
  unfold observeFrameId
  cases hh : m.highestObservedFrameId with
  | none => rfl
  | some highest =>
      dsimp only
      split
      · rfl
      · rename_i hlt
        have hfit : ¬ m.cacheCapacity < frameId - (highest + 1) := fun hover =>
          h ⟨highest, hh, Nat.not_le.mp hlt, hover⟩
        rw [if_neg hfit]

theorem mem_observeFrameId_frameGaps (h : ¬ m.GapOverflow frameId) {id : Nat} :
    id ∈ (m.observeFrameId frameId now).frameGaps ↔
      id ≠ frameId ∧ id ∈ m.frameGaps ∨
        ∃ highest, m.highestObservedFrameId = some highest ∧ highest < id ∧ id < frameId := by
  unfold observeFrameId
  cases hh : m.highestObservedFrameId with
  | none => simp only [mem_map_erase, reduceCtorEq, false_and, exists_false, or_false]
  | some highest =>
      dsimp only
      split
      · rename_i hle
        simp only [mem_map_erase, Option.some.injEq, exists_eq_left']
        constructor
        · exact Or.inl
        · rintro (hgap | hskip)
          · exact hgap
          · omega
      · rename_i hlt
        have hfit : ¬ m.cacheCapacity < frameId - (highest + 1) := fun hover =>
          h ⟨highest, hh, Nat.not_le.mp hlt, hover⟩
        simp only [if_neg hfit, mem_insertGaps, mem_map_erase, Option.some.injEq,
          exists_eq_left', Nat.succ_le_iff]

end Observe

end PicooCamera.Packet.ReassemblyMap
