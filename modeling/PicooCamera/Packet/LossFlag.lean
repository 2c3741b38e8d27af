import PicooCamera.Packet.Tracking

/-!
# The reference-loss flag is only written

No operation of the map reads `reference_loss_pending` but the one that takes
it. Two maps that agree up to the flag agree up to the flag after any
operation, so that "the call sets the flag" can be asked of the map whose flag
has been cleared first.
-/

namespace PicooCamera.Packet.ReassemblyMap

open PicooCamera.Library PicooCamera.Protocol

def setLoss (m : ReassemblyMap) (pending : Bool) : ReassemblyMap :=
  { m with referenceLossPending := pending }

/-- The maps agree but for the flag. -/
def AgreeUpToLoss (m m' : ReassemblyMap) : Prop := ∃ pending, m = m'.setLoss pending

/-- The outcomes agree: same result, and maps that agree but for the flag. -/
def OutcomeAgree {ρ : Type} (o o' : ρ × ReassemblyMap) : Prop :=
  o.1 = o'.1 ∧ AgreeUpToLoss o.2 o'.2

section Fields

variable (m : ReassemblyMap) (pending : Bool)

@[simp] theorem setLoss_epoch : (m.setLoss pending).currentEpoch = m.currentEpoch := rfl

@[simp] theorem setLoss_frames : (m.setLoss pending).frames = m.frames := rfl

@[simp] theorem setLoss_frameGaps : (m.setLoss pending).frameGaps = m.frameGaps := rfl

@[simp] theorem setLoss_highest :
    (m.setLoss pending).highestObservedFrameId = m.highestObservedFrameId := rfl

@[simp] theorem setLoss_expired :
    (m.setLoss pending).expiredThroughFrameId = m.expiredThroughFrameId := rfl

@[simp] theorem setLoss_rejected : (m.setLoss pending).rejectedFrames = m.rejectedFrames := rfl

@[simp] theorem setLoss_terminal : (m.setLoss pending).terminalFrames = m.terminalFrames := rfl

@[simp] theorem setLoss_maxFrames : (m.setLoss pending).maxFrames = m.maxFrames := rfl

@[simp] theorem setLoss_maxFragments :
    (m.setLoss pending).maxFragments = m.maxFragments := rfl

@[simp] theorem setLoss_cacheCapacity :
    (m.setLoss pending).cacheCapacity = m.cacheCapacity := rfl

@[simp] theorem setLoss_evictionVictim :
    (m.setLoss pending).evictionVictim = m.evictionVictim := rfl

@[simp] theorem setLoss_rejectedVictim :
    (m.setLoss pending).rejectedVictim = m.rejectedVictim := rfl

@[simp] theorem setLoss_expiredThrough (deadline : Instant) :
    (m.setLoss pending).expiredThrough deadline = m.expiredThrough deadline := rfl

end Fields

namespace AgreeUpToLoss

variable {m m' : ReassemblyMap}

theorem enterEpoch (h : AgreeUpToLoss m m') (streamEpoch : Nat) :
    AgreeUpToLoss (m.enterEpoch streamEpoch) (m'.enterEpoch streamEpoch) := by
  obtain ⟨pending, rfl⟩ := h
  unfold ReassemblyMap.enterEpoch
  rw [setLoss_epoch]
  split
  · exact ⟨false, rfl⟩
  · exact ⟨pending, rfl⟩

theorem observeFrameId (h : AgreeUpToLoss m m') (frameId : Nat) (now : Instant) :
    AgreeUpToLoss (m.observeFrameId frameId now) (m'.observeFrameId frameId now) := by
  obtain ⟨pending, rfl⟩ := h
  unfold ReassemblyMap.observeFrameId
  rw [setLoss_highest]
  cases hhighest : m'.highestObservedFrameId with
  | none => exact ⟨pending, rfl⟩
  | some highest =>
      dsimp only
      rw [setLoss_cacheCapacity]
      split
      · refine ⟨pending, ?_⟩
        simp only [setLoss, hhighest]
      · split
        · exact ⟨true, rfl⟩
        · exact ⟨pending, rfl⟩

theorem abandonFrame (h : AgreeUpToLoss m m') (key : FrameKey) (frame : PartialFrame) :
    AgreeUpToLoss (m.abandonFrame key frame) (m'.abandonFrame key frame) := by
  obtain ⟨pending, rfl⟩ := h
  exact ⟨pending || !frame.flags.discardable, rfl⟩

theorem makeRoom (h : AgreeUpToLoss m m') (key : FrameKey) :
    AgreeUpToLoss (m.makeRoom key) (m'.makeRoom key) := by
  have hagree := h
  obtain ⟨pending, rfl⟩ := h
  unfold ReassemblyMap.makeRoom dropOldest
  rw [setLoss_maxFrames, setLoss_frames, setLoss_evictionVictim]
  split
  · cases m'.evictionVictim with
    | none => exact hagree
    | some victim =>
        dsimp only
        cases hframe : m'.frames[victim]? with
        | none => exact ⟨pending, rfl⟩
        | some frame => exact hagree.abandonFrame victim frame
  · exact hagree

theorem rejectFrame (h : AgreeUpToLoss m m') (key : FrameKey) (flags : VideoPacketFlags) :
    AgreeUpToLoss (m.rejectFrame key flags) (m'.rejectFrame key flags) := by
  obtain ⟨pending, rfl⟩ := h
  unfold ReassemblyMap.rejectFrame dropOldestRejected
  rw [setLoss_rejectedVictim]
  cases m'.rejectedVictim with
  | none =>
      dsimp only
      rw [setLoss_rejected]
      split
      · exact ⟨pending, rfl⟩
      · exact ⟨pending || !flags.discardable, rfl⟩
  | some victim =>
      dsimp only
      rw [setLoss_rejected]
      split
      · exact ⟨pending, rfl⟩
      · exact ⟨pending || !flags.discardable, rfl⟩

theorem countRecovery (h : AgreeUpToLoss m m') (outcome : PartialFrame.RecoveryOutcome) :
    AgreeUpToLoss (m.countRecovery outcome) (m'.countRecovery outcome) := by
  obtain ⟨pending, rfl⟩ := h
  exact ⟨pending, rfl⟩

theorem finishFrame (h : AgreeUpToLoss m m') (key : FrameKey) (frame : PartialFrame) :
    OutcomeAgree (m.finishFrame key frame) (m'.finishFrame key frame) := by
  have hagree := h
  obtain ⟨pending, rfl⟩ := h
  unfold ReassemblyMap.finishFrame
  split
  · exact ⟨rfl, pending, rfl⟩
  · cases assemble frame with
    | none => exact ⟨rfl, hagree.abandonFrame key frame⟩
    | some data => exact ⟨rfl, pending, rfl⟩

theorem acceptPacket (h : AgreeUpToLoss m m') (codecs : Codecs) (packet : VideoPacket)
    (firstFragmentAt : Instant) :
    OutcomeAgree (m.acceptPacket codecs packet firstFragmentAt)
      (m'.acceptPacket codecs packet firstFragmentAt) := by
  have hagree := h
  obtain ⟨pending, rfl⟩ := h
  unfold ReassemblyMap.acceptPacket
  dsimp only [setLoss_frames]
  split
  · exact ⟨rfl, hagree.abandonFrame _ _⟩
  · split
    · exact ⟨rfl, hagree.abandonFrame _ _⟩
    · split
      · exact ⟨rfl, pending, rfl⟩
      · exact (hagree.countRecovery _).finishFrame _ _

theorem admitPacket (h : AgreeUpToLoss m m') (codecs : Codecs) (packet : VideoPacket)
    (firstFragmentAt : Instant) :
    OutcomeAgree (m.admitPacket codecs packet firstFragmentAt)
      (m'.admitPacket codecs packet firstFragmentAt) := by
  have hagree := h
  obtain ⟨pending, rfl⟩ := h
  unfold ReassemblyMap.admitPacket
  by_cases hcovered : atOrBelow m'.expiredThroughFrameId packet.frameId ∨
      keyOf packet ∈ m'.terminalFrames
  · have hcovered' : atOrBelow (m'.setLoss pending).expiredThroughFrameId packet.frameId ∨
        keyOf packet ∈ (m'.setLoss pending).terminalFrames := hcovered
    rw [if_pos hcovered, if_pos hcovered']
    exact ⟨rfl, hagree⟩
  · have hcovered' : ¬ (atOrBelow (m'.setLoss pending).expiredThroughFrameId packet.frameId ∨
        keyOf packet ∈ (m'.setLoss pending).terminalFrames) := hcovered
    rw [if_neg hcovered, if_neg hcovered']
    by_cases hrejected : keyOf packet ∈ m'.rejectedFrames
    · have hrejected' : keyOf packet ∈ (m'.setLoss pending).rejectedFrames := hrejected
      rw [if_pos hrejected, if_pos hrejected']
      exact ⟨rfl, hagree⟩
    · have hrejected' : keyOf packet ∉ (m'.setLoss pending).rejectedFrames := hrejected
      rw [if_neg hrejected, if_neg hrejected', setLoss_maxFragments]
      split
      · exact ⟨rfl, hagree.rejectFrame _ _⟩
      · cases parityError packet with
        | some error => exact ⟨rfl, hagree.makeRoom _⟩
        | none => exact (hagree.makeRoom _).acceptPacket codecs packet firstFragmentAt

theorem ingestAt (h : AgreeUpToLoss m m') (codecs : Codecs) (packet : VideoPacket)
    (now : Instant) :
    OutcomeAgree (m.ingestAt codecs packet now) (m'.ingestAt codecs packet now) := by
  have hentered := h.enterEpoch packet.streamEpoch
  have hgaps : (m.enterEpoch packet.streamEpoch).frameGaps =
      (m'.enterEpoch packet.streamEpoch).frameGaps := by
    obtain ⟨pending, heq⟩ := hentered
    rw [heq]
    rfl
  have hepoch : m.currentEpoch = m'.currentEpoch := by
    obtain ⟨pending, heq⟩ := h
    rw [heq]
    rfl
  unfold ReassemblyMap.ingestAt
  simp only [hepoch, hgaps]
  split
  · exact ⟨rfl, h⟩
  · exact (hentered.observeFrameId _ _).admitPacket codecs packet _

theorem discardStaleAccessUnit (h : AgreeUpToLoss m m') (streamEpoch frameId : Nat)
    (flags : VideoPacketFlags) :
    OutcomeAgree (m.discardStaleAccessUnit streamEpoch frameId flags)
      (m'.discardStaleAccessUnit streamEpoch frameId flags) := by
  have hentered := h.enterEpoch streamEpoch
  have hepoch : m.currentEpoch = m'.currentEpoch := by
    obtain ⟨pending, heq⟩ := h
    rw [heq]
    rfl
  unfold ReassemblyMap.discardStaleAccessUnit
  simp only [hepoch]
  obtain ⟨pending, heq⟩ := hentered
  split
  · exact ⟨rfl, h⟩
  · rw [heq]
    by_cases hcovered : atOrBelow (m'.enterEpoch streamEpoch).expiredThroughFrameId frameId ∨
        (⟨streamEpoch, frameId⟩ : FrameKey) ∈ (m'.enterEpoch streamEpoch).terminalFrames
    · have hcovered' :
          atOrBelow ((m'.enterEpoch streamEpoch).setLoss pending).expiredThroughFrameId frameId ∨
            (⟨streamEpoch, frameId⟩ : FrameKey) ∈
              ((m'.enterEpoch streamEpoch).setLoss pending).terminalFrames := hcovered
      rw [if_pos hcovered, if_pos hcovered']
      exact ⟨rfl, pending, rfl⟩
    · have hcovered' :
          ¬ (atOrBelow ((m'.enterEpoch streamEpoch).setLoss pending).expiredThroughFrameId
              frameId ∨
            (⟨streamEpoch, frameId⟩ : FrameKey) ∈
              ((m'.enterEpoch streamEpoch).setLoss pending).terminalFrames) := hcovered
      rw [if_neg hcovered, if_neg hcovered']
      exact ⟨rfl, _, rfl⟩

theorem foldl {α : Type} {f : ReassemblyMap → α → ReassemblyMap}
    (hstep : ∀ m m' a, AgreeUpToLoss m m' → AgreeUpToLoss (f m a) (f m' a))
    (h : AgreeUpToLoss m m') (as : List α) : AgreeUpToLoss (as.foldl f m) (as.foldl f m') := by
  induction as generalizing m m' with
  | nil => exact h
  | cons a as ih => exact ih (hstep m m' a h)

theorem expireFrame (h : AgreeUpToLoss m m') (key : FrameKey) :
    AgreeUpToLoss (m.expireFrame key) (m'.expireFrame key) := by
  obtain ⟨pending, rfl⟩ := h
  unfold ReassemblyMap.expireFrame
  rw [setLoss_frames]
  cases m'.frames[key]? with
  | none => exact ⟨pending, rfl⟩
  | some frame => exact ⟨pending || !frame.flags.discardable, rfl⟩

theorem expireGaps (h : AgreeUpToLoss m m') (through : Nat) :
    AgreeUpToLoss (m.expireGaps through) (m'.expireGaps through) := by
  obtain ⟨pending, rfl⟩ := h
  unfold ReassemblyMap.expireGaps
  rw [setLoss_frameGaps]
  dsimp only
  split
  · exact ⟨pending, rfl⟩
  · exact ⟨true, rfl⟩

theorem expireThrough (h : AgreeUpToLoss m m') (through : Nat) :
    AgreeUpToLoss (m.expireThrough through) (m'.expireThrough through) := by
  have hframes : m.frames = m'.frames := by
    obtain ⟨pending, rfl⟩ := h
    rfl
  have hfold := h.foldl (fun m m' key hm => hm.expireFrame key)
    (m'.frames.keys.filter fun key => key.frameId ≤ through)
  obtain ⟨pending, heq⟩ := hfold.expireGaps through
  unfold ReassemblyMap.expireThrough
  simp only [hframes, heq]
  exact ⟨pending, rfl⟩

theorem expireIncompleteOlderThan (h : AgreeUpToLoss m m') (now : Instant)
    (maxAge : Duration) :
    AgreeUpToLoss (m.expireIncompleteOlderThan now maxAge)
      (m'.expireIncompleteOlderThan now maxAge) := by
  have hthrough : ∀ deadline, m.expiredThrough deadline = m'.expiredThrough deadline := by
    obtain ⟨pending, rfl⟩ := h
    exact fun _ => rfl
  unfold ReassemblyMap.expireIncompleteOlderThan
  cases checkedSub now maxAge with
  | none => exact h
  | some deadline =>
      dsimp only
      rw [hthrough]
      cases m'.expiredThrough deadline with
      | none => exact h
      | some through => exact h.expireThrough through

theorem clearPendingIn (h : AgreeUpToLoss m m') (abandoned : List FrameKey) :
    AgreeUpToLoss (m.clearPendingIn abandoned) (m'.clearPendingIn abandoned) := by
  unfold ReassemblyMap.clearPendingIn
  refine foldl ?_ ?_ abandoned
  · rintro a b key ⟨pending, rfl⟩
    exact ⟨pending, rfl⟩
  · obtain ⟨pending, rfl⟩ := h
    exact ⟨pending, rfl⟩

end AgreeUpToLoss

/-- The operation takes no flag. -/
def Operation.Keeps : Operation → Prop
  | .takeKeyframeLoss => False
  | .takeReferenceChainLoss => False
  | _ => True

theorem perform_agree (codecs : Codecs) {m m' : ReassemblyMap} {op : Operation}
    (hkeeps : op.Keeps) (h : AgreeUpToLoss m m') :
    OutcomeAgree (m.perform codecs op) (m'.perform codecs op) := by
  cases op with
  | ingestAt packet now =>
      obtain ⟨hresult, hmap⟩ := h.ingestAt codecs packet now
      exact ⟨congrArg returned hresult, hmap⟩
  | expireIncompleteOlderThan now maxAge =>
      exact ⟨rfl, h.expireIncompleteOlderThan now maxAge⟩
  | discardStaleAccessUnit streamEpoch frameId flags =>
      exact ⟨rfl, (h.discardStaleAccessUnit streamEpoch frameId flags).2⟩
  | clearPending abandoned => exact ⟨rfl, h.clearPendingIn abandoned⟩
  | takeKeyframeLoss => exact absurd hkeeps id
  | takeReferenceChainLoss => exact absurd hkeeps id

end PicooCamera.Packet.ReassemblyMap
