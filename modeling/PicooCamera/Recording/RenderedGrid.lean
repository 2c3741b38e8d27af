import PicooCamera.Recording.RenderedTimeline

/-!
# The grid of a timeline

Between two decisions to encode lie the slots that no frame reached. The
timeline counts them while its anchor stays. An anchor that moves counts none.
-/

namespace PicooCamera.Recording

open PicooCamera.FrameHub PicooCamera.Packet

/-! ## Slots -/

/-- The microseconds from the anchor to the beginning of slot `k`. -/
def slotTime (fps k : Nat) : Nat := k * 1000000 / fps

/-- The slot that is reached `elapsedUs` after the anchor. -/
def slotAt (fps elapsedUs : Nat) : Nat := ((elapsedUs + 1) * fps - 1) / 1000000

def supportedFps (fps : Nat) : Prop := fps = 30 ∨ fps = 60

theorem supportedFps.pos {fps : Nat} (h : supportedFps fps) : 0 < fps := by
  unfold supportedFps at h
  omega

theorem slotTime_le_iff {fps k elapsedUs : Nat} (h : supportedFps fps) :
    slotTime fps k ≤ elapsedUs ↔ k ≤ slotAt fps elapsedUs := by
  have hpos := h.pos
  unfold slotTime slotAt
  have hexclusive : 0 < (elapsedUs + 1) * fps := Nat.mul_pos (Nat.succ_pos _) hpos
  calc k * 1000000 / fps ≤ elapsedUs ↔ k * 1000000 / fps < elapsedUs + 1 := Nat.lt_succ_iff.symm
    _ ↔ k * 1000000 < (elapsedUs + 1) * fps := Nat.div_lt_iff_lt_mul hpos
    _ ↔ k * 1000000 ≤ (elapsedUs + 1) * fps - 1 := by omega
    _ ↔ k ≤ ((elapsedUs + 1) * fps - 1) / 1000000 := (Nat.le_div_iff_mul_le (by omega)).symm

theorem slotTime_lt_iff {fps k elapsedUs : Nat} (h : supportedFps fps) :
    elapsedUs < slotTime fps k ↔ slotAt fps elapsedUs < k := by
  rw [← Nat.not_le, slotTime_le_iff h, Nat.not_le]

theorem slotTime_lt_succ {fps : Nat} (h : supportedFps fps) (k : Nat) :
    slotTime fps k < slotTime fps (k + 1) := by
  have hpos := h.pos
  unfold slotTime
  have hadd : (k * 1000000 + fps) / fps = k * 1000000 / fps + 1 := Nat.add_div_right _ hpos
  have hle : (k * 1000000 + fps) / fps ≤ (k + 1) * 1000000 / fps := by
    apply Nat.div_le_div_right
    unfold supportedFps at h
    omega
  omega

theorem slotTime_mono {fps k l : Nat} (h : k ≤ l) : slotTime fps k ≤ slotTime fps l := by
  unfold slotTime
  apply Nat.div_le_div_right
  omega

theorem slotAt_zero {fps : Nat} (h : supportedFps fps) : slotAt fps 0 = 0 := by
  unfold slotAt supportedFps at *
  omega

theorem reachedSlot_ok {elapsedUs fps reached : Nat}
    (h : reachedSlot elapsedUs fps = .ok reached) : reached = slotAt fps elapsedUs := by
  unfold reachedSlot at h
  dsimp only at h
  split at h
  · exact (Except.ok.inj h).symm
  · exact nomatch h

/-! ## Decisions to encode -/

/-- A sample and the anchor from which its slot is counted. -/
structure EncodeDecision where
  sample : RenderedSample
  anchorUs : Nat
  deriving DecidableEq, Repr

namespace EncodeDecision

def elapsedUs (d : EncodeDecision) : Nat := d.sample.sourcePtsUs - d.anchorUs

def slot (fps : Nat) (d : EncodeDecision) : Nat := slotAt fps d.elapsedUs

/-- The slot that a later decision takes on the grid of an earlier one. -/
def slotOf (fps : Nat) (d later : EncodeDecision) : Nat :=
  slotAt fps (later.sample.sourcePtsUs - d.anchorUs)

def sameStream (d later : EncodeDecision) : Prop :=
  later.sample.source.connectionGeneration = d.sample.source.connectionGeneration ∧
    later.sample.source.streamEpoch = d.sample.source.streamEpoch

/-- Slot `k` of the earlier grid lies between the source times. -/
def Between (fps : Nat) (d later : EncodeDecision) (k : Nat) : Prop :=
  d.sample.sourcePtsUs < d.anchorUs + slotTime fps k ∧
    d.anchorUs + slotTime fps k < later.sample.sourcePtsUs

/-- The slots in between are taken or counted. -/
def Accounted (fps : Nat) (d later : EncodeDecision) : Prop :=
  d.sameStream later → ∀ k, Between fps d later k →
    k = d.slot fps ∨ k = d.slotOf fps later ∨
      d.slotOf fps later - later.sample.missedSlots ≤ k ∧ k < d.slotOf fps later

/-- Every slot in between is taken. -/
def NoHole (fps : Nat) (d later : EncodeDecision) : Prop :=
  d.sameStream later → ∀ k, Between fps d later k →
    k = d.slot fps ∨ k = d.slotOf fps later

theorem Accounted.noHole {fps : Nat} {d later : EncodeDecision} (h : Accounted fps d later)
    (hmissed : later.sample.missedSlots = 0) : NoHole fps d later := by
  intro hsame k hbetween
  obtain htaken | htaken | ⟨hle, hlt⟩ := h hsame k hbetween
  · exact .inl htaken
  · exact .inr htaken
  · omega

theorem accounted_of_counted {fps : Nat} (hfps : supportedFps fps) {d later : EncodeDecision}
    (hanchor : d.anchorUs ≤ d.sample.sourcePtsUs)
    (hcounted : d.slotOf fps later - later.sample.missedSlots ≤ d.slot fps + 1) :
    Accounted fps d later := by
  intro _ k hbetween
  obtain ⟨hafter, hbefore⟩ := hbetween
  have hbegins : d.slot fps < k := by
    apply (slotTime_lt_iff hfps).mp
    unfold elapsedUs
    omega
  have hreached : k ≤ d.slotOf fps later := by
    apply (slotTime_le_iff hfps).mp
    omega
  omega

theorem accounted_iff_of_moved {fps : Nat} (hfps : supportedFps fps) {d later : EncodeDecision}
    (hanchor : d.anchorUs ≤ d.sample.sourcePtsUs) (hsame : d.sameStream later)
    (hmissed : later.sample.missedSlots = 0) :
    Accounted fps d later ↔ d.slotOf fps later ≤ d.slot fps + 1 := by
  constructor
  · intro haccounted
    by_contra hmore
    have hlater : slotTime fps (d.slotOf fps later) ≤ later.sample.sourcePtsUs - d.anchorUs :=
      (slotTime_le_iff hfps).mpr (Nat.le_refl _)
    have hnext : d.elapsedUs < slotTime fps (d.slot fps + 1) :=
      (slotTime_lt_iff hfps).mpr (Nat.lt_succ_self _)
    have hstrict := slotTime_lt_succ hfps (d.slot fps + 1)
    have hmono : slotTime fps (d.slot fps + 1 + 1) ≤ slotTime fps (d.slotOf fps later) :=
      slotTime_mono (by omega)
    have hbetween : Between fps d later (d.slot fps + 1) := by
      unfold Between
      unfold elapsedUs at hnext
      omega
    obtain htaken | htaken | hcounted := haccounted hsame _ hbetween <;> omega
  · intro hnext
    exact accounted_of_counted hfps hanchor (by omega)

end EncodeDecision

/-! ## What `offer` does -/

namespace RenderedTimeline

open EncodeDecision

variable {t next : RenderedTimeline} {source : FrameIdentity} {configRevision pts : Nat}
  {decision : RenderedSampleDecision} {fps : Nat}

/-- The order that is checked of a frame of the stream that the timeline is in. -/
structure InOrder (t : RenderedTimeline) (current generation : SourceGeneration)
    (source : FrameIdentity) (sourcePtsUs : Nat) : Prop where
  decoder : current.decoder ≤ generation.decoder
  configRevision : current.configRevision ≤ generation.configRevision
  frameId : ∀ previous ∈ t.lastSource, previous.frameId < source.frameId
  pts : t.lastSourcePtsUs < sourcePtsUs

theorem checkOrder_ok_iff {current generation : SourceGeneration} :
    t.checkOrder current generation source pts = .ok () ↔
      InOrder t current generation source pts := by
  unfold checkOrder
  constructor
  · intro h
    split at h
    · exact nomatch h
    · rename_i hgeneration
      split at h
      · exact nomatch h
      · rename_i hid
        split at h
        · exact nomatch h
        · rename_i hpts
          refine ⟨by omega, by omega, ?_, by omega⟩
          intro previous hprevious
          exact Nat.lt_of_not_le fun hle => hid ⟨previous, hprevious, hle⟩
  · intro h
    have hdecoder := h.decoder
    have hrevision := h.configRevision
    have hpts := h.pts
    rw [if_neg (by omega), if_neg, if_neg (by omega)]
    rintro ⟨previous, hprevious, hle⟩
    have := h.frameId previous hprevious
    omega

/-- The frame changes the decoder or the configuration within its stream, and is accepted. -/
structure ChangesWithin (t : RenderedTimeline) (current generation : SourceGeneration)
    (source : FrameIdentity) (sourcePtsUs : Nat) : Prop where
  sameStream : RenderedTimeline.sameStream generation current
  changed : generation ≠ current
  inOrder : InOrder t current generation source sourcePtsUs
  room : t.segmentGeneration < u64Max

def anchorSample (t : RenderedTimeline) (source : FrameIdentity) (pts : Nat) : RenderedSample where
  source := source
  sourcePtsUs := pts
  segmentPtsUs := 0
  missedSlots := 0
  segmentGeneration := t.segmentGeneration + 1
  forceIdr := true

def anchored (t : RenderedTimeline) (source : FrameIdentity) (configRevision pts : Nat) :
    RenderedTimeline :=
  { t with
    segmentGeneration := t.segmentGeneration + 1
    generation := some (.new source configRevision)
    anchorSourcePtsUs := pts
    segmentStartSlot := 0
    nextSlot := 1
    lastSource := some source
    lastSourcePtsUs := pts }

theorem anchor_eq_of_room (h : t.segmentGeneration < u64Max) :
    t.anchor source configRevision pts =
      .ok (.encode (anchorSample t source pts), anchored t source configRevision pts) := by
  unfold anchor checkedAdd
  rw [if_pos (Nat.succ_le_of_lt h)]
  rfl

theorem anchor_ok (h : t.anchor source configRevision pts = .ok (decision, next)) :
    t.segmentGeneration < u64Max ∧ decision = .encode (anchorSample t source pts) ∧
      next = anchored t source configRevision pts := by
  have hroom : t.segmentGeneration < u64Max := by
    unfold anchor checkedAdd at h
    split at h
    · assumption
    · exact nomatch h
  rw [anchor_eq_of_room hroom] at h
  obtain ⟨hdecision, hnext⟩ := Prod.mk.inj (Except.ok.inj h)
  exact ⟨hroom, hdecision.symm, hnext.symm⟩

/-- How a frame of the same generation moves the timeline. -/
inductive Sampled (t : RenderedTimeline) (source : FrameIdentity) (pts : Nat) :
    RenderedSampleDecision → RenderedTimeline → Prop
  | skipped : Sampled t source pts .skip { t with lastSource := some source, lastSourcePtsUs := pts }
  | encoded (sample : RenderedSample) (segmentGeneration segmentStartSlot : Nat)
      (hanchor : t.anchorSourcePtsUs ≤ pts)
      (hnew : t.nextSlot ≤ slotAt t.fps (pts - t.anchorSourcePtsUs))
      (hsource : sample.source = source) (hpts : sample.sourcePtsUs = pts)
      (hmissed : sample.missedSlots = slotAt t.fps (pts - t.anchorSourcePtsUs) - t.nextSlot) :
      Sampled t source pts (.encode sample)
        { t with
          segmentGeneration := segmentGeneration
          segmentStartSlot := segmentStartSlot
          nextSlot := slotAt t.fps (pts - t.anchorSourcePtsUs) + 1
          lastSource := some source
          lastSourcePtsUs := pts }

theorem checkedSub_ok {a b c : Nat} {error : RenderedTimelineError}
    (h : checkedSub a b error = .ok c) : b ≤ a ∧ c = a - b := by
  unfold checkedSub at h
  split at h
  · exact ⟨by assumption, (Except.ok.inj h).symm⟩
  · exact nomatch h

theorem checkedAdd_ok {a b c : Nat} {error : RenderedTimelineError}
    (h : checkedAdd a b error = .ok c) : c = a + b := by
  unfold checkedAdd at h
  split at h
  · exact (Except.ok.inj h).symm
  · exact nomatch h

theorem of_bind_ok {α β : Type} {x : Except RenderedTimelineError α}
    {f : α → Except RenderedTimelineError β} {b : β} (h : x >>= f = .ok b) :
    ∃ a, x = .ok a ∧ f a = .ok b := by
  cases x with
  | error e => exact nomatch h
  | ok a => exact ⟨a, rfl, h⟩

theorem slotPtsUs_ok {slot fps pts : Nat} (h : slotPtsUs slot fps = .ok pts) :
    pts = slotTime fps slot := by
  unfold slotPtsUs at h
  dsimp only at h
  split at h
  · exact (Except.ok.inj h).symm
  · cases h

/-- The slot that a frame of the same generation has reached. -/
def reached (t : RenderedTimeline) (pts : Nat) : Nat := slotAt t.fps (pts - t.anchorSourcePtsUs)

/-- Ten seconds of slots have passed since the segment began. -/
def AtBoundary (t : RenderedTimeline) (pts : Nat) : Prop :=
  t.fps * segmentDurationSeconds ≤ t.reached pts - t.segmentStartSlot

def continuedSample (t : RenderedTimeline) (source : FrameIdentity) (pts : Nat) :
    RenderedSample where
  source := source
  sourcePtsUs := pts
  segmentPtsUs := slotTime t.fps (t.reached pts) - slotTime t.fps t.segmentStartSlot
  missedSlots := 0
  segmentGeneration := t.segmentGeneration
  forceIdr := false

def restartedSample (t : RenderedTimeline) (source : FrameIdentity) (pts : Nat) :
    RenderedSample where
  source := source
  sourcePtsUs := pts
  segmentPtsUs := 0
  missedSlots := t.reached pts - t.nextSlot
  segmentGeneration := t.segmentGeneration + 1
  forceIdr := true

/-- What a frame of the same generation becomes: nothing, the next sample of the segment or
the first one of a new segment. -/
inductive Taken (t : RenderedTimeline) (source : FrameIdentity) (pts : Nat) :
    RenderedSampleDecision → RenderedTimeline → Prop
  | skipped (hanchor : t.anchorSourcePtsUs ≤ pts) (hold : t.reached pts < t.nextSlot) :
      Taken t source pts .skip { t with lastSource := some source, lastSourcePtsUs := pts }
  | continued (hanchor : t.anchorSourcePtsUs ≤ pts) (hnext : t.reached pts = t.nextSlot)
      (hwithin : ¬t.AtBoundary pts) :
      Taken t source pts (.encode (continuedSample t source pts)) { t with
        nextSlot := t.reached pts + 1
        lastSource := some source
        lastSourcePtsUs := pts }
  | restarted (hanchor : t.anchorSourcePtsUs ≤ pts) (hnew : t.nextSlot ≤ t.reached pts)
      (hcause : t.reached pts ≠ t.nextSlot ∨ t.AtBoundary pts) :
      Taken t source pts (.encode (restartedSample t source pts)) { t with
        segmentGeneration := t.segmentGeneration + 1
        segmentStartSlot := t.reached pts
        nextSlot := t.reached pts + 1
        lastSource := some source
        lastSourcePtsUs := pts }

theorem taken_of_ok (h : t.sample source pts = .ok (decision, next)) :
    Taken t source pts decision next := by
  unfold sample at h
  obtain ⟨elapsed, helapsed, h⟩ := of_bind_ok h
  obtain ⟨slot, hslot, h⟩ := of_bind_ok h
  obtain ⟨hanchor, rfl⟩ := checkedSub_ok helapsed
  obtain rfl : slot = t.reached pts := reachedSlot_ok hslot
  split at h
  · rename_i hold
    obtain ⟨rfl, rfl⟩ := Prod.mk.inj (Except.ok.inj h)
    exact .skipped hanchor hold
  · rename_i hnew
    obtain ⟨segmentGeneration, hgeneration, h⟩ := of_bind_ok h
    obtain ⟨reachedPts, hreachedPts, h⟩ := of_bind_ok h
    obtain ⟨startPts, hstartPts, h⟩ := of_bind_ok h
    obtain ⟨segmentPtsUs, hsegmentPts, h⟩ := of_bind_ok h
    obtain ⟨nextSlot, hnext, h⟩ := of_bind_ok h
    obtain rfl := checkedAdd_ok hnext
    obtain ⟨rfl, rfl⟩ := Prod.mk.inj (Except.ok.inj h)
    obtain ⟨-, rfl⟩ := checkedSub_ok hsegmentPts
    obtain rfl := slotPtsUs_ok hreachedPts
    obtain rfl := slotPtsUs_ok hstartPts
    by_cases hforce : t.reached pts - t.nextSlot ≠ 0 ∨
        t.fps * segmentDurationSeconds ≤ t.reached pts - t.segmentStartSlot
    · unfold segmentGenerationOf at hgeneration
      simp only [hforce, decide_true, if_true, decide_eq_true_eq] at hgeneration ⊢
      obtain rfl := checkedAdd_ok hgeneration
      rw [Nat.sub_self]
      refine .restarted hanchor (by omega) (hforce.imp_left fun hmissed heq => hmissed ?_)
      rw [heq, Nat.sub_self]
    · unfold segmentGenerationOf at hgeneration
      simp only [hforce, decide_false, if_false, decide_eq_true_eq, Bool.false_eq_true]
        at hgeneration ⊢
      obtain rfl := Except.ok.inj hgeneration
      have hreached : t.reached pts = t.nextSlot := by omega
      rw [hreached, Nat.sub_self, ← hreached]
      exact .continued hanchor hreached fun hboundary => hforce (.inr hboundary)

theorem sample_ok (h : t.sample source pts = .ok (decision, next)) :
    Sampled t source pts decision next := by
  cases taken_of_ok h with
  | skipped hanchor hold => exact .skipped
  | continued hanchor hnext hwithin =>
      refine .encoded _ t.segmentGeneration t.segmentStartSlot hanchor (Nat.le_of_eq hnext.symm)
        rfl rfl ?_
      change 0 = t.reached pts - t.nextSlot
      omega
  | restarted hanchor hnew hcause => exact .encoded _ _ _ hanchor hnew rfl rfl rfl

/-- How an accepted frame moves the timeline. -/
inductive Offered (t : RenderedTimeline) (source : FrameIdentity) (configRevision pts : Nat) :
    RenderedSampleDecision → RenderedTimeline → Prop
  | first (hgeneration : t.generation = none) :
      Offered t source configRevision pts (.encode (anchorSample t source pts))
        (anchored t source configRevision pts)
  | otherStream (current : SourceGeneration) (hgeneration : t.generation = some current)
      (hother : ¬sameStream (.new source configRevision) current) :
      Offered t source configRevision pts (.encode (anchorSample t source pts))
        (anchored t source configRevision pts)
  | changed (current : SourceGeneration) (hgeneration : t.generation = some current)
      (hchanges : ChangesWithin t current (.new source configRevision) source pts) :
      Offered t source configRevision pts (.encode (anchorSample t source pts))
        (anchored t source configRevision pts)
  | sampled (decision : RenderedSampleDecision) (next : RenderedTimeline)
      (hgeneration : t.generation = some (.new source configRevision))
      (hpts : t.lastSourcePtsUs < pts) (hsampled : Sampled t source pts decision next) :
      Offered t source configRevision pts decision next

theorem offer_ok (h : t.offer source configRevision pts = .ok (decision, next)) :
    Offered t source configRevision pts decision next := by
  unfold offer at h
  dsimp only at h
  cases hgeneration : t.generation with
  | none =>
      rw [hgeneration] at h
      obtain ⟨-, rfl, rfl⟩ := anchor_ok h
      exact .first hgeneration
  | some current =>
      rw [hgeneration] at h
      obtain ⟨_, hchecked, hrest⟩ := of_bind_ok h
      unfold checkStream at hchecked
      split at hchecked
      · exact nomatch hchecked
      split at hrest
      · rename_i hchanged
        obtain ⟨hroom, rfl, rfl⟩ := anchor_ok hrest
        by_cases hsame : sameStream (.new source configRevision) current
        · rw [if_pos hsame] at hchecked
          exact .changed current hgeneration ⟨hsame, hchanged, checkOrder_ok_iff.mp hchecked, hroom⟩
        · exact .otherStream current hgeneration hsame
      · rename_i hkept
        obtain rfl := not_not.mp hkept
        rw [if_pos ⟨rfl, rfl⟩] at hchecked
        exact .sampled decision next hgeneration (checkOrder_ok_iff.mp hchecked).pts
          (sample_ok hrest)

theorem offer_changed {current : SourceGeneration} (hgeneration : t.generation = some current)
    (h : ChangesWithin t current (.new source configRevision) source pts) :
    t.offer source configRevision pts =
      .ok (.encode (anchorSample t source pts), anchored t source configRevision pts) := by
  have hchecked : t.checkStream current (.new source configRevision) source pts = .ok () := by
    unfold checkStream
    rw [if_neg, if_pos h.sameStream]
    · exact checkOrder_ok_iff.mpr h.inOrder
    · have hconnection := h.sameStream.1
      have hepoch := h.sameStream.2
      unfold streamBefore
      omega
  unfold offer
  rw [hgeneration]
  dsimp only
  rw [hchecked]
  change (if SourceGeneration.new source configRevision ≠ current then _ else _) = _
  rw [if_pos h.changed, anchor_eq_of_room h.room]

/-! ## The decisions of a run -/

def encodeOf (next : RenderedTimeline) : RenderedSampleDecision → List EncodeDecision
  | .skip => []
  | .encode sample => [⟨sample, next.anchorSourcePtsUs⟩]

/-- The decision to encode that a frame leads to. -/
def encodeDecision (t : RenderedTimeline) (frame : NativeVideoFrame) : List EncodeDecision :=
  match t.offer frame.identity frame.configRevision frame.sourcePtsUs with
  | .ok (decision, next) => encodeOf next decision
  | .error _ => []

/-- The timeline goes on from its last decision. -/
structure Follows (t : RenderedTimeline) (d : EncodeDecision) : Prop where
  stream : ∃ current, t.generation = some current ∧
    current.connection = d.sample.source.connectionGeneration ∧
      current.streamEpoch = d.sample.source.streamEpoch
  anchor : t.anchorSourcePtsUs = d.anchorUs
  anchored : d.anchorUs ≤ d.sample.sourcePtsUs
  next : t.nextSlot = d.slot t.fps + 1
  last : d.sample.sourcePtsUs ≤ t.lastSourcePtsUs

structure OnGrid (t : RenderedTimeline) (decisions : List EncodeDecision) : Prop where
  fps : supportedFps t.fps
  fresh : decisions = [] → t.generation = none
  follows : ∀ d ∈ decisions.getLast?, Follows t d

theorem new_ok (h : RenderedTimeline.new fps = .ok t) :
    supportedFps t.fps ∧ t.generation = none := by
  unfold RenderedTimeline.new at h
  split at h
  · rename_i hmem
    obtain rfl := Except.ok.inj h
    refine ⟨?_, rfl⟩
    simpa [supportedFps] using hmem
  · exact nomatch h

theorem onGrid_anchored (h : supportedFps t.fps) (decisions : List EncodeDecision) :
    OnGrid (anchored t source configRevision pts)
      (decisions ++ [⟨anchorSample t source pts, pts⟩]) := by
  refine ⟨h, ?_, ?_⟩
  · intro hnil
    exact absurd hnil (by simp)
  · intro d hd
    rw [List.getLast?_concat] at hd
    obtain rfl := Option.some.inj hd
    refine ⟨⟨_, rfl, rfl, rfl⟩, rfl, Nat.le_refl _, ?_, Nat.le_refl _⟩
    change 1 = slotAt t.fps (pts - pts) + 1
    rw [Nat.sub_self, slotAt_zero h]

theorem encodeDecision_ok {frame : NativeVideoFrame}
    (h : t.offer frame.identity frame.configRevision frame.sourcePtsUs = .ok (decision, next)) :
    encodeDecision t frame = encodeOf next decision := by
  unfold encodeDecision
  rw [h]

theorem encodeDecision_error {frame : NativeVideoFrame} {error : RenderedTimelineError}
    (h : t.offer frame.identity frame.configRevision frame.sourcePtsUs = .error error) :
    encodeDecision t frame = [] := by
  unfold encodeDecision
  rw [h]

theorem onGrid_offer {frame : NativeVideoFrame} {decisions : List EncodeDecision}
    (h : OnGrid t decisions)
    (hoffer : t.offer frame.identity frame.configRevision frame.sourcePtsUs =
      .ok (decision, next)) :
    next.fps = t.fps ∧ OnGrid next (decisions ++ encodeDecision t frame) := by
  rw [encodeDecision_ok hoffer]
  cases offer_ok hoffer with
  | first hgeneration => exact ⟨rfl, onGrid_anchored h.fps decisions⟩
  | otherStream current hgeneration hother => exact ⟨rfl, onGrid_anchored h.fps decisions⟩
  | changed current hgeneration hchanges => exact ⟨rfl, onGrid_anchored h.fps decisions⟩
  | sampled _ _ hgeneration hpts hsampled =>
      cases hsampled with
      | skipped =>
          dsimp only [encodeOf]
          refine ⟨rfl, h.fps, ?_, ?_⟩
          · intro hnil
            rw [List.append_nil] at hnil
            exact h.fresh hnil
          · intro d hd
            rw [List.append_nil] at hd
            have hfollows := h.follows d hd
            exact ⟨hfollows.stream, hfollows.anchor, hfollows.anchored, hfollows.next,
              Nat.le_trans hfollows.last (Nat.le_of_lt hpts)⟩
      | encoded sample segmentGeneration segmentStartSlot hanchor hnew hsource hspts hmissed =>
          dsimp only [encodeOf]
          refine ⟨rfl, h.fps, ?_, ?_⟩
          · intro hnil
            exact absurd hnil (by simp)
          · intro d hd
            rw [List.getLast?_concat] at hd
            obtain rfl := Option.some.inj hd
            refine ⟨⟨_, hgeneration, ?_, ?_⟩, rfl, ?_, ?_, ?_⟩
            · rw [hsource]
              rfl
            · rw [hsource]
              rfl
            · rw [hspts]
              exact hanchor
            · unfold EncodeDecision.slot EncodeDecision.elapsedUs
              rw [hspts]
            · rw [hspts]

/-- A frame that changes the decoder or the configuration within its stream comes by the next
slot of the grid. -/
def KeepsSlots (t : RenderedTimeline) (frame : NativeVideoFrame) : Prop :=
  ∀ current ∈ t.generation, ChangesWithin t current
      (.new frame.identity frame.configRevision) frame.identity frame.sourcePtsUs →
    slotAt t.fps (frame.sourcePtsUs - t.anchorSourcePtsUs) ≤ t.nextSlot

theorem isChain_concat {α : Type} {R : α → α → Prop} {l : List α} {b : α} :
    (l ++ [b]).IsChain R ↔ l.IsChain R ∧ ∀ a ∈ l.getLast?, R a b := by
  rw [List.isChain_append]
  simp

theorem accounted_iff_keepsSlots {frame : NativeVideoFrame} {decisions : List EncodeDecision}
    (h : OnGrid t decisions) (hchain : decisions.IsChain (Accounted t.fps)) :
    (decisions ++ encodeDecision t frame).IsChain (Accounted t.fps) ↔ KeepsSlots t frame := by
  cases hoffer : t.offer frame.identity frame.configRevision frame.sourcePtsUs with
  | error error =>
      rw [encodeDecision_error hoffer, List.append_nil]
      refine iff_of_true hchain ?_
      intro current hcurrent hchanges
      exact nomatch hoffer.symm.trans (offer_changed hcurrent hchanges)
  | ok out =>
      obtain ⟨decision, next⟩ := out
      rw [encodeDecision_ok hoffer]
      cases offer_ok hoffer with
      | first hgeneration =>
          dsimp only [encodeOf]
          rw [isChain_concat]
          refine iff_of_true ⟨hchain, ?_⟩ ?_
          · intro d hd
            obtain ⟨current, hcurrent, -⟩ := (h.follows d hd).stream
            exact nomatch hgeneration.symm.trans hcurrent
          · intro current hcurrent
            exact nomatch hgeneration.symm.trans hcurrent
      | otherStream current hgeneration hother =>
          dsimp only [encodeOf]
          rw [isChain_concat]
          refine iff_of_true ⟨hchain, ?_⟩ ?_
          · intro d hd hsame
            obtain ⟨found, hfound, hconnection, hepoch⟩ := (h.follows d hd).stream
            obtain rfl := Option.some.inj (hgeneration.symm.trans hfound)
            exact absurd ⟨hsame.1.trans hconnection.symm, hsame.2.trans hepoch.symm⟩ hother
          · intro found hfound hchanges
            obtain rfl := Option.some.inj (hgeneration.symm.trans hfound)
            exact absurd hchanges.sameStream hother
      | changed current hgeneration hchanges =>
          have hne : decisions ≠ [] := by
            intro hnil
            exact nomatch hgeneration.symm.trans (h.fresh hnil)
          obtain ⟨d, hd⟩ := List.getLast?_isSome.mpr hne |> Option.isSome_iff_exists.mp
          have hfollows := h.follows d hd
          obtain ⟨found, hfound, hconnection, hepoch⟩ := hfollows.stream
          obtain rfl := Option.some.inj (hgeneration.symm.trans hfound)
          have hsame : d.sameStream
              ⟨anchorSample t frame.identity frame.sourcePtsUs, frame.sourcePtsUs⟩ :=
            ⟨hchanges.sameStream.1.trans hconnection, hchanges.sameStream.2.trans hepoch⟩
          have hmoved := accounted_iff_of_moved h.fps hfollows.anchored hsame rfl
          have hslots : KeepsSlots t frame ↔
              slotAt t.fps (frame.sourcePtsUs - t.anchorSourcePtsUs) ≤ t.nextSlot := by
            constructor
            · intro hkeeps
              exact hkeeps current hgeneration hchanges
            · intro hle found hfound _
              exact hle
          dsimp only [encodeOf]
          rw [isChain_concat, hslots, hfollows.next, hfollows.anchor]
          constructor
          · intro haccounted
            exact hmoved.mp (haccounted.2 d hd)
          · intro hle
            refine ⟨hchain, ?_⟩
            intro last hlast
            obtain rfl := Option.some.inj (hd.symm.trans hlast)
            exact hmoved.mpr hle
      | sampled _ _ hgeneration hpts hsampled =>
          have hkeeps : KeepsSlots t frame := by
            intro found hfound hchanges
            obtain rfl := Option.some.inj (hgeneration.symm.trans hfound)
            exact absurd rfl hchanges.changed
          cases hsampled with
          | skipped =>
              dsimp only [encodeOf]
              rw [List.append_nil]
              exact iff_of_true hchain hkeeps
          | encoded sample segmentGeneration segmentStartSlot hanchor hnew hsource hspts hmissed =>
              dsimp only [encodeOf]
              rw [isChain_concat]
              refine iff_of_true ⟨hchain, ?_⟩ hkeeps
              intro d hd
              have hfollows := h.follows d hd
              apply accounted_of_counted h.fps hfollows.anchored
              rw [← hfollows.next, hmissed]
              unfold EncodeDecision.slotOf
              rw [hspts, ← hfollows.anchor]
              omega

end RenderedTimeline

end PicooCamera.Recording
