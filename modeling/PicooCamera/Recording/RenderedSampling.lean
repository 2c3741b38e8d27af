import PicooCamera.Recording.RenderedHoles

/-!
# Sampling on the fixed grid

`offer` assigns the fields of the timeline in place, after its last check. Within
one source generation its samples lie on slots that increase, and the slots that
it took and the ones that it missed are all slots up to the last.
-/

namespace PicooCamera.Recording

open PicooCamera.FrameHub PicooCamera.Packet PicooCamera.Library

namespace RenderedTimeline

/-! ## `offer`, one assignment after another -/

abbrev InPlace (α : Type) := Program RenderedTimeline RenderedTimelineError α

open Program

def anchorInPlace (source : FrameIdentity) (configRevision sourcePtsUs : Nat) :
    InPlace RenderedSampleDecision := do
  let current ← read RenderedTimeline.segmentGeneration
  let segmentGeneration ← Program.ofExcept (checkedAdd current 1 .generationExhausted)
  update fun t => { t with segmentGeneration := segmentGeneration }
  update fun t => { t with generation := some (.new source configRevision) }
  update fun t => { t with anchorSourcePtsUs := sourcePtsUs }
  update fun t => { t with segmentStartSlot := 0 }
  update fun t => { t with nextSlot := 1 }
  update fun t => { t with lastSource := some source }
  update fun t => { t with lastSourcePtsUs := sourcePtsUs }
  return .encode {
    source := source
    sourcePtsUs := sourcePtsUs
    segmentPtsUs := 0
    missedSlots := 0
    segmentGeneration := segmentGeneration
    forceIdr := true }

/-- The part of `offer` for a frame that reached a new slot. -/
def encodeInPlace (source : FrameIdentity) (sourcePtsUs reached : Nat) :
    InPlace RenderedSampleDecision := do
  let t ← read id
  let missedSlots := reached - t.nextSlot
  let scheduledBoundary : Bool := t.fps * segmentDurationSeconds ≤ reached - t.segmentStartSlot
  let forceIdr : Bool := missedSlots ≠ 0 ∨ scheduledBoundary
  let segmentGeneration ← Program.ofExcept (t.segmentGenerationOf forceIdr)
  let segmentStartSlot := if forceIdr then reached else t.segmentStartSlot
  let reachedPts ← Program.ofExcept (slotPtsUs reached t.fps)
  let startPts ← Program.ofExcept (slotPtsUs segmentStartSlot t.fps)
  let segmentPtsUs ← Program.ofExcept (checkedSub reachedPts startPts .timelineOverflow)
  let nextSlot ← Program.ofExcept (checkedAdd reached 1 .timelineOverflow)
  update fun t => { t with segmentGeneration := segmentGeneration }
  update fun t => { t with segmentStartSlot := segmentStartSlot }
  update fun t => { t with nextSlot := nextSlot }
  update fun t => { t with lastSource := some source }
  update fun t => { t with lastSourcePtsUs := sourcePtsUs }
  return .encode {
    source := source
    sourcePtsUs := sourcePtsUs
    segmentPtsUs := segmentPtsUs
    missedSlots := missedSlots
    segmentGeneration := segmentGeneration
    forceIdr := forceIdr }

def sampleInPlace (source : FrameIdentity) (sourcePtsUs : Nat) :
    InPlace RenderedSampleDecision := do
  let t ← read id
  let elapsed ← Program.ofExcept (checkedSub sourcePtsUs t.anchorSourcePtsUs .sourcePtsRegressed)
  let reached ← Program.ofExcept (reachedSlot elapsed t.fps)
  if reached < t.nextSlot then do
    update fun t => { t with lastSource := some source }
    update fun t => { t with lastSourcePtsUs := sourcePtsUs }
    return .skip
  else encodeInPlace source sourcePtsUs reached

def offerInPlace (source : FrameIdentity) (configRevision sourcePtsUs : Nat) :
    InPlace RenderedSampleDecision := do
  let t ← read id
  match t.generation with
  | none => anchorInPlace source configRevision sourcePtsUs
  | some current => do
      Program.ofExcept (t.checkStream current (.new source configRevision) source sourcePtsUs)
      if SourceGeneration.new source configRevision ≠ current then
        anchorInPlace source configRevision sourcePtsUs
      else sampleInPlace source sourcePtsUs

/-- What a function leaves that returns the next timeline: with an error, the old one. -/
def settled {α : Type} (t : RenderedTimeline) :
    Except RenderedTimelineError (α × RenderedTimeline) →
      Except RenderedTimelineError α × RenderedTimeline
  | .ok (a, next) => (.ok a, next)
  | .error e => (.error e, t)

variable {t next : RenderedTimeline} {source : FrameIdentity} {configRevision pts : Nat}

theorem exec_ofExcept_bind {α β : Type} (r : Except RenderedTimelineError α)
    (f : α → InPlace β) (g : α → Except RenderedTimelineError (β × RenderedTimeline))
    (h : ∀ a, r = .ok a → exec (f a) t = settled t (g a)) :
    exec (Program.ofExcept r >>= f) t = settled t (r >>= g) := by
  cases r with
  | error e => rfl
  | ok a => exact h a rfl

theorem exec_anchorInPlace : exec (anchorInPlace source configRevision pts) t =
    settled t (t.anchor source configRevision pts) := by
  unfold anchorInPlace anchor
  rw [exec_read_bind]
  exact exec_ofExcept_bind _ _ _ fun _ _ => rfl

theorem exec_encodeInPlace {reached : Nat} (h : ¬reached < t.nextSlot)
    (hanchor : t.anchorSourcePtsUs ≤ pts) (hreached : reachedSlot (pts - t.anchorSourcePtsUs) t.fps =
      .ok reached) : exec (encodeInPlace source pts reached) t =
    settled t (t.sample source pts) := by
  have hsub : checkedSub pts t.anchorSourcePtsUs .sourcePtsRegressed =
      .ok (pts - t.anchorSourcePtsUs) := if_pos hanchor
  unfold encodeInPlace sample
  rw [exec_read_bind, hsub]
  dsimp only [id]
  change _ = settled t (reachedSlot (pts - t.anchorSourcePtsUs) t.fps >>= _)
  rw [hreached]
  change _ = settled t (ite _ _ _)
  rw [if_neg h]
  refine exec_ofExcept_bind _ _ _ fun segmentGeneration _ => ?_
  refine exec_ofExcept_bind _ _ _ fun reachedPts _ => ?_
  refine exec_ofExcept_bind _ _ _ fun startPts _ => ?_
  refine exec_ofExcept_bind _ _ _ fun segmentPtsUs _ => ?_
  exact exec_ofExcept_bind _ _ _ fun nextSlot _ => rfl

theorem exec_sampleInPlace : exec (sampleInPlace source pts) t =
    settled t (t.sample source pts) := by
  unfold sampleInPlace
  rw [exec_read_bind]
  dsimp only [id]
  by_cases hanchor : t.anchorSourcePtsUs ≤ pts
  · cases hreached : reachedSlot (pts - t.anchorSourcePtsUs) t.fps with
    | error e =>
        unfold sample checkedSub
        rw [if_pos hanchor]
        change exec (Program.ofExcept (reachedSlot (pts - t.anchorSourcePtsUs) t.fps) >>= _) t =
          settled t (reachedSlot (pts - t.anchorSourcePtsUs) t.fps >>= _)
        rw [hreached]
        rfl
    | ok reached =>
        have hsub : checkedSub pts t.anchorSourcePtsUs .sourcePtsRegressed =
            .ok (pts - t.anchorSourcePtsUs) := if_pos hanchor
        rw [hsub]
        change exec (Program.ofExcept (reachedSlot (pts - t.anchorSourcePtsUs) t.fps) >>= _) t = _
        rw [hreached]
        change exec (ite _ _ _) t = _
        by_cases hold : reached < t.nextSlot
        · rw [if_pos hold]
          unfold sample
          rw [hsub]
          change _ = settled t (reachedSlot (pts - t.anchorSourcePtsUs) t.fps >>= _)
          rw [hreached]
          change _ = settled t (ite _ _ _)
          rw [if_pos hold]
          rfl
        · rw [if_neg hold]
          exact exec_encodeInPlace hold hanchor hreached
  · unfold sample checkedSub
    rw [if_neg hanchor]
    rfl

/-- The assignments in place make of the timeline what `offer` returns, and an error comes
before the first of them. -/
theorem exec_offerInPlace (t : RenderedTimeline) (source : FrameIdentity)
    (configRevision pts : Nat) : exec (offerInPlace source configRevision pts) t =
    settled t (t.offer source configRevision pts) := by
  unfold offerInPlace offer
  rw [exec_read_bind]
  dsimp only [id]
  cases t.generation with
  | none => exact exec_anchorInPlace
  | some current =>
      refine exec_ofExcept_bind _ _ _ fun _ _ => ?_
      split
      · exact exec_anchorInPlace
      · exact exec_sampleInPlace

theorem offer_same (hgeneration : t.generation = some (.new source configRevision))
    {decision : RenderedSampleDecision}
    (h : t.offer source configRevision pts = .ok (decision, next)) :
    t.lastSourcePtsUs < pts ∧ Taken t source pts decision next := by
  cases offer_ok h with
  | first hnone => cases hnone.symm.trans hgeneration
  | otherStream current hcurrent hother =>
      obtain rfl := Option.some.inj (hcurrent.symm.trans hgeneration)
      exact absurd ⟨rfl, rfl⟩ hother
  | changed current hcurrent hchanges =>
      obtain rfl := Option.some.inj (hcurrent.symm.trans hgeneration)
      exact absurd rfl hchanges.changed
  | sampled _ _ _ hpts _ =>
      unfold offer at h
      dsimp only at h
      rw [hgeneration] at h
      obtain ⟨_, _, h⟩ := of_bind_ok h
      rw [if_neg (by simp)] at h
      exact ⟨hpts, taken_of_ok h⟩

theorem offer_moves {decision : RenderedSampleDecision}
    (h : t.offer source configRevision pts = .ok (decision, next)) :
    (t.generation ≠ some (.new source configRevision) ∧
      decision = .encode (anchorSample t source pts) ∧
      next = anchored t source configRevision pts) ∨
    t.generation = some (.new source configRevision) ∧ Taken t source pts decision next := by
  by_cases hgeneration : t.generation = some (.new source configRevision)
  · exact .inr ⟨hgeneration, (offer_same hgeneration h).2⟩
  · refine .inl ⟨hgeneration, ?_⟩
    cases offer_ok h with
    | first hnone => exact ⟨rfl, rfl⟩
    | otherStream current hcurrent hother => exact ⟨rfl, rfl⟩
    | changed current hcurrent hchanges => exact ⟨rfl, rfl⟩
    | sampled _ _ hsame _ _ => exact absurd hsame hgeneration

end RenderedTimeline

/-! ## Runs of a timeline -/

structure TimelineOffer where
  source : FrameIdentity
  configRevision : Nat
  sourcePtsUs : Nat
  deriving DecidableEq, Repr

/-- A sample and the slot that the timeline gave it, which is the one before its next. -/
structure Placed where
  sample : RenderedSample
  slot : Nat
  deriving DecidableEq, Repr

structure TimelineRun where
  timeline : RenderedTimeline
  /-- The samples of the current source generation. -/
  era : List Placed
  /-- The samples of all generations. -/
  samples : List RenderedSample
  deriving DecidableEq, Repr

namespace TimelineRun

open RenderedTimeline Program

def start (t : RenderedTimeline) : TimelineRun := ⟨t, [], []⟩

def taken (r : TimelineRun) (o : TimelineOffer) :
    Except RenderedTimelineError RenderedSampleDecision × RenderedTimeline :=
  exec (offerInPlace o.source o.configRevision o.sourcePtsUs) r.timeline

/-- What a decision adds to the samples, `next` being the timeline after it. -/
def record (r : TimelineRun) (next : RenderedTimeline) :
    Except RenderedTimelineError RenderedSampleDecision → TimelineRun
  | .ok (.encode sample) =>
      { timeline := next
        era := (if next.generation = r.timeline.generation then r.era else []) ++
          [⟨sample, next.nextSlot - 1⟩]
        samples := r.samples ++ [sample] }
  | _ => { r with timeline := next }

def step (r : TimelineRun) (o : TimelineOffer) : TimelineRun :=
  r.record (r.taken o).2 (r.taken o).1

/-- The later sample goes on in the segment or begins the next one. -/
def Continues (a b : RenderedSample) : Prop :=
  b.forceIdr = true ∧ b.segmentGeneration = a.segmentGeneration + 1 ∨
    b.forceIdr = false ∧ b.segmentGeneration = a.segmentGeneration ∧
      a.segmentPtsUs < b.segmentPtsUs

/-- The bounds of slot `k` contain the time. -/
def InSlot (fps anchorUs ptsUs k : Nat) : Prop :=
  anchorUs ≤ ptsUs ∧ slotTime fps k ≤ ptsUs - anchorUs ∧ ptsUs - anchorUs < slotTime fps (k + 1)

/-- What holds of the samples at any time. -/
structure Sampled (fps : Nat) (r : TimelineRun) : Prop where
  /-- At most one sample a slot. -/
  once : (r.era.map (·.slot)).Pairwise (· < ·)
  inSlot : ∀ p ∈ r.era, InSlot fps r.timeline.anchorSourcePtsUs p.sample.sourcePtsUs p.slot
  conserved : ∀ last ∈ r.era.getLast?,
    r.era.length + (r.era.map (·.sample.missedSlots)).sum = last.slot + 1
  first : ∀ a ∈ r.samples.head?, a.forceIdr = true ∧ a.segmentGeneration = 1
  segments : r.samples.IsChain Continues
  zero : ∀ a ∈ r.samples, a.segmentPtsUs = 0 ↔ a.forceIdr = true
  span : ∀ a ∈ r.samples, a.segmentPtsUs < segmentDurationSeconds * 1000000

/-- What holds of the next offer: an error changes nothing, and a frame of the current
generation takes the slot that contains its time unless that slot has been reached. -/
structure NextOffer (fps : Nat) (r : TimelineRun) (o : TimelineOffer) : Prop where
  error : ∀ e, (r.taken o).1 = .error e → (r.taken o).2 = r.timeline
  chosen : ∀ k, r.timeline.generation = some (.new o.source o.configRevision) →
    InSlot fps r.timeline.anchorSourcePtsUs o.sourcePtsUs k → ∀ decision,
      (r.taken o).1 = .ok decision →
      if ∀ p ∈ r.era, p.slot < k then
        ∃ sample, decision = .encode sample ∧ sample.source = o.source ∧
          sample.sourcePtsUs = o.sourcePtsUs ∧ (r.taken o).2.nextSlot = k + 1
      else decision = .skip

/-- The timeline goes on from the last sample. -/
structure GoesOn (fps : Nat) (r : TimelineRun) (last : Placed) : Prop where
  placed : r.era.getLast? = some last
  sample : r.samples.getLast? = some last.sample
  next : r.timeline.nextSlot = last.slot + 1
  generation : r.timeline.segmentGeneration = last.sample.segmentGeneration
  begun : r.timeline.segmentStartSlot ≤ last.slot
  pts : last.sample.segmentPtsUs =
    slotTime fps last.slot - slotTime fps r.timeline.segmentStartSlot

structure Coherent (fps : Nat) (r : TimelineRun) : Prop extends Sampled fps r where
  rate : r.timeline.fps = fps
  fresh : r.timeline.generation = none →
    r.era = [] ∧ r.samples = [] ∧ r.timeline.segmentGeneration = 0
  goesOn : r.timeline.generation ≠ none → ∃ last, GoesOn fps r last

variable {fps : Nat} {r : TimelineRun} {source : FrameIdentity} {configRevision pts : Nat}

theorem inSlot_iff (hfps : supportedFps fps) {anchorUs ptsUs k : Nat} :
    InSlot fps anchorUs ptsUs k ↔ anchorUs ≤ ptsUs ∧ k = slotAt fps (ptsUs - anchorUs) := by
  unfold InSlot
  rw [slotTime_le_iff hfps, slotTime_lt_iff hfps]
  omega

theorem slotTime_span (hfps : supportedFps fps) {first k : Nat} (hle : first ≤ k)
    (hspan : k - first < fps * segmentDurationSeconds) :
    slotTime fps k - slotTime fps first < segmentDurationSeconds * 1000000 := by
  have hlater : slotTime fps (first + fps * segmentDurationSeconds) =
      slotTime fps first + segmentDurationSeconds * 1000000 := by
    unfold slotTime
    have hsplit : (first + fps * segmentDurationSeconds) * 1000000 =
        first * 1000000 + fps * (segmentDurationSeconds * 1000000) := by ring
    rw [hsplit, Nat.add_mul_div_left _ _ hfps.pos]
  have hstrict : slotTime fps k < slotTime fps (first + fps * segmentDurationSeconds) :=
    strictMono_nat_of_lt_succ (slotTime_lt_succ hfps) (by omega)
  have hmono : slotTime fps first ≤ slotTime fps k := slotTime_mono hle
  omega

theorem coherent_start {t : RenderedTimeline} (h : RenderedTimeline.new fps = .ok t) :
    Coherent fps (start t) := by
  have hgeneration := (new_ok h).2
  have ht : t.fps = fps ∧ t.segmentGeneration = 0 := by
    unfold RenderedTimeline.new at h
    split at h
    · obtain rfl := Except.ok.inj h
      exact ⟨rfl, rfl⟩
    · cases h
  exact {
    once := List.Pairwise.nil
    inSlot := by simp [start]
    conserved := by simp [start]
    first := by simp [start]
    segments := List.IsChain.nil
    zero := by simp [start]
    span := by simp [start]
    rate := ht.1
    fresh := fun _ => ⟨rfl, rfl, ht.2⟩
    goesOn := fun hne => absurd hgeneration hne }

theorem Coherent.slot_le_last (h : Coherent fps r) {last : Placed}
    (hlast : r.era.getLast? = some last) : ∀ p ∈ r.era, p.slot ≤ last.slot := by
  obtain ⟨front, hfront⟩ := List.getLast?_eq_some_iff.mp hlast
  have honce := h.once
  rw [hfront, List.map_append, List.map_singleton] at honce
  intro p hp
  rw [hfront] at hp
  obtain hold | hnew := List.mem_append.mp hp
  · exact Nat.le_of_lt ((List.pairwise_append.mp honce).2.2 p.slot (List.mem_map_of_mem hold)
      last.slot (List.mem_singleton.mpr rfl))
  · rw [List.mem_singleton.mp hnew]

theorem Coherent.extended (h : Coherent fps r) {last p : Placed} {next : RenderedTimeline}
    (hlast : GoesOn fps r last) (hanchor : next.anchorSourcePtsUs = r.timeline.anchorSourcePtsUs)
    (hfps : next.fps = fps) (hgeneration : next.generation ≠ none)
    (hinSlot : InSlot fps r.timeline.anchorSourcePtsUs p.sample.sourcePtsUs p.slot)
    (hnew : r.timeline.nextSlot ≤ p.slot)
    (hmissed : p.sample.missedSlots = p.slot - r.timeline.nextSlot)
    (hcontinues : Continues last.sample p.sample)
    (hzero : p.sample.segmentPtsUs = 0 ↔ p.sample.forceIdr = true)
    (hspan : p.sample.segmentPtsUs < segmentDurationSeconds * 1000000)
    (hgoesOn : GoesOn fps ⟨next, r.era ++ [p], r.samples ++ [p.sample]⟩ p) :
    Coherent fps ⟨next, r.era ++ [p], r.samples ++ [p.sample]⟩ := by
  have hnext := hlast.next
  exact {
    once := by
      dsimp only
      rw [List.map_append, List.map_singleton]
      refine List.pairwise_append.mpr ⟨h.once, List.pairwise_singleton _ _, ?_⟩
      intro slot hslot other hother
      obtain ⟨q, hq, rfl⟩ := List.mem_map.mp hslot
      have := h.slot_le_last hlast.placed q hq
      rw [List.mem_singleton.mp hother]
      omega
    inSlot := by
      intro q hq
      dsimp only
      rw [hanchor]
      obtain hold | hnew := List.mem_append.mp hq
      · exact h.inSlot q hold
      · rw [List.mem_singleton.mp hnew]
        exact hinSlot
    conserved := by
      intro q hq
      dsimp only at hq ⊢
      rw [List.getLast?_concat] at hq
      obtain rfl := Option.some.inj hq
      have hconserved := h.conserved last hlast.placed
      rw [List.map_append, List.map_singleton, List.sum_append, List.sum_singleton,
        List.length_append, List.length_singleton]
      omega
    first := by
      intro a ha
      apply h.first
      have hne : r.samples ≠ [] := by
        intro hnil
        have := hlast.sample
        rw [hnil] at this
        cases this
      dsimp only at ha
      rwa [List.head?_append_of_ne_nil _ hne] at ha
    segments := by
      apply isChain_concat.mpr
      refine ⟨h.segments, ?_⟩
      intro a ha
      obtain rfl := Option.some.inj (hlast.sample.symm.trans ha)
      exact hcontinues
    zero := by
      intro a ha
      obtain hold | hnew := List.mem_append.mp ha
      · exact h.zero a hold
      · rw [List.mem_singleton.mp hnew]
        exact hzero
    span := by
      intro a ha
      obtain hold | hnew := List.mem_append.mp ha
      · exact h.span a hold
      · rw [List.mem_singleton.mp hnew]
        exact hspan
    rate := hfps
    fresh := fun hnone => absurd hnone hgeneration
    goesOn := fun _ => ⟨p, hgoesOn⟩ }

theorem Coherent.anchored (h : Coherent fps r) (hfps : supportedFps fps) :
    Coherent fps ⟨RenderedTimeline.anchored r.timeline source configRevision pts,
      [⟨anchorSample r.timeline source pts, 0⟩],
      r.samples ++ [anchorSample r.timeline source pts]⟩ := by
  have hduration : 0 < segmentDurationSeconds * 1000000 := by decide
  exact {
    once := List.pairwise_singleton _ _
    inSlot := by
      intro p hp
      rw [List.mem_singleton.mp hp]
      apply (inSlot_iff hfps).mpr
      refine ⟨Nat.le_refl _, ?_⟩
      change 0 = slotAt fps (pts - pts)
      rw [Nat.sub_self, slotAt_zero hfps]
    conserved := by
      intro p hp
      obtain rfl := Option.some.inj hp
      rfl
    first := by
      intro a ha
      dsimp only at ha
      cases hsamples : r.samples with
      | nil =>
          rw [hsamples] at ha
          obtain rfl := Option.some.inj ha
          refine ⟨rfl, ?_⟩
          have hgeneration : r.timeline.generation = none := by
            by_contra hne
            obtain ⟨last, hlast⟩ := h.goesOn hne
            have := hlast.sample
            rw [hsamples] at this
            cases this
          change r.timeline.segmentGeneration + 1 = 1
          rw [(h.fresh hgeneration).2.2]
      | cons b rest =>
          rw [hsamples] at ha
          apply h.first
          rw [hsamples]
          exact ha
    segments := by
      apply isChain_concat.mpr
      refine ⟨h.segments, ?_⟩
      intro a ha
      have hne : r.timeline.generation ≠ none := by
        intro hnone
        rw [(h.fresh hnone).2.1] at ha
        cases ha
      obtain ⟨last, hlast⟩ := h.goesOn hne
      obtain rfl := Option.some.inj (hlast.sample.symm.trans ha)
      refine .inl ⟨rfl, ?_⟩
      change r.timeline.segmentGeneration + 1 = _
      rw [hlast.generation]
    zero := by
      intro a ha
      obtain hold | hnew := List.mem_append.mp ha
      · exact h.zero a hold
      · rw [List.mem_singleton.mp hnew]
        exact iff_of_true rfl rfl
    span := by
      intro a ha
      obtain hold | hnew := List.mem_append.mp ha
      · exact h.span a hold
      · rw [List.mem_singleton.mp hnew]
        exact hduration
    rate := h.rate
    fresh := by
      intro hnone
      cases hnone
    goesOn := by
      intro _
      refine ⟨⟨anchorSample r.timeline source pts, 0⟩, rfl, List.getLast?_concat, rfl, rfl,
        Nat.le_refl _, ?_⟩
      exact (Nat.sub_self _).symm }

theorem Coherent.sampled (h : Coherent fps r) (hfps : supportedFps fps)
    (hgeneration : r.timeline.generation ≠ none) {decision : RenderedSampleDecision}
    {next : RenderedTimeline} (htaken : Taken r.timeline source pts decision next) :
    Coherent fps (r.record next (.ok decision)) := by
  obtain ⟨last, hlast⟩ := h.goesOn hgeneration
  have hrate := h.rate
  have hnext := hlast.next
  have hbegun := hlast.begun
  cases htaken with
  | skipped hanchor hold =>
      exact { h with
        goesOn := fun _ => ⟨last, hlast.placed, hlast.sample, hlast.next, hlast.generation,
          hlast.begun, hlast.pts⟩ }
  | continued hanchor hreached hwithin =>
      unfold record
      dsimp only
      rw [if_pos rfl, Nat.add_sub_cancel]
      have hpts : last.sample.segmentPtsUs <
          (continuedSample r.timeline source pts).segmentPtsUs := by
        have hstrict := slotTime_lt_succ hfps last.slot
        have hmono : slotTime fps r.timeline.segmentStartSlot ≤ slotTime fps last.slot :=
          slotTime_mono hbegun
        unfold continuedSample
        dsimp only
        rw [hlast.pts, hrate, hreached, hnext]
        omega
      refine h.extended hlast rfl hrate hgeneration ?_ (Nat.le_of_eq hreached.symm) ?_ ?_ ?_ ?_
        ⟨List.getLast?_concat, List.getLast?_concat, rfl, rfl, ?_, ?_⟩
      · apply (inSlot_iff hfps).mpr
        refine ⟨hanchor, ?_⟩
        unfold RenderedTimeline.reached
        rw [hrate]
        rfl
      · change 0 = r.timeline.reached pts - r.timeline.nextSlot
        omega
      · exact .inr ⟨rfl, hlast.generation, hpts⟩
      · exact iff_of_false (Nat.ne_of_gt (Nat.lt_of_le_of_lt (Nat.zero_le _) hpts))
          Bool.false_ne_true
      · unfold continuedSample
        dsimp only
        rw [hrate]
        refine slotTime_span hfps (by omega) ?_
        unfold AtBoundary at hwithin
        rw [hrate] at hwithin
        exact Nat.lt_of_not_le hwithin
      · dsimp only
        omega
      · unfold continuedSample
        dsimp only
        rw [hrate]
  | restarted hanchor hnew hcause =>
      unfold record
      dsimp only
      rw [if_pos rfl, Nat.add_sub_cancel]
      have hduration : 0 < segmentDurationSeconds * 1000000 := by decide
      refine h.extended hlast rfl hrate hgeneration ?_ hnew rfl ?_ (iff_of_true rfl rfl)
        hduration ⟨List.getLast?_concat, List.getLast?_concat, rfl, rfl, Nat.le_refl _, ?_⟩
      · apply (inSlot_iff hfps).mpr
        refine ⟨hanchor, ?_⟩
        unfold RenderedTimeline.reached
        rw [hrate]
        rfl
      · refine .inl ⟨rfl, ?_⟩
        change r.timeline.segmentGeneration + 1 = _
        rw [hlast.generation]
      · exact (Nat.sub_self _).symm

theorem taken_eq (r : TimelineRun) (o : TimelineOffer) : r.taken o =
    settled r.timeline (r.timeline.offer o.source o.configRevision o.sourcePtsUs) :=
  exec_offerInPlace _ _ _ _

theorem Coherent.step (h : Coherent fps r) (hfps : supportedFps fps) (o : TimelineOffer) :
    Coherent fps (r.step o) := by
  unfold TimelineRun.step
  rw [taken_eq]
  cases hoffer : r.timeline.offer o.source o.configRevision o.sourcePtsUs with
  | error e => exact h
  | ok out =>
      obtain ⟨decision, next⟩ := out
      dsimp only [settled]
      obtain ⟨hother, rfl, rfl⟩ | ⟨hsame, htaken⟩ := offer_moves hoffer
      · unfold record
        dsimp only
        rw [if_neg (fun heq => hother heq.symm)]
        exact h.anchored hfps
      · exact h.sampled hfps (by rw [hsame]; simp) htaken

theorem coherent_run {t : RenderedTimeline} (h : RenderedTimeline.new fps = .ok t)
    (offers : List TimelineOffer) : Coherent fps (offers.foldl step (start t)) := by
  have hfps : supportedFps fps := by
    have hrate : t.fps = fps := (coherent_start h).rate
    exact hrate ▸ (new_ok h).1
  exact TransitionSystem.Reachable.invariant (T := .ofFunction (start t) step)
    (fun _ hstart => hstart ▸ coherent_start h)
    (fun _ o _ hr hstep => hstep ▸ hr.step hfps o)
    (TransitionSystem.reachable_foldl _ _ _)

theorem Coherent.nextOffer (h : Coherent fps r) (hfps : supportedFps fps) (o : TimelineOffer) :
    NextOffer fps r o := by
  constructor
  · intro e herror
    rw [taken_eq] at herror ⊢
    cases hoffer : r.timeline.offer o.source o.configRevision o.sourcePtsUs with
    | error _ => rfl
    | ok out =>
        rw [hoffer] at herror
        cases herror
  · intro k hsame hslot decision hdecision
    rw [taken_eq] at hdecision ⊢
    cases hoffer : r.timeline.offer o.source o.configRevision o.sourcePtsUs with
    | error e =>
        rw [hoffer] at hdecision
        cases hdecision
    | ok out =>
        rw [hoffer] at hdecision
        obtain ⟨_, next⟩ := out
        obtain rfl := Except.ok.inj hdecision
        dsimp only [settled]
        obtain ⟨last, hlast⟩ := h.goesOn (by rw [hsame]; simp)
        have hnext := hlast.next
        have hreached : r.timeline.reached o.sourcePtsUs = k := by
          unfold RenderedTimeline.reached
          rw [h.rate, ((inSlot_iff hfps).mp hslot).2]
        have hnewIff : (∀ p ∈ r.era, p.slot < k) ↔ r.timeline.nextSlot ≤ k := by
          constructor
          · intro hall
            have := hall last (List.mem_of_getLast? hlast.placed)
            omega
          · intro hle p hp
            have := h.slot_le_last hlast.placed p hp
            omega
        cases (offer_same hsame hoffer).2 with
        | skipped hanchor hold =>
            rw [if_neg (fun hall => by have := hnewIff.mp hall; omega)]
        | continued hanchor hcontinued hwithin =>
            rw [if_pos (hnewIff.mpr (by omega))]
            refine ⟨_, rfl, rfl, rfl, ?_⟩
            dsimp only
            rw [hreached]
        | restarted hanchor hnew hcause =>
            rw [if_pos (hnewIff.mpr (by omega))]
            refine ⟨_, rfl, rfl, rfl, ?_⟩
            dsimp only
            rw [hreached]

end TimelineRun

/-! ## The guards of `write_sample` -/

namespace RenderedRecorder

open RenderedTimeline Program

variable {P : RenderedPlatform} {s s' : RecorderState} {x : RecorderRun}

/-- What the boundary guards of `write_sample` ask of the sample that the timeline decides on. -/
def GuardsHold (s : RecorderState) (frame : NativeVideoFrame) : Prop :=
  ∀ sample next,
    s.timeline.offer frame.identity frame.configRevision frame.sourcePtsUs =
      .ok (.encode sample, next) →
    if s.active.map RenderedSegment.generation = some sample.segmentGeneration then
      sample.forceIdr = false ∧ sample.missedSlots = 0
    else sample.forceIdr = true ∧ sample.segmentPtsUs = 0

/-- The active segment is that of the timeline. -/
structure InStep (s : RecorderState) : Prop where
  generation : ∀ active ∈ s.active, active.generation = s.timeline.segmentGeneration
  active : s.timeline.generation ≠ none → s.active ≠ none

theorem InStep.guardsHold (h : InStep s) (frame : NativeVideoFrame) : GuardsHold s frame := by
  intro sample next hoffer
  have hother : sample.segmentGeneration = s.timeline.segmentGeneration + 1 →
      s.active.map RenderedSegment.generation ≠ some sample.segmentGeneration := by
    intro hsample heq
    obtain ⟨active, hactive, hgeneration⟩ := Option.map_eq_some_iff.mp heq
    have := h.generation active hactive
    omega
  obtain ⟨_, hsample, _⟩ | ⟨hsame, htaken⟩ := offer_moves hoffer
  · cases hsample
    rw [if_neg (hother rfl)]
    exact ⟨rfl, rfl⟩
  · cases htaken with
    | continued hanchor hreached hwithin =>
        obtain ⟨active, hactive⟩ := Option.ne_none_iff_exists'.mp (h.active (by rw [hsame]; simp))
        rw [if_pos (by rw [hactive]; exact congrArg some (h.generation active hactive))]
        exact ⟨rfl, rfl⟩
    | restarted hanchor hnew hcause =>
        rw [if_neg (hother rfl)]
        exact ⟨rfl, rfl⟩

theorem startSegment_ok {frame : NativeVideoFrame} {sample : RenderedSample}
    {segment : RenderedSegment}
    (h : exec (startSegment P frame sample) s = (.ok segment, s')) :
    segment.generation = sample.segmentGeneration := by
  unfold startSegment at h
  dsimp only at h
  rw [exec_read_bind, exec_ite] at h
  split at h
  · cases congrArg Prod.fst h
  · obtain ⟨streamEpoch, s₁, _, h⟩ := of_exec_bind_ok h
    obtain ⟨_, s₂, _, h⟩ := of_exec_bind_ok h
    obtain rfl := Except.ok.inj (congrArg Prod.fst h)
    rfl

theorem selectSegment_generation {frame : NativeVideoFrame} {sample : RenderedSample}
    (h : exec (selectSegment P frame sample) s = (.ok (), s')) :
    s'.active.map RenderedSegment.generation = some sample.segmentGeneration := by
  unfold selectSegment at h
  rw [exec_read_bind, exec_ite] at h
  split at h
  · obtain ⟨_, s₁, _, h⟩ := of_exec_bind_ok h
    obtain ⟨_, s₂, _, h⟩ := of_exec_bind_ok h
    rw [exec_ite] at h
    split at h
    · cases congrArg Prod.fst h
    · obtain ⟨segment, s₃, hstart, h⟩ := of_exec_bind_ok h
      rw [setActive_ok h, Option.map_some, startSegment_ok hstart]
  · rename_i hactive
    rw [exec_ite] at h
    split at h
    · cases congrArg Prod.fst h
    · obtain rfl := congrArg Prod.snd h
      exact not_not.mp hactive

theorem encodeSample_generation {frame : NativeVideoFrame} {sample : RenderedSample}
    (h : exec (encodeSample P frame sample) s = (.ok (), s')) :
    s'.active.map RenderedSegment.generation = s.active.map RenderedSegment.generation := by
  unfold encodeSample at h
  rw [exec_read_bind] at h
  cases hs : s.active with
  | none =>
      rw [hs] at h
      obtain rfl : s = s' := congrArg Prod.snd h
      rw [hs]
  | some active =>
      rw [hs] at h
      obtain ⟨output, s₁, -, h⟩ := of_exec_bind_ok h
      rw [exec_ite] at h
      split at h
      · cases congrArg Prod.fst h
      rw [exec_ite] at h
      split at h
      · cases congrArg Prod.fst h
      obtain ⟨native, s₂, -, h⟩ := of_exec_bind_ok h
      obtain ⟨_, s₃, -, h⟩ := of_exec_bind_ok h
      obtain ⟨instant, s₄, -, h⟩ := of_exec_bind_ok h
      obtain ⟨_, s₅, -, h⟩ := of_exec_bind_ok h
      obtain ⟨_, s₆, hactive, h⟩ := of_exec_bind_ok h
      rw [(onBundle_ok h).2]
      dsimp only
      rw [setActive_ok hactive]
      rfl

theorem writeSample_generation {frame : NativeVideoFrame} {sample : RenderedSample}
    (h : exec (writeSample P frame sample) s = (.ok (), s')) :
    s'.active.map RenderedSegment.generation = some sample.segmentGeneration := by
  unfold writeSample at h
  rw [exec_ite] at h
  split at h
  · cases congrArg Prod.fst h
  obtain ⟨_, s₁, hselect, hencode⟩ := of_exec_bind_ok h
  rw [encodeSample_generation hencode, selectSegment_generation hselect]

theorem InStep.push (h : InStep s) {frame : NativeVideoFrame}
    (hpush : exec (RenderedRecorder.push P frame) s = (.ok (), s')) : InStep s' := by
  cases hoffer : s.timeline.offer frame.identity frame.configRevision frame.sourcePtsUs with
  | error e => cases congrArg Prod.fst ((exec_push_error hoffer).symm.trans hpush)
  | ok out =>
      obtain ⟨decision, next⟩ := out
      cases decision with
      | skip =>
          obtain rfl := congrArg Prod.snd ((exec_push_skip hoffer).symm.trans hpush)
          obtain ⟨_, hsample, _⟩ | ⟨_, htaken⟩ := offer_moves hoffer
          · cases hsample
          · cases htaken with
            | skipped _ _ => exact ⟨h.generation, h.active⟩
      | encode sample =>
          have hwrite := (exec_push_encode hoffer).symm.trans hpush
          have hgeneration := writeSample_generation hwrite
          have htimeline : s'.timeline = next := (continues_of hwrite).2.2
          have hnext : next.segmentGeneration = sample.segmentGeneration := by
            obtain ⟨_, hsample, rfl⟩ | ⟨_, htaken⟩ := offer_moves hoffer
            · cases hsample
              rfl
            · cases htaken <;> rfl
          refine ⟨?_, ?_⟩
          · intro active hactive
            rw [htimeline, hnext]
            have hactive : s'.active = some active := hactive
            rw [hactive] at hgeneration
            exact Option.some.inj hgeneration
          · intro _ hnone
            rw [hnone] at hgeneration
            cases hgeneration

theorem inStep_of_created (h : Created P x) : InStep x.recorder := by
  obtain ⟨_, _, parent, name, config, s, hcreate⟩ := h
  unfold create at hcreate
  obtain ⟨_, s₁, _, hcreate⟩ := of_exec_bind_ok hcreate
  cases hnew : RenderedTimeline.new config.fps with
  | error e =>
      rw [hnew] at hcreate
      cases congrArg Prod.fst hcreate
  | ok timeline =>
      rw [hnew] at hcreate
      obtain hrecorder : { s₁ with config := config, timeline := timeline, active := none } =
        x.recorder := congrArg Prod.snd hcreate
      rw [← hrecorder]
      refine ⟨?_, fun hne => absurd (new_ok hnew).2 hne⟩
      intro active hactive
      cases hactive

/-- While the pump runs, the segment is in step. -/
def Steady (x : RecorderRun) : Prop := x.stopped = false → InStep x.recorder

theorem Steady.step {call : RecorderCall} (h : Steady x) : Steady (recorderStep P x call) := by
  by_cases hrunning : x.stopped = false
  · rw [recorderStep_running hrunning]
    intro hgoing
    cases call with
    | finish => cases hgoing
    | subscriptionEnd reason => cases hgoing
    | push frame =>
        cases hexec : exec (RenderedRecorder.push P frame) x.recorder with
        | mk result t =>
            cases result with
            | ok _ =>
                change InStep (exec (guarded P (RenderedRecorder.push P frame)) x.recorder).2
                rw [guarded_of_ok hexec]
                exact (h hrunning).push hexec
            | error e =>
                have hguarded : exec (guarded P (RenderedRecorder.push P frame)) x.recorder =
                    (.error e, (exec (abort P e.text) t).2) := by
                  unfold guarded
                  rw [exec_attempt_bind, hexec]
                  rfl
                change stops _ (exec (guarded P (RenderedRecorder.push P frame)) x.recorder).1 =
                  false at hgoing
                rw [hguarded] at hgoing
                cases hgoing
  · rw [recorderStep, if_pos (Bool.not_eq_false _ |>.mp hrunning)]
    exact h

theorem steady_run (h : Created P x) (calls : List RecorderCall) :
    Steady (calls.foldl (recorderStep P) x) :=
  TransitionSystem.Reachable.invariant (T := .ofFunction x (recorderStep P))
    (fun _ hstart _ => hstart ▸ inStep_of_created h)
    (fun _ _ _ hx hstep => hstep ▸ hx.step)
    (TransitionSystem.reachable_foldl _ _ _)

end RenderedRecorder

end PicooCamera.Recording
