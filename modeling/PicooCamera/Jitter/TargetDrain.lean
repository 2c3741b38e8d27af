import PicooCamera.Jitter.BufferRuns
import PicooCamera.Jitter.QueueTimers

/-!
# The drain of the playout target

The target falls by at most one millisecond whenever it is updated. A newly
observed frame updates it, and so does every decode report: the reports drain
the target although no frame was observed in between. `clear` falls back to the
startup target at once.
-/

namespace PicooCamera.Jitter

open PicooCamera.Library

/-- The label leaves the controller adaptive. -/
def JitterLabel.Adaptive : JitterLabel → Prop
  | .setFixedTargetMs targetMs => targetMs = none
  | _ => True

instance (label : JitterLabel) : Decidable label.Adaptive := by
  cases label <;> unfold JitterLabel.Adaptive <;> infer_instance

namespace JitterBuffer

/-- `push_at` gets to `observe_arrival`, and the frame is newer than those observed so far. -/
def Observes (j : JitterBuffer) (ptsUs : Nat) : Prop :=
  (¬∃ emitted ∈ j.lastEmittedPtsUs, ptsUs ≤ emitted) ∧
    ¬∃ last ∈ j.lastObservedPtsUs, ptsUs ≤ last

instance (j : JitterBuffer) (ptsUs : Nat) : Decidable (j.Observes ptsUs) :=
  inferInstanceAs (Decidable (_ ∧ _))

/-- The number of frames that a call newly observes. -/
def observedBy (j : JitterBuffer) : JitterLabel → Nat
  | .pushAt frame _ _ => if j.Observes frame.ptsUs then 1 else 0
  | _ => 0

/-- The buffer after a decode time is recorded, before the target is updated. -/
def recordDecodeTime (j : JitterBuffer) (decodeTimeUs : Nat) : JitterBuffer :=
  { j with decodeTimesUs := pushBounded j.decodeTimesUs (min decodeTimeUs maxObservedDecodeUs) }

/-- A decode report comes before the fifth transit sample, or when the observed times ask for
no less than the target; `clear` comes when the target is not above the startup target. -/
def NotDrained (j : JitterBuffer) : JitterLabel → Prop
  | .observeDecodeTimeUs decodeTimeUs => j.transitSamplesUs.length < 5 ∨
      j.adaptiveTargetUs ≤ (j.recordDecodeTime decodeTimeUs).desiredTargetUs
  | .clear => j.adaptiveTargetUs ≤ startupTargetUs
  | _ => True

instance (j : JitterBuffer) (label : JitterLabel) : Decidable (j.NotDrained label) := by
  cases label <;> unfold NotDrained <;> infer_instance

end JitterBuffer

/-- The target at one moment, and the frames newly observed until then. -/
structure TargetSample where
  targetUs : Nat
  observed : Nat
  deriving DecidableEq, Repr

/-- A run of the buffer with all its targets. -/
structure DrainRun where
  buffer : JitterBuffer
  observed : Nat
  history : List TargetSample

namespace DrainRun

def start : DrainRun := ⟨JitterBuffer.new, 0, [⟨JitterBuffer.new.adaptiveTargetUs, 0⟩]⟩

def next (run : DrainRun) (label : JitterLabel) : DrainRun :=
  let buffer := run.buffer.perform label
  let observed := run.observed + run.buffer.observedBy label
  ⟨buffer, observed, ⟨buffer.adaptiveTargetUs, observed⟩ :: run.history⟩

/-- The target is within its bounds, and has not fallen by more than one millisecond for each
frame that was newly observed since any earlier moment. -/
structure DrainsSlowly (run : DrainRun) : Prop where
  bounds : 16000 ≤ run.buffer.adaptiveTargetUs ∧ run.buffer.adaptiveTargetUs ≤ 80000
  drain : ∀ sample ∈ run.history,
    sample.targetUs ≤ run.buffer.adaptiveTargetUs + 1000 * (run.observed - sample.observed)

end DrainRun

/-! ## One update -/

namespace JitterBuffer

variable {j : JitterBuffer}

theorem desiredTargetUs_bounds (j : JitterBuffer) :
    16000 ≤ j.desiredTargetUs ∧ j.desiredTargetUs ≤ 80000 := by
  unfold desiredTargetUs minTargetUs maxTargetUs
  dsimp only
  omega

theorem updateTarget_adaptive (hfixed : j.fixedTargetUs = none) :
    j.updateTarget.adaptiveTargetUs =
      if j.transitSamplesUs.length < 5 then j.adaptiveTargetUs
      else max (j.adaptiveTargetUs - 1000) j.desiredTargetUs := by
  unfold updateTarget
  rw [if_neg (not_not.mpr hfixed)]
  by_cases hfew : j.transitSamplesUs.length < 5
  · rw [if_pos hfew, if_pos hfew]
  · rw [if_neg hfew, if_neg hfew]
    dsimp only
    split
    · dsimp only
      omega
    · rfl

theorem updateTarget_fixed (j : JitterBuffer) :
    j.updateTarget.fixedTargetUs = j.fixedTargetUs := by
  unfold updateTarget
  split
  · rfl
  · split
    · rfl
    · dsimp only
      split <;> rfl

/-- What one call does to the target of an adaptive buffer. -/
structure TargetStep (before after : JitterBuffer) (observed : Nat) (slow : Prop) : Prop where
  fixed : after.fixedTargetUs = none
  low : 16000 ≤ after.adaptiveTargetUs
  high : after.adaptiveTargetUs ≤ 80000
  drain : before.adaptiveTargetUs ≤ after.adaptiveTargetUs + 1000 * observed ↔ slow

/-- The buffer is adaptive and its target is within its bounds. -/
structure InBounds (j : JitterBuffer) : Prop where
  fixed : j.fixedTargetUs = none
  low : 16000 ≤ j.adaptiveTargetUs
  high : j.adaptiveTargetUs ≤ 80000

theorem InBounds.unchanged (h : j.InBounds) {after : JitterBuffer} {observed : Nat}
    (hfixed : after.fixedTargetUs = j.fixedTargetUs)
    (hadaptive : after.adaptiveTargetUs = j.adaptiveTargetUs) :
    TargetStep j after observed True :=
  ⟨hfixed.trans h.fixed, hadaptive ▸ h.low, hadaptive ▸ h.high,
    iff_of_true (by omega) trivial⟩

theorem InBounds.updateTarget (h : j.InBounds) :
    j.updateTarget.fixedTargetUs = none ∧ 16000 ≤ j.updateTarget.adaptiveTargetUs ∧
      j.updateTarget.adaptiveTargetUs ≤ 80000 ∧
      j.adaptiveTargetUs ≤ j.updateTarget.adaptiveTargetUs + 1000 := by
  obtain ⟨hfixed, hlow, hhigh⟩ := h
  obtain ⟨hdesiredLow, hdesiredHigh⟩ := desiredTargetUs_bounds j
  rw [updateTarget_adaptive hfixed, updateTarget_fixed]
  refine ⟨hfixed, ?_⟩
  split <;> omega

theorem InBounds.pushAt (h : j.InBounds) (frame : Frame) (firstFragmentAtUs completedAtUs : Nat) :
    TargetStep j (j.pushAt frame firstFragmentAtUs completedAtUs).2
      (if j.Observes frame.ptsUs then 1 else 0) True := by
  unfold JitterBuffer.pushAt
  by_cases hlate : ∃ emitted ∈ j.lastEmittedPtsUs, frame.ptsUs ≤ emitted
  · rw [if_pos hlate]
    exact h.unchanged rfl rfl
  · rw [if_neg hlate]
    dsimp only
    unfold observeArrival
    by_cases hold : ∃ last ∈ j.lastObservedPtsUs, frame.ptsUs ≤ last
    · rw [if_pos hold]
      exact h.unchanged rfl rfl
    · rw [if_neg hold, if_pos ⟨hlate, hold⟩]
      dsimp only
      obtain ⟨hfixed, hlow, hhigh, hdrain⟩ := InBounds.updateTarget (j := { j with
        lastObservedPtsUs := some frame.ptsUs
        transitSamplesUs :=
          pushBounded j.transitSamplesUs ((completedAtUs : Int) - (frame.ptsUs : Int))
        baseTransitUs :=
          (pushBounded j.transitSamplesUs ((completedAtUs : Int) - (frame.ptsUs : Int))).min? })
        ⟨h.fixed, h.low, h.high⟩
      exact ⟨hfixed, hlow, hhigh, iff_of_true (by simpa using hdrain) trivial⟩

theorem InBounds.observeDecodeTime (h : j.InBounds) (decodeTimeUs : Nat) :
    TargetStep j (j.observeDecodeTimeUs decodeTimeUs) 0
      (j.NotDrained (.observeDecodeTimeUs decodeTimeUs)) := by
  have hrecorded : InBounds (j.recordDecodeTime decodeTimeUs) := ⟨h.fixed, h.low, h.high⟩
  obtain ⟨hfixed, hlow, hhigh, -⟩ := hrecorded.updateTarget
  refine ⟨hfixed, hlow, hhigh, ?_⟩
  change j.adaptiveTargetUs ≤ (j.recordDecodeTime decodeTimeUs).updateTarget.adaptiveTargetUs +
    1000 * 0 ↔ j.transitSamplesUs.length < 5 ∨ _
  have hlow' := h.low
  have hsame : (j.recordDecodeTime decodeTimeUs).adaptiveTargetUs = j.adaptiveTargetUs := rfl
  have hsamples : (j.recordDecodeTime decodeTimeUs).transitSamplesUs = j.transitSamplesUs := rfl
  rw [updateTarget_adaptive hrecorded.fixed, hsame, hsamples]
  by_cases hfew : j.transitSamplesUs.length < 5
  · rw [if_pos hfew]
    exact iff_of_true (Nat.le_refl _) (Or.inl hfew)
  · rw [if_neg hfew, or_iff_right hfew]
    omega

theorem InBounds.clear (h : j.InBounds) : TargetStep j j.clear 0 (j.NotDrained .clear) where
  fixed := h.fixed
  low := show 16000 ≤ startupTargetUs by decide
  high := show startupTargetUs ≤ 80000 by decide
  drain := Iff.rfl

theorem InBounds.perform (h : j.InBounds) {label : JitterLabel} (hadaptive : label.Adaptive) :
    TargetStep j (j.perform label) (j.observedBy label) (j.NotDrained label) := by
  cases label with
  | pushAt frame firstFragmentAtUs completedAtUs =>
      exact h.pushAt frame firstFragmentAtUs completedAtUs
  | popReady nowUs => exact h.unchanged popReady_timing.1 popReady_timing.2
  | dropExpired nowUs maxQueueAgeUs =>
      exact h.unchanged dropExpired_timing.1 dropExpired_timing.2
  | observeDecodeTimeUs decodeTimeUs => exact h.observeDecodeTime decodeTimeUs
  | setFixedTargetMs targetMs =>
      obtain rfl : targetMs = none := hadaptive
      exact h.unchanged h.fixed.symm rfl
  | discardQueued => exact h.unchanged rfl rfl
  | clear => exact h.clear

end JitterBuffer

/-! ## Runs -/

namespace DrainRun

open JitterBuffer TransitionSystem

variable {run : DrainRun}

/-- What every run keeps: the newest sample is the present one, and none is of the future. -/
structure Sampled (run : DrainRun) : Prop where
  inBounds : run.buffer.InBounds
  newest : ⟨run.buffer.adaptiveTargetUs, run.observed⟩ ∈ run.history
  past : ∀ sample ∈ run.history, sample.observed ≤ run.observed

theorem sampled_start : Sampled start :=
  ⟨⟨rfl, by decide, by decide⟩, List.mem_cons_self, by decide⟩

theorem drainsSlowly_start : DrainsSlowly start :=
  ⟨by decide, by decide⟩

theorem Sampled.next (h : run.Sampled) {label : JitterLabel} (hadaptive : label.Adaptive) :
    (run.next label).Sampled := by
  have hstep := h.inBounds.perform hadaptive
  refine ⟨⟨hstep.fixed, hstep.low, hstep.high⟩, List.mem_cons_self, ?_⟩
  intro sample hsample
  rcases List.mem_cons.mp hsample with rfl | hold
  · exact Nat.le_refl _
  · exact (h.past sample hold).trans (Nat.le_add_right _ _)

theorem drainsSlowly_next (h : run.Sampled) {label : JitterLabel} (hadaptive : label.Adaptive)
    (hslow : run.DrainsSlowly) :
    (run.next label).DrainsSlowly ↔ run.buffer.NotDrained label := by
  have hstep := h.inBounds.perform hadaptive
  rw [← hstep.drain]
  constructor
  · intro hnext
    have hnow := hnext.drain _ (List.mem_cons_of_mem _ h.newest)
    have hsince : (run.next label).observed - run.observed =
        run.buffer.observedBy label := Nat.add_sub_cancel_left _ _
    rwa [hsince] at hnow
  · intro hfall
    refine ⟨⟨hstep.low, hstep.high⟩, ?_⟩
    intro sample hsample
    rcases List.mem_cons.mp hsample with rfl | hold
    · exact Nat.le_add_right _ _
    · have hearlier := hslow.drain sample hold
      have hpast := h.past sample hold
      change sample.targetUs ≤ (run.buffer.perform label).adaptiveTargetUs +
        1000 * (run.observed + run.buffer.observedBy label - sample.observed)
      omega

/-- The drain is slow throughout a run exactly when no decode report and no `clear` of the run
lets the target fall. -/
theorem drainsSlowly_iff {labels : List JitterLabel}
    (h : MeetsAll (fun _ label => label.Adaptive) next start labels) :
    HoldsThroughout DrainsSlowly next start labels ↔
      MeetsAll (fun run label => run.buffer.NotDrained label) next start labels :=
  @holdsThroughout_iff _ _ Sampled _ _ _ _ (fun _ _ hs ha => hs.next ha)
    (fun _ _ hs ha hP => drainsSlowly_next hs ha hP) _ _ sampled_start drainsSlowly_start h

/-- A frame that takes one millisecond to arrive. -/
def steadyFrame (frameId : Nat) : JitterLabel :=
  .pushAt ⟨1, frameId, 33000 * frameId, 0, 0, [], false, false⟩ (33000 * frameId + 500)
    (33000 * frameId + 1000)

def steadyFrames : List JitterLabel := [0, 1, 2, 3, 4].map steadyFrame

/-- A long decode time raises the target, the next frame drains it, and the epoch ends. -/
def raisedCalls : List JitterLabel :=
  steadyFrames ++ [.observeDecodeTimeUs 60000, steadyFrame 5, .popReady 200000, .discardQueued,
    .clear, steadyFrame 0]

theorem drainsSlowly_iff_raisedCalls :
    HoldsThroughout DrainsSlowly next start raisedCalls ↔
      MeetsAll (fun run label => run.buffer.NotDrained label) next start raisedCalls :=
  drainsSlowly_iff (by decide +kernel)

def reportedFrames : List JitterLabel := steadyFrames ++ [.observeDecodeTimeUs 1000]

theorem percentile_mem {samples : List Nat} {percent value : Nat}
    (h : percentile samples percent = some value) : value ∈ samples :=
  (List.mergeSort_perm samples _).subset (List.mem_of_getElem? h)

theorem desiredTargetUs_eq_min {j : JitterBuffer}
    (htransit : ∀ sample ∈ j.transitSamplesUs, sample ≤ j.baseTransitUs.getD 0)
    (hdecode : ∀ decode ∈ j.decodeTimesUs, decode ≤ 5000) : j.desiredTargetUs = 16000 := by
  have harrival : (percentile (j.transitSamplesUs.map fun sample =>
      (sample - j.baseTransitUs.getD 0).toNat % 2 ^ 64) 95).getD 0 = 0 := by
    cases hvalue : percentile (j.transitSamplesUs.map fun sample =>
        (sample - j.baseTransitUs.getD 0).toNat % 2 ^ 64) 95 with
    | none => rfl
    | some value =>
        obtain ⟨sample, hsample, rfl⟩ := List.mem_map.mp (percentile_mem hvalue)
        have hle := htransit sample hsample
        rw [Option.getD_some]
        omega
  have hbudget : (percentile j.decodeTimesUs 95).getD defaultDecodeUs ≤ 5000 := by
    cases hvalue : percentile j.decodeTimesUs 95 with
    | none => exact Nat.le_refl 5000
    | some value => exact hdecode value (percentile_mem hvalue)
  unfold desiredTargetUs minTargetUs maxTargetUs renderMarginUs Packet.saturatingAdd
    Packet.u64Max
  dsimp only
  rw [harrival]
  omega

theorem updateTarget_samples (j : JitterBuffer) :
    j.updateTarget.transitSamplesUs = j.transitSamplesUs ∧
      j.updateTarget.baseTransitUs = j.baseTransitUs ∧
      j.updateTarget.decodeTimesUs = j.decodeTimesUs := by
  unfold updateTarget
  split
  · exact ⟨rfl, rfl, rfl⟩
  · split
    · exact ⟨rfl, rfl, rfl⟩
    · dsimp only
      split <;> exact ⟨rfl, rfl, rfl⟩

theorem pushAt_samples {j : JitterBuffer} {frame : Frame} (firstFragmentAtUs completedAtUs : Nat)
    (h : j.Observes frame.ptsUs) :
    let after := (j.pushAt frame firstFragmentAtUs completedAtUs).2
    let samples := pushBounded j.transitSamplesUs ((completedAtUs : Int) - (frame.ptsUs : Int))
    after.transitSamplesUs = samples ∧ after.baseTransitUs = samples.min? ∧
      after.decodeTimesUs = j.decodeTimesUs := by
  unfold JitterBuffer.pushAt
  rw [if_neg h.1]
  dsimp only
  unfold observeArrival
  rw [if_neg h.2]
  exact updateTarget_samples _

/-- The run before the fifth frame, which has no transit times to compare yet. -/
def fourFrames : DrainRun := ([0, 1, 2, 3].map steadyFrame).foldl next start

theorem Sampled.steady (h : run.Sampled) (frameId : Nat) :
    (run.next (steadyFrame frameId)).Sampled :=
  h.next trivial

theorem fourFrames_sampled : fourFrames.Sampled :=
  (((sampled_start.steady 0).steady 1).steady 2).steady 3

theorem next_steadyFrame (run : DrainRun) (frameId : Nat) :
    (run.next (steadyFrame frameId)).buffer =
      (run.buffer.pushAt ⟨1, frameId, 33000 * frameId, 0, 0, [], false, false⟩
        (33000 * frameId + 500) (33000 * frameId + 1000)).2 :=
  rfl

theorem recordDecodeTime_samples (j : JitterBuffer) (decodeTimeUs : Nat) :
    (j.recordDecodeTime decodeTimeUs).transitSamplesUs = j.transitSamplesUs ∧
      (j.recordDecodeTime decodeTimeUs).baseTransitUs = j.baseTransitUs ∧
      (j.recordDecodeTime decodeTimeUs).decodeTimesUs =
        pushBounded j.decodeTimesUs (min decodeTimeUs maxObservedDecodeUs) :=
  ⟨rfl, rfl, rfl⟩

theorem fifthFrame_samples :
    (fourFrames.next (steadyFrame 4)).buffer.transitSamplesUs = List.replicate 5 1000 ∧
      (fourFrames.next (steadyFrame 4)).buffer.baseTransitUs = some 1000 ∧
      (fourFrames.next (steadyFrame 4)).buffer.decodeTimesUs = [] := by
  have hobserves : fourFrames.buffer.Observes (33000 * 4) := by decide +kernel
  have hpushed : pushBounded fourFrames.buffer.transitSamplesUs
      (((33000 * 4 + 1000 : Nat) : Int) - ((33000 * 4 : Nat) : Int)) = List.replicate 5 1000 := by
    decide +kernel
  have hnone : fourFrames.buffer.decodeTimesUs = [] := by decide +kernel
  obtain ⟨htransit, hbase, hdecode⟩ := @pushAt_samples fourFrames.buffer
    ⟨1, 4, 33000 * 4, 0, 0, [], false, false⟩ (33000 * 4 + 500) (33000 * 4 + 1000) hobserves
  rw [next_steadyFrame, htransit, hbase, hdecode, hpushed]
  exact ⟨rfl, by decide, hnone⟩

/-- After the fifth frame the target is 32 ms, and the report of a short decode time drains it
although no frame came in between. -/
theorem reportedDecode_drains : ¬ HoldsThroughout DrainsSlowly next start reportedFrames := by
  intro hall
  have hfive : (fourFrames.next (steadyFrame 4)).DrainsSlowly := hall.2.2.2.2.2.1
  have hreport : ((fourFrames.next (steadyFrame 4)).next
      (.observeDecodeTimeUs 1000)).DrainsSlowly := hall.2.2.2.2.2.2
  have hadaptive : (JitterLabel.observeDecodeTimeUs 1000).Adaptive := trivial
  have hobserved : (fourFrames.next (steadyFrame 4)).observed = 5 := by decide +kernel
  have hsample : TargetSample.mk 33000 4 ∈ (fourFrames.next (steadyFrame 4)).history :=
    List.mem_cons_of_mem _ (by decide +kernel)
  have hhigh := hfive.drain _ hsample
  rw [hobserved] at hhigh
  dsimp only at hhigh
  obtain ⟨htransit, hbase, hdecode⟩ := fifthFrame_samples
  rcases (drainsSlowly_next (fourFrames_sampled.steady 4) hadaptive hfive).mp hreport with
    hfew | hslow
  · rw [htransit] at hfew
    exact absurd hfew (by decide)
  · obtain ⟨hsamples, hmin, htimes⟩ :=
      recordDecodeTime_samples (fourFrames.next (steadyFrame 4)).buffer 1000
    rw [desiredTargetUs_eq_min (by rw [hsamples, hmin, htransit, hbase]; decide)
      (by rw [htimes, hdecode]; decide)] at hslow
    omega

end DrainRun

end PicooCamera.Jitter
