import PicooCamera.Library.StableInsertion
import PicooCamera.Library.TransitionSystem
import PicooCamera.Jitter.JitterBuffer

/-!
# Runs of the jitter buffer

Every pushed frame is in one of four places: popped, dropped, discarded or still
queued. The frames that one call drops are those that it neither leaves in the
queue nor answers with; a call reports a loss exactly where it drops a frame
that others may refer to.
-/

namespace PicooCamera.Jitter

open PicooCamera.Library

inductive JitterLabel where
  | pushAt (frame : Frame) (firstFragmentAtUs completedAtUs : Nat)
  | popReady (nowUs : Nat)
  | dropExpired (nowUs maxQueueAgeUs : Nat)
  | observeDecodeTimeUs (decodeTimeUs : Nat)
  | setFixedTargetMs (targetMs : Option Nat)
  | discardQueued
  | clear
  deriving DecidableEq, Repr

namespace JitterBuffer

def perform (j : JitterBuffer) : JitterLabel → JitterBuffer
  | .pushAt frame firstFragmentAtUs completedAtUs =>
      (j.pushAt frame firstFragmentAtUs completedAtUs).2
  | .popReady nowUs => (j.popReady nowUs).2
  | .dropExpired nowUs maxQueueAgeUs => (j.dropExpired nowUs maxQueueAgeUs).2
  | .observeDecodeTimeUs decodeTimeUs => j.observeDecodeTimeUs decodeTimeUs
  | .setFixedTargetMs targetMs => j.setFixedTargetMs targetMs
  | .discardQueued => j.discardQueued
  | .clear => j.clear

/-- The answer of the call tells of the loss of a reference. -/
def reportsLoss (j : JitterBuffer) : JitterLabel → Bool
  | .pushAt frame firstFragmentAtUs completedAtUs =>
      match (j.pushAt frame firstFragmentAtUs completedAtUs).1 with
      | .accepted => false
      | .acceptedAfterReferenceDrop => true
      | .droppedLate requiresRefresh => requiresRefresh
  | .dropExpired nowUs maxQueueAgeUs => (j.dropExpired nowUs maxQueueAgeUs).1
  | _ => false

def queued (j : JitterBuffer) : List Frame := j.frames.map BufferedFrame.frame

end JitterBuffer

structure JitterRun where
  buffer : JitterBuffer
  /-- All frames that were pushed, in this order. -/
  pushed : List Frame
  /-- The frames that were popped since the last discard, in this order. -/
  emitted : List Frame
  popped : Multiset Frame
  dropped : Multiset Frame
  discarded : Multiset Frame

namespace JitterRun

def start : JitterRun := ⟨JitterBuffer.new, [], [], 0, 0, 0⟩

/-- The frames that a call drops: neither in the queue after it nor its answer. -/
def lost (run : JitterRun) (label : JitterLabel) : Multiset Frame :=
  match label with
  | .pushAt frame _ _ =>
      (run.buffer.queued + {frame} : Multiset Frame) - (run.buffer.perform label).queued
  | .dropExpired _ _ => (run.buffer.queued : Multiset Frame) - (run.buffer.perform label).queued
  | _ => 0

def next (run : JitterRun) (label : JitterLabel) : JitterRun :=
  let buffer := run.buffer.perform label
  let dropped := run.dropped + run.lost label
  match label with
  | .pushAt frame _ _ =>
      { run with buffer := buffer, dropped := dropped, pushed := run.pushed ++ [frame] }
  | .popReady nowUs =>
      let answer := (run.buffer.popReady nowUs).1.toList
      { run with
        buffer := buffer
        emitted := run.emitted ++ answer
        popped := run.popped + answer }
  | .discardQueued =>
      { run with
        buffer := buffer, emitted := [], discarded := run.discarded + run.buffer.queued }
  | .clear =>
      { run with
        buffer := buffer, emitted := [], discarded := run.discarded + run.buffer.queued }
  | _ => { run with buffer := buffer, dropped := dropped }

end JitterRun

def jitterSystem : TransitionSystem JitterRun JitterLabel :=
  TransitionSystem.ofFunction JitterRun.start JitterRun.next

/-- What the buffer promises in every state of a run. -/
structure JitterContract (run : JitterRun) : Prop where
  sorted : SortedBy Frame.ptsUs run.buffer.queued
  /-- Frames of one PTS are queued in the order in which they were pushed. -/
  stable : ∀ ptsUs, (run.buffer.queued.filter (Frame.ptsUs · = ptsUs)).Sublist
    (run.pushed.filter (Frame.ptsUs · = ptsUs))
  bounded : run.buffer.frames.length ≤ maxBufferedFrames
  monotone : SortedBy Frame.ptsUs run.emitted
  conserved : (run.pushed : Multiset Frame) =
    run.popped + run.dropped + run.discarded + run.buffer.queued
  reported : ∀ label, run.buffer.reportsLoss label ↔
    ∃ frame ∈ run.lost label, frame.discardable = false

/-! ## The operations on the queue -/

theorem insertByPts_eq (buffered : BufferedFrame) (frames : List BufferedFrame) :
    (JitterBuffer.insertByPts buffered frames).map BufferedFrame.frame =
      insertBehind Frame.ptsUs buffered.frame (frames.map BufferedFrame.frame) := by
  induction frames with
  | nil => rfl
  | cons head rest ih =>
      simp only [JitterBuffer.insertByPts, List.map_cons, insertBehind_cons]
      by_cases hlt : buffered.frame.ptsUs < head.frame.ptsUs
      · rw [if_pos hlt, if_pos hlt]
        rfl
      · rw [if_neg hlt, if_neg hlt, List.map_cons, ih]

theorem length_insertByPts (buffered : BufferedFrame) (frames : List BufferedFrame) :
    (JitterBuffer.insertByPts buffered frames).length = frames.length + 1 := by
  induction frames with
  | nil => rfl
  | cons head rest ih =>
      simp only [JitterBuffer.insertByPts]
      split
      · rfl
      · rw [List.length_cons, ih, List.length_cons]

theorem removalIndex_lt {frames : List BufferedFrame} (h : frames ≠ []) :
    JitterBuffer.removalIndex frames < frames.length := by
  unfold JitterBuffer.removalIndex
  cases hfind : frames.findIdx? fun buffered => !buffered.frame.keyframe with
  | none => exact List.length_pos_of_ne_nil h
  | some index => exact (List.findIdx?_eq_some_iff_getElem.mp hfind).1

theorem enforceLimits_spec {excess : Nat} {frames : List BufferedFrame}
    (h : excess ≤ frames.length) :
    ∃ removed : List BufferedFrame,
      frames.Perm (removed ++ (JitterBuffer.enforceLimits excess frames).2) ∧
      (JitterBuffer.enforceLimits excess frames).2.Sublist frames ∧
      (JitterBuffer.enforceLimits excess frames).2.length = frames.length - excess ∧
      ((JitterBuffer.enforceLimits excess frames).1 ↔
        ∃ buffered ∈ removed, buffered.frame.discardable = false) := by
  induction excess generalizing frames with
  | zero => exact ⟨[], List.Perm.refl _, List.Sublist.refl _, rfl, by simp [JitterBuffer.enforceLimits]⟩
  | succ excess ih =>
      have hnonempty : frames ≠ [] := by
        rintro rfl
        simp at h
      have hindex := removalIndex_lt hnonempty
      have hlength := List.length_eraseIdx_add_one hindex
      have hshort : excess ≤ (frames.eraseIdx (JitterBuffer.removalIndex frames)).length := by
        omega
      obtain ⟨removed, hperm, hsublist, hrest, hflag⟩ := ih hshort
      simp only [JitterBuffer.enforceLimits, List.getElem?_eq_getElem hindex]
      refine ⟨frames[JitterBuffer.removalIndex frames] :: removed, ?_, ?_, ?_, ?_⟩
      · exact (List.getElem_cons_eraseIdx_perm hindex).symm.trans (hperm.cons _)
      · exact hsublist.trans (List.eraseIdx_sublist _ _)
      · rw [hrest]
        omega
      · rw [Bool.or_eq_true, hflag]
        simp

theorem updateTarget_queue (j : JitterBuffer) :
    j.updateTarget.frames = j.frames ∧ j.updateTarget.lastEmittedPtsUs = j.lastEmittedPtsUs := by
  unfold JitterBuffer.updateTarget
  by_cases hfixed : j.fixedTargetUs ≠ none
  · rw [if_pos hfixed]
    exact ⟨rfl, rfl⟩
  rw [if_neg hfixed]
  by_cases hfew : j.transitSamplesUs.length < 5
  · rw [if_pos hfew]
    exact ⟨rfl, rfl⟩
  rw [if_neg hfew]
  dsimp only
  split
  · exact ⟨rfl, rfl⟩
  · exact ⟨rfl, rfl⟩

theorem observeArrival_queue (j : JitterBuffer) (ptsUs completedAtUs : Nat) :
    (j.observeArrival ptsUs completedAtUs).frames = j.frames ∧
      (j.observeArrival ptsUs completedAtUs).lastEmittedPtsUs = j.lastEmittedPtsUs := by
  unfold JitterBuffer.observeArrival
  by_cases hlate : ∃ last ∈ j.lastObservedPtsUs, ptsUs ≤ last
  · rw [if_pos hlate]
    exact ⟨rfl, rfl⟩
  · rw [if_neg hlate]
    exact updateTarget_queue _

section Push

variable {j : JitterBuffer} {frame : Frame} (firstFragmentAtUs completedAtUs : Nat)

theorem pushAt_late (hlate : ∃ emitted ∈ j.lastEmittedPtsUs, frame.ptsUs ≤ emitted) :
    j.pushAt frame firstFragmentAtUs completedAtUs = (.droppedLate (!frame.discardable), j) := by
  rw [JitterBuffer.pushAt, if_pos hlate]

theorem pushAt_accepted (hlate : ¬∃ emitted ∈ j.lastEmittedPtsUs, frame.ptsUs ≤ emitted) :
    let after := j.perform (.pushAt frame firstFragmentAtUs completedAtUs)
    after.lastEmittedPtsUs = j.lastEmittedPtsUs ∧ after.frames.length ≤ maxBufferedFrames ∧
      after.queued.Sublist (insertBehind Frame.ptsUs frame j.queued) ∧
      ∃ removed : List Frame, (j.queued ++ [frame]).Perm (removed ++ after.queued) ∧
        (j.reportsLoss (.pushAt frame firstFragmentAtUs completedAtUs) ↔
          ∃ lost ∈ removed, lost.discardable = false) := by
  obtain ⟨hframes, hlast⟩ := observeArrival_queue j frame.ptsUs completedAtUs
  obtain ⟨removed, hperm, hsublist, hlength, hflag⟩ :=
    @enforceLimits_spec ((JitterBuffer.insertByPts ⟨frame, firstFragmentAtUs, completedAtUs⟩
        j.frames).length - maxBufferedFrames)
      (JitterBuffer.insertByPts ⟨frame, firstFragmentAtUs, completedAtUs⟩ j.frames)
      (Nat.sub_le _ _)
  have hinserted := length_insertByPts ⟨frame, firstFragmentAtUs, completedAtUs⟩ j.frames
  simp only [JitterBuffer.perform, JitterBuffer.reportsLoss, JitterBuffer.pushAt, if_neg hlate,
    JitterBuffer.queued, hframes]
  refine ⟨hlast, ?_, ?_, removed.map BufferedFrame.frame, ?_, ?_⟩
  · rw [hlength]
    omega
  · rw [← insertByPts_eq ⟨frame, firstFragmentAtUs, completedAtUs⟩]
    exact hsublist.map _
  · have hmap := hperm.map BufferedFrame.frame
    rw [insertByPts_eq, List.map_append] at hmap
    exact (List.perm_append_singleton _ _).trans ((insertBehind_perm _ _).symm.trans hmap)
  · cases hbroken : (JitterBuffer.enforceLimits _ _).1 with
    | true =>
        rw [hbroken] at hflag
        simpa using hflag.mp rfl
    | false =>
        rw [hbroken] at hflag
        simpa using hflag

end Push

theorem queued_filter_perm (j : JitterBuffer) (keep : BufferedFrame → Bool) :
    j.queued.Perm ((j.frames.filter fun buffered => !keep buffered).map BufferedFrame.frame ++
      (j.frames.filter keep).map BufferedFrame.frame) := by
  rw [← List.map_append]
  apply List.Perm.map
  exact (List.perm_append_comm.trans (List.filter_append_perm keep j.frames)).symm

theorem dropExpired_spec (j : JitterBuffer) (nowUs maxQueueAgeUs : Nat) :
    let after := j.perform (.dropExpired nowUs maxQueueAgeUs)
    after.lastEmittedPtsUs = j.lastEmittedPtsUs ∧ after.frames.Sublist j.frames ∧
      ∃ removed : List Frame, j.queued.Perm (removed ++ after.queued) ∧
        (j.reportsLoss (.dropExpired nowUs maxQueueAgeUs) ↔
          ∃ lost ∈ removed, lost.discardable = false) := by
  simp only [JitterBuffer.perform, JitterBuffer.reportsLoss, JitterBuffer.dropExpired]
  by_cases hfixed : j.fixedTargetUs ≠ none
  · rw [if_pos hfixed]
    exact ⟨rfl, List.Sublist.refl _, [], List.Perm.refl _, by simp⟩
  · rw [if_neg hfixed]
    refine ⟨rfl, List.filter_sublist, _, queued_filter_perm j _, ?_⟩
    simp [and_assoc]

/-! ## The invariant of a run -/

structure JitterInvariant (run : JitterRun) : Prop where
  sorted : SortedBy Frame.ptsUs run.buffer.queued
  stable : ∀ ptsUs, (run.buffer.queued.filter (Frame.ptsUs · = ptsUs)).Sublist
    (run.pushed.filter (Frame.ptsUs · = ptsUs))
  bounded : run.buffer.frames.length ≤ maxBufferedFrames
  monotone : SortedBy Frame.ptsUs run.emitted
  conserved : (run.pushed : Multiset Frame) =
    run.popped + run.dropped + run.discarded + run.buffer.queued
  /-- No queued frame is older than an emitted one. -/
  floor : ∀ emitted ∈ run.emitted, ∀ frame ∈ run.buffer.queued, emitted.ptsUs ≤ frame.ptsUs
  /-- The buffer remembers the newest emitted PTS. -/
  remembered : ∀ emitted ∈ run.emitted, ∃ last ∈ run.buffer.lastEmittedPtsUs,
    emitted.ptsUs ≤ last

theorem lost_eq_of_perm {before after removed : List Frame} (h : before.Perm (removed ++ after)) :
    (before : Multiset Frame) - after = removed := by
  rw [Multiset.coe_eq_coe.mpr h, ← Multiset.coe_add, add_tsub_cancel_right]

theorem JitterInvariant.shrink {run run' : JitterRun} (inv : JitterInvariant run)
    (hframes : run'.buffer.frames.Sublist run.buffer.frames) (hpushed : run'.pushed = run.pushed)
    (hemitted : run'.emitted = run.emitted)
    (hlast : run'.buffer.lastEmittedPtsUs = run.buffer.lastEmittedPtsUs)
    (hconserved : (run'.pushed : Multiset Frame) =
      run'.popped + run'.dropped + run'.discarded + run'.buffer.queued) :
    JitterInvariant run' where
  sorted := inv.sorted.sublist (hframes.map _)
  stable ptsUs := by
    rw [hpushed]
    exact ((hframes.map _).filter _).trans (inv.stable ptsUs)
  bounded := hframes.length_le.trans inv.bounded
  monotone := by rw [hemitted]; exact inv.monotone
  conserved := hconserved
  floor := by
    rw [hemitted]
    intro emitted hmem frame hframe
    exact inv.floor emitted hmem frame ((hframes.map _).subset hframe)
  remembered := by rw [hemitted, hlast]; exact inv.remembered

theorem JitterInvariant.emptied {run run' : JitterRun} (inv : JitterInvariant run)
    (hframes : run'.buffer.frames = []) (hemitted : run'.emitted = [])
    (hledger : run'.pushed = run.pushed ∧ run'.popped = run.popped ∧ run'.dropped = run.dropped ∧
      run'.discarded = run.discarded + run.buffer.queued) : JitterInvariant run' := by
  have hqueued : run'.buffer.queued = [] := by rw [JitterBuffer.queued, hframes]; rfl
  obtain ⟨hpushed, hpopped, hdropped, hdiscarded⟩ := hledger
  constructor
  · rw [hqueued]
    exact List.Pairwise.nil
  · intro ptsUs
    rw [hqueued]
    exact List.nil_sublist _
  · rw [hframes]
    exact Nat.zero_le _
  · rw [hemitted]
    exact List.Pairwise.nil
  · rw [hpushed, hpopped, hdropped, hdiscarded, hqueued, inv.conserved]
    simp [add_assoc]
  · rw [hqueued]
    simp
  · rw [hemitted]
    simp

theorem jitterInvariant_push {run : JitterRun} (inv : JitterInvariant run) (frame : Frame)
    (firstFragmentAtUs completedAtUs : Nat) :
    JitterInvariant (run.next (.pushAt frame firstFragmentAtUs completedAtUs)) := by
  by_cases hlate : ∃ emitted ∈ run.buffer.lastEmittedPtsUs, frame.ptsUs ≤ emitted
  · have hsame : run.buffer.perform (.pushAt frame firstFragmentAtUs completedAtUs) =
        run.buffer := by
      rw [JitterBuffer.perform, pushAt_late _ _ hlate]
    constructor <;> simp only [JitterRun.next, JitterRun.lost, hsame]
    · exact inv.sorted
    · intro ptsUs
      rw [List.filter_append]
      exact (inv.stable ptsUs).trans (List.sublist_append_left _ _)
    · exact inv.bounded
    · exact inv.monotone
    · rw [add_tsub_cancel_left, ← Multiset.coe_add, inv.conserved]
      simp only [Multiset.coe_singleton]
      abel
    · exact inv.floor
    · exact inv.remembered
  · obtain ⟨hlast, hlength, hsublist, removed, hperm, -⟩ :=
      pushAt_accepted firstFragmentAtUs completedAtUs hlate
    have hlost := lost_eq_of_perm hperm
    rw [← Multiset.coe_add, Multiset.coe_singleton] at hlost
    constructor
    · exact (inv.sorted.insertBehind frame).sublist hsublist
    · intro ptsUs
      refine (hsublist.filter _).trans ?_
      simp only [JitterRun.next]
      rw [inv.sorted.filter_insertBehind, List.filter_append, List.filter_singleton]
      refine (inv.stable ptsUs).append ?_
      by_cases hpts : frame.ptsUs = ptsUs <;> simp [hpts]
    · exact hlength
    · exact inv.monotone
    · simp only [JitterRun.next, JitterRun.lost]
      rw [hlost, ← Multiset.coe_add, inv.conserved]
      have hboth := Multiset.coe_eq_coe.mpr hperm
      rw [← Multiset.coe_add, ← Multiset.coe_add] at hboth
      rw [add_assoc, hboth]
      abel
    · intro emitted hemitted queued hqueued
      have hmem := (insertBehind_perm _ _).mem_iff.mp (hsublist.subset hqueued)
      cases List.mem_cons.mp hmem with
      | inl heq =>
          obtain ⟨last, hremembered, hle⟩ := inv.remembered emitted hemitted
          by_contra holder
          exact hlate ⟨last, hremembered, by rw [heq] at holder; omega⟩
      | inr hold => exact inv.floor emitted hemitted queued hold
    · intro emitted hemitted
      obtain ⟨last, hremembered, hle⟩ := inv.remembered emitted hemitted
      exact ⟨last, hlast ▸ hremembered, hle⟩

theorem jitterInvariant_pop {run : JitterRun} (inv : JitterInvariant run) (nowUs : Nat) :
    JitterInvariant (run.next (.popReady nowUs)) := by
  cases hframes : run.buffer.frames with
  | nil =>
      have hsame : run.buffer.popReady nowUs = (none, run.buffer) := by
        rw [JitterBuffer.popReady, hframes]
      refine inv.shrink ?_ rfl ?_ ?_ ?_ <;> simp only [JitterRun.next, JitterBuffer.perform, hsame]
      · exact List.Sublist.refl _
      · exact List.append_nil _
      · simpa using inv.conserved
  | cons front rest =>
      by_cases hwait : nowUs < run.buffer.decodeReleaseAtUs front.frame.ptsUs
      · have hsame : run.buffer.popReady nowUs = (none, run.buffer) := by
          rw [JitterBuffer.popReady, hframes]
          exact if_pos hwait
        refine inv.shrink ?_ rfl ?_ ?_ ?_ <;>
          simp only [JitterRun.next, JitterBuffer.perform, hsame]
        · exact List.Sublist.refl _
        · exact List.append_nil _
        · simpa using inv.conserved
      · have hqueued : run.buffer.queued = front.frame :: rest.map BufferedFrame.frame := by
          rw [JitterBuffer.queued, hframes, List.map_cons]
        have hsorted := inv.sorted
        rw [hqueued] at hsorted
        obtain ⟨hhead, htail⟩ := List.pairwise_cons.mp hsorted
        have hpop : ∃ after : JitterBuffer,
            run.buffer.popReady nowUs = (some front.frame, after) ∧ after.frames = rest ∧
              after.lastEmittedPtsUs = some front.frame.ptsUs := by
          rw [JitterBuffer.popReady, hframes]
          exact ⟨_, if_neg hwait, rfl, rfl⟩
        obtain ⟨after, hpop, hrest, hlast⟩ := hpop
        have hafter : after.queued = rest.map BufferedFrame.frame := by
          rw [JitterBuffer.queued, hrest]
        have hfloor : ∀ emitted ∈ run.emitted, emitted.ptsUs ≤ front.frame.ptsUs := by
          intro emitted hemitted
          exact inv.floor emitted hemitted front.frame (by rw [hqueued]; exact List.mem_cons_self)
        constructor <;> simp only [JitterRun.next, JitterBuffer.perform, hpop, hafter, hlast]
        · exact htail
        · intro ptsUs
          have hstable := inv.stable ptsUs
          rw [hqueued] at hstable
          exact ((List.sublist_cons_self _ _).filter _).trans hstable
        · have hbound := inv.bounded
          rw [hframes, List.length_cons] at hbound
          rw [hrest]
          omega
        · refine List.pairwise_append.mpr ⟨inv.monotone, List.pairwise_singleton _ _, ?_⟩
          intro emitted hemitted last hmem
          rw [Option.toList_some, List.mem_singleton] at hmem
          exact hmem ▸ hfloor emitted hemitted
        · rw [inv.conserved, hqueued, Option.toList_some, ← Multiset.cons_coe,
            ← Multiset.singleton_add, Multiset.coe_singleton]
          abel
        · intro emitted hemitted frame hframe
          cases List.mem_append.mp hemitted with
          | inl hold => exact (hfloor emitted hold).trans (hhead frame hframe)
          | inr hnew =>
              rw [Option.toList_some, List.mem_singleton] at hnew
              exact hnew ▸ hhead frame hframe
        · intro emitted hemitted
          refine ⟨_, rfl, ?_⟩
          cases List.mem_append.mp hemitted with
          | inl hold => exact hfloor emitted hold
          | inr hnew =>
              rw [Option.toList_some, List.mem_singleton] at hnew
              rw [hnew]

theorem jitterInvariant_next {run : JitterRun} (inv : JitterInvariant run)
    (label : JitterLabel) : JitterInvariant (run.next label) := by
  cases label with
  | pushAt frame firstFragmentAtUs completedAtUs =>
      exact jitterInvariant_push inv frame firstFragmentAtUs completedAtUs
  | popReady nowUs => exact jitterInvariant_pop inv nowUs
  | dropExpired nowUs maxQueueAgeUs =>
      obtain ⟨hlast, hsublist, removed, hperm, -⟩ :=
        dropExpired_spec run.buffer nowUs maxQueueAgeUs
      refine inv.shrink hsublist rfl rfl hlast ?_
      simp only [JitterRun.next, JitterRun.lost, lost_eq_of_perm hperm]
      have hboth := Multiset.coe_eq_coe.mpr hperm
      rw [← Multiset.coe_add] at hboth
      rw [inv.conserved, hboth]
      abel
  | observeDecodeTimeUs decodeTimeUs =>
      obtain ⟨hframes, hlast⟩ := updateTarget_queue { run.buffer with
        decodeTimesUs := pushBounded run.buffer.decodeTimesUs
          (min decodeTimeUs maxObservedDecodeUs) }
      refine inv.shrink (hframes ▸ List.Sublist.refl _) rfl rfl hlast ?_
      simp only [JitterRun.next, JitterRun.lost, add_zero, JitterBuffer.queued,
        JitterBuffer.perform, JitterBuffer.observeDecodeTimeUs, hframes]
      exact inv.conserved
  | setFixedTargetMs targetMs =>
      refine inv.shrink (List.Sublist.refl _) rfl rfl rfl ?_
      simp only [JitterRun.next, JitterRun.lost, add_zero]
      exact inv.conserved
  | discardQueued => exact inv.emptied rfl rfl ⟨rfl, rfl, rfl, rfl⟩
  | clear => exact inv.emptied rfl rfl ⟨rfl, rfl, rfl, rfl⟩

theorem reportsLoss_iff (run : JitterRun) (label : JitterLabel) :
    run.buffer.reportsLoss label ↔ ∃ frame ∈ run.lost label, frame.discardable = false := by
  cases label with
  | pushAt frame firstFragmentAtUs completedAtUs =>
      by_cases hlate : ∃ emitted ∈ run.buffer.lastEmittedPtsUs, frame.ptsUs ≤ emitted
      · simp [JitterBuffer.reportsLoss, JitterRun.lost, JitterBuffer.perform,
          pushAt_late _ _ hlate, add_tsub_cancel_left]
      · obtain ⟨-, -, -, removed, hperm, hreported⟩ :=
          pushAt_accepted firstFragmentAtUs completedAtUs hlate
        have hlost := lost_eq_of_perm hperm
        rw [← Multiset.coe_add, Multiset.coe_singleton] at hlost
        rw [hreported, JitterRun.lost, hlost]
        simp
  | dropExpired nowUs maxQueueAgeUs =>
      obtain ⟨-, -, removed, hperm, hreported⟩ := dropExpired_spec run.buffer nowUs maxQueueAgeUs
      rw [hreported, JitterRun.lost, lost_eq_of_perm hperm]
      simp
  | _ => simp [JitterBuffer.reportsLoss, JitterRun.lost]

/-- The buffer keeps its contract in every run. -/
theorem jitterBuffer_contract {run : JitterRun} (h : jitterSystem.Reachable run) :
    JitterContract run := by
  have inv : JitterInvariant run := by
    apply TransitionSystem.Reachable.invariant _ _ h
    · rintro s rfl
      exact ⟨List.Pairwise.nil, fun _ => List.nil_sublist _, Nat.zero_le _, List.Pairwise.nil,
        rfl, fun _ h => absurd h List.not_mem_nil, fun _ h => absurd h List.not_mem_nil⟩
    · rintro s label t hs rfl
      exact jitterInvariant_next hs label
  exact ⟨inv.sorted, inv.stable, inv.bounded, inv.monotone, inv.conserved, reportsLoss_iff run⟩

def sampleFrame (frameId ptsUs : Nat) (discardable : Bool) : Frame :=
  ⟨1, frameId, ptsUs, 0, 0, [], false, discardable⟩

/-- Frames come out of PTS order, the first is popped, one comes too late and one expires. -/
def sampleCalls : List JitterLabel :=
  [.pushAt (sampleFrame 2 66000 false) 66500 67000, .pushAt (sampleFrame 1 33000 false) 67100 67200,
    .pushAt (sampleFrame 3 66000 true) 67300 67400, .popReady 90000,
    .pushAt (sampleFrame 0 20000 false) 90100 90200, .dropExpired 167200 100000,
    .popReady 167300, .discardQueued]

theorem jitterBuffer_contract_sample :
    JitterContract (sampleCalls.foldl JitterRun.next JitterRun.start) :=
  jitterBuffer_contract (TransitionSystem.reachable_foldl _ _ _)

end PicooCamera.Jitter
