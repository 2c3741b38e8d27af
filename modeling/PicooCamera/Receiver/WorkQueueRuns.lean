import PicooCamera.Library.History
import PicooCamera.Library.TransitionSystem
import PicooCamera.Receiver.DecoderWorker

/-!
# Runs of the decoder's work queue

The owner submits, asks for admission, resets and stops; the worker pops. The
history of a run lists the accepted jobs, the popped items, the resets and the
stop. The jobs that were popped since any of its points and those still queued
are, in order, jobs that were accepted.
-/

namespace PicooCamera.Receiver

open PicooCamera.Library

inductive QueueEvent where
  | accepted (job : DecodeJob)
  | popped (item : WorkItem)
  | reset
  | stopped
  deriving DecidableEq, Repr

inductive QueueLabel where
  | submit (job : DecodeJob)
  | admission (kind : FrameKind)
  | reset
  | shutdown
  | pop
  deriving DecidableEq, Repr

structure QueueRun where
  queue : WorkQueue
  history : List QueueEvent
  deriving DecidableEq, Repr

def DecodeJob.kind (job : DecodeJob) : FrameKind := job.accessUnit.timeline.kind

def DecodeJob.stamp (job : DecodeJob) (generation : Nat) : DecodeJob :=
  { job with decoderGeneration := generation }

def WorkItem.job? : WorkItem → Option DecodeJob
  | .decode job => some job
  | _ => none

def WorkItem.reference? : WorkItem → Option DecodeJob
  | .decode job => if job.kind = .referenceDelta then some job else none
  | _ => none

/-- One item off the front; on an empty queue the worker waits. -/
def WorkQueue.popFront (q : WorkQueue) : WorkQueue := { q with items := q.items.tail }

namespace QueueRun

def start : QueueRun := ⟨WorkQueue.new, []⟩

def next (run : QueueRun) : QueueLabel → QueueRun
  | .submit job =>
      match run.queue.submit job with
      | (.queued, queue) =>
          ⟨queue, run.history ++ [.accepted (job.stamp run.queue.decoderGeneration)]⟩
      | (.dropped _, queue) => ⟨queue, run.history⟩
  | .admission _ => run
  | .reset =>
      if run.queue.stopped then run else ⟨run.queue.reset, run.history ++ [.reset]⟩
  | .shutdown =>
      if run.queue.stopped then run else ⟨run.queue.shutdown, run.history ++ [.stopped]⟩
  | .pop =>
      match run.queue.items with
      | [] => run
      | item :: _ => ⟨run.queue.popFront, run.history ++ [.popped item]⟩

def jobs (run : QueueRun) : List DecodeJob := run.queue.items.filterMap WorkItem.job?

def references (run : QueueRun) : List DecodeJob :=
  run.queue.items.filterMap WorkItem.reference?

end QueueRun

def queueSystem : TransitionSystem QueueRun QueueLabel :=
  TransitionSystem.ofFunction QueueRun.start QueueRun.next

namespace QueueEvent

def acceptedJob : QueueEvent → Option DecodeJob
  | .accepted job => some job
  | _ => none

def poppedJob : QueueEvent → Option DecodeJob
  | .popped item => item.job?
  | _ => none

def acceptedReference : QueueEvent → Option DecodeJob
  | .accepted job => (WorkItem.decode job).reference?
  | _ => none

def poppedReference : QueueEvent → Option DecodeJob
  | .popped item => item.reference?
  | _ => none

/-- The events that may remove a reference delta from the queue unpopped. -/
def clears : QueueEvent → Bool
  | .accepted job => job.kind = .key
  | .reset => true
  | .stopped => true
  | .popped _ => false

end QueueEvent

/-- What the queue promises in every state of a run. -/
structure QueueContract (run : QueueRun) : Prop where
  bounded : run.queue.pending ≤ maxPendingDecodeJobs
  oneReset : run.queue.items.count .reset ≤ 1
  ready : ∀ job, run.queue.admission job.kind = .ready → run.queue.stopped = false →
    ∀ pops, ((WorkQueue.popFront^[pops] run.queue).submit job).1 = .queued
  fifo : (run.history.filterMap QueueEvent.poppedJob).Sublist
    (run.history.filterMap QueueEvent.acceptedJob)
  /-- Jobs popped after a reset were accepted after it. -/
  fenced : Splits (fun _ event after => event = .reset →
    (after.filterMap QueueEvent.poppedJob).Sublist
      (after.filterMap QueueEvent.acceptedJob)) run.history
  /-- None of them is of a generation before the reset. -/
  notOlder : Splits (fun before event after => event = .reset →
    ∀ job ∈ after.filterMap QueueEvent.poppedJob, ∃ later ≤ after.count .reset,
      job.decoderGeneration = (before.count .reset + 1 + later) % 2 ^ 64) run.history
  /-- A job carries the generation of the resets before it. -/
  generation : Splits (fun before event _ => ∀ job, event = .accepted job →
    job.decoderGeneration = before.count .reset % 2 ^ 64) run.history
  /-- Until the queue is cleared an accepted reference delta is popped or queued. -/
  kept : Splits (fun _ event after => ∀ job, event = .accepted job →
    job.kind = .referenceDelta → (∀ later ∈ after, later.clears = false) →
    ∃ earlier, after.filterMap QueueEvent.poppedReference ++ run.references =
      earlier ++ job :: after.filterMap QueueEvent.acceptedReference) run.history

/-! ## What one operation does -/

theorem submit_queued {q q' : WorkQueue} {job : DecodeJob} (h : q.submit job = (.queued, q')) :
    q.stopped = false ∧ ∃ kept, q' = { q with items :=
        kept ++ [.decode (job.stamp q.decoderGeneration)] } ∧
      ((job.kind = .key ∧ kept = q.items.filter fun item => !item.isDecode) ∨
        (job.kind ≠ .key ∧ q.pending < maxPendingDecodeJobs ∧ kept = q.items) ∨
        (job.kind = .referenceDelta ∧ ∃ index, ∃ hindex : index < q.items.length,
          (q.items.get ⟨index, hindex⟩).isDiscardable ∧ kept = q.items.eraseIdx index)) := by
  have hkind : job.accessUnit.timeline.kind = job.kind := rfl
  unfold WorkQueue.submit at h
  simp only [hkind] at h
  by_cases hstopped : q.stopped
  · simp [hstopped] at h
  rw [if_neg hstopped] at h
  refine ⟨by simpa using hstopped, ?_⟩
  by_cases hkey : job.kind = .key
  · rw [if_pos hkey] at h
    exact ⟨_, (Prod.mk.inj h).2.symm, Or.inl ⟨hkey, rfl⟩⟩
  rw [if_neg hkey] at h
  by_cases hroom : q.pending < maxPendingDecodeJobs
  · rw [if_pos hroom] at h
    exact ⟨_, (Prod.mk.inj h).2.symm, Or.inr (Or.inl ⟨hkey, hroom, rfl⟩)⟩
  rw [if_neg hroom] at h
  by_cases hreference : job.kind = .referenceDelta
  · rw [if_pos hreference] at h
    cases hfind : q.items.findIdx? WorkItem.isDiscardable with
    | none =>
        rw [hfind] at h
        simp at h
    | some index =>
        rw [hfind] at h
        obtain ⟨hindex, hdiscardable, -⟩ := List.findIdx?_eq_some_iff_getElem.mp hfind
        exact ⟨_, (Prod.mk.inj h).2.symm,
          Or.inr (Or.inr ⟨hreference, index, hindex, hdiscardable, rfl⟩)⟩
  · rw [if_neg hreference] at h
    simp at h

theorem submit_dropped {q q' : WorkQueue} {job : DecodeJob} {refresh : Bool}
    (h : q.submit job = (.dropped refresh, q')) : q' = q := by
  unfold WorkQueue.submit WorkQueue.push at h
  grind

theorem isDecode_of_isDiscardable {item : WorkItem} (h : item.isDiscardable) :
    item.isDecode := by
  cases item with
  | decode job => rfl
  | reset => cases h
  | shutdown => cases h

theorem job?_eq_none_iff {item : WorkItem} : item.job? = none ↔ item.isDecode = false := by
  cases item <;> simp [WorkItem.job?, WorkItem.isDecode]

theorem reference?_of_isDiscardable {item : WorkItem} (h : item.isDiscardable) :
    item.reference? = none := by
  cases item with
  | decode job =>
      have hkind : job.kind = .discardableDelta := of_decide_eq_true h
      simp [WorkItem.reference?, hkind]
  | reset => rfl
  | shutdown => rfl

theorem pending_filter (q : WorkQueue) :
    ((q.items.filter fun item => !item.isDecode).filter WorkItem.isDecode).length = 0 := by
  rw [List.filter_filter, List.length_eq_zero_iff, List.filter_eq_nil_iff]
  simp

theorem jobs_filter (items : List WorkItem) :
    (items.filter fun item => !item.isDecode).filterMap WorkItem.job? = [] := by
  rw [List.filterMap_eq_nil_iff]
  intro item hitem
  rw [job?_eq_none_iff]
  simpa using (List.mem_filter.mp hitem).2

/-! ## The bounds of the queue -/

theorem submit_pending {q q' : WorkQueue} {job : DecodeJob} (h : q.submit job = (.queued, q'))
    (hbound : q.pending ≤ maxPendingDecodeJobs) : q'.pending ≤ maxPendingDecodeJobs := by
  obtain ⟨-, kept, rfl, hkept⟩ := submit_queued h
  have hlength : ∀ items : List WorkItem,
      ((items ++ [WorkItem.decode (job.stamp q.decoderGeneration)]).filter
        WorkItem.isDecode).length =
        (items.filter WorkItem.isDecode).length + 1 := by
    intro items
    rw [List.filter_append, List.length_append]
    rfl
  simp only [WorkQueue.pending, maxPendingDecodeJobs] at hbound hkept ⊢
  rw [hlength]
  cases hkept with
  | inl hkey =>
      rw [hkey.2, pending_filter]
      decide
  | inr hkept =>
      cases hkept with
      | inl hroom =>
          rw [hroom.2.2]
          omega
      | inr hreplaced =>
          obtain ⟨-, index, hindex, hdiscardable, rfl⟩ := hreplaced
          have hsplit : (q.items.filter WorkItem.isDecode).length =
              ((q.items.eraseIdx index).filter WorkItem.isDecode).length + 1 := by
            have hperm := List.getElem_cons_eraseIdx_perm hindex
            have hdecode : q.items[index].isDecode := isDecode_of_isDiscardable hdiscardable
            rw [← (hperm.filter WorkItem.isDecode).length_eq, List.filter_cons_of_pos hdecode]
            rfl
          omega

theorem submit_resets {q q' : WorkQueue} {job : DecodeJob} (h : q.submit job = (.queued, q')) :
    q'.items.count .reset ≤ q.items.count .reset := by
  obtain ⟨-, kept, rfl, hkept⟩ := submit_queued h
  have hsublist : kept.Sublist q.items := by
    rcases hkept with ⟨-, rfl⟩ | ⟨-, -, rfl⟩ | ⟨-, index, -, -, rfl⟩
    · exact List.filter_sublist
    · exact List.Sublist.refl _
    · exact List.eraseIdx_sublist _ _
  simpa using hsublist.count_le .reset

theorem iterate_popFront (q : WorkQueue) (pops : Nat) :
    WorkQueue.popFront^[pops] q = { q with items := q.items.drop pops } := by
  induction pops with
  | zero => rfl
  | succ pops ih =>
      rw [Function.iterate_succ_apply', ih]
      simp [WorkQueue.popFront]

/-- A queue that is full after some pops and had admitted the job has popped no job: the
discardable one that a reference delta may replace is still there. -/
theorem reference_of_full {q : WorkQueue} {kind : FrameKind}
    (hbound : q.pending ≤ maxPendingDecodeJobs) (hready : q.admission kind = .ready)
    (hrunning : q.stopped = false) (hkey : kind ≠ .key) (pops : Nat)
    (hfull : ¬((q.items.drop pops).filter WorkItem.isDecode).length < maxPendingDecodeJobs) :
    kind = .referenceDelta ∧ ∃ item ∈ q.items.drop pops, item.isDiscardable := by
  have hparts : (q.items.filter WorkItem.isDecode).length =
      ((q.items.take pops).filter WorkItem.isDecode).length +
        ((q.items.drop pops).filter WorkItem.isDecode).length := by
    rw [← List.length_append, ← List.filter_append, List.take_append_drop]
  simp only [WorkQueue.pending] at hbound
  have hnone : (q.items.take pops).filter WorkItem.isDecode = [] := by
    apply List.eq_nil_of_length_eq_zero
    omega
  have hnotready : ¬q.pending < maxPendingDecodeJobs := by
    simp only [WorkQueue.pending]
    omega
  unfold WorkQueue.admission at hready
  rw [if_neg (by simp [hrunning, hkey]), if_neg hnotready] at hready
  by_cases hreplace : kind = .referenceDelta ∧ q.items.any WorkItem.isDiscardable
  · obtain ⟨hreference, hany⟩ := hreplace
    obtain ⟨item, hitem, hdiscardable⟩ := List.any_eq_true.mp hany
    refine ⟨hreference, item, ?_, hdiscardable⟩
    rw [← List.take_append_drop pops q.items, List.mem_append] at hitem
    cases hitem with
    | inl htaken =>
        have hmem := List.mem_filter.mpr ⟨htaken, isDecode_of_isDiscardable hdiscardable⟩
        rw [hnone] at hmem
        cases hmem
    | inr hdropped => exact hdropped
  · rw [if_neg hreplace] at hready
    by_cases hdiscardable : kind = .discardableDelta
    · rw [if_pos hdiscardable] at hready
      cases hready
    · rw [if_neg hdiscardable] at hready
      cases hready

theorem submit_of_admission {q : WorkQueue} {job : DecodeJob}
    (hbound : q.pending ≤ maxPendingDecodeJobs) (hready : q.admission job.kind = .ready)
    (hrunning : q.stopped = false) (pops : Nat) :
    ((WorkQueue.popFront^[pops] q).submit job).1 = .queued := by
  have hkind : job.accessUnit.timeline.kind = job.kind := rfl
  have hleft : ∀ left : WorkQueue, left.stopped = false → left.items = q.items.drop pops →
      (left.submit job).1 = .queued := by
    intro left hopen hitems
    unfold WorkQueue.submit
    simp only [hkind]
    rw [if_neg (by simp [hopen])]
    by_cases hkey : job.kind = .key
    · rw [if_pos hkey]
      rfl
    rw [if_neg hkey]
    by_cases hroom : left.pending < maxPendingDecodeJobs
    · rw [if_pos hroom]
      rfl
    rw [if_neg hroom]
    obtain ⟨hreference, hany⟩ := reference_of_full hbound hready hrunning hkey pops
      (by rw [← hitems]; exact hroom)
    rw [if_pos hreference]
    cases hfind : left.items.findIdx? WorkItem.isDiscardable with
    | some index => rfl
    | none =>
        rw [hitems, List.findIdx?_eq_none_iff] at hfind
        obtain ⟨item, hitem, hdiscardable⟩ := hany
        have habsent := hfind item hitem
        rw [hdiscardable] at habsent
        cases habsent
  rw [iterate_popFront]
  exact hleft _ hrunning rfl

/-! ## One step of a run -/

/-- What a step can do to the history, the queued jobs and the generation. -/
inductive QueueStep (run run' : QueueRun) : Prop where
  | same (hrun : run' = run)
  | accepted (job : DecodeJob) (hhistory : run'.history = run.history ++ [.accepted job])
      (hstamp : job.decoderGeneration = run.queue.decoderGeneration)
      (hjobs : ∃ kept, run'.jobs = kept ++ [job] ∧ kept.Sublist run.jobs)
      (hreferences : job.kind ≠ .key →
        run'.references = run.references ++ (WorkItem.decode job).reference?.toList)
      (hgeneration : run'.queue.decoderGeneration = run.queue.decoderGeneration)
  | popped (item : WorkItem) (hhistory : run'.history = run.history ++ [.popped item])
      (hjobs : run.jobs = item.job?.toList ++ run'.jobs)
      (hreferences : run.references = item.reference?.toList ++ run'.references)
      (hgeneration : run'.queue.decoderGeneration = run.queue.decoderGeneration)
  | reset (hhistory : run'.history = run.history ++ [.reset]) (hjobs : run'.jobs = [])
      (hgeneration : run'.queue.decoderGeneration = (run.queue.decoderGeneration + 1) % 2 ^ 64)
  | stopped (hhistory : run'.history = run.history ++ [.stopped]) (hjobs : run'.jobs = [])
      (hgeneration : run'.queue.decoderGeneration = run.queue.decoderGeneration)

theorem queueStep_submit (run : QueueRun) (job : DecodeJob) :
    QueueStep run (run.next (.submit job)) := by
  cases hsubmit : run.queue.submit job with
  | mk outcome q =>
      cases outcome with
      | dropped refresh =>
          apply QueueStep.same
          rw [QueueRun.next, hsubmit, submit_dropped hsubmit]
      | queued =>
          obtain ⟨-, kept, rfl, hkept⟩ := submit_queued hsubmit
          simp only [QueueRun.next, hsubmit]
          refine QueueStep.accepted (job.stamp run.queue.decoderGeneration) rfl rfl ?_ ?_ rfl
          · refine ⟨kept.filterMap WorkItem.job?, filterMap_snoc _ _ _, ?_⟩
            rcases hkept with ⟨-, rfl⟩ | ⟨-, -, rfl⟩ | ⟨-, index, -, -, rfl⟩
            · rw [jobs_filter]
              exact List.nil_sublist _
            · exact List.Sublist.refl _
            · exact filterMap_eraseIdx_sublist _ _ _
          · intro hdelta
            have hsame : kept.filterMap WorkItem.reference? = run.references := by
              rcases hkept with ⟨hkey, -⟩ | ⟨-, -, rfl⟩ | ⟨-, index, hindex, hdiscardable, rfl⟩
              · exact absurd hkey hdelta
              · rfl
              · exact filterMap_eraseIdx_of_none (reference?_of_isDiscardable hdiscardable)
            rw [QueueRun.references, filterMap_snoc, hsame]

theorem queueStep_next (run : QueueRun) (label : QueueLabel) :
    QueueStep run (run.next label) := by
  cases label with
  | submit job => exact queueStep_submit run job
  | admission kind => exact QueueStep.same rfl
  | reset =>
      by_cases hstopped : run.queue.stopped
      · exact QueueStep.same (by rw [QueueRun.next, if_pos hstopped])
      · simp only [QueueRun.next, if_neg hstopped, WorkQueue.reset]
        refine QueueStep.reset rfl ?_ rfl
        simp only [QueueRun.jobs, filterMap_snoc, List.append_eq_nil_iff, List.filterMap_eq_nil_iff]
        refine ⟨?_, rfl⟩
        intro item hitem
        rw [job?_eq_none_iff]
        simpa using (Bool.and_eq_true_iff.mp (List.mem_filter.mp hitem).2).1
  | shutdown =>
      by_cases hstopped : run.queue.stopped
      · exact QueueStep.same (by rw [QueueRun.next, if_pos hstopped])
      · simp only [QueueRun.next, if_neg hstopped, WorkQueue.shutdown]
        exact QueueStep.stopped rfl rfl rfl
  | pop =>
      cases hitems : run.queue.items with
      | nil => exact QueueStep.same (by simp only [QueueRun.next, hitems])
      | cons item rest =>
          simp only [QueueRun.next, hitems]
          refine QueueStep.popped item rfl ?_ ?_ rfl
          · simp only [QueueRun.jobs, WorkQueue.popFront, hitems, List.tail_cons]
            exact filterMap_cons_toList _ _ _
          · simp only [QueueRun.references, WorkQueue.popFront, hitems, List.tail_cons]
            exact filterMap_cons_toList _ _ _

/-- The popped and the queued jobs, in the order in which they were accepted. -/
def InOrder (run : QueueRun) (events : List QueueEvent) : Prop :=
  (events.filterMap QueueEvent.poppedJob ++ run.jobs).Sublist
    (events.filterMap QueueEvent.acceptedJob)

/-- The reference deltas behind an accepted one are popped or queued. -/
def KeptBehind (run : QueueRun) (event : QueueEvent) (after : List QueueEvent) : Prop :=
  ∀ job, event = .accepted job → job.kind = .referenceDelta →
    (∀ later ∈ after, later.clears = false) →
    ∃ earlier, after.filterMap QueueEvent.poppedReference ++ run.references =
      earlier ++ job :: after.filterMap QueueEvent.acceptedReference

structure OrderInvariant (run : QueueRun) : Prop where
  generationNow : run.queue.decoderGeneration = run.history.count .reset % 2 ^ 64
  order : InOrder run run.history
  fenced : Splits (fun _ event after => event = .reset → InOrder run after) run.history
  generation : Splits (fun before event _ => ∀ job, event = .accepted job →
    job.decoderGeneration = before.count .reset % 2 ^ 64) run.history
  kept : Splits (fun _ event after => KeptBehind run event after) run.history

section Preservation

variable {run run' : QueueRun} {events : List QueueEvent}

theorem InOrder.accepted {job : DecodeJob}
    (hjobs : ∃ kept, run'.jobs = kept ++ [job] ∧ kept.Sublist run.jobs)
    (h : InOrder run events) : InOrder run' (events ++ [.accepted job]) := by
  obtain ⟨kept, hkept, hsublist⟩ := hjobs
  unfold InOrder
  rw [filterMap_snoc, filterMap_snoc, hkept]
  have hfront : (events.filterMap QueueEvent.poppedJob ++ kept).Sublist
      (events.filterMap QueueEvent.acceptedJob) :=
    ((List.Sublist.refl _).append hsublist).trans h
  simpa [QueueEvent.poppedJob, QueueEvent.acceptedJob] using
    hfront.append (List.Sublist.refl [job])

theorem InOrder.popped {item : WorkItem} (hjobs : run.jobs = item.job?.toList ++ run'.jobs)
    (h : InOrder run events) : InOrder run' (events ++ [.popped item]) := by
  unfold InOrder at h ⊢
  rw [filterMap_snoc, filterMap_snoc, List.append_assoc]
  simpa [QueueEvent.poppedJob, QueueEvent.acceptedJob, hjobs] using h

theorem InOrder.cleared {event : QueueEvent} (hjobs : run'.jobs = [])
    (hpopped : event.poppedJob = none) (haccepted : event.acceptedJob = none)
    (h : InOrder run events) : InOrder run' (events ++ [event]) := by
  unfold InOrder at h ⊢
  rw [filterMap_snoc, filterMap_snoc, hjobs, hpopped, haccepted]
  simpa using (List.sublist_append_left _ _).trans h

theorem InOrder.nil (hjobs : run'.jobs = []) : InOrder run' [] := by
  unfold InOrder
  rw [hjobs]
  exact List.Sublist.refl _

theorem KeptBehind.accepted {event : QueueEvent} {job : DecodeJob}
    (hreferences : job.kind ≠ .key →
      run'.references = run.references ++ (WorkItem.decode job).reference?.toList)
    (h : KeptBehind run event events) : KeptBehind run' event (events ++ [.accepted job]) := by
  intro first hfirst hkind hclear
  have hdelta : job.kind ≠ .key := by
    have hlast := hclear (.accepted job) (by simp)
    simpa [QueueEvent.clears] using hlast
  obtain ⟨earlier, hsplit⟩ := h first hfirst hkind fun later hlater =>
    hclear later (List.mem_append_left _ hlater)
  refine ⟨earlier, ?_⟩
  rw [filterMap_snoc, filterMap_snoc, hreferences hdelta]
  calc _ = (events.filterMap QueueEvent.poppedReference ++ run.references) ++
        (WorkItem.decode job).reference?.toList := by simp [QueueEvent.poppedReference]
    _ = _ := by
      rw [hsplit]
      simp [QueueEvent.acceptedReference]

theorem KeptBehind.popped {event : QueueEvent} {item : WorkItem}
    (hreferences : run.references = item.reference?.toList ++ run'.references)
    (h : KeptBehind run event events) : KeptBehind run' event (events ++ [.popped item]) := by
  intro first hfirst hkind hclear
  obtain ⟨earlier, hsplit⟩ := h first hfirst hkind fun later hlater =>
    hclear later (List.mem_append_left _ hlater)
  refine ⟨earlier, ?_⟩
  rw [filterMap_snoc, filterMap_snoc]
  calc _ = events.filterMap QueueEvent.poppedReference ++ run.references := by
        simp [QueueEvent.poppedReference, hreferences]
    _ = _ := by
      rw [hsplit]
      simp [QueueEvent.acceptedReference]

theorem KeptBehind.cleared {event cleared : QueueEvent} (hclears : cleared.clears = true) :
    KeptBehind run' event (events ++ [cleared]) := by
  intro first _ _ hclear
  have hlast := hclear cleared (by simp)
  rw [hclears] at hlast
  cases hlast

end Preservation

theorem orderInvariant_step {run run' : QueueRun} (hstep : QueueStep run run')
    (inv : OrderInvariant run) : OrderInvariant run' := by
  cases hstep with
  | same hrun =>
      rw [hrun]
      exact inv
  | accepted job hhistory hstamp hjobs hreferences hgeneration =>
      constructor <;> rw [hhistory]
      · rw [hgeneration, inv.generationNow, List.count_append]
        rfl
      · exact inv.order.accepted hjobs
      · refine Splits.snoc (by simp) ?_
        intro before event early hsplit hreset
        exact (inv.fenced before event early hsplit hreset).accepted hjobs
      · refine Splits.snoc ?_ fun before event early hsplit =>
          inv.generation before event early hsplit
        rintro other heq
        cases heq
        rw [hstamp, inv.generationNow]
      · refine Splits.snoc ?_ fun before event early hsplit =>
          (inv.kept before event early hsplit).accepted hreferences
        rintro other heq hkind -
        cases heq
        refine ⟨run.references, ?_⟩
        have hdelta : job.kind ≠ .key := by rw [hkind]; decide
        simp [hreferences hdelta, WorkItem.reference?, hkind]
  | popped item hhistory hjobs hreferences hgeneration =>
      constructor <;> rw [hhistory]
      · rw [hgeneration, inv.generationNow, List.count_append]
        rfl
      · exact inv.order.popped hjobs
      · refine Splits.snoc (by simp) ?_
        intro before event early hsplit hreset
        exact (inv.fenced before event early hsplit hreset).popped hjobs
      · exact Splits.snoc (by simp) fun before event early hsplit =>
          inv.generation before event early hsplit
      · refine Splits.snoc (fun job heq => by cases heq) fun before event early hsplit =>
          (inv.kept before event early hsplit).popped hreferences
  | reset hhistory hjobs hgeneration =>
      constructor <;> rw [hhistory]
      · rw [hgeneration, inv.generationNow, List.count_append, Nat.mod_add_mod]
        rfl
      · exact inv.order.cleared hjobs rfl rfl
      · refine Splits.snoc (fun _ => InOrder.nil hjobs) ?_
        intro before event early hsplit hreset
        exact (inv.fenced before event early hsplit hreset).cleared hjobs rfl rfl
      · exact Splits.snoc (by simp) fun before event early hsplit =>
          inv.generation before event early hsplit
      · exact Splits.snoc (fun job heq => by cases heq) fun before event early hsplit =>
          KeptBehind.cleared rfl
  | stopped hhistory hjobs hgeneration =>
      constructor <;> rw [hhistory]
      · rw [hgeneration, inv.generationNow, List.count_append]
        rfl
      · exact inv.order.cleared hjobs rfl rfl
      · refine Splits.snoc (by simp) ?_
        intro before event early hsplit hreset
        exact (inv.fenced before event early hsplit hreset).cleared hjobs rfl rfl
      · exact Splits.snoc (by simp) fun before event early hsplit =>
          inv.generation before event early hsplit
      · exact Splits.snoc (fun job heq => by cases heq) fun before event early hsplit =>
          KeptBehind.cleared rfl

theorem bounds_next {run : QueueRun} (label : QueueLabel)
    (hpending : run.queue.pending ≤ maxPendingDecodeJobs)
    (hresets : run.queue.items.count .reset ≤ 1) :
    (run.next label).queue.pending ≤ maxPendingDecodeJobs ∧
      (run.next label).queue.items.count .reset ≤ 1 := by
  cases label with
  | submit job =>
      cases hsubmit : run.queue.submit job with
      | mk outcome q =>
          cases outcome with
          | dropped refresh =>
              simp only [QueueRun.next, hsubmit, submit_dropped hsubmit]
              exact ⟨hpending, hresets⟩
          | queued =>
              simp only [QueueRun.next, hsubmit]
              exact ⟨submit_pending hsubmit hpending, (submit_resets hsubmit).trans hresets⟩
  | admission kind => exact ⟨hpending, hresets⟩
  | reset =>
      by_cases hstopped : run.queue.stopped
      · rw [QueueRun.next, if_pos hstopped]
        exact ⟨hpending, hresets⟩
      · simp only [QueueRun.next, if_neg hstopped, WorkQueue.reset, WorkQueue.pending]
        constructor
        · have hnone : (run.queue.items.filter fun item =>
              !item.isDecode && item ≠ .reset).filter WorkItem.isDecode = [] := by
            rw [List.filter_filter, List.filter_eq_nil_iff]
            intro item _
            cases item.isDecode <;> simp
          rw [List.filter_append, hnone]
          decide
        · rw [List.count_append, List.count_eq_zero.mpr (by simp)]
          simp
  | shutdown =>
      by_cases hstopped : run.queue.stopped
      · rw [QueueRun.next, if_pos hstopped]
        exact ⟨hpending, hresets⟩
      · simp only [QueueRun.next, if_neg hstopped, WorkQueue.shutdown, WorkQueue.pending]
        exact ⟨by simp [WorkItem.isDecode], by simp⟩
  | pop =>
      cases hitems : run.queue.items with
      | nil =>
          have hsame : run.next .pop = run := by simp only [QueueRun.next, hitems]
          rw [hsame]
          exact ⟨hpending, hresets⟩
      | cons item rest =>
          simp only [QueueRun.next, hitems]
          have htail : run.queue.items.tail.Sublist run.queue.items := List.tail_sublist _
          exact ⟨((htail.filter _).length_le).trans hpending, (htail.count_le _).trans hresets⟩

theorem OrderInvariant.notOlder {run : QueueRun} (inv : OrderInvariant run) :
    Splits (fun before event after => event = .reset →
      ∀ job ∈ after.filterMap QueueEvent.poppedJob, ∃ later ≤ after.count .reset,
        job.decoderGeneration = (before.count .reset + 1 + later) % 2 ^ 64) run.history := by
  rintro before event after hsplit rfl job hpopped
  have haccepted : job ∈ after.filterMap QueueEvent.acceptedJob :=
    ((List.sublist_append_left _ _).trans (inv.fenced before _ after hsplit rfl)).subset hpopped
  obtain ⟨event, hmem, hjob⟩ := List.mem_filterMap.mp haccepted
  have hevent : event = .accepted job := by
    cases event <;> simp_all [QueueEvent.acceptedJob]
  obtain ⟨early, late, rfl⟩ := List.append_of_mem hmem
  have hstamp := inv.generation (before ++ .reset :: early) event late
    (by rw [hsplit, List.append_assoc, List.cons_append]) job hevent
  refine ⟨early.count .reset, ?_, ?_⟩
  · rw [List.count_append]
    omega
  · rw [hstamp, List.count_append, List.count_cons_self]
    congr 1
    omega

/-- The queue keeps its contract in every run. -/
theorem workQueue_contract {run : QueueRun} (h : queueSystem.Reachable run) :
    QueueContract run := by
  have hbounds : run.queue.pending ≤ maxPendingDecodeJobs ∧
      run.queue.items.count .reset ≤ 1 := by
    apply TransitionSystem.Reachable.invariant _ _ h
    · rintro s rfl
      exact ⟨by decide, by decide⟩
    · rintro s label t hs rfl
      exact bounds_next label hs.1 hs.2
  have horder : OrderInvariant run := by
    apply TransitionSystem.Reachable.invariant _ _ h
    · rintro s rfl
      exact ⟨rfl, InOrder.nil rfl, Splits.nil, Splits.nil, Splits.nil⟩
    · rintro s label t hs rfl
      exact orderInvariant_step (queueStep_next s label) hs
  exact {
    bounded := hbounds.1
    oneReset := hbounds.2
    ready := fun job hready hrunning pops => submit_of_admission hbounds.1 hready hrunning pops
    fifo := (List.sublist_append_left _ _).trans horder.order
    fenced := fun before event after hsplit hreset =>
      (List.sublist_append_left _ _).trans (horder.fenced before event after hsplit hreset)
    notOlder := horder.notOlder
    generation := horder.generation
    kept := horder.kept }

def sampleJob (frameId : Nat) (kind : FrameKind) : DecodeJob where
  configRevision := 1
  accessUnit := ⟨⟨1, 1, frameId, 33333 * frameId, 0, 0, 0, kind⟩, [0x65]⟩
  streamConfig := none
  decoderGeneration := 0

/-- A reference evicts a discardable frame, and a keyframe all that waits; the job behind it is
dropped by a reset. -/
def sampleLabels : List QueueLabel :=
  [.submit (sampleJob 1 .key), .pop, .submit (sampleJob 2 .discardableDelta),
    .submit (sampleJob 3 .referenceDelta), .submit (sampleJob 4 .referenceDelta),
    .submit (sampleJob 5 .referenceDelta), .submit (sampleJob 6 .key), .pop,
    .submit (sampleJob 7 .referenceDelta), .reset, .pop, .submit (sampleJob 8 .key), .pop]

example : ((sampleLabels.foldl QueueRun.next QueueRun.start).history.filterMap
    QueueEvent.poppedJob).map (fun job => (job.accessUnit.timeline.frameId,
      job.decoderGeneration)) = [(1, 0), (6, 0), (8, 1)] := by
  decide

theorem workQueue_contract_sample :
    QueueContract (sampleLabels.foldl QueueRun.next QueueRun.start) :=
  workQueue_contract (TransitionSystem.reachable_foldl _ _ _)

end PicooCamera.Receiver
