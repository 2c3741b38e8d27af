import PicooCamera.Receiver.Media
import PicooCamera.Receiver.WorkQueueRuns

/-!
# Custody of a decode job

A queued job is in the queue, with the decoder, or in the channel as a
completion that the owner has not taken. The thread moves it along, and loses
it only where it exits and reports that.
-/

namespace PicooCamera.Receiver

open PicooCamera.Library

/-- What an event of the decoder thread says about the decoder's readiness. -/
def DecoderEvent.readiness? : DecoderEvent → Option DecoderReadiness
  | .capabilities result => some (DecoderReadiness.ofResult result)
  | .unavailable error => some (.unavailable error)
  | .started => none
  | .completed _ _ _ _ => none

namespace DecoderWorker

inductive Holds (d : DecoderWorker) (job : DecodeJob) : Prop
  | queued (h : .decode job ∈ d.queue.items)
  | executing (h : d.thread = .decoding job)
  | completed (time : Nat) (result : Except String DecodeOutcome)
      (h : .completed job.accessUnit.timeline job.decoderGeneration time result ∈ d.events)

/-- Only the thread stops the queue, when it exits. -/
structure Sound (d : DecoderWorker) : Prop where
  stops : d.queue.stopped → d.thread = .exited
  shut : WorkItem.shutdown ∈ d.queue.items → d.queue.stopped

/-- The readiness once the owner has taken every event of the channel. -/
def finalReadiness (events : List DecoderEvent) (readiness : DecoderReadiness) :
    DecoderReadiness :=
  events.foldl (fun known event => event.readiness?.getD known) readiness

/-- What one step of the thread does. -/
inductive Move (d : DecoderWorker) (label : DecoderStep) : DecoderWorker → Prop
  | stay : Move d label d
  | ready (capabilities : Protocol.Capabilities) (preparing : d.thread = .preparing) :
      Move d label { d with
        thread := .idle
        events := d.events ++ [.capabilities (.ok capabilities)] }
  | fail (event : DecoderEvent) (error : String)
      (tells : event.readiness? = some (.unavailable error)) (running : d.thread ≠ .exited) :
      Move d label { d with
        queue := d.queue.shutdown
        thread := .exited
        events := d.events ++ [event] }
  | start (job : DecodeJob) (rest : List WorkItem) (popped : label = .pop)
      (idle : d.thread = .idle) (front : d.queue.items = .decode job :: rest) :
      Move d label { d with
        queue.items := rest
        thread := .decoding job
        events := d.events ++ [.started] }
  | reset (rest : List WorkItem) (idle : d.thread = .idle)
      (front : d.queue.items = .reset :: rest) :
      Move d label { d with queue.items := rest, thread := .resetting }
  | shutdown (rest : List WorkItem) (idle : d.thread = .idle)
      (front : d.queue.items = .shutdown :: rest) :
      Move d label { d with queue.items := rest }.exit
  | complete (job : DecodeJob) (time : Nat) (result : Except String DecodeOutcome)
      (executed : label = .complete time result) (decoding : d.thread = .decoding job) :
      Move d label { d with
        thread := .idle
        events := d.events ++
          [.completed job.accessUnit.timeline job.decoderGeneration time result] }
  | resume (resetting : d.thread = .resetting) : Move d label { d with thread := .idle }

theorem move_step (d : DecoderWorker) (label : DecoderStep) : Move d label (d.step label) := by
  cases label with
  | prepare result =>
      cases result with
      | ok capabilities =>
          cases hthread : d.thread with
          | preparing => simpa [step, hthread, send] using Move.ready capabilities hthread
          | _ => simpa [step, hthread] using Move.stay
      | error error =>
          cases hthread : d.thread with
          | preparing =>
              have hrunning : d.thread ≠ .exited := by simp [hthread]
              simpa [step, hthread, send, exit] using
                Move.fail (.capabilities (.error error)) error rfl hrunning
          | _ => simpa [step, hthread] using Move.stay
  | pop =>
      cases hthread : d.thread with
      | idle =>
          simp only [step, hthread, popItem]
          cases hitems : d.queue.items with
          | nil => exact Move.stay
          | cons item rest =>
              cases item with
              | decode job => exact Move.start job rest rfl hthread hitems
              | reset => exact Move.reset rest hthread hitems
              | shutdown => exact Move.shutdown rest hthread hitems
      | _ => simpa [step, hthread] using Move.stay
  | complete time result =>
      cases hthread : d.thread with
      | decoding job =>
          simpa [step, hthread, send] using Move.complete job time result rfl hthread
      | _ => simpa [step, hthread] using Move.stay
  | crash error =>
      have hfail : d.thread ≠ .exited → Move d (.crash error) ((d.send (.unavailable error)).exit) :=
        Move.fail (.unavailable error) error rfl
      cases hthread : d.thread with
      | decoding job =>
          simp only [step, hthread]
          exact hfail (by simp [hthread])
      | resetting =>
          simp only [step, hthread]
          exact hfail (by simp [hthread])
      | _ => simpa [step, hthread] using Move.stay
  | resetDone =>
      cases hthread : d.thread with
      | resetting => simpa [step, hthread] using Move.resume hthread
      | _ => simpa [step, hthread] using Move.stay

/-! ## What a step keeps -/

variable {d d' : DecoderWorker} {job : DecodeJob} {label : DecoderStep}

theorem generation_shutdown (q : WorkQueue) :
    q.shutdown.decoderGeneration = q.decoderGeneration := by
  unfold WorkQueue.shutdown
  split <;> rfl

theorem stopped_shutdown (q : WorkQueue) : q.shutdown.stopped = true := by
  unfold WorkQueue.shutdown
  split
  · assumption
  · rfl

theorem Move.generation (h : Move d label d') :
    d'.queue.decoderGeneration = d.queue.decoderGeneration := by
  cases h with
  | fail => exact generation_shutdown _
  | shutdown => exact generation_shutdown _
  | _ => rfl

theorem Sound.running (h : d.Sound) (hthread : d.thread ≠ .exited) :
    ¬d.queue.stopped ∧ WorkItem.shutdown ∉ d.queue.items := by
  have hstopped : ¬d.queue.stopped := fun hstopped => hthread (h.stops hstopped)
  exact ⟨hstopped, fun hshut => hstopped (h.shut hshut)⟩

theorem Sound.of_running (hstopped : ¬d.queue.stopped)
    (hshut : WorkItem.shutdown ∉ d.queue.items) : d.Sound :=
  ⟨fun h => absurd h hstopped, fun h => absurd h hshut⟩

theorem Sound.of_exited (hstopped : d.queue.stopped) (hthread : d.thread = .exited) :
    d.Sound :=
  ⟨fun _ => hthread, fun _ => hstopped⟩

theorem Sound.move (h : d.Sound) (hmove : Move d label d') : d'.Sound := by
  cases hmove with
  | stay => exact h
  | fail => exact Sound.of_exited (stopped_shutdown _) rfl
  | shutdown => exact Sound.of_exited (stopped_shutdown _) rfl
  | ready capabilities preparing =>
      have hrunning := h.running (by simp [preparing])
      exact Sound.of_running hrunning.1 hrunning.2
  | start job rest popped idle front =>
      have hrunning := h.running (by simp [idle])
      rw [front] at hrunning
      exact Sound.of_running hrunning.1 fun hshut => hrunning.2 (List.mem_cons_of_mem _ hshut)
  | reset rest idle front =>
      have hrunning := h.running (by simp [idle])
      rw [front] at hrunning
      exact Sound.of_running hrunning.1 fun hshut => hrunning.2 (List.mem_cons_of_mem _ hshut)
  | complete job time result executed decoding =>
      have hrunning := h.running (by simp [decoding])
      exact Sound.of_running hrunning.1 hrunning.2
  | resume resetting =>
      have hrunning := h.running (by simp [resetting])
      exact Sound.of_running hrunning.1 hrunning.2

theorem Holds.move (h : d.Holds job) (hmove : Move d label d') :
    d'.Holds job ∨ d'.thread = .exited := by
  cases hmove with
  | stay => exact Or.inl h
  | fail => exact Or.inr rfl
  | shutdown => exact Or.inr rfl
  | ready capabilities preparing =>
      left
      cases h with
      | queued hitem => exact Holds.queued hitem
      | executing hthread => cases preparing.symm.trans hthread
      | completed time result hevent =>
          exact Holds.completed time result (List.mem_append_left _ hevent)
  | start first rest popped idle front =>
      left
      cases h with
      | queued hitem =>
          rw [front] at hitem
          cases hitem with
          | head => exact Holds.executing rfl
          | tail _ hrest => exact Holds.queued hrest
      | executing hthread => cases idle.symm.trans hthread
      | completed time result hevent =>
          exact Holds.completed time result (List.mem_append_left _ hevent)
  | reset rest idle front =>
      left
      cases h with
      | queued hitem =>
          rw [front] at hitem
          cases hitem with
          | tail _ hrest => exact Holds.queued hrest
      | executing hthread => cases idle.symm.trans hthread
      | completed time result hevent => exact Holds.completed time result hevent
  | complete executed time result _ decoding =>
      left
      cases h with
      | queued hitem => exact Holds.queued hitem
      | executing hthread =>
          cases decoding.symm.trans hthread
          exact Holds.completed time result (List.mem_append_right _ (List.mem_singleton.mpr rfl))
      | completed time result hevent =>
          exact Holds.completed time result (List.mem_append_left _ hevent)
  | resume resetting =>
      left
      cases h with
      | queued hitem => exact Holds.queued hitem
      | executing hthread => cases resetting.symm.trans hthread
      | completed time result hevent => exact Holds.completed time result hevent

theorem Move.exited (h : Move d label d') (hexited : d.thread = .exited) : d' = d := by
  cases h with
  | stay => rfl
  | ready _ preparing => cases hexited.symm.trans preparing
  | fail _ _ _ running => exact absurd hexited running
  | start _ _ _ idle => cases hexited.symm.trans idle
  | reset _ idle => cases hexited.symm.trans idle
  | shutdown _ idle => cases hexited.symm.trans idle
  | complete _ _ _ _ decoding => cases hexited.symm.trans decoding
  | resume resetting => cases hexited.symm.trans resetting

theorem Move.completed (h : Move d label d') {timeline : AccessUnitTimeline}
    {decoderGeneration time : Nat} {result : Except String DecodeOutcome}
    (hevent : .completed timeline decoderGeneration time result ∈ d'.events) :
    .completed timeline decoderGeneration time result ∈ d.events ∨
      label = .complete time result := by
  have hsnoc : ∀ event, .completed timeline decoderGeneration time result ∈ d.events ++ [event] →
      .completed timeline decoderGeneration time result ∈ d.events ∨
        .completed timeline decoderGeneration time result = event := by
    intro event hmem
    simpa using hmem
  cases h with
  | stay => exact Or.inl hevent
  | ready => exact (hsnoc _ hevent).imp_right fun heq => by cases heq
  | fail event error tells =>
      refine (hsnoc _ hevent).imp_right fun heq => ?_
      subst heq
      cases tells
  | start => exact (hsnoc _ hevent).imp_right fun heq => by cases heq
  | reset => exact Or.inl hevent
  | shutdown => exact Or.inl hevent
  | complete job spent outcome executed =>
      refine (hsnoc _ hevent).imp_right fun heq => ?_
      cases heq
      exact executed
  | resume => exact Or.inl hevent

/-! ## Readiness -/

theorem finalReadiness_snoc (events : List DecoderEvent) (event : DecoderEvent)
    (readiness : DecoderReadiness) :
    finalReadiness (events ++ [event]) readiness =
      event.readiness?.getD (finalReadiness events readiness) := by
  rw [finalReadiness, List.foldl_append]
  rfl

/-- The thread has exited, and the owner knows it or will when it has taken the events. -/
def Down (d : DecoderWorker) (readiness : DecoderReadiness) : Prop :=
  d.thread = .exited ∧ ∃ error, finalReadiness d.events readiness = .unavailable error

theorem reported_move {readiness : DecoderReadiness} (hsound : d.Sound)
    (h : d.thread = .exited → d.Down readiness) (hmove : Move d label d')
    (hexited : d'.thread = .exited) : d'.Down readiness := by
  cases hmove with
  | stay => exact h hexited
  | fail event error tells running =>
      refine ⟨rfl, error, ?_⟩
      rw [finalReadiness_snoc, tells]
      rfl
  | shutdown rest idle front =>
      have hrunning := hsound.running (by simp [idle])
      rw [front] at hrunning
      exact absurd List.mem_cons_self hrunning.2
  | ready => cases hexited
  | start => cases hexited
  | reset => cases hexited
  | complete => cases hexited
  | resume => cases hexited

/-! ## The owner's operations -/

theorem submit_eq {q : WorkQueue} (hqueued : (q.submit job).1 = .queued) :
    q.submit job = (.queued, (q.submit job).2) := Prod.ext hqueued rfl

theorem mem_submit {q : WorkQueue} {item : WorkItem} (hqueued : (q.submit job).1 = .queued)
    (hitem : item ∈ (q.submit job).2.items) :
    item ∈ q.items ∨ item = .decode (job.stamp q.decoderGeneration) := by
  obtain ⟨-, kept, hqueue, hkept⟩ := submit_queued (submit_eq hqueued)
  rw [hqueue] at hitem
  cases List.mem_append.mp hitem with
  | inr hnew => exact Or.inr (List.mem_singleton.mp hnew)
  | inl hold =>
      left
      rcases hkept with ⟨-, rfl⟩ | ⟨-, -, rfl⟩ | ⟨-, index, -, -, rfl⟩
      · exact List.mem_of_mem_filter hold
      · exact hold
      · exact List.mem_of_mem_eraseIdx hold

theorem mem_submit_of_key {q : WorkQueue} {key : DecodeJob} (hkey : key.kind = .key)
    (hitem : .decode key ∈ q.items) (hdelta : job.kind ≠ .key)
    (hqueued : (q.submit job).1 = .queued) : .decode key ∈ (q.submit job).2.items := by
  obtain ⟨-, kept, hqueue, hkept⟩ := submit_queued (submit_eq hqueued)
  rw [hqueue]
  apply List.mem_append_left
  rcases hkept with ⟨hjob, -⟩ | ⟨-, -, rfl⟩ | ⟨-, index, hindex, hdiscardable, rfl⟩
  · exact absurd hjob hdelta
  · exact hitem
  · rw [List.mem_eraseIdx_iff_getElem]
    obtain ⟨i, hi, hget⟩ := List.getElem_of_mem hitem
    refine ⟨i, hi, ?_, hget⟩
    rintro rfl
    have hkind : (WorkItem.decode key).isDiscardable := by
      rw [← hget]
      exact hdiscardable
    have hdelta' : key.kind = .discardableDelta := of_decide_eq_true hkind
    rw [hkey] at hdelta'
    cases hdelta'

theorem stamp_mem_submit {q : WorkQueue} (hqueued : (q.submit job).1 = .queued) :
    .decode (job.stamp q.decoderGeneration) ∈ (q.submit job).2.items := by
  obtain ⟨-, kept, hqueue, -⟩ := submit_queued (submit_eq hqueued)
  rw [hqueue]
  exact List.mem_append_right _ (List.mem_singleton.mpr rfl)

theorem generation_submit {q : WorkQueue} (hqueued : (q.submit job).1 = .queued) :
    (q.submit job).2.decoderGeneration = q.decoderGeneration := by
  obtain ⟨-, kept, hqueue, -⟩ := submit_queued (submit_eq hqueued)
  rw [hqueue]

theorem Sound.submit (h : d.Sound) (hqueued : (d.queue.submit job).1 = .queued) :
    ({ d with queue := (d.queue.submit job).2 } : DecoderWorker).Sound := by
  obtain ⟨hrunning, kept, hqueue, -⟩ := submit_queued (submit_eq hqueued)
  apply Sound.of_running
  · rw [hqueue]
    simp [hrunning]
  · intro hshut
    cases mem_submit hqueued hshut with
    | inl hold =>
        have hstopped := h.shut hold
        rw [hrunning] at hstopped
        cases hstopped
    | inr hnew => cases hnew

theorem Sound.reset (h : d.Sound) :
    ({ d with queue := d.queue.reset } : DecoderWorker).Sound := by
  unfold WorkQueue.reset
  by_cases hstopped : d.queue.stopped
  · rw [if_pos hstopped]
    exact h
  · rw [if_neg hstopped]
    refine Sound.of_running ?_ ?_
    · exact hstopped
    · intro hshut
      cases List.mem_append.mp hshut with
      | inl hold => exact hstopped (h.shut (List.mem_of_mem_filter hold))
      | inr hreset => cases List.mem_singleton.mp hreset

theorem Holds.submit {key : DecodeJob} (h : d.Holds key) (hkey : key.kind = .key)
    (hdelta : job.kind ≠ .key) (hqueued : (d.queue.submit job).1 = .queued) :
    ({ d with queue := (d.queue.submit job).2 } : DecoderWorker).Holds key := by
  cases h with
  | queued hitem => exact Holds.queued (mem_submit_of_key hkey hitem hdelta hqueued)
  | executing hthread => exact Holds.executing hthread
  | completed time result hevent => exact Holds.completed time result hevent

end DecoderWorker

end PicooCamera.Receiver
