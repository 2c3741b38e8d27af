import PicooCamera.Library.TransitionSystem

/-!
# The queue in front of the ring

Submissions replace the one pending frame. The worker takes it, publishes it and
puts a busy frame back, unless a newer one is pending. The mutex makes each pass
through a locked part one step. A wake-up may be spurious or late.
-/

namespace PicooCamera.SharedRing

open PicooCamera.Library

inductive SharedRingSubmitOutcome where
  | queued
  | replacedPending
  | stopped
  deriving DecidableEq, Repr

structure QueueState (φ : Type) where
  pending : Option φ
  stopped : Bool
  deriving DecidableEq, Repr

/-- How a pass through the loop of `take` or `retry_after` ends. -/
inductive Turn (φ : Type) where
  | returned (frame : Option φ)
  | waits
  deriving DecidableEq, Repr

namespace QueueState

variable {φ : Type}

def default : QueueState φ := ⟨none, false⟩

def submit (q : QueueState φ) (frame : φ) : SharedRingSubmitOutcome × QueueState φ :=
  if q.stopped then (.stopped, q)
  else (if q.pending.isSome then .replacedPending else .queued, { q with pending := some frame })

/-- `state.pending.take()`. -/
def takePending (q : QueueState φ) : Turn φ × QueueState φ :=
  (.returned q.pending, { q with pending := none })

/-- One pass through the loop of `take`. -/
def takeTurn (q : QueueState φ) : Turn φ × QueueState φ :=
  if q.stopped then (.returned none, q)
  else if q.pending.isSome then q.takePending
  else (.waits, q)

/-- The loop of `retry_after` up to the wait; `expired` is `remaining.is_zero()`. -/
def retryTurn (q : QueueState φ) (expired : Bool) : Turn φ × QueueState φ :=
  if q.stopped then (.returned none, { q with pending := none })
  else if expired then q.takePending
  else (.waits, q)

/-- `retry_after` from its start. -/
def retryAfter (q : QueueState φ) (frame : φ) (expired : Bool) : Turn φ × QueueState φ :=
  if q.stopped then (.returned none, q)
  else if q.pending.isSome then q.takePending
  else { q with pending := some frame }.retryTurn expired

/-- `retry_after` from a wake-up on. -/
def retryWake (q : QueueState φ) (timedOut expired : Bool) : Turn φ × QueueState φ :=
  if timedOut then q.takePending
  else if q.pending.isSome then q.takePending
  else q.retryTurn expired

def stop (q : QueueState φ) : QueueState φ := { q with pending := none, stopped := true }

end QueueState

/-! ## The worker -/

inductive PublishOutcome where
  | published (sequence : Nat)
  | busy
  | failed
  deriving DecidableEq, Repr

inductive WriterWorker (φ : Type) where
  | taking
  | publishing (frame : φ)
  /-- The ring was busy. -/
  | retrying (frame : φ)
  /-- Inside the timed wait of `retry_after`. -/
  | waiting
  | exited
  deriving DecidableEq, Repr

inductive SharedRingWriterEvent (φ : Type) where
  | published (frame : φ) (ringSequence : Nat)
  | failed (frame : φ)
  deriving DecidableEq, Repr

namespace SharedRingWriterEvent

variable {φ : Type}

def frame : SharedRingWriterEvent φ → φ
  | published frame _ => frame
  | failed frame => frame

def publishedFrame : SharedRingWriterEvent φ → Option φ
  | published frame _ => some frame
  | failed _ => none

end SharedRingWriterEvent

/-- A submitted frame, by the number of the frames that were accepted before it. -/
structure Submission (φ : Type) where
  number : Nat
  frame : φ
  deriving DecidableEq, Repr

structure WriterRun (φ : Type) where
  queue : QueueState (Submission φ)
  worker : WriterWorker (Submission φ)
  events : List (SharedRingWriterEvent (Submission φ))
  /-- How many submissions were accepted. -/
  submitted : Nat
  deriving DecidableEq, Repr

inductive WriterStep (φ : Type) where
  | submit (frame : φ)
  | stop
  /-- The worker takes its next step: a locked pass, or the end of a publish. -/
  | work (outcome : PublishOutcome) (timedOut expired : Bool)

namespace WriterRun

variable {φ : Type}

def start : WriterRun φ := ⟨.default, .taking, [], 0⟩

/-- The worker after a pass; `waits` is where it waits. -/
def afterTurn (x : WriterRun φ) (waits : WriterWorker (Submission φ))
    (turn : Turn (Submission φ) × QueueState (Submission φ)) : WriterRun φ :=
  match turn with
  | (.returned (some frame), queue) => { x with queue := queue, worker := .publishing frame }
  | (.returned none, queue) => { x with queue := queue, worker := .exited }
  | (.waits, queue) => { x with queue := queue, worker := waits }

def work (x : WriterRun φ) (outcome : PublishOutcome) (timedOut expired : Bool) : WriterRun φ :=
  match x.worker with
  | .taking => x.afterTurn .taking x.queue.takeTurn
  | .publishing frame =>
      match outcome with
      | .published sequence =>
          { x with worker := .taking, events := x.events ++ [.published frame sequence] }
      | .busy => { x with worker := .retrying frame }
      | .failed => { x with worker := .taking, events := x.events ++ [.failed frame] }
  | .retrying frame => x.afterTurn .waiting (x.queue.retryAfter frame expired)
  | .waiting => x.afterTurn .waiting (x.queue.retryWake timedOut expired)
  | .exited => x

def step (x : WriterRun φ) : WriterStep φ → WriterRun φ
  | .submit frame =>
      let result := x.queue.submit ⟨x.submitted, frame⟩
      { x with
        queue := result.2
        submitted := if result.1 = .stopped then x.submitted else x.submitted + 1 }
  | .stop => { x with queue := x.queue.stop }
  | .work outcome timedOut expired => x.work outcome timedOut expired

/-- The frame that the worker holds. -/
def inHands (x : WriterRun φ) : Option (Submission φ) :=
  match x.worker with
  | .publishing frame => some frame
  | .retrying frame => some frame
  | _ => none

def published (x : WriterRun φ) : List (Submission φ) :=
  x.events.filterMap (·.publishedFrame)

/-- Where submission `n` is: pending, in the worker's hands, published or failed. -/
def Located (x : WriterRun φ) (n : Nat) : Prop :=
  (∃ s ∈ x.queue.pending, s.number = n) ∨ (∃ s ∈ x.inHands, s.number = n) ∨
    ∃ e ∈ x.events, e.frame.number = n

/-- What holds of the writer at any time. -/
structure LatestKept (x : WriterRun φ) : Prop where
  increasing : (x.published.map (·.number)).Pairwise (· < ·)
  /-- The latest submission is somewhere until `stop`. -/
  latest : x.queue.stopped = false → ∀ n, x.submitted = n + 1 → x.Located n
  /-- A pending frame is the latest one, and newer than the one in the worker's hands. -/
  pending : ∀ s ∈ x.queue.pending, s.number + 1 = x.submitted ∧
    ∀ held ∈ x.inHands, held.number < s.number
  exited : x.worker = .exited → x.queue.stopped = true

/-! ## Runs -/

variable {x : WriterRun φ}

/-- The frame that the worker holds, or has put back and waits with, goes on from the events. -/
structure Coherent (x : WriterRun φ) : Prop extends LatestKept x where
  handled : (x.events.map (·.frame.number)).Pairwise (· < ·)
  pendingNewer : ∀ s ∈ x.queue.pending, ∀ e ∈ x.events, e.frame.number < s.number
  heldNewer : ∀ s ∈ x.inHands, s.number < x.submitted ∧
    ∀ e ∈ x.events, e.frame.number < s.number
  handledOld : ∀ e ∈ x.events, e.frame.number < x.submitted
  /-- While the worker waits to retry, a frame is pending. -/
  waiting : x.worker = .waiting → x.queue.stopped = false → x.queue.pending ≠ none

theorem coherent_start : Coherent (start : WriterRun φ) where
  increasing := List.Pairwise.nil
  latest := by simp [start]
  pending := by simp [start, QueueState.default]
  exited := by simp [start]
  handled := List.Pairwise.nil
  pendingNewer := by simp [start, QueueState.default]
  heldNewer := by simp [start, inHands]
  handledOld := by simp [start]
  waiting := by simp [start]

theorem Coherent.submit (h : Coherent x) (frame : φ) : Coherent (x.step (.submit frame)) := by
  unfold step QueueState.submit
  dsimp only
  by_cases hstopped : x.queue.stopped = true
  · rw [if_pos hstopped]
    exact h
  · rw [if_neg hstopped]
    have houtcome : (if x.queue.pending.isSome = true then
        SharedRingSubmitOutcome.replacedPending else .queued) ≠ .stopped := by
      split <;> exact nofun
    dsimp only
    rw [if_neg houtcome]
    exact {
      increasing := h.increasing
      latest := by
        intro _ n hn
        exact .inl ⟨_, rfl, Nat.succ.inj hn⟩
      pending := by
        intro s hs
        obtain rfl := Option.some.inj hs
        exact ⟨rfl, fun held hheld => (h.heldNewer held hheld).1⟩
      exited := h.exited
      handled := h.handled
      pendingNewer := by
        intro s hs e he
        obtain rfl := Option.some.inj hs
        exact h.handledOld e he
      heldNewer := by
        intro s hs
        exact ⟨Nat.lt_succ_of_lt (h.heldNewer s hs).1, (h.heldNewer s hs).2⟩
      handledOld := fun e he => Nat.lt_succ_of_lt (h.handledOld e he)
      waiting := fun _ _ => Option.some_ne_none _ }

theorem Coherent.stop (h : Coherent x) : Coherent (x.step .stop) where
  increasing := h.increasing
  latest := nofun
  pending := nofun
  exited := fun _ => rfl
  handled := h.handled
  pendingNewer := nofun
  heldNewer := h.heldNewer
  handledOld := h.handledOld
  waiting := nofun

theorem Coherent.takes (h : Coherent x) {s : Submission φ} (hs : x.queue.pending = some s) :
    Coherent { x with queue := { x.queue with pending := none }, worker := .publishing s } where
  increasing := h.increasing
  latest := by
    intro _ n hn
    have hlatest := (h.pending s hs).1
    exact .inr (.inl ⟨s, rfl, Nat.succ.inj (hlatest.trans hn)⟩)
  pending := nofun
  exited := nofun
  handled := h.handled
  pendingNewer := nofun
  heldNewer := by
    intro t ht
    obtain rfl := Option.some.inj ht
    exact ⟨Nat.lt_of_succ_le (Nat.le_of_eq (h.pending s hs).1), h.pendingNewer s hs⟩
  handledOld := h.handledOld
  waiting := nofun

theorem Coherent.exits (h : Coherent x) {queue : QueueState (Submission φ)}
    (hqueue : queue.stopped = true)
    (hpending : queue.pending = x.queue.pending ∨ queue.pending = none) :
    Coherent { x with queue := queue, worker := .exited } where
  increasing := h.increasing
  latest := by
    intro hgoing
    cases hqueue.symm.trans hgoing
  pending := by
    intro s hs
    obtain hsame | hnone := hpending
    · exact ⟨(h.pending s (hsame ▸ hs)).1, nofun⟩
    · rw [hnone] at hs
      cases hs
  exited := fun _ => hqueue
  handled := h.handled
  pendingNewer := by
    intro s hs
    obtain hsame | hnone := hpending
    · exact h.pendingNewer s (hsame ▸ hs)
    · rw [hnone] at hs
      cases hs
  heldNewer := nofun
  handledOld := h.handledOld
  waiting := nofun

theorem Coherent.handles (h : Coherent x) {frame : Submission φ}
    (hworker : x.worker = .publishing frame) (event : SharedRingWriterEvent (Submission φ))
    (hevent : event.frame = frame) :
    Coherent { x with worker := .taking, events := x.events ++ [event] } := by
  have hheld := h.heldNewer frame (by rw [inHands, hworker]; rfl)
  have hhandled : ((x.events ++ [event]).map (·.frame.number)).Pairwise (· < ·) := by
    rw [List.map_append, List.map_singleton, hevent]
    refine List.pairwise_append.mpr ⟨h.handled, List.pairwise_singleton _ _, ?_⟩
    intro n hn m hm
    obtain ⟨e, he, rfl⟩ := List.mem_map.mp hn
    rw [List.mem_singleton.mp hm]
    exact hheld.2 e he
  refine ⟨⟨?_, ?_, ?_, nofun⟩, hhandled, ?_, nofun, ?_, nofun⟩
  · unfold published
    rw [List.filterMap_append, List.map_append]
    refine List.pairwise_append.mpr ⟨h.increasing, ?_, ?_⟩
    · cases event <;> simp [SharedRingWriterEvent.publishedFrame]
    · intro n hn m hm
      obtain ⟨t, ht, rfl⟩ := List.mem_map.mp hn
      obtain ⟨e, he, hte⟩ := List.mem_filterMap.mp ht
      obtain ⟨u, hu, rfl⟩ := List.mem_map.mp hm
      obtain ⟨e', he', hue⟩ := List.mem_filterMap.mp hu
      rw [List.mem_singleton.mp he'] at hue
      have ht : t = e.frame := by
        cases e with
        | published _ _ => exact (Option.some.inj hte).symm
        | failed _ => cases hte
      have hu : u = event.frame := by
        cases event with
        | published _ _ => exact (Option.some.inj hue).symm
        | failed _ => cases hue
      rw [ht, hu, hevent]
      exact hheld.2 e he
  · intro hgoing n hn
    obtain hpending | ⟨held, hmem, hnumber⟩ | ⟨e, he, hnumber⟩ := h.latest hgoing n hn
    · exact .inl hpending
    · rw [inHands, hworker] at hmem
      obtain rfl := Option.some.inj hmem
      exact .inr (.inr ⟨event, by simp, by rw [hevent, hnumber]⟩)
    · exact .inr (.inr ⟨e, List.mem_append_left _ he, hnumber⟩)
  · intro s hs
    exact ⟨(h.pending s hs).1, nofun⟩
  · intro s hs e he
    obtain hold | hnew := List.mem_append.mp he
    · exact h.pendingNewer s hs e hold
    · rw [List.mem_singleton.mp hnew, hevent]
      exact (h.pending s hs).2 frame (by rw [inHands, hworker]; rfl)
  · intro e he
    obtain hold | hnew := List.mem_append.mp he
    · exact h.handledOld e hold
    · rw [List.mem_singleton.mp hnew, hevent]
      exact hheld.1

theorem Coherent.keeps (h : Coherent x) {worker : WriterWorker (Submission φ)}
    (hhands : inHands { x with worker := worker } = x.inHands) (hexited : worker ≠ .exited)
    (hwaiting : worker = .waiting → x.queue.stopped = false → x.queue.pending ≠ none) :
    Coherent { x with worker := worker } where
  increasing := h.increasing
  latest := by
    intro hgoing n hn
    have hlocated := h.latest hgoing n hn
    unfold Located at hlocated ⊢
    rwa [hhands]
  pending := by
    intro s hs
    rw [hhands]
    exact h.pending s hs
  exited := fun h => absurd h hexited
  handled := h.handled
  pendingNewer := h.pendingNewer
  heldNewer := by
    rw [hhands]
    exact h.heldNewer
  handledOld := h.handledOld
  waiting := hwaiting

theorem Coherent.held_latest (h : Coherent x) {frame : Submission φ}
    (hheld : x.inHands = some frame) (hgoing : x.queue.stopped = false)
    (hpending : x.queue.pending = none) : frame.number + 1 = x.submitted := by
  obtain ⟨hlt, hnewer⟩ := h.heldNewer frame hheld
  obtain ⟨n, hn⟩ : ∃ n, x.submitted = n + 1 := ⟨x.submitted - 1, by omega⟩
  obtain ⟨s, hs, _⟩ | ⟨held, hmem, hnumber⟩ | ⟨e, he, hnumber⟩ := h.latest hgoing n hn
  · rw [hpending] at hs
    cases hs
  · obtain rfl := Option.some.inj (hheld.symm.trans hmem)
    omega
  · have := hnewer e he
    omega

theorem Coherent.putBack (h : Coherent x) {frame : Submission φ}
    (hheld : x.inHands = some frame) (hgoing : x.queue.stopped = false)
    (hpending : x.queue.pending = none) :
    Coherent { x with queue := { x.queue with pending := some frame }, worker := .waiting } where
  increasing := h.increasing
  latest := by
    intro _ n hn
    have hlatest := h.held_latest hheld hgoing hpending
    exact .inl ⟨frame, rfl, Nat.succ.inj (hlatest.trans hn)⟩
  pending := by
    intro s hs
    obtain rfl := Option.some.inj hs
    exact ⟨h.held_latest hheld hgoing hpending, nofun⟩
  exited := nofun
  handled := h.handled
  pendingNewer := by
    intro s hs
    obtain rfl := Option.some.inj hs
    exact (h.heldNewer frame hheld).2
  heldNewer := nofun
  handledOld := h.handledOld
  waiting := fun _ _ => Option.some_ne_none _

theorem Coherent.takePending (h : Coherent x) (waits : WriterWorker (Submission φ))
    (hpending : x.queue.pending = none → x.queue.stopped = true) :
    Coherent (x.afterTurn waits x.queue.takePending) := by
  unfold afterTurn QueueState.takePending
  cases hqueue : x.queue.pending with
  | none => exact h.exits (hpending hqueue) (.inr rfl)
  | some s => exact h.takes hqueue

theorem Coherent.takeTurn (h : Coherent x) (hworker : x.worker = .taking) :
    Coherent (x.afterTurn .taking x.queue.takeTurn) := by
  unfold QueueState.takeTurn
  split
  · rename_i hstopped
    exact h.exits hstopped (.inl rfl)
  · split
    · rename_i hsome
      apply h.takePending
      intro hnone
      rw [hnone] at hsome
      cases hsome
    · refine h.keeps ?_ nofun nofun
      rw [inHands, inHands, hworker]

theorem Coherent.retryAfter (h : Coherent x) {frame : Submission φ}
    (hworker : x.worker = .retrying frame) (expired : Bool) :
    Coherent (x.afterTurn .waiting (x.queue.retryAfter frame expired)) := by
  have hheld : x.inHands = some frame := by rw [inHands, hworker]
  unfold QueueState.retryAfter
  split
  · rename_i hstopped
    exact h.exits hstopped (.inl rfl)
  · rename_i hgoing
    have hgoing := Bool.not_eq_true _ |>.mp hgoing
    split
    · rename_i hsome
      apply h.takePending
      intro hnone
      rw [hnone] at hsome
      cases hsome
    · rename_i hnone
      have hpending : x.queue.pending = none := by simpa using hnone
      have hback := h.putBack hheld hgoing hpending
      unfold QueueState.retryTurn
      dsimp only
      rw [if_neg (by simp [hgoing])]
      split
      · exact hback.takes rfl
      · exact hback

theorem Coherent.retryWake (h : Coherent x) (hworker : x.worker = .waiting)
    (timedOut expired : Bool) :
    Coherent (x.afterTurn .waiting (x.queue.retryWake timedOut expired)) := by
  have hnone : x.queue.pending = none → x.queue.stopped = true := by
    intro hpending
    by_contra hgoing
    exact h.waiting hworker (Bool.not_eq_true _ |>.mp hgoing) hpending
  unfold QueueState.retryWake QueueState.retryTurn
  split
  · exact h.takePending _ hnone
  · split
    · exact h.takePending _ hnone
    · split
      · rename_i hstopped
        exact h.exits hstopped (.inr rfl)
      · split
        · exact h.takePending _ hnone
        · rename_i hempty hgoing _
          exact absurd (hnone (by simpa using hempty)) hgoing

theorem Coherent.work (h : Coherent x) (outcome : PublishOutcome) (timedOut expired : Bool) :
    Coherent (x.work outcome timedOut expired) := by
  unfold WriterRun.work
  cases hworker : x.worker with
  | taking => exact h.takeTurn hworker
  | publishing frame =>
      cases outcome with
      | published sequence => exact h.handles hworker _ rfl
      | failed => exact h.handles hworker _ rfl
      | busy =>
          refine h.keeps ?_ nofun nofun
          rw [inHands, inHands, hworker]
  | retrying frame => exact h.retryAfter hworker expired
  | waiting => exact h.retryWake hworker timedOut expired
  | exited => exact h

theorem Coherent.step (h : Coherent x) (step : WriterStep φ) : Coherent (x.step step) := by
  cases step with
  | submit frame => exact h.submit frame
  | stop => exact h.stop
  | work outcome timedOut expired => exact h.work outcome timedOut expired

end WriterRun

end PicooCamera.SharedRing
