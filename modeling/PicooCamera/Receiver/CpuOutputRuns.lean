import PicooCamera.Receiver.CpuOutput

/-!
# Steps of the CPU output

What a call does to the cell and to the generation, and what one step of the worker
does with the request that it has in hand.
-/

namespace PicooCamera.Receiver

open PicooCamera.FrameHub PicooCamera.Library PicooCamera.Packet PicooCamera.SharedRing
open CpuOutputRun

variable {Image : Type} {r r' : CpuOutputRun Image}

/-! ## What the worker has in its hands -/

namespace CpuWorker

def job : CpuWorker Image → Option OutputJob
  | admitting => none
  | comparing job => some job
  | preparing job => some job
  | prepared job _ => some job
  | locking job _ => some job
  | checking job _ => some job
  | publishing job _ _ => some job
  | retrying job _ => some job
  | waiting job _ => some job
  | reporting job _ => some job
  | exited => none

/-- The job, until its publish succeeds. -/
def unpublished : CpuWorker Image → Option OutputJob
  | reporting _ .published => none
  | worker => worker.job

/-- The job has yet to be prepared. -/
def unprepared : CpuWorker Image → Option OutputJob
  | comparing job => some job
  | preparing job => some job
  | _ => none

/-- The job, once its key is known to differ from the one published last. -/
def compared : CpuWorker Image → Option OutputJob
  | comparing _ => none
  | reporting _ _ => none
  | worker => worker.job

end CpuWorker

/-! ## Calls and steps, as far as a group of facts sees them -/

theorem generation_advances (g : Nat) : g < nextGeneration g ∨ nextGeneration g = 0 := by
  unfold nextGeneration
  split
  · exact .inr rfl
  · split
    · exact .inl (Nat.lt_succ_self g)
    · exact .inr rfl

/-- What a call does: nothing, or it supersedes, advances, clears or replaces. -/
inductive OutputCall (r : CpuOutputRun Image) : CpuOutputRun Image → Prop
  | refused : OutputCall r r
  | kept (request : OutputRequest) (running : r.state.stopped = false)
      (same : r.state.kind = request.kind) (live : request.kind = .live) :
      OutputCall r (r.supersede.replacePending request)
  | advanced (request : OutputRequest) (running : r.state.stopped = false)
      (goesOn : (r.supersede.advanceGeneration request.kind).state.stopped = false) :
      OutputCall r ((r.supersede.advanceGeneration request.kind).replacePending request)
  | exhausted (kind : SharedFrameKind) (running : r.state.stopped = false)
      (stops : (r.supersede.advanceGeneration kind).state.stopped = true) :
      OutputCall r (r.supersede.advanceGeneration kind)
  | invalidated : OutputCall r r.invalidate
  | dropped : OutputCall r r.drop

theorem enqueue_call (request : OutputRequest) (invalidate : Bool)
    (h : request.kind = .placeholder → invalidate = true) :
    OutputCall r (r.enqueue request invalidate).2 := by
  unfold enqueue
  cases hstopped : r.state.stopped with
  | true => exact .refused
  | false =>
      rw [if_neg Bool.false_ne_true]
      dsimp only
      by_cases hadvance : invalidate = true ∨ r.state.kind ≠ request.kind
      · rw [if_pos hadvance]
        cases hnext : (r.supersede.advanceGeneration request.kind).state.stopped with
        | true => exact .exhausted _ hstopped hnext
        | false => exact .advanced request hstopped hnext
      · rw [if_neg hadvance]
        rw [not_or, not_not] at hadvance
        have hlive : request.kind = .live := by
          cases hkind : request.kind with
          | live => rfl
          | placeholder => exact absurd (h hkind) hadvance.1
        rw [show r.supersede.state.stopped = false from hstopped]
        exact .kept request hstopped hadvance.2 hlive

/-- What the worker may abandon a job for. -/
inductive Abandoned (r : CpuOutputRun Image) (job : OutputJob) : Prop
  | repeated (frame : job.key.isSome = true)
  | fenced (h : r.fence ≠ job.generation)
  | obsolete (h : r.state.stopped = true ∨ r.state.generation ≠ job.generation)
  | replaced (h : r.state.pending.isSome = true)

/-- What one step of the worker does. -/
inductive WorkerMove (r : CpuOutputRun Image) : CpuOutputRun Image → Prop
  | stays : WorkerMove r r
  | exits (stopped : r.state.stopped = true) : WorkerMove r (r.goTo .exited)
  | waits : WorkerMove r r.waitForDemand
  | takesPlaceholder (submission : OutputSubmission) (hworker : r.worker = .admitting)
      (running : r.state.stopped = false) (hpending : r.state.pending = some submission)
      (hkind : submission.request.kind = .placeholder) : WorkerMove r (r.take submission)
  | takesFrame (submission : OutputSubmission) (sequence : Nat) (hworker : r.worker = .admitting)
      (running : r.state.stopped = false) (hpending : r.state.pending = some submission)
      (hkind : submission.request.kind = .live) (hsequence : sequence = r.requestSequence)
      (hnew : sequence ≠ r.servedRequest) : WorkerMove r ((r.serve sequence).take submission)
  | abandons (job : OutputJob) (hjob : r.worker.unpublished = some job) (h : Abandoned r job) :
      WorkerMove r (r.goTo .admitting)
  | compares (job : OutputJob) (hworker : r.worker = .comparing job)
      (hnew : job.key.isSome = true → job.key ≠ r.publishedKey) :
      WorkerMove r (r.goTo (.preparing job))
  | prepares (job : OutputJob) (result : Except String (Prepared Image)) (exports more : Nat)
      (cache : Option (SourceKey × Image)) (hworker : r.worker = .preparing job)
      (hframe : job.key.isSome = true) (hmore : more ≤ 1) :
      WorkerMove r
        { r with
          state := { r.state with exports := exports }
          preparations := r.preparations + more
          preparedCache := cache
          worker := .prepared job result }
  | preparesPlaceholder (job : OutputJob) (mode : PlaceholderMode) (reconnecting : Bool)
      (hworker : r.worker = .preparing job) (hplaceholder : job.key = none) :
      WorkerMove r (r.preparePlaceholder job mode reconnecting)
  | goesOn (job : OutputJob) (worker : CpuWorker Image) (hjob : r.worker.compared = some job)
      (hjob' : worker.compared = some job) (hprepared : worker.unprepared = none)
      (hchecked : ∀ job prepared checked, worker = .publishing job prepared checked →
        checked = job.generation) : WorkerMove r (r.goTo worker)
  | fails (job : OutputJob) (error : String) (hjob : r.worker.compared = some job) :
      WorkerMove r (r.goTo (.reporting job (.failed error)))
  | publishes (job : OutputJob) (prepared : Prepared Image) (checked : Nat)
      (hworker : r.worker = .publishing job prepared checked) :
      WorkerMove r ((r.attempt job checked).notePublished job)
  | errs (job : OutputJob) (prepared : Prepared Image) (checked : Nat) (error : String)
      (hworker : r.worker = .publishing job prepared checked) :
      WorkerMove r ((r.attempt job checked).goTo (.reporting job (.failed error)))
  | busy (job : OutputJob) (prepared : Prepared Image) (checked : Nat)
      (hworker : r.worker = .publishing job prepared checked) :
      WorkerMove r ((r.attempt job checked).goTo (.retrying job prepared))
  | reports (job : OutputJob) (event : OutputEvent) (hworker : r.worker = .reporting job event) :
      WorkerMove r (r.report job event)

theorem admit_move (requested : Bool) (hworker : r.worker = .admitting) :
    WorkerMove r (r.passAdmission requested) := by
  unfold passAdmission
  cases hstopped : r.state.stopped with
  | true =>
      rw [if_pos rfl]
      exact .exits hstopped
  | false =>
      rw [if_neg Bool.false_ne_true]
      split
      · exact .stays
      · rename_i submission hpending
        split
        · rename_i mode reconnecting hrequest
          exact .takesPlaceholder submission hworker hstopped hpending (by rw [hrequest]; rfl)
        · rename_i frame hrequest
          split
          · rename_i sequence hserved
            obtain ⟨hsome, hnew⟩ := Option.filter_eq_some_iff.mp hserved
            unfold cpuRequestSequence at hsome
            obtain ⟨_, heq⟩ := Option.ite_none_right_eq_some.mp hsome
            exact .takesFrame submission sequence hworker hstopped hpending (by rw [hrequest]; rfl)
              (Option.some.inj heq).symm (of_decide_eq_true hnew)
          · exact .waits

theorem prepare_move {job : OutputJob} (answer : Except String Image)
    (hworker : r.worker = .preparing job) : WorkerMove r (r.prepare job answer) := by
  unfold prepare
  split
  · rename_i frame hrequest
    have hframe : job.key.isSome = true := by
      unfold OutputJob.key
      rw [hrequest]
      rfl
    unfold prepareFrame
    split
    · exact .prepares job _ r.state.exports 0 _ hworker hframe (Nat.zero_le 1)
    · unfold prepareCounted
      dsimp only
      split
      · exact .prepares job _ _ 1 _ hworker hframe le_rfl
      · exact .prepares job _ r.state.exports 1 r.preparedCache hworker hframe le_rfl
  · rename_i mode reconnecting hrequest
    have hplaceholder : job.key = none := by
      unfold OutputJob.key
      rw [hrequest]
    exact .preparesPlaceholder job mode reconnecting hworker hplaceholder

theorem workerStep_move (surroundings : WorkerSurroundings Image) :
    WorkerMove r (r.workerStep surroundings) := by
  unfold workerStep
  cases hworker : r.worker with
  | admitting => exact admit_move _ hworker
  | comparing job =>
      dsimp only
      unfold CpuOutputRun.compare
      split
      · rename_i hrepeated
        exact .abandons job (by rw [hworker]; rfl) (.repeated hrepeated.1)
      · rename_i hnot
        exact .compares job hworker fun hframe hsame => hnot ⟨hframe, hsame⟩
  | preparing job => exact prepare_move _ hworker
  | prepared job result =>
      dsimp only
      unfold settle
      split
      · rename_i hstale
        exact .abandons job (by rw [hworker]; rfl) (.fenced hstale)
      · cases result with
        | ok prepared => exact .goesOn job _ (by rw [hworker]; rfl) rfl rfl nofun
        | error error => exact .fails job error (by rw [hworker]; rfl)
  | locking job prepared =>
      dsimp only
      unfold lock
      split
      · rename_i hstopped
        exact .exits hstopped
      · split
        · rename_i hobsolete
          exact .abandons job (by rw [hworker]; rfl) (.obsolete (.inr hobsolete))
        · exact .goesOn job _ (by rw [hworker]; rfl) rfl rfl nofun
  | checking job prepared =>
      dsimp only
      unfold check
      split
      · rename_i hstale
        exact .abandons job (by rw [hworker]; rfl) (.fenced hstale)
      · rename_i hcurrent
        refine .goesOn job _ (by rw [hworker]; rfl) rfl rfl ?_
        intro other _ checked heq
        cases heq
        exact not_not.mp hcurrent
  | publishing job prepared checked =>
      dsimp only
      unfold publish
      split
      · exact .publishes job prepared checked hworker
      · exact .errs job prepared checked _ hworker
      · exact .busy job prepared checked hworker
  | retrying job prepared =>
      dsimp only
      unfold retry
      split
      · rename_i hobsolete
        exact .abandons job (by rw [hworker]; rfl) (.obsolete hobsolete)
      · split
        · rename_i hpending
          exact .abandons job (by rw [hworker]; rfl) (.replaced hpending)
        · exact .goesOn job _ (by rw [hworker]; rfl) rfl rfl nofun
  | waiting job prepared => exact .goesOn job _ (by rw [hworker]; rfl) rfl rfl nofun
  | reporting job event => exact .reports job event hworker
  | exited => exact .stays

theorem unpublished_of_compared {worker : CpuWorker Image} {job : OutputJob}
    (h : worker.compared = some job) : worker.unpublished = some job := by
  cases worker <;> first | exact h | cases h

theorem job_of_unpublished {worker : CpuWorker Image} {job : OutputJob}
    (h : worker.unpublished = some job) : worker.job = some job := by
  cases worker with
  | reporting other event =>
      cases event with
      | published => cases h
      | failed error => exact h
  | _ => exact h

/-!
## Order, demand and generation of the published requests

Requests keep their order on the way to the ring, each preparation has a consumer's
request of its own, and a publish carries the generation of its admission.
-/

/-! ## The order of the requests -/

/-- The numbers of what was published, what is in hand and what is pending. -/
def CpuOutputRun.numbers (r : CpuOutputRun Image) : List Nat :=
  r.published.map Publication.number ++
    (r.worker.unpublished.toList.map fun job => job.submission.number) ++
    r.state.pending.toList.map OutputSubmission.number

structure NumbersInOrder (r : CpuOutputRun Image) : Prop where
  sorted : r.numbers.Pairwise (· < ·)
  issued : ∀ number ∈ r.numbers, number < r.issued

namespace NumbersInOrder

theorem of_sublist (h : NumbersInOrder r) (hnumbers : r'.numbers.Sublist r.numbers)
    (hissued : r'.issued = r.issued) : NumbersInOrder r' := by
  refine ⟨h.sorted.sublist hnumbers, fun number hnumber => ?_⟩
  rw [hissued]
  exact h.issued number (hnumbers.subset hnumber)

theorem of_pending (h : NumbersInOrder r) (hpublished : r'.published = r.published)
    (hworker : r'.worker = r.worker) (hissued : r'.issued = r.issued)
    (hpending : r'.state.pending = r.state.pending ∨ r'.state.pending = none) :
    NumbersInOrder r' := by
  refine h.of_sublist ?_ hissued
  unfold CpuOutputRun.numbers
  rw [hpublished, hworker]
  rcases hpending with hsame | hnone
  · rw [hsame]
  · rw [hnone]
    exact List.Sublist.append_left (List.nil_sublist _) _

theorem replacePending (h : NumbersInOrder r) (request : OutputRequest) :
    NumbersInOrder (r.replacePending request) := by
  have hbefore : ∀ number ∈ r.published.map Publication.number ++
      (r.worker.unpublished.toList.map fun job => job.submission.number), number < r.issued :=
    fun number hnumber => h.issued number (List.mem_append_left _ hnumber)
  constructor
  · change (_ ++ [r.issued]).Pairwise (· < ·)
    rw [List.pairwise_append]
    refine ⟨(List.pairwise_append.mp h.sorted).1, List.pairwise_singleton _ _, ?_⟩
    intro number hnumber other hother
    rw [List.mem_singleton.mp hother]
    exact hbefore number hnumber
  · intro number hnumber
    change number ∈ _ ++ [r.issued] at hnumber
    change number < r.issued + 1
    cases List.mem_append.mp hnumber with
    | inl hold => exact Nat.lt_succ_of_lt (hbefore number hold)
    | inr hnew =>
        rw [List.mem_singleton.mp hnew]
        exact Nat.lt_succ_self _

theorem advance (h : NumbersInOrder r) (kind : SharedFrameKind) :
    NumbersInOrder (r.advanceGeneration kind) := by
  refine h.of_pending rfl rfl rfl ?_
  unfold advanceGeneration
  dsimp only
  split
  · exact .inr rfl
  · exact .inl rfl

theorem call (h : NumbersInOrder r) (hcall : OutputCall r r') : NumbersInOrder r' := by
  have hsupersede : NumbersInOrder r.supersede := h.of_sublist (List.Sublist.refl _) rfl
  cases hcall with
  | refused => exact h
  | kept request => exact hsupersede.replacePending request
  | advanced request => exact (hsupersede.advance _).replacePending request
  | exhausted kind => exact hsupersede.advance kind
  | invalidated =>
      exact (hsupersede.advance .placeholder).of_pending rfl rfl rfl (.inr rfl)
  | dropped =>
      have hemptied : NumbersInOrder { r.supersede with
          state := { r.state with stopped := true, pending := none }
          dropped := true } := hsupersede.of_pending rfl rfl rfl (.inr rfl)
      exact hemptied.advance .placeholder

theorem take (h : NumbersInOrder r) {submission : OutputSubmission}
    (hworker : r.worker = .admitting)
    (hpending : r.state.pending = some submission) : NumbersInOrder (r.take submission) := by
  refine h.of_sublist ?_ rfl
  unfold CpuOutputRun.numbers
  rw [hworker, hpending]
  change (_ ++ [submission.number] ++ []).Sublist (_ ++ [] ++ [submission.number])
  rw [List.append_nil, List.append_nil]
  exact List.Sublist.refl _

theorem of_worker (h : NumbersInOrder r) (hpublished : r'.published = r.published)
    (hpending : r'.state.pending = r.state.pending) (hissued : r'.issued = r.issued)
    (hworker : r'.worker.unpublished = r.worker.unpublished ∨ r'.worker.unpublished = none) :
    NumbersInOrder r' := by
  refine h.of_sublist ?_ hissued
  unfold CpuOutputRun.numbers
  rw [hpublished, hpending]
  rcases hworker with hsame | hnone
  · rw [hsame]
  · rw [hnone]
    change (_ ++ [] ++ _).Sublist _
    rw [List.append_nil]
    exact List.Sublist.append_right (List.sublist_append_left _ _) _

theorem move (h : NumbersInOrder r) (hmove : WorkerMove r r') : NumbersInOrder r' := by
  cases hmove with
  | stays => exact h
  | exits => exact h.of_worker rfl rfl rfl (.inr rfl)
  | waits => exact h.of_sublist (List.Sublist.refl _) rfl
  | takesPlaceholder submission hworker _ hpending => exact h.take hworker hpending
  | takesFrame submission sequence hworker _ hpending =>
      have hserved : NumbersInOrder (r.serve sequence) := h.of_sublist (List.Sublist.refl _) rfl
      exact hserved.take hworker hpending
  | abandons => exact h.of_worker rfl rfl rfl (.inr rfl)
  | compares job hworker => exact h.of_worker rfl rfl rfl (.inl (by rw [hworker]; rfl))
  | prepares job result exports more cache hworker =>
      exact h.of_worker rfl rfl rfl (.inl (by rw [hworker]; rfl))
  | preparesPlaceholder job mode reconnecting hworker =>
      exact h.of_worker rfl rfl rfl (.inl (by rw [hworker]; rfl))
  | goesOn job worker hjob hjob' =>
      refine h.of_worker rfl rfl rfl (.inl ?_)
      rw [unpublished_of_compared hjob]
      exact unpublished_of_compared hjob'
  | fails job error hjob =>
      refine h.of_worker rfl rfl rfl (.inl ?_)
      rw [unpublished_of_compared hjob]
      rfl
  | publishes job prepared checked hworker =>
      refine h.of_sublist ?_ rfl
      unfold CpuOutputRun.numbers
      rw [hworker]
      change ((r.published ++ [_]).map Publication.number ++ [] ++ _).Sublist
        (_ ++ [job.submission.number] ++ _)
      rw [List.map_append, List.append_nil]
      exact List.Sublist.refl _
  | errs job prepared checked error hworker =>
      exact h.of_worker rfl rfl rfl (.inl (by rw [hworker]; rfl))
  | busy job prepared checked hworker =>
      exact h.of_worker rfl rfl rfl (.inl (by rw [hworker]; rfl))
  | reports => exact h.of_worker rfl rfl rfl (.inr rfl)

end NumbersInOrder

/-! ## Preparations and the requests of the consumers -/

/-- The frame in hand, while it is yet to be prepared. -/
def CpuOutputRun.owed (r : CpuOutputRun Image) : Nat :=
  (r.worker.unprepared.filter fun job => job.key.isSome).toList.length

/-- Each preparation was authorized by a request sequence of its own. -/
structure Authorized (r : CpuOutputRun Image) : Prop where
  seen : r.servedRequest ≤ r.requestSequence
  sorted : r.served.Pairwise (· < ·)
  upto : ∀ sequence ∈ r.served, sequence ≤ r.servedRequest
  covered : r.preparations + r.owed ≤ r.served.length

namespace Authorized

theorem of_same (h : Authorized r) (hseen : r'.servedRequest = r.servedRequest)
    (hsequence : r.requestSequence ≤ r'.requestSequence) (hserved : r'.served = r.served)
    (hpreparations : r'.preparations + r'.owed ≤ r.preparations + r.owed) : Authorized r' := by
  refine ⟨?_, ?_, ?_, ?_⟩
  · rw [hseen]
    exact h.seen.trans hsequence
  · rw [hserved]
    exact h.sorted
  · rw [hserved, hseen]
    exact h.upto
  · rw [hserved]
    exact hpreparations.trans h.covered

theorem call (h : Authorized r) (hcall : OutputCall r r') : Authorized r' := by
  cases hcall <;> exact h.of_same rfl le_rfl rfl le_rfl

theorem owed_le_one (r : CpuOutputRun Image) : r.owed ≤ 1 := by
  unfold CpuOutputRun.owed
  cases r.worker.unprepared.filter fun job => job.key.isSome with
  | none => exact Nat.zero_le 1
  | some job => exact le_rfl

theorem owed_of_admitting (hworker : r.worker = .admitting) : r.owed = 0 := by
  unfold CpuOutputRun.owed
  rw [hworker]
  rfl

theorem takesFrame {submission : OutputSubmission} {sequence : Nat} (h : Authorized r)
    (hworker : r.worker = .admitting) (hsequence : sequence = r.requestSequence)
    (hnew : sequence ≠ r.servedRequest) : Authorized ((r.serve sequence).take submission) := by
  have hlater : r.servedRequest < sequence := by
    rw [hsequence]
    exact lt_of_le_of_ne h.seen fun heq => hnew (hsequence.trans heq.symm)
  refine ⟨hsequence.le, ?_, ?_, ?_⟩
  · change (r.served ++ [sequence]).Pairwise (· < ·)
    rw [List.pairwise_append]
    refine ⟨h.sorted, List.pairwise_singleton _ _, fun earlier hearlier other hother => ?_⟩
    rw [List.mem_singleton.mp hother]
    exact Nat.lt_of_le_of_lt (h.upto earlier hearlier) hlater
  · intro other hother
    change other ∈ r.served ++ [sequence] at hother
    cases List.mem_append.mp hother with
    | inl hold => exact (h.upto other hold).trans hlater.le
    | inr hlast => exact (List.mem_singleton.mp hlast).le
  · have hcovered := h.covered
    rw [owed_of_admitting hworker] at hcovered
    change r.preparations + _ ≤ (r.served ++ [sequence]).length
    rw [List.length_append]
    exact Nat.add_le_add hcovered (owed_le_one _)

theorem move (h : Authorized r) (hmove : WorkerMove r r') : Authorized r' := by
  cases hmove with
  | stays => exact h
  | exits => exact h.of_same rfl le_rfl rfl (Nat.le_add_right _ _)
  | waits => exact h.of_same rfl le_rfl rfl le_rfl
  | takesPlaceholder submission hworker _ hpending hkind =>
      have hkey : (⟨r.state.generation, submission⟩ : OutputJob).key = none := by
        unfold OutputJob.key
        cases hrequest : submission.request with
        | frame frame =>
            rw [hrequest] at hkind
            cases hkind
        | placeholder mode reconnecting => rfl
      refine h.of_same rfl le_rfl rfl (Nat.add_le_add_left (le_of_eq ?_) _)
      rw [owed_of_admitting hworker]
      unfold CpuOutputRun.owed
      change ((some (⟨r.state.generation, submission⟩ : OutputJob)).filter
        fun job => job.key.isSome).toList.length = 0
      rw [Option.filter_some, hkey]
      rfl
  | takesFrame submission sequence hworker _ _ _ hsequence hnew =>
      exact h.takesFrame hworker hsequence hnew
  | abandons => exact h.of_same rfl le_rfl rfl (Nat.le_add_right _ _)
  | compares job hworker =>
      refine h.of_same rfl le_rfl rfl (Nat.add_le_add_left (le_of_eq ?_) _)
      unfold CpuOutputRun.owed
      rw [hworker]
      rfl
  | prepares job result exports more cache hworker hframe hmore =>
      refine h.of_same rfl le_rfl rfl ?_
      have howed : r.owed = 1 := by
        unfold CpuOutputRun.owed
        rw [hworker]
        change ((some job).filter fun job => job.key.isSome).toList.length = 1
        rw [Option.filter_some, hframe]
        rfl
      rw [howed]
      change r.preparations + more + 0 ≤ _
      omega
  | preparesPlaceholder => exact h.of_same rfl le_rfl rfl (Nat.le_add_right _ _)
  | goesOn job worker _ _ hprepared =>
      refine h.of_same rfl le_rfl rfl (Nat.add_le_add_left ?_ _)
      unfold CpuOutputRun.owed
      rw [show (r.goTo worker).worker.unprepared = none from hprepared]
      exact Nat.zero_le _
  | fails => exact h.of_same rfl le_rfl rfl (Nat.le_add_right _ _)
  | publishes => exact h.of_same rfl le_rfl rfl (Nat.le_add_right _ _)
  | errs => exact h.of_same rfl le_rfl rfl (Nat.le_add_right _ _)
  | busy => exact h.of_same rfl le_rfl rfl (Nat.le_add_right _ _)
  | reports => exact h.of_same rfl le_rfl rfl (Nat.le_add_right _ _)

end Authorized

/-! ## The generation of a publish -/

/-- The call to publish carries the generation of an admission, which the last check saw. -/
def Carries (r : CpuOutputRun Image) (attempt : PublishAttempt) : Prop :=
  attempt.checked = attempt.generation ∧ ∃ job ∈ r.admitted,
    job.submission.number = attempt.number ∧ job.generation = attempt.generation

structure Checked (r : CpuOutputRun Image) : Prop where
  inHand : ∀ job, r.worker.job = some job → job ∈ r.admitted
  publishing : ∀ job prepared checked, r.worker = .publishing job prepared checked →
    checked = job.generation
  carried : ∀ attempt ∈ r.attempts, Carries r attempt

namespace Checked

theorem of_same (h : Checked r) (hworker : r'.worker = r.worker)
    (hadmitted : r'.admitted = r.admitted) (hattempts : r'.attempts = r.attempts) :
    Checked r' := by
  refine ⟨?_, ?_, ?_⟩
  · rw [hworker, hadmitted]
    exact h.inHand
  · rw [hworker]
    exact h.publishing
  · rw [hattempts]
    unfold Carries
    rw [hadmitted]
    exact h.carried

theorem call (h : Checked r) (hcall : OutputCall r r') : Checked r' := by
  cases hcall <;> exact h.of_same rfl rfl rfl

theorem of_worker (h : Checked r) (hadmitted : r'.admitted = r.admitted)
    (hattempts : r'.attempts = r.attempts)
    (hjob : ∀ job, r'.worker.job = some job → r.worker.job = some job)
    (hchecked : ∀ job prepared checked, r'.worker = .publishing job prepared checked →
      checked = job.generation) : Checked r' := by
  refine ⟨fun job hheld => ?_, hchecked, ?_⟩
  · rw [hadmitted]
    exact h.inHand job (hjob job hheld)
  · rw [hattempts]
    unfold Carries
    rw [hadmitted]
    exact h.carried

theorem take (h : Checked r) (submission : OutputSubmission) : Checked (r.take submission) := by
  refine ⟨?_, nofun, fun attempt hattempt => ?_⟩
  · intro job hjob
    cases hjob
    exact List.mem_append_right _ (List.mem_singleton_self _)
  · obtain ⟨hsame, job, hjob, hrest⟩ := h.carried attempt hattempt
    exact ⟨hsame, job, List.mem_append_left _ hjob, hrest⟩

theorem attempt {job : OutputJob} {prepared : Prepared Image} {checked : Nat} (h : Checked r)
    (hworker : r.worker = .publishing job prepared checked) :
    ∀ attempt ∈ (r.attempt job checked).attempts, Carries r attempt := by
  intro attempt hattempt
  cases List.mem_append.mp hattempt with
  | inl hold => exact h.carried attempt hold
  | inr hnew =>
      rw [List.mem_singleton.mp hnew]
      have hjob : job ∈ r.admitted := h.inHand job (by rw [hworker]; rfl)
      exact ⟨h.publishing job prepared checked hworker, job, hjob, rfl, rfl⟩

theorem move (h : Checked r) (hmove : WorkerMove r r') : Checked r' := by
  cases hmove with
  | stays => exact h
  | exits => exact h.of_worker rfl rfl nofun nofun
  | waits => exact h.of_same rfl rfl rfl
  | takesPlaceholder submission => exact h.take submission
  | takesFrame submission sequence =>
      have hserved : Checked (r.serve sequence) := h.of_same rfl rfl rfl
      exact hserved.take submission
  | abandons => exact h.of_worker rfl rfl nofun nofun
  | compares job hworker => exact h.of_worker rfl rfl (by rw [hworker]; exact fun _ h => h) nofun
  | prepares job result exports more cache hworker =>
      exact h.of_worker rfl rfl (by rw [hworker]; exact fun _ h => h) nofun
  | preparesPlaceholder job mode reconnecting hworker =>
      exact h.of_worker rfl rfl (by rw [hworker]; exact fun _ h => h) nofun
  | goesOn job worker hjob hjob' _ hchecked =>
      refine h.of_worker rfl rfl (fun other hother => ?_) fun other prepared checked heq => ?_
      · rw [job_of_unpublished (unpublished_of_compared hjob)]
        exact (job_of_unpublished (unpublished_of_compared hjob')).symm.trans hother
      · exact hchecked other prepared checked heq
  | fails job error hjob =>
      refine h.of_worker rfl rfl (fun other hother => ?_) nofun
      exact (job_of_unpublished (unpublished_of_compared hjob)).trans hother
  | publishes job prepared checked hworker =>
      exact ⟨fun other hother => h.inHand other (by rw [hworker]; exact hother), nofun,
        h.attempt hworker⟩
  | errs job prepared checked error hworker =>
      exact ⟨fun other hother => h.inHand other (by rw [hworker]; exact hother), nofun,
        h.attempt hworker⟩
  | busy job prepared checked hworker =>
      exact ⟨fun other hother => h.inHand other (by rw [hworker]; exact hother), nofun,
        h.attempt hworker⟩
  | reports => exact h.of_worker rfl rfl nofun nofun

end Checked

end PicooCamera.Receiver
