import PicooCamera.Receiver.CpuOutputRuns

/-!
# The contract of the CPU output

A call that makes content obsolete advances the generation before it touches the
cell, and a placeholder always does. So a placeholder meets no younger request of
its own generation, and only a later call takes it away.
-/

namespace PicooCamera.Receiver

open PicooCamera.FrameHub PicooCamera.Library PicooCamera.Packet PicooCamera.SharedRing
open CpuOutputRun

variable {Image : Type} {r r' : CpuOutputRun Image}

/-! ## Generations -/

theorem advance_later {kind : SharedFrameKind} (hfenced : r.fence = r.state.generation)
    (h : (r.advanceGeneration kind).state.stopped = false) :
    r.state.stopped = false ∧
      r.state.generation < (r.advanceGeneration kind).state.generation := by
  obtain ⟨hrunning, hgeneration⟩ := Bool.or_eq_false_iff.mp h
  refine ⟨hrunning, ?_⟩
  rw [← hfenced]
  exact (generation_advances r.fence).resolve_right (of_decide_eq_false hgeneration)

/-- The mutex sees the generation of the ring, and the cell holds a request of the last kind. -/
structure Fenced (r : CpuOutputRun Image) : Prop where
  same : r.fence = r.state.generation
  kind : ∀ submission, r.state.pending = some submission → submission.request.kind = r.state.kind

namespace Fenced

theorem call (h : Fenced r) (hcall : OutputCall r r') : Fenced r' := by
  cases hcall with
  | refused => exact h
  | kept request _ hkind =>
      refine ⟨h.same, fun submission hpending => ?_⟩
      cases hpending
      exact hkind.symm
  | advanced request =>
      refine ⟨rfl, fun submission hpending => ?_⟩
      cases hpending
      rfl
  | exhausted kind hstopped hstops =>
      refine ⟨rfl, fun submission hpending => ?_⟩
      -- The call went through while the output was running: the generations are used up.
      have hexhausted : nextGeneration r.fence = 0 := by
        have hstop : (r.state.stopped || decide (nextGeneration r.fence = 0)) = true := hstops
        rw [hstopped] at hstop
        exact of_decide_eq_true hstop
      have hcleared : (r.supersede.advanceGeneration kind).state.pending = none :=
        if_pos hexhausted
      rw [hcleared] at hpending
      cases hpending
  | invalidated => exact ⟨rfl, nofun⟩
  | dropped =>
      refine ⟨rfl, fun submission hpending => ?_⟩
      have hcleared : r.drop.state.pending = none := by
        unfold CpuOutputRun.drop advanceGeneration
        dsimp only
        split <;> rfl
      rw [hcleared] at hpending
      cases hpending

theorem move (h : Fenced r) (hmove : WorkerMove r r') : Fenced r' := by
  cases hmove with
  | takesPlaceholder => exact ⟨h.same, nofun⟩
  | takesFrame => exact ⟨h.same, nofun⟩
  | _ => exact ⟨h.same, h.kind⟩

end Fenced

/-! ## Published source keys -/

def CpuOutputRun.keys (r : CpuOutputRun Image) : List SourceKey :=
  r.published.filterMap Publication.key

theorem generation_of_key {job : OutputJob} {key : SourceKey} (h : job.key = some key) :
    key.generation = job.generation := by
  unfold OutputJob.key at h
  split at h
  · cases h
    rfl
  · cases h

theorem key_eq_none {job : OutputJob} (h : job.submission.request.kind = .placeholder) :
    job.key = none := by
  unfold OutputJob.key
  split
  · rename_i frame hrequest
    rw [hrequest] at h
    cases h
  · rfl

theorem kind_of_key {job : OutputJob} (h : job.key.isSome = true) :
    job.submission.request.kind = .live := by
  cases hkind : job.submission.request.kind with
  | live => rfl
  | placeholder =>
      rw [key_eq_none hkind] at h
      cases h

/-- `published_key` is the last key, or belongs to a generation that is over. -/
structure KeysDiffer (r : CpuOutputRun Image) : Prop where
  upto : r.state.stopped = false → ∀ key ∈ r.keys, key.generation ≤ r.state.generation
  uptoJob : r.state.stopped = false → ∀ job, r.worker.unpublished = some job →
    job.generation ≤ r.state.generation
  below : r.state.stopped = false → r.state.kind = .placeholder →
    ∀ key ∈ r.keys, key.generation < r.state.generation
  belowJob : r.state.stopped = false → r.state.kind = .placeholder →
    ∀ job, r.worker.unpublished = some job → job.key.isSome = true →
      job.generation < r.state.generation
  placeholder : ∀ job, r.worker.unpublished = some job → job.key = none →
    ∀ key ∈ r.keys, key.generation < job.generation
  last : ∀ key, r.publishedKey = some key → r.keys.getLast? = some key
  forgotten : r.publishedKey = none → r.state.stopped = false →
    ∀ key ∈ r.keys, key.generation < r.state.generation
  forgottenJob : r.publishedKey = none → ∀ job, r.worker.unpublished = some job →
    job.key.isSome = true → ∀ key ∈ r.keys, key.generation < job.generation
  differs : ∀ job, r.worker.compared = some job → job.key.isSome = true →
    job.key ≠ r.publishedKey
  chain : r.keys.IsChain (· ≠ ·)

namespace KeysDiffer

theorem of_state (h : KeysDiffer r) (hworker : r'.worker = r.worker)
    (hpublished : r'.published = r.published) (hpublishedKey : r'.publishedKey = r.publishedKey)
    (hstate : r'.state.stopped = false → r.state.stopped = false ∧
      ((r'.state.generation = r.state.generation ∧ r'.state.kind = r.state.kind) ∨
        r.state.generation < r'.state.generation)) : KeysDiffer r' := by
  have hkeys : r'.keys = r.keys := by
    unfold CpuOutputRun.keys
    rw [hpublished]
  have hle : r'.state.stopped = false → r.state.generation ≤ r'.state.generation :=
    fun hrunning => (hstate hrunning).2.elim (fun hsame => hsame.1.ge) Nat.le_of_lt
  constructor
  · intro hrunning key hkey
    rw [hkeys] at hkey
    exact (h.upto (hstate hrunning).1 key hkey).trans (hle hrunning)
  · intro hrunning job hjob
    rw [hworker] at hjob
    exact (h.uptoJob (hstate hrunning).1 job hjob).trans (hle hrunning)
  · intro hrunning hkind key hkey
    rw [hkeys] at hkey
    obtain ⟨hrunning', ⟨hgeneration, hkind'⟩ | hlater⟩ := hstate hrunning
    · rw [hgeneration]
      exact h.below hrunning' (hkind'.symm.trans hkind) key hkey
    · exact Nat.lt_of_le_of_lt (h.upto hrunning' key hkey) hlater
  · intro hrunning hkind job hjob hframe
    rw [hworker] at hjob
    obtain ⟨hrunning', ⟨hgeneration, hkind'⟩ | hlater⟩ := hstate hrunning
    · rw [hgeneration]
      exact h.belowJob hrunning' (hkind'.symm.trans hkind) job hjob hframe
    · exact Nat.lt_of_le_of_lt (h.uptoJob hrunning' job hjob) hlater
  · rw [hworker, hkeys]
    exact h.placeholder
  · rw [hpublishedKey, hkeys]
    exact h.last
  · intro hnone hrunning key hkey
    rw [hkeys] at hkey
    rw [hpublishedKey] at hnone
    exact Nat.lt_of_lt_of_le (h.forgotten hnone (hstate hrunning).1 key hkey) (hle hrunning)
  · rw [hpublishedKey, hworker, hkeys]
    exact h.forgottenJob
  · rw [hworker, hpublishedKey]
    exact h.differs
  · rw [hkeys]
    exact h.chain

theorem advance (h : KeysDiffer r) (hfenced : r.fence = r.state.generation)
    (kind : SharedFrameKind) : KeysDiffer (r.advanceGeneration kind) := by
  refine h.of_state rfl rfl rfl fun hrunning => ?_
  obtain ⟨hrunning', hlater⟩ := advance_later hfenced hrunning
  exact ⟨hrunning', .inr hlater⟩

theorem call (h : KeysDiffer r) (hfenced : Fenced r) (hcall : OutputCall r r') :
    KeysDiffer r' := by
  have hsupersede : KeysDiffer r.supersede :=
    h.of_state rfl rfl rfl fun hrunning => ⟨hrunning, .inl ⟨rfl, rfl⟩⟩
  cases hcall with
  | refused => exact h
  | kept request =>
      exact hsupersede.of_state rfl rfl rfl fun hrunning => ⟨hrunning, .inl ⟨rfl, rfl⟩⟩
  | advanced request =>
      exact (hsupersede.advance hfenced.same request.kind).of_state rfl rfl rfl
        fun hrunning => ⟨hrunning, .inl ⟨rfl, rfl⟩⟩
  | exhausted kind => exact hsupersede.advance hfenced.same kind
  | invalidated =>
      exact (hsupersede.advance hfenced.same .placeholder).of_state rfl rfl rfl
        fun hrunning => ⟨hrunning, .inl ⟨rfl, rfl⟩⟩
  | dropped => exact hsupersede.of_state rfl rfl rfl nofun

theorem of_worker (h : KeysDiffer r) (hpublished : r'.published = r.published)
    (hpublishedKey : r'.publishedKey = r.publishedKey)
    (hstate : r'.state.generation = r.state.generation ∧ r'.state.kind = r.state.kind ∧
      r'.state.stopped = r.state.stopped)
    (hworker : ∀ job, r'.worker.unpublished = some job → r.worker.unpublished = some job)
    (hcompared : ∀ job, r'.worker.compared = some job → job.key.isSome = true →
      job.key ≠ r.publishedKey) : KeysDiffer r' := by
  have hkeys : r'.keys = r.keys := by
    unfold CpuOutputRun.keys
    rw [hpublished]
  obtain ⟨hgeneration, hkind, hstopped⟩ := hstate
  constructor
  · rw [hstopped, hkeys, hgeneration]
    exact h.upto
  · rw [hstopped, hgeneration]
    exact fun hrunning job hjob => h.uptoJob hrunning job (hworker job hjob)
  · rw [hstopped, hkind, hkeys, hgeneration]
    exact h.below
  · rw [hstopped, hkind, hgeneration]
    exact fun hrunning hkind job hjob => h.belowJob hrunning hkind job (hworker job hjob)
  · rw [hkeys]
    exact fun job hjob => h.placeholder job (hworker job hjob)
  · rw [hpublishedKey, hkeys]
    exact h.last
  · rw [hpublishedKey, hstopped, hkeys, hgeneration]
    exact h.forgotten
  · rw [hpublishedKey, hkeys]
    exact fun hnone job hjob => h.forgottenJob hnone job (hworker job hjob)
  · rw [hpublishedKey]
    exact hcompared
  · rw [hkeys]
    exact h.chain

theorem take {submission : OutputSubmission} (h : KeysDiffer r) (hfenced : Fenced r)
    (running : r.state.stopped = false) (hpending : r.state.pending = some submission) :
    KeysDiffer (r.take submission) := by
  have hkind := hfenced.kind submission hpending
  constructor
  · exact h.upto
  · intro _ job hjob
    cases hjob
    exact le_rfl
  · exact h.below
  · intro _ hplaceholder job hjob hframe
    cases hjob
    have hlive : submission.request.kind = .live := kind_of_key hframe
    rw [hkind] at hlive
    cases hlive.symm.trans hplaceholder
  · intro job hjob hnone key hkey
    cases hjob
    refine h.below running ?_ key hkey
    rw [← hkind]
    cases hrequest : submission.request with
    | placeholder mode reconnecting => rfl
    | frame frame =>
        unfold OutputJob.key at hnone
        rw [hrequest] at hnone
        cases hnone
  · exact h.last
  · exact h.forgotten
  · intro hnone job hjob _ key hkey
    cases hjob
    exact h.forgotten hnone running key hkey
  · exact nofun
  · exact h.chain

theorem preparePlaceholder {job : OutputJob} {mode : PlaceholderMode} {reconnecting : Bool}
    (h : KeysDiffer r) (hworker : r.worker = .preparing job) (hplaceholder : job.key = none) :
    KeysDiffer (r.preparePlaceholder job mode reconnecting) := by
  have hjob : r.worker.unpublished = some job := by
    rw [hworker]
    rfl
  have hbelow := h.placeholder job hjob hplaceholder
  constructor
  · exact h.upto
  · intro hrunning other hother
    cases hother
    exact h.uptoJob hrunning job hjob
  · exact h.below
  · intro hrunning hkind other hother hframe
    cases hother
    exact h.belowJob hrunning hkind job hjob hframe
  · intro other hother _ key hkey
    cases hother
    exact hbelow key hkey
  · exact nofun
  · exact fun _ hrunning key hkey =>
      Nat.lt_of_lt_of_le (hbelow key hkey) (h.uptoJob hrunning job hjob)
  · intro _ other hother hframe
    cases hother
    rw [hplaceholder] at hframe
    cases hframe
  · intro other hother hframe
    cases hother
    rw [hplaceholder] at hframe
    cases hframe
  · exact h.chain

theorem fresh_key {job : OutputJob} {key : SourceKey} (h : KeysDiffer r)
    (hcompared : r.worker.compared = some job) (hkey : job.key = some key) :
    ∀ before ∈ r.keys.getLast?, before ≠ key := by
  have hframe : job.key.isSome = true := by
    rw [hkey]
    rfl
  intro before hbefore heq
  cases hpublished : r.publishedKey with
  | some published =>
      have hsame := (h.last published hpublished).symm.trans hbefore
      have hdiffers := h.differs job hcompared hframe
      rw [hkey, hpublished, Option.some.inj hsame, heq] at hdiffers
      exact hdiffers rfl
  | none =>
      have hlater := h.forgottenJob hpublished job (unpublished_of_compared hcompared) hframe
        before (List.mem_of_getLast? hbefore)
      rw [heq, generation_of_key hkey] at hlater
      exact lt_irrefl _ hlater

theorem publishes {job : OutputJob} {prepared : Prepared Image} {checked : Nat}
    (h : KeysDiffer r) (hworker : r.worker = .publishing job prepared checked) :
    KeysDiffer ((r.attempt job checked).notePublished job) := by
  have hcompared : r.worker.compared = some job := by
    rw [hworker]
    rfl
  have hjob := unpublished_of_compared hcompared
  have hkeys : ((r.attempt job checked).notePublished job).keys = r.keys ++ job.key.toList := by
    unfold CpuOutputRun.keys notePublished
    rw [List.filterMap_append]
    cases job.key <;> rfl
  cases hkey : job.key with
  | none =>
      have hbelow := h.placeholder job hjob hkey
      rw [hkey, Option.toList_none, List.append_nil] at hkeys
      constructor
      · rw [hkeys]
        exact h.upto
      · exact fun _ _ => nofun
      · rw [hkeys]
        exact h.below
      · exact fun _ _ _ => nofun
      · exact fun _ => nofun
      · intro key hpublished
        rw [show job.key = some key from hpublished] at hkey
        cases hkey
      · rw [hkeys]
        exact fun _ hrunning key hmem =>
          Nat.lt_of_lt_of_le (hbelow key hmem) (h.uptoJob hrunning job hjob)
      · exact fun _ _ => nofun
      · exact fun _ => nofun
      · rw [hkeys]
        exact h.chain
  | some key =>
      have hgeneration := generation_of_key hkey
      have hframe : job.key.isSome = true := by
        rw [hkey]
        rfl
      rw [hkey, Option.toList_some] at hkeys
      constructor
      · intro hrunning other hother
        rw [hkeys] at hother
        cases List.mem_append.mp hother with
        | inl hold => exact h.upto hrunning other hold
        | inr hnew =>
            rw [List.mem_singleton.mp hnew, hgeneration]
            exact h.uptoJob hrunning job hjob
      · exact fun _ _ => nofun
      · intro hrunning hkind other hother
        rw [hkeys] at hother
        cases List.mem_append.mp hother with
        | inl hold => exact h.below hrunning hkind other hold
        | inr hnew =>
            rw [List.mem_singleton.mp hnew, hgeneration]
            exact h.belowJob hrunning hkind job hjob hframe
      · exact fun _ _ _ => nofun
      · exact fun _ => nofun
      · intro other hother
        rw [hkeys, List.getLast?_concat]
        exact hkey.symm.trans hother
      · intro hnone
        rw [show job.key = none from hnone] at hkey
        cases hkey
      · exact fun _ _ => nofun
      · exact fun _ => nofun
      · rw [hkeys, List.isChain_append]
        refine ⟨h.chain, List.isChain_singleton _, ?_⟩
        intro before hbefore other hother
        cases hother
        exact h.fresh_key hcompared hkey before hbefore

theorem move (h : KeysDiffer r) (hfenced : Fenced r) (hmove : WorkerMove r r') :
    KeysDiffer r' := by
  cases hmove with
  | stays => exact h
  | exits => exact h.of_worker rfl rfl ⟨rfl, rfl, rfl⟩ nofun nofun
  | waits =>
      exact h.of_worker rfl rfl ⟨rfl, rfl, rfl⟩ (fun _ hjob => hjob) h.differs
  | takesPlaceholder submission _ running hpending _ => exact h.take hfenced running hpending
  | takesFrame submission sequence _ running hpending =>
      have hserved : KeysDiffer (r.serve sequence) :=
        h.of_worker rfl rfl ⟨rfl, rfl, rfl⟩ (fun _ hjob => hjob) h.differs
      exact hserved.take ⟨hfenced.same, hfenced.kind⟩ running hpending
  | abandons => exact h.of_worker rfl rfl ⟨rfl, rfl, rfl⟩ nofun nofun
  | compares job hworker hnew =>
      refine h.of_worker rfl rfl ⟨rfl, rfl, rfl⟩ (fun other hother => ?_) fun other hother => ?_
      · rw [hworker]
        exact hother
      · cases hother
        exact hnew
  | prepares job result exports more cache hworker =>
      refine h.of_worker rfl rfl ⟨rfl, rfl, rfl⟩ (fun other hother => ?_) fun other hother => ?_
      · rw [hworker]
        exact hother
      · refine h.differs other ?_
        rw [hworker]
        exact hother
  | preparesPlaceholder job mode reconnecting hworker hplaceholder =>
      exact h.preparePlaceholder hworker hplaceholder
  | goesOn job worker hjob hjob' =>
      refine h.of_worker rfl rfl ⟨rfl, rfl, rfl⟩ (fun other hother => ?_) fun other hother => ?_
      · rw [unpublished_of_compared hjob]
        exact (unpublished_of_compared hjob').symm.trans hother
      · exact h.differs other (hjob.trans (hjob'.symm.trans hother))
  | fails job error hjob =>
      refine h.of_worker rfl rfl ⟨rfl, rfl, rfl⟩ (fun other hother => ?_) nofun
      exact (unpublished_of_compared hjob).trans hother
  | publishes job prepared checked hworker => exact h.publishes hworker
  | errs job prepared checked error hworker =>
      refine h.of_worker rfl rfl ⟨rfl, rfl, rfl⟩ (fun other hother => ?_) nofun
      rw [hworker]
      exact hother
  | busy job prepared checked hworker =>
      refine h.of_worker rfl rfl ⟨rfl, rfl, rfl⟩ (fun other hother => ?_) fun other hother => ?_
      · rw [hworker]
        exact hother
      · refine h.differs other ?_
        rw [hworker]
        exact hother
  | reports => exact h.of_worker rfl rfl ⟨rfl, rfl, rfl⟩ nofun nofun

end KeysDiffer

/-! ## Placeholders -/

/-- The last placeholder waits in an otherwise unused cell, or is in hand with the cell empty. -/
structure Kept (r : CpuOutputRun Image) : Prop where
  kept : ∀ number, r.standing = some number → r.state.stopped = false →
    (∃ submission, r.state.pending = some submission ∧ submission.number = number ∧
      submission.request.kind = .placeholder) ∨
    (r.state.pending = none ∧
      ((∃ job, r.worker.unpublished = some job ∧ job.submission.number = number ∧
        job.key = none ∧ job.generation = r.state.generation) ∨
      number ∈ r.published.map Publication.number ∨ number ∈ r.failed))

namespace Kept

theorem call (h : Kept r) (hcall : OutputCall r r') : Kept r' := by
  have hreplaced : ∀ (before : CpuOutputRun Image) (request : OutputRequest),
      Kept (before.replacePending request) := by
    refine fun before request => ⟨fun number hstanding _ => .inl ?_⟩
    obtain ⟨hkind, heq⟩ := Option.ite_none_right_eq_some.mp hstanding
    exact ⟨_, rfl, Option.some.inj heq, hkind⟩
  cases hcall with
  | refused => exact h
  | kept request => exact hreplaced _ request
  | advanced request => exact hreplaced _ request
  | exhausted => exact ⟨fun _ => nofun⟩
  | invalidated => exact ⟨fun _ => nofun⟩
  | dropped => exact ⟨fun _ => nofun⟩

theorem of_worker (h : Kept r) (hstanding : r'.standing = r.standing)
    (hstate : r'.state.pending = r.state.pending ∧ r'.state.generation = r.state.generation ∧
      r'.state.stopped = r.state.stopped)
    (hpublished : ∀ number ∈ r.published.map Publication.number,
      number ∈ r'.published.map Publication.number)
    (hfailed : ∀ number ∈ r.failed, number ∈ r'.failed)
    (hworker : ∀ job, r.worker.unpublished = some job → r.state.pending = none →
      r.state.stopped = false → job.key = none → job.generation = r.state.generation →
      r'.worker.unpublished = some job ∨
        job.submission.number ∈ r'.published.map Publication.number ∨
          job.submission.number ∈ r'.failed) : Kept r' := by
  refine ⟨fun number hnumber hrunning => ?_⟩
  obtain ⟨hpending, hgeneration, hstopped⟩ := hstate
  rw [hstanding] at hnumber
  rw [hstopped] at hrunning
  rw [hpending, hgeneration]
  refine (h.kept number hnumber hrunning).imp id fun ⟨hempty, hrest⟩ => ⟨hempty, ?_⟩
  rcases hrest with ⟨job, hjob, rfl, hkey, hcurrent⟩ | hdone | hdone
  · exact (hworker job hjob hempty hrunning hkey hcurrent).imp
      (fun hheld => ⟨job, hheld, rfl, hkey, hcurrent⟩) id
  · exact .inr (.inl (hpublished number hdone))
  · exact .inr (.inr (hfailed number hdone))

theorem of_job (h : Kept r) (hstanding : r'.standing = r.standing)
    (hstate : r'.state.pending = r.state.pending ∧ r'.state.generation = r.state.generation ∧
      r'.state.stopped = r.state.stopped) (hpublished : r'.published = r.published)
    (hfailed : r'.failed = r.failed) (hworker : r'.worker.unpublished = r.worker.unpublished) :
    Kept r' := by
  refine h.of_worker hstanding hstate ?_ ?_ fun job hjob _ _ _ _ => .inl (hworker.trans hjob)
  · rw [hpublished]
    exact fun _ hnumber => hnumber
  · rw [hfailed]
    exact fun _ hnumber => hnumber

theorem takesPlaceholder {submission : OutputSubmission} (h : Kept r)
    (hpending : r.state.pending = some submission) : Kept (r.take submission) := by
  refine ⟨fun number hstanding hrunning => .inr ⟨rfl, ?_⟩⟩
  rcases h.kept number hstanding hrunning with ⟨other, hother, rfl, hkind⟩ | ⟨hempty, _⟩
  · cases hpending.symm.trans hother
    exact .inl ⟨_, rfl, rfl, key_eq_none hkind, rfl⟩
  · cases hempty.symm.trans hpending

theorem takesFrame {submission : OutputSubmission} {sequence : Nat} (h : Kept r)
    (hpending : r.state.pending = some submission) (hlive : submission.request.kind = .live) :
    Kept ((r.serve sequence).take submission) := by
  refine ⟨fun number hstanding hrunning => ?_⟩
  rcases h.kept number hstanding hrunning with ⟨other, hother, _, hkind⟩ | ⟨hempty, _⟩
  · cases hpending.symm.trans hother
    cases hlive.symm.trans hkind
  · cases hempty.symm.trans hpending

/-- A placeholder in hand is current, and nothing is pending: the worker has no reason to give
it up. -/
theorem not_abandoned {job : OutputJob} (hfenced : Fenced r) (hempty : r.state.pending = none)
    (hrunning : r.state.stopped = false) (hkey : job.key = none)
    (hcurrent : job.generation = r.state.generation) : ¬Abandoned r job := by
  intro habandoned
  cases habandoned with
  | repeated hframe =>
      rw [hkey] at hframe
      cases hframe
  | fenced hstale => exact hstale (hfenced.same.trans hcurrent.symm)
  | obsolete hobsolete =>
      rcases hobsolete with hstopped | hstale
      · rw [hrunning] at hstopped
        cases hstopped
      · exact hstale hcurrent.symm
  | replaced hpending =>
      rw [hempty] at hpending
      cases hpending

theorem move (h : Kept r) (hfenced : Fenced r) (hmove : WorkerMove r r') : Kept r' := by
  cases hmove with
  | stays => exact h
  | exits hstopped =>
      refine ⟨fun number _ hrunning => ?_⟩
      rw [show r.state.stopped = false from hrunning] at hstopped
      cases hstopped
  | waits => exact ⟨h.kept⟩
  | takesPlaceholder submission _ _ hpending => exact h.takesPlaceholder hpending
  | takesFrame submission sequence _ _ hpending hkind => exact h.takesFrame hpending hkind
  | abandons job hjob habandoned =>
      refine h.of_worker rfl ⟨rfl, rfl, rfl⟩ (fun _ h => h) (fun _ h => h) ?_
      intro other hother hempty hrunning hkey hcurrent
      cases hjob.symm.trans hother
      exact absurd habandoned (not_abandoned hfenced hempty hrunning hkey hcurrent)
  | compares job hworker =>
      exact h.of_job rfl ⟨rfl, rfl, rfl⟩ rfl rfl (by rw [hworker]; rfl)
  | prepares job result exports more cache hworker =>
      exact h.of_job rfl ⟨rfl, rfl, rfl⟩ rfl rfl (by rw [hworker]; rfl)
  | preparesPlaceholder job mode reconnecting hworker =>
      exact h.of_job rfl ⟨rfl, rfl, rfl⟩ rfl rfl (by rw [hworker]; rfl)
  | goesOn job worker hjob hjob' =>
      refine h.of_job rfl ⟨rfl, rfl, rfl⟩ rfl rfl ?_
      exact (unpublished_of_compared hjob').trans (unpublished_of_compared hjob).symm
  | fails job error hjob =>
      exact h.of_job rfl ⟨rfl, rfl, rfl⟩ rfl rfl (unpublished_of_compared hjob).symm
  | publishes job prepared checked hworker =>
      refine h.of_worker rfl ⟨rfl, rfl, rfl⟩ (fun number hnumber => ?_) (fun _ h => h)
        fun other hother _ _ _ _ => ?_
      · change number ∈ (r.published ++ [_]).map Publication.number
        rw [List.map_append]
        exact List.mem_append_left _ hnumber
      · rw [hworker] at hother
        cases hother
        refine .inr (.inl ?_)
        change _ ∈ (r.published ++ [_]).map Publication.number
        rw [List.map_append]
        exact List.mem_append_right _ (List.mem_singleton_self _)
  | errs job prepared checked error hworker =>
      exact h.of_job rfl ⟨rfl, rfl, rfl⟩ rfl rfl (by rw [hworker]; rfl)
  | busy job prepared checked hworker =>
      exact h.of_job rfl ⟨rfl, rfl, rfl⟩ rfl rfl (by rw [hworker]; rfl)
  | reports job event hworker =>
      refine h.of_worker rfl ⟨rfl, rfl, rfl⟩ (fun _ h => h) (fun number hnumber => ?_)
        fun other hother _ _ _ _ => ?_
      · unfold report
        dsimp only
        split
        · exact hnumber
        · exact List.mem_append_left _ hnumber
      · rw [hworker] at hother
        cases event with
        | published => cases hother
        | failed error =>
            cases hother
            exact .inr (.inr (List.mem_append_right _ (List.mem_singleton_self _)))

end Kept

/-! ## Runs -/

/-- The contract of the CPU output. -/
structure CpuOutputContract (r : CpuOutputRun Image) : Prop where
  carried : ∀ attempt ∈ r.attempts, Carries r attempt
  inOrder : (r.published.map Publication.number).Pairwise (· < ·)
  noRepeat : r.keys.IsChain (· ≠ ·)
  /-- Until a later call or the end, the last placeholder is somewhere. -/
  kept : ∀ number, r.standing = some number → r.state.stopped = false →
    r.state.pending.map OutputSubmission.number = some number ∨
    (∃ job, r.worker.job = some job ∧ job.submission.number = number) ∨
    number ∈ r.published.map Publication.number ∨ number ∈ r.failed
  authorized : r.served.Nodup ∧ r.preparations ≤ r.served.length
  current : ∀ event ∈ r.polled, event.1 = event.2

/-- What holds in every state of a run. -/
structure Sound (r : CpuOutputRun Image) : Prop where
  inOrder : NumbersInOrder r
  authorized : Authorized r
  checked : Checked r
  fenced : Fenced r
  keys : KeysDiffer r
  kept : Kept r
  current : ∀ event ∈ r.polled, event.1 = event.2

namespace Sound

theorem called (h : Sound r) (hcall : OutputCall r r') (hpolled : r'.polled = r.polled) :
    Sound r' := by
  refine ⟨h.inOrder.call hcall, h.authorized.call hcall, h.checked.call hcall,
    h.fenced.call hcall, h.keys.call h.fenced hcall, h.kept.call hcall, ?_⟩
  rw [hpolled]
  exact h.current

theorem polled_call (hcall : OutputCall r r') : r'.polled = r.polled := by
  cases hcall <;> rfl

theorem worker (h : Sound r) (surroundings : WorkerSurroundings Image) :
    Sound (r.workerStep surroundings) := by
  have hmove := workerStep_move (r := r) surroundings
  have hpolled : (r.workerStep surroundings).polled = r.polled := by
    generalize r.workerStep surroundings = r' at hmove
    cases hmove <;> rfl
  refine ⟨h.inOrder.move hmove, h.authorized.move hmove, h.checked.move hmove,
    h.fenced.move hmove, h.keys.move h.fenced hmove, h.kept.move h.fenced hmove, ?_⟩
  rw [hpolled]
  exact h.current

theorem aside (h : Sound r) (event polling : Option (Nat × OutputEvent)) (polled : List (Nat × Nat))
    (hpolled : ∀ event ∈ polled, event.1 = event.2) :
    Sound { r with event := event, polling := polling, polled := polled } where
  inOrder := ⟨h.inOrder.sorted, h.inOrder.issued⟩
  authorized := ⟨h.authorized.seen, h.authorized.sorted, h.authorized.upto, h.authorized.covered⟩
  checked := ⟨h.checked.inHand, h.checked.publishing, h.checked.carried⟩
  fenced := ⟨h.fenced.same, h.fenced.kind⟩
  keys := h.keys.of_state rfl rfl rfl fun hrunning => ⟨hrunning, .inl ⟨rfl, rfl⟩⟩
  kept := ⟨h.kept.kept⟩
  current := hpolled

theorem pollCheck (h : Sound r) : Sound r.pollCheck := by
  unfold CpuOutputRun.pollCheck
  split
  · rename_i generation event hpolling
    split
    · rename_i hcurrent
      refine h.aside r.event none _ fun polled hmem => ?_
      cases List.mem_append.mp hmem with
      | inl hold => exact h.current polled hold
      | inr hnew =>
          rw [List.mem_singleton.mp hnew]
          exact hcurrent
    · exact h.aside r.event none r.polled h.current
  · exact h

theorem countRequest (h : Sound r) : Sound r.countRequest := by
  unfold CpuOutputRun.countRequest
  split
  · exact ⟨⟨h.inOrder.sorted, h.inOrder.issued⟩,
      h.authorized.of_same rfl (Nat.le_succ _) rfl le_rfl,
      ⟨h.checked.inHand, h.checked.publishing, h.checked.carried⟩, ⟨h.fenced.same, h.fenced.kind⟩,
      h.keys.of_state rfl rfl rfl fun hrunning => ⟨hrunning, .inl ⟨rfl, rfl⟩⟩, ⟨h.kept.kept⟩,
      h.current⟩
  · exact h

theorem call (h : Sound r) {f : CpuOutputRun Image → CpuOutputRun Image}
    (hf : OutputCall r (f r)) : Sound (r.call f) := by
  unfold CpuOutputRun.call
  split
  · exact h
  · exact h.called hf (polled_call hf)

/-- Step lemma. -/
theorem next (h : Sound r) (label : CpuOutputStep Image) : Sound (r.next label) := by
  cases label with
  | submit frame =>
      exact h.call (f := fun r => (r.submit frame).2) (enqueue_call (.frame frame) false nofun)
  | placeholder mode reconnecting =>
      exact h.call (f := fun r => r.placeholder mode reconnecting)
        (enqueue_call (.placeholder mode reconnecting) true fun _ => rfl)
  | invalidate => exact h.call .invalidated
  | drop => exact h.call .dropped
  | request => exact h.countRequest
  | pollTake =>
      change Sound (r.call pollTake)
      unfold CpuOutputRun.call
      split
      · exact h
      · exact h.aside none r.event r.polled h.current
  | pollCheck => exact h.pollCheck
  | worker surroundings => exact h.worker surroundings

theorem started (ringGeneration requestSequence : Nat) :
    Sound (CpuOutputRun.started ringGeneration requestSequence : CpuOutputRun Image) where
  inOrder := ⟨List.Pairwise.nil, nofun⟩
  authorized := ⟨Nat.zero_le _, List.Pairwise.nil, nofun, le_rfl⟩
  checked := ⟨nofun, nofun, nofun⟩
  fenced := ⟨rfl, nofun⟩
  keys := ⟨fun _ => nofun, fun _ => nofun, fun _ _ => nofun, fun _ _ => nofun, nofun, nofun,
    fun _ _ => nofun, fun _ => nofun, nofun, List.isChain_nil⟩
  kept := ⟨nofun⟩
  current := nofun

theorem contract (h : Sound r) : CpuOutputContract r where
  carried := h.checked.carried
  inOrder := by
    have hsorted := h.inOrder.sorted
    unfold CpuOutputRun.numbers at hsorted
    rw [List.append_assoc] at hsorted
    exact (List.pairwise_append.mp hsorted).1
  noRepeat := h.keys.chain
  kept number hstanding hrunning := by
    rcases h.kept.kept number hstanding hrunning with
      ⟨submission, hpending, rfl, _⟩ | ⟨_, ⟨job, hjob, rfl, _⟩ | hdone⟩
    · rw [hpending]
      exact .inl rfl
    · exact .inr (.inl ⟨job, job_of_unpublished hjob, rfl⟩)
    · exact .inr (.inr hdone)
  authorized :=
    ⟨h.authorized.sorted.imp Nat.ne_of_lt, (Nat.le_add_right _ _).trans h.authorized.covered⟩
  current := h.current

end Sound

def outputFrame (frameId : Nat) : NativeVideoFrame where
  identity := ⟨1, 1, 0, frameId⟩
  sourcePtsUs := 0
  configRevision := 1
  visibleRect := ⟨0, 0, 2, 2⟩
  imageWidth := 2
  imageHeight := 2
  pixelAspectRatio := (1, 1)
  rotation := .none
  mirror := false
  image := []

/-- Demand is live and images are made; `publish` is the answer of the ring. -/
def working (publish : RingPublishResult) : CpuOutputStep Unit := .worker ⟨true, .ok (), publish⟩

/-- A frame meets a busy ring, and a placeholder takes its place; the owner polls. -/
def interrupted : List (CpuOutputStep Unit) :=
  [.submit (outputFrame 1), .request] ++ List.replicate 7 (working .busy) ++
    [.placeholder .logo false] ++ List.replicate 9 (working (.published 1)) ++
    [.pollTake, .pollCheck]

def outputRun (labels : List (CpuOutputStep Unit)) : CpuOutputRun Unit :=
  labels.foldl CpuOutputRun.next (CpuOutputRun.started 1 0)

theorem reachable_outputRun (labels : List (CpuOutputStep Unit)) :
    (cpuOutputSystem Unit).Reachable (outputRun labels) := by
  unfold outputRun
  have hstart : (cpuOutputSystem Unit).Reachable (CpuOutputRun.started 1 0) :=
    TransitionSystem.Reachable.of_init ⟨1, 0, rfl⟩
  generalize (CpuOutputRun.started 1 0 : CpuOutputRun Unit) = r at hstart
  induction labels generalizing r with
  | nil => exact hstart
  | cons label labels ih => exact ih _ (hstart.step rfl)

example : (outputRun interrupted).published = [⟨1, 3, none⟩] ∧
    (outputRun interrupted).standing = some 1 ∧ (outputRun interrupted).polled = [(3, 3)] ∧
    (outputRun interrupted).attempts = [⟨0, 2, 2⟩, ⟨1, 3, 3⟩] := by
  decide +kernel

end PicooCamera.Receiver
