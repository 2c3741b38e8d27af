import PicooCamera.Receiver.MediaPath

/-!
# Epoch and configuration of published pictures

A job carries the configuration that was committed when it was submitted, and
its revision. The token that the platform decoder hands back is that of a job,
so a picture that passes the gate has the epoch of the committed configuration,
and that configuration itself unless a later one was committed for the epoch.
-/

namespace PicooCamera.Receiver

open PicooCamera.Library PicooCamera.Protocol

/-- The configuration of a submission was committed, under the revision of its token. -/
def Tagged (marks : List OwnerMark) (token : DecodeToken) : Prop :=
  ∃ own, token.streamConfig = some own ∧
    token.timeline.streamGeneration = own.streamEpoch ∧
    .committed token.configRevision own ∈ marks

/-- What a picture has to do with the configuration of the moment of its publication. -/
def Agrees (marks : List OwnerMark) (token : DecodeToken) (configuration : Option StreamConfig)
    (revision : Nat) : Prop :=
  ∃ committed own, configuration = some committed ∧ token.streamConfig = some own ∧
    token.timeline.streamGeneration = committed.streamEpoch ∧
    own.streamEpoch = committed.streamEpoch ∧
    .committed revision committed ∈ marks ∧ .committed token.configRevision own ∈ marks ∧
    token.configRevision ≤ revision ∧ (token.configRevision = revision → own = committed)

theorem Tagged.mono {marks more : List OwnerMark} {token : DecodeToken} (h : Tagged marks token) :
    Tagged (marks ++ more) token := by
  obtain ⟨own, hown, hepoch, hmark⟩ := h
  exact ⟨own, hown, hepoch, List.mem_append_left _ hmark⟩

theorem Agrees.mono {marks more : List OwnerMark} {token : DecodeToken}
    {configuration : Option StreamConfig} {revision : Nat}
    (h : Agrees marks token configuration revision) :
    Agrees (marks ++ more) token configuration revision := by
  obtain ⟨committed, own, hcommitted, hown, hepoch, hsame, hmark, hownMark, hrest⟩ := h
  exact ⟨committed, own, hcommitted, hown, hepoch, hsame, List.mem_append_left _ hmark,
    List.mem_append_left _ hownMark, hrest⟩

namespace MediaPath

structure Agreement (c : MediaPath) : Prop where
  config : ∀ config, c.config = some config → .committed c.revision config ∈ c.marks
  bounded : ∀ revision config, .committed revision config ∈ c.marks → revision ≤ c.revision
  unique : ∀ revision config other, .committed revision config ∈ c.marks →
    .committed revision other ∈ c.marks → config = other
  queued : ∀ job, .decode job ∈ c.decoder.queue.items → Tagged c.marks job.token
  handed : ∀ token ∈ c.handed, Tagged c.marks token
  published : ∀ token configuration revision phase completed,
    .published token configuration revision phase completed ∈ c.marks →
    Agrees c.marks token configuration revision

variable {loose accepting : Prop} {c c' : MediaPath}

/-! ## Each change keeps the agreement -/

theorem mem_items_of_move {d d' : DecoderWorker} {label : DecoderStep} {job : DecodeJob}
    (hmove : DecoderWorker.Move d label d') (h : .decode job ∈ d'.queue.items) :
    .decode job ∈ d.queue.items := by
  have hshutdown : ∀ q : WorkQueue, WorkItem.decode job ∈ q.shutdown.items →
      .decode job ∈ q.items := by
    intro q hitem
    unfold WorkQueue.shutdown at hitem
    by_cases hstopped : q.stopped
    · rwa [if_pos hstopped] at hitem
    · rw [if_neg hstopped] at hitem
      cases List.mem_singleton.mp hitem
  cases hmove with
  | stay => exact h
  | ready => exact h
  | fail => exact hshutdown _ h
  | start first rest popped idle front =>
      rw [front]
      exact List.mem_cons_of_mem _ h
  | reset rest idle front =>
      rw [front]
      exact List.mem_cons_of_mem _ h
  | shutdown rest idle front =>
      rw [front]
      exact List.mem_cons_of_mem _ (hshutdown _ h)
  | complete => exact h
  | resume => exact h

theorem mem_items_of_reset {q : WorkQueue} {job : DecodeJob} (h : .decode job ∈ q.reset.items) :
    .decode job ∈ q.items := by
  unfold WorkQueue.reset at h
  by_cases hstopped : q.stopped
  · rwa [if_pos hstopped] at h
  · rw [if_neg hstopped] at h
    cases List.mem_append.mp h with
    | inl hkept => exact List.mem_of_mem_filter hkept
    | inr hreset => cases List.mem_singleton.mp hreset

theorem mem_handing {d : DecoderWorker} {label : DecoderStep} {token : DecodeToken}
    (h : token ∈ d.handing label) : ∃ job, .decode job ∈ d.queue.items ∧ token = job.token := by
  unfold DecoderWorker.handing at h
  split at h
  · split at h
    · rename_i job rest _ hitems
      refine ⟨job, ?_, List.mem_singleton.mp h⟩
      rw [hitems]
      exact List.mem_cons_self
    · cases h
  · cases h

theorem Agreement.decode (h : c.Agreement) (label : DecoderStep) : (c.decode label).Agreement := by
  refine ⟨h.config, h.bounded, h.unique, ?_, ?_, h.published⟩
  · intro job hitem
    exact h.queued job (mem_items_of_move (DecoderWorker.move_step c.decoder label) hitem)
  · intro token htoken
    cases List.mem_append.mp htoken with
    | inl hold => exact h.handed token hold
    | inr hnew =>
        obtain ⟨job, hitem, rfl⟩ := mem_handing hnew
        exact h.queued job hitem

theorem Agreement.alike (h : c.Agreement) (hrevision : c'.revision = c.revision)
    (hmarks : c'.marks = c.marks) (hhanded : c'.handed = c.handed)
    (hconfig : c'.config = none ∨ c'.config = c.config)
    (hitems : ∀ job, .decode job ∈ c'.decoder.queue.items →
      .decode job ∈ c.decoder.queue.items) : c'.Agreement := by
  refine ⟨?_, ?_, ?_, ?_, ?_, ?_⟩
  · intro config hsome
    rw [hrevision, hmarks]
    cases hconfig with
    | inl hnone =>
        rw [hnone] at hsome
        cases hsome
    | inr hsame => exact h.config config (hsame.symm.trans hsome)
  · rw [hrevision, hmarks]
    exact h.bounded
  · rw [hmarks]
    exact h.unique
  · intro job hitem
    rw [hmarks]
    exact h.queued job (hitems job hitem)
  · rw [hmarks, hhanded]
    exact h.handed
  · rw [hmarks]
    exact h.published

theorem Agreement.commit (h : c.Agreement) (config : StreamConfig) :
    (c.commit config).Agreement := by
  have hfresh : ∀ revision other, .committed revision other ∈ (c.commit config).marks →
      .committed revision other ∈ c.marks ∨ (revision = c.revision + 1 ∧ other = config) := by
    intro revision other hmark
    cases List.mem_append.mp hmark with
    | inl hold => exact Or.inl hold
    | inr hnew =>
        cases List.mem_singleton.mp hnew
        exact Or.inr ⟨rfl, rfl⟩
  refine ⟨?_, ?_, ?_, ?_, ?_, ?_⟩
  · intro other hother
    cases hother
    exact List.mem_append_right _ (List.mem_singleton.mpr rfl)
  · intro revision other hmark
    change revision ≤ c.revision + 1
    cases hfresh revision other hmark with
    | inl hold =>
        have hle := h.bounded revision other hold
        omega
    | inr hnew => exact le_of_eq hnew.1
  · intro revision one other hone hother
    cases hfresh revision one hone with
    | inl hold =>
        cases hfresh revision other hother with
        | inl hold' => exact h.unique revision one other hold hold'
        | inr hnew' =>
            have hle := h.bounded revision one hold
            omega
    | inr hnew =>
        cases hfresh revision other hother with
        | inl hold' =>
            have hle := h.bounded revision other hold'
            omega
        | inr hnew' => rw [hnew.2, hnew'.2]
  · intro job hitem
    exact (h.queued job hitem).mono
  · intro token htoken
    exact (h.handed token htoken).mono
  · intro token configuration revision phase completed hmark
    cases List.mem_append.mp hmark with
    | inl hold => exact (h.published token configuration revision phase completed hold).mono
    | inr hnew => cases List.mem_singleton.mp hnew

theorem Agreement.submit (h : c.Agreement) {job : DecodeJob} (hsubmits : c.Submits job)
    (hqueued : (c.decoder.queue.submit job).1 = .queued) : (c.submit job).Agreement := by
  refine ⟨h.config, h.bounded, h.unique, ?_, h.handed, h.published⟩
  intro other hitem
  cases DecoderWorker.mem_submit hqueued hitem with
  | inl hold => exact h.queued other hold
  | inr hnew =>
      cases hnew
      obtain ⟨own, hown, hepoch⟩ := Option.map_eq_some_iff.mp hsubmits.epoch
      refine ⟨own, hsubmits.config.trans hown, hepoch.symm, ?_⟩
      change OwnerMark.committed job.configRevision own ∈ c.marks
      rw [hsubmits.revision]
      exact h.config own hown

theorem Agreement.publish (h : c.Agreement) {token : DecodeToken}
    (completed : AccessUnitTimeline) (hgiven : token ∈ c.handed)
    (hcurrent : c.Current token.timeline) : (c.publish token completed).Agreement := by
  have hagrees : Agrees c.marks token c.config c.revision := by
    obtain ⟨own, hown, hepoch, hmark⟩ := h.handed token hgiven
    obtain ⟨committed, hcommitted, hcurrentEpoch⟩ := Option.map_eq_some_iff.mp hcurrent.2
    have hcommittedMark := h.config committed hcommitted
    refine ⟨committed, own, hcommitted, hown, hcurrentEpoch.symm, ?_, hcommittedMark, hmark,
      h.bounded _ own hmark, ?_⟩
    · rw [← hepoch, hcurrentEpoch]
    · intro hrevision
      rw [hrevision] at hmark
      exact h.unique _ own committed hmark hcommittedMark
  have hsame : ∀ revision config, .committed revision config ∈ (c.publish token completed).marks →
      .committed revision config ∈ c.marks := by
    intro revision config hmark
    cases List.mem_append.mp hmark with
    | inl hold => exact hold
    | inr hnew => cases List.mem_singleton.mp hnew
  refine ⟨?_, ?_, ?_, ?_, ?_, ?_⟩
  · intro config hconfig
    exact List.mem_append_left _ (h.config config hconfig)
  · intro revision config hmark
    exact h.bounded revision config (hsame revision config hmark)
  · intro revision config other hmark hother
    exact h.unique revision config other (hsame _ _ hmark) (hsame _ _ hother)
  · intro job hitem
    exact (h.queued job hitem).mono
  · intro other hother
    exact (h.handed other hother).mono
  · intro other configuration revision phase completed' hmark
    cases List.mem_append.mp hmark with
    | inl hold => exact (h.published other configuration revision phase completed' hold).mono
    | inr hnew =>
        cases List.mem_singleton.mp hnew
        exact hagrees.mono

theorem Agreement.change (h : c.Agreement) (hchange : Change loose accepting c c') :
    c'.Agreement := by
  have hitems : ∀ job, WorkItem.decode job ∈ c.decoder.queue.items →
      .decode job ∈ c.decoder.queue.items := fun _ => id
  have hreset : ∀ job, WorkItem.decode job ∈ c.decoder.queue.reset.items →
      .decode job ∈ c.decoder.queue.items := fun _ => mem_items_of_reset
  cases hchange with
  | decode label => exact h.decode label
  | commit config => exact h.commit config
  | switch config => exact (h.commit config).alike rfl rfl rfl (Or.inr rfl) fun _ => id
  | abandon config =>
      exact (h.commit config).alike rfl rfl rfl (Or.inl rfl) fun _ => mem_items_of_reset
  | submit job submits accepted => exact h.submit submits accepted
  | publish token completed admits given => exact h.publish completed given admits.2.1
  | tearDown => exact h.alike rfl rfl rfl (Or.inl rfl) hreset
  | resetDecoder => exact h.alike rfl rfl rfl (Or.inr rfl) hreset
  | establish => exact h.alike rfl rfl rfl (Or.inr rfl) hitems
  | expect => exact h.alike rfl rfl rfl (Or.inr rfl) hitems
  | receive => exact h.alike rfl rfl rfl (Or.inr rfl) hitems
  | dispatch => exact h.alike rfl rfl rfl (Or.inr rfl) hitems
  | allow => exact h.alike rfl rfl rfl (Or.inr rfl) hitems
  | hold => exact h.alike rfl rfl rfl (Or.inr rfl) hitems
  | release => exact h.alike rfl rfl rfl (Or.inr rfl) hitems
  | recover => exact h.alike rfl rfl rfl (Or.inr rfl) hitems
  | drain => exact h.alike rfl rfl rfl (Or.inr rfl) hitems
  | enqueue => exact h.alike rfl rfl rfl (Or.inr rfl) hitems
  | report => exact h.alike rfl rfl rfl (Or.inr rfl) hitems
  | started => exact h.alike rfl rfl rfl (Or.inr rfl) hitems
  | skip => exact h.alike rfl rfl rfl (Or.inr rfl) hitems
  | complete => exact h.alike rfl rfl rfl (Or.inr rfl) hitems
  | refuse => exact h.alike rfl rfl rfl (Or.inr rfl) hitems
  | accept => exact h.alike rfl rfl rfl (Or.inr rfl) hitems

theorem Agreement.adopt (h : c.Agreement) (connection : Nat) : (c.adopt connection).Agreement :=
  h.alike rfl rfl rfl (Or.inr rfl) fun _ => id

/-! ## The committed epoch within a connection -/

/-- Unless the connection ends, it stays, and the committed epoch does not decrease. -/
def Onward (c c' : MediaPath) : Prop :=
  c'.connection ≠ none → c'.connection = c.connection ∧
    ∀ epoch ∈ c.streamEpoch, ∃ later ∈ c'.streamEpoch, epoch ≤ later

theorem Onward.refl (c : MediaPath) : c.Onward c := fun _ =>
  ⟨rfl, fun epoch hepoch => ⟨epoch, hepoch, le_rfl⟩⟩

theorem Onward.trans {c₁ c₂ c₃ : MediaPath} (h₁ : c₁.Onward c₂) (h₂ : c₂.Onward c₃) :
    c₁.Onward c₃ := by
  intro hconnected
  obtain ⟨hsame, hlater⟩ := h₂ hconnected
  obtain ⟨hsame', hlater'⟩ := h₁ (hsame ▸ hconnected)
  refine ⟨hsame.trans hsame', ?_⟩
  intro epoch hepoch
  obtain ⟨middle, hmiddle, hle⟩ := hlater' epoch hepoch
  obtain ⟨later, hlast, hle'⟩ := hlater middle hmiddle
  exact ⟨later, hlast, hle.trans hle'⟩

theorem Onward.of_same (hconnection : c'.connection = c.connection)
    (hconfig : c'.config = c.config) : c.Onward c' := by
  intro _
  refine ⟨hconnection, ?_⟩
  intro epoch hepoch
  refine ⟨epoch, ?_, le_rfl⟩
  rwa [streamEpoch, hconfig]

theorem Onward.of_commit {config : StreamConfig} (haccepts : c.Accepts config)
    (hconnection : c'.connection = c.connection) (hconfig : c'.config = some config) :
    c.Onward c' := by
  intro _
  refine ⟨hconnection, ?_⟩
  intro epoch hepoch
  refine ⟨config.streamEpoch, ?_, haccepts.2 epoch hepoch⟩
  rw [streamEpoch, hconfig]
  rfl

theorem onward_change (hchange : Change loose accepting c c') : c.Onward c' := by
  cases hchange with
  | tearDown => exact fun hsome => absurd rfl hsome
  | abandon => exact fun hsome => absurd rfl hsome
  | commit config accepts => exact Onward.of_commit accepts rfl rfl
  | switch config queued accepts => exact Onward.of_commit accepts rfl rfl
  | _ => exact Onward.of_same rfl rfl

end MediaPath

end PicooCamera.Receiver
