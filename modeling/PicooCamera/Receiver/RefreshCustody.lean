import PicooCamera.Receiver.MediaPath

/-!
# The refresh is in custody

While a refresh is in flight its job is held by the decoder worker, with the
current decoder generation, and the gate of completions is open for it: the
control generation and the committed epoch are those of the candidate. So the
completion, once taken, is not skipped.
-/

namespace PicooCamera.Receiver

open PicooCamera.Library PicooCamera.Protocol

namespace MediaPath

/-- The job of the candidate is held, or the worker has exited. -/
def Carries (c : MediaPath) (candidate : RefreshCandidate) : Prop :=
  (∃ job : DecodeJob, job.kind = .key ∧ candidate.isFor job.accessUnit.timeline ∧
    job.decoderGeneration = c.generation ∧ c.decoder.Holds job) ∨
  c.decoder.thread = .exited

structure Refreshing (c : MediaPath) (candidate : RefreshCandidate) : Prop where
  control : c.control = some candidate.connectionGeneration
  epoch : c.streamEpoch = some candidate.streamGeneration
  carries : c.Carries candidate

structure Custody (c : MediaPath) : Prop where
  connected : c.control ≠ none → c.connection ≠ none
  controlled : c.config ≠ none → c.control ≠ none
  sound : c.decoder.Sound
  reported : c.decoder.thread = .exited → c.decoder.Down c.readiness
  refresh : ∀ candidate, c.phase = .refreshInFlight candidate → c.Refreshing candidate

variable {accepting : Prop} {c c' : MediaPath}

theorem isFor_iff {candidate : RefreshCandidate} {timeline : AccessUnitTimeline} :
    candidate.isFor timeline = true ↔ candidate = RefreshCandidate.fromTimeline timeline := by
  unfold RefreshCandidate.isFor
  exact decide_eq_true_iff

theorem Refreshing.current {candidate : RefreshCandidate} (h : c.Refreshing candidate)
    {timeline : AccessUnitTimeline} (hfor : candidate.isFor timeline) : c.Current timeline := by
  rw [isFor_iff] at hfor
  subst hfor
  exact ⟨Or.inr h.control, h.epoch⟩

/-! ## Each change keeps the custody -/

theorem Custody.unconfigured (h : c.Custody) (hnone : c.config = none) :
    ∀ candidate, c.phase ≠ .refreshInFlight candidate := by
  intro candidate hphase
  have hepoch := (h.refresh candidate hphase).epoch
  rw [streamEpoch, hnone] at hepoch
  cases hepoch

theorem Custody.decode (h : c.Custody) (label : DecoderStep) : (c.decode label).Custody := by
  have hmove := DecoderWorker.move_step c.decoder label
  refine ⟨h.connected, h.controlled, h.sound.move hmove, ?_, ?_⟩
  · exact DecoderWorker.reported_move h.sound h.reported hmove
  · intro candidate hphase
    have hrefresh := h.refresh candidate hphase
    refine ⟨hrefresh.control, hrefresh.epoch, ?_⟩
    cases hrefresh.carries with
    | inl hjob =>
        obtain ⟨job, hkey, hfor, hgeneration, hholds⟩ := hjob
        cases hholds.move hmove with
        | inl hholds' =>
            exact Or.inl ⟨job, hkey, hfor, hgeneration.trans hmove.generation.symm, hholds'⟩
        | inr hexited => exact Or.inr hexited
    | inr hexited =>
        right
        change (c.decoder.step label).thread = .exited
        rw [hmove.exited hexited]
        exact hexited

theorem Custody.idle (h : c.Custody) (hconnected : c'.control ≠ none → c'.connection ≠ none)
    (hcontrolled : c'.config ≠ none → c'.control ≠ none) (hsound : c'.decoder.Sound)
    (hthread : c'.decoder.thread = c.decoder.thread)
    (hevents : c'.decoder.events = c.decoder.events) (hreadiness : c'.readiness = c.readiness)
    (hphase : ∀ candidate, c'.phase ≠ .refreshInFlight candidate) : c'.Custody where
  connected := hconnected
  controlled := hcontrolled
  sound := hsound
  reported hexited := by
    rw [hthread] at hexited
    have hdown := h.reported hexited
    unfold DecoderWorker.Down at hdown ⊢
    rwa [hthread, hevents, hreadiness]
  refresh candidate hcandidate := absurd hcandidate (hphase candidate)

theorem Custody.alike (h : c.Custody) (hconnection : c'.connection = c.connection)
    (hcontrol : c'.control = c.control) (hconfig : c'.config = c.config)
    (hphase : c'.phase = c.phase) (hdecoder : c'.decoder = c.decoder)
    (hreadiness : c'.readiness = c.readiness) : c'.Custody := by
  cases c
  cases c'
  cases hconnection
  cases hcontrol
  cases hconfig
  cases hphase
  cases hdecoder
  cases hreadiness
  refine ⟨h.connected, h.controlled, h.sound, h.reported, ?_⟩
  intro candidate hcandidate
  have hrefresh := h.refresh candidate hcandidate
  exact ⟨hrefresh.control, hrefresh.epoch, hrefresh.carries⟩

theorem Custody.adopt (h : c.Custody) (hfree : c.connection = none) (connection : Nat) :
    (c.adopt connection).Custody := by
  have hcontrol : c.control = none := by
    by_contra hsome
    exact h.connected hsome hfree
  have hconfig : c.config = none := by
    by_contra hsome
    exact h.controlled hsome hcontrol
  apply h.idle
  · intro hsome
    exact absurd rfl hsome
  · intro hsome
    exact absurd hconfig hsome
  · exact h.sound
  · rfl
  · rfl
  · rfl
  · exact h.unconfigured hconfig

theorem Custody.tearDown (h : c.Custody) : c.tearDown.Custody := by
  apply h.idle
  · intro hsome
    exact absurd rfl hsome
  · intro hsome
    exact absurd rfl hsome
  · exact h.sound.reset
  · rfl
  · rfl
  · rfl
  · intro candidate hphase
    cases hphase

theorem Custody.reported_take (h : c.Custody) {event : DecoderEvent} {rest : List DecoderEvent}
    (head : c.decoder.events = event :: rest) (hexited : c.decoder.thread = .exited) :
    ({ c.decoder with events := rest } : DecoderWorker).Down
      (event.readiness?.getD c.readiness) := by
  obtain ⟨hthread, error, hfinal⟩ := h.reported hexited
  rw [head] at hfinal
  exact ⟨hthread, error, hfinal⟩

theorem Refreshing.take {candidate : RefreshCandidate} (h : c.Refreshing candidate)
    {event : DecoderEvent} {rest : List DecoderEvent}
    (head : c.decoder.events = event :: rest)
    (hother : ∀ (job : DecodeJob) (time : Nat) (result : Except String DecodeOutcome),
      job.kind = .key → candidate.isFor job.accessUnit.timeline →
      job.decoderGeneration = c.generation →
      event ≠ .completed job.accessUnit.timeline job.decoderGeneration time result) :
    (c.take rest).Refreshing candidate := by
  refine ⟨h.control, h.epoch, ?_⟩
  cases h.carries with
  | inr hexited => exact Or.inr hexited
  | inl hjob =>
      obtain ⟨job, hkey, hfor, hgeneration, hholds⟩ := hjob
      refine Or.inl ⟨job, hkey, hfor, hgeneration, ?_⟩
      cases hholds with
      | queued hitem => exact DecoderWorker.Holds.queued hitem
      | executing hthread => exact DecoderWorker.Holds.executing hthread
      | completed time result hevent =>
          rw [head] at hevent
          cases List.mem_cons.mp hevent with
          | inl hfirst => exact absurd hfirst.symm (hother job time result hkey hfor hgeneration)
          | inr hlater => exact DecoderWorker.Holds.completed time result hlater

theorem Custody.take (h : c.Custody) {event : DecoderEvent} {rest : List DecoderEvent}
    (head : c.decoder.events = event :: rest) (hsilent : event.readiness? = none)
    (hother : ∀ candidate, c.phase = .refreshInFlight candidate →
      ∀ (job : DecodeJob) (time : Nat) (result : Except String DecodeOutcome),
      job.kind = .key → candidate.isFor job.accessUnit.timeline →
      job.decoderGeneration = c.generation →
      event ≠ .completed job.accessUnit.timeline job.decoderGeneration time result) :
    (c.take rest).Custody := by
  refine ⟨h.connected, h.controlled, ⟨h.sound.stops, h.sound.shut⟩, ?_, ?_⟩
  · intro hexited
    have hdown := h.reported_take head hexited
    rwa [hsilent] at hdown
  · intro candidate hphase
    exact (h.refresh candidate hphase).take head (hother candidate hphase)

theorem Custody.submit (h : c.Custody) {job : DecodeJob} (hsubmits : c.Submits job)
    (hqueued : (c.decoder.queue.submit job).1 = .queued) : (c.submit job).Custody := by
  have hcontrolled : c.control ≠ none := by
    apply h.controlled
    intro hnone
    have hepoch := hsubmits.epoch
    rw [streamEpoch, hnone] at hepoch
    cases hepoch
  have hgeneration : (c.submit job).generation = c.generation :=
    DecoderWorker.generation_submit hqueued
  refine ⟨h.connected, h.controlled, h.sound.submit hqueued, h.reported, ?_⟩
  intro candidate hphase
  change c.phase.submitted job.accessUnit.timeline = .refreshInFlight candidate at hphase
  unfold DecoderRecoveryPhase.submitted at hphase
  by_cases hkey : job.accessUnit.timeline.kind.isKeyframe ∧ c.phase ≠ .healthy
  · -- The new candidate is the submitted keyframe.
    rw [if_pos hkey] at hphase
    cases hphase
    obtain ⟨control, hcontrol⟩ := Option.ne_none_iff_exists'.mp hcontrolled
    refine ⟨?_, hsubmits.epoch, Or.inl ⟨job.stamp c.generation, ?_, ?_, ?_, ?_⟩⟩
    · rw [show (c.submit job).control = some control from hcontrol]
      exact congrArg some (hsubmits.control control hcontrol).symm
    · exact of_decide_eq_true hkey.1
    · exact isFor_iff.mpr rfl
    · exact hgeneration.symm
    · exact DecoderWorker.Holds.queued (DecoderWorker.stamp_mem_submit hqueued)
  · -- A delta is submitted, or no refresh is awaited.
    rw [if_neg hkey] at hphase
    have hdelta : job.kind ≠ .key := by
      intro hkind
      apply hkey
      refine ⟨decide_eq_true hkind, ?_⟩
      rw [hphase]
      exact DecoderRecoveryPhase.noConfusion
    have hrefresh := h.refresh candidate hphase
    refine ⟨hrefresh.control, hrefresh.epoch, ?_⟩
    cases hrefresh.carries with
    | inr hexited => exact Or.inr hexited
    | inl hjob =>
        obtain ⟨held, hkind, hfor, hstamp, hholds⟩ := hjob
        exact Or.inl ⟨held, hkind, hfor, hstamp.trans hgeneration.symm,
          hholds.submit hkind hdelta hqueued⟩

theorem Custody.change (h : c.Custody) (hchange : Change False accepting c c') : c'.Custody := by
  cases hchange with
  | decode label => exact h.decode label
  | tearDown => exact h.tearDown
  | establish control active first =>
      have hconfig : c.config = none := by
        by_contra hsome
        exact h.controlled hsome first
      exact h.idle (fun _ => active) (fun _ => by simp) h.sound rfl rfl rfl
        (h.unconfigured hconfig)
  | expect => exact h.alike rfl rfl rfl rfl rfl rfl
  | receive => exact h.alike rfl rfl rfl rfl rfl rfl
  | dispatch => exact h.alike rfl rfl rfl rfl rfl rfl
  | allow => exact h.alike rfl rfl rfl rfl rfl rfl
  | hold => exact h.alike rfl rfl rfl rfl rfl rfl
  | release => exact h.alike rfl rfl rfl rfl rfl rfl
  | commit config accepts same =>
      refine ⟨h.connected, fun _ => accepts.1, h.sound, h.reported, ?_⟩
      intro candidate hphase
      have hrefresh := h.refresh candidate hphase
      have hsame : c.streamEpoch = some config.streamEpoch := same.resolve_right id
      exact ⟨hrefresh.control, hsame.symm.trans hrefresh.epoch, hrefresh.carries⟩
  | switch config queued accepts =>
      exact h.idle h.connected (fun _ => accepts.1) h.sound rfl rfl rfl
        (fun candidate hphase => by cases hphase)
  | abandon config accepts =>
      exact h.idle (fun hsome => absurd rfl hsome) (fun hsome => absurd rfl hsome)
        h.sound.reset rfl rfl rfl (fun candidate hphase => by cases hphase)
  | recover =>
      exact h.idle h.connected h.controlled h.sound rfl rfl rfl
        (fun candidate hphase => by cases hphase)
  | resetDecoder idle =>
      exact h.idle h.connected h.controlled h.sound.reset rfl rfl rfl idle
  | drain => exact h.alike rfl rfl rfl rfl rfl rfl
  | enqueue => exact h.alike rfl rfl rfl rfl rfl rfl
  | submit job submits accepted => exact h.submit submits accepted
  | report event rest readiness head tells =>
      refine ⟨h.connected, h.controlled, ⟨h.sound.stops, h.sound.shut⟩, ?_, ?_⟩
      · intro hexited
        have hdown := h.reported_take head hexited
        rwa [tells] at hdown
      · intro candidate hphase
        have hrefresh := (h.refresh candidate hphase).take head (by
          rintro job time result - - - rfl
          cases tells)
        exact ⟨hrefresh.control, hrefresh.epoch, hrefresh.carries⟩
  | started rest head =>
      exact h.take head rfl fun _ _ _ _ _ _ _ _ hevent => by cases hevent
  | skip timeline decoderGeneration time result rest head stale =>
      apply h.take head rfl
      intro candidate hphase job time' result' hkey hfor hgeneration hevent
      cases hevent
      apply stale
      refine ⟨hgeneration.symm, (h.refresh candidate hphase).current hfor, ?_⟩
      rw [hphase]
      exact hfor
  | complete timeline decoderGeneration time result rest head other =>
      apply h.take head rfl
      intro candidate hphase job time' result' hkey hfor hgeneration hevent
      cases hevent
      apply other
      refine ⟨decide_eq_true hkey, ?_⟩
      rw [hphase]
      exact hfor
  | refuse timeline decoderGeneration time result rest queued head fewer =>
      refine ⟨h.connected, h.controlled, ⟨h.sound.stops, h.sound.shut⟩, ?_, ?_⟩
      · intro hexited
        exact h.reported_take head hexited
      · intro candidate hphase
        cases hphase
  | accept timeline decoderGeneration time outcome rest head candidate known =>
      refine ⟨h.connected, h.controlled, ⟨h.sound.stops, h.sound.shut⟩, ?_, ?_⟩
      · intro hexited
        exact h.reported_take head hexited
      · intro candidate hphase
        cases hphase
  | publish => exact h.alike rfl rfl rfl rfl rfl rfl

end MediaPath

end PicooCamera.Receiver
