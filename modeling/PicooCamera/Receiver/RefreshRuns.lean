import PicooCamera.Receiver.PublishedPictures

/-!
# Refreshes over whole runs

In every run the pictures of a recovery are those of its refresh, and only the
accepted completion of the refresh or the end of the connection ends it. Where no
connection is adopted over another one the refresh in flight is in custody, too.
-/

namespace PicooCamera.Receiver

open PicooCamera.Library PicooCamera.Protocol PicooCamera.Pairing PicooCamera.Transport
open TransitionSystem

namespace MediaPath

variable {loose accepting : Prop} {c c' : MediaPath}

/-- What a picture has to do with the recovery in which it is published. -/
def Shown (phase : DecoderRecoveryPhase) (token : DecodeToken) (completed : AccessUnitTimeline) :
    Prop :=
  phase = .healthy ∨ ∃ candidate, phase = .refreshInFlight candidate ∧
    candidate.isFor token.timeline ∧ candidate.isFor completed

def AllShown (c : MediaPath) : Prop :=
  ∀ token configuration revision phase completed,
    .published token configuration revision phase completed ∈ c.marks →
      Shown phase token completed

theorem shown_of_admits {completed : AccessUnitTimeline} {token : DecodeToken}
    (haccepts : c.phase.accepts token.timeline = true)
    (h : c.phase = .healthy ∨ (completed.kind.isKeyframe = false ∧ c.phase.isCandidate completed)) :
    Shown c.phase token completed := by
  cases hphase : c.phase with
  | healthy => exact Or.inl rfl
  | awaitingRefresh =>
      rw [hphase] at haccepts
      cases haccepts
  | refreshInFlight candidate =>
      rw [hphase] at haccepts h
      cases h with
      | inl hhealthy => cases hhealthy
      | inr hcandidate => exact Or.inr ⟨candidate, rfl, haccepts, hcandidate.2⟩

theorem AllShown.change (h : c.AllShown) (hchange : Change loose accepting c c') :
    c'.AllShown := by
  have hcommit : ∀ config, (c.commit config).AllShown := by
    intro config token configuration revision phase completed hmark
    cases List.mem_append.mp hmark with
    | inl hold => exact h _ _ _ _ _ hold
    | inr hnew => cases List.mem_singleton.mp hnew
  cases hchange with
  | commit config => exact hcommit config
  | switch config => exact hcommit config
  | abandon config => exact hcommit config
  | publish token completed admits given healthy =>
      intro other configuration revision phase done hmark
      cases List.mem_append.mp hmark with
      | inl hold => exact h _ _ _ _ _ hold
      | inr hnew =>
          cases List.mem_singleton.mp hnew
          exact shown_of_admits admits.2.2 healthy
  | _ => exact h

/-- A recovery ends with the connection, or as it is known of the step. -/
structure Heals (accepting : Prop) (c c' : MediaPath) : Prop where
  closed : c.connection = none → c'.connection = none
  healed : c.phase ≠ .healthy → c'.phase = .healthy → c'.connection = none ∨ accepting

theorem Heals.of_phase (hconnection : c'.connection = c.connection)
    (hphase : c'.phase = .healthy → c.phase = .healthy) : Heals accepting c c' where
  closed hnone := hconnection.trans hnone
  healed hrecovering hhealthy := absurd (hphase hhealthy) hrecovering

theorem Heals.trans {c₁ c₂ c₃ : MediaPath} (h₁ : Heals accepting c₁ c₂)
    (h₂ : Heals accepting c₂ c₃) : Heals accepting c₁ c₃ where
  closed hnone := h₂.closed (h₁.closed hnone)
  healed hrecovering hhealthy := by
    by_cases hmiddle : c₂.phase = .healthy
    · exact (h₁.healed hrecovering hmiddle).imp_left h₂.closed
    · exact h₂.healed hmiddle hhealthy

theorem heals_change (h : Change loose accepting c c') : Heals accepting c c' := by
  cases h with
  | tearDown => exact ⟨fun _ => rfl, fun _ _ => Or.inl rfl⟩
  | abandon => exact ⟨fun _ => rfl, fun _ _ => Or.inl rfl⟩
  | switch => exact Heals.of_phase rfl fun hhealthy => by cases hhealthy
  | recover => exact Heals.of_phase rfl fun hhealthy => by cases hhealthy
  | refuse => exact Heals.of_phase rfl fun hhealthy => by cases hhealthy
  | accept timeline decoderGeneration time outcome rest head candidate known =>
      exact ⟨id, fun _ _ => Or.inr known⟩
  | submit job =>
      refine ⟨id, ?_⟩
      intro hrecovering hhealthy
      change c.phase.submitted job.accessUnit.timeline = .healthy at hhealthy
      unfold DecoderRecoveryPhase.submitted at hhealthy
      split at hhealthy
      · cases hhealthy
      · exact absurd hhealthy hrecovering
  | _ => exact Heals.of_phase rfl id

theorem heals_changes (h : Changes loose accepting c c') : Heals accepting c c' := by
  induction h with
  | refl => exact Heals.of_phase rfl id
  | tail _ hchange ih => exact ih.trans (heals_change hchange)

theorem Custody.changes (h : c.Custody) (hchanges : Changes False accepting c c') :
    c'.Custody := by
  induction hchanges with
  | refl => exact h
  | tail _ hchange ih => exact ih.change hchange

theorem AllShown.changes (h : c.AllShown) (hchanges : Changes loose accepting c c') :
    c'.AllShown := by
  induction hchanges with
  | refl => exact h
  | tail _ hchange ih => exact ih.change hchange

end MediaPath

namespace Owner

open MediaPath

/-- No connection is adopted while another one is active. -/
def Uncontested (o : OwnerState) (label : OwnerStep) : Prop :=
  Adopts o label → o.session.lifecycle.activeGeneration = none

/-- The job of the refresh is with the decoder worker; or the worker is gone, and the owner
knows that or is told by an event of the channel. -/
def Carries (o : OwnerState) (candidate : RefreshCandidate) : Prop :=
  (∃ job : DecodeJob, job.kind = .key ∧ candidate.isFor job.accessUnit.timeline ∧
    job.decoderGeneration = o.world.decoder.queue.decoderGeneration ∧ o.world.decoder.Holds job) ∨
  o.world.decoder.Down o.session.decoderReadiness

def phase (o : OwnerState) : DecoderRecoveryPhase := o.session.media.decoderRecovery.phase

structure RefreshInvariant (c : MediaPath) : Prop where
  known : Known False c
  custody : c.Custody

theorem RefreshInvariant.changes {accepting : Prop} {c c' : MediaPath} (h : RefreshInvariant c)
    (hchanges : Changes False accepting c c') : RefreshInvariant c' :=
  ⟨h.known.changes hchanges, h.custody.changes hchanges⟩

theorem RefreshInvariant.adopt {c : MediaPath} (h : RefreshInvariant c)
    (hfree : c.connection = none) (connection : Nat) : RefreshInvariant (c.adopt connection) := by
  refine ⟨⟨h.known.paired, h.known.queued, h.known.given, Or.inr ?_⟩,
    h.custody.adopt hfree connection⟩
  intro target hpending
  have hconnection := h.known.pending.resolve_left id target hpending
  rw [hfree] at hconnection
  cases hconnection

theorem refreshInvariant_new (identity : DeviceIdentity) (trusted : TrustedDeviceStore)
    (hasTrustedStorePath : Bool) :
    RefreshInvariant (OwnerState.new identity trusted hasTrustedStorePath).mediaPath := by
  refine ⟨⟨rfl, ?_, ?_, Or.inr ?_⟩, ⟨?_, ?_, ⟨?_, ?_⟩, ?_, ?_⟩⟩
  · intro hqueued
    cases hqueued
  · intro timeline decoderGeneration time outcome hevent
    cases hevent
  · intro target hpending
    cases hpending
  · intro hcontrol
    exact absurd rfl hcontrol
  · intro hconfig
    exact absurd rfl hconfig
  · intro hstopped
    cases hstopped
  · intro hitem
    cases hitem
  · intro hexited
    cases hexited
  · intro candidate hphase
    cases hphase

theorem refreshInvariant_next (P : Platform) {o : OwnerState} {label : OwnerStep}
    (h : RefreshInvariant o.mediaPath) (huncontested : Uncontested o label) :
    RefreshInvariant (next P o label).mediaPath := by
  by_cases hadopts : Adopts o label
  · obtain ⟨o', connection, hdecodes, -, heq⟩ := next_adopts P hadopts
    have hchanges : Changes False False o.mediaPath o'.mediaPath := hdecodes.simulated h.known
    rw [heq]
    apply (h.changes hchanges).adopt
    rw [@OnlyDecodes.keeps _ _ hdecodes _ MediaPath.connection (fun _ _ => rfl) fun _ _ => rfl]
    exact huncontested hadopts
  · exact h.changes (next_simulated P hadopts h.known)

theorem refreshInvariant_of_reachable (P : Platform) {o : OwnerState}
    (h : ((ownerSystem P).restrict Uncontested).Reachable o) : RefreshInvariant o.mediaPath := by
  apply @Reachable.invariant _ _ _ _ (fun o => RefreshInvariant o.mediaPath) _ _ h
  · intro s hs
    obtain ⟨identity, trusted, hasPath, heq⟩ := hs
    rw [heq]
    exact refreshInvariant_new identity trusted hasPath
  · intro s label t hs hstep
    obtain ⟨huncontested, heq⟩ := hstep
    rw [heq]
    exact refreshInvariant_next P hs huncontested

/-- What holds also where a connection is adopted over another one. -/
structure ShownInvariant (c : MediaPath) : Prop where
  known : Known True c
  shown : c.AllShown

theorem shownInvariant_next (P : Platform) {o : OwnerState} (label : OwnerStep)
    (h : ShownInvariant o.mediaPath) : ShownInvariant (next P o label).mediaPath := by
  by_cases hadopts : Adopts o label
  · obtain ⟨o', connection, hdecodes, -, heq⟩ := next_adopts P hadopts
    have hchanges : Changes True False o.mediaPath o'.mediaPath := hdecodes.simulated h.known
    have hknown := h.known.changes hchanges
    have hshown : o'.mediaPath.AllShown := h.shown.changes hchanges
    rw [heq]
    exact ⟨⟨hknown.paired, hknown.queued, hknown.given, Or.inl trivial⟩, hshown⟩
  · have hchanges := next_simulated P hadopts h.known
    exact ⟨h.known.changes hchanges, h.shown.changes hchanges⟩

theorem shownInvariant_of_reachable (P : Platform) {o : OwnerState}
    (h : (ownerSystem P).Reachable o) : ShownInvariant o.mediaPath := by
  apply @Reachable.invariant _ _ _ _ (fun o => ShownInvariant o.mediaPath) _ _ h
  · rintro s ⟨identity, trusted, hasPath, rfl⟩
    have hknown := (refreshInvariant_new identity trusted hasPath).known
    exact ⟨⟨hknown.paired, hknown.queued, hknown.given, Or.inl trivial⟩, nofun⟩
  · rintro s label t hs rfl
    exact shownInvariant_next P label hs

theorem heals_next (P : Platform) {o : OwnerState} (label : OwnerStep)
    (known : Known True o.mediaPath) (hrecovering : phase o ≠ .healthy)
    (hhealthy : phase (next P o label) = .healthy) :
    (next P o label).session.lifecycle.activeGeneration = none ∨ TakesRefresh o label := by
  by_cases hadopts : Adopts o label
  · obtain ⟨o', connection, hdecodes, -, heq⟩ := next_adopts P hadopts
    have hphase : o'.mediaPath.phase = o.mediaPath.phase :=
      @OnlyDecodes.keeps _ _ hdecodes _ MediaPath.phase (fun _ _ => rfl) fun _ _ => rfl
    have hsame : (next P o label).mediaPath.phase = o.mediaPath.phase := by
      rw [heq]
      exact hphase
    exact absurd (hsame.symm.trans hhealthy) hrecovering
  · exact (heals_changes (next_simulated P hadopts known)).healed hrecovering hhealthy

/-- The refresh in flight is not lost where no connection was adopted over another one, and no
run bypasses it. -/
theorem refresh_never_lost_nor_bypassed (P : Platform) {o : OwnerState}
    (h : (ownerSystem P).Reachable o) :
    (((ownerSystem P).restrict Uncontested).Reachable o →
      ∀ candidate, phase o = .refreshInFlight candidate → Carries o candidate) ∧
      (∀ token configuration revision phase completed,
        .published token configuration revision phase completed ∈ o.trace →
          Shown phase token completed) ∧
      ∀ label, phase o ≠ .healthy → phase (next P o label) = .healthy →
        (next P o label).session.lifecycle.activeGeneration = none ∨ TakesRefresh o label := by
  have inv := shownInvariant_of_reachable P h
  refine ⟨?_, ?_, ?_⟩
  · intro huncontested candidate hphase
    have hcustody := (refreshInvariant_of_reachable P huncontested).custody
    exact (hcustody.refresh candidate hphase).carries.imp_right hcustody.reported
  · intro token configuration revision phase completed hmark
    apply inv.shown token configuration revision phase completed
    exact List.mem_filter.mpr ⟨hmark, rfl⟩
  · intro label hrecovering hhealthy
    exact heals_next P label inv.known hrecovering hhealthy

/-! ## Refreshes of a session with one Sender -/

def isPoll : OwnerStep → Bool
  | .pollTransportEvent => true
  | _ => false

theorem adopts_iff (o : OwnerState) (label : OwnerStep) :
    Adopts o label ↔ isPoll label = true ∧ o.adoption ≠ none := by
  unfold Adopts
  cases label <;> simp [isPoll]

instance (o : OwnerState) (label : OwnerStep) : Decidable (Adopts o label) :=
  decidable_of_iff _ (adopts_iff o label).symm

instance (o : OwnerState) (label : OwnerStep) : Decidable (Uncontested o label) :=
  inferInstanceAs (Decidable (Adopts o label → o.session.lifecycle.activeGeneration = none))

theorem uncontested_refreshing :
    ((ownerSystem samplePlatform).restrict Uncontested).Reachable (ownerRun refreshing) := by
  have hstart : ((ownerSystem samplePlatform).restrict Uncontested).Reachable
      (OwnerState.new sampleIdentity TrustedDeviceStore.new false) :=
    Reachable.of_init ⟨_, _, _, rfl⟩
  exact hstart.foldl (fun _ _ hmeets => ⟨hmeets, rfl⟩) (by decide +kernel)

/-- The user ends the connection while the decoder works on the refresh, and the next
connection starts healthy. -/
theorem disconnect_ends_recovery :
    (ownerSystem samplePlatform).Reachable (ownerRun refreshing) ∧
      phase (ownerRun refreshing) =
        .refreshInFlight (RefreshCandidate.fromTimeline sampleToken.timeline) ∧
      phase (next samplePlatform (ownerRun refreshing) (.command .disconnect)) = .healthy ∧
      ¬TakesRefresh (ownerRun refreshing) (.command .disconnect) := by
  refine ⟨reachable_ownerRun refreshing, by decide +kernel, by decide +kernel, ?_⟩
  intro htakes
  cases htakes.1

/-- A connection that is adopted over the first one, whose keyframe is then completed. -/
def contesting : List OwnerStep :=
  refreshing ++
    [.schedule [[.worker (.finish .peerClose), .worker .clear, .worker .announceEnd,
        .worker (.accept (some (List.replicate 32 3))), .worker .install, .worker .announce]],
      .pollTransportEvent, .pollTransportEvent,
      .schedule [[.decoder (.complete 0 (.ok ⟨[sampleToken], true⟩))]], .pollDecoderEvent,
      .pollDecoderEvent]

/-- The custody of a refresh in flight, and a turn after a contested adoption. -/
theorem refresh_never_lost_nor_bypassed_sample :
    Carries (ownerRun refreshing) (RefreshCandidate.fromTimeline sampleToken.timeline) ∧
      (phase (ownerRun contesting) ≠ .healthy →
        phase (next samplePlatform (ownerRun contesting) .turn) = .healthy →
          (next samplePlatform (ownerRun contesting) .turn).session.lifecycle.activeGeneration =
              none ∨ TakesRefresh (ownerRun contesting) .turn) :=
  ⟨(refresh_never_lost_nor_bypassed samplePlatform (reachable_ownerRun refreshing)).1
      uncontested_refreshing _ (by decide +kernel),
    (refresh_never_lost_nor_bypassed samplePlatform (reachable_ownerRun contesting)).2.2 .turn⟩

/-- There the refresh stays in flight, and nothing is left of its job. -/
theorem contested_refresh_stays :
    phase (ownerRun contesting) =
        .refreshInFlight (RefreshCandidate.fromTimeline sampleToken.timeline) ∧
      (ownerRun contesting).world.decoder.queue.items = [] ∧
      (ownerRun contesting).world.decoder.thread = .idle ∧
      (ownerRun contesting).world.decoder.events.length = 0 ∧
      (ownerRun contesting).session.lifecycle.activeGeneration = some 2 := by
  refine ⟨?_, ?_, ?_, ?_, ?_⟩ <;> decide +kernel

end Owner

end PicooCamera.Receiver
