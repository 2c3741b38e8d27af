import PicooCamera.Receiver.ConnectionPath
import PicooCamera.Receiver.MediaSimulation

/-!
# Lifecycle events, pairing and control messages change the media path

A lifecycle event other than a new connection either leaves the active generation
alone and has quiet effects, or ends it, and its first effect is the teardown.
-/

namespace PicooCamera.Receiver

open PicooCamera.Library PicooCamera.Protocol PicooCamera.Packet PicooCamera.Session
open PicooCamera.Jitter PicooCamera.Pairing PicooCamera.Transport Program

variable {loose accepting : Prop}

namespace Owner

section Quiet

variable {R : OwnerState → OwnerState → Prop} [Quiet R]

instance (deadline : ReceiverSession → Instant) :
    Keeps R (modifySession fun s => s.setPlaceholderAfter (deadline s)) :=
  quiet_session fun _ => rfl

instance : Keeps R (modifySession ReceiverSession.publishPlaceholder) :=
  quiet_session fun _ => rfl

theorem keeps_applyEffect (event : ReceiverEvent) {effect : ReceiverEffect}
    (h : effect.isQuiet) : Keeps R (applyEffect event effect) := by
  cases effect with
  | prepareConnection => cases h
  | resetSessionResources => cases h
  | _ =>
      unfold applyEffect
      infer_instance

theorem keeps_applyEffects (event : ReceiverEvent) {effects : List ReceiverEffect}
    (h : ∀ effect ∈ effects, effect.isQuiet) : Keeps R (applyEffects event effects) := by
  induction effects with
  | nil =>
      unfold applyEffects
      infer_instance
  | cons effect rest ih =>
      unfold applyEffects
      apply keeps_then (keeps_applyEffect event (h effect List.mem_cons_self))
      intro _
      exact ih fun e he => h e (List.mem_cons_of_mem _ he)

end Quiet

/-! ## Applying an event -/

theorem mediaPath_reduced (o : OwnerState) (event : ReceiverEvent) :
    (reduced o event).mediaPath =
      { o.mediaPath with
        connection := (reduce o.session.lifecycle event).1.activeGeneration } := rfl

theorem mediaPath_tornDown (o : OwnerState) (h : o.mediaPath.connection = none) :
    (tornDown o).mediaPath = o.turn.mediaPath.tearDown := by
  have hnone : o.session.lifecycle.activeGeneration = none := h
  unfold tornDown MediaPath.tearDown OwnerState.mediaPath
  simp [ReceiverSession.resetSessionResources, hnone, ReceiverSession.videoAllowed,
    MediaState.reset, MediaState.new, JitterBuffer.clear, JitterBuffer.new, DecoderRecovery.new,
    ControlChannel.new]

/-- The end of a generation, from a state that may have gone on since the event came. -/
theorem applyReceiverEvent_ends {R : OwnerState → OwnerState → Prop} [Quiet R] {o : OwnerState}
    {event : ReceiverEvent} {effects : List ReceiverEffect}
    (heffects : (reduce o.session.lifecycle event).2 = .resetSessionResources :: effects)
    (hover : (reduce o.session.lifecycle event).1.activeGeneration = none)
    (hquiet : ∀ effect ∈ effects, effect.isQuiet) :
    ∃ o', o'.mediaPath = o.turn.mediaPath.tearDown ∧
      R o' (exec (applyReceiverEvent event) o).2 := by
  have hconnection : (reduced o event).mediaPath.connection = none := hover
  refine ⟨tornDown (reduced o event), ?_, ?_⟩
  · rw [mediaPath_tornDown _ hconnection]
    have hturn : (reduced o event).turn = reduced o.turn event := by
      unfold reduced OwnerState.turn
      dsimp only
      split <;> rfl
    rw [hturn, mediaPath_reduced]
    rfl
  · have hrest : Keeps R (do
        applyEffects event effects
        pure (ReceiverEffect.resetSessionResources :: effects)) :=
      keeps_then (keeps_applyEffects event hquiet) fun _ => inferInstance
    rw [exec_applyReceiverEvent, heffects]
    exact hrest.keeps (tornDown (reduced o event))

theorem simulated_applyReceiverEvent {event : ReceiverEvent} (h : event.connects = false) :
    Keeps (Simulated loose accepting) (applyReceiverEvent event) := by
  constructor
  intro o
  have hreduction := @reduction o.session.lifecycle event h
  generalize hreduced : reduce o.session.lifecycle event = outcome at hreduction
  cases hreduction with
  | stays state' effects same quiet =>
      have heffects : (reduce o.session.lifecycle event).2 = effects := congrArg Prod.snd hreduced
      have hsame : (reduced o event).mediaPath = o.mediaPath := by
        rw [mediaPath_reduced, hreduced]
        dsimp only
        rw [same]
        rfl
      have hquiet : Keeps (Simulated loose accepting) (do
          applyEffects event effects
          pure effects) := keeps_then (keeps_applyEffects event quiet) fun _ => inferInstance
      rw [exec_applyReceiverEvent, heffects]
      exact Frame.trans (Quiet.same hsame) (hquiet.keeps _)
  | ends state' effects ended quiet =>
      obtain ⟨o', htorn, hrest⟩ :=
        @applyReceiverEvent_ends (Simulated loose accepting) _ o event effects
          (congrArg Prod.snd hreduced) ((congrArg (fun r => r.1.activeGeneration) hreduced).trans
            ended) quiet
      have hturn : Simulated loose accepting o o.turn := quiet_turn o
      exact Frame.trans hturn
        (Frame.trans (Simulated.of_change_eq (Change.tearDown _) htorn) hrest)

instance (generation : Nat) (reason : ReceiverCloseReason) :
    Keeps (Simulated loose accepting)
      (applyReceiverEvent (.abortConnection generation reason)) :=
  simulated_applyReceiverEvent rfl

instance (generation : Nat) :
    Keeps (Simulated loose accepting) (applyReceiverEvent (.videoReceived generation)) :=
  simulated_applyReceiverEvent rfl

instance (generation : Nat) (reason : ReceiverCloseReason) :
    Keeps (Simulated loose accepting) (applyEvent (.abortConnection generation reason)) := by
  unfold applyEvent
  infer_instance

theorem simulated_applyEvent {event : ReceiverEvent} (h : event.connects = false) :
    Keeps (Simulated loose accepting) (applyEvent event) := by
  have hevent : Keeps (Simulated loose accepting) (applyReceiverEvent event) :=
    simulated_applyReceiverEvent h
  unfold applyEvent
  infer_instance

instance (generation : Nat) :
    Keeps (Simulated loose accepting) (applyEvent (.stopStream generation)) :=
  simulated_applyEvent rfl

instance (generation : Nat) (retainFrame : Bool) :
    Keeps (Simulated loose accepting)
      (applyEvent (.transportDisconnected generation retainFrame)) :=
  simulated_applyEvent rfl

instance : Keeps (Simulated loose accepting) (applyEvent .userClose) := simulated_applyEvent rfl

instance : Keeps (Simulated loose accepting) (applyEvent .listenerStarted) :=
  simulated_applyEvent rfl

instance : Keeps (Simulated loose accepting) (applyEvent .disconnectHoldElapsed) :=
  simulated_applyEvent rfl

instance (target : SessionId) :
    Keeps (Simulated loose accepting) (rejectControlSession target) := by
  unfold rejectControlSession
  infer_instance

instance : Keeps (Simulated loose accepting) maybeFinalizeDisconnectHold := by
  unfold maybeFinalizeDisconnectHold
  apply keeps_then inferInstance
  intro s
  split <;> infer_instance

/-!
## Pairing and control messages

A configuration is committed before the recovery that it asks for is entered.
An error in between is always answered by the end of the connection, so that
the two are one change together.
-/

section Quiet

variable {R : OwnerState → OwnerState → Prop} [Quiet R]

/-! ## The trust store -/

instance (P : Platform) : Keeps R (persistTrusted P) := by
  unfold persistTrusted
  apply keeps_then inferInstance
  intro s
  split
  · apply keeps_then inferInstance
    intro disk
    split <;> infer_instance
  · infer_instance

instance (store : ReceiverSession → TrustedDeviceStore) :
    Keeps R (modifySession fun s => s.setTrusted (store s)) := quiet_session fun _ => rfl

instance (P : Platform) (store : TrustedDeviceStore) : Keeps R (replaceTrusted P store) := by
  unfold replaceTrusted
  apply keeps_then inferInstance
  intro previous
  apply keeps_then inferInstance
  intro _
  apply keeps_then inferInstance
  intro outcome
  cases outcome <;> infer_instance

instance (P : Platform) (deviceId : String) : Keeps R (removeTrustedDevice P deviceId) := by
  unfold removeTrustedDevice
  infer_instance

instance (P : Platform) (revision : Nat) : Keeps R (replaceTrustedIdentityHistory P revision) := by
  unfold replaceTrustedIdentityHistory
  apply keeps_then inferInstance
  intro s
  split
  · infer_instance
  · split <;> infer_instance

instance (P : Platform) (revision : Nat) :
    Keeps R (dismissTrustedIdentityReplacement P revision) := by
  unfold dismissTrustedIdentityReplacement
  infer_instance

instance (P : Platform) : Keeps R (clearTrustedDevices P) := by
  unfold clearTrustedDevices
  infer_instance

/-! ## The handshake -/

instance (target : SessionId) : Keeps R (transport fun w => (w.bindingOf target, w)) :=
  keeps_transport fun _ _ => le_rfl

instance (update : PendingPairing → PendingPairing) :
    Keeps R (modifySession fun s => s.updatePending update) := quiet_session fun _ => rfl

instance : Keeps R (modifySession ReceiverSession.confirmLocal) := quiet_session fun _ => rfl

instance : Keeps R (modifySession ReceiverSession.confirmRemote) := quiet_session fun _ => rfl

instance : Keeps R (modifySession ReceiverSession.noteApprovalSent) :=
  quiet_session fun _ => rfl

instance : Keeps R (modifySession ReceiverSession.commitSender) := quiet_session fun _ => rfl

instance : Keeps R (modifySession ReceiverSession.commitReceiver) := quiet_session fun _ => rfl

instance : Keeps R (modifySession ReceiverSession.endPairing) := quiet_session fun _ => rfl

instance : Keeps R (modifySession ReceiverSession.dropExpiredChallenge) :=
  quiet_session fun _ => rfl

instance (target : SessionId) : Keeps R (modifySession fun s => s.beginStreaming target) :=
  quiet_session fun _ => rfl

instance (senderId : String) : Keeps R (note (.trusted senderId)) := quiet_note rfl rfl

instance (senderId : String) : Keeps R (note (.permitted senderId)) := quiet_note rfl rfl

instance (senderId : String) (transcriptHash : Bytes) :
    Keeps R (note (.approved senderId transcriptHash)) := quiet_note rfl rfl

instance (P : Platform) : Keeps R (commitTrust P) := by
  unfold commitTrust
  apply keeps_then inferInstance
  intro nowMs
  apply keeps_then inferInstance
  intro s
  split <;> infer_instance

instance : Keeps R approvePending := by
  unfold approvePending
  apply keeps_then inferInstance
  intro s
  split <;> infer_instance

instance : Keeps R (modifySession ReceiverSession.markCapabilitiesSent) :=
  quiet_session fun _ => rfl

instance (target : SessionId) : Keeps R (sendCapabilities target) := by
  unfold sendCapabilities
  apply keeps_then inferInstance
  intro s
  split <;> infer_instance

instance (target : SessionId) : Keeps R (sendCapabilitiesOnce target) := by
  unfold sendCapabilitiesOnce
  infer_instance

instance (target : SessionId) : Keeps R (handleStartStream target) := by
  unfold handleStartStream
  apply keeps_then inferInstance
  intro s
  split <;> infer_instance

end Quiet

/-- The Sender's video becomes allowed, or is no longer so. -/
instance (sender : ActiveSender) :
    Keeps (Simulated loose accepting) (modifySession fun s => s.setActiveSender sender) :=
  keeps_update fun _ => Simulated.of_change_eq (Change.allow _ _) rfl

instance (target : SessionId) (hello : ClientHello) (autoAccept : Bool) (transcriptHash : Bytes)
    (shortCode : String) (now : Instant) :
    Keeps (Simulated loose accepting) (modifySession fun s =>
      s.installChallenge target hello autoAccept transcriptHash shortCode now) :=
  keeps_update fun _ => Simulated.of_change_eq (Change.allow _ _) rfl

instance : Keeps (Simulated loose accepting) permitSender := by
  unfold permitSender
  apply keeps_then inferInstance
  intro s
  split <;> infer_instance

instance (target : SessionId) : Keeps (Simulated loose accepting) (permitVideo target) := by
  unfold permitVideo
  infer_instance

instance (P : Platform) : Keeps (Simulated loose accepting) (advancePairing P) := by
  unfold advancePairing
  apply keeps_then inferInstance
  intro s
  split
  · infer_instance
  · infer_instance

instance (P : Platform) (target : SessionId) (hello : ClientHello) :
    Keeps (Simulated loose accepting) (installClientHello P target hello) := by
  unfold installClientHello
  apply keeps_then inferInstance
  intro entropy
  split
  · infer_instance
  · apply keeps_then inferInstance
    intro binding
    apply keeps_then inferInstance
    intro s
    split
    · infer_instance
    · dsimp only
      split <;> infer_instance

instance (P : Platform) (target : SessionId) (hello : ClientHello) :
    Keeps (Simulated loose accepting) (handleClientHello P target hello) := by
  unfold handleClientHello
  infer_instance

instance (P : Platform) (target : SessionId) (confirm : PairingProof) :
    Keeps (Simulated loose accepting) (handlePairingConfirm P target confirm) := by
  unfold handlePairingConfirm
  apply keeps_then inferInstance
  intro s
  split
  · infer_instance
  · apply keeps_then inferInstance
    intro now
    split
    · infer_instance
    · split
      · infer_instance
      · split <;> infer_instance

instance (P : Platform) (target : SessionId) (commit : PairingProof) :
    Keeps (Simulated loose accepting) (handlePairingCommit P target commit) := by
  unfold handlePairingCommit
  infer_instance

instance : Keeps (Simulated loose accepting) expirePendingPairingIfNeeded := by
  unfold expirePendingPairingIfNeeded
  apply keeps_then inferInstance
  intro s
  split <;> infer_instance

instance (P : Platform) : Keeps (Simulated loose accepting) (confirmPairingLocally P) := by
  unfold confirmPairingLocally
  infer_instance

instance : Keeps (Simulated loose accepting) rejectPairingLocally := by
  unfold rejectPairingLocally
  apply keeps_then inferInstance
  intro _
  apply keeps_then inferInstance
  intro s
  split <;> infer_instance

instance (target : SessionId) : Keeps (Simulated loose accepting) (handleStopStream target) := by
  unfold handleStopStream
  infer_instance

/-! ## A configuration is committed -/

/-- A configuration was committed, and the recovery that it asks for was not entered. -/
def Interrupted (loose accepting : Prop) (c c' : MediaPath) : Prop :=
  ∃ before config, Changes loose accepting c before ∧ before.connection = c.connection ∧
    before.Accepts config ∧ c' = before.commit config

/-- A program that an error may interrupt. -/
def Commits {α : Type} (loose accepting : Prop) (o : OwnerState) (p : Owner α) : Prop :=
  Changes loose accepting o.mediaPath (exec p o).2.mediaPath ∨
    ((∃ error, (exec p o).1 = .error error) ∧
      Interrupted loose accepting o.mediaPath (exec p o).2.mediaPath)

section Commits

variable {α β : Type} {o o' : OwnerState}

theorem Commits.of_keeps {p : Owner α} (known : Known loose o.mediaPath)
    (hp : Keeps (Simulated loose accepting) p) : Commits loose accepting o p :=
  Or.inl (hp.keeps o known)

theorem Commits.after {p q : Owner α} (h : Commits loose accepting o' q)
    (hchanges : Changes loose accepting o.mediaPath o'.mediaPath)
    (hconnection : o'.mediaPath.connection = o.mediaPath.connection)
    (heq : exec p o = exec q o') : Commits loose accepting o p := by
  unfold Commits at h ⊢
  rw [heq]
  cases h with
  | inl hafter => exact Or.inl (hchanges.trans hafter)
  | inr hinterrupted =>
      obtain ⟨herror, before, config, hbefore, hsame, haccepts, hcommit⟩ := hinterrupted
      exact Or.inr ⟨herror, before, config, hchanges.trans hbefore, hsame.trans hconnection,
        haccepts, hcommit⟩

theorem Commits.bind {p : Owner α} {f : α → Owner β} (known : Known loose o.mediaPath)
    (h : Commits loose accepting o p) (hf : ∀ a, Keeps (Simulated loose accepting) (f a)) :
    Commits loose accepting o (p >>= f) := by
  unfold Commits at h ⊢
  rw [exec_bind]
  cases hexec : exec p o with
  | mk result t =>
      rw [hexec] at h
      cases result with
      | error error =>
          cases h with
          | inl hchanges => exact Or.inl hchanges
          | inr hinterrupted => exact Or.inr ⟨⟨error, rfl⟩, hinterrupted.2⟩
      | ok a =>
          cases h with
          | inl hchanges =>
              exact Or.inl (hchanges.trans ((hf a).keeps t (known.changes hchanges)))
          | inr hinterrupted =>
              obtain ⟨⟨error, herror⟩, -⟩ := hinterrupted
              cases herror

theorem decodeAll_commit (c : MediaPath) (config : StreamConfig) (labels : List DecoderStep) :
    (c.commit config).decodeAll labels = (c.decodeAll labels).commit config :=
  MediaPath.decodeAll_comm (f := fun c => c.commit config) (fun _ => rfl) (fun _ _ => rfl)
    c labels

theorem expect_commit (c : MediaPath) (config : StreamConfig) (upcoming : SessionId → Nat) :
    (c.commit config).expect upcoming = (c.expect upcoming).commit config := rfl

theorem accepts_decodeAll {c : MediaPath} {config : StreamConfig} (h : c.Accepts config)
    (labels : List DecoderStep) : (c.decodeAll labels).Accepts config := by
  unfold MediaPath.Accepts MediaPath.streamEpoch at h ⊢
  rw [MediaPath.decodeAll_keeps (f := MediaPath.control) fun _ _ => rfl,
    MediaPath.decodeAll_keeps (f := MediaPath.config) fun _ _ => rfl]
  exact h

theorem rejectControlSession_spec {before : MediaPath} {config : StreamConfig}
    {target : SessionId} (known : Known loose before) (haccepts : before.Accepts config)
    (hconnection : before.connection = some target.value)
    (hcommit : o.mediaPath = before.commit config) :
    Changes loose accepting before (exec (rejectControlSession target) o).2.mediaPath := by
  have hactive : o.session.lifecycle.activeGeneration = some target.value :=
    (congrArg MediaPath.connection hcommit).trans hconnection
  have hreduce : reduce o.session.lifecycle (.abortConnection target.value .invalidControl) =
      (o.session.lifecycle.endGeneration,
        [.resetSessionResources, .closeActiveTransport .invalidControl,
          .publishWaitingPlaceholder]) := by
    unfold reduce
    exact if_pos hactive
  obtain ⟨o', htorn, hrest⟩ :=
    @applyReceiverEvent_ends (Simulated loose accepting) _ o
      (.abortConnection target.value .invalidControl) _ (congrArg Prod.snd hreduce)
      (congrArg (fun r => r.1.activeGeneration) hreduce) (by simp [ReceiverEffect.isQuiet])
  obtain ⟨labels, upcoming, hfewer, hlabels⟩ : OnlyDecodes o o.turn := quiet_turn o
  rw [hcommit] at hlabels hfewer
  rw [hlabels, expect_commit, decodeAll_commit] at htorn
  have habandon : Changes loose accepting before o'.mediaPath := by
    rw [htorn]
    exact (MediaPath.changes_worlds before hfewer labels).tail
      (Change.abandon _ config
        (@accepts_decodeAll (before.expect upcoming) config haccepts labels))
  exact habandon.trans (hrest (known.changes habandon))

theorem simulated_rejecting {target : SessionId} {p : Owner Unit}
    (known : Known loose o.mediaPath) (h : Commits loose accepting o p)
    (hconnection : o.mediaPath.connection = some target.value ∨ loose) :
    Changes loose accepting o.mediaPath (exec (attempt p >>= fun outcome =>
      match outcome with
      | .ok () => pure ()
      | .error error => do
          rejectControlSession target
          fail error) o).2.mediaPath := by
  rw [exec_attempt_bind]
  have hreject : ∀ (error : ReceiverError), Keeps (Simulated loose accepting) (do
      rejectControlSession target
      fail error : Owner Unit) := fun _ => inferInstance
  cases h with
  | inl hchanges =>
      cases hresult : (exec p o).1 with
      | ok a => exact hchanges
      | error error =>
          exact hchanges.trans ((hreject error).keeps _ (known.changes hchanges))
  | inr hinterrupted =>
      obtain ⟨⟨error, herror⟩, before, config, hbefore, hsame, haccepts, hcommit⟩ := hinterrupted
      rw [herror]
      dsimp only
      have hknown := known.changes hbefore
      cases hconnection with
      | inl hconnected =>
          have hended := @rejectControlSession_spec loose accepting _ _ config target hknown
            haccepts (hsame.trans hconnected) hcommit
          have hfailed : ∀ t : OwnerState, Changes loose accepting before
              (exec (rejectControlSession target) t).2.mediaPath →
              Changes loose accepting before (exec (do
                rejectControlSession target
                fail error : Owner Unit) t).2.mediaPath := by
            intro t ht
            rw [exec_bind]
            cases hexec : exec (rejectControlSession target) t with
            | mk result after =>
                rw [hexec] at ht
                cases result <;> exact ht
          exact hbefore.trans (hfailed _ hended)
      | inr hloose =>
          have hcommitted : Changes loose accepting before (exec p o).2.mediaPath := by
            rw [hcommit]
            exact Relation.ReflTransGen.single (Change.commit _ config haccepts (Or.inr hloose))
          exact hbefore.trans
            (hcommitted.trans ((hreject error).keeps _ (hknown.changes hcommitted)))

end Commits

/-! ## Stream configurations -/

/-- The state after a configuration was committed. -/
def committed (o : OwnerState) (config : StreamConfig) (budget : Nat) : OwnerState :=
  { o with
    session := o.session.commitConfig config budget
    trace := o.trace ++ [.committed (o.session.configRevision + 1) config] }

theorem commitConfig_media (m : MediaState) (config : StreamConfig) (budget : Nat) :
    (m.commitConfig config budget).currentStreamConfig = some config ∧
      (m.commitConfig config budget).decoderRecovery = m.decoderRecovery ∧
      (m.commitConfig config budget).jitter = m.jitter := by
  unfold MediaState.commitConfig
  dsimp only
  split
  · exact ⟨rfl, rfl, rfl⟩
  · split
    · exact ⟨rfl, rfl, rfl⟩
    · split <;> exact ⟨rfl, rfl, rfl⟩

theorem mediaPath_committed (o : OwnerState) (config : StreamConfig) (budget : Nat) :
    (committed o config budget).mediaPath = o.mediaPath.commit config := by
  obtain ⟨hconfig, hrecovery, hjitter⟩ := commitConfig_media o.session.media config budget
  simp [committed, OwnerState.mediaPath, MediaPath.commit, ReceiverSession.commitConfig, hconfig,
    hrecovery, hjitter, ReceiverSession.videoAllowed, OwnerMark.isMedia,
    OwnerMark.dispatched?]

theorem configRecovery_none {m : MediaState} {config : StreamConfig}
    (holder : ¬∃ epoch ∈ m.streamEpoch, config.streamEpoch < epoch)
    (hnone : m.configRecovery config = none) : m.streamEpoch = some config.streamEpoch := by
  unfold MediaState.configRecovery at hnone
  cases hepoch : m.streamEpoch with
  | none =>
      rw [hepoch] at hnone
      cases hnone
  | some previous =>
      rw [hepoch] at hnone holder
      have hle : ¬previous < config.streamEpoch := by
        intro hlt
        simp [hlt] at hnone
      have hge : ¬config.streamEpoch < previous := fun hlt => holder ⟨previous, rfl, hlt⟩
      exact congrArg some (by omega)

theorem afterCapabilities {before : MediaPath} {config : StreamConfig} {previous : MediaState}
    (known : Known loose before) (hallowed : before.allowed = true)
    (haccepts : before.Accepts config)
    (hsame : previous.configRecovery config = none → before.streamEpoch = some config.streamEpoch)
    (target : SessionId) {o : OwnerState} (hcommit : o.mediaPath = before.commit config) :
    Changes loose accepting before (exec (do
      let s ← session
      when (s.videoAllowed ∧ s.lifecycle.runtime.stream = .negotiating)
        (modifySession fun s => s.beginStreaming target)
      let s ← session
      match previous.configRecovery config with
      | some reason => do
          when s.videoAllowed (enterDecoderRecovery reason (reason = .epochChanged))
          releasePendingStreamConfigIdr config.streamEpoch
      | none => releasePendingStreamConfigIdr config.streamEpoch) o).2.mediaPath := by
  have hrelease : Keeps (WhileConfigured (Simulated loose accepting))
      (releasePendingStreamConfigIdr config.streamEpoch) := inferInstance
  unfold session modifySession
  rw [exec_read_bind, exec_when_update_bind, exec_read_bind]
  generalize hbegun : (if o.session.videoAllowed = true ∧
    o.session.lifecycle.runtime.stream = .negotiating then
      { o with session := o.session.beginStreaming target } else o : OwnerState) = begun
  have hsameBegun : begun.mediaPath = o.mediaPath := by
    subst hbegun
    split <;> rfl
  rw [← hsameBegun] at hcommit
  have hvideo : begun.session.videoAllowed = true :=
    (congrArg MediaPath.allowed hcommit).trans hallowed
  cases hrecovery : previous.configRecovery config with
  | none =>
      have hchange : Changes loose accepting before begun.mediaPath := by
        rw [hcommit]
        exact Relation.ReflTransGen.single
          (Change.commit _ config haccepts (Or.inl (hsame hrecovery)))
      have hconfig : begun.mediaPath.config ≠ none := by
        rw [hcommit]
        exact Option.some_ne_none config
      exact hchange.trans ((hrelease.keeps begun hconfig).1 (known.changes hchange))
  | some reason =>
      dsimp only
      obtain ⟨o', queued, hfewer, heq, hrest⟩ :=
        @enterDecoderRecovery_spec (WhileConfigured (Simulated loose accepting)) _ reason
          (reason = .epochChanged) begun
      rw [hcommit] at heq hfewer
      have hchange : Changes loose accepting before o'.mediaPath := by
        rw [heq]
        exact Relation.ReflTransGen.single (Change.switch _ config queued haccepts hfewer)
      have hconfig : o'.mediaPath.config ≠ none := by
        rw [heq]
        exact Option.some_ne_none config
      have hall : WhileConfigured (Simulated loose accepting) o' (exec (do
          when begun.session.videoAllowed (enterDecoderRecovery reason (reason = .epochChanged))
          releasePendingStreamConfigIdr config.streamEpoch) begun).2 := by
        apply keeps_from
        · rw [exec_when_true hvideo]
          exact hrest
        · intro _
          exact hrelease
      exact hchange.trans ((hall hconfig).1 (known.changes hchange))

theorem commitStreamConfig_spec {o : OwnerState} (target : SessionId) (config : StreamConfig)
    (budget : Nat) (known : Known loose o.mediaPath) (hallowed : o.mediaPath.allowed = true)
    (hcontrol : o.mediaPath.control ≠ none) :
    Commits loose accepting o (commitStreamConfig target config budget) := by
  by_cases holder : ∃ epoch ∈ o.session.media.streamEpoch, config.streamEpoch < epoch
  · left
    unfold commitStreamConfig
    rw [exec_read_bind, exec_read_bind, if_pos holder]
    exact Relation.ReflTransGen.refl
  by_cases hexhausted : o.session.configRevision = u64Max
  · left
    unfold commitStreamConfig
    rw [exec_read_bind, exec_read_bind, if_neg holder, if_pos hexhausted]
    exact Relation.ReflTransGen.refl
  have haccepts : o.mediaPath.Accepts config := by
    refine ⟨hcontrol, ?_⟩
    intro epoch hepoch
    by_contra hlt
    exact holder ⟨epoch, hepoch, by omega⟩
  obtain ⟨negotiating, hnegotiating, hexec⟩ : ∃ negotiating : OwnerState,
      negotiating.mediaPath = o.mediaPath.commit config ∧
      exec (commitStreamConfig target config budget) o = exec (do
        sendCapabilitiesOnce target
        let s ← session
        when (s.videoAllowed ∧ s.lifecycle.runtime.stream = .negotiating)
          (modifySession fun s => s.beginStreaming target)
        let s ← session
        match o.session.media.configRecovery config with
        | some reason => do
            when s.videoAllowed (enterDecoderRecovery reason (reason = .epochChanged))
            releasePendingStreamConfigIdr config.streamEpoch
        | none => releasePendingStreamConfigIdr config.streamEpoch) negotiating := by
    refine ⟨if (committed o config budget).session.videoAllowed = true ∧
      !(committed o config budget).session.streaming then
        { committed o config budget with
          session := (committed o config budget).session.setStream .negotiating }
      else committed o config budget, ?_, ?_⟩
    · rw [← mediaPath_committed o config budget]
      split <;> rfl
    · unfold commitStreamConfig
      rw [exec_read_bind, exec_read_bind, if_neg holder, if_neg hexhausted]
      exact exec_when_update_bind _ _ _ (committed o config budget)
  have hsend : Keeps OnlyDecodes (sendCapabilitiesOnce target) := inferInstance
  unfold Commits
  rw [hexec, exec_bind]
  have hdecodes := hsend.keeps negotiating
  cases hsent : exec (sendCapabilitiesOnce target) negotiating with
  | mk result sent =>
      rw [hsent] at hdecodes
      obtain ⟨labels, upcoming, hfewer, hlabels⟩ := hdecodes
      rw [hnegotiating] at hlabels hfewer
      rw [expect_commit, decodeAll_commit] at hlabels
      have hbefore := @MediaPath.changes_worlds loose accepting o.mediaPath upcoming hfewer labels
      have hlater := @accepts_decodeAll (o.mediaPath.expect upcoming) config haccepts labels
      cases result with
      | error error =>
          refine Or.inr ⟨⟨error, rfl⟩, (o.mediaPath.expect upcoming).decodeAll labels, config,
            hbefore, ?_, hlater, hlabels⟩
          exact MediaPath.decodeAll_keeps (f := MediaPath.connection) (fun _ _ => rfl) _ _
      | ok _ =>
          left
          refine hbefore.trans (afterCapabilities (known.changes hbefore) ?_ hlater ?_ target
            hlabels)
          · rw [MediaPath.decodeAll_keeps (f := MediaPath.allowed) fun _ _ => rfl]
            exact hallowed
          · intro hnone
            rw [MediaPath.decodeAll_keeps (f := MediaPath.streamEpoch) fun _ _ => rfl]
            exact configRecovery_none holder hnone

theorem handleStreamConfig_spec {o : OwnerState} (P : Platform) (target : SessionId)
    (config : StreamConfig) (known : Known loose o.mediaPath)
    (hallowed : o.mediaPath.allowed = true) (hcontrol : o.mediaPath.control ≠ none)
    (hconnection : o.mediaPath.connection = some target.value ∨ o.mediaPath.readiness ≠ .pending) :
    Commits loose accepting o (handleStreamConfig P target config) := by
  unfold handleStreamConfig
  cases hformat : P.validatedVideoFormat config with
  | error message => exact Or.inl Relation.ReflTransGen.refl
  | ok format =>
      cases hreadiness : o.session.decoderReadiness with
      | pending =>
          left
          unfold session
          dsimp only
          rw [exec_read_bind, hreadiness]
          dsimp only
          split
          · exact Relation.ReflTransGen.refl
          · exact Relation.ReflTransGen.single
              (Change.hold _ target (hconnection.resolve_right fun hready => hready hreadiness))
      | unavailable error =>
          left
          unfold session
          dsimp only
          rw [exec_read_bind, hreadiness]
          exact Relation.ReflTransGen.refl
      | ready capabilities =>
          cases hbudget : o.session.admittedBudget capabilities format config with
          | none =>
              left
              unfold session
              dsimp only
              rw [exec_read_bind, hreadiness]
              dsimp only
              rw [hbudget]
              exact Relation.ReflTransGen.refl
          | some budget =>
              refine (commitStreamConfig_spec target config budget known hallowed hcontrol).after
                Relation.ReflTransGen.refl rfl ?_
              unfold session
              dsimp only
              rw [exec_read_bind, hreadiness]
              dsimp only
              rw [hbudget]

/-! ## Control messages -/

theorem handlePayload_spec {o : OwnerState} (P : Platform) (target : SessionId)
    (phase : ReceiverControlPhase) (payload : ControlPayload) (known : Known loose o.mediaPath)
    (hcontrol : o.mediaPath.control ≠ none)
    (hconnection : o.mediaPath.connection = some target.value)
    (hallowed : phase.isAuthenticated → o.mediaPath.allowed = true) :
    Commits loose accepting o (handlePayload P target phase payload) := by
  have hquiet : ∀ {p : Owner Unit}, Keeps (Simulated loose accepting) p →
      Commits loose accepting o p := fun hp => Commits.of_keeps known hp
  have hconfig : phase.isAuthenticated → ∀ config, Commits loose accepting o
      (handleStreamConfig P target config) := fun hphase config =>
    handleStreamConfig_spec P target config known (hallowed hphase) hcontrol (Or.inl hconnection)
  unfold handlePayload
  cases phase with
  | pairing => cases payload <;> exact hquiet inferInstance
  | awaitingClientHello => cases payload <;> exact hquiet inferInstance
  | authenticatedIdle =>
      cases payload with
      | streamConfig config => exact hconfig rfl config
      | _ => exact hquiet inferInstance
  | streaming =>
      cases payload with
      | streamConfig config => exact hconfig rfl config
      | _ => exact hquiet inferInstance

theorem establishGeneration_cases {control control' : ControlChannel}
    {envelope : ControlEnvelope} (h : establishGeneration control envelope = .ok control') :
    control' = control ∨ (control.controlGeneration = none ∧ control' =
      { control with controlGeneration := some envelope.connectionGeneration }) := by
  unfold establishGeneration at h
  split at h
  · exact Or.inl (Except.ok.inj h).symm
  next hnone hpayload => exact Or.inr ⟨hnone, (Except.ok.inj h).symm⟩
  · cases h

theorem checkEnvelope_ok {control : ControlChannel} {envelope : ControlEnvelope}
    (h : checkEnvelope control envelope = .ok ()) :
    control.controlGeneration = some envelope.connectionGeneration ∧
      control.lastReceivedControlMessageId < envelope.messageId := by
  unfold checkEnvelope at h
  split at h
  · cases h
  next hgeneration =>
    split at h
    · cases h
    next hid => exact ⟨not_not.mp hgeneration, Nat.lt_of_not_le hid⟩

theorem dispatchEnvelope_spec {o : OwnerState} (P : Platform) (target : SessionId)
    (envelope : ControlEnvelope) (known : Known loose o.mediaPath)
    (hconnection : o.mediaPath.connection = some target.value)
    (hpinned : o.mediaPath.control = some envelope.connectionGeneration)
    (hnewer : o.mediaPath.received < envelope.messageId) :
    Commits loose accepting o (dispatchEnvelope P target envelope) := by
  unfold dispatchEnvelope session modifySession
  generalize hreceived : ({ o with
    session := o.session.noteReceived envelope.messageId } : OwnerState) = received
  have hmedia : received.mediaPath = o.mediaPath.receive envelope.messageId := by
    subst hreceived
    rfl
  have hreceive : Changes loose accepting o.mediaPath received.mediaPath := by
    rw [hmedia]
    apply Relation.ReflTransGen.single
    exact Change.receive _ _ (by rw [hpinned]; exact Option.some_ne_none _) hnewer
  have hrefused : ∀ message, Commits loose accepting received
      (fail (.protocol message) : Owner Unit) := fun _ =>
    Commits.of_keeps (known.changes hreceive) inferInstance
  have hsame : received.mediaPath.connection = o.mediaPath.connection := by
    rw [hmedia]
    rfl
  by_cases hphase : receiverPayloadAllowed received.session.controlPhase envelope.payload = false
  · apply (hrefused _).after hreceive hsame
    rw [exec_update_bind, exec_read_bind, hreceived, if_pos hphase]
  by_cases hvideo : received.session.controlPhase.isAuthenticated ∧
      received.session.videoAllowed = false
  · apply (hrefused _).after hreceive hsame
    rw [exec_update_bind, exec_read_bind, hreceived, if_neg hphase, if_pos hvideo]
  · generalize hnoted : ({ received with
      trace := received.trace ++ [.dispatched target envelope] } : OwnerState) = noted
    have hdispatch : noted.mediaPath = o.mediaPath.dispatch target envelope := by
      unfold MediaPath.dispatch
      rw [← hmedia]
      subst hnoted
      subst hreceived
      simp [OwnerState.mediaPath, List.filterMap_append, OwnerMark.isMedia,
        OwnerMark.dispatched?]
    have hchanges : Changes loose accepting o.mediaPath noted.mediaPath := by
      rw [hdispatch]
      exact Relation.ReflTransGen.single
        (Change.dispatch _ target envelope hconnection hpinned hnewer)
    have hhandled : Commits loose accepting noted
        (handlePayload P target received.session.controlPhase envelope.payload) := by
      apply handlePayload_spec P target _ _ (known.changes hchanges)
      · rw [hdispatch, show (o.mediaPath.dispatch target envelope).control = _ from hpinned]
        exact Option.some_ne_none _
      · rw [hdispatch]
        exact hconnection
      · intro hauthenticated
        rw [← hnoted]
        by_contra hnot
        exact hvideo ⟨hauthenticated, Bool.eq_false_of_not_eq_true hnot⟩
    refine hhandled.after hchanges (by rw [hdispatch]; rfl) ?_
    rw [exec_update_bind, exec_read_bind, hreceived, if_neg hphase, if_neg hvideo, ← hnoted]
    rfl

theorem handleEnvelope_spec {o : OwnerState} (P : Platform) (target : SessionId)
    (envelope : ControlEnvelope) (known : Known loose o.mediaPath)
    (hconnection : o.mediaPath.connection = some target.value) :
    Commits loose accepting o (handleEnvelope P target envelope) := by
  unfold handleEnvelope session modifySession
  cases hestablish : establishGeneration o.session.control envelope with
  | error error =>
      left
      rw [exec_read_bind, hestablish]
      exact Relation.ReflTransGen.refl
  | ok control =>
      generalize hset : ({ o with session := o.session.setControl control } : OwnerState) =
        established
      have hmedia : established.mediaPath =
          { o.mediaPath with
            control := control.controlGeneration
            received := control.lastReceivedControlMessageId } := by
        subst hset
        rfl
      have hchanges : Changes loose accepting o.mediaPath established.mediaPath := by
        rw [hmedia]
        cases establishGeneration_cases hestablish with
        | inl hsame =>
            rw [hsame]
            exact Relation.ReflTransGen.refl
        | inr hfirst =>
            obtain ⟨hnone, hcontrol⟩ := hfirst
            rw [hcontrol]
            refine Relation.ReflTransGen.single
              (Change.establish _ envelope.connectionGeneration ?_ hnone)
            rw [hconnection]
            exact Option.some_ne_none _
      have hknown := known.changes hchanges
      have hsame : established.mediaPath.connection = o.mediaPath.connection := by rw [hmedia]
      cases hcheck : checkEnvelope control envelope with
      | error error =>
          have hrefused : Commits loose accepting established (fail error : Owner Unit) :=
            Commits.of_keeps hknown inferInstance
          apply hrefused.after hchanges hsame
          rw [exec_read_bind, hestablish]
          dsimp only
          rw [exec_update_bind, hset, hcheck]
      | ok _ =>
          obtain ⟨hpinned, hnewer⟩ := checkEnvelope_ok hcheck
          have hhandled : Commits loose accepting established
              (dispatchEnvelope P target envelope) := by
            apply dispatchEnvelope_spec P target envelope hknown (hsame.trans hconnection)
            · rw [hmedia]
              exact hpinned
            · rw [hmedia]
              exact hnewer
          apply hhandled.after hchanges hsame
          rw [exec_read_bind, hestablish]
          dsimp only
          rw [exec_update_bind, hset, hcheck]

theorem handleControl_spec {o : OwnerState} (P : Platform) (target : SessionId)
    (message : ControlFrame) (known : Known loose o.mediaPath)
    (hconnection : o.mediaPath.connection = some target.value) :
    Commits loose accepting o (handleControl P target message) := by
  have hturn : OnlyDecodes o o.turn := quiet_turn o
  have hchanges : Changes loose accepting o.mediaPath o.turn.mediaPath :=
    hturn.simulated known
  have hsame : o.turn.mediaPath.connection = o.mediaPath.connection :=
    @OnlyDecodes.keeps _ _ hturn _ MediaPath.connection (fun _ _ => rfl) fun _ _ => rfl
  have hknown := known.changes hchanges
  by_cases hactive : o.turn.world.worker.activeSession ≠ some target
  · have hrefused : Commits loose accepting o.turn
        (fail (.protocol "control event does not belong to the active transport session") :
          Owner Unit) :=
      Commits.of_keeps hknown inferInstance
    apply hrefused.after hchanges hsame
    change exec (if o.turn.world.worker.activeSession ≠ some target then _ else _) o.turn = _
    rw [if_pos hactive]
  · cases hdecode : decodeControlEnvelope message with
    | error error =>
        have hinvalid : Commits loose accepting o.turn
            (fail (.protocol "invalid control envelope") : Owner Unit) :=
          Commits.of_keeps hknown inferInstance
        apply hinvalid.after hchanges hsame
        change exec (if o.turn.world.worker.activeSession ≠ some target then _ else _) o.turn = _
        rw [if_neg hactive, hdecode]
    | ok envelope =>
        have hnote : Keeps (Simulated loose accepting)
            (note (.handled target.value envelope.payload)) := quiet_note rfl rfl
        have hhandled : Commits loose accepting o.turn (do
            handleEnvelope P target envelope
            note (.handled target.value envelope.payload)) :=
          (handleEnvelope_spec P target envelope hknown (hsame.trans hconnection)).bind hknown
            fun _ => hnote
        apply hhandled.after hchanges hsame
        change exec (if o.turn.world.worker.activeSession ≠ some target then _ else _) o.turn = _
        rw [if_neg hactive, hdecode]

theorem acceptControl_simulated {o : OwnerState} (P : Platform) (target : SessionId)
    (message : ControlFrame) (known : Known loose o.mediaPath)
    (hconnection : o.mediaPath.connection = some target.value) :
    Changes loose accepting o.mediaPath (exec (acceptControl P target message) o).2.mediaPath := by
  unfold acceptControl
  exact simulated_rejecting known (handleControl_spec P target message known hconnection)
    (Or.inl hconnection)

instance (P : Platform) (target : SessionId) (message : ControlFrame) :
    Keeps (Simulated loose accepting) (receiveControl P target message) := by
  constructor
  intro o known
  unfold receiveControl
  rw [exec_bind, exec_applyReceiverEvent]
  by_cases hactive : o.session.lifecycle.activeGeneration = some target.value
  · have hreduce : reduce o.session.lifecycle (.controlReceived target.value) =
        (o.session.lifecycle, [.acceptControl]) := by
      unfold reduce
      exact if_pos hactive
    have hsame : (reduced o (.controlReceived target.value)).mediaPath = o.mediaPath := by
      rw [mediaPath_reduced, hreduce]
      rfl
    rw [hreduce]
    change Changes loose accepting o.mediaPath
      (exec (acceptControl P target message) (reduced o _)).2.mediaPath
    rw [← hsame] at known ⊢
    apply acceptControl_simulated P target message known
    rw [hsame]
    exact hactive
  · have hreduce : reduce o.session.lifecycle (.controlReceived target.value) =
        (o.session.lifecycle, []) := by
      unfold reduce
      exact if_neg hactive
    have hsame : (reduced o (.controlReceived target.value)).mediaPath = o.mediaPath := by
      rw [mediaPath_reduced, hreduce]
      rfl
    rw [hreduce]
    change Changes loose accepting o.mediaPath (reduced o _).mediaPath
    rw [hsame]
    exact Relation.ReflTransGen.refl

/-! ## The end of the decoder negotiation -/

theorem commitPendingConfiguration_simulated {o : OwnerState} (P : Platform) (target : SessionId)
    (known : Known loose o.mediaPath) (hallowed : o.mediaPath.allowed = true)
    (hcontrol : o.mediaPath.control ≠ none) (hready : o.mediaPath.readiness ≠ .pending) :
    Changes loose accepting o.mediaPath
      (exec (commitPendingConfiguration P target) o).2.mediaPath := by
  unfold commitPendingConfiguration session
  rw [exec_read_bind]
  cases hpending : o.session.pendingDecoderConfiguration with
  | none => exact Relation.ReflTransGen.refl
  | some pending =>
      unfold modifySession
      dsimp only
      rw [exec_update_bind]
      generalize htaken :
        ({ o with session := o.session.takeConfiguration } : OwnerState) = taken
      have hmedia : taken.mediaPath = { o.mediaPath with pending := none } := by
        subst htaken
        rfl
      have hchanges : Changes loose accepting o.mediaPath taken.mediaPath := by
        rw [hmedia]
        exact Relation.ReflTransGen.single (Change.release _)
      have hknown := known.changes hchanges
      split
      next hcurrent =>
        have hconnection : taken.mediaPath.connection = some target.value ∨ loose := by
          cases known.pending with
          | inl hloose => exact Or.inr hloose
          | inr hheld =>
              left
              rw [hmedia, ← hcurrent.1]
              apply hheld
              simp [OwnerState.mediaPath, hpending]
        refine hchanges.trans (simulated_rejecting hknown ?_ hconnection)
        apply handleStreamConfig_spec P target pending.config hknown
        · rw [hmedia]
          exact hallowed
        · rw [hmedia]
          exact hcontrol
        · right
          rw [hmedia]
          exact hready
      next => exact hchanges

instance (P : Platform) : Keeps (Simulated loose accepting) (finishDecoderNegotiation P) := by
  unfold finishDecoderNegotiation
  apply keeps_then inferInstance
  intro active
  cases active with
  | none => infer_instance
  | some target =>
      apply keeps_session_bind
      intro o known
      split
      next hallowed =>
        cases hreadiness : o.session.decoderReadiness with
        | pending => exact Relation.ReflTransGen.refl
        | unavailable error =>
            have habort : Keeps (Simulated loose accepting)
                (applyEvent (.abortConnection target.value .decoderUnavailable)) := inferInstance
            exact habort.keeps o known
        | ready capabilities =>
            dsimp only
            have hsend : Keeps OnlyDecodes (sendCapabilitiesOnce target) := inferInstance
            have hdecodes := hsend.keeps o
            rw [exec_bind]
            cases hsent : exec (sendCapabilitiesOnce target) o with
            | mk result sent =>
                rw [hsent] at hdecodes
                have hchanges : Changes loose accepting o.mediaPath sent.mediaPath :=
                  hdecodes.simulated known
                cases result with
                | error error => exact hchanges
                | ok _ =>
                    refine hchanges.trans
                      (commitPendingConfiguration_simulated P target (known.changes hchanges)
                        ?_ ?_ ?_)
                    · rw [@OnlyDecodes.keeps _ _ hdecodes _ MediaPath.allowed (fun _ _ => rfl)
                        fun _ _ => rfl]
                      exact hallowed.1
                    · rw [@OnlyDecodes.keeps _ _ hdecodes _ MediaPath.control (fun _ _ => rfl)
                        fun _ _ => rfl]
                      exact hallowed.2
                    · rw [@OnlyDecodes.keeps _ _ hdecodes _ MediaPath.readiness (fun _ _ => rfl)
                        fun _ _ => rfl]
                      rw [show o.mediaPath.readiness = .ready capabilities from hreadiness]
                      exact DecoderReadiness.noConfusion
      next => exact Relation.ReflTransGen.refl

end Owner

end PicooCamera.Receiver
