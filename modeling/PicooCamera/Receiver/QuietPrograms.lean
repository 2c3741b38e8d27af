import PicooCamera.Receiver.MediaPath

/-!
# Programs that leave the media path alone

Most of what the owner does is quiet: it looks at the world, sends control
messages and writes fields that the media path does not depend on. Recovery
does more. The instances here hold of every relation that admits as much.
-/

namespace PicooCamera.Receiver

open PicooCamera.Library PicooCamera.Protocol PicooCamera.Packet PicooCamera.Session
open PicooCamera.Jitter PicooCamera.Transport Program

def OwnerMark.isMedia : OwnerMark → Bool
  | .committed _ _ => true
  | .published _ _ _ _ _ => true
  | _ => false

def OwnerMark.dispatched? : OwnerMark → Option (SessionId × ControlEnvelope)
  | .dispatched session envelope => some (session, envelope)
  | _ => none

namespace OwnerState

def mediaPath (o : OwnerState) : MediaPath where
  unpaired := o.session.permitUnpairedVideo
  allowed := o.session.videoAllowed
  connection := o.session.lifecycle.activeGeneration
  control := o.session.control.controlGeneration
  received := o.session.control.lastReceivedControlMessageId
  config := o.session.media.currentStreamConfig
  revision := o.session.configRevision
  phase := o.session.media.decoderRecovery.phase
  queued := !o.session.media.jitter.frames.isEmpty
  pending := o.session.pendingDecoderConfiguration.map PendingConfiguration.session
  readiness := o.session.decoderReadiness
  decoder := o.world.decoder
  handed := o.world.handed
  marks := o.trace.filter OwnerMark.isMedia
  dispatched := o.trace.filterMap OwnerMark.dispatched?
  upcoming := o.world.worker.upcoming

def Idle (o : OwnerState) : Prop :=
  ∀ candidate, o.mediaPath.phase ≠ .refreshInFlight candidate

end OwnerState

/-- A relation that does not see quiet steps. -/
class Quiet (R : OwnerState → OwnerState → Prop) : Prop extends Frame R where
  same : ∀ {o o' : OwnerState}, o'.mediaPath = o.mediaPath → R o o'
  decode : ∀ {o o' : OwnerState} (label : DecoderStep), label.honest o.mediaPath.handed →
    o'.mediaPath = o.mediaPath.decode label → R o o'
  expect : ∀ {o o' : OwnerState} (upcoming : SessionId → Nat),
    (∀ session, upcoming session ≤ o.mediaPath.upcoming session) →
    o'.mediaPath = o.mediaPath.expect upcoming → R o o'

/-- A relation that admits a recovery. -/
class Recovers (R : OwnerState → OwnerState → Prop) : Prop extends Quiet R where
  recover : ∀ {o o' : OwnerState} (queued : Bool), (queued → o.mediaPath.queued) →
    o'.mediaPath = o.mediaPath.recover queued → R o o'
  resetDecoder : ∀ {o o' : OwnerState}, o.Idle → o'.mediaPath = o.mediaPath.resetDecoder → R o o'

namespace Owner

section Quiet

variable {R : OwnerState → OwnerState → Prop} [Quiet R]

theorem quiet_session {f : ReceiverSession → ReceiverSession}
    (h : ∀ o : OwnerState, ({ o with session := f o.session } : OwnerState).mediaPath =
      o.mediaPath) : Keeps R (modifySession f) :=
  keeps_update fun o => Quiet.same (h o)

theorem quiet_media {f : MediaState → MediaState}
    (h : ∀ o : OwnerState,
      ({ o with session := o.session.setMedia (f o.session.media) } : OwnerState).mediaPath =
        o.mediaPath) : Keeps R (modifyMedia f) :=
  quiet_session h

theorem quiet_note {mark : OwnerMark} (h : mark.isMedia = false)
    (hother : mark.dispatched? = none) : Keeps R (note mark) := by
  apply keeps_update
  intro o
  apply Quiet.same
  simp [OwnerState.mediaPath, List.filter_append, List.filterMap_append, h, hother]

theorem quiet_worker (o : OwnerState) {worker : ListenerWorker}
    (h : ∀ session, worker.upcoming session ≤ o.world.worker.upcoming session)
    (schedule : List (List WorldStep)) :
    R o { o with world.worker := worker, schedule := schedule } :=
  Quiet.expect worker.upcoming h rfl

/-! ## The world -/

theorem quiet_worldStep (o : OwnerState) (schedule : List (List WorldStep)) (step : WorldStep) :
    R o { o with world := o.world.step step, schedule := schedule } := by
  cases step with
  | decoder label =>
      by_cases honest : label.honest o.world.handed
      · apply Quiet.decode label honest
        simp [OwnerState.mediaPath, World.step, honest, MediaPath.decode]
      · apply Quiet.same
        simp [OwnerState.mediaPath, World.step, honest]
  | worker label => exact quiet_worker o (o.world.worker.upcoming_step label) schedule
  | _ => exact Quiet.same rfl

theorem quiet_turn (o : OwnerState) : R o o.turn := by
  have hrun : ∀ (steps : List WorldStep) (o : OwnerState) (schedule : List (List WorldStep)),
      R o { o with world := o.world.run steps, schedule := schedule } := by
    intro steps
    induction steps with
    | nil =>
        intro o schedule
        exact Quiet.same rfl
    | cons step steps ih =>
        intro o schedule
        exact Frame.trans (quiet_worldStep o schedule step) (ih _ schedule)
  unfold OwnerState.turn
  cases o.schedule with
  | nil => exact Frame.refl o
  | cons steps rest => exact hrun steps o rest

instance {α : Type} (f : World → α) : Keeps R (look f) := by
  have hturn : Keeps R (update OwnerState.turn : Owner Unit) := keeps_update quiet_turn
  unfold look
  infer_instance

instance : Keeps R session := by
  unfold session
  infer_instance

instance : Keeps R instantNow := by
  unfold instantNow
  infer_instance

instance : Keeps R activeSession := by
  unfold activeSession
  infer_instance

theorem keeps_transport {α : Type} {f : ListenerWorker → Except TransportError α × ListenerWorker}
    (hf : ∀ w session, (f w).2.upcoming session ≤ w.upcoming session) :
    Keeps R (transport f) := by
  have hworker : Keeps R (update fun o : OwnerState =>
      { o with world.worker := (f o.world.worker).2 } : Owner Unit) :=
    keeps_update fun o => quiet_worker o (hf o.world.worker) o.schedule
  unfold transport
  apply keeps_then inferInstance
  intro answer
  apply keeps_then hworker
  intro _
  cases answer <;> infer_instance

instance (command : Command) : Keeps R (transport fun w => w.command command) :=
  keeps_transport fun w session => (w.upcoming_command command session).le

/-! ## Control messages -/

instance : Keeps R (modifySession ReceiverSession.countControlMessage) :=
  quiet_session fun _ => rfl

instance (target : SessionId) (message : ControlFrame) : Keeps R (sendControl target message) := by
  unfold sendControl
  infer_instance

instance (target : SessionId) (payload : ControlPayload) :
    Keeps R (sendControlPayload target payload) := by
  unfold sendControlPayload
  apply keeps_then inferInstance
  intro s
  split <;> infer_instance

instance (event : ReceiverEvent) (target : SessionId) : Keeps R (note (.closed event target)) :=
  quiet_note rfl rfl

instance (event : ReceiverEvent) (reason : CloseReason) : Keeps R (closeActive event reason) := by
  unfold closeActive
  apply keeps_then inferInstance
  intro active
  split <;> infer_instance

instance : Keeps R mediaConnectionGeneration := by
  unfold mediaConnectionGeneration
  apply keeps_then inferInstance
  intro s
  split <;> infer_instance

instance (now : Instant) : Keeps R (modifyMedia fun m => m.noteRequest now) :=
  quiet_media fun _ => rfl

instance : Keeps R maybeRequestRecoveryKeyframe := by
  unfold maybeRequestRecoveryKeyframe
  apply keeps_then inferInstance
  intro now
  apply keeps_then inferInstance
  intro s
  split
  · apply keeps_then inferInstance
    intro active
    split <;> infer_instance
  · infer_instance

instance (s : ReceiverSession → StreamState) :
    Keeps R (modifySession fun session => session.setStream (s session)) :=
  quiet_session fun _ => rfl

instance : Keeps R (modifySession ReceiverSession.awaitRefresh) := quiet_session fun _ => rfl

instance (reassembly : MediaState → ReassemblyMap) :
    Keeps R (modifyMedia fun m => m.setReassembly (reassembly m)) :=
  quiet_media fun _ => rfl

end Quiet

/-! ## Recovery -/

section Recovery

variable {R : OwnerState → OwnerState → Prop}

/-- `R`, from and to states without a refresh in flight. -/
def WhileIdle (R : OwnerState → OwnerState → Prop) (o o' : OwnerState) : Prop :=
  o.Idle → R o o' ∧ o'.Idle

instance [Quiet R] : Quiet (WhileIdle R) where
  refl o idle := ⟨Frame.refl o, idle⟩
  trans hou huv idle :=
    ⟨Frame.trans (hou idle).1 (huv (hou idle).2).1, (huv (hou idle).2).2⟩
  same := by
    intro o o' heq idle
    refine ⟨Quiet.same heq, ?_⟩
    unfold OwnerState.Idle
    rw [heq]
    exact idle
  decode := by
    intro o o' label honest heq idle
    refine ⟨Quiet.decode label honest heq, ?_⟩
    unfold OwnerState.Idle
    rw [heq]
    exact idle
  expect := by
    intro o o' upcoming fewer heq idle
    refine ⟨Quiet.expect upcoming fewer heq, ?_⟩
    unfold OwnerState.Idle
    rw [heq]
    exact idle

instance [Recovers R] : Keeps (WhileIdle R) resetDecoder := by
  apply keeps_update
  intro o idle
  have hlook : WhileIdle R o o.turn := quiet_turn o
  obtain ⟨hturn, hidle⟩ := hlook idle
  have hreset : R o.turn { o with
      world := { o.turn.world with decoder.queue := o.turn.world.decoder.queue.reset }
      schedule := o.turn.schedule } := by
    apply Recovers.resetDecoder hidle
    unfold OwnerState.turn
    cases o.schedule <;> rfl
  refine ⟨Frame.trans hturn hreset, ?_⟩
  intro candidate
  exact idle candidate

theorem recovered {f : MediaState → MediaState} (o : OwnerState)
    (hphase : ∀ m, (f m).decoderRecovery.phase = .awaitingRefresh)
    (hconfig : ∀ m, (f m).currentStreamConfig = m.currentStreamConfig)
    (hqueued : ∀ m : MediaState, m.jitter.frames = [] → (f m).jitter.frames = []) :
    ∃ queued : Bool, (queued → o.mediaPath.queued) ∧
      ({ o with session := o.session.setMedia (f o.session.media) } : OwnerState).mediaPath =
        o.mediaPath.recover queued := by
  refine ⟨!(f o.session.media).jitter.frames.isEmpty, ?_, ?_⟩
  · intro hsome
    by_contra hnone
    have hempty : o.session.media.jitter.frames = [] := by
      simpa [OwnerState.mediaPath] using hnone
    rw [hqueued _ hempty] at hsome
    cases hsome
  · simp [OwnerState.mediaPath, ReceiverSession.setMedia, MediaPath.recover, hphase, hconfig,
      ReceiverSession.videoAllowed]

theorem idle_of_recover {o o' : OwnerState} {queued : Bool}
    (heq : o'.mediaPath = o.mediaPath.recover queued) : o'.Idle := by
  intro candidate hcandidate
  rw [heq] at hcandidate
  cases hcandidate

theorem keeps_recover [Recovers R] {α : Type} {f : MediaState → MediaState} {p : Unit → Owner α}
    (hphase : ∀ m, (f m).decoderRecovery.phase = .awaitingRefresh)
    (hconfig : ∀ m, (f m).currentStreamConfig = m.currentStreamConfig)
    (hqueued : ∀ m : MediaState, m.jitter.frames = [] → (f m).jitter.frames = [])
    (hp : ∀ a, Keeps (WhileIdle R) (p a)) : Keeps R (modifyMedia f >>= p) := by
  constructor
  intro o
  obtain ⟨queued, hfewer, heq⟩ := recovered o hphase hconfig hqueued
  change R o (exec (p ()) _).2
  exact Frame.trans (Recovers.recover queued hfewer heq) ((hp ()).keeps _ (idle_of_recover heq)).1

theorem enterRecovery_phase (m : MediaState) (reason : RecoveryReason) :
    (m.enterRecovery reason).decoderRecovery.phase = .awaitingRefresh := by
  unfold MediaState.enterRecovery
  split <;> rfl

theorem enterRecovery_config (m : MediaState) (reason : RecoveryReason) :
    (m.enterRecovery reason).currentStreamConfig = m.currentStreamConfig := by
  unfold MediaState.enterRecovery
  split <;> rfl

theorem enterRecovery_frames (m : MediaState) (reason : RecoveryReason)
    (h : m.jitter.frames = []) : (m.enterRecovery reason).jitter.frames = [] := by
  unfold MediaState.enterRecovery
  split
  · rfl
  · exact h

theorem forceRecovery_phase (m : MediaState) (reason : RecoveryReason) :
    (m.forceRecovery reason).decoderRecovery.phase = .awaitingRefresh := by
  unfold MediaState.forceRecovery
  split <;> rfl

theorem forceRecovery_config (m : MediaState) (reason : RecoveryReason) :
    (m.forceRecovery reason).currentStreamConfig = m.currentStreamConfig := by
  unfold MediaState.forceRecovery
  split <;> rfl

theorem forceRecovery_frames (m : MediaState) (reason : RecoveryReason)
    (h : m.jitter.frames = []) : (m.forceRecovery reason).jitter.frames = [] := by
  unfold MediaState.forceRecovery
  split
  · rfl
  · exact h

variable [Recovers R]

theorem enterDecoderRecovery_spec (reason : RecoveryReason) (resetsDecoder : Bool)
    (o : OwnerState) :
    ∃ (o' : OwnerState) (queued : Bool), (queued → o.mediaPath.queued) ∧
      o'.mediaPath = o.mediaPath.recover queued ∧
      R o' (exec (enterDecoderRecovery reason resetsDecoder) o).2 := by
  obtain ⟨queued, hfewer, heq⟩ := recovered o (fun m => enterRecovery_phase m reason)
    (fun m => enterRecovery_config m reason) (fun m => enterRecovery_frames m reason)
  have hrest : Keeps (WhileIdle R) (do
      when o.session.streaming (modifySession ReceiverSession.awaitRefresh)
      when (resetsDecoder ∧ (o.session.media.discardsChain reason ∨ reason = .decoderError))
        resetDecoder
      maybeRequestRecoveryKeyframe) := inferInstance
  exact ⟨_, queued, hfewer, heq, (hrest.keeps _ (idle_of_recover heq)).1⟩

instance (reason : RecoveryReason) (resetsDecoder : Bool) :
    Keeps R (enterDecoderRecovery reason resetsDecoder) := by
  constructor
  intro o
  obtain ⟨o', queued, hfewer, heq, hrest⟩ :=
    @enterDecoderRecovery_spec R _ reason resetsDecoder o
  exact Frame.trans (Recovers.recover queued hfewer heq) hrest

instance (reason : RecoveryReason) : Keeps R (forceDecoderRecoveryRequest reason) := by
  unfold forceDecoderRecoveryRequest
  apply keeps_then inferInstance
  intro s
  apply keeps_recover
  · exact fun m => forceRecovery_phase m reason
  · exact fun m => forceRecovery_config m reason
  · exact fun m => forceRecovery_frames m reason
  · intro _
    apply keeps_then inferInstance
    intro _
    apply keeps_then inferInstance
    intro active
    split <;> infer_instance

instance (reason : RecoveryReason) (deferred : Bool) :
    Keeps R (takeReferenceLoss reason deferred) := by
  unfold takeReferenceLoss
  infer_instance

instance : Keeps R expireReassemblyDeadline := by
  unfold expireReassemblyDeadline
  infer_instance

instance (packets : List VideoPacket) : Keeps R (discardStaleVideoBatch packets) := by
  unfold discardStaleVideoBatch
  infer_instance

instance : Keeps R requestKeyframe := by
  unfold requestKeyframe
  infer_instance

end Recovery

end Owner

end PicooCamera.Receiver
