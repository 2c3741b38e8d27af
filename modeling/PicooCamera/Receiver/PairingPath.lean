import PicooCamera.Receiver.ConnectionPath

/-!
# What pairing depends on

The trust store, the Sender of the connection and its challenge. Most of what
the owner does leaves them alone, and the end of a connection drops the last two.
The instances here hold of every relation that admits as much.
-/

namespace PicooCamera.Receiver

open PicooCamera.Library PicooCamera.Protocol PicooCamera.Packet PicooCamera.Session
open PicooCamera.Jitter PicooCamera.Pairing PicooCamera.Transport Program

namespace PairingPath

open Owner

section Aside

variable {R : OwnerState → OwnerState → Prop} [Aside R]

theorem aside_session {f : ReceiverSession → ReceiverSession}
    (h : ∀ o : OwnerState, ({ o with session := f o.session } : OwnerState).connectionPath =
      o.connectionPath ∧ (f o.session).media = o.session.media) : Keeps R (modifySession f) := by
  apply keeps_update
  intro o
  refine Aside.same ⟨(h o).1, fun hvacant => ?_, ordinary_of_eq rfl⟩
  change (f o.session).media.Vacant
  rw [(h o).2]
  exact hvacant

theorem aside_media {f : MediaState → MediaState} (h : ∀ m : MediaState, m.Vacant → (f m).Vacant) :
    Keeps R (modifyMedia f) :=
  keeps_update fun o => Aside.same ⟨rfl, h o.session.media, ordinary_of_eq rfl⟩

theorem aside_note {mark : OwnerMark} (h : mark.isOrdinary = true) : Keeps R (note mark) := by
  apply keeps_update
  intro o
  refine Aside.same ⟨rfl, fun hvacant => hvacant, [mark], rfl, ?_⟩
  intro other hother
  rw [List.mem_singleton.mp hother]
  exact h

instance (event : ReceiverEvent) (target : SessionId) : Keeps R (note (.closed event target)) :=
  aside_note rfl

instance (target : SessionId) (envelope : ControlEnvelope) :
    Keeps R (note (.dispatched target envelope)) := aside_note rfl

instance (generation : Nat) (payload : ControlPayload) :
    Keeps R (note (.handled generation payload)) := aside_note rfl

instance (timeline : AccessUnitTimeline) : Keeps R (note (.submitted timeline)) := aside_note rfl

instance (revision : Nat) (config : StreamConfig) : Keeps R (note (.committed revision config)) :=
  aside_note rfl

instance (token : DecodeToken) (config : Option StreamConfig) (revision : Nat)
    (phase : DecoderRecoveryPhase) (completed : AccessUnitTimeline) :
    Keeps R (note (.published token config revision phase completed)) := aside_note rfl

instance (senderId : String) (transcriptHash : Bytes) :
    Keeps R (note (.approved senderId transcriptHash)) := aside_note rfl

instance (senderId : String) : Keeps R (note (.trusted senderId)) := aside_note rfl

instance (senderId : String) : Keeps R (note (.permitted senderId)) := aside_note rfl

theorem aside_world {o o' : OwnerState} (hsession : o'.session = o.session)
    (htrace : o'.trace = o.trace) : R o o' := by
  refine Aside.same ⟨?_, fun hvacant => ?_, ordinary_of_eq htrace⟩
  · unfold OwnerState.connectionPath OwnerState.pairingPath
    rw [hsession]
  · rw [hsession]
    exact hvacant

/-! ## The world -/

instance {α : Type} (f : World → α) : Keeps R (look f) := by
  have hturn : Keeps R (update OwnerState.turn : Owner Unit) :=
    keeps_update fun o => aside_world o.session_turn o.trace_turn
  unfold look
  infer_instance

instance (f : World → World) : Keeps R (modifyWorld f) := keeps_update fun _ => aside_world rfl rfl

instance : Keeps R session := by
  unfold session
  infer_instance

instance : Keeps R instantNow := by
  unfold instantNow
  infer_instance

instance : Keeps R activeSession := by
  unfold activeSession
  infer_instance

instance {α : Type} (f : ListenerWorker → Except TransportError α × ListenerWorker) :
    Keeps R (transport f) := by
  have hworker : Keeps R (update fun o : OwnerState =>
      { o with world.worker := (f o.world.worker).2 } : Owner Unit) :=
    keeps_update fun _ => aside_world rfl rfl
  unfold transport
  apply keeps_then inferInstance
  intro answer
  apply keeps_then hworker
  intro _
  cases answer <;> infer_instance

instance (target : SessionId) (message : ControlFrame) : Keeps R (sendControl target message) := by
  unfold sendControl
  infer_instance

instance (target : SessionId) (payload : ControlPayload) :
    Keeps R (sendControlPayload target payload) := by
  have hcount : Keeps R (modifySession ReceiverSession.countControlMessage) :=
    aside_session fun _ => ⟨rfl, rfl⟩
  unfold sendControlPayload
  apply keeps_then inferInstance
  intro s
  split <;> infer_instance

instance (event : ReceiverEvent) (reason : CloseReason) : Keeps R (closeActive event reason) := by
  unfold closeActive
  apply keeps_then inferInstance
  intro active
  split <;> infer_instance

instance : Keeps R mediaConnectionGeneration := by
  unfold mediaConnectionGeneration
  apply keeps_then inferInstance
  intro s
  split <;> infer_instance

/-! ## Media -/

instance (jitter : MediaState → JitterBuffer) :
    Keeps R (modifyMedia fun m => m.setJitter (jitter m)) :=
  aside_media fun _ h => h.of_reassembly rfl (.inl rfl)

instance (recovery : MediaState → DecoderRecovery) :
    Keeps R (modifyMedia fun m => m.setRecovery (recovery m)) :=
  aside_media fun _ h => h.of_reassembly rfl (.inl rfl)

instance (now : Instant) : Keeps R (modifyMedia fun m => m.noteRequest now) :=
  aside_media fun _ h => h.of_reassembly rfl (.inl rfl)

instance (reason : RecoveryReason) : Keeps R (modifyMedia fun m => m.enterRecovery reason) :=
  aside_media fun _ h => h.enterRecovery reason

instance (reason : RecoveryReason) : Keeps R (modifyMedia fun m => m.forceRecovery reason) :=
  aside_media fun _ h => h.forceRecovery reason

instance : Keeps R
    (modifyMedia fun m => m.setReassembly m.reassembly.takeReferenceChainLoss.2) :=
  aside_media fun _ h => h.takeLoss

instance : Keeps R resetDecoder := by
  unfold resetDecoder
  infer_instance

instance (stream : ReceiverSession → StreamState) :
    Keeps R (modifySession fun s => s.setStream (stream s)) := aside_session fun _ => ⟨rfl, rfl⟩

instance : Keeps R (modifySession ReceiverSession.awaitRefresh) := aside_session fun _ => ⟨rfl, rfl⟩

instance : Keeps R (modifySession ReceiverSession.resumeStreaming) := aside_session fun _ => ⟨rfl, rfl⟩

instance : Keeps R maybeRequestRecoveryKeyframe := by
  unfold maybeRequestRecoveryKeyframe
  apply keeps_then inferInstance
  intro now
  apply keeps_then inferInstance
  intro s
  split
  · apply keeps_then inferInstance
    intro active
    split <;> infer_instance
  · infer_instance

instance (reason : RecoveryReason) (resetsDecoder : Bool) :
    Keeps R (enterDecoderRecovery reason resetsDecoder) := by
  unfold enterDecoderRecovery
  infer_instance

instance (reason : RecoveryReason) (deferred : Bool) :
    Keeps R (takeReferenceLoss reason deferred) := by
  unfold takeReferenceLoss
  infer_instance

instance (reason : RecoveryReason) : Keeps R (forceDecoderRecoveryRequest reason) := by
  unfold forceDecoderRecoveryRequest
  apply keeps_then inferInstance
  intro s
  apply keeps_then inferInstance
  intro _
  apply keeps_then inferInstance
  intro _
  apply keeps_then inferInstance
  intro active
  split <;> infer_instance

instance : Keeps R expireReassemblyDeadline := by
  have hexpire : ∀ now maxAge, Keeps R (modifyMedia fun m =>
      m.setReassembly (m.reassembly.expireIncompleteOlderThan now maxAge)) :=
    fun now maxAge => aside_media fun _ h => h.expire now maxAge
  unfold expireReassemblyDeadline
  infer_instance

instance (unit : AssembledAccessUnit) : Keeps R (queueAssembledAccessUnit unit) := by
  unfold queueAssembledAccessUnit
  infer_instance

instance (streamEpoch : Nat) : Keeps R (releasePendingStreamConfigIdr streamEpoch) := by
  have htake : Keeps R (modifyMedia MediaState.takeFutureIdr) :=
    aside_media fun _ h => h.of_reassembly rfl (.inr rfl)
  unfold releasePendingStreamConfigIdr
  apply keeps_then inferInstance
  intro s
  split
  · infer_instance
  · split <;> infer_instance

instance (packets : List VideoPacket) : Keeps R (discardStaleVideoBatch packets) := by
  have hdiscard : Keeps R (modifyMedia fun m =>
      m.setReassembly (MediaState.discardStaleUnits [] packets m.reassembly)) :=
    aside_media fun _ h => h.discardStaleUnits packets
  unfold discardStaleVideoBatch
  infer_instance

instance (job : DecodeJob) : Keeps R (submitToDecoder job) := by
  have hqueue : Keeps R (update fun o : OwnerState =>
      { o with world.decoder.queue := (o.world.decoder.queue.submit job).2 } : Owner Unit) :=
    keeps_update fun _ => aside_world rfl rfl
  unfold submitToDecoder
  infer_instance

instance (unit : EncodedAccessUnit) : Keeps R (publishTimelineAccessUnit unit) := by
  unfold publishTimelineAccessUnit
  apply keeps_then inferInstance
  intro s
  split
  · infer_instance
  · split
    · infer_instance
    · apply keeps_then inferInstance
      intro outcome
      split <;> infer_instance

instance (nowUs maxQueueAgeUs : Nat) : Keeps R (mediaScheduleDecision nowUs maxQueueAgeUs) := by
  unfold mediaScheduleDecision
  infer_instance

instance (nowUs : Nat) : Keeps R (popReady nowUs) := by
  unfold popReady
  infer_instance

instance (nowUs maxQueueAgeUs fuel : Nat) : Keeps R (drainJitterLoop nowUs maxQueueAgeUs fuel) := by
  induction fuel with
  | zero =>
      unfold drainJitterLoop
      infer_instance
  | succ fuel ih =>
      unfold drainJitterLoop
      apply keeps_then inferInstance
      intro decision
      cases decision with
      | discardExpired => infer_instance
      | decodeReadyFrame =>
          apply keeps_then inferInstance
          intro popped
          cases popped <;> infer_instance
      | discardReadyFrame =>
          apply keeps_then inferInstance
          intro popped
          cases popped <;> infer_instance
      | discardRecoveryBlockedFrame =>
          apply keeps_then inferInstance
          intro popped
          cases popped <;> infer_instance
      | _ => infer_instance

instance : Keeps R drainJitter := by
  unfold drainJitter
  infer_instance

instance (timeline : AccessUnitTimeline) : Keeps R (decoderTimelineIsCurrent timeline) := by
  unfold decoderTimelineIsCurrent
  infer_instance

instance (timeline : AccessUnitTimeline) : Keeps R (markDecoderRefreshAccepted timeline) := by
  unfold markDecoderRefreshAccepted
  apply keeps_then inferInstance
  intro s
  apply keeps_then inferInstance
  intro _
  split <;> infer_instance

instance (frame : Option DecodeToken) : Keeps R (modifySession fun s => s.pushFrame frame) :=
  aside_session fun _ => ⟨rfl, rfl⟩

instance (completed : AccessUnitTimeline) (token : DecodeToken) :
    Keeps R (publishOutput completed token) := by
  unfold publishOutput publishDecodedFrame
  infer_instance

instance (completed : AccessUnitTimeline) (tokens : List DecodeToken) :
    Keeps R (publishOutputs completed tokens) := by
  induction tokens with
  | nil =>
      unfold publishOutputs
      infer_instance
  | cons token rest ih =>
      unfold publishOutputs
      infer_instance

instance (timeline : AccessUnitTimeline) (result : Except String DecodeOutcome) :
    Keeps R (handleDecoderResult timeline result) := by
  unfold handleDecoderResult
  cases result with
  | error error => infer_instance
  | ok outcome => infer_instance

instance (readiness : DecoderReadiness) :
    Keeps R (modifySession fun s => s.setReadiness readiness) := aside_session fun _ => ⟨rfl, rfl⟩

instance (event : DecoderEvent) : Keeps R (handleDecoderEvent event) := by
  cases event <;>
  · unfold handleDecoderEvent
    infer_instance

instance : Keeps R pollDecoderEvent := by
  have hpoll : Keeps R (update fun o : OwnerState =>
      { o with world.decoder := o.world.decoder.pollEvent.2 } : Owner Unit) :=
    keeps_update fun _ => aside_world rfl rfl
  unfold pollDecoderEvent
  apply keeps_then inferInstance
  intro event
  apply keeps_then hpoll
  intro _
  split <;> infer_instance

/-! ## Control messages -/

instance (target : SessionId) : Keeps R (sendCapabilities target) := by
  unfold sendCapabilities
  apply keeps_then inferInstance
  intro s
  split <;> infer_instance

instance (target : SessionId) : Keeps R (sendCapabilitiesOnce target) := by
  have hmark : Keeps R (modifySession ReceiverSession.markCapabilitiesSent) :=
    aside_session fun _ => ⟨rfl, rfl⟩
  unfold sendCapabilitiesOnce
  infer_instance

instance (target : SessionId) : Keeps R (modifySession fun s => s.beginStreaming target) :=
  aside_session fun _ => ⟨rfl, rfl⟩

instance (target : SessionId) (config : StreamConfig) (budget : Nat) :
    Keeps R (commitStreamConfig target config budget) := by
  have hcommit : Keeps R (modifySession fun s => s.commitConfig config budget) :=
    keeps_update fun _ => Aside.same
      ⟨rfl, fun hvacant => hvacant.commitConfig config budget, ordinary_of_eq rfl⟩
  unfold commitStreamConfig
  apply keeps_then inferInstance
  intro previous
  apply keeps_then inferInstance
  intro revision
  split
  · infer_instance
  · split
    · infer_instance
    · apply keeps_then inferInstance
      intro _
      apply keeps_then inferInstance
      intro _
      apply keeps_then inferInstance
      intro s
      apply keeps_then inferInstance
      intro _
      apply keeps_then inferInstance
      intro _
      apply keeps_then inferInstance
      intro s
      apply keeps_then inferInstance
      intro _
      apply keeps_then inferInstance
      intro s
      split <;> infer_instance

instance (P : Platform) (target : SessionId) (config : StreamConfig) :
    Keeps R (handleStreamConfig P target config) := by
  have hhold : Keeps R (modifySession fun s => s.holdConfiguration target config) :=
    aside_session fun _ => ⟨rfl, rfl⟩
  unfold handleStreamConfig
  split
  · infer_instance
  · apply keeps_then inferInstance
    intro s
    split
    · infer_instance
    · infer_instance
    · split <;> infer_instance

instance (target : SessionId) : Keeps R (handleStartStream target) := by
  unfold handleStartStream
  apply keeps_then inferInstance
  intro s
  split <;> infer_instance

instance : Keeps R requestKeyframe := by
  unfold requestKeyframe
  infer_instance

instance (command : CameraCommand) : Keeps R (sendCameraCommand command) := by
  unfold sendCameraCommand
  apply keeps_then inferInstance
  intro active
  split <;> infer_instance

instance : Keeps R sendReceiverStats := by
  unfold sendReceiverStats
  apply keeps_then inferInstance
  intro s
  split
  · apply keeps_then inferInstance
    intro active
    split <;> infer_instance
  · infer_instance

instance : Keeps R sendClockSync := by
  unfold sendClockSync
  apply keeps_then inferInstance
  intro s
  split
  · apply keeps_then inferInstance
    intro active
    split <;> infer_instance
  · infer_instance

instance : Keeps R takeTransportEvent := by
  have hpoll : Keeps R (update fun o : OwnerState =>
      { o with world.worker := o.world.worker.pollEvent.2 } : Owner Unit) :=
    keeps_update fun _ => aside_world rfl rfl
  unfold takeTransportEvent
  infer_instance

instance : Keeps R publishWaitingPlaceholder := by
  unfold publishWaitingPlaceholder
  infer_instance

instance : Keeps R announceClose := by
  unfold announceClose
  apply keeps_then inferInstance
  intro active
  split <;> infer_instance

end Aside

/-! ## Media of a connection -/

/-- `R`, as long as `generation` is the connection. -/
def OnConnection (generation : Nat) (R : OwnerState → OwnerState → Prop) (o o' : OwnerState) :
    Prop :=
  o.connectionPath.connection = some generation →
    R o o' ∧ o'.connectionPath.connection = some generation

section Ingests

variable {R : OwnerState → OwnerState → Prop} [Ingests R] {generation : Nat}

instance : Aside (OnConnection generation R) where
  refl o h := ⟨Frame.refl o, h⟩
  trans hou huv h := ⟨Frame.trans (hou h).1 (huv (hou h).2).1, (huv (hou h).2).2⟩
  same hsame h := ⟨Aside.same hsame, hsame.connection.trans h⟩

theorem carried_media (f : MediaState → MediaState) :
    Keeps (OnConnection generation R) (modifyMedia f) := by
  apply keeps_update
  intro o h
  refine ⟨Ingests.carry ?_ rfl (ordinary_of_eq rfl), h⟩
  rw [h]
  exact Option.some_ne_none generation

instance (result : IngestResult) (deferred : Bool) :
    Keeps (OnConnection generation R) (acceptAssembled result deferred) := by
  have hkept : ∀ unit, Keeps (OnConnection generation R)
      (modifyMedia fun m => m.keepFutureIdr unit) := fun _ => carried_media _
  unfold acceptAssembled
  split
  · split <;> infer_instance
  · infer_instance
  · infer_instance

theorem keeps_reassemblePacket (P : Platform) (packet : VideoPacket) (receivedAt : Instant)
    (deferred : Bool) (o : OwnerState) (hallowed : o.session.videoAllowed = true) :
    OnConnection generation R o
      (exec (reassemblePacket P generation packet receivedAt deferred) o).2 := by
  have hrest : Keeps (OnConnection generation R) (do
      let s ← session
      let result := s.media.reassembly.ingestAt P.codecs packet receivedAt
      modifyMedia fun m => m.setReassembly result.2
      acceptAssembled result.1 deferred
      takeReferenceLoss .referenceAccessUnitLost deferred) := by
    have hput : ∀ reassembly, Keeps (OnConnection generation R)
        (modifyMedia fun m => m.setReassembly reassembly) := fun _ => carried_media _
    infer_instance
  unfold reassemblePacket note
  rw [exec_update_bind]
  intro h
  obtain ⟨hkept, hstill⟩ := hrest.keeps { o with trace := o.trace ++ [.ingested generation] } h
  exact ⟨Frame.trans (Ingests.ingest generation h hallowed) hkept, hstill⟩

instance (P : Platform) (packet : VideoPacket) (receivedAt : Instant) :
    Keeps (OnConnection generation R) (ingestVideoPacket P generation packet receivedAt) := by
  have hadmitted : Keeps (OnConnection generation R) (do
      let s ← session
      if s.videoAllowed then
        match s.media.admitEpoch s.permitUnpairedVideo packet.streamEpoch with
        | none => pure ()
        | some (deferred, media) => do
            modifyMedia fun _ => media
            reassemblePacket P generation packet receivedAt deferred
      else pure ()) := by
    constructor
    intro o
    unfold session
    rw [exec_read_bind, exec_ite]
    split
    · rename_i hallowed
      cases o.session.media.admitEpoch o.session.permitUnpairedVideo packet.streamEpoch with
      | none => exact Frame.refl o
      | some admitted =>
          dsimp only
          have hcarried : Keeps (OnConnection generation R) (modifyMedia fun _ => admitted.2) :=
            carried_media _
          have hstart := hcarried.keeps o
          unfold modifyMedia modifySession at hstart ⊢
          rw [exec_update_bind]
          exact Frame.trans hstart (keeps_reassemblePacket P packet receivedAt admitted.1 _ hallowed)
    · exact Frame.refl o
  unfold ingestVideoPacket
  exact keeps_then inferInstance fun _ => hadmitted

instance (P : Platform) (receivedAt : Instant) (packets : List VideoPacket) :
    Keeps (OnConnection generation R) (ingestVideoPackets P generation receivedAt packets) := by
  induction packets with
  | nil =>
      unfold ingestVideoPackets
      infer_instance
  | cons packet rest ih =>
      unfold ingestVideoPackets
      infer_instance

instance (P : Platform) (target : SessionId) (receivedAt : Instant) (packets : List VideoPacket) :
    Keeps (OnConnection target.value R) (acceptVideo P target receivedAt packets) := by
  unfold acceptVideo
  infer_instance

end Ingests

/-! ## The end of a connection -/

section Endable

variable {R : OwnerState → OwnerState → Prop} [Endable R]

theorem aside_applyEffect (event : ReceiverEvent) {effect : ReceiverEffect}
    (h : effect.isQuiet) : Keeps R (applyEffect event effect) := by
  have hdeadline : ∀ deadline : ReceiverSession → Instant,
      Keeps R (modifySession fun s => s.setPlaceholderAfter (deadline s)) :=
    fun _ => aside_session fun _ => ⟨rfl, rfl⟩
  have hplaceholder : Keeps R (modifySession ReceiverSession.publishPlaceholder) :=
    aside_session fun _ => ⟨rfl, rfl⟩
  cases effect with
  | prepareConnection => cases h
  | resetSessionResources => cases h
  | _ =>
      unfold applyEffect
      infer_instance

theorem aside_applyEffects (event : ReceiverEvent) {effects : List ReceiverEffect}
    (h : ∀ effect ∈ effects, effect.isQuiet) : Keeps R (applyEffects event effects) := by
  induction effects with
  | nil =>
      unfold applyEffects
      infer_instance
  | cons effect rest ih =>
      unfold applyEffects
      apply keeps_then (aside_applyEffect event (h effect List.mem_cons_self))
      intro _
      exact ih fun e he => h e (List.mem_cons_of_mem _ he)

theorem connectionPath_reduced (o : OwnerState) (event : ReceiverEvent) :
    (reduced o event).connectionPath =
      { o.connectionPath with
        connection := (reduce o.session.lifecycle event).1.activeGeneration } := rfl

theorem connectionPath_tornDown (o : OwnerState) (h : o.connectionPath.connection = none) :
    (tornDown o).connectionPath = o.connectionPath.tearDown := by
  have hnone : o.session.lifecycle.activeGeneration = none := h
  unfold tornDown ConnectionPath.tearDown OwnerState.connectionPath OwnerState.pairingPath
  simp [ReceiverSession.resetSessionResources, hnone, PairingPath.tearDown]

theorem endable_applyReceiverEvent {event : ReceiverEvent} (h : event.connects = false) :
    Keeps R (applyReceiverEvent event) := by
  constructor
  intro o
  have hreduction := @reduction o.session.lifecycle event h
  generalize hreduced : reduce o.session.lifecycle event = outcome at hreduction
  cases hreduction with
  | stays state' effects same quiet =>
      have heffects : (reduce o.session.lifecycle event).2 = effects := congrArg Prod.snd hreduced
      have hsame : (reduced o event).connectionPath = o.connectionPath := by
        rw [connectionPath_reduced, hreduced]
        dsimp only
        rw [same]
        rfl
      have hquiet : Keeps R (do
          applyEffects event effects
          pure effects) := keeps_then (aside_applyEffects event quiet) fun _ => inferInstance
      rw [exec_applyReceiverEvent, heffects]
      exact Frame.trans (Aside.same ⟨hsame, fun hvacant => hvacant, ordinary_of_eq rfl⟩)
        (hquiet.keeps _)
  | ends state' effects ended quiet =>
      have heffects : (reduce o.session.lifecycle event).2 = .resetSessionResources :: effects :=
        congrArg Prod.snd hreduced
      have hnone : (reduced o event).connectionPath.connection = none := by
        rw [connectionPath_reduced, hreduced]
        exact ended
      have hrest : Keeps R (do
          applyEffects event effects
          pure (ReceiverEffect.resetSessionResources :: effects)) :=
        keeps_then (aside_applyEffects event quiet) fun _ => inferInstance
      have htorn : R o (tornDown (reduced o event)) := by
        refine Endable.tearDown ?_ (MediaState.vacant_reset o.session.media) rfl
        rw [connectionPath_tornDown _ hnone]
        rfl
      rw [exec_applyReceiverEvent, heffects]
      exact Frame.trans htorn (hrest.keeps (tornDown (reduced o event)))

theorem endable_applyEvent {event : ReceiverEvent} (h : event.connects = false) :
    Keeps R (applyEvent event) := by
  have hevent : Keeps R (applyReceiverEvent event) := endable_applyReceiverEvent h
  unfold applyEvent
  infer_instance

instance (generation : Nat) (reason : ReceiverCloseReason) :
    Keeps R (applyReceiverEvent (.abortConnection generation reason)) :=
  endable_applyReceiverEvent rfl

instance (generation : Nat) : Keeps R (applyReceiverEvent (.controlReceived generation)) :=
  endable_applyReceiverEvent rfl

instance (generation : Nat) (reason : ReceiverCloseReason) :
    Keeps R (applyEvent (.abortConnection generation reason)) := endable_applyEvent rfl

instance (generation : Nat) : Keeps R (applyEvent (.stopStream generation)) :=
  endable_applyEvent rfl

instance (generation : Nat) (retainFrame : Bool) :
    Keeps R (applyEvent (.transportDisconnected generation retainFrame)) := endable_applyEvent rfl

instance : Keeps R (applyEvent .userClose) := endable_applyEvent rfl

instance : Keeps R (applyEvent .listenerStarted) := endable_applyEvent rfl

instance : Keeps R (applyEvent .disconnectHoldElapsed) := endable_applyEvent rfl

instance : Keeps R maybeFinalizeDisconnectHold := by
  unfold maybeFinalizeDisconnectHold
  apply keeps_then inferInstance
  intro s
  split <;> infer_instance

instance (target : SessionId) : Keeps R (rejectControlSession target) := by
  unfold rejectControlSession
  infer_instance

instance : Keeps R expirePendingPairingIfNeeded := by
  unfold expirePendingPairingIfNeeded
  apply keeps_then inferInstance
  intro s
  split <;> infer_instance

instance : Keeps R rejectPairingLocally := by
  unfold rejectPairingLocally
  apply keeps_then inferInstance
  intro _
  apply keeps_then inferInstance
  intro s
  split <;> infer_instance

instance (target : SessionId) : Keeps R (handleStopStream target) := by
  unfold handleStopStream
  infer_instance

instance (P : Platform) (target : SessionId) : Keeps R (commitPendingConfiguration P target) := by
  have htake : Keeps R (modifySession ReceiverSession.takeConfiguration) :=
    aside_session fun _ => ⟨rfl, rfl⟩
  unfold commitPendingConfiguration
  apply keeps_then inferInstance
  intro s
  split
  · infer_instance
  · apply keeps_then inferInstance
    intro _
    split
    · apply keeps_then inferInstance
      intro outcome
      split <;> infer_instance
    · infer_instance

instance (P : Platform) : Keeps R (finishDecoderNegotiation P) := by
  unfold finishDecoderNegotiation
  apply keeps_then inferInstance
  intro active
  split
  · infer_instance
  · apply keeps_then inferInstance
    intro s
    split
    · split <;> infer_instance
    · infer_instance

instance (target : SessionId) : Keeps R (handleDisconnected target) := by
  unfold handleDisconnected
  infer_instance

theorem exec_received {event : ReceiverEvent} {effect : ReceiverEffect} (o : OwnerState)
    (generation : Nat) (hevent : ∀ state : ReceiverReducerState, reduce state event =
      if state.activeGeneration = some generation then (state, [effect]) else (state, []))
    (heffect : applyEffect event effect = pure ()) :
    exec (applyReceiverEvent event) o =
      (.ok (if o.connectionPath.connection = some generation then [effect] else []), o) := by
  have hreduce := hevent o.session.lifecycle
  by_cases h : o.connectionPath.connection = some generation
  · rw [if_pos (show o.session.lifecycle.activeGeneration = some generation from h)] at hreduce
    rw [exec_applyReceiverEvent, if_pos h]
    unfold reduced ReceiverSession.applyEvent
    rw [hreduce]
    dsimp only
    unfold applyEffects
    rw [heffect]
    rfl
  · rw [if_neg (show ¬o.session.lifecycle.activeGeneration = some generation from h)] at hreduce
    rw [exec_applyReceiverEvent, if_neg h]
    unfold reduced ReceiverSession.applyEvent
    rw [hreduce]
    rfl

theorem exec_controlReceived (o : OwnerState) (generation : Nat) :
    exec (applyReceiverEvent (.controlReceived generation)) o =
      (.ok (if o.connectionPath.connection = some generation then [.acceptControl] else []), o) :=
  exec_received o generation (fun _ => rfl) rfl

theorem exec_videoReceived (o : OwnerState) (generation : Nat) :
    exec (applyReceiverEvent (.videoReceived generation)) o =
      (.ok (if o.connectionPath.connection = some generation then [.acceptVideo] else []), o) :=
  exec_received o generation (fun _ => rfl) rfl

/-- Media is accepted of the adopted connection only. -/
instance (P : Platform) (target : SessionId) (receivedAt : Instant) (packets : List VideoPacket) :
    Keeps R (receiveVideo P target receivedAt packets) := by
  constructor
  intro o
  unfold receiveVideo
  rw [exec_bind_ok (exec_videoReceived o target.value)]
  by_cases h : o.connectionPath.connection = some target.value
  · rw [if_pos h, exec_when_true (List.mem_singleton_self _)]
    have haccept : OnConnection target.value R o
        (exec (acceptVideo P target receivedAt packets) o).2 := Keeps.keeps o
    exact (haccept h).1
  · rw [if_neg h, exec_when_false List.not_mem_nil]
    exact Frame.refl o

instance : Keeps R Owner.listen := by
  unfold Owner.listen
  infer_instance

instance : Keeps R disconnect := by
  unfold disconnect close
  infer_instance

end Endable

/-! ## The start of a connection -/

section Adoptable

variable {R : OwnerState → OwnerState → Prop} [Adoptable R]

instance (target : SessionId) : Keeps R (handleConnected target) := by
  have hadopt : Keeps R (applyEvent (.transportConnected target.value)) := by
    constructor
    intro o
    apply Adoptable.adopt target.value
    · rfl
    · exact fun hvacant => hvacant
    · rfl
  unfold handleConnected
  infer_instance

end Adoptable

end PairingPath

end PicooCamera.Receiver
