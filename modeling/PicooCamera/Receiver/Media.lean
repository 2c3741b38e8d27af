import PicooCamera.Receiver.Lifecycle

/-!
# Media of the Receiver: ingress, playout and decoder results

The decisions are functions of the `MediaState`; the programs around them read
the clock, talk to the decoder worker and ask the Sender for keyframes.
-/

namespace PicooCamera.Receiver

open PicooCamera.Library PicooCamera.Protocol PicooCamera.Packet PicooCamera.Jitter
open PicooCamera.Session PicooCamera.Transport

namespace MediaState

/-! ## Recovery -/

def discardsChain (m : MediaState) (reason : RecoveryReason) : Bool :=
  (m.decoderRecovery.enter reason).1.requiresMediaCleanup || reason = .randomAccessResync

/-- Dependent media is discarded, the timing estimate of the epoch is kept. -/
def discardDependentMedia (m : MediaState) : MediaState :=
  { m with
    reassembly := m.reassembly.clearPending.takeReferenceChainLoss.2
    jitter := m.jitter.discardQueued }

def enterRecovery (m : MediaState) (reason : RecoveryReason) : MediaState :=
  let entered := { m with decoderRecovery := (m.decoderRecovery.enter reason).2 }
  if m.discardsChain reason then entered.discardDependentMedia else entered

/-- As `enterRecovery`, but a chain that is already awaiting its refresh is kept. -/
def forceRecovery (m : MediaState) (reason : RecoveryReason) : MediaState :=
  let entered := { m with decoderRecovery := (m.decoderRecovery.enter reason).2 }
  if (m.decoderRecovery.enter reason).1.requiresMediaCleanup then entered.discardDependentMedia
  else entered

/-! ## Ingress -/

/-- Wait for the StreamConfig of `epoch`, unless that of a newer epoch is awaited. -/
def awaitEpoch (m : MediaState) (epoch : Nat) : Option MediaState :=
  if ∃ waiting ∈ m.waitingForStreamConfigEpoch, epoch < waiting then none
  else if m.waitingForStreamConfigEpoch = some epoch then some m
  else
    some { m with
      pendingStreamConfigIdr := none
      waitingForStreamConfigEpoch := some epoch }

/-- `none` where the packet is ignored; else whether its access unit has to wait for the
StreamConfig of its epoch. -/
def admitEpoch (m : MediaState) (permitUnpairedVideo : Bool) (epoch : Nat) :
    Option (Bool × MediaState) :=
  match m.streamEpoch with
  | none =>
      if permitUnpairedVideo then some (false, m)
      else (m.awaitEpoch epoch).map fun m => (true, m)
  | some configured =>
      if epoch < configured then none
      else if configured < epoch then (m.awaitEpoch epoch).map fun m => (true, m)
      else some (false, m)

/-- Of the access units of a future epoch only a keyframe is kept, the latest one. -/
def keepFutureIdr (m : MediaState) (unit : AssembledAccessUnit) : MediaState :=
  if unit.keyframe ∧ m.waitingForStreamConfigEpoch = some unit.streamEpoch then
    { m with pendingStreamConfigIdr := some unit }
  else m

def takeFutureIdr (m : MediaState) : MediaState := { m with pendingStreamConfigIdr := none }

/-- A complete keyframe replaces an older chain that is still unresolved. -/
def cutsUnresolvedChain (m : MediaState) (unit : AssembledAccessUnit) : Prop :=
  unit.keyframe ∧ ∃ missing ∈ m.reassembly.oldestUnresolvedFrameId, missing < unit.frameId

instance (m : MediaState) (unit : AssembledAccessUnit) : Decidable (m.cutsUnresolvedChain unit) :=
  inferInstanceAs
    (Decidable (unit.keyframe ∧ ∃ missing ∈ m.reassembly.oldestUnresolvedFrameId,
      missing < unit.frameId))

def discardStaleUnits : List FrameKey → List VideoPacket → ReassemblyMap → ReassemblyMap
  | _, [], reassembly => reassembly
  | terminated, packet :: rest, reassembly =>
      if ReassemblyMap.keyOf packet ∈ terminated then discardStaleUnits terminated rest reassembly
      else
        discardStaleUnits (ReassemblyMap.keyOf packet :: terminated) rest
          (reassembly.discardStaleAccessUnit packet.streamEpoch packet.frameId packet.flags).2

/-- `stream_epoch` differs from that of the committed configuration. -/
def foreignStream (m : MediaState) (streamGeneration : Nat) : Bool :=
  match m.streamEpoch with
  | none => false
  | some epoch => epoch ≠ streamGeneration

def exceedsBudget (m : MediaState) (size : Nat) : Prop :=
  ∃ budget ∈ m.admittedAccessUnitBudget, budget < size

instance (m : MediaState) (size : Nat) : Decidable (m.exceedsBudget size) :=
  inferInstanceAs (Decidable (∃ budget ∈ m.admittedAccessUnitBudget, budget < size))

end MediaState

def DecoderReadiness.ofResult : Except String Capabilities → DecoderReadiness
  | .ok capabilities => .ready capabilities
  | .error error => .unavailable error

/-- The capabilities are told again when they have changed. -/
def ReceiverSession.setReadiness (s : ReceiverSession) (readiness : DecoderReadiness) :
    ReceiverSession :=
  { s with decoderReadiness := readiness, receiverCapabilitiesSent := false }

def jitterFrame (unit : AssembledAccessUnit) (completedAtUs : Nat) : Frame where
  streamGeneration := unit.streamEpoch
  frameId := unit.frameId
  ptsUs := unit.ptsUs
  encodedAtUs := unit.encodedAtUs
  receivedAtUs := completedAtUs
  data := unit.data
  keyframe := unit.keyframe
  discardable := unit.discardable

def encodedAccessUnit (frame : Frame) (connectionGeneration nowUs : Nat) :
    EncodedAccessUnit where
  timeline :=
    { connectionGeneration := connectionGeneration
      streamGeneration := frame.streamGeneration
      frameId := frame.frameId
      sourcePtsUs := frame.ptsUs
      encodedAtUs := frame.encodedAtUs
      receivedAtUs := frame.receivedAtUs
      decodeSubmittedAtUs := nowUs
      kind := FrameKind.ofFlags frame.keyframe frame.discardable }
  data := frame.data

namespace Owner

open Program

/-! ## Recovery -/

def maybeRequestRecoveryKeyframe : Owner Unit := do
  let now ← instantNow
  let s ← session
  if s.media.decoderRecovery.requestDue now then
    let active ← activeSession
    match active with
    | none => pure ()
    | some session =>
        sendControlPayload session .requestKeyframe
        modifyMedia fun m => m.noteRequest now
  else pure ()

def enterDecoderRecovery (reason : RecoveryReason) (resetsDecoder : Bool) : Owner Unit := do
  let s ← session
  modifyMedia fun m => m.enterRecovery reason
  when s.streaming
    (modifySession ReceiverSession.awaitRefresh)
  when (resetsDecoder ∧ (s.media.discardsChain reason ∨ reason = .decoderError)) resetDecoder
  maybeRequestRecoveryKeyframe

/-- Enter recovery when the reassembly has lost a reference. -/
def takeReferenceLoss (reason : RecoveryReason) (deferred : Bool) : Owner Unit := do
  let s ← session
  modifyMedia fun m => m.setReassembly m.reassembly.takeReferenceChainLoss.2
  when (s.media.reassembly.takeReferenceChainLoss.1 ∧ !deferred)
    (enterDecoderRecovery reason true)

/-- A request of the user does not wait for the request interval and keeps the decoder. -/
def forceDecoderRecoveryRequest (reason : RecoveryReason) : Owner Unit := do
  let s ← session
  modifyMedia fun m => m.forceRecovery reason
  when s.streaming
    (modifySession ReceiverSession.awaitRefresh)
  let active ← activeSession
  match active with
  | none => fail .notListening
  | some session => do
      sendControlPayload session .requestKeyframe
      let now ← instantNow
      modifyMedia fun m => m.noteRequest now

/-! ## Ingress -/

def expireReassemblyDeadline : Owner Unit := do
  let maxAge ← look World.mediaDeadline
  let now ← instantNow
  modifyMedia fun m => m.setReassembly (m.reassembly.expireIncompleteOlderThan now maxAge)
  takeReferenceLoss .referenceAccessUnitLost false

def queueAssembledAccessUnit (unit : AssembledAccessUnit) : Owner Unit := do
  let s ← session
  when (s.media.cutsUnresolvedChain unit) (enterDecoderRecovery .randomAccessResync true)
  let completedAt ← instantNow
  let s ← session
  let completedAtUs := completedAt - s.timingOrigin
  let pushed := s.media.jitter.pushAt (jitterFrame unit completedAtUs)
    (unit.firstFragmentAt - s.timingOrigin) completedAtUs
  modifyMedia fun m => m.setJitter pushed.2
  when (pushed.1 = .acceptedAfterReferenceDrop ∨ pushed.1 = .droppedLate true)
    (enterDecoderRecovery .referenceAccessUnitLate true)

def releasePendingStreamConfigIdr (streamEpoch : Nat) : Owner Unit := do
  let s ← session
  match s.media.pendingStreamConfigIdr with
  | none => pure ()
  | some unit =>
      if unit.streamEpoch = streamEpoch then do
        modifyMedia MediaState.takeFutureIdr
        queueAssembledAccessUnit unit
      else pure ()

def acceptAssembled (result : IngestResult) (deferred : Bool) : Owner Unit :=
  match result with
  | .ok (some unit) =>
      if deferred then modifyMedia fun m => m.keepFutureIdr unit
      else queueAssembledAccessUnit unit
  | .ok none => pure ()
  | .error _ => pure ()

/-- `ingest_video_packet` from the reassembly on, for a packet that is not ignored. -/
def reassemblePacket (P : Platform) (generation : Nat) (packet : VideoPacket)
    (receivedAt : Instant) (deferred : Bool) : Owner Unit := do
  note (.ingested generation)
  let s ← session
  let result := s.media.reassembly.ingestAt P.codecs packet receivedAt
  modifyMedia fun m => m.setReassembly result.2
  acceptAssembled result.1 deferred
  takeReferenceLoss .referenceAccessUnitLost deferred

/-- The generation is that of the batch; the source does not look at it here. -/
def ingestVideoPacket (P : Platform) (generation : Nat) (packet : VideoPacket)
    (receivedAt : Instant) : Owner Unit := do
  expireReassemblyDeadline
  let s ← session
  if s.videoAllowed then
    match s.media.admitEpoch s.permitUnpairedVideo packet.streamEpoch with
    | none => pure ()
    | some (deferred, media) => do
        modifyMedia fun _ => media
        reassemblePacket P generation packet receivedAt deferred
  else pure ()

def ingestVideoPackets (P : Platform) (generation : Nat) (receivedAt : Instant) :
    List VideoPacket → Owner Unit
  | [] => pure ()
  | packet :: rest => do
      ingestVideoPacket P generation packet receivedAt
      ingestVideoPackets P generation receivedAt rest

def discardStaleVideoBatch (packets : List VideoPacket) : Owner Unit := do
  modifyMedia fun m => m.setReassembly (MediaState.discardStaleUnits [] packets m.reassembly)
  takeReferenceLoss .referenceAccessUnitLate false

/-! ## Playout -/

def submitToDecoder (job : DecodeJob) : Owner DecodeSubmitOutcome := do
  let outcome ← look fun w => (w.decoder.queue.submit job).1
  update fun o => { o with world.decoder.queue := (o.world.decoder.queue.submit job).2 }
  pure outcome

def publishTimelineAccessUnit (unit : EncodedAccessUnit) : Owner Unit := do
  let s ← session
  if s.media.exceedsBudget unit.data.length then
    fail (.protocol "access unit exceeds admitted decoder budget")
  else if s.media.foreignStream unit.timeline.streamGeneration then pure ()
  else
    let outcome ← submitToDecoder
      { configRevision := s.configRevision
        accessUnit := unit
        streamConfig := s.media.currentStreamConfig
        decoderGeneration := 0 }
    match outcome with
    | .queued => do
        note (.submitted unit.timeline)
        modifyMedia fun m => m.setRecovery (m.decoderRecovery.noteRefreshSubmitted unit.timeline)
    | .dropped true => enterDecoderRecovery .decoderQueuePressure true
    | .dropped false => pure ()

def mediaScheduleDecision (nowUs maxQueueAgeUs : Nat) : Owner MediaScheduleDecision := do
  let s ← session
  let generation ← mediaConnectionGeneration
  let front := s.media.jitter.frontFrameDescriptor
  let decoderAdmission ← look fun w =>
    match front with
    | none => .ready
    | some frame =>
        w.decoder.queue.admission (FrameKind.ofFlags frame.keyframe frame.discardable)
  pure (scheduleMedia
    { frontFrameId := s.media.jitter.frontFrameId
      oldestUnresolvedFrameId := s.media.reassembly.oldestUnresolvedFrameId
      releaseDelay := s.media.jitter.nextReleaseDelayUs nowUs
      expirationDelay := s.media.jitter.nextExpirationDelayUs nowUs maxQueueAgeUs
      recoveryAdmission :=
        match front with
        | none => .ready
        | some frame => s.media.decoderRecovery.admission generation frame
      decoderAdmission := decoderAdmission })

def popReady (nowUs : Nat) : Owner (Option Frame) := do
  let s ← session
  modifyMedia fun m => m.setJitter (m.jitter.popReady nowUs).2
  pure (s.media.jitter.popReady nowUs).1

/-- `drain_jitter` from its first decision on. Each turn of the loop removes a frame from
the queue, so that the number of queued frames is enough fuel. -/
def drainJitterLoop (nowUs maxQueueAgeUs : Nat) : Nat → Owner Unit
  | 0 => pure ()
  | fuel + 1 => do
      let decision ← mediaScheduleDecision nowUs maxQueueAgeUs
      match decision with
      | .discardExpired => do
          let s ← session
          let dropped := s.media.jitter.dropExpired nowUs maxQueueAgeUs
          modifyMedia fun m => m.setJitter dropped.2
          if dropped.1 then enterDecoderRecovery .referenceAccessUnitLate true
          else drainJitterLoop nowUs maxQueueAgeUs fuel
      | .decodeReadyFrame => do
          let popped ← popReady nowUs
          match popped with
          | none => pure ()
          | some frame => do
              let generation ← mediaConnectionGeneration
              publishTimelineAccessUnit (encodedAccessUnit frame generation nowUs)
              drainJitterLoop nowUs maxQueueAgeUs fuel
      | .discardReadyFrame => do
          let popped ← popReady nowUs
          match popped with
          | none => pure ()
          | some _ => drainJitterLoop nowUs maxQueueAgeUs fuel
      | .discardRecoveryBlockedFrame => do
          let popped ← popReady nowUs
          match popped with
          | none => pure ()
          | some _ => drainJitterLoop nowUs maxQueueAgeUs fuel
      | .waitUntil _ _ => pure ()
      | .waitForEvent _ => pure ()
      | .idle => pure ()

def drainJitter : Owner Unit := do
  let now ← instantNow
  let maxAge ← look World.mediaDeadline
  let s ← session
  drainJitterLoop (now - s.timingOrigin) maxAge (s.media.jitter.frames.length + 1)

/-! ## Decoder results -/

def decoderTimelineIsCurrent (timeline : AccessUnitTimeline) : Owner Bool := do
  let s ← session
  let generation ← mediaConnectionGeneration
  let active ← activeSession
  let connectionMatches : Bool :=
    timeline.connectionGeneration = 0 ||
      match s.control.controlGeneration with
      | some control => control = timeline.connectionGeneration
      | none => s.permitUnpairedVideo && generation = timeline.connectionGeneration
  let streamMatches : Bool :=
    match s.media.streamEpoch with
    | some epoch => epoch = timeline.streamGeneration
    | none => s.permitUnpairedVideo && active ≠ none
  pure (connectionMatches && streamMatches)

def markDecoderRefreshAccepted (timeline : AccessUnitTimeline) : Owner Unit := do
  let s ← session
  let recovered := s.media.decoderRecovery.markRecovered timeline
  modifyMedia fun m => m.setRecovery recovered.2
  match recovered.1, s.lifecycle.runtime.stream with
  | true, .awaitingRefresh _ =>
      modifySession ReceiverSession.resumeStreaming
  | _, _ => pure ()

def publishDecodedFrame (completed : AccessUnitTimeline) (token : DecodeToken) :
    Owner Unit := do
  let s ← session
  note (.published token s.media.currentStreamConfig s.configRevision
    s.media.decoderRecovery.phase completed)
  modifySession fun s => s.pushFrame (some token)

/-- A picture is published when its own submission is still current. -/
def publishOutput (completed : AccessUnitTimeline) (token : DecodeToken) : Owner Unit := do
  let generation ← look fun w => w.decoder.queue.decoderGeneration
  let current ← decoderTimelineIsCurrent token.timeline
  let s ← session
  when (generation = token.decoderGeneration ∧ current ∧
      s.media.decoderRecovery.acceptsCompletion token.timeline)
    (publishDecodedFrame completed token)

def publishOutputs (completed : AccessUnitTimeline) : List DecodeToken → Owner Unit
  | [] => pure ()
  | token :: rest => do
      publishOutput completed token
      publishOutputs completed rest

def handleDecoderResult (timeline : AccessUnitTimeline)
    (result : Except String DecodeOutcome) : Owner Unit := do
  match result with
  | .error _ => enterDecoderRecovery .decoderError true
  | .ok outcome =>
      let s ← session
      if timeline.kind.isKeyframe ∧ !outcome.refreshAccepted ∧
          s.media.decoderRecovery.isRefreshCandidate timeline then
        enterDecoderRecovery .decoderError true
      else do
        when (timeline.kind.isKeyframe ∧ outcome.refreshAccepted)
          (markDecoderRefreshAccepted timeline)
        publishOutputs timeline outcome.frames

def handleDecoderEvent (event : DecoderEvent) : Owner Unit :=
  match event with
  | .capabilities result =>
      modifySession fun s => s.setReadiness (DecoderReadiness.ofResult result)
  | .started => pure ()
  | .completed timeline decoderGeneration decodeTimeUs result => do
      modifyMedia fun m => m.setJitter (m.jitter.observeDecodeTimeUs decodeTimeUs)
      let generation ← look fun w => w.decoder.queue.decoderGeneration
      let current ← decoderTimelineIsCurrent timeline
      let s ← session
      when (generation = decoderGeneration ∧ current ∧
          s.media.decoderRecovery.acceptsCompletion timeline)
        (handleDecoderResult timeline result)
  | .unavailable error =>
      modifySession fun s => s.setReadiness (.unavailable error)

/-- One turn of the loop of `drain_decoder_events`; whether there was an event. -/
def pollDecoderEvent : Owner Bool := do
  let event ← look fun w => w.decoder.pollEvent.1
  update fun o => { o with world.decoder := o.world.decoder.pollEvent.2 }
  match event with
  | none => pure false
  | some event => do
      handleDecoderEvent event
      pure true

end Owner

end PicooCamera.Receiver
