import PicooCamera.Sender.SessionRuns

/-!
# What pairing depends on at the Sender

The trust store and the challenge of the Receiver. Most of what the session does
leaves them alone, and a new ClientHello or the end of a connection drops the
challenge. The instances here hold of every relation that admits as much.
-/

namespace PicooCamera.Sender

open PicooCamera.Library PicooCamera.Protocol PicooCamera.Packet PicooCamera.Session
open PicooCamera.Pairing PicooCamera.Transport Program

structure PairingPath where
  trusted : TrustedDeviceStore
  pairing : Option SenderPairing

def SenderState.pairingPath (s : SenderState) : PairingPath where
  trusted := s.session.trusted
  pairing := s.session.pairing

def PairingPath.drop (c : PairingPath) : PairingPath := { c with pairing := none }

/-- A relation that does not see what pairing does not depend on. -/
class Aside (R : SenderState → SenderState → Prop) : Prop extends Frame R where
  same : ∀ {s s' : SenderState}, s'.pairingPath = s.pairingPath → R s s'

/-- A relation that admits the end of a challenge. -/
class Endable (R : SenderState → SenderState → Prop) : Prop extends Aside R where
  drop : ∀ {s s' : SenderState}, s'.pairingPath = s.pairingPath.drop → R s s'

namespace PairingPath

open PicooCamera.Sender.Core

section Aside

variable {R : SenderState → SenderState → Prop} [Aside R]

theorem aside_session {f : SenderSession → SenderSession}
    (h : ∀ s : SenderState, ({ s with session := f s.session } : SenderState).pairingPath =
      s.pairingPath) : Keeps R (modifySession f) :=
  keeps_update fun s => Aside.same (h s)

/-! ## The surroundings -/

instance (f : EncoderState → EncoderState) : Keeps R (modifyEncoder f) :=
  aside_session fun _ => rfl

instance (mark : SenderMark) : Keeps R (note mark) := keeps_update fun _ => Aside.same rfl

instance : Keeps R (update SenderState.turn : Core Unit) := keeps_update fun _ => Aside.same rfl

instance {α : Type} (f : Answers → α) : Keeps R (look f) := by
  unfold look
  infer_instance

instance : Keeps R session := by
  unfold session
  infer_instance

instance : Keeps R instantNow := by
  unfold instantNow
  infer_instance

instance (code : String) : Keeps R (setError code) := aside_session fun _ => rfl

instance : Keeps R (modifySession SenderSession.clearError) := aside_session fun _ => rfl

instance : Keeps R requireSession := by
  unfold requireSession
  apply keeps_then inferInstance
  intro s
  split <;> infer_instance

instance (target : SessionId) (payload : ControlPayload) :
    Keeps R (sendControlPayload target payload) := by
  have hcount : Keeps R (modifySession SenderSession.countControlMessage) :=
    aside_session fun _ => rfl
  unfold sendControlPayload
  apply keeps_then inferInstance
  intro s
  apply keeps_then inferInstance
  intro _
  apply keeps_then inferInstance
  intro answer
  split <;> infer_instance

instance (trust : TrustState) : Keeps R (modifySession fun s => s.setTrust trust) :=
  aside_session fun _ => rfl

instance (stream : SenderSession → StreamState) :
    Keeps R (modifySession fun s => s.setStream (stream s)) := aside_session fun _ => rfl

instance (health : HealthState) : Keeps R (modifySession fun s => s.setHealth health) :=
  aside_session fun _ => rfl

instance : Keeps R (modifySession SenderSession.requestKeyframe) := aside_session fun _ => rfl

instance : Keeps R (modifySession SenderSession.endKeyframeRequest) := aside_session fun _ => rfl

instance : Keeps R (modifySession SenderSession.clearPendingPackets) := aside_session fun _ => rfl

instance : Keeps R (modifySession SenderSession.disableReconnect) := aside_session fun _ => rfl

/-! ## The encoder -/

instance (transaction : EncoderTransaction) : Keeps R (restoreBefore transaction) := by
  unfold restoreBefore
  infer_instance

instance : Keeps R abortPendingReconfiguration := by
  unfold abortPendingReconfiguration
  apply keeps_then inferInstance
  intro s
  apply keeps_then inferInstance
  intro _
  split <;> infer_instance

instance (encoderGeneration height : Nat) : Keeps R (bindEncoder encoderGeneration height) := by
  unfold bindEncoder
  infer_instance

instance (transactionId encoderGeneration streamEpoch height : Nat) :
    Keeps R (reportEncoderStarted transactionId encoderGeneration streamEpoch height) := by
  have htransaction :
      Keeps R (reportTransactionStarted transactionId encoderGeneration streamEpoch height) := by
    unfold reportTransactionStarted
    infer_instance
  unfold reportEncoderStarted
  apply keeps_then inferInstance
  intro s
  split
  · infer_instance
  · split <;> infer_instance

instance (encoderGeneration streamEpoch height : Nat) :
    Keeps R (reportInitialEncoderEventStarted encoderGeneration streamEpoch height) := by
  unfold reportInitialEncoderEventStarted
  infer_instance

instance (config : StreamConfigParams) : Keeps R (setStreamConfig config) := by
  unfold setStreamConfig
  infer_instance

instance (directive : EncoderDirective) : Keeps R (beginEncoderTransaction directive) := by
  unfold beginEncoderTransaction
  infer_instance

instance : Keeps R issueDirective := by
  unfold issueDirective
  infer_instance

instance : Keeps R clearMissingOffer := by
  unfold clearMissingOffer
  infer_instance

instance (targetFormat : SourceFormat) : Keeps R (beginStreamReconfiguration targetFormat) := by
  have hallocate : Keeps R allocateStreamEpoch := by
    unfold allocateStreamEpoch
    infer_instance
  unfold beginStreamReconfiguration
  apply keeps_then inferInstance
  intro s
  split
  · infer_instance
  · split
    · infer_instance
    · split <;> infer_instance

instance (P : SenderPlatform) (config : StreamConfigParams) (streamEpoch : Nat) :
    Keeps R (sendStreamConfigForEpoch P config streamEpoch) := by
  unfold sendStreamConfigForEpoch
  apply keeps_then inferInstance
  intro target
  split <;> infer_instance

instance (P : SenderPlatform) : Keeps R (sendPendingStreamConfig P) := by
  have hsend : ∀ config, Keeps R (sendStreamConfig P config) := by
    intro config
    unfold sendStreamConfig
    infer_instance
  have hoffered : ∀ caps config, Keeps R (sendOfferedConfig P caps config) := by
    intro caps config
    unfold sendOfferedConfig
    infer_instance
  unfold sendPendingStreamConfig
  apply keeps_then inferInstance
  intro s
  split
  · infer_instance
  · split <;> infer_instance

instance (P : SenderPlatform) : Keeps R (enterStreaming P) := by
  unfold enterStreaming startStreaming
  infer_instance

instance (isKeyframe : Bool) : Keeps R (fecProtectionFor isKeyframe) := by
  unfold fecProtectionFor
  infer_instance

instance (P : SenderPlatform) (unit : NativeEncoderAccessUnit) (fec : FecProtection) :
    Keeps R (packetize P unit fec) := by
  have hset : ∀ pipeline, Keeps R (modifySession fun s => s.setPipeline pipeline) :=
    fun _ => aside_session fun _ => rfl
  unfold packetize
  infer_instance

instance (unit : NativeEncoderAccessUnit) : Keeps R (noteAdmitted unit) := by
  unfold noteAdmitted
  apply keeps_then inferInstance
  intro s
  split <;> infer_instance

instance (unit : NativeEncoderAccessUnit) (config : StreamConfigParams) :
    Keeps R (commitTransaction unit config) := by
  unfold commitTransaction
  apply keeps_then inferInstance
  intro s
  apply keeps_then inferInstance
  intro _
  split <;> infer_instance

instance (P : SenderPlatform) (unit : NativeEncoderAccessUnit) :
    Keeps R (ingestEncoderAccessUnit P unit) := by
  have hformat : Keeps R commitSourceFormat := by
    unfold commitSourceFormat
    apply keeps_then inferInstance
    intro s
    split <;> infer_instance
  have hcandidate : Keeps R (ingestCandidate P unit) := by
    unfold ingestCandidate
    apply keeps_then inferInstance
    intro s
    dsimp only
    split
    · infer_instance
    · split
      · infer_instance
      · split
        · infer_instance
        · split
          · infer_instance
          · apply keeps_then inferInstance
            intro _
            apply keeps_then inferInstance
            intro fec
            infer_instance
  have hcommitted : Keeps R (ingestCommitted P unit) := by
    unfold ingestCommitted
    apply keeps_then inferInstance
    intro s
    split
    · infer_instance
    · split
      · infer_instance
      · split
        · infer_instance
        · apply keeps_then inferInstance
          intro fec
          infer_instance
  unfold ingestEncoderAccessUnit
  infer_instance

instance (target : SessionId) (batches : List VideoDatagramBatch) :
    Keeps R (sendBatches target batches) := by
  induction batches with
  | nil =>
      unfold sendBatches
      infer_instance
  | cons batch rest ih =>
      unfold sendBatches
      apply keeps_then inferInstance
      intro answer
      split <;> infer_instance

instance : Keeps R flushPending := by
  unfold flushPending
  infer_instance

instance (P : SenderPlatform) (event : NativeEncoderEvent) :
    Keeps R (prepareEncoderEvent P event) := by
  have hfacts : ∀ transactionId, Keeps R (acceptNativeFacts transactionId event) := by
    intro transactionId
    unfold acceptNativeFacts
    infer_instance
  have hstage : Keeps R (stageEventConfig event) := by
    unfold stageEventConfig
    split <;> infer_instance
  have haligned : Keeps R (alignedData P event.data) := by
    unfold alignedData
    apply keeps_then inferInstance
    intro s
    split <;> infer_instance
  unfold prepareEncoderEvent
  apply keeps_then inferInstance
  intro s
  apply keeps_then inferInstance
  intro _
  split
  · infer_instance
  · apply keeps_then inferInstance
    intro accepted
    split <;> infer_instance

instance : Keeps R takeKeyframeRequest := by
  unfold takeKeyframeRequest
  infer_instance

instance : Keeps R takeCameraCommand := by
  have htake : Keeps R (modifySession SenderSession.takeCameraCommand) :=
    aside_session fun _ => rfl
  unfold takeCameraCommand
  infer_instance

/-! ## Control messages -/

instance : Keeps R handleReceiverStats := by
  unfold handleReceiverStats
  apply keeps_then inferInstance
  intro health
  apply keeps_then inferInstance
  intro s
  split <;> infer_instance

instance (P : SenderPlatform) (capabilities : Capabilities) :
    Keeps R (handleCapabilities P capabilities) := by
  have hset : Keeps R (modifySession fun s => s.setCapabilities capabilities) :=
    aside_session fun _ => rfl
  have hnote : Keeps R (noteMissingOffer capabilities) := by
    unfold noteMissingOffer
    infer_instance
  unfold handleCapabilities
  infer_instance

instance (command : CameraCommand) : Keeps R (handleCameraCommand command) := by
  have hset : Keeps R (modifySession fun s => s.setCameraCommand command) :=
    aside_session fun _ => rfl
  unfold handleCameraCommand
  infer_instance

instance (target : SessionId) : Keeps R (handleClockSyncPing target) := by
  unfold handleClockSyncPing
  infer_instance

instance (error : SessionError) : Keeps R (handleSessionError error) := by
  unfold handleSessionError
  infer_instance

instance (P : SenderPlatform) : Keeps R (publishWhenStreaming P) := by
  have hstats : Keeps R maybeSendSenderStats := by
    unfold maybeSendSenderStats
    apply keeps_then inferInstance
    intro stats
    apply keeps_then inferInstance
    intro s
    split <;> infer_instance
  unfold publishWhenStreaming
  infer_instance

end Aside

/-! ## The end of a challenge -/

section Endable

variable {R : SenderState → SenderState → Prop} [Endable R]

instance : Keeps R emitClientHello := by
  have hstart : ∀ nonce, Keeps R (modifySession fun s => s.startChallenge nonce) :=
    fun _ => keeps_update fun _ => Endable.drop rfl
  unfold emitClientHello
  apply keeps_then inferInstance
  intro target
  apply keeps_then inferInstance
  intro nonce
  split <;> infer_instance

instance (apply : SenderEvent → Core (List SenderEffect)) [∀ event, Keeps R (apply event)]
    (code : String) : Keeps R (rejectAuthenticationWith apply code) := by
  unfold rejectAuthenticationWith
  apply keeps_then inferInstance
  intro _
  apply keeps_then inferInstance
  intro s
  split <;> infer_instance

instance (apply : SenderEvent → Core (List SenderEffect)) [∀ event, Keeps R (apply event)]
    (effect : SenderEffect) : Keeps R (applyEffect apply effect) := by
  have hend : Keeps R (modifySession SenderSession.endSession) :=
    keeps_update fun _ => Endable.drop rfl
  have hprepare : Keeps R (modifySession SenderSession.prepareConnection) :=
    aside_session fun _ => rfl
  have hcount : Keeps R (modifySession SenderSession.countReconnect) := aside_session fun _ => rfl
  have harm : ∀ deadline, Keeps R (modifySession fun s => s.armReconnect deadline) :=
    fun _ => aside_session fun _ => rfl
  have hclear : Keeps R (modifySession SenderSession.clearConnectionIntent) :=
    aside_session fun _ => rfl
  have hhello : Keeps R (helloOnConnect apply) := by
    unfold helloOnConnect
    apply keeps_then inferInstance
    intro s
    split
    · apply keeps_then inferInstance
      intro outcome
      split <;> infer_instance
    · infer_instance
  cases effect with
  | scheduleReconnect =>
      unfold applyEffect scheduleReconnect
      apply keeps_then inferInstance
      intro s
      split <;> infer_instance
  | startReconnect =>
      unfold applyEffect startReconnect
      apply keeps_then inferInstance
      intro s
      split
      · infer_instance
      · apply keeps_then inferInstance
        intro outcome
        apply keeps_then inferInstance
        intro _
        split <;> infer_instance
  | resetSessionResources =>
      unfold applyEffect resetSessionResources
      infer_instance
  | _ =>
      unfold applyEffect
      infer_instance

instance (apply : SenderEvent → Core (List SenderEffect)) [∀ event, Keeps R (apply event)]
    (effects : List SenderEffect) : Keeps R (applyEffects apply effects) := by
  induction effects with
  | nil =>
      unfold applyEffects
      infer_instance
  | cons effect rest ih =>
      unfold applyEffects
      infer_instance

instance (depth : Nat) (event : SenderEvent) : Keeps R (applySenderEventAt depth event) := by
  have hreduced : ∀ event, Keeps R (modifySession fun s => s.reduced event) :=
    fun _ => aside_session fun _ => rfl
  induction depth generalizing event with
  | zero =>
      unfold applySenderEventAt
      infer_instance
  | succ depth ih =>
      unfold applySenderEventAt applySenderEventWith
      infer_instance

instance (event : SenderEvent) : Keeps R (applySenderEvent event) := by
  unfold applySenderEvent
  infer_instance

instance (event : SenderEvent) : Keeps R (applyEvent event) := by
  unfold applyEvent
  infer_instance

instance (code : String) : Keeps R (rejectAuthentication code) := by
  unfold rejectAuthentication
  infer_instance

end Endable

end PairingPath

end PicooCamera.Sender
