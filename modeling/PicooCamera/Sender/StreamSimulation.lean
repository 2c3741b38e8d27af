import PicooCamera.Sender.EncoderSimulation

/-!
# Streaming, pairing and control messages change the encoder path

A configuration is sent before it is kept, and a transaction begins with an
epoch and a directive that were not used before.
-/

namespace PicooCamera.Sender

open PicooCamera.Library PicooCamera.Protocol PicooCamera.Packet PicooCamera.Session
open PicooCamera.Pairing PicooCamera.Transport Program

variable {L : Limits} {P : SenderPlatform}

theorem toProto_streamEpoch {bitstream : Bitstream} {config : StreamConfigParams}
    {wire : StreamConfig} (h : config.toProto bitstream = .ok wire) :
    wire.streamEpoch = config.streamEpoch := by
  unfold StreamConfigParams.toProto at h
  simp only [bind, Except.bind, pure, Except.pure, throw, throwThe, MonadExceptOf.throw] at h
  repeat' split at h
  all_goals first | cases h; rfl | cases h

theorem reportStarted_cases (state : EncoderApplyState)
    (transactionId encoderGeneration streamEpoch height : Nat) :
    (state.reportStarted transactionId encoderGeneration streamEpoch height).2 = state ∨
      ∃ transaction, state = .applying transaction ∧ transaction.expectedGeneration = none ∧
        (state.reportStarted transactionId encoderGeneration streamEpoch height).2 =
          .applying { transaction with expectedGeneration := some encoderGeneration } := by
  unfold EncoderApplyState.reportStarted
  split
  · exact Or.inl rfl
  · cases state with
    | committed => exact Or.inl rfl
    | applying transaction =>
        dsimp only
        split
        · cases hexpected : transaction.expectedGeneration with
          | some expected => exact Or.inl rfl
          | none => exact Or.inr ⟨transaction, rfl, hexpected, rfl⟩
        · exact Or.inl rfl

theorem idle_of_not_applying {state : EncoderApplyState} (h : ¬state.isApplying) :
    state = .committed := by
  cases state with
  | committed => rfl
  | applying transaction => exact absurd rfl h

namespace Core

/-! ## Start reports -/

theorem simulated_bindEncoder {s : SenderState} {encoderGeneration height : Nat}
    (hidle : s.session.encoder.applyState = .committed) (hshaped : encoderGeneration ≠ 0)
    (hfirst : s.session.encoder.committedEncoderGeneration = 0) :
    Simulated L s (exec (bindEncoder encoderGeneration height) s).2 :=
  simulated_change rfl fun _ => Change.bind s.path _ _ hidle hshaped hfirst

instance (transactionId encoderGeneration streamEpoch height : Nat) :
    Keeps (Simulated L)
      (reportTransactionStarted transactionId encoderGeneration streamEpoch height) := by
  constructor
  intro s
  unfold reportTransactionStarted session modifyEncoder modifySession note
  rw [exec_read_bind, exec_update_bind, exec_when_update_bind]
  have hcases := reportStarted_cases s.session.encoder.applyState transactionId
    encoderGeneration streamEpoch height
  generalize s.session.encoder.applyState.reportStarted transactionId encoderGeneration
    streamEpoch height = report at hcases ⊢
  cases hcases with
  | inl hsame =>
      rw [if_neg (not_not.mpr hsame)]
      refine simulated_same ?_ rfl
      change ({ s.session with
        encoder := s.session.encoder.setApplyState report.2 } : SenderSession).essence = _
      rw [hsame]
      rfl
  | inr hfirst =>
      obtain ⟨transaction, happlying, hnone, hreport⟩ := hfirst
      have hnew : report.2 ≠ s.session.encoder.applyState := by
        rw [hreport, happlying]
        intro heq
        have hexpected := congrArg EncoderTransaction.expectedGeneration
          (EncoderApplyState.applying.inj heq)
        rw [hnone] at hexpected
        cases hexpected
      rw [if_pos hnew, hreport]
      exact simulated_change rfl fun _ => Change.start s.path transaction _ happlying hnone

theorem shaped_of_not {encoderGeneration height : Nat}
    (h : ¬EncoderState.isEncoderShape encoderGeneration height = false) :
    encoderGeneration ≠ 0 := by
  rw [Bool.not_eq_false] at h
  exact (of_decide_eq_true h).1

instance (transactionId encoderGeneration streamEpoch height : Nat) :
    Keeps (Simulated L)
      (reportEncoderStarted transactionId encoderGeneration streamEpoch height) := by
  constructor
  intro s
  unfold reportEncoderStarted session
  rw [exec_read_bind]
  split
  · exact Frame.refl s
  next hshape =>
    split
    · exact (inferInstance : Keeps (Simulated L) (reportTransactionStarted _ _ _ _)).keeps s
    · split
      · exact Frame.refl s
      next hidle =>
        split
        next hfirst =>
          split
          · exact Frame.refl s
          · have hbound : Simulated L s (exec (bindEncoder encoderGeneration height) s).2 :=
              simulated_bindEncoder
                (idle_of_not_applying fun happlying => hidle (Or.inl happlying))
                (shaped_of_not hshape) hfirst
            exact keeps_from hbound fun _ => inferInstance
        · exact Frame.refl s

instance (encoderGeneration streamEpoch height : Nat) :
    Keeps (Simulated L)
      (reportInitialEncoderEventStarted encoderGeneration streamEpoch height) := by
  constructor
  intro s
  unfold reportInitialEncoderEventStarted session
  rw [exec_read_bind]
  split
  · exact Frame.refl s
  next hnot =>
    simp only [not_or] at hnot
    have hbound : Simulated L s (exec (bindEncoder encoderGeneration height) s).2 :=
      simulated_bindEncoder (idle_of_not_applying hnot.2.1) (shaped_of_not hnot.1)
        (not_not.mp hnot.2.2.1)
    exact keeps_from hbound fun _ => inferInstance

/-! ## Transactions -/

instance (config : StreamConfigParams) : Keeps (Simulated L) (setStreamConfig config) :=
  keeps_update fun s => simulated_change rfl fun _ => Change.stage s.path config

theorem exec_allocateStreamEpoch {s : SenderState}
    (hroom : s.session.encoder.lastAllocatedStreamEpoch < maxStreamEpoch) :
    ∃ s', exec allocateStreamEpoch s =
        (.ok (s.session.encoder.lastAllocatedStreamEpoch + 1), s') ∧
      s'.path = s.path.allocate ∧ s'.session.lifecycle = s.session.lifecycle := by
  unfold allocateStreamEpoch session modifyEncoder modifySession note
  rw [exec_read_bind, if_neg (Nat.not_le.mpr hroom)]
  exact ⟨_, rfl, rfl, rfl⟩

theorem exec_beginEncoderTransaction {s : SenderState} (directive : EncoderDirective)
    (hidle : s.session.encoder.applyState = .committed) :
    ∃ begun issued now, exec (beginEncoderTransaction directive) s = (.ok true, begun) ∧
      exec issueDirective begun = (.ok (), issued) ∧
      issued.path = s.path.begin directive now ∧
        issued.session.lifecycle = s.session.lifecycle := by
  have hnow : exec instantNow s = (.ok s.turn.now, s.turn) := rfl
  have hbegin : (s.turn.session.encoder.applyState.begin directive s.turn.session.encoder.rollback
      s.turn.now).1 = true := by
    rw [show s.turn.session.encoder.applyState = .committed from hidle]
    rfl
  have hexec : exec (beginEncoderTransaction directive) s =
      (.ok true, { s.turn with
        session := s.session.setEncoder (s.session.encoder.setApplyState
          (s.session.encoder.applyState.begin directive s.session.encoder.rollback
            s.turn.now).2)
        trace := s.trace ++ [.began directive s.session.encoder.snapshot] }) := by
    unfold beginEncoderTransaction session modifyEncoder modifySession note
    rw [exec_bind_ok hnow, exec_read_bind, exec_update_bind, exec_when_update_bind, if_pos hbegin,
      hbegin]
    rfl
  exact ⟨_, _, s.turn.now, hexec, rfl, rfl, rfl⟩

instance : Keeps (Simulated L) clearMissingOffer := by
  unfold clearMissingOffer
  infer_instance

instance (targetFormat : SourceFormat) :
    Keeps (Simulated L) (beginStreamReconfiguration targetFormat) := by
  constructor
  intro s
  unfold beginStreamReconfiguration session
  rw [exec_read_bind]
  split
  · exact Frame.refl s
  next hidle =>
    split
    · exact Frame.refl s
    split
    · exact (inferInstance : Keeps (Simulated L) (setError _ >>= fun _ => pure 0)).keeps s
    split
    · exact (inferInstance : Keeps (Simulated L) (setError _ >>= fun _ => pure 0)).keeps s
    have hcommitted := idle_of_not_applying hidle
    by_cases hroom : s.session.encoder.lastAllocatedStreamEpoch < maxStreamEpoch
    · obtain ⟨allocated, hallocate, hpath, hlifecycle⟩ := exec_allocateStreamEpoch hroom
      have hencoder : allocated.session.encoder = s.session.encoder.allocateEpoch :=
        congrArg EncoderPath.encoder hpath
      obtain ⟨begun, issued, now, hbegin, hissue, hissued, hsame⟩ :=
        @exec_beginEncoderTransaction allocated
          ⟨s.session.encoder.nextEncoderDirectiveId, .localRequest, targetFormat,
            s.session.encoder.lastAllocatedStreamEpoch + 1⟩ (by rw [hencoder]; exact hcommitted)
      have hchange : Simulated L s issued := by
        refine simulated_change (hsame.trans hlifecycle) fun _ => ?_
        rw [hissued, hpath]
        exact Change.reconfigure s.path _ now hcommitted rfl rfl rfl hroom
      rw [exec_bind_ok hallocate, if_neg (Nat.succ_ne_zero _), exec_bind_ok hbegin, if_pos rfl,
        exec_bind_ok hissue]
      have hrest : Keeps (Simulated L) (do
          clearMissingOffer
          pure (s.session.encoder.lastAllocatedStreamEpoch + 1)) := inferInstance
      exact Frame.trans hchange (hrest.keeps issued)
    · have hexhausted : exec allocateStreamEpoch s =
          (.ok 0, { s with session := s.session.setError "STREAM_EPOCH_EXHAUSTED" }) := by
        unfold allocateStreamEpoch session setError modifySession
        rw [exec_read_bind, if_pos (Nat.not_lt.mp hroom)]
        rfl
      rw [exec_bind_ok hexhausted, if_pos rfl]
      exact simulated_same rfl rfl

/-! ## Sending the configuration -/

/-- The state after the transport was asked to take one more control message. -/
def counted (s : SenderState) : SenderState :=
  { s with session := s.session.countControlMessage }.turn

theorem exec_sendControlPayload (s : SenderState) (session : SessionId)
    (payload : ControlPayload) :
    exec (sendControlPayload session payload) s =
      match s.answer.sendControl with
      | .ok () => (.ok (), { counted s with
          trace := s.trace ++
            [.controlSent session s.session.nextControlMessageId payload] })
      | .error error => (.error (.transport error), counted s) := by
  have hlook : exec (look Answers.sendControl) { s with session := s.session.countControlMessage } =
      (.ok s.answer.sendControl, counted s) := rfl
  unfold sendControlPayload Core.session modifySession
  rw [exec_read_bind, exec_update_bind, exec_bind_ok hlook]
  cases s.answer.sendControl <;> rfl

/-- What a StreamConfig for an epoch leaves in the state. -/
def SendsConfig (s : SenderState) (streamEpoch : Nat) (outcome : Except SessionFault Unit)
    (s' : SenderState) : Prop :=
  s'.session.lifecycle = s.session.lifecycle ∧
    ((∃ error, outcome = .error error ∧ s'.path = s.path) ∨
      ∃ session messageId wire, outcome = .ok () ∧
        s.path.connection = some session.value ∧ wire.streamEpoch = streamEpoch ∧
          s'.path = s.path.mark (.controlSent session messageId (.streamConfig wire)))

theorem exec_requireSession (s : SenderState) :
    exec requireSession s =
      match s.session.lifecycle.activeGeneration with
      | none => (.error .notConnected, s)
      | some generation => (.ok ⟨generation⟩, s) := by
  unfold requireSession session
  rw [exec_read_bind, SenderSession.activeSession]
  cases s.session.lifecycle.activeGeneration <;> rfl

theorem sendStreamConfigForEpoch_spec (P : SenderPlatform) (s : SenderState)
    (config : StreamConfigParams) (streamEpoch : Nat) :
    SendsConfig s streamEpoch (exec (sendStreamConfigForEpoch P config streamEpoch) s).1
      (exec (sendStreamConfigForEpoch P config streamEpoch) s).2 := by
  have hsession := exec_requireSession s
  unfold sendStreamConfigForEpoch
  cases hactive : s.session.lifecycle.activeGeneration with
  | none =>
      rw [hactive] at hsession
      rw [exec_bind_error hsession]
      exact ⟨rfl, Or.inl ⟨_, rfl, rfl⟩⟩
  | some generation =>
      rw [hactive] at hsession
      rw [exec_bind_ok hsession]
      cases hproto : ({ config with streamEpoch := streamEpoch } :
          StreamConfigParams).toProto P.bitstream with
      | error error => exact ⟨rfl, Or.inl ⟨_, rfl, rfl⟩⟩
      | ok wire =>
          dsimp only
          rw [exec_sendControlPayload]
          cases s.answer.sendControl with
          | error error => exact ⟨rfl, Or.inl ⟨_, rfl, rfl⟩⟩
          | ok sent =>
              exact ⟨rfl, Or.inr ⟨⟨generation⟩, _, wire, rfl, hactive,
                toProto_streamEpoch hproto, rfl⟩⟩

theorem simulated_sendStreamConfig {s : SenderState} (config : StreamConfigParams)
    (hidle : s.session.encoder.applyState = .committed) :
    Simulated L s (exec (do
      sendStreamConfig P config
      modifyEncoder EncoderState.noteStreamConfigSent) s).2 := by
  obtain ⟨hlifecycle, houtcome⟩ := sendStreamConfigForEpoch_spec P s
    { config with streamEpoch := s.session.encoder.currentStreamEpoch }
    s.session.encoder.currentStreamEpoch
  unfold sendStreamConfig session modifyEncoder modifySession
  rw [exec_bind, exec_read_bind]
  generalize hexec : exec (sendStreamConfigForEpoch P _ _) s = sent at hlifecycle houtcome
  obtain ⟨outcome, s'⟩ := sent
  cases houtcome with
  | inl hfailed =>
      obtain ⟨error, rfl, hpath⟩ := hfailed
      rw [exec_bind_error hexec]
      exact simulated_path hpath hlifecycle
  | inr hsent =>
      obtain ⟨session, messageId, wire, rfl, hconnected, hepoch, hpath⟩ := hsent
      rw [exec_bind_ok hexec]
      refine simulated_change hlifecycle fun _ => ?_
      convert Change.publish s.path session messageId config wire hconnected hidle hepoch using 1
      change s'.path.setEncoder (s'.path.encoder.keepStreamConfig _).noteStreamConfigSent = _
      rw [show s'.path = _ from hpath]
      rfl

theorem simulated_sendOfferedConfig {s : SenderState} (caps : Capabilities)
    (config : StreamConfigParams) (hidle : s.session.encoder.applyState = .committed) :
    Simulated L s (exec (sendOfferedConfig P caps config) s).2 := by
  unfold sendOfferedConfig session
  rw [exec_read_bind]
  cases (config.toProto P.bitstream).mapError SessionFault.codecConfiguration with
  | error error => exact Frame.refl s
  | ok wire =>
      rw [exec_bind_ok (exec_ofExcept _ _)]
      cases (P.bitstream.validatedVideoFormat wire).mapError SessionFault.protocol with
      | error error => exact Frame.refl s
      | ok format =>
          rw [exec_bind_ok (exec_ofExcept _ _)]
          split
          · exact (inferInstance : Keeps (Simulated L) (setError _)).keeps s
          split
          · exact (inferInstance : Keeps (Simulated L) (setError _ >>= fun _ =>
              (fail _ : Core Unit))).keeps s
          · exact simulated_sendStreamConfig config hidle

instance : Keeps (Simulated L) (sendPendingStreamConfig P) := by
  constructor
  intro s
  unfold sendPendingStreamConfig session
  rw [exec_read_bind]
  split
  · exact Frame.refl s
  next hidle =>
    split
    · exact simulated_sendOfferedConfig _ _
        (idle_of_not_applying fun happlying => hidle (Or.inr happlying))
    · exact Frame.refl s

instance : Keeps (Simulated L) startStreaming := by
  unfold startStreaming
  infer_instance

instance : Keeps (Simulated L) (enterStreaming P) := by
  unfold enterStreaming
  infer_instance

/-! ## Pairing -/

instance : Keeps (Simulated L) (modifySession SenderSession.noteConfirmSent) :=
  quiet_session fun _ => rfl

instance : Keeps (Simulated L) (modifySession SenderSession.noteTrustCommitted) :=
  quiet_session fun _ => rfl

instance (hello : ServerHello) (transcriptHash : Bytes) :
    Keeps (Simulated L) (modifySession fun s => s.installServerHello hello transcriptHash) :=
  quiet_session fun _ => rfl

instance (session : SessionId) (proof : PairingProof) :
    Keeps (Simulated L) (sendControlPayload session (.pairingConfirm proof)) :=
  keeps_sendControlPayload session fun _ => rfl

instance (session : SessionId) (proof : PairingProof) :
    Keeps (Simulated L) (sendControlPayload session (.pairingCommit proof)) :=
  keeps_sendControlPayload session fun _ => rfl

instance : Keeps (Simulated L) (persistTrusted P) := by
  unfold persistTrusted
  apply keeps_then inferInstance
  intro s
  split
  · apply keeps_then inferInstance
    intro disk
    split <;> infer_instance
  · infer_instance

instance (store : TrustedDeviceStore) : Keeps (Simulated L) (replaceTrusted P store) := by
  unfold replaceTrusted
  apply keeps_then inferInstance
  intro previous
  apply keeps_then inferInstance
  intro _
  apply keeps_then inferInstance
  intro outcome
  split <;> infer_instance

instance (deviceId : String) : Keeps (Simulated L) (removeTrustedDevice P deviceId) := by
  unfold removeTrustedDevice
  infer_instance

instance : Keeps (Simulated L) (sendIdentityConfirm P) := by
  unfold sendIdentityConfirm
  apply keeps_then inferInstance
  intro session
  apply keeps_then inferInstance
  intro s
  split <;> infer_instance

instance (receiverId : String) : Keeps (Simulated L) (sendPairingConfirm P receiverId) := by
  unfold sendPairingConfirm
  apply keeps_then inferInstance
  intro s
  split <;> infer_instance

instance (hello : ServerHello) (transcriptHash : Bytes) :
    Keeps (Simulated L) (answerServerHello P hello transcriptHash) := by
  unfold answerServerHello
  apply keeps_then inferInstance
  intro s
  split
  · infer_instance
  split
  · infer_instance
  split
  · infer_instance
  apply keeps_then inferInstance
  intro _
  split
  · infer_instance
  apply keeps_then inferInstance
  intro outcome
  split <;> infer_instance

instance (hello : ServerHello) : Keeps (Simulated L) (onServerHello P hello) := by
  unfold onServerHello
  apply keeps_then inferInstance
  intro s
  split
  · infer_instance
  split
  · infer_instance
  split
  · infer_instance
  apply keeps_then inferInstance
  intro binding
  split
  · infer_instance
  split <;> infer_instance

instance (pairing : SenderPairing) : Keeps (Simulated L) (commitTrust P pairing) := by
  unfold commitTrust
  split
  · infer_instance
  apply keeps_then inferInstance
  intro nowMs
  apply keeps_then inferInstance
  intro s
  apply keeps_then inferInstance
  intro outcome
  split <;> infer_instance

instance (pairing : SenderPairing) : Keeps (Simulated L) (sendPairingCommit P pairing) := by
  unfold sendPairingCommit
  apply keeps_then inferInstance
  intro s
  split
  · infer_instance
  apply keeps_then inferInstance
  intro outcome
  split <;> infer_instance

instance : Keeps (Simulated L) (acceptPairingApproval P) := by
  unfold acceptPairingApproval
  apply keeps_then inferInstance
  intro s
  split
  · infer_instance
  split <;> infer_instance

instance : Keeps (Simulated L) (acceptPairingComplete P) := by
  unfold acceptPairingComplete
  apply keeps_then inferInstance
  intro s
  split
  · infer_instance
  split <;> infer_instance

instance (session : SessionId) (proof : PairingProof) :
    Keeps (Simulated L) (handlePairingApproval P session proof) := by
  unfold handlePairingApproval
  infer_instance

instance (session : SessionId) (proof : PairingProof) :
    Keeps (Simulated L) (handlePairingComplete P session proof) := by
  unfold handlePairingComplete
  infer_instance

/-! ## Control messages -/

instance (capabilities : Capabilities) :
    Keeps (Simulated L) (modifySession fun s => s.setCapabilities capabilities) :=
  quiet_session fun _ => rfl

instance (command : CameraCommand) :
    Keeps (Simulated L) (modifySession fun s => s.setCameraCommand command) :=
  quiet_session fun _ => rfl

instance (session : SessionId) :
    Keeps (Simulated L) (sendControlPayload session .clockSyncPong) :=
  keeps_sendControlPayload session fun _ => rfl

instance : Keeps (Simulated L) handleReceiverStats := by
  unfold handleReceiverStats
  apply keeps_then inferInstance
  intro health
  apply keeps_then inferInstance
  intro s
  split <;> infer_instance

instance (capabilities : Capabilities) : Keeps (Simulated L) (noteMissingOffer capabilities) := by
  unfold noteMissingOffer
  infer_instance

instance (capabilities : Capabilities) :
    Keeps (Simulated L) (handleCapabilities P capabilities) := by
  unfold handleCapabilities
  infer_instance

instance (session : SessionId) (payload : ControlPayload) :
    Keeps (Simulated L) (handlePayload P session payload) := by
  unfold handlePayload handleCameraCommand handleSessionError handleClockSyncPing
  split <;> infer_instance

/-- A message that the boundary lets pass. What its phase does not allow only moves the
boundary. -/
theorem simulated_handleEnvelope {s : SenderState} {session : SessionId}
    (envelope : ControlEnvelope) (hactive : s.session.activeSession = some session) :
    Simulated L s (exec (handleEnvelope P session envelope) s).2 := by
  have hconnected : s.path.connection = some session.value := by
    change s.session.lifecycle.activeGeneration = _
    obtain ⟨generation, hgeneration, rfl⟩ := Option.map_eq_some_iff.mp hactive
    exact hgeneration
  unfold handleEnvelope Core.session modifySession
  rw [exec_read_bind]
  split
  · exact (inferInstance : Keeps (Simulated L) (rejectAuthentication _)).keeps s
  next hfresh =>
    obtain ⟨hgeneration, hnewer⟩ := not_or.mp hfresh
    rw [exec_update_bind]
    split
    · have hdispatch : Simulated L s { s with
          session := s.session.noteReceived envelope.messageId
          trace := s.trace ++ [.dispatched session envelope] } :=
        simulated_change rfl fun _ => Change.dispatch s.path session envelope hconnected
          (not_not.mp hgeneration) (Nat.not_le.mp hnewer)
      exact Frame.trans hdispatch
        ((inferInstance : Keeps (Simulated L) (handlePayload P session _)).keeps _)
    · have hreceive : Simulated L s
          { s with session := s.session.noteReceived envelope.messageId } :=
        simulated_change rfl fun _ => Change.receive s.path _ (Nat.not_le.mp hnewer)
      exact Frame.trans hreceive
        ((inferInstance : Keeps (Simulated L) (rejectAuthentication _)).keeps _)

instance (session : SessionId) (message : ControlFrame) :
    Keeps (Simulated L) (handleControl P session message) := by
  constructor
  intro s
  unfold handleControl Core.session
  rw [exec_read_bind]
  split
  · exact Frame.refl s
  next hactive =>
    split
    · exact (inferInstance : Keeps (Simulated L) (rejectAuthentication _)).keeps s
    · exact simulated_handleEnvelope _ (not_not.mp hactive)

end Core

end PicooCamera.Sender
