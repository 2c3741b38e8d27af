import PicooCamera.Sender.StreamSimulation

/-!
# The operations of the session change the encoder path

Media is admitted by the committed encoder or by the keyframe of a transaction.
The steps that a restricted run says something about are the admission of an
access unit and the failure of a transaction.
-/

namespace PicooCamera.Sender

open PicooCamera.Library PicooCamera.Protocol PicooCamera.Packet PicooCamera.Session
open PicooCamera.Pairing PicooCamera.Transport Program

variable {L : Limits} {P : SenderPlatform}

/-- The transaction that a failure ends. -/
def EncoderFailureTransition.transaction? : EncoderFailureTransition → Option EncoderTransaction
  | .ignored => none
  | .rollback transaction => some transaction
  | .recover transaction => some transaction
  | .disconnect transaction => some transaction

/-- What the limits say of a step, in the state before it. An access unit without data, without
a connection or without a stream is refused in any case. -/
def Limits.Meets (L : Limits) (s : SenderState) : SenderStep → Prop
  | .ingestEncoderAccessUnit unit =>
      unit.data ≠ [] → s.session.activeSession ≠ Option.none → s.session.streaming = true →
      (s.session.encoder.applyState = .committed → s.session.encoder.isCommittedFact unit →
        L.admits s.path unit.facts) ∧
      (s.session.encoder.applyState.matchesNativeFacts unit.transactionId unit.encoderGeneration
        unit.streamEpoch unit.height → unit.isKeyframe → L.announces s.path unit.streamEpoch)
  | .reportEncoderFailed transactionId encoderGeneration =>
      ∀ transaction ∈ (s.session.encoder.applyState.reportFailed transactionId
        encoderGeneration).1.transaction?, L.rollsBack s.path transaction
  | .expireEncoderTransaction =>
      ∀ transaction ∈ (s.session.encoder.applyState.expire s.turn.now).1.transaction?,
        L.rollsBack s.path transaction
  | _ => True

instance (L : Limits) [∀ p facts, Decidable (L.admits p facts)]
    [∀ p streamEpoch, Decidable (L.announces p streamEpoch)]
    [∀ p transaction, Decidable (L.rollsBack p transaction)] (s : SenderState)
    (label : SenderStep) : Decidable (L.Meets s label) := by
  cases label
  all_goals
    dsimp only [Limits.Meets]
    infer_instance

/-- A failure is ignored, or it ends the transaction that is applying. -/
def EndsBy (state : EncoderApplyState) (failed : EncoderFailureTransition × EncoderApplyState) :
    Prop :=
  failed = (.ignored, state) ∨
    ∃ transaction, state = .applying transaction ∧ failed.2 = .committed ∧
      failed.1.transaction? = some transaction

theorem reportFailed_endsBy (state : EncoderApplyState) (transactionId encoderGeneration : Nat) :
    EndsBy state (state.reportFailed transactionId encoderGeneration) := by
  cases state with
  | committed => exact Or.inl rfl
  | applying transaction =>
      unfold EncoderApplyState.reportFailed
      dsimp only
      split
      · exact Or.inl rfl
      split
      · exact Or.inr ⟨transaction, rfl, rfl, rfl⟩
      split
      · exact Or.inr ⟨transaction, rfl, rfl, rfl⟩
      · exact Or.inr ⟨transaction, rfl, rfl, rfl⟩

theorem expire_endsBy (state : EncoderApplyState) (now : Instant) :
    EndsBy state (state.expire now) := by
  cases state with
  | committed => exact Or.inl rfl
  | applying transaction =>
      unfold EncoderApplyState.expire
      dsimp only
      split
      · exact Or.inl rfl
      split
      · exact Or.inr ⟨transaction, rfl, rfl, rfl⟩
      · exact Or.inr ⟨transaction, rfl, rfl, rfl⟩

theorem lt_wire_of_bounded {e : EncoderState} (h : Bounded e) {streamEpoch : Nat}
    (hle : streamEpoch ≤ e.lastAllocatedStreamEpoch) : streamEpoch < 256 ^ 4 := by
  have hmax : maxStreamEpoch < 256 ^ 4 := by decide
  have hallocated := h.allocated
  omega

theorem sourceFormat_of_matches {format : SourceFormat} {config : StreamConfigParams}
    (h : format.matches config) : config.sourceFormat = format := by
  unfold SourceFormat.matches at h
  obtain ⟨_, hcodec, hheight, _, hfps⟩ := of_decide_eq_true h
  unfold StreamConfigParams.sourceFormat
  rw [← hcodec, ← hheight, ← hfps]

namespace Core

/-! ## Transport events and connections -/

instance : Keeps (Simulated L) takeKeyframeRequest := by
  unfold takeKeyframeRequest
  infer_instance

instance : Keeps (Simulated L) (modifySession SenderSession.takeCameraCommand) :=
  quiet_session fun _ => rfl

instance : Keeps (Simulated L) takeCameraCommand := by
  unfold takeCameraCommand
  infer_instance

instance (event : TransportEvent) : Keeps (Simulated L) (takeTransportEvent P event) := by
  unfold takeTransportEvent handleTransportEvent
  cases event with
  | connected session =>
      constructor
      intro s
      have hpolled : Simulated L s { s with trace := s.trace ++ [.polled (.connected session)] } :=
        (inferInstance : Keeps (Simulated L) (note (.polled (.connected session)))).keeps s
      exact Frame.trans hpolled (simulated_transportConnected List.getLast?_concat)
  | disconnected session reason => infer_instance
  | controlMessage session message =>
      apply keeps_then inferInstance
      intro _
      apply keeps_then inferInstance
      intro effects
      split <;> infer_instance
  | videoPackets session receivedAt packets => infer_instance

instance keeps_drainLoop (fuel : Nat) : Keeps (Simulated L) (drainLoop P fuel) := by
  induction fuel with
  | zero =>
      unfold drainLoop
      infer_instance
  | succ fuel ih =>
      unfold drainLoop
      apply keeps_then inferInstance
      intro event
      split <;> infer_instance

instance : Keeps (Simulated L) (drainEvents P) := by
  unfold drainEvents
  infer_instance

instance (endpoint : Endpoint) :
    Keeps (Simulated L) (modifySession fun s => s.setEndpoint endpoint) :=
  quiet_session fun _ => rfl

instance (endpoint : Endpoint) : Keeps (Simulated L) (connect P endpoint) := by
  unfold connect
  apply keeps_then inferInstance
  intro _
  apply keeps_then inferInstance
  intro _
  apply keeps_then inferInstance
  intro outcome
  cases outcome with
  | ok session =>
      exact keeps_asked simulated_transportConnectStarted endpoint session fun _ => inferInstance
  | error error => infer_instance

instance : Keeps (Simulated L) (disconnect P) := by
  unfold disconnect
  infer_instance

instance (enabled : Bool) : Keeps (Simulated L) (setAutoReconnect enabled) := by
  unfold setAutoReconnect
  infer_instance

instance : Keeps (Simulated L) (modifySession SenderSession.askForHello) :=
  quiet_session fun _ => rfl

instance : Keeps (Simulated L) (sendClientHello P) := by
  unfold sendClientHello
  infer_instance

instance (session : SessionId) : Keeps (Simulated L) (sendControlPayload session .startStream) :=
  keeps_sendControlPayload session fun _ => rfl

instance (session : SessionId) : Keeps (Simulated L) (sendControlPayload session .stopStream) :=
  keeps_sendControlPayload session fun _ => rfl

instance (session : SessionId) (stats : Protocol.SenderStats) :
    Keeps (Simulated L) (sendControlPayload session (.senderStats stats)) :=
  keeps_sendControlPayload session fun _ => rfl

instance : Keeps (Simulated L) (sendStartStream P) := by
  unfold sendStartStream
  infer_instance

instance : Keeps (Simulated L) (sendStopStream P) := by
  unfold sendStopStream
  infer_instance

instance : Keeps (Simulated L) (reconnectWhenDue P) := by
  unfold reconnectWhenDue
  apply keeps_then inferInstance
  intro s
  split <;> infer_instance

instance : Keeps (Simulated L) maybeSendSenderStats := by
  unfold maybeSendSenderStats
  apply keeps_then inferInstance
  intro stats
  apply keeps_then inferInstance
  intro s
  split <;> infer_instance

instance : Keeps (Simulated L) (publishWhenStreaming P) := by
  unfold publishWhenStreaming
  infer_instance

instance : Keeps (Simulated L) (modifySession SenderSession.markPermissionRequired) :=
  quiet_session fun _ => rfl

instance : Keeps (Simulated L) (modifySession SenderSession.clearPermissionRequired) := by
  apply quiet_session
  intro s
  unfold SenderSession.clearPermissionRequired
  split <;> rfl

/-! ## Encoder failures -/

instance (code : String) : Keeps (Simulated L) (giveUpRecovery P code) := by
  unfold giveUpRecovery
  infer_instance

instance : Keeps (Simulated L) (startCommittedEncoderRecovery P) := by
  constructor
  intro s
  unfold startCommittedEncoderRecovery session
  rw [exec_read_bind]
  dsimp only
  split
  · exact (inferInstance : Keeps (Simulated L) (giveUpRecovery P _)).keeps s
  next hidle =>
    split
    · exact (inferInstance : Keeps (Simulated L) (giveUpRecovery P _)).keeps s
    split
    · exact (inferInstance : Keeps (Simulated L) (giveUpRecovery P _)).keeps s
    next config hconfig =>
      have hcommitted := idle_of_not_applying fun happlying => hidle (Or.inr happlying)
      obtain ⟨begun, issued, now, hbegin, hissue, hissued, hsame⟩ :=
        @exec_beginEncoderTransaction s ⟨s.session.encoder.nextEncoderDirectiveId, .recovery,
          config.sourceFormat, s.session.encoder.currentStreamEpoch⟩ hcommitted
      rw [exec_bind_ok hbegin, if_pos rfl, exec_bind_ok hissue]
      refine simulated_change hsame fun _ => ?_
      change Change L s.path issued.path
      rw [hissued]
      exact Change.begin s.path _ now hcommitted rfl rfl rfl

theorem exec_restoreBefore (s : SenderState) (transaction : EncoderTransaction) :
    ∃ s', exec (restoreBefore transaction)
        (s.setEncoder (s.session.encoder.setApplyState .committed)) = (.ok (), s') ∧
      s'.path = s.path.rollBack transaction ∧ s'.session.lifecycle = s.session.lifecycle :=
  ⟨_, rfl, rfl, rfl⟩

theorem simulated_failure {s : SenderState}
    {failed : EncoderFailureTransition × EncoderApplyState}
    (hends : EndsBy s.session.encoder.applyState failed)
    (hlimit : ∀ transaction ∈ failed.1.transaction?, L.rollsBack s.path transaction) :
    Simulated L s (exec (handleEncoderFailureTransition P failed.1)
      (s.setEncoder (s.session.encoder.setApplyState failed.2))).2 := by
  cases hends with
  | inl hignored =>
      rw [hignored]
      exact simulated_same rfl rfl
  | inr hended =>
      obtain ⟨transaction, happlying, hcommitted, htransaction⟩ := hended
      obtain ⟨restored, hrestore, hpath, hlifecycle⟩ := exec_restoreBefore s transaction
      have hroll : Simulated L s restored := by
        refine simulated_change hlifecycle fun _ => ?_
        rw [hpath]
        exact Change.rollBack s.path transaction happlying (hlimit transaction htransaction)
      rw [hcommitted]
      unfold handleEncoderFailureTransition
      cases htransition : failed.1 with
      | ignored =>
          rw [htransition] at htransaction
          cases htransaction
      | rollback before =>
          rw [htransition] at htransaction
          cases htransaction
          dsimp only
          rw [exec_bind_ok hrestore]
          exact hroll
      | recover before =>
          rw [htransition] at htransaction
          cases htransaction
          dsimp only
          rw [exec_bind_ok hrestore]
          exact Frame.trans hroll
            ((inferInstance : Keeps (Simulated L) (startCommittedEncoderRecovery P)).keeps _)
      | disconnect before =>
          rw [htransition] at htransaction
          cases htransaction
          dsimp only
          rw [exec_bind_ok hrestore]
          have hrest : Keeps (Simulated L) (do
              setError "ENCODER_RECOVERY_FAILED"
              disconnect P
              pure EncoderFailureOutcome.disconnected) := inferInstance
          exact Frame.trans hroll (hrest.keeps _)

theorem simulated_reportEncoderFailed {s : SenderState} {transactionId encoderGeneration : Nat}
    (hmeets : L.Meets s (.reportEncoderFailed transactionId encoderGeneration)) :
    Simulated L s (exec (reportEncoderFailed P transactionId encoderGeneration) s).2 := by
  unfold reportEncoderFailed session
  rw [exec_read_bind]
  split
  · split
    · exact Frame.refl s
    · exact (inferInstance : Keeps (Simulated L) (startCommittedEncoderRecovery P)).keeps s
  · unfold reportTransactionFailed session
    rw [exec_read_bind, exec_modifyEncoder_bind]
    exact simulated_failure (reportFailed_endsBy _ _ _) hmeets

theorem simulated_expireEncoderTransaction {s : SenderState}
    (hmeets : L.Meets s .expireEncoderTransaction) :
    Simulated L s (exec (expireEncoderTransaction P) s).2 := by
  have hnow : exec instantNow s = (.ok s.turn.now, s.turn) := rfl
  have hturn : Simulated L s s.turn := simulated_same rfl rfl
  have hfailure : Simulated L s.turn (exec (handleEncoderFailureTransition P
      (s.session.encoder.applyState.expire s.turn.now).1)
      (s.turn.setEncoder (s.session.encoder.setApplyState
        (s.session.encoder.applyState.expire s.turn.now).2))).2 :=
    @simulated_failure L P s.turn _ (expire_endsBy _ _) hmeets
  unfold expireEncoderTransaction session
  rw [exec_bind_ok hnow, exec_read_bind, exec_modifyEncoder_bind]
  exact keeps_from (Frame.trans hturn hfailure) fun _ => inferInstance

/-! ## Admission -/

theorem exec_fecProtectionFor (isKeyframe : Bool) (s : SenderState) :
    ∃ fec s', exec (fecProtectionFor isKeyframe) s = (.ok fec, s') ∧
      s'.session = s.session ∧ s'.trace = s.trace := by
  unfold fecProtectionFor
  split
  · exact ⟨_, _, rfl, rfl, rfl⟩
  · exact ⟨_, _, rfl, rfl, rfl⟩

/-- What the packetization of an access unit leaves in the state. -/
def Packetizes (s : SenderState) (unit : NativeEncoderAccessUnit)
    (outcome : Except SessionFault Nat) (s' : SenderState) : Prop :=
  s'.session.lifecycle = s.session.lifecycle ∧
    ((∃ error, outcome = .error error ∧ (s'.path = s.path ∨
        s'.path = { s.path with pending := pendingRoom s.path.pending })) ∨
      ∃ created batch, outcome = .ok created ∧ s'.path = s.path.push batch ∧
        Carries batch unit.isKeyframe unit.streamEpoch)

theorem packetize_spec (P : SenderPlatform) (s : SenderState) (unit : NativeEncoderAccessUnit)
    (fec : FecProtection) (hlt : unit.streamEpoch < 256 ^ 4) :
    Packetizes s unit (exec (packetize P unit fec) s).1 (exec (packetize P unit fec) s).2 := by
  have hcases := packetizeIntoPending_cases P.codecs s.session.pipeline unit.data
    unit.isKeyframe unit.ptsUs unit.encodedAtUs fec hlt
  dsimp only at hcases
  unfold packetize session modifySession
  rw [exec_read_bind, exec_update_bind]
  generalize packetizeIntoPending P.codecs s.session.pipeline unit.data unit.isKeyframe
    unit.ptsUs unit.encodedAtUs unit.streamEpoch fec = packed at hcases ⊢
  have hpath : ({ s with session := s.session.setPipeline packed.2 } : SenderState).path =
      { s.path with pending := packed.2.pending } := rfl
  rw [exec_ofExcept]
  refine ⟨rfl, ?_⟩
  rw [hpath]
  cases hcases with
  | inl hfailed =>
      obtain ⟨error, herror, hpending⟩ := hfailed
      refine Or.inl ⟨_, by rw [herror]; rfl, ?_⟩
      cases hpending with
      | inl hsame => exact Or.inl (by rw [hsame]; rfl)
      | inr hroom => exact Or.inr (by rw [hroom]; rfl)
  | inr hpacked =>
      obtain ⟨created, batch, hcreated, hpending, hcarries⟩ := hpacked
      exact Or.inr ⟨created, batch, by rw [hcreated]; rfl, by rw [hpending]; rfl, hcarries⟩

theorem exec_noteAdmitted {s : SenderState} {p : EncoderPath} {batch : VideoDatagramBatch}
    (unit : NativeEncoderAccessUnit) (hpath : s.path.pending = (p.push batch).pending) :
    ∃ s', exec (noteAdmitted unit) s = (.ok (), s') ∧
      s'.path = s.path.mark (.admitted unit.facts batch) ∧
        s'.session.lifecycle = s.session.lifecycle := by
  have hlast : s.session.pipeline.pending.getLast? = some batch := by
    rw [show s.session.pipeline.pending = pendingRoom p.pending ++ [batch] from hpath,
      List.getLast?_concat]
  unfold noteAdmitted session
  rw [exec_read_bind, hlast]
  exact ⟨_, rfl, rfl, rfl⟩

/-- An access unit that was let in has the committed format, if there is one. -/
theorem exec_commitSourceFormat {s : SenderState}
    (hformat : s.session.encoder.formatChanged = false) :
    ∃ s', exec commitSourceFormat s = (.ok (), s') ∧ s'.path = s.path.observe ∧
      s'.session.lifecycle = s.session.lifecycle := by
  unfold commitSourceFormat session EncoderPath.observe
  rw [exec_read_bind]
  cases hconfig : s.session.encoder.pendingStreamConfig with
  | none =>
      rw [show s.path.encoder.pendingStreamConfig = none from hconfig]
      exact ⟨s, rfl, rfl, rfl⟩
  | some config =>
      rw [show s.path.encoder.pendingStreamConfig = some config from hconfig]
      cases hcommitted : s.session.encoder.committedSourceFormat with
      | none =>
          rw [show s.path.encoder.committedSourceFormat = none from hcommitted]
          exact ⟨_, rfl, rfl, rfl⟩
      | some format =>
          rw [show s.path.encoder.committedSourceFormat = some format from hcommitted]
          unfold EncoderState.formatChanged at hformat
          rw [hconfig, hcommitted] at hformat
          have hsame : config.sourceFormat = format :=
            sourceFormat_of_matches (Bool.not_eq_eq_eq_not.mp hformat)
          have hkept : s.session.encoder.commitSourceFormat config.sourceFormat =
              s.session.encoder := by
            unfold EncoderState.commitSourceFormat
            rw [hsame, ← hcommitted]
          refine ⟨_, rfl, ?_, rfl⟩
          change EncoderPath.mk (s.session.encoder.commitSourceFormat config.sourceFormat)
            _ _ _ _ = s.path
          rw [hkept]
          rfl

theorem observe_push (p : EncoderPath) (batch : VideoDatagramBatch) :
    (p.push batch).observe = p.observe.push batch := by
  unfold EncoderPath.observe EncoderPath.push
  dsimp only
  split <;> rfl

theorem connected_of_active {s : SenderState} (h : s.session.activeSession ≠ none) :
    s.path.connection ≠ none := by
  intro hnone
  apply h
  unfold SenderSession.activeSession
  rw [show s.session.lifecycle.activeGeneration = none from hnone]
  rfl

theorem simulated_ingestCommitted {s : SenderState} {unit : NativeEncoderAccessUnit}
    (hactive : s.session.activeSession ≠ none)
    (hidle : s.session.encoder.applyState = .committed)
    (hlimit : s.session.encoder.isCommittedFact unit → L.admits s.path unit.facts) :
    Simulated L s (exec (ingestCommitted P unit) s).2 := by
  unfold ingestCommitted session
  rw [exec_read_bind]
  split
  · exact Frame.refl s
  next hfact =>
    split
    · exact Frame.refl s
    split
    · exact Frame.refl s
    next hformat =>
      rw [Bool.not_eq_false] at hfact
      rw [Bool.not_eq_true] at hformat
      obtain ⟨-, -, hgeneration, hepoch, hheight⟩ := of_decide_eq_true hfact
      obtain ⟨fec, prepared, hfec, hsession, htrace⟩ := exec_fecProtectionFor unit.isKeyframe s
      rw [exec_bind_ok hfec]
      have hpath : prepared.path = s.path := by
        unfold SenderState.path
        rw [hsession, htrace]
      intro known
      have hlt : unit.streamEpoch < 256 ^ 4 :=
        lt_wire_of_bounded known.bounded (hepoch ▸ known.bounded.current)
      obtain ⟨hlifecycle, hcases⟩ := packetize_spec P prepared unit fec hlt
      generalize hexec : exec (packetize P unit fec) prepared = packed at hlifecycle hcases
      obtain ⟨outcome, packed⟩ := packed
      rw [hsession] at hlifecycle
      rw [hpath] at hcases
      cases hcases with
      | inl hfailed =>
          obtain ⟨error, rfl, hpacked⟩ := hfailed
          rw [exec_bind_error hexec]
          cases hpacked with
          | inl hsame => exact simulated_path hsame hlifecycle known
          | inr hroom =>
              exact simulated_change hlifecycle (fun _ => hroom ▸ Change.makeRoom s.path) known
      | inr hpacked =>
          obtain ⟨created, batch, rfl, hpushed, hcarries⟩ := hpacked
          have hencoder : packed.session.encoder = s.session.encoder :=
            congrArg EncoderPath.encoder hpushed
          obtain ⟨observed, hobserve, hobserved, hsame⟩ :=
            @exec_commitSourceFormat packed (hencoder.symm ▸ hformat)
          rw [hpushed, observe_push] at hobserved
          obtain ⟨noted, hnote, hnoted, hkept⟩ :=
            exec_noteAdmitted unit (congrArg EncoderPath.pending hobserved)
          rw [exec_bind_ok hexec, exec_bind_ok hobserve, exec_bind_ok hnote]
          have hadmit : Simulated L s noted := by
            refine simulated_change (hkept.trans (hsame.trans hlifecycle)) fun _ => ?_
            rw [hnoted, hobserved]
            exact Change.enqueue s.path unit.facts batch (connected_of_active hactive) hidle
              ⟨hgeneration, hepoch, hheight⟩ hcarries (hlimit hfact)
          have hrest : Keeps (Simulated L) (do
              when unit.isKeyframe (modifySession SenderSession.endKeyframeRequest)
              pure created) := inferInstance
          exact Frame.trans hadmit (hrest.keeps noted) known

theorem exec_commitTransaction {s : SenderState} {transaction : EncoderTransaction}
    {unit : NativeEncoderAccessUnit} (config : StreamConfigParams)
    (happlying : s.session.encoder.applyState = .applying transaction)
    (hmatched : transaction.matchesNativeFacts unit.transactionId unit.encoderGeneration
      unit.streamEpoch unit.height) :
    ∃ s', exec (commitTransaction unit config) s = (.ok (), s') ∧
      s'.path = (s.path.setEncoder (s.path.encoder.committedBy transaction unit.facts
        config)).mark (.committed transaction.directive unit.facts) ∧
        s'.session.lifecycle = s.session.lifecycle := by
  have htaken : s.session.encoder.applyState.takeMatchingKeyframe unit.transactionId
      unit.encoderGeneration unit.streamEpoch unit.height true =
        (some transaction, .committed) := by
    rw [happlying]
    unfold EncoderApplyState.takeMatchingKeyframe
    dsimp only
    rw [if_pos rfl, if_pos hmatched]
  unfold commitTransaction session
  rw [exec_read_bind, exec_modifyEncoder_bind, htaken]
  exact ⟨_, rfl, rfl, rfl⟩

theorem lt_wire_of_applying {e : EncoderState} {transaction : EncoderTransaction}
    {facts : EncodedFacts} {config : StreamConfigParams} (h : Bounded e)
    (happlying : e.applyState = .applying transaction)
    (hcompletes : Completes transaction facts config) : facts.streamEpoch < 256 ^ 4 := by
  obtain ⟨hdirective, -⟩ := of_decide_eq_true hcompletes.matched
  obtain ⟨-, hepoch, -⟩ := of_decide_eq_true hdirective
  exact hepoch ▸ lt_wire_of_bounded h (h.applying transaction happlying)

theorem simulated_commit {s : SenderState} {transaction : EncoderTransaction}
    {unit : NativeEncoderAccessUnit} {config : StreamConfigParams}
    (hconnected : s.path.connection ≠ none)
    (happlying : s.session.encoder.applyState = .applying transaction)
    (hcompletes : Completes transaction unit.facts config)
    (hannounced : unit.streamEpoch ∈ told s.trace) :
    Simulated L s (exec (do
      let fec ← fecProtectionFor true
      let packets ← packetize P unit fec
      commitTransaction unit config
      noteAdmitted unit
      modifySession SenderSession.endKeyframeRequest
      pure packets) s).2 := by
  obtain ⟨fec, prepared, hfec, hsession, htrace⟩ := exec_fecProtectionFor true s
  rw [exec_bind_ok hfec]
  have hpath : prepared.path = s.path := by
    unfold SenderState.path
    rw [hsession, htrace]
  intro known
  have hlt : unit.streamEpoch < 256 ^ 4 :=
    lt_wire_of_applying known.bounded happlying hcompletes
  obtain ⟨hlifecycle, hcases⟩ := packetize_spec P prepared unit fec hlt
  generalize hexec : exec (packetize P unit fec) prepared = packed at hlifecycle hcases
  obtain ⟨outcome, packed⟩ := packed
  rw [hsession] at hlifecycle
  rw [hpath] at hcases
  cases hcases with
  | inl hfailed =>
      obtain ⟨error, rfl, hpacked⟩ := hfailed
      rw [exec_bind_error hexec]
      cases hpacked with
      | inl hsame => exact simulated_path hsame hlifecycle known
      | inr hroom =>
          exact simulated_change hlifecycle (fun _ => hroom ▸ Change.makeRoom s.path) known
  | inr hpacked =>
      obtain ⟨created, batch, rfl, hpushed, hcarries⟩ := hpacked
      have hencoder : packed.session.encoder = s.session.encoder :=
        congrArg EncoderPath.encoder hpushed
      obtain ⟨committed, hcommit, hcommitted, hsame⟩ :=
        @exec_commitTransaction packed transaction unit config (hencoder.symm ▸ happlying)
          hcompletes.matched
      rw [hpushed] at hcommitted
      obtain ⟨noted, hnote, hnoted, hkept⟩ :=
        @exec_noteAdmitted committed s.path batch unit (by rw [hcommitted]; rfl)
      rw [exec_bind_ok hexec, exec_bind_ok hcommit, exec_bind_ok hnote]
      have hadmit : Simulated L s noted := by
        refine simulated_change (hkept.trans (hsame.trans hlifecycle)) fun _ => ?_
        rw [hnoted, hcommitted]
        exact Change.commit s.path transaction unit.facts config batch hconnected happlying
          hcompletes hannounced hcarries
      have hrest : Keeps (Simulated L) (do
          modifySession SenderSession.endKeyframeRequest
          pure created) := inferInstance
      exact Frame.trans hadmit (hrest.keeps noted) known

theorem simulated_ingestCandidate {s : SenderState} {unit : NativeEncoderAccessUnit}
    (hactive : s.session.activeSession ≠ none)
    (hlimit : s.session.encoder.applyState.matchesNativeFacts unit.transactionId
      unit.encoderGeneration unit.streamEpoch unit.height → unit.isKeyframe →
        L.announces s.path unit.streamEpoch) :
    Simulated L s (exec (ingestCandidate P unit) s).2 := by
  unfold ingestCandidate session
  rw [exec_read_bind]
  dsimp only
  split
  · exact Frame.refl s
  next hexpected =>
    split
    · exact Frame.refl s
    next config hconfig =>
      split
      · exact Frame.refl s
      split
      · exact Frame.refl s
      next hformat =>
        obtain ⟨hmatches, hkeyframe⟩ := not_or.mp hexpected
        rw [Bool.not_eq_false] at hmatches hkeyframe
        obtain ⟨transaction, happlying⟩ : ∃ transaction,
            s.session.encoder.applyState = .applying transaction := by
          cases hstate : s.session.encoder.applyState with
          | committed =>
              rw [hstate] at hmatches
              cases hmatches
          | applying transaction => exact ⟨transaction, rfl⟩
        have hmatched : transaction.matchesNativeFacts unit.transactionId unit.encoderGeneration
            unit.streamEpoch unit.height := by
          rw [happlying] at hmatches
          exact hmatches
        have hcompletes : Completes transaction unit.facts
            { config with streamEpoch := unit.streamEpoch } := by
          refine ⟨hmatched, hkeyframe, ?_, rfl⟩
          by_contra hdiffers
          rw [Bool.not_eq_true] at hdiffers
          exact hformat ⟨transaction.directive, by rw [happlying]; rfl, hdiffers⟩
        obtain ⟨hlifecycle, hcases⟩ := sendStreamConfigForEpoch_spec P s
          { config with streamEpoch := unit.streamEpoch } unit.streamEpoch
        generalize hexec : exec (sendStreamConfigForEpoch P _ _) s = sent at hlifecycle hcases
        obtain ⟨outcome, sent⟩ := sent
        cases hcases with
        | inl hfailed =>
            obtain ⟨error, rfl, hpath⟩ := hfailed
            rw [exec_bind_error hexec]
            exact simulated_path hpath hlifecycle
        | inr hsent =>
            obtain ⟨session, messageId, wire, rfl, hconnected, hepoch, hpath⟩ := hsent
            rw [exec_bind_ok hexec]
            have hdirective : transaction.directive.streamEpoch = unit.streamEpoch := by
              obtain ⟨hdirective, -⟩ := of_decide_eq_true hmatched
              exact (of_decide_eq_true hdirective).2.1
            have hannounce : Simulated L s sent := by
              refine simulated_change hlifecycle fun _ => ?_
              rw [hpath]
              exact Change.announce s.path transaction session messageId wire hconnected happlying
                (hepoch.trans hdirective.symm)
                (hdirective.symm ▸ hlimit (happlying ▸ hmatched) hkeyframe)
            have hencoder : sent.session.encoder = s.session.encoder :=
              congrArg EncoderPath.encoder hpath
            have hannounced : unit.streamEpoch ∈ told sent.trace := by
              rw [show sent.trace = s.trace ++ [_] from congrArg EncoderPath.marks hpath,
                told_snoc]
              exact List.mem_append_right _ (List.mem_singleton.mpr hepoch.symm)
            refine Frame.trans hannounce (simulated_commit ?_ (hencoder.symm ▸ happlying)
              hcompletes hannounced)
            rw [hpath]
            exact connected_of_active hactive

theorem simulated_ingestEncoderAccessUnit {s : SenderState} {unit : NativeEncoderAccessUnit}
    (hmeets : L.Meets s (.ingestEncoderAccessUnit unit)) :
    Simulated L s (exec (ingestEncoderAccessUnit P unit) s).2 := by
  unfold ingestEncoderAccessUnit session
  rw [exec_read_bind]
  split
  · exact Frame.refl s
  next hdata =>
    split
    · exact Frame.refl s
    next hactive =>
      split
      · exact simulated_change rfl fun _ => Change.clear s.path
      next hstreaming =>
        obtain ⟨hadmits, hannounces⟩ := hmeets hdata hactive (Bool.not_eq_false _ ▸ hstreaming)
        split
        · exact simulated_ingestCandidate hactive hannounces
        next hidle =>
          have hcommitted := idle_of_not_applying hidle
          exact simulated_ingestCommitted hactive hcommitted (hadmits hcommitted)

/-! ## Sending -/

theorem exec_sendBatches (session : SessionId) (batches : List VideoDatagramBatch)
    (s : SenderState) :
    ∃ sent rest, batches = sent ++ rest ∧
      (exec (sendBatches session batches) s).2.path =
        { s.path with marks := s.path.marks ++ sent.map (.mediaSent session) } ∧
      (exec (sendBatches session batches) s).2.session.lifecycle = s.session.lifecycle := by
  induction batches generalizing s with
  | nil => exact ⟨[], [], rfl, by rw [List.map_nil, List.append_nil]; rfl, rfl⟩
  | cons batch batches ih =>
      have hlook : exec (look Answers.sendVideoBatch) s = (.ok s.answer.sendVideoBatch, s.turn) :=
        rfl
      unfold sendBatches
      rw [exec_bind_ok hlook]
      cases s.answer.sendVideoBatch with
      | error error =>
          exact ⟨[], batch :: batches, rfl, by rw [List.map_nil, List.append_nil]; rfl, rfl⟩
      | ok taken =>
          let noted : SenderState := { s.turn with
            trace := s.turn.trace ++ [.mediaSent session batch] }
          obtain ⟨sent, rest, rfl, hpath, hlifecycle⟩ := ih noted
          have hnote : exec (note (.mediaSent session batch)) s.turn = (.ok (), noted) := rfl
          dsimp only
          rw [exec_bind_ok hnote, exec_bind_pure]
          refine ⟨batch :: sent, rest, rfl, ?_, hlifecycle⟩
          refine hpath.trans ?_
          change EncoderPath.mk _ _ _ _ ((s.trace ++ [_]) ++ _) = _
          rw [List.append_assoc]
          rfl

instance : Keeps (Simulated L) flushPending := by
  constructor
  intro s
  have hsession := exec_requireSession s
  unfold flushPending
  cases hactive : s.session.lifecycle.activeGeneration with
  | none =>
      rw [hactive] at hsession
      rw [exec_bind_error hsession]
      exact Frame.refl s
  | some generation =>
      rw [hactive] at hsession
      unfold Core.session modifySession
      rw [exec_bind_ok hsession, exec_read_bind, exec_update_bind]
      split
      · exact simulated_change rfl fun _ => Change.clear s.path
      · obtain ⟨sent, rest, hsplit, hpath, hlifecycle⟩ := exec_sendBatches ⟨generation⟩
          s.session.pipeline.pending { s with session := s.session.clearPendingPackets }
        refine simulated_change hlifecycle fun _ => ?_
        rw [hpath]
        exact Change.flush s.path ⟨generation⟩ sent rest hactive hsplit

/-! ## The facts of a callback -/

instance (transactionId : Nat) (event : NativeEncoderEvent) :
    Keeps (Simulated L) (acceptNativeFacts transactionId event) := by
  unfold acceptNativeFacts
  infer_instance

instance (event : NativeEncoderEvent) : Keeps (Simulated L) (stageEventConfig event) := by
  unfold stageEventConfig
  split <;> infer_instance

instance (data : Bytes) : Keeps (Simulated L) (alignedData P data) := by
  unfold alignedData
  apply keeps_then inferInstance
  intro s
  split <;> infer_instance

instance (event : NativeEncoderEvent) : Keeps (Simulated L) (prepareEncoderEvent P event) := by
  unfold prepareEncoderEvent
  infer_instance

/-! ## Runs -/

theorem next_simulated {s : SenderState} {label : SenderStep} (hmeets : L.Meets s label) :
    Simulated L s (next P s label) := by
  cases label with
  | schedule answers => exact simulated_same rfl rfl
  | turn => exact simulated_same rfl rfl
  | expireEncoderTransaction => exact simulated_expireEncoderTransaction hmeets
  | reportEncoderFailed transactionId encoderGeneration =>
      exact simulated_reportEncoderFailed hmeets
  | ingestEncoderAccessUnit unit => exact simulated_ingestEncoderAccessUnit hmeets
  | drainEvents => exact (inferInstance : Keeps (Simulated L) (drainEvents P)).keeps s
  | reconnectWhenDue => exact (inferInstance : Keeps (Simulated L) (reconnectWhenDue P)).keeps s
  | publishWhenStreaming =>
      exact (inferInstance : Keeps (Simulated L) (publishWhenStreaming P)).keeps s
  | connect endpoint => exact (inferInstance : Keeps (Simulated L) (connect P endpoint)).keeps s
  | disconnect => exact (inferInstance : Keeps (Simulated L) (disconnect P)).keeps s
  | setAutoReconnect enabled =>
      exact (inferInstance : Keeps (Simulated L) (setAutoReconnect enabled)).keeps s
  | sendClientHello => exact (inferInstance : Keeps (Simulated L) (sendClientHello P)).keeps s
  | sendPairingConfirm receiverId =>
      exact (inferInstance : Keeps (Simulated L) (sendPairingConfirm P receiverId)).keeps s
  | sendStartStream => exact (inferInstance : Keeps (Simulated L) (sendStartStream P)).keeps s
  | sendStopStream => exact (inferInstance : Keeps (Simulated L) (sendStopStream P)).keeps s
  | removeTrustedDevice deviceId =>
      exact (inferInstance : Keeps (Simulated L) (removeTrustedDevice P deviceId)).keeps s
  | markPermissionRequired =>
      exact (inferInstance :
        Keeps (Simulated L) (modifySession SenderSession.markPermissionRequired)).keeps s
  | clearPermissionRequired =>
      exact (inferInstance :
        Keeps (Simulated L) (modifySession SenderSession.clearPermissionRequired)).keeps s
  | setStreamConfig config =>
      exact (inferInstance : Keeps (Simulated L) (setStreamConfig config)).keeps s
  | beginStreamReconfiguration targetFormat =>
      exact (inferInstance :
        Keeps (Simulated L) (beginStreamReconfiguration targetFormat)).keeps s
  | reportEncoderStarted transactionId encoderGeneration streamEpoch height =>
      exact (inferInstance : Keeps (Simulated L)
        (reportEncoderStarted transactionId encoderGeneration streamEpoch height)).keeps s
  | prepareEncoderEvent event =>
      exact (inferInstance : Keeps (Simulated L) (prepareEncoderEvent P event)).keeps s
  | flushPending => exact (inferInstance : Keeps (Simulated L) flushPending).keeps s
  | takeKeyframeRequest => exact (inferInstance : Keeps (Simulated L) takeKeyframeRequest).keeps s
  | takeCameraCommand => exact (inferInstance : Keeps (Simulated L) takeCameraCommand).keeps s

end Core

/-- The path of a new session. -/
def EncoderPath.new : EncoderPath where
  encoder := EncoderState.new
  connection := none
  pending := []
  received := 0
  marks := []

theorem bounded_new : Bounded EncoderState.new where
  allocated := by decide
  current := Nat.le_refl _
  applying _ happlying := by cases happlying

theorem known_new (identity : DeviceIdentity) (trusted : TrustedDeviceStore) (hasPath : Bool) :
    Known (SenderState.new identity trusted hasPath) where
  unconnected _ := rfl
  requested := ⟨nofun, nofun⟩
  bounded := bounded_new

theorem next_changes {s : SenderState} {label : SenderStep} (known : Known s)
    (hmeets : L.Meets s label) :
    Known (Core.next P s label) ∧ Changes L s.path (Core.next P s label).path :=
  have h : Simulated L s (Core.next P s label) := Core.next_simulated hmeets
  ⟨h.known known, (h known).2⟩

theorem path_invariant {Inv : EncoderPath → Prop} (hnew : Inv EncoderPath.new)
    (hchange : ∀ p q, Bounded p.encoder → Inv p → Change L p q → Inv q) {s : SenderState}
    (h : TransitionSystem.Reachable ((senderSystem P).restrict L.Meets) s) :
    Known s ∧ Inv s.path := by
  refine @TransitionSystem.Reachable.invariant _ _ _ s (fun s => Known s ∧ Inv s.path) ?_ ?_ h
  · rintro s ⟨identity, trusted, hasPath, rfl⟩
    exact ⟨known_new identity trusted hasPath, hnew⟩
  · rintro s label t ⟨known, hinv⟩ ⟨hmeets, rfl⟩
    obtain ⟨hknown, hchanges⟩ := @next_changes L P s label known hmeets
    have hkept : ∀ p q, Bounded p.encoder ∧ Inv p → Change L p q →
        Bounded q.encoder ∧ Inv q :=
      fun p q hp hstep => ⟨bounded_change hp.1 hstep, hchange p q hp.1 hp.2 hstep⟩
    exact ⟨hknown, (hchanges.preserves hkept ⟨known.bounded, hinv⟩).2⟩

theorem reachable_unlimited {s : SenderState}
    (h : TransitionSystem.Reachable (senderSystem P) s) :
    TransitionSystem.Reachable ((senderSystem P).restrict Limits.none.Meets) s := by
  refine @TransitionSystem.Reachable.invariant _ _ (senderSystem P) s
    (TransitionSystem.Reachable ((senderSystem P).restrict Limits.none.Meets))
    (fun s hs => TransitionSystem.Reachable.of_init hs) ?_ h
  intro s label t hs hstep
  refine hs.step ⟨?_, hstep⟩
  cases label
  all_goals first
    | trivial
    | exact fun _ _ => trivial
    | exact fun _ _ _ => ⟨fun _ _ => trivial, fun _ _ => trivial⟩

end PicooCamera.Sender
