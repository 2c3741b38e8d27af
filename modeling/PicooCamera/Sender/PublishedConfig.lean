import PicooCamera.Sender.AdmittedBudget
import PicooCamera.Sender.OperationSimulation

/-!
# A configuration is published before its access unit

What the pump does between the check of an access unit and its admission, where
the Receiver keeps its offers: the configuration that was staged with the access
unit stays at hand until it is sent, and media goes on only after that.
-/

namespace PicooCamera.Sender

open PicooCamera.Library PicooCamera.Protocol PicooCamera.Packet PicooCamera.Session
open PicooCamera.Pairing PicooCamera.Transport Program

/-- A configuration that was staged with its access unit. The Receiver reads the format from it,
and the offers that the access unit was checked with have room for it. -/
structure StagedConfig (P : SenderPlatform) where
  config : StreamConfigParams
  format : VideoFormat
  offers : Capabilities
  read : ∀ wire, config.toProto P.bitstream = .ok wire →
    P.bitstream.validatedVideoFormat wire = .ok format
  supported : ∀ wire, config.toProto P.bitstream = .ok wire →
    offers.supports format wire.levelIdc 1 = true

/-- The configuration waits to be sent, or the Receiver was told of it. -/
structure Awaits {P : SenderPlatform} (x : StagedConfig P) (s : SenderState) : Prop where
  idle : s.session.encoder.applyState = .committed
  epoch : s.session.encoder.currentStreamEpoch = x.config.streamEpoch
  pending : s.session.encoder.pendingStreamConfig = some x.config
  offers : s.session.lifecycle.activeGeneration ≠ none →
    s.session.receiverCapabilities = some x.offers
  sent : s.session.encoder.streamConfigSent = true →
    announcedFormat P.bitstream (toldConfigs s.trace) x.config.streamEpoch = some x.format

/-- More is done, and unless the Receiver or its offers are replaced the configuration is not
lost. -/
def Staying {P : SenderPlatform} (x : StagedConfig P) (s t : SenderState) : Prop :=
  ∃ more, t.trace = s.trace ++ more ∧
    ((∀ mark ∈ more, mark.KeepsOffers x.offers) → Awaits x s → Awaits x t)

instance {P : SenderPlatform} (x : StagedConfig P) : Frame (Staying x) where
  refl s := ⟨[], (List.append_nil _).symm, fun _ h => h⟩
  trans := by
    rintro s t u ⟨first, hfirst, hst⟩ ⟨second, hsecond, htu⟩
    refine ⟨first ++ second, by rw [hsecond, hfirst, List.append_assoc], fun hkept hs => ?_⟩
    rw [List.forall_mem_append] at hkept
    exact htu hkept.2 (hst hkept.1 hs)

/-- What was done stays done. -/
def Grows (s t : SenderState) : Prop := ∃ more, t.trace = s.trace ++ more

instance : Frame Grows where
  refl _ := ⟨[], (List.append_nil _).symm⟩
  trans := by
    rintro s t u ⟨first, hfirst⟩ ⟨second, hsecond⟩
    exact ⟨first ++ second, by rw [hsecond, hfirst, List.append_assoc]⟩

/-- What `Awaits` depends on, beside the trace. -/
structure SenderSession.Evidence where
  encoder : EncoderState
  receiverCapabilities : Option Capabilities
  activeGeneration : Option Nat

def SenderSession.evidence (s : SenderSession) : SenderSession.Evidence :=
  ⟨s.encoder, s.receiverCapabilities, s.lifecycle.activeGeneration⟩

/-- The effects that neither end nor begin a connection. -/
def SenderEffect.isPlain : SenderEffect → Bool
  | .prepareConnection _ => false
  | .resetSessionResources => false
  | _ => true

namespace Core

variable {P : SenderPlatform} {x : StagedConfig P} {s t : SenderState}

theorem awaits_of_evidence (h : t.session.evidence = s.session.evidence)
    (htold : toldConfigs t.trace = toldConfigs s.trace) (hs : Awaits x s) : Awaits x t := by
  have hencoder : t.session.encoder = s.session.encoder :=
    congrArg SenderSession.Evidence.encoder h
  have hoffers : t.session.receiverCapabilities = s.session.receiverCapabilities :=
    congrArg SenderSession.Evidence.receiverCapabilities h
  have hactive : t.session.lifecycle.activeGeneration = s.session.lifecycle.activeGeneration :=
    congrArg SenderSession.Evidence.activeGeneration h
  refine ⟨?_, ?_, ?_, ?_, ?_⟩
  · exact hencoder ▸ hs.idle
  · exact hencoder ▸ hs.epoch
  · exact hencoder ▸ hs.pending
  · rw [hactive, hoffers]
    exact hs.offers
  · rw [hencoder, htold]
    exact hs.sent

theorem staying_silent (htrace : t.trace = s.trace) (h : Awaits x s → Awaits x t) :
    Staying x s t :=
  ⟨[], htrace.trans (List.append_nil _).symm, fun _ => h⟩

theorem staying_session {f : SenderSession → SenderSession}
    (h : ∀ s, (f s).evidence = s.evidence) : Keeps (Staying x) (modifySession f) :=
  keeps_update fun s => staying_silent rfl (awaits_of_evidence (h s.session) rfl)

theorem staying_note {mark : SenderMark} (h : ∀ configs, tellConfig configs mark = configs) :
    Keeps (Staying x) (note mark) :=
  keeps_update fun s =>
    ⟨[mark], rfl, fun _ => awaits_of_evidence rfl ((toldConfigs_snoc s.trace mark).trans (h _))⟩

/-! ## The surroundings -/

instance : Keeps (Staying x) (update SenderState.turn : Core Unit) :=
  keeps_update fun _ => staying_silent rfl (awaits_of_evidence rfl rfl)

instance {α : Type} (f : Answers → α) : Keeps (Staying x) (look f) := by
  unfold look
  infer_instance

instance : Keeps (Staying x) instantNow := by
  unfold instantNow
  infer_instance

instance : Keeps (Staying x) session := by
  unfold session
  infer_instance

instance : Keeps (Staying x) requireSession := by
  unfold requireSession
  apply keeps_then inferInstance
  intro s
  split <;> infer_instance

instance (code : String) : Keeps (Staying x) (setError code) := staying_session fun _ => rfl

instance : Keeps (Staying x) (modifySession SenderSession.clearError) :=
  staying_session fun _ => rfl

instance : Keeps (Staying x) (modifySession SenderSession.requestKeyframe) :=
  staying_session fun _ => rfl

instance : Keeps (Staying x) (modifySession SenderSession.disableReconnect) :=
  staying_session fun _ => rfl

instance (trust : TrustState) : Keeps (Staying x) (modifySession fun s => s.setTrust trust) :=
  staying_session fun _ => rfl

instance (stream : SenderSession → StreamState) :
    Keeps (Staying x) (modifySession fun s => s.setStream (stream s)) :=
  staying_session fun _ => rfl

instance (health : HealthState) : Keeps (Staying x) (modifySession fun s => s.setHealth health) :=
  staying_session fun _ => rfl

instance (trusted : TrustedDeviceStore) :
    Keeps (Staying x) (modifySession fun s => s.setTrusted trusted) :=
  staying_session fun _ => rfl

theorem staying_sendControlPayload (target : SessionId) {payload : ControlPayload}
    (h : ∀ messageId configs,
      tellConfig configs (.controlSent target messageId payload) = configs) :
    Keeps (Staying x) (sendControlPayload target payload) := by
  have hcount : Keeps (Staying x) (modifySession SenderSession.countControlMessage) :=
    staying_session fun _ => rfl
  unfold sendControlPayload
  apply keeps_then inferInstance
  intro s
  apply keeps_then inferInstance
  intro _
  apply keeps_then inferInstance
  intro answer
  split
  · exact staying_note (h _)
  · infer_instance

instance : Keeps (Staying x) emitClientHello := by
  have hstart : ∀ nonce, Keeps (Staying x) (modifySession fun s => s.startChallenge nonce) :=
    fun _ => staying_session fun _ => rfl
  have hsend : ∀ target hello, Keeps (Staying x) (sendControlPayload target (.clientHello hello)) :=
    fun target _ => staying_sendControlPayload target fun _ _ => rfl
  unfold emitClientHello
  apply keeps_then inferInstance
  intro target
  apply keeps_then inferInstance
  intro nonce
  split <;> infer_instance

/-! ## Events of the lifecycle -/

section Layer

variable {apply : SenderEvent → Core (List SenderEffect)}

instance [∀ event, Keeps (Staying x) (apply event)] (code : String) :
    Keeps (Staying x) (rejectAuthenticationWith apply code) := by
  unfold rejectAuthenticationWith
  apply keeps_then inferInstance
  intro _
  apply keeps_then inferInstance
  intro s
  split <;> infer_instance

instance [∀ event, Keeps (Staying x) (apply event)] : Keeps (Staying x) (helloOnConnect apply) := by
  unfold helloOnConnect
  apply keeps_then inferInstance
  intro s
  split
  · apply keeps_then inferInstance
    intro outcome
    split <;> infer_instance
  · infer_instance

theorem staying_applyEffect [∀ event, Keeps (Staying x) (apply event)] {effect : SenderEffect}
    (h : effect.isPlain) : Keeps (Staying x) (applyEffect apply effect) := by
  have hcount : Keeps (Staying x) (modifySession SenderSession.countReconnect) :=
    staying_session fun _ => rfl
  have harm : ∀ deadline, Keeps (Staying x) (modifySession fun s => s.armReconnect deadline) :=
    fun _ => staying_session fun _ => rfl
  have hclear : Keeps (Staying x) (modifySession SenderSession.clearConnectionIntent) :=
    staying_session fun _ => rfl
  have hclosed : ∀ generation, Keeps (Staying x) (note (.closed generation)) :=
    fun _ => staying_note fun _ => rfl
  have hasked : ∀ endpoint outcome, Keeps (Staying x) (note (.asked endpoint outcome)) :=
    fun _ _ => staying_note fun _ => rfl
  cases effect with
  | prepareConnection generation => exact nomatch h
  | resetSessionResources => exact nomatch h
  | scheduleReconnect =>
      unfold applyEffect scheduleReconnect
      apply keeps_then inferInstance
      intro s
      split <;> infer_instance
  | startReconnect =>
      unfold applyEffect startReconnect
      apply keeps_then inferInstance
      intro s
      split
      · infer_instance
      · apply keeps_then inferInstance
        intro outcome
        apply keeps_then inferInstance
        intro _
        split <;> infer_instance
  | _ =>
      unfold applyEffect
      infer_instance

theorem staying_applyEffects [∀ event, Keeps (Staying x) (apply event)]
    {effects : List SenderEffect} (h : ∀ effect ∈ effects, effect.isPlain) :
    Keeps (Staying x) (applyEffects apply effects) := by
  induction effects with
  | nil =>
      unfold applyEffects
      infer_instance
  | cons effect rest ih =>
      unfold applyEffects
      exact keeps_then (staying_applyEffect (h effect List.mem_cons_self))
        fun _ => ih fun e he => h e (List.mem_cons_of_mem _ he)

/-- What becomes of the connection at an event that brings no new one. -/
inductive Leaves (state : SenderReducerState) : SenderReducerState × List SenderEffect → Prop
  | stays (state' : SenderReducerState) (effects : List SenderEffect)
      (fewer : state'.activeGeneration = state.activeGeneration ∨ state'.activeGeneration = none)
      (plain : ∀ effect ∈ effects, effect.isPlain) : Leaves state (state', effects)
  | ends (state' : SenderReducerState) (effects : List SenderEffect)
      (ended : state'.activeGeneration = none) (plain : ∀ effect ∈ effects, effect.isPlain) :
      Leaves state (state', .resetSessionResources :: effects)

theorem leaves_reduce (state : SenderReducerState) {event : SenderEvent}
    (h : ∀ generation, event ≠ .transportConnected generation) :
    Leaves state (reduce state event) := by
  -- An event whose guard does not hold changes nothing.
  have hgate : ∀ (c : Prop) [Decidable c] (outcome : SenderReducerState × List SenderEffect),
      Leaves state outcome → Leaves state (if c then outcome else (state, [])) := by
    intro c _ outcome houtcome
    split
    · exact houtcome
    · exact .stays _ _ (.inl rfl) nofun
  have hplain : ∀ effects : List SenderEffect, (effects.all SenderEffect.isPlain) = true →
      ∀ effect ∈ effects, effect.isPlain := fun _ hall => List.all_eq_true.mp hall
  cases event with
  | transportConnected generation => exact absurd rfl (h generation)
  | connectRequested =>
      dsimp only [reduce]
      split
      · exact .ends _ _ rfl (hplain _ rfl)
      · exact .stays _ _ (.inr rfl) nofun
  | transportDisconnected generation endpointAvailable =>
      apply hgate
      split
      · exact .ends _ _ rfl (hplain _ rfl)
      · exact .ends _ _ rfl nofun
  | authenticationRejected generation => exact hgate _ _ (.ends _ _ rfl (hplain _ rfl))
  | userDisconnect domainResourcesActive =>
      apply hgate
      split
      · exact .ends _ _ rfl (hplain _ rfl)
      · exact .ends _ _ rfl (hplain _ rfl)
  | reconnectPolicyChanged enabled =>
      dsimp only [reduce]
      split
      · exact .stays _ _ (.inl rfl) nofun
      · exact .stays _ _ (.inl rfl) nofun
  | reconnectConnectFailed =>
      apply hgate
      split
      · exact .stays _ _ (.inl rfl) (hplain _ rfl)
      · exact .stays _ _ (.inl rfl) nofun
  | _ => exact hgate _ _ (.stays _ _ (.inl rfl) (hplain _ rfl))

/-- The lifecycle takes an event. -/
theorem staying_reduced {event : SenderEvent}
    (hfewer : (reduce s.session.lifecycle event).1.activeGeneration =
        s.session.lifecycle.activeGeneration ∨
      (reduce s.session.lifecycle event).1.activeGeneration = none) :
    Staying x s (reduced s event) := by
  refine staying_silent rfl fun hs => ⟨hs.idle, hs.epoch, hs.pending, fun hactive => ?_, hs.sent⟩
  have hsame := hfewer.resolve_right hactive
  exact hs.offers (hsame ▸ hactive)

/-- The teardown keeps the configuration, which is then unsent. -/
theorem staying_resetSessionResources (h : s.session.lifecycle.activeGeneration = none) :
    ∃ torn, exec resetSessionResources s = (.ok (), torn) ∧ Staying x s torn := by
  obtain ⟨torn, hexec, hpath, hlifecycle⟩ := exec_resetSessionResources s
  have hended : torn.session.lifecycle.activeGeneration = none := hlifecycle ▸ h
  have hmarks : torn.trace = s.path.aborted.marks := congrArg EncoderPath.marks hpath
  have hencoder : torn.session.encoder = s.path.aborted.encoder.endSession :=
    congrArg EncoderPath.encoder hpath
  refine ⟨torn, hexec, ?_⟩
  cases hstate : s.session.encoder.applyState with
  | applying transaction =>
      obtain ⟨mark, hmark⟩ : ∃ mark, s.path.aborted.marks = s.trace ++ [mark] := by
        unfold EncoderPath.aborted
        rw [show s.path.encoder.applyState = .applying transaction from hstate]
        exact ⟨_, rfl⟩
      exact ⟨[mark], hmarks.trans hmark, fun _ hs => nomatch hstate.symm.trans hs.idle⟩
  | committed =>
      have haborted : s.path.aborted = s.path := by
        unfold EncoderPath.aborted
        rw [show s.path.encoder.applyState = .committed from hstate]
      rw [haborted] at hmarks hencoder
      refine staying_silent hmarks fun hs => ⟨?_, ?_, ?_, fun hactive => absurd hended hactive, ?_⟩
      · exact hencoder ▸ hs.idle
      · exact hencoder ▸ hs.epoch
      · exact hencoder ▸ hs.pending
      · rw [hencoder]
        exact nofun

/-- A connection that is adopted replaces the Receiver. -/
theorem staying_prepareConnection [∀ event, Keeps (Staying x) (apply event)] (generation : Nat) :
    Staying x s (exec (applyEffect apply (.prepareConnection generation))
      (reduced s (.transportConnected generation))).2 := by
  have hprepare : Keeps (Staying x) (modifySession SenderSession.prepareConnection) :=
    staying_session fun _ => rfl
  have hmark : Staying x s { reduced s (.transportConnected generation) with
      trace := s.trace ++ [.connected generation] } :=
    ⟨[.connected generation], rfl, fun hkept => absurd (hkept _ (List.mem_singleton_self _)) id⟩
  unfold applyEffect note
  rw [exec_update_bind]
  exact Frame.trans hmark (Keeps.keeps _)

theorem staying_events [∀ event, Keeps (Staying x) (apply event)] (s : SenderState)
    (event : SenderEvent) :
    Staying x s (exec (applyEffects apply (reduce s.session.lifecycle event).2)
      (reduced s event)).2 := by
  by_cases hconnects : ∃ generation, event = .transportConnected generation
  · obtain ⟨generation, rfl⟩ := hconnects
    by_cases hattempt : s.session.lifecycle.runtime.connection = .connecting ∧
        s.session.lifecycle.pendingGeneration = some generation
    · rw [show (reduce s.session.lifecycle (.transportConnected generation)).2 =
        [.prepareConnection generation] from congrArg Prod.snd (if_pos hattempt)]
      exact keeps_from (staying_prepareConnection generation)
        fun _ => inferInstanceAs (Keeps _ (pure ()))
    · have hreduce : reduce s.session.lifecycle (.transportConnected generation) =
          (s.session.lifecycle, []) := if_neg hattempt
      rw [hreduce]
      exact staying_reduced (.inl (congrArg (·.1.activeGeneration) hreduce))
  · have hleaves := leaves_reduce s.session.lifecycle (not_exists.mp hconnects)
    have hreduced := @staying_reduced P x s event
    have hlifecycle : (reduced s event).session.lifecycle =
        (reduce s.session.lifecycle event).1 := rfl
    generalize reduced s event = r at hreduced hlifecycle ⊢
    generalize reduce s.session.lifecycle event = outcome at hleaves hreduced hlifecycle ⊢
    cases hleaves with
    | stays state' effects fewer plain =>
        exact Frame.trans (hreduced fewer) ((staying_applyEffects plain).keeps r)
    | ends state' effects ended plain =>
        obtain ⟨torn, hexec, htorn⟩ := @staying_resetSessionResources P x r (hlifecycle ▸ ended)
        change Staying x s (exec (resetSessionResources >>= fun _ => applyEffects apply effects) r).2
        rw [exec_bind_ok hexec]
        exact Frame.trans (hreduced (.inr ended))
          (Frame.trans htorn ((staying_applyEffects plain).keeps torn))

end Layer

instance (depth : Nat) (event : SenderEvent) : Keeps (Staying x) (applySenderEventAt depth event) := by
  induction depth generalizing event with
  | zero => exact inferInstanceAs (Keeps _ (pure []))
  | succ depth ih =>
      constructor
      intro s
      unfold applySenderEventAt applySenderEventWith session modifySession
      rw [exec_read_bind, exec_update_bind]
      exact keeps_from (staying_events s event) fun _ => inferInstance

instance (event : SenderEvent) : Keeps (Staying x) (applySenderEvent event) := by
  unfold applySenderEvent
  infer_instance

instance (event : SenderEvent) : Keeps (Staying x) (applyEvent event) := by
  unfold applyEvent
  infer_instance

instance (code : String) : Keeps (Staying x) (rejectAuthentication code) := by
  unfold rejectAuthentication
  infer_instance

/-! ## Sending the configuration -/

/-- What becomes of the session where a configuration is sent: it is not told, or it is the one
at hand. -/
inductive SendsKept (P : SenderPlatform) (s : SenderState) (config : StreamConfigParams) :
    Except SessionFault Unit × SenderState → Prop
  | failed (error : SessionFault) (t : SenderState)
      (lifecycle : t.session.lifecycle = s.session.lifecycle)
      (same : t.session.evidence = s.session.evidence) (untold : t.trace = s.trace) : SendsKept P s config (.error error, t)
  | sent (t : SenderState) (target : SessionId) (messageId : Nat) (wire : StreamConfig)
      (lifecycle : t.session.lifecycle = s.session.lifecycle)
      (offers : t.session.receiverCapabilities = s.session.receiverCapabilities)
      (encoder : t.session.encoder =
        (s.session.encoder.keepStreamConfig config).noteStreamConfigSent)
      (encoded : config.toProto P.bitstream = .ok wire)
      (told : t.trace = s.trace ++ [.controlSent target messageId (.streamConfig wire)]) :
      SendsKept P s config (.ok (), t)

theorem sendsKept (s : SenderState) (config : StreamConfigParams) :
    SendsKept P s { config with streamEpoch := s.session.encoder.currentStreamEpoch }
      (exec (do
        sendStreamConfig P config
        modifyEncoder EncoderState.noteStreamConfigSent) s) := by
  have hsession := exec_requireSession s
  unfold sendStreamConfig sendStreamConfigForEpoch session modifyEncoder modifySession
  rw [exec_bind, exec_read_bind, exec_bind]
  cases hactive : s.session.lifecycle.activeGeneration with
  | none =>
      rw [hactive] at hsession
      rw [exec_bind_error hsession]
      exact .failed _ _ rfl rfl rfl
  | some generation =>
      rw [hactive] at hsession
      rw [exec_bind_ok hsession]
      cases hproto : ({ config with streamEpoch := s.session.encoder.currentStreamEpoch } :
          StreamConfigParams).toProto P.bitstream with
      | error error => exact .failed _ _ rfl rfl rfl
      | ok wire =>
          dsimp only
          rw [exec_sendControlPayload]
          cases s.answer.sendControl with
          | error error => exact .failed _ _ rfl rfl rfl
          | ok taken => exact .sent _ _ _ wire rfl rfl rfl hproto rfl

theorem awaits_sent (hs : Awaits x s) {target : SessionId} {messageId : Nat} {wire : StreamConfig}
    (hlifecycle : t.session.lifecycle = s.session.lifecycle)
    (hoffers : t.session.receiverCapabilities = s.session.receiverCapabilities)
    (hencoder : t.session.encoder =
      (s.session.encoder.keepStreamConfig x.config).noteStreamConfigSent)
    (hencoded : x.config.toProto P.bitstream = .ok wire)
    (htold : t.trace = s.trace ++ [.controlSent target messageId (.streamConfig wire)]) :
    Awaits x t := by
  refine ⟨?_, ?_, ?_, ?_, fun _ => ?_⟩
  · exact hencoder ▸ hs.idle
  · exact hencoder ▸ hs.epoch
  · exact hencoder ▸ rfl
  · rw [hlifecycle, hoffers]
    exact hs.offers
  · have hepoch : wire.streamEpoch = x.config.streamEpoch := toProto_streamEpoch hencoded
    have hconfigs : toldConfigs t.trace = toldConfigs s.trace ++ [wire] := by
      rw [htold, toldConfigs_snoc]
      rfl
    unfold announcedFormat
    rw [hconfigs, ← hepoch, configOf_snoc, Option.bind_some, x.read wire hencoded]
    rfl

/-- The configuration at hand is that of the event, with its epoch. -/
theorem config_eq_of_awaits (hs : Awaits x s) {config : StreamConfigParams}
    (hconfig : s.session.encoder.pendingStreamConfig = some config) :
    ({ config with streamEpoch := s.session.encoder.currentStreamEpoch } : StreamConfigParams) =
      x.config := by
  obtain rfl := Option.some.inj (hconfig.symm.trans hs.pending)
  rw [hs.epoch]

theorem staying_sendsKept {config : StreamConfigParams}
    (hconfig : s.session.encoder.pendingStreamConfig = some config)
    {outcome : Except SessionFault Unit × SenderState}
    (h : SendsKept P s { config with streamEpoch := s.session.encoder.currentStreamEpoch }
      outcome) : Staying x s outcome.2 := by
  cases h with
  | failed error t lifecycle same untold =>
      exact staying_silent untold (awaits_of_evidence same (congrArg toldConfigs untold))
  | sent t target messageId wire lifecycle offers encoder encoded told =>
      refine ⟨_, told, fun _ hs => ?_⟩
      rw [config_eq_of_awaits hs hconfig] at encoder encoded
      exact awaits_sent hs lifecycle offers encoder encoded told

theorem staying_sendOfferedConfig (caps : Capabilities) {config : StreamConfigParams}
    (hconfig : s.session.encoder.pendingStreamConfig = some config) :
    Staying x s (exec (sendOfferedConfig P caps config) s).2 := by
  unfold sendOfferedConfig session
  rw [exec_read_bind]
  cases (config.toProto P.bitstream).mapError SessionFault.codecConfiguration with
  | error error => exact Frame.refl s
  | ok wire =>
      rw [exec_bind_ok (exec_ofExcept _ _)]
      cases (P.bitstream.validatedVideoFormat wire).mapError SessionFault.protocol with
      | error error => exact Frame.refl s
      | ok format =>
          rw [exec_bind_ok (exec_ofExcept _ _)]
          split
          · exact (inferInstance : Keeps (Staying x) (setError _)).keeps s
          split
          · exact (inferInstance : Keeps (Staying x) (setError _ >>= fun _ =>
              (fail _ : Core Unit))).keeps s
          · exact staying_sendsKept hconfig (sendsKept s config)

instance : Keeps (Staying x) (sendPendingStreamConfig P) := by
  constructor
  intro s
  unfold sendPendingStreamConfig session
  rw [exec_read_bind]
  split
  · exact Frame.refl s
  split
  next caps config hcaps hconfig => exact staying_sendOfferedConfig caps hconfig
  · exact Frame.refl s

instance : Keeps (Staying x) (enterStreaming P) := by
  unfold enterStreaming startStreaming
  infer_instance

/-! ## Pairing -/

instance (proof : PairingProof) (target : SessionId) :
    Keeps (Staying x) (sendControlPayload target (.pairingConfirm proof)) :=
  staying_sendControlPayload target fun _ _ => rfl

instance (proof : PairingProof) (target : SessionId) :
    Keeps (Staying x) (sendControlPayload target (.pairingCommit proof)) :=
  staying_sendControlPayload target fun _ _ => rfl

instance (target : SessionId) : Keeps (Staying x) (sendControlPayload target .clockSyncPong) :=
  staying_sendControlPayload target fun _ _ => rfl

instance (target : SessionId) (stats : Protocol.SenderStats) :
    Keeps (Staying x) (sendControlPayload target (.senderStats stats)) :=
  staying_sendControlPayload target fun _ _ => rfl

instance (store : TrustedDeviceStore) : Keeps (Staying x) (replaceTrusted P store) := by
  have hpersist : Keeps (Staying x) (persistTrusted P) := by
    unfold persistTrusted
    apply keeps_then inferInstance
    intro s
    split
    · apply keeps_then inferInstance
      intro disk
      split <;> infer_instance
    · infer_instance
  unfold replaceTrusted
  apply keeps_then inferInstance
  intro previous
  apply keeps_then inferInstance
  intro _
  apply keeps_then inferInstance
  intro outcome
  split <;> infer_instance

instance : Keeps (Staying x) (sendIdentityConfirm P) := by
  have hsent : Keeps (Staying x) (modifySession SenderSession.noteConfirmSent) :=
    staying_session fun _ => rfl
  unfold sendIdentityConfirm
  apply keeps_then inferInstance
  intro target
  apply keeps_then inferInstance
  intro s
  split <;> infer_instance

instance (hello : ServerHello) : Keeps (Staying x) (onServerHello P hello) := by
  have hinstall : ∀ hash, Keeps (Staying x) (modifySession fun s => s.installServerHello hello hash) :=
    fun _ => staying_session fun _ => rfl
  have hanswer : ∀ hash, Keeps (Staying x) (answerServerHello P hello hash) := by
    intro hash
    unfold answerServerHello
    apply keeps_then inferInstance
    intro s
    split
    · infer_instance
    split
    · infer_instance
    split
    · infer_instance
    apply keeps_then inferInstance
    intro _
    split
    · infer_instance
    apply keeps_then inferInstance
    intro outcome
    split <;> infer_instance
  unfold onServerHello
  apply keeps_then inferInstance
  intro s
  split
  · infer_instance
  split
  · infer_instance
  split
  · infer_instance
  apply keeps_then inferInstance
  intro binding
  split
  · infer_instance
  split <;> infer_instance

instance : Keeps (Staying x) (acceptPairingApproval P) := by
  have htrust : Keeps (Staying x) (modifySession SenderSession.noteTrustCommitted) :=
    staying_session fun _ => rfl
  have hcommit : ∀ pairing, Keeps (Staying x) (commitTrust P pairing) := by
    intro pairing
    unfold commitTrust
    split
    · infer_instance
    apply keeps_then inferInstance
    intro nowMs
    apply keeps_then inferInstance
    intro s
    apply keeps_then inferInstance
    intro outcome
    split <;> infer_instance
  have hsend : ∀ pairing, Keeps (Staying x) (sendPairingCommit P pairing) := by
    intro pairing
    unfold sendPairingCommit
    apply keeps_then inferInstance
    intro s
    split
    · infer_instance
    apply keeps_then inferInstance
    intro outcome
    split <;> infer_instance
  unfold acceptPairingApproval
  apply keeps_then inferInstance
  intro s
  split
  · infer_instance
  split
  · infer_instance
  split
  · infer_instance
  split <;> infer_instance

instance : Keeps (Staying x) (acceptPairingComplete P) := by
  unfold acceptPairingComplete
  apply keeps_then inferInstance
  intro s
  split
  · infer_instance
  split
  · infer_instance
  split
  · infer_instance
  split <;> infer_instance

/-! ## Control messages -/

/-- Other offers are told of by the message that made them. -/
theorem staying_handlePayload {target : SessionId} {envelope : ControlEnvelope}
    (hoffers : ∀ other ∈ madeOffers envelope.payload, other = x.offers) :
    Keeps (Staying x) (handlePayload P target envelope.payload) := by
  have hcommand : ∀ command,
      Keeps (Staying x) (modifySession fun s => s.setCameraCommand command) :=
    fun _ => staying_session fun _ => rfl
  have hset : Keeps (Staying x) (modifySession fun s => s.setCapabilities x.offers) :=
    keeps_update fun s => staying_silent rfl fun hs =>
      ⟨hs.idle, hs.epoch, hs.pending, fun _ => rfl, hs.sent⟩
  unfold handlePayload
  split
  next proof hpayload =>
    unfold handlePairingApproval
    infer_instance
  next proof hpayload =>
    unfold handlePairingComplete
    infer_instance
  next hpayload =>
    unfold handleReceiverStats
    apply keeps_then inferInstance
    intro health
    apply keeps_then inferInstance
    intro s
    split <;> infer_instance
  next hpayload => infer_instance
  next command hpayload =>
    unfold handleCameraCommand
    infer_instance
  next capabilities hpayload =>
    obtain rfl : capabilities = x.offers := hoffers _ (by rw [hpayload]; rfl)
    unfold handleCapabilities noteMissingOffer clearMissingOffer
    infer_instance
  next error hpayload =>
    unfold handleSessionError
    infer_instance
  next hello hpayload => infer_instance
  next hpayload =>
    unfold handleClockSyncPing
    infer_instance
  next hpayload => infer_instance
  next => infer_instance

theorem grows_of_staying {α : Type} {p : Core α} (h : Keeps (Staying x) p) : Keeps Grows p :=
  ⟨fun s => (h.keeps s).imp fun _ => And.left⟩

theorem grows_handleCapabilities (x : StagedConfig P) (capabilities : Capabilities) :
    Keeps Grows (handleCapabilities P capabilities) := by
  have hset : Keeps Grows (modifySession fun s => s.setCapabilities capabilities) :=
    keeps_update fun s => ⟨[], (List.append_nil _).symm⟩
  have hclear : Keeps (Staying x) clearMissingOffer := by
    unfold clearMissingOffer
    infer_instance
  have herror : ∀ code, Keeps Grows (setError code) := fun code =>
    grows_of_staying (inferInstance : Keeps (Staying x) (setError code))
  have hmissing : Keeps (Staying x) (noteMissingOffer capabilities) := by
    unfold noteMissingOffer
    infer_instance
  have hnote : Keeps Grows (noteMissingOffer capabilities) := grows_of_staying hmissing
  have hsession : Keeps Grows session :=
    grows_of_staying (inferInstance : Keeps (Staying x) session)
  have henter : Keeps Grows (enterStreaming P) :=
    grows_of_staying (inferInstance : Keeps (Staying x) (enterStreaming P))
  unfold handleCapabilities
  infer_instance

theorem staying_dispatch (s : SenderState) (target : SessionId) (envelope : ControlEnvelope) :
    Staying x s (exec (do
      note (.dispatched target envelope)
      handlePayload P target envelope.payload) s).2 := by
  by_cases hoffers : ∀ other ∈ madeOffers envelope.payload, other = x.offers
  · have hnote : Keeps (Staying x) (note (.dispatched target envelope)) := staying_note fun _ => rfl
    exact (keeps_then hnote fun _ => staying_handlePayload hoffers).keeps s
  · -- The mark says that the offers were replaced.
    have hgrows : Keeps Grows (handlePayload P target envelope.payload) := by
      unfold madeOffers at hoffers
      split at hoffers
      next capabilities hpayload =>
        rw [hpayload]
        exact grows_handleCapabilities x capabilities
      next => exact absurd nofun hoffers
    unfold note
    rw [exec_update_bind]
    obtain ⟨more, hmore⟩ := hgrows.keeps
      { s with trace := s.trace ++ [.dispatched target envelope] }
    refine ⟨_, hmore.trans (List.append_assoc _ _ _), fun hkept => absurd ?_ hoffers⟩
    exact hkept _ List.mem_cons_self

instance (target : SessionId) (message : ControlFrame) :
    Keeps (Staying x) (handleControl P target message) := by
  have hreceived : ∀ messageId,
      Keeps (Staying x) (modifySession fun s => s.noteReceived messageId) :=
    fun _ => staying_session fun _ => rfl
  have henvelope : ∀ envelope, Keeps (Staying x) (handleEnvelope P target envelope) := by
    intro envelope
    have hdispatch : Keeps (Staying x) (do
        note (.dispatched target envelope)
        handlePayload P target envelope.payload) :=
      ⟨fun s => staying_dispatch s target envelope⟩
    unfold handleEnvelope
    infer_instance
  unfold handleControl
  apply keeps_then inferInstance
  intro s
  split
  · infer_instance
  split <;> infer_instance

/-! ## The pump -/

instance (event : TransportEvent) : Keeps (Staying x) (takeTransportEvent P event) := by
  have hpolled : Keeps (Staying x) (note (.polled event)) := staying_note fun _ => rfl
  have hhandle : Keeps (Staying x) (handleTransportEvent P event) := by
    cases event with
    | controlMessage target message =>
        unfold handleTransportEvent
        apply keeps_then inferInstance
        intro effects
        split <;> infer_instance
    | _ =>
        unfold handleTransportEvent
        infer_instance
  unfold takeTransportEvent
  infer_instance

instance staying_drainLoop (fuel : Nat) : Keeps (Staying x) (drainLoop P fuel) := by
  induction fuel with
  | zero =>
      unfold drainLoop
      infer_instance
  | succ fuel ih =>
      unfold drainLoop
      apply keeps_then inferInstance
      intro event
      split <;> infer_instance

instance : Keeps (Staying x) (drainEvents P) := by
  unfold drainEvents
  infer_instance

instance : Keeps (Staying x) (reconnectWhenDue P) := by
  unfold reconnectWhenDue
  apply keeps_then inferInstance
  intro s
  split
  · infer_instance
  apply keeps_then inferInstance
  intro now
  split <;> infer_instance

theorem grows_handleEncoderFailureTransition (x : StagedConfig P)
    (transition : EncoderFailureTransition) :
    Keeps Grows (handleEncoderFailureTransition P transition) := by
  have hencoder : ∀ f, Keeps Grows (modifyEncoder f) :=
    fun _ => keeps_update fun _ => ⟨[], (List.append_nil _).symm⟩
  have hnote : ∀ mark, Keeps Grows (note mark) := fun mark => keeps_update fun _ => ⟨[mark], rfl⟩
  have hsession : Keeps Grows session :=
    grows_of_staying (inferInstance : Keeps (Staying x) session)
  have hkeyframe : Keeps Grows (modifySession SenderSession.requestKeyframe) :=
    grows_of_staying (inferInstance : Keeps (Staying x) (modifySession SenderSession.requestKeyframe))
  have hnow : Keeps Grows instantNow :=
    grows_of_staying (inferInstance : Keeps (Staying x) instantNow)
  have herror : ∀ code, Keeps Grows (setError code) := fun code =>
    grows_of_staying (inferInstance : Keeps (Staying x) (setError code))
  have hdisconnect : Keeps Grows (disconnect P) := by
    have hstaying : Keeps (Staying x) (disconnect P) := by
      unfold disconnect
      infer_instance
    exact grows_of_staying hstaying
  have hrestore : ∀ transaction, Keeps Grows (restoreBefore transaction) := by
    intro transaction
    unfold restoreBefore
    infer_instance
  have hrecovery : Keeps Grows (startCommittedEncoderRecovery P) := by
    unfold startCommittedEncoderRecovery giveUpRecovery beginEncoderTransaction issueDirective
    apply keeps_then inferInstance
    intro s
    dsimp only
    split
    · infer_instance
    split
    · infer_instance
    split <;> infer_instance
  unfold handleEncoderFailureTransition
  split <;> infer_instance

instance : Keeps (Staying x) (expireEncoderTransaction P) := by
  unfold expireEncoderTransaction
  apply keeps_then inferInstance
  intro now
  constructor
  intro s
  unfold session
  rw [exec_read_bind]
  cases hstate : s.session.encoder.applyState with
  | committed =>
      exact staying_silent rfl fun hs => ⟨rfl, hs.epoch, hs.pending, hs.offers, hs.sent⟩
  | applying transaction =>
      have hgrows : Keeps Grows (do
          modifyEncoder fun e =>
            e.setApplyState ((EncoderApplyState.applying transaction).expire now).2
          let _ ← handleEncoderFailureTransition P
            ((EncoderApplyState.applying transaction).expire now).1
          pure ()) := by
        have hencoder : ∀ f, Keeps Grows (modifyEncoder f) :=
          fun _ => keeps_update fun _ => ⟨[], (List.append_nil _).symm⟩
        have hhandle := fun transition => grows_handleEncoderFailureTransition x transition
        infer_instance
      obtain ⟨more, hmore⟩ := hgrows.keeps s
      exact ⟨more, hmore, fun _ hs => nomatch hstate.symm.trans hs.idle⟩

theorem exec_maybeSendSenderStats (s : SenderState) :
    ∃ t, exec maybeSendSenderStats s = (.ok (), t) ∧ Staying x s t ∧
      t.session.lifecycle = s.session.lifecycle ∧ t.session.encoder = s.session.encoder := by
  have hkept : Keeps (Staying x) maybeSendSenderStats := by
    unfold maybeSendSenderStats
    apply keeps_then inferInstance
    intro stats
    apply keeps_then inferInstance
    intro s
    split <;> infer_instance
  refine ⟨(exec maybeSendSenderStats s).2, ?_⟩
  have hstaying := hkept.keeps s
  suffices h : (exec maybeSendSenderStats s).1 = .ok () ∧
      (exec maybeSendSenderStats s).2.session.lifecycle = s.session.lifecycle ∧
      (exec maybeSendSenderStats s).2.session.encoder = s.session.encoder from
    ⟨Prod.ext h.1 rfl, hstaying, h.2⟩
  have hlook : exec (look Answers.senderStats) s = (.ok s.answer.senderStats, s.turn) := rfl
  unfold maybeSendSenderStats session
  rw [exec_bind_ok hlook, exec_read_bind]
  split
  next stats target hstats htarget =>
    rw [exec_attempt_bind, exec_sendControlPayload]
    cases s.turn.answer.sendControl <;> exact ⟨rfl, rfl, rfl⟩
  · exact ⟨rfl, rfl, rfl⟩

theorem lifecycle_of_sendPendingStreamConfig (P : SenderPlatform) (s : SenderState) :
    (exec (sendPendingStreamConfig P) s).2.session.lifecycle = s.session.lifecycle := by
  have hsent : ∀ config, (exec (do
      sendStreamConfig P config
      modifyEncoder EncoderState.noteStreamConfigSent) s).2.session.lifecycle =
        s.session.lifecycle := by
    intro config
    have hsends := @sendsKept P s config
    generalize exec _ s = outcome at hsends ⊢
    cases hsends with
    | failed error t lifecycle same untold => exact lifecycle
    | sent t target messageId wire lifecycle offers encoder encoded told => exact lifecycle
  unfold sendPendingStreamConfig session
  rw [exec_read_bind]
  split
  · rfl
  split
  next caps config hcaps hconfig =>
    unfold sendOfferedConfig session
    rw [exec_read_bind]
    cases (config.toProto P.bitstream).mapError SessionFault.codecConfiguration with
    | error error => rfl
    | ok wire =>
        rw [exec_bind_ok (exec_ofExcept _ _)]
        cases (P.bitstream.validatedVideoFormat wire).mapError SessionFault.protocol with
        | error error => rfl
        | ok format =>
            rw [exec_bind_ok (exec_ofExcept _ _)]
            split
            · rfl
            split
            · rfl
            · exact hsent config
  · rfl

/-- The configuration was sent, or it is now. -/
theorem sent_of_sendPendingStreamConfig (hs : Awaits x s)
    (hactive : s.session.lifecycle.activeGeneration ≠ none)
    (h : exec (sendPendingStreamConfig P) s = (.ok (), t)) :
    t.session.encoder.streamConfigSent = true := by
  unfold sendPendingStreamConfig session at h
  rw [exec_read_bind] at h
  split at h
  next hidle =>
    obtain rfl : s = t := congrArg Prod.snd h
    refine hidle.resolve_right ?_
    rw [hs.idle]
    exact Bool.false_ne_true
  next hunsent =>
    rw [hs.offers hactive, hs.pending] at h
    unfold sendOfferedConfig session at h
    dsimp only at h
    rw [exec_read_bind] at h
    obtain ⟨wire, u, hwire, h⟩ := of_exec_bind_ok h
    obtain rfl : s = u := congrArg Prod.snd hwire
    have hencoded := of_mapError_ok (congrArg Prod.fst hwire)
    obtain ⟨format, u, hread, h⟩ := of_exec_bind_ok h
    obtain rfl : s = u := congrArg Prod.snd hread
    have hformat : format = x.format :=
      Except.ok.inj ((of_mapError_ok (congrArg Prod.fst hread)).symm.trans (x.read wire hencoded))
    have hsupported := x.supported wire hencoded
    rw [hformat, if_neg (by rw [hsupported]; exact Bool.noConfusion)] at h
    split at h
    · exact nomatch congrArg Prod.fst h
    · have hsends := @sendsKept P s x.config
      rw [h] at hsends
      cases hsends with
      | sent _ target messageId wire lifecycle offers encoder encoded told =>
          rw [encoder]
          rfl

/-- After a pump in the connection of the offers the Receiver was told of the configuration. -/
theorem told_of_pump (hs : Awaits x s) (h : exec (pump P) s = (.ok (), t))
    (hkept : ∀ mark ∈ t.trace.drop s.trace.length, mark.KeepsOffers x.offers)
    (hactive : t.session.lifecycle.activeGeneration ≠ none)
    (hstreaming : t.session.streaming = true) :
    Awaits x t ∧ t.session.encoder.streamConfigSent = true := by
  have hbefore : Keeps (Staying x) (do
      drainEvents P
      expireEncoderTransaction P
      reconnectWhenDue P) := inferInstance
  unfold pump at h
  obtain ⟨_, s₁, h₁, h⟩ := of_exec_bind_ok h
  obtain ⟨_, s₂, h₂, h⟩ := of_exec_bind_ok h
  obtain ⟨_, s₃, h₃, h⟩ := of_exec_bind_ok h
  obtain ⟨first, hfirst, hstaying⟩ : Staying x s s₃ := by
    have hkeeps := hbefore.keeps s
    rwa [exec_bind_ok h₁, exec_bind_ok h₂, h₃] at hkeeps
  unfold publishWhenStreaming session at h
  rw [exec_read_bind] at h
  by_cases hwas : s₃.session.streaming = true
  · rw [exec_when_true hwas] at h
    obtain ⟨_, s₄, hsend, hstats⟩ := of_exec_bind_ok h
    obtain ⟨_, hexec, ⟨third, hthird, hlast⟩, hlifecycle, hencoder⟩ :=
      @exec_maybeSendSenderStats P x s₄
    obtain rfl := congrArg Prod.snd (hexec.symm.trans hstats)
    obtain ⟨second, hsecond, hsent⟩ : Staying x s₃ s₄ := by
      have hkeeps := (inferInstance : Keeps (Staying x) (sendPendingStreamConfig P)).keeps s₃
      rwa [hsend] at hkeeps
    dsimp only at hthird hlifecycle hencoder hlast hactive
    rw [hthird, hsecond, hfirst, List.append_assoc, List.append_assoc, List.drop_left] at hkept
    rw [List.forall_mem_append, List.forall_mem_append] at hkept
    have hs₃ : Awaits x s₃ := hstaying hkept.1 hs
    have hs₄ : Awaits x s₄ := hsent hkept.2.1 hs₃
    have hsame := lifecycle_of_sendPendingStreamConfig P s₃
    rw [hsend] at hsame
    refine ⟨hlast hkept.2.2 hs₄, hencoder ▸ sent_of_sendPendingStreamConfig hs₃ ?_ hsend⟩
    rwa [← hsame, ← hlifecycle]
  · rw [exec_when_false hwas] at h
    obtain rfl : s₃ = t := congrArg Prod.snd h
    exact absurd hstreaming hwas

end Core

end PicooCamera.Sender
