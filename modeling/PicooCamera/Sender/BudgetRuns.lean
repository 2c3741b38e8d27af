import PicooCamera.Sender.PublishedConfig
import PicooCamera.Bitstream.AvcVuiContract
import PicooCamera.Sender.EpochAgreement

/-!
# The admission of an access unit

`Untold` are the programs that tell the Receiver no configuration, `Prepared` is
what a callback leaves behind before its access unit is admitted, and `Admits`
what the admission tells the Receiver.
-/

namespace PicooCamera.Sender

open PicooCamera.Library PicooCamera.Pairing PicooCamera.Protocol PicooCamera.Packet
open PicooCamera.Transport TransitionSystem

/-! ## What the programs say to the Receiver -/

namespace Core

open Program

variable {P : SenderPlatform}

theorem kept_of_exec {R : SenderState → SenderState → Prop} {α : Type} {p : Core α}
    (hp : Keeps R p) {s t : SenderState} {result : Except SessionFault α}
    (h : exec p s = (result, t)) : R s t := by
  have hkept := hp.keeps s
  rwa [h] at hkept

/-- The Receiver was told no configuration and its offers are the same. -/
structure Untold (s t : SenderState) : Prop where
  told : toldConfigs t.trace = toldConfigs s.trace
  offers : t.session.receiverCapabilities = s.session.receiverCapabilities
  grows : Grows s t

instance : Frame Untold where
  refl s := ⟨rfl, rfl, Frame.refl s⟩
  trans hst htu := ⟨htu.told.trans hst.told, htu.offers.trans hst.offers,
    Frame.trans hst.grows htu.grows⟩

theorem untold_modifySession {f : SenderSession → SenderSession}
    (h : ∀ s, (f s).receiverCapabilities = s.receiverCapabilities) :
    Keeps Untold (modifySession f) :=
  ⟨fun s => ⟨rfl, h s.session, [], (List.append_nil s.trace).symm⟩⟩

theorem untold_note {mark : SenderMark} (h : ∀ configs, tellConfig configs mark = configs) :
    Keeps Untold (note mark) :=
  ⟨fun s => ⟨(toldConfigs_snoc s.trace mark).trans (h _), rfl, [mark], rfl⟩⟩

instance (f : EncoderState → EncoderState) : Keeps Untold (modifyEncoder f) :=
  untold_modifySession fun _ => rfl

instance {α : Type} (f : Answers → α) : Keeps Untold (look f) :=
  ⟨fun s => ⟨rfl, rfl, [], (List.append_nil s.trace).symm⟩⟩

instance (encoderGeneration height : Nat) : Keeps Untold (note (.bound encoderGeneration height)) :=
  untold_note fun _ => rfl

instance (encoderGeneration : Nat) : Keeps Untold (note (.started encoderGeneration)) :=
  untold_note fun _ => rfl

instance (format : SourceFormat) : Keeps Untold (note (.observed format)) :=
  untold_note fun _ => rfl

instance (directive : EncoderDirective) (facts : EncodedFacts) :
    Keeps Untold (note (.committed directive facts)) :=
  untold_note fun _ => rfl

instance (facts : EncodedFacts) (batch : VideoDatagramBatch) :
    Keeps Untold (note (.admitted facts batch)) :=
  untold_note fun _ => rfl

instance : Keeps Untold (modifySession SenderSession.endKeyframeRequest) :=
  untold_modifySession fun _ => rfl

instance (pipeline : SenderPipeline) :
    Keeps Untold (modifySession fun s => s.setPipeline pipeline) :=
  untold_modifySession fun _ => rfl

instance (isKeyframe : Bool) : Keeps Untold (fecProtectionFor isKeyframe) := by
  unfold fecProtectionFor
  cases isKeyframe <;> infer_instance

instance (unit : NativeEncoderAccessUnit) (fec : FecProtection) :
    Keeps Untold (packetize P unit fec) := by
  unfold packetize session
  infer_instance

instance (unit : NativeEncoderAccessUnit) : Keeps Untold (noteAdmitted unit) := by
  unfold noteAdmitted session
  apply keeps_then inferInstance
  intro s
  split <;> infer_instance

instance (unit : NativeEncoderAccessUnit) (config : StreamConfigParams) :
    Keeps Untold (commitTransaction unit config) := by
  unfold commitTransaction session
  apply keeps_then inferInstance
  intro s
  apply keeps_then inferInstance
  intro _
  split <;> infer_instance

instance : Keeps Untold commitSourceFormat := by
  unfold commitSourceFormat session
  apply keeps_then inferInstance
  intro s
  split <;> infer_instance

instance (unit : NativeEncoderAccessUnit) : Keeps Untold (ingestCommitted P unit) := by
  unfold ingestCommitted session
  apply keeps_then inferInstance
  intro s
  split
  · infer_instance
  split
  · infer_instance
  split <;> infer_instance

/-! ## The admission -/

/-- What the Receiver is told where an access unit is packetized: nothing outside a transaction,
and the configuration at hand for its keyframe. -/
structure Admits (P : SenderPlatform) (s : SenderState) (unit : NativeEncoderAccessUnit)
    (t : SenderState) : Prop where
  connected : s.session.lifecycle.activeGeneration ≠ none
  streaming : s.session.streaming = true
  offers : t.session.receiverCapabilities = s.session.receiverCapabilities
  told : s.session.encoder.applyState.isApplying = false ∧
      unit.streamEpoch = s.session.encoder.currentStreamEpoch ∧
        toldConfigs t.trace = toldConfigs s.trace ∨
    s.session.encoder.applyState.matchesNativeFacts unit.transactionId unit.encoderGeneration
        unit.streamEpoch unit.height = true ∧
      ∃ config ∈ s.session.encoder.pendingStreamConfig, ∃ wire,
        ({ config with streamEpoch := unit.streamEpoch } : StreamConfigParams).toProto
          P.bitstream = .ok wire ∧
        toldConfigs t.trace = toldConfigs s.trace ++ [wire]

theorem sendStreamConfigForEpoch_ok {s t : SenderState} {config : StreamConfigParams}
    {streamEpoch : Nat}
    (h : exec (sendStreamConfigForEpoch P config streamEpoch) s = (.ok (), t)) :
    t.session.receiverCapabilities = s.session.receiverCapabilities ∧ ∃ wire,
      ({ config with streamEpoch := streamEpoch } : StreamConfigParams).toProto P.bitstream =
        .ok wire ∧ toldConfigs t.trace = toldConfigs s.trace ++ [wire] := by
  unfold sendStreamConfigForEpoch at h
  obtain ⟨session, u, hsession, hsend⟩ := of_exec_bind_ok h
  have hsame : u = s := by
    rw [exec_requireSession] at hsession
    cases hactive : s.session.lifecycle.activeGeneration with
    | none =>
        rw [hactive] at hsession
        exact nomatch congrArg Prod.fst hsession
    | some generation =>
        rw [hactive] at hsession
        exact (congrArg Prod.snd hsession).symm
  subst hsame
  cases hwire : ({ config with streamEpoch := streamEpoch } : StreamConfigParams).toProto
      P.bitstream with
  | error error =>
      rw [hwire] at hsend
      exact nomatch congrArg Prod.fst hsend
  | ok wire =>
      rw [hwire] at hsend
      dsimp only at hsend
      rw [exec_sendControlPayload] at hsend
      cases hanswer : u.answer.sendControl with
      | error error =>
          rw [hanswer] at hsend
          exact nomatch congrArg Prod.fst hsend
      | ok taken =>
          rw [hanswer] at hsend
          have ht := congrArg Prod.snd hsend
          dsimp only at ht
          rw [← ht]
          exact ⟨rfl, wire, rfl, toldConfigs_snoc _ _⟩

theorem ingestCandidate_admits {s t : SenderState} {unit : NativeEncoderAccessUnit} {count : Nat}
    (hconnected : s.session.lifecycle.activeGeneration ≠ none)
    (hstreaming : s.session.streaming = true)
    (h : exec (ingestCandidate P unit) s = (.ok count, t)) : Admits P s unit t := by
  unfold ingestCandidate session at h
  rw [exec_read_bind] at h
  dsimp only at h
  split at h
  · exact nomatch congrArg Prod.fst h
  next hexpected =>
    split at h
    · exact nomatch congrArg Prod.fst h
    next config hconfig =>
      split at h
      · exact nomatch congrArg Prod.fst h
      split at h
      · exact nomatch congrArg Prod.fst h
      obtain ⟨_, sent, hsend, h⟩ := of_exec_bind_ok h
      obtain ⟨hoffers, wire, hwire, htold⟩ := sendStreamConfigForEpoch_ok hsend
      have hrest : Keeps Untold (do
          let fec ← fecProtectionFor true
          let packets ← packetize P unit fec
          commitTransaction unit { config with streamEpoch := unit.streamEpoch }
          noteAdmitted unit
          modifySession SenderSession.endKeyframeRequest
          pure packets) := inferInstance
      have huntold : Untold sent t := kept_of_exec hrest h
      rw [not_or, Bool.not_eq_false] at hexpected
      exact ⟨hconnected, hstreaming, huntold.offers.trans hoffers,
        .inr ⟨hexpected.1, config, hconfig, wire, hwire, huntold.told.trans htold⟩⟩

theorem ingestCommitted_epoch {s t : SenderState} {unit : NativeEncoderAccessUnit} {count : Nat}
    (h : exec (ingestCommitted P unit) s = (.ok count, t)) :
    unit.streamEpoch = s.session.encoder.currentStreamEpoch := by
  unfold ingestCommitted session at h
  rw [exec_read_bind] at h
  split at h
  · exact nomatch congrArg Prod.fst h
  next hfact =>
    rw [Bool.not_eq_false] at hfact
    exact (of_decide_eq_true hfact).2.2.2.1

theorem ingest_admits {s t : SenderState} {unit : NativeEncoderAccessUnit} {count : Nat}
    (h : exec (ingestEncoderAccessUnit P unit) s = (.ok count, t)) : Admits P s unit t := by
  unfold ingestEncoderAccessUnit session at h
  rw [exec_read_bind] at h
  split at h
  · exact nomatch congrArg Prod.fst h
  split at h
  · exact nomatch congrArg Prod.fst h
  next hactive =>
    have hconnected : s.session.lifecycle.activeGeneration ≠ none :=
      fun hnone => hactive (Option.map_eq_none_iff.mpr hnone)
    split at h
    · obtain ⟨_, cleared, -, h⟩ := of_exec_bind_ok h
      exact nomatch congrArg Prod.fst h
    next hstreaming =>
      rw [Bool.not_eq_false] at hstreaming
      split at h
      · exact ingestCandidate_admits hconnected hstreaming h
      next hidle =>
        have hcommitted : Keeps Untold (ingestCommitted P unit) := inferInstance
        have huntold : Untold s t := kept_of_exec hcommitted h
        exact ⟨hconnected, hstreaming, huntold.offers,
          .inl ⟨Bool.not_eq_true _ ▸ hidle, ingestCommitted_epoch h, huntold.told⟩⟩

/-! ## The check -/

theorem checkOffer_ok {s : SenderSession} {event : NativeEncoderEvent}
    {capabilities : Capabilities} (hoffers : s.receiverCapabilities = some capabilities)
    (h : checkOffer P s event = .ok ()) :
    ∃ config ∈ checkedConfig s event, ∃ format,
      P.bitstream.videoFormat config.configuration config.fps = .ok format ∧
        capabilities.supports format (P.bitstream.levelIdc config.configuration)
          event.data.length = true := by
  unfold checkOffer at h
  cases hconfig : event.streamConfig.or s.encoder.pendingStreamConfig with
  | none =>
      rw [hconfig, hoffers] at h
      exact nomatch h
  | some config =>
      rw [hconfig, hoffers] at h
      obtain ⟨_, -, h⟩ := Bitstream.bind_ok.mp h
      obtain ⟨format, hformat, h⟩ := Bitstream.bind_ok.mp h
      have hsupports := (ok_of_guard (ok_of_guard h).2).1
      rw [Bool.not_eq_false] at hsupports
      exact ⟨config, hconfig, format, of_mapError_ok hformat, hsupports⟩

theorem checkEncoderEvent_ok {s : SenderSession} {event : NativeEncoderEvent}
    (h : checkEncoderEvent P s event = .ok ()) : checkOffer P s event = .ok () := by
  unfold checkEncoderEvent at h
  have hsource := (ok_of_guard (ok_of_guard (ok_of_guard (ok_of_guard h).2).2).2).2
  obtain ⟨_, hoffer, -⟩ := Bitstream.bind_ok.mp hsource
  exact hoffer

/-! ## The access unit of a callback -/

/-- The start report changes neither the configuration at hand nor whether there is a
transaction. -/
structure Reported (s t : SenderState) : Prop extends Untold s t where
  pending : t.session.encoder.pendingStreamConfig = s.session.encoder.pendingStreamConfig
  applying : t.session.encoder.applyState.isApplying = s.session.encoder.applyState.isApplying

instance : Frame Reported where
  refl s := ⟨Frame.refl s, rfl, rfl⟩
  trans hst htu := ⟨Frame.trans hst.toUntold htu.toUntold, htu.pending.trans hst.pending,
    htu.applying.trans hst.applying⟩

instance (encoderGeneration height : Nat) :
    Keeps Reported (Core.bindEncoder encoderGeneration height) := by
  have huntold : Keeps Untold (Core.bindEncoder encoderGeneration height) := by
    unfold Core.bindEncoder
    infer_instance
  exact ⟨fun s => ⟨huntold.keeps s, rfl, rfl⟩⟩

theorem reportStarted_applying (state : EncoderApplyState)
    (transactionId encoderGeneration streamEpoch height : Nat) :
    (state.reportStarted transactionId encoderGeneration streamEpoch height).2.isApplying =
      state.isApplying := by
  unfold EncoderApplyState.reportStarted
  split
  · rfl
  cases state with
  | committed => rfl
  | applying transaction =>
      dsimp only
      split
      · split <;> rfl
      · rfl

instance (encoderGeneration : Nat) : Keeps Reported (note (.started encoderGeneration)) :=
  ⟨fun s => ⟨(inferInstance : Keeps Untold (note (.started encoderGeneration))).keeps s,
    rfl, rfl⟩⟩

instance (transactionId encoderGeneration streamEpoch height : Nat) : Keeps Reported
    (reportTransactionStarted transactionId encoderGeneration streamEpoch height) := by
  constructor
  intro s
  unfold reportTransactionStarted session
  rw [exec_read_bind]
  refine keeps_from ⟨(inferInstance : Keeps Untold (modifyEncoder _)).keeps s, rfl, ?_⟩
    fun _ => inferInstance
  exact reportStarted_applying _ _ _ _ _

instance (transactionId encoderGeneration streamEpoch height : Nat) :
    Keeps Reported (reportEncoderStarted transactionId encoderGeneration streamEpoch height) := by
  unfold reportEncoderStarted session
  infer_instance

instance (encoderGeneration streamEpoch height : Nat) :
    Keeps Reported (reportInitialEncoderEventStarted encoderGeneration streamEpoch height) := by
  unfold reportInitialEncoderEventStarted session
  infer_instance

instance (transactionId : Nat) (event : NativeEncoderEvent) :
    Keeps Reported (acceptNativeFacts transactionId event) := by
  unfold acceptNativeFacts session
  infer_instance

theorem stage_applying (e : EncoderState) (config : StreamConfigParams) :
    (e.stageStreamConfig config).applyState.isApplying = e.applyState.isApplying := by
  unfold EncoderState.stageStreamConfig
  cases e.applyState <;> rfl

theorem stageEventConfig_ok {s t : SenderState} {event : NativeEncoderEvent}
    (h : exec (stageEventConfig event) s = (.ok (), t)) :
    Untold s t ∧
      t.session.encoder.applyState.isApplying = s.session.encoder.applyState.isApplying ∧
      t.session.encoder.pendingStreamConfig = (event.streamConfig.map fun config =>
        { config with streamEpoch := s.session.encoder.currentStreamEpoch }).or
          s.session.encoder.pendingStreamConfig := by
  unfold stageEventConfig at h
  cases hconfig : event.streamConfig with
  | none =>
      rw [hconfig] at h
      obtain rfl := congrArg Prod.snd h
      exact ⟨Frame.refl _, rfl, rfl⟩
  | some config =>
      rw [hconfig] at h
      obtain rfl := congrArg Prod.snd h
      have hstage : Keeps Untold (setStreamConfig config) :=
        inferInstanceAs (Keeps Untold (modifyEncoder fun e => e.stageStreamConfig config))
      exact ⟨hstage.keeps s, stage_applying _ config, rfl⟩

theorem stageEventConfig_unsent {s t : SenderState} {event : NativeEncoderEvent}
    {config : StreamConfigParams} (hconfig : event.streamConfig = some config)
    (h : exec (stageEventConfig event) s = (.ok (), t)) :
    t.session.encoder.pendingStreamConfig =
        some { config with streamEpoch := t.session.encoder.currentStreamEpoch } ∧
      t.session.encoder.streamConfigSent = false := by
  unfold stageEventConfig at h
  rw [hconfig] at h
  obtain rfl := congrArg Prod.snd h
  exact ⟨rfl, rfl⟩

theorem alignedData_ok {s t : SenderState} {data aligned : Bytes}
    (h : exec (alignedData P data) s = (.ok aligned, t)) :
    t = s ∧ ∀ config ∈ s.session.encoder.pendingStreamConfig,
      P.bitstream.alignAccessUnit config.configuration data = .ok aligned := by
  unfold alignedData session at h
  rw [exec_read_bind] at h
  cases hconfig : s.session.encoder.pendingStreamConfig with
  | none =>
      rw [hconfig] at h
      exact ⟨(congrArg Prod.snd h).symm, nofun⟩
  | some config =>
      rw [hconfig] at h
      refine ⟨(congrArg Prod.snd h).symm, fun other hother => ?_⟩
      obtain rfl := Option.some.inj hother
      exact of_mapError_ok (congrArg Prod.fst h)

/-- The access unit of an event, and the session right after its configuration was staged. -/
structure Prepared (P : SenderPlatform) (s : SenderState) (event : NativeEncoderEvent)
    (unit : NativeEncoderAccessUnit) (configStaged : Bool) (t : SenderState) : Prop
    extends Untold s t where
  check : checkEncoderEvent P s.session event = .ok ()
  evidence : s.session.receiverCapabilities ≠ none
  unit : ∃ data, unit = event.accessUnit
      (s.session.encoder.applyState.transactionIdForEpoch event.streamEpoch) data ∧
    ∀ config ∈ checkedConfig s.session event,
      P.bitstream.alignAccessUnit config.configuration event.data = .ok data
  pending : ∀ config ∈ checkedConfig s.session event, ∃ streamEpoch,
    t.session.encoder.pendingStreamConfig = some { config with streamEpoch := streamEpoch }
  applying : t.session.encoder.applyState.isApplying = s.session.encoder.applyState.isApplying
  staged : configStaged = event.streamConfig.isSome
  unsent : ∀ config ∈ event.streamConfig,
    t.session.encoder.pendingStreamConfig =
        some { config with streamEpoch := t.session.encoder.currentStreamEpoch } ∧
      t.session.encoder.streamConfigSent = false

theorem prepareEncoderEvent_ready {s t : SenderState} {event : NativeEncoderEvent}
    {unit : NativeEncoderAccessUnit} {configStaged : Bool}
    (h : exec (prepareEncoderEvent P event) s = (.ok (.ready unit configStaged), t)) :
    Prepared P s event unit configStaged t := by
  unfold prepareEncoderEvent session at h
  rw [exec_read_bind] at h
  obtain ⟨_, u, hchecked, hready⟩ := of_exec_bind_ok h
  rw [exec_ofExcept] at hchecked
  obtain ⟨hcheck, rfl⟩ := Prod.mk.inj hchecked
  split at hready
  · exact nomatch congrArg Prod.fst hready
  next hevidence =>
    obtain ⟨accepted, v, haccept, hready⟩ := of_exec_bind_ok hready
    split at hready
    · obtain ⟨_, w, hstage, hready⟩ := of_exec_bind_ok hready
      obtain ⟨data, x, halign, hpure⟩ := of_exec_bind_ok hready
      rw [exec_pure] at hpure
      obtain ⟨hunit, rfl⟩ := Prod.mk.inj hpure
      have hreported : Reported s v := kept_of_exec inferInstance haccept
      obtain ⟨huntold, happlying, hpending⟩ := stageEventConfig_ok hstage
      obtain ⟨rfl, haligned⟩ := alignedData_ok halign
      have hat : ∀ config ∈ checkedConfig s.session event, ∃ streamEpoch,
          x.session.encoder.pendingStreamConfig =
            some { config with streamEpoch := streamEpoch } := by
        intro config hconfig
        unfold checkedConfig at hconfig
        rw [hpending, hreported.pending]
        cases hnew : event.streamConfig with
        | none =>
            rw [hnew] at hconfig
            exact ⟨config.streamEpoch, hconfig⟩
        | some new =>
            rw [hnew] at hconfig
            obtain rfl := Option.some.inj hconfig
            exact ⟨_, rfl⟩
      injection hunit with hunit
      injection hunit with hunit hconfigStaged
      refine ⟨Frame.trans hreported.toUntold huntold, hcheck, hevidence, ⟨data, ?_, ?_⟩, hat,
        happlying.trans hreported.applying, hconfigStaged.symm,
        fun config hconfig => stageEventConfig_unsent hconfig hstage⟩
      · exact hunit.symm
      · intro config hconfig
        obtain ⟨streamEpoch, hsame⟩ := hat config hconfig
        exact haligned { config with streamEpoch := streamEpoch } hsame
    · exact nomatch congrArg Prod.fst hready

theorem publishEvent_some {s t : SenderState} {event : NativeEncoderEvent}
    {unit : NativeEncoderAccessUnit} (h : published P event s = some (unit, t)) :
    ∃ configStaged prepared,
      exec (prepareEncoderEvent P event) s = (.ok (.ready unit configStaged), prepared) ∧
        exec (publishStaged P configStaged) prepared = (.ok (), t) := by
  unfold published at h
  split at h
  next ready after hexec =>
    obtain ⟨rfl, rfl⟩ := Prod.mk.inj (Option.some.inj h)
    unfold publishEvent at hexec
    obtain ⟨outcome, prepared, hprepare, hpublish⟩ := of_exec_bind_ok hexec
    cases outcome with
    | noEvidence => exact nomatch congrArg Prod.fst hpublish
    | refused => exact nomatch congrArg Prod.fst hpublish
    | ready made configStaged =>
        obtain ⟨_, after', hstaged, hpure⟩ := of_exec_bind_ok hpublish
        rw [exec_pure] at hpure
        obtain ⟨hmade, rfl⟩ := Prod.mk.inj hpure
        obtain rfl := Option.some.inj (Except.ok.inj hmade)
        exact ⟨configStaged, prepared, hprepare, hstaged⟩
  · exact nomatch h

theorem published_reachable {s t : SenderState} {event : NativeEncoderEvent}
    {unit : NativeEncoderAccessUnit} (hreach : (senderSystem P).Reachable s)
    (h : published P event s = some (unit, t)) : (senderSystem P).Reachable t := by
  obtain ⟨configStaged, prepared, hprepare, hpublish⟩ := publishEvent_some h
  have hstaged : Keeps (Steps P) (publishStaged P configStaged) := by
    unfold publishStaged session
    infer_instance
  have hsteps : Steps P s t := Frame.trans
    (kept_of_exec (inferInstance : Keeps (Steps P) (prepareEncoderEvent P event)) hprepare)
    (kept_of_exec hstaged hpublish)
  obtain ⟨labels, hrun⟩ := hsteps
  exact hreach.of_run hrun

theorem publishStaged_applying {s t : SenderState} {configStaged : Bool}
    (happlying : s.session.encoder.applyState.isApplying = true)
    (h : exec (publishStaged P configStaged) s = (.ok (), t)) : t = s := by
  unfold publishStaged session at h
  rw [exec_read_bind, exec_when_false (by rw [happlying]; exact fun hboth => nomatch hboth.2)] at h
  exact (congrArg Prod.snd h).symm

/-- Outside a transaction a configuration of the event is published by a pump. -/
theorem publishStaged_cases {s t : SenderState} {configStaged : Bool}
    (h : exec (publishStaged P configStaged) s = (.ok (), t)) :
    t = s ∧ (configStaged = true → s.session.encoder.applyState.isApplying = true) ∨
      configStaged = true ∧ s.session.encoder.applyState = .committed ∧
        exec (pump P) s = (.ok (), t) := by
  unfold publishStaged session at h
  rw [exec_read_bind] at h
  by_cases hpublishes : configStaged = true ∧ s.session.encoder.applyState.isApplying = false
  · rw [exec_when_true hpublishes] at h
    refine .inr ⟨hpublishes.1, idle_of_not_applying ?_, h⟩
    rw [hpublishes.2]
    exact Bool.false_ne_true
  · rw [exec_when_false hpublishes] at h
    refine .inl ⟨(congrArg Prod.snd h).symm, fun hstaged => ?_⟩
    by_contra hidle
    exact hpublishes ⟨hstaged, Bool.not_eq_true _ ▸ hidle⟩

end Core

/-!
## Access units within their budgets

An access unit keeps its budget if the offers that admit its data admit it also
after the alignment, if neither the Receiver nor its offers are replaced before the
admission, and, without a configuration of its own and outside a transaction, if
the configuration at hand was sent. In a transaction the configuration is sent
with the keyframe, and one that the access unit brings is published before it.
-/

/-! ## Numbers of transactions -/

theorem TransactionLog.Records.applying_pos {marks : List SenderMark} {log : TransactionLog}
    (h : Records marks log) : ∀ t ∈ log.applying, 0 < t.directive.id := by
  induction h with
  | new => exact nofun
  | other h hother ih => exact ih
  | bound h hidle hfirst hshaped ih => exact ih
  | observed h hidle hfirst ih => exact ih
  | allocated h hidle hnew ih => exact ih
  | began h hidle hnew hepoch hgeneration hcurrent ih =>
      intro t ht
      obtain rfl := Option.some.inj ht
      exact (Nat.zero_le _).trans_lt hnew
  | @started marks log h before generation happlying hfirst ih =>
      intro t ht
      obtain rfl := Option.some.inj ht
      exact ih before happlying
  | rolledBack h happlying ih => exact nofun
  | committed h happlying hmatches ih => exact nofun

theorem directive_pos {P : SenderPlatform} {s : SenderState}
    (h : (senderSystem P).Reachable s) {transaction : EncoderTransaction}
    (happlying : s.session.encoder.applyState = .applying transaction) :
    0 < transaction.directive.id := by
  obtain ⟨-, hlogged⟩ := path_invariant logged_new (fun _ _ _ => logged_change)
    (reachable_unlimited h)
  obtain ⟨log, hrecords, hdescribes⟩ := hlogged.log
  exact hrecords.applying_pos _
    (hdescribes.applying.trans (applying_openTransaction happlying) : log.applying = some _)

theorem transactionId_of_matches {P : SenderPlatform} {s : SenderState}
    (h : (senderSystem P).Reachable s) {unit : NativeEncoderAccessUnit}
    (hmatches : s.session.encoder.applyState.matchesNativeFacts unit.transactionId
      unit.encoderGeneration unit.streamEpoch unit.height = true) : unit.transactionId ≠ 0 := by
  cases hstate : s.session.encoder.applyState with
  | committed =>
      rw [hstate] at hmatches
      exact nomatch hmatches
  | applying transaction =>
      rw [hstate] at hmatches
      have hdirective := (of_decide_eq_true hmatches).1
      have hid : transaction.directive.id = unit.transactionId := (of_decide_eq_true hdirective).1
      exact hid ▸ (directive_pos h hstate).ne'

/-! ## One callback -/

def nativePlatform (crypto : Cryptography) (codecs : Codecs) (parsers : SourceParsers) :
    SenderPlatform :=
  ⟨crypto, codecs, nativeBitstream parsers⟩

section Callback

variable {crypto : Cryptography} {codecs : Codecs} {parsers : SourceParsers}
  {s t u : SenderState} {event : NativeEncoderEvent} {unit : NativeEncoderAccessUnit}
  {config : StreamConfigParams} {format : VideoFormat} {offers : Capabilities}

theorem checkedFormat_eq (hconfig : config ∈ checkedConfig s.session event)
    (hformat : (nativeBitstream parsers).videoFormat config.configuration config.fps =
      .ok format) :
    checkedFormat (nativePlatform crypto codecs parsers) s.session event = some format := by
  unfold checkedFormat
  rw [Option.mem_def.mp hconfig]
  change ((nativeBitstream parsers).videoFormat config.configuration config.fps).toOption = _
  rw [hformat]
  rfl

theorem announcedFormat_candidate {configs : List StreamConfig} {wire : StreamConfig}
    {streamEpoch : Nat}
    (hwire : ({ config with streamEpoch := streamEpoch } : StreamConfigParams).toProto
      (nativeBitstream parsers) = .ok wire)
    (hformat : (nativeBitstream parsers).videoFormat config.configuration config.fps =
      .ok format) :
    announcedFormat (nativeBitstream parsers) (configs ++ [wire]) streamEpoch = some format := by
  have hepoch : wire.streamEpoch = streamEpoch := by
    obtain ⟨native, facts, color, honWire⟩ := onWire_of_toProto hwire
    rw [honWire.wire]
  unfold announcedFormat
  rw [← hepoch, configOf_snoc]
  change ((nativeBitstream parsers).validatedVideoFormat wire).toOption = _
  rw [validated_of_toProto hwire hformat]
  rfl

theorem supports_one {level size : Nat} (h : offers.supports format level size = true) :
    offers.supports format level 1 = true := by
  unfold Capabilities.supports at h ⊢
  simp only [Bool.and_eq_true, List.any_eq_true, decide_eq_true_eq] at h ⊢
  obtain ⟨⟨hread, hsize⟩, offer, hmem, hoffer, hlevel, hfits⟩ := h
  exact ⟨⟨hread, Nat.one_pos⟩, offer, hmem, hoffer, hlevel, hsize.trans_le hfits⟩

theorem levelIdc_of_toProto {wire : StreamConfig}
    (h : config.toProto (nativeBitstream parsers) = .ok wire) :
    wire.levelIdc = (nativeBitstream parsers).levelIdc config.configuration := by
  obtain ⟨native, facts, color, honWire⟩ := onWire_of_toProto h
  rw [honWire.wire]
  unfold nativeBitstream
  dsimp only
  rw [honWire.record]

/-- The configuration that an access unit was checked with, for an epoch. -/
def stagedConfig
    (hformat : (nativeBitstream parsers).videoFormat config.configuration config.fps =
      .ok format) {size : Nat}
    (hsupports : offers.supports format
      ((nativeBitstream parsers).levelIdc config.configuration) size = true)
    (streamEpoch : Nat) : StagedConfig (nativePlatform crypto codecs parsers) where
  config := { config with streamEpoch := streamEpoch }
  format := format
  offers := offers
  read _ hwire := validated_of_toProto hwire hformat
  supported _ hwire := by
    rw [levelIdc_of_toProto hwire]
    exact supports_one hsupports

/-- At the admission the offers are those of the check, and outside a transaction a
configuration of the event was sent. -/
theorem published_kept {prepared : SenderState} {configStaged : Bool}
    (hprepared : Core.Prepared (nativePlatform crypto codecs parsers) s event unit configStaged
      prepared)
    (hpublish : Program.exec (Core.publishStaged (nativePlatform crypto codecs parsers)
      configStaged) prepared = (.ok (), t))
    (hkept : ∀ mark ∈ t.trace.drop s.trace.length, mark.KeepsOffers offers)
    (hconnected : t.session.lifecycle.activeGeneration ≠ none)
    (hstreaming : t.session.streaming = true)
    (hoffers : s.session.receiverCapabilities = some offers)
    (hconfig : config ∈ checkedConfig s.session event)
    (hformat : (nativeBitstream parsers).videoFormat config.configuration config.fps =
      .ok format) {size : Nat}
    (hsupports : offers.supports format
      ((nativeBitstream parsers).levelIdc config.configuration) size = true) :
    t.session.receiverCapabilities = some offers ∧
      (event.streamConfig.isSome = true → t.session.encoder.applyState.isApplying = false →
        announcedFormat (nativeBitstream parsers) (toldConfigs t.trace)
          t.session.encoder.currentStreamEpoch = some format) := by
  have hsame : prepared.session.receiverCapabilities = some offers :=
    hprepared.offers.trans hoffers
  cases Core.publishStaged_cases hpublish with
  | inl huntouched =>
      obtain ⟨rfl, happlying⟩ := huntouched
      refine ⟨hsame, fun hown hidle => ?_⟩
      rw [happlying (hprepared.staged.trans hown)] at hidle
      cases hidle
  | inr hpumped =>
      obtain ⟨hstaged, hidle, hpump⟩ := hpumped
      obtain ⟨own, hown⟩ := Option.isSome_iff_exists.mp (hprepared.staged.symm.trans hstaged)
      obtain rfl : own = config := by
        unfold checkedConfig at hconfig
        rw [hown] at hconfig
        exact Option.some.inj hconfig
      obtain ⟨hpending, hunsent⟩ := hprepared.unsent own hown
      have hawaits : Awaits (stagedConfig hformat hsupports
          prepared.session.encoder.currentStreamEpoch :
            StagedConfig (nativePlatform crypto codecs parsers)) prepared := by
        refine ⟨hidle, rfl, hpending, fun _ => hsame, fun hsent => ?_⟩
        rw [hunsent] at hsent
        cases hsent
      have hafter : ∀ mark ∈ t.trace.drop prepared.trace.length, mark.KeepsOffers offers := by
        obtain ⟨more, hmore⟩ := hprepared.grows
        intro mark hmark
        rw [hmore, List.length_append, ← List.drop_drop] at hmark
        exact hkept mark (List.mem_of_mem_drop hmark)
      obtain ⟨hthen, hsent⟩ := Core.told_of_pump hawaits hpump hafter hconnected hstreaming
      refine ⟨hthen.offers hconnected, fun _ _ => ?_⟩
      rw [hthen.epoch]
      exact hthen.sent hsent

theorem announced_of_keeps {prepared : SenderState} {configStaged : Bool}
    (hreach : (senderSystem (nativePlatform crypto codecs parsers)).Reachable t)
    (hprepared : Core.Prepared (nativePlatform crypto codecs parsers) s event unit configStaged
      prepared)
    (hpublish : Program.exec (Core.publishStaged (nativePlatform crypto codecs parsers)
      configStaged) prepared = (.ok (), t))
    (hkeeps : KeepsBudget (nativePlatform crypto codecs parsers) s event
      (t.trace.drop s.trace.length))
    (hadmits : Core.Admits (nativePlatform crypto codecs parsers) t unit u)
    (hoffers : s.session.receiverCapabilities = some offers)
    (hconfig : config ∈ checkedConfig s.session event)
    (hformat : (nativeBitstream parsers).videoFormat config.configuration config.fps =
      .ok format) {size : Nat}
    (hsupports : offers.supports format
      ((nativeBitstream parsers).levelIdc config.configuration) size = true) :
    announcedFormat (nativeBitstream parsers) (toldConfigs u.trace) unit.streamEpoch =
      some format := by
  by_cases houtside : unit.transactionId = 0
  · cases hadmits.told with
    | inl hcommitted =>
        obtain ⟨hidle, hepoch, htold⟩ := hcommitted
        rw [htold]
        cases hown : event.streamConfig with
        | some own =>
            rw [hepoch]
            exact (published_kept hprepared hpublish (hkeeps.offers offers hoffers)
              hadmits.connected hadmits.streaming hoffers hconfig hformat hsupports).2
                (hown ▸ rfl) hidle
        | none =>
            cases Core.publishStaged_cases hpublish with
            | inr hpumped =>
                rw [hprepared.staged, hown] at hpumped
                exact nomatch hpumped.1
            | inl huntouched =>
                obtain ⟨rfl, -⟩ := huntouched
                obtain ⟨data, rfl, -⟩ := hprepared.unit
                rw [hprepared.told]
                exact (hkeeps.announced hown houtside).trans (checkedFormat_eq hconfig hformat)
    | inr hcandidate =>
        exact absurd houtside (transactionId_of_matches hreach hcandidate.1)
  · -- The transaction that the access unit names runs from the check to the admission.
    have happlying : prepared.session.encoder.applyState.isApplying = true := by
      obtain ⟨data, rfl, -⟩ := hprepared.unit
      rw [hprepared.applying]
      cases hstate : s.session.encoder.applyState with
      | committed =>
          rw [hstate] at houtside
          exact absurd rfl houtside
      | applying transaction => rfl
    obtain rfl := Core.publishStaged_applying happlying hpublish
    cases hadmits.told with
    | inl hcommitted =>
        rw [hcommitted.1] at happlying
        exact absurd happlying Bool.false_ne_true
    | inr hcandidate =>
        obtain ⟨-, pending, hpending, wire, hwire, htold⟩ := hcandidate
        obtain ⟨streamEpoch, hsame⟩ := hprepared.pending config hconfig
        rw [Option.mem_def, hsame] at hpending
        obtain rfl := Option.some.inj hpending
        rw [htold]
        exact announcedFormat_candidate hwire hformat

theorem withinBudget_of_keeps {packetized : PacketizedUnit}
    (hreach : (senderSystem (nativePlatform crypto codecs parsers)).Reachable s)
    (hkeeps : KeepsBudget (nativePlatform crypto codecs parsers) s event
      (takenBetween (nativePlatform crypto codecs parsers) event s))
    (h : packetizedBy (nativePlatform crypto codecs parsers) event s = some packetized) :
    WithinBudget (nativeBitstream parsers) packetized := by
  unfold packetizedBy at h
  obtain ⟨⟨unit, t⟩, hpublished, hadmitted⟩ := Option.bind_eq_some_iff.mp h
  dsimp only at hadmitted
  split at hadmitted
  next count u hexec =>
    have hkept : KeepsBudget (nativePlatform crypto codecs parsers) s event
        (t.trace.drop s.trace.length) := by
      unfold takenBetween at hkeeps
      rwa [hpublished] at hkeeps
    have hadmits := Core.ingest_admits hexec
    obtain ⟨configStaged, prepared, hprepare, hpublish⟩ := Core.publishEvent_some hpublished
    have hprepared := Core.prepareEncoderEvent_ready hprepare
    obtain ⟨offers, hoffers⟩ := Option.ne_none_iff_exists'.mp hprepared.evidence
    obtain ⟨config, hconfig, format, hformat, hchecked⟩ :=
      Core.checkOffer_ok hoffers (Core.checkEncoderEvent_ok hprepared.check)
    have hannounced := announced_of_keeps (Core.published_reachable hreach hpublished) hprepared
      hpublish hkept hadmits hoffers hconfig hformat hchecked
    -- What the offers admit before the alignment they admit after it.
    have hsupports : offers.supports format
        ((nativeBitstream parsers).levelIdc config.configuration) unit.data.length = true := by
      obtain ⟨data, rfl, haligned⟩ := hprepared.unit
      have hsupported := hkept.aligned offers hoffers config hconfig
      unfold admitsAligned at hsupported
      rw [hformat, haligned config hconfig] at hsupported
      dsimp only at hsupported
      rwa [hchecked, Bool.not_true, Bool.false_or] at hsupported
    obtain ⟨offer, hoffer⟩ := exists_offer_of_supports hsupports
    have hsame : u.session.receiverCapabilities = some offers :=
      hadmits.offers.trans (published_kept hprepared hpublish (hkept.offers offers hoffers)
        hadmits.connected hadmits.streaming hoffers hconfig hformat hchecked).1
    obtain rfl := Option.some.inj hadmitted
    refine ⟨⟨format, hannounced, offers, hsame, offer, hoffer.mem, hoffer.format, hoffer.fits⟩,
      ?_⟩
    intro wire hwire read hread receiver capabilities hadvertised budget hbudget
    have hread' : read = format := by
      unfold announcedFormat at hannounced
      rw [Option.mem_def.mp hwire, Option.bind_some, hread] at hannounced
      exact Option.some.inj hannounced
    obtain rfl := Option.some.inj (hsame.symm.trans hadvertised)
    rw [hread'] at hbudget
    exact hoffer.passes hbudget
  · exact nomatch hadmitted

end Callback

/-! ## Runs -/

/-- What is carried along a run: the session is in a state that its own steps reach. -/
structure Carried (P : SenderPlatform) (bitstream : Bitstream) (h : HostState) : Prop where
  reachable : (senderSystem P).Reachable h.sender
  within : ∀ unit ∈ h.packetized, WithinBudget bitstream unit

/-- In every run whose callbacks keep the budgets, every access unit that was packetized is
within the budget of the offer of its StreamConfig. -/
theorem packetized_withinBudget (crypto : Cryptography) (codecs : Codecs)
    (parsers : SourceParsers) {h : HostState}
    (hreach : ((hostSystem (nativePlatform crypto codecs parsers)).restrict
      (HostState.MeetsBudget (nativePlatform crypto codecs parsers))).Reachable h) :
    ∀ unit ∈ h.packetized, WithinBudget (nativeBitstream parsers) unit := by
  have hcarried : Carried (nativePlatform crypto codecs parsers) (nativeBitstream parsers) h := by
    refine hreach.invariant ?_ ?_
    · rintro start ⟨identity, trusted, hasPath, rfl⟩
      exact ⟨Reachable.of_init ⟨identity, trusted, hasPath, rfl⟩, nofun⟩
    · rintro before call after hcarried ⟨hmeets, rfl⟩
      cases call with
      | operation step => exact ⟨hcarried.reachable.step rfl, hcarried.within⟩
      | submitEncoderEvent event =>
          obtain ⟨labels, hrun⟩ :=
            Core.submitEncoderEvent_isRun (nativePlatform crypto codecs parsers) event before.sender
          refine ⟨hcarried.reachable.of_run hrun, fun unit hunit => ?_⟩
          cases List.mem_append.mp hunit with
          | inl hold => exact hcarried.within unit hold
          | inr hnew =>
              have hpacketized := Option.mem_toList.mp hnew
              exact withinBudget_of_keeps hcarried.reachable
                (hmeets (Option.isSome_of_mem hpacketized)) hpacketized
  exact hcarried.within

/-! ## A parameter set that grows -/

/-- A 720p parameter set of the High profile, without VUI. -/
def bareSps : Bytes := [0x67, 100, 0, 31, 0xac, 0xb4, 0x02, 0x80, 0x2d, 0xc8]

/-- The same with the colour that `with_explicit_bt709_sdr` writes into it. -/
def colouredSps : Bytes :=
  [0x67, 100, 0, 31, 0xac, 0xb4, 0x02, 0x80, 0x2d, 0xd3, 0x50, 0x10, 0x10, 0x10, 0x20]

def samplePps : Bytes := [0x68, 0xee, 0x3c, 0x80]

def colouredRecord : Bytes :=
  [1, 100, 0, 31, 0xff, 0xe1, 0, 15] ++ colouredSps ++ [1, 0, 4] ++ samplePps

/-- The standard syntax of an SPS, and the record of the two parameter sets. -/
def colouredParsers : SourceParsers :=
  { Bitstream.tableReader.parsers
      { Bitstream.noParsers with
        avcRecord := fun record =>
          if record = colouredRecord then
            .ok (⟨100, 0, 31, 3, [colouredSps], [samplePps], none⟩, 30)
          else .error .configuration } with
    hevcSource := fun _ => .error .configuration }

def colouredPlatform : SenderPlatform :=
  nativePlatform samplePlatform.crypto samplePlatform.codecs colouredParsers

/-- The first keyframe of an encoder that writes no colour into its parameter sets. -/
def bareEvent : NativeEncoderEvent where
  data := Bitstream.framed false [bareSps, samplePps, [0x65, 0x88]]
  isKeyframe := true
  ptsUs := 0
  encodedAtUs := 0
  encoderGeneration := 7
  streamEpoch := 1
  width := 1280
  height := 720
  streamConfig := some { sampleParams with configuration := ⟨.avc, colouredRecord⟩ }

/-- The picture after it, for which the configuration is at hand. -/
def deltaEvent : NativeEncoderEvent :=
  { bareEvent with
    data := Bitstream.framed false [[0x41, 0x9a]]
    isKeyframe := false
    ptsUs := 33333
    encodedAtUs := 33333
    streamConfig := none }

/-- A streaming session with a Receiver that admits access units of 720p up to a size. -/
def offeringCalls (maxAccessUnitBytes : Nat) : List HostCall :=
  (streamingSteps ++ receiving 4
      (.capabilities ⟨[⟨some sampleFormat, maxAccessUnitBytes, 31⟩]⟩)).map .operation ++
    [.submitEncoderEvent bareEvent]

def hostStart : HostState := ⟨sampleStart, []⟩

def hostRun (calls : List HostCall) : HostState :=
  calls.foldl (HostState.next colouredPlatform) hostStart

theorem reachable_hostRun {C : HostState → HostCall → Prop} {calls : List HostCall}
    (h : MeetsAll C (HostState.next colouredPlatform) hostStart calls) :
    ((hostSystem colouredPlatform).restrict C).Reachable (hostRun calls) := by
  have hstart : ((hostSystem colouredPlatform).restrict C).Reachable hostStart :=
    Reachable.of_init ⟨_, _, _, rfl⟩
  exact Reachable.foldl (fun _ _ hmeets => ⟨hmeets, rfl⟩) hstart h

/-- With room for the five bytes of the colour the access units are within their budgets. -/
theorem packetized_withinBudget_roomy :
    (hostRun (offeringCalls 33 ++ [.submitEncoderEvent deltaEvent])).packetized.map
        PacketizedUnit.size = [33, 6] ∧
      ∀ unit ∈ (hostRun (offeringCalls 33 ++ [.submitEncoderEvent deltaEvent])).packetized,
        WithinBudget (nativeBitstream colouredParsers) unit :=
  ⟨by decide +kernel, packetized_withinBudget samplePlatform.crypto samplePlatform.codecs
    colouredParsers (reachable_hostRun (by decide +kernel))⟩

/-- The access unit is checked with its 28 bytes, for which there is an offer, and is sent with
33. -/
theorem packetized_exceedsBudget :
    ¬∀ crypto codecs parsers (h : HostState),
      (hostSystem (nativePlatform crypto codecs parsers)).Reachable h →
        ∀ unit ∈ h.packetized, WithinBudget (nativeBitstream parsers) unit := by
  intro hall
  have hreach : (hostSystem colouredPlatform).Reachable (hostRun (offeringCalls 28)) :=
    (reachable_hostRun (meetsAll_true _ _ _)).of_restrict
  have hsizes : (hostRun (offeringCalls 28)).packetized.map PacketizedUnit.size = [33] := by
    decide +kernel
  have hoffers : (hostRun (offeringCalls 28)).packetized.map PacketizedUnit.offers =
      [some ⟨[⟨some sampleFormat, 28, 31⟩]⟩] := by
    decide +kernel
  obtain ⟨unit, hunit, hsize⟩ := List.map_eq_singleton_iff.mp hsizes
  have hwithin := hall _ _ _ _ hreach unit (hunit ▸ List.mem_singleton_self unit)
  obtain ⟨format, -, capabilities, hmade, offer, hoffer, -, hfits⟩ := hwithin.offered
  rw [hunit, List.map_singleton, hmade] at hoffers
  obtain rfl := Option.some.inj (List.singleton_inj.mp hoffers)
  rw [List.mem_singleton.mp hoffer, hsize] at hfits
  exact absurd hfits (by decide)

end PicooCamera.Sender
