import PicooCamera.Jitter.BufferRuns
import PicooCamera.Receiver.QuietPrograms

/-!
# The owner's media programs change the media path

`Simulated` relates the states before and after a program whose effect on the
media path is made of its changes.
-/

namespace PicooCamera.Receiver

open PicooCamera.Library PicooCamera.Protocol PicooCamera.Packet PicooCamera.Session
open PicooCamera.Jitter PicooCamera.Transport Program

variable {loose accepting : Prop}

def Simulated (loose accepting : Prop) (o o' : OwnerState) : Prop :=
  Known loose o.mediaPath → Changes loose accepting o.mediaPath o'.mediaPath

theorem Simulated.of_change {o o' : OwnerState}
    (h : Change loose accepting o.mediaPath o'.mediaPath) : Simulated loose accepting o o' :=
  fun _ => Relation.ReflTransGen.single h

theorem Simulated.of_change_eq {o o' : OwnerState} {c : MediaPath}
    (h : Change loose accepting o.mediaPath c) (heq : o'.mediaPath = c) :
    Simulated loose accepting o o' :=
  Simulated.of_change (heq ▸ h)

instance : Recovers (Simulated loose accepting) where
  refl _ _ := Relation.ReflTransGen.refl
  trans hou huv known := (hou known).trans (huv (known.changes (hou known)))
  same heq _ := heq ▸ Relation.ReflTransGen.refl
  decode label honest heq := Simulated.of_change_eq (Change.decode _ label honest) heq
  expect upcoming fewer heq := Simulated.of_change_eq (Change.expect _ upcoming fewer) heq
  recover queued fewer heq := Simulated.of_change_eq (Change.recover _ queued fewer) heq
  resetDecoder idle heq := Simulated.of_change_eq (Change.resetDecoder _ idle) heq

/-! ## Steps of the other threads only -/

namespace MediaPath

def decodeAll (c : MediaPath) (labels : List DecoderStep) : MediaPath :=
  labels.foldl (fun c label => if label.honest c.handed then c.decode label else c) c

theorem decodeAll_append (c : MediaPath) (labels more : List DecoderStep) :
    c.decodeAll (labels ++ more) = (c.decodeAll labels).decodeAll more :=
  List.foldl_append

theorem changes_decodeAll (c : MediaPath) (labels : List DecoderStep) :
    Changes loose accepting c (c.decodeAll labels) := by
  induction labels generalizing c with
  | nil => exact Relation.ReflTransGen.refl
  | cons label labels ih =>
      by_cases honest : label.honest c.handed
      · have hrest := ih (c.decode label)
        have heq : c.decodeAll (label :: labels) = (c.decode label).decodeAll labels := by
          simp [decodeAll, honest]
        rw [heq]
        exact Relation.ReflTransGen.head (Change.decode c label honest) hrest
      · have heq : c.decodeAll (label :: labels) = c.decodeAll labels := by
          simp [decodeAll, honest]
        rw [heq]
        exact ih c

theorem decodeAll_comm {f : MediaPath → MediaPath} (hhanded : ∀ c, (f c).handed = c.handed)
    (hdecode : ∀ c label, (f c).decode label = f (c.decode label)) (c : MediaPath)
    (labels : List DecoderStep) : (f c).decodeAll labels = f (c.decodeAll labels) := by
  induction labels generalizing c with
  | nil => rfl
  | cons label labels ih =>
      by_cases honest : label.honest c.handed
      · have hleft : (f c).decodeAll (label :: labels) = ((f c).decode label).decodeAll labels := by
          simp [decodeAll, hhanded, honest]
        have hright : c.decodeAll (label :: labels) = (c.decode label).decodeAll labels := by
          simp [decodeAll, honest]
        rw [hleft, hright, hdecode]
        exact ih _
      · have hleft : (f c).decodeAll (label :: labels) = (f c).decodeAll labels := by
          simp [decodeAll, hhanded, honest]
        have hright : c.decodeAll (label :: labels) = c.decodeAll labels := by
          simp [decodeAll, honest]
        rw [hleft, hright]
        exact ih c

theorem decodeAll_keeps {α : Type} {f : MediaPath → α}
    (hf : ∀ c label, f (c.decode label) = f c) (c : MediaPath) (labels : List DecoderStep) :
    f (c.decodeAll labels) = f c := by
  induction labels generalizing c with
  | nil => rfl
  | cons label labels ih =>
      by_cases honest : label.honest c.handed
      · have heq : c.decodeAll (label :: labels) = (c.decode label).decodeAll labels := by
          simp [decodeAll, honest]
        rw [heq, ih, hf]
      · have heq : c.decodeAll (label :: labels) = c.decodeAll labels := by
          simp [decodeAll, honest]
        rw [heq, ih]

end MediaPath

/-- The decoder's thread and the worker of the transport go on, and the owner leaves the
media path alone. -/
def OnlyDecodes (o o' : OwnerState) : Prop :=
  ∃ labels upcoming, (∀ session, upcoming session ≤ o.mediaPath.upcoming session) ∧
    o'.mediaPath = (o.mediaPath.expect upcoming).decodeAll labels

namespace MediaPath

theorem decodeAll_expect (c : MediaPath) (upcoming : SessionId → Nat)
    (labels : List DecoderStep) :
    (c.expect upcoming).decodeAll labels = (c.decodeAll labels).expect upcoming :=
  @decodeAll_comm (fun c => c.expect upcoming) (fun _ => rfl) (fun _ _ => rfl) c labels

theorem changes_worlds (c : MediaPath) {upcoming : SessionId → Nat}
    (fewer : ∀ session, upcoming session ≤ c.upcoming session) (labels : List DecoderStep) :
    Changes loose accepting c ((c.expect upcoming).decodeAll labels) :=
  Relation.ReflTransGen.head (Change.expect c upcoming fewer) (changes_decodeAll _ labels)

end MediaPath

instance : Quiet OnlyDecodes where
  refl o := ⟨[], o.mediaPath.upcoming, fun _ => le_rfl, rfl⟩
  trans := by
    rintro o u v ⟨labels, upcoming, hfewer, hou⟩ ⟨more, rest, hrest, huv⟩
    refine ⟨labels ++ more, rest, fun session => ?_, ?_⟩
    · refine (hrest session).trans ?_
      rw [hou, MediaPath.decodeAll_expect]
      exact hfewer session
    · rw [huv, hou, MediaPath.decodeAll_append]
      change (((o.mediaPath.expect upcoming).decodeAll labels).expect rest).decodeAll more =
        (((o.mediaPath.expect upcoming).expect rest).decodeAll labels).decodeAll more
      rw [← MediaPath.decodeAll_expect _ rest labels]
  same {o o'} heq := ⟨[], o.mediaPath.upcoming, fun _ => le_rfl, heq⟩
  decode := by
    intro o o' label honest heq
    refine ⟨[label], o.mediaPath.upcoming, fun _ => le_rfl, ?_⟩
    rw [heq]
    change o.mediaPath.decode label = o.mediaPath.decodeAll [label]
    simp [MediaPath.decodeAll, honest]
  expect upcoming fewer heq := ⟨[], upcoming, fewer, heq⟩

theorem OnlyDecodes.simulated {o o' : OwnerState} (h : OnlyDecodes o o') :
    Simulated loose accepting o o' := by
  intro _
  obtain ⟨labels, upcoming, hfewer, heq⟩ := h
  rw [heq]
  exact MediaPath.changes_worlds _ hfewer _

theorem OnlyDecodes.keeps {o o' : OwnerState} (h : OnlyDecodes o o') {α : Type}
    {f : MediaPath → α} (hf : ∀ c label, f (c.decode label) = f c)
    (hother : ∀ c upcoming, f (c.expect upcoming) = f c) :
    f o'.mediaPath = f o.mediaPath := by
  obtain ⟨labels, upcoming, _, heq⟩ := h
  rw [heq, MediaPath.decodeAll_keeps hf, hother]

theorem OnlyDecodes.fewer {o o' : OwnerState} (h : OnlyDecodes o o') (session : SessionId) :
    o'.mediaPath.upcoming session ≤ o.mediaPath.upcoming session := by
  obtain ⟨labels, upcoming, hfewer, heq⟩ := h
  rw [heq, MediaPath.decodeAll_expect]
  exact hfewer session

namespace Owner

/-! ## Playout -/

/-- `R`, from and to states with a committed configuration. -/
def WhileConfigured (R : OwnerState → OwnerState → Prop) (o o' : OwnerState) : Prop :=
  o.mediaPath.config ≠ none → R o o' ∧ o'.mediaPath.config ≠ none

instance {R : OwnerState → OwnerState → Prop} [Recovers R] : Recovers (WhileConfigured R) where
  refl o hconfig := ⟨Frame.refl o, hconfig⟩
  trans hou huv hconfig :=
    ⟨Frame.trans (hou hconfig).1 (huv (hou hconfig).2).1, (huv (hou hconfig).2).2⟩
  same heq hconfig := ⟨Quiet.same heq, heq ▸ hconfig⟩
  decode label honest heq hconfig := ⟨Quiet.decode label honest heq, heq ▸ hconfig⟩
  expect upcoming fewer heq hconfig := ⟨Quiet.expect upcoming fewer heq, heq ▸ hconfig⟩
  recover queued fewer heq hconfig := ⟨Recovers.recover queued fewer heq, heq ▸ hconfig⟩
  resetDecoder idle heq hconfig := ⟨Recovers.resetDecoder idle heq, heq ▸ hconfig⟩

theorem mediaPath_setJitter (o : OwnerState) (jitter : JitterBuffer) :
    ({ o with session := o.session.setMedia (o.session.media.setJitter jitter) } :
        OwnerState).mediaPath =
      { o.mediaPath with queued := !jitter.frames.isEmpty } := rfl

/-- The queue of playout changes, with a committed configuration. -/
instance (jitter : MediaState → JitterBuffer) :
    Keeps (WhileConfigured (Simulated loose accepting))
      (modifyMedia fun m => m.setJitter (jitter m)) := by
  apply keeps_update
  intro o hconfig
  refine ⟨?_, hconfig⟩
  cases hempty : (jitter o.session.media).frames.isEmpty with
  | true =>
      apply Simulated.of_change_eq (Change.drain _)
      simp [mediaPath_setJitter, hempty]
  | false =>
      apply Simulated.of_change_eq (Change.enqueue _ hconfig)
      simp [mediaPath_setJitter, hempty]

theorem simulated_shrink {o : OwnerState} {jitter : JitterBuffer}
    (hfewer : o.session.media.jitter.frames = [] → jitter.frames = []) :
    Simulated loose accepting o
      { o with session := o.session.setMedia (o.session.media.setJitter jitter) } := by
  cases hempty : jitter.frames.isEmpty with
  | true =>
      apply Simulated.of_change_eq (Change.drain _)
      simp [mediaPath_setJitter, hempty]
  | false =>
      apply Quiet.same
      rw [mediaPath_setJitter, hempty]
      have hsome : o.session.media.jitter.frames.isEmpty = false := by
        by_contra hnone
        have hnil := hfewer (List.isEmpty_iff.mp (by simpa using hnone))
        rw [hnil] at hempty
        cases hempty
      simp [OwnerState.mediaPath, hsome]

instance (unit : AssembledAccessUnit) :
    Keeps (WhileConfigured (Simulated loose accepting)) (queueAssembledAccessUnit unit) := by
  unfold queueAssembledAccessUnit
  infer_instance

theorem keeps_session_bind {R : OwnerState → OwnerState → Prop} {α : Type}
    {p : ReceiverSession → Owner α} (h : ∀ o : OwnerState, R o (exec (p o.session) o).2) :
    Keeps R (session >>= p) :=
  ⟨fun o => h o⟩

theorem keeps_after {R : OwnerState → OwnerState → Prop} [Frame R] {α : Type}
    {f : OwnerState → OwnerState} {p : Unit → Owner α} {o : OwnerState} (h : R o (f o))
    (hp : Keeps R (p ())) : R o (exec (update f >>= p) o).2 :=
  Frame.trans h (hp.keeps (f o))

theorem mediaConnectionGeneration_spec (o : OwnerState) :
    ∃ generation, (exec mediaConnectionGeneration o).1 = .ok generation ∧
      ∀ control ∈ o.mediaPath.control, generation = control := by
  unfold mediaConnectionGeneration session
  rw [exec_read_bind]
  cases hcontrol : o.session.control.controlGeneration with
  | some control =>
      refine ⟨control, rfl, ?_⟩
      intro other hother
      exact (Option.some.inj (hcontrol.symm.trans hother)).symm ▸ rfl
  | none =>
      refine ⟨_, rfl, ?_⟩
      intro control hsome
      rw [show o.mediaPath.control = none from hcontrol] at hsome
      cases hsome

/-- The state after a job was offered to the queue. -/
def offered (o : OwnerState) (job : DecodeJob) : OwnerState :=
  { o.turn with world.decoder.queue := (o.turn.world.decoder.queue.submit job).2 }

theorem exec_submitToDecoder (o : OwnerState) (job : DecodeJob) :
    exec (submitToDecoder job) o =
      (.ok (o.turn.world.decoder.queue.submit job).1, offered o job) := rfl

theorem noteRefreshSubmitted_phase (r : DecoderRecovery) (timeline : AccessUnitTimeline) :
    (r.noteRefreshSubmitted timeline).phase = r.phase.submitted timeline := by
  unfold DecoderRecovery.noteRefreshSubmitted DecoderRecoveryPhase.submitted
  split <;> rfl

theorem simulated_dropped {o : OwnerState} {job : DecodeJob} {refresh : Bool}
    (hdropped : (o.turn.world.decoder.queue.submit job).1 = .dropped refresh) :
    Simulated loose accepting o (offered o job) := by
  have hqueue : (o.turn.world.decoder.queue.submit job).2 = o.turn.world.decoder.queue :=
    submit_dropped (Prod.ext hdropped rfl)
  have hsame : (offered o job).mediaPath = o.turn.mediaPath := by
    unfold offered
    rw [hqueue]
  exact Frame.trans (quiet_turn o) (Quiet.same hsame)

theorem simulated_publish {o : OwnerState} {unit : EncodedAccessUnit}
    (hcontrol : ∀ control ∈ o.mediaPath.control, unit.timeline.connectionGeneration = control)
    (hconfig : o.mediaPath.config ≠ none) :
    Simulated loose accepting o (exec (publishTimelineAccessUnit unit) o).2 := by
  unfold publishTimelineAccessUnit session
  rw [exec_read_bind]
  by_cases hbudget : o.session.media.exceedsBudget unit.data.length
  · rw [if_pos hbudget]
    exact Frame.refl o
  rw [if_neg hbudget]
  by_cases hforeign : o.session.media.foreignStream unit.timeline.streamGeneration = true
  · rw [if_pos hforeign]
    exact Frame.refl o
  rw [if_neg hforeign, exec_bind_ok (exec_submitToDecoder o _)]
  generalize hjob : DecodeJob.mk o.session.configRevision unit
    o.session.media.currentStreamConfig 0 = job
  have hturn : Simulated loose accepting o o.turn := quiet_turn o
  cases hout : (o.turn.world.decoder.queue.submit job).1 with
  | dropped refresh =>
      have hdropped := @simulated_dropped loose accepting o job refresh hout
      cases refresh with
      | true =>
          have hrecover : Keeps (Simulated loose accepting)
              (enterDecoderRecovery .decoderQueuePressure true) := inferInstance
          exact Frame.trans hdropped (hrecover.keeps _)
      | false => exact hdropped
  | queued =>
      have hsubmits : o.turn.mediaPath.Submits job := by
        have hepoch : o.mediaPath.streamEpoch = some unit.timeline.streamGeneration := by
          obtain ⟨config, hsome⟩ := Option.ne_none_iff_exists'.mp hconfig
          have hstream : o.session.media.streamEpoch = some config.streamEpoch :=
            congrArg (Option.map StreamConfig.streamEpoch) hsome
          unfold MediaState.foreignStream at hforeign
          rw [hstream] at hforeign
          simp only [decide_eq_true_eq, ne_eq, not_not] at hforeign
          rw [← hforeign]
          exact hstream
        subst hjob
        refine ⟨?_, ?_, ?_, ?_⟩
        · exact (congrArg (fun s => s.media.currentStreamConfig) o.session_turn).symm
        · exact (congrArg (fun s => s.configRevision) o.session_turn).symm
        · have hsame : o.turn.mediaPath.streamEpoch = o.mediaPath.streamEpoch := by
            simp [MediaPath.streamEpoch, OwnerState.mediaPath]
          exact hsame.trans hepoch
        · intro control hsome
          apply hcontrol control
          simpa [OwnerState.mediaPath] using hsome
      refine Frame.trans hturn (Simulated.of_change_eq (Change.submit _ job hsubmits hout) ?_)
      subst hjob
      simp only [exec_update_bind, note, modifyMedia, modifySession, exec_update]
      simp [OwnerState.mediaPath, MediaPath.submit, offered, ReceiverSession.setMedia,
        MediaState.setRecovery, noteRefreshSubmitted_phase, OwnerMark.isMedia,
        OwnerMark.dispatched?, ReceiverSession.videoAllowed]

theorem popReady_frames {j : JitterBuffer} {nowUs : Nat} (h : j.frames = []) :
    (j.popReady nowUs).2.frames = [] := by
  simp [JitterBuffer.popReady, h]

theorem frames_of_popReady {j : JitterBuffer} {nowUs : Nat} {frame : Frame}
    (h : (j.popReady nowUs).1 = some frame) : j.frames ≠ [] := by
  intro hnil
  simp [JitterBuffer.popReady, hnil] at h

theorem dropExpired_frames {j : JitterBuffer} {nowUs maxQueueAgeUs : Nat} (h : j.frames = []) :
    (j.dropExpired nowUs maxQueueAgeUs).2.frames = [] := by
  unfold JitterBuffer.dropExpired
  split
  · exact h
  · simp [h]

/-- The state after the front of the queue of playout was asked for. -/
def popped (o : OwnerState) (nowUs : Nat) : OwnerState :=
  let jitter := (o.session.media.jitter.popReady nowUs).2
  { o with session := o.session.setMedia (o.session.media.setJitter jitter) }

theorem exec_popReady (o : OwnerState) (nowUs : Nat) :
    exec (popReady nowUs) o =
      (.ok (o.session.media.jitter.popReady nowUs).1, popped o nowUs) := rfl

theorem simulated_popped (o : OwnerState) (nowUs : Nat) :
    Simulated loose accepting o (popped o nowUs) :=
  simulated_shrink popReady_frames

instance (nowUs : Nat) : Keeps (Simulated loose accepting) (popReady nowUs) :=
  ⟨fun o => simulated_popped o nowUs⟩

instance {R : OwnerState → OwnerState → Prop} [Quiet R] (nowUs maxQueueAgeUs : Nat) :
    Keeps R (mediaScheduleDecision nowUs maxQueueAgeUs) := by
  unfold mediaScheduleDecision
  infer_instance

theorem simulated_submitFrame {o : OwnerState} {frame : Frame} {nowUs : Nat}
    {next : Unit → Owner Unit} (hconfig : o.mediaPath.config ≠ none)
    (hnext : ∀ a, Keeps (Simulated loose accepting) (next a)) :
    Simulated loose accepting o
      (exec (mediaConnectionGeneration >>= fun generation =>
        publishTimelineAccessUnit (encodedAccessUnit frame generation nowUs) >>= next) o).2 := by
  obtain ⟨generation, hok, hcontrol⟩ := mediaConnectionGeneration_spec o
  have hdecodes : OnlyDecodes o (exec mediaConnectionGeneration o).2 :=
    (inferInstance : Keeps OnlyDecodes mediaConnectionGeneration).keeps o
  rw [exec_bind_ok (show exec mediaConnectionGeneration o =
    (.ok generation, (exec mediaConnectionGeneration o).2) from Prod.ext hok rfl)]
  have hsame : (exec mediaConnectionGeneration o).2.mediaPath.config = o.mediaPath.config :=
    @OnlyDecodes.keeps _ _ hdecodes _ MediaPath.config (fun _ _ => rfl) fun _ _ => rfl
  have hsameControl :
      (exec mediaConnectionGeneration o).2.mediaPath.control = o.mediaPath.control :=
    @OnlyDecodes.keeps _ _ hdecodes _ MediaPath.control (fun _ _ => rfl) fun _ _ => rfl
  refine Frame.trans hdecodes.simulated (keeps_from (simulated_publish ?_ ?_) hnext)
  · rw [hsameControl]
    exact hcontrol
  · rw [hsame]
    exact hconfig

instance keeps_drainJitterLoop (nowUs maxQueueAgeUs fuel : Nat) :
    Keeps (Simulated loose accepting) (drainJitterLoop nowUs maxQueueAgeUs fuel) := by
  induction fuel with
  | zero =>
      unfold drainJitterLoop
      infer_instance
  | succ fuel ih =>
      unfold drainJitterLoop
      apply keeps_then inferInstance
      intro decision
      cases decision with
      | discardExpired =>
          apply keeps_session_bind
          intro o
          refine keeps_after (simulated_shrink dropExpired_frames) ?_
          split <;> infer_instance
      | decodeReadyFrame =>
          constructor
          intro o known
          rw [exec_bind_ok (exec_popReady o nowUs)]
          have hpopped := @simulated_popped loose accepting o nowUs known
          cases hfront : (o.session.media.jitter.popReady nowUs).1 with
          | none => exact hpopped
          | some frame =>
              have hqueued : o.mediaPath.queued := by
                simpa [OwnerState.mediaPath] using frames_of_popReady hfront
              have hconfig : (popped o nowUs).mediaPath.config ≠ none := known.queued hqueued
              exact hpopped.trans
                (simulated_submitFrame hconfig (fun _ => ih) (known.changes hpopped))
      | discardReadyFrame =>
          apply keeps_then inferInstance
          intro front
          cases front <;> infer_instance
      | discardRecoveryBlockedFrame =>
          apply keeps_then inferInstance
          intro front
          cases front <;> infer_instance
      | waitUntil delay reason => infer_instance
      | waitForEvent reason => infer_instance
      | idle => infer_instance

instance : Keeps (Simulated loose accepting) drainJitter := by
  unfold drainJitter
  infer_instance

/-! ## Ingress -/

section Quiet

variable {R : OwnerState → OwnerState → Prop} [Quiet R]

instance (unit : AssembledAccessUnit) : Keeps R (modifyMedia fun m => m.keepFutureIdr unit) := by
  apply quiet_media
  intro o
  unfold MediaState.keepFutureIdr
  split <;> rfl

instance : Keeps R (modifyMedia MediaState.takeFutureIdr) := quiet_media fun _ => rfl

instance (generation : Nat) : Keeps R (note (.ingested generation)) := quiet_note rfl rfl

end Quiet

instance (streamEpoch : Nat) :
    Keeps (WhileConfigured (Simulated loose accepting))
      (releasePendingStreamConfigIdr streamEpoch) := by
  unfold releasePendingStreamConfigIdr
  apply keeps_then inferInstance
  intro s
  split
  · infer_instance
  · split <;> infer_instance

instance (result : IngestResult) (deferred : Bool) :
    Keeps (WhileConfigured (Simulated loose accepting)) (acceptAssembled result deferred) := by
  unfold acceptAssembled
  split
  · split <;> infer_instance
  · infer_instance
  · infer_instance

instance (result : IngestResult) :
    Keeps (Simulated loose accepting) (acceptAssembled result true) := by
  unfold acceptAssembled
  split
  · rw [if_pos rfl]
    infer_instance
  · infer_instance
  · infer_instance

instance (P : Platform) (generation : Nat) (packet : VideoPacket) (receivedAt : Instant)
    (deferred : Bool) :
    Keeps (WhileConfigured (Simulated loose accepting))
      (reassemblePacket P generation packet receivedAt deferred) := by
  unfold reassemblePacket
  infer_instance

instance (P : Platform) (generation : Nat) (packet : VideoPacket) (receivedAt : Instant) :
    Keeps (Simulated loose accepting)
      (reassemblePacket P generation packet receivedAt true) := by
  unfold reassemblePacket
  infer_instance

theorem awaitEpoch_same {m m' : MediaState} {epoch : Nat} (h : m.awaitEpoch epoch = some m') :
    m' = { m with
      pendingStreamConfigIdr := m'.pendingStreamConfigIdr
      waitingForStreamConfigEpoch := m'.waitingForStreamConfigEpoch } := by
  unfold MediaState.awaitEpoch at h
  split at h
  · cases h
  · split at h
    · cases h
      rfl
    · cases h
      rfl

theorem admitEpoch_spec {m m' : MediaState} {epoch : Nat} {deferred : Bool}
    (h : m.admitEpoch false epoch = some (deferred, m')) :
    m' = { m with
      pendingStreamConfigIdr := m'.pendingStreamConfigIdr
      waitingForStreamConfigEpoch := m'.waitingForStreamConfigEpoch } ∧
    (deferred = false → m.currentStreamConfig ≠ none) := by
  unfold MediaState.admitEpoch at h
  cases hepoch : m.streamEpoch with
  | none =>
      rw [hepoch] at h
      obtain ⟨awaited, hawait, heq⟩ := Option.map_eq_some_iff.mp h
      cases heq
      exact ⟨awaitEpoch_same hawait, fun hfalse => by cases hfalse⟩
  | some configured =>
      rw [hepoch] at h
      have hconfig : m.currentStreamConfig ≠ none := by
        intro hnone
        rw [MediaState.streamEpoch, hnone] at hepoch
        cases hepoch
      dsimp only at h
      split at h
      · cases h
      · split at h
        · obtain ⟨awaited, hawait, heq⟩ := Option.map_eq_some_iff.mp h
          cases heq
          exact ⟨awaitEpoch_same hawait, fun _ => hconfig⟩
        · cases h
          exact ⟨rfl, fun _ => hconfig⟩

instance (P : Platform) (generation : Nat) (packet : VideoPacket) (receivedAt : Instant) :
    Keeps (Simulated loose accepting) (ingestVideoPacket P generation packet receivedAt) := by
  unfold ingestVideoPacket
  apply keeps_then inferInstance
  intro _
  apply keeps_session_bind
  intro o known
  split
  · have hpaired : o.session.permitUnpairedVideo = false := known.paired
    rw [hpaired]
    cases hadmit : o.session.media.admitEpoch false packet.streamEpoch with
    | none => exact Relation.ReflTransGen.refl
    | some admitted =>
        obtain ⟨deferred, media⟩ := admitted
        obtain ⟨hmedia, hconfig⟩ := admitEpoch_spec hadmit
        have hsame : ({ o with session := o.session.setMedia media } : OwnerState).mediaPath =
            o.mediaPath := by
          rw [hmedia]
          rfl
        have hentered : Simulated loose accepting o
            { o with session := o.session.setMedia media } := Quiet.same hsame
        cases deferred with
        | true =>
            have hkeeps : Keeps (Simulated loose accepting)
                (reassemblePacket P generation packet receivedAt true) := inferInstance
            exact Frame.trans hentered (hkeeps.keeps _) known
        | false =>
            have hkeeps : Keeps (WhileConfigured (Simulated loose accepting))
                (reassemblePacket P generation packet receivedAt false) := inferInstance
            have hconfigured :
                ({ o with session := o.session.setMedia media } : OwnerState).mediaPath.config ≠
                  none := by
              rw [hsame]
              exact hconfig rfl
            exact Frame.trans hentered (hkeeps.keeps _ hconfigured).1 known
  · exact Relation.ReflTransGen.refl

instance keeps_ingestVideoPackets (P : Platform) (generation : Nat) (receivedAt : Instant)
    (packets : List VideoPacket) :
    Keeps (Simulated loose accepting) (ingestVideoPackets P generation receivedAt packets) := by
  induction packets with
  | nil =>
      unfold ingestVideoPackets
      infer_instance
  | cons packet rest ih =>
      unfold ingestVideoPackets
      infer_instance

instance (P : Platform) (session : SessionId) (receivedAt : Instant)
    (packets : List VideoPacket) :
    Keeps (Simulated loose accepting) (acceptVideo P session receivedAt packets) := by
  unfold acceptVideo
  apply keeps_then inferInstance
  intro now
  apply keeps_then inferInstance
  intro deadline
  split <;> infer_instance

end Owner

end PicooCamera.Receiver
