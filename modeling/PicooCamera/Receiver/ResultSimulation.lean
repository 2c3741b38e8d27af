import PicooCamera.Receiver.MediaSimulation

/-!
# Decoder events change the media path

An event is taken and then judged, and between the two the decoder thread may
go on. The thread only appends to its channel, so that the event may as well
be taken at the moment of the judgement.
-/

namespace PicooCamera.Receiver

open PicooCamera.Library PicooCamera.Protocol PicooCamera.Packet PicooCamera.Session
open PicooCamera.Jitter PicooCamera.Transport Program

variable {loose accepting : Prop}

/-! ## An event that is taken later -/

namespace DecoderWorker

def behind (event : DecoderEvent) (d : DecoderWorker) : DecoderWorker :=
  { d with events := event :: d.events }

theorem step_behind (event : DecoderEvent) (d : DecoderWorker) (label : DecoderStep) :
    (d.behind event).step label = (d.step label).behind event := by
  unfold behind
  cases label with
  | prepare result =>
      cases result with
      | ok capabilities => cases hthread : d.thread <;> simp [step, hthread, send]
      | error error => cases hthread : d.thread <;> simp [step, hthread, send, exit]
  | pop =>
      cases hthread : d.thread with
      | idle =>
          cases hitems : d.queue.items with
          | nil => simp [step, hthread, popItem, hitems]
          | cons item rest => cases item <;> simp [step, hthread, popItem, hitems, send, exit]
      | _ => simp [step, hthread]
  | complete time result => cases hthread : d.thread <;> simp [step, hthread, send]
  | crash error => cases hthread : d.thread <;> simp [step, hthread, send, exit]
  | resetDone => cases hthread : d.thread <;> simp [step, hthread]

end DecoderWorker

namespace MediaPath

def behind (event : DecoderEvent) (c : MediaPath) : MediaPath :=
  { c with decoder := c.decoder.behind event }

theorem decode_behind (event : DecoderEvent) (c : MediaPath) (label : DecoderStep) :
    (c.behind event).decode label = (c.decode label).behind event := by
  have hhanding : (c.decoder.behind event).handing label = c.decoder.handing label := by
    cases label <;> rfl
  unfold behind decode
  rw [DecoderWorker.step_behind]
  simp only [hhanding]

theorem behind_take {c : MediaPath} {event : DecoderEvent} {rest : List DecoderEvent}
    (head : c.decoder.events = event :: rest) : (c.take rest).behind event = c := by
  unfold behind take DecoderWorker.behind
  rw [← head]

theorem events_behind (event : DecoderEvent) (c : MediaPath) :
    (c.behind event).decoder.events = event :: c.decoder.events := rfl

instance (c : MediaPath) (timeline : AccessUnitTimeline) : Decidable (c.Current timeline) :=
  inferInstanceAs (Decidable ((timeline.connectionGeneration = 0 ∨
    c.control = some timeline.connectionGeneration) ∧
      c.streamEpoch = some timeline.streamGeneration))

instance (c : MediaPath) (timeline : AccessUnitTimeline) (decoderGeneration : Nat) :
    Decidable (c.Admits timeline decoderGeneration) :=
  inferInstanceAs (Decidable (c.generation = decoderGeneration ∧ c.Current timeline ∧
    c.phase.accepts timeline = true))

theorem generation_decode (c : MediaPath) (label : DecoderStep) :
    (c.decode label).generation = c.generation :=
  (DecoderWorker.move_step c.decoder label).generation

end MediaPath

namespace Owner

/-! ## The gate of completions and pictures -/

theorem decoderTimelineIsCurrent_spec {o : OwnerState} (timeline : AccessUnitTimeline)
    (hpaired : o.mediaPath.unpaired = false) :
    ∃ current o', exec (decoderTimelineIsCurrent timeline) o = (.ok current, o') ∧
      OnlyDecodes o o' ∧ (current = true ↔ o.mediaPath.Current timeline) := by
  have hgeneration : Keeps OnlyDecodes mediaConnectionGeneration := inferInstance
  have hactive : Keeps OnlyDecodes activeSession := inferInstance
  obtain ⟨generation, hok, -⟩ := mediaConnectionGeneration_spec o
  have hfirst : exec mediaConnectionGeneration o =
      (.ok generation, (exec mediaConnectionGeneration o).2) := Prod.ext hok rfl
  unfold decoderTimelineIsCurrent session
  rw [exec_read_bind, exec_bind_ok hfirst]
  refine ⟨_, _, exec_bind_ok rfl, ?_, ?_⟩
  · exact Frame.trans (hgeneration.keeps o) (hactive.keeps _)
  · have hunpaired : o.session.permitUnpairedVideo = false := hpaired
    have hepoch : o.mediaPath.streamEpoch = o.session.media.streamEpoch := rfl
    have hcontrol : o.mediaPath.control = o.session.control.controlGeneration := rfl
    unfold MediaPath.Current
    rw [hepoch, hcontrol, hunpaired]
    cases o.session.control.controlGeneration <;> cases o.session.media.streamEpoch <;> simp

theorem acceptsCompletion_eq (r : DecoderRecovery) (timeline : AccessUnitTimeline) :
    r.acceptsCompletion timeline = r.phase.accepts timeline := by
  unfold DecoderRecovery.acceptsCompletion DecoderRecoveryPhase.accepts
  cases r.phase <;> rfl

theorem isRefreshCandidate_eq (r : DecoderRecovery) (timeline : AccessUnitTimeline) :
    r.isRefreshCandidate timeline = r.phase.isCandidate timeline := by
  unfold DecoderRecovery.isRefreshCandidate DecoderRecoveryPhase.isCandidate
  cases r.phase <;> rfl

theorem exec_gate {o : OwnerState} (timeline : AccessUnitTimeline) (decoderGeneration : Nat)
    (hpaired : o.mediaPath.unpaired = false) (p : Owner Unit) :
    ∃ o', OnlyDecodes o o' ∧
      exec (do
        let generation ← look fun w => w.decoder.queue.decoderGeneration
        let current ← decoderTimelineIsCurrent timeline
        let s ← session
        when (generation = decoderGeneration ∧ current ∧
          s.media.decoderRecovery.acceptsCompletion timeline) p) o =
        exec (when (o'.mediaPath.Admits timeline decoderGeneration) p) o' := by
  have hlook : OnlyDecodes o o.turn := quiet_turn o
  have hpaired' : o.turn.mediaPath.unpaired = false := by
    rw [@OnlyDecodes.keeps _ _ hlook _ MediaPath.unpaired (fun _ _ => rfl) fun _ _ => rfl]
    exact hpaired
  obtain ⟨current, o', hcurrent, hdecodes, hiff⟩ :=
    decoderTimelineIsCurrent_spec timeline hpaired'
  refine ⟨o', Frame.trans hlook hdecodes, ?_⟩
  rw [exec_bind_ok (show exec (look fun w => w.decoder.queue.decoderGeneration) o =
    (.ok o.turn.mediaPath.generation, o.turn) from rfl), exec_bind_ok hcurrent]
  unfold session
  rw [exec_read_bind]
  have hgeneration : o'.mediaPath.generation = o.turn.mediaPath.generation :=
    hdecodes.keeps MediaPath.generation_decode fun _ _ => rfl
  have hsame : o'.mediaPath.Current timeline ↔ o.turn.mediaPath.Current timeline := by
    unfold MediaPath.Current MediaPath.streamEpoch
    rw [@OnlyDecodes.keeps _ _ hdecodes _ MediaPath.control (fun _ _ => rfl) fun _ _ => rfl,
      @OnlyDecodes.keeps _ _ hdecodes _ MediaPath.config (fun _ _ => rfl) fun _ _ => rfl]
  have hadmits : (o.turn.mediaPath.generation = decoderGeneration ∧ current = true ∧
      o'.session.media.decoderRecovery.acceptsCompletion timeline = true) ↔
      o'.mediaPath.Admits timeline decoderGeneration := by
    unfold MediaPath.Admits
    rw [hgeneration, hiff, hsame, acceptsCompletion_eq]
    exact Iff.rfl
  unfold when
  by_cases h : o'.mediaPath.Admits timeline decoderGeneration
  · rw [if_pos h, if_pos (hadmits.mpr h)]
  · rw [if_neg h, if_neg (fun hgate => h (hadmits.mp hgate))]

/-! ## Pictures -/

/-- What is known while the pictures of the completion of `completed` are published. -/
def Publishes (completed : AccessUnitTimeline) (frames : List DecodeToken) (c : MediaPath) :
    Prop :=
  c.unpaired = false ∧ (∀ token ∈ frames, token ∈ c.handed) ∧
    (c.phase = .healthy ∨
      (completed.kind.isKeyframe = false ∧ c.phase.isCandidate completed))

theorem Publishes.decodes {completed : AccessUnitTimeline} {frames : List DecodeToken}
    {o o' : OwnerState} (h : Publishes completed frames o.mediaPath) (hdecodes : OnlyDecodes o o') :
    Publishes completed frames o'.mediaPath := by
  obtain ⟨labels, upcoming, _, heq⟩ := hdecodes
  rw [heq]
  clear heq
  have hexpects : Publishes completed frames (o.mediaPath.expect upcoming) := h
  generalize o.mediaPath.expect upcoming = c at hexpects
  clear h
  induction labels generalizing c with
  | nil => exact hexpects
  | cons label labels ih =>
      by_cases honest : label.honest c.handed
      · have hstep : c.decodeAll (label :: labels) = (c.decode label).decodeAll labels := by
          simp [MediaPath.decodeAll, honest]
        rw [hstep]
        exact ih _ ⟨hexpects.1,
          fun token htoken => List.mem_append_left _ (hexpects.2.1 token htoken), hexpects.2.2⟩
      · have hstep : c.decodeAll (label :: labels) = c.decodeAll labels := by
          simp [MediaPath.decodeAll, honest]
        rw [hstep]
        exact ih c hexpects

theorem mediaPath_published (o : OwnerState) (completed : AccessUnitTimeline)
    (token : DecodeToken) :
    (exec (publishDecodedFrame completed token) o).2.mediaPath =
      o.mediaPath.publish token completed := by
  unfold publishDecodedFrame session note modifySession
  simp only [exec_read_bind, exec_update_bind, exec_update]
  simp [OwnerState.mediaPath, MediaPath.publish, List.filter_append, OwnerMark.isMedia,
    OwnerMark.dispatched?, ReceiverSession.pushFrame, ReceiverSession.videoAllowed]

theorem publishOutput_spec {o : OwnerState} {completed : AccessUnitTimeline}
    {frames : List DecodeToken} {token : DecodeToken} (htoken : token ∈ frames)
    (h : Publishes completed frames o.mediaPath) :
    Changes loose accepting o.mediaPath (exec (publishOutput completed token) o).2.mediaPath ∧
      Publishes completed frames (exec (publishOutput completed token) o).2.mediaPath := by
  obtain ⟨o', hdecodes, heq⟩ := exec_gate token.timeline token.decoderGeneration h.1
    (publishDecodedFrame completed token)
  have hchanges : Changes loose accepting o.mediaPath o'.mediaPath := by
    obtain ⟨labels, upcoming, hfewer, hlabels⟩ := hdecodes
    rw [hlabels]
    exact MediaPath.changes_worlds _ hfewer _
  have hpublishes := h.decodes hdecodes
  unfold publishOutput
  rw [heq]
  by_cases hadmits : o'.mediaPath.Admits token.timeline token.decoderGeneration
  · rw [exec_when_true hadmits, mediaPath_published]
    exact ⟨hchanges.tail (Change.publish _ token completed hadmits
      (hpublishes.2.1 token htoken) hpublishes.2.2), hpublishes⟩
  · rw [exec_when_false hadmits]
    exact ⟨hchanges, hpublishes⟩

theorem publishOutput_ok {o : OwnerState} (completed : AccessUnitTimeline) (token : DecodeToken)
    (hpaired : o.mediaPath.unpaired = false) :
    (exec (publishOutput completed token) o).1 = .ok () := by
  obtain ⟨o', -, heq⟩ := exec_gate token.timeline token.decoderGeneration hpaired
    (publishDecodedFrame completed token)
  unfold publishOutput
  rw [heq]
  unfold when
  split <;> rfl

theorem publishOutputs_spec (completed : AccessUnitTimeline) (frames : List DecodeToken) :
    ∀ (tokens : List DecodeToken) (o : OwnerState), (∀ token ∈ tokens, token ∈ frames) →
      Publishes completed frames o.mediaPath →
      Changes loose accepting o.mediaPath
        (exec (publishOutputs completed tokens) o).2.mediaPath := by
  intro tokens
  induction tokens with
  | nil =>
      intro o _ _
      exact Relation.ReflTransGen.refl
  | cons token rest ih =>
      intro o hsubset h
      obtain ⟨hchanges, hpublishes⟩ :=
        @publishOutput_spec loose accepting o completed frames token
          (hsubset token List.mem_cons_self) h
      have hok : exec (publishOutput completed token) o =
          (.ok (), (exec (publishOutput completed token) o).2) :=
        Prod.ext (publishOutput_ok completed token h.1) rfl
      unfold publishOutputs
      rw [exec_bind_ok hok]
      exact hchanges.trans (ih _ (fun t ht => hsubset t (List.mem_cons_of_mem _ ht)) hpublishes)

/-! ## Completions -/

theorem setRecovery_mediaPath (o : OwnerState) (recovery : DecoderRecovery) :
    ({ o with session := o.session.setMedia (o.session.media.setRecovery recovery) } :
        OwnerState).mediaPath = { o.mediaPath with phase := recovery.phase } := rfl

theorem markRecovered_phase (r : DecoderRecovery) (timeline : AccessUnitTimeline) :
    (r.markRecovered timeline).2.phase =
      if r.phase.isCandidate timeline then .healthy else r.phase := by
  unfold DecoderRecovery.markRecovered
  rw [isRefreshCandidate_eq]
  split <;> rfl

theorem markDecoderRefreshAccepted_spec (o : OwnerState) (timeline : AccessUnitTimeline) :
    ∃ o', exec (markDecoderRefreshAccepted timeline) o = (.ok (), o') ∧
      o'.mediaPath = { o.mediaPath with
        phase := if o.mediaPath.phase.isCandidate timeline then .healthy
          else o.mediaPath.phase } := by
  have hphase : ({ o with session := o.session.setMedia (o.session.media.setRecovery
      (o.session.media.decoderRecovery.markRecovered timeline).2) } : OwnerState).mediaPath =
      { o.mediaPath with
        phase := if o.mediaPath.phase.isCandidate timeline then .healthy
          else o.mediaPath.phase } := by
    rw [setRecovery_mediaPath, markRecovered_phase]
    rfl
  unfold markDecoderRefreshAccepted session modifyMedia modifySession
  rw [exec_read_bind, exec_update_bind]
  split
  · exact ⟨_, rfl, hphase⟩
  · exact ⟨_, rfl, hphase⟩

/-- The step in which a refresh is accepted, seen from its start. -/
def AcceptsRefresh (c : MediaPath) (timeline : AccessUnitTimeline)
    (result : Except String DecodeOutcome) : Prop :=
  timeline.kind.isKeyframe ∧ c.phase.isCandidate timeline ∧
    ∃ outcome, result = .ok outcome ∧ outcome.refreshAccepted

theorem handleDecoderResult_spec {o : OwnerState} {timeline : AccessUnitTimeline}
    {decoderGeneration time : Nat} {result : Except String DecodeOutcome}
    (known : Known loose o.mediaPath)
    (hadmits : o.mediaPath.Admits timeline decoderGeneration)
    (hgiven : ∀ outcome, result = .ok outcome →
      ∀ token ∈ outcome.frames, token ∈ o.mediaPath.handed)
    (haccepting : AcceptsRefresh o.mediaPath timeline result → accepting) :
    Changes loose accepting
      (o.mediaPath.behind (.completed timeline decoderGeneration time result))
      (exec (handleDecoderResult timeline result) o).2.mediaPath := by
  have head := MediaPath.events_behind (.completed timeline decoderGeneration time result)
    o.mediaPath
  -- The decoder failed, or did not accept the refresh.
  have hrefuse : Changes loose accepting
      (o.mediaPath.behind (.completed timeline decoderGeneration time result))
      (exec (enterDecoderRecovery .decoderError true) o).2.mediaPath := by
    obtain ⟨o', queued, hfewer, heq, hrest⟩ :=
      @enterDecoderRecovery_spec (Simulated loose accepting) _ .decoderError true o
    have hrefused : Change loose accepting
        (o.mediaPath.behind (.completed timeline decoderGeneration time result)) o'.mediaPath := by
      rw [heq]
      exact Change.refuse _ timeline decoderGeneration time result _ queued head hfewer
    have hknown : Known loose o'.mediaPath := by
      rw [heq]
      exact @Known.change loose accepting _ _ known (Change.recover _ queued hfewer)
    exact (Relation.ReflTransGen.single hrefused).trans (hrest hknown)
  unfold handleDecoderResult
  cases result with
  | error message => exact hrefuse
  | ok outcome =>
      unfold session
      rw [exec_read_bind]
      by_cases hrefused : timeline.kind.isKeyframe ∧ !outcome.refreshAccepted ∧
          o.session.media.decoderRecovery.isRefreshCandidate timeline
      · rw [if_pos hrefused]
        exact hrefuse
      rw [if_neg hrefused]
      have hpublish : ∀ (o' : OwnerState) (c : MediaPath),
          Change loose accepting
            (o.mediaPath.behind (.completed timeline decoderGeneration time (.ok outcome))) c →
          o'.mediaPath = c → Publishes timeline outcome.frames c →
          Changes loose accepting
            (o.mediaPath.behind (.completed timeline decoderGeneration time (.ok outcome)))
            (exec (publishOutputs timeline outcome.frames) o').2.mediaPath := by
        intro o' c hchange heq hpublishes
        subst heq
        exact Relation.ReflTransGen.head hchange
          (publishOutputs_spec timeline outcome.frames _ o' (fun _ => id) hpublishes)
      by_cases hcandidate : timeline.kind.isKeyframe ∧ o.mediaPath.phase.isCandidate timeline
      · -- The refresh is accepted.
        have haccepted : outcome.refreshAccepted := by
          by_contra hnot
          apply hrefused
          refine ⟨hcandidate.1, by simpa using hnot, ?_⟩
          rw [isRefreshCandidate_eq]
          exact hcandidate.2
        obtain ⟨o', hok, heq⟩ := markDecoderRefreshAccepted_spec o timeline
        rw [when, if_pos ⟨hcandidate.1, haccepted⟩, exec_bind_ok hok]
        rw [if_pos hcandidate.2] at heq
        apply hpublish o' _ (Change.accept _ timeline decoderGeneration time outcome _ head
          hcandidate.2 (haccepting ⟨hcandidate.1, hcandidate.2, outcome, rfl, haccepted⟩)) heq
        exact ⟨known.paired, hgiven outcome rfl, Or.inl rfl⟩
      · -- No recovery is ended.
        have hchange : Change loose accepting
            (o.mediaPath.behind (.completed timeline decoderGeneration time (.ok outcome)))
            o.mediaPath :=
          Change.complete _ timeline decoderGeneration time (.ok outcome) _ head hcandidate
        have hpublishes : Publishes timeline outcome.frames o.mediaPath := by
          refine ⟨known.paired, hgiven outcome rfl, ?_⟩
          have haccepts := hadmits.2.2
          cases hphase : o.mediaPath.phase with
          | healthy => exact Or.inl rfl
          | awaitingRefresh =>
              rw [hphase] at haccepts
              cases haccepts
          | refreshInFlight candidate =>
              rw [hphase] at haccepts hcandidate
              refine Or.inr ⟨?_, haccepts⟩
              cases hkey : timeline.kind.isKeyframe with
              | false => rfl
              | true => exact absurd ⟨hkey, haccepts⟩ hcandidate
        by_cases hmark : timeline.kind.isKeyframe ∧ outcome.refreshAccepted
        · obtain ⟨o', hok, heq⟩ := markDecoderRefreshAccepted_spec o timeline
          rw [if_neg (fun h => hcandidate ⟨hmark.1, h⟩)] at heq
          rw [when, if_pos hmark, exec_bind_ok hok]
          exact hpublish o' _ hchange heq hpublishes
        · rw [when, if_neg hmark]
          exact hpublish o _ hchange rfl hpublishes

/-! ## Events -/

/-- The first event of the channel is the accepted completion of the refresh in flight. -/
def AcceptsNext (c : MediaPath) : Prop :=
  ∃ timeline time result rest,
    c.decoder.events = .completed timeline c.generation time result :: rest ∧
      AcceptsRefresh c timeline result

theorem decodeAll_behind (event : DecoderEvent) (c : MediaPath) (labels : List DecoderStep) :
    (c.behind event).decodeAll labels = (c.decodeAll labels).behind event :=
  MediaPath.decodeAll_comm (f := MediaPath.behind event) (fun _ => rfl)
    (MediaPath.decode_behind event) c labels

theorem changes_behind {o o' : OwnerState} (event : DecoderEvent) (h : OnlyDecodes o o') :
    Changes loose accepting (o.mediaPath.behind event) (o'.mediaPath.behind event) := by
  obtain ⟨labels, upcoming, hfewer, heq⟩ := h
  rw [heq, ← decodeAll_behind]
  exact MediaPath.changes_worlds (o.mediaPath.behind event) hfewer labels

theorem handleCompletion_spec {o : OwnerState} {timeline : AccessUnitTimeline}
    {decoderGeneration time : Nat} {result : Except String DecodeOutcome}
    (known : Known loose
      (o.mediaPath.behind (.completed timeline decoderGeneration time result)))
    (haccepting : o.mediaPath.generation = decoderGeneration →
      AcceptsRefresh o.mediaPath timeline result → accepting) :
    Changes loose accepting
      (o.mediaPath.behind (.completed timeline decoderGeneration time result))
      (exec (handleDecoderEvent (.completed timeline decoderGeneration time result)) o).2.mediaPath
    := by
  unfold handleDecoderEvent modifyMedia modifySession
  dsimp only
  rw [exec_update_bind]
  generalize hobserved : ({ o with session := o.session.setMedia (o.session.media.setJitter
    (o.session.media.jitter.observeDecodeTimeUs time)) } : OwnerState) = observed
  have hsame : observed.mediaPath = o.mediaPath := by
    subst hobserved
    have hframes := (updateTarget_queue { o.session.media.jitter with
      decodeTimesUs := pushBounded o.session.media.jitter.decodeTimesUs
        (min time maxObservedDecodeUs) }).1
    rw [mediaPath_setJitter, JitterBuffer.observeDecodeTimeUs, hframes]
    rfl
  obtain ⟨o', hdecodes, heq⟩ := exec_gate timeline decoderGeneration
    (show observed.mediaPath.unpaired = false from hsame ▸ known.paired)
    (handleDecoderResult timeline result)
  rw [heq, ← hsame]
  rw [← hsame] at known haccepting
  have hbehind := @changes_behind loose accepting _ _
    (.completed timeline decoderGeneration time result) hdecodes
  have hknown := known.changes hbehind
  have hgeneration : o'.mediaPath.generation = observed.mediaPath.generation :=
    hdecodes.keeps MediaPath.generation_decode fun _ _ => rfl
  have hphase : o'.mediaPath.phase = observed.mediaPath.phase :=
    @OnlyDecodes.keeps _ _ hdecodes _ MediaPath.phase (fun _ _ => rfl) fun _ _ => rfl
  by_cases hadmits : o'.mediaPath.Admits timeline decoderGeneration
  · rw [exec_when_true hadmits]
    refine hbehind.trans (handleDecoderResult_spec (hknown.take rfl) hadmits ?_ ?_)
    · intro outcome hok
      subst hok
      exact hknown.given timeline decoderGeneration time outcome List.mem_cons_self
    · intro haccepts
      apply haccepting (hgeneration.symm.trans hadmits.1)
      unfold AcceptsRefresh at haccepts ⊢
      rwa [hphase] at haccepts
  · rw [exec_when_false hadmits]
    exact hbehind.tail (Change.skip _ timeline decoderGeneration time result _ rfl hadmits)

theorem handleDecoderEvent_spec {o : OwnerState} {event : DecoderEvent}
    (known : Known loose (o.mediaPath.behind event))
    (haccepting : AcceptsNext (o.mediaPath.behind event) → accepting) :
    Changes loose accepting (o.mediaPath.behind event)
      (exec (handleDecoderEvent event) o).2.mediaPath := by
  have head := MediaPath.events_behind event o.mediaPath
  cases event with
  | capabilities result => exact Relation.ReflTransGen.single (Change.report _ _ _ _ head rfl)
  | unavailable error => exact Relation.ReflTransGen.single (Change.report _ _ _ _ head rfl)
  | started => exact Relation.ReflTransGen.single (Change.started _ _ head)
  | completed timeline decoderGeneration time result =>
      apply handleCompletion_spec known
      intro hgeneration haccepts
      subst hgeneration
      exact haccepting ⟨timeline, time, result, _, head, haccepts⟩

theorem pollDecoderEvent_simulated (o : OwnerState) :
    Simulated loose (AcceptsNext o.turn.mediaPath) o (exec pollDecoderEvent o).2 := by
  have hturn : Simulated loose (AcceptsNext o.turn.mediaPath) o o.turn := quiet_turn o
  apply Frame.trans hturn
  intro known
  unfold pollDecoderEvent
  rw [exec_bind_ok (show exec (look fun w => w.decoder.pollEvent.1) o =
    (.ok o.turn.world.decoder.pollEvent.1, o.turn) from rfl), exec_update_bind]
  cases hevents : o.turn.mediaPath.decoder.events with
  | nil =>
      have hpoll : o.turn.world.decoder.pollEvent = (none, o.turn.world.decoder) := by
        unfold DecoderWorker.pollEvent
        rw [show o.turn.world.decoder.events = [] from hevents]
      rw [hpoll]
      exact Relation.ReflTransGen.refl
  | cons event rest =>
      have hpoll : o.turn.world.decoder.pollEvent =
          (some event, { o.turn.world.decoder with events := rest }) := by
        unfold DecoderWorker.pollEvent
        rw [show o.turn.world.decoder.events = event :: rest from hevents]
      rw [hpoll]
      dsimp only
      generalize htaken : ({ o.turn with world.decoder :=
        { o.turn.world.decoder with events := rest } } : OwnerState) = taken
      have hsame : taken.mediaPath.behind event = o.turn.mediaPath := by
        subst htaken
        exact MediaPath.behind_take hevents
      have hhandled := @handleDecoderEvent_spec loose (AcceptsNext o.turn.mediaPath) taken event
        (hsame ▸ known) (fun h => hsame ▸ h)
      rw [hsame] at hhandled
      rw [exec_bind]
      cases hexec : exec (handleDecoderEvent event) taken with
      | mk outcome after =>
          rw [hexec] at hhandled
          cases outcome <;> exact hhandled

end Owner

end PicooCamera.Receiver
