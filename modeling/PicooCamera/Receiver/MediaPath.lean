import PicooCamera.Receiver.JobCustody
import PicooCamera.Receiver.Owner
import PicooCamera.Transport.Announcements

/-!
# The media path

`MediaPath` is what the Receiver's video depends on: the connection with its
control generation and the last message id, the committed configuration, the
recovery phase, whether access units are queued for playout, and the decoder with
its channel. `Change`
says what can happen to it, one effect at a time. A picture or a refresh can be
lost, or shown at the wrong time, by these changes only.
-/

namespace PicooCamera.Receiver

open PicooCamera.Library PicooCamera.Protocol PicooCamera.Packet PicooCamera.Transport

namespace DecoderRecoveryPhase

def accepts (phase : DecoderRecoveryPhase) (timeline : AccessUnitTimeline) : Bool :=
  match phase with
  | .healthy => true
  | .awaitingRefresh => false
  | .refreshInFlight candidate => candidate.isFor timeline

def isCandidate (phase : DecoderRecoveryPhase) (timeline : AccessUnitTimeline) : Bool :=
  match phase with
  | .refreshInFlight candidate => candidate.isFor timeline
  | _ => false

def submitted (phase : DecoderRecoveryPhase) (timeline : AccessUnitTimeline) :
    DecoderRecoveryPhase :=
  if timeline.kind.isKeyframe ∧ phase ≠ .healthy then
    .refreshInFlight (RefreshCandidate.fromTimeline timeline)
  else phase

end DecoderRecoveryPhase

structure MediaPath where
  unpaired : Bool
  /-- Whether the Sender's video is allowed. -/
  allowed : Bool
  connection : Option Nat
  control : Option Nat
  /-- The id of the last control message that was not refused. -/
  received : Nat
  config : Option StreamConfig
  revision : Nat
  phase : DecoderRecoveryPhase
  /-- Whether access units wait for their playout. -/
  queued : Bool
  /-- The session whose configuration waits for the decoder's capabilities. -/
  pending : Option SessionId
  readiness : DecoderReadiness
  decoder : DecoderWorker
  handed : List DecodeToken
  marks : List OwnerMark
  /-- The control messages that were given to their handlers. -/
  dispatched : List (SessionId × ControlEnvelope)
  /-- How often a connection may still be announced. -/
  upcoming : SessionId → Nat

namespace MediaPath

def streamEpoch (c : MediaPath) : Option Nat := c.config.map StreamConfig.streamEpoch

def generation (c : MediaPath) : Nat := c.decoder.queue.decoderGeneration

/-- `decoder_timeline_is_current`, for a Sender that is paired. -/
def Current (c : MediaPath) (timeline : AccessUnitTimeline) : Prop :=
  (timeline.connectionGeneration = 0 ∨ c.control = some timeline.connectionGeneration) ∧
    c.streamEpoch = some timeline.streamGeneration

/-- The gate of completions and pictures. -/
def Admits (c : MediaPath) (timeline : AccessUnitTimeline) (decoderGeneration : Nat) : Prop :=
  c.generation = decoderGeneration ∧ c.Current timeline ∧ c.phase.accepts timeline = true

/-- `config` may be committed: it is not older than the committed one. -/
def Accepts (c : MediaPath) (config : StreamConfig) : Prop :=
  c.control ≠ none ∧ ∀ epoch ∈ c.streamEpoch, epoch ≤ config.streamEpoch

/-- A job is made for the committed configuration and the connection's generation. -/
structure Submits (c : MediaPath) (job : DecodeJob) : Prop where
  config : job.streamConfig = c.config
  revision : job.configRevision = c.revision
  epoch : c.streamEpoch = some job.accessUnit.timeline.streamGeneration
  control : ∀ generation ∈ c.control,
    job.accessUnit.timeline.connectionGeneration = generation

/-! ## Effects -/

def decode (c : MediaPath) (label : DecoderStep) : MediaPath :=
  { c with
    decoder := c.decoder.step label
    handed := c.handed ++ c.decoder.handing label }

def adopt (c : MediaPath) (connection : Nat) : MediaPath :=
  { c with connection := some connection, control := none, received := 0 }

def tearDown (c : MediaPath) : MediaPath :=
  { c with
    allowed := c.unpaired
    connection := none
    control := none
    received := 0
    config := none
    phase := .healthy
    queued := false
    pending := none
    decoder.queue := c.decoder.queue.reset }

def expect (c : MediaPath) (upcoming : SessionId → Nat) : MediaPath :=
  { c with upcoming := upcoming }

def receive (c : MediaPath) (messageId : Nat) : MediaPath := { c with received := messageId }

def dispatch (c : MediaPath) (session : SessionId) (envelope : ControlEnvelope) : MediaPath :=
  { c.receive envelope.messageId with
    dispatched := c.dispatched ++ [(session, envelope)] }

def commit (c : MediaPath) (config : StreamConfig) : MediaPath :=
  { c with
    config := some config
    revision := c.revision + 1
    marks := c.marks ++ [.committed (c.revision + 1) config] }

def recover (c : MediaPath) (queued : Bool) : MediaPath :=
  { c with phase := .awaitingRefresh, queued := queued }

def resetDecoder (c : MediaPath) : MediaPath :=
  { c with decoder.queue := c.decoder.queue.reset }

def submit (c : MediaPath) (job : DecodeJob) : MediaPath :=
  { c with
    decoder.queue := (c.decoder.queue.submit job).2
    phase := c.phase.submitted job.accessUnit.timeline }

def take (c : MediaPath) (rest : List DecoderEvent) : MediaPath :=
  { c with decoder.events := rest }

def publish (c : MediaPath) (token : DecodeToken) (completed : AccessUnitTimeline) : MediaPath :=
  { c with
    marks := c.marks ++ [.published token c.config c.revision c.phase completed] }

end MediaPath

/-- One change of the media path. `loose` admits a configuration that is committed on a
connection which is no longer the owner's; `accepting` is what is known of the step in
which a refresh is accepted. -/
inductive Change (loose accepting : Prop) : MediaPath → MediaPath → Prop
  | decode (c : MediaPath) (label : DecoderStep) (honest : label.honest c.handed) :
      Change loose accepting c (c.decode label)
  | establish (c : MediaPath) (control : Nat) (active : c.connection ≠ none)
      (first : c.control = none) : Change loose accepting c { c with control := some control }
  /-- Connections are announced to the owner, or will not be. -/
  | expect (c : MediaPath) (upcoming : SessionId → Nat)
      (fewer : ∀ session, upcoming session ≤ c.upcoming session) :
      Change loose accepting c (c.expect upcoming)
  | receive (c : MediaPath) (messageId : Nat) (pinned : c.control ≠ none)
      (newer : c.received < messageId) : Change loose accepting c (c.receive messageId)
  | dispatch (c : MediaPath) (session : SessionId) (envelope : ControlEnvelope)
      (active : c.connection = some session.value)
      (pinned : c.control = some envelope.connectionGeneration)
      (newer : c.received < envelope.messageId) :
      Change loose accepting c (c.dispatch session envelope)
  | allow (c : MediaPath) (allowed : Bool) :
      Change loose accepting c { c with allowed := allowed }
  | tearDown (c : MediaPath) : Change loose accepting c c.tearDown
  | hold (c : MediaPath) (session : SessionId) (active : c.connection = some session.value) :
      Change loose accepting c { c with pending := some session }
  | release (c : MediaPath) : Change loose accepting c { c with pending := none }
  | commit (c : MediaPath) (config : StreamConfig) (accepts : c.Accepts config)
      (same : c.streamEpoch = some config.streamEpoch ∨ loose) :
      Change loose accepting c (c.commit config)
  | switch (c : MediaPath) (config : StreamConfig) (queued : Bool) (accepts : c.Accepts config)
      (fewer : queued → c.queued) : Change loose accepting c ((c.commit config).recover queued)
  | abandon (c : MediaPath) (config : StreamConfig) (accepts : c.Accepts config) :
      Change loose accepting c (c.commit config).tearDown
  | recover (c : MediaPath) (queued : Bool) (fewer : queued → c.queued) :
      Change loose accepting c (c.recover queued)
  | resetDecoder (c : MediaPath) (idle : ∀ candidate, c.phase ≠ .refreshInFlight candidate) :
      Change loose accepting c c.resetDecoder
  | drain (c : MediaPath) : Change loose accepting c { c with queued := false }
  | enqueue (c : MediaPath) (configured : c.config ≠ none) :
      Change loose accepting c { c with queued := true }
  | submit (c : MediaPath) (job : DecodeJob) (submits : c.Submits job)
      (accepted : (c.decoder.queue.submit job).1 = .queued) :
      Change loose accepting c (c.submit job)
  | report (c : MediaPath) (event : DecoderEvent) (rest : List DecoderEvent)
      (readiness : DecoderReadiness) (head : c.decoder.events = event :: rest)
      (tells : event.readiness? = some readiness) :
      Change loose accepting c { c.take rest with readiness := readiness }
  | started (c : MediaPath) (rest : List DecoderEvent)
      (head : c.decoder.events = .started :: rest) : Change loose accepting c (c.take rest)
  /-- A completion that is stale, or not the one that is awaited. -/
  | skip (c : MediaPath) (timeline : AccessUnitTimeline) (decoderGeneration time : Nat)
      (result : Except String DecodeOutcome) (rest : List DecoderEvent)
      (head : c.decoder.events = .completed timeline decoderGeneration time result :: rest)
      (stale : ¬c.Admits timeline decoderGeneration) : Change loose accepting c (c.take rest)
  /-- A completion that ends no recovery. -/
  | complete (c : MediaPath) (timeline : AccessUnitTimeline) (decoderGeneration time : Nat)
      (result : Except String DecodeOutcome) (rest : List DecoderEvent)
      (head : c.decoder.events = .completed timeline decoderGeneration time result :: rest)
      (other : ¬(timeline.kind.isKeyframe ∧ c.phase.isCandidate timeline)) :
      Change loose accepting c (c.take rest)
  /-- The decoder failed, or did not accept the refresh. -/
  | refuse (c : MediaPath) (timeline : AccessUnitTimeline) (decoderGeneration time : Nat)
      (result : Except String DecodeOutcome) (rest : List DecoderEvent) (queued : Bool)
      (head : c.decoder.events = .completed timeline decoderGeneration time result :: rest)
      (fewer : queued → c.queued) : Change loose accepting c ((c.take rest).recover queued)
  /-- The refresh is accepted. -/
  | accept (c : MediaPath) (timeline : AccessUnitTimeline) (decoderGeneration time : Nat)
      (outcome : DecodeOutcome) (rest : List DecoderEvent)
      (head : c.decoder.events = .completed timeline decoderGeneration time (.ok outcome) :: rest)
      (candidate : c.phase.isCandidate timeline) (known : accepting) :
      Change loose accepting c { c.take rest with phase := .healthy }
  | publish (c : MediaPath) (token : DecodeToken) (completed : AccessUnitTimeline)
      (admits : c.Admits token.timeline token.decoderGeneration) (given : token ∈ c.handed)
      (healthy : c.phase = .healthy ∨
        (completed.kind.isKeyframe = false ∧ c.phase.isCandidate completed)) :
      Change loose accepting c (c.publish token completed)

/-! ## What is known of every state -/

/-- The changes of one step, one after the other. -/
def Changes (loose accepting : Prop) : MediaPath → MediaPath → Prop :=
  Relation.ReflTransGen (Change loose accepting)

structure Known (loose : Prop) (c : MediaPath) : Prop where
  paired : c.unpaired = false
  queued : c.queued → c.config ≠ none
  given : ∀ timeline decoderGeneration time outcome,
    .completed timeline decoderGeneration time (.ok outcome) ∈ c.decoder.events →
    ∀ token ∈ outcome.frames, token ∈ c.handed
  pending : loose ∨ ∀ session ∈ c.pending, c.connection = some session.value

namespace Known

variable {loose accepting : Prop} {c c' : MediaPath}

theorem take (h : Known loose c) {event : DecoderEvent} {rest : List DecoderEvent}
    (head : c.decoder.events = event :: rest) : Known loose (c.take rest) := by
  refine ⟨h.paired, h.queued, ?_, h.pending⟩
  intro timeline decoderGeneration time outcome hevent
  apply h.given timeline decoderGeneration time outcome
  rw [head]
  exact List.mem_cons_of_mem _ hevent

theorem decode (h : Known loose c) {label : DecoderStep} (honest : label.honest c.handed) :
    Known loose (c.decode label) := by
  refine ⟨h.paired, h.queued, ?_, h.pending⟩
  intro timeline decoderGeneration time outcome hevent token htoken
  have hmove := DecoderWorker.move_step c.decoder label
  cases hmove.completed hevent with
  | inl hold =>
      exact List.mem_append_left _ (h.given timeline decoderGeneration time outcome hold token htoken)
  | inr hlabel =>
      subst hlabel
      exact List.mem_append_left _ (honest token htoken)

theorem fewer (h : Known loose c) {queued : Bool} (hfewer : queued → c.queued) :
    queued → c.config ≠ none :=
  fun hqueued => h.queued (hfewer hqueued)

theorem tearDown (h : Known loose c) : Known loose c.tearDown where
  paired := h.paired
  queued hqueued := by cases hqueued
  given := h.given
  pending := Or.inr fun session hsession => by cases hsession

theorem commit (h : Known loose c) (config : StreamConfig) : Known loose (c.commit config) where
  paired := h.paired
  queued _ := Option.some_ne_none config
  given := h.given
  pending := h.pending

theorem change (h : Known loose c) (hchange : Change loose accepting c c') :
    Known loose c' := by
  cases hchange with
  | decode label honest => exact h.decode honest
  | allow => exact ⟨h.paired, h.queued, h.given, h.pending⟩
  | establish => exact ⟨h.paired, h.queued, h.given, h.pending⟩
  | expect => exact ⟨h.paired, h.queued, h.given, h.pending⟩
  | receive => exact ⟨h.paired, h.queued, h.given, h.pending⟩
  | dispatch => exact ⟨h.paired, h.queued, h.given, h.pending⟩
  | tearDown => exact h.tearDown
  | hold session active =>
      refine ⟨h.paired, h.queued, h.given, Or.inr ?_⟩
      intro held hheld
      cases hheld
      exact active
  | release => exact ⟨h.paired, h.queued, h.given, Or.inr fun session hsession => by cases hsession⟩
  | commit config => exact h.commit config
  | switch config queued accepts fewer =>
      exact ⟨h.paired, fun _ => Option.some_ne_none config, h.given, h.pending⟩
  | abandon config => exact (h.commit config).tearDown
  | recover queued fewer => exact ⟨h.paired, h.fewer fewer, h.given, h.pending⟩
  | resetDecoder => exact ⟨h.paired, h.queued, h.given, h.pending⟩
  | drain =>
      refine ⟨h.paired, ?_, h.given, h.pending⟩
      intro hqueued
      cases hqueued
  | enqueue configured => exact ⟨h.paired, fun _ => configured, h.given, h.pending⟩
  | submit => exact ⟨h.paired, h.queued, h.given, h.pending⟩
  | report event rest readiness head =>
      have htaken := h.take head
      exact ⟨htaken.paired, htaken.queued, htaken.given, htaken.pending⟩
  | started rest head => exact h.take head
  | skip timeline decoderGeneration time result rest head => exact h.take head
  | complete timeline decoderGeneration time result rest head => exact h.take head
  | refuse timeline decoderGeneration time result rest queued head fewer =>
      have htaken := h.take head
      exact ⟨htaken.paired, h.fewer fewer, htaken.given, htaken.pending⟩
  | accept timeline decoderGeneration time outcome rest head =>
      have htaken := h.take head
      exact ⟨htaken.paired, htaken.queued, htaken.given, htaken.pending⟩
  | publish => exact ⟨h.paired, h.queued, h.given, h.pending⟩

theorem changes (h : Known loose c) (hchanges : Changes loose accepting c c') :
    Known loose c' := by
  induction hchanges with
  | refl => exact h
  | tail _ hchange ih => exact ih.change hchange

end Known

end PicooCamera.Receiver
