import PicooCamera.Sender.PendingQueue
import PicooCamera.Sender.SessionRuns

/-!
# The encoder path

`EncoderPath` is what the media of a Sender depends on: the encoder state, the
active connection, the pending queue and what was done so far. `Change` says what
can happen to it, one effect at a time; `Limits` are what a restricted run
guarantees of the effects that can go wrong.
-/

namespace PicooCamera.Sender

open PicooCamera.Library PicooCamera.Protocol PicooCamera.Packet PicooCamera.Transport

/-! ## What was done so far -/

namespace SenderMark

/-- Marks that say nothing about the encoder, the epochs or the received messages. -/
def isMinor : SenderMark → Bool
  | .asked _ _ => true
  | .polled _ => true
  | .controlSent _ _ (.streamConfig _) => false
  | .controlSent _ _ _ => true
  | _ => false

end SenderMark

/-- The epochs of the StreamConfigs of the current connection, after one more mark. -/
def tell (epochs : List Nat) : SenderMark → List Nat
  | .connected _ => []
  | .controlSent _ _ (.streamConfig wire) => epochs ++ [wire.streamEpoch]
  | _ => epochs

/-- The epochs of the StreamConfigs that were sent since the connection was adopted. -/
def told (marks : List SenderMark) : List Nat := marks.foldl tell []

theorem told_snoc (marks : List SenderMark) (mark : SenderMark) :
    told (marks ++ [mark]) = tell (told marks) mark := by
  rw [told, List.foldl_append]
  rfl

/-- The epoch of the first datagram, which is that of the batch. -/
def batchEpoch (batch : VideoDatagramBatch) : Nat := streamEpochOf (batch.datagrams.headD [])

theorem Carries.batchEpoch {batch : VideoDatagramBatch} {isKeyframe : Bool} {streamEpoch : Nat}
    (h : Carries batch isKeyframe streamEpoch) : batchEpoch batch = streamEpoch := by
  obtain ⟨first, rest, hcons⟩ := List.exists_cons_of_ne_nil h.nonempty
  unfold Sender.batchEpoch
  rw [hcons]
  exact h.epoch first (hcons ▸ List.mem_cons_self)

def SenderMark.emits (streamEpoch : Nat) : SenderMark → Bool
  | .mediaSent _ batch => batchEpoch batch = streamEpoch
  | _ => false

/-- Media of the epoch was sent. -/
def emitted (marks : List SenderMark) (streamEpoch : Nat) : Bool :=
  marks.any (SenderMark.emits streamEpoch)

/-- The transport was asked for a connection and answered with the generation. -/
def Asked (marks : List SenderMark) (generation : Nat) : Prop :=
  ∃ endpoint, .asked endpoint (.ok ⟨generation⟩) ∈ marks

/-! ## The path -/

structure EncoderPath where
  encoder : EncoderState
  /-- The active connection generation. -/
  connection : Option Nat
  pending : List VideoDatagramBatch
  /-- The boundary of the replay protection. -/
  received : Nat
  marks : List SenderMark

def SenderState.path (s : SenderState) : EncoderPath where
  encoder := s.session.encoder
  connection := s.session.lifecycle.activeGeneration
  pending := s.session.pipeline.pending
  received := s.session.lastReceivedControlMessageId
  marks := s.trace

namespace EncoderState

/-- The encoder after its transaction ended without a commit. -/
def restored (e : EncoderState) (transaction : EncoderTransaction) : EncoderState :=
  ((e.setApplyState .committed).restoreGeneration transaction).rollbackEncoderTransaction
    transaction

/-- The encoder after a transaction has begun. -/
def begun (e : EncoderState) (directive : EncoderDirective) (now : Instant) : EncoderState :=
  (e.setApplyState (e.applyState.begin directive e.rollback now).2).countDirective

/-- The encoder after its transaction committed. -/
def committedBy (e : EncoderState) (transaction : EncoderTransaction) (facts : EncodedFacts)
    (config : StreamConfigParams) : EncoderState :=
  if transaction.directive.kind = .recovery then
    (e.setApplyState .committed).commitEncoder facts.height facts.encoderGeneration config
  else
    (e.setApplyState .committed).commitStreamEpoch transaction facts.height
      facts.encoderGeneration config

end EncoderState

namespace EncoderPath

def mark (p : EncoderPath) (mark : SenderMark) : EncoderPath :=
  { p with marks := p.marks ++ [mark] }

def setEncoder (p : EncoderPath) (encoder : EncoderState) : EncoderPath :=
  { p with encoder := encoder }

def bind (p : EncoderPath) (encoderGeneration height : Nat) : EncoderPath :=
  (p.setEncoder (p.encoder.bindEncoder encoderGeneration height)).mark
    (.bound encoderGeneration height)

def start (p : EncoderPath) (transaction : EncoderTransaction) (encoderGeneration : Nat) :
    EncoderPath :=
  (p.setEncoder (p.encoder.setApplyState
    (.applying { transaction with expectedGeneration := some encoderGeneration }))).mark
    (.started encoderGeneration)

def begin (p : EncoderPath) (directive : EncoderDirective) (now : Instant) : EncoderPath :=
  (p.setEncoder (p.encoder.begun directive now)).mark (.began directive p.encoder.snapshot)

/-- The epoch for a transaction that begins next. -/
def allocate (p : EncoderPath) : EncoderPath :=
  (p.setEncoder p.encoder.allocateEpoch).mark
    (.allocated (p.encoder.lastAllocatedStreamEpoch + 1))

def rollBack (p : EncoderPath) (transaction : EncoderTransaction) : EncoderPath :=
  (p.setEncoder (p.encoder.restored transaction)).mark
    (.rolledBack transaction.directive (p.encoder.restored transaction).snapshot)

/-- The transaction of the path, if there is one, is aborted. -/
def aborted (p : EncoderPath) : EncoderPath :=
  match p.encoder.applyState with
  | .committed => p
  | .applying transaction => p.rollBack transaction

/-- The session has no connection and none of its resources. -/
def released (p : EncoderPath) : EncoderPath :=
  { p with encoder := p.encoder.endSession, connection := none, pending := [], received := 0 }

def adopt (p : EncoderPath) (generation : Nat) : EncoderPath :=
  { p with connection := some generation, received := 0 }.mark (.connected generation)

/-- The id of a message that is for the active generation is noted before its phase is
checked. -/
def receive (p : EncoderPath) (messageId : Nat) : EncoderPath := { p with received := messageId }

def publish (p : EncoderPath) (session : SessionId) (messageId : Nat)
    (config : StreamConfigParams) (wire : StreamConfig) : EncoderPath :=
  (p.setEncoder (p.encoder.keepStreamConfig
    { config with streamEpoch := p.encoder.currentStreamEpoch }).noteStreamConfigSent).mark
    (.controlSent session messageId (.streamConfig wire))

def push (p : EncoderPath) (batch : VideoDatagramBatch) : EncoderPath :=
  { p with pending := pendingRoom p.pending ++ [batch] }

/-- The source format of the first access unit that has one. -/
def observe (p : EncoderPath) : EncoderPath :=
  match p.encoder.pendingStreamConfig, p.encoder.committedSourceFormat with
  | some config, none =>
      (p.setEncoder (p.encoder.commitSourceFormat config.sourceFormat)).mark
        (.observed config.sourceFormat)
  | _, _ => p

def enqueue (p : EncoderPath) (facts : EncodedFacts) (batch : VideoDatagramBatch) : EncoderPath :=
  (p.observe.push batch).mark (.admitted facts batch)

def commit (p : EncoderPath) (transaction : EncoderTransaction) (facts : EncodedFacts)
    (config : StreamConfigParams) (batch : VideoDatagramBatch) : EncoderPath :=
  (((p.setEncoder (p.encoder.committedBy transaction facts config)).push batch).mark
    (.committed transaction.directive facts)).mark (.admitted facts batch)

def flush (p : EncoderPath) (session : SessionId) (sent : List VideoDatagramBatch) :
    EncoderPath :=
  { p with pending := [], marks := p.marks ++ sent.map (.mediaSent session) }

end EncoderPath

/-- What is known of the effects that can go wrong. -/
structure Limits where
  /-- An access unit is admitted outside any transaction. -/
  admits : EncoderPath → EncodedFacts → Prop
  /-- The configuration of a transaction is sent for an epoch. -/
  announces : EncoderPath → Nat → Prop
  /-- A transaction fails. -/
  rollsBack : EncoderPath → EncoderTransaction → Prop

/-- Nothing is known. -/
def Limits.none : Limits := ⟨fun _ _ => True, fun _ _ => True, fun _ _ => True⟩

/-- The facts of the keyframe that a transaction waits for. -/
structure Completes (transaction : EncoderTransaction) (facts : EncodedFacts)
    (config : StreamConfigParams) : Prop where
  matched : transaction.matchesNativeFacts facts.transactionId facts.encoderGeneration
    facts.streamEpoch facts.height
  keyframe : facts.isKeyframe
  format : transaction.directive.targetFormat.matches config
  epoch : config.streamEpoch = facts.streamEpoch

/-- The facts are those of the committed encoder. -/
structure CommittedFacts (e : EncoderState) (facts : EncodedFacts) : Prop where
  generation : facts.encoderGeneration = e.committedEncoderGeneration
  epoch : facts.streamEpoch = e.currentStreamEpoch
  height : facts.height = e.committedEncoderHeight

/-- One change of the encoder path. -/
inductive Change (L : Limits) : EncoderPath → EncoderPath → Prop
  | note (p : EncoderPath) (mark : SenderMark) (minor : mark.isMinor) : Change L p (p.mark mark)
  | stage (p : EncoderPath) (config : StreamConfigParams) :
      Change L p (p.setEncoder (p.encoder.stageStreamConfig config))
  | bind (p : EncoderPath) (encoderGeneration height : Nat)
      (idle : p.encoder.applyState = .committed) (shaped : encoderGeneration ≠ 0)
      (first : p.encoder.committedEncoderGeneration = 0) :
      Change L p (p.bind encoderGeneration height)
  | start (p : EncoderPath) (transaction : EncoderTransaction) (encoderGeneration : Nat)
      (applying : p.encoder.applyState = .applying transaction)
      (first : transaction.expectedGeneration = none) :
      Change L p (p.start transaction encoderGeneration)
  | begin (p : EncoderPath) (directive : EncoderDirective) (now : Instant)
      (idle : p.encoder.applyState = .committed)
      (fresh : directive.id = p.encoder.nextEncoderDirectiveId)
      (recovery : directive.kind = .recovery)
      (epoch : directive.streamEpoch = p.encoder.currentStreamEpoch) :
      Change L p (p.begin directive now)
  | reconfigure (p : EncoderPath) (directive : EncoderDirective) (now : Instant)
      (idle : p.encoder.applyState = .committed)
      (fresh : directive.id = p.encoder.nextEncoderDirectiveId)
      (wanted : directive.kind = .localRequest)
      (epoch : directive.streamEpoch = p.encoder.lastAllocatedStreamEpoch + 1)
      (room : p.encoder.lastAllocatedStreamEpoch < maxStreamEpoch) :
      Change L p (p.allocate.begin directive now)
  | rollBack (p : EncoderPath) (transaction : EncoderTransaction)
      (applying : p.encoder.applyState = .applying transaction)
      (limit : L.rollsBack p transaction) : Change L p (p.rollBack transaction)
  | tearDown (p : EncoderPath) : Change L p p.aborted.released
  | close (p : EncoderPath) (generation : Nat) (asked : Asked p.marks generation) :
      Change L p (p.mark (.closed generation))
  | adopt (p : EncoderPath) (generation : Nat) (free : p.connection = none)
      (polled : p.marks.getLast? = some (.polled (.connected ⟨generation⟩))) :
      Change L p (p.adopt generation)
  | receive (p : EncoderPath) (messageId : Nat) (newer : p.received < messageId) :
      Change L p (p.receive messageId)
  | dispatch (p : EncoderPath) (session : SessionId) (envelope : ControlEnvelope)
      (connected : p.connection = some session.value)
      (generation : envelope.connectionGeneration = session.value)
      (newer : p.received < envelope.messageId) :
      Change L p ((p.receive envelope.messageId).mark (.dispatched session envelope))
  | publish (p : EncoderPath) (session : SessionId) (messageId : Nat)
      (config : StreamConfigParams) (wire : StreamConfig)
      (connected : p.connection = some session.value)
      (idle : p.encoder.applyState = .committed)
      (epoch : wire.streamEpoch = p.encoder.currentStreamEpoch) :
      Change L p (p.publish session messageId config wire)
  | announce (p : EncoderPath) (transaction : EncoderTransaction) (session : SessionId)
      (messageId : Nat) (wire : StreamConfig)
      (connected : p.connection = some session.value)
      (applying : p.encoder.applyState = .applying transaction)
      (epoch : wire.streamEpoch = transaction.directive.streamEpoch)
      (limit : L.announces p transaction.directive.streamEpoch) :
      Change L p (p.mark (.controlSent session messageId (.streamConfig wire)))
  | commit (p : EncoderPath) (transaction : EncoderTransaction) (facts : EncodedFacts)
      (config : StreamConfigParams) (batch : VideoDatagramBatch)
      (connected : p.connection ≠ none)
      (applying : p.encoder.applyState = .applying transaction)
      (completes : Completes transaction facts config)
      (announced : facts.streamEpoch ∈ told p.marks)
      (carries : Carries batch facts.isKeyframe facts.streamEpoch) :
      Change L p (p.commit transaction facts config batch)
  | enqueue (p : EncoderPath) (facts : EncodedFacts) (batch : VideoDatagramBatch)
      (connected : p.connection ≠ none)
      (idle : p.encoder.applyState = .committed)
      (committed : CommittedFacts p.encoder facts)
      (carries : Carries batch facts.isKeyframe facts.streamEpoch)
      (limit : L.admits p facts) : Change L p (p.enqueue facts batch)
  | makeRoom (p : EncoderPath) : Change L p { p with pending := pendingRoom p.pending }
  | clear (p : EncoderPath) : Change L p { p with pending := [] }
  | flush (p : EncoderPath) (session : SessionId) (sent rest : List VideoDatagramBatch)
      (connected : p.connection = some session.value) (split : p.pending = sent ++ rest) :
      Change L p (p.flush session sent)

abbrev Changes (L : Limits) : EncoderPath → EncoderPath → Prop :=
  Relation.ReflTransGen (Change L)

theorem Change.grows {L : Limits} {p q : EncoderPath} (h : Change L p q) :
    ∃ more, q.marks = p.marks ++ more := by
  have hobserve : ∃ more, p.observe.marks = p.marks ++ more := by
    unfold EncoderPath.observe
    split
    · exact ⟨_, rfl⟩
    · exact ⟨[], (List.append_nil _).symm⟩
  cases h with
  | tearDown =>
      change ∃ more, p.aborted.marks = p.marks ++ more
      unfold EncoderPath.aborted
      split
      · exact ⟨[], (List.append_nil _).symm⟩
      · exact ⟨_, rfl⟩
  | enqueue facts batch connected idle committed carries limit =>
      obtain ⟨more, hmore⟩ := hobserve
      refine ⟨more ++ [.admitted facts batch], ?_⟩
      change p.observe.marks ++ [.admitted facts batch] = _
      rw [hmore, List.append_assoc]
  | reconfigure directive now idle fresh wanted epoch room =>
      exact ⟨_, List.append_assoc _ _ _⟩
  | commit transaction facts config batch connected applying completes announced carries =>
      exact ⟨_, List.append_assoc _ _ _⟩
  | stage config => exact ⟨[], (List.append_nil _).symm⟩
  | receive messageId newer => exact ⟨[], (List.append_nil _).symm⟩
  | makeRoom => exact ⟨[], (List.append_nil _).symm⟩
  | clear => exact ⟨[], (List.append_nil _).symm⟩
  | _ => exact ⟨_, rfl⟩

theorem Asked.mono {marks more : List SenderMark} {generation : Nat} (h : Asked marks generation) :
    Asked (marks ++ more) generation := by
  obtain ⟨endpoint, hmem⟩ := h
  exact ⟨endpoint, List.mem_append_left _ hmem⟩

theorem Changes.preserves {L : Limits} {Inv : EncoderPath → Prop} {p q : EncoderPath}
    (h : Changes L p q) (hstep : ∀ p q, Inv p → Change L p q → Inv q) (hp : Inv p) : Inv q := by
  induction h with
  | refl => exact hp
  | tail _ hchange ih => exact hstep _ _ ih hchange

end PicooCamera.Sender
