import PicooCamera.Packet.ReassemblyMap
import PicooCamera.Sender.SourceFormat

/-!
# The encoder apply transaction

A directive is applied when the native encoder has been started for it and its
first keyframe arrives. Until then the transaction keeps what a rollback has to
restore.
-/

namespace PicooCamera.Sender

open PicooCamera.Packet

/-- Microseconds. -/
def encoderApplyTimeout : Duration := 3000000

inductive EncoderDirectiveKind where
  | localRequest
  | recovery
  deriving DecidableEq, Repr

structure EncoderDirective where
  id : Nat
  kind : EncoderDirectiveKind
  targetFormat : SourceFormat
  streamEpoch : Nat
  deriving DecidableEq, Repr

structure EncoderRollback where
  streamConfig : Option StreamConfigParams
  streamConfigSent : Bool
  encoderGeneration : Nat
  deriving DecidableEq, Repr

structure EncoderTransaction where
  directive : EncoderDirective
  rollback : EncoderRollback
  streamConfigStaged : Bool
  expectedGeneration : Option Nat
  deadline : Instant
  deriving DecidableEq, Repr

inductive EncoderApplyState where
  | committed
  | applying (transaction : EncoderTransaction)
  deriving DecidableEq, Repr

inductive EncoderTransactionEvent where
  | streamConfigStaged
  | abort
  deriving DecidableEq, Repr

inductive EncoderTransactionTransition where
  | unchanged
  | staged
  | rollback (transaction : EncoderTransaction)
  deriving DecidableEq, Repr

inductive EncoderFailureTransition where
  | ignored
  | rollback (transaction : EncoderTransaction)
  | recover (transaction : EncoderTransaction)
  | disconnect (transaction : EncoderTransaction)
  deriving DecidableEq, Repr

namespace EncoderTransaction

/-- The directive id, epoch and height of the native facts are those of the directive. -/
def matchesDirective (transaction : EncoderTransaction)
    (transactionId streamEpoch height : Nat) : Bool :=
  transaction.directive.id = transactionId ∧ transaction.directive.streamEpoch = streamEpoch ∧
    transaction.directive.targetFormat.height = height

def matchesNativeFacts (transaction : EncoderTransaction)
    (transactionId encoderGeneration streamEpoch height : Nat) : Bool :=
  transaction.matchesDirective transactionId streamEpoch height ∧
    transaction.expectedGeneration = some encoderGeneration

end EncoderTransaction

namespace EncoderApplyState

def begin (state : EncoderApplyState) (directive : EncoderDirective)
    (rollback : EncoderRollback) (now : Instant) : Bool × EncoderApplyState :=
  match state with
  | .committed =>
      (true, .applying ⟨directive, rollback, false, none, now + encoderApplyTimeout⟩)
  | .applying transaction => (false, .applying transaction)

def isApplying : EncoderApplyState → Bool
  | .committed => false
  | .applying _ => true

def directive : EncoderApplyState → Option EncoderDirective
  | .committed => none
  | .applying transaction => some transaction.directive

def isStreamConfigStaged : EncoderApplyState → Bool
  | .committed => false
  | .applying transaction => transaction.streamConfigStaged

def matchesNativeFacts (state : EncoderApplyState)
    (transactionId encoderGeneration streamEpoch height : Nat) : Bool :=
  match state with
  | .committed => false
  | .applying transaction =>
      transaction.matchesNativeFacts transactionId encoderGeneration streamEpoch height

def transactionIdForEpoch (state : EncoderApplyState) (streamEpoch : Nat) : Nat :=
  match state.directive with
  | none => 0
  | some directive => if directive.streamEpoch = streamEpoch then directive.id else 0

/-- The first start report binds the generation that the keyframe has to carry. -/
def reportStarted (state : EncoderApplyState)
    (transactionId encoderGeneration streamEpoch height : Nat) : Bool × EncoderApplyState :=
  if transactionId = 0 ∨ encoderGeneration = 0 ∨ height = 0 then (false, state)
  else
    match state with
    | .committed => (false, .committed)
    | .applying transaction =>
        if transaction.matchesDirective transactionId streamEpoch height then
          match transaction.expectedGeneration with
          | some expected => (expected = encoderGeneration, .applying transaction)
          | none =>
              (true, .applying
                { transaction with expectedGeneration := some encoderGeneration })
        else (false, .applying transaction)

def takeMatchingKeyframe (state : EncoderApplyState)
    (transactionId encoderGeneration streamEpoch height : Nat) (isKeyframe : Bool) :
    Option EncoderTransaction × EncoderApplyState :=
  if isKeyframe then
    match state with
    | .committed => (none, .committed)
    | .applying transaction =>
        if transaction.matchesNativeFacts transactionId encoderGeneration streamEpoch height then
          (some transaction, .committed)
        else (none, .applying transaction)
  else (none, state)

def reportFailed (state : EncoderApplyState) (transactionId encoderGeneration : Nat) :
    EncoderFailureTransition × EncoderApplyState :=
  match state with
  | .committed => (.ignored, .committed)
  | .applying transaction =>
      let generationMatches := encoderGeneration = 0 ∨
        ∀ expected ∈ transaction.expectedGeneration, expected = encoderGeneration
      if transaction.directive.id ≠ transactionId ∨ ¬generationMatches then
        (.ignored, .applying transaction)
      else if transaction.directive.kind = .recovery then (.disconnect transaction, .committed)
      else if encoderGeneration = 0 then (.rollback transaction, .committed)
      else (.recover transaction, .committed)

def expire (state : EncoderApplyState) (now : Instant) :
    EncoderFailureTransition × EncoderApplyState :=
  match state with
  | .committed => (.ignored, .committed)
  | .applying transaction =>
      if now < transaction.deadline then (.ignored, .applying transaction)
      else if transaction.directive.kind = .recovery then (.disconnect transaction, .committed)
      else (.recover transaction, .committed)

def reduce (state : EncoderApplyState) (event : EncoderTransactionEvent) :
    EncoderTransactionTransition × EncoderApplyState :=
  match event, state with
  | .streamConfigStaged, .committed => (.unchanged, .committed)
  | .streamConfigStaged, .applying transaction =>
      (.staged, .applying { transaction with streamConfigStaged := true })
  | .abort, .committed => (.unchanged, .committed)
  | .abort, .applying transaction => (.rollback transaction, .committed)

end EncoderApplyState

end PicooCamera.Sender
