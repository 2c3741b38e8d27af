import PicooCamera.Packet.ReassemblyFec

/-!
# Media scheduling

`scheduleMedia` decides whether the oldest complete access unit may advance,
must expire, or waits. Delays are relative to one `now`.
-/

namespace PicooCamera.Receiver

open PicooCamera.Packet

inductive MediaWaitReason where
  | olderAccessUnit
  | playoutTarget
  | hardExpiration
  | refreshConfirmation
  | decoderCapacity
  | mediaEvent
  deriving DecidableEq, Repr

inductive RecoveryAdmission where
  | ready
  | drop
  | waitForRefresh
  deriving DecidableEq, Repr

inductive DecoderAdmission where
  | ready
  | waitForCapacity
  | dropDiscardable
  deriving DecidableEq, Repr

inductive MediaScheduleDecision where
  | decodeReadyFrame
  | discardReadyFrame
  | discardRecoveryBlockedFrame
  | discardExpired
  | waitUntil (delay : Duration) (reason : MediaWaitReason)
  | waitForEvent (reason : MediaWaitReason)
  | idle
  deriving DecidableEq, Repr

structure MediaScheduleInput where
  frontFrameId : Option Nat
  oldestUnresolvedFrameId : Option Nat
  releaseDelay : Option Duration
  expirationDelay : Option Duration
  recoveryAdmission : RecoveryAdmission
  decoderAdmission : DecoderAdmission
  deriving DecidableEq, Repr

/-- Wait for `reason`, at most until the queued access unit expires. -/
def waitFor (expiration : Option Duration) (reason : MediaWaitReason) : MediaScheduleDecision :=
  match expiration with
  | some delay => .waitUntil delay reason
  | none => .waitForEvent reason

/-- The decision for an access unit whose playout target is reached. -/
def scheduleReleased (input : MediaScheduleInput) : MediaScheduleDecision :=
  match input.recoveryAdmission with
  | .drop => .discardRecoveryBlockedFrame
  | .waitForRefresh => waitFor input.expirationDelay .refreshConfirmation
  | .ready =>
      match input.decoderAdmission with
      | .ready => .decodeReadyFrame
      | .dropDiscardable => .discardReadyFrame
      | .waitForCapacity => waitFor input.expirationDelay .decoderCapacity

def scheduleMedia (input : MediaScheduleInput) : MediaScheduleDecision :=
  match input.frontFrameId with
  | none => .idle
  | some candidate =>
      if input.expirationDelay = some 0 then .discardExpired
      else if ∃ unresolved ∈ input.oldestUnresolvedFrameId, unresolved < candidate then
        waitFor input.expirationDelay .olderAccessUnit
      else
        match input.releaseDelay, input.expirationDelay with
        | some release, expiration =>
            if ∃ delay ∈ expiration, delay < release then
              waitFor expiration .hardExpiration
            else if release = 0 then scheduleReleased input
            else .waitUntil release .playoutTarget
        | none, some delay => .waitUntil delay .hardExpiration
        | none, none => .waitForEvent .mediaEvent

end PicooCamera.Receiver
