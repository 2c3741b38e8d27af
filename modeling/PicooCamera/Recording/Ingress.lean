import PicooCamera.Library.TransitionSystem
import PicooCamera.Recording.EncodedWriter

/-!
# The way of an access unit into a recording

A complete access unit waits for its configuration, goes through the bounded
channel of the recording worker and is polled there. The session and the worker
are two threads: a poll reads the failure in one step and the channel in the
next, and an offer checks its input in one step and sends it in the next.
-/

namespace PicooCamera.Recording

open PicooCamera.Library PicooCamera.Packet PicooCamera.Protocol

def maxConfigurationBytes : Nat := 64 * 1024
def budgetLimit : Nat := 16 * 1024 * 1024
def waitCapacity : Nat := 16
def waitDeadlineUs : Nat := 250000
def ingressCapacity : Nat := 16
def inputDeadlineUs : Nat := 2000000

inductive IngressFailure where
  | capacity
  | tooOld
  | invalidInput
  | workerStopped
  | configurationUnavailable
  deriving DecidableEq, Repr

/-! ## The budget -/

/-- What an access unit is charged with. -/
def chargeOf (accessUnit : AssembledAccessUnit) : Nat :=
  accessUnit.data.length + maxConfigurationBytes

-- A sum that overflows is beyond the limit.
def reserve (used payloadBytes : Nat) : Except IngressFailure Nat :=
  if used + (payloadBytes + maxConfigurationBytes) ≤ budgetLimit then
    .ok (used + (payloadBytes + maxConfigurationBytes))
  else .error .capacity

/-- An input with its reservation. -/
structure ReservedInput extends RecordingInput where
  reservation : Nat
  charged : reservation = chargeOf accessUnit

/-! ## Waiting for the configuration -/

structure Pending where
  reservation : Nat
  generation : Nat
  accessUnit : AssembledAccessUnit
  configuration : Option StreamConfig
  acceptedAt : Nat
  charged : reservation = chargeOf accessUnit

namespace ConfigurationWait

def pushed (generation : Nat) (accessUnit : AssembledAccessUnit) (configuration : StreamConfig)
    (now : Nat) : Pending where
  reservation := chargeOf accessUnit
  generation := generation
  accessUnit := accessUnit
  configuration :=
    if accessUnit.streamEpoch = configuration.streamEpoch then some configuration else none
  acceptedAt := now
  charged := rfl

/-- The queue and the budget after the push. -/
def push (wait : List Pending) (used generation : Nat) (accessUnit : AssembledAccessUnit)
    (configuration : StreamConfig) (now : Nat) : Except IngressFailure (List Pending × Nat) :=
  if wait.length = waitCapacity then .error .capacity
  else if accessUnit.data = [] ∨ maxMediaAccessUnitBytes < accessUnit.data.length ∨
      maxConfigurationBytes < configuration.codecConfiguration.length then .error .invalidInput
  else
    (reserve used accessUnit.data.length).map fun used =>
      (wait ++ [pushed generation accessUnit configuration now], used)

/-- `get_or_insert_with`, where the identity of the entry is that of the configuration. -/
def assign (generation : Nat) (configuration : StreamConfig) (entry : Pending) : Pending :=
  if entry.generation = generation ∧
      entry.accessUnit.streamEpoch = configuration.streamEpoch then
    { entry with configuration := some (entry.configuration.getD configuration) }
  else entry

def readyInput (entry : Pending) (configuration : StreamConfig) : ReservedInput where
  connectionGeneration := entry.generation
  configuration := configuration
  accessUnit := entry.accessUnit
  deadline := entry.acceptedAt + inputDeadlineUs
  reservation := entry.reservation
  charged := entry.charged

/-- The inputs popped off the front, and the entries that stay. -/
def takeReady : List Pending → List ReservedInput × List Pending
  | [] => ([], [])
  | entry :: wait =>
      entry.configuration.elim ([], entry :: wait) fun configuration =>
        (readyInput entry configuration :: (takeReady wait).1, (takeReady wait).2)

def resolve (wait : List Pending) (generation : Nat) (configuration : StreamConfig) (now : Nat) :
    Except IngressFailure (List ReservedInput × List Pending) :=
  if maxConfigurationBytes < configuration.codecConfiguration.length then .error .invalidInput
  else if ∃ entry ∈ wait, waitDeadlineUs < now - entry.acceptedAt then
    .error .configurationUnavailable
  else .ok (takeReady (wait.map (assign generation configuration)))

end ConfigurationWait

/-! ## The channel -/

inductive IngressEvent where
  | input (input : ReservedInput)
  | gap (reason : GapReason) (source : Option SourceRange)

structure Queued where
  event : IngressEvent
  acceptedAt : Nat

/-- `offer_at` up to its `try_send`. -/
def offerAt (failure : Option IngressFailure) (input : ReservedInput) (now : Nat) :
    Except IngressFailure Queued :=
  failure.elim
    (if input.deadline ≤ now then .error .tooOld
    else if input.accessUnit.data = [] ∨
        maxMediaAccessUnitBytes < input.accessUnit.data.length ∨
        maxConfigurationBytes < input.configuration.codecConfiguration.length ∨
        input.configuration.codecConfiguration = [] ∨
        input.configuration.streamEpoch ≠ input.accessUnit.streamEpoch then .error .invalidInput
    else .ok ⟨.input input, now⟩)
    .error

def IngressEvent.input? : IngressEvent → Option ReservedInput
  | .input admitted => some admitted
  | .gap _ _ => none

/-- What a poll that receives `queued` at `now` finds too old. -/
def expired (queued : Queued) (now : Nat) : Prop :=
  inputDeadlineUs < now - queued.acceptedAt ∨
    (queued.event.input?.any fun input => input.deadline ≤ now) = true

instance (queued : Queued) (now : Nat) : Decidable (expired queued now) :=
  inferInstanceAs (Decidable (_ ∨ _))

inductive ProducerState where
  | running
  | stopped
  /-- Dropped with the session, whatever waits for its configuration. -/
  | dropped
  deriving DecidableEq, Repr

inductive InboxState where
  | attached
  /-- The inbox has given up its receiver. -/
  | closed
  | dropped
  deriving DecidableEq, Repr

inductive PollOutcome where
  | input
  | gap
  | idle
  | drained
  deriving DecidableEq, Repr

structure IngressPipeline where
  /-- `control_generation` and `current_stream_config` of the session. -/
  generation : Option Nat
  configuration : Option StreamConfig
  wait : List Pending
  /-- What `resolve` has returned and the session has not offered yet. -/
  ready : List ReservedInput
  producer : ProducerState
  /-- What the session is about to send. -/
  sending : Option Queued
  failure : Option IngressFailure
  queue : List Queued
  inbox : InboxState
  /-- The `now` of a poll that has found no failure. -/
  receiving : Option Nat
  /-- What the worker holds of the inputs that it was given. -/
  held : List ReservedInput
  /-- The reservations of other recordings of the process. -/
  foreign : List Nat
  used : Nat

/-- The pipeline, with what went in, what came out and what the last poll returned. -/
structure PipelineRun extends IngressPipeline where
  /-- The access units pushed, each with the deadline of its acceptance. -/
  pushed : List (AssembledAccessUnit × Nat)
  accepted : List IngressEvent
  delivered : List IngressEvent
  /-- The configurations that were current, each with its connection generation. -/
  configured : List (Nat × StreamConfig)
  lastPoll : Option (Except IngressFailure PollOutcome)

inductive PipelineStep where
  | hello (generation : Nat)
  | configure (configuration : StreamConfig)
  | reset
  | push (accessUnit : AssembledAccessUnit) (now : Nat)
  | resolve (now : Nat)
  | offer (now : Nat)
  | reportGap (reason : GapReason) (source : Option SourceRange) (now : Nat)
  | send
  | terminate (failure : IngressFailure)
  | stop
  | dropProducer
  | poll (now : Nat)
  | receive
  | dropInbox
  | release (index : Nat)
  | reserveElsewhere (payloadBytes : Nat)
  | releaseElsewhere (index : Nat)

def reservedBytes (inputs : List ReservedInput) : Nat :=
  (inputs.map fun input => input.reservation).sum

def waitingBytes (wait : List Pending) : Nat := (wait.map fun entry => entry.reservation).sum

def inputsOf (queue : List Queued) : List ReservedInput :=
  queue.filterMap fun queued => queued.event.input?

namespace PipelineRun

def start : PipelineRun where
  generation := none
  configuration := none
  wait := []
  ready := []
  producer := .running
  sending := none
  failure := none
  queue := []
  inbox := .attached
  receiving := none
  held := []
  foreign := []
  used := 0
  pushed := []
  accepted := []
  delivered := []
  configured := []
  lastPoll := none

/-- `OnceLock::set` -/
def setFailure (failure : IngressFailure) (x : PipelineRun) : PipelineRun :=
  { x with failure := x.failure.or (some failure) }

def free (bytes : Nat) (x : PipelineRun) : PipelineRun := { x with used := x.used - bytes }

/-- `worker.terminate`, and then the wait is cleared. -/
def abandon (failure : IngressFailure) (x : PipelineRun) : PipelineRun :=
  { (x.setFailure failure).free (waitingBytes x.wait) with wait := [] }

/-- The channel drops what it holds with its receiver. -/
def closeInbox (inbox : InboxState) (x : PipelineRun) : PipelineRun :=
  { x.free (reservedBytes (inputsOf x.queue)) with inbox := inbox, queue := [] }

def configure (configuration : StreamConfig) (x : PipelineRun) : PipelineRun :=
  x.generation.elim x fun generation =>
    { x with
      configuration := some configuration
      configured := (generation, configuration) :: x.configured }

def push (accessUnit : AssembledAccessUnit) (now : Nat) (x : PipelineRun) : PipelineRun :=
  x.generation.elim x fun generation => x.configuration.elim x fun configuration =>
    match ConfigurationWait.push x.wait x.used generation accessUnit configuration now with
    | .error failure => x.abandon failure
    | .ok (wait, used) =>
        { x with
          wait := wait
          used := used
          pushed := x.pushed ++ [(accessUnit, now + inputDeadlineUs)] }

def resolve (now : Nat) (x : PipelineRun) : PipelineRun :=
  x.generation.elim x fun generation => x.configuration.elim x fun configuration =>
    match ConfigurationWait.resolve x.wait generation configuration now with
    | .error failure => x.abandon failure
    | .ok (ready, wait) => { x with ready := ready, wait := wait }

def offer (now : Nat) (x : PipelineRun) : PipelineRun :=
  match x.ready with
  | [] => x
  | input :: ready =>
      match offerAt x.failure input now with
      | .error failure => { (x.setFailure failure).free input.reservation with ready := ready }
      | .ok queued => { x with ready := ready, sending := some queued }

def reportGap (reason : GapReason) (source : Option SourceRange) (now : Nat) (x : PipelineRun) :
    PipelineRun :=
  x.failure.elim { x with sending := some ⟨.gap reason source, now⟩ } fun _ => x

/-- `try_send` fails, and the message is dropped. -/
def refuse (queued : Queued) (failure : IngressFailure) (x : PipelineRun) : PipelineRun :=
  { (x.setFailure failure).free (reservedBytes (inputsOf [queued])) with sending := none }

def send (x : PipelineRun) : PipelineRun :=
  x.sending.elim x fun queued =>
    if x.inbox ≠ .attached then x.refuse queued .workerStopped
    else if x.queue.length = ingressCapacity then x.refuse queued .capacity
    else
      { x with
        sending := none
        queue := x.queue ++ [queued]
        accepted := x.accepted ++ [queued.event] }

def stop (x : PipelineRun) : PipelineRun :=
  { (if x.wait = [] then x else x.abandon .configurationUnavailable) with producer := .stopped }

def poll (now : Nat) (x : PipelineRun) : PipelineRun :=
  x.failure.elim
    (if x.inbox = .closed then { x with lastPoll := some (.ok .drained) }
    else { x with receiving := some now })
    fun failure => { x.closeInbox .closed with lastPoll := some (.error failure) }

def outcomeOf : IngressEvent → PollOutcome
  | .input _ => .input
  | .gap _ _ => .gap

/-- The rest of a poll, from `try_recv` on. -/
def receive (now : Nat) (x : PipelineRun) : PipelineRun :=
  match x.queue with
  | [] =>
      if x.producer = .running then { x with receiving := none, lastPoll := some (.ok .idle) }
      else { x with receiving := none, inbox := .closed, lastPoll := some (.ok .drained) }
  | queued :: queue =>
      -- The failure is read again behind the age check.
      let checked := if expired queued now then x.setFailure .tooOld else x
      checked.failure.elim
        { x with
          receiving := none
          queue := queue
          held := x.held ++ inputsOf [queued]
          delivered := x.delivered ++ [queued.event]
          lastPoll := some (.ok (outcomeOf queued.event)) }
        fun failure =>
          { checked.closeInbox .closed with
            receiving := none
            lastPoll := some (.error failure) }

def release (index : Nat) (x : PipelineRun) : PipelineRun :=
  (x.held[index]?).elim x fun input =>
    { x.free input.reservation with held := x.held.eraseIdx index }

def reserveElsewhere (payloadBytes : Nat) (x : PipelineRun) : PipelineRun :=
  (reserve x.used payloadBytes).toOption.elim x fun used =>
    { x with used := used, foreign := (payloadBytes + maxConfigurationBytes) :: x.foreign }

def releaseElsewhere (index : Nat) (x : PipelineRun) : PipelineRun :=
  (x.foreign[index]?).elim x fun bytes =>
    { x.free bytes with foreign := x.foreign.eraseIdx index }

/-- The session is between two of its calls. -/
def Idle (x : PipelineRun) : Prop :=
  x.producer = .running ∧ x.sending.isNone = true ∧ x.ready.isEmpty = true

instance (x : PipelineRun) : Decidable x.Idle := inferInstanceAs (Decidable (_ ∧ _))

/-- The worker is between two polls. -/
def Polls (x : PipelineRun) : Prop := x.inbox ≠ .dropped ∧ x.receiving = none

instance (x : PipelineRun) : Decidable x.Polls := inferInstanceAs (Decidable (_ ∧ _))

/-- Each thread goes on with its own call; what a step is not ready for does nothing. -/
def step (x : PipelineRun) : PipelineStep → PipelineRun
  | .hello generation =>
      if x.generation.isNone then { x with generation := some generation } else x
  | .configure configuration => x.configure configuration
  | .reset => { x with generation := none, configuration := none }
  | .push accessUnit now => if x.Idle then x.push accessUnit now else x
  | .resolve now => if x.Idle then x.resolve now else x
  | .offer now => if x.producer = .running ∧ x.sending.isNone = true then x.offer now else x
  | .reportGap reason source now => if x.Idle then x.reportGap reason source now else x
  | .send => x.send
  | .terminate failure => if x.Idle then x.setFailure failure else x
  | .stop => if x.Idle then x.stop else x
  | .dropProducer => if x.Idle then { x with producer := .dropped } else x
  | .poll now => if x.Polls then x.poll now else x
  | .receive => x.receiving.elim x fun now => x.receive now
  | .dropInbox => if x.Polls then x.closeInbox .dropped else x
  | .release index => x.release index
  | .reserveElsewhere payloadBytes => x.reserveElsewhere payloadBytes
  | .releaseElsewhere index => x.releaseElsewhere index

end PipelineRun

end PicooCamera.Recording
