import PicooCamera.Library.TransitionSystem
import PicooCamera.Packet.ReassemblyMap

/-!
# The owner loop of the Receiver runtime

The handle submits commands from other threads, through a bounded queue or a slot
for the latest value, and signals the revisioned wake. The owner drains them for a
turn, pumps, publishes and waits. Each step of the owner and of a call is one step
of the system, so that anything may happen in between.
-/

namespace PicooCamera.Receiver

open PicooCamera.Library PicooCamera.Packet

def maxCommandsPerTurn : Nat := 64

def maxPendingCommands : Nat := 128

/-- Two milliseconds, in nanoseconds. -/
def commandTimeBudget : Duration := 2000000

/-- A hundred milliseconds. -/
def snapshotPublishInterval : Duration := 100000000

inductive RuntimeCommandOutcome where
  | continues
  | shutdown
  deriving DecidableEq, Repr

/-- The platform adapter. What it does may depend on the world around it. -/
structure ReceiverRuntimeAdapter (State Outside Command Snapshot Frame : Type) where
  shutdownCommand : Command
  applyCommand : State → Outside → Command → State × RuntimeCommandOutcome
  /-- A failed pump is only logged. -/
  pump : State → Outside → State
  nextWakeDelay : State → Outside → Duration
  snapshot : State → Outside → Snapshot
  /-- The frame of an `Arc`, by its identity. -/
  latestFrame : State → Outside → Option Frame

/-- A command, with the number of the call that sends it. -/
structure Submitted (Command : Type) where
  call : Nat
  command : Command
  deriving DecidableEq, Repr

structure Applied (Command : Type) where
  entry : Submitted Command
  /-- It came through the slot for the latest value. -/
  latest : Bool
  outcome : RuntimeCommandOutcome
  deriving DecidableEq, Repr

inductive RuntimeHandle where
  | alive
  /-- Inside `Drop::drop`. -/
  | dropping
  /-- The sender of the queue is gone. -/
  | dropped
  deriving DecidableEq, Repr

/-- Where the owner is in `run_owner_loop`, with its local variables. -/
inductive OwnerPoint (Command : Type) where
  | start
  | turn
  | takeLatest (commandStarted : Instant)
  | check (commandStarted : Instant) (commandCount : Nat)
  | receive (commandStarted : Instant) (commandCount : Nat)
  | apply (commandStarted : Instant) (commandCount : Nat) (latest : Bool)
      (entry : Submitted Command)
  | afterCommands (commandStarted : Instant) (commandCount : Nat)
  | pump (commandCount : Nat)
  | publish (commandCount : Nat)
  | schedule
  | wait (delay : Duration)
  /-- Inside `wait_timeout_while`. -/
  | blocked (deadline : Instant)
  | returned
  deriving DecidableEq, Repr

/-- The loop has ended, and with it the channel's receiver. -/
def OwnerPoint.isReturned {Command : Type} : OwnerPoint Command → Bool
  | .returned => true
  | _ => false

structure RuntimeState (State Command Snapshot Frame : Type) where
  adapter : State
  point : OwnerPoint Command
  observedRevision : Nat
  /-- `SnapshotCadence::next_at`. -/
  nextAt : Instant
  now : Instant
  /-- The revision of the wake. -/
  revision : Nat
  /-- The bounded channel. -/
  commands : List (Submitted Command)
  latestCommand : Option (Submitted Command)
  handle : RuntimeHandle
  closed : Bool
  snapshot : Snapshot
  latestFrame : Option Frame
  issued : Nat
  /-- The calls of `submit_latest` that have yet to replace the slot. -/
  replacing : List (Submitted Command)
  /-- The calls that have sent their command and have yet to signal; they return then. -/
  signalling : List Nat
  /-- All commands that the channel has taken. -/
  accepted : List (Submitted Command)
  log : List (Applied Command)

/-- What happens next: a step of a call, of the world or of the owner. -/
inductive RuntimeStep (Outside Command : Type) where
  | submit (command : Command)
  | submitLatest (command : Command)
  | replace (call : Nat)
  | signal (call : Nat)
  | drop
  /-- The fields of the dropped handle are dropped. -/
  | release
  /-- Another user of the wake signals it. -/
  | wake
  | advance (elapsed : Duration)
  | owner (outside : Outside)
  deriving DecidableEq, Repr

namespace RuntimeState

variable {State Outside Command Snapshot Frame : Type} [DecidableEq Snapshot] [DecidableEq Frame]
  (A : ReceiverRuntimeAdapter State Outside Command Snapshot Frame)
  (s : RuntimeState State Command Snapshot Frame)

/-! ## Calls on other threads -/

/-- `TransportEventWake::signal`. -/
def signalWake : RuntimeState State Command Snapshot Frame :=
  { s with revision := saturatingAdd s.revision 1 }

/-- `try_send`: a full or a closed channel refuses. -/
def trySendCommand (command : Command) : Option (RuntimeState State Command Snapshot Frame) :=
  if s.point.isReturned then none
  else if s.commands.length < maxPendingCommands then
    some { s with
      commands := s.commands ++ [⟨s.issued, command⟩]
      accepted := s.accepted ++ [⟨s.issued, command⟩] }
  else none

/-- The call that has sent its command goes on to its signal. -/
def beginSignal : RuntimeState State Command Snapshot Frame :=
  { s with issued := s.issued + 1, signalling := s.issued :: s.signalling }

/-- A call that is refused returns at once. -/
def submit (command : Command) : RuntimeState State Command Snapshot Frame :=
  ((s.trySendCommand command).map beginSignal).getD s

def submitLatest (command : Command) : RuntimeState State Command Snapshot Frame :=
  if s.closed then s
  else { s with issued := s.issued + 1, replacing := ⟨s.issued, command⟩ :: s.replacing }

/-- `LatestCommandSlot::replace`. -/
def replace (entry : Submitted Command) : RuntimeState State Command Snapshot Frame :=
  { s with
    latestCommand := some entry
    replacing := s.replacing.filter fun other => other.call ≠ entry.call
    signalling := entry.call :: s.signalling }

/-- The call signals and returns. -/
def signal (call : Nat) : RuntimeState State Command Snapshot Frame :=
  { s.signalWake with signalling := s.signalling.erase call }

/-- `Drop::drop` up to its signal; the outcome of `try_send` is ignored. -/
def drop : RuntimeState State Command Snapshot Frame :=
  { ((s.trySendCommand A.shutdownCommand).getD s).beginSignal with handle := .dropping }

/-- A step of a call or of the world; the handle is dropped when no call uses it. -/
def callStep : RuntimeStep Outside Command → Option (RuntimeState State Command Snapshot Frame)
  | .submit command => if s.handle = .alive then some (s.submit command) else none
  | .submitLatest command => if s.handle = .alive then some (s.submitLatest command) else none
  | .replace call => (s.replacing.find? fun entry => entry.call = call).map s.replace
  | .signal call => if call ∈ s.signalling then some (s.signal call) else none
  | .drop =>
      if s.handle = .alive ∧ s.replacing.isEmpty ∧ s.signalling.isEmpty then some (s.drop A)
      else none
  | .release =>
      if s.handle = .dropping ∧ s.signalling.isEmpty then some { s with handle := .dropped }
      else none
  | .wake => some s.signalWake
  | .advance elapsed => some { s with now := s.now + elapsed }
  | .owner _ => none

/-! ## The owner -/

def goTo (point : OwnerPoint Command) : RuntimeState State Command Snapshot Frame :=
  { s with point := point }

def takeLatest (started : Instant) : RuntimeState State Command Snapshot Frame :=
  match s.latestCommand with
  | some entry => { s with latestCommand := none, point := .apply started 1 true entry }
  | none => s.goTo (.check started 0)

/-- The condition of the loop over the commands. -/
def check (started : Instant) (count : Nat) : RuntimeState State Command Snapshot Frame :=
  if count < maxCommandsPerTurn ∧ s.now - started < commandTimeBudget then
    s.goTo (.receive started count)
  else s.goTo (.afterCommands started count)

/-- `try_recv`. A channel without a sender is reported once it is empty. -/
def receive (started : Instant) (count : Nat) : RuntimeState State Command Snapshot Frame :=
  match s.commands with
  | entry :: rest =>
      { s with commands := rest, point := .apply started (count + 1) false entry }
  | [] => if s.handle = .dropped then s.goTo .returned else s.goTo (.afterCommands started count)

def apply (outside : Outside) (started : Instant) (count : Nat) (latest : Bool)
    (entry : Submitted Command) : RuntimeState State Command Snapshot Frame :=
  let result := A.applyCommand s.adapter outside entry.command
  { s with
    adapter := result.1
    log := s.log ++ [⟨entry, latest, result.2⟩]
    point := if result.2 = .shutdown then .returned else .check started count }

/-- Whether the turn ends with a signal to itself. -/
def resignals (started : Instant) (count : Nat) : Bool :=
  count = maxCommandsPerTurn ∨ (count > 0 ∧ s.now - started ≥ commandTimeBudget)

def afterCommands (started : Instant) (count : Nat) : RuntimeState State Command Snapshot Frame :=
  if s.resignals started count then s.signalWake.goTo (.pump count) else s.goTo (.pump count)

def pump (outside : Outside) (count : Nat) : RuntimeState State Command Snapshot Frame :=
  { s with adapter := A.pump s.adapter outside, point := .publish count }

/-- `SnapshotCadence::take_due`. -/
def takeDue (commandProcessed : Bool) : Bool := commandProcessed ∨ s.nextAt ≤ s.now

def publishSnapshot (outside : Outside) (count : Nat) :
    RuntimeState State Command Snapshot Frame :=
  if s.takeDue (decide (count > 0)) then
    { s with
      nextAt := s.now + snapshotPublishInterval
      snapshot :=
        if A.snapshot s.adapter outside ≠ s.snapshot then A.snapshot s.adapter outside
        else s.snapshot }
  else s

def publish (outside : Outside) (count : Nat) : RuntimeState State Command Snapshot Frame :=
  let latest := A.latestFrame s.adapter outside
  { s.publishSnapshot A outside count with
    latestFrame := if latest ≠ s.latestFrame then latest else s.latestFrame
    point := .schedule }

/-- `SnapshotCadence::next_delay`. -/
def nextDelay : Duration := s.nextAt - s.now

def schedule (outside : Outside) : RuntimeState State Command Snapshot Frame :=
  s.goTo (.wait (min (A.nextWakeDelay s.adapter outside) s.nextDelay))

/-- `wait_after` returns the revision. -/
def wakeUp : RuntimeState State Command Snapshot Frame :=
  { s with observedRevision := s.revision, point := .turn }

/-- `wait_after` from its start. -/
def waitAfter (delay : Duration) : RuntimeState State Command Snapshot Frame :=
  if s.revision ≠ s.observedRevision then s.wakeUp else s.goTo (.blocked (s.now + delay))

def begin : RuntimeState State Command Snapshot Frame :=
  { s with
    observedRevision := s.revision
    nextAt := s.now + snapshotPublishInterval
    point := .turn }

/-- The thread after the loop. -/
def close : RuntimeState State Command Snapshot Frame := { s with closed := true }

/-- One step of the owner's thread; none while it is blocked and once it has ended. -/
def ownerStep (outside : Outside) : Option (RuntimeState State Command Snapshot Frame) :=
  match s.point with
  | .start => some s.begin
  | .turn => some (s.goTo (.takeLatest s.now))
  | .takeLatest started => some (s.takeLatest started)
  | .check started count => some (s.check started count)
  | .receive started count => some (s.receive started count)
  | .apply started count latest entry => some (s.apply A outside started count latest entry)
  | .afterCommands started count => some (s.afterCommands started count)
  | .pump count => some (s.pump A outside count)
  | .publish count => some (s.publish A outside count)
  | .schedule => some (s.schedule A outside)
  | .wait delay => some (s.waitAfter delay)
  | .blocked deadline =>
      if s.revision ≠ s.observedRevision ∨ deadline ≤ s.now then some s.wakeUp else none
  | .returned => if s.closed then none else some s.close

def step : RuntimeStep Outside Command → Option (RuntimeState State Command Snapshot Frame)
  | .owner outside => s.ownerStep A outside
  | label => s.callStep A label

/-- The owner's thread has been spawned with its adapter. -/
def spawned (adapter : State) (outside : Outside) (now : Instant) (revision : Nat) :
    RuntimeState State Command Snapshot Frame where
  adapter := adapter
  point := .start
  observedRevision := 0
  nextAt := 0
  now := now
  revision := revision
  commands := []
  latestCommand := none
  handle := .alive
  closed := false
  snapshot := A.snapshot adapter outside
  latestFrame := A.latestFrame adapter outside
  issued := 0
  replacing := []
  signalling := []
  accepted := []
  log := []

end RuntimeState

open RuntimeState

variable {State Outside Command Snapshot Frame : Type} [DecidableEq Snapshot] [DecidableEq Frame]

def runtimeSystem (A : ReceiverRuntimeAdapter State Outside Command Snapshot Frame) :
    TransitionSystem (RuntimeState State Command Snapshot Frame) (RuntimeStep Outside Command) :=
  TransitionSystem.ofPartial
    (fun s => ∃ adapter outside now revision, s = spawned A adapter outside now revision)
    (fun s label => s.step A label)

end PicooCamera.Receiver
