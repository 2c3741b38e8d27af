import PicooCamera.Protocol.Control
import PicooCamera.Receiver.MediaScheduler

/-!
# The decoder worker

A bounded queue between the owner, who submits and resets, and the decoder
thread, who pops one item at a time and reports completions.
-/

namespace PicooCamera.Receiver

open PicooCamera.Library PicooCamera.Protocol PicooCamera.Packet

def maxPendingDecodeJobs : Nat := 2

inductive FrameKind where
  | key
  | referenceDelta
  | discardableDelta
  deriving DecidableEq, Repr

namespace FrameKind

def isKeyframe (kind : FrameKind) : Bool := kind = .key

def requiresRefreshWhenDropped (kind : FrameKind) : Bool := kind ≠ .discardableDelta

def ofFlags (keyframe discardable : Bool) : FrameKind :=
  if keyframe then .key else if discardable then .discardableDelta else .referenceDelta

end FrameKind

structure AccessUnitTimeline where
  connectionGeneration : Nat
  streamGeneration : Nat
  frameId : Nat
  sourcePtsUs : Nat
  encodedAtUs : Nat
  receivedAtUs : Nat
  decodeSubmittedAtUs : Nat
  kind : FrameKind
  deriving DecidableEq, Repr

structure EncodedAccessUnit where
  timeline : AccessUnitTimeline
  data : Bytes
  deriving DecidableEq, Repr

structure DecodeJob where
  configRevision : Nat
  accessUnit : EncodedAccessUnit
  streamConfig : Option StreamConfig
  decoderGeneration : Nat
  deriving DecidableEq, Repr

inductive WorkItem where
  | decode (job : DecodeJob)
  | reset
  | shutdown
  deriving DecidableEq, Repr

def WorkItem.isDecode : WorkItem → Bool
  | .decode _ => true
  | _ => false

def WorkItem.isDiscardable : WorkItem → Bool
  | .decode job => job.accessUnit.timeline.kind = .discardableDelta
  | _ => false

structure WorkQueue where
  items : List WorkItem
  stopped : Bool
  decoderGeneration : Nat
  deriving DecidableEq, Repr

inductive DecodeSubmitOutcome where
  | queued
  | dropped (requiresRefresh : Bool)
  deriving DecidableEq, Repr

namespace WorkQueue

def new : WorkQueue := ⟨[], false, 0⟩

def pending (q : WorkQueue) : Nat := (q.items.filter WorkItem.isDecode).length

def push (q : WorkQueue) (items : List WorkItem) (job : DecodeJob) :
    DecodeSubmitOutcome × WorkQueue :=
  (.queued, { q with
    items := items ++ [.decode { job with decoderGeneration := q.decoderGeneration }] })

/-- A key frame replaces every job that has not started and keeps the resets; a reference
delta may replace one discardable delta of a full queue. -/
def submit (q : WorkQueue) (job : DecodeJob) : DecodeSubmitOutcome × WorkQueue :=
  let kind := job.accessUnit.timeline.kind
  if q.stopped then (.dropped kind.requiresRefreshWhenDropped, q)
  else if kind = .key then q.push (q.items.filter fun item => !item.isDecode) job
  else if q.pending < maxPendingDecodeJobs then q.push q.items job
  else if kind = .referenceDelta then
    match q.items.findIdx? WorkItem.isDiscardable with
    | some index => q.push (q.items.eraseIdx index) job
    | none => (.dropped true, q)
  else (.dropped false, q)

def admission (q : WorkQueue) (kind : FrameKind) : DecoderAdmission :=
  if q.stopped ∨ kind = .key then .ready
  else if q.pending < maxPendingDecodeJobs then .ready
  else if kind = .referenceDelta ∧ q.items.any WorkItem.isDiscardable then .ready
  else if kind = .discardableDelta then .dropDiscardable
  else .waitForCapacity

def reset (q : WorkQueue) : WorkQueue :=
  if q.stopped then q
  else
    { q with
      decoderGeneration := (q.decoderGeneration + 1) % 2 ^ 64
      items := (q.items.filter fun item => !item.isDecode && item ≠ .reset) ++ [.reset] }

def shutdown (q : WorkQueue) : WorkQueue :=
  if q.stopped then q else { q with stopped := true, items := [.shutdown] }

end WorkQueue

/-! ## The decoder thread -/

structure DecodeToken where
  timeline : AccessUnitTimeline
  configRevision : Nat
  decoderGeneration : Nat
  streamConfig : Option StreamConfig
  deriving DecidableEq, Repr

/-- The token of the submission that `process_work_item` makes of a job. -/
def DecodeJob.token (job : DecodeJob) : DecodeToken where
  timeline := job.accessUnit.timeline
  configRevision := job.configRevision
  decoderGeneration := job.decoderGeneration
  streamConfig := job.streamConfig

/-- What the platform decoder makes of one submission: the tokens of the pictures it puts
out, and whether it accepted the access unit as a refresh. -/
structure DecodeOutcome where
  frames : List DecodeToken
  refreshAccepted : Bool
  deriving DecidableEq, Repr

inductive DecoderEvent where
  | capabilities (result : Except String Capabilities)
  | started
  | completed (timeline : AccessUnitTimeline) (decoderGeneration decodeTimeUs : Nat)
      (result : Except String DecodeOutcome)
  | unavailable (error : String)

inductive DecoderThread where
  | preparing
  | idle
  | decoding (job : DecodeJob)
  | resetting
  | exited
  deriving DecidableEq, Repr

structure DecoderWorker where
  queue : WorkQueue
  thread : DecoderThread
  events : List DecoderEvent

inductive DecoderStep where
  | prepare (result : Except String Capabilities)
  | pop
  | complete (decodeTimeUs : Nat) (result : Except String DecodeOutcome)
  /-- The platform decoder panics, or its reset fails. -/
  | crash (error : String)
  | resetDone

/-- A platform decoder puts out pictures of submissions that it was given, each with the
token of its own submission. -/
def DecoderStep.honest (handed : List DecodeToken) : DecoderStep → Prop
  | .complete _ (.ok outcome) => ∀ token ∈ outcome.frames, token ∈ handed
  | _ => True

instance (handed : List DecodeToken) (label : DecoderStep) : Decidable (label.honest handed) := by
  unfold DecoderStep.honest
  split <;> infer_instance

namespace DecoderWorker

def new : DecoderWorker := ⟨WorkQueue.new, .preparing, []⟩

/-- What the thread gives to the platform decoder in a step. -/
def handing (d : DecoderWorker) : DecoderStep → List DecodeToken
  | .pop =>
      match d.thread, d.queue.items with
      | .idle, .decode job :: _ => [job.token]
      | _, _ => []
  | _ => []

def send (d : DecoderWorker) (event : DecoderEvent) : DecoderWorker :=
  { d with events := d.events ++ [event] }

def exit (d : DecoderWorker) : DecoderWorker :=
  { d with queue := d.queue.shutdown, thread := .exited }

def popItem (d : DecoderWorker) : DecoderWorker :=
  match d.queue.items with
  | [] => d
  | item :: rest =>
      let d := { d with queue := { d.queue with items := rest } }
      match item with
      | .decode job => { d with thread := .decoding job }.send .started
      | .reset => { d with thread := .resetting }
      | .shutdown => d.exit

def step (d : DecoderWorker) (label : DecoderStep) : DecoderWorker :=
  match label, d.thread with
  | .prepare (.ok capabilities), .preparing =>
      { d with thread := .idle }.send (.capabilities (.ok capabilities))
  | .prepare (.error error), .preparing => d.exit.send (.capabilities (.error error))
  | .pop, .idle => d.popItem
  | .complete decodeTimeUs result, .decoding job =>
      { d with thread := .idle }.send
        (.completed job.accessUnit.timeline job.decoderGeneration decodeTimeUs result)
  | .crash error, .decoding _ => (d.send (.unavailable error)).exit
  | .crash error, .resetting => (d.send (.unavailable error)).exit
  | .resetDone, .resetting => { d with thread := .idle }
  | _, _ => d

def pollEvent (d : DecoderWorker) : Option DecoderEvent × DecoderWorker :=
  match d.events with
  | [] => (none, d)
  | event :: rest => (some event, { d with events := rest })

end DecoderWorker

end PicooCamera.Receiver
