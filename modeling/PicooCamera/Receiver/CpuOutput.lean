import PicooCamera.FrameHub.NativeFrame
import PicooCamera.Library.TransitionSystem
import PicooCamera.Packet.ReassemblyMap
import PicooCamera.SharedRing.Ring

/-!
# The CPU output

Calls leave one request in a cell that the worker takes, prepares and publishes in
the shared ring. A call that makes older content obsolete advances the ring's
content generation. The mutex makes each pass through a locked part one step; the
worker's looks at the generation in between are steps of their own.
-/

namespace PicooCamera.Receiver

open PicooCamera.FrameHub PicooCamera.Library PicooCamera.Packet PicooCamera.SharedRing

inductive PlaceholderMode where
  | logo
  | black
  | bars
  deriving DecidableEq, Repr

inductive OutputRequest where
  | frame (frame : NativeVideoFrame)
  | placeholder (mode : PlaceholderMode) (reconnecting : Bool)
  deriving DecidableEq, Repr

def OutputRequest.kind : OutputRequest → SharedFrameKind
  | frame _ => .live
  | placeholder _ _ => .placeholder

/-- A request, by the number of the requests that were accepted before it. -/
structure OutputSubmission where
  number : Nat
  request : OutputRequest
  deriving DecidableEq, Repr

inductive OutputSubmitOutcome where
  | queued
  | replacedPending
  | stopped
  deriving DecidableEq, Repr

/-- What the mutex guards. -/
structure CpuOutputState where
  pending : Option OutputSubmission
  generation : Nat
  kind : SharedFrameKind
  stopped : Bool
  exports : Nat
  demandWaits : Nat
  deriving DecidableEq, Repr

inductive OutputEvent where
  | published
  | failed (error : String)
  deriving DecidableEq, Repr

structure SourceKey where
  generation : Nat
  identity : FrameIdentity
  configRevision : Nat
  deriving DecidableEq, Repr

/-- A request with the generation that was current when it was admitted. -/
structure OutputJob where
  generation : Nat
  submission : OutputSubmission
  deriving DecidableEq, Repr

/-- `source_key`. -/
def OutputJob.key (job : OutputJob) : Option SourceKey :=
  match job.submission.request with
  | .frame frame => some ⟨job.generation, frame.identity, frame.configRevision⟩
  | .placeholder _ _ => none

/-- What is published: an image, or the pixels of a placeholder. -/
inductive Prepared (Image : Type) where
  | image (image : Image)
  | placeholder (mode : PlaceholderMode) (reconnecting : Bool)
  deriving DecidableEq, Repr

/-- Where the worker is. -/
inductive CpuWorker (Image : Type) where
  /-- At the mutex, or waiting for a request or for demand. -/
  | admitting
  | comparing (job : OutputJob)
  | preparing (job : OutputJob)
  | prepared (job : OutputJob) (result : Except String (Prepared Image))
  | locking (job : OutputJob) (prepared : Prepared Image)
  | checking (job : OutputJob) (prepared : Prepared Image)
  /-- `checked` is the generation that the last check saw. -/
  | publishing (job : OutputJob) (prepared : Prepared Image) (checked : Nat)
  /-- The ring was busy. -/
  | retrying (job : OutputJob) (prepared : Prepared Image)
  | waiting (job : OutputJob) (prepared : Prepared Image)
  | reporting (job : OutputJob) (event : OutputEvent)
  | exited

inductive RingPublishResult where
  | published (sequence : Nat)
  | busy
  | error (error : String)
  deriving DecidableEq, Repr

/-- What the worker's surroundings answer at its next step. -/
structure WorkerSurroundings (Image : Type) where
  /-- `is_requested`: whether the lease of the consumers' demand is live. -/
  requested : Bool
  /-- What the GPU makes of the frame. -/
  image : Except String Image
  publish : RingPublishResult

/-- A call to publish; `checked` is the generation that the worker's last check saw. -/
structure PublishAttempt where
  number : Nat
  generation : Nat
  checked : Nat
  deriving DecidableEq, Repr

structure Publication where
  number : Nat
  generation : Nat
  key : Option SourceKey
  deriving DecidableEq, Repr

structure CpuOutputRun (Image : Type) where
  state : CpuOutputState
  /-- `content_generation` of the ring. -/
  fence : Nat
  /-- `cpu_request_sequence` of the ring. -/
  requestSequence : Nat
  event : Option (Nat × OutputEvent)
  dropped : Bool
  worker : CpuWorker Image
  preparedCache : Option (SourceKey × Image)
  publishedKey : Option SourceKey
  servedRequest : Nat
  /-- The event that a call of `poll_event` has taken. -/
  polling : Option (Nat × OutputEvent)
  issued : Nat
  /-- The number of the last accepted placeholder, while no later call supersedes it. -/
  standing : Option Nat
  admitted : List OutputJob
  /-- The request sequences that admitted a frame. -/
  served : List Nat
  preparations : Nat
  attempts : List PublishAttempt
  published : List Publication
  /-- The requests that were reported as failed. -/
  failed : List Nat
  /-- The generation of each event that `poll_event` returned, and the one that was current. -/
  polled : List (Nat × Nat)

/-- What happens next: a call, a consumer's request or a step of the worker. -/
inductive CpuOutputStep (Image : Type) where
  | submit (frame : NativeVideoFrame)
  | placeholder (mode : PlaceholderMode) (reconnecting : Bool)
  | invalidate
  | drop
  /-- A consumer counts its request. -/
  | request
  | pollTake
  | pollCheck
  | worker (surroundings : WorkerSurroundings Image)

namespace CpuOutputRun

variable {Image : Type} (r : CpuOutputRun Image)

/-! ## Calls -/

def advanceGeneration (kind : SharedFrameKind) : CpuOutputRun Image :=
  let generation := nextGeneration r.fence
  { r with
    fence := generation
    state :=
      { r.state with
        kind := kind
        generation := generation
        stopped := r.state.stopped || generation = 0
        pending := if generation = 0 then none else r.state.pending } }

/-- The request takes the cell. -/
def replacePending (request : OutputRequest) : CpuOutputRun Image :=
  { r with
    state := { r.state with pending := some ⟨r.issued, request⟩ }
    issued := r.issued + 1
    standing := if request.kind = .placeholder then some r.issued else none }

def supersede : CpuOutputRun Image := { r with standing := none }

def enqueue (request : OutputRequest) (invalidate : Bool) :
    OutputSubmitOutcome × CpuOutputRun Image :=
  if r.state.stopped then (.stopped, r)
  else
    let next :=
      if invalidate ∨ r.state.kind ≠ request.kind then
        r.supersede.advanceGeneration request.kind
      else r.supersede
    if next.state.stopped then (.stopped, next)
    else
      (if next.state.pending.isSome then .replacedPending else .queued, next.replacePending request)

def submit (frame : NativeVideoFrame) : OutputSubmitOutcome × CpuOutputRun Image :=
  r.enqueue (.frame frame) false

def placeholder (mode : PlaceholderMode) (reconnecting : Bool) : CpuOutputRun Image :=
  (r.enqueue (.placeholder mode reconnecting) true).2

def clearPending : CpuOutputRun Image := { r with state := { r.state with pending := none } }

def invalidate : CpuOutputRun Image :=
  (r.supersede.advanceGeneration .placeholder).clearPending

def drop : CpuOutputRun Image :=
  let stopped := { r.supersede with
    state := { r.state with stopped := true, pending := none }
    dropped := true }
  stopped.advanceGeneration .placeholder

/-- `poll_event` up to the check of the event that it has taken. -/
def pollTake : CpuOutputRun Image := { r with polling := r.event, event := none }

/-- `poll_event` returns an event of the current generation only. -/
def pollCheck : CpuOutputRun Image :=
  match r.polling with
  | some (generation, _) =>
      if generation = r.fence then
        { r with polling := none, polled := r.polled ++ [(generation, r.fence)] }
      else { r with polling := none }
  | none => r

/-- `request` of the ring's demand: exhaustion stops new requests. -/
def countRequest : CpuOutputRun Image :=
  if r.requestSequence < u64Max then { r with requestSequence := r.requestSequence + 1 } else r

/-! ## The worker -/

/-- `SharedFrameRingProducer::cpu_request_sequence`. -/
def cpuRequestSequence (requested : Bool) : Option Nat :=
  if requested ∧ r.fence ≠ 0 ∧ r.requestSequence ≠ 0 then some r.requestSequence else none

def goTo (worker : CpuWorker Image) : CpuOutputRun Image := { r with worker := worker }

/-- `(state.generation, state.pending.take())`. -/
def take (submission : OutputSubmission) : CpuOutputRun Image :=
  { r with
    state := { r.state with pending := none }
    worker := .comparing ⟨r.state.generation, submission⟩
    admitted := r.admitted ++ [⟨r.state.generation, submission⟩] }

/-- One request of a consumer authorizes one preparation. -/
def serve (sequence : Nat) : CpuOutputRun Image :=
  { r with servedRequest := sequence, served := r.served ++ [sequence] }

def waitForDemand : CpuOutputRun Image :=
  { r with state := { r.state with demandWaits := saturatingAdd r.state.demandWaits 1 } }

/-- One pass through the admission loop. -/
def passAdmission (requested : Bool) : CpuOutputRun Image :=
  if r.state.stopped then r.goTo .exited
  else
    match r.state.pending with
    | none => r
    | some submission =>
        match submission.request with
        | .placeholder _ _ => r.take submission
        | .frame _ =>
            match (r.cpuRequestSequence requested).filter (· ≠ r.servedRequest) with
            | some sequence => (r.serve sequence).take submission
            | none => r.waitForDemand

def compare (job : OutputJob) : CpuOutputRun Image :=
  if job.key.isSome ∧ job.key = r.publishedKey then r.goTo .admitting else r.goTo (.preparing job)

/-- The image that was prepared last, where it has the key of the job. -/
def cachedImage (job : OutputJob) : Option Image :=
  (r.preparedCache.filter fun cached => some cached.1 = job.key).map Prod.snd

def cacheImage (job : OutputJob) (image : Image) : CpuOutputRun Image :=
  { r with preparedCache := job.key.map fun key => (key, image) }

def countExport : CpuOutputRun Image :=
  { r with state := { r.state with exports := saturatingAdd r.state.exports 1 } }

/-- `prepare_counted`. -/
def prepareCounted (job : OutputJob) (answer : Except String Image) : CpuOutputRun Image :=
  let counted := { r with preparations := r.preparations + 1 }
  match answer with
  | .ok image =>
      (counted.countExport.cacheImage job image).goTo (.prepared job (.ok (.image image)))
  | .error error => counted.goTo (.prepared job (.error error))

def prepareFrame (job : OutputJob) (answer : Except String Image) : CpuOutputRun Image :=
  match r.cachedImage job with
  | some image => (r.cacheImage job image).goTo (.prepared job (.ok (.image image)))
  | none => r.prepareCounted job answer

def preparePlaceholder (job : OutputJob) (mode : PlaceholderMode) (reconnecting : Bool) :
    CpuOutputRun Image :=
  { r with
    preparedCache := none
    publishedKey := none
    worker := .prepared job (.ok (.placeholder mode reconnecting)) }

def prepare (job : OutputJob) (answer : Except String Image) : CpuOutputRun Image :=
  match job.submission.request with
  | .frame _ => r.prepareFrame job answer
  | .placeholder mode reconnecting => r.preparePlaceholder job mode reconnecting

/-- The check after the preparation. -/
def settle (job : OutputJob) (result : Except String (Prepared Image)) : CpuOutputRun Image :=
  if r.fence ≠ job.generation then r.goTo .admitting
  else
    match result with
    | .ok prepared => r.goTo (.locking job prepared)
    | .error error => r.goTo (.reporting job (.failed error))

/-- The locked check before a publish. -/
def lock (job : OutputJob) (prepared : Prepared Image) : CpuOutputRun Image :=
  if r.state.stopped then r.goTo .exited
  else if r.state.generation ≠ job.generation then r.goTo .admitting
  else r.goTo (.checking job prepared)

def check (job : OutputJob) (prepared : Prepared Image) : CpuOutputRun Image :=
  if r.fence ≠ job.generation then r.goTo .admitting
  else r.goTo (.publishing job prepared r.fence)

def attempt (job : OutputJob) (checked : Nat) : CpuOutputRun Image :=
  { r with attempts := r.attempts ++ [⟨job.submission.number, job.generation, checked⟩] }

def notePublished (job : OutputJob) : CpuOutputRun Image :=
  { r with
    published := r.published ++ [⟨job.submission.number, job.generation, job.key⟩]
    publishedKey := job.key
    worker := .reporting job .published }

def publish (job : OutputJob) (prepared : Prepared Image) (checked : Nat) :
    RingPublishResult → CpuOutputRun Image
  | .published _ => (r.attempt job checked).notePublished job
  | .error error => (r.attempt job checked).goTo (.reporting job (.failed error))
  | .busy => (r.attempt job checked).goTo (.retrying job prepared)

/-- The locked part after a busy ring. -/
def retry (job : OutputJob) (prepared : Prepared Image) : CpuOutputRun Image :=
  if r.state.stopped ∨ r.state.generation ≠ job.generation then r.goTo .admitting
  else if r.state.pending.isSome then r.goTo .admitting
  else r.goTo (.waiting job prepared)

def report (job : OutputJob) (event : OutputEvent) : CpuOutputRun Image :=
  { r with
    event := some (job.generation, event)
    failed := if event = .published then r.failed else r.failed ++ [job.submission.number]
    worker := .admitting }

def workerStep (surroundings : WorkerSurroundings Image) : CpuOutputRun Image :=
  match r.worker with
  | .admitting => r.passAdmission surroundings.requested
  | .comparing job => r.compare job
  | .preparing job => r.prepare job surroundings.image
  | .prepared job result => r.settle job result
  | .locking job prepared => r.lock job prepared
  | .checking job prepared => r.check job prepared
  | .publishing job prepared checked => r.publish job prepared checked surroundings.publish
  | .retrying job prepared => r.retry job prepared
  | .waiting job prepared => r.goTo (.locking job prepared)
  | .reporting job event => r.report job event
  | .exited => r

/-- Nobody calls a dropped output. -/
def call (f : CpuOutputRun Image → CpuOutputRun Image) : CpuOutputRun Image :=
  if r.dropped then r else f r

def next : CpuOutputStep Image → CpuOutputRun Image
  | .submit frame => r.call fun r => (r.submit frame).2
  | .placeholder mode reconnecting => r.call fun r => r.placeholder mode reconnecting
  | .invalidate => r.call invalidate
  | .drop => r.call drop
  | .request => r.countRequest
  | .pollTake => r.call pollTake
  | .pollCheck => r.pollCheck
  | .worker surroundings => r.workerStep surroundings

/-- The worker has advanced the generation of the ring, and `start` returns. -/
def started (ringGeneration requestSequence : Nat) : CpuOutputRun Image where
  state := ⟨none, nextGeneration ringGeneration, .live, false, 0, 0⟩
  fence := nextGeneration ringGeneration
  requestSequence := requestSequence
  event := none
  dropped := false
  worker := .admitting
  preparedCache := none
  publishedKey := none
  servedRequest := 0
  polling := none
  issued := 0
  standing := none
  admitted := []
  served := []
  preparations := 0
  attempts := []
  published := []
  failed := []
  polled := []

end CpuOutputRun

def cpuOutputSystem (Image : Type) :
    TransitionSystem (CpuOutputRun Image) (CpuOutputStep Image) where
  init r := ∃ ringGeneration requestSequence,
    r = CpuOutputRun.started ringGeneration requestSequence
  step r label r' := r' = r.next label

end PicooCamera.Receiver
