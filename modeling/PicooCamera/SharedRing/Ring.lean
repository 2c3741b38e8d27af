import PicooCamera.Library.BigEndian

/-!
# The shared frame ring

One producer publishes frames into three slots of shared memory, any number of
consumers read the newest one, and any number of threads invalidate the content.
Each load, store and compare-exchange of an atomic is one step, and so is each
plain read or write of a field and each byte that is copied. Steps of different
threads interleave in any order.
-/

namespace PicooCamera.SharedRing

open PicooCamera.Library

def ringSlotCount : Nat := 3
def writerLease : Nat := 2 ^ 32 - 1
def pixelFormatNv12 : Nat := 1

/-! ## Memory -/

inductive ReadyState where
  | empty
  | writing
  | done
  deriving DecidableEq, Repr

inductive SharedFrameKind where
  | live
  | placeholder
  deriving DecidableEq, Repr

def SharedFrameKind.signalBit : SharedFrameKind → Nat
  | .live => 0
  | .placeholder => 1

def SharedFrameKind.fromWire : Nat → Option SharedFrameKind
  | 0 => some .live
  | 1 => some .placeholder
  | _ => none

/-- The fields of a slot that are no atomics. -/
inductive PlainField where
  | timestampUs
  | width
  | height
  | stride
  | rotation
  | pixelFormat
  | dataLength
  | contentKind
  deriving DecidableEq, Repr

structure RingSlot where
  sequence : Nat
  contentGeneration : Nat
  readyState : ReadyState
  readerCount : Nat
  plain : PlainField → Nat
  pixels : Nat → UInt8

structure RingMemory where
  writeIndex : Nat
  latestSequence : Nat
  contentGeneration : Nat
  contentSignal : Nat
  slots : Nat → RingSlot

/-- The size of a slot's pixels, which the header holds as a `u32`. -/
structure FrameCapacity where
  maxFrameBytes : Nat
  inHeader : maxFrameBytes < 2 ^ 32

namespace RingMemory

def updateSlot (m : RingMemory) (index : Nat) (f : RingSlot → RingSlot) : RingMemory :=
  { m with slots := Function.update m.slots index (f (m.slots index)) }

def initSlot (slot : RingSlot) : RingSlot :=
  { slot with
    sequence := 0
    contentGeneration := 0
    readyState := .empty
    readerCount := 0
    plain := Function.update slot.plain .contentKind SharedFrameKind.live.signalBit }

/-- `init_header` on memory that was just mapped. -/
def initHeader (m : RingMemory) : RingMemory where
  writeIndex := 0
  latestSequence := 0
  contentGeneration := 1
  contentSignal := 1 * 2 + SharedFrameKind.live.signalBit
  slots := fun i => initSlot (m.slots i)

end RingMemory

open RingMemory

/-- The kind that a signal of the ring stands for. -/
def signalKind (signal : Nat) : Option SharedFrameKind :=
  if signal = 0 then none else SharedFrameKind.fromWire (signal % 2)

/-! ## The producer -/

structure PublishCall where
  generation : Nat
  kind : SharedFrameKind
  width : Nat
  height : Nat
  stride : Nat
  rotation : Nat
  timestampUs : Nat
  nv12 : Bytes
  deriving DecidableEq

inductive RingPublishResult where
  | published (sequence : Nat)
  | busy
  | contentInvalidated
  | frameTooLarge
  deriving DecidableEq, Repr

/-- What a publish writes into the fields. -/
def PublishCall.plain (a : PublishCall) : PlainField → Nat
  | .timestampUs => a.timestampUs
  | .width => a.width
  | .height => a.height
  | .stride => a.stride
  | .rotation => a.rotation
  | .pixelFormat => pixelFormatNv12
  | .dataLength => a.nv12.length
  | .contentKind => a.kind.signalBit

inductive PlainWrite where
  | field (name : PlainField) (value : Nat)
  | pixel (i : Nat) (value : UInt8)
  deriving DecidableEq

def PlainWrite.apply : PlainWrite → RingSlot → RingSlot
  | field name value, slot => { slot with plain := Function.update slot.plain name value }
  | pixel i value, slot => { slot with pixels := Function.update slot.pixels i value }

/-- The fields in the order of their writes. -/
def writtenFields : List PlainField :=
  [.timestampUs, .width, .height, .stride, .rotation, .pixelFormat, .dataLength, .contentKind]

def PublishCall.writes (a : PublishCall) : List PlainWrite :=
  writtenFields.map (fun name => .field name (a.plain name)) ++
    a.nv12.zipIdx.map fun byte => .pixel byte.2 byte.1

/-- Where `publish_nv12_kind_in_generation` stands. -/
inductive ProducerState where
  | idle
  | checkGeneration (a : PublishCall)
  | checkKindGeneration (a : PublishCall)
  | checkKindSignal (a : PublishCall)
  | loadWriteIndex (a : PublishCall)
  | claim (a : PublishCall) (start offset : Nat)
  | markWriting (a : PublishCall) (index : Nat)
  /-- The plain writes that are left, and the second check of the generation after the last. -/
  | write (a : PublishCall) (index : Nat) (left : List PlainWrite)
  | abortReady (a : PublishCall) (index : Nat)
  | abortLease (a : PublishCall) (index : Nat)
  | loadLatest (a : PublishCall) (index : Nat)
  | storeGeneration (a : PublishCall) (index sequence : Nat)
  | storeSequence (a : PublishCall) (index sequence : Nat)
  | storeReady (a : PublishCall) (index sequence : Nat)
  | storeLease (a : PublishCall) (index sequence : Nat)
  | storeLatest (a : PublishCall) (index sequence : Nat)
  | storeWriteIndex (a : PublishCall) (index sequence : Nat)

structure ProducerOutcome where
  memory : RingMemory
  next : ProducerState
  /-- The call and its answer, when it returns. -/
  answer : Option (PublishCall × RingPublishResult)

def goOn (m : RingMemory) (next : ProducerState) : ProducerOutcome := ⟨m, next, none⟩

def answer (m : RingMemory) (a : PublishCall) (result : RingPublishResult) : ProducerOutcome :=
  ⟨m, .idle, some (a, result)⟩

def setReady (state : ReadyState) (slot : RingSlot) : RingSlot := { slot with readyState := state }

def setReaderCount (count : Nat) (slot : RingSlot) : RingSlot := { slot with readerCount := count }

def setContentGeneration (generation : Nat) (slot : RingSlot) : RingSlot :=
  { slot with contentGeneration := generation }

def setSequence (sequence : Nat) (slot : RingSlot) : RingSlot := { slot with sequence := sequence }

def producerStep (capacity : FrameCapacity) (m : RingMemory) : ProducerState → ProducerOutcome
  | .idle => goOn m .idle
  | .checkGeneration a =>
      if a.generation = 0 ∨ a.generation ≠ m.contentGeneration then answer m a .contentInvalidated
      else goOn m (.checkKindGeneration a)
  | .checkKindGeneration a =>
      if m.contentGeneration = 0 then answer m a .contentInvalidated
      else goOn m (.checkKindSignal a)
  | .checkKindSignal a =>
      if signalKind m.contentSignal ≠ some a.kind then answer m a .contentInvalidated
      else if capacity.maxFrameBytes < a.nv12.length then answer m a .frameTooLarge
      else goOn m (.loadWriteIndex a)
  | .loadWriteIndex a => goOn m (.claim a (m.writeIndex % ringSlotCount) 0)
  | .claim a start offset =>
      let index := (start + offset) % ringSlotCount
      if (m.slots index).readerCount = 0 then
        goOn (m.updateSlot index (setReaderCount writerLease)) (.markWriting a index)
      else if offset + 1 < ringSlotCount then goOn m (.claim a start (offset + 1))
      else answer m a .busy
  | .markWriting a index =>
      goOn (m.updateSlot index (setReady .writing)) (.write a index a.writes)
  | .write a index (w :: left) =>
      goOn (m.updateSlot index w.apply) (.write a index left)
  | .write a index [] =>
      if m.contentGeneration ≠ a.generation then goOn m (.abortReady a index)
      else goOn m (.loadLatest a index)
  | .abortReady a index => goOn (m.updateSlot index (setReady .empty)) (.abortLease a index)
  | .abortLease a index => answer (m.updateSlot index (setReaderCount 0)) a .contentInvalidated
  | .loadLatest a index =>
      -- The release build wraps.
      goOn m (.storeGeneration a index ((m.latestSequence + 1) % 2 ^ 64))
  | .storeGeneration a index sequence =>
      goOn (m.updateSlot index (setContentGeneration a.generation))
        (.storeSequence a index sequence)
  | .storeSequence a index sequence =>
      goOn (m.updateSlot index (setSequence sequence)) (.storeReady a index sequence)
  | .storeReady a index sequence =>
      goOn (m.updateSlot index (setReady .done)) (.storeLease a index sequence)
  | .storeLease a index sequence =>
      goOn (m.updateSlot index (setReaderCount 0)) (.storeLatest a index sequence)
  | .storeLatest a index sequence =>
      goOn { m with latestSequence := sequence } (.storeWriteIndex a index sequence)
  | .storeWriteIndex a index sequence =>
      answer { m with writeIndex := (index + 1) % ringSlotCount } a (.published sequence)

/-- The slot that the producer has marked with its lease. -/
def owned : ProducerState → Option Nat
  | .markWriting _ index | .write _ index _ | .abortReady _ index | .abortLease _ index
  | .loadLatest _ index | .storeGeneration _ index _ | .storeSequence _ index _
  | .storeReady _ index _ | .storeLease _ index _ => some index
  | _ => none

/-! ## Consumers -/

/-- What a view shows besides the pixels, which stay in their slot. -/
structure SharedFrameView where
  index : Nat
  sequence : Nat
  plain : PlainField → Nat

abbrev Candidates := List (Nat × Nat)

/-- Where `latest_frame` stands, and the view that it returned. A candidate is the index of a
slot and its sequence. -/
inductive ReaderState where
  | loadGeneration
  | loadLatest
  | scanReady (index : Nat) (candidates : Candidates)
  | scanSequence (index : Nat) (candidates : Candidates)
  | tryReady (index sequence : Nat) (rest : Candidates)
  | trySequence (index sequence : Nat) (rest : Candidates)
  | loadLease (index sequence : Nat) (rest : Candidates)
  | takeLease (index sequence : Nat) (rest : Candidates) (lease : Nat)
  | recheckReady (index sequence : Nat) (rest : Candidates)
  | recheckSequence (index sequence : Nat) (rest : Candidates)
  | loadActive (index sequence : Nat) (rest : Candidates)
  | loadContentGeneration (index sequence : Nat) (rest : Candidates) (active : Nat)
  /-- The plain reads that are left, and what was read. -/
  | read (view : SharedFrameView) (rest : Candidates) (left : List PlainField)
  | release (index : Nat) (rest : Candidates)
  | holding (view : SharedFrameView)
  | returnedNone
  | dropped (view : SharedFrameView)

def nextCandidate : Candidates → ReaderState
  | [] => .returnedNone
  | (index, sequence) :: rest => .tryReady index sequence rest

/-- The newest candidate first. -/
def sortCandidates (candidates : Candidates) : Candidates :=
  candidates.mergeSort fun left right => right.2 ≤ left.2

def nextScan (index : Nat) (candidates : Candidates) : ReaderState :=
  if index + 1 < ringSlotCount then .scanReady (index + 1) candidates
  else nextCandidate (sortCandidates candidates)

/-- The head of the loop that takes a lease. -/
def checkLease (index sequence : Nat) (rest : Candidates) (lease : Nat) : ReaderState :=
  if writerLease - 1 ≤ lease then nextCandidate rest else .takeLease index sequence rest lease

/-- The fields in the order of their reads. The checks come after the first three. -/
def readFields : List PlainField :=
  [.dataLength, .contentKind, .pixelFormat, .timestampUs, .width, .height, .stride, .rotation]

def SharedFrameView.valid (capacity : FrameCapacity) (view : SharedFrameView) : Prop :=
  view.plain .dataLength ≤ capacity.maxFrameBytes ∧ view.plain .pixelFormat = pixelFormatNv12 ∧
    SharedFrameKind.fromWire (view.plain .contentKind) ≠ none

instance (capacity : FrameCapacity) (view : SharedFrameView) :
    Decidable (view.valid capacity) := by
  unfold SharedFrameView.valid
  infer_instance

/-- `fetch_sub(1)` on a `u32`. -/
def fetchSub (slot : RingSlot) : RingSlot :=
  setReaderCount ((slot.readerCount + (2 ^ 32 - 1)) % 2 ^ 32) slot

/-- One step of a call. A compare-exchange that is weak may fail for no reason. -/
def readerStep (capacity : FrameCapacity) (m : RingMemory) (spurious : Bool) :
    ReaderState → RingMemory × ReaderState
  | .loadGeneration => (m, if m.contentGeneration = 0 then .returnedNone else .loadLatest)
  | .loadLatest => (m, if m.latestSequence = 0 then .returnedNone else .scanReady 0 [])
  | .scanReady index candidates =>
      (m, if (m.slots index).readyState = .done then .scanSequence index candidates
        else nextScan index candidates)
  | .scanSequence index candidates =>
      let sequence := (m.slots index).sequence
      (m, nextScan index (if sequence = 0 then candidates else candidates ++ [(index, sequence)]))
  | .tryReady index sequence rest =>
      (m, if (m.slots index).readyState = .done then .trySequence index sequence rest
        else nextCandidate rest)
  | .trySequence index sequence rest =>
      (m, if (m.slots index).sequence = sequence then .loadLease index sequence rest
        else nextCandidate rest)
  | .loadLease index sequence rest =>
      (m, checkLease index sequence rest (m.slots index).readerCount)
  | .takeLease index sequence rest lease =>
      if (m.slots index).readerCount = lease ∧ spurious = false then
        (m.updateSlot index (setReaderCount (lease + 1)), .recheckReady index sequence rest)
      else (m, checkLease index sequence rest (m.slots index).readerCount)
  | .recheckReady index sequence rest =>
      (m, if (m.slots index).readyState = .done then .recheckSequence index sequence rest
        else .release index rest)
  | .recheckSequence index sequence rest =>
      (m, if (m.slots index).sequence = sequence then .loadActive index sequence rest
        else .release index rest)
  | .loadActive index sequence rest =>
      (m, if m.contentGeneration = 0 then .release index rest
        else .loadContentGeneration index sequence rest m.contentGeneration)
  | .loadContentGeneration index sequence rest active =>
      (m, if (m.slots index).contentGeneration = active then
        .read ⟨index, sequence, fun _ => 0⟩ rest readFields else .release index rest)
  | .read view rest (field :: left) =>
      (m, .read { view with
        plain := Function.update view.plain field ((m.slots view.index).plain field) } rest left)
  | .read view rest [] =>
      (m, if view.valid capacity then .holding view else .release view.index rest)
  | .release index rest => (m.updateSlot index fetchSub, nextCandidate rest)
  | .holding view => (m, .holding view)
  | .returnedNone => (m, .returnedNone)
  | .dropped view => (m, .dropped view)

/-- `Drop` of a view. -/
def dropView (m : RingMemory) : ReaderState → RingMemory × ReaderState
  | .holding view => (m.updateSlot view.index fetchSub, .dropped view)
  | state => (m, state)

/-- The bytes that a view shows now. -/
def SharedFrameView.nv12 (m : RingMemory) (view : SharedFrameView) : Bytes :=
  (List.range (view.plain .dataLength)).map (m.slots view.index).pixels

/-! ## The content fence -/

def nextSignal (kind : SharedFrameKind) (signal : Nat) : Nat :=
  if signal = 0 then 0
  else
    let next := signal / 2 + 1
    if next ≤ (2 ^ 64 - 1) / 2 then next * 2 + kind.signalBit else 0

def nextGeneration (generation : Nat) : Nat :=
  if generation = 0 then 0 else if generation + 1 ≤ 2 ^ 64 - 1 then generation + 1 else 0

/-- Where `invalidate`, which looks for the kind first, or `invalidate_as` stands. -/
inductive InvalidatorState where
  | kindGeneration
  | kindSignal
  | loadSignal (kind : SharedFrameKind)
  | updateSignal (kind : SharedFrameKind) (current : Nat)
  | loadGeneration (kind : SharedFrameKind)
  | updateGeneration (kind : SharedFrameKind) (current : Nat)
  | returned (kind : SharedFrameKind) (generation : Nat)

/-- One step of a call. An exchange that is weak may fail for no reason. -/
def invalidatorStep (m : RingMemory) (spurious : Bool) :
    InvalidatorState → RingMemory × InvalidatorState
  | .kindGeneration =>
      (m, if m.contentGeneration = 0 then .loadSignal .placeholder else .kindSignal)
  | .kindSignal => (m, .loadSignal ((signalKind m.contentSignal).getD .placeholder))
  | .loadSignal kind => (m, .updateSignal kind m.contentSignal)
  | .updateSignal kind current =>
      if m.contentSignal = current ∧ spurious = false then
        ({ m with contentSignal := nextSignal kind current }, .loadGeneration kind)
      else (m, .updateSignal kind m.contentSignal)
  | .loadGeneration kind => (m, .updateGeneration kind m.contentGeneration)
  | .updateGeneration kind current =>
      if m.contentGeneration = current ∧ spurious = false then
        ({ m with contentGeneration := nextGeneration current },
          .returned kind (nextGeneration current))
      else (m, .updateGeneration kind m.contentGeneration)
  | .returned kind generation => (m, .returned kind generation)

/-! ## The ring and its users -/

structure ReaderCall where
  consumer : Nat
  /-- When the call began: the memory, the number of publish calls that had returned, and the
  sequence of the newest frame that could be read. -/
  began : RingMemory
  answered : Nat
  newest : Nat
  state : ReaderState

/-- A publish call that marked its slot as done. -/
structure Publication where
  call : PublishCall
  sequence : Nat
  /-- The signal when the call was admitted. -/
  signal : Nat
  /-- The generation when the slot was marked. -/
  generation : Nat

structure RingState where
  memory : RingMemory
  producer : ProducerState
  /-- The signal when the producer's call was admitted. -/
  admitted : Nat
  /-- The calls of `latest_frame`, in the order in which they began. -/
  readers : List ReaderCall
  invalidators : List InvalidatorState
  completed : List Publication
  /-- The publish calls that returned, with their answers. -/
  answers : List (PublishCall × RingPublishResult)

inductive RingStep where
  | publish (a : PublishCall)
  | producer
  | latestFrame (consumer : Nat)
  | reader (k : Nat) (spurious : Bool)
  | dropView (k : Nat)
  | invalidate
  | invalidateAs (kind : SharedFrameKind)
  | invalidator (k : Nat) (spurious : Bool)

namespace Ring

def new (m : RingMemory) : RingState where
  memory := m.initHeader
  producer := .idle
  admitted := 0
  readers := []
  invalidators := []
  completed := []
  answers := []

def signalAtAdmission (s : RingState) : Nat :=
  match s.producer with
  | .checkKindSignal _ => s.memory.contentSignal
  | _ => s.admitted

def marksDone (s : RingState) : List Publication :=
  match s.producer with
  | .storeReady a _ sequence => [⟨a, sequence, s.admitted, s.memory.contentGeneration⟩]
  | _ => []

def stepProducer (capacity : FrameCapacity) (s : RingState) : RingState :=
  let out := producerStep capacity s.memory s.producer
  { s with
    memory := out.memory
    producer := out.next
    admitted := signalAtAdmission s
    completed := s.completed ++ marksDone s
    answers := s.answers ++ out.answer.toList }

def onReader (s : RingState) (k : Nat) (f : RingMemory → ReaderState → RingMemory × ReaderState) :
    RingState :=
  match s.readers[k]? with
  | none => s
  | some call =>
      let out := f s.memory call.state
      { s with memory := out.1, readers := s.readers.set k { call with state := out.2 } }

def onInvalidator (s : RingState) (k : Nat) (spurious : Bool) : RingState :=
  match s.invalidators[k]? with
  | none => s
  | some state =>
      let out := invalidatorStep s.memory spurious state
      { s with memory := out.1, invalidators := s.invalidators.set k out.2 }

def returned : ReaderState → Bool
  | .holding _ | .returnedNone | .dropped _ => true
  | _ => false

/-- A consumer may take a lease on the slot and read a frame of the current generation. -/
def Available (s : RingState) (i : Nat) : Prop :=
  (s.memory.slots i).readyState = .done ∧ (s.memory.slots i).sequence ≠ 0 ∧
    (s.memory.slots i).contentGeneration = s.memory.contentGeneration ∧
      s.memory.contentGeneration ≠ 0 ∧ owned s.producer ≠ some i

instance (s : RingState) : DecidablePred (Available s) := by
  unfold Available
  infer_instance

/-- Zero, if there is no frame to read. -/
def newestSequence (s : RingState) : Nat :=
  if s.memory.latestSequence = 0 then 0
  else ((Finset.range ringSlotCount).filter (Available s)).sup fun i =>
    (s.memory.slots i).sequence

/-- A consumer makes one call after the other. -/
def calling (s : RingState) (consumer : Nat) : Bool :=
  s.readers.any fun call => call.consumer = consumer ∧ returned call.state = false

def isIdle : ProducerState → Bool
  | .idle => true
  | _ => false

def newCall (s : RingState) (consumer : Nat) : ReaderCall :=
  ⟨consumer, s.memory, s.answers.length, newestSequence s, .loadGeneration⟩

/-- A step of a thread that is not there changes nothing. -/
def ringStep (capacity : FrameCapacity) (s : RingState) : RingStep → RingState
  | .publish a =>
      if isIdle s.producer = true then { s with producer := .checkGeneration a } else s
  | .producer => stepProducer capacity s
  | .latestFrame consumer =>
      if calling s consumer = true then s
      else { s with readers := s.readers ++ [newCall s consumer] }
  | .reader k spurious => onReader s k fun m => readerStep capacity m spurious
  | .dropView k => onReader s k dropView
  | .invalidate => { s with invalidators := s.invalidators ++ [.kindGeneration] }
  | .invalidateAs kind => { s with invalidators := s.invalidators ++ [.loadSignal kind] }
  | .invalidator k spurious => onInvalidator s k spurious

end Ring

end PicooCamera.SharedRing
