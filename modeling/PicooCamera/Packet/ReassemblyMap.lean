import PicooCamera.Packet.ReassemblyFec

/-!
# Video fragment reassembly

The `ReassemblyMap` of the Receiver, operation by operation. Each operation
returns the map after the call also where the call reports an error.
-/

namespace PicooCamera.Packet

open PicooCamera.Library PicooCamera.Protocol

structure FrameKey where
  streamEpoch : Nat
  frameId : Nat
  deriving DecidableEq, Repr

namespace FrameKey

instance : Ord FrameKey :=
  ⟨compareLex (compareOn FrameKey.streamEpoch) (compareOn FrameKey.frameId)⟩

instance : Std.TransOrd FrameKey :=
  inferInstanceAs
    (Std.TransCmp (compareLex (compareOn FrameKey.streamEpoch) (compareOn FrameKey.frameId)))

instance : Std.LawfulEqOrd FrameKey where
  eq_of_compare {a b} h := by
    have hfields : compare a.streamEpoch b.streamEpoch = .eq ∧
        compare a.frameId b.frameId = .eq :=
      Ordering.then_eq_eq.mp h
    cases a
    cases b
    simpa using hfields

end FrameKey

structure AssembledAccessUnit where
  data : Bytes
  frameId : Nat
  ptsUs : Nat
  encodedAtUs : Nat
  keyframe : Bool
  discardable : Bool
  streamEpoch : Nat
  fragmentCount : Nat
  firstFragmentAt : Instant
  deriving DecidableEq, Repr

def u64Max : Nat := 2 ^ 64 - 1

def usizeMax : Nat := 2 ^ 64 - 1

/-- `u64::saturating_add`. -/
def saturatingAdd (total more : Nat) : Nat := min (total + more) u64Max

structure ReassemblyMap where
  maxFrames : Nat
  maxFragments : Nat
  currentEpoch : Nat
  expiredThroughFrameId : Option Nat
  frames : Std.ExtTreeMap FrameKey PartialFrame
  highestObservedFrameId : Option Nat
  /-- The instant at which each inferred gap was noticed. -/
  frameGaps : Std.ExtTreeMap Nat Instant
  rejectedFrames : Std.ExtTreeSet FrameKey
  terminalFrames : Std.ExtTreeSet FrameKey
  drops : Nat
  partialAccessUnitDrops : Nat
  wholeAccessUnitGapDrops : Nat
  missingFragments : Nat
  resolvedFragments : Nat
  fecRecoveredFragments : Nat
  fecGroupChecks : Nat
  fecRecoveryAttempts : Nat
  referenceLossPending : Bool
  keyframeLossPending : Bool
  maxFrames_pos : 1 ≤ maxFrames

abbrev IngestResult := Except ReassemblyError (Option AssembledAccessUnit)

namespace ReassemblyMap

def new (maxFrames maxFragments : Nat) : ReassemblyMap where
  maxFrames := max maxFrames 1
  maxFragments := maxFragments
  currentEpoch := 0
  expiredThroughFrameId := none
  frames := ∅
  highestObservedFrameId := none
  frameGaps := ∅
  rejectedFrames := ∅
  terminalFrames := ∅
  drops := 0
  partialAccessUnitDrops := 0
  wholeAccessUnitGapDrops := 0
  missingFragments := 0
  resolvedFragments := 0
  fecRecoveredFragments := 0
  fecGroupChecks := 0
  fecRecoveryAttempts := 0
  referenceLossPending := false
  keyframeLossPending := false
  maxFrames_pos := Nat.le_max_right _ _

/-- `max_frames.saturating_mul(2).max(1)`, the bound of the terminal cache and of gaps. -/
def cacheCapacity (m : ReassemblyMap) : Nat := max (min (m.maxFrames * 2) usizeMax) 1

/-! ## Bookkeeping -/

def resetPendingForEpoch (m : ReassemblyMap) : ReassemblyMap :=
  { m with
    frames := ∅
    highestObservedFrameId := none
    frameGaps := ∅
    expiredThroughFrameId := none
    rejectedFrames := ∅
    terminalFrames := ∅
    referenceLossPending := false
    keyframeLossPending := false }

/-- A packet or a stale batch of a newer epoch starts that epoch. -/
def enterEpoch (m : ReassemblyMap) (streamEpoch : Nat) : ReassemblyMap :=
  if m.currentEpoch < streamEpoch then
    { m.resetPendingForEpoch with currentEpoch := streamEpoch }
  else m

def oldestOf (keys : List FrameKey) : Option FrameKey := keys.argmin FrameKey.frameId

/-- The terminal key that makes room for another one, when the cache is full. -/
def terminalVictim (m : ReassemblyMap) : Option FrameKey :=
  if m.cacheCapacity ≤ m.terminalFrames.size then oldestOf m.terminalFrames.toList else none

def terminalAfter (m : ReassemblyMap) (key : FrameKey) : Std.ExtTreeSet FrameKey :=
  match m.terminalVictim with
  | some oldest => (m.terminalFrames.erase oldest).insert key
  | none => m.terminalFrames.insert key

def rememberTerminal (m : ReassemblyMap) (key : FrameKey) : ReassemblyMap :=
  { m with terminalFrames := m.terminalAfter key }

/-- The effect of losing an access unit with these flags on the prediction chain. -/
def flagLoss (m : ReassemblyMap) (flags : VideoPacketFlags) : ReassemblyMap :=
  { m with
    referenceLossPending := m.referenceLossPending || !flags.discardable
    keyframeLossPending := m.keyframeLossPending || flags.keyframe }

def recordIncompleteDrop (m : ReassemblyMap) (frame : PartialFrame) : ReassemblyMap :=
  { m.flagLoss frame.flags with
    missingFragments :=
      saturatingAdd m.missingFragments
        (frame.fragmentCount - frame.fragments.size % 2 ^ 16)
    resolvedFragments := saturatingAdd m.resolvedFragments frame.fragmentCount
    drops := saturatingAdd m.drops 1
    partialAccessUnitDrops := saturatingAdd m.partialAccessUnitDrops 1 }

/-- Drop a frame of the map as incomplete and remember it as terminal. -/
def abandonFrame (m : ReassemblyMap) (key : FrameKey) (frame : PartialFrame) :
    ReassemblyMap :=
  ({ m with frames := m.frames.erase key }.recordIncompleteDrop frame).rememberTerminal key

/-- The frame that `drop_oldest` evicts: the oldest that is no keyframe, else the oldest. -/
def evictionVictim (m : ReassemblyMap) : Option FrameKey :=
  (oldestOf (m.frames.filter fun _ frame => !frame.flags.keyframe).keys).or
    (oldestOf m.frames.keys)

def dropOldest (m : ReassemblyMap) : ReassemblyMap :=
  match m.evictionVictim with
  | none => m
  | some key =>
      match m.frames[key]? with
      | none => m.rememberTerminal key
      | some frame => m.abandonFrame key frame

/-- The rejected key that makes room for another one, when the set is full. -/
def rejectedVictim (m : ReassemblyMap) : Option FrameKey :=
  if max m.maxFrames 1 ≤ m.rejectedFrames.size then oldestOf m.rejectedFrames.toList else none

def dropOldestRejected (m : ReassemblyMap) : ReassemblyMap :=
  match m.rejectedVictim with
  | none => m
  | some key => { m with rejectedFrames := m.rejectedFrames.erase key }

/-- A frame with too many fragments is counted once and remembered as rejected. -/
def rejectFrame (m : ReassemblyMap) (key : FrameKey) (flags : VideoPacketFlags) :
    ReassemblyMap :=
  let m := m.dropOldestRejected
  if key ∈ m.rejectedFrames then m
  else
    { m.flagLoss flags with
      rejectedFrames := m.rejectedFrames.insert key
      drops := saturatingAdd m.drops 1 }

/-! ## Frame-id gaps -/

/-- `entry(missing_id).or_insert(now)` for each skipped id. -/
def insertGaps (gaps : Std.ExtTreeMap Nat Instant) (firstMissing frameId : Nat)
    (now : Instant) : Std.ExtTreeMap Nat Instant :=
  (List.range' firstMissing (frameId - firstMissing)).foldl
    (fun gaps missingId => gaps.insertIfNew missingId now) gaps

/-- The map after the packet's own gap is removed and the ids it skips are
tracked; the first component of the source's result is `frameGaps[frameId]?`. -/
def observeFrameId (m : ReassemblyMap) (frameId : Nat) (now : Instant) : ReassemblyMap :=
  let gaps := m.frameGaps.erase frameId
  match m.highestObservedFrameId with
  | none => { m with frameGaps := gaps, highestObservedFrameId := some frameId }
  | some highest =>
      if frameId ≤ highest then { m with frameGaps := gaps }
      else
        let firstMissing := highest + 1
        let missingCount := frameId - firstMissing
        if m.cacheCapacity < missingCount then
          { m with
            frameGaps := ∅
            expiredThroughFrameId := some (raiseBound m.expiredThroughFrameId (frameId - 1))
            referenceLossPending := true
            drops := saturatingAdd m.drops missingCount
            wholeAccessUnitGapDrops := saturatingAdd m.wholeAccessUnitGapDrops missingCount
            highestObservedFrameId := some frameId }
        else
          { m with
            frameGaps := insertGaps gaps firstMissing frameId now
            highestObservedFrameId := some frameId }

/-! ## Ingest -/

def keyOf (packet : VideoPacket) : FrameKey := ⟨packet.streamEpoch, packet.frameId⟩

def newFrame (packet : VideoPacket) (firstFragmentAt : Instant) : PartialFrame :=
  let fecState := buildFecState packet.fragmentCount
  { fragments := ∅
    fecGroups := fecState.1
    fragmentGroups := fecState.2
    fragmentCount := packet.fragmentCount
    flags := packet.flags
    ptsUs := packet.ptsUs
    encodedAtUs := packet.encodedAtUs
    firstFragmentAt := firstFragmentAt }

/-- Store the payload of a packet in its frame; an early return of `ingest_at`
is the `error` case. -/
def storePacket (frame : PartialFrame) (packet : VideoPacket) :
    Except IngestResult (PartialFrame × Nat) :=
  if packet.flags.fecParity then
    match frame.storeParityShard packet.fragmentIndex packet.payload with
    | .ok stored => .ok stored
    | .error error => .error (.error error)
  else if packet.fragmentIndex ∈ frame.fragments then
    -- A systematic fragment may arrive after parity already rebuilt it.
    if frame.isRecoveredFragment packet.fragmentIndex then .error (.ok none)
    else .error (.error .duplicateFragment)
  else
    .ok ({ frame with
      fragments := frame.fragments.insert packet.fragmentIndex packet.payload
      }.markDataPresent packet.fragmentIndex)

def countRecovery (m : ReassemblyMap) (outcome : PartialFrame.RecoveryOutcome) :
    ReassemblyMap :=
  { m with
    fecRecoveredFragments := saturatingAdd m.fecRecoveredFragments outcome.recovered
    fecGroupChecks := saturatingAdd m.fecGroupChecks outcome.checked.toNat
    fecRecoveryAttempts := saturatingAdd m.fecRecoveryAttempts outcome.attempted.toNat }

/-- The fragments in index order; `none` if one is missing. -/
def assemble (frame : PartialFrame) : Option Bytes :=
  ((List.range frame.fragmentCount).mapM fun index => frame.fragments[index]?).map
    List.flatten

/-- The end of `ingest_at`: return the access unit once all fragments are there. -/
def finishFrame (m : ReassemblyMap) (key : FrameKey) (frame : PartialFrame) :
    IngestResult × ReassemblyMap :=
  if frame.fragments.size % 2 ^ 16 ≠ frame.fragmentCount then
    (.ok none, { m with frames := m.frames.insert key frame })
  else
    match assemble frame with
    | none => (.ok none, m.abandonFrame key frame)
    | some data =>
        let m := { m with frames := m.frames.erase key }.rememberTerminal key
        (.ok (some {
          data := data
          frameId := key.frameId
          ptsUs := frame.ptsUs
          encodedAtUs := frame.encodedAtUs
          keyframe := frame.flags.keyframe
          discardable := frame.flags.discardable
          streamEpoch := key.streamEpoch
          fragmentCount := frame.fragmentCount
          firstFragmentAt := frame.firstFragmentAt }),
        { m with
          resolvedFragments := saturatingAdd m.resolvedFragments frame.fragmentCount })

/-- A packet that passed the checks meets its frame, which it may create. -/
def acceptPacket (codecs : Codecs) (m : ReassemblyMap) (packet : VideoPacket)
    (firstFragmentAt : Instant) : IngestResult × ReassemblyMap :=
  let key := keyOf packet
  let entry := m.frames[key]?.getD (newFrame packet firstFragmentAt)
  if entry.fragmentCount ≠ packet.fragmentCount then
    (.ok none, m.abandonFrame key entry)
  else if entry.ptsUs ≠ packet.ptsUs ∨ entry.encodedAtUs ≠ packet.encodedAtUs ∨
      entry.flags.semantic ≠ packet.flags.semantic then
    (.error .inconsistentFrameMetadata, m.abandonFrame key entry)
  else
    match storePacket entry packet with
    | .error result => (result, { m with frames := m.frames.insert key entry })
    | .ok (stored, groupIx) =>
        let outcome := stored.recoverAffectedGroup codecs groupIx
        (m.countRecovery outcome).finishFrame key outcome.frame

def makeRoom (m : ReassemblyMap) (key : FrameKey) : ReassemblyMap :=
  if m.maxFrames ≤ m.frames.size ∧ key ∉ m.frames then m.dropOldest else m

/-- `Some` error where a parity datagram fails `validate_parity_shard`. -/
def parityError (packet : VideoPacket) : Option ReassemblyError :=
  if packet.flags.fecParity then
    match validateParityShard packet.fragmentCount packet.fragmentIndex packet.payload with
    | .error error => some error
    | .ok () => none
  else none

/-- `ingest_at` for a packet of the current epoch whose frame id has been observed. -/
def admitPacket (codecs : Codecs) (m : ReassemblyMap) (packet : VideoPacket)
    (firstFragmentAt : Instant) : IngestResult × ReassemblyMap :=
  let key := keyOf packet
  if atOrBelow m.expiredThroughFrameId packet.frameId ∨ key ∈ m.terminalFrames then
    (.ok none, m)
  else if key ∈ m.rejectedFrames then
    (.error .tooManyFragments, m)
  else if m.maxFragments < packet.fragmentCount then
    (.error .tooManyFragments, m.rejectFrame key packet.flags)
  else
    match parityError packet with
    | some error => (.error error, m.makeRoom key)
    | none => acceptPacket codecs (m.makeRoom key) packet firstFragmentAt

def ingestAt (codecs : Codecs) (m : ReassemblyMap) (packet : VideoPacket) (now : Instant) :
    IngestResult × ReassemblyMap :=
  if packet.streamEpoch < m.currentEpoch then (.ok none, m)
  else
    let m := m.enterEpoch packet.streamEpoch
    let firstFragmentAt := m.frameGaps[packet.frameId]?.getD now
    admitPacket codecs (m.observeFrameId packet.frameId now) packet firstFragmentAt

/-! ## The other operations -/

/-- The boundary that `clear_pending` leaves. -/
def clearedThrough (m : ReassemblyMap) : Option Nat :=
  match maxOf (m.frames.keys.map FrameKey.frameId ++ m.frameGaps.keys) with
  | none => m.expiredThroughFrameId
  | some latest => some (raiseBound m.expiredThroughFrameId latest)

/-- `clear_pending`, where `abandoned` is the order in which the hash map drains. -/
def clearPendingIn (m : ReassemblyMap) (abandoned : List FrameKey) : ReassemblyMap :=
  abandoned.foldl rememberTerminal
    { m with frames := ∅, frameGaps := ∅, expiredThroughFrameId := m.clearedThrough }

def clearPending (m : ReassemblyMap) : ReassemblyMap := m.clearPendingIn m.frames.keys

/-- Discard one frame as stale: its loss is flagged by the flags of its partial frame, or
else by those of the stale batch. -/
def discardFrame (m : ReassemblyMap) (key : FrameKey) (flags : VideoPacketFlags) :
    ReassemblyMap :=
  let effectiveFlags := (m.frames[key]?.map PartialFrame.flags).getD flags
  { m.flagLoss effectiveFlags with
    frames := m.frames.erase key
    frameGaps := m.frameGaps.erase key.frameId
    rejectedFrames := m.rejectedFrames.erase key
    terminalFrames := m.terminalAfter key
    expiredThroughFrameId := some (raiseBound m.expiredThroughFrameId key.frameId) }

/-- Abandon one access unit whose queue age exceeded the media deadline. -/
def discardStaleAccessUnit (m : ReassemblyMap) (streamEpoch frameId : Nat)
    (flags : VideoPacketFlags) : Bool × ReassemblyMap :=
  if streamEpoch < m.currentEpoch then (false, m)
  else
    let m := m.enterEpoch streamEpoch
    let key : FrameKey := ⟨streamEpoch, frameId⟩
    if atOrBelow m.expiredThroughFrameId frameId ∨ key ∈ m.terminalFrames then (false, m)
    else (true, m.discardFrame key flags)

/-- `Instant::checked_sub`. -/
def checkedSub (now : Instant) (maxAge : Duration) : Option Instant :=
  if maxAge ≤ now then some (now - maxAge) else none

/-- The newest frame id, partial or gap, whose deadline has passed. -/
def expiredThrough (m : ReassemblyMap) (deadline : Instant) : Option Nat :=
  maxOf
    (((m.frames.filter fun _ frame => frame.firstFragmentAt ≤ deadline).keys.map
      FrameKey.frameId) ++
      (m.frameGaps.filter fun _ noticedAt => noticedAt ≤ deadline).keys)

/-- Remove one expired frame and count it as dropped. -/
def expireFrame (m : ReassemblyMap) (key : FrameKey) : ReassemblyMap :=
  match m.frames[key]? with
  | none => m
  | some frame => { m with frames := m.frames.erase key }.recordIncompleteDrop frame

/-- Drop all gaps at or below `through`. -/
def expireGaps (m : ReassemblyMap) (through : Nat) : ReassemblyMap :=
  let expired := (m.frameGaps.filter fun id _ => id ≤ through).size
  if expired = 0 then m
  else
    { m with
      frameGaps := m.frameGaps.filter fun id _ => ¬ id ≤ through
      referenceLossPending := true
      drops := saturatingAdd m.drops expired
      wholeAccessUnitGapDrops := saturatingAdd m.wholeAccessUnitGapDrops expired }

def expireThrough (m : ReassemblyMap) (through : Nat) : ReassemblyMap :=
  let expired := m.frames.keys.filter fun key => key.frameId ≤ through
  let m := (expired.foldl expireFrame m).expireGaps through
  { m with
    expiredThroughFrameId := some (raiseBound m.expiredThroughFrameId through)
    rejectedFrames := m.rejectedFrames.filter fun key => through < key.frameId }

def expireIncompleteOlderThan (m : ReassemblyMap) (now : Instant) (maxAge : Duration) :
    ReassemblyMap :=
  match checkedSub now maxAge with
  | none => m
  | some deadline =>
      match m.expiredThrough deadline with
      | none => m
      | some through => m.expireThrough through

def takeKeyframeLoss (m : ReassemblyMap) : Bool × ReassemblyMap :=
  (m.keyframeLossPending, { m with keyframeLossPending := false })

def takeReferenceChainLoss (m : ReassemblyMap) : Bool × ReassemblyMap :=
  (m.referenceLossPending,
    { m with
      referenceLossPending := false
      keyframeLossPending := m.keyframeLossPending && !m.referenceLossPending })

/-! ## Queries -/

def oldestUnresolvedFrameId (m : ReassemblyMap) : Option Nat :=
  (m.frames.keys.map FrameKey.frameId ++ m.frameGaps.keys).min?

def nextExpirationAt (m : ReassemblyMap) (maxAge : Duration) : Option Instant :=
  (m.frames.values.map (fun frame => frame.firstFragmentAt + maxAge) ++
    m.frameGaps.values.map (fun noticedAt => noticedAt + maxAge)).min?

end ReassemblyMap

end PicooCamera.Packet
