import PicooCamera.Protocol.VideoFec
import PicooCamera.Library.OrderedMap

/-!
# Partial access units and their FEC groups

One `PartialFrame` holds the fragments of an access unit that has not been
completed, and for each FEC group the masks of present and recovered fragments
and the parity shards received so far.
-/

namespace PicooCamera.Packet

open PicooCamera.Library PicooCamera.Protocol

/-- Monotonic instants and durations, in microseconds. -/
abbrev Instant := Nat

abbrev Duration := Nat

inductive ReassemblyError where
  | tooManyFragments
  | duplicateFragment
  | epochMismatch
  | invalidFecParity
  | inconsistentFrameMetadata
  deriving DecidableEq, Repr

structure StoredParityShard where
  lastDataLen : Nat
  bytes : Bytes
  deriving DecidableEq, Repr

structure FecGroupState where
  range : FragmentRange
  presentMask : BitVec 8
  recoveredMask : BitVec 8
  parityShards : List (Option StoredParityShard)
  deriving DecidableEq, Repr

structure PartialFrame where
  fragments : Std.ExtTreeMap Nat Bytes
  fecGroups : List FecGroupState
  fragmentGroups : List Nat
  fragmentCount : Nat
  flags : VideoPacketFlags
  ptsUs : Nat
  encodedAtUs : Nat
  firstFragmentAt : Instant

/-- `1_u8 << offset`. -/
def maskBit (offset : Nat) : BitVec 8 := 1#8 <<< offset

/-- `u8::count_ones`. -/
def countOnes (mask : BitVec 8) : Nat := (List.range 8).countP mask.getLsbD

/-! ## Building the groups -/

def assignGroup (groups : List Nat) (groupIx : Nat) (range : FragmentRange) : List Nat :=
  range.indices.foldl (fun groups index => groups.set index groupIx) groups

def emptyGroup (range : FragmentRange) : FecGroupState where
  range := range
  presentMask := 0
  recoveredMask := 0
  parityShards := List.replicate fecParityShards none

def buildFecState (fragmentCount : Nat) : List FecGroupState × List Nat :=
  let ranges := fecGroupRanges fragmentCount
  (ranges.map emptyGroup,
    ranges.zipIdx.foldl (fun groups entry => assignGroup groups entry.2 entry.1)
      (List.replicate fragmentCount 0))

/-! ## Parity shards -/

def parityIndex (payload : Bytes) : Nat := peekBE 1 payload

def parityLastDataLen (payload : Bytes) : Nat := peekBE 2 (payload.drop 1)

def parityBytes (payload : Bytes) : Bytes := payload.drop fecParityPrefixSize

def validateParityShard (fragmentCount groupStart : Nat) (payload : Bytes) :
    Except ReassemblyError Unit :=
  if payload.length ≤ fecParityPrefixSize then .error .invalidFecParity
  else if fecParityShards ≤ parityIndex payload then .error .invalidFecParity
  else if parityLastDataLen payload = 0 ∨
      (parityBytes payload).length < parityLastDataLen payload ∨
      maxFecFragmentPayload < (parityBytes payload).length then
    .error .invalidFecParity
  else
    match fecGroupForFragment fragmentCount groupStart with
    | some group =>
        if group.start = groupStart ∧ 2 ≤ group.len then .ok ()
        else .error .invalidFecParity
    | none => .error .invalidFecParity

namespace PartialFrame

/-- The group whose parity a shard with this group start protects. -/
def parityGroup (frame : PartialFrame) (groupStart : Nat) : Option (Nat × FecGroupState) := do
  let groupIx ← frame.fragmentGroups[groupStart]?
  let group ← frame.fecGroups[groupIx]?
  if group.range.start = groupStart ∧ 2 ≤ group.range.len then some (groupIx, group) else none

/-- The frame with the shard stored, and the index of its group. -/
def storeParityShard (frame : PartialFrame) (groupStart : Nat) (payload : Bytes) :
    Except ReassemblyError (PartialFrame × Nat) :=
  match frame.parityGroup groupStart with
  | none => .error .invalidFecParity
  | some (groupIx, group) =>
      if (group.parityShards[parityIndex payload]?.getD none).isSome then
        .error .duplicateFragment
      else
        let stored : StoredParityShard := ⟨parityLastDataLen payload, parityBytes payload⟩
        .ok ({ frame with
          fecGroups := frame.fecGroups.set groupIx
            { group with
              parityShards := group.parityShards.set (parityIndex payload) (some stored) } },
          groupIx)

/-! ## Data fragments -/

def groupOf (frame : PartialFrame) (fragmentIndex : Nat) : Option (Nat × FecGroupState) := do
  let groupIx ← frame.fragmentGroups[fragmentIndex]?
  let group ← frame.fecGroups[groupIx]?
  some (groupIx, group)

/-- The frame with the fragment marked present, and the index of its group. -/
def markDataPresent (frame : PartialFrame) (fragmentIndex : Nat) : PartialFrame × Nat :=
  match frame.groupOf fragmentIndex with
  | none => (frame, 0)
  | some (groupIx, group) =>
      ({ frame with
        fecGroups := frame.fecGroups.set groupIx
          { group with
            presentMask :=
              group.presentMask ||| maskBit (fragmentIndex - group.range.start) } },
        groupIx)

def isRecoveredFragment (frame : PartialFrame) (fragmentIndex : Nat) : Bool :=
  match frame.groupOf fragmentIndex with
  | none => false
  | some (_, group) =>
      group.recoveredMask &&& maskBit (fragmentIndex - group.range.start) != 0

/-! ## Recovery -/

/-- What the recovery loop has inserted, which bits it set, and how many. -/
structure Recovered where
  fragments : Std.ExtTreeMap Nat Bytes
  mask : BitVec 8
  total : Nat

def insertRecovered (range : FragmentRange) (missingMask : BitVec 8) (state : Recovered)
    (entry : Option Shard × Nat) : Recovered :=
  if missingMask &&& maskBit entry.2 = 0 then state
  else
    match entry.1 with
    | none => state
    | some shard =>
        { fragments := state.fragments.insert (range.start + entry.2) shard
          mask := state.mask ||| maskBit entry.2
          total := state.total + 1 }

/-- Result of `recover_affected_group`: the frame, the number of recovered
fragments, whether the group was checked and whether recovery was attempted. -/
structure RecoveryOutcome where
  frame : PartialFrame
  recovered : Nat
  checked : Bool
  attempted : Bool

def missingMask (group : FecGroupState) : BitVec 8 :=
  (maskBit group.range.len - 1) &&& ~~~ group.presentMask

/-- The common last-shard length of the stored parity shards, when they agree. -/
def agreedLastDataLen (group : FecGroupState) : Option Nat :=
  match group.parityShards.filterMap id with
  | [] => none
  | shard :: shards =>
      if shards.all (fun other => other.lastDataLen = shard.lastDataLen) then
        some shard.lastDataLen
      else none

def recoverAffectedGroup (codecs : Codecs) (frame : PartialFrame) (groupIx : Nat) :
    RecoveryOutcome :=
  match frame.fecGroups[groupIx]? with
  | none => ⟨frame, 0, false, false⟩
  | some group =>
      if group.range.len < 2 then ⟨frame, 0, false, false⟩
      else
        let missing := missingMask group
        if countOnes missing = 0 ∨ fecParityShards < countOnes missing then
          ⟨frame, 0, true, false⟩
        else if group.parityShards.countP Option.isSome < countOnes missing then
          ⟨frame, 0, true, false⟩
        else
          match agreedLastDataLen group with
          | none => ⟨frame, 0, true, false⟩
          | some lastDataLen =>
              let data := group.range.indices.map (frame.fragments[·]?)
              let parity := group.parityShards.map (Option.map StoredParityShard.bytes)
              match reconstructFecGroup codecs data parity lastDataLen with
              | none => ⟨frame, 0, true, true⟩
              | some rebuilt =>
                  let recovered := rebuilt.zipIdx.foldl (insertRecovered group.range missing)
                    ⟨frame.fragments, 0, 0⟩
                  ⟨{ frame with
                    fragments := recovered.fragments
                    fecGroups := frame.fecGroups.set groupIx
                      { group with
                        presentMask := group.presentMask ||| recovered.mask
                        recoveredMask := group.recoveredMask ||| recovered.mask } },
                  recovered.total, true, true⟩

end PartialFrame

end PicooCamera.Packet
