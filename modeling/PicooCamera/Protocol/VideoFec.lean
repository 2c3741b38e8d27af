import PicooCamera.Protocol.VideoPacket

/-!
# Reed-Solomon erasure protection of video fragments

Each group holds up to six data shards and two parity shards. The codec itself
is a third-party crate: `ReedSolomon` is its interface, and the functions here
take the table of codecs as a parameter.
-/

namespace PicooCamera.Protocol

open PicooCamera.Library

def fecDataShards : Nat := 6

def fecParityShards : Nat := 2

/-- `Range<u16>` of fragment indices. -/
structure FragmentRange where
  start : Nat
  stop : Nat
  deriving DecidableEq, Repr

namespace FragmentRange

def len (range : FragmentRange) : Nat := range.stop - range.start

def indices (range : FragmentRange) : List Nat := List.range' range.start range.len

theorem mem_indices {range : FragmentRange} {index : Nat} :
    index ∈ range.indices ↔ range.start ≤ index ∧ index < range.stop := by
  simp only [indices, len, List.mem_range'_1]
  omega

@[simp] theorem length_indices (range : FragmentRange) :
    range.indices.length = range.len := by
  simp [indices]

end FragmentRange

/-! ## Groups -/

/-- `div_ceil` by the number of data shards of a group. -/
def fecGroupCount (fragmentCount : Nat) : Nat :=
  (fragmentCount + fecDataShards - 1) / fecDataShards

/-- The loop of `fec_group_ranges` from group `groupIndex` on, `fuel` groups to go. -/
def fecGroupRangesFrom (baseSize largerGroups : Nat) :
    Nat → Nat → Nat → List FragmentRange
  | 0, _, _ => []
  | fuel + 1, groupIndex, start =>
      let size := baseSize + (if groupIndex < largerGroups then 1 else 0)
      ⟨start, start + size⟩ ::
        fecGroupRangesFrom baseSize largerGroups fuel (groupIndex + 1) (start + size)

/-- Partition data fragments into balanced groups of at most six shards. -/
def fecGroupRanges (fragmentCount : Nat) : List FragmentRange :=
  if fragmentCount = 0 then []
  else
    let groupCount := fecGroupCount fragmentCount
    fecGroupRangesFrom (fragmentCount / groupCount) (fragmentCount % groupCount)
      groupCount 0 0

/-- The balanced group of one data fragment, without walking every group. -/
def fecGroupForFragment (fragmentCount fragmentIndex : Nat) : Option FragmentRange :=
  if fragmentCount = 0 ∨ fragmentCount ≤ fragmentIndex then none
  else
    let groupCount := fecGroupCount fragmentCount
    let baseSize := fragmentCount / groupCount
    let largerGroups := fragmentCount % groupCount
    let largerSize := baseSize + 1
    let largerSpan := largerGroups * largerSize
    if fragmentIndex < largerSpan then
      let groupIndex := fragmentIndex / largerSize
      let start := groupIndex * largerSize
      some ⟨start, start + largerSize⟩
    else
      let groupIndex := largerGroups + (fragmentIndex - largerSpan) / baseSize
      let start := largerSpan + (groupIndex - largerGroups) * baseSize
      some ⟨start, start + baseSize⟩

/-! ## Codec -/

abbrev Shard := Bytes

/-- One codec of the third-party crate, `ReedSolomon::new(data, parity)`;
`none` stands for the crate's errors. -/
structure ReedSolomon where
  encodeSep : List Shard → Option (List Shard)
  reconstructData : List (Option Shard) → Option (List (Option Shard))

/-- The codecs by number of data and of parity shards. -/
abbrev Codecs := Nat → Nat → ReedSolomon

def fecCodec (codecs : Codecs) (dataShards parityShards : Nat) : Option ReedSolomon :=
  if 2 ≤ dataShards ∧ dataShards ≤ fecDataShards ∧
      1 ≤ parityShards ∧ parityShards ≤ fecParityShards then
    some (codecs dataShards parityShards)
  else none

/-- `vec![0; len]` with `bytes` copied to its front. -/
def padTo (len : Nat) (bytes : Shard) : Shard :=
  bytes ++ List.replicate (len - bytes.length) 0

def maxLength (shards : List Shard) : Nat :=
  (shards.map List.length).foldl max 0

/-- The parity shards and the length of the last data shard. -/
def encodeFecParity (codecs : Codecs) (data : List Shard) (parityCount : Nat) :
    Option (Nat × List Shard) :=
  if ¬ (2 ≤ data.length ∧ data.length ≤ fecDataShards) then none
  else if ¬ (1 ≤ parityCount ∧ parityCount ≤ fecParityShards) then none
  else do
    let shardLen := maxLength data
    let last ← data.getLast?
    -- `u16::try_from` of the last shard's length
    if 256 ^ 2 ≤ last.length then none
    else
      let codec ← fecCodec codecs data.length parityCount
      let parity ← codec.encodeSep (data.map (padTo shardLen))
      some (last.length, parity)

/-- Reconstruct the missing data shards of one group. -/
def reconstructFecGroup (codecs : Codecs) (data parity : List (Option Shard))
    (lastDataLen : Nat) : Option (List (Option Shard)) :=
  if ¬ (2 ≤ data.length ∧ data.length ≤ fecDataShards) ∨
      parity.length ≠ fecParityShards then none
  else
    let missing := data.countP Option.isNone
    let availableParity := parity.countP Option.isSome
    if missing = 0 ∨ availableParity < missing then none
    else
      let shardLen := maxLength ((data ++ parity).filterMap id)
      if shardLen < lastDataLen then none
      else do
        let shards := (data ++ parity).map (Option.map (padTo shardLen))
        let codec ← fecCodec codecs data.length fecParityShards
        let rebuilt ← codec.reconstructData shards
        some ((rebuilt.take data.length).mapIdx fun index shard =>
          if index + 1 = data.length then shard.map (List.take lastDataLen) else shard)

end PicooCamera.Protocol
