import PicooCamera.Library.BigEndian
import PicooCamera.Library.Raster
import PicooCamera.Packet.ReassemblyMap

/-!
# The NV12 orientation transform

The rotation and the mirror of an NV12 frame, as one mapping from the cells of
the output to those of the source, for the luma plane and for the plane of the
chroma pairs.
-/

namespace PicooCamera.FrameHub

open PicooCamera.Library
open PicooCamera.Packet (saturatingAdd)

/-- An NV12 frame. -/
structure TransformedNv12 where
  width : UInt32
  height : UInt32
  stride : UInt32
  pixels : Bytes
  deriving DecidableEq, Repr

inductive Nv12TransformError where
  | invalidDimensions (width height : UInt32)
  | invalidStride (width stride : UInt32)
  | bufferTooSmall (required actual : Nat)
  | sizeOverflow
  deriving DecidableEq, Repr

/-- Why a call returns no frame: its error, or a panic. -/
inductive Nv12Failure where
  | refused (error : Nv12TransformError)
  | panicked
  deriving DecidableEq, Repr

/-! ## Buffers -/

def usizeLimit : Nat := 2 ^ 64

/-- `checked_mul`, `checked_add` and the like. -/
def checkedUsize (n : Nat) : Option Nat := if n < usizeLimit then some n else none

-- An index that overflows is beyond the end of every buffer.
def readIndex (bytes : Bytes) (i : Nat) : Except Nv12Failure UInt8 :=
  (bytes[i]?).elim (.error .panicked) .ok

def writeIndex (bytes : Bytes) (i : Nat) (value : UInt8) : Except Nv12Failure Bytes :=
  if i < bytes.length then .ok (bytes.set i value) else .error .panicked

/-- `length - 1 - i` -/
def lastMinus (length i : Nat) : Except Nv12Failure Nat :=
  if i < length then .ok (length - 1 - i) else .error .panicked

/-- A retained vector, whose capacity is at least its length. -/
structure PixelStorage where
  bytes : Bytes
  capacity : Nat
  fits : bytes.length ≤ capacity

structure PoolState where
  buffers : List PixelStorage
  retainedBytes : Nat
  allocations : Nat
  reuses : Nat

/-- `min_by_key`, of the first where several are least. -/
def smallestBuffer (buffers : List (PixelStorage × Nat)) : Option (PixelStorage × Nat) :=
  buffers.foldl (fun best buffer => best.elim (some buffer) fun held =>
    some (if buffer.1.capacity < held.1.capacity then buffer else held)) none

/-- `max_by_key`, of the last where several are greatest. -/
def largestBuffer (buffers : List (PixelStorage × Nat)) : Option (PixelStorage × Nat) :=
  buffers.foldl (fun best buffer => best.elim (some buffer) fun held =>
    some (if held.1.capacity ≤ buffer.1.capacity then buffer else held)) none

def swapRemove (buffers : List PixelStorage) (index : Nat) : List PixelStorage :=
  (buffers.getLast?.elim buffers (buffers.set index)).dropLast

def takeBestFit (state : PoolState) (length : Nat) : Option PixelStorage × PoolState :=
  let indexed := state.buffers.zipIdx
  let fitting := indexed.filter fun buffer => length ≤ buffer.1.capacity
  let chosen := (smallestBuffer fitting).orElse fun _ => largestBuffer indexed
  chosen.elim (none, state) fun found =>
    (some found.1, { state with
      buffers := swapRemove state.buffers found.2
      retainedBytes := state.retainedBytes - found.1.capacity })

/-- `storage.resize(length, 0)` -/
def resize (bytes : Bytes) (length : Nat) : Bytes :=
  (bytes ++ List.replicate (length - bytes.length) 0).take length

def PoolState.checkout (state : PoolState) (length : Nat) : Bytes × PoolState :=
  let taken := takeBestFit state length
  taken.1.elim
    (List.replicate length 0, { taken.2 with allocations := saturatingAdd taken.2.allocations 1 })
    fun storage =>
      (resize storage.bytes length, { taken.2 with reuses := saturatingAdd taken.2.reuses 1 })

/-! ## The transform -/

def normalizeRotationDegrees (degrees : UInt32) : UInt32 :=
  let r := degrees % 360
  if r = 0 then 0
  else if 45 ≤ r ∧ r < 135 then 90
  else if 135 ≤ r ∧ r < 225 then 180
  else if 225 ≤ r ∧ r < 315 then 270
  else 0

def nv12ByteSize (width height : UInt32) : Except Nv12Failure Nat :=
  (checkedUsize (width.toNat * height.toNat * 3)).elim (.error .panicked) fun n => .ok (n / 2)

def validateLayout (width height stride : UInt32) (actual : Nat) :
    Except Nv12TransformError Nat :=
  if width = 0 ∨ height = 0 ∨ ¬ width.toNat % 2 = 0 ∨ ¬ height.toNat % 2 = 0 then
    .error (.invalidDimensions width height)
  else if stride < width then .error (.invalidStride width stride)
  else
    ((checkedUsize (stride.toNat * height.toNat)).bind fun yBytes =>
      checkedUsize (yBytes + yBytes / 2)).elim (.error .sizeOverflow) fun required =>
        if actual < required then .error (.bufferTooSmall required actual) else .ok required

def mapOutputToSource (rotation : UInt32) (outputX outputY sourceWidth sourceHeight : Nat) :
    Except Nv12Failure (Nat × Nat) :=
  if rotation = 0 then .ok (outputX, outputY)
  else if rotation = 90 then do
    let sourceY ← lastMinus sourceHeight outputX
    .ok (outputY, sourceY)
  else if rotation = 180 then do
    let sourceX ← lastMinus sourceWidth outputX
    let sourceY ← lastMinus sourceHeight outputY
    .ok (sourceX, sourceY)
  else if rotation = 270 then do
    let sourceX ← lastMinus sourceWidth outputY
    .ok (sourceX, outputX)
  else .error .panicked

/-- The cell of the source that is shown at a cell of the output, in either plane. -/
def sourceCell (rotation : UInt32) (mirrored : Bool) (outWidth width height outputX outputY : Nat) :
    Except Nv12Failure (Nat × Nat) := do
  let rotatedX ← if mirrored then lastMinus outWidth outputX else .ok outputX
  mapOutputToSource rotation rotatedX outputY width height

def copyLuma (rotation : UInt32) (mirrored : Bool) (width height stride outWidth outStride : Nat)
    (pixels output : Bytes) (outputX outputY : Nat) : Except Nv12Failure Bytes := do
  let source ← sourceCell rotation mirrored outWidth width height outputX outputY
  let value ← readIndex pixels (source.2 * stride + source.1)
  writeIndex output (outputY * outStride + outputX) value

-- Whole pairs are copied, so that the two samples of a pair keep their order.
def copyChroma (rotation : UInt32) (mirrored : Bool)
    (chromaWidth chromaHeight stride outWidth outStride sourceYBytes outputYBytes : Nat)
    (pixels output : Bytes) (outputX outputY : Nat) : Except Nv12Failure Bytes := do
  let cell ← sourceCell rotation mirrored outWidth chromaWidth chromaHeight outputX outputY
  let source := cell.2 * stride + cell.1 * 2 + sourceYBytes
  let destination := outputY * outStride + outputX * 2 + outputYBytes
  let u ← readIndex pixels source
  let v ← readIndex pixels (source + 1)
  let output ← writeIndex output destination u
  writeIndex output (destination + 1) v

/-- The two loops, over an output of any content. -/
def transformPlanes (rotation : UInt32) (mirrored : Bool)
    (width height stride outWidth outHeight : Nat) (pixels output : Bytes) :
    Except Nv12Failure Bytes := do
  let output ← scan outWidth outHeight
    (copyLuma rotation mirrored width height stride outWidth outWidth pixels) output
  scan (outWidth / 2) (outHeight / 2)
    (copyChroma rotation mirrored (width / 2) (height / 2) stride (outWidth / 2) outWidth
      (stride * height) (outWidth * outHeight) pixels) output

/-- The storage of the output: of the pool, or new. -/
def outputStorage (pool : Option PoolState) (length : Nat) : Bytes × Option PoolState :=
  pool.elim (List.replicate length 0, none) fun state =>
    ((state.checkout length).1, some (state.checkout length).2)

def transformNv12Impl (width height stride rotationDegrees : UInt32) (mirrored : Bool)
    (pixels : Bytes) (pool : Option PoolState) :
    Except Nv12Failure TransformedNv12 × Option PoolState :=
  match validateLayout width height stride pixels.length with
  | .error error => (.error (.refused error), pool)
  | .ok required =>
      let pixels := pixels.take required
      let rotation := normalizeRotationDegrees rotationDegrees
      if rotation = 0 ∧ mirrored = false then (.ok ⟨width, height, stride, pixels⟩, pool)
      else
        let turned := rotation = 90 ∨ rotation = 270
        let outWidth := if turned then height else width
        let outHeight := if turned then width else height
        match nv12ByteSize outWidth outHeight with
        | .error failure => (.error failure, pool)
        | .ok outputSize =>
            let storage := outputStorage pool outputSize
            ((transformPlanes rotation mirrored width.toNat height.toNat stride.toNat
                outWidth.toNat outHeight.toNat pixels storage.1).map fun output =>
              ⟨outWidth, outHeight, outWidth, output⟩, storage.2)

def transformNv12 (width height stride rotationDegrees : UInt32) (mirrored : Bool)
    (pixels : Bytes) : Except Nv12Failure TransformedNv12 :=
  (transformNv12Impl width height stride rotationDegrees mirrored pixels none).1

def transformNv12WithPool (width height stride rotationDegrees : UInt32) (mirrored : Bool)
    (pixels : Bytes) (pool : PoolState) :
    Except Nv12Failure TransformedNv12 × Option PoolState :=
  transformNv12Impl width height stride rotationDegrees mirrored pixels (some pool)

end PicooCamera.FrameHub
