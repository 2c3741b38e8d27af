import PicooCamera.Library.BigEndian
import PicooCamera.Protocol.MediaFormat

/-!
# Native frames

What the consumers under study read of a decoded picture.
-/

namespace PicooCamera.FrameHub

open PicooCamera.Library PicooCamera.Protocol

structure FrameIdentity where
  connectionGeneration : Nat
  streamEpoch : Nat
  decoderGeneration : Nat
  frameId : Nat
  deriving DecidableEq, Repr

inductive Rotation where
  | none
  | clockwise90
  | clockwise180
  | clockwise270
  deriving DecidableEq, Repr

structure NativeVideoFrame where
  identity : FrameIdentity
  sourcePtsUs : Nat
  configRevision : Nat
  visibleRect : VisibleRect
  imageWidth : Nat
  imageHeight : Nat
  /-- The numerator and the denominator. -/
  pixelAspectRatio : Nat × Nat
  rotation : Rotation
  mirror : Bool
  image : Bytes
  deriving DecidableEq, Repr

end PicooCamera.FrameHub
