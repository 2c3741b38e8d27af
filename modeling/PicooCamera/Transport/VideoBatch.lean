import PicooCamera.Protocol.VideoPacket

/-!
# The datagrams of one access unit

A `VideoDatagramBatch` keeps the access-unit boundary through the transport,
which accepts or rejects the batch as a whole.
-/

namespace PicooCamera.Transport

open PicooCamera.Library PicooCamera.Protocol

structure VideoDatagramBatch where
  datagrams : List Bytes
  encodedBytes : Nat
  keyframe : Bool
  deriving DecidableEq, Repr

inductive VideoDatagramBatchError where
  | empty
  | datagramTooLarge
  | invalidDatagram (error : VideoPacketError)
  deriving DecidableEq, Repr

def VideoDatagramBatch.new (datagrams : List Bytes) :
    Except VideoDatagramBatchError VideoDatagramBatch :=
  match datagrams with
  | [] => .error .empty
  | first :: _ =>
      if datagrams.any (fun item => maxDatagramSize < item.length) then
        .error .datagramTooLarge
      else
        match VideoPacket.decodeBytes first with
        | .error error => .error (.invalidDatagram error)
        | .ok packet =>
            .ok {
              datagrams := datagrams
              encodedBytes := (datagrams.map List.length).sum
              keyframe := packet.flags.keyframe }

end PicooCamera.Transport
