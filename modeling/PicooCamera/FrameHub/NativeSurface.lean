import PicooCamera.Library.ByteReader

/-!
# Native surface messages

The descriptors of shared surfaces and the bounded messages of the native pipe.
-/

namespace PicooCamera.FrameHub

open PicooCamera.Library Program

structure WindowsAdapterId where
  low : UInt32
  high : Int32
  deriving DecidableEq, Repr

/-- The facts from the source and the output owner that are carried with a surface. -/
structure WindowsSharedSurfaceIdentity where
  sourceConnectionGeneration : UInt64
  streamEpoch : UInt64
  decoderGeneration : UInt64
  sourceFrameId : UInt64
  resourceGeneration : UInt64
  backendGeneration : UInt64
  outputRevision : UInt64
  deriving DecidableEq, Repr

def WindowsSharedSurfaceIdentity.isValid (identity : WindowsSharedSurfaceIdentity) : Bool :=
  identity.resourceGeneration ≠ 0 && identity.backendGeneration ≠ 0

inductive WindowsSharedSurfaceFormat where
  | bgra8
  | nv12
  deriving DecidableEq, Repr

/-- What `WindowsSharedSurfaceDescriptor::new` accepts. -/
def SurfaceFacts (handleValue : UInt64) (width height : UInt32) (keyedMutexKey : UInt64)
    (identity : WindowsSharedSurfaceIdentity) : Prop :=
  ¬ (handleValue = 0 ∨ width = 0 ∨ height = 0 ∨ keyedMutexKey ≠ 0 ∨ identity.isValid = false)

instance (handleValue : UInt64) (width height : UInt32) (keyedMutexKey : UInt64)
    (identity : WindowsSharedSurfaceIdentity) :
    Decidable (SurfaceFacts handleValue width height keyedMutexKey identity) :=
  inferInstanceAs (Decidable (¬ _))

@[ext] structure WindowsSharedSurfaceDescriptor where
  handleValue : UInt64
  adapter : WindowsAdapterId
  width : UInt32
  height : UInt32
  format : WindowsSharedSurfaceFormat
  keyedMutexKey : UInt64
  identity : WindowsSharedSurfaceIdentity
  facts : SurfaceFacts handleValue width height keyedMutexKey identity
  deriving DecidableEq, Repr

def WindowsSharedSurfaceDescriptor.new (handleValue : UInt64) (adapter : WindowsAdapterId)
    (width height : UInt32) (format : WindowsSharedSurfaceFormat) (keyedMutexKey : UInt64)
    (identity : WindowsSharedSurfaceIdentity) : Option WindowsSharedSurfaceDescriptor :=
  if facts : SurfaceFacts handleValue width height keyedMutexKey identity then
    some ⟨handleValue, adapter, width, height, format, keyedMutexKey, identity, facts⟩
  else none

theorem WindowsSharedSurfaceDescriptor.new_fields (d : WindowsSharedSurfaceDescriptor) :
    new d.handleValue d.adapter d.width d.height d.format d.keyedMutexKey d.identity = some d :=
  dif_pos d.facts

theorem WindowsSharedSurfaceDescriptor.of_new {handleValue : UInt64} {adapter : WindowsAdapterId}
    {width height : UInt32} {format : WindowsSharedSurfaceFormat} {keyedMutexKey : UInt64}
    {identity : WindowsSharedSurfaceIdentity} {d : WindowsSharedSurfaceDescriptor}
    (h : new handleValue adapter width height format keyedMutexKey identity = some d) :
    ∃ facts, d =
      ⟨handleValue, adapter, width, height, format, keyedMutexKey, identity, facts⟩ := by
  unfold new at h
  by_cases facts : SurfaceFacts handleValue width height keyedMutexKey identity
  · rw [dif_pos facts] at h
    exact ⟨facts, (Option.some.inj h).symm⟩
  · rw [dif_neg facts] at h
    cases h

inductive WindowsNativeChannelAck where
  | imported
  | released
  | rejected
  deriving DecidableEq, Repr

inductive WindowsNativeWireMessage where
  | demand (width height : UInt32) (outputRevision : UInt64)
  | hello (sourceConnectionGeneration streamEpoch : UInt64) (adapter : WindowsAdapterId)
      (resourceGeneration backendGeneration outputRevision : UInt64)
  | ready (sourceConnectionGeneration streamEpoch resourceGeneration backendGeneration
      outputRevision : UInt64)
  | offer (offerId : UInt64) (descriptor : WindowsSharedSurfaceDescriptor)
  | ack (offerId : UInt64) (ack : WindowsNativeChannelAck)
  | close
  deriving DecidableEq, Repr

inductive WindowsNativeWireError where
  | malformed
  | frameTooLarge
  | invalidAck
  | invalidFormat
  deriving DecidableEq, Repr

/-! ## Encoding -/

def u32Bytes (value : UInt32) : Bytes := putLE 4 value.toNat

def u64Bytes (value : UInt64) : Bytes := putLE 8 value.toNat

def adapterBytes (adapter : WindowsAdapterId) : Bytes :=
  u32Bytes adapter.low ++ u32Bytes adapter.high.toUInt32

def formatCode : WindowsSharedSurfaceFormat → UInt8
  | .bgra8 => 1
  | .nv12 => 2

def ackCode : WindowsNativeChannelAck → UInt8
  | .imported => 1
  | .released => 2
  | .rejected => 3

def identityBytes (identity : WindowsSharedSurfaceIdentity) : Bytes :=
  u64Bytes identity.sourceConnectionGeneration ++ u64Bytes identity.streamEpoch ++
    u64Bytes identity.decoderGeneration ++ u64Bytes identity.sourceFrameId ++
    u64Bytes identity.resourceGeneration ++ u64Bytes identity.backendGeneration ++
    u64Bytes identity.outputRevision

/-- `put_descriptor` -/
def descriptorBytes (descriptor : WindowsSharedSurfaceDescriptor) : Bytes :=
  u64Bytes descriptor.handleValue ++ adapterBytes descriptor.adapter ++
    u32Bytes descriptor.width ++ u32Bytes descriptor.height ++
    [formatCode descriptor.format] ++ u64Bytes descriptor.keyedMutexKey ++
    identityBytes descriptor.identity

/-- The output layouts that a `Demand` may declare. -/
def demandLayout (width height : UInt32) : Prop :=
  (width = 1280 ∧ height = 720) ∨ (width = 1920 ∧ height = 1080)

instance (width height : UInt32) : Decidable (demandLayout width height) :=
  inferInstanceAs (Decidable (_ ∨ _))

namespace WindowsNativeWireMessage

def demandTag : UInt8 := 1

def helloTag : UInt8 := 2

def readyTag : UInt8 := 3

def offerTag : UInt8 := 4

def ackTag : UInt8 := 5

def closeTag : UInt8 := 6

def maxBytes : Nat := 256

/-- What `encode` has pushed before it checks the length. -/
def frame : WindowsNativeWireMessage → Except WindowsNativeWireError Bytes
  | .demand width height outputRevision =>
      if demandLayout width height then
        .ok (demandTag :: (u32Bytes width ++ u32Bytes height ++ u64Bytes outputRevision))
      else .error .malformed
  | .hello sourceConnectionGeneration streamEpoch adapter resourceGeneration backendGeneration
      outputRevision =>
      .ok (helloTag :: (u64Bytes sourceConnectionGeneration ++ u64Bytes streamEpoch ++
        adapterBytes adapter ++ u64Bytes resourceGeneration ++ u64Bytes backendGeneration ++
        u64Bytes outputRevision))
  | .ready sourceConnectionGeneration streamEpoch resourceGeneration backendGeneration
      outputRevision =>
      .ok (readyTag :: (u64Bytes sourceConnectionGeneration ++ u64Bytes streamEpoch ++
        u64Bytes resourceGeneration ++ u64Bytes backendGeneration ++ u64Bytes outputRevision))
  | .offer offerId descriptor =>
      .ok (offerTag :: (u64Bytes offerId ++ descriptorBytes descriptor))
  | .ack offerId answer => .ok (ackTag :: (u64Bytes offerId ++ [ackCode answer]))
  | .close => .ok [closeTag]

def encode (message : WindowsNativeWireMessage) : Except WindowsNativeWireError Bytes := do
  let bytes ← message.frame
  if maxBytes < bytes.length then .error .frameTooLarge else .ok bytes

end WindowsNativeWireMessage

/-! ## Decoding -/

abbrev WireReader := ByteReader

abbrev WireProgram := Program WireReader WindowsNativeWireError

namespace WireReader

-- `checked_add` and `get` refuse an end beyond the input with the same error.
def take (length : Nat) : WireProgram Bytes := ByteReader.take .malformed length

-- `take(1)` returns one byte, so that the `expect` on its first holds.
def byte : WireProgram UInt8 := do
  let bytes ← take 1
  pure (bytes.headD 0)

def u32 : WireProgram UInt32 := do
  let bytes ← take 4
  pure (UInt32.ofNat (getLE bytes))

def u64 : WireProgram UInt64 := do
  let bytes ← take 8
  pure (UInt64.ofNat (getLE bytes))

def finish : WireProgram Unit := ByteReader.finish .malformed

end WireReader

open WireReader

def readAdapter : WireProgram WindowsAdapterId := do
  let low ← u32
  let high ← u32
  pure ⟨low, high.toInt32⟩

def readFormat : WireProgram WindowsSharedSurfaceFormat := do
  let code ← byte
  if code = 1 then pure .bgra8
  else if code = 2 then pure .nv12
  else fail .invalidFormat

def readAck : WireProgram WindowsNativeChannelAck := do
  let code ← byte
  if code = 1 then pure .imported
  else if code = 2 then pure .released
  else if code = 3 then pure .rejected
  else fail .invalidAck

def readIdentity : WireProgram WindowsSharedSurfaceIdentity := do
  let sourceConnectionGeneration ← u64
  let streamEpoch ← u64
  let decoderGeneration ← u64
  let sourceFrameId ← u64
  let resourceGeneration ← u64
  let backendGeneration ← u64
  let outputRevision ← u64
  pure ⟨sourceConnectionGeneration, streamEpoch, decoderGeneration, sourceFrameId,
    resourceGeneration, backendGeneration, outputRevision⟩

def readDescriptor : WireProgram WindowsSharedSurfaceDescriptor := do
  let handleValue ← u64
  let adapter ← readAdapter
  let width ← u32
  let height ← u32
  let format ← readFormat
  let keyedMutexKey ← u64
  let identity ← readIdentity
  finish
  ByteReader.okOr (WindowsSharedSurfaceDescriptor.new handleValue adapter width height format
    keyedMutexKey identity) .malformed

namespace WindowsNativeWireMessage

def readDemand : WireProgram WindowsNativeWireMessage := do
  let width ← u32
  let height ← u32
  let outputRevision ← u64
  finish
  if demandLayout width height then pure (.demand width height outputRevision)
  else fail .malformed

def readHello : WireProgram WindowsNativeWireMessage := do
  let sourceConnectionGeneration ← u64
  let streamEpoch ← u64
  let adapter ← readAdapter
  let resourceGeneration ← u64
  let backendGeneration ← u64
  let outputRevision ← u64
  finish
  pure (.hello sourceConnectionGeneration streamEpoch adapter resourceGeneration
    backendGeneration outputRevision)

def readReady : WireProgram WindowsNativeWireMessage := do
  let sourceConnectionGeneration ← u64
  let streamEpoch ← u64
  let resourceGeneration ← u64
  let backendGeneration ← u64
  let outputRevision ← u64
  finish
  pure (.ready sourceConnectionGeneration streamEpoch resourceGeneration backendGeneration
    outputRevision)

def readOffer : WireProgram WindowsNativeWireMessage := do
  let offerId ← u64
  let descriptor ← readDescriptor
  pure (.offer offerId descriptor)

def readAckMessage : WireProgram WindowsNativeWireMessage := do
  let offerId ← u64
  let answer ← readAck
  finish
  pure (.ack offerId answer)

def readClose : WireProgram WindowsNativeWireMessage := do
  finish
  pure .close

/-- The arms of `decode`, by the first byte. -/
def readTagged (tag : UInt8) : WireProgram WindowsNativeWireMessage :=
  if tag = demandTag then readDemand
  else if tag = helloTag then readHello
  else if tag = readyTag then readReady
  else if tag = offerTag then readOffer
  else if tag = ackTag then readAckMessage
  else if tag = closeTag then readClose
  else fail .malformed

def decode (bytes : Bytes) : Except WindowsNativeWireError WindowsNativeWireMessage :=
  if h : bytes ≠ [] ∧ bytes.length ≤ maxBytes then
    (exec (readTagged (bytes.head h.1)) ⟨bytes, 1, List.length_pos_iff.mpr h.1⟩).1
  else .error (if maxBytes < bytes.length then .frameTooLarge else .malformed)

end WindowsNativeWireMessage

/-! ## What the readers take -/

open ByteReader

theorem exact_byte : Exact byte fun value => [value] := by
  refine Exact.ofTake (fun _ => rfl) (fun _ => rfl) ?_
  intro bytes hlength
  obtain ⟨value, rfl⟩ := List.length_eq_one_iff.mp hlength
  rfl

theorem exact_u32 : Exact u32 u32Bytes := by
  refine Exact.ofTake (fun value => length_putLE 4 value.toNat) ?_ ?_
  · intro value
    have hfits : value.toNat < 256 ^ 4 := value.toNat_lt
    rw [u32Bytes, getLE_putLE hfits, UInt32.ofNat_toNat]
  · intro bytes hlength
    have hfits : getLE bytes < 2 ^ 32 := by
      have h := getLE_lt bytes
      rwa [hlength] at h
    rw [u32Bytes, UInt32.toNat_ofNat_of_lt' hfits, ← hlength, putLE_getLE]

theorem exact_u64 : Exact u64 u64Bytes := by
  refine Exact.ofTake (fun value => length_putLE 8 value.toNat) ?_ ?_
  · intro value
    have hfits : value.toNat < 256 ^ 8 := value.toNat_lt
    rw [u64Bytes, getLE_putLE hfits, UInt64.ofNat_toNat]
  · intro bytes hlength
    have hfits : getLE bytes < 2 ^ 64 := by
      have h := getLE_lt bytes
      rwa [hlength] at h
    rw [u64Bytes, UInt64.toNat_ofNat_of_lt' hfits, ← hlength, putLE_getLE]

theorem exact_readAdapter : Exact readAdapter adapterBytes := by
  refine (exact_u32.bind fun low => exact_u32.bind fun high => reads_pure _).congr ?_
  intro adapter consumed left
  constructor
  · rintro ⟨low, _, rfl, high, _, rfl, rfl, rfl⟩
    rw [adapterBytes, List.append_nil, UInt32.toUInt32_toInt32]
  · rintro rfl
    exact ⟨adapter.low, _, rfl, adapter.high.toUInt32, [], (List.append_nil _).symm, rfl, rfl⟩

theorem exact_readFormat : Exact readFormat fun format => [formatCode format] := by
  refine (exact_byte.bind fun code => (reads_pure _).ite ((reads_pure _).ite
    (reads_fail _))).congr ?_
  intro format consumed left
  constructor
  · rintro ⟨code, _, rfl, ⟨rfl, rfl, rfl⟩ | ⟨-, ⟨rfl, rfl, rfl⟩ | ⟨-, hfalse⟩⟩⟩
    · rfl
    · rfl
    · exact hfalse.elim
  · rintro rfl
    refine ⟨formatCode format, [], rfl, ?_⟩
    cases format with
    | bgra8 => exact Or.inl ⟨rfl, rfl, rfl⟩
    | nv12 => exact Or.inr ⟨by decide, Or.inl ⟨rfl, rfl, rfl⟩⟩

theorem exact_readAck : Exact readAck fun ack => [ackCode ack] := by
  refine (exact_byte.bind fun code => (reads_pure _).ite ((reads_pure _).ite
    ((reads_pure _).ite (reads_fail _)))).congr ?_
  intro ack consumed left
  constructor
  · rintro ⟨code, _, rfl,
      ⟨rfl, rfl, rfl⟩ | ⟨-, ⟨rfl, rfl, rfl⟩ | ⟨-, ⟨rfl, rfl, rfl⟩ | ⟨-, hfalse⟩⟩⟩⟩
    · rfl
    · rfl
    · rfl
    · exact hfalse.elim
  · rintro rfl
    refine ⟨ackCode ack, [], rfl, ?_⟩
    cases ack with
    | imported => exact Or.inl ⟨rfl, rfl, rfl⟩
    | released => exact Or.inr ⟨by decide, Or.inl ⟨rfl, rfl, rfl⟩⟩
    | rejected => exact Or.inr ⟨by decide, Or.inr ⟨by decide, Or.inl ⟨rfl, rfl, rfl⟩⟩⟩

theorem exact_readIdentity : Exact readIdentity identityBytes := by
  refine (exact_u64.bind fun sourceConnectionGeneration => exact_u64.bind fun streamEpoch =>
    exact_u64.bind fun decoderGeneration => exact_u64.bind fun sourceFrameId =>
    exact_u64.bind fun resourceGeneration => exact_u64.bind fun backendGeneration =>
    exact_u64.bind fun outputRevision => reads_pure _).congr ?_
  intro identity consumed left
  constructor
  · rintro ⟨connection, _, rfl, epoch, _, rfl, decoder, _, rfl, frame, _, rfl, resource, _, rfl,
      backend, _, rfl, revision, _, rfl, rfl, rfl⟩
    simp only [identityBytes, List.append_assoc, List.append_nil]
  · rintro rfl
    simp only [identityBytes, List.append_assoc]
    exact ⟨_, _, rfl, _, _, rfl, _, _, rfl, _, _, rfl, _, _, rfl, _, _, rfl, _, [],
      (List.append_nil _).symm, rfl, rfl⟩

theorem reads_readDescriptor :
    Reads readDescriptor fun descriptor consumed left =>
      consumed = descriptorBytes descriptor ∧ left = [] := by
  refine (exact_u64.bind fun handleValue => exact_readAdapter.bind fun adapter =>
    exact_u32.bind fun width => exact_u32.bind fun height => exact_readFormat.bind fun format =>
    exact_u64.bind fun keyedMutexKey => exact_readIdentity.bind fun identity =>
    (reads_finish _).bind fun _ => reads_okOr _ _).congr ?_
  intro descriptor consumed left
  constructor
  · rintro ⟨handleValue, _, rfl, adapter, _, rfl, width, _, rfl, height, _, rfl, format, _, rfl,
      keyedMutexKey, _, rfl, identity, _, rfl, _, _, _, rfl, ⟨rfl, hleft⟩, hnew, rfl⟩
    obtain ⟨facts, rfl⟩ := WindowsSharedSurfaceDescriptor.of_new hnew
    refine ⟨?_, hleft⟩
    simp only [descriptorBytes, List.append_assoc, List.append_nil]
  · rintro ⟨rfl, rfl⟩
    simp only [descriptorBytes, List.append_assoc]
    exact ⟨_, _, rfl, _, _, rfl, _, _, rfl, _, _, rfl, _, _, rfl, _, _, rfl, _, [],
      (List.append_nil _).symm, (), [], [], rfl, ⟨rfl, rfl⟩, descriptor.new_fields, rfl⟩

namespace WindowsNativeWireMessage

def tag : WindowsNativeWireMessage → UInt8
  | .demand .. => demandTag
  | .hello .. => helloTag
  | .ready .. => readyTag
  | .offer .. => offerTag
  | .ack .. => ackTag
  | .close => closeTag

def body : WindowsNativeWireMessage → Bytes
  | .demand width height outputRevision =>
      u32Bytes width ++ u32Bytes height ++ u64Bytes outputRevision
  | .hello sourceConnectionGeneration streamEpoch adapter resourceGeneration backendGeneration
      outputRevision =>
      u64Bytes sourceConnectionGeneration ++ u64Bytes streamEpoch ++ adapterBytes adapter ++
        u64Bytes resourceGeneration ++ u64Bytes backendGeneration ++ u64Bytes outputRevision
  | .ready sourceConnectionGeneration streamEpoch resourceGeneration backendGeneration
      outputRevision =>
      u64Bytes sourceConnectionGeneration ++ u64Bytes streamEpoch ++
        u64Bytes resourceGeneration ++ u64Bytes backendGeneration ++ u64Bytes outputRevision
  | .offer offerId descriptor => u64Bytes offerId ++ descriptorBytes descriptor
  | .ack offerId answer => u64Bytes offerId ++ [ackCode answer]
  | .close => []

/-- Only a `Demand` of another layout is refused. -/
def Encodable : WindowsNativeWireMessage → Prop
  | .demand width height _ => demandLayout width height
  | _ => True

theorem frame_eq_ok_iff (message : WindowsNativeWireMessage) (bytes : Bytes) :
    message.frame = .ok bytes ↔ message.Encodable ∧ bytes = message.tag :: message.body := by
  cases message with
  | demand width height outputRevision =>
      by_cases hlayout : demandLayout width height
      · simp [frame, Encodable, tag, body, hlayout, eq_comm]
      · simp [frame, Encodable, hlayout]
  | hello => simp [frame, Encodable, tag, body, eq_comm]
  | ready => simp [frame, Encodable, tag, body, eq_comm]
  | offer => simp [frame, Encodable, tag, body, eq_comm]
  | ack => simp [frame, Encodable, tag, body, eq_comm]
  | close => simp [frame, Encodable, tag, body, eq_comm]

/-- The arm of a tag reads the bodies of the messages with that tag. -/
def ReadsTag (p : WireProgram WindowsNativeWireMessage) (expected : UInt8) : Prop :=
  Reads p fun message consumed left =>
    (message.Encodable ∧ message.tag = expected ∧ consumed = message.body) ∧ left = []

theorem reads_readDemand : ReadsTag readDemand demandTag := by
  refine (exact_u32.bind fun width => exact_u32.bind fun height =>
    exact_u64.bind fun outputRevision => (reads_finish _).bind fun _ =>
    (reads_pure _).ite (reads_fail _)).congr ?_
  intro message consumed left
  constructor
  · rintro ⟨width, _, rfl, height, _, rfl, outputRevision, _, rfl, _, _, _, rfl, ⟨rfl, hleft⟩,
      ⟨hlayout, rfl, rfl⟩ | ⟨-, hfalse⟩⟩
    · refine ⟨⟨hlayout, rfl, ?_⟩, hleft⟩
      simp only [body, List.append_assoc, List.append_nil]
    · exact hfalse.elim
  · rintro ⟨⟨hencodable, htag, rfl⟩, rfl⟩
    cases message
    case demand width height outputRevision =>
      simp only [body, List.append_assoc]
      exact ⟨_, _, rfl, _, _, rfl, _, [], (List.append_nil _).symm, (), [], [], rfl, ⟨rfl, rfl⟩,
        Or.inl ⟨hencodable, rfl, rfl⟩⟩
    all_goals simp [tag, demandTag, helloTag, readyTag, offerTag, ackTag, closeTag] at htag

theorem reads_readHello : ReadsTag readHello helloTag := by
  refine (exact_u64.bind fun sourceConnectionGeneration => exact_u64.bind fun streamEpoch =>
    exact_readAdapter.bind fun adapter => exact_u64.bind fun resourceGeneration =>
    exact_u64.bind fun backendGeneration => exact_u64.bind fun outputRevision =>
    (reads_finish _).bind fun _ => reads_pure _).congr ?_
  intro message consumed left
  constructor
  · rintro ⟨connection, _, rfl, epoch, _, rfl, adapter, _, rfl, resource, _, rfl, backend, _, rfl,
      revision, _, rfl, _, _, _, rfl, ⟨rfl, hleft⟩, rfl, rfl⟩
    refine ⟨⟨trivial, rfl, ?_⟩, hleft⟩
    simp only [body, List.append_assoc, List.append_nil]
  · rintro ⟨⟨-, htag, rfl⟩, rfl⟩
    cases message
    case hello =>
      simp only [body, List.append_assoc]
      exact ⟨_, _, rfl, _, _, rfl, _, _, rfl, _, _, rfl, _, _, rfl, _, [],
        (List.append_nil _).symm, (), [], [], rfl, ⟨rfl, rfl⟩, rfl, rfl⟩
    all_goals simp [tag, demandTag, helloTag, readyTag, offerTag, ackTag, closeTag] at htag

theorem reads_readReady : ReadsTag readReady readyTag := by
  refine (exact_u64.bind fun sourceConnectionGeneration => exact_u64.bind fun streamEpoch =>
    exact_u64.bind fun resourceGeneration => exact_u64.bind fun backendGeneration =>
    exact_u64.bind fun outputRevision => (reads_finish _).bind fun _ => reads_pure _).congr ?_
  intro message consumed left
  constructor
  · rintro ⟨connection, _, rfl, epoch, _, rfl, resource, _, rfl, backend, _, rfl, revision, _, rfl,
      _, _, _, rfl, ⟨rfl, hleft⟩, rfl, rfl⟩
    refine ⟨⟨trivial, rfl, ?_⟩, hleft⟩
    simp only [body, List.append_assoc, List.append_nil]
  · rintro ⟨⟨-, htag, rfl⟩, rfl⟩
    cases message
    case ready =>
      simp only [body, List.append_assoc]
      exact ⟨_, _, rfl, _, _, rfl, _, _, rfl, _, _, rfl, _, [], (List.append_nil _).symm, (), [],
        [], rfl, ⟨rfl, rfl⟩, rfl, rfl⟩
    all_goals simp [tag, demandTag, helloTag, readyTag, offerTag, ackTag, closeTag] at htag

theorem reads_readOffer : ReadsTag readOffer offerTag := by
  refine (exact_u64.bind fun offerId => reads_readDescriptor.bind fun descriptor =>
    reads_pure _).congr ?_
  intro message consumed left
  constructor
  · rintro ⟨offerId, _, rfl, descriptor, _, _, rfl, ⟨rfl, hleft⟩, rfl, rfl⟩
    refine ⟨⟨trivial, rfl, ?_⟩, hleft⟩
    rw [body, List.append_nil]
  · rintro ⟨⟨-, htag, rfl⟩, rfl⟩
    cases message
    case offer =>
      exact ⟨_, _, rfl, _, _, [], (List.append_nil _).symm, ⟨rfl, rfl⟩, rfl, rfl⟩
    all_goals simp [tag, demandTag, helloTag, readyTag, offerTag, ackTag, closeTag] at htag

theorem reads_readAckMessage : ReadsTag readAckMessage ackTag := by
  refine (exact_u64.bind fun offerId => exact_readAck.bind fun ack =>
    (reads_finish _).bind fun _ => reads_pure _).congr ?_
  intro message consumed left
  constructor
  · rintro ⟨offerId, _, rfl, answer, _, rfl, _, _, _, rfl, ⟨rfl, hleft⟩, rfl, rfl⟩
    exact ⟨⟨trivial, rfl, rfl⟩, hleft⟩
  · rintro ⟨⟨-, htag, rfl⟩, rfl⟩
    cases message
    case ack => exact ⟨_, _, rfl, _, [], rfl, (), [], [], rfl, ⟨rfl, rfl⟩, rfl, rfl⟩
    all_goals simp [tag, demandTag, helloTag, readyTag, offerTag, ackTag, closeTag] at htag

theorem reads_readClose : ReadsTag readClose closeTag := by
  refine ((reads_finish _).bind fun _ => reads_pure _).congr ?_
  intro message consumed left
  constructor
  · rintro ⟨_, _, _, rfl, ⟨rfl, hleft⟩, rfl, rfl⟩
    exact ⟨⟨trivial, rfl, rfl⟩, hleft⟩
  · rintro ⟨⟨-, htag, rfl⟩, rfl⟩
    cases message
    case close => exact ⟨(), [], [], rfl, ⟨rfl, rfl⟩, rfl, rfl⟩
    all_goals simp [tag, demandTag, helloTag, readyTag, offerTag, ackTag, closeTag] at htag

theorem reads_readTagged (expected : UInt8) : ReadsTag (readTagged expected) expected := by
  unfold readTagged
  by_cases hdemand : expected = demandTag
  · rw [if_pos hdemand, hdemand]
    exact reads_readDemand
  rw [if_neg hdemand]
  by_cases hhello : expected = helloTag
  · rw [if_pos hhello, hhello]
    exact reads_readHello
  rw [if_neg hhello]
  by_cases hready : expected = readyTag
  · rw [if_pos hready, hready]
    exact reads_readReady
  rw [if_neg hready]
  by_cases hoffer : expected = offerTag
  · rw [if_pos hoffer, hoffer]
    exact reads_readOffer
  rw [if_neg hoffer]
  by_cases hack : expected = ackTag
  · rw [if_pos hack, hack]
    exact reads_readAckMessage
  rw [if_neg hack]
  by_cases hclose : expected = closeTag
  · rw [if_pos hclose, hclose]
    exact reads_readClose
  rw [if_neg hclose]
  -- No message has another tag.
  refine (reads_fail _).congr fun message consumed left => ⟨False.elim, ?_⟩
  rintro ⟨⟨-, rfl, -⟩, -⟩
  cases message with
  | demand => exact hdemand rfl
  | hello => exact hhello rfl
  | ready => exact hready rfl
  | offer => exact hoffer rfl
  | ack => exact hack rfl
  | close => exact hclose rfl

/-! ## The wire format -/

/-- Every message fits, so that the length check of `encode` never fails. -/
theorem length_body_lt (message : WindowsNativeWireMessage) : message.body.length < maxBytes := by
  cases message <;>
    simp [body, descriptorBytes, identityBytes, adapterBytes, u32Bytes, u64Bytes, maxBytes]

theorem encode_eq_ok_iff (message : WindowsNativeWireMessage) (bytes : Bytes) :
    message.encode = .ok bytes ↔ message.Encodable ∧ bytes = message.tag :: message.body := by
  rw [← frame_eq_ok_iff]
  have hlength := message.length_body_lt
  unfold encode
  cases hframe : message.frame with
  | error error => simp [bind, Except.bind]
  | ok framed =>
      obtain ⟨-, rfl⟩ := (message.frame_eq_ok_iff framed).mp hframe
      have hfits : ¬ maxBytes < (message.tag :: message.body).length := by
        rw [List.length_cons]
        omega
      change (if maxBytes < (message.tag :: message.body).length then Except.error _
        else Except.ok (message.tag :: message.body)) = .ok bytes ↔ _
      rw [if_neg hfits]

theorem decode_eq_ok_iff (message : WindowsNativeWireMessage) (bytes : Bytes) :
    decode bytes = .ok message ↔
      message.Encodable ∧ bytes = message.tag :: message.body := by
  have hlength := message.length_body_lt
  unfold decode
  cases bytes with
  | nil => simp
  | cons first rest =>
      by_cases hfits : (first :: rest).length ≤ maxBytes
      · rw [dif_pos ⟨List.cons_ne_nil _ _, hfits⟩]
        change (exec (readTagged first) ⟨first :: rest, 1, _⟩).1 = .ok message ↔ _
        rw [Reads.value_eq_ok_iff (reads_readTagged first) fun _ _ _ h => h.2]
        constructor
        · rintro ⟨⟨hencodable, htag, hrest⟩, -⟩
          refine ⟨hencodable, ?_⟩
          rw [htag, ← hrest]
          rfl
        · rintro ⟨hencodable, hbytes⟩
          cases hbytes
          exact ⟨⟨hencodable, rfl, rfl⟩, rfl⟩
      · rw [dif_neg fun h => hfits h.2]
        constructor
        · intro h
          cases h
        · rintro ⟨-, hbytes⟩
          rw [hbytes, List.length_cons] at hfits
          omega

theorem decode_eq_ok_iff_encode (message : WindowsNativeWireMessage) (bytes : Bytes) :
    decode bytes = .ok message ↔ message.encode = .ok bytes := by
  rw [decode_eq_ok_iff, encode_eq_ok_iff]

instance (length : Nat) : Keeps Advances (WireReader.take length) := by
  unfold WireReader.take
  infer_instance

instance : Keeps Advances WireReader.finish := by
  unfold WireReader.finish
  infer_instance

instance : Keeps Advances byte := by
  unfold byte
  infer_instance

instance : Keeps Advances u32 := by
  unfold u32
  infer_instance

instance : Keeps Advances u64 := by
  unfold u64
  infer_instance

instance : Keeps Advances readAdapter := by
  unfold readAdapter
  infer_instance

instance : Keeps Advances readFormat := by
  unfold readFormat
  infer_instance

instance : Keeps Advances readAck := by
  unfold readAck
  infer_instance

instance : Keeps Advances readIdentity := by
  unfold readIdentity
  infer_instance

instance : Keeps Advances readDescriptor := by
  unfold readDescriptor
  infer_instance

instance (expected : UInt8) : Keeps Advances (readTagged expected) := by
  unfold readTagged readDemand readHello readReady readOffer readAckMessage readClose
  infer_instance

/-- `decode` is the inverse of `encode`, on its image and nowhere else, and its reader stays
inside the input. -/
theorem native_wire_format_exact (message : WindowsNativeWireMessage) (bytes : Bytes) :
    (message.encode = .ok bytes → decode bytes = .ok message ∧ bytes.length ≤ maxBytes) ∧
      (decode bytes = .ok message → message.encode = .ok bytes) ∧
      ((∃ decoded, decode bytes = .ok decoded) ↔
        ∃ encoded : WindowsNativeWireMessage, encoded.encode = .ok bytes) ∧
      ∀ (tag : UInt8) (reader : WireReader),
        (exec (readTagged tag) reader).2.bytes = reader.bytes ∧
          reader.offset ≤ (exec (readTagged tag) reader).2.offset ∧
          (exec (readTagged tag) reader).2.offset ≤ reader.bytes.length := by
  refine ⟨fun h => ⟨(decode_eq_ok_iff_encode message bytes).mpr h, ?_⟩,
    (decode_eq_ok_iff_encode message bytes).mp, ?_, ?_⟩
  · obtain ⟨-, rfl⟩ := (encode_eq_ok_iff message bytes).mp h
    exact message.length_body_lt
  · exact exists_congr fun decoded => decode_eq_ok_iff_encode decoded bytes
  · intro tag reader
    have hadvances : Advances reader (exec (readTagged tag) reader).2 := Keeps.keeps reader
    have hinside := (exec (readTagged tag) reader).2.inBounds
    rw [hadvances.1] at hinside
    exact ⟨hadvances.1, hadvances.2, hinside⟩

end WindowsNativeWireMessage

end PicooCamera.FrameHub
