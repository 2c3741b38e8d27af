import PicooCamera.Packet.Tracking
import PicooCamera.Receiver.OwnerSimulation

/-!
# Published pictures over whole runs

A picture is published under the epoch of the committed configuration, and was
decoded with the configuration that was committed when it was submitted.
-/

namespace PicooCamera.Receiver

open PicooCamera.Library PicooCamera.Protocol PicooCamera.Pairing PicooCamera.Transport
open TransitionSystem

namespace MediaPath

variable {loose accepting : Prop} {c c' : MediaPath}

theorem Agreement.changes (h : c.Agreement) (hchanges : Changes loose accepting c c') :
    c'.Agreement := by
  induction hchanges with
  | refl => exact h
  | tail _ hchange ih => exact ih.change hchange

theorem onward_changes (h : Changes loose accepting c c') : c.Onward c' := by
  induction h with
  | refl => exact Onward.refl c
  | tail _ hchange ih => exact ih.trans (onward_change hchange)

end MediaPath

theorem Agrees.subset {marks more : List OwnerMark} {token : DecodeToken}
    {configuration : Option StreamConfig} {revision : Nat}
    (hsubset : ∀ mark ∈ marks, mark ∈ more) (h : Agrees marks token configuration revision) :
    Agrees more token configuration revision := by
  obtain ⟨committed, own, hcommitted, hown, hepoch, hsame, hmark, hownMark, hrest⟩ := h
  exact ⟨committed, own, hcommitted, hown, hepoch, hsame, hsubset _ hmark, hsubset _ hownMark,
    hrest⟩

namespace Owner

open MediaPath

/-- The step ends in the connection of `generation`. -/
def EndsOn (P : Platform) (generation : Nat) (o : OwnerState) (label : OwnerStep) : Prop :=
  (next P o label).session.lifecycle.activeGeneration = some generation

structure PictureInvariant (c : MediaPath) : Prop where
  known : Known True c
  agreement : c.Agreement

theorem PictureInvariant.changes {accepting : Prop} {c c' : MediaPath} (h : PictureInvariant c)
    (hchanges : Changes True accepting c c') : PictureInvariant c' :=
  ⟨h.known.changes hchanges, h.agreement.changes hchanges⟩

theorem PictureInvariant.adopt {c : MediaPath} (h : PictureInvariant c) (connection : Nat) :
    PictureInvariant (c.adopt connection) :=
  ⟨⟨h.known.paired, h.known.queued, h.known.given, Or.inl trivial⟩, h.agreement.adopt connection⟩

theorem pictureInvariant_new (identity : DeviceIdentity) (trusted : TrustedDeviceStore)
    (hasTrustedStorePath : Bool) :
    PictureInvariant (OwnerState.new identity trusted hasTrustedStorePath).mediaPath := by
  refine ⟨⟨rfl, ?_, ?_, Or.inl trivial⟩, ⟨?_, ?_, ?_, ?_, ?_, ?_⟩⟩
  · intro hqueued
    cases hqueued
  · intro timeline decoderGeneration time outcome hevent
    cases hevent
  · intro config hconfig
    cases hconfig
  · intro revision config hmark
    cases hmark
  · intro revision config other hmark
    cases hmark
  · intro job hitem
    cases hitem
  · intro token htoken
    cases htoken
  · intro token configuration revision phase completed hmark
    cases hmark

theorem pictureInvariant_next (P : Platform) {o : OwnerState} (label : OwnerStep)
    (h : PictureInvariant o.mediaPath) : PictureInvariant (next P o label).mediaPath := by
  by_cases hadopts : Adopts o label
  · obtain ⟨o', connection, hdecodes, -, heq⟩ := next_adopts P hadopts
    have hchanges : Changes True False o.mediaPath o'.mediaPath := hdecodes.simulated h.known
    rw [heq]
    exact (h.changes hchanges).adopt connection
  · exact h.changes (next_simulated P hadopts h.known)

theorem pictureInvariant_of_reachable (P : Platform) {o : OwnerState}
    (h : (ownerSystem P).Reachable o) : PictureInvariant o.mediaPath := by
  apply @Reachable.invariant _ _ _ _ (fun o => PictureInvariant o.mediaPath) _ _ h
  · intro s hs
    obtain ⟨identity, trusted, hasPath, heq⟩ := hs
    rw [heq]
    exact pictureInvariant_new identity trusted hasPath
  · intro s label t hs hstep
    rw [show t = next P s label from hstep]
    exact pictureInvariant_next P label hs

theorem epoch_next (P : Platform) {o : OwnerState} {label : OwnerStep} {generation epoch : Nat}
    (known : Known True o.mediaPath) (hends : EndsOn P generation o label)
    (hepoch : o.session.media.streamEpoch = some epoch) :
    ∃ later, (next P o label).session.media.streamEpoch = some later ∧ epoch ≤ later := by
  by_cases hadopts : Adopts o label
  · obtain ⟨o', connection, hdecodes, -, heq⟩ := next_adopts P hadopts
    have hconfig : o'.mediaPath.config = o.mediaPath.config :=
      @OnlyDecodes.keeps _ _ hdecodes _ MediaPath.config (fun _ _ => rfl) fun _ _ => rfl
    have hsame : (next P o label).mediaPath.streamEpoch = o.mediaPath.streamEpoch := by
      rw [heq]
      exact congrArg (Option.map StreamConfig.streamEpoch) hconfig
    exact ⟨epoch, hsame.trans hepoch, le_rfl⟩
  · have honward := onward_changes (next_simulated P hadopts known)
    have hconnected : (next P o label).mediaPath.connection ≠ none := by
      rw [show (next P o label).mediaPath.connection = some generation from hends]
      exact Option.some_ne_none generation
    exact (honward hconnected).2 epoch hepoch

theorem epoch_run (P : Platform) {o o' : OwnerState} {labels : List OwnerStep}
    {generation epoch : Nat} (inv : PictureInvariant o.mediaPath)
    (hrun : Run ((ownerSystem P).restrict (EndsOn P generation)) o labels o')
    (hepoch : o.session.media.streamEpoch = some epoch) :
    ∃ later, o'.session.media.streamEpoch = some later ∧ epoch ≤ later := by
  have hkept : PictureInvariant o'.mediaPath ∧
      ∃ later, o'.session.media.streamEpoch = some later ∧ epoch ≤ later := by
    apply @Run.preserves _ _ _ _ _ _ (fun s => PictureInvariant s.mediaPath ∧
      ∃ later, s.session.media.streamEpoch = some later ∧ epoch ≤ later) _ hrun
    · exact ⟨inv, epoch, hepoch, le_rfl⟩
    · intro s label t hs hstep
      obtain ⟨hinv, reached, hreached, hle⟩ := hs
      obtain ⟨hends, heq⟩ := hstep
      rw [show t = next P s label from heq]
      obtain ⟨later, hlater, hle'⟩ := epoch_next P hinv.known hends hreached
      exact ⟨pictureInvariant_next P label hinv, later, hlater, hle.trans hle'⟩
  exact hkept.2

theorem published_pictures_agree (P : Platform) {o : OwnerState}
    (h : (ownerSystem P).Reachable o) :
    (∀ token configuration revision phase completed,
      .published token configuration revision phase completed ∈ o.trace →
        Agrees o.trace token configuration revision) ∧
      ∀ generation labels o', o.session.lifecycle.activeGeneration = some generation →
        Run ((ownerSystem P).restrict (EndsOn P generation)) o labels o' →
        ∀ epoch, o.session.media.streamEpoch = some epoch →
          ∃ later, o'.session.media.streamEpoch = some later ∧ epoch ≤ later := by
  have inv := pictureInvariant_of_reachable P h
  refine ⟨?_, ?_⟩
  · intro token configuration revision phase completed hmark
    have hagrees := inv.agreement.published token configuration revision phase completed
      (List.mem_filter.mpr ⟨hmark, rfl⟩)
    exact hagrees.subset fun mark hkept => List.mem_of_mem_filter hkept
  · intro generation labels o' _ hrun epoch hepoch
    exact epoch_run P inv hrun hepoch

end Owner

/-! ## A session with one Sender -/

open PicooCamera.Packet

/-- The avcC record of a 720p encoder. -/
def sampleRecord : Bytes :=
  [1, 100, 0, 31, 255, 225, 0, 15, 39, 100, 0, 31, 172, 86, 128, 80, 5, 186, 106, 2, 2, 2, 4, 1,
    0, 4, 40, 238, 60, 176, 253, 248, 248, 0]

def sampleFormat : VideoFormat where
  codec := codecAvc
  profile := profileAvcHigh
  tier := tierAvc
  bitDepth := 8
  chroma := chromaYuv420
  codedSize := some ⟨1280, 720⟩
  visibleRect := some ⟨0, 0, 1280, 720⟩
  frameRate := some ⟨30, 1⟩
  color := some ⟨rangeLimited, bt709, bt709, bt709⟩

def sampleConfig (streamEpoch rotation : Nat) : StreamConfig where
  codec := codecAvc
  profile := profileAvcHigh
  levelIdc := 31
  width := 1280
  height := 720
  fps := 30
  bitrate := 4000000
  rotation := rotation
  mirrored := false
  colorRange := rangeLimited
  codecConfiguration := sampleRecord
  streamEpoch := streamEpoch

def sampleDigest : Bytes := List.replicate 32 5

/-- A platform for one Sender, whose signatures verify, and for streams of `sampleRecord`. -/
def samplePlatform : Platform where
  crypto :=
    { sha256 := fun _ => sampleDigest
      validKey := fun _ => true
      verify := fun _ _ _ => true
      sign := fun _ _ => List.replicate 64 1
      lowercase := id }
  codecs := ReassemblyMap.noCodecs
  validatedVideoFormat config :=
    if config = sampleConfig config.streamEpoch config.rotation ∧
        config.rotation ∈ [0, 90, 180, 270] then .ok sampleFormat
    else .error "invalid codec configuration"

def sampleIdentity : DeviceIdentity where
  deviceId := "picoo-receiver"
  deviceName := "Receiver"
  signingKey := List.replicate 32 6
  publicKey := List.replicate 32 7

def sampleHello : ClientHello where
  senderId := samplePlatform.crypto.deriveDeviceId (List.replicate 32 8)
  deviceName := "Sender"
  publicKey := List.replicate 32 8
  senderNonce := List.replicate 32 9

def sampleProof : PairingProof := ⟨sampleDigest, List.replicate 64 1⟩

/-- The owner takes a control message of the Sender. -/
def receiving (messageId : Nat) (payload : ControlPayload) : List OwnerStep :=
  [.schedule [[.worker (.receiveControl (encodeControlEnvelope payload messageId 1))]],
    .pollTransportEvent]

/-- A Sender connects. -/
def connecting : List OwnerStep :=
  [.schedule [[.worker (.accept (some (List.replicate 32 3))), .worker .install,
      .worker .announce, .setEntropy (.ok (List.replicate 32 4)), .setMediaDeadline 1000000]],
    .pollTransportEvent]

def preparingDecoder : List OwnerStep :=
  [.schedule [[.decoder (.prepare (.ok ⟨[⟨some sampleFormat, 1000000, 31⟩]⟩))]], .pollDecoderEvent]

/-- The Sender connects and is paired with the user's approval. -/
def pairing : List OwnerStep :=
  connecting ++ preparingDecoder ++ receiving 1 (.clientHello sampleHello) ++
    [.command .confirmPairing] ++ receiving 2 (.pairingConfirm sampleProof) ++
    receiving 3 (.pairingCommit sampleProof)

def sampleKeyframe : VideoPacket :=
  .ofSmall ⟨true, true, true, false, false⟩ 1 1 0 0 0 [7]

/-- The first keyframe of epoch 1 is submitted and given to the platform decoder. -/
def refreshing : List OwnerStep :=
  pairing ++ receiving 4 (.streamConfig (sampleConfig 1 0)) ++
    [.schedule [[.worker (.receiveDatagrams 0 [sampleKeyframe])]], .pollTransportEvent,
      .schedule [[.advance 200000]], .drainJitter, .schedule [[.decoder .pop]], .turn]

def sampleToken : DecodeToken where
  timeline := ⟨1, 1, 1, 0, 0, 0, 200000, .key⟩
  configRevision := 1
  decoderGeneration := 0
  streamConfig := some (sampleConfig 1 0)

/-- The Sender rotates its picture, and then the decoder is done with the keyframe. -/
def rotating : List OwnerStep :=
  refreshing ++ receiving 5 (.streamConfig (sampleConfig 1 90)) ++
    [.schedule [[.decoder (.complete 0 (.ok ⟨[sampleToken], true⟩))]], .pollDecoderEvent,
      .pollDecoderEvent]

def ownerRun (labels : List OwnerStep) : OwnerState :=
  labels.foldl (Owner.next samplePlatform)
    (OwnerState.new sampleIdentity TrustedDeviceStore.new false)

theorem reachable_ownerRun (labels : List OwnerStep) :
    (ownerSystem samplePlatform).Reachable (ownerRun labels) := by
  unfold ownerRun
  have hstart : (ownerSystem samplePlatform).Reachable
      (OwnerState.new sampleIdentity TrustedDeviceStore.new false) :=
    Reachable.of_init ⟨_, _, _, rfl⟩
  generalize OwnerState.new sampleIdentity TrustedDeviceStore.new false = o at hstart
  induction labels generalizing o with
  | nil => exact hstart
  | cons label labels ih => exact ih _ (hstart.step rfl)

namespace Owner

theorem published_pictures_agree_rotated :
    Agrees (ownerRun rotating).trace sampleToken (some (sampleConfig 1 90)) 2 :=
  (published_pictures_agree samplePlatform (reachable_ownerRun rotating)).1 sampleToken
    (some (sampleConfig 1 90)) 2 .healthy sampleToken.timeline (by decide +kernel)

/-- The picture of the keyframe is published under a configuration that it was not decoded
with, which has the same epoch. -/
theorem rotated_picture_decoded_unrotated :
    (ownerSystem samplePlatform).Reachable (ownerRun rotating) ∧
      .published sampleToken (some (sampleConfig 1 90)) 2 .healthy sampleToken.timeline ∈
        (ownerRun rotating).trace ∧
      sampleToken.streamConfig = some (sampleConfig 1 0) ∧
      sampleConfig 1 0 ≠ sampleConfig 1 90 :=
  ⟨reachable_ownerRun rotating, by decide +kernel, rfl, by decide⟩

end Owner

end PicooCamera.Receiver
