import PicooCamera.Receiver.Control
import PicooCamera.Sender.NativeBitstream
import PicooCamera.Sender.SessionRuns

/-!
# Budgets of access units

The size of an access unit is looked up among the decoder offers as the native
encoder wrote it and with the configuration at hand. It is packetized after its
SPS was replaced, and the Receiver measures it by the StreamConfig that was sent.
-/

namespace PicooCamera.Sender

open PicooCamera.Library PicooCamera.Pairing PicooCamera.Protocol PicooCamera.Packet
open PicooCamera.Transport TransitionSystem

/-! ## What the Receiver was told -/

def tellConfig (configs : List StreamConfig) : SenderMark → List StreamConfig
  | .connected _ => []
  | .controlSent _ _ (.streamConfig wire) => configs ++ [wire]
  | _ => configs

/-- The StreamConfigs that were sent since the connection was adopted. -/
def toldConfigs (marks : List SenderMark) : List StreamConfig := marks.foldl tellConfig []

theorem toldConfigs_snoc (marks : List SenderMark) (mark : SenderMark) :
    toldConfigs (marks ++ [mark]) = tellConfig (toldConfigs marks) mark := by
  rw [toldConfigs, List.foldl_append]
  rfl

/-- The StreamConfig that was sent last for the epoch. -/
def configOf (configs : List StreamConfig) (streamEpoch : Nat) : Option StreamConfig :=
  configs.reverse.find? fun wire => wire.streamEpoch = streamEpoch

theorem configOf_snoc (configs : List StreamConfig) (wire : StreamConfig) :
    configOf (configs ++ [wire]) wire.streamEpoch = some wire := by
  unfold configOf
  rw [List.reverse_append, List.reverse_singleton, List.singleton_append]
  exact List.find?_cons_of_pos (decide_eq_true rfl)

/-- The format that the Receiver reads from it. -/
def announcedFormat (bitstream : Bitstream) (configs : List StreamConfig) (streamEpoch : Nat) :
    Option VideoFormat :=
  (configOf configs streamEpoch).bind fun wire => (bitstream.validatedVideoFormat wire).toOption

/-- An access unit that was packetized, with what the two sides had told each other. -/
structure PacketizedUnit where
  size : Nat
  streamEpoch : Nat
  configs : List StreamConfig
  offers : Option Capabilities
  deriving DecidableEq

/-- The access unit fits the offer of the StreamConfig that was sent for its epoch, and with it
the budget of a Receiver that made these offers and committed the StreamConfig. -/
structure WithinBudget (bitstream : Bitstream) (unit : PacketizedUnit) : Prop where
  offered : ∃ format, announcedFormat bitstream unit.configs unit.streamEpoch = some format ∧
    ∃ capabilities ∈ unit.offers, ∃ offer ∈ capabilities.offers,
      offer.format = some format ∧ unit.size ≤ offer.maxAccessUnitBytes
  passes : ∀ wire ∈ configOf unit.configs unit.streamEpoch, ∀ format,
    bitstream.validatedVideoFormat wire = .ok format →
      ∀ (receiver : Receiver.ReceiverSession) (capabilities : Capabilities),
        unit.offers = some (receiver.advertised capabilities) →
          ∀ budget ∈ receiver.admittedBudget capabilities format wire,
            ¬(receiver.media.commitConfig wire budget).exceedsBudget unit.size

/-! ## A callback up to its packets -/

namespace Core

open Program

section Operations

variable (P : SenderPlatform)

/-- A configuration of the committed encoder is published before its access unit. -/
def publishStaged (configStaged : Bool) : Core Unit := do
  let s ← session
  when (configStaged ∧ s.encoder.applyState.isApplying = false) (pump P)

/-- `submit_encoder_event` up to the admission of its access unit. -/
def publishEvent (event : NativeEncoderEvent) : Core (Option NativeEncoderAccessUnit) := do
  let prepared ← prepareEncoderEvent P event
  match prepared with
  | .ready unit configStaged => do
      publishStaged P configStaged
      pure (some unit)
  | _ => pure none

end Operations

end Core

/-- The access unit of a callback, and the session right before its admission. -/
def published (P : SenderPlatform) (event : NativeEncoderEvent) (s : SenderState) :
    Option (NativeEncoderAccessUnit × SenderState) :=
  match Program.exec (Core.publishEvent P event) s with
  | (.ok (some unit), t) => some (unit, t)
  | _ => none

/-- The access unit that the callback leads to, if it is packetized. -/
def packetizedBy (P : SenderPlatform) (event : NativeEncoderEvent) (s : SenderState) :
    Option PacketizedUnit :=
  (published P event s).bind fun (unit, t) =>
    match Program.exec (Core.ingestEncoderAccessUnit P unit) t with
    | (.ok _, u) =>
        some ⟨unit.data.length, unit.streamEpoch, toldConfigs u.trace,
          u.session.receiverCapabilities⟩
    | _ => none

/-! ## The host of the session -/

/-- The session, and the access units that were packetized so far. -/
structure HostState where
  sender : SenderState
  packetized : List PacketizedUnit

inductive HostCall where
  | operation (step : SenderStep)
  | submitEncoderEvent (event : NativeEncoderEvent)

def HostState.next (P : SenderPlatform) (h : HostState) : HostCall → HostState
  | .operation step => { h with sender := Core.next P h.sender step }
  | .submitEncoderEvent event =>
      { sender := Core.run (Core.submitEncoderEvent P event) h.sender
        packetized := h.packetized ++ (packetizedBy P event h.sender).toList }

def hostSystem (P : SenderPlatform) : TransitionSystem HostState HostCall where
  init h := ∃ identity trusted hasPath, h = ⟨SenderState.new identity trusted hasPath, []⟩
  step h call h' := h' = h.next P call

/-! ## What a callback has to meet -/

/-- The configuration that an access unit is checked with. -/
def checkedConfig (s : SenderSession) (event : NativeEncoderEvent) : Option StreamConfigParams :=
  event.streamConfig.or s.encoder.pendingStreamConfig

def checkedFormat (P : SenderPlatform) (s : SenderSession) (event : NativeEncoderEvent) :
    Option VideoFormat :=
  (checkedConfig s event).bind fun config =>
    (P.bitstream.videoFormat config.configuration config.fps).toOption

/-- Offers that admit the data admit it also after its alignment. -/
def admitsAligned (P : SenderPlatform) (capabilities : Capabilities)
    (config : StreamConfigParams) (data : Bytes) : Bool :=
  match P.bitstream.videoFormat config.configuration config.fps,
    P.bitstream.alignAccessUnit config.configuration data with
  | .ok format, .ok aligned =>
      !capabilities.supports format (P.bitstream.levelIdc config.configuration) data.length ||
        capabilities.supports format (P.bitstream.levelIdc config.configuration) aligned.length
  | _, _ => true

/-- The offers that a message makes. -/
def madeOffers : ControlPayload → Option Capabilities
  | .capabilities capabilities => some capabilities
  | _ => none

/-- Neither the Receiver nor its offers are replaced. -/
def SenderMark.KeepsOffers (capabilities : Capabilities) : SenderMark → Prop
  | .connected _ => False
  | .dispatched _ envelope => ∀ other ∈ madeOffers envelope.payload, other = capabilities
  | _ => True

instance (capabilities : Capabilities) (mark : SenderMark) :
    Decidable (mark.KeepsOffers capabilities) := by
  unfold SenderMark.KeepsOffers
  split <;> infer_instance

/-- Nothing takes the place of the access unit in the budget away. -/
structure KeepsBudget (P : SenderPlatform) (s : SenderState) (event : NativeEncoderEvent)
    (taken : List SenderMark) : Prop where
  /-- Where the alignment makes the data longer, the offers admit it still. -/
  aligned : ∀ capabilities ∈ s.session.receiverCapabilities,
    ∀ config ∈ checkedConfig s.session event,
      admitsAligned P capabilities config event.data = true
  /-- What is taken before the admission replaces neither the Receiver nor its offers. -/
  offers : ∀ capabilities ∈ s.session.receiverCapabilities, ∀ mark ∈ taken,
    mark.KeepsOffers capabilities
  /-- The configuration at hand was sent, where the event has none and no transaction sends it. -/
  announced : event.streamConfig = none →
    s.session.encoder.applyState.transactionIdForEpoch event.streamEpoch = 0 →
      announcedFormat P.bitstream (toldConfigs s.trace) event.streamEpoch =
        checkedFormat P s.session event

instance (P : SenderPlatform) (s : SenderState) (event : NativeEncoderEvent)
    (taken : List SenderMark) : Decidable (KeepsBudget P s event taken) :=
  decidable_of_iff
    ((∀ capabilities ∈ s.session.receiverCapabilities,
        ∀ config ∈ checkedConfig s.session event,
          admitsAligned P capabilities config event.data = true) ∧
      (∀ capabilities ∈ s.session.receiverCapabilities, ∀ mark ∈ taken,
        mark.KeepsOffers capabilities) ∧
        (event.streamConfig = none →
          s.session.encoder.applyState.transactionIdForEpoch event.streamEpoch = 0 →
            announcedFormat P.bitstream (toldConfigs s.trace) event.streamEpoch =
              checkedFormat P s.session event))
    ⟨fun ⟨aligned, offers, announced⟩ => ⟨aligned, offers, announced⟩,
      fun h => ⟨h.aligned, h.offers, h.announced⟩⟩

/-- What the session did and was told between its check of a callback and the admission. -/
def takenBetween (P : SenderPlatform) (event : NativeEncoderEvent) (s : SenderState) :
    List SenderMark :=
  match published P event s with
  | none => []
  | some (_, t) => t.trace.drop s.trace.length

/-- Every callback whose access unit is packetized keeps its budget. -/
def HostState.MeetsBudget (P : SenderPlatform) (h : HostState) : HostCall → Prop
  | .operation _ => True
  | .submitEncoderEvent event => (packetizedBy P event h.sender).isSome →
      KeepsBudget P h.sender event (takenBetween P event h.sender)

instance (P : SenderPlatform) (h : HostState) (call : HostCall) :
    Decidable (h.MeetsBudget P call) :=
  match call with
  | .operation _ => inferInstanceAs (Decidable True)
  | .submitEncoderEvent event => inferInstanceAs (Decidable
      ((packetizedBy P event h.sender).isSome →
        KeepsBudget P h.sender event (takenBetween P event h.sender)))

/-! ## Offers -/

section Offers

theorem ok_of_guard {ε α : Type} {c : Prop} [Decidable c] {error : ε} {x : Except ε α} {a : α}
    (h : (if c then .error error else x) = .ok a) : ¬c ∧ x = .ok a := by
  split at h
  next hc => exact nomatch h
  next hc => exact ⟨hc, h⟩

variable {capabilities : Capabilities} {format : VideoFormat} {offer other : DecoderOffer}

theorem nodup_of_validateOffers {earlier offers : List DecoderOffer}
    (h : Capabilities.validateOffers earlier offers = .ok ())
    (hearlier : (earlier.map DecoderOffer.format).Nodup) :
    ((earlier ++ offers).map DecoderOffer.format).Nodup := by
  induction offers generalizing earlier with
  | nil => rwa [List.append_nil]
  | cons offer rest ih =>
      unfold Capabilities.validateOffers at h
      cases hformat : offer.format with
      | none =>
          rw [hformat] at h
          exact nomatch h
      | some format =>
          rw [hformat] at h
          obtain ⟨_, -, hlevel⟩ := Bitstream.bind_ok.mp h
          by_cases haccepted : format.acceptsLevel offer.maxLevelIdc = true
          · rw [if_pos haccepted] at hlevel
            obtain ⟨hnew, hrest⟩ := ok_of_guard (ok_of_guard hlevel).2
            rw [List.append_cons]
            refine ih hrest ?_
            rw [List.map_append, List.map_singleton, List.nodup_append]
            refine ⟨hearlier, List.nodup_singleton _, ?_⟩
            intro seen hseen new hadded hsame
            obtain ⟨other, hother, rfl⟩ := List.mem_map.mp hseen
            rw [List.mem_singleton.mp hadded] at hsame
            exact hnew (List.any_eq_true.mpr ⟨other, hother, decide_eq_true (hsame.trans hformat)⟩)
          · rw [if_neg haccepted] at hlevel
            exact nomatch hlevel

theorem offer_unique (hvalid : capabilities.validate.isOk = true)
    (hoffer : offer ∈ capabilities.offers) (hother : other ∈ capabilities.offers)
    (hsame : offer.format = other.format) : offer = other := by
  unfold Capabilities.validate at hvalid
  split at hvalid
  · exact nomatch hvalid
  · have hnodup := @nodup_of_validateOffers [] capabilities.offers ?_ List.nodup_nil
    · exact List.inj_on_of_nodup_map hnodup hoffer hother hsame
    · cases hoffers : Capabilities.validateOffers [] capabilities.offers with
      | error error =>
          rw [hoffers] at hvalid
          exact nomatch hvalid
      | ok valid => rfl

structure Supports (capabilities : Capabilities) (format : VideoFormat) (size : Nat)
    (offer : DecoderOffer) : Prop where
  valid : capabilities.validate.isOk = true
  mem : offer ∈ capabilities.offers
  format : offer.format = some format
  fits : size ≤ offer.maxAccessUnitBytes

theorem exists_offer_of_supports {level size : Nat}
    (h : capabilities.supports format level size = true) :
    ∃ offer, Supports capabilities format size offer := by
  unfold Capabilities.supports at h
  simp only [Bool.and_eq_true, List.any_eq_true, decide_eq_true_eq] at h
  obtain ⟨⟨⟨⟨hvalid, -⟩, -⟩, -⟩, offer, hmem, hformat, -, hfits⟩ := h
  exact ⟨offer, hvalid, hmem, hformat, hfits⟩

theorem budget_of_commitConfig (m : Receiver.MediaState) (wire : StreamConfig) (budget : Nat) :
    (m.commitConfig wire budget).admittedAccessUnitBudget = some budget := by
  unfold Receiver.MediaState.commitConfig
  dsimp only
  split
  · rfl
  split
  · rfl
  split <;> rfl

theorem Supports.passes {size : Nat} {receiver : Receiver.ReceiverSession}
    (h : Supports (receiver.advertised capabilities) format size offer) {wire : StreamConfig}
    {budget : Nat} (hbudget : receiver.admittedBudget capabilities format wire = some budget) :
    ¬(receiver.media.commitConfig wire budget).exceedsBudget size := by
  unfold Receiver.ReceiverSession.admittedBudget at hbudget
  split at hbudget
  · exact nomatch hbudget
  next hadmitted =>
    rw [not_or, Bool.not_eq_false] at hadmitted
    obtain ⟨_, hvalid, -⟩ := exists_offer_of_supports hadmitted.2
    obtain ⟨found, hfound, hfoundBudget⟩ := Option.map_eq_some_iff.mp hbudget
    have hmem : offer ∈ capabilities.offers := List.mem_of_mem_filter h.mem
    have hsame : found = offer := by
      refine offer_unique hvalid (List.mem_of_find?_eq_some hfound) hmem ?_
      have hformat := List.find?_some hfound
      rw [of_decide_eq_true hformat, h.format]
    rintro ⟨admitted, hcommitted, hexceeds⟩
    rw [budget_of_commitConfig, Option.mem_some_iff] at hcommitted
    have hfits := h.fits
    rw [← hcommitted, ← hfoundBudget, hsame] at hexceeds
    exact absurd hexceeds (Nat.not_lt.mpr hfits)

end Offers

end PicooCamera.Sender
