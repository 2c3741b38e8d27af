import PicooCamera.FrameHub.NativeSurface
import PicooCamera.Library.History
import PicooCamera.Library.SlotTable
import PicooCamera.Library.TransitionSystem

/-!
# The native channel

The offers of surfaces to the other process, from the handshake to the close of
the channel. The ledger of a run keeps what the callers were told, and the life
of an offer is what it says of one id.
-/

namespace PicooCamera.FrameHub

open PicooCamera.Library Program

def maxInFlight : Nat := 3

inductive WindowsNativeOfferState where
  | offered
  | imported
  deriving DecidableEq, Repr

inductive WindowsNativeChannelError where
  | invalidGeneration
  | invalidState
  | invalidDescriptor
  | tooManyInFlight
  | unknownOffer
  | invalidAcknowledgement
  deriving DecidableEq, Repr

inductive WindowsNativeChannelState where
  | disconnected
  | awaitingReady
  | ready
  | closed
  deriving DecidableEq, Repr

structure WindowsNativeOffer where
  id : UInt64
  phase : WindowsNativeOfferState
  deriving DecidableEq, Repr

structure WindowsNativeChannel where
  state : WindowsNativeChannelState
  sourceConnectionGeneration : UInt64
  streamEpoch : UInt64
  adapter : WindowsAdapterId
  resourceGeneration : UInt64
  backendGeneration : UInt64
  outputRevision : UInt64
  nextOfferId : UInt64
  inFlight : List (Option WindowsNativeOffer)
  deriving DecidableEq, Repr

/-- What a ready and a descriptor have to agree on with the channel. -/
structure NativeGenerations where
  sourceConnectionGeneration : UInt64
  streamEpoch : UInt64
  resourceGeneration : UInt64
  backendGeneration : UInt64
  outputRevision : UInt64
  deriving DecidableEq, Repr

def WindowsNativeChannel.generations (channel : WindowsNativeChannel) : NativeGenerations :=
  ⟨channel.sourceConnectionGeneration, channel.streamEpoch, channel.resourceGeneration,
    channel.backendGeneration, channel.outputRevision⟩

def WindowsSharedSurfaceIdentity.generations (identity : WindowsSharedSurfaceIdentity) :
    NativeGenerations :=
  ⟨identity.sourceConnectionGeneration, identity.streamEpoch, identity.resourceGeneration,
    identity.backendGeneration, identity.outputRevision⟩

structure WindowsNativeChannelCloseReport where
  offers : List (UInt64 × WindowsNativeOfferState)
  len : Nat
  deriving DecidableEq, Repr

namespace WindowsNativeChannelCloseReport

def empty : WindowsNativeChannelCloseReport :=
  ⟨List.replicate maxInFlight (0, .offered), 0⟩

def push (report : WindowsNativeChannelCloseReport) (offer : WindowsNativeOffer) :
    WindowsNativeChannelCloseReport :=
  ⟨report.offers.set report.len (offer.id, offer.phase), report.len + 1⟩

def outstanding (report : WindowsNativeChannelCloseReport) :
    List (UInt64 × WindowsNativeOfferState) :=
  report.offers.take report.len

end WindowsNativeChannelCloseReport

/-- `checked_add(1)` -/
def checkedSucc (value : UInt64) : Option UInt64 :=
  if value.toNat + 1 < UInt64.size then some (value + 1) else none

/-- The first slot that holds the offer, and the offer. -/
def findOffer (offerId : UInt64) :
    List (Option WindowsNativeOffer) → Option (Nat × WindowsNativeOffer)
  | [] => none
  | slot :: slots =>
      if slot.any fun offer => offer.id = offerId then slot.map fun offer => (0, offer)
      else (findOffer offerId slots).map fun found => (found.1 + 1, found.2)

abbrev ChannelProgram := Program WindowsNativeChannel WindowsNativeChannelError

namespace WindowsNativeChannel

def new (sourceConnectionGeneration streamEpoch : UInt64) (adapter : WindowsAdapterId)
    (resourceGeneration backendGeneration outputRevision : UInt64) :
    Except WindowsNativeChannelError WindowsNativeChannel :=
  if sourceConnectionGeneration = 0 ∨ resourceGeneration = 0 ∨ backendGeneration = 0 then
    .error .invalidGeneration
  else
    .ok ⟨.disconnected, sourceConnectionGeneration, streamEpoch, adapter, resourceGeneration,
      backendGeneration, outputRevision, 1, List.replicate maxInFlight none⟩

def setState (state : WindowsNativeChannelState) (channel : WindowsNativeChannel) :
    WindowsNativeChannel :=
  { channel with state := state }

def setSlot (index : Nat) (slot : Option WindowsNativeOffer) (channel : WindowsNativeChannel) :
    WindowsNativeChannel :=
  { channel with inFlight := channel.inFlight.set index slot }

def setNextOfferId (next : UInt64) (channel : WindowsNativeChannel) : WindowsNativeChannel :=
  { channel with nextOfferId := next }

def beginHandshake : ChannelProgram Unit := do
  let channel ← read id
  if channel.state ≠ .disconnected then fail .invalidState
  else update (setState .awaitingReady)

def acceptReady (sourceConnectionGeneration streamEpoch resourceGeneration backendGeneration
    outputRevision : UInt64) : ChannelProgram Unit := do
  let channel ← read id
  if channel.state ≠ .awaitingReady then fail .invalidState
  else if sourceConnectionGeneration ≠ channel.sourceConnectionGeneration ∨
      streamEpoch ≠ channel.streamEpoch ∨ resourceGeneration ≠ channel.resourceGeneration ∨
      backendGeneration ≠ channel.backendGeneration ∨
      outputRevision ≠ channel.outputRevision then fail .invalidGeneration
  else update (setState .ready)

/-- What `offer_frame` refuses with `InvalidDescriptor`. -/
def Refuses (channel : WindowsNativeChannel) (descriptor : WindowsSharedSurfaceDescriptor) :
    Prop :=
  descriptor.adapter ≠ channel.adapter ∨
    ¬ (descriptor.format = .bgra8 ∨ descriptor.format = .nv12) ∨
    descriptor.keyedMutexKey ≠ 0 ∨ descriptor.identity.isValid = false ∨
    descriptor.identity.sourceConnectionGeneration ≠ channel.sourceConnectionGeneration ∨
    descriptor.identity.streamEpoch ≠ channel.streamEpoch ∨
    descriptor.identity.resourceGeneration ≠ channel.resourceGeneration ∨
    descriptor.identity.backendGeneration ≠ channel.backendGeneration ∨
    descriptor.identity.outputRevision ≠ channel.outputRevision

instance (channel : WindowsNativeChannel) (descriptor : WindowsSharedSurfaceDescriptor) :
    Decidable (channel.Refuses descriptor) :=
  inferInstanceAs (Decidable (_ ∨ _))

def offerFrame (descriptor : WindowsSharedSurfaceDescriptor) : ChannelProgram UInt64 := do
  let channel ← read id
  if channel.state ≠ .ready then fail .invalidState
  else if channel.Refuses descriptor then fail .invalidDescriptor
  else
    match channel.inFlight.findIdx? Option.isNone with
    | none => fail .tooManyInFlight
    | some slotIndex =>
        match checkedSucc channel.nextOfferId with
        | none => fail .invalidGeneration
        | some next => do
            update (setNextOfferId next)
            update (setSlot slotIndex (some ⟨channel.nextOfferId, .offered⟩))
            pure channel.nextOfferId

def acknowledge (offerId : UInt64) (ack : WindowsNativeChannelAck) : ChannelProgram Unit := do
  let channel ← read id
  if channel.state ≠ .ready then fail .invalidState
  else
    match findOffer offerId channel.inFlight with
    | none => fail .unknownOffer
    | some (slot, offer) =>
        match offer.phase, ack with
        | .offered, .imported => update (setSlot slot (some { offer with phase := .imported }))
        | .offered, .rejected => update (setSlot slot none)
        | .imported, .released => update (setSlot slot none)
        | _, _ => fail .invalidAcknowledgement

def close (channel : WindowsNativeChannel) :
    WindowsNativeChannelCloseReport × WindowsNativeChannel :=
  (channel.inFlight.reduceOption.foldl WindowsNativeChannelCloseReport.push .empty,
    { channel with
      state := .closed
      inFlight := channel.inFlight.map fun _ => none })

end WindowsNativeChannel

/-! ## Calls and their ledger -/

inductive ChannelCall where
  | beginHandshake
  | acceptReady (generations : NativeGenerations)
  | offerFrame (descriptor : WindowsSharedSurfaceDescriptor)
  | acknowledge (offerId : UInt64) (ack : WindowsNativeChannelAck)
  | close
  deriving DecidableEq, Repr

/-- What a successful call tells its caller. -/
inductive ChannelEvent where
  | begun
  | readied (generations : NativeGenerations)
  | offered (offerId : UInt64) (descriptor : WindowsSharedSurfaceDescriptor)
  | acknowledged (offerId : UInt64) (ack : WindowsNativeChannelAck)
  | reported (offerId : UInt64) (phase : WindowsNativeOfferState)
  | closed
  deriving DecidableEq, Repr

namespace ChannelCall

open WindowsNativeChannel

/-- The call, with the events of its success. -/
def run : ChannelCall → ChannelProgram (List ChannelEvent)
  | .beginHandshake => do
      WindowsNativeChannel.beginHandshake
      pure [.begun]
  | .acceptReady generations => do
      WindowsNativeChannel.acceptReady generations.sourceConnectionGeneration
        generations.streamEpoch generations.resourceGeneration generations.backendGeneration
        generations.outputRevision
      pure [.readied generations]
  | .offerFrame descriptor => do
      let offerId ← WindowsNativeChannel.offerFrame descriptor
      pure [.offered offerId descriptor]
  | .acknowledge offerId ack => do
      WindowsNativeChannel.acknowledge offerId ack
      pure [.acknowledged offerId ack]
  | .close => do
      let channel ← read id
      update fun channel => channel.close.2
      pure (channel.close.1.outstanding.map (fun offer => .reported offer.1 offer.2) ++ [.closed])

end ChannelCall

structure ChannelRun where
  channel : WindowsNativeChannel
  history : List ChannelEvent

def ChannelRun.start (channel : WindowsNativeChannel) : ChannelRun := ⟨channel, []⟩

def eventsOf : Except WindowsNativeChannelError (List ChannelEvent) → List ChannelEvent
  | .ok events => events
  | .error _ => []

def ChannelRun.step (x : ChannelRun) (call : ChannelCall) : ChannelRun :=
  let outcome := exec call.run x.channel
  ⟨outcome.2, x.history ++ eventsOf outcome.1⟩

/-! ## What a call does -/

/-- The acknowledgement that ends an offer in the given phase. -/
inductive Settles : WindowsNativeOfferState → WindowsNativeChannelAck → Prop
  | rejected : Settles .offered .rejected
  | released : Settles .imported .released

/-- The effect of a successful call, and what it says. -/
inductive ChannelMove (c : WindowsNativeChannel) :
    WindowsNativeChannel → List ChannelEvent → Prop
  | begun (hstate : c.state = .disconnected) :
      ChannelMove c (c.setState .awaitingReady) [.begun]
  | readied (hstate : c.state = .awaitingReady) :
      ChannelMove c (c.setState .ready) [.readied c.generations]
  | offered {slot : Nat} {next : UInt64} {descriptor : WindowsSharedSurfaceDescriptor}
      (hstate : c.state = .ready) (hmatch : descriptor.identity.generations = c.generations)
      (hfree : c.inFlight[slot]? = some none) (hnext : checkedSucc c.nextOfferId = some next) :
      ChannelMove c ((c.setNextOfferId next).setSlot slot (some ⟨c.nextOfferId, .offered⟩))
        [.offered c.nextOfferId descriptor]
  | imported {slot : Nat} {offerId : UInt64} (hstate : c.state = .ready)
      (hslot : c.inFlight[slot]? = some (some ⟨offerId, .offered⟩)) :
      ChannelMove c (c.setSlot slot (some ⟨offerId, .imported⟩))
        [.acknowledged offerId .imported]
  | settled {slot : Nat} {offerId : UInt64} {phase : WindowsNativeOfferState}
      {ack : WindowsNativeChannelAck} (hstate : c.state = .ready)
      (hslot : c.inFlight[slot]? = some (some ⟨offerId, phase⟩)) (hsettles : Settles phase ack) :
      ChannelMove c (c.setSlot slot none) [.acknowledged offerId ack]
  | closed : ChannelMove c c.close.2
      (c.close.1.outstanding.map (fun offer => .reported offer.1 offer.2) ++ [.closed])

theorem findOffer_some {offerId : UInt64} {slots : List (Option WindowsNativeOffer)}
    {found : Nat × WindowsNativeOffer} (h : findOffer offerId slots = some found) :
    slots[found.1]? = some (some found.2) ∧ found.2.id = offerId := by
  induction slots generalizing found with
  | nil => cases h
  | cons slot slots ih =>
      rw [findOffer] at h
      by_cases hslot : (slot.any fun offer => offer.id = offerId) = true
      · rw [if_pos hslot] at h
        cases slot with
        | none => cases hslot
        | some offer =>
            cases h
            exact ⟨rfl, by simpa using hslot⟩
      · rw [if_neg hslot] at h
        obtain ⟨deeper, hdeeper, rfl⟩ := Option.map_eq_some_iff.mp h
        exact ih hdeeper

theorem free_slot {slots : List (Option WindowsNativeOffer)} {slot : Nat}
    (h : slots.findIdx? Option.isNone = some slot) : slots[slot]? = some none := by
  obtain ⟨hlt, hnone, -⟩ := List.findIdx?_eq_some_iff_getElem.mp h
  rw [List.getElem?_eq_getElem hlt, Option.isNone_iff_eq_none.mp hnone]

section Calls

variable {c : WindowsNativeChannel}

open WindowsNativeChannel

theorem beginHandshake_cases :
    (∃ error, exec beginHandshake c = (.error error, c)) ∨
      c.state = .disconnected ∧
        exec beginHandshake c = (.ok (), c.setState .awaitingReady) := by
  unfold beginHandshake
  rw [exec_read_bind]
  dsimp only [id_eq]
  by_cases hstate : c.state = .disconnected
  · exact Or.inr ⟨hstate, by rw [if_neg (not_not_intro hstate), exec_update]⟩
  · exact Or.inl ⟨_, by rw [if_pos hstate, exec_fail]⟩

theorem acceptReady_cases (g : NativeGenerations) :
    (∃ error, exec (acceptReady g.sourceConnectionGeneration g.streamEpoch g.resourceGeneration
        g.backendGeneration g.outputRevision) c = (.error error, c)) ∨
      c.state = .awaitingReady ∧ g = c.generations ∧
        exec (acceptReady g.sourceConnectionGeneration g.streamEpoch g.resourceGeneration
          g.backendGeneration g.outputRevision) c = (.ok (), c.setState .ready) := by
  unfold acceptReady
  rw [exec_read_bind]
  dsimp only [id_eq]
  by_cases hstate : c.state = .awaitingReady
  · rw [if_neg (not_not_intro hstate)]
    split
    · exact Or.inl ⟨_, rfl⟩
    · rename_i hmatch
      simp only [not_or, not_not] at hmatch
      obtain ⟨hconnection, hepoch, hresource, hbackend, hrevision⟩ := hmatch
      refine Or.inr ⟨hstate, ?_, rfl⟩
      rw [generations, ← hconnection, ← hepoch, ← hresource, ← hbackend, ← hrevision]
  · exact Or.inl ⟨_, by rw [if_pos hstate, exec_fail]⟩

theorem offerFrame_cases (descriptor : WindowsSharedSurfaceDescriptor) :
    (∃ error, exec (offerFrame descriptor) c = (.error error, c)) ∨
      ∃ slot next, c.state = .ready ∧ descriptor.identity.generations = c.generations ∧
        c.inFlight[slot]? = some none ∧ checkedSucc c.nextOfferId = some next ∧
        exec (offerFrame descriptor) c = (.ok c.nextOfferId,
          (c.setNextOfferId next).setSlot slot (some ⟨c.nextOfferId, .offered⟩)) := by
  unfold offerFrame
  rw [exec_read_bind]
  dsimp only [id_eq]
  by_cases hstate : c.state = .ready
  · rw [if_neg (not_not_intro hstate)]
    by_cases hrefuses : c.Refuses descriptor
    · exact Or.inl ⟨_, by rw [if_pos hrefuses, exec_fail]⟩
    rw [if_neg hrefuses]
    cases hslot : c.inFlight.findIdx? Option.isNone with
    | none => exact Or.inl ⟨_, rfl⟩
    | some slot =>
        cases hnext : checkedSucc c.nextOfferId with
        | none => exact Or.inl ⟨_, rfl⟩
        | some next =>
            unfold Refuses at hrefuses
            simp only [not_or, not_not] at hrefuses
            obtain ⟨-, -, -, -, hconnection, hepoch, hresource, hbackend, hrevision⟩ := hrefuses
            refine Or.inr ⟨slot, next, hstate, ?_, free_slot hslot, rfl, rfl⟩
            rw [generations, ← hconnection, ← hepoch, ← hresource, ← hbackend, ← hrevision]
            rfl
  · exact Or.inl ⟨_, by rw [if_pos hstate, exec_fail]⟩

theorem acknowledge_cases (offerId : UInt64) (ack : WindowsNativeChannelAck) :
    (∃ error, exec (acknowledge offerId ack) c = (.error error, c)) ∨
      ∃ d, exec (acknowledge offerId ack) c = (.ok (), d) ∧
        ChannelMove c d [.acknowledged offerId ack] := by
  unfold acknowledge
  rw [exec_read_bind]
  dsimp only [id_eq]
  by_cases hstate : c.state = .ready
  · rw [if_neg (not_not_intro hstate)]
    cases hfound : findOffer offerId c.inFlight with
    | none => exact Or.inl ⟨_, rfl⟩
    | some found =>
        obtain ⟨slot, id, phase⟩ := found
        obtain ⟨hslot, hid⟩ := findOffer_some hfound
        obtain rfl : id = offerId := hid
        cases phase with
        | offered =>
            cases ack with
            | imported => exact Or.inr ⟨_, rfl, .imported hstate hslot⟩
            | rejected => exact Or.inr ⟨_, rfl, .settled hstate hslot .rejected⟩
            | released => exact Or.inl ⟨_, rfl⟩
        | imported =>
            cases ack with
            | released => exact Or.inr ⟨_, rfl, .settled hstate hslot .released⟩
            | imported => exact Or.inl ⟨_, rfl⟩
            | rejected => exact Or.inl ⟨_, rfl⟩
  · exact Or.inl ⟨_, by rw [if_pos hstate, exec_fail]⟩

end Calls

theorem call_cases (call : ChannelCall) (c : WindowsNativeChannel) :
    (∃ error, exec call.run c = (.error error, c)) ∨
      ∃ events d, exec call.run c = (.ok events, d) ∧ ChannelMove c d events := by
  cases call with
  | beginHandshake =>
      obtain ⟨error, herror⟩ | ⟨hstate, hrun⟩ := beginHandshake_cases (c := c)
      · exact Or.inl ⟨error, exec_bind_error herror⟩
      · exact Or.inr ⟨_, _, exec_bind_ok hrun, .begun hstate⟩
  | acceptReady generations =>
      obtain ⟨error, herror⟩ | ⟨hstate, rfl, hrun⟩ := acceptReady_cases (c := c) generations
      · exact Or.inl ⟨error, exec_bind_error herror⟩
      · exact Or.inr ⟨_, _, exec_bind_ok hrun, .readied hstate⟩
  | offerFrame descriptor =>
      obtain ⟨error, herror⟩ | ⟨slot, next, hstate, hmatch, hfree, hnext, hrun⟩ :=
        offerFrame_cases (c := c) descriptor
      · exact Or.inl ⟨error, exec_bind_error herror⟩
      · exact Or.inr ⟨_, _, exec_bind_ok hrun, .offered hstate hmatch hfree hnext⟩
  | acknowledge offerId ack =>
      obtain ⟨error, herror⟩ | ⟨d, hrun, hmove⟩ := acknowledge_cases (c := c) offerId ack
      · exact Or.inl ⟨error, exec_bind_error herror⟩
      · exact Or.inr ⟨_, _, exec_bind_ok hrun, hmove⟩
  | close => exact Or.inr ⟨_, _, rfl, .closed⟩

theorem ChannelRun.step_cases (x : ChannelRun) (call : ChannelCall) :
    x.step call = x ∨
      ∃ events d, x.step call = ⟨d, x.history ++ events⟩ ∧ ChannelMove x.channel d events := by
  unfold step
  obtain ⟨error, herror⟩ | ⟨events, d, hrun, hmove⟩ := call_cases call x.channel
  · rw [herror]
    exact Or.inl (by simp [eventsOf])
  · rw [hrun]
    exact Or.inr ⟨events, d, rfl, hmove⟩

/-! ## The close report -/

theorem outstanding_push {report : WindowsNativeChannelCloseReport}
    (h : report.len < report.offers.length) (offer : WindowsNativeOffer) :
    (report.push offer).outstanding = report.outstanding ++ [(offer.id, offer.phase)] := by
  unfold WindowsNativeChannelCloseReport.outstanding WindowsNativeChannelCloseReport.push
  rw [List.take_add_one, List.take_set_of_le (Nat.le_refl _), List.getElem?_set_self h]
  rfl

theorem outstanding_foldl (offers : List WindowsNativeOffer)
    (report : WindowsNativeChannelCloseReport)
    (h : report.len + offers.length ≤ report.offers.length) :
    (offers.foldl WindowsNativeChannelCloseReport.push report).outstanding =
      report.outstanding ++ offers.map fun offer => (offer.id, offer.phase) := by
  induction offers generalizing report with
  | nil => simp
  | cons offer offers ih =>
      rw [List.length_cons] at h
      rw [List.foldl_cons, ih, outstanding_push (by omega)]
      · simp
      · have hlength : (report.push offer).offers.length = report.offers.length :=
          List.length_set
        have hlen : (report.push offer).len = report.len + 1 := rfl
        omega

theorem outstanding_close {c : WindowsNativeChannel} (h : c.inFlight.length = maxInFlight) :
    c.close.1.outstanding =
      c.inFlight.reduceOption.map fun offer => (offer.id, offer.phase) := by
  have hoffers := List.reduceOption_length_le c.inFlight
  have hroom : WindowsNativeChannelCloseReport.empty.offers.length = maxInFlight := rfl
  have hempty : WindowsNativeChannelCloseReport.empty.len = 0 := rfl
  unfold WindowsNativeChannel.close
  rw [outstanding_foldl _ _ (by omega)]
  rfl

/-! ## The life of an offer -/

inductive OfferStage where
  | offered
  | acknowledged (ack : WindowsNativeChannelAck)
  | reported (phase : WindowsNativeOfferState)
  deriving DecidableEq, Repr

def stageOf (offerId : UInt64) : ChannelEvent → Option OfferStage
  | .offered id _ => if id = offerId then some .offered else none
  | .acknowledged id ack => if id = offerId then some (.acknowledged ack) else none
  | .reported id phase => if id = offerId then some (.reported phase) else none
  | _ => none

def offerIdOf : ChannelEvent → Option UInt64
  | .offered id _ => some id
  | _ => none

/-- The life of an offer that is in flight. -/
def openLife : WindowsNativeOfferState → List OfferStage
  | .offered => [.offered]
  | .imported => [.offered, .acknowledged .imported]

/-- The lives that an offer can have. -/
inductive OfferLife : List OfferStage → Prop
  | held (phase : WindowsNativeOfferState) : OfferLife (openLife phase)
  | rejected : OfferLife [.offered, .acknowledged .rejected]
  | released : OfferLife [.offered, .acknowledged .imported, .acknowledged .released]
  | reported (phase : WindowsNativeOfferState) : OfferLife (openLife phase ++ [.reported phase])

theorem openLife_injective : Function.Injective openLife := by
  intro phase other h
  cases phase <;> cases other <;> first | rfl | cases h

theorem OfferLife.of_settles {phase : WindowsNativeOfferState} {ack : WindowsNativeChannelAck}
    (h : Settles phase ack) : OfferLife (openLife phase ++ [.acknowledged ack]) := by
  cases h with
  | rejected => exact .rejected
  | released => exact .released

theorem openLife_ne_settled {phase other : WindowsNativeOfferState}
    {ack : WindowsNativeChannelAck} (h : Settles phase ack) :
    openLife phase ++ [.acknowledged ack] ≠ openLife other := by
  cases h <;> cases other <;> decide

theorem openLife_ne_reported (phase other : WindowsNativeOfferState) :
    openLife phase ++ [.reported phase] ≠ openLife other := by
  cases phase <;> cases other <;> decide

theorem openLife_ne_nil (phase : WindowsNativeOfferState) : openLife phase ≠ [] := by
  cases phase <;> decide

namespace ChannelRun

def life (x : ChannelRun) (offerId : UInt64) : List OfferStage :=
  x.history.filterMap (stageOf offerId)

/-- The ids handed out, in the order of the offers. -/
def offerIds (x : ChannelRun) : List UInt64 := x.history.filterMap offerIdOf

/-- The offer is neither released nor rejected nor reported. -/
def Held (x : ChannelRun) (offerId : UInt64) : Prop :=
  x.life offerId = openLife .offered ∨ x.life offerId = openLife .imported

instance (x : ChannelRun) (offerId : UInt64) : Decidable (x.Held offerId) :=
  inferInstanceAs (Decidable (_ ∨ _))

/-- An offer comes after the ready of its generations, and before a close. -/
def OfferInOrder (before : List ChannelEvent) (event : ChannelEvent) (_ : List ChannelEvent) :
    Prop :=
  ∀ offerId descriptor, event = .offered offerId descriptor →
    .readied descriptor.identity.generations ∈ before ∧ .closed ∉ before

/-- What the ledger of a channel says. -/
structure Accounted (x : ChannelRun) : Prop where
  bounded : (x.offerIds.filter fun offerId => x.Held offerId).length ≤ maxInFlight
  increasing : x.offerIds.Pairwise (· < ·)
  lives : ∀ offerId ∈ x.offerIds, OfferLife (x.life offerId)
  unissued : ∀ offerId, offerId ∉ x.offerIds → x.life offerId = []
  settled : x.channel.state = .closed → ∀ offerId, ¬ x.Held offerId
  inOrder : Splits OfferInOrder x.history

/-- What a call adds. -/
structure NextCall (x : ChannelRun) (call : ChannelCall) : Prop where
  /-- An error leaves the channel and its ledger as they are. -/
  unchanged : ∀ error, (exec call.run x.channel).1 = .error error →
    (exec call.run x.channel).2 = x.channel ∧ x.step call = x
  /-- A close reports the offers in flight, each once and in its phase. -/
  reports : ∀ offerId phase, (offerId, phase) ∈ x.channel.close.1.outstanding ↔
    x.life offerId = openLife phase
  reportsOnce : (x.channel.close.1.outstanding.map Prod.fst).Nodup
  /-- Before a close these are the offers neither released nor rejected. -/
  reportsAll : x.channel.state ≠ .closed → ∀ offerId,
    offerId ∈ x.channel.close.1.outstanding.map Prod.fst ↔
      offerId ∈ x.offerIds ∧ .acknowledged .released ∉ x.life offerId ∧
        .acknowledged .rejected ∉ x.life offerId

/-! ## The invariant of a run -/

structure Coherent (x : ChannelRun) : Prop where
  slots : x.channel.inFlight.length = maxInFlight
  heldOnce : HeldOnce WindowsNativeOffer.id x.channel.inFlight
  held : ∀ offerId phase, some ⟨offerId, phase⟩ ∈ x.channel.inFlight ↔
    x.life offerId = openLife phase
  issued : ∀ offerId ∈ x.offerIds, offerId < x.channel.nextOfferId
  increasing : x.offerIds.Pairwise (· < ·)
  lives : ∀ offerId ∈ x.offerIds, OfferLife (x.life offerId)
  unissued : ∀ offerId, offerId ∉ x.offerIds → x.life offerId = []
  shut : x.channel.state = .closed → ∀ offer, some offer ∉ x.channel.inFlight
  unclosed : x.channel.state ≠ .closed → .closed ∉ x.history
  unreported : x.channel.state ≠ .closed → ∀ offerId phase, .reported offerId phase ∉ x.history
  readied : x.channel.state = .ready → .readied x.channel.generations ∈ x.history
  inOrder : Splits OfferInOrder x.history

variable {x : ChannelRun} {d : WindowsNativeChannel} {e : ChannelEvent}

theorem life_snoc (offerId : UInt64) :
    (ChannelRun.mk d (x.history ++ [e])).life offerId =
      x.life offerId ++ (stageOf offerId e).toList :=
  filterMap_snoc _ _ _

theorem offerIds_snoc :
    (ChannelRun.mk d (x.history ++ [e])).offerIds = x.offerIds ++ (offerIdOf e).toList :=
  filterMap_snoc _ _ _

theorem Coherent.life_of_mem (h : Coherent x) {offer : WindowsNativeOffer}
    (hmem : some offer ∈ x.channel.inFlight) : x.life offer.id = openLife offer.phase :=
  (h.held offer.id offer.phase).mp hmem

theorem Coherent.issued_of_mem (h : Coherent x) {offer : WindowsNativeOffer}
    (hmem : some offer ∈ x.channel.inFlight) : offer.id ∈ x.offerIds := by
  by_contra hnot
  exact openLife_ne_nil offer.phase ((h.life_of_mem hmem).symm.trans (h.unissued _ hnot))

theorem Coherent.inOrder_snoc (h : Coherent x)
    (hevent : ∀ offerId descriptor, e = .offered offerId descriptor →
      .readied descriptor.identity.generations ∈ x.history ∧ .closed ∉ x.history) :
    Splits OfferInOrder (x.history ++ [e]) :=
  Splits.snoc hevent fun before event early hsplit => h.inOrder before event early hsplit

theorem Coherent.mem_snoc {a : ChannelEvent} (hold : a ∉ x.history) (hne : a ≠ e) :
    a ∉ x.history ++ [e] := by
  simp [hold, hne]

theorem Coherent.handshake (h : Coherent x) {state : WindowsNativeChannelState}
    (hopen : x.channel.state ≠ .closed) (hstate : state ≠ .closed)
    (hevent : (e = .begun ∧ state ≠ .ready) ∨ e = .readied x.channel.generations) :
    Coherent ⟨x.channel.setState state, x.history ++ [e]⟩ := by
  have hstage : ∀ offerId, stageOf offerId e = none := by
    intro offerId
    rcases hevent with ⟨rfl, -⟩ | rfl <;> rfl
  have hid : offerIdOf e = none := by
    rcases hevent with ⟨rfl, -⟩ | rfl <;> rfl
  have hlife : ∀ offerId, (ChannelRun.mk (x.channel.setState state) (x.history ++ [e])).life
      offerId = x.life offerId := by
    intro offerId
    rw [life_snoc, hstage, Option.toList_none, List.append_nil]
  have hids : (ChannelRun.mk (x.channel.setState state) (x.history ++ [e])).offerIds =
      x.offerIds := by
    rw [offerIds_snoc, hid, Option.toList_none, List.append_nil]
  constructor
  case slots => exact h.slots
  case heldOnce => exact h.heldOnce
  case held =>
    intro offerId phase
    rw [hlife]
    exact h.held offerId phase
  case issued => rw [hids]; exact h.issued
  case increasing => rw [hids]; exact h.increasing
  case lives =>
    intro offerId
    rw [hids, hlife]
    exact h.lives offerId
  case unissued =>
    intro offerId
    rw [hids, hlife]
    exact h.unissued offerId
  case shut => exact fun hclosed => (hstate hclosed).elim
  case unclosed =>
    intro _
    apply mem_snoc (h.unclosed hopen)
    rcases hevent with ⟨rfl, -⟩ | rfl <;> nofun
  case unreported =>
    intro _ offerId phase
    apply mem_snoc (h.unreported hopen offerId phase)
    rcases hevent with ⟨rfl, -⟩ | rfl <;> nofun
  case readied =>
    intro hready
    rcases hevent with ⟨-, hnot⟩ | rfl
    · exact (hnot hready).elim
    · exact List.mem_append_right _ List.mem_cons_self
  case inOrder =>
    apply h.inOrder_snoc
    intro offerId descriptor heq
    rcases hevent with ⟨rfl, -⟩ | rfl <;> cases heq

theorem lt_of_checkedSucc {value next : UInt64} (h : checkedSucc value = some next) :
    value < next := by
  unfold checkedSucc at h
  split at h
  · rename_i hfits
    cases h
    rw [UInt64.lt_iff_toNat_lt, UInt64.toNat_add, UInt64.toNat_one,
      Nat.mod_eq_of_lt (by simpa using hfits)]
    omega
  · cases h

theorem Coherent.offered (h : Coherent x) {slot : Nat} {next : UInt64}
    {descriptor : WindowsSharedSurfaceDescriptor} (hstate : x.channel.state = .ready)
    (hmatch : descriptor.identity.generations = x.channel.generations)
    (hfree : x.channel.inFlight[slot]? = some none)
    (hnext : checkedSucc x.channel.nextOfferId = some next) :
    Coherent ⟨(x.channel.setNextOfferId next).setSlot slot
        (some ⟨x.channel.nextOfferId, .offered⟩),
      x.history ++ [.offered x.channel.nextOfferId descriptor]⟩ := by
  have hopen : x.channel.state ≠ .closed := by simp [hstate]
  have hlt := lt_of_checkedSucc hnext
  have hnew : x.channel.nextOfferId ∉ x.offerIds := by
    intro hmem
    exact (UInt64.lt_irrefl _ (h.issued _ hmem)).elim
  have hblank := h.unissued _ hnew
  have hother : ∀ offer, some offer ∈ x.channel.inFlight →
      offer.id ≠ x.channel.nextOfferId := by
    intro offer hmem heq
    exact hnew (heq ▸ h.issued_of_mem hmem)
  constructor
  case slots => exact List.length_set.trans h.slots
  case heldOnce => exact h.heldOnce.fill hfree hother
  case held =>
    intro offerId phase
    rw [life_snoc]
    refine (mem_fill hfree).trans ?_
    by_cases hid : offerId = x.channel.nextOfferId
    · subst hid
      rw [hblank, stageOf, if_pos rfl]
      constructor
      · rintro (heq | hmem)
        · cases heq
          rfl
        · exact (hother _ hmem rfl).elim
      · intro heq
        have hphase : openLife .offered = openLife phase := heq
        rw [openLife_injective hphase]
        exact Or.inl rfl
    · rw [stageOf, if_neg (Ne.symm hid), Option.toList_none, List.append_nil, ← h.held]
      constructor
      · rintro (heq | hmem)
        · cases heq
          exact (hid rfl).elim
        · exact hmem
      · exact Or.inr
  case issued =>
    intro offerId hmem
    rw [offerIds_snoc] at hmem
    rcases List.mem_append.mp hmem with hold | hlast
    · exact UInt64.lt_trans (h.issued _ hold) hlt
    · rw [List.mem_singleton.mp hlast]
      exact hlt
  case increasing =>
    rw [offerIds_snoc]
    refine List.pairwise_append.mpr ⟨h.increasing, List.pairwise_singleton _ _, ?_⟩
    intro old hold new hnew
    rw [List.mem_singleton.mp hnew]
    exact h.issued old hold
  case lives =>
    intro offerId hmem
    rw [life_snoc]
    by_cases hid : offerId = x.channel.nextOfferId
    · subst hid
      rw [hblank, stageOf, if_pos rfl]
      exact OfferLife.held .offered
    · rw [stageOf, if_neg (Ne.symm hid), Option.toList_none, List.append_nil]
      rw [offerIds_snoc] at hmem
      rcases List.mem_append.mp hmem with hold | hlast
      · exact h.lives offerId hold
      · exact (hid (List.mem_singleton.mp hlast)).elim
  case unissued =>
    intro offerId hnot
    rw [offerIds_snoc] at hnot
    have hid : x.channel.nextOfferId ≠ offerId := by
      rintro rfl
      exact hnot (List.mem_append_right _ (List.mem_singleton.mpr rfl))
    rw [life_snoc, stageOf, if_neg hid, Option.toList_none, List.append_nil]
    exact h.unissued offerId fun hmem => hnot (List.mem_append_left _ hmem)
  case shut => exact fun hclosed => (hopen hclosed).elim
  case unclosed => exact fun _ => mem_snoc (h.unclosed hopen) nofun
  case unreported =>
    exact fun _ offerId phase => mem_snoc (h.unreported hopen offerId phase) nofun
  case readied => exact fun _ => List.mem_append_left _ (h.readied hstate)
  case inOrder =>
    apply h.inOrder_snoc
    intro offerId other heq
    cases heq
    rw [hmatch]
    exact ⟨h.readied hstate, h.unclosed hopen⟩

theorem Coherent.acknowledged (h : Coherent x) {index : Nat} {offerId : UInt64}
    {phase : WindowsNativeOfferState} {ack : WindowsNativeChannelAck}
    {slot : Option WindowsNativeOffer} (hstate : x.channel.state = .ready)
    (hslot : x.channel.inFlight[index]? = some (some ⟨offerId, phase⟩))
    (hid : ∀ offer, slot = some offer → offer.id = offerId)
    (hlife : OfferLife (openLife phase ++ [.acknowledged ack]))
    (hheld : ∀ next, slot = some ⟨offerId, next⟩ ↔
      openLife phase ++ [.acknowledged ack] = openLife next) :
    Coherent ⟨x.channel.setSlot index slot, x.history ++ [.acknowledged offerId ack]⟩ := by
  have hopen : x.channel.state ≠ .closed := by simp [hstate]
  have hmem : some ⟨offerId, phase⟩ ∈ x.channel.inFlight := List.mem_of_getElem? hslot
  have hown : (ChannelRun.mk (x.channel.setSlot index slot)
      (x.history ++ [.acknowledged offerId ack])).life offerId =
        openLife phase ++ [.acknowledged ack] := by
    rw [life_snoc, h.life_of_mem hmem, stageOf, if_pos rfl]
    rfl
  have hother : ∀ other, other ≠ offerId → (ChannelRun.mk (x.channel.setSlot index slot)
      (x.history ++ [.acknowledged offerId ack])).life other = x.life other := by
    intro other hne
    rw [life_snoc, stageOf, if_neg (Ne.symm hne), Option.toList_none, List.append_nil]
  have hids : (ChannelRun.mk (x.channel.setSlot index slot)
      (x.history ++ [.acknowledged offerId ack])).offerIds = x.offerIds := by
    rw [offerIds_snoc]
    exact List.append_nil _
  constructor
  case slots => exact List.length_set.trans h.slots
  case heldOnce => exact h.heldOnce.replace hslot hid
  case held =>
    intro other next
    refine (h.heldOnce.mem_replace hslot).trans ?_
    by_cases hne : other = offerId
    · subst hne
      rw [hown, ← hheld]
      simp
    · rw [hother other hne, ← h.held]
      constructor
      · rintro (heq | ⟨hold, -⟩)
        · exact (hne (hid _ heq)).elim
        · exact hold
      · exact fun hold => Or.inr ⟨hold, hne⟩
  case issued => rw [hids]; exact h.issued
  case increasing => rw [hids]; exact h.increasing
  case lives =>
    intro other hmem
    rw [hids] at hmem
    by_cases hne : other = offerId
    · rw [hne, hown]
      exact hlife
    · rw [hother other hne]
      exact h.lives other hmem
  case unissued =>
    intro other hnot
    rw [hids] at hnot
    rw [hother other]
    · exact h.unissued other hnot
    · rintro rfl
      exact hnot (h.issued_of_mem hmem)
  case shut => exact fun hclosed => (hopen hclosed).elim
  case unclosed => exact fun _ => mem_snoc (h.unclosed hopen) nofun
  case unreported =>
    exact fun _ other next => mem_snoc (h.unreported hopen other next) nofun
  case readied => exact fun _ => List.mem_append_left _ (h.readied hstate)
  case inOrder => exact h.inOrder_snoc nofun

/-! ## Closing -/

def reportEvents (report : WindowsNativeChannelCloseReport) : List ChannelEvent :=
  report.outstanding.map (fun offer => .reported offer.1 offer.2) ++ [.closed]

theorem Coherent.stages_reportEvents (h : Coherent x) (offerId : UInt64) :
    (reportEvents x.channel.close.1).filterMap (stageOf offerId) =
      x.channel.inFlight.reduceOption.filterMap fun offer =>
        if offer.id = offerId then some (.reported offer.phase) else none := by
  unfold reportEvents
  rw [outstanding_close h.slots, List.filterMap_append, List.map_map, List.filterMap_map]
  exact List.append_nil _

theorem Coherent.life_close_of_mem (h : Coherent x) {offer : WindowsNativeOffer}
    (hmem : some offer ∈ x.channel.inFlight) :
    (ChannelRun.mk x.channel.close.2 (x.history ++ reportEvents x.channel.close.1)).life offer.id =
      openLife offer.phase ++ [.reported offer.phase] := by
  have hreported := filterMap_key_of_mem (f := fun offer => OfferStage.reported offer.phase)
    h.heldOnce.nodup (List.reduceOption_mem_iff.mpr hmem)
  rw [life, List.filterMap_append, h.stages_reportEvents, hreported, ← h.life_of_mem hmem]
  rfl

theorem Coherent.life_close_of_not (h : Coherent x) {offerId : UInt64}
    (hnot : ∀ offer, some offer ∈ x.channel.inFlight → offer.id ≠ offerId) :
    (ChannelRun.mk x.channel.close.2 (x.history ++ reportEvents x.channel.close.1)).life offerId =
      x.life offerId := by
  rw [life, List.filterMap_append, h.stages_reportEvents, filterMap_key_of_forall]
  · exact List.append_nil _
  · intro offer hmem
    exact hnot offer (List.reduceOption_mem_iff.mp hmem)

theorem offerIds_close :
    (ChannelRun.mk x.channel.close.2 (x.history ++ reportEvents x.channel.close.1)).offerIds =
      x.offerIds := by
  have hnone : (reportEvents x.channel.close.1).filterMap offerIdOf = [] := by
    rw [List.filterMap_eq_nil_iff]
    intro event hevent
    rcases List.mem_append.mp hevent with hreport | hclosed
    · obtain ⟨offer, -, rfl⟩ := List.mem_map.mp hreport
      rfl
    · rw [List.mem_singleton.mp hclosed]
      rfl
  rw [offerIds, List.filterMap_append, hnone]
  exact List.append_nil _

theorem inOrder_append {history : List ChannelEvent} (h : Splits OfferInOrder history)
    (events : List ChannelEvent)
    (hevents : ∀ event ∈ events, ∀ offerId descriptor, event ≠ .offered offerId descriptor) :
    Splits OfferInOrder (history ++ events) := by
  induction events using List.reverseRecOn with
  | nil => rwa [List.append_nil]
  | append_singleton events event ih =>
      rw [← List.append_assoc]
      have hearly := ih fun e he => hevents e (List.mem_append_left _ he)
      refine Splits.snoc ?_ fun before other early hsplit => hearly before other early hsplit
      intro offerId descriptor heq
      exact (hevents event (by simp) offerId descriptor heq).elim

theorem Coherent.closed (h : Coherent x) :
    Coherent ⟨x.channel.close.2, x.history ++ reportEvents x.channel.close.1⟩ := by
  have hempty : ∀ offer, some offer ∉ x.channel.close.2.inFlight := by
    intro offer hmem
    obtain ⟨slot, -, heq⟩ := List.mem_map.mp hmem
    cases heq
  have hlives : ∀ offerId, (∃ phase, (ChannelRun.mk x.channel.close.2
      (x.history ++ reportEvents x.channel.close.1)).life offerId =
        openLife phase ++ [.reported phase]) ∨
      (∀ offer, some offer ∈ x.channel.inFlight → offer.id ≠ offerId) ∧
        (ChannelRun.mk x.channel.close.2
          (x.history ++ reportEvents x.channel.close.1)).life offerId = x.life offerId := by
    intro offerId
    by_cases hmem : ∃ offer, some offer ∈ x.channel.inFlight ∧ offer.id = offerId
    · obtain ⟨offer, hmem, rfl⟩ := hmem
      exact Or.inl ⟨offer.phase, h.life_close_of_mem hmem⟩
    · have hnot : ∀ offer, some offer ∈ x.channel.inFlight → offer.id ≠ offerId :=
        fun offer hoffer heq => hmem ⟨offer, hoffer, heq⟩
      exact Or.inr ⟨hnot, h.life_close_of_not hnot⟩
  constructor
  case slots => exact List.length_map _ |>.trans h.slots
  case heldOnce =>
    intro i j a b hi
    exact (hempty a (List.mem_of_getElem? hi)).elim
  case held =>
    intro offerId phase
    refine iff_of_false (hempty _) ?_
    rcases hlives offerId with ⟨other, hlife⟩ | ⟨hnot, hlife⟩
    · rw [hlife]
      exact openLife_ne_reported other phase
    · rw [hlife]
      intro heq
      exact hnot _ ((h.held offerId phase).mpr heq) rfl
  case issued => rw [offerIds_close]; exact h.issued
  case increasing => rw [offerIds_close]; exact h.increasing
  case lives =>
    intro offerId hmem
    rw [offerIds_close] at hmem
    rcases hlives offerId with ⟨phase, hlife⟩ | ⟨-, hlife⟩
    · rw [hlife]
      exact .reported phase
    · rw [hlife]
      exact h.lives offerId hmem
  case unissued =>
    intro offerId hnot
    rw [offerIds_close] at hnot
    have hfree : ∀ offer, some offer ∈ x.channel.inFlight → offer.id ≠ offerId := by
      rintro offer hmem rfl
      exact hnot (h.issued_of_mem hmem)
    rw [h.life_close_of_not hfree]
    exact h.unissued offerId hnot
  case shut => exact fun _ => hempty
  case unclosed => exact fun hopen => (hopen rfl).elim
  case unreported => exact fun hopen => (hopen rfl).elim
  case readied =>
    intro hready
    cases hready
  case inOrder =>
    refine inOrder_append h.inOrder _ ?_
    intro event hevent offerId descriptor
    rcases List.mem_append.mp hevent with hreport | hclosed
    · obtain ⟨offer, -, rfl⟩ := List.mem_map.mp hreport
      exact nofun
    · rw [List.mem_singleton.mp hclosed]
      exact nofun

/-! ## Runs -/

theorem Coherent.move (h : Coherent x) {events : List ChannelEvent}
    (hmove : ChannelMove x.channel d events) : Coherent ⟨d, x.history ++ events⟩ := by
  cases hmove with
  | begun hstate => exact h.handshake (by simp [hstate]) nofun (Or.inl ⟨rfl, nofun⟩)
  | readied hstate => exact h.handshake (by simp [hstate]) nofun (Or.inr rfl)
  | offered hstate hmatch hfree hnext => exact h.offered hstate hmatch hfree hnext
  | imported hstate hslot =>
      refine h.acknowledged hstate hslot ?_ (OfferLife.held .imported) ?_
      · intro offer heq
        cases heq
        rfl
      · intro next
        constructor
        · intro heq
          cases heq
          rfl
        · intro heq
          have hnext : openLife .imported = openLife next := heq
          rw [openLife_injective hnext]
  | settled hstate hslot hsettles =>
      refine h.acknowledged hstate hslot nofun (OfferLife.of_settles hsettles) ?_
      intro next
      exact iff_of_false nofun (openLife_ne_settled hsettles)
  | closed => exact h.closed

theorem Coherent.step (h : Coherent x) (call : ChannelCall) : Coherent (x.step call) := by
  rcases x.step_cases call with hsame | ⟨events, d, hstep, hmove⟩
  · rw [hsame]
    exact h
  · rw [hstep]
    exact h.move hmove

theorem coherent_start {sourceConnectionGeneration streamEpoch : UInt64}
    {adapter : WindowsAdapterId} {resourceGeneration backendGeneration outputRevision : UInt64}
    {channel : WindowsNativeChannel}
    (h : WindowsNativeChannel.new sourceConnectionGeneration streamEpoch adapter
      resourceGeneration backendGeneration outputRevision = .ok channel) :
    Coherent (start channel) := by
  unfold WindowsNativeChannel.new at h
  split at h
  · cases h
  · cases h
    have hempty : ∀ offer : WindowsNativeOffer, some offer ∉ List.replicate maxInFlight none := by
      intro offer hmem
      cases List.eq_of_mem_replicate hmem
    constructor
    case slots => rfl
    case heldOnce =>
      intro i j a b hi
      exact (hempty a (List.mem_of_getElem? hi)).elim
    case held =>
      intro offerId phase
      exact iff_of_false (hempty _) (openLife_ne_nil phase).symm
    case issued => exact nofun
    case increasing => exact List.Pairwise.nil
    case lives => exact nofun
    case unissued => exact fun _ _ => rfl
    case shut => exact nofun
    case unclosed => exact nofun
    case unreported => exact nofun
    case readied => exact nofun
    case inOrder => exact Splits.nil

theorem Coherent.held_iff (h : Coherent x) (offerId : UInt64) :
    x.Held offerId ↔ ∃ phase, some ⟨offerId, phase⟩ ∈ x.channel.inFlight := by
  constructor
  · rintro (hlife | hlife)
    · exact ⟨.offered, (h.held offerId .offered).mpr hlife⟩
    · exact ⟨.imported, (h.held offerId .imported).mpr hlife⟩
  · rintro ⟨phase, hmem⟩
    have hlife := (h.held offerId phase).mp hmem
    cases phase with
    | offered => exact Or.inl hlife
    | imported => exact Or.inr hlife

theorem Coherent.accounted (h : Coherent x) : Accounted x where
  bounded := by
    rw [← h.slots]
    apply @length_le_slots _ _ WindowsNativeOffer.id
    · exact (h.increasing.imp fun hlt => UInt64.ne_of_lt hlt).filter _
    · intro offerId hmem
      obtain ⟨phase, hslot⟩ :=
        (h.held_iff offerId).mp (of_decide_eq_true (List.mem_filter.mp hmem).2)
      exact ⟨⟨offerId, phase⟩, hslot, rfl⟩
  increasing := h.increasing
  lives := h.lives
  unissued := h.unissued
  settled := by
    intro hclosed offerId hheld
    obtain ⟨phase, hslot⟩ := (h.held_iff offerId).mp hheld
    exact h.shut hclosed _ hslot
  inOrder := h.inOrder

theorem Coherent.mem_report (h : Coherent x) (offerId : UInt64)
    (phase : WindowsNativeOfferState) :
    (offerId, phase) ∈ x.channel.close.1.outstanding ↔ x.life offerId = openLife phase := by
  rw [← h.held, outstanding_close h.slots, List.mem_map, ← List.reduceOption_mem_iff]
  constructor
  · rintro ⟨offer, hmem, heq⟩
    cases heq
    exact hmem
  · exact fun hmem => ⟨_, hmem, rfl⟩

theorem Coherent.mem_reported_ids (h : Coherent x) (hopen : x.channel.state ≠ .closed)
    (offerId : UInt64) : offerId ∈ x.channel.close.1.outstanding.map Prod.fst ↔
      offerId ∈ x.offerIds ∧ .acknowledged .released ∉ x.life offerId ∧
        .acknowledged .rejected ∉ x.life offerId := by
  constructor
  · intro hmem
    obtain ⟨⟨id, phase⟩, hreport, rfl⟩ := List.mem_map.mp hmem
    have hlife := (h.mem_report id phase).mp hreport
    refine ⟨h.issued_of_mem ((h.held id phase).mpr hlife), ?_, ?_⟩
    · rw [hlife]
      cases phase <;> decide
    · rw [hlife]
      cases phase <;> decide
  · rintro ⟨hissued, hreleased, hrejected⟩
    have hlives := h.lives offerId hissued
    generalize hlife : x.life offerId = life at hlives hreleased hrejected
    cases hlives with
    | held phase => exact List.mem_map.mpr ⟨_, (h.mem_report offerId phase).mpr hlife, rfl⟩
    | rejected => exact (hrejected (by decide)).elim
    | released => exact (hreleased (by decide)).elim
    | reported phase =>
        have hmem : OfferStage.reported phase ∈ x.life offerId := by
          rw [hlife]
          exact List.mem_append_right _ List.mem_cons_self
        obtain ⟨event, hevent, hstage⟩ := List.mem_filterMap.mp hmem
        cases event with
        | reported id other =>
            rw [stageOf] at hstage
            exact (h.unreported hopen id other hevent).elim
        | offered id descriptor =>
            rw [stageOf] at hstage
            split at hstage <;> cases hstage
        | acknowledged id ack =>
            rw [stageOf] at hstage
            split at hstage <;> cases hstage
        | begun => cases hstage
        | readied generations => cases hstage
        | closed => cases hstage

theorem Coherent.nextCall (h : Coherent x) (call : ChannelCall) : NextCall x call where
  unchanged := by
    intro error herror
    rcases call_cases call x.channel with ⟨other, hrun⟩ | ⟨events, d, hrun, -⟩
    · unfold ChannelRun.step
      rw [hrun]
      exact ⟨rfl, by simp [eventsOf]⟩
    · rw [hrun] at herror
      cases herror
  reports := h.mem_report
  reportsOnce := by
    rw [outstanding_close h.slots, List.map_map]
    exact h.heldOnce.nodup
  reportsAll := h.mem_reported_ids

/-- Over every sequence of calls each surface that is handed out is accounted for. -/
theorem native_channel_accounts {sourceConnectionGeneration streamEpoch : UInt64}
    {adapter : WindowsAdapterId} {resourceGeneration backendGeneration outputRevision : UInt64}
    {channel : WindowsNativeChannel}
    (h : WindowsNativeChannel.new sourceConnectionGeneration streamEpoch adapter
      resourceGeneration backendGeneration outputRevision = .ok channel)
    (calls : List ChannelCall) :
    Accounted (calls.foldl step (start channel)) ∧
      ∀ call, NextCall (calls.foldl step (start channel)) call := by
  have hcoherent : Coherent (calls.foldl step (start channel)) :=
    TransitionSystem.Reachable.invariant (T := .ofFunction (start channel) step)
      (fun _ hstart => hstart ▸ coherent_start h)
      (fun _ call _ hx hstep => hstep ▸ hx.step call)
      (TransitionSystem.reachable_foldl _ _ _)
  exact ⟨hcoherent.accounted, hcoherent.nextCall⟩

def sampleSurface (handleValue frameId : UInt64) (h : handleValue ≠ 0) :
    WindowsSharedSurfaceDescriptor where
  handleValue := handleValue
  adapter := ⟨0, 0⟩
  width := 1280
  height := 720
  format := .nv12
  keyedMutexKey := 0
  identity := ⟨1, 1, 1, frameId, 1, 1, 0⟩
  facts := by
    unfold SurfaceFacts
    simp [h, WindowsSharedSurfaceIdentity.isValid]

/-- One offer is released, one is rejected, and one is in flight at the end. -/
def sampleCalls (generations : NativeGenerations) : List ChannelCall :=
  [.beginHandshake, .acceptReady generations, .offerFrame (sampleSurface 11 1 (by decide)),
    .offerFrame (sampleSurface 12 2 (by decide)), .acknowledge 1 .imported,
    .acknowledge 2 .rejected, .acknowledge 1 .released,
    .offerFrame (sampleSurface 13 3 (by decide)), .close]

theorem native_channel_accounts_of_one :
    ∃ channel, WindowsNativeChannel.new 1 1 ⟨0, 0⟩ 1 1 0 = .ok channel ∧
      Accounted ((sampleCalls channel.generations).foldl step (start channel)) :=
  ⟨_, rfl, (native_channel_accounts
    (show WindowsNativeChannel.new 1 1 ⟨0, 0⟩ 1 1 0 = .ok _ from rfl) _).1⟩

end ChannelRun

end PicooCamera.FrameHub
