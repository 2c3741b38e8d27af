import PicooCamera.Packet.Tracking
import PicooCamera.Receiver.Owner

/-!
# The connection path

`ConnectionPath` is the connection that the reducer has adopted, with what pairing
depends on. Most of what the owner does leaves it alone and brings no media in; the
classes say what else a relation admits.
-/

namespace PicooCamera.Receiver

open PicooCamera.Library PicooCamera.Protocol PicooCamera.Packet PicooCamera.Session
open PicooCamera.Jitter PicooCamera.Pairing PicooCamera.Transport Program

structure PairingPath where
  trusted : TrustedDeviceStore
  sender : Option ActiveSender
  pending : Option PendingPairing

def OwnerState.pairingPath (o : OwnerState) : PairingPath where
  trusted := o.session.trusted
  sender := o.session.activeSender
  pending := o.session.pendingPairing

def PairingPath.tearDown (c : PairingPath) : PairingPath :=
  { c with sender := none, pending := none }

/-- What pairing depends on and the connection that the reducer has adopted. -/
structure ConnectionPath where
  connection : Option Nat
  unpaired : Bool
  pairing : PairingPath

namespace ConnectionPath

def tearDown (c : ConnectionPath) : ConnectionPath :=
  { c with connection := none, pairing := c.pairing.tearDown }

def adopt (c : ConnectionPath) (generation : Nat) : ConnectionPath :=
  { c with connection := some generation }

end ConnectionPath

def OwnerState.connectionPath (o : OwnerState) : ConnectionPath where
  connection := o.session.lifecycle.activeGeneration
  unpaired := o.session.permitUnpairedVideo
  pairing := o.pairingPath

/-- No access unit is being put together, or kept for the configuration of its epoch. -/
structure MediaState.Vacant (m : MediaState) : Prop where
  frames : m.reassembly.frames = ∅
  gaps : m.reassembly.frameGaps = ∅
  future : m.pendingStreamConfigIdr = none

/-- A mark of neither a connection nor a datagram. -/
def OwnerMark.isOrdinary : OwnerMark → Bool
  | .adopted _ => false
  | .ingested _ => false
  | _ => true

/-- Only ordinary marks come in. -/
def Ordinary (o o' : OwnerState) : Prop :=
  ∃ more, o'.trace = o.trace ++ more ∧ ∀ mark ∈ more, mark.isOrdinary = true

theorem ordinary_of_eq {o o' : OwnerState} (h : o'.trace = o.trace) : Ordinary o o' :=
  ⟨[], h.trans (List.append_nil _).symm, fun _ hmark => nomatch hmark⟩

/-- The connection path stays as it is, and no media comes in. -/
structure Undisturbed (o o' : OwnerState) : Prop where
  path : o'.connectionPath = o.connectionPath
  vacant : o.session.media.Vacant → o'.session.media.Vacant
  ordinary : Ordinary o o'

theorem Undisturbed.pairing {o o' : OwnerState} (h : Undisturbed o o') :
    o'.pairingPath = o.pairingPath := congrArg ConnectionPath.pairing h.path

theorem Undisturbed.connection {o o' : OwnerState} (h : Undisturbed o o') :
    o'.connectionPath.connection = o.connectionPath.connection :=
  congrArg ConnectionPath.connection h.path

instance : Frame Undisturbed where
  refl _ := ⟨rfl, fun hvacant => hvacant, ordinary_of_eq rfl⟩
  trans := by
    intro o u v hou huv
    obtain ⟨more, htrace, hmore⟩ := hou.ordinary
    obtain ⟨rest, htrace', hrest⟩ := huv.ordinary
    refine ⟨huv.path.trans hou.path, fun hvacant => huv.vacant (hou.vacant hvacant),
      more ++ rest, ?_, ?_⟩
    · rw [htrace', htrace, List.append_assoc]
    · intro mark hmark
      exact (List.mem_append.mp hmark).elim (hmore mark) (hrest mark)

/-- A relation that does not see what the connection path does not depend on. -/
class Aside (R : OwnerState → OwnerState → Prop) : Prop extends Frame R where
  same : ∀ {o o' : OwnerState}, Undisturbed o o' → R o o'

instance : Aside Undisturbed where
  same h := h

/-- A relation that admits the media of an adopted connection. -/
class Ingests (R : OwnerState → OwnerState → Prop) : Prop extends Aside R where
  carry : ∀ {o o' : OwnerState}, o.connectionPath.connection ≠ none →
    o'.connectionPath = o.connectionPath → Ordinary o o' → R o o'
  ingest : ∀ {o : OwnerState} (generation : Nat),
    o.connectionPath.connection = some generation → o.session.videoAllowed = true →
    R o { o with trace := o.trace ++ [.ingested generation] }

/-- A relation that admits the end of a connection. -/
class Endable (R : OwnerState → OwnerState → Prop) : Prop extends Ingests R where
  tearDown : ∀ {o o' : OwnerState}, o'.connectionPath = o.connectionPath.tearDown →
    o'.session.media.Vacant → o'.trace = o.trace → R o o'

/-- A relation that admits the start of a connection. -/
class Adoptable (R : OwnerState → OwnerState → Prop) : Prop extends Endable R where
  adopt : ∀ {o o' : OwnerState} (generation : Nat),
    o'.connectionPath = o.connectionPath.adopt generation →
    (o.session.media.Vacant → o'.session.media.Vacant) →
    o'.trace = o.trace ++ [.adopted generation] → R o o'

theorem adoptable_of_pairing {R : OwnerState → OwnerState → Prop} [Frame R]
    (same : ∀ {o o' : OwnerState}, o'.pairingPath = o.pairingPath → R o o')
    (tearDown : ∀ {o o' : OwnerState}, o'.pairingPath = o.pairingPath.tearDown → R o o') :
    Adoptable R where
  same h := same h.pairing
  carry _ hpath _ := same (congrArg ConnectionPath.pairing hpath)
  ingest _ _ _ := same rfl
  tearDown hpath _ _ := tearDown (congrArg ConnectionPath.pairing hpath)
  adopt _ hpath _ _ := same (congrArg ConnectionPath.pairing hpath)

/-! ## What was heard of a connection -/

/-- The connection that was adopted last and the marks since then. -/
def OwnerMark.follow (since : Option Nat × List OwnerMark) (mark : OwnerMark) :
    Option Nat × List OwnerMark :=
  match mark with
  | .adopted generation => (some generation, [])
  | mark => (since.1, since.2 ++ [mark])

def sinceAdoption (marks : List OwnerMark) : Option Nat × List OwnerMark :=
  marks.foldl OwnerMark.follow (none, [])

theorem sinceAdoption_snoc (marks : List OwnerMark) (mark : OwnerMark) :
    sinceAdoption (marks ++ [mark]) = OwnerMark.follow (sinceAdoption marks) mark := by
  unfold sinceAdoption
  rw [List.foldl_append]
  rfl

theorem sinceAdoption_ordinary (marks : List OwnerMark) {more : List OwnerMark}
    (h : ∀ mark ∈ more, mark.isOrdinary = true) :
    sinceAdoption (marks ++ more) = ((sinceAdoption marks).1, (sinceAdoption marks).2 ++ more) := by
  induction more generalizing marks with
  | nil =>
      rw [List.append_nil, List.append_nil]
  | cons mark rest ih =>
      have hrest := ih (marks ++ [mark]) fun other hother => h other (List.mem_cons_of_mem _ hother)
      have hmark : OwnerMark.follow (sinceAdoption marks) mark =
          ((sinceAdoption marks).1, (sinceAdoption marks).2 ++ [mark]) := by
        have hordinary := h mark List.mem_cons_self
        cases mark <;> first | rfl | cases hordinary
      rw [List.append_cons, hrest, sinceAdoption_snoc, hmark, List.append_assoc]
      rfl

/-- A message of the connection was given to its handler. -/
def HeardIn (marks : List OwnerMark) (generation : Nat) (kind : ControlPayload → Prop) : Prop :=
  ∃ envelope, .dispatched ⟨generation⟩ envelope ∈ marks ∧ kind envelope.payload

theorem HeardIn.append {marks : List OwnerMark} {generation : Nat}
    {kind : ControlPayload → Prop} (h : HeardIn marks generation kind) (more : List OwnerMark) :
    HeardIn (marks ++ more) generation kind := by
  obtain ⟨envelope, hmark, hkind⟩ := h
  exact ⟨envelope, List.mem_append_left _ hmark, hkind⟩

namespace OwnerState

/-- Since the last adoption a message of the owner's connection was given to its handler. -/
def Heard (o : OwnerState) (kind : ControlPayload → Prop) : Prop :=
  ∃ generation, o.connectionPath.connection = some generation ∧
    HeardIn (sinceAdoption o.trace).2 generation kind

theorem Heard.undisturbed {o o' : OwnerState} {kind : ControlPayload → Prop} (h : o.Heard kind)
    (hsame : Undisturbed o o') : o'.Heard kind := by
  obtain ⟨generation, hconnection, hheard⟩ := h
  obtain ⟨more, htrace, hmore⟩ := hsame.ordinary
  refine ⟨generation, hsame.connection.trans hconnection, ?_⟩
  rw [htrace, sinceAdoption_ordinary o.trace hmore]
  exact hheard.append more

theorem heard_dispatched {o : OwnerState} {target : SessionId} (envelope : ControlEnvelope)
    {kind : ControlPayload → Prop} (hconnection : o.connectionPath.connection = some target.value)
    (hkind : kind envelope.payload) :
    ({ o with trace := o.trace ++ [.dispatched target envelope] } : OwnerState).Heard kind := by
  refine ⟨target.value, hconnection, envelope, ?_, hkind⟩
  rw [sinceAdoption_snoc]
  exact List.mem_append_right _ (List.mem_singleton_self _)

end OwnerState

/-- The payloads that a Sender pairs with. -/
def IsClientHello (payload : ControlPayload) : Prop := ∃ hello, payload = .clientHello hello

def IsPairingConfirm (payload : ControlPayload) : Prop :=
  ∃ confirm, payload = .pairingConfirm confirm

def IsPairingCommit (payload : ControlPayload) : Prop := ∃ commit, payload = .pairingCommit commit

/-! ## Events -/

def ReceiverEffect.isQuiet : ReceiverEffect → Bool
  | .prepareConnection => false
  | .resetSessionResources => false
  | _ => true

def ReceiverEvent.connects : ReceiverEvent → Bool
  | .transportConnected _ => true
  | _ => false

/-- What the reducer does of an event other than a new connection. -/
inductive Reduction (state : ReceiverReducerState) :
    ReceiverReducerState × List ReceiverEffect → Prop
  | stays (state' : ReceiverReducerState) (effects : List ReceiverEffect)
      (same : state'.activeGeneration = state.activeGeneration)
      (quiet : ∀ effect ∈ effects, effect.isQuiet) : Reduction state (state', effects)
  | ends (state' : ReceiverReducerState) (effects : List ReceiverEffect)
      (ended : state'.activeGeneration = none) (quiet : ∀ effect ∈ effects, effect.isQuiet) :
      Reduction state (state', .resetSessionResources :: effects)

theorem reduction {state : ReceiverReducerState} {event : ReceiverEvent}
    (h : event.connects = false) : Reduction state (reduce state event) := by
  -- An event of another generation changes nothing.
  have hgate : ∀ (c : Prop) [Decidable c] (outcome : ReceiverReducerState × List ReceiverEffect),
      Reduction state outcome → Reduction state (if c then outcome else (state, [])) := by
    intro c _ outcome houtcome
    split
    · exact houtcome
    · exact Reduction.stays state [] rfl (by simp)
  cases event with
  | transportConnected generation => cases h
  | listenerStarted => exact Reduction.stays _ _ rfl (by simp)
  | transportDisconnected generation retainFrame =>
      apply hgate
      cases retainFrame <;> exact Reduction.ends _ _ rfl (by simp [ReceiverEffect.isQuiet])
  | controlReceived generation =>
      exact hgate _ _ (Reduction.stays _ _ rfl (by simp [ReceiverEffect.isQuiet]))
  | videoReceived generation =>
      exact hgate _ _ (Reduction.stays _ _ rfl (by simp [ReceiverEffect.isQuiet]))
  | stopStream generation =>
      exact hgate _ _ (Reduction.ends _ _ rfl (by simp [ReceiverEffect.isQuiet]))
  | abortConnection generation reason =>
      exact hgate _ _ (Reduction.ends _ _ rfl (by simp [ReceiverEffect.isQuiet]))
  | userClose => exact hgate _ _ (Reduction.ends _ _ rfl (by simp [ReceiverEffect.isQuiet]))
  | disconnectHoldElapsed =>
      exact hgate _ _ (Reduction.stays _ _ rfl (by simp [ReceiverEffect.isQuiet]))

namespace Owner

/-- The state after the lifecycle has taken an event. -/
def reduced (o : OwnerState) (event : ReceiverEvent) : OwnerState :=
  { o with session := o.session.applyEvent event }

theorem exec_applyReceiverEvent (o : OwnerState) (event : ReceiverEvent) :
    exec (applyReceiverEvent event) o =
      exec (do
        applyEffects event (reduce o.session.lifecycle event).2
        pure (reduce o.session.lifecycle event).2) (reduced o event) := rfl

/-- The state after the teardown. -/
def tornDown (o : OwnerState) : OwnerState where
  session := o.session.resetSessionResources
  world := { o.turn.world with decoder.queue := o.turn.world.decoder.queue.reset }
  schedule := o.turn.schedule
  trace := o.trace

end Owner

/-! ## The next transport event -/

namespace OwnerState

/-- The state once the next transport event is taken. -/
def polled (o : OwnerState) : OwnerState :=
  { o.turn with world.worker := o.turn.world.worker.pollEvent.2 }

/-- The generation that the next transport event makes the active one. -/
def adoption (o : OwnerState) : Option Nat :=
  match o.turn.world.worker.pollEvent.1 with
  | some (.connected target) =>
      if o.polled.turn.world.worker.activeSession = some target then some target.value else none
  | _ => none

end OwnerState

namespace Owner

theorem exec_pollTransportEvent (P : Platform) (o : OwnerState) :
    exec (pollTransportEvent P) o =
      exec (match o.turn.world.worker.pollEvent.1 with
        | none => pure false
        | some event => do
            handleTransportEvent P event
            pure true) o.polled := rfl

/-- The step adopts a connection. -/
def Adopts (o : OwnerState) (label : OwnerStep) : Prop :=
  label = .pollTransportEvent ∧ o.adoption ≠ none

end Owner

/-! ## Vacant media -/

namespace MediaState

open ReassemblyMap

variable {m : MediaState}

theorem vacant_reset (m : MediaState) : m.reset.Vacant := ⟨rfl, rfl, rfl⟩

theorem Vacant.of_reassembly (h : m.Vacant) {m' : MediaState}
    (hreassembly : m'.reassembly = m.reassembly)
    (hfuture : m'.pendingStreamConfigIdr = m.pendingStreamConfigIdr ∨
      m'.pendingStreamConfigIdr = none) : m'.Vacant := by
  refine ⟨?_, ?_, ?_⟩
  · rw [hreassembly]
    exact h.frames
  · rw [hreassembly]
    exact h.gaps
  · rcases hfuture with hsame | hnone
    · exact hsame.trans h.future
    · exact hnone

theorem Vacant.setReassembly (h : m.Vacant) {reassembly : ReassemblyMap}
    (hframes : reassembly.frames = ∅) (hgaps : reassembly.frameGaps = ∅) :
    (m.setReassembly reassembly).Vacant := ⟨hframes, hgaps, h.future⟩

theorem Vacant.expire (h : m.Vacant) (now : Instant) (maxAge : Duration) :
    (m.setReassembly (m.reassembly.expireIncompleteOlderThan now maxAge)).Vacant := by
  have hnone : ∀ deadline, m.reassembly.expiredThrough deadline = none := by
    intro deadline
    unfold expiredThrough
    rw [h.frames, h.gaps, maxOf_eq_none]
    rfl
  have hsame : m.reassembly.expireIncompleteOlderThan now maxAge = m.reassembly := by
    unfold expireIncompleteOlderThan
    cases checkedSub now maxAge with
    | none => rfl
    | some deadline =>
        dsimp only
        rw [hnone deadline]
  rw [hsame]
  exact h.setReassembly h.frames h.gaps

theorem Vacant.takeLoss (h : m.Vacant) :
    (m.setReassembly m.reassembly.takeReferenceChainLoss.2).Vacant :=
  h.setReassembly h.frames h.gaps

theorem vacant_discardDependentMedia (h : m.Vacant) : m.discardDependentMedia.Vacant := by
  obtain ⟨hids, hframes, _⟩ := foldl_rememberTerminal_sameIds m.reassembly.frames.keys
    { m.reassembly with
      frames := ∅
      frameGaps := ∅
      expiredThroughFrameId := m.reassembly.clearedThrough }
  exact ⟨hframes, hids.gaps, h.future⟩

theorem Vacant.enterRecovery (h : m.Vacant) (reason : RecoveryReason) :
    (m.enterRecovery reason).Vacant := by
  have hentered : ({ m with decoderRecovery := (m.decoderRecovery.enter reason).2 } :
      MediaState).Vacant := h.of_reassembly rfl (Or.inl rfl)
  unfold MediaState.enterRecovery
  dsimp only
  split
  · exact vacant_discardDependentMedia hentered
  · exact hentered

theorem Vacant.forceRecovery (h : m.Vacant) (reason : RecoveryReason) :
    (m.forceRecovery reason).Vacant := by
  have hentered : ({ m with decoderRecovery := (m.decoderRecovery.enter reason).2 } :
      MediaState).Vacant := h.of_reassembly rfl (Or.inl rfl)
  unfold MediaState.forceRecovery
  dsimp only
  split
  · exact vacant_discardDependentMedia hentered
  · exact hentered

theorem empty_enterEpoch {r : ReassemblyMap} (hframes : r.frames = ∅) (hgaps : r.frameGaps = ∅)
    (streamEpoch : Nat) :
    (r.enterEpoch streamEpoch).frames = ∅ ∧ (r.enterEpoch streamEpoch).frameGaps = ∅ := by
  unfold enterEpoch
  split
  · exact ⟨rfl, rfl⟩
  · exact ⟨hframes, hgaps⟩

theorem empty_discardStaleAccessUnit {r : ReassemblyMap} (hframes : r.frames = ∅)
    (hgaps : r.frameGaps = ∅) (streamEpoch frameId : Nat) (flags : VideoPacketFlags) :
    (r.discardStaleAccessUnit streamEpoch frameId flags).2.frames = ∅ ∧
      (r.discardStaleAccessUnit streamEpoch frameId flags).2.frameGaps = ∅ := by
  obtain ⟨hentered, hgaps⟩ := empty_enterEpoch hframes hgaps streamEpoch
  rcases r.discardStaleAccessUnit_cases streamEpoch frameId flags with heq | ⟨_, heq⟩
  · rw [heq]
    exact ⟨hentered, hgaps⟩
  · rw [heq]
    constructor
    · change (r.enterEpoch streamEpoch).frames.erase _ = ∅
      rw [hentered, Std.ExtTreeMap.erase_empty]
    · change (r.enterEpoch streamEpoch).frameGaps.erase _ = ∅
      rw [hgaps, Std.ExtTreeMap.erase_empty]

theorem empty_discardStaleUnits (packets : List VideoPacket) (terminated : List FrameKey)
    {r : ReassemblyMap} (hframes : r.frames = ∅) (hgaps : r.frameGaps = ∅) :
    (discardStaleUnits terminated packets r).frames = ∅ ∧
      (discardStaleUnits terminated packets r).frameGaps = ∅ := by
  induction packets generalizing terminated r with
  | nil => exact ⟨hframes, hgaps⟩
  | cons packet rest ih =>
      unfold discardStaleUnits
      split
      · exact ih terminated hframes hgaps
      · obtain ⟨hframes, hgaps⟩ := empty_discardStaleAccessUnit hframes hgaps
          packet.streamEpoch packet.frameId packet.flags
        exact ih _ hframes hgaps

theorem Vacant.discardStaleUnits (h : m.Vacant) (packets : List VideoPacket) :
    (m.setReassembly (discardStaleUnits [] packets m.reassembly)).Vacant := by
  obtain ⟨hframes, hgaps⟩ := empty_discardStaleUnits packets [] h.frames h.gaps
  exact h.setReassembly hframes hgaps

theorem Vacant.commitConfig (h : m.Vacant) (config : StreamConfig) (budget : Nat) :
    (m.commitConfig config budget).Vacant := by
  unfold MediaState.commitConfig
  dsimp only
  split
  · exact h.of_reassembly rfl (Or.inl rfl)
  · split
    · exact h.of_reassembly rfl (Or.inl rfl)
    · split
      · exact h.of_reassembly rfl (Or.inr rfl)
      · exact h.of_reassembly rfl (Or.inl rfl)

end MediaState

end PicooCamera.Receiver
