import PicooCamera.Sender.EncoderPath

/-!
# Programs of the session change the encoder path

Every program of the session is a run of changes of its encoder path. What is
`Known` of a state is kept along: a new attempt or a pending reconnect excludes
an active connection, the transport was asked for the generations at hand, and
the epochs in use were allocated.
-/

namespace PicooCamera.Sender

open PicooCamera.Library PicooCamera.Protocol PicooCamera.Packet PicooCamera.Session
open PicooCamera.Pairing PicooCamera.Transport Program

variable {L : Limits}

/-! ## What is known of every state -/

/-- While a connection is attempted or a reconnect is due, none is active. -/
def Unconnected (state : SenderReducerState) : Prop :=
  state.runtime.connection = .connecting ∨ state.reconnectPending = true →
    state.activeGeneration = none

/-- The epochs in use were allocated. -/
structure Bounded (e : EncoderState) : Prop where
  allocated : e.lastAllocatedStreamEpoch ≤ maxStreamEpoch
  current : e.currentStreamEpoch ≤ e.lastAllocatedStreamEpoch
  applying : ∀ transaction, e.applyState = .applying transaction →
    transaction.directive.streamEpoch ≤ e.lastAllocatedStreamEpoch

/-- The transport was asked for the active and for the pending generation. -/
structure Requested (state : SenderReducerState) (marks : List SenderMark) : Prop where
  active : ∀ generation ∈ state.activeGeneration, Asked marks generation
  pending : ∀ generation ∈ state.pendingGeneration, Asked marks generation

theorem Requested.mono {state state' : SenderReducerState} {marks more : List SenderMark}
    (h : Requested state marks)
    (hactive : ∀ generation ∈ state'.activeGeneration, state.activeGeneration = some generation)
    (hpending : ∀ generation ∈ state'.pendingGeneration,
      state.pendingGeneration = some generation) : Requested state' (marks ++ more) where
  active generation hgeneration := (h.active generation (hactive generation hgeneration)).mono
  pending generation hgeneration :=
    (h.pending generation (hpending generation hgeneration)).mono

/-- What is known of the lifecycle. -/
structure Orderly (s : SenderState) : Prop where
  unconnected : Unconnected s.session.lifecycle
  requested : Requested s.session.lifecycle s.trace

structure Known (s : SenderState) : Prop extends Orderly s where
  bounded : Bounded s.session.encoder

theorem Bounded.restored {e : EncoderState} (h : Bounded e) (transaction : EncoderTransaction) :
    Bounded (e.restored transaction) where
  allocated := h.allocated
  current := h.current
  applying _ happlying := by cases happlying

theorem Bounded.aborted {p : EncoderPath} (h : Bounded p.encoder) : Bounded p.aborted.encoder := by
  unfold EncoderPath.aborted
  split
  · exact h
  · exact h.restored _

theorem Bounded.begun {e : EncoderState} (h : Bounded e) {directive : EncoderDirective}
    (now : Instant) (hidle : e.applyState = .committed)
    (hepoch : directive.streamEpoch ≤ e.lastAllocatedStreamEpoch) :
    Bounded (e.begun directive now) where
  allocated := h.allocated
  current := h.current
  applying transaction happlying := by
    unfold EncoderState.begun at happlying
    rw [hidle] at happlying
    cases happlying
    exact hepoch

theorem Bounded.observe {p : EncoderPath} (h : Bounded p.encoder) :
    Bounded p.observe.encoder := by
  unfold EncoderPath.observe
  split
  · exact ⟨h.allocated, h.current, h.applying⟩
  · exact h

theorem bounded_change {p q : EncoderPath} (h : Bounded p.encoder) (hchange : Change L p q) :
    Bounded q.encoder := by
  cases hchange with
  | note mark minor => exact h
  | stage config =>
      refine ⟨h.allocated, h.current, ?_⟩
      intro transaction happlying
      cases hstate : p.encoder.applyState with
      | committed =>
          change (p.encoder.applyState.reduce .streamConfigStaged).2 = _ at happlying
          rw [hstate] at happlying
          cases happlying
      | applying before =>
          change (p.encoder.applyState.reduce .streamConfigStaged).2 = _ at happlying
          rw [hstate] at happlying
          cases happlying
          exact h.applying before hstate
  | bind encoderGeneration height idle shaped first =>
      exact ⟨h.allocated, h.current, h.applying⟩
  | start transaction encoderGeneration applying first =>
      refine ⟨h.allocated, h.current, ?_⟩
      intro after happlying
      cases happlying
      exact h.applying transaction applying
  | begin directive now idle fresh recovery epoch =>
      exact h.begun now idle (epoch ▸ h.current)
  | reconfigure directive now idle fresh wanted epoch room =>
      have hallocated : Bounded p.allocate.encoder :=
        ⟨room, Nat.le_succ_of_le h.current, fun transaction happlying =>
          Nat.le_succ_of_le (h.applying transaction happlying)⟩
      exact hallocated.begun now idle (Nat.le_of_eq epoch)
  | rollBack transaction applying limit => exact h.restored transaction
  | close generation asked => exact h
  | tearDown =>
      have haborted := h.aborted
      exact ⟨haborted.allocated, haborted.current, haborted.applying⟩
  | adopt generation free polled => exact h
  | receive messageId newer => exact h
  | dispatch session envelope connected generation newer => exact h
  | publish session messageId config wire connected idle epoch =>
      exact ⟨h.allocated, h.current, h.applying⟩
  | announce transaction session messageId wire connected applying epoch limit => exact h
  | commit transaction facts config batch connected applying completes announced carries =>
      change Bounded (p.encoder.committedBy transaction facts config)
      unfold EncoderState.committedBy
      split
      · exact ⟨h.allocated, h.current, fun _ happlying => by cases happlying⟩
      · exact ⟨h.allocated, h.applying transaction applying, fun _ happlying => by
          cases happlying⟩
  | enqueue facts batch connected idle committed carries limit => exact h.observe
  | makeRoom => exact h
  | clear => exact h
  | flush session sent rest connected split => exact h

/-! ## Simulation -/

def Simulated (L : Limits) (s s' : SenderState) : Prop :=
  Known s → Orderly s' ∧ Changes L s.path s'.path

theorem Simulated.known {s s' : SenderState} (h : Simulated L s s') (known : Known s) :
    Known s' where
  toOrderly := (h known).1
  bounded := (h known).2.preserves (fun _ _ hbounded => bounded_change hbounded) known.bounded

instance : Frame (Simulated L) where
  refl _ known := ⟨known.toOrderly, Relation.ReflTransGen.refl⟩
  trans hst htu known :=
    ⟨(htu (hst.known known)).1, (hst known).2.trans (htu (hst.known known)).2⟩

/-- What the encoder path and the lifecycle of a session depend on. -/
structure Essence where
  encoder : EncoderState
  pending : List VideoDatagramBatch
  received : Nat
  active : Option Nat
  attempt : Option Nat
  connection : ConnectionState
  reconnectPending : Bool

def SenderSession.essence (s : SenderSession) : Essence where
  encoder := s.encoder
  pending := s.pipeline.pending
  received := s.lastReceivedControlMessageId
  active := s.lifecycle.activeGeneration
  attempt := s.lifecycle.pendingGeneration
  connection := s.lifecycle.runtime.connection
  reconnectPending := s.lifecycle.reconnectPending

theorem orderly_of_essence {s s' : SenderState} (h : s'.session.essence = s.session.essence)
    (htrace : s'.trace = s.trace) (hs : Orderly s) : Orderly s' := by
  have hactive : s'.session.lifecycle.activeGeneration = s.session.lifecycle.activeGeneration :=
    congrArg Essence.active h
  have hattempt : s'.session.lifecycle.pendingGeneration =
      s.session.lifecycle.pendingGeneration := congrArg Essence.attempt h
  have hconnection : s'.session.lifecycle.runtime.connection =
      s.session.lifecycle.runtime.connection := congrArg Essence.connection h
  have hpending : s'.session.lifecycle.reconnectPending = s.session.lifecycle.reconnectPending :=
    congrArg Essence.reconnectPending h
  refine ⟨?_, ?_, ?_⟩
  · unfold Unconnected
    rw [hactive, hconnection, hpending]
    exact hs.unconnected
  · rw [hactive, htrace]
    exact hs.requested.active
  · rw [hattempt, htrace]
    exact hs.requested.pending

theorem path_of_essence {s s' : SenderState} (h : s'.session.essence = s.session.essence)
    (htrace : s'.trace = s.trace) : s'.path = s.path := by
  have hencoder : s'.session.encoder = s.session.encoder := congrArg Essence.encoder h
  have hpending : s'.session.pipeline.pending = s.session.pipeline.pending :=
    congrArg Essence.pending h
  have hreceived : s'.session.lastReceivedControlMessageId =
      s.session.lastReceivedControlMessageId := congrArg Essence.received h
  have hactive : s'.session.lifecycle.activeGeneration = s.session.lifecycle.activeGeneration :=
    congrArg Essence.active h
  unfold SenderState.path
  rw [hencoder, hpending, hreceived, hactive, htrace]

theorem simulated_same {s s' : SenderState} (h : s'.session.essence = s.session.essence)
    (htrace : s'.trace = s.trace) : Simulated L s s' := by
  intro known
  refine ⟨orderly_of_essence h htrace known.toOrderly, ?_⟩
  rw [path_of_essence h htrace]

theorem simulated_path {s s' : SenderState} (hpath : s'.path = s.path)
    (hlifecycle : s'.session.lifecycle = s.session.lifecycle) : Simulated L s s' := by
  intro known
  have htrace : s'.trace = s.trace := congrArg EncoderPath.marks hpath
  rw [hpath]
  refine ⟨⟨?_, ?_⟩, Relation.ReflTransGen.refl⟩
  · rw [hlifecycle]
    exact known.unconnected
  · rw [hlifecycle, htrace]
    exact known.requested

theorem simulated_change {s s' : SenderState}
    (hlifecycle : s'.session.lifecycle = s.session.lifecycle)
    (h : Known s → Change L s.path s'.path) : Simulated L s s' := by
  intro known
  obtain ⟨more, hmore⟩ := (h known).grows
  refine ⟨⟨?_, ?_⟩, Relation.ReflTransGen.single (h known)⟩
  · rw [hlifecycle]
    exact known.unconnected
  · rw [hlifecycle, show s'.trace = s.trace ++ more from hmore]
    exact known.requested.mono (fun _ hactive => hactive) fun _ hpending => hpending

def SenderState.setEncoder (s : SenderState) (encoder : EncoderState) : SenderState :=
  { s with session := s.session.setEncoder encoder }

/-! ## The reducer -/

/-- Whether the event is about a new connection. -/
def SenderEvent.connects : SenderEvent → Bool
  | .transportConnectStarted _ => true
  | .transportConnected _ => true
  | _ => false

/-- Every other event. -/
class SenderEvent.Local (event : SenderEvent) : Prop where
  connects : event.connects = false

section LocalEvents

variable (generation attempt : Nat) (flag : Bool)

instance : SenderEvent.connectRequested.Local := ⟨rfl⟩

instance : SenderEvent.explicitConnectFailed.Local := ⟨rfl⟩

instance : (SenderEvent.controlReceived generation).Local := ⟨rfl⟩

instance : (SenderEvent.transportDisconnected generation flag).Local := ⟨rfl⟩

instance : (SenderEvent.authenticationRejected generation).Local := ⟨rfl⟩

instance : (SenderEvent.userDisconnect flag).Local := ⟨rfl⟩

instance : (SenderEvent.reconnectPolicyChanged flag).Local := ⟨rfl⟩

instance : (SenderEvent.reconnectArmed attempt).Local := ⟨rfl⟩

instance : SenderEvent.reconnectDeadlineElapsed.Local := ⟨rfl⟩

instance : SenderEvent.reconnectConnectFailed.Local := ⟨rfl⟩

end LocalEvents

def SenderEffect.isQuiet : SenderEffect → Bool
  | .prepareConnection _ => false
  | .resetSessionResources => false
  | .closeTransport _ => false
  | _ => true

/-- No generation is at hand that was not before. -/
def Attempts (state state' : SenderReducerState) : Prop :=
  ∀ generation ∈ state'.pendingGeneration, state.pendingGeneration = some generation

theorem attempts_take (state : SenderReducerState) {generation : Nat}
    (h : generation ∈ state.takePending) : state.pendingGeneration = some generation := by
  unfold SenderReducerState.takePending at h
  split at h
  · cases h
  · exact h

/-- What the reducer does of an event that is about no new connection. -/
inductive Reduction (state : SenderReducerState) : SenderReducerState × List SenderEffect → Prop
  | stays (state' : SenderReducerState) (effects : List SenderEffect)
      (same : state'.activeGeneration = state.activeGeneration)
      (attempts : Attempts state state') (unconnected : Unconnected state')
      (quiet : ∀ effect ∈ effects, effect.isQuiet) : Reduction state (state', effects)
  | ends (state' : SenderReducerState) (effects : List SenderEffect)
      (ended : state'.activeGeneration = none) (attempts : Attempts state state')
      (quiet : ∀ effect ∈ effects, effect.isQuiet) :
      Reduction state (state', .resetSessionResources :: effects)
  | closes (state' : SenderReducerState) (generation : Nat) (effects : List SenderEffect)
      (ended : state'.activeGeneration = none) (attempts : Attempts state state')
      (owned : state.previousGeneration = some generation)
      (quiet : ∀ effect ∈ effects, effect.isQuiet) :
      Reduction state (state', .resetSessionResources :: .closeTransport generation :: effects)

theorem reduction {state : SenderReducerState} (h : Unconnected state) (event : SenderEvent)
    [hlocal : event.Local] : Reduction state (reduce state event) := by
  -- An event whose guard does not hold changes nothing.
  have hgate : ∀ (c : Prop) [Decidable c] (outcome : SenderReducerState × List SenderEffect),
      (c → Reduction state outcome) → Reduction state (if c then outcome else (state, [])) := by
    intro c _ outcome houtcome
    split
    next hc => exact houtcome hc
    · exact Reduction.stays state [] rfl (fun _ hgeneration => hgeneration) h nofun
  cases event with
  | connectRequested =>
      dsimp only [reduce]
      cases hprevious : state.previousGeneration with
      | some generation =>
          exact Reduction.closes _ generation [] rfl (fun _ => attempts_take state) hprevious nofun
      | none =>
          have hactive : state.activeGeneration = none := by
            rw [SenderReducerState.previousGeneration, Option.or_eq_none_iff] at hprevious
            exact hprevious.1
          exact Reduction.stays _ _ hactive.symm (fun _ => attempts_take state) (fun _ => rfl) nofun
  | transportConnectStarted generation => exact absurd hlocal.connects nofun
  | explicitConnectFailed =>
      apply hgate
      intro hfree
      exact Reduction.stays _ _ rfl nofun (fun _ => hfree.1) (by simp [SenderEffect.isQuiet])
  | transportConnected generation => exact absurd hlocal.connects nofun
  | controlReceived generation =>
      dsimp only [reduce]
      split
      · exact Reduction.stays _ _ rfl (fun _ hgeneration => hgeneration) h
          (by simp [SenderEffect.isQuiet])
      · exact Reduction.stays _ _ rfl (fun _ hgeneration => hgeneration) h nofun
  | transportDisconnected generation endpointAvailable =>
      apply hgate
      intro _
      split
      · exact Reduction.ends _ _ rfl nofun (by simp [SenderEffect.isQuiet])
      · exact Reduction.ends _ _ rfl nofun nofun
  | authenticationRejected generation =>
      apply hgate
      intro hactive
      refine Reduction.closes _ generation _ rfl nofun ?_ (by simp [SenderEffect.isQuiet])
      rw [SenderReducerState.previousGeneration, hactive]
      rfl
  | userDisconnect domainResourcesActive =>
      apply hgate
      intro _
      cases hprevious : state.previousGeneration with
      | some generation =>
          exact Reduction.closes _ generation _ rfl (fun _ => attempts_take state) hprevious
            (by simp [SenderEffect.isQuiet])
      | none =>
          exact Reduction.ends _ _ rfl (fun _ => attempts_take state)
            (by simp [SenderEffect.isQuiet])
  | reconnectPolicyChanged enabled =>
      dsimp only [reduce]
      split
      next hpending =>
        refine Reduction.stays _ _ rfl (fun _ hgeneration => hgeneration)
          (fun _ => h (Or.inr ?_)) nofun
        exact (Bool.and_eq_true_iff.mp hpending).2
      · exact Reduction.stays _ _ rfl (fun _ hgeneration => hgeneration) h nofun
  | reconnectArmed attempt =>
      apply hgate
      intro hfree
      exact Reduction.stays _ _ rfl (fun _ hgeneration => hgeneration) (fun _ => hfree.2) nofun
  | reconnectDeadlineElapsed =>
      apply hgate
      intro hpending
      exact Reduction.stays _ _ rfl (fun _ hgeneration => hgeneration)
        (fun _ => h (Or.inr hpending)) (by simp [SenderEffect.isQuiet])
  | reconnectConnectFailed =>
      apply hgate
      intro hfree
      split
      · exact Reduction.stays _ _ rfl nofun (fun _ => hfree.1) (by simp [SenderEffect.isQuiet])
      · exact Reduction.stays _ _ rfl nofun (fun _ => hfree.1) nofun

namespace Core

theorem quiet_session {f : SenderSession → SenderSession} (h : ∀ s, (f s).essence = s.essence) :
    Keeps (Simulated L) (modifySession f) :=
  keeps_update fun s => simulated_same (h s.session) rfl

theorem exec_modifyEncoder_bind {α : Type} (f : EncoderState → EncoderState)
    (g : Unit → Core α) (s : SenderState) :
    exec (modifyEncoder f >>= g) s = exec (g ()) (s.setEncoder (f s.session.encoder)) :=
  exec_update_bind _ _ _

theorem quiet_note {mark : SenderMark} (h : mark.isMinor) : Keeps (Simulated L) (note mark) :=
  keeps_update fun s => simulated_change rfl fun _ => Change.note s.path mark h

instance (endpoint : Endpoint) (outcome : Except TransportError SessionId) :
    Keeps (Simulated L) (note (.asked endpoint outcome)) :=
  quiet_note rfl

instance (event : TransportEvent) : Keeps (Simulated L) (note (.polled event)) := quiet_note rfl

instance : Keeps (Simulated L) (update SenderState.turn : Core Unit) :=
  keeps_update fun _ => simulated_same rfl rfl

instance {α : Type} (f : Answers → α) : Keeps (Simulated L) (look f) := by
  unfold look
  infer_instance

instance : Keeps (Simulated L) instantNow := by
  unfold instantNow
  infer_instance

instance : Keeps (Simulated L) session := by
  unfold session
  infer_instance

instance : Keeps (Simulated L) requireSession := by
  unfold requireSession
  apply keeps_then inferInstance
  intro s
  split <;> infer_instance

/-! ## Quiet updates -/

instance (code : String) : Keeps (Simulated L) (setError code) := quiet_session fun _ => rfl

instance : Keeps (Simulated L) (modifySession SenderSession.clearError) :=
  quiet_session fun _ => rfl

instance : Keeps (Simulated L) (modifySession SenderSession.requestKeyframe) :=
  quiet_session fun _ => rfl

instance : Keeps (Simulated L) (modifySession SenderSession.endKeyframeRequest) :=
  quiet_session fun _ => rfl

instance : Keeps (Simulated L) (modifySession SenderSession.countControlMessage) :=
  quiet_session fun _ => rfl

instance (trust : TrustState) : Keeps (Simulated L) (modifySession fun s => s.setTrust trust) :=
  quiet_session fun _ => rfl

instance (stream : SenderSession → StreamState) :
    Keeps (Simulated L) (modifySession fun s => s.setStream (stream s)) :=
  quiet_session fun _ => rfl

instance (health : HealthState) :
    Keeps (Simulated L) (modifySession fun s => s.setHealth health) :=
  quiet_session fun _ => rfl

instance (trusted : TrustedDeviceStore) :
    Keeps (Simulated L) (modifySession fun s => s.setTrusted trusted) :=
  quiet_session fun _ => rfl

/-! ## Control messages that say nothing about epochs -/

theorem keeps_sendControlPayload (session : SessionId) {payload : ControlPayload}
    (h : ∀ messageId, (SenderMark.controlSent session messageId payload).isMinor) :
    Keeps (Simulated L) (sendControlPayload session payload) := by
  unfold sendControlPayload
  apply keeps_then inferInstance
  intro s
  apply keeps_then inferInstance
  intro _
  apply keeps_then inferInstance
  intro answer
  split
  · exact quiet_note (h _)
  · infer_instance

instance (session : SessionId) (hello : ClientHello) :
    Keeps (Simulated L) (sendControlPayload session (.clientHello hello)) :=
  keeps_sendControlPayload session fun _ => rfl

/-! ## Effects -/

instance : Keeps (Simulated L) (modifySession SenderSession.countReconnect) :=
  quiet_session fun _ => rfl

instance (deadline : Instant) :
    Keeps (Simulated L) (modifySession fun s => s.armReconnect deadline) :=
  quiet_session fun _ => rfl

instance : Keeps (Simulated L) (modifySession SenderSession.disableReconnect) :=
  quiet_session fun _ => rfl

instance : Keeps (Simulated L) (modifySession SenderSession.clearConnectionIntent) :=
  quiet_session fun _ => rfl

instance (nonce : Bytes) : Keeps (Simulated L) (modifySession fun s => s.startChallenge nonce) :=
  quiet_session fun _ => rfl

instance : Keeps (Simulated L) emitClientHello := by
  unfold emitClientHello
  apply keeps_then inferInstance
  intro session
  apply keeps_then inferInstance
  intro nonce
  split <;> infer_instance

section Layer

variable {apply : SenderEvent → Core (List SenderEffect)}

theorem keeps_rejectAuthenticationWith
    (happly : ∀ (event : SenderEvent) [event.Local], Keeps (Simulated L) (apply event))
    (code : String) : Keeps (Simulated L) (rejectAuthenticationWith apply code) := by
  unfold rejectAuthenticationWith
  apply keeps_then inferInstance
  intro _
  apply keeps_then inferInstance
  intro s
  split <;> infer_instance

theorem keeps_helloOnConnect
    (happly : ∀ (event : SenderEvent) [event.Local], Keeps (Simulated L) (apply event)) :
    Keeps (Simulated L) (helloOnConnect apply) := by
  unfold helloOnConnect
  apply keeps_then inferInstance
  intro s
  split
  · apply keeps_then inferInstance
    intro outcome
    split
    · exact quiet_session fun _ => rfl
    · exact keeps_rejectAuthenticationWith happly _
  · infer_instance

theorem keeps_asked {α : Type}
    (hstarted : ∀ s generation, Asked s.trace generation →
      Simulated L s (exec (apply (.transportConnectStarted generation)) s).2)
    (endpoint : Endpoint) (session : SessionId) {rest : List SenderEffect → Core α}
    (hrest : ∀ effects, Keeps (Simulated L) (rest effects)) :
    Keeps (Simulated L) (do
      note (.asked endpoint (.ok session))
      let effects ← apply (.transportConnectStarted session.value)
      rest effects) := by
  constructor
  intro s
  have hnote : Simulated L s
      { s with trace := s.trace ++ [.asked endpoint (.ok session)] } :=
    simulated_change rfl fun _ => Change.note s.path _ rfl
  unfold note
  rw [exec_update_bind]
  refine keeps_from (Frame.trans hnote (hstarted _ session.value ?_)) hrest
  exact ⟨endpoint, List.mem_append_right _ (List.mem_singleton_self _)⟩

theorem keeps_applyEffect
    (happly : ∀ (event : SenderEvent) [event.Local], Keeps (Simulated L) (apply event))
    (hstarted : ∀ s generation, Asked s.trace generation →
      Simulated L s (exec (apply (.transportConnectStarted generation)) s).2)
    {effect : SenderEffect} (h : effect.isQuiet) :
    Keeps (Simulated L) (applyEffect apply effect) := by
  cases effect with
  | prepareConnection generation => cases h
  | resetSessionResources => cases h
  | closeTransport generation => cases h
  | scheduleReconnect =>
      unfold applyEffect scheduleReconnect
      apply keeps_then inferInstance
      intro s
      split <;> infer_instance
  | startReconnect =>
      unfold applyEffect startReconnect
      apply keeps_then inferInstance
      intro s
      split
      · infer_instance
      · apply keeps_then inferInstance
        intro outcome
        cases outcome with
        | ok session => exact keeps_asked hstarted _ session fun _ => inferInstance
        | error error => infer_instance
  | acceptControl =>
      unfold applyEffect
      infer_instance
  | disableReconnect =>
      unfold applyEffect
      infer_instance
  | clearConnectionIntent =>
      unfold applyEffect
      infer_instance

theorem keeps_applyEffects
    (happly : ∀ (event : SenderEvent) [event.Local], Keeps (Simulated L) (apply event))
    (hstarted : ∀ s generation, Asked s.trace generation →
      Simulated L s (exec (apply (.transportConnectStarted generation)) s).2)
    {effects : List SenderEffect} (h : ∀ effect ∈ effects, effect.isQuiet) :
    Keeps (Simulated L) (applyEffects apply effects) := by
  induction effects with
  | nil =>
      unfold applyEffects
      infer_instance
  | cons effect rest ih =>
      unfold applyEffects
      apply keeps_then (keeps_applyEffect happly hstarted (h effect List.mem_cons_self))
      intro _
      exact ih fun e he => h e (List.mem_cons_of_mem _ he)

/-! ## Applying an event -/

/-- The state after the lifecycle has taken an event. -/
def reduced (s : SenderState) (event : SenderEvent) : SenderState :=
  { s with session := s.session.reduced event }

theorem exec_abortPendingReconfiguration (s : SenderState) :
    ∃ s', exec abortPendingReconfiguration s = (.ok (), s') ∧
      s'.path = s.path.aborted ∧ s'.session.lifecycle = s.session.lifecycle := by
  unfold abortPendingReconfiguration session modifyEncoder modifySession
  rw [exec_read_bind, exec_update_bind]
  cases hstate : s.session.encoder.applyState with
  | committed =>
      refine ⟨_, rfl, ?_, rfl⟩
      unfold EncoderPath.aborted
      rw [show s.path.encoder.applyState = .committed from hstate]
      unfold SenderState.path
      simp only [SenderSession.setEncoder, EncoderState.setApplyState, EncoderApplyState.reduce,
        ← hstate]
  | applying transaction =>
      refine ⟨_, rfl, ?_, rfl⟩
      unfold EncoderPath.aborted
      rw [show s.path.encoder.applyState = .applying transaction from hstate]
      rfl

theorem exec_resetSessionResources (s : SenderState) :
    ∃ s', exec resetSessionResources s = (.ok (), s') ∧
      s'.path = { s.path.aborted.released with connection := s.path.connection } ∧
        s'.session.lifecycle = s.session.lifecycle := by
  obtain ⟨aborted, hexec, hpath, hlifecycle⟩ := exec_abortPendingReconfiguration s
  unfold resetSessionResources modifySession
  rw [exec_bind_ok hexec]
  refine ⟨_, rfl, ?_, hlifecycle⟩
  have hconnection : aborted.path.connection = s.path.connection :=
    congrArg SenderReducerState.activeGeneration hlifecycle
  rw [← hpath, ← hconnection]
  rfl

theorem aborted_released (p : EncoderPath) (connection : Option Nat) :
    ({ p with connection := connection } : EncoderPath).aborted.released =
      p.aborted.released := by
  unfold EncoderPath.aborted
  cases p.encoder.applyState <;> rfl

theorem simulated_ended {s r : SenderState} {state' : SenderReducerState}
    (hlifecycle : r.session.lifecycle = state')
    (hpath : r.path = { s.path with connection := state'.activeGeneration })
    (hended : state'.activeGeneration = none) (hattempts : Attempts s.session.lifecycle state') :
    ∃ torn, exec resetSessionResources r = (.ok (), torn) ∧ Simulated L s torn ∧
      ∃ more, torn.trace = s.trace ++ more := by
  obtain ⟨torn, hexec, htorn, hsame⟩ := exec_resetSessionResources r
  have hreleased : torn.path = s.path.aborted.released := by
    rw [htorn, hpath, aborted_released]
    dsimp only
    rw [hended]
    rfl
  have hchange : Change L s.path torn.path := hreleased ▸ Change.tearDown s.path
  obtain ⟨more, hmore⟩ := hchange.grows
  refine ⟨torn, hexec, fun known => ⟨⟨?_, ?_⟩, Relation.ReflTransGen.single hchange⟩, more, hmore⟩
  · rw [hsame, hlifecycle]
    exact fun _ => hended
  · rw [hsame, hlifecycle, show torn.trace = s.trace ++ more from hmore]
    refine known.requested.mono (fun generation hactive => ?_) hattempts
    rw [hended] at hactive
    cases hactive

theorem asked_of_previous {state : SenderReducerState} {marks : List SenderMark} {generation : Nat}
    (h : Requested state marks) (hprevious : state.previousGeneration = some generation) :
    Asked marks generation := by
  unfold SenderReducerState.previousGeneration at hprevious
  cases hactive : state.activeGeneration with
  | none =>
      rw [hactive] at hprevious
      exact h.pending generation hprevious
  | some active =>
      rw [hactive] at hprevious
      exact h.active generation (hactive.trans hprevious)

theorem simulated_reduced
    (happly : ∀ (event : SenderEvent) [event.Local], Keeps (Simulated L) (apply event))
    (hstarted : ∀ s generation, Asked s.trace generation →
      Simulated L s (exec (apply (.transportConnectStarted generation)) s).2)
    {s : SenderState} (known : Known s) (event : SenderEvent) [event.Local] :
    Simulated L s (exec (applyEffects apply (reduce s.session.lifecycle event).2)
      (reduced s event)).2 := by
  have hlifecycle : (reduced s event).session.lifecycle = (reduce s.session.lifecycle event).1 :=
    rfl
  have hpath : (reduced s event).path =
      { s.path with connection := (reduce s.session.lifecycle event).1.activeGeneration } := rfl
  have hreduction := reduction known.unconnected event
  generalize reduced s event = r at hlifecycle hpath ⊢
  generalize reduce s.session.lifecycle event = outcome at hlifecycle hpath hreduction ⊢
  have htrace : r.trace = s.trace := congrArg EncoderPath.marks hpath
  cases hreduction with
  | stays state' effects same attempts unconnected quiet =>
      have hquiet : Simulated L s r := by
        intro known
        rw [hpath, same]
        refine ⟨⟨?_, ?_⟩, Relation.ReflTransGen.refl⟩
        · rw [hlifecycle]
          exact unconnected
        · rw [hlifecycle, htrace, ← List.append_nil s.trace]
          exact known.requested.mono (fun _ hactive => same ▸ hactive) attempts
      exact Frame.trans hquiet ((keeps_applyEffects happly hstarted quiet).keeps r)
  | ends state' effects ended attempts quiet =>
      obtain ⟨torn, hexec, htorn, -⟩ := @simulated_ended L s r state' hlifecycle hpath ended attempts
      change Simulated L s
        (exec (resetSessionResources >>= fun _ => applyEffects apply effects) r).2
      rw [exec_bind_ok hexec]
      exact Frame.trans htorn ((keeps_applyEffects happly hstarted quiet).keeps torn)
  | closes state' generation effects ended attempts owned quiet =>
      obtain ⟨torn, hexec, htorn, more, hmore⟩ :=
        @simulated_ended L s r state' hlifecycle hpath ended attempts
      have hasked : Asked torn.trace generation :=
        hmore ▸ (asked_of_previous known.requested owned).mono
      have hclosed : Simulated L torn { torn with trace := torn.trace ++ [.closed generation] } :=
        simulated_change rfl fun _ => Change.close torn.path generation hasked
      change Simulated L s (exec (resetSessionResources >>= fun _ =>
        note (.closed generation) >>= fun _ => applyEffects apply effects) r).2
      unfold note
      rw [exec_bind_ok hexec, exec_update_bind]
      exact Frame.trans htorn (Frame.trans hclosed
        ((keeps_applyEffects happly hstarted quiet).keeps _))

theorem keeps_applySenderEventWith
    (happly : ∀ (event : SenderEvent) [event.Local], Keeps (Simulated L) (apply event))
    (hstarted : ∀ s generation, Asked s.trace generation →
      Simulated L s (exec (apply (.transportConnectStarted generation)) s).2)
    (event : SenderEvent) [event.Local] :
    Keeps (Simulated L) (applySenderEventWith apply event) := by
  constructor
  intro s known
  unfold applySenderEventWith session modifySession
  rw [exec_read_bind, exec_update_bind]
  exact keeps_from (simulated_reduced happly hstarted known event) (fun _ => inferInstance) known

theorem simulated_startedWith {s : SenderState} {generation : Nat}
    (hasked : Asked s.trace generation) :
    Simulated L s (exec (applySenderEventWith apply (.transportConnectStarted generation)) s).2 := by
  unfold applySenderEventWith session modifySession
  rw [exec_read_bind, exec_update_bind]
  have heffects : (reduce s.session.lifecycle (.transportConnectStarted generation)).2 = [] := by
    unfold reduce
    dsimp only
    split <;> rfl
  rw [heffects]
  intro known
  change Orderly (reduced s (.transportConnectStarted generation)) ∧
    Changes L s.path (reduced s (.transportConnectStarted generation)).path
  by_cases hguard : s.session.lifecycle.runtime.connection = .connecting ∧
      s.session.lifecycle.activeGeneration = none
  · have hreduce : reduce s.session.lifecycle (.transportConnectStarted generation) =
        ({ s.session.lifecycle with pendingGeneration := some generation }, []) := if_pos hguard
    unfold reduced SenderSession.reduced
    rw [hreduce]
    refine ⟨⟨known.unconnected, known.requested.active, ?_⟩, Relation.ReflTransGen.refl⟩
    intro pending hpending
    rw [← Option.some.inj hpending]
    exact hasked
  · have hreduce : reduce s.session.lifecycle (.transportConnectStarted generation) =
        (s.session.lifecycle, []) := if_neg hguard
    unfold reduced SenderSession.reduced
    rw [hreduce]
    exact ⟨known.toOrderly, Relation.ReflTransGen.refl⟩

theorem keeps_applySenderEventAt (depth : Nat) :
    (∀ (event : SenderEvent) [event.Local], Keeps (Simulated L) (applySenderEventAt depth event)) ∧
      ∀ s generation, Asked s.trace generation →
        Simulated L s (exec (applySenderEventAt depth (.transportConnectStarted generation)) s).2 := by
  induction depth with
  | zero =>
      exact ⟨fun _ _ => inferInstanceAs (Keeps _ (pure [])), fun s _ _ => Frame.refl s⟩
  | succ depth ih =>
      exact ⟨fun event _ => keeps_applySenderEventWith ih.1 ih.2 event,
        fun _ _ hasked => simulated_startedWith hasked⟩

theorem simulated_adopted
    (happly : ∀ (event : SenderEvent) [event.Local], Keeps (Simulated L) (apply event))
    {s : SenderState} {generation : Nat}
    (hpolled : s.trace.getLast? = some (.polled (.connected ⟨generation⟩))) :
    Simulated L s (exec (applySenderEventWith apply (.transportConnected generation)) s).2 := by
  unfold applySenderEventWith session modifySession
  rw [exec_read_bind, exec_update_bind]
  by_cases hattempt : s.session.lifecycle.runtime.connection = .connecting ∧
      s.session.lifecycle.pendingGeneration = some generation
  · have hreduce : reduce s.session.lifecycle (.transportConnected generation) =
        ({ s.session.lifecycle with
          pendingGeneration := none
          activeGeneration := some generation
          resourcesActive := true
          reconnectPending := false
          runtime := s.session.lifecycle.runtime.resetSession (.connected generation) },
          [.prepareConnection generation]) := if_pos hattempt
    have hadopt : Simulated L s { reduced s (.transportConnected generation) with
        session := (s.session.reduced (.transportConnected generation)).prepareConnection
        trace := s.trace ++ [.connected generation] } := by
      intro known
      have hfree := known.unconnected (Or.inl hattempt.1)
      have hasked : Asked s.trace generation :=
        known.requested.pending generation hattempt.2
      refine ⟨⟨?_, ?_⟩, Relation.ReflTransGen.single ?_⟩
      · change Unconnected (reduce s.session.lifecycle (.transportConnected generation)).1
        rw [hreduce]
        intro hpending
        simp at hpending
      · change Requested (reduce s.session.lifecycle (.transportConnected generation)).1 _
        rw [hreduce]
        refine ⟨fun active hactive => ?_, nofun⟩
        rw [← Option.some.inj hactive]
        exact hasked.mono
      · convert Change.adopt s.path generation hfree hpolled using 1
        unfold SenderState.path
        change EncoderPath.mk _ (reduce s.session.lifecycle _).1.activeGeneration _ _ _ = _
        rw [hreduce]
        rfl
    have hhello : Keeps (Simulated L) (helloOnConnect apply) := keeps_helloOnConnect happly
    have heffect : Simulated L s (exec (applyEffect apply (.prepareConnection generation))
        (reduced s (.transportConnected generation))).2 :=
      Frame.trans hadopt (hhello.keeps _)
    rw [hreduce]
    exact keeps_from (keeps_from heffect fun _ => inferInstanceAs (Keeps _ (pure ())))
      fun _ => inferInstance
  · have hreduce : reduce s.session.lifecycle (.transportConnected generation) =
        (s.session.lifecycle, []) := if_neg hattempt
    rw [hreduce]
    refine simulated_same ?_ rfl
    change SenderSession.essence { s.session with lifecycle := (reduce s.session.lifecycle _).1 } = _
    rw [hreduce]

end Layer

instance (event : SenderEvent) [event.Local] : Keeps (Simulated L) (applySenderEvent event) :=
  (keeps_applySenderEventAt 3).1 event

/-- As the instance, for an attempt that the transport was asked for. -/
theorem simulated_transportConnectStarted (s : SenderState) (generation : Nat)
    (hasked : Asked s.trace generation) :
    Simulated L s (exec (applySenderEvent (.transportConnectStarted generation)) s).2 :=
  (keeps_applySenderEventAt 3).2 s generation hasked

instance (event : SenderEvent) [event.Local] : Keeps (Simulated L) (applyEvent event) := by
  unfold applyEvent
  infer_instance

theorem simulated_transportConnected {s : SenderState} {generation : Nat}
    (hpolled : s.trace.getLast? = some (.polled (.connected ⟨generation⟩))) :
    Simulated L s (exec (applyEvent (.transportConnected generation)) s).2 := by
  have hadopted : Simulated L s (exec (applySenderEvent (.transportConnected generation)) s).2 :=
    simulated_adopted (keeps_applySenderEventAt 2).1 hpolled
  unfold applyEvent
  rw [exec_attempt_bind]
  exact hadopted

instance (code : String) : Keeps (Simulated L) (rejectAuthentication code) :=
  keeps_rejectAuthenticationWith (fun _ => inferInstance) code

end Core

end PicooCamera.Sender
