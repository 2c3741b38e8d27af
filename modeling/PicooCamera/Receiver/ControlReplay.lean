import PicooCamera.Library.ReplayGuard
import PicooCamera.Receiver.RefreshRuns

/-!
# Replay protection at the Receiver

The control channel is a replay guard: the numbers are message ids, the tag is the
control generation, and a connection is a channel that is announced once. A
message that is refused is given to no handler, and ends the connection.
-/

namespace PicooCamera.Receiver

open PicooCamera.Library PicooCamera.Protocol PicooCamera.Packet PicooCamera.Session
open PicooCamera.Transport PicooCamera.Pairing Program TransitionSystem

/-- The control messages that were given to their handlers: the connection, the control
generation and the message id of each. -/
def dispatchedIds (marks : List OwnerMark) : Taken SessionId Nat :=
  (marks.filterMap OwnerMark.dispatched?).map fun message =>
    (message.1, message.2.connectionGeneration, message.2.messageId)

namespace MediaPath

variable {loose accepting : Prop} {c c' : MediaPath}

def guard (c : MediaPath) : ReplayGuard SessionId Nat where
  channel := c.connection.map SessionId.mk
  pin := c.control
  last := c.received
  taken := c.dispatched.map fun message =>
    (message.1, message.2.connectionGeneration, message.2.messageId)

/-- The connection will not be announced again. -/
def Spent (c : MediaPath) (session : SessionId) : Prop := c.upcoming session = 0

structure Guarded (c : MediaPath) : Prop where
  once : ∀ session, c.upcoming session ≤ 1
  sound : c.guard.Sound c.Spent
  fresh : c.control = none → c.received = 0

theorem Guarded.change (h : c.Guarded) (hchange : Change loose accepting c c') : c'.Guarded := by
  cases hchange with
  | establish control active first =>
      exact ⟨h.once, h.sound.pinned first (some control), nofun⟩
  | expect upcoming fewer =>
      refine ⟨fun session => (fewer session).trans (h.once session), h.sound.mono ?_, h.fresh⟩
      intro session hspent
      exact Nat.le_zero.mp ((fewer session).trans hspent.le)
  | receive messageId pinned newer =>
      exact ⟨h.once, h.sound.raise newer.le, fun hnone => absurd hnone pinned⟩
  | dispatch session envelope active pinned newer =>
      refine ⟨h.once, ?_, fun hnone => ?_⟩
      · have hopen : c.guard.channel = some session := by
          change c.connection.map SessionId.mk = _
          rw [active]
          rfl
        have htake := h.sound.take hopen pinned newer
        unfold guard dispatch
        rw [List.map_append]
        exact htake
      · rw [show (c.dispatch session envelope).control = _ from pinned] at hnone
        cases hnone
  | tearDown => exact ⟨h.once, h.sound.close none 0, fun _ => rfl⟩
  | abandon => exact ⟨h.once, h.sound.close none 0, fun _ => rfl⟩
  | _ => exact ⟨h.once, h.sound, h.fresh⟩

theorem Guarded.changes (h : c.Guarded) (hchanges : Changes loose accepting c c') :
    c'.Guarded := by
  induction hchanges with
  | refl => exact h
  | tail _ hchange ih => exact ih.change hchange

theorem Guarded.adopt (h : c.Guarded) (hsame : c'.guard = c.guard)
    (hfewer : ∀ session, c'.upcoming session ≤ c.upcoming session) {connection : Nat}
    (htaken : c'.upcoming ⟨connection⟩ < c.upcoming ⟨connection⟩) :
    (c'.adopt connection).Guarded := by
  have hspent : c'.Spent ⟨connection⟩ :=
    Nat.lt_one_iff.mp (htaken.trans_le (h.once ⟨connection⟩))
  have hfresh : ¬c.Spent ⟨connection⟩ := by
    unfold Spent
    omega
  have hmono : ∀ session, c.Spent session → c'.Spent session := fun session hzero =>
    Nat.le_zero.mp ((hfewer session).trans hzero.le)
  refine ⟨fun session => (hfewer session).trans (h.once session), ?_, fun _ => rfl⟩
  have hopened := h.sound.opened hfresh hspent hmono none 0
  rw [← hsame] at hopened
  exact hopened

end MediaPath

open MediaPath

theorem OnlyDecodes.guard {o o' : OwnerState} (h : OnlyDecodes o o') :
    o'.mediaPath.guard = o.mediaPath.guard :=
  h.keeps (fun _ _ => rfl) fun _ _ => rfl

namespace Owner

theorem guarded_new (identity : DeviceIdentity) (trusted : TrustedDeviceStore)
    (hasTrustedStorePath : Bool) :
    (OwnerState.new identity trusted hasTrustedStorePath).mediaPath.Guarded where
  once := ListenerWorker.upcoming_new
  sound := ReplayGuard.sound_empty _ _ _
  fresh _ := rfl

theorem guarded_next (P : Platform) {o : OwnerState} {label : OwnerStep}
    (known : Known True o.mediaPath) (h : o.mediaPath.Guarded) :
    Known True (next P o label).mediaPath ∧ (next P o label).mediaPath.Guarded := by
  by_cases hadopts : Adopts o label
  · obtain ⟨o', connection, hdecodes, htaken, heq⟩ := next_adopts P hadopts
    have hchanges : Changes True False o.mediaPath o'.mediaPath := hdecodes.simulated known
    have hknown := known.changes hchanges
    rw [heq]
    exact ⟨⟨hknown.paired, hknown.queued, hknown.given, Or.inl trivial⟩,
      h.adopt hdecodes.guard hdecodes.fewer htaken⟩
  · have hchanges := @next_simulated True P _ _ hadopts known
    exact ⟨known.changes hchanges, h.changes hchanges⟩

theorem guarded_of_reachable (P : Platform) {o : OwnerState}
    (h : (ownerSystem P).Reachable o) : Known True o.mediaPath ∧ o.mediaPath.Guarded := by
  apply @Reachable.invariant _ _ _ _
    (fun o => Known True o.mediaPath ∧ o.mediaPath.Guarded) _ _ h
  · intro s hs
    obtain ⟨identity, trusted, hasPath, heq⟩ := hs
    rw [heq]
    have hknown := (refreshInvariant_new identity trusted hasPath).known
    exact ⟨⟨hknown.paired, hknown.queued, hknown.given, Or.inl trivial⟩,
      guarded_new identity trusted hasPath⟩
  · intro s label s' hs hstep
    rw [show s' = next P s label from hstep]
    exact guarded_next P hs.1 hs.2

/-! ## One message -/

/-- What an envelope has to be to count: a message of the active connection, with the control
generation that a ClientHello established, and with a new id. -/
structure Counts (o : OwnerState) (session : SessionId) (envelope : ControlEnvelope) : Prop where
  active : o.turn.world.worker.activeSession = some session
  first : o.session.control.controlGeneration = none →
    ∃ hello, envelope.payload = .clientHello hello
  generation : ∀ generation ∈ o.session.control.controlGeneration,
    generation = envelope.connectionGeneration
  newer : o.session.control.lastReceivedControlMessageId < envelope.messageId

/-- The phase of the session admits the payload. -/
def Admitted (o : OwnerState) (envelope : ControlEnvelope) : Prop :=
  receiverPayloadAllowed o.session.controlPhase envelope.payload = true ∧
    (o.session.controlPhase.isAuthenticated → o.session.videoAllowed = true)

/-- The end of a connection whose message was refused. -/
def rejection (session : SessionId) (error : ReceiverError) : Owner Unit := do
  rejectControlSession session
  fail error

/-- The state in which an envelope that counts has moved the boundary. -/
def counting (o : OwnerState) (envelope : ControlEnvelope) : OwnerState :=
  { o.turn with
    session := o.session.setControl
      { controlGeneration := some envelope.connectionGeneration
        nextControlMessageId := o.session.control.nextControlMessageId
        lastReceivedControlMessageId := envelope.messageId } }

variable {P : Platform} {o : OwnerState} {session : SessionId} {message : ControlFrame}
  {envelope : ControlEnvelope}

theorem exec_receiveControl_stranger
    (h : o.session.lifecycle.activeGeneration ≠ some session.value) :
    exec (receiveControl P session message) o = (.ok (), o) := by
  have hreduce : reduce o.session.lifecycle (.controlReceived session.value) =
      (o.session.lifecycle, []) := by
    unfold reduce
    exact if_neg h
  unfold receiveControl
  rw [exec_bind, exec_applyReceiverEvent, hreduce]
  change (Except.ok (), reduced o _) = _
  unfold reduced ReceiverSession.applyEvent
  rw [hreduce]

theorem exec_receiveControl_current
    (h : o.session.lifecycle.activeGeneration = some session.value) :
    exec (receiveControl P session message) o = exec (acceptControl P session message) o := by
  have hreduce : reduce o.session.lifecycle (.controlReceived session.value) =
      (o.session.lifecycle, [.acceptControl]) := by
    unfold reduce
    exact if_pos h
  have hsame : reduced o (.controlReceived session.value) = o := by
    unfold reduced ReceiverSession.applyEvent
    rw [hreduce]
  unfold receiveControl
  rw [exec_bind, exec_applyReceiverEvent, hreduce, hsame]
  rfl

theorem exec_acceptControl_error {error : ReceiverError} {o' : OwnerState}
    (h : exec (handleControl P session message) o = (.error error, o')) :
    exec (acceptControl P session message) o = exec (rejection session error) o' := by
  unfold acceptControl
  rw [exec_attempt_bind, h]
  rfl

theorem exec_handleControl (hactive : o.turn.world.worker.activeSession = some session)
    (hdecode : decodeControlEnvelope message = .ok envelope) :
    exec (handleControl P session message) o = exec (do
      handleEnvelope P session envelope
      note (.handled session.value envelope.payload)) o.turn := by
  change exec (if o.turn.world.worker.activeSession ≠ some session then _ else _) o.turn = _
  rw [if_neg (not_not.mpr hactive), hdecode]

/-- The control channel, pinned to the generation of the envelope. -/
def pinnedTo (control : ControlChannel) (envelope : ControlEnvelope) : ControlChannel :=
  { control with controlGeneration := some envelope.connectionGeneration }

theorem establishGeneration_counted {control : ControlChannel}
    (hfirst : control.controlGeneration = none → ∃ hello, envelope.payload = .clientHello hello)
    (hgeneration : ∀ generation ∈ control.controlGeneration,
      generation = envelope.connectionGeneration) :
    establishGeneration control envelope = .ok (pinnedTo control envelope) := by
  unfold establishGeneration pinnedTo
  obtain ⟨controlGeneration, next, last⟩ := control
  cases controlGeneration with
  | none =>
      obtain ⟨hello, hpayload⟩ := hfirst rfl
      rw [hpayload]
  | some generation => rw [hgeneration generation rfl]

theorem checkEnvelope_pinned {control : ControlChannel}
    (hnewer : control.lastReceivedControlMessageId < envelope.messageId) :
    checkEnvelope (pinnedTo control envelope) envelope = .ok () := by
  unfold checkEnvelope pinnedTo
  rw [if_neg (not_not.mpr rfl), if_neg (Nat.not_le.mpr hnewer)]

theorem counts_of_checked {control : ControlChannel}
    (hactive : o.turn.world.worker.activeSession = some session)
    (hestablish : establishGeneration o.session.control envelope = .ok control)
    (hcheck : checkEnvelope control envelope = .ok ()) : Counts o session envelope := by
  obtain ⟨hpinned, hnewer⟩ := checkEnvelope_ok hcheck
  refine ⟨hactive, fun hnone => ?_, fun generation hgeneration => ?_, ?_⟩
  · unfold establishGeneration at hestablish
    split at hestablish
    next hsome =>
      rw [hnone] at hsome
      cases hsome
    next hello _ hpayload => exact ⟨hello, hpayload⟩
    · cases hestablish
  · cases establishGeneration_cases hestablish with
    | inl hsame =>
        rw [hsame] at hpinned
        exact Option.some.inj (hgeneration.symm.trans hpinned)
    | inr hfirst =>
        rw [hfirst.1] at hgeneration
        cases hgeneration
  · cases establishGeneration_cases hestablish with
    | inl hsame => rwa [hsame] at hnewer
    | inr hfirst => rwa [hfirst.2] at hnewer

theorem checkEnvelope_first {control : ControlChannel}
    (hnone : o.session.control.controlGeneration = none)
    (hzero : o.session.control.lastReceivedControlMessageId = 0)
    (hestablish : establishGeneration o.session.control envelope = .ok control) :
    checkEnvelope control envelope = .ok () := by
  have hcontrol : control = pinnedTo o.session.control envelope := by
    cases establishGeneration_cases hestablish with
    | inl hsame =>
        rw [hsame] at hestablish
        unfold establishGeneration at hestablish
        rw [hnone] at hestablish
        split at hestablish
        · contradiction
        · exact hsame.trans (Except.ok.inj hestablish).symm
        · cases hestablish
    | inr hfirst => exact hfirst.2
  rw [hcontrol]
  apply checkEnvelope_pinned
  rw [hzero]
  exact envelope.messageId_pos

theorem handleEnvelope_uncounted
    (hfresh : o.session.control.controlGeneration = none →
      o.session.control.lastReceivedControlMessageId = 0)
    (hactive : o.turn.world.worker.activeSession = some session)
    (hnot : ¬Counts o session envelope) :
    ∃ error, exec (handleEnvelope P session envelope) o.turn = (.error error, o.turn) := by
  unfold handleEnvelope Owner.session modifySession
  rw [exec_read_bind, OwnerState.session_turn]
  cases hestablish : establishGeneration o.session.control envelope with
  | error error => exact ⟨error, rfl⟩
  | ok control =>
      dsimp only
      rw [exec_update_bind, OwnerState.session_turn]
      cases hcheck : checkEnvelope control envelope with
      | ok _ => exact absurd (counts_of_checked hactive hestablish hcheck) hnot
      | error error =>
          refine ⟨error, ?_⟩
          have hsame : control = o.session.control := by
            cases establishGeneration_cases hestablish with
            | inl hsame => exact hsame
            | inr hfirst =>
                have hok := checkEnvelope_first hfirst.1 (hfresh hfirst.1) hestablish
                rw [hcheck] at hok
                cases hok
          rw [hsame]
          change (Except.error error, { o.turn with session := o.session }) = _
          rw [← OwnerState.session_turn o]

theorem handleEnvelope_counted (h : Counts o session envelope) :
    exec (handleEnvelope P session envelope) o.turn =
      exec (if receiverPayloadAllowed o.session.controlPhase envelope.payload = false then
          fail (.protocol "control payload is not allowed in the current receiver phase")
        else if o.session.controlPhase.isAuthenticated ∧ o.session.videoAllowed = false then
          fail (.protocol "control payload requires an authenticated sender")
        else do
          note (.dispatched session envelope)
          handlePayload P session o.session.controlPhase envelope.payload)
        (counting o envelope) := by
  unfold handleEnvelope Owner.session modifySession
  rw [exec_read_bind, OwnerState.session_turn,
    establishGeneration_counted h.first h.generation]
  dsimp only
  rw [exec_update_bind, OwnerState.session_turn, checkEnvelope_pinned h.newer]
  rfl

theorem exec_rejection (session : SessionId) (error : ReceiverError) (o : OwnerState) :
    exec (rejection session error) o = (.error error,
      (exec (applyReceiverEvent (.abortConnection session.value .invalidControl)) o).2) := rfl

theorem rejection_ends (error : ReceiverError)
    (h : o.session.lifecycle.activeGeneration = some session.value) :
    (exec (rejection session error) o).2.session.lifecycle.activeGeneration = none ∧
      dispatchedIds (exec (rejection session error) o).2.trace = dispatchedIds o.trace := by
  have hreduce : reduce o.session.lifecycle (.abortConnection session.value .invalidControl) =
      (o.session.lifecycle.endGeneration,
        [.resetSessionResources, .closeActiveTransport .invalidControl,
          .publishWaitingPlaceholder]) := by
    unfold reduce
    exact if_pos h
  obtain ⟨o', htorn, hdecodes⟩ :=
    @applyReceiverEvent_ends OnlyDecodes _ o (.abortConnection session.value .invalidControl) _
      (congrArg Prod.snd hreduce) (congrArg (fun r => r.1.activeGeneration) hreduce)
      (by simp [ReceiverEffect.isQuiet])
  have hturn : OnlyDecodes o o.turn := quiet_turn o
  rw [exec_rejection]
  constructor
  · have hconnection := @OnlyDecodes.keeps _ _ hdecodes _ MediaPath.connection (fun _ _ => rfl)
      fun _ _ => rfl
    rw [htorn] at hconnection
    exact hconnection
  · have hafter := congrArg ReplayGuard.taken hdecodes.guard
    rw [htorn] at hafter
    exact hafter.trans (congrArg ReplayGuard.taken hturn.guard)

theorem receiveControl_uncounted (hfresh : o.session.control.controlGeneration = none →
      o.session.control.lastReceivedControlMessageId = 0)
    (hcurrent : o.session.lifecycle.activeGeneration = some session.value)
    (hnot : ∀ envelope, decodeControlEnvelope message = .ok envelope →
      ¬Counts o session envelope) :
    ∃ error, exec (receiveControl P session message) o =
      exec (rejection session error) o.turn := by
  rw [exec_receiveControl_current hcurrent]
  by_cases hactive : o.turn.world.worker.activeSession = some session
  · cases hdecode : decodeControlEnvelope message with
    | error error =>
        refine ⟨.protocol "invalid control envelope", exec_acceptControl_error ?_⟩
        change exec (if o.turn.world.worker.activeSession ≠ some session then _ else _) o.turn = _
        rw [if_neg (not_not.mpr hactive), hdecode]
        rfl
    | ok envelope =>
        obtain ⟨error, herror⟩ :=
          @handleEnvelope_uncounted P o session envelope hfresh hactive (hnot envelope hdecode)
        refine ⟨error, exec_acceptControl_error ?_⟩
        rw [exec_handleControl hactive hdecode]
        exact exec_bind_error herror
  · refine ⟨.protocol "control event does not belong to the active transport session",
      exec_acceptControl_error ?_⟩
    change exec (if o.turn.world.worker.activeSession ≠ some session then _ else _) o.turn = _
    rw [if_pos hactive]
    rfl

theorem handleEnvelope_unadmitted (h : Counts o session envelope)
    (hnot : ¬Admitted o envelope) :
    ∃ error, exec (handleEnvelope P session envelope) o.turn =
      (.error error, counting o envelope) := by
  rw [handleEnvelope_counted h]
  by_cases hphase : receiverPayloadAllowed o.session.controlPhase envelope.payload = false
  · rw [if_pos hphase]
    exact ⟨_, rfl⟩
  by_cases hvideo : o.session.controlPhase.isAuthenticated ∧ o.session.videoAllowed = false
  · rw [if_neg hphase, if_pos hvideo]
    exact ⟨_, rfl⟩
  · refine absurd ⟨Bool.eq_true_of_not_eq_false hphase, fun hauthenticated => ?_⟩ hnot
    by_contra hrefused
    exact hvideo ⟨hauthenticated, Bool.eq_false_of_not_eq_true hrefused⟩

theorem receiveControl_unadmitted
    (hcurrent : o.session.lifecycle.activeGeneration = some session.value)
    (hdecode : decodeControlEnvelope message = .ok envelope) (h : Counts o session envelope)
    (hnot : ¬Admitted o envelope) :
    ∃ error, exec (receiveControl P session message) o =
      exec (rejection session error) (counting o envelope) := by
  obtain ⟨error, herror⟩ := @handleEnvelope_unadmitted P o session envelope h hnot
  refine ⟨error, ?_⟩
  rw [exec_receiveControl_current hcurrent]
  apply exec_acceptControl_error
  rw [exec_handleControl h.active hdecode]
  exact exec_bind_error herror

theorem handleEnvelope_admitted (h : Counts o session envelope) (hadmitted : Admitted o envelope) :
    exec (handleEnvelope P session envelope) o.turn =
      exec (handlePayload P session o.session.controlPhase envelope.payload)
        { counting o envelope with trace := o.turn.trace ++ [.dispatched session envelope] } := by
  have hvideo : ¬(o.session.controlPhase.isAuthenticated ∧ o.session.videoAllowed = false) := by
    intro hrefused
    rw [hadmitted.2 hrefused.1] at hrefused
    cases hrefused.2
  rw [handleEnvelope_counted h, if_neg (by rw [hadmitted.1]; exact Bool.noConfusion),
    if_neg hvideo]
  rfl

end Owner

open Owner

/-- What the Receiver guarantees of the control messages that it takes. A message counts, and
moves the boundary, before the phase is judged; a refused message ends its connection. -/
structure ControlReplayContract (P : Platform) : Prop where
  ordered : ∀ o, (ownerSystem P).Reachable o → (dispatchedIds o.trace).Pairwise Follows
  stranger : ∀ o session message, o.session.lifecycle.activeGeneration ≠ some session.value →
    exec (receiveControl P session message) o = (.ok (), o)
  uncounted : ∀ o session message, (ownerSystem P).Reachable o →
    o.session.lifecycle.activeGeneration = some session.value →
    (∀ envelope, decodeControlEnvelope message = .ok envelope → ¬Counts o session envelope) →
    ∃ error, exec (receiveControl P session message) o =
      exec (rejection session error) o.turn
  unadmitted : ∀ o session message envelope,
    o.session.lifecycle.activeGeneration = some session.value →
    decodeControlEnvelope message = .ok envelope → Counts o session envelope →
    ¬Admitted o envelope → ∃ error, exec (receiveControl P session message) o =
      exec (rejection session error) (counting o envelope)
  admitted : ∀ o session message envelope,
    o.session.lifecycle.activeGeneration = some session.value →
    decodeControlEnvelope message = .ok envelope → Counts o session envelope →
    Admitted o envelope → exec (handleEnvelope P session envelope) o.turn =
      exec (handlePayload P session o.session.controlPhase envelope.payload)
        { counting o envelope with trace := o.turn.trace ++ [.dispatched session envelope] }
  rejected : ∀ o session error, o.session.lifecycle.activeGeneration = some session.value →
    (exec (rejection session error) o).2.session.lifecycle.activeGeneration = none ∧
      dispatchedIds (exec (rejection session error) o).2.trace = dispatchedIds o.trace

theorem controlReplayContract_holds (P : Platform) : ControlReplayContract P where
  ordered _ h := (guarded_of_reachable P h).2.sound.ordered
  stranger _ _ _ h := exec_receiveControl_stranger h
  uncounted _ _ _ h hcurrent hnot :=
    receiveControl_uncounted (guarded_of_reachable P h).2.fresh hcurrent hnot
  unadmitted _ _ _ _ hcurrent hdecode hcounts hnot :=
    receiveControl_unadmitted hcurrent hdecode hcounts hnot
  admitted _ _ _ _ _ _ hcounts hadmitted := handleEnvelope_admitted hcounts hadmitted
  rejected _ _ error hcurrent := rejection_ends error hcurrent

end PicooCamera.Receiver
