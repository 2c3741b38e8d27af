import PicooCamera.Receiver.ControlSimulation
import PicooCamera.Receiver.EpochAgreement
import PicooCamera.Receiver.RefreshCustody
import PicooCamera.Receiver.ResultSimulation

/-!
# A step of the owner changes the media path

Every step of the owner is made of changes of the media path; the adoption of
a new connection is the one step that ends with something else.
-/

namespace PicooCamera.Receiver

open PicooCamera.Library PicooCamera.Protocol PicooCamera.Packet PicooCamera.Session
open PicooCamera.Jitter PicooCamera.Pairing PicooCamera.Transport Program

variable {loose accepting : Prop}

namespace Owner

/-! ## Commands and reports -/

section Quiet

variable {R : OwnerState → OwnerState → Prop} [Quiet R]

instance : Keeps R (modifySession fun s => s.pushFrame none) := quiet_session fun _ => rfl

instance : Keeps R publishWaitingPlaceholder := by
  unfold publishWaitingPlaceholder
  infer_instance

instance : Keeps R announceClose := by
  unfold announceClose
  apply keeps_then inferInstance
  intro active
  cases active <;> infer_instance

instance : Keeps R sendReceiverStats := by
  unfold sendReceiverStats
  apply keeps_then inferInstance
  intro s
  split
  · apply keeps_then inferInstance
    intro active
    cases active <;> infer_instance
  · infer_instance

instance : Keeps R sendClockSync := by
  unfold sendClockSync
  apply keeps_then inferInstance
  intro s
  split
  · apply keeps_then inferInstance
    intro active
    cases active <;> infer_instance
  · infer_instance

instance (command : CameraCommand) : Keeps R (sendCameraCommand command) := by
  unfold sendCameraCommand
  apply keeps_then inferInstance
  intro active
  cases active with
  | none => infer_instance
  | some target => infer_instance

instance (enabled : Bool) : Keeps R (modifySession fun s => s.setAutoAcceptPaired enabled) :=
  quiet_session fun _ => rfl

instance (name : String) : Keeps R (modifySession fun s => s.setDisplayName name) :=
  quiet_session fun _ => rfl

instance (height : Nat) : Keeps R (modifySession fun s => s.setAdvertisedMaxHeight height) :=
  quiet_session fun _ => rfl

instance : Keeps R (modifySession ReceiverSession.markPermissionRequired) :=
  quiet_session fun _ => rfl

instance : Keeps R (modifySession ReceiverSession.markVirtualCameraUnavailable) := by
  apply quiet_session
  intro o
  unfold ReceiverSession.markVirtualCameraUnavailable
  split <;> rfl

instance : Keeps R (modifySession ReceiverSession.clearVirtualCameraUnavailable) := by
  apply quiet_session
  intro o
  unfold ReceiverSession.clearVirtualCameraUnavailable
  split <;> rfl

end Quiet

instance : Keeps (Simulated loose accepting) close := by
  unfold close
  infer_instance

instance : Keeps (Simulated loose accepting) disconnect := by
  unfold disconnect
  infer_instance

instance (P : Platform) : Keeps (Simulated loose accepting) (clearTrustedDevicesAndDisconnect P) := by
  unfold clearTrustedDevicesAndDisconnect
  infer_instance

theorem runCommand_simulated (P : Platform) (o : OwnerState) (command : OwnerCommand) :
    Simulated loose accepting o (runCommand P o command) := by
  have hkeeps : ∀ {α : Type} {p : Owner α}, Keeps (Simulated loose accepting) p →
      Simulated loose accepting o (run p o) := fun hp => hp.keeps o
  cases command with
  | listen => exact hkeeps (simulated_applyEvent rfl)
  | disconnect => exact hkeeps inferInstance
  | publishWaitingPlaceholder => exact hkeeps inferInstance
  | requestKeyframe => exact hkeeps inferInstance
  | sendCameraCommand command => exact hkeeps inferInstance
  | confirmPairing => exact hkeeps inferInstance
  | rejectPairing => exact hkeeps inferInstance
  | removeTrustedDevice deviceId => exact hkeeps inferInstance
  | replaceTrustedIdentityHistory revision => exact hkeeps inferInstance
  | dismissTrustedIdentityReplacement revision => exact hkeeps inferInstance
  | clearTrustedDevices => exact hkeeps inferInstance
  | setAutoAcceptPaired enabled => exact hkeeps inferInstance
  | setDisplayName name => exact hkeeps inferInstance
  | setAdvertisedMaxHeight height => exact hkeeps inferInstance
  | markVirtualCameraUnavailable => exact hkeeps inferInstance
  | clearVirtualCameraUnavailable => exact hkeeps inferInstance
  | markPermissionRequired => exact hkeeps inferInstance

/-! ## Transport events -/

instance (target : SessionId) : Keeps (Simulated loose accepting) (handleDisconnected target) := by
  unfold handleDisconnected
  infer_instance

instance (P : Platform) (target : SessionId) (receivedAt : Instant)
    (packets : List VideoPacket) :
    Keeps (Simulated loose accepting) (receiveVideo P target receivedAt packets) := by
  unfold receiveVideo
  infer_instance

theorem handleTransportEvent_simulated (P : Platform) {event : TransportEvent}
    (h : ∀ target, event ≠ .connected target) :
    Keeps (Simulated loose accepting) (handleTransportEvent P event) := by
  cases event with
  | connected target => exact absurd rfl (h target)
  | disconnected target reason =>
      unfold handleTransportEvent
      infer_instance
  | controlMessage target message =>
      unfold handleTransportEvent
      infer_instance
  | videoPackets target receivedAt packets =>
      unfold handleTransportEvent
      infer_instance

theorem quiet_polled {R : OwnerState → OwnerState → Prop} [Quiet R] (o : OwnerState) :
    R o o.polled :=
  Frame.trans (quiet_turn o) (quiet_worker o.turn
    (fun session => Nat.le.intro (o.turn.world.worker.upcoming_pollEvent session)) _)

theorem pollTransportEvent_simulated (P : Platform) {o : OwnerState} (h : o.adoption = none) :
    Simulated loose accepting o (exec (pollTransportEvent P) o).2 := by
  rw [exec_pollTransportEvent]
  apply Frame.trans (quiet_polled o)
  unfold OwnerState.adoption at h
  cases hevent : o.turn.world.worker.pollEvent.1 with
  | none => exact Frame.refl o.polled
  | some event =>
      dsimp only
      apply keeps_from
      · rw [hevent] at h
        by_cases hconnected : ∃ target, event = .connected target
        · obtain ⟨target, htarget⟩ := hconnected
          subst htarget
          -- The connection has ended in the meantime.
          have hturn : Simulated loose accepting o.polled o.polled.turn := quiet_turn o.polled
          have hstale : o.polled.turn.world.worker.activeSession ≠ some target := by
            intro hactive
            simp [hactive] at h
          have hexec : exec (handleTransportEvent P (.connected target)) o.polled =
              exec (if o.polled.turn.world.worker.activeSession = some target then
                applyEvent (.transportConnected target.value) else pure ()) o.polled.turn := rfl
          rw [hexec, if_neg hstale]
          exact hturn
        · have hkeeps : Keeps (Simulated loose accepting) (handleTransportEvent P event) :=
            handleTransportEvent_simulated P fun target heq => hconnected ⟨target, heq⟩
          exact hkeeps.keeps o.polled
      · intro _
        infer_instance

theorem pollTransportEvent_adopts (P : Platform) {o : OwnerState} {connection : Nat}
    (h : o.adoption = some connection) :
    ∃ o', OnlyDecodes o o' ∧
      o'.mediaPath.upcoming ⟨connection⟩ < o.mediaPath.upcoming ⟨connection⟩ ∧
      (exec (pollTransportEvent P) o).2.mediaPath = o'.mediaPath.adopt connection := by
  unfold OwnerState.adoption at h
  rw [exec_pollTransportEvent]
  cases hevent : o.turn.world.worker.pollEvent.1 with
  | none =>
      rw [hevent] at h
      cases h
  | some event =>
      rw [hevent] at h
      cases event with
      | connected target =>
          by_cases hactive : o.polled.turn.world.worker.activeSession = some target
          · dsimp only at h
            rw [if_pos hactive] at h
            cases h
            have hturn : OnlyDecodes o o.turn := quiet_turn o
            have hafter : OnlyDecodes o.polled o.polled.turn := quiet_turn o.polled
            have htaken := o.turn.world.worker.upcoming_pollEvent target
            rw [if_pos hevent] at htaken
            refine ⟨o.polled.turn, Frame.trans (quiet_polled o) hafter, ?_, ?_⟩
            · exact ((hafter.fewer target).trans_lt (Nat.lt_of_succ_le htaken.le)).trans_le
                (hturn.fewer target)
            have hexec : exec (handleTransportEvent P (.connected target)) o.polled =
                exec (if o.polled.turn.world.worker.activeSession = some target then
                  applyEvent (.transportConnected target.value) else pure ()) o.polled.turn := rfl
            dsimp only
            rw [exec_bind, hexec, if_pos hactive]
            have hprepared : ∀ o : OwnerState,
                (exec (applyEvent (.transportConnected target.value)) o).2.mediaPath =
                  o.mediaPath.adopt target.value := by
              intro o
              change OwnerState.mediaPath
                { o with
                  session := (o.session.applyEvent (.transportConnected target.value)).prepareConnection
                  trace := o.trace ++ [.adopted target.value] } = _
              simp [OwnerState.mediaPath, MediaPath.adopt, OwnerMark.isMedia,
                OwnerMark.dispatched?, ReceiverSession.prepareConnection,
                ReceiverSession.applyEvent, reduce, ReceiverSession.videoAllowed,
                ControlChannel.new]
            have hdone : exec (applyEvent (.transportConnected target.value)) o.polled.turn =
                (.ok (), (exec (applyEvent (.transportConnected target.value)) o.polled.turn).2) :=
              rfl
            rw [hdone]
            exact hprepared o.polled.turn
          · dsimp only at h
            rw [if_neg hactive] at h
            cases h
      | disconnected target reason => cases h
      | controlMessage target message => cases h
      | videoPackets target receivedAt packets => cases h

/-! ## Steps -/

/-- The step takes the accepted completion of the refresh in flight. -/
def TakesRefresh (o : OwnerState) (label : OwnerStep) : Prop :=
  label = .pollDecoderEvent ∧ AcceptsNext o.turn.mediaPath

theorem next_simulated (P : Platform) {o : OwnerState} {label : OwnerStep}
    (h : ¬Adopts o label) : Simulated loose (TakesRefresh o label) o (next P o label) := by
  have hkeeps : ∀ {p : Owner Unit}, Keeps (Simulated loose (TakesRefresh o label)) p →
      Simulated loose (TakesRefresh o label) o (run p o) := fun hp => hp.keeps o
  cases label with
  | schedule steps => exact Quiet.same rfl
  | turn => exact quiet_turn o
  | pollDecoderEvent =>
      have htakes : TakesRefresh o .pollDecoderEvent = AcceptsNext o.turn.mediaPath := by
        simp [TakesRefresh]
      rw [htakes]
      exact pollDecoderEvent_simulated o
  | finishDecoderNegotiation => exact hkeeps inferInstance
  | expirePendingPairing => exact hkeeps inferInstance
  | expireReassemblyDeadline => exact hkeeps inferInstance
  | pollTransportEvent =>
      apply pollTransportEvent_simulated P
      by_contra hadoption
      exact h ⟨rfl, hadoption⟩
  | drainJitter => exact hkeeps inferInstance
  | requestRecoveryKeyframe => exact hkeeps inferInstance
  | finalizeDisconnectHold => exact hkeeps inferInstance
  | sendReceiverStats => exact hkeeps inferInstance
  | sendClockSync => exact hkeeps inferInstance
  | command command => exact runCommand_simulated P o command

theorem next_adopts (P : Platform) {o : OwnerState} {label : OwnerStep} (h : Adopts o label) :
    ∃ (o' : OwnerState) (connection : Nat), OnlyDecodes o o' ∧
      o'.mediaPath.upcoming ⟨connection⟩ < o.mediaPath.upcoming ⟨connection⟩ ∧
      (next P o label).mediaPath = o'.mediaPath.adopt connection := by
  obtain ⟨hlabel, hadoption⟩ := h
  subst hlabel
  obtain ⟨connection, hsome⟩ := Option.ne_none_iff_exists'.mp hadoption
  obtain ⟨o', hdecodes, htaken, heq⟩ := pollTransportEvent_adopts P hsome
  exact ⟨o', connection, hdecodes, htaken, heq⟩

end Owner

end PicooCamera.Receiver
