import PicooCamera.Receiver.ConnectionIsolation
import PicooCamera.Receiver.ReducerContract

/-!
# What brings a device into the trust store

A device that is not trusted gets into the store, and its video gets permitted, by
an approval of a challenge of its own only. A device that the user takes out of the
store stays out until then.
-/

namespace PicooCamera.Receiver

open PicooCamera.Library PicooCamera.Protocol PicooCamera.Session PicooCamera.Pairing
open PicooCamera.Transport Program TransitionSystem TrustedDeviceStore

namespace PairingPath

variable {P : Platform} {c c' : PairingPath} {device : String}

/-- A challenge of the device is confirmed at the Receiver. -/
def ConfirmedFor (c : PairingPath) (device : String) : Prop :=
  (∃ sender ∈ c.sender, sender.senderId = device) ∧
    ∃ pending ∈ c.pending, pending.localConfirmed = true

/-- Neither the store nor a challenge stands for the device. -/
structure Untrusted (c : PairingPath) (device : String) : Prop where
  absent : c.trusted.get device = none
  unconfirmed : ¬c.ConfirmedFor device

def Permits (c : PairingPath) (device : String) : Prop :=
  ∃ sender ∈ c.sender, sender.senderId = device ∧ sender.videoAllowed = true

/-- An untrusted device stays so, and its video does not become permitted. -/
def KeepsOut (device : String) (c c' : PairingPath) : Prop :=
  c.Untrusted device → c'.Untrusted device ∧ (c'.Permits device → c.Permits device)

theorem KeepsOut.refl (c : PairingPath) : KeepsOut device c c := fun h => ⟨h, id⟩

theorem KeepsOut.trans {c'' : PairingPath} (hfirst : KeepsOut device c c')
    (hsecond : KeepsOut device c' c'') : KeepsOut device c c'' := fun h =>
  ⟨(hsecond (hfirst h).1).1, (hfirst h).2 ∘ (hsecond (hfirst h).1).2⟩

theorem keepsOut_tearDown (c : PairingPath) : KeepsOut device c c.tearDown := by
  refine fun h => ⟨⟨h.absent, ?_⟩, ?_⟩
  · rintro ⟨⟨sender, hsender, _⟩, _⟩
    cases hsender
  · rintro ⟨sender, hsender, _⟩
    cases hsender

theorem keepsOut_pending {pending : Option PendingPairing}
    (h : ∀ after ∈ pending, after.localConfirmed = true →
      ∃ before ∈ c.pending, before.localConfirmed = true) :
    KeepsOut device c { c with pending := pending } := by
  refine fun hout => ⟨⟨hout.absent, ?_⟩, id⟩
  rintro ⟨hsender, after, hafter, hconfirmed⟩
  exact hout.unconfirmed ⟨hsender, h after hafter hconfirmed⟩

theorem keepsOut_update {f : PendingPairing → PendingPairing}
    (h : ∀ pending, (f pending).localConfirmed = pending.localConfirmed) :
    KeepsOut device c (c.updatePending f) := by
  apply keepsOut_pending
  intro after hafter hconfirmed
  obtain ⟨before, hbefore, rfl⟩ := Option.mem_map.mp hafter
  exact ⟨before, hbefore, (h before).symm.trans hconfirmed⟩

theorem keepsOut_install {sender : ActiveSender} {pending : PendingPairing}
    (installs : c.Installs P sender pending) :
    KeepsOut device c { c with sender := some sender, pending := some pending } := by
  refine fun hout => ⟨⟨hout.absent, ?_⟩, ?_⟩
  · rintro ⟨⟨other, hother, hid⟩, own, hown, hconfirmed⟩
    cases Option.mem_some.mp hother
    cases Option.mem_some.mp hown
    have hpaired := installs.known hconfirmed
    unfold verifyPairedKey at hpaired
    rw [hid, hout.absent] at hpaired
    cases hpaired
  · rintro ⟨other, hother, _, hallowed⟩
    cases Option.mem_some.mp hother
    rw [installs.unseen] at hallowed
    cases hallowed

theorem keepsOut_setTrusted {store : TrustedDeviceStore}
    (h : c.Untrusted device → store.get device = none) :
    KeepsOut device c (c.setTrusted store) :=
  fun hout => ⟨⟨h hout, hout.unconfirmed⟩, id⟩

theorem Untrusted.not_confirmed {sender : ActiveSender} (h : c.Untrusted device)
    (active : c.sender = some sender) (confirmed : c.Confirmed) : sender.senderId ≠ device := by
  obtain ⟨pending, hpending, hlocal, _⟩ := confirmed
  exact fun hid => h.unconfirmed ⟨⟨sender, active, hid⟩, pending, hpending, hlocal⟩

theorem keepsOut_trust {sender : ActiveSender} (nowMs : Nat) (active : c.sender = some sender)
    (confirmed : c.Confirmed) {s : ReceiverSession} (same : s.trusted = c.trusted) :
    KeepsOut device c (c.setTrusted (s.trustedAfterCommit P sender nowMs)) := by
  apply keepsOut_setTrusted
  intro hout
  have hstored : (s.trusted.upsert (trustedDeviceFromPairing P.crypto sender.senderId
      sender.deviceName sender.publicKey nowMs)).get device = none := by
    rw [get_upsert, if_neg, same]
    · exact hout.absent
    · exact hout.not_confirmed active confirmed
  rcases trustedAfterCommit_cases P s sender nowMs with ⟨_, heq⟩ | heq <;> rw [heq]
  · exact hstored
  · rw [get_prepareReplacement]
    exact hstored

theorem keepsOut_permit {sender : ActiveSender} (active : c.sender = some sender)
    (confirmed : c.Confirmed) :
    KeepsOut device c (c.setSender { sender with videoAllowed := true }) := by
  intro hout
  have hother := hout.not_confirmed active confirmed
  refine ⟨⟨hout.absent, ?_⟩, ?_⟩
  · rintro ⟨⟨after, hafter, hid⟩, _⟩
    cases Option.mem_some.mp hafter
    exact hother hid
  · rintro ⟨after, hafter, hid, _⟩
    cases Option.mem_some.mp hafter
    exact absurd hid hother

theorem Change.keepsOut (h : Change P False c c') : KeepsOut device c c' := by
  cases h with
  | tearDown => exact keepsOut_tearDown c
  | install sender pending installs => exact keepsOut_install installs
  | drop => exact keepsOut_pending nofun
  | approve approved => exact approved.elim
  | confirm => exact keepsOut_update fun _ => rfl
  | offer => exact keepsOut_update fun _ => rfl
  | commit => exact keepsOut_update fun _ => rfl
  | settle => exact keepsOut_update fun _ => rfl
  | revoke store fewer =>
      apply keepsOut_setTrusted
      intro hout
      rw [Option.eq_none_iff_forall_not_mem]
      intro stored hstored
      have hwas := fewer device stored hstored
      rw [hout.absent] at hwas
      cases hwas
  | trust sender nowMs active confirmed s same =>
      exact keepsOut_trust nowMs active confirmed same
  | permit sender active confirmed => exact keepsOut_permit active confirmed

theorem Changes.keepsOut (h : Changes P False c c') : KeepsOut device c c' := by
  induction h with
  | refl => exact KeepsOut.refl c
  | tail _ hchange ih => exact ih.trans hchange.keepsOut

end PairingPath

open PairingPath

/-! ## Runs without an approval -/

/-- The pairing path stays as it is, or the connection has ended. -/
def Ended (o o' : OwnerState) : Prop :=
  o'.pairingPath = o.pairingPath ∨ o'.pairingPath = o.pairingPath.tearDown

instance : Frame Ended where
  refl _ := Or.inl rfl
  trans hou huv := by
    rcases huv with hsame | hdown
    · exact hou.imp hsame.trans hsame.trans
    · rcases hou with hstart | hstart
      · exact Or.inr (hstart ▸ hdown)
      · have htwice := congrArg PairingPath.tearDown hstart
        exact Or.inr (hdown.trans htwice)

instance : Adoptable Ended := adoptable_of_pairing Or.inl Or.inr

namespace Owner

variable {P : Platform} {o o' : OwnerState} {label : OwnerStep} {labels : List OwnerStep}
  {device : String}

/-- The step is the user's approval of a challenge of the device. -/
def Approves (o : OwnerState) (label : OwnerStep) (device : String) : Prop :=
  label = .command .confirmPairing ∧ o.session.pendingPairing ≠ none ∧
    ∃ sender ∈ o.session.activeSender, sender.senderId = device

theorem approvePending_keepsOut
    (h : ¬(o.session.pendingPairing ≠ none ∧
      ∃ sender ∈ o.session.activeSender, sender.senderId = device)) :
    KeepsOut device o.pairingPath (exec approvePending o).2.pairingPath := by
  unfold approvePending session
  rw [exec_read_bind]
  cases hpending : o.session.pendingPairing with
  | none => exact KeepsOut.refl _
  | some pending =>
      refine fun hout => ⟨⟨hout.absent, ?_⟩, id⟩
      rintro ⟨hsender, _⟩
      exact h ⟨hpending ▸ Option.some_ne_none pending, hsender⟩

theorem confirmPairingLocally_keepsOut (P : Platform)
    (h : ¬Approves o (.command .confirmPairing) device) :
    KeepsOut device o.pairingPath (exec (confirmPairingLocally P) o).2.pairingPath := by
  have hexpired : Ended o (exec expirePendingPairingIfNeeded o).2 := Keeps.keeps o
  have hstart : KeepsOut device o.pairingPath
      (exec expirePendingPairingIfNeeded o).2.pairingPath := by
    rcases hexpired with hsame | hdown
    · rw [hsame]
      exact KeepsOut.refl _
    · rw [hdown]
      exact keepsOut_tearDown _
  unfold confirmPairingLocally
  rw [exec_bind]
  generalize exec expirePendingPairingIfNeeded o = expired at hexpired hstart
  obtain ⟨result, o₁⟩ := expired
  cases result with
  | error error => exact hstart
  | ok value =>
      have happroved : KeepsOut device o₁.pairingPath
          (exec approvePending o₁).2.pairingPath := by
        apply approvePending_keepsOut
        rintro ⟨hpending, hsender⟩
        rcases hexpired with hsame | hdown
        · refine h ⟨rfl, fun hnone => hpending ?_, ?_⟩
          · exact (congrArg PairingPath.pending hsame).trans hnone
          · rwa [show o₁.session.activeSender = o.session.activeSender from
              congrArg PairingPath.sender hsame] at hsender
        · exact hpending (congrArg PairingPath.pending hdown)
      dsimp only
      rw [exec_bind]
      generalize exec approvePending o₁ = approved at happroved
      obtain ⟨result, o₂⟩ := approved
      cases result with
      | error error => exact hstart.trans happroved
      | ok value =>
          have hadvanced : Pairs P False o₂ (exec (advancePairing P) o₂).2 := Keeps.keeps o₂
          exact (hstart.trans happroved).trans (Changes.keepsOut hadvanced)

/-- Step lemma. -/
theorem next_keepsOut (P : Platform) (h : ¬Approves o label device) :
    KeepsOut device o.pairingPath (next P o label).pairingPath := by
  by_cases hconfirms : label = .command .confirmPairing
  · subst hconfirms
    exact confirmPairingLocally_keepsOut P h
  · have hpairs : Pairs P False o (next P o label) := keeps_next_adopting o hconfirms
    exact hpairs.keepsOut

/-- The owner's runs in which the user approves no challenge of the device. -/
abbrev withoutApproval (P : Platform) (device : String) : TransitionSystem OwnerState OwnerStep :=
  (ownerSystem P).restrict fun o label => ¬Approves o label device

/-- Run lemma. -/
theorem run_keepsOut (hrun : Run (withoutApproval P device) o labels o') :
    KeepsOut device o.pairingPath o'.pairingPath := by
  induction hrun with
  | nil => exact KeepsOut.refl _
  | snoc _ hstep ih =>
      obtain ⟨happroves, heq⟩ := hstep
      rw [show _ = next P _ _ from heq]
      exact ih.trans (next_keepsOut P happroves)

/-- A device that is not in the store of a Receiver at its start gets neither into the store nor
its video permitted without the user's approval of a challenge of that device. -/
theorem stranger_needs_approval {identity : DeviceIdentity} {trusted : TrustedDeviceStore}
    {hasTrustedStorePath : Bool} (habsent : trusted.get device = none)
    (hrun : Run (withoutApproval P device)
      (OwnerState.new identity trusted hasTrustedStorePath) labels o) :
    o.session.trusted.get device = none ∧ ¬o.pairingPath.Permits device := by
  have hout : (OwnerState.new identity trusted hasTrustedStorePath).pairingPath.Untrusted device := by
    refine ⟨habsent, ?_⟩
    rintro ⟨⟨sender, hsender, _⟩, _⟩
    cases hsender
  obtain ⟨hstill, hpermits⟩ := run_keepsOut hrun hout
  refine ⟨hstill.absent, fun hallowed => ?_⟩
  obtain ⟨sender, hsender, _⟩ := hpermits hallowed
  cases hsender

def isConfirmation : OwnerStep → Bool
  | .command .confirmPairing => true
  | _ => false

theorem run_unconfirmed (P : Platform) (o : OwnerState) {labels : List OwnerStep} (device : String)
    (h : labels.all fun label => !isConfirmation label) :
    Run (withoutApproval P device) o labels (labels.foldl (next P) o) := by
  apply Run.foldl fun _ _ hmeets => ⟨hmeets, rfl⟩
  induction labels generalizing o with
  | nil => trivial
  | cons label rest ih =>
      rw [List.all_cons, Bool.and_eq_true] at h
      refine ⟨?_, ih _ h.2⟩
      rintro ⟨rfl, _⟩
      cases h.1

/-- A Sender that proves its key to a Receiver whose user does nothing. -/
theorem stranger_needs_approval_sample :
    let o := ownerRun (connecting ++ preparingDecoder ++ receiving 1 (.clientHello sampleHello) ++
      receiving 2 (.pairingConfirm sampleProof) ++ receiving 3 (.pairingCommit sampleProof))
    o.session.trusted.get sampleHello.senderId = none ∧
      ¬o.pairingPath.Permits sampleHello.senderId :=
  stranger_needs_approval Std.ExtTreeMap.getElem?_empty
    (run_unconfirmed samplePlatform _ sampleHello.senderId (by decide))

/-! ## Revocation -/

/-- The Sender and its challenge stay as they are. -/
def SameChallenge (o o' : OwnerState) : Prop :=
  o'.pairingPath.sender = o.pairingPath.sender ∧ o'.pairingPath.pending = o.pairingPath.pending

instance : Frame SameChallenge where
  refl _ := ⟨rfl, rfl⟩
  trans hou huv := ⟨huv.1.trans hou.1, huv.2.trans hou.2⟩

instance : Aside SameChallenge where
  same hsame :=
    ⟨congrArg PairingPath.sender hsame.pairing, congrArg PairingPath.pending hsame.pairing⟩

instance (store : TrustedDeviceStore) : Keeps SameChallenge (replaceTrusted P store) := by
  constructor
  intro o
  rcases replaceTrusted_outcome P store o with hwritten | hsame
  · have hset : SameChallenge o { o with session := o.session.setTrusted store } := ⟨rfl, rfl⟩
    exact Frame.trans hset (Aside.same hwritten)
  · exact Aside.same hsame

instance (deviceId : String) : Keeps SameChallenge (removeTrustedDevice P deviceId) := by
  unfold removeTrustedDevice
  infer_instance

instance (revision : Nat) : Keeps SameChallenge (replaceTrustedIdentityHistory P revision) := by
  unfold replaceTrustedIdentityHistory
  apply keeps_then inferInstance
  intro s
  split <;> infer_instance

theorem narrows_applyEffects (event : ReceiverEvent) {effects : List ReceiverEffect}
    (h : .prepareConnection ∉ effects) : Keeps (Narrows P) (applyEffects event effects) := by
  have hquiet : ∀ effect : ReceiverEffect, effect ≠ .prepareConnection →
      Keeps (Narrows P) (applyEffect event effect) := by
    intro effect hother
    cases effect with
    | prepareConnection => exact absurd rfl hother
    | resetSessionResources => exact ⟨fun _ => Or.inl rfl⟩
    | _ => exact aside_applyEffect event rfl
  induction effects with
  | nil =>
      unfold applyEffects
      infer_instance
  | cons effect rest ih =>
      rw [List.mem_cons, not_or] at h
      unfold applyEffects
      exact keeps_then (hquiet effect fun heq => h.1 heq.symm) fun _ => ih h.2

theorem connection_userClose (P : Platform) (o : OwnerState) :
    (exec (applyEvent .userClose) o).2.connectionPath.connection = none := by
  have hnone : (reduced o .userClose).connectionPath.connection = none :=
    (reduce_userClose o.session.lifecycle).1
  have heffects : ReceiverEffect.prepareConnection ∉ (reduce o.session.lifecycle .userClose).2 := by
    simp only [reduce]
    split <;> simp
  have hrest : Keeps (Narrows P) (do
      applyEffects .userClose (reduce o.session.lifecycle .userClose).2
      pure (reduce o.session.lifecycle .userClose).2) :=
    keeps_then (narrows_applyEffects _ heffects) fun _ => inferInstance
  have hclosed : (exec (applyReceiverEvent .userClose) o).2.connectionPath.connection = none := by
    rw [exec_applyReceiverEvent]
    exact (hrest.keeps (reduced o .userClose)).elim (fun hsame => hsame.trans hnone) id
  unfold applyEvent
  rw [exec_bind_pure]
  exact hclosed

theorem exec_announceClose_ok (o : OwnerState) : (exec announceClose o).1 = .ok () := by
  unfold announceClose activeSession look
  rw [bind_assoc, exec_update_bind, exec_read_bind]
  dsimp only
  cases o.turn.world.worker.activeSession with
  | none => rfl
  | some target =>
      unfold session
      rw [exec_read_bind]
      unfold when
      split <;> rfl

theorem connection_disconnect (P : Platform) (o : OwnerState) :
    (exec disconnect o).2.connectionPath.connection = none := by
  have hannounced : exec announceClose o = (.ok (), (exec announceClose o).2) :=
    Prod.ext (exec_announceClose_ok o) rfl
  have hplaceholder : Keeps Undisturbed publishWaitingPlaceholder := inferInstance
  have hclosed : (exec close o).2.connectionPath.connection = none := by
    unfold close
    rw [exec_bind_ok hannounced]
    exact connection_userClose P _
  unfold disconnect
  rw [exec_bind]
  generalize exec close o = outcome at hclosed
  obtain ⟨result, o₁⟩ := outcome
  cases result with
  | error error => exact hclosed
  | ok value => exact (hplaceholder.keeps o₁).connection.trans hclosed

theorem connection_clear (htrusted : o.session.trusted.get device ≠ none)
    (hrevoked : (next P o (.command .clearTrustedDevices)).session.trusted.get device = none) :
    (next P o (.command .clearTrustedDevices)).connectionPath.connection = none := by
  obtain ⟨result, hresult, htransaction⟩ := clearTrustedDevices_transacts P o
  change (exec (clearTrustedDevicesAndDisconnect P) o).2.session.trusted.get device = none at hrevoked
  change (exec (clearTrustedDevicesAndDisconnect P) o).2.connectionPath.connection = none
  unfold clearTrustedDevicesAndDisconnect at hrevoked ⊢
  rw [exec_bind] at hrevoked ⊢
  generalize exec (clearTrustedDevices P) o = outcome at *
  obtain ⟨answer, o₁⟩ := outcome
  cases answer with
  | ok count => exact connection_disconnect P o₁
  | error error =>
      -- The store that could not be written is as it was.
      change o₁.session.trusted.get device = none at hrevoked
      dsimp only at htransaction hresult
      generalize o₁.session.trusted = store at hrevoked htransaction
      cases htransaction with
      | idle => exact absurd hrevoked htrusted
      | refused => exact absurd hrevoked htrusted
      | written => cases hresult

/-- The user takes `device` out of the store. -/
structure Revokes (P : Platform) (o : OwnerState) (command : OwnerCommand) (device : String) :
    Prop where
  revoking : command = .removeTrustedDevice device ∨
    (∃ revision, command = .replaceTrustedIdentityHistory revision) ∨ command = .clearTrustedDevices
  stored : o.session.trusted.get device ≠ none
  removed : (next P o (.command command)).session.trusted.get device = none
  /-- A challenge that was confirmed before the revocation survives it, unless all is cleared. -/
  unconfirmed : command = .clearTrustedDevices ∨ ¬o.pairingPath.ConfirmedFor device

theorem Revokes.untrusted {command : OwnerCommand} (h : Revokes P o command device)
    (hreach : (ownerSystem P).Reachable o) :
    (next P o (.command command)).pairingPath.Untrusted device ∧
      ((next P o (.command command)).pairingPath.Permits device →
        command ≠ .clearTrustedDevices ∧ o.pairingPath.Permits device) := by
  have hsame : SameChallenge o (next P o (.command command)) →
      command ≠ .clearTrustedDevices →
      (next P o (.command command)).pairingPath.Untrusted device ∧
        ((next P o (.command command)).pairingPath.Permits device →
          command ≠ .clearTrustedDevices ∧ o.pairingPath.Permits device) := by
    rintro ⟨hsender, hpending⟩ hother
    refine ⟨⟨h.removed, ?_⟩, fun hallowed => ⟨hother, ?_⟩⟩
    · unfold ConfirmedFor
      rw [hsender, hpending]
      exact h.unconfirmed.resolve_left hother
    · unfold Permits at hallowed ⊢
      rwa [hsender] at hallowed
  rcases h.revoking with rfl | ⟨revision, rfl⟩ | rfl
  · have hkept : Keeps SameChallenge (removeTrustedDevice P device) := inferInstance
    exact hsame (hkept.keeps o) nofun
  · have hkept : Keeps SameChallenge (replaceTrustedIdentityHistory P revision) := inferInstance
    exact hsame (hkept.keeps o) nofun
  · have hidle := connection_clear h.stored h.removed
    have hreleased := idleReleased_of_reachable P (hreach.step rfl) hidle
    refine ⟨⟨h.removed, ?_⟩, ?_⟩
    · rintro ⟨⟨sender, hsender, _⟩, _⟩
      rw [show (next P o _).pairingPath.sender = none from hreleased.sender] at hsender
      cases hsender
    · rintro ⟨sender, hsender, _⟩
      rw [show (next P o _).pairingPath.sender = none from hreleased.sender] at hsender
      cases hsender

/-- A device that the user has taken out of the store is out of it in every later state, and its
video does not become permitted again, until the user approves a challenge of that device. -/
theorem revoked_device_stays_out {command : OwnerCommand} (hreach : (ownerSystem P).Reachable o)
    (hrevokes : Revokes P o command device)
    (hrun : Run (withoutApproval P device) (next P o (.command command)) labels o') :
    o'.session.trusted.get device = none ∧
      (o'.pairingPath.Permits device →
        command ≠ .clearTrustedDevices ∧ o.pairingPath.Permits device) := by
  obtain ⟨hout, hpermits⟩ := hrevokes.untrusted hreach
  obtain ⟨hstill, hkept⟩ := run_keepsOut hrun hout
  exact ⟨hstill.absent, hpermits ∘ hkept⟩

/-- The connection ends, and the Sender comes again with its proofs. -/
def returning : List OwnerStep :=
  [.command .disconnect,
    .schedule [[.worker (.finish .peerClose), .worker .clear, .worker .announceEnd]],
    .pollTransportEvent] ++ connecting ++ receiving 1 (.clientHello sampleHello) ++
      receiving 2 (.pairingConfirm sampleProof) ++ receiving 3 (.pairingCommit sampleProof)

/-- The user takes the device of a streaming Sender out of the store, and the Sender returns. -/
def returned : OwnerState :=
  returning.foldl (next samplePlatform)
    (next samplePlatform (ownerRun refreshing)
      (.command (.removeTrustedDevice sampleHello.senderId)))

/-- The device is admitted again, and its challenge waits for the user's approval. -/
theorem revoked_device_stays_out_sample :
    returned.session.activeSender.map ActiveSender.senderId = some sampleHello.senderId ∧
      returned.session.pendingPairing.isSome ∧
      returned.session.trusted.get sampleHello.senderId = none := by
  have hrevokes : Revokes samplePlatform (ownerRun refreshing)
      (.removeTrustedDevice sampleHello.senderId) sampleHello.senderId := by
    refine ⟨.inl rfl, by decide +kernel, by decide +kernel, .inr ?_⟩
    rintro ⟨_, pending, hpending, _⟩
    have hnone : (ownerRun refreshing).pairingPath.pending.isNone = true := by decide +kernel
    rw [Option.isNone_iff_eq_none.mp hnone] at hpending
    cases hpending
  have hquiet : returning.all fun label => !isConfirmation label := by decide
  refine ⟨by decide +kernel, by decide +kernel, ?_⟩
  unfold returned
  exact (revoked_device_stays_out (reachable_ownerRun refreshing) hrevokes
    (run_unconfirmed samplePlatform _ sampleHello.senderId hquiet)).1

end Owner

end PicooCamera.Receiver
