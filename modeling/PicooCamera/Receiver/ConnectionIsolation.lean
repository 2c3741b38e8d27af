import PicooCamera.Receiver.ControlReplay
import PicooCamera.Receiver.PairingSimulation

/-!
# What one connection leaves to the next

An owner without a connection holds nothing of one. A connection that is adopted
from there starts with nothing, and its datagrams reach the reassembly only after
its own messages have completed the pairing.
-/

namespace PicooCamera.Receiver

open PicooCamera.Library PicooCamera.Protocol PicooCamera.Packet PicooCamera.Session
open PicooCamera.Jitter PicooCamera.Pairing PicooCamera.Transport Program TransitionSystem

/-! ## Between two connections -/

/-- No Sender, no challenge and no media. -/
structure Released (o : OwnerState) : Prop where
  sender : o.session.activeSender = none
  challenge : o.session.pendingPairing = none
  vacant : o.session.media.Vacant

/-- Without a connection there is nothing of one. -/
def IdleReleased (o : OwnerState) : Prop := o.connectionPath.connection = none → Released o

/-- A connection is adopted. -/
def OnLine (o : OwnerState) (_ : ControlPayload → Prop) : Prop :=
  o.connectionPath.connection ≠ none

instance : Evidence OnLine where
  undisturbed h hsame hnone := h (hsame.connection.symm.trans hnone)
  dispatched _ _ hconnection _ hnone := Option.some_ne_none _ (hconnection.symm.trans hnone)

namespace Released

variable {o o' : OwnerState}

theorem of_pairing (h : Released o) (hpath : o'.pairingPath = o.pairingPath)
    (hvacant : o.session.media.Vacant → o'.session.media.Vacant) : Released o' where
  sender := (congrArg PairingPath.sender hpath).trans h.sender
  challenge := (congrArg PairingPath.pending hpath).trans h.challenge
  vacant := hvacant h.vacant

theorem silent (h : Released o) {c : PairingPath} (hsilent : o.pairingPath.Silent c)
    (hrepairs : Repairs o o' c) : Released o' := by
  refine ⟨?_, ?_, hrepairs.vacant h.vacant⟩
  · change o'.pairingPath.sender = none
    rw [hrepairs.pairing, Option.eq_none_iff_forall_not_mem]
    intro after hafter
    obtain ⟨before, hbefore, _⟩ := hsilent.sender after hafter
    rw [show o.pairingPath.sender = none from h.sender] at hbefore
    cases hbefore
  · change o'.pairingPath.pending = none
    rw [hrepairs.pairing, Option.eq_none_iff_forall_not_mem]
    intro after hafter
    obtain ⟨before, hbefore, _⟩ := hsilent.pending after hafter
    rw [show o.pairingPath.pending = none from h.challenge] at hbefore
    cases hbefore

end Released

theorem Repairs.connection {o o' : OwnerState} {c : PairingPath} (h : Repairs o o' c) :
    o'.connectionPath.connection = o.connectionPath.connection := by
  rw [h.path]

instance (P : Platform) : Adoptable (KeepingOn P IdleReleased) where
  same hsame h hnone := (h (hsame.connection.symm.trans hnone)).of_pairing hsame.pairing hsame.vacant
  carry hconnected hpath _ _ hnone :=
    absurd ((congrArg ConnectionPath.connection hpath).symm.trans hnone) hconnected
  ingest generation hconnection _ _ hnone :=
    absurd (hconnection.symm.trans hnone) (Option.some_ne_none generation)
  tearDown hpath hvacant _ _ _ :=
    ⟨congrArg (fun c => c.pairing.sender) hpath, congrArg (fun c => c.pairing.pending) hpath,
      hvacant⟩
  adopt generation hpath _ _ _ hnone :=
    absurd ((congrArg ConnectionPath.connection hpath).symm.trans hnone)
      (Option.some_ne_none generation)

instance (P : Platform) : Pairable P True OnLine (KeepingOn P IdleReleased) where
  evidence := inferInstance
  install _ _ _ hline hrepairs _ hnone := absurd (hrepairs.connection.symm.trans hnone) hline
  confirm _ hline hrepairs _ hnone := absurd (hrepairs.connection.symm.trans hnone) hline
  commit _ hline hrepairs _ hnone := absurd (hrepairs.connection.symm.trans hnone) hline
  silent _ hsilent hrepairs h hnone :=
    (h (hrepairs.connection.symm.trans hnone)).silent hsilent hrepairs

theorem idleReleased_of_reachable (P : Platform) {o : OwnerState}
    (h : (ownerSystem P).Reachable o) : IdleReleased o := by
  refine @Reachable.invariant _ _ _ _ IdleReleased ?_ ?_ h
  · rintro o ⟨identity, trusted, hasPath, rfl⟩ _
    exact ⟨rfl, rfl, rfl, rfl, rfl⟩
  · intro o label o' hidle hstep
    rw [show o' = Owner.next P o label from hstep]
    have hnext : KeepingOn P IdleReleased o (Owner.next P o label) :=
      PairingPath.keeps_next_adopting o fun _ => trivial
    exact hnext hidle

/-! ## The media path of an idle owner -/

namespace MediaPath

variable {loose accepting : Prop} {c c' : MediaPath}

/-- Without a connection there is no configuration, and no access unit waits. -/
structure Unplugged (c : MediaPath) : Prop where
  control : c.connection = none → c.control = none
  config : c.connection = none → c.config = none
  queued : c.connection = none → c.queued = false
  pending : c.connection = none → c.pending = none

theorem Unplugged.of_control (h : c.Unplugged) (hcontrol : c.control ≠ none)
    (hsame : c'.connection = c.connection) : c'.Unplugged := by
  have hconnected : c'.connection ≠ none := fun hnone =>
    hcontrol (h.control (hsame.symm.trans hnone))
  exact ⟨fun hnone => absurd hnone hconnected, fun hnone => absurd hnone hconnected,
    fun hnone => absurd hnone hconnected, fun hnone => absurd hnone hconnected⟩

theorem unplugged_tearDown (c : MediaPath) : c.tearDown.Unplugged :=
  ⟨fun _ => rfl, fun _ => rfl, fun _ => rfl, fun _ => rfl⟩

theorem Unplugged.recover (h : c.Unplugged) {queued : Bool} (hfewer : queued → c.queued) :
    (c.recover queued).Unplugged := by
  refine ⟨h.control, h.config, fun hnone => ?_, h.pending⟩
  change queued = false
  rw [← Bool.not_eq_true]
  intro hqueued
  have hwaits := hfewer hqueued
  rw [h.queued hnone] at hwaits
  cases hwaits

theorem Unplugged.change (h : c.Unplugged) (hchange : Change loose accepting c c') :
    c'.Unplugged := by
  cases hchange with
  | tearDown => exact unplugged_tearDown c
  | abandon config => exact unplugged_tearDown (c.commit config)
  | establish control active first =>
      exact ⟨fun hnone => absurd hnone active, h.config, h.queued, h.pending⟩
  | dispatch session envelope active pinned => exact h.of_control (pinned ▸ Option.some_ne_none _) rfl
  | receive messageId pinned => exact h.of_control pinned rfl
  | hold session active =>
      refine ⟨h.control, h.config, h.queued, fun hnone => ?_⟩
      rw [show c.connection = none from hnone] at active
      cases active
  | release => exact ⟨h.control, h.config, h.queued, fun _ => rfl⟩
  | commit config accepts => exact h.of_control accepts.1 rfl
  | switch config queued accepts => exact h.of_control accepts.1 rfl
  | recover queued fewer => exact h.recover fewer
  | refuse timeline decoderGeneration time result rest queued head fewer =>
      have htaken : (c.take rest).Unplugged := ⟨h.control, h.config, h.queued, h.pending⟩
      exact htaken.recover fewer
  | drain => exact ⟨h.control, h.config, fun _ => rfl, h.pending⟩
  | enqueue configured =>
      exact ⟨h.control, h.config, fun hnone => absurd (h.config hnone) configured, h.pending⟩
  | _ => exact ⟨h.control, h.config, h.queued, h.pending⟩

theorem Unplugged.changes (h : c.Unplugged) (hchanges : Changes loose accepting c c') :
    c'.Unplugged := by
  induction hchanges with
  | refl => exact h
  | tail _ hchange ih => exact ih.change hchange

theorem unplugged_adopt (c : MediaPath) (connection : Nat) : (c.adopt connection).Unplugged :=
  ⟨nofun, nofun, nofun, nofun⟩

end MediaPath

theorem unplugged_of_reachable (P : Platform) {o : OwnerState}
    (h : (ownerSystem P).Reachable o) : o.mediaPath.Unplugged := by
  have hboth : Known True o.mediaPath ∧ o.mediaPath.Unplugged := by
    refine @Reachable.invariant _ _ _ _
      (fun o => Known True o.mediaPath ∧ o.mediaPath.Unplugged) ?_ ?_ h
    · intro o hinit
      refine ⟨(Owner.guarded_of_reachable P (Reachable.of_init hinit)).1, ?_⟩
      obtain ⟨identity, trusted, hasPath, rfl⟩ := hinit
      exact ⟨fun _ => rfl, fun _ => rfl, fun _ => rfl, fun _ => rfl⟩
    · rintro o label o' ⟨hknown, hunplugged⟩ hstep
      rw [show o' = Owner.next P o label from hstep]
      by_cases hadopts : Owner.Adopts o label
      · obtain ⟨before, connection, hdecodes, _, heq⟩ := Owner.next_adopts P hadopts
        have hchanges : Changes True False o.mediaPath before.mediaPath := hdecodes.simulated hknown
        have hbefore := hknown.changes hchanges
        rw [heq]
        exact ⟨⟨hbefore.paired, hbefore.queued, hbefore.given, Or.inl trivial⟩,
          MediaPath.unplugged_adopt _ _⟩
      · have hchanges := @Owner.next_simulated True P _ _ hadopts hknown
        exact ⟨hknown.changes hchanges, hunplugged.changes hchanges⟩
  exact hboth.2

/-! ## What a connection has done -/

/-- The connection that was adopted last is `generation`, and a ClientHello, a PairingConfirm
and a PairingCommit of it were given to their handlers. -/
def PairedIn (marks : List OwnerMark) (generation : Nat) : Prop :=
  (sinceAdoption marks).1 = some generation ∧
    HeardIn (sinceAdoption marks).2 generation IsClientHello ∧
    HeardIn (sinceAdoption marks).2 generation IsPairingConfirm ∧
    HeardIn (sinceAdoption marks).2 generation IsPairingCommit

/-- Datagrams came in only after the pairing of their own connection. -/
def IngestsPaired (marks : List OwnerMark) : Prop :=
  ∀ before generation, before ++ [.ingested generation] <+: marks → PairedIn before generation

theorem IngestsPaired.snoc {marks : List OwnerMark} (h : IngestsPaired marks) {mark : OwnerMark}
    (hmark : ∀ generation, mark = .ingested generation → PairedIn marks generation) :
    IngestsPaired (marks ++ [mark]) := by
  intro before generation hprefix
  rcases List.prefix_concat_iff.mp hprefix with heq | hold
  · obtain ⟨rfl, hsingle⟩ := List.append_inj' heq rfl
    exact hmark generation (List.head_eq_of_cons_eq hsingle).symm
  · exact h before generation hold

theorem IngestsPaired.ordinary {marks more : List OwnerMark} (h : IngestsPaired marks)
    (hmore : ∀ mark ∈ more, mark.isOrdinary = true) : IngestsPaired (marks ++ more) := by
  induction more generalizing marks with
  | nil => rwa [List.append_nil]
  | cons mark rest ih =>
      rw [List.append_cons]
      refine ih (h.snoc fun generation heq => ?_) fun other hother =>
        hmore other (List.mem_cons_of_mem _ hother)
      have hordinary := hmore mark List.mem_cons_self
      rw [heq] at hordinary
      cases hordinary

/-- What is in force was made by the messages of the owner's connection. -/
structure Accounted (o : OwnerState) : Prop where
  unpaired : o.connectionPath.unpaired = false
  last : ∀ generation, o.connectionPath.connection = some generation →
    (sinceAdoption o.trace).1 = some generation
  challenged : ∀ pending ∈ o.pairingPath.pending, o.Heard IsClientHello ∧
    (pending.remoteConfirmed = true → o.Heard IsPairingConfirm) ∧
    (pending.senderCommitted = true → o.Heard IsPairingCommit)
  permitted : ∀ sender ∈ o.pairingPath.sender, sender.videoAllowed = true →
    o.Heard IsClientHello ∧ o.Heard IsPairingConfirm ∧ o.Heard IsPairingCommit
  ingested : IngestsPaired o.trace

namespace Accounted

variable {o o' : OwnerState}

theorem of_ordinary (h : Accounted o) (hpath : o'.connectionPath = o.connectionPath)
    (hordinary : Ordinary o o') : Accounted o' := by
  have hheard : ∀ {kind : ControlPayload → Prop}, o.Heard kind → o'.Heard kind := by
    intro kind hkind
    obtain ⟨generation, hconnection, hheard⟩ := hkind
    obtain ⟨more, htrace, hmore⟩ := hordinary
    refine ⟨generation, (congrArg ConnectionPath.connection hpath).trans hconnection, ?_⟩
    rw [htrace, sinceAdoption_ordinary o.trace hmore]
    exact hheard.append more
  have hpairing : o'.pairingPath = o.pairingPath := congrArg ConnectionPath.pairing hpath
  obtain ⟨more, htrace, hmore⟩ := hordinary
  refine ⟨hpath ▸ h.unpaired, ?_, ?_, ?_, ?_⟩
  · intro generation hconnection
    rw [htrace, sinceAdoption_ordinary o.trace hmore]
    exact h.last generation (hpath ▸ hconnection)
  · rw [hpairing]
    intro pending hpending
    obtain ⟨hhello, hconfirm, hcommit⟩ := h.challenged pending hpending
    exact ⟨hheard hhello, fun hc => hheard (hconfirm hc), fun hc => hheard (hcommit hc)⟩
  · rw [hpairing]
    intro sender hsender hallowed
    obtain ⟨hhello, hconfirm, hcommit⟩ := h.permitted sender hsender hallowed
    exact ⟨hheard hhello, hheard hconfirm, hheard hcommit⟩
  · rw [htrace]
    exact h.ingested.ordinary hmore

theorem heard_repairs {c : PairingPath} (hrepairs : Repairs o o' c) {kind : ControlPayload → Prop}
    (h : o.Heard kind) : o'.Heard kind := by
  obtain ⟨generation, hconnection, hheard⟩ := h
  refine ⟨generation, hrepairs.connection.trans hconnection, ?_⟩
  rw [hrepairs.trace]
  exact hheard

theorem of_repairs (h : Accounted o) {c : PairingPath} (hrepairs : Repairs o o' c)
    (hchallenged : ∀ pending ∈ c.pending, o.Heard IsClientHello ∧
      (pending.remoteConfirmed = true → o.Heard IsPairingConfirm) ∧
      (pending.senderCommitted = true → o.Heard IsPairingCommit))
    (hpermitted : ∀ sender ∈ c.sender, sender.videoAllowed = true →
      o.Heard IsClientHello ∧ o.Heard IsPairingConfirm ∧ o.Heard IsPairingCommit) :
    Accounted o' := by
  refine ⟨?_, ?_, ?_, ?_, ?_⟩
  · rw [hrepairs.path]
    exact h.unpaired
  · intro generation hconnection
    rw [hrepairs.trace]
    exact h.last generation (hrepairs.connection.symm.trans hconnection)
  · rw [hrepairs.pairing]
    intro pending hpending
    obtain ⟨hhello, hconfirm, hcommit⟩ := hchallenged pending hpending
    exact ⟨heard_repairs hrepairs hhello, fun hc => heard_repairs hrepairs (hconfirm hc),
      fun hc => heard_repairs hrepairs (hcommit hc)⟩
  · rw [hrepairs.pairing]
    intro sender hsender hallowed
    obtain ⟨hhello, hconfirm, hcommit⟩ := hpermitted sender hsender hallowed
    exact ⟨heard_repairs hrepairs hhello, heard_repairs hrepairs hconfirm,
      heard_repairs hrepairs hcommit⟩
  · rw [hrepairs.trace]
    exact h.ingested

theorem of_update (h : Accounted o) {f : PendingPairing → PendingPairing}
    (hrepairs : Repairs o o' (o.pairingPath.updatePending f))
    (hconfirm : ∀ pending, (f pending).remoteConfirmed = true →
      pending.remoteConfirmed = true ∨ o.Heard IsPairingConfirm)
    (hcommit : ∀ pending, (f pending).senderCommitted = true →
      pending.senderCommitted = true ∨ o.Heard IsPairingCommit) : Accounted o' := by
  refine h.of_repairs hrepairs (fun after hafter => ?_) h.permitted
  obtain ⟨before, hbefore, rfl⟩ := Option.mem_map.mp hafter
  obtain ⟨hhello, hremote, hcommitted⟩ := h.challenged before hbefore
  exact ⟨hhello, fun hc => (hconfirm before hc).elim hremote id,
    fun hc => (hcommit before hc).elim hcommitted id⟩

theorem heard_of_confirmed (h : Accounted o) (hconfirmed : o.pairingPath.Confirmed) :
    o.Heard IsClientHello ∧ o.Heard IsPairingConfirm ∧ o.Heard IsPairingCommit := by
  obtain ⟨pending, hpending, _, hremote, hcommitted⟩ := hconfirmed
  obtain ⟨hhello, hconfirm, hcommit⟩ := h.challenged pending hpending
  exact ⟨hhello, hconfirm hremote, hcommit hcommitted⟩

theorem pairedIn (h : Accounted o) {generation : Nat}
    (hconnection : o.connectionPath.connection = some generation)
    (hallowed : o.session.videoAllowed = true) : PairedIn o.trace generation := by
  have hpermitted : ∃ sender ∈ o.pairingPath.sender, sender.videoAllowed = true := by
    have hunpaired : o.session.permitUnpairedVideo = false := h.unpaired
    unfold ReceiverSession.videoAllowed at hallowed
    rw [hunpaired, Bool.false_or] at hallowed
    cases hsender : o.session.activeSender with
    | none =>
        rw [hsender] at hallowed
        cases hallowed
    | some sender =>
        rw [hsender] at hallowed
        exact ⟨sender, hsender, hallowed⟩
  obtain ⟨sender, hsender, hvideo⟩ := hpermitted
  have hheard : ∀ {kind : ControlPayload → Prop}, o.Heard kind →
      HeardIn (sinceAdoption o.trace).2 generation kind := by
    intro kind hkind
    obtain ⟨own, hown, hheard⟩ := hkind
    rw [hconnection] at hown
    rwa [Option.some.inj hown]
  obtain ⟨hhello, hconfirm, hcommit⟩ := h.permitted sender hsender hvideo
  exact ⟨h.last generation hconnection, hheard hhello, hheard hconfirm, hheard hcommit⟩

end Accounted

instance (P : Platform) : Endable (KeepingOn P Accounted) where
  same hsame h := h.of_ordinary hsame.path hsame.ordinary
  carry _ hpath hordinary h := h.of_ordinary hpath hordinary
  ingest {o} generation hconnection hallowed h := by
    have hsince : sinceAdoption (o.trace ++ [.ingested generation]) =
        ((sinceAdoption o.trace).1, (sinceAdoption o.trace).2 ++ [.ingested generation]) :=
      sinceAdoption_snoc _ _
    have hheard : ∀ {kind : ControlPayload → Prop}, o.Heard kind →
        ({ o with trace := o.trace ++ [.ingested generation] } : OwnerState).Heard kind := by
      rintro kind ⟨own, hown, hheard⟩
      refine ⟨own, hown, ?_⟩
      rw [hsince]
      exact hheard.append _
    refine ⟨h.unpaired, ?_, ?_, ?_, ?_⟩
    · intro own hown
      rw [hsince]
      exact h.last own hown
    · intro pending hpending
      obtain ⟨hhello, hconfirm, hcommit⟩ := h.challenged pending hpending
      exact ⟨hheard hhello, fun hc => hheard (hconfirm hc), fun hc => hheard (hcommit hc)⟩
    · intro sender hsender hvideo
      obtain ⟨hhello, hconfirm, hcommit⟩ := h.permitted sender hsender hvideo
      exact ⟨hheard hhello, hheard hconfirm, hheard hcommit⟩
    · apply h.ingested.snoc
      intro own hown
      cases hown
      exact h.pairedIn hconnection hallowed
  tearDown {o o'} hpath _ htrace h := by
    refine ⟨?_, ?_, ?_, ?_, ?_⟩
    · rw [hpath]
      exact h.unpaired
    · intro generation hconnection
      rw [hpath] at hconnection
      cases hconnection
    · rw [show o'.pairingPath.pending = none from congrArg (fun c => c.pairing.pending) hpath]
      exact nofun
    · rw [show o'.pairingPath.sender = none from congrArg (fun c => c.pairing.sender) hpath]
      exact nofun
    · rw [htrace]
      exact h.ingested

instance (P : Platform) : Pairable P True OwnerState.Heard (KeepingOn P Accounted) where
  evidence := inferInstance
  install sender pending installs hheard hrepairs h := by
    refine h.of_repairs hrepairs ?_ ?_
    · intro other hother
      cases Option.mem_some.mp hother
      rw [installs.unproved.1, installs.unproved.2]
      exact ⟨hheard, nofun, nofun⟩
    · intro other hother hallowed
      cases Option.mem_some.mp hother
      rw [installs.unseen] at hallowed
      cases hallowed
  confirm _ hheard hrepairs h := h.of_update hrepairs (fun _ _ => .inr hheard) fun _ => .inl
  commit _ hheard hrepairs h := h.of_update hrepairs (fun _ => .inl) fun _ _ => .inr hheard
  silent _ hsilent hrepairs h := by
    refine h.of_repairs hrepairs ?_ ?_
    · intro after hafter
      obtain ⟨before, hbefore, hremote, hcommitted⟩ := hsilent.pending after hafter
      obtain ⟨hhello, hconfirm, hcommit⟩ := h.challenged before hbefore
      exact ⟨hhello, fun hc => hconfirm (hremote hc), fun hc => hcommit (hcommitted hc)⟩
    · intro after hafter hallowed
      obtain ⟨before, hbefore, hpermits⟩ := hsilent.sender after hafter
      exact (hpermits hallowed).elim (h.permitted before hbefore) h.heard_of_confirmed

/-! ## The adoption -/

/-- Only the connection changes: it is `generation` from here on. -/
structure AdoptedAs (o o' : OwnerState) (generation : Nat) : Prop where
  path : o'.connectionPath = o.connectionPath.adopt generation
  vacant : o.session.media.Vacant → o'.session.media.Vacant
  trace : o'.trace = o.trace ++ [.adopted generation]

theorem Accounted.adopt {o o' : OwnerState} {generation : Nat} (h : Accounted o)
    (hreleased : Released o) (hadopted : AdoptedAs o o' generation) : Accounted o' := by
  have hsender : o'.pairingPath.sender = none :=
    (congrArg (fun c => c.pairing.sender) hadopted.path).trans hreleased.sender
  have hchallenge : o'.pairingPath.pending = none :=
    (congrArg (fun c => c.pairing.pending) hadopted.path).trans hreleased.challenge
  refine ⟨?_, ?_, ?_, ?_, ?_⟩
  · rw [hadopted.path]
    exact h.unpaired
  · intro own hown
    rw [hadopted.path] at hown
    rw [hadopted.trace, sinceAdoption_snoc, ← hown]
    rfl
  · rw [hchallenge]
    exact nofun
  · rw [hsender]
    exact nofun
  · rw [hadopted.trace]
    exact h.ingested.snoc nofun

namespace Owner

variable {P : Platform} {o o' : OwnerState} {label : OwnerStep}

theorem pollTransportEvent_adopted (P : Platform) {generation : Nat}
    (h : o.adoption = some generation) : ∃ before, Undisturbed o before ∧
      AdoptedAs before (exec (pollTransportEvent P) o).2 generation := by
  unfold OwnerState.adoption at h
  rw [exec_pollTransportEvent]
  cases hevent : o.turn.world.worker.pollEvent.1 with
  | none =>
      rw [hevent] at h
      cases h
  | some event =>
      rw [hevent] at h
      cases event with
      | connected target =>
          by_cases hactive : o.polled.turn.world.worker.activeSession = some target
          · dsimp only at h
            rw [if_pos hactive] at h
            cases h
            have hpolled : Undisturbed o o.polled :=
              Frame.trans (PairingPath.aside_world o.session_turn o.trace_turn)
                (PairingPath.aside_world rfl rfl)
            have hturned : Undisturbed o.polled o.polled.turn :=
              PairingPath.aside_world o.polled.session_turn o.polled.trace_turn
            refine ⟨o.polled.turn, Frame.trans hpolled hturned, ?_⟩
            have hexec : exec (handleTransportEvent P (.connected target)) o.polled =
                exec (if o.polled.turn.world.worker.activeSession = some target then
                  applyEvent (.transportConnected target.value) else pure ()) o.polled.turn := rfl
            have hdone : exec (applyEvent (.transportConnected target.value)) o.polled.turn =
                (.ok (), (exec (applyEvent (.transportConnected target.value)) o.polled.turn).2) :=
              rfl
            dsimp only
            rw [exec_bind, hexec, if_pos hactive, hdone]
            exact ⟨rfl, fun hvacant => hvacant, rfl⟩
          · dsimp only at h
            rw [if_neg hactive] at h
            cases h
      | disconnected target reason => cases h
      | controlMessage target message => cases h
      | videoPackets target receivedAt packets => cases h

theorem next_adopted (P : Platform) (h : Adopts o label) : ∃ before generation,
    Undisturbed o before ∧ AdoptedAs before (next P o label) generation := by
  obtain ⟨rfl, hadoption⟩ := h
  obtain ⟨generation, hsome⟩ := Option.ne_none_iff_exists'.mp hadoption
  obtain ⟨before, hbefore, hadopted⟩ := pollTransportEvent_adopted P hsome
  exact ⟨before, generation, hbefore, hadopted⟩

/-- What a new connection finds. -/
structure StartsAfresh (o : OwnerState) : Prop where
  released : Released o
  unconfigured : o.session.media.currentStreamConfig = none
  unheld : o.session.pendingDecoderConfiguration = none
  drained : o.session.media.jitter.frames = []
  unpinned : o.session.control.controlGeneration = none

theorem startsAfresh_of_idle (h : (ownerSystem P).Reachable o)
    (hidle : o.session.lifecycle.activeGeneration = none) : StartsAfresh o := by
  have hunplugged := unplugged_of_reachable P h
  refine ⟨idleReleased_of_reachable P h hidle, hunplugged.config hidle, ?_, ?_,
    hunplugged.control hidle⟩
  · exact Option.map_eq_none_iff.mp (hunplugged.pending hidle)
  · have hqueued := hunplugged.queued hidle
    exact List.isEmpty_iff.mp ((Bool.not_eq_false' _).mp hqueued)

/-- In every run, whatever way the last connection has ended: without a connection there is no
Sender, challenge, configuration, access unit or control state. -/
theorem idle_owner_holds_nothing (P : Platform) {o : OwnerState}
    (h : (ownerSystem P).Reachable o) (hidle : o.session.lifecycle.activeGeneration = none) :
    StartsAfresh o :=
  startsAfresh_of_idle h hidle

/-- The owner after the user has ended a connection that was streaming. -/
theorem idle_owner_holds_nothing_disconnected :
    StartsAfresh (next samplePlatform (ownerRun refreshing) (.command .disconnect)) :=
  idle_owner_holds_nothing samplePlatform ((reachable_ownerRun refreshing).step rfl)
    (by decide +kernel)

/-! ## Runs that adopt no connection over another one -/

/-- Without an adoption the connection stays or ends. -/
def Narrows (_ : Platform) (o o' : OwnerState) : Prop :=
  o'.connectionPath.connection = o.connectionPath.connection ∨ o'.connectionPath.connection = none

instance (P : Platform) : Frame (Narrows P) where
  refl _ := Or.inl rfl
  trans hou huv := by
    rcases huv with hsame | hnone
    · exact hou.imp hsame.trans hsame.trans
    · exact Or.inr hnone

instance (P : Platform) : Endable (Narrows P) where
  same h := Or.inl h.connection
  carry _ hpath _ := Or.inl (congrArg ConnectionPath.connection hpath)
  ingest _ _ _ := Or.inl rfl
  tearDown hpath _ _ := Or.inr (congrArg ConnectionPath.connection hpath)

instance (P : Platform) : Pairable P True (fun _ _ => True) (Narrows P) where
  evidence := ⟨fun _ _ => trivial, fun _ _ _ _ => trivial⟩
  install _ _ _ _ h := Or.inl h.connection
  confirm _ _ h := Or.inl h.connection
  commit _ _ h := Or.inl h.connection
  silent _ _ h := Or.inl h.connection

theorem adopts_of_new_connection {generation : Nat}
    (hnew : (next P o label).session.lifecycle.activeGeneration = some generation)
    (hother : o.session.lifecycle.activeGeneration ≠ some generation) : Adopts o label := by
  by_contra hnot
  have hnarrows : Narrows P o (next P o label) := PairingPath.keeps_next o hnot fun _ => trivial
  cases hnarrows with
  | inl hsame => exact hother (hsame.symm.trans hnew)
  | inr hnone => exact absurd (hnew.symm.trans hnone) (Option.some_ne_none generation)

/-- The owner's runs in which each connection is adopted by an owner that has none. -/
abbrev orderlySystem (P : Platform) : TransitionSystem OwnerState OwnerStep :=
  (ownerSystem P).restrict Uncontested

theorem accounted_new (identity : DeviceIdentity) (trusted : TrustedDeviceStore)
    (hasTrustedStorePath : Bool) :
    Accounted (OwnerState.new identity trusted hasTrustedStorePath) := by
  refine ⟨rfl, nofun, nofun, nofun, fun before generation hprefix => ?_⟩
  exact absurd (List.prefix_nil.mp hprefix) (List.append_ne_nil_of_right_ne_nil _ nofun)

theorem accounted_next (h : (orderlySystem P).Reachable o) (haccounted : Accounted o)
    (hidle : Uncontested o label) : Accounted (next P o label) := by
  by_cases hadopts : Adopts o label
  · have hreleased : Released o := idleReleased_of_reachable P h.of_restrict (hidle hadopts)
    obtain ⟨before, generation, hbefore, hadopted⟩ := next_adopted P hadopts
    exact (haccounted.of_ordinary hbefore.path hbefore.ordinary).adopt
      (hreleased.of_pairing hbefore.pairing hbefore.vacant) hadopted
  · have hkeeps : KeepingOn P Accounted o (next P o label) :=
      PairingPath.keeps_next o hadopts fun _ => trivial
    exact hkeeps haccounted

theorem accounted_of_reachable (h : (orderlySystem P).Reachable o) : Accounted o := by
  have hboth : (orderlySystem P).Reachable o ∧ Accounted o := by
    refine @Reachable.invariant _ _ _ _
      (fun o => (orderlySystem P).Reachable o ∧ Accounted o) ?_ ?_ h
    · intro o hinit
      refine ⟨Reachable.of_init hinit, ?_⟩
      obtain ⟨identity, trusted, hasPath, rfl⟩ := hinit
      exact accounted_new identity trusted hasPath
    · rintro o label o' ⟨hreach, haccounted⟩ hstep
      refine ⟨hreach.step hstep, ?_⟩
      rw [show o' = next P o label from hstep.2]
      exact accounted_next hreach haccounted hstep.1
  exact hboth.2

theorem startsAfresh_adopted (h : (orderlySystem P).Reachable o) (hidle : Uncontested o label)
    (hadopts : Adopts o label) : StartsAfresh (next P o label) := by
  have hstart := startsAfresh_of_idle h.of_restrict (hidle hadopts)
  obtain ⟨before, generation, hbefore, hadopted⟩ := next_adopted P hadopts
  obtain ⟨quiet, connection, hdecodes, _, heq⟩ := next_adopts P hadopts
  have hreleased := hstart.released.of_pairing hbefore.pairing hbefore.vacant
  have hconfig : quiet.mediaPath.config = o.mediaPath.config :=
    hdecodes.keeps (fun _ _ => rfl) fun _ _ => rfl
  have hpending : quiet.mediaPath.pending = o.mediaPath.pending :=
    hdecodes.keeps (fun _ _ => rfl) fun _ _ => rfl
  have hqueued : quiet.mediaPath.queued = o.mediaPath.queued :=
    hdecodes.keeps (fun _ _ => rfl) fun _ _ => rfl
  have hunplugged := unplugged_of_reachable P h.of_restrict
  refine ⟨⟨?_, ?_, hadopted.vacant hreleased.vacant⟩, ?_, ?_, ?_, ?_⟩
  · exact (congrArg (fun c => c.pairing.sender) hadopted.path).trans hreleased.sender
  · exact (congrArg (fun c => c.pairing.pending) hadopted.path).trans hreleased.challenge
  · exact (congrArg MediaPath.config heq).trans (hconfig.trans hstart.unconfigured)
  · have hnone := (congrArg MediaPath.pending heq).trans
      (hpending.trans (hunplugged.pending (hidle hadopts)))
    exact Option.map_eq_none_iff.mp hnone
  · have hfalse := (congrArg MediaPath.queued heq).trans
      (hqueued.trans (hunplugged.queued (hidle hadopts)))
    exact List.isEmpty_iff.mp ((Bool.not_eq_false' _).mp hfalse)
  · exact congrArg MediaPath.control heq

/-- Connections are isolated: a new one finds nothing of the older ones, and its datagrams reach
the reassembly only after the messages of this very connection have completed its pairing. -/
theorem connections_isolated (h : (orderlySystem P).Reachable o)
    (hstep : (orderlySystem P).step o label o') :
    (∀ generation, o'.session.lifecycle.activeGeneration = some generation →
      o.session.lifecycle.activeGeneration ≠ some generation → StartsAfresh o') ∧
      IngestsPaired o'.trace := by
  refine ⟨fun generation hnew hother => ?_, (accounted_of_reachable (h.step hstep)).ingested⟩
  obtain ⟨hidle, heq⟩ := hstep
  rw [show o' = next P o label from heq] at hnew ⊢
  exact startsAfresh_adopted h hidle (adopts_of_new_connection hnew hother)

/-- The first connection of a run, and the first datagram of a later state of that run. -/
theorem connections_isolated_sample :
    StartsAfresh (ownerRun connecting) ∧
      ∃ before, before ++ [.ingested 1] <+: (ownerRun refreshing).trace ∧ PairedIn before 1 := by
  constructor
  · have hstart : (orderlySystem samplePlatform).Reachable
        (ownerRun (connecting.take 1)) := by
      have hnew : (orderlySystem samplePlatform).Reachable
          (OwnerState.new sampleIdentity TrustedDeviceStore.new false) :=
        Reachable.of_init ⟨_, _, _, rfl⟩
      exact hnew.foldl (fun _ _ hmeets => ⟨hmeets, rfl⟩) (by decide +kernel)
    have hadoption : (orderlySystem samplePlatform).step (ownerRun (connecting.take 1))
        .pollTransportEvent (ownerRun connecting) := ⟨by decide +kernel, rfl⟩
    exact (connections_isolated hstart hadoption).1 1 (by decide +kernel) (by decide +kernel)
  · have hturn : ∀ o, (orderlySystem samplePlatform).step o .turn (next samplePlatform o .turn) :=
      fun _ => ⟨nofun, rfl⟩
    have hpaired : ∀ o, (orderlySystem samplePlatform).Reachable o → IngestsPaired o.trace := by
      intro o hreach
      have hstill := (connections_isolated hreach (hturn o)).2
      rwa [show (next samplePlatform o .turn).trace = o.trace from o.trace_turn] at hstill
    have hcame : (ownerRun refreshing).trace.take 13 ++ [.ingested 1] <+:
        (ownerRun refreshing).trace := by decide +kernel
    exact ⟨_, hcame, hpaired _ uncontested_refreshing _ 1 hcame⟩

end Owner

end PicooCamera.Receiver
