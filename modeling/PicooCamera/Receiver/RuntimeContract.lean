import PicooCamera.Receiver.RuntimeCommands

/-!
# The contract of the owner loop

No command is stranded, commands are applied once and in order, and the loop ends
after the handle is dropped: each step of the owner brings its end closer, unless
its turns are used up before they begin.
-/

namespace PicooCamera.Receiver

open PicooCamera.Library PicooCamera.Packet RuntimeState
open TransitionSystem

variable {State Outside Command Snapshot Frame : Type}
  {A : ReceiverRuntimeAdapter State Outside Command Snapshot Frame}
  {s s' : RuntimeState State Command Snapshot Frame}

/-! ## After the handle is dropped -/

/-- The steps that the owner takes at most until it waits or applies a command. -/
def OwnerPoint.cost : OwnerPoint Command → Nat
  | .returned => 0
  | .receive _ 0 => 2
  | .check _ 0 => 3
  | .takeLatest _ => 4
  | .turn => 5
  | .start => 6
  | .blocked _ => 6
  | .wait _ => 7
  | .schedule => 8
  | .publish _ => 9
  | .pump _ => 10
  | .afterCommands _ _ => 11
  | .receive _ _ => 12
  | .check _ _ => 13
  | .apply _ _ _ _ => 14

/-- A bound on the steps of the owner once the handle is dropped. -/
def RuntimeState.patience (s : RuntimeState State Command Snapshot Frame) : Nat :=
  13 * (s.commands.length + s.latestCommand.toList.length) + s.point.cost

def RuntimeStep.isOwner : RuntimeStep Outside Command → Bool
  | .owner _ => true
  | _ => false

theorem cost_pos {point : OwnerPoint Command} (h : point.isReturned = false) : 0 < point.cost := by
  unfold OwnerPoint.cost
  split <;> first | omega | cases h

theorem cost_check_le (started : Instant) (count : Nat) :
    (OwnerPoint.check started count : OwnerPoint Command).cost ≤ 13 := by
  cases count with
  | zero => exact (by decide : 3 ≤ 13)
  | succ count => exact le_rfl

theorem patience_lt_of_cost (hcommands : s'.commands = s.commands)
    (hlatest : s'.latestCommand = s.latestCommand) (hcost : s'.point.cost < s.point.cost) :
    s'.patience < s.patience := by
  unfold RuntimeState.patience
  rw [hcommands, hlatest]
  exact Nat.add_lt_add_left hcost _

theorem OwnerMove.patience_lt {outside : Outside} (hmove : OwnerMove A s outside s')
    (hmeets : MeetsTurns A s (.owner outside)) (hdropped : s.handle = .dropped)
    (hrunning : s.point.isReturned = false) : s'.patience < s.patience := by
  cases hmove with
  | begin hpoint => exact patience_lt_of_cost rfl rfl (by rw [hpoint]; exact (by decide : 5 < 6))
  | turn hpoint => exact patience_lt_of_cost rfl rfl (by rw [hpoint]; exact (by decide : 4 < 5))
  | takeLatest started entry hpoint hlatest =>
      unfold RuntimeState.patience
      rw [hpoint, hlatest]
      change 13 * (s.commands.length + 0) + 14 < 13 * (s.commands.length + 1) + 4
      omega
  | noLatest started hpoint =>
      exact patience_lt_of_cost rfl rfl (by rw [hpoint]; exact (by decide : 3 < 4))
  | goesOn started count hpoint =>
      refine patience_lt_of_cost rfl rfl ?_
      rw [hpoint]
      cases count with
      | zero => exact (by decide : 2 < 3)
      | succ count => exact (by decide : 12 < 13)
  | stops started count hpoint hend =>
      cases count with
      | zero =>
          refine absurd hdropped (hmeets.1 ?_).2
          unfold RuntimeState.late
          rw [hpoint]
          exact decide_eq_true (hend (by decide))
      | succ count =>
          exact patience_lt_of_cost rfl rfl (by rw [hpoint]; exact (by decide : 11 < 13))
  | command started count entry rest hpoint hcommands =>
      have hcost : 2 ≤ (OwnerPoint.receive started count : OwnerPoint Command).cost := by
        cases count with
        | zero => exact le_rfl
        | succ count => exact (by decide : 2 ≤ 12)
      unfold RuntimeState.patience
      rw [hpoint, hcommands]
      change 13 * (rest.length + s.latestCommand.toList.length) + 14 <
        13 * (rest.length + 1 + s.latestCommand.toList.length) + _
      omega
  | empty started count hpoint hcommands hhandle => exact absurd hdropped hhandle
  | disconnected started count hpoint =>
      refine patience_lt_of_cost rfl rfl ?_
      rw [hpoint]
      exact cost_pos rfl
  | apply started count latest entry hpoint =>
      refine patience_lt_of_cost rfl rfl ?_
      rw [hpoint]
      unfold RuntimeState.apply
      dsimp only
      split
      · exact (by decide : 0 < 14)
      · exact Nat.lt_of_le_of_lt (cost_check_le started count) (by decide : 13 < 14)
  | resignal started count hpoint =>
      exact patience_lt_of_cost rfl rfl (by rw [hpoint]; exact (by decide : 10 < 11))
  | noSignal started count hpoint =>
      exact patience_lt_of_cost rfl rfl (by rw [hpoint]; exact (by decide : 10 < 11))
  | pump count hpoint =>
      exact patience_lt_of_cost rfl rfl (by rw [hpoint]; exact (by decide : 9 < 10))
  | publish count _ _ _ hpoint =>
      exact patience_lt_of_cost rfl rfl (by rw [hpoint]; exact (by decide : 8 < 9))
  | schedule hpoint =>
      exact patience_lt_of_cost rfl rfl (by rw [hpoint]; exact (by decide : 7 < 8))
  | block delay hpoint =>
      exact patience_lt_of_cost rfl rfl (by rw [hpoint]; exact (by decide : 6 < 7))
  | skip delay hpoint =>
      exact patience_lt_of_cost rfl rfl (by rw [hpoint]; exact (by decide : 5 < 7))
  | wakeUp deadline hpoint =>
      exact patience_lt_of_cost rfl rfl (by rw [hpoint]; exact (by decide : 5 < 6))
  | close hpoint =>
      rw [hpoint] at hrunning
      cases hrunning

theorem OwnerMove.returned {outside : Outside} (hmove : OwnerMove A s outside s')
    (hreturned : s.point.isReturned = true) : s'.point.isReturned = true := by
  cases hmove with
  | close hpoint => exact hreturned
  | disconnected => rfl
  | _ => rw [‹s.point = _›] at hreturned; cases hreturned

theorem OwnerMove.handle {outside : Outside} (hmove : OwnerMove A s outside s') :
    s'.handle = s.handle := by
  cases hmove <;> rfl

theorem callStep_dropped {label : RuntimeStep Outside Command} (h : Orderly s)
    (hdropped : s.handle = .dropped) (hstep : s.callStep A label = some s') :
    s'.handle = .dropped ∧ s'.patience = s.patience ∧ s'.point = s.point := by
  have hlive : s.handle ≠ .alive := by
    rw [hdropped]
    exact nofun
  cases label with
  | submit command => exact absurd (Option.ite_none_right_eq_some.mp hstep).1 hlive
  | submitLatest command => exact absurd (Option.ite_none_right_eq_some.mp hstep).1 hlive
  | replace call =>
      obtain ⟨entry, hfind, _⟩ := Option.map_eq_some_iff.mp hstep
      rw [h.handle.idle hlive] at hfind
      cases hfind
  | signal call =>
      have hcall := (Option.ite_none_right_eq_some.mp hstep).1
      rw [h.handle.ended hdropped] at hcall
      cases hcall
  | drop => exact absurd (Option.ite_none_right_eq_some.mp hstep).1.1 hlive
  | release =>
      have hdropping := (Option.ite_none_right_eq_some.mp hstep).1.1
      rw [hdropped] at hdropping
      cases hdropping
  | wake =>
      cases hstep
      exact ⟨hdropped, rfl, rfl⟩
  | advance elapsed =>
      cases hstep
      exact ⟨hdropped, rfl, rfl⟩
  | owner outside => cases hstep

theorem applied_prefix (h : CommandLedger s) : s.applied <+: s.accepted := by
  rw [h.accounted, List.append_assoc]
  exact List.prefix_append _ _

theorem applied_eq (h : CommandLedger s) (hreturned : s.point.isReturned = true)
    (hcommands : s.commands = []) : s.applied = s.accepted := by
  have hinHand : s.point.inHand = [] := by
    cases hpoint : s.point with
    | returned => rfl
    | _ => rw [hpoint] at hreturned; cases hreturned
  rw [h.accounted, hinHand, hcommands, List.append_nil, List.append_nil]

theorem orderly_spawned (A : ReceiverRuntimeAdapter State Outside Command Snapshot Frame)
    (adapter : State) (outside : Outside) (now : Instant) (revision : Nat) :
    Orderly (spawned A adapter outside now revision) where
  ledger := ⟨rfl, nofun, List.nodup_nil⟩
  served := ⟨Nat.zero_le _, trivial, nofun, nofun⟩
  handle := ⟨fun _ => rfl, fun _ => rfl⟩
  stops := ⟨fun _ => nofun, nofun⟩

section Contract

variable [DecidableEq Snapshot] [DecidableEq Frame]

theorem step_eq_callStep {label : RuntimeStep Outside Command} (h : label.isOwner = false) :
    s.step A label = s.callStep A label := by
  cases label with
  | owner outside => cases h
  | _ => rfl

/-- Run lemma: every step of the owner costs patience until the loop has ended. -/
theorem finishes_of_run {labels : List (RuntimeStep Outside Command)} (h : Orderly s)
    (hdropped : s.handle = .dropped)
    (hrun : Run ((runtimeSystem A).restrict (MeetsTurns A)) s labels s') :
    Orderly s' ∧ s'.handle = .dropped ∧ (s'.point.isReturned = true ∨
      s'.patience + labels.countP RuntimeStep.isOwner ≤ s.patience) := by
  induction hrun with
  | nil => exact ⟨h, hdropped, .inr le_rfl⟩
  | @snoc labels t u label _ hstep ih =>
      obtain ⟨horderly, hhandle, hends⟩ := ih
      obtain ⟨hmeets, hstep⟩ := hstep
      refine ⟨horderly.step hmeets hstep, ?_⟩
      rw [List.countP_append, List.countP_singleton]
      cases label with
      | owner outside =>
          have hmove := ownerMove_of_ownerStep hstep
          refine ⟨hmove.handle.trans hhandle, ?_⟩
          cases hreturned : t.point.isReturned with
          | true => exact .inl (hmove.returned hreturned)
          | false =>
              rw [hreturned] at hends
              have hbound := hends.resolve_left nofun
              have hless := hmove.patience_lt hmeets hhandle hreturned
              change _ ∨ u.patience + (labels.countP RuntimeStep.isOwner + 1) ≤ s.patience
              exact .inr (by omega)
      | _ =>
          have hcall := (step_eq_callStep rfl).symm.trans hstep
          obtain ⟨hhandle', hsame, hpoint⟩ := callStep_dropped horderly hhandle hcall
          rw [hpoint, hsame]
          exact ⟨hhandle', hends⟩

/-- The contract of the loop and of the calls that feed it. -/
structure LosesNoCommand (A : ReceiverRuntimeAdapter State Outside Command Snapshot Frame)
    (s : RuntimeState State Command Snapshot Frame) : Prop where
  /-- A command that waits while the owner is blocked is of a call that has not returned. -/
  noneStranded : ∀ deadline, s.point = .blocked deadline → s.revision = s.observedRevision →
    ∀ entry, entry ∈ s.commands ∨ s.latestCommand = some entry → entry.call ∈ s.signalling
  once : (s.accepted.map Submitted.call).Nodup
  inOrder : s.applied <+: s.accepted
  nothingAfter : ∀ done ∈ s.log.dropLast, done.outcome = .continues
  /-- The loop ends with everything applied, or at a shutdown that came through the channel. -/
  complete : s.point.isReturned = true → s.applied = s.accepted ∨
    ∃ last, s.log.getLast? = some last ∧ last.latest = false ∧ last.outcome = .shutdown
  neverStuck : s.point.isReturned = false → ∀ outside, ∃ elapsed : Duration,
    (({ s with now := s.now + elapsed } : RuntimeState State Command Snapshot Frame).ownerStep A
      outside).isSome = true
  finishes : s.handle = .dropped → ∀ labels s',
    Run ((runtimeSystem A).restrict (MeetsTurns A)) s labels s' →
      s.patience ≤ labels.countP RuntimeStep.isOwner → s'.point.isReturned = true

theorem ownerStep_isSome (A : ReceiverRuntimeAdapter State Outside Command Snapshot Frame)
    (outside : Outside) (hrunning : s.point.isReturned = false) : ∃ elapsed : Duration,
    (({ s with now := s.now + elapsed } : RuntimeState State Command Snapshot Frame).ownerStep A
      outside).isSome = true := by
  cases hpoint : s.point with
  | blocked deadline =>
      refine ⟨deadline, ?_⟩
      unfold ownerStep
      dsimp only
      rw [if_pos (.inr (Nat.le_add_left _ _))]
      rfl
  | returned =>
      rw [hpoint] at hrunning
      cases hrunning
  | _ =>
      refine ⟨0, ?_⟩
      unfold ownerStep
      rfl

theorem Orderly.losesNoCommand (h : Orderly s) : LosesNoCommand A s where
  noneStranded deadline hpoint hsame entry hentry := by
    have hdrained : s.drained = true := by
      unfold RuntimeState.drained
      rw [hpoint]
    cases hentry with
    | inl hwaiting => exact h.served.channel hdrained hsame entry hwaiting
    | inr hlatest => exact h.served.slot (by rw [hpoint]; rfl) hsame entry hlatest
  once := h.ledger.once
  inOrder := applied_prefix h.ledger
  nothingAfter := by
    cases hreturned : s.point.isReturned with
    | true => exact (h.stops.stopped hreturned).1
    | false =>
        exact fun done hdone => h.stops.running hreturned done (List.mem_of_mem_dropLast hdone)
  complete hreturned :=
    (h.stops.stopped hreturned).2.imp_left fun hcommands => applied_eq h.ledger hreturned hcommands
  neverStuck hrunning outside := ownerStep_isSome A outside hrunning
  finishes hdropped labels s' hrun hlong := by
    obtain ⟨_, _, hreturned | hbound⟩ := finishes_of_run h hdropped hrun
    · exact hreturned
    · by_contra hrunning
      have hcost := cost_pos (eq_false_of_ne_true hrunning)
      have hpatience : s'.point.cost ≤ s'.patience := Nat.le_add_left _ _
      omega

/-- Runs without late turns lose no command. -/
theorem owner_loses_no_command
    (h : ((runtimeSystem A).restrict (MeetsTurns A)).Reachable s) : LosesNoCommand A s := by
  have horderly : Orderly s := by
    refine h.invariant ?_ ?_
    · rintro s ⟨adapter, outside, now, revision, rfl⟩
      exact orderly_spawned A adapter outside now revision
    · exact fun s label s' horderly hstep => horderly.step hstep.1 hstep.2
  exact horderly.losesNoCommand

/-! ## Runs of one adapter -/

instance (A : ReceiverRuntimeAdapter State Outside Command Snapshot Frame)
    (s : RuntimeState State Command Snapshot Frame) (label : RuntimeStep Outside Command) :
    Decidable (MeetsTurns A s label) :=
  match label with
  | .owner outside =>
      inferInstanceAs (Decidable ((s.late = true → (∀ entry ∈ s.commands,
        entry.call ∈ s.signalling) ∧ s.handle ≠ .dropped) ∧
        (s.latestShutsDown A outside = true → s.commands = []) ∧
        (s.selfSignals = true → s.revision < u64Max)))
  | .signal _ => inferInstanceAs (Decidable (s.revision < u64Max))
  | .wake => inferInstanceAs (Decidable (s.revision < u64Max))
  | .submit _ => isTrue trivial
  | .submitLatest _ => isTrue trivial
  | .replace _ => isTrue trivial
  | .drop => isTrue trivial
  | .release => isTrue trivial
  | .advance _ => isTrue trivial

/-- The steps one after the other, while each is possible. -/
def runtimeRun (A : ReceiverRuntimeAdapter State Outside Command Snapshot Frame)
    (s : RuntimeState State Command Snapshot Frame) (labels : List (RuntimeStep Outside Command)) :
    Option (RuntimeState State Command Snapshot Frame) :=
  labels.foldlM (fun s label => s.step A label) s

theorem reachable_runtimeRun (hs : (runtimeSystem A).Reachable s)
    {labels : List (RuntimeStep Outside Command)} (h : runtimeRun A s labels = some s') :
    (runtimeSystem A).Reachable s' := by
  induction labels generalizing s with
  | nil =>
      cases h
      exact hs
  | cons label labels ih =>
      obtain ⟨t, hstep, hrest⟩ := Option.bind_eq_some_iff.mp h
      exact ih (hs.step hstep) hrest

/-- As `runtimeRun`, while the steps meet the condition, too. -/
def meetingRun (A : ReceiverRuntimeAdapter State Outside Command Snapshot Frame)
    (s : RuntimeState State Command Snapshot Frame) (labels : List (RuntimeStep Outside Command)) :
    Option (RuntimeState State Command Snapshot Frame) :=
  labels.foldlM (fun s label => if MeetsTurns A s label then s.step A label else none) s

theorem reachable_meetingRun (hs : ((runtimeSystem A).restrict (MeetsTurns A)).Reachable s)
    {labels : List (RuntimeStep Outside Command)} (h : meetingRun A s labels = some s') :
    ((runtimeSystem A).restrict (MeetsTurns A)).Reachable s' := by
  induction labels generalizing s with
  | nil =>
      cases h
      exact hs
  | cons label labels ih =>
      obtain ⟨t, hstep, hrest⟩ := Option.bind_eq_some_iff.mp h
      obtain ⟨hmeets, hstep⟩ := Option.ite_none_right_eq_some.mp hstep
      exact ih (hs.step ⟨hmeets, hstep⟩) hrest

end Contract

/-- An adapter whose command `true` shuts down. -/
def sampleAdapter : ReceiverRuntimeAdapter Unit Unit Bool Unit Unit where
  shutdownCommand := true
  applyCommand state _ command := (state, if command then .shutdown else .continues)
  pump state _ := state
  nextWakeDelay _ _ := 1000000000
  snapshot _ _ := ()
  latestFrame _ _ := none

def sampleSpawned : RuntimeState Unit Bool Unit Unit := spawned sampleAdapter () () 0 0

/-- From the end of the commands to the wait. -/
def restOfTurn : List (RuntimeStep Unit Bool) :=
  [.owner (), .owner (), .owner (), .owner (), .owner ()]

/-- A command is applied, and the handle is dropped. -/
def droppedSteps : List (RuntimeStep Unit Bool) :=
  [.owner (), .submit false, .signal 0, .owner (), .owner (), .owner (), .owner (), .owner (),
    .owner (), .owner ()] ++ restOfTurn ++
  [.drop, .signal 1, .release, .owner (), .owner (), .owner (), .owner (), .owner ()]

/-- The first turn and the second are each used up before their first command. -/
def strandedSteps : List (RuntimeStep Unit Bool) :=
  [.owner (), .submit false, .signal 0, .owner (), .owner (), .advance 2000000, .owner ()] ++
    restOfTurn ++ [.owner (), .owner (), .advance 2000000, .owner ()] ++ restOfTurn

theorem isSome_dropped : (meetingRun sampleAdapter sampleSpawned droppedSteps).isSome = true := by
  decide +kernel

def droppedState : RuntimeState Unit Bool Unit Unit :=
  (meetingRun sampleAdapter sampleSpawned droppedSteps).get isSome_dropped

theorem isSome_stranded : (runtimeRun sampleAdapter sampleSpawned strandedSteps).isSome = true := by
  decide +kernel

def strandedState : RuntimeState Unit Bool Unit Unit :=
  (runtimeRun sampleAdapter sampleSpawned strandedSteps).get isSome_stranded

theorem owner_loses_no_command_dropped : LosesNoCommand sampleAdapter droppedState :=
  owner_loses_no_command (reachable_meetingRun (.of_init ⟨(), (), 0, 0, rfl⟩)
    (Option.some_get isSome_dropped).symm)

/-- The owner blocks with the revision that it has seen, and a command whose call has
returned waits. -/
theorem command_stranded : (runtimeSystem sampleAdapter).Reachable strandedState ∧
    strandedState.point = .blocked 100000000 ∧
    strandedState.revision = strandedState.observedRevision ∧
    strandedState.commands = [⟨0, false⟩] ∧ strandedState.signalling = [] :=
  ⟨reachable_runtimeRun (.of_init ⟨(), (), 0, 0, rfl⟩) (Option.some_get isSome_stranded).symm,
    by decide +kernel, by decide +kernel, by decide +kernel, by decide +kernel⟩

end PicooCamera.Receiver
