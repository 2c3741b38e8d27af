import PicooCamera.Receiver.Runtime

/-!
# The owner loop loses no command

A turn drains the channel, or ends with a signal to itself. A turn whose time is
used up before its first command does neither: the owner may then block although
commands are waiting. Runs without such turns lose nothing.
-/

namespace PicooCamera.Receiver

open PicooCamera.Library PicooCamera.Packet RuntimeState

variable {State Outside Command Snapshot Frame : Type}
  {A : ReceiverRuntimeAdapter State Outside Command Snapshot Frame}
  {s s' : RuntimeState State Command Snapshot Frame}

/-! ## What the loop does with a command -/

/-- The command that has left the channel and is yet to be applied. -/
def OwnerPoint.inHand : OwnerPoint Command → List (Submitted Command)
  | .apply _ _ false entry => [entry]
  | _ => []

/-- The commands of the channel that the adapter has applied, in order. -/
def RuntimeState.applied (s : RuntimeState State Command Snapshot Frame) :
    List (Submitted Command) :=
  (s.log.filter fun done => !done.latest).map Applied.entry

/-- The turn's time is used up before its first command. -/
def RuntimeState.late (s : RuntimeState State Command Snapshot Frame) : Bool :=
  match s.point with
  | .check started 0 => commandTimeBudget ≤ s.now - started
  | _ => false

/-- The command of the slot is about to shut the owner down. -/
def RuntimeState.latestShutsDown (A : ReceiverRuntimeAdapter State Outside Command Snapshot Frame)
    (s : RuntimeState State Command Snapshot Frame) (outside : Outside) : Bool :=
  match s.point with
  | .apply _ _ true entry => (A.applyCommand s.adapter outside entry.command).2 = .shutdown
  | _ => false

def RuntimeState.selfSignals (s : RuntimeState State Command Snapshot Frame) : Bool :=
  match s.point with
  | .afterCommands started count => s.resignals started count
  | _ => false

/-- No command that has been sent and signalled waits at a late turn, and neither does the end
of the handle; the slot shuts nothing down while commands wait; revisions are left. -/
def MeetsTurns (A : ReceiverRuntimeAdapter State Outside Command Snapshot Frame)
    (s : RuntimeState State Command Snapshot Frame) : RuntimeStep Outside Command → Prop
  | .owner outside =>
      (s.late = true → (∀ entry ∈ s.commands, entry.call ∈ s.signalling) ∧
        s.handle ≠ .dropped) ∧
      (s.latestShutsDown A outside = true → s.commands = []) ∧
      (s.selfSignals = true → s.revision < u64Max)
  | .signal _ => s.revision < u64Max
  | .wake => s.revision < u64Max
  | _ => True

/-! ## The ledger of the channel -/

/-- What has been applied, what is in hand and what waits are the accepted commands in order. -/
structure CommandLedger (s : RuntimeState State Command Snapshot Frame) : Prop where
  accounted : s.accepted = s.applied ++ s.point.inHand ++ s.commands
  numbered : ∀ entry ∈ s.accepted, entry.call < s.issued
  once : (s.accepted.map Submitted.call).Nodup

namespace CommandLedger

theorem of_same (h : CommandLedger s) (hcommands : s'.commands = s.commands) (hlog : s'.log = s.log)
    (haccepted : s'.accepted = s.accepted) (hinHand : s'.point.inHand = s.point.inHand)
    (hissued : s.issued ≤ s'.issued) : CommandLedger s' := by
  have happlied : s'.applied = s.applied := by
    unfold RuntimeState.applied
    rw [hlog]
  refine ⟨?_, ?_, ?_⟩
  · rw [haccepted, happlied, hinHand, hcommands]
    exact h.accounted
  · intro entry hentry
    rw [haccepted] at hentry
    exact Nat.lt_of_lt_of_le (h.numbered entry hentry) hissued
  · rw [haccepted]
    exact h.once

theorem accept (h : CommandLedger s) (command : Command)
    (happlied : s'.log = s.log) (hpoint : s'.point = s.point)
    (hcommands : s'.commands = s.commands ++ [⟨s.issued, command⟩])
    (haccepted : s'.accepted = s.accepted ++ [⟨s.issued, command⟩])
    (hissued : s'.issued = s.issued + 1) : CommandLedger s' := by
  have hsame : s'.applied = s.applied := by
    unfold RuntimeState.applied
    rw [happlied]
  refine ⟨?_, ?_, ?_⟩
  · rw [haccepted, hsame, hpoint, hcommands, h.accounted, List.append_assoc]
  · intro entry hentry
    rw [haccepted] at hentry
    rw [hissued]
    cases List.mem_append.mp hentry with
    | inl hold => exact Nat.lt_succ_of_lt (h.numbered entry hold)
    | inr hnew =>
        rw [List.mem_singleton.mp hnew]
        exact Nat.lt_succ_self _
  · rw [haccepted, List.map_append, List.nodup_append]
    refine ⟨h.once, List.nodup_singleton _, ?_⟩
    intro call hold other hnew
    obtain ⟨entry, hentry, rfl⟩ := List.mem_map.mp hold
    rw [List.mem_singleton.mp hnew]
    exact Nat.ne_of_lt (h.numbered entry hentry)

theorem apply {outside : Outside} {started : Instant} {count : Nat} {latest : Bool}
    {entry : Submitted Command} (h : CommandLedger s)
    (hpoint : s.point = .apply started count latest entry) :
    CommandLedger (s.apply A outside started count latest entry) := by
  have hinHand : (s.apply A outside started count latest entry).point.inHand = [] := by
    unfold RuntimeState.apply
    dsimp only
    split <;> rfl
  have happlied : (s.apply A outside started count latest entry).applied =
      s.applied ++ s.point.inHand := by
    unfold RuntimeState.applied RuntimeState.apply
    dsimp only
    rw [List.filter_append, List.map_append, hpoint]
    cases latest <;> rfl
  refine ⟨?_, h.numbered, h.once⟩
  rw [happlied, hinHand, List.append_nil]
  exact h.accounted

end CommandLedger

/-! ## What one step of the owner does -/

section Moves

variable (A s)

inductive OwnerMove (outside : Outside) : RuntimeState State Command Snapshot Frame → Prop
  | begin (hpoint : s.point = .start) : OwnerMove outside s.begin
  | turn (hpoint : s.point = .turn) : OwnerMove outside (s.goTo (.takeLatest s.now))
  | takeLatest (started : Instant) (entry : Submitted Command)
      (hpoint : s.point = .takeLatest started) (hlatest : s.latestCommand = some entry) :
      OwnerMove outside { s with latestCommand := none, point := .apply started 1 true entry }
  | noLatest (started : Instant) (hpoint : s.point = .takeLatest started)
      (hlatest : s.latestCommand = none) : OwnerMove outside (s.goTo (.check started 0))
  | goesOn (started : Instant) (count : Nat) (hpoint : s.point = .check started count)
      (hcount : count < maxCommandsPerTurn) (htime : s.now - started < commandTimeBudget) :
      OwnerMove outside (s.goTo (.receive started count))
  | stops (started : Instant) (count : Nat) (hpoint : s.point = .check started count)
      (hend : count < maxCommandsPerTurn → commandTimeBudget ≤ s.now - started) :
      OwnerMove outside (s.goTo (.afterCommands started count))
  | command (started : Instant) (count : Nat) (entry : Submitted Command)
      (rest : List (Submitted Command)) (hpoint : s.point = .receive started count)
      (hcommands : s.commands = entry :: rest) :
      OwnerMove outside
        { s with commands := rest, point := .apply started (count + 1) false entry }
  | empty (started : Instant) (count : Nat) (hpoint : s.point = .receive started count)
      (hcommands : s.commands = []) (hhandle : s.handle ≠ .dropped) :
      OwnerMove outside (s.goTo (.afterCommands started count))
  | disconnected (started : Instant) (count : Nat) (hpoint : s.point = .receive started count)
      (hcommands : s.commands = []) (hhandle : s.handle = .dropped) :
      OwnerMove outside (s.goTo .returned)
  | apply (started : Instant) (count : Nat) (latest : Bool) (entry : Submitted Command)
      (hpoint : s.point = .apply started count latest entry) :
      OwnerMove outside (s.apply A outside started count latest entry)
  | resignal (started : Instant) (count : Nat) (hpoint : s.point = .afterCommands started count)
      (hsignal : s.resignals started count = true) :
      OwnerMove outside (s.signalWake.goTo (.pump count))
  | noSignal (started : Instant) (count : Nat) (hpoint : s.point = .afterCommands started count)
      (hsignal : ¬s.resignals started count = true) : OwnerMove outside (s.goTo (.pump count))
  | pump (count : Nat) (hpoint : s.point = .pump count) :
      OwnerMove outside (s.pump A outside count)
  | publish (count : Nat) (nextAt : Instant) (snapshot : Snapshot) (latestFrame : Option Frame)
      (hpoint : s.point = .publish count) :
      OwnerMove outside
        { s with
          nextAt := nextAt
          snapshot := snapshot
          latestFrame := latestFrame
          point := .schedule }
  | schedule (hpoint : s.point = .schedule) : OwnerMove outside (s.schedule A outside)
  | block (delay : Duration) (hpoint : s.point = .wait delay)
      (hsame : s.revision = s.observedRevision) :
      OwnerMove outside (s.goTo (.blocked (s.now + delay)))
  | skip (delay : Duration) (hpoint : s.point = .wait delay) : OwnerMove outside s.wakeUp
  | wakeUp (deadline : Instant) (hpoint : s.point = .blocked deadline) :
      OwnerMove outside s.wakeUp
  | close (hpoint : s.point = .returned) : OwnerMove outside s.close

end Moves

section Inversion

variable [DecidableEq Snapshot] [DecidableEq Frame]

theorem publish_eq (outside : Outside) (count : Nat) : ∃ nextAt snapshot latestFrame,
    s.publish A outside count =
      { s with
        nextAt := nextAt
        snapshot := snapshot
        latestFrame := latestFrame
        point := .schedule } := by
  unfold RuntimeState.publish publishSnapshot
  dsimp only
  split
  · exact ⟨_, _, _, rfl⟩
  · exact ⟨_, s.snapshot, _, rfl⟩

theorem ownerMove_of_ownerStep {outside : Outside} (h : s.ownerStep A outside = some s') :
    OwnerMove A s outside s' := by
  unfold ownerStep at h
  cases hpoint : s.point with
  | start =>
      rw [hpoint] at h
      cases h
      exact .begin hpoint
  | turn =>
      rw [hpoint] at h
      cases h
      exact .turn hpoint
  | takeLatest started =>
      rw [hpoint] at h
      cases h
      unfold takeLatest
      split
      · rename_i entry hlatest
        exact .takeLatest started entry hpoint hlatest
      · rename_i hlatest
        exact .noLatest started hpoint hlatest
  | check started count =>
      rw [hpoint] at h
      cases h
      unfold check
      split
      · rename_i hboth
        exact .goesOn started count hpoint hboth.1 hboth.2
      · rename_i hnot
        exact .stops started count hpoint fun hcount => Nat.le_of_not_lt fun htime =>
          hnot ⟨hcount, htime⟩
  | receive started count =>
      rw [hpoint] at h
      cases h
      unfold receive
      split
      · rename_i entry rest hcommands
        exact .command started count entry rest hpoint hcommands
      · rename_i hcommands
        split
        · rename_i hhandle
          exact .disconnected started count hpoint hcommands hhandle
        · rename_i hhandle
          exact .empty started count hpoint hcommands hhandle
  | apply started count latest entry =>
      rw [hpoint] at h
      cases h
      exact .apply started count latest entry hpoint
  | afterCommands started count =>
      rw [hpoint] at h
      cases h
      unfold afterCommands
      split
      · rename_i hsignal
        exact .resignal started count hpoint hsignal
      · rename_i hsignal
        exact .noSignal started count hpoint hsignal
  | pump count =>
      rw [hpoint] at h
      cases h
      exact .pump count hpoint
  | publish count =>
      rw [hpoint] at h
      cases h
      obtain ⟨nextAt, snapshot, latestFrame, heq⟩ := publish_eq (A := A) (s := s) outside count
      rw [heq]
      exact .publish count nextAt snapshot latestFrame hpoint
  | schedule =>
      rw [hpoint] at h
      cases h
      exact .schedule hpoint
  | wait delay =>
      rw [hpoint] at h
      cases h
      unfold waitAfter
      split
      · exact .skip delay hpoint
      · rename_i hsame
        exact .block delay hpoint (not_not.mp hsame)
  | blocked deadline =>
      rw [hpoint] at h
      dsimp only at h
      split at h
      · cases h
        exact .wakeUp deadline hpoint
      · cases h
  | returned =>
      rw [hpoint] at h
      dsimp only at h
      split at h
      · cases h
      · cases h
        exact .close hpoint

end Inversion

namespace CommandLedger

theorem move {outside : Outside} (h : CommandLedger s) (hmove : OwnerMove A s outside s') :
    CommandLedger s' := by
  cases hmove with
  | command started count entry rest hpoint hcommands =>
      refine ⟨?_, h.numbered, h.once⟩
      have haccounted := h.accounted
      rw [hpoint, hcommands] at haccounted
      refine haccounted.trans ?_
      change s.applied ++ [] ++ entry :: rest = s.applied ++ [entry] ++ rest
      rw [List.append_nil, List.append_cons]
  | apply started count latest entry hpoint => exact h.apply hpoint
  | close => exact h.of_same rfl rfl rfl rfl le_rfl
  | _ => exact h.of_same rfl rfl rfl (by rw [‹s.point = _›]; rfl) le_rfl

end CommandLedger

/-! ## What an unchanged revision says -/

/-- The slot has been looked at in this turn. -/
def OwnerPoint.pastLatest : OwnerPoint Command → Bool
  | .start | .turn | .takeLatest _ | .returned => false
  | _ => true

def OwnerPoint.WithinCount : OwnerPoint Command → Prop
  | .check _ count => count ≤ maxCommandsPerTurn
  | .receive _ count => count < maxCommandsPerTurn
  | .apply _ count _ _ => count ≤ maxCommandsPerTurn
  | _ => True

/-- The turn is done with the channel and will not signal to itself. -/
def RuntimeState.drained (s : RuntimeState State Command Snapshot Frame) : Bool :=
  match s.point with
  | .afterCommands started count => !s.resignals started count
  | .pump _ | .publish _ | .schedule | .wait _ | .blocked _ => true
  | _ => false

/-- Without a signal since the last wait, what the turn has left behind is of calls that are
still to signal. -/
structure Served (s : RuntimeState State Command Snapshot Frame) : Prop where
  seen : s.observedRevision ≤ s.revision
  withinCount : s.point.WithinCount
  slot : s.point.pastLatest = true → s.revision = s.observedRevision →
    ∀ entry, s.latestCommand = some entry → entry.call ∈ s.signalling
  channel : s.drained = true → s.revision = s.observedRevision →
    ∀ entry ∈ s.commands, entry.call ∈ s.signalling

theorem resignals_of_full {started : Instant} {count : Nat} (h : count = maxCommandsPerTurn) :
    s.resignals started count = true := decide_eq_true (.inl h)

theorem resignals_of_late {started : Instant} {count : Nat} (hcount : 0 < count)
    (h : commandTimeBudget ≤ s.now - started) : s.resignals started count = true :=
  decide_eq_true (.inr ⟨hcount, h⟩)

theorem revision_signalWake (h : s.revision < u64Max) :
    s.signalWake.revision = s.revision + 1 :=
  min_eq_left h

namespace Served

theorem signalled (h : Served s) (hrevision : s.revision < s'.revision)
    (hobserved : s'.observedRevision = s.observedRevision) (hcount : s'.point.WithinCount) :
    Served s' := by
  have hnew : s'.observedRevision < s'.revision := by
    rw [hobserved]
    exact Nat.lt_of_le_of_lt h.seen hrevision
  exact ⟨hnew.le, hcount, fun _ hsame => absurd hsame hnew.ne',
    fun _ hsame => absurd hsame hnew.ne'⟩

theorem fresh (hobserved : s'.observedRevision = s'.revision) (hpoint : s'.point = .turn) :
    Served s' := by
  refine ⟨hobserved.le, ?_, ?_, ?_⟩
  · rw [hpoint]
    trivial
  · rw [hpoint]
    exact nofun
  · intro hdrained
    unfold RuntimeState.drained at hdrained
    rw [hpoint] at hdrained
    cases hdrained

theorem stops {started : Instant} {count : Nat} (h : Served s)
    (hpoint : s.point = .check started count)
    (hend : count < maxCommandsPerTurn → commandTimeBudget ≤ s.now - started)
    (hmeets : s.late = true → ∀ entry ∈ s.commands, entry.call ∈ s.signalling) :
    Served (s.goTo (.afterCommands started count)) := by
  refine ⟨h.seen, trivial, fun _ => h.slot (by rw [hpoint]; rfl), fun hdrained _ => ?_⟩
  have hnot : s.resignals started count = false := by
    change (!s.resignals started count) = true at hdrained
    cases hresignals : s.resignals started count with
    | true => rw [hresignals] at hdrained; cases hdrained
    | false => rfl
  have hcount : count ≤ maxCommandsPerTurn := by
    have hwithin := h.withinCount
    rw [hpoint] at hwithin
    exact hwithin
  have hbelow : count < maxCommandsPerTurn := by
    refine lt_of_le_of_ne hcount fun hfull => ?_
    rw [resignals_of_full hfull] at hnot
    cases hnot
  have hzero : count = 0 := by
    by_contra hpos
    rw [resignals_of_late (Nat.pos_of_ne_zero hpos) (hend hbelow)] at hnot
    cases hnot
  refine hmeets ?_
  unfold RuntimeState.late
  rw [hpoint, hzero]
  exact decide_eq_true (hend hbelow)

theorem apply {outside : Outside} {started : Instant} {count : Nat} {latest : Bool}
    {entry : Submitted Command} (h : Served s)
    (hpoint : s.point = .apply started count latest entry) :
    Served (s.apply A outside started count latest entry) := by
  have hwithin := h.withinCount
  rw [hpoint] at hwithin
  unfold RuntimeState.apply
  dsimp only
  split
  · exact ⟨h.seen, trivial, nofun, nofun⟩
  · exact ⟨h.seen, hwithin, fun _ => h.slot (by rw [hpoint]; rfl), nofun⟩

theorem leaves {point : OwnerPoint Command} (h : Served s) (hpast : s.point.pastLatest = true)
    (hdrained : s.drained = true) (hcount : point.WithinCount) : Served (s.goTo point) :=
  ⟨h.seen, hcount, fun _ => h.slot hpast, fun _ => h.channel hdrained⟩

theorem move {outside : Outside} (h : Served s) (hmeets : MeetsTurns A s (.owner outside))
    (hmove : OwnerMove A s outside s') : Served s' := by
  have hwithin := h.withinCount
  cases hmove with
  | begin => exact fresh rfl rfl
  | turn => exact ⟨h.seen, trivial, nofun, nofun⟩
  | takeLatest => exact ⟨h.seen, (by decide : 1 ≤ maxCommandsPerTurn), fun _ _ => nofun, nofun⟩
  | noLatest started hpoint hlatest =>
      refine ⟨h.seen, Nat.zero_le _, fun _ _ entry hentry => ?_, nofun⟩
      rw [show s.latestCommand = some entry from hentry] at hlatest
      cases hlatest
  | goesOn started count hpoint hcount =>
      exact ⟨h.seen, hcount, fun _ => h.slot (by rw [hpoint]; rfl), nofun⟩
  | stops started count hpoint hend =>
      exact h.stops hpoint hend fun hlate => (hmeets.1 hlate).1
  | command started count entry rest hpoint =>
      rw [hpoint] at hwithin
      exact ⟨h.seen, hwithin, fun _ => h.slot (by rw [hpoint]; rfl), nofun⟩
  | empty started count hpoint hcommands =>
      refine ⟨h.seen, trivial, fun _ => h.slot (by rw [hpoint]; rfl), fun _ _ entry hentry => ?_⟩
      change entry ∈ s.commands at hentry
      rw [hcommands] at hentry
      cases hentry
  | disconnected => exact ⟨h.seen, trivial, nofun, nofun⟩
  | apply started count latest entry hpoint => exact h.apply hpoint
  | resignal started count hpoint hsignal =>
      have hroom : s.revision < u64Max := by
        refine hmeets.2.2 ?_
        unfold RuntimeState.selfSignals
        rw [hpoint]
        exact hsignal
      refine h.signalled ?_ rfl trivial
      change s.revision < s.signalWake.revision
      rw [revision_signalWake hroom]
      exact Nat.lt_succ_self _
  | noSignal started count hpoint hsignal =>
      refine h.leaves (by rw [hpoint]; rfl) ?_ trivial
      unfold RuntimeState.drained
      rw [hpoint]
      exact congrArg not (eq_false_of_ne_true hsignal)
  | pump count hpoint =>
      have hdrained : s.drained = true := by
        unfold RuntimeState.drained
        rw [hpoint]
      exact ⟨h.seen, trivial, fun _ => h.slot (by rw [hpoint]; rfl), fun _ => h.channel hdrained⟩
  | publish count nextAt snapshot latestFrame hpoint =>
      have hdrained : s.drained = true := by
        unfold RuntimeState.drained
        rw [hpoint]
      exact ⟨h.seen, trivial, fun _ => h.slot (by rw [hpoint]; rfl), fun _ => h.channel hdrained⟩
  | schedule hpoint =>
      refine h.leaves (by rw [hpoint]; rfl) ?_ trivial
      unfold RuntimeState.drained
      rw [hpoint]
  | block delay hpoint =>
      refine h.leaves (by rw [hpoint]; rfl) ?_ trivial
      unfold RuntimeState.drained
      rw [hpoint]
  | skip => exact fresh rfl rfl
  | wakeUp => exact fresh rfl rfl
  | close hpoint => exact ⟨h.seen, h.withinCount, h.slot, h.channel⟩

end Served

/-! ## The handle and the end of the loop -/

/-- A handle that is being dropped has no calls under way but its own. -/
structure HandleRules (s : RuntimeState State Command Snapshot Frame) : Prop where
  idle : s.handle ≠ .alive → s.replacing = []
  ended : s.handle = .dropped → s.signalling = []

/-- The loop ends at the first shutdown, or with an empty channel. -/
structure Stops (s : RuntimeState State Command Snapshot Frame) : Prop where
  running : s.point.isReturned = false → ∀ done ∈ s.log, done.outcome = .continues
  stopped : s.point.isReturned = true → (∀ done ∈ s.log.dropLast, done.outcome = .continues) ∧
    (s.commands = [] ∨ ∃ last, s.log.getLast? = some last ∧ last.latest = false ∧
      last.outcome = .shutdown)

theorem HandleRules.move {outside : Outside} (h : HandleRules s)
    (hmove : OwnerMove A s outside s') : HandleRules s' := by
  cases hmove <;> exact ⟨h.idle, h.ended⟩

namespace Stops

theorem goesOn (h : Stops s) (hpoint : s.point.isReturned = false) (hlog : s'.log = s.log)
    (hpoint' : s'.point.isReturned = false) : Stops s' := by
  refine ⟨fun _ => ?_, fun hreturned => ?_⟩
  · rw [hlog]
    exact h.running hpoint
  · rw [hpoint'] at hreturned
    cases hreturned

theorem apply {outside : Outside} {started : Instant} {count : Nat} {latest : Bool}
    {entry : Submitted Command} (h : Stops s)
    (hpoint : s.point = .apply started count latest entry)
    (hmeets : s.latestShutsDown A outside = true → s.commands = []) :
    Stops (s.apply A outside started count latest entry) := by
  have hrunning := h.running (by rw [hpoint]; rfl)
  unfold RuntimeState.apply
  dsimp only
  split
  · rename_i hshutdown
    refine ⟨nofun, fun _ => ⟨?_, ?_⟩⟩
    · rw [List.dropLast_concat]
      exact hrunning
    · cases latest with
      | false => exact .inr ⟨_, List.getLast?_concat, rfl, hshutdown⟩
      | true =>
          refine .inl (hmeets ?_)
          unfold RuntimeState.latestShutsDown
          rw [hpoint]
          exact decide_eq_true hshutdown
  · rename_i hcontinues
    refine ⟨fun _ done hdone => ?_, nofun⟩
    cases List.mem_append.mp hdone with
    | inl hold => exact hrunning done hold
    | inr hnew =>
        rw [List.mem_singleton.mp hnew]
        cases houtcome : (A.applyCommand s.adapter outside entry.command).2 with
        | continues => rfl
        | shutdown => exact absurd houtcome hcontinues

theorem move {outside : Outside} (h : Stops s) (hmeets : MeetsTurns A s (.owner outside))
    (hmove : OwnerMove A s outside s') : Stops s' := by
  cases hmove with
  | disconnected started count hpoint hcommands =>
      have hrunning := h.running (by rw [hpoint]; rfl)
      refine ⟨nofun, fun _ => ⟨?_, .inl hcommands⟩⟩
      exact fun done hdone => hrunning done (List.mem_of_mem_dropLast hdone)
  | apply started count latest entry hpoint => exact h.apply hpoint hmeets.2.1
  | close => exact ⟨h.running, h.stopped⟩
  | _ => exact h.goesOn (by rw [‹s.point = _›]; rfl) rfl rfl

end Stops

/-! ## Calls on other threads -/

/-- The channel takes a command. -/
def RuntimeState.accepts (s : RuntimeState State Command Snapshot Frame) (command : Command) :
    RuntimeState State Command Snapshot Frame :=
  { s.beginSignal with
    commands := s.commands ++ [⟨s.issued, command⟩]
    accepted := s.accepted ++ [⟨s.issued, command⟩] }

theorem submit_cases (s : RuntimeState State Command Snapshot Frame) (command : Command) :
    s.submit command = s ∨
      (s.point.isReturned = false ∧ s.submit command = s.accepts command) := by
  unfold RuntimeState.submit trySendCommand
  split
  · exact .inl rfl
  · rename_i hopen
    split
    · exact .inr ⟨eq_false_of_ne_true hopen, rfl⟩
    · exact .inl rfl

theorem drop_cases (A : ReceiverRuntimeAdapter State Outside Command Snapshot Frame)
    (s : RuntimeState State Command Snapshot Frame) :
    s.drop A = { s.beginSignal with handle := .dropping } ∨
      (s.point.isReturned = false ∧
        s.drop A = { s.accepts A.shutdownCommand with handle := .dropping }) := by
  unfold RuntimeState.drop trySendCommand
  split
  · exact .inl rfl
  · rename_i hopen
    split
    · exact .inr ⟨eq_false_of_ne_true hopen, rfl⟩
    · exact .inl rfl

theorem Served.grows (h : Served s) (hpoint : s'.point = s.point)
    (hrevision : s'.revision = s.revision) (hobserved : s'.observedRevision = s.observedRevision)
    (hdrained : s'.drained = true → s.drained = true)
    (hslot : ∀ entry, s'.latestCommand = some entry →
      s.latestCommand = some entry ∨ entry.call ∈ s'.signalling)
    (hcommands : ∀ entry ∈ s'.commands, entry ∈ s.commands ∨ entry.call ∈ s'.signalling)
    (hsignalling : ∀ call ∈ s.signalling, call ∈ s'.signalling) : Served s' := by
  refine ⟨?_, ?_, ?_, ?_⟩
  · rw [hrevision, hobserved]
    exact h.seen
  · rw [hpoint]
    exact h.withinCount
  · intro hpast hsame entry hentry
    rw [hpoint] at hpast
    rw [hrevision, hobserved] at hsame
    cases hslot entry hentry with
    | inl hold => exact hsignalling _ (h.slot hpast hsame entry hold)
    | inr hnew => exact hnew
  · intro hdrained' hsame entry hentry
    rw [hrevision, hobserved] at hsame
    cases hcommands entry hentry with
    | inl hold => exact hsignalling _ (h.channel (hdrained hdrained') hsame entry hold)
    | inr hnew => exact hnew

theorem Served.accepts (h : Served s) (command : Command) : Served (s.accepts command) := by
  refine h.grows rfl rfl rfl id (fun _ hentry => .inl hentry) ?_
    (fun _ hcall => List.mem_cons_of_mem _ hcall)
  intro entry hentry
  cases List.mem_append.mp hentry with
  | inl hold => exact .inl hold
  | inr hnew =>
      rw [List.mem_singleton.mp hnew]
      exact .inr List.mem_cons_self

theorem drained_of_later (hpoint : s'.point = s.point) (hnow : s.now ≤ s'.now)
    (h : s'.drained = true) : s.drained = true := by
  unfold RuntimeState.drained at h ⊢
  rw [hpoint] at h
  cases hends : s.point with
  | afterCommands started count =>
      rw [hends] at h
      dsimp only at h ⊢
      cases hresignals : s.resignals started count with
      | false => rfl
      | true =>
          have hlater : s'.resignals started count = true := by
            refine decide_eq_true ((of_decide_eq_true hresignals).imp_right fun hlate => ?_)
            exact ⟨hlate.1, hlate.2.trans (Nat.sub_le_sub_right hnow _)⟩
          rw [hlater] at h
          cases h
  | _ => simp_all

/-- What holds in every state of a run without late turns. -/
structure Orderly (s : RuntimeState State Command Snapshot Frame) : Prop where
  ledger : CommandLedger s
  served : Served s
  handle : HandleRules s
  stops : Stops s

namespace Orderly

theorem signalled (h : Orderly s) (hroom : s.revision < u64Max) : Orderly s.signalWake := by
  refine ⟨h.ledger.of_same rfl rfl rfl rfl le_rfl, ?_, ⟨h.handle.idle, h.handle.ended⟩,
    ⟨h.stops.running, h.stops.stopped⟩⟩
  refine h.served.signalled ?_ rfl h.served.withinCount
  rw [revision_signalWake hroom]
  exact Nat.lt_succ_self _

theorem submit (h : Orderly s) (halive : s.handle = .alive) (command : Command) :
    Orderly (s.submit command) := by
  rcases submit_cases s command with heq | ⟨hopen, heq⟩
  · rw [heq]
    exact h
  · rw [heq]
    refine ⟨h.ledger.accept command rfl rfl rfl rfl rfl, h.served.accepts command, ?_,
      h.stops.goesOn hopen rfl hopen⟩
    exact ⟨h.handle.idle, fun hdropped => absurd (halive.symm.trans hdropped) nofun⟩

theorem drop (h : Orderly s) (hidle : s.replacing = []) : Orderly (s.drop A) := by
  rcases drop_cases A s with heq | ⟨hopen, heq⟩
  · rw [heq]
    refine ⟨h.ledger.of_same rfl rfl rfl rfl (Nat.le_succ _), ?_, ⟨fun _ => hidle, nofun⟩,
      ⟨h.stops.running, h.stops.stopped⟩⟩
    exact h.served.grows rfl rfl rfl id (fun _ hentry => .inl hentry)
      (fun _ hentry => .inl hentry) (fun _ hcall => List.mem_cons_of_mem _ hcall)
  · rw [heq]
    have hserved := h.served.accepts A.shutdownCommand
    exact ⟨h.ledger.accept A.shutdownCommand rfl rfl rfl rfl rfl,
      ⟨hserved.seen, hserved.withinCount, hserved.slot, hserved.channel⟩, ⟨fun _ => hidle, nofun⟩,
      h.stops.goesOn hopen rfl hopen⟩

theorem submitLatest (h : Orderly s) (halive : s.handle = .alive) (command : Command) :
    Orderly (s.submitLatest command) := by
  unfold RuntimeState.submitLatest
  split
  · exact h
  · refine ⟨h.ledger.of_same rfl rfl rfl rfl (Nat.le_succ _), ?_, ?_,
      ⟨h.stops.running, h.stops.stopped⟩⟩
    · exact h.served.grows rfl rfl rfl id (fun _ hentry => .inl hentry)
        (fun _ hentry => .inl hentry) (fun _ hcall => hcall)
    · exact ⟨fun hother => absurd halive hother, h.handle.ended⟩

theorem replace (h : Orderly s) {entry : Submitted Command} (hentry : entry ∈ s.replacing) :
    Orderly (s.replace entry) := by
  have halive : s.handle = .alive := by
    by_contra hother
    rw [h.handle.idle hother] at hentry
    cases hentry
  refine ⟨h.ledger.of_same rfl rfl rfl rfl le_rfl, ?_, ?_, ⟨h.stops.running, h.stops.stopped⟩⟩
  · refine h.served.grows rfl rfl rfl id (fun other hother => ?_) (fun _ hentry => .inl hentry)
      (fun _ hcall => List.mem_cons_of_mem _ hcall)
    cases hother
    exact .inr List.mem_cons_self
  · exact ⟨fun hother => absurd halive hother,
      fun hdropped => absurd (halive.symm.trans hdropped) nofun⟩

theorem signal (h : Orderly s) (hroom : s.revision < u64Max) (call : Nat) :
    Orderly (s.signal call) := by
  have hsignalled := h.signalled hroom
  refine ⟨hsignalled.ledger.of_same rfl rfl rfl rfl le_rfl, ?_, ⟨h.handle.idle, fun hdropped => ?_⟩,
    ⟨h.stops.running, h.stops.stopped⟩⟩
  · refine h.served.signalled ?_ rfl h.served.withinCount
    change s.revision < s.signalWake.revision
    rw [revision_signalWake hroom]
    exact Nat.lt_succ_self _
  · change s.signalling.erase call = []
    rw [h.handle.ended hdropped]
    rfl

theorem call {label : RuntimeStep Outside Command} (h : Orderly s) (hmeets : MeetsTurns A s label)
    (hstep : s.callStep A label = some s') : Orderly s' := by
  cases label with
  | submit command =>
      obtain ⟨halive, heq⟩ := Option.ite_none_right_eq_some.mp hstep
      cases heq
      exact h.submit halive command
  | submitLatest command =>
      obtain ⟨halive, heq⟩ := Option.ite_none_right_eq_some.mp hstep
      cases heq
      exact h.submitLatest halive command
  | replace call =>
      obtain ⟨entry, hfind, rfl⟩ := Option.map_eq_some_iff.mp hstep
      exact h.replace (List.mem_of_find?_eq_some hfind)
  | signal call =>
      obtain ⟨_, heq⟩ := Option.ite_none_right_eq_some.mp hstep
      cases heq
      exact h.signal hmeets call
  | drop =>
      obtain ⟨⟨_, hidle, _⟩, heq⟩ := Option.ite_none_right_eq_some.mp hstep
      cases heq
      exact h.drop (List.isEmpty_iff.mp hidle)
  | release =>
      obtain ⟨⟨hdropping, hnone⟩, heq⟩ := Option.ite_none_right_eq_some.mp hstep
      cases heq
      have hidle := h.handle.idle (hdropping.symm ▸ nofun)
      exact ⟨⟨h.ledger.accounted, h.ledger.numbered, h.ledger.once⟩,
        ⟨h.served.seen, h.served.withinCount, h.served.slot, h.served.channel⟩,
        ⟨fun _ => hidle, fun _ => List.isEmpty_iff.mp hnone⟩, ⟨h.stops.running, h.stops.stopped⟩⟩
  | wake =>
      cases hstep
      exact h.signalled hmeets
  | advance elapsed =>
      cases hstep
      refine ⟨h.ledger.of_same rfl rfl rfl rfl le_rfl, ?_, ⟨h.handle.idle, h.handle.ended⟩,
        ⟨h.stops.running, h.stops.stopped⟩⟩
      exact h.served.grows rfl rfl rfl (drained_of_later rfl (Nat.le_add_right _ _))
        (fun _ hentry => .inl hentry) (fun _ hentry => .inl hentry) (fun _ hcall => hcall)
  | owner outside => cases hstep

/-- Step lemma. -/
theorem step [DecidableEq Snapshot] [DecidableEq Frame] {label : RuntimeStep Outside Command}
    (h : Orderly s) (hmeets : MeetsTurns A s label) (hstep : s.step A label = some s') :
    Orderly s' := by
  cases label with
  | owner outside =>
      have hmove := ownerMove_of_ownerStep hstep
      exact ⟨h.ledger.move hmove, h.served.move hmeets hmove, h.handle.move hmove,
        h.stops.move hmeets hmove⟩
  | _ => exact h.call hmeets hstep

end Orderly

end PicooCamera.Receiver
