import PicooCamera.Library.TransitionSystem
import PicooCamera.Sender.Reducer

/-!
# Runs of the Sender reducer

A run interleaves reducer events in any order with the writes of the session to
trust, stream, output and health. The monitor remembers that the user or the
peer has ended the session and that no connect has been requested since.
-/

namespace PicooCamera.Sender

open PicooCamera.Library PicooCamera.Session

structure Monitored where
  state : SenderReducerState
  stopped : Bool
  deriving DecidableEq, Repr

inductive ReducerLabel where
  | event (event : SenderEvent)
  | write (write : SessionRuntimeState.Write)
  deriving DecidableEq, Repr

/-- The events that end the session for good: a user stop and the rejection of the active
generation. -/
def SenderEvent.stops (event : SenderEvent) (state : SenderReducerState) : Bool :=
  match event with
  | .userDisconnect _ => true
  | .authenticationRejected generation => state.activeGeneration = some generation
  | _ => false

/-- A transport event whose generation is not the one that the state waits for. -/
def SenderEvent.stale (event : SenderEvent) (state : SenderReducerState) : Bool :=
  match event with
  | .transportConnected generation => state.pendingGeneration ≠ some generation
  | .controlReceived generation => state.activeGeneration ≠ some generation
  | .authenticationRejected generation => state.activeGeneration ≠ some generation
  | .transportDisconnected generation _ =>
      state.activeGeneration ≠ some generation ∧ state.pendingGeneration ≠ some generation
  | _ => false

namespace Monitored

def start : Monitored := ⟨SenderReducerState.default, false⟩

def next (run : Monitored) : ReducerLabel → Monitored
  | .event event =>
      { state := (reduce run.state event).1
        stopped := event ≠ .connectRequested ∧ (run.stopped ∨ event.stops run.state) }
  | .write write => { run with state.runtime := run.state.runtime.write write }

end Monitored

def reducerSystem : TransitionSystem Monitored ReducerLabel :=
  TransitionSystem.ofFunction Monitored.start Monitored.next

/-- What holds in every state: the phase shows the active generation, a pending generation
excludes an active one, a pending reconnect is shown, and a stopped session is idle. -/
structure StateContract (run : Monitored) : Prop where
  phase : ∀ generation, run.state.activeGeneration = some generation ↔
    run.state.runtime.connection = .connected generation
  exclusive : run.state.activeGeneration = none ∨ run.state.pendingGeneration = none
  reconnecting : run.state.reconnectPending →
    (∃ attempt, run.state.runtime.connection = .reconnecting attempt) ∧
      run.state.activeGeneration = none
  stopped : run.stopped → run.state.runtime.connection = .idle ∧ ¬run.state.reconnectPending

/-- What one step keeps to: the contract of states, stale transport events are inert, no
event touches the output, and a stopped session starts no reconnect. -/
structure StepContract (run : Monitored) (label : ReducerLabel) : Prop where
  state : StateContract (run.next label)
  inert : ∀ event, label = .event event → event.stale run.state →
    reduce run.state event = (run.state, [])
  output : ∀ event, label = .event event →
    (reduce run.state event).1.runtime.output = run.state.runtime.output
  noReconnect : run.stopped → ∀ event, label = .event event →
    .startReconnect ∉ (reduce run.state event).2

/-- The events that replace the whole runtime state by its default. -/
def SenderEvent.clearsRuntime (event : SenderEvent) (state : SenderReducerState) : Bool :=
  match event with
  | .explicitConnectFailed =>
      state.activeGeneration = none ∧ state.runtime.connection = .connecting
  | .transportDisconnected generation _ =>
      state.activeGeneration = some generation ∨ state.pendingGeneration = some generation
  | .authenticationRejected generation => state.activeGeneration = some generation
  | .userDisconnect domainResourcesActive =>
      state.resourcesActive ∨ state.activeGeneration ≠ none ∨ state.reconnectPending ∨
        domainResourcesActive
  | .reconnectPolicyChanged enabled => !enabled && state.reconnectPending
  | .reconnectConnectFailed =>
      state.activeGeneration = none ∧ state.runtime.connection.isAttempt
  | _ => false

/-- The steps that keep to the contract: the runtime state is cleared only with the output
ready, an attempt does not fail or disconnect while a reconnect is pending, and a stopped
session with the reconnect policy on is not armed. -/
def Meets (run : Monitored) : ReducerLabel → Prop
  | .write _ => True
  | .event event =>
      (event.clearsRuntime run.state → run.state.runtime.output = .ready) ∧
      match event with
      | .reconnectConnectFailed => ¬run.state.reconnectPending
      | .transportDisconnected generation _ =>
          run.state.pendingGeneration = some generation → ¬run.state.reconnectPending
      | .reconnectArmed _ => run.stopped → ¬run.state.reconnectEnabled
      | _ => True

/-- The contract of states with what its induction needs of the attempts. -/
structure AttemptInvariant (run : Monitored) : Prop extends StateContract run where
  connecting : run.state.runtime.connection = .connecting →
    run.state.resourcesActive ∧ ¬run.state.reconnectPending
  attempt : ∀ attempt, run.state.runtime.connection = .reconnecting attempt →
    run.state.reconnectPending
  notListening : run.state.runtime.connection ≠ .listening

namespace AttemptInvariant

variable {run : Monitored}

theorem of_idle (hidle : run.state.runtime.connection = .idle)
    (hactive : run.state.activeGeneration = none) (hpending : ¬run.state.reconnectPending) :
    AttemptInvariant run where
  phase generation := by rw [hidle, hactive]; simp
  exclusive := Or.inl hactive
  reconnecting h := absurd h hpending
  stopped _ := ⟨hidle, hpending⟩
  connecting h := by rw [hidle] at h; cases h
  attempt _ h := by rw [hidle] at h; cases h
  notListening := by rw [hidle]; simp

theorem of_connecting (hconnecting : run.state.runtime.connection = .connecting)
    (hactive : run.state.activeGeneration = none) (hresources : run.state.resourcesActive)
    (hpending : ¬run.state.reconnectPending) (hrunning : ¬run.stopped) :
    AttemptInvariant run where
  phase generation := by rw [hconnecting, hactive]; simp
  exclusive := Or.inl hactive
  reconnecting h := absurd h hpending
  stopped h := absurd h hrunning
  connecting _ := ⟨hresources, hpending⟩
  attempt _ h := by rw [hconnecting] at h; cases h
  notListening := by rw [hconnecting]; simp

theorem of_connected {generation : Nat}
    (hconnected : run.state.runtime.connection = .connected generation)
    (hactive : run.state.activeGeneration = some generation)
    (hattempt : run.state.pendingGeneration = none) (hpending : ¬run.state.reconnectPending)
    (hrunning : ¬run.stopped) : AttemptInvariant run where
  phase other := by rw [hconnected, hactive]; simp
  exclusive := Or.inr hattempt
  reconnecting h := absurd h hpending
  stopped h := absurd h hrunning
  connecting h := by rw [hconnected] at h; cases h
  attempt _ h := by rw [hconnected] at h; cases h
  notListening := by rw [hconnected]; simp

theorem of_reconnecting {attempt : Nat}
    (hreconnecting : run.state.runtime.connection = .reconnecting attempt)
    (hactive : run.state.activeGeneration = none) (hpending : run.state.reconnectPending)
    (hrunning : ¬run.stopped) : AttemptInvariant run where
  phase generation := by rw [hreconnecting, hactive]; simp
  exclusive := Or.inl hactive
  reconnecting _ := ⟨⟨attempt, hreconnecting⟩, hactive⟩
  stopped h := absurd h hrunning
  connecting h := by rw [hreconnecting] at h; cases h
  attempt _ _ := hpending
  notListening := by rw [hreconnecting]; simp

theorem of_stopped (inv : AttemptInvariant run) {stopped : Bool}
    (h : stopped → run.stopped ∨
      run.state.runtime.connection = .idle ∧ ¬run.state.reconnectPending) :
    AttemptInvariant { run with stopped := stopped } where
  phase := inv.phase
  exclusive := inv.exclusive
  reconnecting := inv.reconnecting
  stopped hstopped := (h hstopped).elim inv.stopped id
  connecting := inv.connecting
  attempt := inv.attempt
  notListening := inv.notListening

theorem idle_of_inactive (inv : AttemptInvariant run) (hresources : ¬run.state.resourcesActive)
    (hactive : run.state.activeGeneration = none) (hpending : ¬run.state.reconnectPending) :
    run.state.runtime.connection = .idle := by
  cases hconnection : run.state.runtime.connection with
  | idle => rfl
  | listening => exact absurd hconnection inv.notListening
  | connecting => exact absurd (inv.connecting hconnection).1 hresources
  | reconnecting attempt => exact absurd (inv.attempt attempt hconnection) hpending
  | connected generation =>
      rw [(inv.phase generation).mpr hconnection] at hactive
      cases hactive

theorem keep (inv : AttemptInvariant run) :
    AttemptInvariant { run with stopped := run.stopped } := inv

theorem running_of_connecting (inv : AttemptInvariant run)
    (h : run.state.runtime.connection = .connecting) : ¬run.stopped := by
  intro hstopped
  have hidle := (inv.stopped hstopped).1
  rw [h] at hidle
  cases hidle

theorem inactive_of_stopped (inv : AttemptInvariant run) (h : run.stopped) :
    run.state.activeGeneration = none := by
  cases hactive : run.state.activeGeneration with
  | none => rfl
  | some generation =>
      have hconnected := (inv.phase generation).mp hactive
      rw [(inv.stopped h).1] at hconnected
      cases hconnected

end AttemptInvariant

theorem attemptInvariant_start : AttemptInvariant Monitored.start :=
  AttemptInvariant.of_idle rfl rfl (by simp [Monitored.start, SenderReducerState.default])

section Step

variable {run : Monitored}

theorem attemptInvariant_transportConnectStarted (inv : AttemptInvariant run)
    (generation : Nat) :
    AttemptInvariant (run.next (.event (.transportConnectStarted generation))) := by
  simp only [Monitored.next, reduce, SenderEvent.stops]
  by_cases hguard : run.state.runtime.connection = .connecting ∧
      run.state.activeGeneration = none
  · rw [if_pos hguard]
    have hrunning := inv.running_of_connecting hguard.1
    obtain ⟨hresources, hpending⟩ := inv.connecting hguard.1
    exact AttemptInvariant.of_connecting hguard.1 hguard.2 hresources hpending
      (by simpa using hrunning)
  · rw [if_neg hguard]
    simpa using inv.keep

theorem attemptInvariant_transportConnected (inv : AttemptInvariant run) (generation : Nat) :
    AttemptInvariant (run.next (.event (.transportConnected generation))) := by
  simp only [Monitored.next, reduce, SenderEvent.stops]
  by_cases hguard : run.state.runtime.connection = .connecting ∧
      run.state.pendingGeneration = some generation
  · rw [if_pos hguard]
    have hrunning := inv.running_of_connecting hguard.1
    exact AttemptInvariant.of_connected rfl rfl rfl (by simp) (by simpa using hrunning)
  · rw [if_neg hguard]
    simpa using inv.keep

theorem attemptInvariant_userDisconnect (inv : AttemptInvariant run) (resources : Bool) :
    AttemptInvariant (run.next (.event (.userDisconnect resources))) := by
  simp only [Monitored.next, reduce, SenderEvent.stops]
  by_cases hguard : run.state.resourcesActive ∨ run.state.activeGeneration ≠ none ∨
      run.state.reconnectPending ∨ resources
  · rw [if_pos hguard]
    exact AttemptInvariant.of_idle rfl rfl (by simp)
  · rw [if_neg hguard]
    simp only [not_or, not_not] at hguard
    apply inv.of_stopped
    intro _
    exact Or.inr ⟨inv.idle_of_inactive hguard.1 hguard.2.1 hguard.2.2.1, hguard.2.2.1⟩

theorem attemptInvariant_reconnectDeadlineElapsed (inv : AttemptInvariant run) :
    AttemptInvariant (run.next (.event .reconnectDeadlineElapsed)) := by
  simp only [Monitored.next, reduce, SenderEvent.stops]
  by_cases hguard : run.state.reconnectPending
  · rw [if_pos hguard]
    have hrunning : ¬run.stopped := fun hstopped => (inv.stopped hstopped).2 hguard
    exact AttemptInvariant.of_connecting rfl (inv.reconnecting hguard).2 rfl (by simp)
      (by simpa using hrunning)
  · rw [if_neg hguard]
    simpa using inv.keep

theorem attemptInvariant_event (inv : AttemptInvariant run) {event : SenderEvent}
    (hmeets : Meets run (.event event)) : AttemptInvariant (run.next (.event event)) := by
  have hkeep := inv.keep
  obtain ⟨-, hmeets⟩ := hmeets
  cases event with
  | connectRequested =>
      exact AttemptInvariant.of_connecting rfl rfl rfl (by simp [Monitored.next, reduce])
        (by simp [Monitored.next])
  | transportConnectStarted generation =>
      exact attemptInvariant_transportConnectStarted inv generation
  | explicitConnectFailed =>
      simp only [Monitored.next, reduce, SenderEvent.stops]
      by_cases hguard : run.state.activeGeneration = none ∧
          run.state.runtime.connection = .connecting
      · rw [if_pos hguard]
        exact AttemptInvariant.of_idle rfl hguard.1 (inv.connecting hguard.2).2
      · rw [if_neg hguard]
        simpa using hkeep
  | transportConnected generation =>
      exact attemptInvariant_transportConnected inv generation
  | controlReceived generation =>
      simp only [Monitored.next, reduce, SenderEvent.stops]
      by_cases hguard : run.state.activeGeneration = some generation
      · rw [if_pos hguard]
        simpa using hkeep
      · rw [if_neg hguard]
        simpa using hkeep
  | transportDisconnected generation endpointAvailable =>
      simp only [Monitored.next, reduce, SenderEvent.stops]
      by_cases hguard : run.state.activeGeneration = some generation ∨
          run.state.pendingGeneration = some generation
      · rw [if_pos hguard]
        apply AttemptInvariant.of_idle rfl rfl
        intro hpending
        cases hguard with
        | inl hactive => rw [(inv.reconnecting hpending).2] at hactive; cases hactive
        | inr hattempt => exact hmeets hattempt hpending
      · rw [if_neg hguard]
        simpa using hkeep
  | authenticationRejected generation =>
      simp only [Monitored.next, reduce, SenderEvent.stops]
      by_cases hguard : run.state.activeGeneration = some generation
      · rw [if_pos hguard]
        exact AttemptInvariant.of_idle rfl rfl (by simp)
      · rw [if_neg hguard]
        simpa [hguard] using hkeep
  | userDisconnect domainResourcesActive =>
      exact attemptInvariant_userDisconnect inv domainResourcesActive
  | reconnectPolicyChanged enabled =>
      simp only [Monitored.next, reduce, SenderEvent.stops]
      by_cases hguard : !enabled && run.state.reconnectPending
      · rw [if_pos hguard]
        rw [Bool.and_eq_true] at hguard
        exact AttemptInvariant.of_idle rfl (inv.reconnecting hguard.2).2 (by simp)
      · rw [if_neg hguard]
        exact ⟨⟨inv.phase, inv.exclusive, inv.reconnecting, by simpa using inv.stopped⟩,
          inv.connecting, inv.attempt, inv.notListening⟩
  | reconnectArmed attempt =>
      simp only [Monitored.next, reduce, SenderEvent.stops]
      by_cases hguard : run.state.reconnectEnabled ∧ run.state.activeGeneration = none
      · rw [if_pos hguard]
        have hrunning : ¬run.stopped := fun hstopped => hmeets hstopped hguard.1
        exact AttemptInvariant.of_reconnecting rfl hguard.2 rfl (by simpa using hrunning)
      · rw [if_neg hguard]
        simpa using hkeep
  | reconnectDeadlineElapsed =>
      exact attemptInvariant_reconnectDeadlineElapsed inv
  | reconnectConnectFailed =>
      simp only [Monitored.next, reduce, SenderEvent.stops]
      by_cases hguard : run.state.activeGeneration = none ∧
          run.state.runtime.connection.isAttempt
      · rw [if_pos hguard]
        exact AttemptInvariant.of_idle rfl hguard.1 hmeets
      · rw [if_neg hguard]
        simpa using hkeep

theorem attemptInvariant_next (inv : AttemptInvariant run) {label : ReducerLabel}
    (hmeets : Meets run label) : AttemptInvariant (run.next label) := by
  cases label with
  | event event => exact attemptInvariant_event inv hmeets
  | write write =>
      have hsame : (run.next (.write write)).state.runtime.connection =
          run.state.runtime.connection := SessionRuntimeState.connection_write _ _
      exact ⟨⟨by rw [hsame]; exact inv.phase, inv.exclusive, by rw [hsame]; exact inv.reconnecting,
        by rw [hsame]; exact inv.stopped⟩, by rw [hsame]; exact inv.connecting,
        by rw [hsame]; exact inv.attempt, by rw [hsame]; exact inv.notListening⟩

theorem reduce_stale {state : SenderReducerState} {event : SenderEvent}
    (h : event.stale state) : reduce state event = (state, []) := by
  cases event <;> simp_all [SenderEvent.stale, reduce]

theorem reduce_output {state : SenderReducerState} {event : SenderEvent} :
    (reduce state event).1.runtime.output =
      if event.clearsRuntime state then .ready else state.runtime.output := by
  cases event with
  | connectRequested => rfl
  | controlReceived generation =>
      simp only [reduce, SenderEvent.clearsRuntime]
      split <;> rfl
  | _ =>
      simp only [reduce, SenderEvent.clearsRuntime, decide_eq_true_eq]
      split <;> simp_all

theorem reduce_output_eq_iff {state : SenderReducerState} {event : SenderEvent} :
    (reduce state event).1.runtime.output = state.runtime.output ↔
      (event.clearsRuntime state → state.runtime.output = .ready) := by
  rw [reduce_output]
  by_cases hclears : event.clearsRuntime state
  · simp [hclears, eq_comm]
  · simp [hclears]

theorem startReconnect_iff {state : SenderReducerState} {event : SenderEvent} :
    SenderEffect.startReconnect ∈ (reduce state event).2 ↔
      event = .reconnectDeadlineElapsed ∧ state.reconnectPending := by
  cases event <;> simp only [reduce] <;> (repeat' split) <;> simp_all

theorem stepContract_of_meets (inv : AttemptInvariant run) {label : ReducerLabel}
    (hmeets : Meets run label) : StepContract run label where
  state := (attemptInvariant_next inv hmeets).toStateContract
  inert _ _ hstale := reduce_stale hstale
  output event hlabel := by
    rw [hlabel] at hmeets
    exact reduce_output_eq_iff.mpr hmeets.1
  noReconnect hstopped event _ hstart :=
    (inv.stopped hstopped).2 (startReconnect_iff.mp hstart).2

theorem meets_of_stepContract (inv : AttemptInvariant run) {label : ReducerLabel}
    (hstep : StepContract run label) : Meets run label := by
  cases label with
  | write write => trivial
  | event event =>
      have hnext := hstep.state
      refine ⟨reduce_output_eq_iff.mp (hstep.output event rfl), ?_⟩
      cases event with
      | reconnectConnectFailed =>
          intro hpending
          obtain ⟨⟨attempt, hattempt⟩, hactive⟩ := inv.reconnecting hpending
          have hguard : run.state.activeGeneration = none ∧
              run.state.runtime.connection.isAttempt := ⟨hactive, by rw [hattempt]; rfl⟩
          have hshown := hnext.reconnecting
          simp only [Monitored.next, reduce, if_pos hguard] at hshown
          obtain ⟨⟨_, hidle⟩, -⟩ := hshown hpending
          cases hidle
      | transportDisconnected generation endpointAvailable =>
          intro hattempt hpending
          have hguard : run.state.activeGeneration = some generation ∨
              run.state.pendingGeneration = some generation := Or.inr hattempt
          have hshown := hnext.reconnecting
          simp only [Monitored.next, reduce, if_pos hguard] at hshown
          obtain ⟨⟨_, hidle⟩, -⟩ := hshown hpending
          cases hidle
      | reconnectArmed attempt =>
          intro hstopped henabled
          have hguard : run.state.reconnectEnabled ∧ run.state.activeGeneration = none :=
            ⟨henabled, inv.inactive_of_stopped hstopped⟩
          have hended := hnext.stopped
          simp only [Monitored.next, reduce, if_pos hguard] at hended
          have hidle := (hended (by simp [hstopped])).1
          cases hidle
      | _ => trivial

end Step

/-- In every run whose steps meet the condition the contract holds, and the next step keeps
to it exactly where it meets the condition. -/
theorem reducer_contract_iff {run : Monitored}
    (h : (reducerSystem.restrict Meets).Reachable run) :
    StateContract run ∧ ∀ label, StepContract run label ↔ Meets run label := by
  have inv : AttemptInvariant run := by
    apply TransitionSystem.Reachable.invariant _ _ h
    · rintro s rfl
      exact attemptInvariant_start
    · rintro s label t hs ⟨hmeets, rfl⟩
      exact attemptInvariant_next hs hmeets
  exact ⟨inv.toStateContract, fun label =>
    ⟨meets_of_stepContract inv, stepContract_of_meets inv⟩⟩

/-- A connected session whose output waits for a permission. -/
def permissionRun : List ReducerLabel :=
  [.event .connectRequested, .event (.transportConnectStarted 1),
    .event (.transportConnected 1), .write (.setOutput .permissionRequired)]

/-- The disconnect of the transport makes the output ready. -/
theorem disconnect_clears_permission :
    reducerSystem.Reachable (permissionRun.foldl Monitored.next Monitored.start) ∧
      (permissionRun.foldl Monitored.next Monitored.start).state.runtime.output =
        .permissionRequired ∧
      (reduce (permissionRun.foldl Monitored.next Monitored.start).state
        (.transportDisconnected 1 true)).1.runtime.output = .ready ∧
      ¬StepContract (permissionRun.foldl Monitored.next Monitored.start)
        (.event (.transportDisconnected 1 true)) := by
  refine ⟨TransitionSystem.reachable_foldl _ _ _, by decide, by decide, ?_⟩
  intro hstep
  have houtput := hstep.output (.transportDisconnected 1 true) rfl
  revert houtput
  decide

/-- A connection is lost, the reconnect is armed and made, and the user stops it. -/
def reconnectedRun : List ReducerLabel :=
  [.event .connectRequested, .event (.transportConnectStarted 1), .event (.transportConnected 1),
    .event (.transportDisconnected 1 true), .event (.reconnectArmed 1),
    .event .reconnectDeadlineElapsed, .event (.transportConnectStarted 2),
    .event (.transportConnected 2), .event (.userDisconnect true)]

theorem meets_reconnectedRun :
    TransitionSystem.MeetsAll Meets Monitored.next Monitored.start reconnectedRun := by
  simp only [reconnectedRun, TransitionSystem.MeetsAll, Meets]
  decide

theorem reducer_contract_iff_reconnected :
    (reconnectedRun.foldl Monitored.next Monitored.start).stopped ∧
      StateContract (reconnectedRun.foldl Monitored.next Monitored.start) ∧
      ∀ label, StepContract (reconnectedRun.foldl Monitored.next Monitored.start) label ↔
        Meets (reconnectedRun.foldl Monitored.next Monitored.start) label := by
  have hstart : (reducerSystem.restrict Meets).Reachable Monitored.start :=
    TransitionSystem.Reachable.of_init rfl
  exact ⟨by decide, reducer_contract_iff (TransitionSystem.Reachable.foldl
    (fun _ _ hmeets => ⟨hmeets, rfl⟩) hstart meets_reconnectedRun)⟩

end PicooCamera.Sender
