import PicooCamera.Library.TransitionSystem
import PicooCamera.Receiver.Reducer

/-!
# Runs of the Receiver reducer

A run interleaves reducer events in any order with what the session writes to
its runtime state. Two monitors go with the state: whether the transport has a
bound listener, and whether a user close has taken effect since the last bind.
-/

namespace PicooCamera.Receiver

open PicooCamera.Library PicooCamera.Session

structure MonitoredReducer where
  state : ReceiverReducerState
  bound : Bool
  closed : Bool
  deriving DecidableEq, Repr

inductive ReducerLabel where
  | event (event : ReceiverEvent)
  | write (write : SessionRuntimeState.Write)
  deriving DecidableEq, Repr

/-- A user close has something to close. -/
def ReceiverReducerState.closeable (state : ReceiverReducerState) : Bool :=
  state.resourcesActive ∨ state.activeGeneration ≠ none ∨ state.disconnectHoldPending

/-- An event of a generation that is not the active one; a new connection is never stale. -/
def ReceiverEvent.stale (event : ReceiverEvent) (state : ReceiverReducerState) : Bool :=
  match event with
  | .transportConnected _ => false
  | event => event.generation? ≠ none ∧ event.generation? ≠ state.activeGeneration

namespace MonitoredReducer

def start : MonitoredReducer := ⟨ReceiverReducerState.default, false, false⟩

/-- `listen` binds before it reports the listener; no effect unbinds it. -/
def next (run : MonitoredReducer) : ReducerLabel → MonitoredReducer
  | .event event =>
      { state := (reduce run.state event).1
        bound := run.bound ∨ event = .listenerStarted
        closed := event ≠ .listenerStarted ∧
          (run.closed ∨ event = .userClose ∧ run.state.closeable) }
  | .write write => { run with state.runtime := run.state.runtime.write write }

end MonitoredReducer

def reducerSystem : TransitionSystem MonitoredReducer ReducerLabel :=
  TransitionSystem.ofFunction MonitoredReducer.start MonitoredReducer.next

/-- The phase shows the active generation. Without one it shows a bound listener that no
user close has forgotten, but for a disconnect hold, which is shown as reconnecting. -/
structure StateContract (run : MonitoredReducer) : Prop where
  phase : ∀ generation, run.state.activeGeneration = some generation ↔
    run.state.runtime.connection = .connected generation
  listening : run.bound → ¬run.closed → run.state.activeGeneration = none →
    run.state.runtime.connection = .listening ∨
      run.state.disconnectHoldPending ∧ run.state.runtime.connection = .reconnecting 1

structure StepContract (run : MonitoredReducer) (event : ReceiverEvent) : Prop where
  inert : event.stale run.state → reduce run.state event = (run.state, [])
  userClose : event = .userClose →
    (reduce run.state event).1.activeGeneration = none ∧
      (reduce run.state event).1.disconnectHoldPending = false ∧
      reduce (reduce run.state event).1 .userClose = ((reduce run.state event).1, [])
  output : event ≠ .listenerStarted → ¬(event = .userClose ∧ run.state.closeable) →
    (reduce run.state event).1.runtime.output = run.state.runtime.output

/-- The contract of states with what its induction needs. -/
structure PhaseInvariant (run : MonitoredReducer) : Prop where
  phase : ∀ generation, run.state.activeGeneration = some generation ↔
    run.state.runtime.connection = .connected generation
  listening : run.bound → ¬run.closed → run.state.listening
  idle : run.state.activeGeneration = none → run.state.disconnectHoldPending = false →
    run.state.runtime.connection = if run.state.listening then .listening else .idle
  hold : run.state.disconnectHoldPending →
    run.state.runtime.connection = .listening ∨ run.state.runtime.connection = .reconnecting 1

namespace PhaseInvariant

variable {run : MonitoredReducer}

theorem toContract (inv : PhaseInvariant run) : StateContract run where
  phase := inv.phase
  listening hbound hopen hnone := by
    cases hpending : run.state.disconnectHoldPending with
    | false =>
        rw [inv.idle hnone hpending, inv.listening hbound hopen]
        exact Or.inl rfl
    | true => exact (inv.hold hpending).imp_right fun h => ⟨rfl, h⟩

theorem start : PhaseInvariant MonitoredReducer.start where
  phase generation := by simp [MonitoredReducer.start, ReceiverReducerState.default]
  listening h := by cases h
  idle _ _ := rfl
  hold h := by cases h

theorem of_endGeneration (inv : PhaseInvariant run) :
    PhaseInvariant { run with state := run.state.endGeneration } where
  phase generation := by
    cases hlistening : run.state.listening <;>
      simp [ReceiverReducerState.endGeneration, ReceiverReducerState.resetToAvailableIdle,
        hlistening]
  listening := inv.listening
  idle _ _ := rfl
  hold h := by cases h

end PhaseInvariant

theorem phaseInvariant_event {run : MonitoredReducer} (inv : PhaseInvariant run)
    (event : ReceiverEvent) : PhaseInvariant (run.next (.event event)) := by
  have hend := inv.of_endGeneration
  cases event with
  | listenerStarted =>
      by_cases hnone : run.state.activeGeneration = none
      · constructor <;> simp [MonitoredReducer.next, reduce, hnone]
      · constructor
        · simpa [MonitoredReducer.next, reduce, hnone] using inv.phase
        · simp [MonitoredReducer.next, reduce]
        · simp [MonitoredReducer.next, reduce, hnone]
        · simpa [MonitoredReducer.next, reduce, hnone] using inv.hold
  | transportConnected generation =>
      constructor
      · simp [MonitoredReducer.next, reduce]
      · simpa [MonitoredReducer.next, reduce] using inv.listening
      · simp [MonitoredReducer.next, reduce]
      · simp [MonitoredReducer.next, reduce]
  | transportDisconnected generation retainFrame =>
      by_cases hactive : run.state.activeGeneration = some generation
      · cases retainFrame with
        | true =>
            constructor
            · simp [MonitoredReducer.next, reduce, hactive]
            · simpa [MonitoredReducer.next, reduce, hactive] using inv.listening
            · simp [MonitoredReducer.next, reduce, hactive]
            · simp [MonitoredReducer.next, reduce, hactive]
        | false => simpa [MonitoredReducer.next, reduce, hactive] using hend
      · simpa [MonitoredReducer.next, reduce, hactive] using inv
  | controlReceived generation =>
      by_cases hactive : run.state.activeGeneration = some generation
      · simpa [MonitoredReducer.next, reduce, hactive] using inv
      · simpa [MonitoredReducer.next, reduce, hactive] using inv
  | videoReceived generation =>
      by_cases hactive : run.state.activeGeneration = some generation
      · simpa [MonitoredReducer.next, reduce, hactive] using inv
      · simpa [MonitoredReducer.next, reduce, hactive] using inv
  | stopStream generation =>
      by_cases hactive : run.state.activeGeneration = some generation
      · simpa [MonitoredReducer.next, reduce, hactive] using hend
      · simpa [MonitoredReducer.next, reduce, hactive] using inv
  | abortConnection generation reason =>
      by_cases hactive : run.state.activeGeneration = some generation
      · simpa [MonitoredReducer.next, reduce, hactive] using hend
      · simpa [MonitoredReducer.next, reduce, hactive] using inv
  | userClose =>
      by_cases hclose : run.state.resourcesActive ∨ run.state.activeGeneration ≠ none ∨
          run.state.disconnectHoldPending
      · constructor <;>
          simp [MonitoredReducer.next, reduce, ReceiverReducerState.closeable, hclose]
      · simpa [MonitoredReducer.next, reduce, ReceiverReducerState.closeable, hclose] using inv
  | disconnectHoldElapsed =>
      by_cases hpending : run.state.disconnectHoldPending
      · have hnone : run.state.activeGeneration = none := by
          cases hactive : run.state.activeGeneration with
          | none => rfl
          | some generation =>
              have hconnected := (inv.phase generation).mp hactive
              cases inv.hold hpending with
              | inl h => rw [h] at hconnected; cases hconnected
              | inr h => rw [h] at hconnected; cases hconnected
        constructor
        · intro generation
          cases hlistening : run.state.listening <;>
            simp [MonitoredReducer.next, reduce, hpending, hnone, hlistening,
              ReceiverReducerState.resetToAvailableIdle]
        · simpa [MonitoredReducer.next, reduce, hpending,
            ReceiverReducerState.resetToAvailableIdle] using inv.listening
        · simp [MonitoredReducer.next, reduce, hpending,
            ReceiverReducerState.resetToAvailableIdle]
        · simp [MonitoredReducer.next, reduce, hpending,
            ReceiverReducerState.resetToAvailableIdle]
      · simpa [MonitoredReducer.next, reduce, hpending] using inv

theorem phaseInvariant_next {run : MonitoredReducer} (inv : PhaseInvariant run)
    (label : ReducerLabel) : PhaseInvariant (run.next label) := by
  cases label with
  | event event => exact phaseInvariant_event inv event
  | write write =>
      have hsame : (run.next (.write write)).state.runtime.connection =
          run.state.runtime.connection := SessionRuntimeState.connection_write _ _
      exact ⟨by rw [hsame]; exact inv.phase, inv.listening, by rw [hsame]; exact inv.idle,
        by rw [hsame]; exact inv.hold⟩

theorem reduce_stale {state : ReceiverReducerState} {event : ReceiverEvent}
    (h : event.stale state) : reduce state event = (state, []) := by
  have hother : ∀ generation, event.generation? = some generation →
      event ≠ .transportConnected generation → state.activeGeneration ≠ some generation := by
    intro generation hcarries hnew hactive
    cases event <;> simp_all [ReceiverEvent.stale, ReceiverEvent.generation?]
  cases event with
  | listenerStarted => simp [ReceiverEvent.stale, ReceiverEvent.generation?] at h
  | userClose => simp [ReceiverEvent.stale, ReceiverEvent.generation?] at h
  | disconnectHoldElapsed => simp [ReceiverEvent.stale, ReceiverEvent.generation?] at h
  | transportConnected generation => simp [ReceiverEvent.stale] at h
  | _ generation => rw [reduce, if_neg (hother generation rfl (by simp))]

theorem reduce_userClose (state : ReceiverReducerState) :
    (reduce state .userClose).1.activeGeneration = none ∧
      (reduce state .userClose).1.disconnectHoldPending = false ∧
      reduce (reduce state .userClose).1 .userClose = ((reduce state .userClose).1, []) := by
  by_cases hclose : state.resourcesActive ∨ state.activeGeneration ≠ none ∨
      state.disconnectHoldPending
  · simp [reduce, hclose]
  · have hclose' := hclose
    simp only [not_or, not_not, Bool.not_eq_true] at hclose'
    simp [reduce, hclose']

theorem reduce_output {state : ReceiverReducerState} {event : ReceiverEvent}
    (hlistener : event ≠ .listenerStarted) (hclose : ¬(event = .userClose ∧ state.closeable)) :
    (reduce state event).1.runtime.output = state.runtime.output := by
  cases event with
  | listenerStarted => exact absurd rfl hlistener
  | transportConnected generation => rfl
  | userClose =>
      have hopen : ¬(state.resourcesActive ∨ state.activeGeneration ≠ none ∨
          state.disconnectHoldPending) := by
        simpa [ReceiverReducerState.closeable] using hclose
      rw [reduce, if_neg hopen]
  | transportDisconnected generation retainFrame =>
      simp only [reduce]
      split
      · cases retainFrame <;> rfl
      · rfl
  | _ =>
      simp only [reduce]
      split <;> rfl

/-- The contract holds in every reachable state and of every event in it. -/
theorem reducer_contract {run : MonitoredReducer} (h : reducerSystem.Reachable run) :
    StateContract run ∧ ∀ event, StepContract run event := by
  have inv : PhaseInvariant run := by
    apply TransitionSystem.Reachable.invariant _ _ h
    · rintro s rfl
      exact PhaseInvariant.start
    · rintro s label t hs rfl
      exact phaseInvariant_next hs label
  refine ⟨inv.toContract, fun event => ⟨reduce_stale, ?_, reduce_output⟩⟩
  rintro rfl
  exact reduce_userClose run.state

/-- A connection behind a bound listener goes with its frame held, and a late access unit of
it arrives. -/
def heldRun : MonitoredReducer :=
  [ReducerLabel.event .listenerStarted, .event (.transportConnected 1),
    .event (.controlReceived 1), .event (.videoReceived 1),
    .event (.transportDisconnected 1 true), .event (.videoReceived 1)].foldl
      MonitoredReducer.next MonitoredReducer.start

theorem reducer_contract_held :
    heldRun.state.disconnectHoldPending ∧ heldRun.state.listening ∧
      (ReceiverEvent.videoReceived 1).stale heldRun.state ∧
      StateContract heldRun ∧ ∀ event, StepContract heldRun event :=
  ⟨by decide, by decide, by decide,
    reducer_contract (TransitionSystem.reachable_foldl _ _ _)⟩

/-- A connection behind a bound listener. -/
def connectedRun : MonitoredReducer :=
  [ReducerLabel.event .listenerStarted, .event (.transportConnected 1),
    .write (.setOutput .virtualCameraUnavailable)].foldl MonitoredReducer.next
      MonitoredReducer.start

/-- Behind a bound listener a held frame is shown as reconnecting; a user close shows idle
and makes the output ready. -/
theorem bound_listener_not_shown :
    (connectedRun.next (.event (.transportDisconnected 1 true))).bound = true ∧
      (connectedRun.next (.event (.transportDisconnected 1 true))).state.activeGeneration = none ∧
      (connectedRun.next (.event (.transportDisconnected 1 true))).state.runtime.connection =
        .reconnecting 1 ∧
      (connectedRun.next (.event .userClose)).bound = true ∧
      (connectedRun.next (.event .userClose)).state.runtime.connection = .idle ∧
      connectedRun.state.runtime.output = .virtualCameraUnavailable ∧
      (connectedRun.next (.event .userClose)).state.runtime.output = .ready := by
  decide

end PicooCamera.Receiver
