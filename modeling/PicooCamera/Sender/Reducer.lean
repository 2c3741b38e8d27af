import PicooCamera.Session.RuntimeState

/-!
# The Sender lifecycle reducer

Connection attempts, their generations and the reconnect policy. `pendingGeneration`
is the attempt that has been started, `activeGeneration` the one that has connected.
-/

namespace PicooCamera.Sender

open PicooCamera.Session

structure SenderReducerState where
  runtime : SessionRuntimeState
  activeGeneration : Option Nat
  pendingGeneration : Option Nat
  resourcesActive : Bool
  reconnectEnabled : Bool
  reconnectPending : Bool
  deriving DecidableEq, Repr

def SenderReducerState.default : SenderReducerState where
  runtime := SessionRuntimeState.default
  activeGeneration := none
  pendingGeneration := none
  resourcesActive := false
  reconnectEnabled := true
  reconnectPending := false

inductive SenderEvent where
  | connectRequested
  | transportConnectStarted (generation : Nat)
  | explicitConnectFailed
  | transportConnected (generation : Nat)
  | controlReceived (generation : Nat)
  | transportDisconnected (generation : Nat) (endpointAvailable : Bool)
  | authenticationRejected (generation : Nat)
  | userDisconnect (domainResourcesActive : Bool)
  | reconnectPolicyChanged (enabled : Bool)
  | reconnectArmed (attempt : Nat)
  | reconnectDeadlineElapsed
  | reconnectConnectFailed
  deriving DecidableEq, Repr

inductive SenderEffect where
  | acceptControl
  | resetSessionResources
  | closeTransport (generation : Nat)
  | prepareConnection (generation : Nat)
  | scheduleReconnect
  | startReconnect
  | disableReconnect
  | clearConnectionIntent
  deriving DecidableEq, Repr

namespace SenderReducerState

/-- The generation that a new attempt or a user stop closes: `take` of the active one, else
of the pending one. -/
def previousGeneration (state : SenderReducerState) : Option Nat :=
  state.activeGeneration.or state.pendingGeneration

/-- The pending generation is taken only where there is no active one. -/
def takePending (state : SenderReducerState) : Option Nat :=
  if state.activeGeneration = none then none else state.pendingGeneration

end SenderReducerState

def reduce (state : SenderReducerState) (event : SenderEvent) :
    SenderReducerState × List SenderEffect :=
  match event with
  | .connectRequested =>
      ({ state with
        activeGeneration := none
        pendingGeneration := state.takePending
        resourcesActive := true
        reconnectEnabled := true
        reconnectPending := false
        runtime := state.runtime.resetSession .connecting },
        match state.previousGeneration with
        | some generation => [.resetSessionResources, .closeTransport generation]
        | none => [])
  | .transportConnectStarted generation =>
      if state.runtime.connection = .connecting ∧ state.activeGeneration = none then
        ({ state with pendingGeneration := some generation }, [])
      else (state, [])
  | .explicitConnectFailed =>
      if state.activeGeneration = none ∧ state.runtime.connection = .connecting then
        ({ state with
          resourcesActive := false
          reconnectEnabled := false
          pendingGeneration := none
          runtime := SessionRuntimeState.default }, [.clearConnectionIntent])
      else (state, [])
  | .transportConnected generation =>
      if state.runtime.connection = .connecting ∧ state.pendingGeneration = some generation then
        ({ state with
          pendingGeneration := none
          activeGeneration := some generation
          resourcesActive := true
          reconnectPending := false
          runtime := state.runtime.resetSession (.connected generation) },
          [.prepareConnection generation])
      else (state, [])
  | .controlReceived generation =>
      if state.activeGeneration = some generation then (state, [.acceptControl])
      else (state, [])
  | .transportDisconnected generation endpointAvailable =>
      if state.activeGeneration = some generation ∨ state.pendingGeneration = some generation then
        ({ state with
          activeGeneration := none
          pendingGeneration := none
          resourcesActive := false
          runtime := SessionRuntimeState.default },
          if state.reconnectEnabled && endpointAvailable then
            [.resetSessionResources, .scheduleReconnect]
          else [.resetSessionResources])
      else (state, [])
  | .authenticationRejected generation =>
      if state.activeGeneration = some generation then
        ({ runtime := SessionRuntimeState.default
           activeGeneration := none
           pendingGeneration := none
           resourcesActive := false
           reconnectEnabled := false
           reconnectPending := false },
          [.resetSessionResources, .closeTransport generation, .disableReconnect])
      else (state, [])
  | .userDisconnect domainResourcesActive =>
      if state.resourcesActive ∨ state.activeGeneration ≠ none ∨ state.reconnectPending ∨
          domainResourcesActive then
        ({ runtime := SessionRuntimeState.default
           activeGeneration := none
           pendingGeneration := state.takePending
           resourcesActive := false
           reconnectEnabled := false
           reconnectPending := false },
          match state.previousGeneration with
          | some generation =>
              [.resetSessionResources, .closeTransport generation, .clearConnectionIntent]
          | none => [.resetSessionResources, .clearConnectionIntent])
      else (state, [])
  | .reconnectPolicyChanged enabled =>
      if !enabled && state.reconnectPending then
        ({ state with
          reconnectEnabled := enabled
          reconnectPending := false
          runtime := SessionRuntimeState.default }, [])
      else ({ state with reconnectEnabled := enabled }, [])
  | .reconnectArmed attempt =>
      if state.reconnectEnabled ∧ state.activeGeneration = none then
        ({ state with
          reconnectPending := true
          runtime := state.runtime.resetSession (.reconnecting attempt) }, [])
      else (state, [])
  | .reconnectDeadlineElapsed =>
      if state.reconnectPending then
        ({ state with
          reconnectPending := false
          resourcesActive := true
          runtime := state.runtime.resetSession .connecting }, [.startReconnect])
      else (state, [])
  | .reconnectConnectFailed =>
      if state.activeGeneration = none ∧ state.runtime.connection.isAttempt then
        ({ state with
          resourcesActive := false
          pendingGeneration := none
          runtime := SessionRuntimeState.default },
          if state.reconnectEnabled then [.scheduleReconnect] else [])
      else (state, [])

end PicooCamera.Sender
