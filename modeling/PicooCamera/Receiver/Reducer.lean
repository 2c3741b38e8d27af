import PicooCamera.Session.RuntimeState

/-!
# The Receiver lifecycle reducer

`reduce` is the gate of every connection generation: an event of a generation
that is not the active one changes nothing and has no effect.
-/

namespace PicooCamera.Receiver

open PicooCamera.Session

structure ReceiverReducerState where
  runtime : SessionRuntimeState
  activeGeneration : Option Nat
  resourcesActive : Bool
  listening : Bool
  disconnectHoldPending : Bool
  deriving DecidableEq, Repr

/-- The resources exist from the start: the first teardown resets them even before a
transport connects. -/
def ReceiverReducerState.default : ReceiverReducerState where
  runtime := SessionRuntimeState.default
  activeGeneration := none
  resourcesActive := true
  listening := false
  disconnectHoldPending := false

inductive ReceiverCloseReason where
  | localClose
  | invalidControl
  | decoderUnavailable
  | pairingExpired
  | pairingRejected
  | publicKeyChanged
  deriving DecidableEq, Repr

inductive ReceiverEvent where
  | listenerStarted
  | transportConnected (generation : Nat)
  | transportDisconnected (generation : Nat) (retainFrame : Bool)
  | controlReceived (generation : Nat)
  | videoReceived (generation : Nat)
  | stopStream (generation : Nat)
  | abortConnection (generation : Nat) (reason : ReceiverCloseReason)
  | userClose
  | disconnectHoldElapsed
  deriving DecidableEq, Repr

inductive ReceiverEffect where
  | prepareConnection
  | acceptControl
  | acceptVideo
  | resetSessionResources
  | closeActiveTransport (reason : ReceiverCloseReason)
  | scheduleDisconnectHold
  | publishWaitingPlaceholder
  | publishReconnectingPlaceholder
  deriving DecidableEq, Repr

/-- The generation that an event carries. -/
def ReceiverEvent.generation? : ReceiverEvent → Option Nat
  | .transportConnected g => some g
  | .transportDisconnected g _ => some g
  | .controlReceived g => some g
  | .videoReceived g => some g
  | .stopStream g => some g
  | .abortConnection g _ => some g
  | .listenerStarted => none
  | .userClose => none
  | .disconnectHoldElapsed => none

namespace ReceiverReducerState

def resetToAvailableIdle (state : ReceiverReducerState) : ReceiverReducerState :=
  { state with
    runtime := state.runtime.resetSession (if state.listening then .listening else .idle) }

/-- What `StopStream`, `AbortConnection` and a disconnect without a held frame have in
common: the generation is over and the session is idle. -/
def endGeneration (state : ReceiverReducerState) : ReceiverReducerState :=
  { state with
    activeGeneration := none
    resourcesActive := false
    disconnectHoldPending := false }.resetToAvailableIdle

end ReceiverReducerState

def reduce (state : ReceiverReducerState) (event : ReceiverEvent) :
    ReceiverReducerState × List ReceiverEffect :=
  match event with
  | .listenerStarted =>
      let runtime := { state.runtime with output := .ready }
      ({ state with
        listening := true
        runtime :=
          if state.activeGeneration = none then { runtime with connection := .listening }
          else runtime }, [])
  | .transportConnected generation =>
      ({ state with
        activeGeneration := some generation
        resourcesActive := true
        disconnectHoldPending := false
        runtime := state.runtime.resetSession (.connected generation) },
        [.prepareConnection])
  | .controlReceived generation =>
      if state.activeGeneration = some generation then (state, [.acceptControl])
      else (state, [])
  | .videoReceived generation =>
      if state.activeGeneration = some generation then (state, [.acceptVideo])
      else (state, [])
  | .transportDisconnected generation retainFrame =>
      if state.activeGeneration = some generation then
        if retainFrame then
          ({ state with
            activeGeneration := none
            resourcesActive := false
            disconnectHoldPending := true
            runtime := state.runtime.resetSession (.reconnecting 1) },
            [.resetSessionResources, .scheduleDisconnectHold])
        else (state.endGeneration, [.resetSessionResources, .publishWaitingPlaceholder])
      else (state, [])
  | .stopStream generation =>
      if state.activeGeneration = some generation then
        (state.endGeneration,
          [.resetSessionResources, .closeActiveTransport .localClose,
            .publishWaitingPlaceholder])
      else (state, [])
  | .abortConnection generation reason =>
      if state.activeGeneration = some generation then
        (state.endGeneration,
          [.resetSessionResources, .closeActiveTransport reason, .publishWaitingPlaceholder])
      else (state, [])
  | .userClose =>
      if state.resourcesActive ∨ state.activeGeneration ≠ none ∨ state.disconnectHoldPending then
        ({ runtime := SessionRuntimeState.default
           activeGeneration := none
           resourcesActive := false
           listening := false
           disconnectHoldPending := false },
          [.resetSessionResources, .closeActiveTransport .localClose,
            .publishWaitingPlaceholder])
      else (state, [])
  | .disconnectHoldElapsed =>
      if state.disconnectHoldPending then
        ({ state with disconnectHoldPending := false }.resetToAvailableIdle,
          [.publishReconnectingPlaceholder])
      else (state, [])

end PicooCamera.Receiver
