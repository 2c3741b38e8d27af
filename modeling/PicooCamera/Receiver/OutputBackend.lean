import PicooCamera.Library.TransitionSystem
import PicooCamera.Packet.ReassemblyMap

/-!
# The backend of the virtual camera's output

A change of the backend advances its generation, and work that was planned before
is refused from then on.
-/

namespace PicooCamera.Receiver

open PicooCamera.Library
open PicooCamera.Packet (u64Max)

inductive OutputBackend where
  | gpuNative
  | cpuBridge
  deriving DecidableEq, Repr

inductive BackendFailureReason where
  | nativeImportUnsupported
  | adapterMismatch
  | nativeAllocatorUnavailable
  | sharingUnavailable
  | unauthorizedProducer
  | deviceLost
  | invalidContract
  deriving DecidableEq, Repr

def BackendFailureReason.allowsCpuBridge : BackendFailureReason → Bool
  | nativeImportUnsupported | adapterMismatch | nativeAllocatorUnavailable
  | sharingUnavailable => true
  | unauthorizedProducer | deviceLost | invalidContract => false

structure BackendCapabilities where
  gpuNative : Bool
  cpuBridge : Bool
  deriving DecidableEq, Repr

def BackendCapabilities.cpuBridgeOnly : BackendCapabilities := ⟨false, true⟩

inductive BackendSelectionReason where
  | nativeInteropAvailable
  | nativeInteropUnavailable
  deriving DecidableEq, Repr

structure BackendSelection where
  backend : OutputBackend
  reason : BackendSelectionReason
  nativeFailure : Option BackendFailureReason
  deriving DecidableEq, Repr

inductive BackendSelectionError where
  | noSupportedBackend
  | generationExhausted
  | nativeProbeContradiction
  | nativeFailureNotFallbackable (failure : BackendFailureReason)
  deriving DecidableEq, Repr

inductive BackendTransition where
  | unchanged (selection : BackendSelection)
  | switched (before after : BackendSelection) (generation : Nat)
  deriving DecidableEq, Repr

structure BackendState where
  selection : BackendSelection
  generation : Nat
  deriving DecidableEq, Repr

/-- What a worker captures before it works for the platform. -/
structure OutputPlan where
  selection : BackendSelection
  generation : Nat
  sourceGeneration : Nat
  outputRevision : Nat
  deriving DecidableEq, Repr

def selectAuto (capabilities : BackendCapabilities)
    (nativeFailure : Option BackendFailureReason) :
    Except BackendSelectionError BackendSelection :=
  if capabilities.gpuNative ∧ nativeFailure.isSome then .error .nativeProbeContradiction
  else if capabilities.gpuNative then .ok ⟨.gpuNative, .nativeInteropAvailable, none⟩
  else
    match nativeFailure.filter fun failure => !failure.allowsCpuBridge with
    | some failure => .error (.nativeFailureNotFallbackable failure)
    | none =>
        if capabilities.cpuBridge then .ok ⟨.cpuBridge, .nativeInteropUnavailable, nativeFailure⟩
        else .error .noSupportedBackend

namespace BackendState

def autoWithNativeFailure (capabilities : BackendCapabilities)
    (nativeFailure : Option BackendFailureReason) : Except BackendSelectionError BackendState := do
  let selection ← selectAuto capabilities nativeFailure
  return ⟨selection, 1⟩

def auto (capabilities : BackendCapabilities) : Except BackendSelectionError BackendState :=
  autoWithNativeFailure capabilities none

def planFor (s : BackendState) (sourceGeneration outputRevision : Nat) : OutputPlan :=
  ⟨s.selection, s.generation, sourceGeneration, outputRevision⟩

def transitionAutoWithNativeFailure (s : BackendState) (capabilities : BackendCapabilities)
    (nativeFailure : Option BackendFailureReason) :
    Except BackendSelectionError BackendTransition × BackendState :=
  match selectAuto capabilities nativeFailure with
  | .error error => (.error error, s)
  | .ok next =>
      -- the reason may become more precise while the backend stays
      if next.backend = s.selection.backend then
        (.ok (.unchanged next), { s with selection := next })
      else if s.generation + 1 ≤ u64Max then
        (.ok (.switched s.selection next (s.generation + 1)), ⟨next, s.generation + 1⟩)
      else (.error .generationExhausted, s)

def transitionAuto (s : BackendState) (capabilities : BackendCapabilities) :
    Except BackendSelectionError BackendTransition × BackendState :=
  s.transitionAutoWithNativeFailure capabilities none

def accepts (s : BackendState) (selection : BackendSelection) (generation : Nat) : Bool :=
  s.selection.backend = selection.backend ∧ s.generation = generation

def acceptsPlan (s : BackendState) (plan : OutputPlan) (sourceGeneration outputRevision : Nat) :
    Bool :=
  s.selection.backend = plan.selection.backend ∧ s.generation = plan.generation ∧
    plan.sourceGeneration = sourceGeneration ∧ plan.outputRevision = outputRevision

end BackendState

/-! ### Plans over a run of probes -/

/-- The backend and its reason agree, and no failure that must be seen hides behind the CPU. -/
def BackendSelection.Sound (selection : BackendSelection) : Prop :=
  (selection.backend = .gpuNative →
    selection.reason = .nativeInteropAvailable ∧ selection.nativeFailure = none) ∧
  (selection.backend = .cpuBridge → selection.reason = .nativeInteropUnavailable ∧
    ∀ failure, selection.nativeFailure = some failure → failure.allowsCpuBridge = true)

theorem selectAuto_sound {capabilities : BackendCapabilities}
    {nativeFailure : Option BackendFailureReason} {selection : BackendSelection}
    (h : selectAuto capabilities nativeFailure = .ok selection) :
    selection.Sound ∧ (selection.backend = .gpuNative ↔ capabilities.gpuNative = true) := by
  unfold selectAuto at h
  split at h
  · cases h
  · rename_i hcontradiction
    split at h
    · rename_i hnative
      cases h
      refine ⟨⟨fun _ => ⟨rfl, rfl⟩, ?_⟩, fun _ => hnative, fun _ => rfl⟩
      intro hbridge
      cases hbridge
    · rename_i hnative
      split at h
      · cases h
      · rename_i hallowed
        split at h
        · cases h
          constructor
          · constructor
            · intro hgpu
              cases hgpu
            · intro _
              refine ⟨rfl, fun failure hfailure => ?_⟩
              simpa using Option.filter_eq_none_iff.mp hallowed failure hfailure
          · constructor
            · intro hgpu
              cases hgpu
            · intro havailable
              exact absurd havailable hnative
        · cases h

/-- What the platform answers when the backend is looked at again. -/
structure BackendProbe where
  capabilities : BackendCapabilities
  nativeFailure : Option BackendFailureReason
  deriving DecidableEq, Repr

namespace BackendState

variable {s t : BackendState}

def next (s : BackendState) (probe : BackendProbe) : BackendState :=
  (s.transitionAutoWithNativeFailure probe.capabilities probe.nativeFailure).2

/-- What a probe does. -/
inductive Probed (s : BackendState) (probe : BackendProbe) : BackendState → Prop
  | refused : Probed s probe s
  | refined (selection : BackendSelection) (hsound : selection.Sound)
      (hsame : selection.backend = s.selection.backend) :
      Probed s probe { s with selection := selection }
  | switched (selection : BackendSelection) (hsound : selection.Sound)
      (hother : selection.backend ≠ s.selection.backend) (hroom : s.generation + 1 ≤ u64Max) :
      Probed s probe ⟨selection, s.generation + 1⟩

theorem next_probed (s : BackendState) (probe : BackendProbe) : Probed s probe (s.next probe) := by
  unfold next transitionAutoWithNativeFailure
  cases hselect : selectAuto probe.capabilities probe.nativeFailure with
  | error error => exact .refused
  | ok selection =>
      have hsound := (selectAuto_sound hselect).1
      dsimp only
      split
      · exact .refined selection hsound ‹_›
      · rename_i hother
        split
        · exact .switched selection hsound hother ‹_›
        · exact .refused

/-- How often the backend changes. -/
def switches : BackendState → List BackendProbe → Nat
  | _, [] => 0
  | s, probe :: probes =>
      (if (s.next probe).selection.backend = s.selection.backend then 0 else 1) +
        (s.next probe).switches probes

theorem next_generation (s : BackendState) (probe : BackendProbe) :
    (s.next probe).generation = s.generation +
      if (s.next probe).selection.backend = s.selection.backend then 0 else 1 := by
  generalize ht : s.next probe = t
  have hprobed := next_probed s probe
  rw [ht] at hprobed
  cases hprobed with
  | refused => rw [if_pos rfl, Nat.add_zero]
  | refined selection hsound hsame => rw [if_pos hsame, Nat.add_zero]
  | switched selection hsound hother hroom => rw [if_neg hother]

theorem generation_foldl (s : BackendState) (probes : List BackendProbe) :
    (probes.foldl next s).generation = s.generation + s.switches probes := by
  induction probes generalizing s with
  | nil => rfl
  | cons probe probes ih =>
      rw [List.foldl_cons, ih, next_generation]
      simp only [switches, Nat.add_assoc]

theorem backend_foldl {s : BackendState} {probes : List BackendProbe}
    (h : s.switches probes = 0) :
    (probes.foldl next s).selection.backend = s.selection.backend := by
  induction probes generalizing s with
  | nil => rfl
  | cons probe probes ih =>
      simp only [switches] at h
      split at h
      · rename_i hsame
        rw [List.foldl_cons, ih (by omega), hsame]
      · omega

/-- The selection is sound and the generation is a `u64` from one on. -/
structure Valid (s : BackendState) : Prop where
  sound : s.selection.Sound
  started : 1 ≤ s.generation
  bounded : s.generation ≤ u64Max

theorem Valid.of_auto {capabilities : BackendCapabilities}
    {nativeFailure : Option BackendFailureReason}
    (h : autoWithNativeFailure capabilities nativeFailure = .ok s) : s.Valid := by
  unfold autoWithNativeFailure at h
  cases hselect : selectAuto capabilities nativeFailure with
  | error error =>
      rw [hselect] at h
      cases h
  | ok selection =>
      rw [hselect] at h
      cases h
      refine ⟨(selectAuto_sound hselect).1, le_rfl, ?_⟩
      change 1 ≤ u64Max
      decide

theorem Valid.next (h : s.Valid) (probe : BackendProbe) : (s.next probe).Valid := by
  generalize ht : s.next probe = t
  have hprobed := next_probed s probe
  rw [ht] at hprobed
  cases hprobed with
  | refused => exact h
  | refined selection hsound hsame => exact ⟨hsound, h.started, h.bounded⟩
  | switched selection hsound hother hroom => exact ⟨hsound, Nat.le_add_left 1 _, hroom⟩

theorem Valid.foldl (h : s.Valid) (probes : List BackendProbe) :
    (probes.foldl BackendState.next s).Valid := by
  induction probes generalizing s with
  | nil => exact h
  | cons probe probes ih => exact ih (h.next probe)

theorem acceptsPlan_planFor {sourceGeneration outputRevision sourceGeneration' outputRevision' : Nat} :
    t.acceptsPlan (s.planFor sourceGeneration outputRevision) sourceGeneration' outputRevision' =
      true ↔ t.selection.backend = s.selection.backend ∧ t.generation = s.generation ∧
        sourceGeneration = sourceGeneration' ∧ outputRevision = outputRevision' := by
  unfold acceptsPlan planFor
  exact decide_eq_true_iff

end BackendState

end PicooCamera.Receiver
