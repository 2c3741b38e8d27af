import PicooCamera.Packet.ReassemblyMap

/-!
# The mapping of a remote monotonic clock

The estimator keeps the last twelve exchanges it accepted and fits a line to those
of low delay. Its arithmetic is that of `f64`; nothing below depends on how it rounds.
-/

namespace PicooCamera.Session

open PicooCamera.Packet (saturatingAdd u64Max)

def maxClockSyncSamples : Nat := 12

def minStableSamples : Nat := 3

def minStableSpanUs : Nat := 500000

def maxAcceptedRoundTripUs : Nat := 250000

def lowDelayBandUs : Nat := 2000

/-- The operations of `f64` that the estimator uses. -/
class FloatArithmetic (F : Type) where
  /-- A `u64` as `f64`. -/
  ofNat : Nat → F
  /-- The constant `0.001`. -/
  maxSlopeError : F
  epsilon : F
  add : F → F → F
  sub : F → F → F
  mul : F → F → F
  div : F → F → F
  mulAdd : F → F → F → F
  abs : F → F
  max : F → F → F
  lt : F → F → Bool
  le : F → F → Bool
  isFinite : F → Bool
  /-- `ceil` and then `as u64`. -/
  ceil : F → Nat
  /-- `round` and then `as u64`. -/
  round : F → Nat

structure ClockSyncExchange where
  generation : Nat
  localSendUs : Nat
  remoteReceiveUs : Nat
  remoteSendUs : Nat
  localReceiveUs : Nat
  deriving DecidableEq, Repr

structure ClockMappingEstimate where
  localTimeUs : Nat
  uncertaintyUs : Nat
  deriving DecidableEq, Repr

inductive ClockSyncError where
  | staleGeneration (got expected : Nat)
  | nonMonotonicExchange
  | impossibleRoundTrip
  | excessiveRoundTrip
  deriving DecidableEq, Repr

def ClockSyncError.text : ClockSyncError → String
  | .staleGeneration got expected =>
      s!"clock sync exchange belongs to generation {got}, expected {expected}"
  | .nonMonotonicExchange => "clock sync timestamps are not monotonic within their endpoint"
  | .impossibleRoundTrip =>
      "remote processing interval exceeds the complete local round trip"
  | .excessiveRoundTrip => "clock sync round trip exceeds the bounded realtime window"

structure SyncPoint (F : Type) where
  remoteMidpointUs : F
  localMidpointUs : F
  uncertaintyUs : Nat

structure AffineClockMapper (F : Type) where
  generation : Nat
  samples : List (SyncPoint F)
  slope : F
  interceptUs : F
  uncertaintyUs : Nat
  stable : Bool

variable {F : Type} [FloatArithmetic F]

open FloatArithmetic

def midpoint (first second : Nat) : F :=
  add (ofNat first) (div (ofNat (second - first)) (ofNat 2))

def clamp (x low high : F) : F :=
  let x := if lt x low then low else x
  if lt high x then high else x

/-- The sum of `f` over the samples, divided by their number. -/
def sumOver (f : SyncPoint F → F) (samples : List (SyncPoint F)) : F :=
  samples.foldl (fun total sample => add total (f sample)) (ofNat 0)

/-- What a fit sets: slope, intercept and uncertainty. -/
structure AffineFit (F : Type) where
  slope : F
  interceptUs : F
  uncertaintyUs : Nat

/-- The samples whose delay is close to the least one. -/
def acceptedSamples (samples : List (SyncPoint F)) : List (SyncPoint F) :=
  match (samples.map (·.uncertaintyUs)).min? with
  | none => []
  | some minUncertainty =>
      samples.filter fun sample =>
        sample.uncertaintyUs ≤ saturatingAdd minUncertainty lowDelayBandUs

/-- The least-squares line through samples of which `first` is the first. -/
def leastSquares (first : SyncPoint F) (accepted : List (SyncPoint F)) : Option (AffineFit F) :=
  let count : F := ofNat accepted.length
  let meanX := div (sumOver
    (fun s => sub s.remoteMidpointUs first.remoteMidpointUs) accepted) count
  let meanY := div (sumOver
    (fun s => sub s.localMidpointUs first.localMidpointUs) accepted) count
  let x (s : SyncPoint F) := sub (sub s.remoteMidpointUs first.remoteMidpointUs) meanX
  let y (s : SyncPoint F) := sub (sub s.localMidpointUs first.localMidpointUs) meanY
  let covariance := sumOver (fun s => mul (x s) (y s)) accepted
  let variance := sumOver (fun s => mul (x s) (x s)) accepted
  if le variance epsilon then none else
  let slope := clamp (div covariance variance)
    (sub (ofNat 1) maxSlopeError) (add (ofNat 1) maxSlopeError)
  let intercept := sub (add first.localMidpointUs meanY)
    (mul slope (add first.remoteMidpointUs meanX))
  let residual := ceil ((accepted.map fun s =>
    abs (sub (mulAdd slope s.remoteMidpointUs intercept) s.localMidpointUs)).foldl
      FloatArithmetic.max (ofNat 0))
  some {
    slope := slope
    interceptUs := intercept
    uncertaintyUs := saturatingAdd
      ((accepted.map (·.uncertaintyUs)).max?.getD u64Max) residual }

/-- The fit of the samples, when there are enough of them over a long enough span. -/
def fit (samples : List (SyncPoint F)) : Option (AffineFit F) :=
  let accepted := acceptedSamples samples
  if accepted.length < minStableSamples then none else
  match accepted.head?, accepted.getLast? with
  | some first, some last =>
      let remoteSpan := sub last.remoteMidpointUs first.remoteMidpointUs
      if lt remoteSpan (ofNat minStableSpanUs) then none else leastSquares first accepted
  | _, _ => none

namespace AffineClockMapper

def new (generation : Nat) : AffineClockMapper F where
  generation := generation
  samples := []
  slope := ofNat 1
  interceptUs := ofNat 0
  uncertaintyUs := u64Max
  stable := false

def reset (m : AffineClockMapper F) (generation : Nat) : AffineClockMapper F :=
  { m with
    generation := generation
    samples := []
    slope := ofNat 1
    interceptUs := ofNat 0
    uncertaintyUs := u64Max
    stable := false }

/-- A fit that does not go through leaves the last line in place, out of use. -/
def recompute (m : AffineClockMapper F) : AffineClockMapper F :=
  match fit m.samples with
  | none => { m with stable := false }
  | some f => { m with
      slope := f.slope
      interceptUs := f.interceptUs
      uncertaintyUs := f.uncertaintyUs
      stable := true }

def observe (m : AffineClockMapper F) (exchange : ClockSyncExchange) :
    Except ClockSyncError (AffineClockMapper F) :=
  if exchange.generation ≠ m.generation then
    .error (.staleGeneration exchange.generation m.generation)
  else if exchange.remoteSendUs < exchange.remoteReceiveUs ∨
      exchange.localReceiveUs < exchange.localSendUs then
    .error .nonMonotonicExchange
  else
    let localElapsed := exchange.localReceiveUs - exchange.localSendUs
    let remoteProcessing := exchange.remoteSendUs - exchange.remoteReceiveUs
    if remoteProcessing > localElapsed then .error .impossibleRoundTrip
    else
      let roundTripUs := localElapsed - remoteProcessing
      if roundTripUs > maxAcceptedRoundTripUs then .error .excessiveRoundTrip
      else
        let point : SyncPoint F := {
          remoteMidpointUs := midpoint exchange.remoteReceiveUs exchange.remoteSendUs
          localMidpointUs := midpoint exchange.localSendUs exchange.localReceiveUs
          uncertaintyUs := (roundTripUs + 1) / 2 }
        let kept := if m.samples.length = maxClockSyncSamples then m.samples.drop 1
          else m.samples
        .ok { m with samples := kept ++ [point] }.recompute

/-- `let _ = mapper.observe(exchange)`. -/
def observed (m : AffineClockMapper F) (exchange : ClockSyncExchange) : AffineClockMapper F :=
  (m.observe exchange).toOption.getD m

def estimateLocalTime (m : AffineClockMapper F) (remoteTimeUs : Nat) :
    Option ClockMappingEstimate :=
  if !m.stable then none else
  let mapped := mulAdd m.slope (ofNat remoteTimeUs) m.interceptUs
  if !isFinite mapped || lt mapped (ofNat 0) || lt (ofNat u64Max) mapped then none
  else some ⟨round mapped, m.uncertaintyUs⟩

@[simp] theorem reset_eq_new (m : AffineClockMapper F) (generation : Nat) :
    m.reset generation = new generation := rfl

@[simp] theorem new_generation (generation : Nat) :
    (new generation : AffineClockMapper F).generation = generation := rfl

theorem recompute_generation (m : AffineClockMapper F) :
    m.recompute.generation = m.generation := by
  unfold recompute
  cases fit m.samples <;> rfl

theorem observe_ok {m m' : AffineClockMapper F} {e : ClockSyncExchange}
    (h : m.observe e = .ok m') :
    e.generation = m.generation ∧ e.remoteReceiveUs ≤ e.remoteSendUs ∧
      e.localSendUs ≤ e.localReceiveUs ∧
      e.localReceiveUs - e.localSendUs ≤
        e.remoteSendUs - e.remoteReceiveUs + maxAcceptedRoundTripUs ∧
      ∃ point, m' = { m with samples := (if m.samples.length = maxClockSyncSamples then
        m.samples.drop 1 else m.samples) ++ [point] }.recompute := by
  unfold observe at h
  split at h
  · cases h
  · rename_i hgeneration
    split at h
    · cases h
    · rename_i hordered
      dsimp only at h
      split at h
      · cases h
      · split at h
        · cases h
        · rename_i hshort
          cases h
          exact ⟨not_not.mp hgeneration, by omega, by omega, by omega, _, rfl⟩

theorem observed_of_ok {m m' : AffineClockMapper F} {e : ClockSyncExchange}
    (h : m.observe e = .ok m') : m.observed e = m' := by
  rw [observed, h]
  rfl

theorem observed_of_error {m : AffineClockMapper F} {e : ClockSyncExchange} {err : ClockSyncError}
    (h : m.observe e = .error err) : m.observed e = m := by
  rw [observed, h]
  rfl

theorem observed_generation (m : AffineClockMapper F) (e : ClockSyncExchange) :
    (m.observed e).generation = m.generation := by
  cases h : m.observe e with
  | error err => rw [observed_of_error h]
  | ok m' =>
      obtain ⟨_, _, _, _, point, rfl⟩ := observe_ok h
      rw [observed_of_ok h, recompute_generation]

end AffineClockMapper

end PicooCamera.Session
