import PicooCamera.Recording.Ingress

/-!
# What the recording ingress delivers

The inputs of an inbox are the access units pushed, in their order, and the
budget is what they are charged with. A drain means that nothing is missing,
unless a failure has come between the two reads of a poll.
-/

namespace PicooCamera.Recording

open PicooCamera.Library PicooCamera.Library.TransitionSystem PicooCamera.Packet
  PicooCamera.Protocol

/-- The access unit, with the deadline of its acceptance. -/
def RecordingInput.stamp (input : RecordingInput) : AssembledAccessUnit × Nat :=
  (input.accessUnit, input.deadline)

def Pending.stamp (entry : Pending) : AssembledAccessUnit × Nat :=
  (entry.accessUnit, entry.acceptedAt + inputDeadlineUs)

def stamps (inputs : List ReservedInput) : List (AssembledAccessUnit × Nat) :=
  inputs.map fun input => input.stamp

def admittedOf (events : List IngressEvent) : List ReservedInput :=
  events.filterMap IngressEvent.input?

/-- The configuration is of the epoch of the access unit, and was current for its connection. -/
def Paired (configured : List (Nat × StreamConfig)) (generation : Nat)
    (accessUnit : AssembledAccessUnit) (configuration : StreamConfig) : Prop :=
  configuration.streamEpoch = accessUnit.streamEpoch ∧ (generation, configuration) ∈ configured

section Lists

variable {a b : List ReservedInput}

@[simp] theorem stamps_append : stamps (a ++ b) = stamps a ++ stamps b := List.map_append

@[simp] theorem reservedBytes_append :
    reservedBytes (a ++ b) = reservedBytes a + reservedBytes b := by
  simp [reservedBytes]

@[simp] theorem reservedBytes_cons (input : ReservedInput) :
    reservedBytes (input :: a) = input.reservation + reservedBytes a := by
  simp [reservedBytes]

@[simp] theorem reservedBytes_nil : reservedBytes [] = 0 := rfl

@[simp] theorem waitingBytes_append (v w : List Pending) :
    waitingBytes (v ++ w) = waitingBytes v + waitingBytes w := by
  simp [waitingBytes]

@[simp] theorem inputsOf_append (p q : List Queued) :
    inputsOf (p ++ q) = inputsOf p ++ inputsOf q := List.filterMap_append

@[simp] theorem inputsOf_nil : inputsOf [] = [] := rfl

@[simp] theorem admittedOf_append (events others : List IngressEvent) :
    admittedOf (events ++ others) = admittedOf events ++ admittedOf others :=
  List.filterMap_append

theorem inputsOf_cons (queued : Queued) (queue : List Queued) :
    inputsOf (queued :: queue) = inputsOf [queued] ++ inputsOf queue :=
  inputsOf_append [queued] queue

theorem admittedOf_event (queued : Queued) : admittedOf [queued.event] = inputsOf [queued] := rfl

theorem reservedBytes_eraseIdx {index : Nat} {input : ReservedInput}
    (h : a[index]? = some input) :
    reservedBytes a = input.reservation + reservedBytes (a.eraseIdx index) := by
  induction a generalizing index with
  | nil => cases h
  | cons first rest ih =>
      cases index with
      | zero =>
          cases h
          exact reservedBytes_cons input
      | succ index =>
          have hrest := @ih index h
          rw [List.eraseIdx_cons_succ, reservedBytes_cons, reservedBytes_cons, hrest]
          omega

theorem sum_eraseIdx {bytes : List Nat} {index n : Nat} (h : bytes[index]? = some n) :
    bytes.sum = n + (bytes.eraseIdx index).sum := by
  induction bytes generalizing index with
  | nil => cases h
  | cons first rest ih =>
      cases index with
      | zero =>
          cases h
          exact List.sum_cons
      | succ index =>
          have hrest := @ih index h
          rw [List.eraseIdx_cons_succ, List.sum_cons, List.sum_cons, hrest]
          omega

end Lists

theorem ok_of_toOption {result : Except IngressFailure Nat} {used : Nat}
    (h : result.toOption = some used) : result = .ok used := by
  cases result with
  | error failure => cases h
  | ok value =>
      cases h
      rfl

theorem reserve_ok {used payloadBytes result : Nat}
    (h : reserve used payloadBytes = .ok result) :
    result = used + (payloadBytes + maxConfigurationBytes) ∧ result ≤ budgetLimit := by
  unfold reserve at h
  split at h
  · rename_i hfits
    cases h
    exact ⟨rfl, hfits⟩
  · cases h

/-! ## The wait -/

namespace ConfigurationWait

variable {wait : List Pending} {used generation now : Nat} {accessUnit : AssembledAccessUnit}
  {configuration : StreamConfig}

theorem push_ok {result : List Pending × Nat}
    (h : push wait used generation accessUnit configuration now = .ok result) :
    result.1 = wait ++ [pushed generation accessUnit configuration now] ∧
      result.2 = used + chargeOf accessUnit ∧ result.2 ≤ budgetLimit := by
  unfold push at h
  split at h
  · cases h
  · split at h
    · cases h
    · cases hreserve : reserve used accessUnit.data.length with
      | error failure =>
          rw [hreserve] at h
          cases h
      | ok charged =>
          rw [hreserve] at h
          cases h
          exact ⟨rfl, reserve_ok hreserve⟩

@[simp] theorem assign_stamp (entry : Pending) :
    (assign generation configuration entry).stamp = entry.stamp := by
  unfold assign
  split <;> rfl

@[simp] theorem assign_reservation (entry : Pending) :
    (assign generation configuration entry).reservation = entry.reservation := by
  unfold assign
  split <;> rfl

theorem assign_configuration {entry : Pending} {other : StreamConfig}
    (h : (assign generation configuration entry).configuration = some other) :
    (assign generation configuration entry).generation = entry.generation ∧
      (assign generation configuration entry).accessUnit = entry.accessUnit ∧
      (entry.configuration = some other ∨ other = configuration ∧
        entry.generation = generation ∧
        entry.accessUnit.streamEpoch = configuration.streamEpoch) := by
  unfold assign at h ⊢
  split
  · rename_i hidentity
    rw [if_pos hidentity] at h
    refine ⟨rfl, rfl, ?_⟩
    have hvalue : entry.configuration.getD configuration = other := Option.some.inj h
    cases hconfiguration : entry.configuration with
    | none =>
        rw [hconfiguration] at hvalue
        exact Or.inr ⟨hvalue.symm, hidentity⟩
    | some held =>
        rw [hconfiguration] at hvalue
        exact Or.inl (congrArg some hvalue)
  · rename_i hidentity
    rw [if_neg hidentity] at h
    exact ⟨rfl, rfl, Or.inl h⟩

theorem takeReady_stamps (wait : List Pending) :
    stamps (takeReady wait).1 ++ (takeReady wait).2.map Pending.stamp =
      wait.map Pending.stamp := by
  induction wait with
  | nil => rfl
  | cons entry wait ih =>
      rw [takeReady]
      cases entry.configuration with
      | none => rfl
      | some configuration =>
          rw [Option.elim_some, List.map_cons, ← ih]
          rfl

theorem takeReady_bytes (wait : List Pending) :
    reservedBytes (takeReady wait).1 + waitingBytes (takeReady wait).2 = waitingBytes wait := by
  induction wait with
  | nil => rfl
  | cons entry wait ih =>
      rw [takeReady]
      cases entry.configuration with
      | none => exact Nat.zero_add _
      | some configuration =>
          have hcons : waitingBytes (entry :: wait) = entry.reservation + waitingBytes wait := by
            simp [waitingBytes]
          rw [Option.elim_some, hcons, ← ih, reservedBytes_cons]
          exact Nat.add_assoc _ _ _

theorem mem_takeReady {wait : List Pending} {input : ReservedInput}
    (h : input ∈ (takeReady wait).1) :
    ∃ entry ∈ wait, ∃ configuration, entry.configuration = some configuration ∧
      input = readyInput entry configuration := by
  induction wait with
  | nil => cases h
  | cons entry wait ih =>
      rw [takeReady] at h
      cases hconfiguration : entry.configuration with
      | none =>
          rw [hconfiguration] at h
          cases h
      | some configuration =>
          rw [hconfiguration, Option.elim_some] at h
          rcases List.mem_cons.mp h with rfl | hrest
          · exact ⟨entry, List.mem_cons_self, configuration, hconfiguration, rfl⟩
          · obtain ⟨other, hmem, hother⟩ := ih hrest
            exact ⟨other, List.mem_cons_of_mem _ hmem, hother⟩

theorem takeReady_rest_subset (wait : List Pending) : (takeReady wait).2 ⊆ wait := by
  induction wait with
  | nil => exact fun _ h => h
  | cons entry wait ih =>
      rw [takeReady]
      cases entry.configuration with
      | none => exact fun _ h => h
      | some configuration => exact fun _ h => List.mem_cons_of_mem _ (ih h)

theorem resolve_ok {result : List ReservedInput × List Pending}
    (h : resolve wait generation configuration now = .ok result) :
    result = takeReady (wait.map (assign generation configuration)) := by
  unfold resolve at h
  split at h
  · cases h
  · split at h
    · cases h
    · exact (Except.ok.inj h).symm

end ConfigurationWait

theorem offerAt_ok {failure : Option IngressFailure} {input : ReservedInput} {now : Nat}
    {queued : Queued} (h : offerAt failure input now = .ok queued) :
    failure = none ∧ queued.event = .input input := by
  unfold offerAt at h
  cases failure with
  | some failure => cases h
  | none =>
      refine ⟨rfl, ?_⟩
      rw [Option.elim_none] at h
      split at h
      · cases h
      · split at h
        · cases h
        · cases h
          rfl

namespace PipelineRun

/-- The inputs delivered and those behind them in the channel. -/
def travelling (x : PipelineRun) : List ReservedInput :=
  admittedOf x.delivered ++ inputsOf (x.queue ++ x.sending.toList)

/-- The bytes of the inputs of the pipeline and of the other reservations. -/
def live (x : PipelineRun) : Nat :=
  x.foreign.sum + waitingBytes x.wait + reservedBytes x.ready +
    reservedBytes (inputsOf (x.queue ++ x.sending.toList)) + reservedBytes x.held

/-- What the inbox delivers, and what the budget is charged with. -/
structure PipelineSound (x : PipelineRun) : Prop where
  inOrder : stamps (admittedOf x.delivered) <+: x.pushed
  paired : ∀ input ∈ admittedOf x.delivered,
    Paired x.configured input.connectionGeneration input.accessUnit input.configuration
  charged : x.used = x.live
  bounded : x.used ≤ budgetLimit
  /-- A drain that ends a stopped recording has delivered all that was pushed. -/
  drained : x.lastPoll = some (.ok .drained) →
    x.producer ≠ .running ∧ x.failure = none ∧ x.delivered = x.accepted ∧
      (x.producer = .stopped → x.pushed = stamps (admittedOf x.delivered))

/-- The first failure is final for both ends. -/
structure FailureFinal (x : PipelineRun) (step : PipelineStep) : Prop where
  sticky : ∀ failure, x.failure = some failure → (x.step step).failure = some failure
  silent : ∀ failure, x.failure = some failure → (x.step step).delivered = x.delivered
  /-- No offer that begins behind the failure is sent. -/
  refused : ∀ failure, x.failure = some failure →
    (∀ input now, offerAt x.failure input now = .error failure) ∧
      ((x.step step).sending = x.sending ∨ (x.step step).sending = none)
  /-- A poll that begins behind the failure returns it. -/
  polled : ∀ failure now, x.failure = some failure → x.Polls →
    (x.step (.poll now)).lastPoll = some (.error failure)

/-! ## The invariant -/

structure Coherent (x : PipelineRun) : Prop where
  charged : x.used = x.live
  bounded : x.used ≤ budgetLimit
  detached : x.inbox ≠ .attached → x.queue = []
  receiving : x.receiving ≠ none → x.inbox = .attached
  ended : x.producer ≠ .running → x.sending = none ∧ x.ready = []
  stopped : x.producer = .stopped → x.failure = none → x.wait = []
  accepted : x.inbox = .attached → x.accepted = x.delivered ++ x.queue.map Queued.event
  closed : x.inbox = .closed → x.failure = none →
    x.producer ≠ .running ∧ x.delivered = x.accepted
  /-- Without a failure nothing is lost. -/
  whole : x.failure = none → x.inbox ≠ .dropped →
    x.pushed = stamps (x.travelling ++ x.ready) ++ x.wait.map Pending.stamp
  inFlight : x.inbox = .attached → stamps x.travelling <+: x.pushed
  inOrder : stamps (admittedOf x.delivered) <+: x.pushed
  paired : ∀ input ∈ x.travelling ++ x.ready,
    Paired x.configured input.connectionGeneration input.accessUnit input.configuration
  waiting : ∀ entry ∈ x.wait, ∀ configuration, entry.configuration = some configuration →
    Paired x.configured entry.generation entry.accessUnit configuration
  current : ∀ generation configuration, x.generation = some generation →
    x.configuration = some configuration → (generation, configuration) ∈ x.configured
  unset : x.generation = none → x.configuration = none
  /-- A drain without a failure is the end of the inbox. -/
  spent : x.lastPoll = some (.ok .drained) → x.failure = none →
    x.inbox ≠ .attached ∧ x.producer ≠ .running ∧ x.delivered = x.accepted ∧
      (x.producer = .stopped → x.pushed = stamps (admittedOf x.delivered))

variable {x : PipelineRun}

theorem coherent_start : Coherent start := by
  constructor
  case charged => rfl
  case bounded => exact Nat.zero_le _
  case detached => exact fun _ => rfl
  case receiving => exact fun _ => rfl
  case ended => exact fun _ => ⟨rfl, rfl⟩
  case stopped => exact nofun
  case accepted => exact fun _ => rfl
  case closed => exact nofun
  case whole => exact fun _ _ => rfl
  case inFlight => exact fun _ => List.prefix_rfl
  case inOrder => exact List.prefix_rfl
  case paired => exact nofun
  case waiting => exact nofun
  case current => exact nofun
  case unset => exact fun _ => rfl
  case spent => exact nofun

theorem setFailure_ne_none (failure : IngressFailure) : (x.setFailure failure).failure ≠ none := by
  unfold setFailure
  cases x.failure <;> simp

theorem Coherent.setFailure (h : Coherent x) (failure : IngressFailure) :
    Coherent (x.setFailure failure) :=
  { h with
    stopped := fun _ hnone => (setFailure_ne_none failure hnone).elim
    closed := fun _ hnone => (setFailure_ne_none failure hnone).elim
    whole := fun hnone => (setFailure_ne_none failure hnone).elim
    spent := fun _ hnone => (setFailure_ne_none failure hnone).elim }

theorem Coherent.takesUnit (h : Coherent x) (hidle : x.Idle) {generation : Nat}
    {configuration : StreamConfig} (hgeneration : x.generation = some generation)
    (hconfiguration : x.configuration = some configuration) {accessUnit : AssembledAccessUnit}
    {now : Nat} {result : List Pending × Nat}
    (hpush : ConfigurationWait.push x.wait x.used generation accessUnit configuration now =
      .ok result) :
    Coherent { x with
      wait := result.1
      used := result.2
      pushed := x.pushed ++ [(accessUnit, now + inputDeadlineUs)] } := by
  obtain ⟨hwait, hused, hbounded⟩ := ConfigurationWait.push_ok hpush
  rw [hwait]
  refine { h with
    charged := ?_, bounded := hbounded, stopped := ?_, whole := ?_, inFlight := ?_,
    inOrder := ?_, waiting := ?_
    spent := fun hdrained hnone => ((h.spent hdrained hnone).2.1 hidle.1).elim }
  · have hcharged := h.charged
    rw [hused, hcharged]
    simp only [live, waitingBytes_append]
    have hnew : waitingBytes [ConfigurationWait.pushed generation accessUnit configuration now] =
        chargeOf accessUnit := Nat.add_zero _
    omega
  · intro hstopped
    rw [hidle.1] at hstopped
    cases hstopped
  · intro hnone hinbox
    rw [h.whole hnone hinbox, List.map_append, List.append_assoc]
    rfl
  · exact fun hattached => (h.inFlight hattached).trans (List.prefix_append _ _)
  · exact h.inOrder.trans (List.prefix_append _ _)
  · intro entry hmem other hother
    rcases List.mem_append.mp hmem with hold | hnew
    · exact h.waiting entry hold other hother
    · rw [List.mem_singleton.mp hnew] at hother ⊢
      unfold ConfigurationWait.pushed at hother ⊢
      dsimp only at hother
      split at hother
      · rename_i hepoch
        cases hother
        exact ⟨hepoch.symm, h.current _ _ hgeneration hconfiguration⟩
      · cases hother

theorem Coherent.abandon (h : Coherent x) (failure : IngressFailure) :
    Coherent (x.abandon failure) := by
  have hfailed := h.setFailure failure
  refine { hfailed with
    charged := ?_, bounded := ?_, stopped := ?_, whole := ?_, waiting := nofun }
  · have hcharged := h.charged
    simp only [live] at hcharged
    simp only [PipelineRun.abandon, free, PipelineRun.setFailure, live]
    have hempty : waitingBytes [] = 0 := rfl
    omega
  · exact (Nat.sub_le _ _).trans h.bounded
  · exact fun _ hnone => (setFailure_ne_none failure hnone).elim
  · exact fun hnone => (setFailure_ne_none failure hnone).elim

theorem of_elim {α : Type} {P : PipelineRun → Prop} {value : Option α} {y : PipelineRun}
    {f : α → PipelineRun} (hnone : value = none → P y) (hsome : ∀ a, value = some a → P (f a)) :
    P (value.elim y f) := by
  cases value with
  | none => exact hnone rfl
  | some a => exact hsome a rfl

theorem of_guard {P : PipelineRun → Prop} {p : Prop} [Decidable p] {y z : PipelineRun}
    (hy : p → P y) (hz : P z) : P (if p then y else z) := by
  split
  · exact hy ‹_›
  · exact hz

/-! ### The session -/

theorem Coherent.hello (h : Coherent x) (generation : Nat) (hnone : x.generation = none) :
    Coherent { x with generation := some generation } :=
  { h with
    current := by
      intro _ configuration _ hconfiguration
      rw [h.unset hnone] at hconfiguration
      cases hconfiguration
    unset := nofun }

theorem Coherent.configure (h : Coherent x) (configuration : StreamConfig) :
    Coherent (x.configure configuration) := by
  apply of_elim
  · exact fun _ => h
  · intro generation hgeneration
    refine { h with paired := ?_, waiting := ?_, current := ?_, unset := ?_ }
    · intro input hmem
      obtain ⟨hepoch, hconfigured⟩ := h.paired input hmem
      exact ⟨hepoch, List.mem_cons_of_mem _ hconfigured⟩
    · intro entry hmem other hother
      obtain ⟨hepoch, hconfigured⟩ := h.waiting entry hmem other hother
      exact ⟨hepoch, List.mem_cons_of_mem _ hconfigured⟩
    · intro current other hcurrent hother
      have hsame : generation = current := Option.some.inj (hgeneration.symm.trans hcurrent)
      cases hother
      rw [hsame]
      exact List.mem_cons_self
    · intro hnone
      rw [show x.generation = none from hnone] at hgeneration
      cases hgeneration

theorem Coherent.reset (h : Coherent x) :
    Coherent { x with generation := none, configuration := none } :=
  { h with current := nofun, unset := fun _ => rfl }

theorem Coherent.push (h : Coherent x) (hidle : x.Idle) (accessUnit : AssembledAccessUnit)
    (now : Nat) : Coherent (x.push accessUnit now) := by
  apply of_elim (fun _ => h)
  intro generation hgeneration
  apply of_elim (fun _ => h)
  intro configuration hconfiguration
  cases hpush : ConfigurationWait.push x.wait x.used generation accessUnit configuration now with
  | error failure => exact h.abandon failure
  | ok result => exact h.takesUnit hidle hgeneration hconfiguration hpush

theorem Coherent.resolved (h : Coherent x) (hidle : x.Idle) {generation : Nat}
    {configuration : StreamConfig} (hgeneration : x.generation = some generation)
    (hconfiguration : x.configuration = some configuration) :
    Coherent { x with
      ready := (ConfigurationWait.takeReady
        (x.wait.map (ConfigurationWait.assign generation configuration))).1
      wait := (ConfigurationWait.takeReady
        (x.wait.map (ConfigurationWait.assign generation configuration))).2 } := by
  have hready : x.ready = [] := List.isEmpty_iff.mp hidle.2.2
  have hassigned : ∀ entry ∈ x.wait.map (ConfigurationWait.assign generation configuration),
      ∀ other, entry.configuration = some other →
      Paired x.configured entry.generation entry.accessUnit other := by
    intro entry hmem other hother
    obtain ⟨waiting, hwaiting, rfl⟩ := List.mem_map.mp hmem
    obtain ⟨hsame, hunit, hkept | ⟨rfl, hidentity, hepoch⟩⟩ :=
      ConfigurationWait.assign_configuration hother
    · rw [hsame, hunit]
      exact h.waiting waiting hwaiting other hkept
    · rw [hsame, hunit, hidentity]
      exact ⟨hepoch.symm, h.current generation other hgeneration hconfiguration⟩
  refine { h with
    charged := ?_, ended := ?_, stopped := ?_, whole := ?_, paired := ?_, waiting := ?_ }
  · have hcharged := h.charged
    have hbytes := ConfigurationWait.takeReady_bytes
      (x.wait.map (ConfigurationWait.assign generation configuration))
    have hsame : waitingBytes (x.wait.map (ConfigurationWait.assign generation configuration)) =
        waitingBytes x.wait := by
      simp [waitingBytes, Function.comp_def]
    simp only [live, hready, reservedBytes_nil] at hcharged ⊢
    omega
  · exact fun hended => (hended hidle.1).elim
  · intro hstopped
    rw [hidle.1] at hstopped
    cases hstopped
  · intro hnone hinbox
    have hstamps := ConfigurationWait.takeReady_stamps
      (x.wait.map (ConfigurationWait.assign generation configuration))
    have hsame : (x.wait.map (ConfigurationWait.assign generation configuration)).map
        Pending.stamp = x.wait.map Pending.stamp := by
      simp [Function.comp_def]
    rw [h.whole hnone hinbox, hready, List.append_nil, ← hsame, ← hstamps, stamps_append,
      List.append_assoc]
    rfl
  · intro input hmem
    rcases List.mem_append.mp hmem with htravelling | hnew
    · exact h.paired input (List.mem_append_left _ htravelling)
    · obtain ⟨entry, hentry, other, hother, rfl⟩ := ConfigurationWait.mem_takeReady hnew
      exact hassigned entry hentry other hother
  · intro entry hmem
    exact hassigned entry (ConfigurationWait.takeReady_rest_subset _ hmem)

theorem Coherent.resolve (h : Coherent x) (hidle : x.Idle) (now : Nat) :
    Coherent (x.resolve now) := by
  apply of_elim (fun _ => h)
  intro generation hgeneration
  apply of_elim (fun _ => h)
  intro configuration hconfiguration
  cases hresolve : ConfigurationWait.resolve x.wait generation configuration now with
  | error failure => exact h.abandon failure
  | ok result =>
      obtain rfl := ConfigurationWait.resolve_ok hresolve
      exact h.resolved hidle hgeneration hconfiguration

theorem Coherent.offer (h : Coherent x) (hrunning : x.producer = .running)
    (hsending : x.sending = none) (now : Nat) : Coherent (x.offer now) := by
  unfold PipelineRun.offer
  cases hready : x.ready with
  | nil => exact h
  | cons input ready =>
      have hcharged := h.charged
      have hpaired := h.paired
      simp only [live, hready, reservedBytes_cons, hsending, Option.toList_none,
        List.append_nil] at hcharged
      rw [hready] at hpaired
      dsimp only
      cases hoffer : offerAt x.failure input now with
      | error failure =>
          change Coherent { (x.setFailure failure).free input.reservation with ready := ready }
          refine { h.setFailure failure with
            charged := ?_, bounded := ?_, ended := ?_, whole := ?_, paired := ?_ }
          · simp only [live, free, PipelineRun.setFailure, hsending, Option.toList_none,
              List.append_nil]
            omega
          · exact (Nat.sub_le _ _).trans h.bounded
          · exact fun hended => (hended hrunning).elim
          · exact fun hnone => (setFailure_ne_none failure hnone).elim
          · intro other hmem
            apply hpaired other
            rcases List.mem_append.mp hmem with htravelling | hrest
            · exact List.mem_append_left _ htravelling
            · exact List.mem_append_right _ (List.mem_cons_of_mem _ hrest)
      | ok queued =>
          obtain ⟨hnone, hevent⟩ := offerAt_ok hoffer
          have hinputs : inputsOf [queued] = [input] := by
            simp [inputsOf, hevent, IngressEvent.input?]
          have htravelling : travelling { x with ready := ready, sending := some queued } =
              x.travelling ++ [input] := by
            simp [travelling, hsending, hinputs]
          change Coherent { x with ready := ready, sending := some queued }
          refine { h with
            charged := ?_, ended := ?_, whole := ?_, inFlight := ?_, paired := ?_ }
          · simp only [live, Option.toList_some, inputsOf_append, hinputs, reservedBytes_append,
              reservedBytes_cons, reservedBytes_nil]
            omega
          · exact fun hended => (hended hrunning).elim
          · intro _ hinbox
            rw [htravelling, h.whole hnone hinbox, hready, List.append_assoc]
            rfl
          · intro hattached
            have hinbox : x.inbox ≠ .dropped := by
              rw [show x.inbox = .attached from hattached]
              nofun
            rw [htravelling, h.whole hnone hinbox, hready]
            refine ⟨stamps ready ++ x.wait.map Pending.stamp, ?_⟩
            simp [stamps]
          · intro other hmem
            rw [htravelling, List.append_assoc] at hmem
            exact hpaired other hmem

theorem Coherent.reportGap (h : Coherent x) (hidle : x.Idle) (reason : GapReason)
    (source : Option SourceRange) (now : Nat) : Coherent (x.reportGap reason source now) := by
  have hsending : x.sending = none := Option.isNone_iff_eq_none.mp hidle.2.1
  apply of_elim
  · intro _
    -- A gap takes nothing from the budget and delivers no access unit.
    have hinputs : inputsOf (x.queue ++ [⟨.gap reason source, now⟩]) = inputsOf x.queue := by
      simp [inputsOf, IngressEvent.input?]
    have htravelling : travelling { x with sending := some ⟨.gap reason source, now⟩ } =
        x.travelling := by
      simp only [travelling, hsending, Option.toList_some, Option.toList_none, List.append_nil,
        hinputs]
    refine { h with charged := ?_, ended := ?_, whole := ?_, inFlight := ?_, paired := ?_ }
    · have hcharged := h.charged
      simp only [live, hsending, Option.toList_none, List.append_nil] at hcharged
      simp only [live, Option.toList_some, hinputs]
      exact hcharged
    · exact fun hended => (hended hidle.1).elim
    · rw [htravelling]
      exact h.whole
    · rw [htravelling]
      exact h.inFlight
    · rw [htravelling]
      exact h.paired
  · exact fun _ _ => h

theorem travelling_of_sending {queued : Queued} (h : x.sending = some queued) :
    x.travelling = admittedOf x.delivered ++ inputsOf x.queue ++ inputsOf [queued] := by
  simp [travelling, h]

theorem Coherent.refuse (h : Coherent x) {queued : Queued} (hsending : x.sending = some queued)
    (failure : IngressFailure) : Coherent (x.refuse queued failure) := by
  have htravelling : (x.refuse queued failure).travelling =
      admittedOf x.delivered ++ inputsOf x.queue := by
    simp [travelling, PipelineRun.refuse, free, PipelineRun.setFailure]
  refine { h.setFailure failure with
    charged := ?_, bounded := ?_, ended := ?_, whole := ?_, inFlight := ?_, paired := ?_ }
  · have hcharged := h.charged
    simp only [live, hsending, Option.toList_some, inputsOf_append,
      reservedBytes_append] at hcharged
    simp only [live, PipelineRun.refuse, free, PipelineRun.setFailure, Option.toList_none,
      List.append_nil]
    omega
  · exact (Nat.sub_le _ _).trans h.bounded
  · exact fun hended => ⟨rfl, (h.ended hended).2⟩
  · exact fun hnone => (setFailure_ne_none failure hnone).elim
  · intro hattached
    have hinFlight := h.inFlight hattached
    rw [travelling_of_sending hsending, stamps_append] at hinFlight
    change stamps (x.refuse queued failure).travelling <+: x.pushed
    rw [htravelling]
    exact (List.prefix_append _ _).trans hinFlight
  · intro input hmem
    change input ∈ (x.refuse queued failure).travelling ++ x.ready at hmem
    rw [htravelling] at hmem
    apply h.paired input
    rw [travelling_of_sending hsending]
    rcases List.mem_append.mp hmem with hleft | hready
    · exact List.mem_append_left _ (List.mem_append_left _ hleft)
    · exact List.mem_append_right _ hready

theorem Coherent.sent (h : Coherent x) {queued : Queued} (hsending : x.sending = some queued)
    (hattached : x.inbox = .attached) :
    Coherent { x with
      sending := none
      queue := x.queue ++ [queued]
      accepted := x.accepted ++ [queued.event] } := by
  have htravelling : travelling { x with
      sending := none
      queue := x.queue ++ [queued]
      accepted := x.accepted ++ [queued.event] } = x.travelling := by
    simp [travelling, hsending]
  refine { h with
    charged := ?_, detached := ?_, ended := ?_, accepted := ?_, closed := ?_, whole := ?_,
    inFlight := ?_, paired := ?_, spent := ?_ }
  · have hcharged := h.charged
    simp only [live, hsending, Option.toList_some] at hcharged
    simp only [live, Option.toList_none, List.append_nil]
    exact hcharged
  · exact fun hinbox => (hinbox hattached).elim
  · exact fun hended => ⟨rfl, (h.ended hended).2⟩
  · intro _
    rw [h.accepted hattached, List.map_append, ← List.append_assoc]
    rfl
  · intro hclosed
    rw [show x.inbox = .closed from hclosed] at hattached
    cases hattached
  · rw [htravelling]
    exact h.whole
  · rw [htravelling]
    exact h.inFlight
  · rw [htravelling]
    exact h.paired
  · exact fun hdrained hnone => ((h.spent hdrained hnone).1 hattached).elim

theorem Coherent.send (h : Coherent x) : Coherent x.send := by
  apply of_elim (fun _ => h)
  intro queued hsending
  by_cases hattached : x.inbox = .attached
  · rw [if_neg (not_not.mpr hattached)]
    split
    · exact h.refuse hsending .capacity
    · exact h.sent hsending hattached
  · rw [if_pos hattached]
    exact h.refuse hsending .workerStopped

theorem Coherent.leaves (h : Coherent x) (hidle : x.Idle) {producer : ProducerState}
    (hended : producer ≠ .running)
    (hwait : producer = .stopped → x.failure = none → x.wait = []) :
    Coherent { x with producer := producer } :=
  { h with
    ended := fun _ =>
      ⟨Option.isNone_iff_eq_none.mp hidle.2.1, List.isEmpty_iff.mp hidle.2.2⟩
    stopped := hwait
    closed := fun hclosed hnone => ⟨hended, (h.closed hclosed hnone).2⟩
    spent := fun hdrained hnone => ((h.spent hdrained hnone).2.1 hidle.1).elim }

theorem Coherent.stop (h : Coherent x) (hidle : x.Idle) : Coherent x.stop := by
  unfold PipelineRun.stop
  split
  · rename_i hwait
    exact h.leaves hidle nofun fun _ _ => hwait
  · exact (h.abandon .configurationUnavailable).leaves hidle nofun fun _ _ => rfl

/-! ### The worker -/

theorem Coherent.whole_drained (h : Coherent x) (hdropped : x.inbox ≠ .dropped)
    (hqueue : x.queue = []) (hnone : x.failure = none) (hstopped : x.producer = .stopped) :
    x.pushed = stamps (admittedOf x.delivered) := by
  have hended : x.producer ≠ .running := by
    rw [hstopped]
    nofun
  obtain ⟨hsending, hready⟩ := h.ended hended
  rw [h.whole hnone hdropped, h.stopped hstopped hnone, travelling, hqueue, hsending, hready]
  simp

theorem Coherent.polled (h : Coherent x) (failure : IngressFailure) :
    Coherent { x with lastPoll := some (.error failure) } :=
  { h with spent := nofun }

theorem Coherent.closeInbox (h : Coherent x) (hreceiving : x.receiving = none)
    (inbox : InboxState) (hinbox : inbox ≠ .attached)
    (hfailed : inbox = .closed → x.failure ≠ none) : Coherent (x.closeInbox inbox) := by
  refine { h with
    charged := ?_, bounded := ?_, detached := fun _ => rfl, receiving := ?_, accepted := ?_,
    closed := ?_, whole := ?_, inFlight := ?_, paired := ?_, spent := ?_ }
  · have hcharged := h.charged
    simp only [live, inputsOf_append, reservedBytes_append] at hcharged
    simp only [live, PipelineRun.closeInbox, free, List.nil_append]
    omega
  · exact (Nat.sub_le _ _).trans h.bounded
  · exact fun hsome => (hsome hreceiving).elim
  · exact fun hattached => (hinbox hattached).elim
  · exact fun hclosed hnone => (hfailed hclosed hnone).elim
  · intro hnone hdropped
    cases inbox with
    | attached => exact (hinbox rfl).elim
    | closed => exact (hfailed rfl hnone).elim
    | dropped => exact (hdropped rfl).elim
  · exact fun hattached => (hinbox hattached).elim
  · intro input hmem
    apply h.paired input
    rcases List.mem_append.mp hmem with htravelling | hready
    · apply List.mem_append_left
      rcases List.mem_append.mp htravelling with hdelivered | hsending
      · exact List.mem_append_left _ hdelivered
      · rw [travelling, inputsOf_append]
        exact List.mem_append_right _ (List.mem_append_right _ hsending)
    · exact List.mem_append_right _ hready
  · exact fun hdrained hnone => ⟨hinbox, (h.spent hdrained hnone).2⟩

theorem Coherent.poll (h : Coherent x) (hpolls : x.Polls) (now : Nat) :
    Coherent (x.poll now) := by
  apply of_elim
  · intro hnone
    split
    · rename_i hclosed
      have hattached : x.inbox ≠ .attached := by
        rw [hclosed]
        nofun
      have hdropped : x.inbox ≠ .dropped := by
        rw [hclosed]
        nofun
      refine { h with spent := fun _ _ => ⟨hattached, ?_⟩ }
      obtain ⟨hended, hdelivered⟩ := h.closed hclosed hnone
      refine ⟨hended, hdelivered, fun hstopped => ?_⟩
      exact h.whole_drained hdropped (h.detached hattached) hnone hstopped
    · rename_i hclosed
      refine { h with receiving := fun _ => ?_ }
      cases hinbox : x.inbox with
      | attached => rfl
      | closed => exact (hclosed hinbox).elim
      | dropped => exact (hpolls.1 hinbox).elim
  · intro failure hsome
    have hfailed : x.failure ≠ none := by
      rw [hsome]
      nofun
    exact (h.closeInbox hpolls.2 .closed nofun fun _ => hfailed).polled failure

/-- What the rest of a poll comes to. -/
inductive Received (x : PipelineRun) : PipelineRun → Prop where
  | idle (hqueue : x.queue = []) (hrunning : x.producer = .running) :
      Received x { x with receiving := none, lastPoll := some (.ok .idle) }
  | drained (hqueue : x.queue = []) (hended : x.producer ≠ .running) :
      Received x { x with receiving := none, inbox := .closed, lastPoll := some (.ok .drained) }
  | delivered (queued : Queued) (queue : List Queued) (hqueue : x.queue = queued :: queue)
      (hnone : x.failure = none) :
      Received x { x with
        receiving := none
        queue := queue
        held := x.held ++ inputsOf [queued]
        delivered := x.delivered ++ [queued.event]
        lastPoll := some (.ok (outcomeOf queued.event)) }
  | failed (y : PipelineRun) (failure : IngressFailure) (hqueue : x.queue ≠ [])
      (hchecked : y = x ∨ y = x.setFailure .tooOld) (hfailure : y.failure = some failure) :
      Received x { y.closeInbox .closed with
        receiving := none
        lastPoll := some (.error failure) }

theorem received (x : PipelineRun) (now : Nat) : Received x (x.receive now) := by
  unfold PipelineRun.receive
  split
  · rename_i hqueue
    split
    · exact .idle hqueue ‹_›
    · exact .drained hqueue ‹_›
  · rename_i queued queue hqueue
    dsimp only
    have hchecked : (if expired queued now then x.setFailure .tooOld else x) = x ∨
        (if expired queued now then x.setFailure .tooOld else x) = x.setFailure .tooOld := by
      split
      · exact Or.inr rfl
      · exact Or.inl rfl
    generalize (if expired queued now then x.setFailure .tooOld else x) = y at hchecked ⊢
    rcases Option.eq_none_or_eq_some y.failure with hnone | ⟨failure, hsome⟩
    · rw [hnone, Option.elim_none]
      rcases hchecked with rfl | rfl
      · exact .delivered queued queue hqueue hnone
      · exact (setFailure_ne_none _ hnone).elim
    · rw [hsome, Option.elim_some]
      refine .failed y failure ?_ hchecked hsome
      rw [hqueue]
      nofun

theorem Coherent.receive (h : Coherent x) (hreceiving : x.receiving ≠ none) (now : Nat) :
    Coherent (x.receive now) := by
  have hattached := h.receiving hreceiving
  have hdropped : x.inbox ≠ .dropped := by
    rw [hattached]
    nofun
  have hreceived := received x now
  generalize x.receive now = z at hreceived ⊢
  cases hreceived with
  | idle hqueue hrunning =>
      exact { h with receiving := fun hsome => (hsome rfl).elim, spent := nofun }
  | drained hqueue hended =>
      have haccepted := h.accepted hattached
      rw [hqueue, List.map_nil, List.append_nil] at haccepted
      refine { h with
        detached := fun _ => hqueue
        receiving := fun hsome => (hsome rfl).elim
        accepted := nofun
        closed := fun _ _ => ⟨hended, haccepted.symm⟩
        whole := fun hnone _ => h.whole hnone hdropped
        inFlight := nofun
        spent := fun _ hnone => ⟨nofun, hended, haccepted.symm, ?_⟩ }
      exact h.whole_drained hdropped hqueue hnone
  | delivered queued queue hqueue hnone =>
      -- The input moves from the channel to the worker.
      have hinputs : inputsOf x.queue = inputsOf [queued] ++ inputsOf queue := by
        rw [hqueue]
        exact inputsOf_cons queued queue
      have htravelling : travelling { x with
          receiving := none
          queue := queue
          held := x.held ++ inputsOf [queued]
          delivered := x.delivered ++ [queued.event]
          lastPoll := some (.ok (outcomeOf queued.event)) } = x.travelling := by
        simp only [travelling, inputsOf_append, hinputs, admittedOf_append, admittedOf_event,
          List.append_assoc]
      have hinFlight := h.inFlight hattached
      refine { h with
        charged := ?_, detached := ?_, receiving := fun hsome => (hsome rfl).elim
        accepted := ?_, closed := ?_, whole := ?_, inFlight := ?_, inOrder := ?_, paired := ?_
        spent := ?_ }
      · have hcharged := h.charged
        simp only [live, inputsOf_append, hinputs, reservedBytes_append] at hcharged ⊢
        omega
      · exact fun hinbox => (hinbox hattached).elim
      · intro _
        rw [h.accepted hattached, hqueue, List.map_cons, List.append_assoc]
        rfl
      · intro hclosed
        rw [show x.inbox = .closed from hclosed] at hattached
        cases hattached
      · rw [htravelling]
        exact h.whole
      · rw [htravelling]
        exact h.inFlight
      · rw [travelling, inputsOf_append, hinputs, ← admittedOf_event, ← List.append_assoc,
          ← List.append_assoc, ← admittedOf_append, List.append_assoc, stamps_append] at hinFlight
        exact (List.prefix_append _ _).trans hinFlight
      · rw [htravelling]
        exact h.paired
      · intro hdrained
        cases hevent : queued.event <;> simp [hevent, outcomeOf] at hdrained
  | failed y failure _ hchecked hfailure =>
      have hy : Coherent { y with receiving := none } := by
        have hcoherent : Coherent y := by
          rcases hchecked with rfl | rfl
          · exact h
          · exact h.setFailure .tooOld
        exact { hcoherent with receiving := fun hsome => (hsome rfl).elim }
      have hfailed : y.failure ≠ none := by
        rw [hfailure]
        nofun
      exact (hy.closeInbox rfl .closed nofun fun _ => hfailed).polled failure

theorem Coherent.release (h : Coherent x) (index : Nat) : Coherent (x.release index) := by
  apply of_elim (fun _ => h)
  intro input hinput
  refine { h with charged := ?_, bounded := (Nat.sub_le _ _).trans h.bounded }
  have hcharged := h.charged
  have hheld := reservedBytes_eraseIdx hinput
  simp only [live] at hcharged
  simp only [live, free]
  omega

/-! ### Other recordings -/

theorem Coherent.reserveElsewhere (h : Coherent x) (payloadBytes : Nat) :
    Coherent (x.reserveElsewhere payloadBytes) := by
  apply of_elim (fun _ => h)
  intro used hreserved
  obtain ⟨hused, hbounded⟩ := reserve_ok (ok_of_toOption hreserved)
  refine { h with charged := ?_, bounded := hbounded }
  have hcharged := h.charged
  simp only [live, List.sum_cons] at hcharged ⊢
  omega

theorem Coherent.releaseElsewhere (h : Coherent x) (index : Nat) :
    Coherent (x.releaseElsewhere index) := by
  apply of_elim (fun _ => h)
  intro bytes hbytes
  refine { h with charged := ?_, bounded := (Nat.sub_le _ _).trans h.bounded }
  have hcharged := h.charged
  have hforeign := sum_eraseIdx hbytes
  simp only [live] at hcharged
  simp only [live, free]
  omega

/-! ## Runs -/

theorem Coherent.step (h : Coherent x) (step : PipelineStep) : Coherent (x.step step) := by
  cases step with
  | hello generation =>
      exact of_guard (fun hnone => h.hello generation (Option.isNone_iff_eq_none.mp hnone)) h
  | configure configuration => exact h.configure configuration
  | reset => exact h.reset
  | push accessUnit now => exact of_guard (fun hidle => h.push hidle accessUnit now) h
  | resolve now => exact of_guard (fun hidle => h.resolve hidle now) h
  | offer now =>
      exact of_guard
        (fun hready => h.offer hready.1 (Option.isNone_iff_eq_none.mp hready.2) now) h
  | reportGap reason source now =>
      exact of_guard (fun hidle => h.reportGap hidle reason source now) h
  | send => exact h.send
  | terminate failure => exact of_guard (fun _ => h.setFailure failure) h
  | stop => exact of_guard (fun hidle => h.stop hidle) h
  | dropProducer => exact of_guard (fun hidle => h.leaves hidle nofun nofun) h
  | poll now => exact of_guard (fun hpolls => h.poll hpolls now) h
  | receive =>
      apply of_elim (fun _ => h)
      intro now hreceiving
      apply h.receive
      rw [hreceiving]
      nofun
  | dropInbox =>
      exact of_guard (fun hpolls => h.closeInbox hpolls.2 .dropped nofun nofun) h
  | release index => exact h.release index
  | reserveElsewhere payloadBytes => exact h.reserveElsewhere payloadBytes
  | releaseElsewhere index => exact h.releaseElsewhere index

/-- What a step keeps of a run whose failure is set. -/
structure Final (failure : IngressFailure) (x y : PipelineRun) : Prop where
  failure : y.failure = some failure
  delivered : y.delivered = x.delivered
  sending : y.sending = x.sending ∨ y.sending = none

section Final

variable {failure : IngressFailure}

theorem setFailure_of_some (h : x.failure = some failure) (other : IngressFailure) :
    (x.setFailure other).failure = some failure := by
  simp [PipelineRun.setFailure, h]

theorem Final.same (h : x.failure = some failure) : Final failure x x := ⟨h, rfl, Or.inl rfl⟩

theorem Final.abandon (h : x.failure = some failure) (other : IngressFailure) :
    Final failure x (x.abandon other) := ⟨setFailure_of_some h other, rfl, Or.inl rfl⟩

theorem Final.push (h : x.failure = some failure) (accessUnit : AssembledAccessUnit) (now : Nat) :
    Final failure x (x.push accessUnit now) := by
  apply of_elim (fun _ => Final.same h)
  intro generation _
  apply of_elim (fun _ => Final.same h)
  intro configuration _
  cases ConfigurationWait.push x.wait x.used generation accessUnit configuration now with
  | error other => exact Final.abandon h other
  | ok result => exact ⟨h, rfl, Or.inl rfl⟩

theorem Final.resolve (h : x.failure = some failure) (now : Nat) :
    Final failure x (x.resolve now) := by
  apply of_elim (fun _ => Final.same h)
  intro generation _
  apply of_elim (fun _ => Final.same h)
  intro configuration _
  cases ConfigurationWait.resolve x.wait generation configuration now with
  | error other => exact Final.abandon h other
  | ok result => exact ⟨h, rfl, Or.inl rfl⟩

theorem offerAt_of_some (h : x.failure = some failure) (input : ReservedInput) (now : Nat) :
    offerAt x.failure input now = .error failure := by
  rw [h]
  rfl

theorem Final.offer (h : x.failure = some failure) (now : Nat) :
    Final failure x (x.offer now) := by
  unfold PipelineRun.offer
  split
  · exact Final.same h
  · rename_i input ready _
    rw [offerAt_of_some h input now]
    exact ⟨setFailure_of_some h failure, rfl, Or.inl rfl⟩

theorem Final.send (h : x.failure = some failure) : Final failure x x.send := by
  apply of_elim (fun _ => Final.same h)
  intro queued _
  split
  · exact ⟨setFailure_of_some h .workerStopped, rfl, Or.inr rfl⟩
  · split
    · exact ⟨setFailure_of_some h .capacity, rfl, Or.inr rfl⟩
    · exact ⟨h, rfl, Or.inr rfl⟩

theorem Final.stop (h : x.failure = some failure) : Final failure x x.stop := by
  unfold PipelineRun.stop
  split
  · exact ⟨h, rfl, Or.inl rfl⟩
  · exact ⟨setFailure_of_some h .configurationUnavailable, rfl, Or.inl rfl⟩

theorem poll_of_some (h : x.failure = some failure) (now : Nat) :
    x.poll now = { x.closeInbox .closed with lastPoll := some (.error failure) } := by
  unfold PipelineRun.poll
  rw [h]
  rfl

theorem Final.receive (h : x.failure = some failure) (now : Nat) :
    Final failure x (x.receive now) := by
  have hreceived := received x now
  generalize x.receive now = z at hreceived ⊢
  cases hreceived with
  | idle => exact ⟨h, rfl, Or.inl rfl⟩
  | drained => exact ⟨h, rfl, Or.inl rfl⟩
  | delivered queued queue hqueue hnone =>
      rw [h] at hnone
      cases hnone
  | failed y other _ hchecked =>
      rcases hchecked with rfl | rfl
      · exact ⟨h, rfl, Or.inl rfl⟩
      · exact ⟨setFailure_of_some h .tooOld, rfl, Or.inl rfl⟩

theorem Final.step (h : x.failure = some failure) (step : PipelineStep) :
    Final failure x (x.step step) := by
  have hsame := Final.same h
  cases step with
  | hello generation => exact of_guard (fun _ => ⟨h, rfl, Or.inl rfl⟩) hsame
  | configure configuration =>
      exact of_elim (fun _ => hsame) fun _ _ => ⟨h, rfl, Or.inl rfl⟩
  | reset => exact ⟨h, rfl, Or.inl rfl⟩
  | push accessUnit now => exact of_guard (fun _ => Final.push h accessUnit now) hsame
  | resolve now => exact of_guard (fun _ => Final.resolve h now) hsame
  | offer now => exact of_guard (fun _ => Final.offer h now) hsame
  | reportGap reason source now =>
      apply of_guard _ hsame
      intro _
      unfold PipelineRun.reportGap
      rw [h]
      exact hsame
  | send => exact Final.send h
  | terminate other =>
      exact of_guard (fun _ => ⟨setFailure_of_some h other, rfl, Or.inl rfl⟩) hsame
  | stop => exact of_guard (fun _ => Final.stop h) hsame
  | dropProducer => exact of_guard (fun _ => ⟨h, rfl, Or.inl rfl⟩) hsame
  | poll now =>
      apply of_guard _ hsame
      intro _
      rw [poll_of_some h]
      exact ⟨h, rfl, Or.inl rfl⟩
  | receive => exact of_elim (fun _ => hsame) fun now _ => Final.receive h now
  | dropInbox => exact of_guard (fun _ => ⟨h, rfl, Or.inl rfl⟩) hsame
  | release index => exact of_elim (fun _ => hsame) fun _ _ => ⟨h, rfl, Or.inl rfl⟩
  | reserveElsewhere payloadBytes =>
      change Final failure x (x.reserveElsewhere payloadBytes)
      exact of_elim (fun _ => hsame) fun _ _ => ⟨h, rfl, Or.inl rfl⟩
  | releaseElsewhere index => exact of_elim (fun _ => hsame) fun _ _ => ⟨h, rfl, Or.inl rfl⟩

end Final

theorem failureFinal (x : PipelineRun) (step : PipelineStep) : FailureFinal x step where
  sticky := fun _ h => (Final.step h step).failure
  silent := fun _ h => (Final.step h step).delivered
  refused := fun _ h => ⟨offerAt_of_some h, (Final.step h step).sending⟩
  polled := by
    intro failure now h hpolls
    have hstep : x.step (.poll now) = x.poll now := if_pos hpolls
    rw [hstep, poll_of_some h]

/-! ## The two reads of a poll -/

/-- A poll that finds the channel empty behind its producer has no failure beside it. -/
def Spares (x : PipelineRun) (step : PipelineStep) : Prop :=
  step = .receive → x.receiving ≠ none → x.queue = [] → x.producer ≠ .running → x.failure = none

/-- A drain is not the end of a failed recording. -/
def DrainsSound (x : PipelineRun) : Prop :=
  x.lastPoll = some (.ok .drained) → x.failure = none

theorem Coherent.sound_iff (h : Coherent x) : PipelineSound x ↔ DrainsSound x := by
  constructor
  · exact fun hsound hdrained => (hsound.drained hdrained).2.1
  · intro hdrains
    refine ⟨h.inOrder, ?_, h.charged, h.bounded, ?_⟩
    · intro input hmem
      exact h.paired input (List.mem_append_left _ (List.mem_append_left _ hmem))
    · intro hdrained
      have hnone := hdrains hdrained
      obtain ⟨_, hended, hdelivered, hpushed⟩ := h.spent hdrained hnone
      exact ⟨hended, hnone, hdelivered, hpushed⟩

/-- A step that is no poll leaves what the last one returned. -/
def SamePoll (x y : PipelineRun) : Prop := y.lastPoll = x.lastPoll

theorem SamePoll.push (accessUnit : AssembledAccessUnit) (now : Nat) :
    SamePoll x (x.push accessUnit now) := by
  have hsame : SamePoll x x := rfl
  apply of_elim (fun _ => hsame)
  intro generation _
  apply of_elim (fun _ => hsame)
  intro configuration _
  cases ConfigurationWait.push x.wait x.used generation accessUnit configuration now <;> rfl

theorem SamePoll.resolve (now : Nat) : SamePoll x (x.resolve now) := by
  have hsame : SamePoll x x := rfl
  apply of_elim (fun _ => hsame)
  intro generation _
  apply of_elim (fun _ => hsame)
  intro configuration _
  cases ConfigurationWait.resolve x.wait generation configuration now <;> rfl

theorem SamePoll.offer (now : Nat) : SamePoll x (x.offer now) := by
  unfold PipelineRun.offer
  split
  · rfl
  · split <;> rfl

theorem SamePoll.send : SamePoll x x.send := by
  have hsame : SamePoll x x := rfl
  apply of_elim (fun _ => hsame)
  intro queued _
  split
  · rfl
  · split <;> rfl

theorem SamePoll.stop : SamePoll x x.stop := by
  unfold PipelineRun.stop
  split <;> rfl

theorem SamePoll.step {step : PipelineStep} (hpoll : ∀ now, step ≠ .poll now)
    (hreceive : step ≠ .receive) : SamePoll x (x.step step) := by
  have hsame : SamePoll x x := rfl
  cases step with
  | poll now => exact (hpoll now rfl).elim
  | receive => exact (hreceive rfl).elim
  | hello generation => exact of_guard (fun _ => rfl) hsame
  | configure configuration => exact of_elim (fun _ => hsame) fun _ _ => rfl
  | reset => rfl
  | push accessUnit now => exact of_guard (fun _ => SamePoll.push accessUnit now) hsame
  | resolve now => exact of_guard (fun _ => SamePoll.resolve now) hsame
  | offer now => exact of_guard (fun _ => SamePoll.offer now) hsame
  | reportGap reason source now =>
      exact of_guard (fun _ => of_elim (fun _ => rfl) fun _ _ => hsame) hsame
  | send => exact SamePoll.send
  | terminate failure => exact of_guard (fun _ => rfl) hsame
  | stop => exact of_guard (fun _ => SamePoll.stop) hsame
  | dropProducer => exact of_guard (fun _ => rfl) hsame
  | dropInbox => exact of_guard (fun _ => rfl) hsame
  | release index => exact of_elim (fun _ => hsame) fun _ _ => rfl
  | reserveElsewhere payloadBytes =>
      change SamePoll x (x.reserveElsewhere payloadBytes)
      exact of_elim (fun _ => hsame) fun _ _ => rfl
  | releaseElsewhere index => exact of_elim (fun _ => hsame) fun _ _ => rfl

def SameFailure (x y : PipelineRun) : Prop := y.failure = x.failure

theorem Coherent.failure_of_ended (h : Coherent x) (hended : x.producer ≠ .running)
    (hreceiving : x.receiving = none) (step : PipelineStep) : SameFailure x (x.step step) := by
  have hsame : SameFailure x x := rfl
  have hstill : ∀ y, SameFailure x (if x.Idle then y else x) := fun _ =>
    of_guard (fun hidle => (hended hidle.1).elim) hsame
  cases step with
  | hello generation => exact of_guard (fun _ => rfl) hsame
  | configure configuration => exact of_elim (fun _ => hsame) fun _ _ => rfl
  | reset => rfl
  | push accessUnit now => exact hstill _
  | resolve now => exact hstill _
  | offer now => exact of_guard (fun hready => (hended hready.1).elim) hsame
  | reportGap reason source now => exact hstill _
  | send =>
      apply of_elim (fun _ => hsame)
      intro queued hsome
      rw [(h.ended hended).1] at hsome
      cases hsome
  | terminate failure => exact hstill _
  | stop => exact hstill _
  | dropProducer => exact hstill _
  | poll now =>
      apply of_guard _ hsame
      intro _
      exact of_elim (fun _ => of_guard (fun _ => rfl) rfl) fun _ _ => rfl
  | receive =>
      apply of_elim (fun _ => hsame)
      intro now hsome
      rw [hreceiving] at hsome
      cases hsome
  | dropInbox => exact of_guard (fun _ => rfl) hsame
  | release index => exact of_elim (fun _ => hsame) fun _ _ => rfl
  | reserveElsewhere payloadBytes =>
      change SameFailure x (x.reserveElsewhere payloadBytes)
      exact of_elim (fun _ => hsame) fun _ _ => rfl
  | releaseElsewhere index => exact of_elim (fun _ => hsame) fun _ _ => rfl

theorem DrainsSound.poll (h : DrainsSound x) (now : Nat) : DrainsSound (x.poll now) := by
  apply of_elim
  · intro hnone
    exact of_guard (fun _ _ => hnone) h
  · exact fun _ _ => nofun

theorem drainsSound_receive_iff (hreceiving : x.receiving ≠ none) (now : Nat) :
    DrainsSound (x.receive now) ↔ Spares x .receive := by
  have hreceived := received x now
  generalize x.receive now = z at hreceived ⊢
  cases hreceived with
  | idle hqueue hrunning =>
      exact iff_of_true nofun fun _ _ _ hended => (hended hrunning).elim
  | drained hqueue hended =>
      exact ⟨fun hdrains _ _ _ _ => hdrains rfl, fun hspares _ => hspares rfl hreceiving hqueue hended⟩
  | delivered queued queue hqueue hnone =>
      exact iff_of_true (fun _ => hnone) fun _ _ _ _ => hnone
  | failed y failure hqueue =>
      exact iff_of_true nofun fun _ _ hempty => (hqueue hempty).elim

theorem Coherent.drainsSound_step_iff (h : Coherent x) (hdrains : DrainsSound x)
    (step : PipelineStep) : DrainsSound (x.step step) ↔ Spares x step := by
  by_cases hreceive : step = .receive
  · subst hreceive
    rcases Option.eq_none_or_eq_some x.receiving with hnone | ⟨now, hsome⟩
    · have hsame : x.step .receive = x := by
        change (x.receiving.elim x fun now => x.receive now) = x
        rw [hnone]
        rfl
      rw [hsame]
      exact iff_of_true hdrains fun _ hreceiving => (hreceiving hnone).elim
    · have hstep : x.step .receive = x.receive now := by
        change (x.receiving.elim x fun now => x.receive now) = x.receive now
        rw [hsome]
        rfl
      have hreceiving : x.receiving ≠ none := by
        rw [hsome]
        nofun
      rw [hstep]
      exact drainsSound_receive_iff hreceiving now
  · refine iff_of_true ?_ fun hstep => (hreceive hstep).elim
    by_cases hpoll : ∃ now, step = .poll now
    · obtain ⟨now, rfl⟩ := hpoll
      exact of_guard (fun _ => hdrains.poll now) hdrains
    · intro hdrained
      have hpolled := SamePoll.step (x := x) (fun now hnow => hpoll ⟨now, hnow⟩) hreceive
      have hnone := hdrains (hpolled.symm.trans hdrained)
      obtain ⟨hinbox, hended, _⟩ := h.spent (hpolled.symm.trans hdrained) hnone
      -- No poll is half done behind a drain.
      have hreceiving : x.receiving = none := by
        by_contra hsome
        exact hinbox (h.receiving hsome)
      exact (h.failure_of_ended hended hreceiving step).trans hnone

/-- In every run the inbox delivers what it claims and a failure is final, exactly when no
failure comes between the two reads of a poll that finds the recording drained. -/
theorem ingress_sound_iff (steps : List PipelineStep) :
    HoldsThroughout (fun x => PipelineSound x ∧ ∀ step, FailureFinal x step) step start steps ↔
      MeetsAll Spares step start steps := by
  refine holdsThroughout_iff (fun x step (h : Coherent x) _ => h.step step) ?_ coherent_start ?_
    (meetsAll_true _ _ _)
  · intro x step h _ hsound
    have hdrains := h.sound_iff.mp hsound.1
    have hfinal : ∀ other, FailureFinal (x.step step) other := failureFinal _
    rw [and_iff_left hfinal, (h.step step).sound_iff]
    exact h.drainsSound_step_iff hdrains step
  · exact ⟨coherent_start.sound_iff.mpr nofun, failureFinal _⟩

def sampleStream (streamEpoch : Nat) : StreamConfig where
  codec := 1
  profile := 66
  levelIdc := 31
  width := 1280
  height := 720
  fps := 30
  bitrate := 4000000
  rotation := 0
  mirrored := false
  colorRange := 1
  codecConfiguration := [1, 66, 0, 31]
  streamEpoch := streamEpoch

def sampleUnit (streamEpoch frameId : Nat) : AssembledAccessUnit where
  data := [0, 0, 0, 1, 101]
  frameId := frameId
  ptsUs := frameId * 33333
  encodedAtUs := frameId * 33333
  keyframe := true
  discardable := false
  streamEpoch := streamEpoch
  fragmentCount := 1
  firstFragmentAt := 0

/-- The recording is stopped between the two reads of a poll, while an access unit waits for the
configuration of its epoch. -/
def stoppedMidPoll : List PipelineStep :=
  [.hello 1, .configure (sampleStream 1), .push (sampleUnit 2 5) 0, .poll 0, .stop, .receive]

theorem stopped_mid_poll_drains :
    (stoppedMidPoll.foldl step start).failure = some .configurationUnavailable ∧
      (stoppedMidPoll.foldl step start).lastPoll = some (.ok .drained) ∧
      ¬HoldsThroughout (fun x => PipelineSound x ∧ ∀ step, FailureFinal x step) step start
        stoppedMidPoll := by
  have hfailure : (stoppedMidPoll.foldl step start).failure = some .configurationUnavailable := rfl
  have hdrained : (stoppedMidPoll.foldl step start).lastPoll = some (.ok .drained) := rfl
  refine ⟨hfailure, hdrained, fun hall => ?_⟩
  have hnone := (hall.last.1.drained hdrained).2.1
  rw [hfailure] at hnone
  cases hnone

end PipelineRun

end PicooCamera.Recording
