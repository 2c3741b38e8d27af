import PicooCamera.Jitter.QueueTimers
import PicooCamera.Receiver.PublishedPictures

/-!
# Draining the playout queue

Each turn of `drain_jitter` that goes on removes an access unit from the queue.
Where the loop ends by waiting, the decision at that instant is the wait itself,
so that the owner is not woken at once for the sake of the queue.
-/

namespace PicooCamera.Receiver

open PicooCamera.Library PicooCamera.Packet PicooCamera.Jitter PicooCamera.Session
open PicooCamera.Protocol PicooCamera.Transport Program

namespace MediaScheduleDecision

/-- Timer contribution for the owner loop. -/
def wakeDelay : MediaScheduleDecision → Option Duration
  | .decodeReadyFrame => some 0
  | .discardReadyFrame => some 0
  | .discardRecoveryBlockedFrame => some 0
  | .discardExpired => some 0
  | .waitUntil delay _ => some delay
  | .waitForEvent _ => none
  | .idle => none

/-- The decision is acted upon at once. -/
def immediate : MediaScheduleDecision → Bool
  | .decodeReadyFrame => true
  | .discardReadyFrame => true
  | .discardRecoveryBlockedFrame => true
  | .discardExpired => true
  | .waitUntil _ _ => false
  | .waitForEvent _ => false
  | .idle => false

end MediaScheduleDecision

theorem waitFor_ne_zero {expiration : Option Duration} {reason : MediaWaitReason}
    (h : expiration ≠ some 0) : (waitFor expiration reason).wakeDelay ≠ some 0 := by
  cases expiration with
  | none => nofun
  | some delay => exact h

theorem waitFor_not_immediate (expiration : Option Duration) (reason : MediaWaitReason) :
    (waitFor expiration reason).immediate = false := by
  cases expiration <;> rfl

theorem wakeDelay_scheduleMedia (input : MediaScheduleInput)
    (h : (scheduleMedia input).immediate = false) : (scheduleMedia input).wakeDelay ≠ some 0 := by
  unfold scheduleMedia at h ⊢
  cases hfront : input.frontFrameId with
  | none => nofun
  | some candidate =>
      simp only [hfront] at h ⊢
      by_cases hexpired : input.expirationDelay = some 0
      · rw [if_pos hexpired] at h
        cases h
      rw [if_neg hexpired] at h ⊢
      split at h <;> rename_i hblocked
      · rw [if_pos hblocked]
        exact waitFor_ne_zero hexpired
      rw [if_neg hblocked]
      cases hrelease : input.releaseDelay with
      | none =>
          cases hexpiration : input.expirationDelay with
          | none => nofun
          | some delay =>
              rw [hexpiration] at hexpired
              exact hexpired
      | some release =>
          simp only [hrelease] at h ⊢
          split at h <;> rename_i hearlier
          · rw [if_pos hearlier]
            exact waitFor_ne_zero hexpired
          rw [if_neg hearlier]
          by_cases hzero : release = 0
          · rw [if_pos hzero] at h ⊢
            unfold scheduleReleased at h ⊢
            cases hrecovery : input.recoveryAdmission with
            | drop =>
                simp only [hrecovery] at h
                cases h
            | waitForRefresh => exact waitFor_ne_zero hexpired
            | ready =>
                simp only [hrecovery] at h ⊢
                cases hdecoder : input.decoderAdmission with
                | ready =>
                    simp only [hdecoder] at h
                    cases h
                | dropDiscardable =>
                    simp only [hdecoder] at h
                    cases h
                | waitForCapacity => exact waitFor_ne_zero hexpired
          · rw [if_neg hzero]
            intro hwake
            exact hzero (Option.some.inj hwake)

theorem scheduleMedia_expired {input : MediaScheduleInput} (hfront : input.frontFrameId ≠ none)
    (h : input.expirationDelay = some 0) : scheduleMedia input = .discardExpired := by
  unfold scheduleMedia
  cases hcandidate : input.frontFrameId with
  | none => exact absurd hcandidate hfront
  | some candidate => exact if_pos h

/-- The playout target of the front is reached, and nothing older is missing. -/
structure MediaScheduleInput.Released (input : MediaScheduleInput) (candidate : Nat) : Prop where
  front : input.frontFrameId = some candidate
  unexpired : input.expirationDelay ≠ some 0
  unblocked : ¬∃ unresolved ∈ input.oldestUnresolvedFrameId, unresolved < candidate
  released : input.releaseDelay = some 0

theorem scheduleMedia_released {input : MediaScheduleInput} {candidate : Nat}
    (h : input.Released candidate) : scheduleMedia input = scheduleReleased input := by
  unfold scheduleMedia
  simp only [h.front, h.released]
  rw [if_neg h.unexpired, if_neg h.unblocked, if_neg, if_pos trivial]
  rintro ⟨delay, -, hlt⟩
  exact Nat.not_lt_zero delay hlt

theorem scheduleMedia_immediate {input : MediaScheduleInput}
    (h : (scheduleMedia input).immediate = true) :
    (input.expirationDelay = some 0 ∧ scheduleMedia input = .discardExpired) ∨
      ∃ candidate, input.Released candidate := by
  unfold scheduleMedia at h ⊢
  cases hfront : input.frontFrameId with
  | none =>
      rw [hfront] at h
      cases h
  | some candidate =>
      simp only [hfront] at h ⊢
      by_cases hexpired : input.expirationDelay = some 0
      · exact Or.inl ⟨hexpired, if_pos hexpired⟩
      rw [if_neg hexpired] at h
      split at h <;> rename_i hblocked
      · rw [waitFor_not_immediate] at h
        cases h
      cases hrelease : input.releaseDelay with
      | none =>
          rw [hrelease] at h
          cases hexpiration : input.expirationDelay <;> rw [hexpiration] at h <;> cases h
      | some release =>
          simp only [hrelease] at h
          split at h
          · rw [waitFor_not_immediate] at h
            cases h
          by_cases hzero : release = 0
          · rw [hzero] at hrelease
            exact Or.inr ⟨candidate, hfront, hexpired, hblocked, hrelease⟩
          · rw [if_neg hzero] at h
            cases h

theorem scheduleReleased_ne_discardExpired (input : MediaScheduleInput) :
    scheduleReleased input ≠ .discardExpired := by
  unfold scheduleReleased waitFor
  cases input.recoveryAdmission <;> cases input.decoderAdmission <;>
    cases input.expirationDelay <;> nofun

theorem rings_of_discardExpired {input : MediaScheduleInput}
    (h : scheduleMedia input = .discardExpired) : input.expirationDelay = some 0 := by
  rcases scheduleMedia_immediate (by rw [h]; rfl) with ⟨hrings, -⟩ | ⟨candidate, hreleased⟩
  · exact hrings
  · rw [scheduleMedia_released hreleased] at h
    exact absurd h (scheduleReleased_ne_discardExpired input)

theorem released_of_immediate {input : MediaScheduleInput}
    (h : (scheduleMedia input).immediate = true) (hdecision : scheduleMedia input ≠ .discardExpired) :
    input.expirationDelay ≠ some 0 ∧ input.releaseDelay = some 0 := by
  rcases scheduleMedia_immediate h with ⟨-, hexpired⟩ | ⟨candidate, hreleased⟩
  · exact absurd hexpired hdecision
  · exact ⟨hreleased.unexpired, hreleased.released⟩

/-! ## The decision in a world that stands still -/

/-- When the next keyframe may be asked for. -/
def DecoderRecovery.nextRequestAt (r : DecoderRecovery) (now : Instant) : Option Instant :=
  if r.isAwaitingRefresh then
    some (match r.lastRequestAt with
      | none => now
      | some last => last + keyframeRequestMinInterval)
  else none

namespace OwnerState

/-- The connection generation of the media, as `media_connection_generation` reads it. -/
def mediaGeneration (o : OwnerState) : Nat :=
  match o.session.control.controlGeneration with
  | some generation => generation
  | none => (o.world.worker.activeSession.map SessionId.value).getD 0

/-- What the decision is made from, given the admissions. -/
def scheduleInput (o : OwnerState) (nowUs maxQueueAgeUs : Nat) (recovery : RecoveryAdmission)
    (decoder : DecoderAdmission) : MediaScheduleInput where
  frontFrameId := o.session.media.jitter.frontFrameId
  oldestUnresolvedFrameId := o.session.media.reassembly.oldestUnresolvedFrameId
  releaseDelay := o.session.media.jitter.nextReleaseDelayUs nowUs
  expirationDelay := o.session.media.jitter.nextExpirationDelayUs nowUs maxQueueAgeUs
  recoveryAdmission := recovery
  decoderAdmission := decoder

def recoveryAdmission (o : OwnerState) (generation : Nat) : RecoveryAdmission :=
  match o.session.media.jitter.frontFrameDescriptor with
  | none => .ready
  | some frame => o.session.media.decoderRecovery.admission generation frame

def decoderAdmission (o : OwnerState) (w : World) : DecoderAdmission :=
  match o.session.media.jitter.frontFrameDescriptor with
  | none => .ready
  | some frame =>
      w.decoder.queue.admission (FrameKind.ofFlags frame.keyframe frame.discardable)

/-- `media_schedule_decision` at one instant. -/
def decisionAt (o : OwnerState) (nowUs maxQueueAgeUs : Nat) : MediaScheduleDecision :=
  scheduleMedia (o.scheduleInput nowUs maxQueueAgeUs (o.recoveryAdmission o.mediaGeneration)
    (o.decoderAdmission o.world))

/-- The deadlines of `next_wake_delay` that are none of the queue's: those of the report of
statistics and of the clock synchronisation are given. -/
def otherDeadlines (o : OwnerState) (now : Instant) (stats sync : Option Instant) :
    List Instant :=
  [o.session.pendingPairing.map PendingPairing.expiresAt,
    o.session.media.reassembly.nextExpirationAt o.world.mediaDeadline, o.session.placeholderAfter,
    stats, sync, o.session.media.decoderRecovery.nextRequestAt now].reduceOption

/-- What the owner may have to be woken for: at the latest a second of maintenance. -/
def wakeDeadlines (o : OwnerState) (now : Instant) (nowUs maxQueueAgeUs : Nat)
    (stats sync : Option Instant) : List Instant :=
  (now + 1000000) ::
    ((o.decisionAt nowUs maxQueueAgeUs).wakeDelay.map fun delay => now + delay).toList ++
      o.otherDeadlines now stats sync

def nextWakeDelay (o : OwnerState) (now : Instant) (nowUs maxQueueAgeUs : Nat)
    (stats sync : Option Instant) : Duration :=
  (o.wakeDeadlines now nowUs maxQueueAgeUs stats sync).min?.getD (now + 1000000) - now

theorem turn_still {o : OwnerState} (h : o.schedule = []) : o.turn = o := by
  unfold turn
  rw [h]

theorem nextWakeDelay_eq_zero {o : OwnerState} {now : Instant} {nowUs maxQueueAgeUs : Nat}
    {stats sync : Option Instant} (hwaits : (o.decisionAt nowUs maxQueueAgeUs).immediate = false)
    (h : o.nextWakeDelay now nowUs maxQueueAgeUs stats sync = 0) :
    ∃ deadline ∈ o.otherDeadlines now stats sync, deadline ≤ now := by
  have hwake := wakeDelay_scheduleMedia _ hwaits
  unfold nextWakeDelay at h
  have hmaintenance : now + 1000000 ∈ o.wakeDeadlines now nowUs maxQueueAgeUs stats sync :=
    List.mem_cons_self
  obtain ⟨earliest, hmin⟩ :=
    Option.isSome_iff_exists.mp (List.isSome_min?_of_mem hmaintenance)
  rw [hmin, Option.getD_some] at h
  have hdue : earliest ≤ now := Nat.le_of_sub_eq_zero h
  rcases List.mem_append.mp (List.min?_mem hmin) with htimer | hother
  · rcases List.mem_cons.mp htimer with rfl | hmedia
    · exact absurd hdue (Nat.not_le.mpr (Nat.lt_add_of_pos_right (by decide)))
    · obtain ⟨delay, hdelay, rfl⟩ := Option.map_eq_some_iff.mp (Option.mem_toList.mp hmedia)
      have hzero : delay = 0 := Nat.le_zero.mp (Nat.le_of_add_le_add_left hdue)
      exact absurd (hzero ▸ hdelay) hwake
  · exact ⟨earliest, hother, hdue⟩

end OwnerState

/-- The queue of `o'` is what is left of that of `o`. -/
def Trimmed (o o' : OwnerState) : Prop :=
  o.session.media.jitter.Trims o'.session.media.jitter

/-- What the decision looks at while a refresh is awaited. -/
structure Unmoved (o o' : OwnerState) : Prop where
  jitter : o'.session.media.jitter = o.session.media.jitter
  reassembly : o'.session.media.reassembly = o.session.media.reassembly
  phase : o'.session.media.decoderRecovery.phase = o.session.media.decoderRecovery.phase

/-- A relation that does not see what leaves the queue, the reassembly and the phase alone. -/
class Settled (R : OwnerState → OwnerState → Prop) : Prop extends Frame R where
  unmoved : ∀ {o o' : OwnerState}, Unmoved o o' → R o o'

instance : Settled Unmoved where
  refl _ := ⟨rfl, rfl, rfl⟩
  trans h h' :=
    ⟨h'.jitter.trans h.jitter, h'.reassembly.trans h.reassembly, h'.phase.trans h.phase⟩
  unmoved h := h

theorem trimmed_same {o o' : OwnerState}
    (h : o'.session.media.jitter = o.session.media.jitter) : Trimmed o o' := by
  unfold Trimmed
  rw [h]
  exact ⟨List.Sublist.refl _, rfl, rfl⟩

instance : Settled Trimmed where
  refl _ := trimmed_same rfl
  trans h h' :=
    ⟨h'.frames.trans h.frames, h'.fixed.trans h.fixed, h'.adaptive.trans h.adaptive⟩
  unmoved h := trimmed_same h.jitter

namespace Owner

section Settled

variable {R : OwnerState → OwnerState → Prop} [Settled R]

theorem settled_session {f : ReceiverSession → ReceiverSession}
    (h : ∀ s, (f s).media = s.media) : Keeps R (modifySession f) := by
  apply keeps_update
  intro o
  apply Settled.unmoved
  constructor <;> simp only [h]

instance {α : Type} (f : World → α) : Keeps R (look f) := by
  have hturn : Keeps R (update OwnerState.turn : Owner Unit) := by
    apply keeps_update
    intro o
    apply Settled.unmoved
    constructor <;> rw [OwnerState.session_turn]
  unfold look
  infer_instance

instance : Keeps R session := by
  unfold session
  infer_instance

instance : Keeps R instantNow := by
  unfold instantNow
  infer_instance

instance : Keeps R activeSession := by
  unfold activeSession
  infer_instance

instance (mark : OwnerMark) : Keeps R (note mark) :=
  keeps_update fun _ => Settled.unmoved ⟨rfl, rfl, rfl⟩

instance : Keeps R mediaConnectionGeneration := by
  unfold mediaConnectionGeneration
  apply keeps_then inferInstance
  intro s
  split <;> infer_instance

instance (command : Command) : Keeps R (transport fun w => w.command command) := by
  have hworker : Keeps R (update fun o : OwnerState =>
      { o with world.worker := (o.world.worker.command command).2 } : Owner Unit) :=
    keeps_update fun _ => Settled.unmoved ⟨rfl, rfl, rfl⟩
  unfold transport
  apply keeps_then inferInstance
  intro answer
  apply keeps_then hworker
  intro _
  cases answer <;> infer_instance

instance (target : SessionId) (message : ControlFrame) :
    Keeps R (sendControl target message) := by
  unfold sendControl
  infer_instance

instance (target : SessionId) (payload : ControlPayload) :
    Keeps R (sendControlPayload target payload) := by
  have hcount : Keeps R (modifySession ReceiverSession.countControlMessage) :=
    settled_session fun _ => rfl
  unfold sendControlPayload
  apply keeps_then inferInstance
  intro s
  split <;> infer_instance

instance (now : Instant) : Keeps R (modifyMedia fun m => m.noteRequest now) :=
  keeps_update fun _ => Settled.unmoved ⟨rfl, rfl, rfl⟩

instance : Keeps R maybeRequestRecoveryKeyframe := by
  unfold maybeRequestRecoveryKeyframe
  apply keeps_then inferInstance
  intro now
  apply keeps_then inferInstance
  intro s
  split
  · apply keeps_then inferInstance
    intro active
    split <;> infer_instance
  · infer_instance

instance : Keeps R (modifySession ReceiverSession.awaitRefresh) := settled_session fun _ => rfl

instance : Keeps R resetDecoder :=
  keeps_update fun _ => Settled.unmoved ⟨rfl, rfl, rfl⟩

end Settled

theorem trimmed_media {f : MediaState → MediaState}
    (h : ∀ m : MediaState, m.jitter.Trims (f m).jitter) : Keeps Trimmed (modifyMedia f) :=
  keeps_update fun o => h o.session.media

theorem enterRecovery_trims (m : MediaState) (reason : RecoveryReason) :
    m.jitter.Trims (m.enterRecovery reason).jitter := by
  unfold MediaState.enterRecovery
  split
  · exact ⟨List.nil_sublist _, rfl, rfl⟩
  · exact ⟨List.Sublist.refl _, rfl, rfl⟩

instance (reason : RecoveryReason) : Keeps Trimmed (modifyMedia fun m => m.enterRecovery reason) :=
  trimmed_media fun m => enterRecovery_trims m reason

instance (reason : RecoveryReason) (resetsDecoder : Bool) :
    Keeps Trimmed (enterDecoderRecovery reason resetsDecoder) := by
  unfold enterDecoderRecovery
  infer_instance

instance (timeline : AccessUnitTimeline) : Keeps Trimmed (modifyMedia fun m =>
    m.setRecovery (m.decoderRecovery.noteRefreshSubmitted timeline)) :=
  trimmed_media fun _ => ⟨List.Sublist.refl _, rfl, rfl⟩

instance (job : DecodeJob) : Keeps Trimmed (submitToDecoder job) := by
  constructor
  intro o
  rw [exec_submitToDecoder]
  refine trimmed_same ?_
  unfold offered
  rw [OwnerState.session_turn]

instance (unit : EncodedAccessUnit) : Keeps Trimmed (publishTimelineAccessUnit unit) := by
  unfold publishTimelineAccessUnit
  apply keeps_then inferInstance
  intro s
  split
  · infer_instance
  split
  · infer_instance
  apply keeps_then inferInstance
  intro outcome
  split <;> infer_instance

/-! ## Turns of the loop -/

/-- One turn of the loop of `drain_jitter`; `true` where the loop goes on. -/
def drainTurn (nowUs maxQueueAgeUs : Nat) : Owner Bool := do
  let decision ← mediaScheduleDecision nowUs maxQueueAgeUs
  match decision with
  | .discardExpired => do
      let s ← session
      let dropped := s.media.jitter.dropExpired nowUs maxQueueAgeUs
      modifyMedia fun m => m.setJitter dropped.2
      if dropped.1 then do
        enterDecoderRecovery .referenceAccessUnitLate true
        pure false
      else pure true
  | .decodeReadyFrame => do
      let popped ← popReady nowUs
      match popped with
      | none => pure false
      | some frame => do
          let generation ← mediaConnectionGeneration
          publishTimelineAccessUnit (encodedAccessUnit frame generation nowUs)
          pure true
  | .discardReadyFrame => do
      let popped ← popReady nowUs
      pure popped.isSome
  | .discardRecoveryBlockedFrame => do
      let popped ← popReady nowUs
      pure popped.isSome
  | .waitUntil _ _ => pure false
  | .waitForEvent _ => pure false
  | .idle => pure false

/-- The loop takes its turns as long as they ask for more. -/
theorem drainJitterLoop_succ (nowUs maxQueueAgeUs fuel : Nat) :
    drainJitterLoop nowUs maxQueueAgeUs (fuel + 1) =
      drainTurn nowUs maxQueueAgeUs >>= fun again =>
        if again then drainJitterLoop nowUs maxQueueAgeUs fuel else pure () := by
  rw [drainJitterLoop, drainTurn, bind_assoc]
  congr 1
  funext decision
  cases decision with
  | discardExpired =>
      simp only [bind_assoc]
      congr 1
      funext s
      congr 1
      funext _
      split
      · rw [bind_assoc]
        simp only [pure_bind, Bool.false_eq_true, if_false]
        exact (bind_pure _).symm
      · simp only [pure_bind, if_true]
  | decodeReadyFrame =>
      simp only [bind_assoc]
      congr 1
      funext popped
      cases popped with
      | none => simp only [pure_bind, Bool.false_eq_true, if_false]
      | some frame => simp only [bind_assoc, pure_bind, if_true]
  | discardReadyFrame =>
      simp only [bind_assoc, pure_bind]
      congr 1
      funext popped
      cases popped <;> rfl
  | discardRecoveryBlockedFrame =>
      simp only [bind_assoc, pure_bind]
      congr 1
      funext popped
      cases popped <;> rfl
  | waitUntil delay reason => simp only [pure_bind, Bool.false_eq_true, if_false]
  | waitForEvent reason => simp only [pure_bind, Bool.false_eq_true, if_false]
  | idle => simp only [pure_bind, Bool.false_eq_true, if_false]

variable {nowUs maxQueueAgeUs : Nat} {o : OwnerState}

theorem exec_mediaConnectionGeneration (o : OwnerState) :
    ∃ generation o₁, exec mediaConnectionGeneration o = (.ok generation, o₁) ∧
      o₁.session = o.session ∧ (o.schedule = [] → generation = o.mediaGeneration ∧ o₁ = o) := by
  unfold mediaConnectionGeneration session OwnerState.mediaGeneration
  rw [exec_read_bind]
  cases o.session.control.controlGeneration with
  | some generation => exact ⟨generation, o, rfl, rfl, fun _ => ⟨rfl, rfl⟩⟩
  | none =>
      refine ⟨_, o.turn, rfl, OwnerState.session_turn o, fun hstill => ?_⟩
      rw [OwnerState.turn_still hstill]
      exact ⟨rfl, rfl⟩

theorem exec_mediaScheduleDecision (nowUs maxQueueAgeUs : Nat) (o : OwnerState) :
    ∃ recovery decoder o₁, exec (mediaScheduleDecision nowUs maxQueueAgeUs) o =
        (.ok (scheduleMedia (o.scheduleInput nowUs maxQueueAgeUs recovery decoder)), o₁) ∧
      o₁.session = o.session ∧
      (o.schedule = [] → recovery = o.recoveryAdmission o.mediaGeneration ∧
        decoder = o.decoderAdmission o.world ∧ o₁ = o) := by
  obtain ⟨generation, o₁, hgeneration, hsession, hstill⟩ := exec_mediaConnectionGeneration o
  have hexec : exec (mediaScheduleDecision nowUs maxQueueAgeUs) o =
      (.ok (scheduleMedia (o.scheduleInput nowUs maxQueueAgeUs (o.recoveryAdmission generation)
        (o.decoderAdmission o₁.turn.world))), o₁.turn) := by
    unfold mediaScheduleDecision session
    rw [exec_read_bind, exec_bind_ok hgeneration]
    rfl
  refine ⟨_, _, _, hexec, (OwnerState.session_turn o₁).trans hsession, fun hempty => ?_⟩
  obtain ⟨rfl, rfl⟩ := hstill hempty
  rw [OwnerState.turn_still hempty]
  exact ⟨rfl, rfl, rfl⟩

/-- The turn in which expired frames are dropped. -/
def dropTurn (nowUs maxQueueAgeUs : Nat) : Owner Bool := do
  let s ← session
  let dropped := s.media.jitter.dropExpired nowUs maxQueueAgeUs
  modifyMedia fun m => m.setJitter dropped.2
  if dropped.1 then do
    enterDecoderRecovery .referenceAccessUnitLate true
    pure false
  else pure true

/-- A turn waits, or it drops what has expired, or it takes the front of the queue. -/
inductive Turn (nowUs maxQueueAgeUs : Nat) (o : OwnerState) :
    Except ReceiverError Bool × OwnerState → Prop
  | wait (o₁ : OwnerState) (session : o₁.session = o.session)
      (waits : o.schedule = [] →
        (o.decisionAt nowUs maxQueueAgeUs).immediate = false ∧ o₁ = o) :
      Turn nowUs maxQueueAgeUs o (.ok false, o₁)
  | drop (o₁ : OwnerState) (session : o₁.session = o.session)
      (still : o.schedule = [] → o₁ = o)
      (rings : o.session.media.jitter.nextExpirationDelayUs nowUs maxQueueAgeUs = some 0) :
      Turn nowUs maxQueueAgeUs o (exec (dropTurn nowUs maxQueueAgeUs) o₁)
  | take (outcome : Except ReceiverError Bool) (o₁ : OwnerState)
      (unexpired :
        o.session.media.jitter.nextExpirationDelayUs nowUs maxQueueAgeUs ≠ some 0)
      (goesOn : outcome ≠ .ok false) (trimmed : Trimmed o o₁)
      (shorter : o₁.session.media.jitter.frames.length <
        o.session.media.jitter.frames.length) : Turn nowUs maxQueueAgeUs o (outcome, o₁)

theorem popped_trimmed (o : OwnerState) (nowUs : Nat) : Trimmed o (popped o nowUs) :=
  JitterBuffer.Trims.popReady

theorem turn_take {o₁ : OwnerState} {q : Option Frame → Owner Bool} (hsession : o₁.session = o.session)
    (hunexpired : o.session.media.jitter.nextExpirationDelayUs nowUs maxQueueAgeUs ≠ some 0)
    (hreleased : o.session.media.jitter.nextReleaseDelayUs nowUs = some 0)
    (htaken : ∀ frame o₂, (exec (q (some frame)) o₂).1 ≠ .ok false ∧
      Trimmed o₂ (exec (q (some frame)) o₂).2) :
    Turn nowUs maxQueueAgeUs o (exec (popReady nowUs >>= q) o₁) := by
  rw [← hsession] at hreleased
  obtain ⟨frame, hpopped, hlength⟩ := JitterBuffer.popReady_released hreleased
  have hexec : exec (popReady nowUs >>= q) o₁ = exec (q (some frame)) (popped o₁ nowUs) := by
    rw [exec_bind_ok (exec_popReady o₁ nowUs), hpopped]
  obtain ⟨hgoes, htrimmed⟩ := htaken frame (popped o₁ nowUs)
  rw [hexec]
  refine .take _ _ hunexpired hgoes ?_ ?_
  · exact Frame.trans (trimmed_same (by rw [hsession]))
      (Frame.trans (popped_trimmed o₁ nowUs) htrimmed)
  · calc _ ≤ (popped o₁ nowUs).session.media.jitter.frames.length := htrimmed.frames.length_le
      _ < o₁.session.media.jitter.frames.length := by
          rw [hlength]
          exact Nat.lt_succ_self _
      _ = _ := by rw [hsession]

theorem drainTurn_turn (nowUs maxQueueAgeUs : Nat) (o : OwnerState) :
    Turn nowUs maxQueueAgeUs o (exec (drainTurn nowUs maxQueueAgeUs) o) := by
  obtain ⟨recovery, decoder, o₁, hexec, hsession, hstill⟩ :=
    exec_mediaScheduleDecision nowUs maxQueueAgeUs o
  have hwait : (scheduleMedia
      (o.scheduleInput nowUs maxQueueAgeUs recovery decoder)).immediate = false →
      Turn nowUs maxQueueAgeUs o (.ok false, o₁) := by
    intro hwaits
    refine .wait o₁ hsession fun hempty => ?_
    obtain ⟨rfl, rfl, rfl⟩ := hstill hempty
    exact ⟨hwaits, rfl⟩
  unfold drainTurn
  rw [exec_bind_ok hexec]
  cases hdecision : scheduleMedia (o.scheduleInput nowUs maxQueueAgeUs recovery decoder) with
  | waitUntil delay reason => exact hwait (by rw [hdecision]; rfl)
  | waitForEvent reason => exact hwait (by rw [hdecision]; rfl)
  | idle => exact hwait (by rw [hdecision]; rfl)
  | discardExpired =>
      exact .drop o₁ hsession (fun hempty => (hstill hempty).2.2)
        (rings_of_discardExpired hdecision)
  | discardReadyFrame =>
      obtain ⟨hunexpired, hreleased⟩ :=
        released_of_immediate (by rw [hdecision]; rfl) (by rw [hdecision]; nofun)
      exact turn_take hsession hunexpired hreleased fun _ o₂ => ⟨nofun, Frame.refl o₂⟩
  | discardRecoveryBlockedFrame =>
      obtain ⟨hunexpired, hreleased⟩ :=
        released_of_immediate (by rw [hdecision]; rfl) (by rw [hdecision]; nofun)
      exact turn_take hsession hunexpired hreleased fun _ o₂ => ⟨nofun, Frame.refl o₂⟩
  | decodeReadyFrame =>
      obtain ⟨hunexpired, hreleased⟩ :=
        released_of_immediate (by rw [hdecision]; rfl) (by rw [hdecision]; nofun)
      refine turn_take hsession hunexpired hreleased fun frame o₂ => ⟨?_, ?_⟩
      · obtain ⟨generation, o₃, hgeneration, -⟩ := exec_mediaConnectionGeneration o₂
        simp only
        rw [exec_bind_ok hgeneration, exec_bind]
        cases hpublish : exec (publishTimelineAccessUnit
            (encodedAccessUnit frame generation nowUs)) o₃ with
        | mk outcome o₄ => cases outcome <;> nofun
      · exact (inferInstance : Keeps Trimmed (do
          let generation ← mediaConnectionGeneration
          publishTimelineAccessUnit (encodedAccessUnit frame generation nowUs)
          pure true)).keeps o₂

/-! ## The contract -/

/-- The states before the turns of the loop. -/
inductive Turns (nowUs maxQueueAgeUs : Nat) (o : OwnerState) : OwnerState → Prop
  | start : Turns nowUs maxQueueAgeUs o o
  | again {o₁ o₂ : OwnerState} (before : Turns nowUs maxQueueAgeUs o o₁)
      (turn : exec (drainTurn nowUs maxQueueAgeUs) o₁ = (.ok true, o₂)) :
      Turns nowUs maxQueueAgeUs o o₂

/-- What the loop of the source returns, which has no bound on its turns. -/
inductive Drains (nowUs maxQueueAgeUs : Nat) :
    OwnerState → Except ReceiverError Unit × OwnerState → Prop
  | again {o o₁ : OwnerState} {r : Except ReceiverError Unit × OwnerState}
      (turn : exec (drainTurn nowUs maxQueueAgeUs) o = (.ok true, o₁))
      (rest : Drains nowUs maxQueueAgeUs o₁ r) : Drains nowUs maxQueueAgeUs o r
  | last {o o₁ : OwnerState} (turn : exec (drainTurn nowUs maxQueueAgeUs) o = (.ok false, o₁)) :
      Drains nowUs maxQueueAgeUs o (.ok (), o₁)
  | failed {o o₁ : OwnerState} {error : ReceiverError}
      (turn : exec (drainTurn nowUs maxQueueAgeUs) o = (.error error, o₁)) :
      Drains nowUs maxQueueAgeUs o (.error error, o₁)

structure DrainContract (nowUs maxQueueAgeUs : Nat) (o : OwnerState) : Prop where
  /-- A turn that goes on removes a frame. -/
  progress : ∀ o₁ o₂, Turns nowUs maxQueueAgeUs o o₁ →
    exec (drainTurn nowUs maxQueueAgeUs) o₁ = (.ok true, o₂) →
      o₂.session.media.jitter.frames.length < o₁.session.media.jitter.frames.length
  terminates : Drains nowUs maxQueueAgeUs o
    (exec (drainJitterLoop nowUs maxQueueAgeUs (o.session.media.jitter.frames.length + 1)) o)
  /-- The loop has ended, and the world stood still in its last turn. -/
  settles : ∀ o₁ o₂, Turns nowUs maxQueueAgeUs o o₁ → o₁.schedule = [] →
    exec (drainTurn nowUs maxQueueAgeUs) o₁ = (.ok false, o₂) →
      (o₂.decisionAt nowUs maxQueueAgeUs).immediate = false ∧
        ∀ now stats sync, o₂.nextWakeDelay now nowUs maxQueueAgeUs stats sync = 0 →
          ∃ deadline ∈ o₂.otherDeadlines now stats sync, deadline ≤ now

theorem DrainContract.waits {nowUs maxQueueAgeUs : Nat} {o : OwnerState}
    (h : DrainContract nowUs maxQueueAgeUs o) (hstill : o.schedule = [])
    (hends : (exec (drainTurn nowUs maxQueueAgeUs) o).1 = .ok false) :
    ((exec (drainTurn nowUs maxQueueAgeUs) o).2.decisionAt nowUs maxQueueAgeUs).immediate =
      false :=
  (h.settles o _ .start hstill (Prod.ext hends rfl)).1

/-- The clock has reached its end, and frames are queued whose deadline lies there. -/
structure Stuck (j : JitterBuffer) (nowUs maxQueueAgeUs : Nat) : Prop where
  adaptive : j.fixedTargetUs = none
  last : nowUs = u64Max
  kept : ∃ buffered ∈ j.frames, ¬j.Expired nowUs maxQueueAgeUs buffered
  unbroken : ∀ buffered ∈ j.frames, j.Expired nowUs maxQueueAgeUs buffered →
    buffered.frame.discardable = true

/-- A keyframe request that is due can be sent. -/
def RequestGoesOut (o : OwnerState) : Prop :=
  o.session.media.decoderRecovery.requestDue o.world.now = true →
    ∀ session ∈ o.world.worker.activeSession, o.session.control.controlGeneration ≠ none ∧
      o.world.worker.commands.length < commandCapacity

/-- The front is released and nothing older is missing. While a refresh is awaited it is acted
upon at once: the decoder takes a keyframe, and everything else is blocked. -/
def ActsOn (o : OwnerState) (nowUs : Nat) (front : BufferedFrame) : Prop :=
  nowUs = u64Max ∨
    (o.session.media.jitter.decodeReleaseAtUs front.frame.ptsUs ≤ nowUs ∧
      ¬∃ unresolved ∈ o.session.media.reassembly.oldestUnresolvedFrameId,
        unresolved < front.frame.frameId)

/-- A reference has expired while a refresh is awaited already, and behind it waits a frame
that would be acted upon at once. -/
structure EndsEarly (o : OwnerState) (nowUs maxQueueAgeUs : Nat) : Prop where
  adaptive : o.session.media.jitter.fixedTargetUs = none
  broken : ∃ buffered ∈ o.session.media.jitter.frames,
    o.session.media.jitter.Expired nowUs maxQueueAgeUs buffered ∧
      buffered.frame.discardable = false
  awaiting : o.session.media.decoderRecovery.phase = .awaitingRefresh
  requestable : RequestGoesOut o
  behind : ∃ front ∈ (o.session.media.jitter.frames.filter fun buffered =>
    ¬o.session.media.jitter.Expired nowUs maxQueueAgeUs buffered).head?, ActsOn o nowUs front

/-! ## Progress -/

theorem exec_dropTurn (o : OwnerState) :
    exec (dropTurn nowUs maxQueueAgeUs) o =
      exec (if (o.session.media.jitter.dropExpired nowUs maxQueueAgeUs).1 then do
          enterDecoderRecovery .referenceAccessUnitLate true
          pure false
        else pure true : Owner Bool)
        { o with session := o.session.setMedia (o.session.media.setJitter
          (o.session.media.jitter.dropExpired nowUs maxQueueAgeUs).2) } := rfl

theorem dropTurn_goesOn {o₂ : OwnerState}
    (h : exec (dropTurn nowUs maxQueueAgeUs) o = (.ok true, o₂)) :
    (o.session.media.jitter.dropExpired nowUs maxQueueAgeUs).1 = false ∧
      o₂ = { o with session := o.session.setMedia (o.session.media.setJitter
        (o.session.media.jitter.dropExpired nowUs maxQueueAgeUs).2) } := by
  rw [exec_dropTurn] at h
  cases hbroken : (o.session.media.jitter.dropExpired nowUs maxQueueAgeUs).1 with
  | false =>
      rw [hbroken] at h
      exact ⟨rfl, (congrArg Prod.snd h).symm⟩
  | true =>
      rw [hbroken, if_pos rfl, exec_bind_pure] at h
      have houtcome := congrArg Prod.fst h
      simp only at houtcome
      generalize (exec (enterDecoderRecovery .referenceAccessUnitLate true) _).1 = outcome at houtcome
      cases outcome <;> cases houtcome

theorem turn_goesOn {o₂ : OwnerState}
    (h : exec (drainTurn nowUs maxQueueAgeUs) o = (.ok true, o₂)) :
    (∃ o₁ : OwnerState, o₁.session = o.session ∧
      (o.session.media.jitter.nextExpirationDelayUs nowUs maxQueueAgeUs = some 0) ∧
      exec (dropTurn nowUs maxQueueAgeUs) o₁ = (.ok true, o₂)) ∨
    (o.session.media.jitter.nextExpirationDelayUs nowUs maxQueueAgeUs ≠ some 0 ∧
      Trimmed o o₂ ∧ o₂.session.media.jitter.frames.length <
        o.session.media.jitter.frames.length) := by
  have hturn := drainTurn_turn nowUs maxQueueAgeUs o
  rw [h] at hturn
  generalize hout : ((.ok true, o₂) : Except ReceiverError Bool × OwnerState) = out at hturn
  cases hturn with
  | wait o₁ session waits => cases hout
  | drop o₁ session still rings => exact Or.inl ⟨o₁, session, rings, rfl⟩
  | take outcome o₁ unexpired goesOn trimmed shorter =>
      cases hout
      exact Or.inr ⟨unexpired, trimmed, shorter⟩

theorem trimmed_goesOn {o₂ : OwnerState}
    (h : exec (drainTurn nowUs maxQueueAgeUs) o = (.ok true, o₂)) : Trimmed o o₂ := by
  rcases turn_goesOn h with ⟨o₁, hsession, -, hdrop⟩ | ⟨-, htrimmed, -⟩
  · obtain ⟨-, rfl⟩ := dropTurn_goesOn hdrop
    exact Frame.trans (trimmed_same (by rw [hsession])) JitterBuffer.Trims.dropExpired
  · exact htrimmed

theorem fresh_goesOn (hnow : nowUs ≤ u64Max) {o₂ : OwnerState}
    (h : exec (drainTurn nowUs maxQueueAgeUs) o = (.ok true, o₂))
    (hadaptive : o₂.session.media.jitter.fixedTargetUs = none) :
    ∀ buffered ∈ o₂.session.media.jitter.frames,
      ¬o₂.session.media.jitter.Expired nowUs maxQueueAgeUs buffered := by
  have htrimmed := trimmed_goesOn h
  intro buffered hmem hexpired
  rw [htrimmed.expired] at hexpired
  rw [htrimmed.fixed] at hadaptive
  rcases turn_goesOn h with ⟨o₁, hsession, -, hdrop⟩ | ⟨hunexpired, -, -⟩
  · obtain ⟨-, rfl⟩ := dropTurn_goesOn hdrop
    rw [← hsession] at hadaptive hexpired
    change buffered ∈ (o₁.session.media.jitter.dropExpired nowUs maxQueueAgeUs).2.frames at hmem
    rw [JitterBuffer.dropExpired_frames_eq hadaptive] at hmem
    exact (of_decide_eq_true (List.mem_filter.mp hmem).2) hexpired
  · exact hunexpired
      (JitterBuffer.rings hnow hadaptive (htrimmed.frames.subset hmem) (Or.inl hexpired))

/-- A turn that goes on removes a frame, unless the clock has stopped the queue. -/
theorem shorter_goesOn (hnow : nowUs ≤ u64Max)
    (hstuck : ¬Stuck o.session.media.jitter nowUs maxQueueAgeUs) {o₂ : OwnerState}
    (h : exec (drainTurn nowUs maxQueueAgeUs) o = (.ok true, o₂)) :
    o₂.session.media.jitter.frames.length < o.session.media.jitter.frames.length := by
  rcases turn_goesOn h with ⟨o₁, hsession, hrings, hdrop⟩ | ⟨-, -, hshorter⟩
  · obtain ⟨hreports, rfl⟩ := dropTurn_goesOn hdrop
    rw [hsession] at hreports ⊢
    obtain ⟨hadaptive, buffered, hmem, hle⟩ := JitterBuffer.expirationDelay_eq_zero.mp hrings
    have hunbroken : ∀ other ∈ o.session.media.jitter.frames,
        o.session.media.jitter.Expired nowUs maxQueueAgeUs other →
          other.frame.discardable = true := by
      intro other hother hexpired
      by_contra hreference
      rw [(JitterBuffer.dropExpired_reports hadaptive).mpr
        ⟨other, hother, hexpired, Bool.eq_false_of_not_eq_true hreference⟩] at hreports
      cases hreports
    have hexpired : ∃ other ∈ o.session.media.jitter.frames,
        o.session.media.jitter.Expired nowUs maxQueueAgeUs other := by
      by_contra hnone
      rcases (JitterBuffer.rings_iff hnow buffered).mp hle with hexpired | hlast
      · exact hnone ⟨buffered, hmem, hexpired⟩
      · exact hstuck ⟨hadaptive, hlast, ⟨buffered, hmem, fun hexpired =>
          hnone ⟨buffered, hmem, hexpired⟩⟩, hunbroken⟩
    obtain ⟨other, hother, hexpired⟩ := hexpired
    change (o.session.media.jitter.dropExpired nowUs maxQueueAgeUs).2.frames.length < _
    rw [JitterBuffer.dropExpired_frames_eq hadaptive]
    refine List.length_filter_lt_length_iff_exists.mpr ⟨other, hother, ?_⟩
    simpa using hexpired
  · exact hshorter

theorem stuck_goesOn (hnow : nowUs ≤ u64Max) {o₂ : OwnerState}
    (h : exec (drainTurn nowUs maxQueueAgeUs) o = (.ok true, o₂))
    (hstuck : Stuck o₂.session.media.jitter nowUs maxQueueAgeUs) :
    Stuck o.session.media.jitter nowUs maxQueueAgeUs := by
  have htrimmed := trimmed_goesOn h
  have hadaptive := htrimmed.fixed.symm.trans hstuck.adaptive
  obtain ⟨kept, hkept, hunexpired⟩ := hstuck.kept
  rw [htrimmed.expired] at hunexpired
  refine ⟨hadaptive, hstuck.last, ⟨kept, htrimmed.frames.subset hkept, hunexpired⟩, ?_⟩
  intro buffered hmem hexpired
  have hrings := JitterBuffer.rings hnow hadaptive hmem (Or.inl hexpired)
  rcases turn_goesOn h with ⟨o₁, hsession, -, hdrop⟩ | ⟨hquiet, -, -⟩
  · have hreports := (dropTurn_goesOn hdrop).1
    rw [hsession] at hreports
    by_contra hreference
    rw [(JitterBuffer.dropExpired_reports hadaptive).mpr
      ⟨buffered, hmem, hexpired, Bool.eq_false_of_not_eq_true hreference⟩] at hreports
    cases hreports
  · exact absurd hrings hquiet

theorem unstuck_turns (hnow : nowUs ≤ u64Max)
    (hstuck : ¬Stuck o.session.media.jitter nowUs maxQueueAgeUs) {o₁ : OwnerState}
    (h : Turns nowUs maxQueueAgeUs o o₁) :
    ¬Stuck o₁.session.media.jitter nowUs maxQueueAgeUs := by
  induction h with
  | start => exact hstuck
  | again before turn ih => exact fun hlater => ih (stuck_goesOn hnow turn hlater)

/-- With as much fuel as there are frames, the bounded loop is the loop of the source. -/
theorem drains_loop (hnow : nowUs ≤ u64Max) (fuel : Nat) (o : OwnerState)
    (hstuck : ¬Stuck o.session.media.jitter nowUs maxQueueAgeUs)
    (hfuel : o.session.media.jitter.frames.length < fuel) :
    Drains nowUs maxQueueAgeUs o (exec (drainJitterLoop nowUs maxQueueAgeUs fuel) o) := by
  induction fuel generalizing o with
  | zero => exact absurd hfuel (Nat.not_lt_zero _)
  | succ fuel ih =>
      rw [drainJitterLoop_succ, exec_bind]
      cases hturn : exec (drainTurn nowUs maxQueueAgeUs) o with
      | mk outcome o₁ =>
          cases outcome with
          | error error => exact .failed hturn
          | ok again =>
              cases again with
              | false => exact .last hturn
              | true =>
                  have hshorter := shorter_goesOn hnow hstuck hturn
                  refine .again hturn (ih o₁ ?_ ?_)
                  · exact fun hlater => hstuck (stuck_goesOn hnow hturn hlater)
                  · exact Nat.lt_of_lt_of_le hshorter (Nat.le_of_lt_succ hfuel)

/-! ## The end of the loop -/

theorem decisionAt_empty (h : o.session.media.jitter.frames = []) :
    (o.decisionAt nowUs maxQueueAgeUs).immediate = false := by
  have hfront : (o.scheduleInput nowUs maxQueueAgeUs (o.recoveryAdmission o.mediaGeneration)
      (o.decoderAdmission o.world)).frontFrameId = none := by
    unfold OwnerState.scheduleInput JitterBuffer.frontFrameId
    rw [h]
    rfl
  unfold OwnerState.decisionAt scheduleMedia
  rw [hfront]
  rfl

theorem scheduleReleased_awaiting {front : BufferedFrame} {rest : List BufferedFrame}
    (hawaiting : o.session.media.decoderRecovery.phase = .awaitingRefresh)
    (hframes : o.session.media.jitter.frames = front :: rest) :
    (scheduleReleased (o.scheduleInput nowUs maxQueueAgeUs (o.recoveryAdmission o.mediaGeneration)
      (o.decoderAdmission o.world))).immediate = true := by
  unfold scheduleReleased OwnerState.scheduleInput OwnerState.recoveryAdmission
    OwnerState.decoderAdmission JitterBuffer.frontFrameDescriptor DecoderRecovery.admission
  simp only [hframes, hawaiting, List.head?_cons, Option.map_some]
  cases hkey : front.frame.keyframe with
  | false => rfl
  | true =>
      simp only [if_true, FrameKind.ofFlags, WorkQueue.admission, or_true]
      rfl

theorem decisionAt_awaiting (hnow : nowUs ≤ u64Max)
    (hadaptive : o.session.media.jitter.fixedTargetUs = none)
    (hawaiting : o.session.media.decoderRecovery.phase = .awaitingRefresh)
    (hfresh : ∀ buffered ∈ o.session.media.jitter.frames,
      ¬o.session.media.jitter.Expired nowUs maxQueueAgeUs buffered) :
    (o.decisionAt nowUs maxQueueAgeUs).immediate = true ↔
      ∃ front ∈ o.session.media.jitter.frames.head?, ActsOn o nowUs front := by
  cases hframes : o.session.media.jitter.frames with
  | nil =>
      rw [decisionAt_empty hframes]
      exact iff_of_false nofun fun ⟨front, hfront, _⟩ => absurd hfront nofun
  | cons front rest =>
      rw [List.head?_cons]
      simp only [Option.mem_some_iff, exists_eq_left']
      have hrings : o.session.media.jitter.nextExpirationDelayUs nowUs maxQueueAgeUs = some 0 ↔
          nowUs = u64Max := by
        rw [JitterBuffer.expirationDelay_eq_zero]
        constructor
        · rintro ⟨-, buffered, hmem, hle⟩
          exact ((JitterBuffer.rings_iff hnow buffered).mp hle).resolve_left (hfresh buffered hmem)
        · intro hlast
          have hmem : front ∈ o.session.media.jitter.frames := by
            rw [hframes]
            exact List.mem_cons_self
          exact ⟨hadaptive, front, hmem, (JitterBuffer.rings_iff hnow front).mpr (Or.inr hlast)⟩
      have hrelease : o.session.media.jitter.nextReleaseDelayUs nowUs = some 0 ↔
          o.session.media.jitter.decodeReleaseAtUs front.frame.ptsUs ≤ nowUs := by
        unfold JitterBuffer.nextReleaseDelayUs
        rw [hframes, List.head?_cons, Option.map_some, Option.some_inj, Nat.sub_eq_zero_iff_le]
      have hfront : o.session.media.jitter.frontFrameId = some front.frame.frameId := by
        unfold JitterBuffer.frontFrameId
        rw [hframes]
        rfl
      unfold OwnerState.decisionAt
      constructor
      · intro himmediate
        rcases scheduleMedia_immediate himmediate with ⟨hexpired, -⟩ | ⟨candidate, h⟩
        · exact Or.inl (hrings.mp hexpired)
        · obtain rfl : front.frame.frameId = candidate :=
            Option.some.inj (hfront.symm.trans h.front)
          exact Or.inr ⟨hrelease.mp h.released, h.unblocked⟩
      · intro hacts
        by_cases hlast : nowUs = u64Max
        · have hsome : o.session.media.jitter.frontFrameId ≠ none := by
            rw [hfront]
            exact Option.some_ne_none _
          rw [scheduleMedia_expired hsome (hrings.mpr hlast)]
          rfl
        · obtain ⟨hreached, hunblocked⟩ := hacts.resolve_left hlast
          have hreleased : (o.scheduleInput nowUs maxQueueAgeUs
              (o.recoveryAdmission o.mediaGeneration) (o.decoderAdmission o.world)).Released
                front.frame.frameId :=
            ⟨hfront, fun hexpired => hlast (hrings.mp hexpired), hunblocked, hrelease.mpr hreached⟩
          rw [scheduleMedia_released hreleased]
          exact scheduleReleased_awaiting hawaiting hframes

theorem exec_instantNow_still (hstill : o.schedule = []) :
    exec instantNow o = (.ok o.world.now, o) := by
  change ((.ok o.turn.world.now, o.turn) : Except ReceiverError Instant × OwnerState) = _
  rw [OwnerState.turn_still hstill]

theorem exec_activeSession_still (hstill : o.schedule = []) :
    exec activeSession o = (.ok o.world.worker.activeSession, o) := by
  change ((.ok o.turn.world.worker.activeSession, o.turn) :
    Except ReceiverError (Option SessionId) × OwnerState) = _
  rw [OwnerState.turn_still hstill]

theorem exec_command_ok (hstill : o.schedule = []) (command : Command) :
    (exec (transport fun w => w.command command) o).1 = .ok () ↔
      o.world.worker.commands.length < commandCapacity := by
  have hlook : exec (look fun w => (w.worker.command command).1) o =
      (.ok (o.world.worker.command command).1, o) := by
    change ((.ok (o.turn.world.worker.command command).1, o.turn) :
      Except ReceiverError (Except TransportError Unit) × OwnerState) = _
    rw [OwnerState.turn_still hstill]
  unfold transport
  rw [exec_bind_ok hlook, exec_update_bind]
  unfold ListenerWorker.command
  by_cases hroom : o.world.worker.commands.length < commandCapacity
  · rw [if_pos hroom]
    exact iff_of_true rfl hroom
  · rw [if_neg hroom]
    exact iff_of_false nofun hroom

theorem exec_sendControl_ok (hstill : o.schedule = []) {target : SessionId}
    (hactive : o.world.worker.activeSession = some target) (message : ControlFrame) :
    (exec (sendControl target message) o).1 = .ok () ↔
      o.world.worker.commands.length < commandCapacity := by
  unfold sendControl
  rw [exec_bind_ok (exec_activeSession_still hstill), if_pos hactive]
  exact exec_command_ok hstill _

theorem exec_sendControlPayload_ok (hstill : o.schedule = []) {target : SessionId}
    (hactive : o.world.worker.activeSession = some target) (payload : ControlPayload) :
    (exec (sendControlPayload target payload) o).1 = .ok () ↔
      o.session.control.controlGeneration ≠ none ∧
        o.world.worker.commands.length < commandCapacity := by
  unfold sendControlPayload session
  rw [exec_read_bind]
  cases hgeneration : o.session.control.controlGeneration with
  | none => exact iff_of_false nofun fun h => h.1 rfl
  | some generation =>
      simp only
      unfold modifySession
      rw [exec_update_bind, and_iff_right (Option.some_ne_none generation)]
      exact exec_sendControl_ok
        (o := { o with session := o.session.countControlMessage }) hstill hactive _

theorem exec_maybeRequest_ok (hstill : o.schedule = []) :
    (exec maybeRequestRecoveryKeyframe o).1 = .ok () ↔ RequestGoesOut o := by
  unfold maybeRequestRecoveryKeyframe RequestGoesOut session
  rw [exec_bind_ok (exec_instantNow_still hstill), exec_read_bind]
  by_cases hdue : o.session.media.decoderRecovery.requestDue o.world.now = true
  · rw [if_pos hdue, exec_bind_ok (exec_activeSession_still hstill)]
    cases hsession : o.world.worker.activeSession with
    | none => exact iff_of_true rfl nofun
    | some target =>
        simp only [hdue, Option.mem_some_iff, forall_eq', true_implies]
        rw [← exec_sendControlPayload_ok hstill hsession .requestKeyframe, exec_bind]
        cases hsend : exec (sendControlPayload target .requestKeyframe) o with
        | mk outcome o₁ =>
            cases outcome with
            | ok sent => exact iff_of_true rfl rfl
            | error error => exact iff_of_false nofun nofun
  · rw [if_neg hdue]
    exact iff_of_true rfl fun h => absurd h hdue

/-- The queue after the expired frames were dropped. -/
def dropped (o : OwnerState) (nowUs maxQueueAgeUs : Nat) : OwnerState :=
  { o with session := o.session.setMedia (o.session.media.setJitter
      (o.session.media.jitter.dropExpired nowUs maxQueueAgeUs).2) }

theorem enterRecovery_empties {reason : RecoveryReason}
    (h : o.session.media.decoderRecovery.phase ≠ .awaitingRefresh) (resetsDecoder : Bool) :
    (exec (enterDecoderRecovery reason resetsDecoder) o).2.session.media.jitter.frames = [] := by
  have hcleanup : o.session.media.discardsChain reason = true := by
    unfold MediaState.discardsChain DecoderRecovery.enter RecoveryTransition.requiresMediaCleanup
      DecoderRecovery.refreshInFlight
    cases hphase : o.session.media.decoderRecovery.phase with
    | healthy => rfl
    | awaitingRefresh => exact absurd hphase h
    | refreshInFlight candidate => rfl
  have hentered : (o.session.media.enterRecovery reason).jitter.frames = [] := by
    unfold MediaState.enterRecovery
    rw [if_pos hcleanup]
    rfl
  have hrest : Keeps Trimmed (do
      when o.session.streaming (modifySession ReceiverSession.awaitRefresh)
      when (resetsDecoder ∧ (o.session.media.discardsChain reason ∨ reason = .decoderError))
        resetDecoder
      maybeRequestRecoveryKeyframe) := inferInstance
  have htrimmed := (hrest.keeps { o with
    session := o.session.setMedia (o.session.media.enterRecovery reason) }).frames
  exact List.eq_nil_of_sublist_nil (hentered ▸ htrimmed)

theorem enterRecovery_awaiting (hstill : o.schedule = [])
    (h : o.session.media.decoderRecovery.phase = .awaitingRefresh) :
    Unmoved o (exec (enterDecoderRecovery .referenceAccessUnitLate true) o).2 ∧
      ((exec (enterDecoderRecovery .referenceAccessUnitLate true) o).1 = .ok () ↔
        RequestGoesOut o) := by
  have hcleanup : o.session.media.discardsChain .referenceAccessUnitLate = false := by
    unfold MediaState.discardsChain DecoderRecovery.enter RecoveryTransition.requiresMediaCleanup
      DecoderRecovery.refreshInFlight
    rw [h]
    rfl
  obtain ⟨o₁, hexec, hunmoved, hschedule, hgoesOut⟩ : ∃ o₁ : OwnerState,
      exec (enterDecoderRecovery .referenceAccessUnitLate true) o =
        exec maybeRequestRecoveryKeyframe o₁ ∧ Unmoved o o₁ ∧ o₁.schedule = [] ∧
          (RequestGoesOut o₁ ↔ RequestGoesOut o) := by
    have hentered : o.session.media.enterRecovery .referenceAccessUnitLate =
        { o.session.media with
          decoderRecovery :=
            (o.session.media.decoderRecovery.enter .referenceAccessUnitLate).2 } := by
      unfold MediaState.enterRecovery
      rw [hcleanup]
      rfl
    have hdue : (o.session.media.decoderRecovery.enter .referenceAccessUnitLate).2.requestDue
        o.world.now = o.session.media.decoderRecovery.requestDue o.world.now := by
      unfold DecoderRecovery.requestDue DecoderRecovery.isAwaitingRefresh
      rw [h]
      rfl
    have hreset : ¬(true = true ∧ (o.session.media.discardsChain .referenceAccessUnitLate = true ∨
        RecoveryReason.referenceAccessUnitLate = .decoderError)) := by
      rw [hcleanup]
      nofun
    unfold enterDecoderRecovery session modifyMedia modifySession
    rw [exec_read_bind, exec_update_bind, exec_when_update_bind]
    simp only [hentered]
    rw [exec_bind_ok (exec_when_false hreset _ _)]
    refine ⟨_, rfl, ?_, ?_, ?_⟩
    · split <;> exact ⟨rfl, rfl, h.symm⟩
    · split <;> exact hstill
    · unfold RequestGoesOut
      split <;> simp only [ReceiverSession.setMedia, ReceiverSession.awaitRefresh,
        ReceiverSession.setStream, hdue]
  rw [hexec]
  refine ⟨Frame.trans hunmoved ?_, ?_⟩
  · exact (inferInstance : Keeps Unmoved maybeRequestRecoveryKeyframe).keeps o₁
  · rw [exec_maybeRequest_ok hschedule, hgoesOut]

theorem adaptive_of_reports
    (h : (o.session.media.jitter.dropExpired nowUs maxQueueAgeUs).1 = true) :
    o.session.media.jitter.fixedTargetUs = none := by
  by_contra hfixed
  unfold JitterBuffer.dropExpired at h
  rw [if_pos hfixed] at h
  cases h

theorem actsOn_dropped {o₂ : OwnerState} (h : Unmoved (dropped o nowUs maxQueueAgeUs) o₂)
    (front : BufferedFrame) : ActsOn o₂ nowUs front ↔ ActsOn o nowUs front := by
  have hrelease : (o.session.media.jitter.dropExpired nowUs maxQueueAgeUs).2.decodeReleaseAtUs
      front.frame.ptsUs = o.session.media.jitter.decodeReleaseAtUs front.frame.ptsUs := by
    unfold JitterBuffer.dropExpired
    split <;> rfl
  unfold ActsOn
  rw [h.jitter, h.reassembly]
  change _ ∨ ((o.session.media.jitter.dropExpired nowUs maxQueueAgeUs).2.decodeReleaseAtUs _ ≤ _ ∧
    _) ↔ _
  rw [hrelease]
  rfl

theorem drop_ends (hnow : nowUs ≤ u64Max) (hstill : o.schedule = []) {o₂ : OwnerState}
    (h : exec (dropTurn nowUs maxQueueAgeUs) o = (.ok false, o₂)) :
    (o₂.decisionAt nowUs maxQueueAgeUs).immediate = true ↔ EndsEarly o nowUs maxQueueAgeUs := by
  rw [exec_dropTurn] at h
  cases hbroken : (o.session.media.jitter.dropExpired nowUs maxQueueAgeUs).1 with
  | false =>
      rw [hbroken] at h
      cases congrArg Prod.fst h
  | true =>
      rw [hbroken, if_pos rfl, exec_bind_pure] at h
      have hadaptive := adaptive_of_reports hbroken
      change ((exec (enterDecoderRecovery .referenceAccessUnitLate true)
        (dropped o nowUs maxQueueAgeUs)).1.map fun _ => false, (exec (enterDecoderRecovery
          .referenceAccessUnitLate true) (dropped o nowUs maxQueueAgeUs)).2) = _ at h
      obtain ⟨houtcome, rfl⟩ := Prod.mk.injEq .. ▸ h
      have hok : (exec (enterDecoderRecovery .referenceAccessUnitLate true)
          (dropped o nowUs maxQueueAgeUs)).1 = .ok () := by
        generalize (exec (enterDecoderRecovery .referenceAccessUnitLate true)
          (dropped o nowUs maxQueueAgeUs)).1 = outcome at houtcome
        cases outcome with
        | ok done => rfl
        | error error => cases houtcome
      by_cases hawaiting : o.session.media.decoderRecovery.phase = .awaitingRefresh
      · obtain ⟨hunmoved, hgoesOut⟩ := enterRecovery_awaiting
          (o := dropped o nowUs maxQueueAgeUs) hstill hawaiting
        have hframes := congrArg JitterBuffer.frames hunmoved.jitter
        change _ = (o.session.media.jitter.dropExpired nowUs maxQueueAgeUs).2.frames at hframes
        rw [JitterBuffer.dropExpired_frames_eq hadaptive] at hframes
        rw [decisionAt_awaiting hnow _ (hunmoved.phase.trans hawaiting) _, hframes]
        · simp only [actsOn_dropped hunmoved]
          exact ⟨fun hbehind => ⟨hadaptive, (JitterBuffer.dropExpired_reports hadaptive).mp hbroken,
            hawaiting, hgoesOut.mp hok, hbehind⟩, fun hends => hends.behind⟩
        · rw [hunmoved.jitter]
          exact JitterBuffer.dropExpired_timing.1.trans hadaptive
        · intro buffered hmem hexpired
          rw [hframes] at hmem
          rw [hunmoved.jitter] at hexpired
          exact of_decide_eq_true (List.mem_filter.mp hmem).2
            ((JitterBuffer.Trims.dropExpired.expired buffered).mp hexpired)
      · rw [decisionAt_empty (enterRecovery_empties (o := dropped o nowUs maxQueueAgeUs) hawaiting true)]
        exact iff_of_false nofun fun hends => hawaiting hends.awaiting

theorem settles_of_waits {o₂ : OwnerState}
    (h : (o₂.decisionAt nowUs maxQueueAgeUs).immediate = false) :
    (o₂.decisionAt nowUs maxQueueAgeUs).immediate = false ∧
      ∀ now stats sync, o₂.nextWakeDelay now nowUs maxQueueAgeUs stats sync = 0 →
        ∃ deadline ∈ o₂.otherDeadlines now stats sync, deadline ≤ now :=
  ⟨h, fun _ _ _ hzero => OwnerState.nextWakeDelay_eq_zero h hzero⟩

theorem turn_ends (hnow : nowUs ≤ u64Max) (hstill : o.schedule = [])
    (hearly : ¬EndsEarly o nowUs maxQueueAgeUs) {o₂ : OwnerState}
    (h : exec (drainTurn nowUs maxQueueAgeUs) o = (.ok false, o₂)) :
    (o₂.decisionAt nowUs maxQueueAgeUs).immediate = false := by
  have hturn := drainTurn_turn nowUs maxQueueAgeUs o
  rw [h] at hturn
  generalize hout : ((.ok false, o₂) : Except ReceiverError Bool × OwnerState) = out at hturn
  cases hturn with
  | wait o₁ session waits =>
      cases hout
      obtain ⟨hwaits, rfl⟩ := waits hstill
      exact hwaits
  | drop o₁ session still rings =>
      obtain rfl := still hstill
      exact Bool.eq_false_of_not_eq_true fun himmediate =>
        hearly ((drop_ends hnow hstill hout.symm).mp himmediate)
  | take outcome o₁ unexpired goesOn trimmed shorter =>
      cases hout
      exact absurd rfl goesOn

theorem endsEarly_turns (hnow : nowUs ≤ u64Max) {o₁ : OwnerState}
    (h : Turns nowUs maxQueueAgeUs o o₁) (hends : EndsEarly o₁ nowUs maxQueueAgeUs) : o₁ = o := by
  cases h with
  | start => rfl
  | again before turn =>
      obtain ⟨buffered, hmem, hexpired, -⟩ := hends.broken
      exact absurd hexpired (fresh_goesOn hnow turn hends.adaptive buffered hmem)

theorem turn_rings (hstill : o.schedule = [])
    (hrings : o.session.media.jitter.nextExpirationDelayUs nowUs maxQueueAgeUs = some 0) :
    exec (drainTurn nowUs maxQueueAgeUs) o = exec (dropTurn nowUs maxQueueAgeUs) o := by
  have hturn := drainTurn_turn nowUs maxQueueAgeUs o
  generalize hout : exec (drainTurn nowUs maxQueueAgeUs) o = out at hturn
  cases hturn with
  | wait o₁ session waits =>
      have hfront : o.session.media.jitter.frontFrameId ≠ none := by
        obtain ⟨-, buffered, hmem, -⟩ := JitterBuffer.expirationDelay_eq_zero.mp hrings
        unfold JitterBuffer.frontFrameId
        intro hnone
        rw [Option.map_eq_none_iff, List.head?_eq_none_iff] at hnone
        rw [hnone] at hmem
        cases hmem
      have hdecision : o.decisionAt nowUs maxQueueAgeUs = .discardExpired :=
        scheduleMedia_expired hfront hrings
      rw [hdecision] at waits
      cases (waits hstill).1
  | drop o₁ session still rings => rw [still hstill]
  | take outcome o₁ unexpired goesOn trimmed shorter => exact absurd hrings unexpired

theorem endsEarly_fails (hnow : nowUs ≤ u64Max) (hstill : o.schedule = [])
    (h : EndsEarly o nowUs maxQueueAgeUs) : ∃ o₂,
      exec (drainTurn nowUs maxQueueAgeUs) o = (.ok false, o₂) ∧
        (o₂.decisionAt nowUs maxQueueAgeUs).immediate = true := by
  obtain ⟨buffered, hmem, hexpired, hreference⟩ := h.broken
  have hreports := (JitterBuffer.dropExpired_reports h.adaptive).mpr
    ⟨buffered, hmem, hexpired, hreference⟩
  have hok := (enterRecovery_awaiting (o := dropped o nowUs maxQueueAgeUs) hstill
    h.awaiting).2.mpr h.requestable
  have hdrop : exec (dropTurn nowUs maxQueueAgeUs) o = (.ok false,
      (exec (enterDecoderRecovery .referenceAccessUnitLate true)
        (dropped o nowUs maxQueueAgeUs)).2) := by
    rw [exec_dropTurn, hreports, if_pos rfl, exec_bind_pure]
    change (Except.map _ (exec (enterDecoderRecovery .referenceAccessUnitLate true)
      (dropped o nowUs maxQueueAgeUs)).1, _) = _
    rw [hok]
    rfl
  refine ⟨_, ?_, (drop_ends hnow hstill hdrop).mpr h⟩
  rw [turn_rings hstill (JitterBuffer.rings hnow h.adaptive hmem (Or.inl hexpired)), hdrop]

theorem dropped_expired (o : OwnerState) (nowUs maxQueueAgeUs : Nat) (buffered : BufferedFrame) :
    (dropped o nowUs maxQueueAgeUs).session.media.jitter.Expired nowUs maxQueueAgeUs buffered ↔
      o.session.media.jitter.Expired nowUs maxQueueAgeUs buffered :=
  JitterBuffer.Trims.dropExpired.expired buffered

theorem mem_dropped (hadaptive : o.session.media.jitter.fixedTargetUs = none)
    {buffered : BufferedFrame} :
    buffered ∈ (dropped o nowUs maxQueueAgeUs).session.media.jitter.frames ↔
      buffered ∈ o.session.media.jitter.frames ∧
        ¬o.session.media.jitter.Expired nowUs maxQueueAgeUs buffered := by
  change buffered ∈ (o.session.media.jitter.dropExpired nowUs maxQueueAgeUs).2.frames ↔ _
  rw [JitterBuffer.dropExpired_frames_eq hadaptive, List.mem_filter, decide_eq_true_iff]

theorem stuck_turn (hnow : nowUs ≤ u64Max) (hstill : o.schedule = [])
    (h : Stuck o.session.media.jitter nowUs maxQueueAgeUs) :
    exec (drainTurn nowUs maxQueueAgeUs) o = (.ok true, dropped o nowUs maxQueueAgeUs) := by
  obtain ⟨kept, hkept, -⟩ := h.kept
  have hreports : (o.session.media.jitter.dropExpired nowUs maxQueueAgeUs).1 = false := by
    apply Bool.eq_false_of_not_eq_true
    rw [JitterBuffer.dropExpired_reports h.adaptive]
    rintro ⟨buffered, hmem, hexpired, hreference⟩
    rw [h.unbroken buffered hmem hexpired] at hreference
    cases hreference
  rw [turn_rings hstill (JitterBuffer.rings hnow h.adaptive hkept (Or.inr h.last)), exec_dropTurn,
    hreports]
  rfl

theorem stuck_dropped (h : Stuck o.session.media.jitter nowUs maxQueueAgeUs) :
    Stuck (dropped o nowUs maxQueueAgeUs).session.media.jitter nowUs maxQueueAgeUs := by
  obtain ⟨kept, hkept, hunexpired⟩ := h.kept
  refine ⟨JitterBuffer.dropExpired_timing.1.trans h.adaptive, h.last, ⟨kept, ?_, ?_⟩, ?_⟩
  · exact (mem_dropped h.adaptive).mpr ⟨hkept, hunexpired⟩
  · rw [dropped_expired]
    exact hunexpired
  · intro buffered hmem hexpired
    rw [dropped_expired] at hexpired
    exact absurd hexpired ((mem_dropped h.adaptive).mp hmem).2

theorem stuck_fails (hnow : nowUs ≤ u64Max) (hstill : o.schedule = [])
    (h : Stuck o.session.media.jitter nowUs maxQueueAgeUs) :
    ¬DrainContract nowUs maxQueueAgeUs o := by
  intro hcontract
  have hagain := stuck_dropped h
  have hshorter := hcontract.progress _ _ (.again .start (stuck_turn hnow hstill h))
    (stuck_turn hnow hstill hagain)
  change (((dropped o nowUs maxQueueAgeUs).session.media.jitter.dropExpired nowUs
    maxQueueAgeUs).2.frames.length) < _ at hshorter
  rw [JitterBuffer.dropExpired_frames_eq hagain.adaptive, List.filter_eq_self.mpr] at hshorter
  · exact Nat.lt_irrefl _ hshorter
  · intro buffered hmem
    rw [decide_eq_true_iff, dropped_expired]
    exact ((mem_dropped h.adaptive).mp hmem).2

/-- In whatever way the world moves between the owner's looks at it: the loop of `drain_jitter`
makes progress, ends, and leaves nothing to do at once, unless the queue is stopped at the end
of the clock or an expired reference ends the loop while a refresh is already awaited. -/
theorem drainContract_iff (nowUs maxQueueAgeUs : Nat) (hnow : nowUs ≤ u64Max) (o : OwnerState) :
    (∀ schedule, DrainContract nowUs maxQueueAgeUs { o with schedule := schedule }) ↔
      ¬Stuck o.session.media.jitter nowUs maxQueueAgeUs ∧ ¬EndsEarly o nowUs maxQueueAgeUs := by
  constructor
  · intro hcontract
    refine ⟨fun hstuck => ?_, fun hearly => ?_⟩
    · exact stuck_fails (o := { o with schedule := [] }) hnow rfl hstuck (hcontract [])
    · obtain ⟨o₂, hturn, himmediate⟩ := endsEarly_fails (o := { o with schedule := [] }) hnow rfl
        ⟨hearly.adaptive, hearly.broken, hearly.awaiting, hearly.requestable, hearly.behind⟩
      rw [((hcontract []).settles _ o₂ .start rfl hturn).1] at himmediate
      cases himmediate
  · rintro ⟨hstuck, hearly⟩ schedule
    constructor
    · intro o₁ o₂ hturns hturn
      exact shorter_goesOn hnow
        (unstuck_turns (o := { o with schedule := schedule }) hnow hstuck hturns) hturn
    · exact drains_loop hnow _ { o with schedule := schedule } hstuck (Nat.lt_succ_self _)
    · intro o₁ o₂ hturns hstill hturn
      refine settles_of_waits (turn_ends hnow hstill ?_ hturn)
      intro hends
      obtain rfl := endsEarly_turns hnow hturns hends
      exact hearly
        ⟨hends.adaptive, hends.broken, hends.awaiting, hends.requestable, hends.behind⟩

def sampleDelta (frameId : UInt8) : VideoPacket :=
  .ofSmall ⟨false, true, true, false, false⟩ 1 frameId frameId 0 0 [7]

/-- Two references arrive ten milliseconds apart while the first keyframe is awaited. -/
def stalling : List OwnerStep :=
  pairing ++ receiving 4 (.streamConfig (sampleConfig 1 0)) ++
    [.schedule [[.setMediaDeadline 170000, .worker (.receiveDatagrams 0 [sampleDelta 1])]],
      .pollTransportEvent,
      .schedule [[.advance 10000, .worker (.receiveDatagrams 10000 [sampleDelta 2])]],
      .pollTransportEvent]

theorem drainContract_iff_waiting : (ownerSystem samplePlatform).Reachable (ownerRun stalling) ∧
    ∀ schedule, DrainContract 20000 170000 { ownerRun stalling with schedule := schedule } := by
  refine ⟨reachable_ownerRun stalling, ?_⟩
  have hearlier : 20000 < u64Max := by
    unfold u64Max
    omega
  apply (drainContract_iff 20000 170000 hearlier.le (ownerRun stalling)).mpr
  constructor
  · intro hstuck
    have hlast := hstuck.last
    omega
  · intro hearly
    have hbroken := hearly.broken
    revert hbroken
    decide +kernel

/-- The owner looks again when only the first of them has expired: it leaves the second. -/
theorem drainContract_fails : (ownerSystem samplePlatform).Reachable (ownerRun stalling) ∧
    ¬DrainContract 175000 170000 (ownerRun stalling) := by
  refine ⟨reachable_ownerRun stalling, fun hcontract => ?_⟩
  have hwaits := hcontract.waits (by decide +kernel) (by decide +kernel)
  have himmediate : ((exec (drainTurn 175000 170000) (ownerRun stalling)).2.decisionAt 175000
      170000).immediate = true := by decide +kernel
  rw [himmediate] at hwaits
  cases hwaits

end Owner

end PicooCamera.Receiver
