import PicooCamera.Jitter.JitterBuffer

/-!
# Release and expiry of queued frames

A frame whose release time has come can be taken. A frame expires one microsecond
after the last instant at which it is kept, so that the expiry timer rings for an
expired frame, except at the last instant of the clock.
-/

namespace PicooCamera.Jitter.JitterBuffer

open PicooCamera.Packet

variable {j : JitterBuffer} {nowUs maxQueueAgeUs : Nat}

/-- The frame has been queued for longer than it may. -/
def Expired (j : JitterBuffer) (nowUs maxQueueAgeUs : Nat) (buffered : BufferedFrame) : Prop :=
  j.deadlineUs maxQueueAgeUs buffered < nowUs

instance (buffered : BufferedFrame) : Decidable (j.Expired nowUs maxQueueAgeUs buffered) :=
  inferInstanceAs (Decidable (_ < _))

theorem expirationDelay_eq_zero : j.nextExpirationDelayUs nowUs maxQueueAgeUs = some 0 ↔
    j.fixedTargetUs = none ∧
      ∃ buffered ∈ j.frames, saturatingAdd (j.deadlineUs maxQueueAgeUs buffered) 1 ≤ nowUs := by
  unfold nextExpirationDelayUs
  by_cases hfixed : j.fixedTargetUs = none
  · rw [if_neg (not_not.mpr hfixed), Option.map_eq_some_iff]
    constructor
    · rintro ⟨deadline, hmin, hzero⟩
      obtain ⟨buffered, hmem, rfl⟩ := List.mem_map.mp (List.min?_mem hmin)
      exact ⟨hfixed, buffered, hmem, Nat.le_of_sub_eq_zero hzero⟩
    · rintro ⟨-, buffered, hmem, hle⟩
      have hmapped := List.mem_map_of_mem
        (f := fun buffered => saturatingAdd (j.deadlineUs maxQueueAgeUs buffered) 1) hmem
      obtain ⟨deadline, hmin⟩ := Option.isSome_iff_exists.mp
        (List.isSome_min?_of_mem hmapped)
      refine ⟨deadline, hmin, Nat.sub_eq_zero_of_le ?_⟩
      exact ((List.min?_eq_some_iff.mp hmin).2 _ hmapped).trans hle
  · rw [if_pos hfixed]
    exact iff_of_false nofun fun h => hfixed h.1

/-- The clock of the source ends at `u64::MAX`, where the expiry timer rings for frames that
are still kept. -/
theorem rings_iff (hnow : nowUs ≤ u64Max) (buffered : BufferedFrame) :
    saturatingAdd (j.deadlineUs maxQueueAgeUs buffered) 1 ≤ nowUs ↔
      j.Expired nowUs maxQueueAgeUs buffered ∨ nowUs = u64Max := by
  have hdeadline : j.deadlineUs maxQueueAgeUs buffered ≤ u64Max := Nat.min_le_right _ _
  unfold saturatingAdd Expired
  omega

theorem rings (hnow : nowUs ≤ u64Max) (hfixed : j.fixedTargetUs = none) {buffered : BufferedFrame}
    (hmem : buffered ∈ j.frames)
    (h : j.Expired nowUs maxQueueAgeUs buffered ∨ nowUs = u64Max) :
    j.nextExpirationDelayUs nowUs maxQueueAgeUs = some 0 :=
  expirationDelay_eq_zero.mpr ⟨hfixed, buffered, hmem, (rings_iff hnow buffered).mpr h⟩

theorem releaseDelay_eq_zero (h : j.nextReleaseDelayUs nowUs = some 0) :
    ∃ front rest, j.frames = front :: rest ∧ j.decodeReleaseAtUs front.frame.ptsUs ≤ nowUs := by
  obtain ⟨front, hhead, hzero⟩ := Option.map_eq_some_iff.mp h
  obtain ⟨rest, hframes⟩ := List.head?_eq_some_iff.mp hhead
  exact ⟨front, rest, hframes, Nat.le_of_sub_eq_zero hzero⟩

theorem popReady_released (h : j.nextReleaseDelayUs nowUs = some 0) :
    ∃ frame, (j.popReady nowUs).1 = some frame ∧
      j.frames.length = (j.popReady nowUs).2.frames.length + 1 := by
  obtain ⟨front, rest, hframes, hle⟩ := releaseDelay_eq_zero h
  unfold popReady
  simp only [hframes]
  rw [if_neg (Nat.not_lt.mpr hle)]
  exact ⟨front.frame, rfl, rfl⟩

theorem popReady_sublist : (j.popReady nowUs).2.frames.Sublist j.frames := by
  unfold popReady
  split
  · exact List.Sublist.refl _
  · rename_i front rest hframes
    split
    · exact List.Sublist.refl _
    · rw [hframes]
      exact List.sublist_cons_self front rest

theorem dropExpired_frames_eq (hfixed : j.fixedTargetUs = none) :
    (j.dropExpired nowUs maxQueueAgeUs).2.frames =
      j.frames.filter fun buffered => ¬j.Expired nowUs maxQueueAgeUs buffered := by
  unfold dropExpired Expired
  rw [if_neg (not_not.mpr hfixed)]
  refine List.filter_congr fun buffered _ => ?_
  rw [decide_eq_decide]
  exact Nat.not_lt.symm

theorem dropExpired_reports (hfixed : j.fixedTargetUs = none) :
    (j.dropExpired nowUs maxQueueAgeUs).1 = true ↔ ∃ buffered ∈ j.frames,
      j.Expired nowUs maxQueueAgeUs buffered ∧ buffered.frame.discardable = false := by
  unfold dropExpired Expired
  rw [if_neg (not_not.mpr hfixed), List.any_eq_true]
  constructor
  · rintro ⟨buffered, hmem, hreference⟩
    obtain ⟨hqueued, hexpired⟩ := List.mem_filter.mp hmem
    refine ⟨buffered, hqueued, ?_, by simpa using hreference⟩
    simpa using hexpired
  · rintro ⟨buffered, hqueued, hexpired, hreference⟩
    refine ⟨buffered, List.mem_filter.mpr ⟨hqueued, ?_⟩, by simpa using hreference⟩
    simpa using hexpired

theorem dropExpired_timing : (j.dropExpired nowUs maxQueueAgeUs).2.fixedTargetUs =
    j.fixedTargetUs ∧ (j.dropExpired nowUs maxQueueAgeUs).2.adaptiveTargetUs =
      j.adaptiveTargetUs := by
  unfold dropExpired
  split <;> exact ⟨rfl, rfl⟩

theorem popReady_timing : (j.popReady nowUs).2.fixedTargetUs = j.fixedTargetUs ∧
    (j.popReady nowUs).2.adaptiveTargetUs = j.adaptiveTargetUs := by
  unfold popReady
  split
  · exact ⟨rfl, rfl⟩
  · split <;> exact ⟨rfl, rfl⟩

/-- `other` has some of the frames of `j`, and expires them as `j` does. -/
structure Trims (j other : JitterBuffer) : Prop where
  frames : other.frames.Sublist j.frames
  fixed : other.fixedTargetUs = j.fixedTargetUs
  adaptive : other.adaptiveTargetUs = j.adaptiveTargetUs

namespace Trims

variable {other : JitterBuffer}

theorem expired (h : j.Trims other) (buffered : BufferedFrame) :
    other.Expired nowUs maxQueueAgeUs buffered ↔ j.Expired nowUs maxQueueAgeUs buffered := by
  unfold Expired deadlineUs targetUs
  rw [h.fixed, h.adaptive]

theorem popReady : j.Trims (j.popReady nowUs).2 :=
  ⟨popReady_sublist, popReady_timing.1, popReady_timing.2⟩

theorem dropExpired : j.Trims (j.dropExpired nowUs maxQueueAgeUs).2 := by
  refine ⟨?_, dropExpired_timing.1, dropExpired_timing.2⟩
  unfold JitterBuffer.dropExpired
  split
  · exact List.Sublist.refl _
  · exact List.filter_sublist

end Trims

/-! ## Wake-ups -/

theorem popReady_isSome : (j.popReady nowUs).1.isSome ↔
    ∃ front rest, j.frames = front :: rest ∧ j.decodeReleaseAtUs front.frame.ptsUs ≤ nowUs := by
  unfold popReady
  cases hframes : j.frames with
  | nil => exact iff_of_false nofun fun ⟨_, _, h, _⟩ => absurd h nofun
  | cons front rest =>
      dsimp only
      by_cases hwait : nowUs < j.decodeReleaseAtUs front.frame.ptsUs
      · rw [if_pos hwait]
        refine iff_of_false nofun ?_
        rintro ⟨other, more, h, hle⟩
        obtain ⟨rfl, -⟩ := List.cons.inj h
        exact absurd hwait (Nat.not_lt.mpr hle)
      · rw [if_neg hwait]
        exact iff_of_true rfl ⟨front, rest, rfl, Nat.not_lt.mp hwait⟩

theorem popReady_early {front : BufferedFrame} {rest : List BufferedFrame}
    (hframes : j.frames = front :: rest)
    (hwait : nowUs < j.decodeReleaseAtUs front.frame.ptsUs) : j.popReady nowUs = (none, j) := by
  unfold popReady
  rw [hframes]
  exact if_pos hwait

theorem dropExpired_nothing (h : ∀ buffered ∈ j.frames, ¬j.Expired nowUs maxQueueAgeUs buffered) :
    j.dropExpired nowUs maxQueueAgeUs = (false, j) := by
  unfold dropExpired
  by_cases hfixed : j.fixedTargetUs ≠ none
  · rw [if_pos hfixed]
  · have hkeep : ∀ buffered ∈ j.frames,
        decide (nowUs ≤ j.deadlineUs maxQueueAgeUs buffered) = true := by
      intro buffered hmem
      exact decide_eq_true (Nat.not_lt.mp (h buffered hmem))
    have hnone : (j.frames.filter fun buffered =>
        !decide (nowUs ≤ j.deadlineUs maxQueueAgeUs buffered)) = [] := by
      rw [List.filter_eq_nil_iff]
      intro buffered hmem
      rw [hkeep buffered hmem]
      decide
    rw [if_neg hfixed]
    dsimp only
    rw [hnone, List.filter_eq_self.mpr hkeep]
    rfl

theorem dropExpired_removes : (j.dropExpired nowUs maxQueueAgeUs).2.frames.length <
    j.frames.length ↔ j.fixedTargetUs = none ∧
      ∃ buffered ∈ j.frames, j.Expired nowUs maxQueueAgeUs buffered := by
  by_cases hfixed : j.fixedTargetUs = none
  · rw [dropExpired_frames_eq hfixed, and_iff_right hfixed]
    constructor
    · intro hshorter
      by_contra hnone
      rw [List.filter_eq_self.mpr] at hshorter
      · exact absurd hshorter (Nat.lt_irrefl _)
      · intro buffered hmem
        exact decide_eq_true fun hexpired => hnone ⟨buffered, hmem, hexpired⟩
    · rintro ⟨buffered, hmem, hexpired⟩
      refine List.length_filter_lt_length_iff_exists.mpr ⟨buffered, hmem, ?_⟩
      simpa using hexpired
  · unfold dropExpired
    rw [if_pos hfixed]
    exact iff_of_false (Nat.lt_irrefl _) fun h => hfixed h.1

/-- The timers of the buffer and the operations they are set for agree. -/
structure WakesInTime (j : JitterBuffer) (nowUs maxQueueAgeUs : Nat) : Prop where
  releaseNow : j.nextReleaseDelayUs nowUs = some 0 ↔ (j.popReady nowUs).1.isSome
  releaseLater : ∀ delayUs, j.nextReleaseDelayUs nowUs = some delayUs → 0 < delayUs →
    (∀ t, nowUs ≤ t → t < nowUs + delayUs → j.popReady t = (none, j)) ∧
      (j.popReady (nowUs + delayUs)).1.isSome
  expirationNow : j.nextExpirationDelayUs nowUs maxQueueAgeUs = some 0 ↔
    (j.dropExpired nowUs maxQueueAgeUs).2.frames.length < j.frames.length
  expirationEarly : ∀ delayUs, j.nextExpirationDelayUs nowUs maxQueueAgeUs = some delayUs →
    ∀ t, nowUs ≤ t → t < nowUs + delayUs → j.dropExpired t maxQueueAgeUs = (false, j)
  /-- The timer of a frame whose deadline does not saturate is in time for some frame. -/
  expirationLater : ∀ delayUs, j.nextExpirationDelayUs nowUs maxQueueAgeUs = some delayUs →
    (∃ buffered ∈ j.frames,
      buffered.completedAtUs + max maxQueueAgeUs j.targetUs + 1 ≤ u64Max) →
    (j.dropExpired (nowUs + delayUs) maxQueueAgeUs).2.frames.length < j.frames.length

theorem releaseDelay_eq_some {delayUs : Nat} (h : j.nextReleaseDelayUs nowUs = some delayUs) :
    ∃ front rest, j.frames = front :: rest ∧
      delayUs = j.decodeReleaseAtUs front.frame.ptsUs - nowUs := by
  obtain ⟨front, hhead, hdelay⟩ := Option.map_eq_some_iff.mp h
  obtain ⟨rest, hframes⟩ := List.head?_eq_some_iff.mp hhead
  exact ⟨front, rest, hframes, hdelay.symm⟩

theorem expirationDelay_le {delayUs : Nat}
    (h : j.nextExpirationDelayUs nowUs maxQueueAgeUs = some delayUs) :
    j.fixedTargetUs = none ∧ ∀ buffered ∈ j.frames,
      nowUs + delayUs ≤ max nowUs (saturatingAdd (j.deadlineUs maxQueueAgeUs buffered) 1) := by
  unfold nextExpirationDelayUs at h
  by_cases hfixed : j.fixedTargetUs = none
  · rw [if_neg (not_not.mpr hfixed)] at h
    obtain ⟨deadline, hmin, rfl⟩ := Option.map_eq_some_iff.mp h
    refine ⟨hfixed, fun buffered hmem => ?_⟩
    have hle := (List.min?_eq_some_iff.mp hmin).2 _ (List.mem_map_of_mem hmem)
    omega
  · rw [if_pos hfixed] at h
    exact absurd h nofun

theorem expirationDelay_ge {delayUs : Nat}
    (h : j.nextExpirationDelayUs nowUs maxQueueAgeUs = some delayUs) :
    ∃ first ∈ j.frames, saturatingAdd (j.deadlineUs maxQueueAgeUs first) 1 ≤ nowUs + delayUs := by
  unfold nextExpirationDelayUs at h
  rw [if_neg (not_not.mpr (expirationDelay_le h).1)] at h
  obtain ⟨deadline, hmin, rfl⟩ := Option.map_eq_some_iff.mp h
  obtain ⟨first, hmem, rfl⟩ := List.mem_map.mp (List.min?_eq_some_iff.mp hmin).1
  exact ⟨first, hmem, Nat.sub_le_iff_le_add'.mp (Nat.le_refl _)⟩

/-- No wake-up is missed, and none is early. -/
theorem wakesInTime (hnow : nowUs < u64Max) : WakesInTime j nowUs maxQueueAgeUs where
  releaseNow := by
    rw [popReady_isSome]
    constructor
    · exact releaseDelay_eq_zero
    · rintro ⟨front, rest, hframes, hle⟩
      unfold nextReleaseDelayUs
      rw [hframes, List.head?_cons, Option.map_some, Nat.sub_eq_zero_of_le hle]
  releaseLater := by
    intro delayUs hdelay hpos
    obtain ⟨front, rest, hframes, rfl⟩ := releaseDelay_eq_some hdelay
    refine ⟨fun t _ ht => popReady_early hframes (by omega), ?_⟩
    exact popReady_isSome.mpr ⟨front, rest, hframes, by omega⟩
  expirationNow := by
    rw [expirationDelay_eq_zero, dropExpired_removes]
    refine and_congr_right fun _ => exists_congr fun buffered => and_congr_right fun _ => ?_
    rw [rings_iff (Nat.le_of_lt hnow)]
    exact or_iff_left (Nat.ne_of_lt hnow)
  expirationEarly := by
    intro delayUs hdelay t hfrom hbefore
    obtain ⟨-, hrings⟩ := expirationDelay_le hdelay
    refine dropExpired_nothing fun buffered hmem hexpired => ?_
    have hring := hrings buffered hmem
    have hsaturated : saturatingAdd (j.deadlineUs maxQueueAgeUs buffered) 1 ≤
        j.deadlineUs maxQueueAgeUs buffered + 1 := Nat.min_le_left _ _
    unfold Expired at hexpired
    omega
  expirationLater := by
    rintro delayUs hdelay ⟨buffered, hmem, hroom⟩
    obtain ⟨first, hfirst, hring⟩ := expirationDelay_ge hdelay
    refine dropExpired_removes.mpr ⟨(expirationDelay_le hdelay).1, ?_⟩
    unfold Expired
    unfold saturatingAdd at hring
    have hbound : j.deadlineUs maxQueueAgeUs buffered ≤
        buffered.completedAtUs + max maxQueueAgeUs j.targetUs := Nat.min_le_left _ _
    -- The first ring is its deadline's, unless that is the last instant there is.
    by_cases hlast : j.deadlineUs maxQueueAgeUs first < u64Max
    · exact ⟨first, hfirst, by omega⟩
    · exact ⟨buffered, hmem, by omega⟩

/-- One frame that completed at 40 ms, under a queue age of 100 ms. -/
def oneFrameQueued : JitterBuffer :=
  (new.pushAt ⟨1, 7, 90000, 0, 0, [], true, false⟩ 35000 40000).2

theorem wakesInTime_oneFrameQueued : WakesInTime oneFrameQueued 41000 100000 :=
  wakesInTime (by unfold u64Max; omega)

example : oneFrameQueued.nextReleaseDelayUs 41000 = some 22000 ∧
    oneFrameQueued.nextExpirationDelayUs 41000 100000 = some 99001 := by decide +kernel

end PicooCamera.Jitter.JitterBuffer
