import PicooCamera.Library.TransitionSystem

/-!
# The sample clock of the virtual camera

Slot `k` of a rate begins `k` periods after the anchor, rounded down to 100 ns. A
request takes the next slot, or the slot that the exact time since the anchor
has reached if that is a later one.
-/

namespace PicooCamera.VirtualCamera

open PicooCamera.Library

/-- A value in the range of `i128`, as the checked operations return it. -/
def checkedI128 (n : Int) : Option Int :=
  if -2 ^ 127 ≤ n ∧ n < 2 ^ 127 then some n else none

/-- `i128::checked_div`, which truncates towards zero. -/
def checkedDiv (n d : Int) : Option Int :=
  if d = 0 then none else checkedI128 (n.tdiv d)

/-- `i64::try_from`. -/
def toI64 (n : Int) : Option Int :=
  if -2 ^ 63 ≤ n ∧ n < 2 ^ 63 then some n else none

structure SampleClock where
  period100nsNum : Int
  rateNum : Int
  anchor100ns : Option Int
  lastSlot : Option Int
  deriving DecidableEq, Repr

namespace SampleClock

def forFrameRate (rateNum rateDen : UInt32) : Option SampleClock :=
  if rateNum = 0 ∨ rateDen = 0 then none
  else do
    let period ← checkedI128 (10000000 * rateDen.toNat)
    return ⟨period, rateNum.toNat, none, none⟩

def reset (c : SampleClock) : SampleClock := { c with anchor100ns := none, lastSlot := none }

/-- The slot of a request after the first, and its timestamp. -/
def advance (c : SampleClock) (anchor lastSlot now : Int) : Option (Int × Int) := do
  let nextSlot ← checkedI128 (lastSlot + 1)
  let elapsed := (checkedI128 (now - anchor)).getD 0
  let scaled ← checkedI128 (elapsed * c.rateNum)
  let elapsedSlot ← checkedDiv scaled c.period100nsNum
  let slot := max nextSlot elapsedSlot
  let position ← checkedI128 (slot * c.period100nsNum)
  let offset ← checkedDiv position c.rateNum
  let timestamp ← checkedI128 (anchor + offset)
  let timestamp ← toI64 timestamp
  return (slot, timestamp)

def nextTimestamp (c : SampleClock) (now100ns : Int64) : Option Int × SampleClock :=
  match c.anchor100ns, c.lastSlot with
  | some anchor, some lastSlot =>
      match c.advance anchor lastSlot now100ns.toInt with
      | some (slot, timestamp) => (some timestamp, { c with lastSlot := some slot })
      | none => (none, c)
  | _, _ => (some now100ns.toInt,
      { c with anchor100ns := some now100ns.toInt, lastSlot := some 0 })

/-! ## What a call should do -/

/-- The clock after a call. -/
def tick (c : SampleClock) (now : Int64) : SampleClock := (c.nextTimestamp now).2

/-- The timestamps that the calls return. -/
def timestamps : SampleClock → List Int64 → List Int
  | _, [] => []
  | c, now :: nows => (c.nextTimestamp now).1.toList ++ (c.tick now).timestamps nows

/-- The ticks from the anchor to the beginning of slot `k`. -/
def slotTime (c : SampleClock) (k : Int) : Int := k * c.period100nsNum / c.rateNum

/-- The timestamp of slot `k` of a clock with this anchor. -/
def slotStamp (c : SampleClock) (anchor k : Int) : Int := anchor + c.slotTime k

/-- The slot that a call must return: the newest one that is not in the future, if that is
later than the last one returned, and the next one otherwise. -/
structure Newest (c : SampleClock) (anchor last now slot : Int) : Prop where
  later : last < slot
  reached : (∃ k, last < k ∧ c.slotStamp anchor k ≤ now) →
    c.slotStamp anchor slot ≤ now ∧ ∀ k, c.slotStamp anchor k ≤ now → k ≤ slot
  next : (¬∃ k, last < k ∧ c.slotStamp anchor k ≤ now) → slot = last + 1

/-- A call that fails changes nothing. The first call takes its time for slot 0. -/
def CallSpec (c : SampleClock) (now : Int64) : Prop :=
  ((c.nextTimestamp now).1 = none → c.tick now = c) ∧
    ∀ timestamp, (c.nextTimestamp now).1 = some timestamp →
      (c.lastSlot = none → timestamp = now.toInt ∧ c.tick now =
        { c with anchor100ns := some timestamp, lastSlot := some 0 }) ∧
      ∀ anchor last, c.anchor100ns = some anchor → c.lastSlot = some last →
        ∃ slot, c.tick now = { c with lastSlot := some slot } ∧
          timestamp = c.slotStamp anchor slot ∧ c.Newest anchor last now.toInt slot

/-- What is asked of the calls since a reset. -/
def Monotonic (c : SampleClock) (nows : List Int64) : Prop :=
  (c.timestamps nows).Pairwise (· < ·) ∧ TransitionSystem.MeetsAll CallSpec tick c nows

/-- The call does not fall on the rounded timestamp of a slot beyond the next one. -/
def OffRounded (c : SampleClock) (now : Int64) : Prop :=
  ∀ anchor last, c.anchor100ns = some anchor → c.lastSlot = some last →
    ∀ k, last + 1 < k → c.slotStamp anchor k = now.toInt →
      c.rateNum ∣ k * c.period100nsNum

/-! ## Slots -/

/-- A clock of a rate of at most one sample a tick. -/
structure Rated (c : SampleClock) : Prop where
  rate : 0 < c.rateNum
  period : c.rateNum ≤ c.period100nsNum
  rate_lt : c.rateNum < 2 ^ 32
  period_lt : c.period100nsNum < 2 ^ 56

variable {c : SampleClock} {anchor last now slot k e : Int}

theorem slotTime_le_iff (h : Rated c) :
    c.slotTime k ≤ e ↔ k * c.period100nsNum < (e + 1) * c.rateNum := by
  unfold slotTime
  rw [← Int.lt_add_one_iff, Int.ediv_lt_iff_lt_mul h.rate]

theorem le_slotTime_iff (h : Rated c) :
    e ≤ c.slotTime k ↔ e * c.rateNum ≤ k * c.period100nsNum := by
  unfold slotTime
  exact Int.le_ediv_iff_mul_le h.rate

theorem slotTime_lt_succ (h : Rated c) (k : Int) : c.slotTime k < c.slotTime (k + 1) := by
  have hself := (le_slotTime_iff h (k := k) (e := c.slotTime k)).mp (Int.le_refl _)
  have hperiod := h.period
  rw [← Int.add_one_le_iff, le_slotTime_iff h]
  nlinarith

theorem slotTime_strictMono (h : Rated c) : StrictMono c.slotTime :=
  strictMono_int_of_lt_succ (slotTime_lt_succ h)

theorem slotTime_nonneg (h : Rated c) (hk : 0 ≤ k) : 0 ≤ c.slotTime k := by
  have hperiod := h.period
  have hrate := h.rate
  rw [le_slotTime_iff h]
  nlinarith

/-! ## One call -/

/-- The slot that the exact time since the anchor has reached. -/
def elapsedSlot (c : SampleClock) (elapsed : Int) : Int :=
  (elapsed * c.rateNum).tdiv c.period100nsNum

def chosenSlot (c : SampleClock) (anchor last now : Int) : Int :=
  max (last + 1) (c.elapsedSlot (now - anchor))

theorem elapsedSlot_of_nonneg (h : Rated c) (he : 0 ≤ e) :
    0 ≤ c.elapsedSlot e ∧ c.elapsedSlot e * c.period100nsNum ≤ e * c.rateNum ∧
      e * c.rateNum < (c.elapsedSlot e + 1) * c.period100nsNum := by
  have hperiod : 0 < c.period100nsNum := Int.lt_of_lt_of_le h.rate h.period
  have hscaled : 0 ≤ e * c.rateNum := Int.mul_nonneg he (Int.le_of_lt h.rate)
  unfold elapsedSlot
  rw [Int.tdiv_eq_ediv_of_nonneg hscaled]
  exact ⟨Int.ediv_nonneg hscaled (Int.le_of_lt hperiod), Int.ediv_mul_le _ (by omega),
    Int.lt_ediv_add_one_mul_self _ hperiod⟩

theorem elapsedSlot_of_neg (h : Rated c) (he : e < 0) : c.elapsedSlot e ≤ 0 := by
  have hperiod : 0 < c.period100nsNum := Int.lt_of_lt_of_le h.rate h.period
  have hscaled : 0 ≤ -(e * c.rateNum) := by
    have := h.rate
    nlinarith
  have hneg : c.elapsedSlot e = -((-(e * c.rateNum)) / c.period100nsNum) := by
    unfold elapsedSlot
    rw [← Int.tdiv_eq_ediv_of_nonneg hscaled, Int.neg_tdiv, neg_neg]
  have := Int.ediv_nonneg hscaled (Int.le_of_lt hperiod)
  omega

theorem lt_chosenSlot (c : SampleClock) (anchor last now : Int) :
    last < c.chosenSlot anchor last now := by
  unfold chosenSlot
  omega

theorem lt_of_chosenSlot_lt (h : Rated c) (he : anchor ≤ now)
    (hk : c.chosenSlot anchor last now < k) :
    (now - anchor) * c.rateNum < k * c.period100nsNum := by
  have hperiod : 0 < c.period100nsNum := Int.lt_of_lt_of_le h.rate h.period
  obtain ⟨_, _, hlt⟩ := elapsedSlot_of_nonneg h (e := now - anchor) (by omega)
  have hle : c.elapsedSlot (now - anchor) + 1 ≤ k := by
    unfold chosenSlot at hk
    omega
  exact Int.lt_of_lt_of_le hlt (Int.mul_le_mul_of_nonneg_right hle (Int.le_of_lt hperiod))

theorem slotTime_elapsedSlot_le (h : Rated c) (he : 0 ≤ e) :
    c.slotTime (c.elapsedSlot e) ≤ e := by
  obtain ⟨_, hle, _⟩ := elapsedSlot_of_nonneg h he
  have := h.rate
  rw [slotTime_le_iff h]
  nlinarith

theorem rounded_of_chosenSlot_lt (h : Rated c) (hlast : 0 ≤ last)
    (hle : c.slotStamp anchor k ≤ now) (hk : c.chosenSlot anchor last now < k) :
    c.slotStamp anchor k = now ∧ ¬c.rateNum ∣ k * c.period100nsNum := by
  have hrate := h.rate
  have hpositive : 0 ≤ c.slotTime k := by
    have := lt_chosenSlot c anchor last now
    exact slotTime_nonneg h (by omega)
  unfold slotStamp at *
  have hexact := lt_of_chosenSlot_lt h (by omega) hk
  have hstamp : c.slotTime k = now - anchor := by
    have hge := (le_slotTime_iff h (k := k) (e := now - anchor)).mpr (Int.le_of_lt hexact)
    omega
  refine ⟨by omega, ?_⟩
  rintro ⟨m, hm⟩
  have hslot : c.slotTime k = m := by
    unfold slotTime
    rw [hm, Int.mul_ediv_cancel_left _ (by omega)]
  rw [hm, ← hstamp, hslot, Int.mul_comm] at hexact
  exact Int.lt_irrefl _ hexact

theorem chosenSlot_le_now (h : Rated c) (hlast : 0 ≤ last) (hk : last < k)
    (hstamp : c.slotStamp anchor k ≤ now) :
    c.slotStamp anchor (c.chosenSlot anchor last now) ≤ now := by
  unfold slotStamp at *
  have hpast := slotTime_nonneg h (k := k) (by omega)
  have hnext : c.slotTime (last + 1) ≤ now - anchor := by
    have := (slotTime_strictMono h).monotone (show last + 1 ≤ k by omega)
    omega
  have hexact := slotTime_elapsedSlot_le h (e := now - anchor) (by omega)
  unfold chosenSlot
  obtain hmax | hmax := max_choice (last + 1) (c.elapsedSlot (now - anchor)) <;>
    rw [hmax] <;> omega

/-- The chosen slot is the newest one exactly when the present does not fall on the rounded
timestamp of a slot beyond the next one. -/
theorem newest_chosenSlot_iff (h : Rated c) (hlast : 0 ≤ last) :
    c.Newest anchor last now (c.chosenSlot anchor last now) ↔
      ∀ k, last + 1 < k → c.slotStamp anchor k = now → c.rateNum ∣ k * c.period100nsNum := by
  constructor
  · intro hnewest k hk hstamp
    by_contra hrounded
    have hle := (hnewest.reached ⟨k, by omega, by omega⟩).2 k (by omega)
    have hpast : anchor ≤ now := by
      have := slotTime_nonneg h (k := k) (by omega)
      unfold slotStamp at hstamp
      omega
    have hreached : k ≤ c.elapsedSlot (now - anchor) := by
      unfold chosenSlot at hle
      omega
    -- the exact time reaches a slot whose timestamp was rounded only after the present
    obtain ⟨_, hslot, _⟩ := elapsedSlot_of_nonneg h (e := now - anchor) (by omega)
    have hperiod : 0 < c.period100nsNum := Int.lt_of_lt_of_le h.rate h.period
    have hupper : k * c.period100nsNum ≤ (now - anchor) * c.rateNum :=
      Int.le_trans (Int.mul_le_mul_of_nonneg_right hreached (Int.le_of_lt hperiod)) hslot
    have hlower : (now - anchor) * c.rateNum ≤ k * c.period100nsNum := by
      apply (le_slotTime_iff h).mp
      unfold slotStamp at hstamp
      omega
    exact hrounded ⟨now - anchor, by rw [Int.mul_comm c.rateNum]; omega⟩
  · intro hoff
    refine ⟨lt_chosenSlot c anchor last now, ?_, ?_⟩
    · rintro ⟨k, hk, hstamp⟩
      refine ⟨chosenSlot_le_now h hlast hk hstamp, ?_⟩
      intro j hj
      by_contra hlater
      obtain ⟨hpresent, hrounded⟩ := rounded_of_chosenSlot_lt h hlast hj (by omega)
      have := lt_chosenSlot c anchor last now
      exact hrounded (hoff j (by omega) hpresent)
    · intro hnone
      by_contra hother
      have hreached : last < c.elapsedSlot (now - anchor) := by
        unfold chosenSlot at hother
        omega
      apply hnone
      refine ⟨c.elapsedSlot (now - anchor), hreached, ?_⟩
      have hpast : 0 ≤ now - anchor := by
        by_contra hneg
        have := elapsedSlot_of_neg h (e := now - anchor) (by omega)
        omega
      have := slotTime_elapsedSlot_le h hpast
      unfold slotStamp
      omega

/-! ## No call overflows -/

/-- The slot's exact time is that of some timestamp since the anchor. -/
structure InRange (c : SampleClock) (anchor last : Int) : Prop where
  lower : -2 ^ 63 ≤ anchor
  upper : anchor < 2 ^ 63
  nonneg : 0 ≤ last
  exact : last * c.period100nsNum < 2 ^ 97

theorem InRange.scaled (hrange : c.InRange anchor last) (h : Rated c) (hlower : -2 ^ 63 ≤ now)
    (hupper : now < 2 ^ 63) :
    -2 ^ 96 < (now - anchor) * c.rateNum ∧ (now - anchor) * c.rateNum < 2 ^ 96 := by
  have hrate := h.rate
  have hlt := h.rate_lt
  have := hrange.lower
  have := hrange.upper
  constructor <;> nlinarith

theorem InRange.chosen (hrange : c.InRange anchor last) (h : Rated c) (hlower : -2 ^ 63 ≤ now)
    (hupper : now < 2 ^ 63) :
    0 ≤ c.chosenSlot anchor last now ∧
      c.chosenSlot anchor last now * c.period100nsNum < 2 ^ 98 := by
  have hnonneg := hrange.nonneg
  have hexact := hrange.exact
  have hperiod := h.period_lt
  have hlater := lt_chosenSlot c anchor last now
  refine ⟨by omega, ?_⟩
  unfold chosenSlot
  obtain hmax | hmax := max_choice (last + 1) (c.elapsedSlot (now - anchor))
  · rw [hmax, Int.add_mul, Int.one_mul]
    omega
  · rw [hmax]
    by_cases hpast : 0 ≤ now - anchor
    · obtain ⟨_, hslot, _⟩ := elapsedSlot_of_nonneg h hpast
      have := (hrange.scaled h hlower hupper).2
      omega
    · have hneg := elapsedSlot_of_neg h (e := now - anchor) (by omega)
      have := h.rate
      have := h.period
      nlinarith

theorem checkedI128_of_lt {n : Int} (hlower : -2 ^ 100 ≤ n) (hupper : n < 2 ^ 100) :
    checkedI128 n = some n := by
  unfold checkedI128
  exact if_pos ⟨by omega, by omega⟩

theorem advance_eq (h : Rated c) (hrange : c.InRange anchor last) (hlower : -2 ^ 63 ≤ now)
    (hupper : now < 2 ^ 63) :
    c.advance anchor last now =
      (toI64 (c.slotStamp anchor (c.chosenSlot anchor last now))).map
        (c.chosenSlot anchor last now, ·) := by
  have hrate := h.rate
  have hperiod : 0 < c.period100nsNum := Int.lt_of_lt_of_le hrate h.period
  have hanchorLower := hrange.lower
  have hanchorUpper := hrange.upper
  have hlastUpper : last < 2 ^ 97 := by
    have := hrange.exact
    have := hrange.nonneg
    nlinarith
  obtain ⟨hscaledLower, hscaledUpper⟩ := hrange.scaled h hlower hupper
  obtain ⟨hslot, hposition⟩ := hrange.chosen h hlower hupper
  have hslotUpper : c.chosenSlot anchor last now < 2 ^ 98 := by nlinarith
  have hpositionNonneg : 0 ≤ c.chosenSlot anchor last now * c.period100nsNum :=
    Int.mul_nonneg hslot (Int.le_of_lt hperiod)
  have helapsedSlot : -2 ^ 100 ≤ c.elapsedSlot (now - anchor) ∧
      c.elapsedSlot (now - anchor) < 2 ^ 100 := by
    constructor
    · by_cases hpast : 0 ≤ now - anchor
      · have := (elapsedSlot_of_nonneg h hpast).1
        omega
      · unfold elapsedSlot
        have habs := Int.natAbs_tdiv_le_natAbs ((now - anchor) * c.rateNum) c.period100nsNum
        omega
    · have : c.elapsedSlot (now - anchor) ≤ c.chosenSlot anchor last now := by
        unfold chosenSlot
        omega
      omega
  have htime : c.slotTime (c.chosenSlot anchor last now) < 2 ^ 98 := by
    have hself := (le_slotTime_iff h (k := c.chosenSlot anchor last now)).mp (Int.le_refl _)
    have := slotTime_nonneg h hslot
    nlinarith
  have htimeNonneg := slotTime_nonneg h hslot
  have hdiv : (c.chosenSlot anchor last now * c.period100nsNum).tdiv c.rateNum =
      c.slotTime (c.chosenSlot anchor last now) :=
    Int.tdiv_eq_ediv_of_nonneg hpositionNonneg
  unfold advance checkedDiv
  rw [checkedI128_of_lt (n := last + 1) (by have := hrange.nonneg; omega) (by omega),
    checkedI128_of_lt (n := now - anchor) (by omega) (by omega)]
  dsimp only [Option.bind_eq_bind, Option.bind_some, Option.getD_some]
  rw [checkedI128_of_lt (by omega) (by omega), Option.bind_some, if_neg (by omega)]
  change (checkedI128 (c.elapsedSlot (now - anchor))).bind _ = _
  rw [checkedI128_of_lt helapsedSlot.1 helapsedSlot.2, Option.bind_some]
  change (checkedI128 (c.chosenSlot anchor last now * c.period100nsNum)).bind _ = _
  rw [checkedI128_of_lt (by omega) (by omega), Option.bind_some, if_neg (by omega), hdiv,
    checkedI128_of_lt (by omega) (by omega), Option.bind_some,
    checkedI128_of_lt (by omega) (by omega), Option.bind_some]
  change (toI64 (c.slotStamp anchor (c.chosenSlot anchor last now))).bind _ = _
  cases toI64 (c.slotStamp anchor (c.chosenSlot anchor last now)) <;> rfl

/-! ## Runs -/

structure Known (c : SampleClock) : Prop where
  rated : Rated c
  fresh : c.anchor100ns = none ↔ c.lastSlot = none
  inRange : ∀ anchor last, c.anchor100ns = some anchor → c.lastSlot = some last →
    c.InRange anchor last

theorem nextTimestamp_first {now : Int64} (hanchor : c.anchor100ns = none) :
    c.nextTimestamp now = (some now.toInt,
      { c with anchor100ns := some now.toInt, lastSlot := some 0 }) := by
  unfold nextTimestamp
  rw [hanchor]

theorem nextTimestamp_later (now : Int64) (h : Known c) (hanchor : c.anchor100ns = some anchor)
    (hlast : c.lastSlot = some last) :
    (c.slotStamp anchor (c.chosenSlot anchor last now.toInt) < 2 ^ 63 ∧
      c.nextTimestamp now =
        (some (c.slotStamp anchor (c.chosenSlot anchor last now.toInt)),
          { c with lastSlot := some (c.chosenSlot anchor last now.toInt) })) ∨
    2 ^ 63 ≤ c.slotStamp anchor (c.chosenSlot anchor last now.toInt) ∧
      c.nextTimestamp now = (none, c) := by
  have hrange := h.inRange anchor last hanchor hlast
  have hlower : -2 ^ 63 ≤ c.slotStamp anchor (c.chosenSlot anchor last now.toInt) := by
    have := slotTime_nonneg h.rated
      (hrange.chosen h.rated now.le_toInt now.toInt_lt).1
    have := hrange.lower
    unfold slotStamp
    omega
  unfold nextTimestamp
  rw [hanchor, hlast]
  dsimp only
  rw [advance_eq h.rated hrange now.le_toInt now.toInt_lt]
  unfold toI64
  by_cases hupper : c.slotStamp anchor (c.chosenSlot anchor last now.toInt) < 2 ^ 63
  · rw [if_pos ⟨hlower, hupper⟩]
    exact .inl ⟨hupper, rfl⟩
  · rw [if_neg (fun hin => hupper hin.2)]
    exact .inr ⟨Int.not_lt.mp hupper, rfl⟩

theorem Known.lastSlot_of_anchor (h : Known c) (hanchor : c.anchor100ns = some anchor) :
    ∃ last, c.lastSlot = some last := by
  apply Option.isSome_iff_exists.mp
  rw [Option.isSome_iff_ne_none, ne_eq, ← h.fresh, hanchor]
  simp

theorem Known.tick (h : Known c) (now : Int64) : Known (c.tick now) := by
  have hlower := now.le_toInt
  have hupper := now.toInt_lt
  unfold SampleClock.tick
  cases hanchor : c.anchor100ns with
  | none =>
      rw [nextTimestamp_first hanchor]
      refine ⟨⟨h.rated.rate, h.rated.period, h.rated.rate_lt, h.rated.period_lt⟩, by simp, ?_⟩
      intro anchor last ha hl
      obtain rfl := Option.some.inj ha
      obtain rfl := Option.some.inj hl
      exact ⟨hlower, hupper, Int.le_refl _, by rw [Int.zero_mul]; omega⟩
  | some anchor =>
      obtain ⟨last, hlast⟩ := h.lastSlot_of_anchor hanchor
      have hrange := h.inRange anchor last hanchor hlast
      obtain ⟨hstamp, hnext⟩ | ⟨_, hnext⟩ := nextTimestamp_later _ h hanchor hlast
      · rw [hnext]
        refine ⟨⟨h.rated.rate, h.rated.period, h.rated.rate_lt, h.rated.period_lt⟩, ?_, ?_⟩
        · simp [hanchor]
        · intro anchor' last' ha hl
          obtain rfl := Option.some.inj (hanchor.symm.trans ha)
          obtain rfl := Option.some.inj hl
          have hanchorLower := hrange.lower
          refine ⟨hrange.lower, hrange.upper, (hrange.chosen h.rated hlower hupper).1, ?_⟩
          have htime : c.slotTime (c.chosenSlot anchor last now.toInt) ≤ 2 ^ 64 := by
            unfold slotStamp at hstamp
            omega
          have hexact := (slotTime_le_iff h.rated).mp htime
          have hrate := h.rated.rate_lt
          have : (2 ^ 64 + 1) * c.rateNum ≤ 2 ^ 97 := by omega
          exact Int.lt_of_lt_of_le hexact this
      · rw [hnext]
        exact h

theorem known_forFrameRate {rateNum rateDen : UInt32} (h : forFrameRate rateNum rateDen = some c)
    (hrate : rateNum.toNat ≤ 10000000 * rateDen.toNat) : Known c := by
  unfold forFrameRate at h
  split at h
  · cases h
  · rename_i hpositive
    have hnum := rateNum.toNat_lt
    have hden := rateDen.toNat_lt
    have hne : rateNum.toNat ≠ 0 := by
      intro hzero
      exact hpositive (.inl (UInt32.toNat_inj.mp hzero))
    rw [checkedI128_of_lt (by omega) (by omega)] at h
    obtain rfl := Option.some.inj h
    refine ⟨⟨?_, ?_, ?_, ?_⟩, Iff.rfl, by simp⟩ <;> dsimp only <;> omega

theorem callSpec_first (hanchor : c.anchor100ns = none) (now : Int64) : CallSpec c now := by
  unfold CallSpec SampleClock.tick
  rw [nextTimestamp_first hanchor]
  refine ⟨nofun, ?_⟩
  intro timestamp htimestamp
  obtain rfl := Option.some.inj htimestamp
  refine ⟨fun _ => ⟨rfl, rfl⟩, ?_⟩
  intro anchor last ha
  rw [hanchor] at ha
  cases ha

theorem offRounded_iff (hanchor : c.anchor100ns = some anchor) (hlast : c.lastSlot = some last)
    (now : Int64) :
    OffRounded c now ↔ ∀ k, last + 1 < k → c.slotStamp anchor k = now.toInt →
      c.rateNum ∣ k * c.period100nsNum := by
  constructor
  · intro hall
    exact hall anchor last hanchor hlast
  · intro hall anchor' last' ha hl
    obtain rfl := Option.some.inj (hanchor.symm.trans ha)
    obtain rfl := Option.some.inj (hlast.symm.trans hl)
    exact hall

theorem callSpec_iff (h : Known c) (now : Int64) : CallSpec c now ↔ OffRounded c now := by
  cases hanchor : c.anchor100ns with
  | none =>
      refine iff_of_true (callSpec_first hanchor now) ?_
      intro anchor last ha
      rw [hanchor] at ha
      cases ha
  | some anchor =>
      obtain ⟨last, hlast⟩ := h.lastSlot_of_anchor hanchor
      have hrange := h.inRange anchor last hanchor hlast
      rw [offRounded_iff hanchor hlast, ← newest_chosenSlot_iff h.rated hrange.nonneg]
      obtain ⟨_, hnext⟩ | ⟨hstamp, hnext⟩ := nextTimestamp_later now h hanchor hlast
      · constructor
        · intro hspec
          obtain ⟨slot, htick, _, hnewest⟩ :=
            (hspec.2 _ (congrArg Prod.fst hnext)).2 anchor last hanchor hlast
          have hslot := congrArg SampleClock.lastSlot htick
          unfold SampleClock.tick at hslot
          rw [hnext] at hslot
          obtain rfl := Option.some.inj hslot
          exact hnewest
        · intro hnewest
          unfold CallSpec SampleClock.tick
          rw [hnext]
          refine ⟨nofun, ?_⟩
          intro timestamp htimestamp
          obtain rfl := Option.some.inj htimestamp
          refine ⟨?_, ?_⟩
          · intro hnone
            rw [hlast] at hnone
            cases hnone
          · intro anchor' last' ha hl
            obtain rfl := Option.some.inj (hanchor.symm.trans ha)
            obtain rfl := Option.some.inj (hlast.symm.trans hl)
            exact ⟨_, rfl, rfl, hnewest⟩
      · refine iff_of_true ?_ ?_
        · unfold CallSpec SampleClock.tick
          rw [hnext]
          refine ⟨fun _ => rfl, ?_⟩
          intro timestamp htimestamp
          cases htimestamp
        · rw [newest_chosenSlot_iff h.rated hrange.nonneg]
          intro k hk hpresent
          have := chosenSlot_le_now h.rated hrange.nonneg (show last < k by omega)
            (Int.le_of_eq hpresent)
          have := now.toInt_lt
          omega

theorem later_timestamps (nows : List Int64) (h : Known c) (hanchor : c.anchor100ns = some anchor)
    (hlast : c.lastSlot = some last) :
    (∀ t ∈ c.timestamps nows, c.slotStamp anchor last < t) ∧
      (c.timestamps nows).Pairwise (· < ·) := by
  induction nows generalizing c last with
  | nil => exact ⟨by simp [timestamps], List.Pairwise.nil⟩
  | cons now nows ih =>
      unfold timestamps SampleClock.tick
      have hknown := h.tick now
      unfold SampleClock.tick at hknown
      obtain ⟨_, hnext⟩ | ⟨_, hnext⟩ := nextTimestamp_later now h hanchor hlast
      · rw [hnext] at hknown ⊢
        obtain ⟨hrest, hpairwise⟩ := ih hknown hanchor rfl
        have hstep : c.slotStamp anchor last <
            c.slotStamp anchor (c.chosenSlot anchor last now.toInt) := by
          have := slotTime_strictMono h.rated (lt_chosenSlot c anchor last now.toInt)
          unfold slotStamp
          omega
        simp only [Option.toList_some, List.singleton_append]
        refine ⟨?_, List.pairwise_cons.mpr ⟨hrest, hpairwise⟩⟩
        intro t ht
        obtain rfl | ht := List.mem_cons.mp ht
        · exact hstep
        · exact Int.lt_trans hstep (hrest t ht)
      · rw [hnext] at hknown ⊢
        simpa using ih hknown hanchor hlast

theorem pairwise_timestamps (nows : List Int64) (h : Known c) (hanchor : c.anchor100ns = none) :
    (c.timestamps nows).Pairwise (· < ·) := by
  cases nows with
  | nil => exact List.Pairwise.nil
  | cons now nows =>
      unfold timestamps SampleClock.tick
      have hknown := h.tick now
      unfold SampleClock.tick at hknown
      rw [nextTimestamp_first hanchor] at hknown ⊢
      obtain ⟨hrest, hpairwise⟩ := later_timestamps nows hknown rfl rfl
      simp only [Option.toList_some, List.singleton_append]
      refine List.pairwise_cons.mpr ⟨?_, hpairwise⟩
      intro t ht
      have := hrest t ht
      unfold slotStamp slotTime at this
      simpa using this

/-- The calls since a reset return what they should exactly when no call after the first
falls on the rounded timestamp of a slot beyond the next one. -/
theorem sample_clock_monotonic_iff {rateNum rateDen : UInt32}
    (h : forFrameRate rateNum rateDen = some c)
    (hrate : rateNum.toNat ≤ 10000000 * rateDen.toNat) (nows : List Int64) :
    c.Monotonic nows ↔ TransitionSystem.MeetsAll OffRounded SampleClock.tick c nows := by
  have hknown := known_forFrameRate h hrate
  have hfresh : c.anchor100ns = none := by
    unfold forFrameRate at h
    split at h
    · cases h
    · obtain ⟨period, _, hc⟩ := Option.bind_eq_some_iff.mp h
      obtain rfl := Option.some.inj hc
      rfl
  unfold Monotonic
  rw [TransitionSystem.meetsAll_congr (C := CallSpec) (D := OffRounded) (f := SampleClock.tick)
    (fun _ now hc => Known.tick hc now) (fun _ now hc => callSpec_iff hc now) hknown]
  exact and_iff_right (pairwise_timestamps nows hknown hfresh)

/-- The clock of 30 frames a second. -/
def thirtyFps : SampleClock := ⟨10000000, 30, none, none⟩

/-- At 30 frames a second, a request at the timestamp of slot 2 gets slot 1. -/
theorem sample_clock_misses_rounded_slot :
    forFrameRate 30 1 = some thirtyFps ∧ thirtyFps.timestamps [0, 666666] = [0, 333333] ∧
      thirtyFps.slotStamp 0 2 = 666666 ∧ ¬thirtyFps.Monotonic [0, 666666] := by
  refine ⟨by decide +kernel, by decide +kernel, by decide +kernel, ?_⟩
  intro hmonotonic
  have hspec : CallSpec (thirtyFps.tick 0) 666666 := hmonotonic.2.2.1
  have hreturned : ((thirtyFps.tick 0).nextTimestamp 666666).1 = some 333333 := by decide +kernel
  obtain ⟨slot, htick, _, hnewest⟩ :=
    (hspec.2 333333 hreturned).2 0 0 (by decide +kernel) (by decide +kernel)
  have hstamp : (thirtyFps.tick 0).slotStamp 0 2 ≤ (666666 : Int64).toInt := by decide +kernel
  have hreached := (hnewest.reached ⟨2, by decide, hstamp⟩).2 2 hstamp
  have hlast : ((thirtyFps.tick 0).tick 666666).lastSlot = some 1 := by decide +kernel
  rw [htick] at hlast
  obtain rfl := Option.some.inj hlast
  exact absurd hreached (by decide)

theorem sample_clock_monotonic_iff_thirty :
    thirtyFps.Monotonic [0, 5] ↔
      TransitionSystem.MeetsAll OffRounded SampleClock.tick thirtyFps [0, 5] := by
  have hrate : forFrameRate 30 1 = some thirtyFps := by decide +kernel
  exact sample_clock_monotonic_iff hrate (by decide) [0, 5]

end SampleClock

end PicooCamera.VirtualCamera
