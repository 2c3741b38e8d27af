import PicooCamera.Library.TransitionSystem

/-!
# Bounded bitrate adaptation

The Sender keeps the encoder bitrate on the ladder of the committed height.
Feedback lowers it at once and raises it after five clean windows in a row.
The lowering side answers `Hold` at the bottom of the ladder; the raising side
answers `Increase` at the top of it, where nothing is left to raise.
-/

namespace PicooCamera.RateControl

open PicooCamera.Library TransitionSystem

/-! ## Measurements -/

/-- A value of type `f64`. -/
inductive Measure where
  | nan
  | negInfinity
  | finite (value : ℚ)
  | infinity
  deriving DecidableEq, Repr

namespace Measure

/-- `self > bound`. -/
def exceeds : Measure → ℚ → Bool
  | nan, _ | negInfinity, _ => false
  | finite value, bound => bound < value
  | infinity, _ => true

/-- `self < bound`. -/
def below : Measure → ℚ → Bool
  | nan, _ | infinity, _ => false
  | finite value, bound => value < bound
  | negInfinity, _ => true

/-- `self <= bound`. -/
def atMost : Measure → ℚ → Bool
  | nan, _ | infinity, _ => false
  | finite value, bound => value ≤ bound
  | negInfinity, _ => true

end Measure

def roundHalfEven (q : ℚ) : ℤ :=
  if q - ⌊q⌋ < 1 / 2 then ⌊q⌋
  else if 1 / 2 < q - ⌊q⌋ then ⌊q⌋ + 1
  else if ⌊q⌋ % 2 = 0 then ⌊q⌋ else ⌊q⌋ + 1

/-- The `f64` nearest to a positive rational between `2⁻⁶⁴` and `2⁶⁴`. -/
def nearestF64 (q : ℚ) : ℚ :=
  if q = 0 then 0
  else roundHalfEven (q / 2 ^ (Int.log 2 q - 52)) * 2 ^ (Int.log 2 q - 52)

/-- `count as f64 / total as f64`. -/
def quotientF64 (count total : Nat) : ℚ := nearestF64 (nearestF64 count / nearestF64 total)

/-! ## The controller -/

structure BitrateLadder where
  minBps : Nat
  maxBps : Nat
  initialBps : Nat
  deriving DecidableEq, Repr

def BitrateLadder.forHeight : Nat → Option BitrateLadder
  | 1080 => some { minBps := 3000000, maxBps := 10000000, initialBps := 6000000 }
  | 720 => some { minBps := 1500000, maxBps := 5000000, initialBps := 3000000 }
  | _ => none

/-- The fields of the feedback that the controller reads. -/
structure ReceiverStats where
  packetLoss : Measure
  reassemblyDrop : Nat
  decoderDrop : Nat
  frameAgeMs : Measure
  senderQueueAgeMs : Measure
  senderQueueDroppedAccessUnits : Nat
  senderQuicLostPackets : Nat
  senderQuicSentPackets : Nat
  senderVideoBufferedBytes : Nat

def ReceiverStats.default : ReceiverStats where
  packetLoss := .finite 0
  reassemblyDrop := 0
  decoderDrop := 0
  frameAgeMs := .finite 0
  senderQueueAgeMs := .finite 0
  senderQueueDroppedAccessUnits := 0
  senderQuicLostPackets := 0
  senderQuicSentPackets := 0
  senderVideoBufferedBytes := 0

inductive BitrateAction where
  | hold
  | increase
  | decrease
  deriving DecidableEq, Repr

structure BitrateController where
  currentBitrateBps : Nat
  minBps : Nat
  maxBps : Nat
  stableSeconds : Nat
  staleFrameTicks : Nat
  lastSenderQueueDrops : Nat
  lastSenderQuicLostPackets : Nat
  lastSenderQuicSentPackets : Nat
  thermalHold : Bool
  activeHeight : Nat
  preferredHeight : Nat
  deriving DecidableEq, Repr

namespace BitrateController

def new (initialBps minBps maxBps : Nat) : BitrateController where
  currentBitrateBps := initialBps
  minBps := minBps
  maxBps := maxBps
  stableSeconds := 0
  staleFrameTicks := 0
  lastSenderQueueDrops := 0
  lastSenderQuicLostPackets := 0
  lastSenderQuicSentPackets := 0
  thermalHold := false
  activeHeight := 1080
  preferredHeight := 1080

def forHeight (height : Nat) : Option BitrateController := do
  let ladder ← BitrateLadder.forHeight height
  pure { new ladder.initialBps ladder.minBps ladder.maxBps with
    activeHeight := height
    preferredHeight := height }

/-- `u32::clamp`. -/
def clampBps (bps lo hi : Nat) : Nat := max lo (min bps hi)

/-- `u32::saturating_add(1)`. -/
def countTick (ticks : Nat) : Nat := min (ticks + 1) (2 ^ 32 - 1)

def applyLadder (c : BitrateController) (ladder : BitrateLadder) (resetCurrent : Bool) :
    BitrateController :=
  { c with
    minBps := ladder.minBps
    maxBps := ladder.maxBps
    currentBitrateBps :=
      if resetCurrent then ladder.initialBps
      else clampBps c.currentBitrateBps ladder.minBps ladder.maxBps }

def setPreferredHeight (c : BitrateController) (height : Nat) : BitrateController × Bool :=
  match BitrateLadder.forHeight height with
  | none => (c, false)
  | some ladder =>
      let c := { c with preferredHeight := height }
      (if c.activeHeight = height then c.applyLadder ladder false else c, true)

def setThermalHold (c : BitrateController) (hold : Bool) : BitrateController :=
  if c.thermalHold ≠ hold then { c with thermalHold := hold, stableSeconds := 0 } else c

def syncEncodeHeight (c : BitrateController) (height : Nat) : BitrateController × Bool :=
  match BitrateLadder.forHeight height with
  | none => (c, false)
  | some ladder =>
      (if height ≠ c.activeHeight then
        { { c with activeHeight := height }.applyLadder ladder true with
          stableSeconds := 0
          staleFrameTicks := 0 }
      else c, true)

/-- `current as f64 * 0.8`, truncated. -/
def reduced (bps : Nat) : Nat := min (bps * 8 / 10) (2 ^ 32 - 1)

/-- `current as f64 * 1.1`, truncated. -/
def increased (bps : Nat) : Nat := min (bps * 11 / 10) (2 ^ 32 - 1)

/-- The counters that `update` keeps of the feedback, before it decides. -/
def noteStats (c : BitrateController) (stats : ReceiverStats) : BitrateController :=
  { c with
    staleFrameTicks :=
      if stats.frameAgeMs.exceeds 200 then countTick c.staleFrameTicks else 0
    lastSenderQueueDrops := stats.senderQueueDroppedAccessUnits
    lastSenderQuicLostPackets := stats.senderQuicLostPackets
    lastSenderQuicSentPackets := stats.senderQuicSentPackets }

def senderQueueDrop (c : BitrateController) (stats : ReceiverStats) : Bool :=
  c.lastSenderQueueDrops < stats.senderQueueDroppedAccessUnits

def senderQuicLoss (c : BitrateController) (stats : ReceiverStats) : ℚ :=
  if stats.senderQuicSentPackets - c.lastSenderQuicSentPackets = 0 then 0
  else quotientF64 (stats.senderQuicLostPackets - c.lastSenderQuicLostPackets)
    (stats.senderQuicSentPackets - c.lastSenderQuicSentPackets)

/-- The thresholds `0.03`, `0.02`, `0.01` and `0.005` are `f64` literals. -/
def congested (c : BitrateController) (stats : ReceiverStats) : Bool :=
  stats.packetLoss.exceeds (1080863910568919 / 2 ^ 55) ||
    decide (0 < stats.reassemblyDrop) ||
    decide (0 < stats.decoderDrop) ||
    stats.senderQueueAgeMs.exceeds 50 ||
    c.senderQueueDrop stats ||
    decide (96 * 1024 < stats.senderVideoBufferedBytes) ||
    decide (5764607523034235 / 2 ^ 58 < c.senderQuicLoss stats) ||
    decide (3 ≤ (c.noteStats stats).staleFrameTicks)

def clean (c : BitrateController) (stats : ReceiverStats) : Bool :=
  stats.packetLoss.below (5764607523034235 / 2 ^ 59) &&
    decide (stats.reassemblyDrop = 0) &&
    decide (stats.decoderDrop = 0) &&
    stats.senderQueueAgeMs.atMost 50 &&
    decide (stats.senderVideoBufferedBytes ≤ 32 * 1024) &&
    decide (c.senderQuicLoss stats < 5764607523034235 / 2 ^ 60) &&
    stats.frameAgeMs.below 200

def update (c : BitrateController) (stats : ReceiverStats) : BitrateController × BitrateAction :=
  let noted := c.noteStats stats
  if c.congested stats then
    if c.currentBitrateBps ≤ c.minBps then ({ noted with stableSeconds := 0 }, .hold)
    else
      ({ noted with
        stableSeconds := 0
        currentBitrateBps := clampBps (reduced c.currentBitrateBps) c.minBps c.maxBps },
        .decrease)
  else if c.clean stats then
    if c.thermalHold then ({ noted with stableSeconds := 0 }, .hold)
    else if 5 ≤ countTick c.stableSeconds then
      ({ noted with
        stableSeconds := 0
        currentBitrateBps := clampBps (increased c.currentBitrateBps) c.minBps c.maxBps },
        .increase)
    else ({ noted with stableSeconds := countTick c.stableSeconds }, .hold)
  else ({ noted with stableSeconds := 0 }, .hold)

/-! ## Runs -/

inductive Operation where
  | update (stats : ReceiverStats)
  | setThermalHold (hold : Bool)
  | setPreferredHeight (height : Nat)
  | syncEncodeHeight (height : Nat)

def apply (c : BitrateController) : Operation → BitrateController
  | .update stats => (c.update stats).1
  | .setThermalHold hold => c.setThermalHold hold
  | .setPreferredHeight height => (c.setPreferredHeight height).1
  | .syncEncodeHeight height => (c.syncEncodeHeight height).1

/-- The bitrate lies on the ladder of the active height. -/
def OnLadder (c : BitrateController) : Prop :=
  ∃ ladder, BitrateLadder.forHeight c.activeHeight = some ladder ∧
    ladder.minBps ≤ c.currentBitrateBps ∧ c.currentBitrateBps ≤ ladder.maxBps

/-- The action is the change of the bitrate. -/
def Reports (action : BitrateAction) (before after : Nat) : Prop :=
  (action = .increase ↔ before < after) ∧ (action = .decrease ↔ after < before)

/-- What is asked of one operation. -/
structure Faithful (c : BitrateController) (op : Operation) : Prop where
  onLadder : (c.apply op).OnLadder
  height_kept : ∀ stats, op = .update stats → (c.apply op).activeHeight = c.activeHeight
  hold_set : ∀ hold, op = .setThermalHold hold →
    (c.apply op).currentBitrateBps = c.currentBitrateBps
  hold_kept : ∀ stats, op = .update stats → c.thermalHold = true →
    (c.apply op).currentBitrateBps ≤ c.currentBitrateBps
  reports : ∀ stats, op = .update stats →
    Reports (c.update stats).2 c.currentBitrateBps (c.update stats).1.currentBitrateBps

/-- The feedback is the fifth clean window in a row, and growth is not held. -/
def RaiseDue (c : BitrateController) (stats : ReceiverStats) : Prop :=
  c.congested stats = false ∧ c.clean stats = true ∧ c.thermalHold = false ∧
    5 ≤ countTick c.stableSeconds

/-- A raise that is due meets a bitrate below the top of the ladder. -/
def RaisesBelowTop (c : BitrateController) (op : Operation) : Prop :=
  ∀ stats, op = .update stats → c.RaiseDue stats → c.currentBitrateBps < c.maxBps

/-! ## The ladder of a controller -/

structure WellFormed (c : BitrateController) : Prop where
  ladder : ∃ ladder, BitrateLadder.forHeight c.activeHeight = some ladder ∧
    c.minBps = ladder.minBps ∧ c.maxBps = ladder.maxBps
  min_le : c.minBps ≤ c.currentBitrateBps
  le_max : c.currentBitrateBps ≤ c.maxBps

structure Reasonable (ladder : BitrateLadder) : Prop where
  ten_le : 10 ≤ ladder.minBps
  min_le : ladder.minBps ≤ ladder.initialBps
  le_max : ladder.initialBps ≤ ladder.maxBps
  fits : ladder.maxBps < 2 ^ 32

theorem ladder_reasonable {height : Nat} {ladder : BitrateLadder}
    (h : BitrateLadder.forHeight height = some ladder) : Reasonable ladder := by
  unfold BitrateLadder.forHeight at h
  split at h
  · rw [← Option.some.inj h]
    constructor <;> decide
  · rw [← Option.some.inj h]
    constructor <;> decide
  · exact absurd h (Option.some_ne_none ladder).symm

variable {c : BitrateController} {stats : ReceiverStats}

theorem WellFormed.onLadder (h : WellFormed c) : c.OnLadder := by
  obtain ⟨ladder, hladder, hmin, hmax⟩ := h.ladder
  refine ⟨ladder, hladder, ?_, ?_⟩
  · rw [← hmin]
    exact h.min_le
  · rw [← hmax]
    exact h.le_max

theorem WellFormed.range (h : WellFormed c) : 10 ≤ c.minBps ∧ c.maxBps < 2 ^ 32 := by
  obtain ⟨ladder, hladder, hmin, hmax⟩ := h.ladder
  rw [hmin, hmax]
  exact ⟨(ladder_reasonable hladder).ten_le, (ladder_reasonable hladder).fits⟩

theorem le_clampBps (bps lo hi : Nat) : lo ≤ clampBps bps lo hi := le_max_left lo _

theorem clampBps_le {bps lo hi : Nat} (h : lo ≤ hi) : clampBps bps lo hi ≤ hi :=
  max_le h (min_le_right bps hi)

theorem clampBps_reduced_lt {bps lo hi : Nat} (hlo : lo < bps) :
    clampBps (reduced bps) lo hi < bps := by
  unfold clampBps reduced
  omega

theorem lt_clampBps_increased {bps lo hi : Nat} (hten : 10 ≤ bps) (hlt : bps < hi)
    (hfits : hi < 2 ^ 32) : bps < clampBps (increased bps) lo hi := by
  unfold clampBps increased
  omega

theorem clampBps_increased_top {lo hi : Nat} (hle : lo ≤ hi) (hfits : hi < 2 ^ 32) :
    clampBps (increased hi) lo hi = hi := by
  unfold clampBps increased
  omega

/-! ## One operation -/

/-- What feedback does: it holds, lowers a bitrate above the bottom, or makes a raise that
is due. -/
theorem update_cases (c : BitrateController) (stats : ReceiverStats) :
    (∃ stable, c.update stats = ({ c.noteStats stats with stableSeconds := stable }, .hold) ∧
      ¬ c.RaiseDue stats) ∨
    (c.minBps < c.currentBitrateBps ∧ ¬ c.RaiseDue stats ∧
      c.update stats = ({ c.noteStats stats with
        stableSeconds := 0
        currentBitrateBps := clampBps (reduced c.currentBitrateBps) c.minBps c.maxBps },
        .decrease)) ∨
    (c.RaiseDue stats ∧
      c.update stats = ({ c.noteStats stats with
        stableSeconds := 0
        currentBitrateBps := clampBps (increased c.currentBitrateBps) c.minBps c.maxBps },
        .increase)) := by
  unfold update
  by_cases hcongested : c.congested stats = true
  · have hnot : ¬ c.RaiseDue stats := fun h => by
      rw [h.1] at hcongested
      exact Bool.false_ne_true hcongested
    rw [if_pos hcongested]
    by_cases hmin : c.currentBitrateBps ≤ c.minBps
    · rw [if_pos hmin]
      exact Or.inl ⟨0, rfl, hnot⟩
    · rw [if_neg hmin]
      exact Or.inr (Or.inl ⟨Nat.not_le.mp hmin, hnot, rfl⟩)
  · rw [if_neg hcongested]
    by_cases hclean : c.clean stats = true
    · rw [if_pos hclean]
      by_cases hhold : c.thermalHold = true
      · rw [if_pos hhold]
        refine Or.inl ⟨0, rfl, fun h => ?_⟩
        rw [h.2.2.1] at hhold
        exact Bool.false_ne_true hhold
      · rw [if_neg hhold]
        by_cases hfive : 5 ≤ countTick c.stableSeconds
        · rw [if_pos hfive]
          exact Or.inr (Or.inr ⟨⟨Bool.eq_false_of_not_eq_true hcongested, hclean,
            Bool.eq_false_of_not_eq_true hhold, hfive⟩, rfl⟩)
        · rw [if_neg hfive]
          exact Or.inl ⟨_, rfl, fun h => hfive h.2.2.2⟩
    · rw [if_neg hclean]
      exact Or.inl ⟨0, rfl, fun h => hclean h.2.1⟩

theorem WellFormed.of_bitrate {c' : BitrateController} (h : WellFormed c)
    (hheight : c'.activeHeight = c.activeHeight) (hmin : c'.minBps = c.minBps)
    (hmax : c'.maxBps = c.maxBps) (hlo : c.minBps ≤ c'.currentBitrateBps)
    (hhi : c'.currentBitrateBps ≤ c.maxBps) : WellFormed c' := by
  refine ⟨?_, hmin ▸ hlo, hmax ▸ hhi⟩
  rw [hheight, hmin, hmax]
  exact h.ladder

theorem WellFormed.clamped (h : WellFormed c) (bps : Nat) :
    c.minBps ≤ clampBps bps c.minBps c.maxBps ∧ clampBps bps c.minBps c.maxBps ≤ c.maxBps :=
  ⟨le_clampBps _ _ _, clampBps_le (h.min_le.trans h.le_max)⟩

theorem WellFormed.update (h : WellFormed c) : WellFormed (c.update stats).1 := by
  rcases c.update_cases stats with ⟨_, heq, _⟩ | ⟨_, _, heq⟩ | ⟨_, heq⟩ <;> rw [heq]
  · exact h.of_bitrate rfl rfl rfl h.min_le h.le_max
  · exact h.of_bitrate rfl rfl rfl (h.clamped _).1 (h.clamped _).2
  · exact h.of_bitrate rfl rfl rfl (h.clamped _).1 (h.clamped _).2

theorem setThermalHold_bitrate (hold : Bool) :
    (c.setThermalHold hold).currentBitrateBps = c.currentBitrateBps := by
  unfold setThermalHold
  split
  · rfl
  · rfl

theorem WellFormed.setThermalHold (h : WellFormed c) (hold : Bool) :
    WellFormed (c.setThermalHold hold) := by
  unfold BitrateController.setThermalHold
  split
  · exact h.of_bitrate rfl rfl rfl h.min_le h.le_max
  · exact h

theorem WellFormed.setPreferredHeight (h : WellFormed c) (height : Nat) :
    WellFormed (c.setPreferredHeight height).1 := by
  unfold BitrateController.setPreferredHeight
  split
  · exact h
  · rename_i ladder hladder
    dsimp only
    split
    · rename_i hactive
      have hmin := (ladder_reasonable hladder).min_le.trans (ladder_reasonable hladder).le_max
      exact ⟨⟨ladder, hactive ▸ hladder, rfl, rfl⟩, le_clampBps _ _ _, clampBps_le hmin⟩
    · exact h.of_bitrate rfl rfl rfl h.min_le h.le_max

theorem WellFormed.syncEncodeHeight (h : WellFormed c) (height : Nat) :
    WellFormed (c.syncEncodeHeight height).1 := by
  unfold BitrateController.syncEncodeHeight
  split
  · exact h
  · rename_i ladder hladder
    dsimp only
    split
    · exact ⟨⟨ladder, hladder, rfl, rfl⟩, (ladder_reasonable hladder).min_le,
        (ladder_reasonable hladder).le_max⟩
    · exact h

/-- Step lemma: every operation keeps the bitrate on the ladder. -/
theorem WellFormed.apply (h : WellFormed c) (op : Operation) : WellFormed (c.apply op) := by
  cases op with
  | update stats => exact h.update
  | setThermalHold hold => exact h.setThermalHold hold
  | setPreferredHeight height => exact h.setPreferredHeight height
  | syncEncodeHeight height => exact h.syncEncodeHeight height

theorem wellFormed_forHeight {height : Nat} (hc : forHeight height = some c) : WellFormed c := by
  obtain ⟨ladder, hladder, heq⟩ := Option.bind_eq_some_iff.mp hc
  rw [← Option.some.inj heq]
  exact ⟨⟨ladder, hladder, rfl, rfl⟩, (ladder_reasonable hladder).min_le,
    (ladder_reasonable hladder).le_max⟩

theorem WellFormed.reports_iff (h : WellFormed c) :
    Reports (c.update stats).2 c.currentBitrateBps (c.update stats).1.currentBitrateBps ↔
      (c.RaiseDue stats → c.currentBitrateBps < c.maxBps) := by
  have hrange := h.range
  rcases c.update_cases stats with ⟨_, heq, hdue⟩ | ⟨hmin, hdue, heq⟩ | ⟨hdue, heq⟩ <;> rw [heq]
  · refine iff_of_true ⟨?_, ?_⟩ fun hraise => absurd hraise hdue
    · exact iff_of_false nofun (Nat.lt_irrefl _)
    · exact iff_of_false nofun (Nat.lt_irrefl _)
  · have hlt := @clampBps_reduced_lt _ _ c.maxBps hmin
    refine iff_of_true ⟨?_, ?_⟩ fun hraise => absurd hraise hdue
    · exact iff_of_false nofun (Nat.not_lt.mpr hlt.le)
    · exact iff_of_true rfl hlt
  · constructor
    · intro hreports _
      refine lt_of_le_of_ne h.le_max fun htop => ?_
      have hraised := hreports.1.mp rfl
      dsimp only at hraised
      rw [htop, clampBps_increased_top (h.min_le.trans h.le_max) hrange.2] at hraised
      exact Nat.lt_irrefl _ hraised
    · intro hbelow
      have hlt := @lt_clampBps_increased _ c.minBps _ (hrange.1.trans h.min_le) (hbelow hdue)
        hrange.2
      refine ⟨iff_of_true rfl hlt, ?_⟩
      exact iff_of_false nofun (Nat.not_lt.mpr hlt.le)

theorem update_held (hhold : c.thermalHold = true) :
    (c.update stats).1.currentBitrateBps ≤ c.currentBitrateBps := by
  rcases c.update_cases stats with ⟨_, heq, _⟩ | ⟨hmin, _, heq⟩ | ⟨hdue, _⟩
  · rw [heq]
    exact Nat.le_refl _
  · rw [heq]
    exact (clampBps_reduced_lt hmin).le
  · have hnot := hdue.2.2.1
    rw [hhold] at hnot
    exact absurd hnot.symm Bool.false_ne_true

theorem update_activeHeight : (c.update stats).1.activeHeight = c.activeHeight := by
  rcases c.update_cases stats with ⟨_, heq, _⟩ | ⟨_, _, heq⟩ | ⟨_, heq⟩ <;> rw [heq] <;> rfl

theorem WellFormed.faithful_iff (h : WellFormed c) (op : Operation) :
    c.Faithful op ↔ c.RaisesBelowTop op := by
  constructor
  · intro hfaithful stats hop
    exact h.reports_iff.mp (hfaithful.reports stats hop)
  · intro hbelow
    refine ⟨(h.apply op).onLadder, ?_, ?_, ?_, ?_⟩
    · intro stats hop
      rw [hop]
      exact update_activeHeight
    · intro hold hop
      rw [hop]
      exact setThermalHold_bitrate hold
    · intro stats hop hhold
      rw [hop]
      exact update_held hhold
    · intro stats hop
      exact h.reports_iff.mpr (hbelow stats hop)

/-- In every run of a controller, each operation is faithful exactly when every raise that
is due meets a bitrate below the top of the ladder. -/
theorem faithfulRun_iff {height : Nat} (hc : forHeight height = some c) (ops : List Operation) :
    c.OnLadder ∧ MeetsAll Faithful apply c ops ↔ MeetsAll RaisesBelowTop apply c ops := by
  have hwell := wellFormed_forHeight hc
  rw [and_iff_right hwell.onLadder]
  clear hc
  induction ops generalizing c with
  | nil => exact Iff.rfl
  | cons op ops ih => exact and_congr (hwell.faithful_iff op) (ih (hwell.apply op))

def initial720 : BitrateController :=
  { new 3000000 1500000 5000000 with activeHeight := 720, preferredHeight := 720 }

/-- A clean streak that raises the bitrate, a lossy window that lowers it, and a thermal hold. -/
def sampleOperations : List Operation :=
  List.replicate 6 (.update .default) ++
    [.update { ReceiverStats.default with packetLoss := .finite (1 / 10) },
      .setThermalHold true, .update .default]

theorem faithfulRun_iff_720 :
    initial720.OnLadder ∧ MeetsAll Faithful apply initial720 sampleOperations ↔
      MeetsAll RaisesBelowTop apply initial720 sampleOperations :=
  faithfulRun_iff (show forHeight 720 = some initial720 from rfl) sampleOperations

/-- Six raises bring the bitrate from the start of the 720p ladder to its top; the clean
window that completes the seventh streak raises nothing and is reported as a raise. -/
theorem seventhRaise_reported :
    ¬ ∀ height c, forHeight height = some c →
      ∀ ops, c.OnLadder ∧ MeetsAll Faithful apply c ops := by
  intro h
  have hall := (h 720 _ rfl (List.replicate 34 (.update .default) ++ [.update .default])).2
  have hlast := (meetsAll_append.mp hall).2.1
  exact absurd ((hlast.reports .default rfl).1.mp (by decide +kernel)) (by decide +kernel)

end BitrateController

end PicooCamera.RateControl
