import PicooCamera.Library.Streak

/-!
# Network health with hysteresis

The tracker opens an episode after two bad windows in a row and closes it
after five clean ones in a row. It keeps two counters and a few pending
fields; what it reports is a function of the samples since the last recovery.
-/

namespace PicooCamera.Session

open PicooCamera.Library

def badWindowsToEnter : Nat := 2

def cleanWindowsToRecover : Nat := 5

/-- The `f64` written `0.03`. -/
def badPacketLossThreshold : ℚ := 1080863910568919 / 2 ^ 55

/-- The `f64` written `0.01`. -/
def cleanPacketLossThreshold : ℚ := 5764607523034235 / 2 ^ 59

/-- A packet loss of type `f64`: `none` when it is infinite or not a number. -/
abbrev Measurement := Option ℚ

abbrev SampleTime := Nat

/-- `u32::saturating_add(1)`. -/
def countWindow (windows : Nat) : Nat := min (windows + 1) (2 ^ 32 - 1)

inductive NetworkDegradation where
  | fragmentLoss
  deriving DecidableEq, Repr

structure NetworkEpisode where
  startedAt : SampleTime
  causes : List NetworkDegradation
  badWindows : Nat
  cleanWindows : Nat
  worstPacketLoss : ℚ
  deriving DecidableEq

inductive NetworkHealth where
  | healthy
  | degraded (episode : NetworkEpisode)
  deriving DecidableEq

namespace NetworkHealth

def isDegraded : NetworkHealth → Bool
  | healthy => false
  | degraded _ => true

def episode : NetworkHealth → Option NetworkEpisode
  | healthy => none
  | degraded episode => some episode

end NetworkHealth

structure NetworkHealthTracker where
  health : NetworkHealth
  pendingBadWindows : Nat
  pendingStartedAt : Option SampleTime
  pendingWorstPacketLoss : ℚ
  deriving DecidableEq

namespace NetworkHealthTracker

def new : NetworkHealthTracker := ⟨.healthy, 0, none, 0⟩

def clearPending (t : NetworkHealthTracker) : NetworkHealthTracker :=
  { t with pendingBadWindows := 0, pendingStartedAt := none, pendingWorstPacketLoss := 0 }

def reset (t : NetworkHealthTracker) : NetworkHealthTracker :=
  { t with health := .healthy }.clearPending

/-- `packet_loss.clamp(0.0, 1.0)`. -/
def clampLoss (packetLoss : ℚ) : ℚ := max 0 (min packetLoss 1)

/-- A bad window of a healthy session. -/
def countBadWindow (t : NetworkHealthTracker) (packetLoss : ℚ) (observedAt : SampleTime) :
    NetworkHealthTracker :=
  let t :=
    if t.pendingBadWindows = 0 then
      { t with pendingStartedAt := some observedAt, pendingWorstPacketLoss := packetLoss }
    else t
  let t := { t with
    pendingBadWindows := countWindow t.pendingBadWindows
    pendingWorstPacketLoss := max t.pendingWorstPacketLoss packetLoss }
  if badWindowsToEnter ≤ t.pendingBadWindows then
    { t with
      health := .degraded {
        startedAt := t.pendingStartedAt.getD observedAt
        causes := [.fragmentLoss]
        badWindows := t.pendingBadWindows
        cleanWindows := 0
        worstPacketLoss := t.pendingWorstPacketLoss } }.clearPending
  else t

/-- The health of a degraded session after one more window. -/
def continueEpisode (episode : NetworkEpisode) (packetLoss : ℚ) : NetworkHealth :=
  if badPacketLossThreshold < packetLoss then
    .degraded { episode with
      badWindows := countWindow episode.badWindows
      cleanWindows := 0
      worstPacketLoss := max episode.worstPacketLoss packetLoss
      causes :=
        if .fragmentLoss ∈ episode.causes then episode.causes
        else episode.causes ++ [.fragmentLoss] }
  else if packetLoss < cleanPacketLossThreshold then
    if cleanWindowsToRecover ≤ countWindow episode.cleanWindows then .healthy
    else .degraded { episode with cleanWindows := countWindow episode.cleanWindows }
  else .degraded { episode with cleanWindows := 0 }

def observePacketLoss (t : NetworkHealthTracker) (packetLoss : Measurement)
    (observedAt : SampleTime) : NetworkHealthTracker :=
  match packetLoss, t.health with
  | none, .healthy => t.clearPending
  | none, .degraded episode => { t with health := .degraded { episode with cleanWindows := 0 } }
  | some loss, .healthy =>
      if badPacketLossThreshold < clampLoss loss then t.countBadWindow (clampLoss loss) observedAt
      else t.clearPending
  | some loss, .degraded episode => { t with health := continueEpisode episode (clampLoss loss) }

end NetworkHealthTracker

/-! ## The history of a session -/

structure Sample where
  packetLoss : Measurement
  observedAt : SampleTime
  deriving DecidableEq

namespace Sample

/-- The loss of a window that was measured. -/
def loss (s : Sample) : Option ℚ := s.packetLoss.map NetworkHealthTracker.clampLoss

def Bad (s : Sample) : Prop := ∃ loss ∈ s.loss, badPacketLossThreshold < loss

def Clean (s : Sample) : Prop := ∃ loss ∈ s.loss, loss < cleanPacketLossThreshold

instance : DecidablePred Bad := fun s =>
  inferInstanceAs (Decidable (∃ loss ∈ s.loss, badPacketLossThreshold < loss))

instance : DecidablePred Clean := fun s =>
  inferInstanceAs (Decidable (∃ loss ∈ s.loss, loss < cleanPacketLossThreshold))

theorem clean_lt_bad : cleanPacketLossThreshold < badPacketLossThreshold := by
  unfold cleanPacketLossThreshold badPacketLossThreshold
  norm_num

theorem Clean.not_bad {s : Sample} (h : s.Clean) : ¬ s.Bad := by
  rintro ⟨loss, hloss, hbad⟩
  obtain ⟨loss', hloss', hclean⟩ := h
  have heq : loss = loss' := Option.mem_unique hloss hloss'
  rw [heq] at hbad
  exact absurd (hclean.trans clean_lt_bad) (not_lt_of_gt hbad)

end Sample

/-- The tracker after the samples of a history. -/
def observeAll (history : List Sample) : NetworkHealthTracker :=
  history.foldl (fun t s => t.observePacketLoss s.packetLoss s.observedAt) .new

/-- Two bad samples in a row, with five clean ones in a row after them. -/
def Recovers (history : List Sample) : Prop :=
  ∃ before first second after, history = before ++ first :: second :: after ∧
    first.Bad ∧ second.Bad ∧ HasRun Sample.Clean 5 after

open Classical in
/-- The samples since the last recovery, `[]` at the recovery itself. -/
noncomputable def sinceRecovery (history : List Sample) : List Sample :=
  history.foldl (fun since s => if Recovers (since ++ [s]) then [] else since ++ [s]) []

/-- The entering streak of an episode is the first pair of bad samples in a row. -/
structure Enters (since before : List Sample) (first second : Sample) (after : List Sample) :
    Prop where
  split : since = before ++ first :: second :: after
  first_bad : first.Bad
  second_bad : second.Bad
  earliest : ¬ HasRun Sample.Bad 2 (before ++ [first])
  /-- Five clean samples in a row have not occurred since. -/
  open_since : ¬ HasRun Sample.Clean 5 after

/-- The losses that were measured in an episode. -/
def episodeLosses (samples : List Sample) : Set ℚ := {loss | ∃ s ∈ samples, s.loss = some loss}

/-! ## One sample -/

namespace NetworkHealthTracker

variable {t : NetworkHealthTracker} {episode : NetworkEpisode} {s : Sample} {loss : ℚ}

theorem observe_healthy_bad (hhealth : t.health = .healthy) (hloss : s.loss = some loss)
    (hbad : s.Bad) :
    t.observePacketLoss s.packetLoss s.observedAt = t.countBadWindow loss s.observedAt := by
  obtain ⟨measured, hmeasured, rfl⟩ := Option.map_eq_some_iff.mp hloss
  obtain ⟨loss', hloss', hlt⟩ := hbad
  rw [hloss, Option.mem_some_iff] at hloss'
  rw [observePacketLoss.eq_def, hmeasured, hhealth]
  exact if_pos (hloss' ▸ hlt)

theorem observe_healthy (hhealth : t.health = .healthy) (hbad : ¬ s.Bad) :
    t.observePacketLoss s.packetLoss s.observedAt = t.clearPending := by
  rw [observePacketLoss.eq_def]
  cases hmeasured : s.packetLoss with
  | none => rw [hhealth]
  | some measured =>
      rw [hhealth]
      refine if_neg fun hlt => hbad ⟨clampLoss measured, ?_, hlt⟩
      rw [Sample.loss, hmeasured]
      rfl

theorem observe_degraded_bad (hhealth : t.health = .degraded episode)
    (hloss : s.loss = some loss) (hbad : s.Bad) :
    ∃ episode', t.observePacketLoss s.packetLoss s.observedAt =
        { t with health := .degraded episode' } ∧
      episode'.startedAt = episode.startedAt ∧ episode'.cleanWindows = 0 ∧
      episode'.worstPacketLoss = max episode.worstPacketLoss loss := by
  obtain ⟨measured, hmeasured, rfl⟩ := Option.map_eq_some_iff.mp hloss
  obtain ⟨loss', hloss', hlt⟩ := hbad
  rw [hloss, Option.mem_some_iff] at hloss'
  rw [observePacketLoss.eq_def, hmeasured, hhealth]
  dsimp only
  rw [continueEpisode, if_pos (hloss' ▸ hlt)]
  exact ⟨_, rfl, rfl, rfl, rfl⟩

theorem observe_degraded_clean (hhealth : t.health = .degraded episode) (hclean : s.Clean) :
    t.observePacketLoss s.packetLoss s.observedAt =
      { t with health :=
        if cleanWindowsToRecover ≤ countWindow episode.cleanWindows then .healthy
        else .degraded { episode with cleanWindows := countWindow episode.cleanWindows } } := by
  have hbad := hclean.not_bad
  obtain ⟨loss, hloss, hlt⟩ := hclean
  obtain ⟨measured, hmeasured, rfl⟩ := Option.map_eq_some_iff.mp hloss
  have hnot : ¬ badPacketLossThreshold < clampLoss measured := fun h => hbad ⟨_, hloss, h⟩
  rw [observePacketLoss.eq_def, hmeasured, hhealth]
  dsimp only
  rw [continueEpisode, if_neg hnot, if_pos hlt]

theorem observe_degraded_neutral (hhealth : t.health = .degraded episode) (hbad : ¬ s.Bad)
    (hclean : ¬ s.Clean) :
    t.observePacketLoss s.packetLoss s.observedAt =
      { t with health := .degraded { episode with cleanWindows := 0 } } := by
  rw [observePacketLoss.eq_def]
  cases hmeasured : s.packetLoss with
  | none => rw [hhealth]
  | some measured =>
      have hloss : s.loss = some (clampLoss measured) := by
        rw [Sample.loss, hmeasured]
        rfl
      have hnotBad : ¬ badPacketLossThreshold < clampLoss measured := fun h =>
        hbad ⟨_, hloss, h⟩
      have hnotClean : ¬ clampLoss measured < cleanPacketLossThreshold := fun h =>
        hclean ⟨_, hloss, h⟩
      rw [hhealth]
      dsimp only
      rw [continueEpisode, if_neg hnotBad, if_neg hnotClean]

end NetworkHealthTracker

/-! ## The losses of an episode -/

section Losses

variable {samples : List Sample} {s : Sample} {worst loss : ℚ}

theorem episodeLosses_snoc :
    episodeLosses (samples ++ [s]) = episodeLosses samples ∪ {loss | s.loss = some loss} := by
  ext loss
  simp [episodeLosses, or_and_right, exists_or]

theorem worst_snoc_measured (h : IsGreatest (episodeLosses samples) worst)
    (hloss : s.loss = some loss) :
    IsGreatest (episodeLosses (samples ++ [s])) (max worst loss) := by
  rw [episodeLosses_snoc]
  have hlast : IsGreatest {other | s.loss = some other} loss := by
    refine ⟨hloss, fun other hother => ?_⟩
    rw [Set.mem_ofPred_eq, hloss, Option.some_inj] at hother
    exact le_of_eq hother.symm
  exact h.union hlast

theorem worst_snoc (h : IsGreatest (episodeLosses samples) worst)
    (hworst : badPacketLossThreshold < worst) (hbad : ¬ s.Bad) :
    IsGreatest (episodeLosses (samples ++ [s])) worst := by
  cases hloss : s.loss with
  | none =>
      rw [episodeLosses_snoc]
      simpa [hloss] using h
  | some loss =>
      have hle : loss ≤ worst := by
        by_contra hgt
        exact hbad ⟨loss, hloss, hworst.trans (not_le.mp hgt)⟩
      have hmax := worst_snoc_measured h hloss
      rwa [max_eq_left hle] at hmax

theorem bad_worst (h : IsGreatest (episodeLosses samples) worst) (hmem : s ∈ samples)
    (hbad : s.Bad) : badPacketLossThreshold < worst := by
  obtain ⟨loss, hloss, hlt⟩ := hbad
  exact hlt.trans_le (h.2 ⟨s, hmem, hloss⟩)

end Losses

/-! ## The tracker follows the history -/

theorem Recovers.hasRun {history : List Sample} (h : Recovers history) :
    HasRun Sample.Bad 2 history := by
  obtain ⟨before, first, second, after, rfl, hfirst, hsecond, _⟩ := h
  refine ⟨before, [first, second], after, by simp, rfl, ?_⟩
  intro s hs
  rcases List.mem_cons.mp hs with rfl | hs
  · exact hfirst
  · rwa [List.mem_singleton.mp hs]

theorem recovers_iff {since before after : List Sample} {first second : Sample}
    (hsplit : since = before ++ first :: second :: after) (hfirst : first.Bad)
    (hsecond : second.Bad) (hearliest : ¬ HasRun Sample.Bad 2 (before ++ [first])) :
    Recovers since ↔ HasRun Sample.Clean 5 after := by
  constructor
  · rintro ⟨before', first', second', after', hsplit', hfirst', hsecond', hclean⟩
    have hjoined : (before ++ [first]) ++ second :: after =
        before' ++ first' :: second' :: after' := by
      rw [← hsplit', hsplit]
      simp
    obtain ⟨earlier, hsuffix⟩ := suffix_of_earliest hearliest hfirst' hsecond' hjoined
    rw [← hsuffix]
    exact hclean.append_left earlier
  · exact fun hclean => ⟨before, first, second, after, hsplit, hfirst, hsecond, hclean⟩

/-- What the tracker holds after the samples since the last recovery. -/
inductive Tracks : NetworkHealthTracker → List Sample → Prop
  | idle {since : List Sample} (hnone : ¬ HasRun Sample.Bad 2 since)
      (hlast : streak Sample.Bad since = 0) : Tracks .new since
  | pending {before : List Sample} {first : Sample} {loss : ℚ} (hloss : first.loss = some loss)
      (hbad : first.Bad) (hnone : ¬ HasRun Sample.Bad 2 (before ++ [first])) :
      Tracks ⟨.healthy, 1, some first.observedAt, loss⟩ (before ++ [first])
  | degraded {since before after : List Sample} {first second : Sample}
      {episode : NetworkEpisode} (henters : Enters since before first second after)
      (hstarted : episode.startedAt = first.observedAt)
      (hworst : IsGreatest (episodeLosses (first :: second :: after)) episode.worstPacketLoss)
      (hclean : episode.cleanWindows = streak Sample.Clean after) :
      Tracks ⟨.degraded episode, 0, none, 0⟩ since

theorem Sample.Bad.exists_loss {s : Sample} (h : s.Bad) : ∃ loss, s.loss = some loss :=
  ⟨h.choose, h.choose_spec.1⟩

theorem enters_of_bad {before : List Sample} {first second : Sample} (hfirst : first.Bad)
    (hsecond : second.Bad) (hnone : ¬ HasRun Sample.Bad 2 (before ++ [first])) :
    Enters (before ++ [first] ++ [second]) before first second [] where
  split := by simp
  first_bad := hfirst
  second_bad := hsecond
  earliest := hnone
  open_since h := absurd h.length_le (by decide)

open Classical in
/-- The samples since the last recovery, after one more. -/
noncomputable def sinceNext (since : List Sample) (s : Sample) : List Sample :=
  if Recovers (since ++ [s]) then [] else since ++ [s]

theorem sinceNext_of_none {since : List Sample} {s : Sample}
    (hnone : ¬ HasRun Sample.Bad 2 (since ++ [s])) : sinceNext since s = since ++ [s] :=
  if_neg fun h => hnone h.hasRun

theorem not_hasRun_snoc {since : List Sample} {s : Sample}
    (hnone : ¬ HasRun Sample.Bad 2 since) (hstreak : streak Sample.Bad (since ++ [s]) < 2) :
    ¬ HasRun Sample.Bad 2 (since ++ [s]) := by
  rw [hasRun_snoc, not_or, Nat.not_le]
  exact ⟨hnone, hstreak⟩

theorem tracks_degraded {since before after : List Sample} {first second s : Sample}
    {episode : NetworkEpisode} (henters : Enters since before first second after)
    (hstarted : episode.startedAt = first.observedAt)
    (hworst : IsGreatest (episodeLosses (first :: second :: after)) episode.worstPacketLoss)
    (hclean : episode.cleanWindows = streak Sample.Clean after) :
    Tracks ((⟨.degraded episode, 0, none, 0⟩ : NetworkHealthTracker).observePacketLoss
      s.packetLoss s.observedAt) (sinceNext since s) := by
  have hsplit : since ++ [s] = before ++ first :: second :: (after ++ [s]) := by
    rw [henters.split]
    simp
  have hrecovers := recovers_iff hsplit henters.first_bad henters.second_bad henters.earliest
  have hlosses : first :: second :: (after ++ [s]) = (first :: second :: after) ++ [s] := rfl
  have hbadWorst := bad_worst hworst List.mem_cons_self henters.first_bad
  -- Whatever the sample is, the episode goes on unless it completes the clean streak.
  have hgoes : ∀ episode' : NetworkEpisode, streak Sample.Clean (after ++ [s]) < 5 →
      episode'.startedAt = episode.startedAt →
      IsGreatest (episodeLosses (first :: second :: (after ++ [s]))) episode'.worstPacketLoss →
      episode'.cleanWindows = streak Sample.Clean (after ++ [s]) →
      Tracks ⟨.degraded episode', 0, none, 0⟩ (sinceNext since s) := by
    intro episode' hshort hstarted' hworst' hclean'
    have hopen : ¬ HasRun Sample.Clean 5 (after ++ [s]) := by
      rw [hasRun_snoc, not_or, Nat.not_le]
      exact ⟨henters.open_since, hshort⟩
    rw [sinceNext, if_neg (mt hrecovers.mp hopen)]
    exact Tracks.degraded ⟨hsplit, henters.first_bad, henters.second_bad, henters.earliest, hopen⟩
      (hstarted'.trans hstarted) hworst' hclean'
  have hbelow : streak Sample.Clean after < 5 := by
    by_contra hge
    obtain ⟨earlier, run, rfl, hlength, hall⟩ := le_streak_iff.mp (Nat.not_lt.mp hge)
    exact henters.open_since ⟨earlier, run, [], by simp, hlength, hall⟩
  by_cases hbad : s.Bad
  · obtain ⟨loss, hloss⟩ := hbad.exists_loss
    have hnotClean : ¬ s.Clean := fun h => h.not_bad hbad
    obtain ⟨episode', heq, hstarted', hclean', hworst'⟩ :=
      NetworkHealthTracker.observe_degraded_bad
        (t := ⟨.degraded episode, 0, none, 0⟩) rfl hloss hbad
    rw [heq]
    refine hgoes episode' ?_ hstarted' ?_ ?_
    · rw [streak_snoc_of_neg hnotClean]
      decide
    · rw [hworst', hlosses]
      exact worst_snoc_measured hworst hloss
    · rw [hclean', streak_snoc_of_neg hnotClean]
  · by_cases hcleanSample : s.Clean
    · rw [NetworkHealthTracker.observe_degraded_clean
        (t := ⟨.degraded episode, 0, none, 0⟩) rfl hcleanSample]
      have hcount : countWindow episode.cleanWindows = streak Sample.Clean (after ++ [s]) := by
        rw [streak_snoc_of_pos hcleanSample, hclean, countWindow]
        omega
      by_cases hfive : cleanWindowsToRecover ≤ countWindow episode.cleanWindows
      · rw [if_pos hfive]
        have hrun : HasRun Sample.Clean 5 (after ++ [s]) :=
          hasRun_snoc.mpr (Or.inr (hcount ▸ hfive))
        rw [sinceNext, if_pos (hrecovers.mpr hrun)]
        exact Tracks.idle (fun h => absurd h.length_le (by decide)) rfl
      · rw [if_neg hfive]
        refine hgoes _ ?_ rfl ?_ hcount
        · rw [← hcount]
          exact Nat.not_le.mp hfive
        · rw [hlosses]
          exact worst_snoc hworst hbadWorst hbad
    · rw [NetworkHealthTracker.observe_degraded_neutral
        (t := ⟨.degraded episode, 0, none, 0⟩) rfl hbad hcleanSample]
      refine hgoes _ ?_ rfl ?_ ?_
      · rw [streak_snoc_of_neg hcleanSample]
        decide
      · rw [hlosses]
        exact worst_snoc hworst hbadWorst hbad
      · rw [streak_snoc_of_neg hcleanSample]

/-- Step lemma: the tracker follows the history by one sample. -/
theorem Tracks.next {t : NetworkHealthTracker} {since : List Sample} (h : Tracks t since)
    (s : Sample) :
    Tracks (t.observePacketLoss s.packetLoss s.observedAt) (sinceNext since s) := by
  cases h with
  | idle hnone hlast =>
      by_cases hbad : s.Bad
      · obtain ⟨loss, hloss⟩ := hbad.exists_loss
        have hnone' := not_hasRun_snoc hnone (s := s) (by
          rw [streak_snoc_of_pos hbad, hlast]
          decide)
        rw [NetworkHealthTracker.observe_healthy_bad rfl hloss hbad, sinceNext_of_none hnone']
        have hcount : NetworkHealthTracker.new.countBadWindow loss s.observedAt =
            ⟨.healthy, 1, some s.observedAt, loss⟩ := by
          unfold NetworkHealthTracker.countBadWindow
          simp [NetworkHealthTracker.new, countWindow, badWindowsToEnter]
        rw [hcount]
        exact Tracks.pending hloss hbad hnone'
      · have hzero : streak Sample.Bad (since ++ [s]) = 0 := streak_snoc_of_neg hbad
        have hnone' := not_hasRun_snoc hnone (s := s) (by
          rw [hzero]
          decide)
        rw [NetworkHealthTracker.observe_healthy rfl hbad, sinceNext_of_none hnone']
        exact Tracks.idle hnone' hzero
  | @pending before first loss hloss hbad hnone =>
      by_cases hbad' : s.Bad
      · obtain ⟨loss', hloss'⟩ := hbad'.exists_loss
        have henters := enters_of_bad hbad hbad' hnone
        have hgoes : ¬ Recovers (before ++ [first] ++ [s]) := fun h =>
          henters.open_since ((recovers_iff henters.split hbad hbad' hnone).mp h)
        rw [NetworkHealthTracker.observe_healthy_bad rfl hloss' hbad', sinceNext, if_neg hgoes]
        refine Tracks.degraded henters rfl ?_ rfl
        have hfirst : IsGreatest (episodeLosses [first]) loss := by
          refine ⟨⟨first, List.mem_singleton.mpr rfl, hloss⟩, ?_⟩
          rintro other ⟨sample, hsample, hother⟩
          rw [List.mem_singleton.mp hsample, hloss, Option.some_inj] at hother
          exact le_of_eq hother.symm
        exact worst_snoc_measured hfirst hloss'
      · have hzero : streak Sample.Bad (before ++ [first] ++ [s]) = 0 := streak_snoc_of_neg hbad'
        have hnone' := not_hasRun_snoc hnone (s := s) (by
          rw [hzero]
          decide)
        rw [NetworkHealthTracker.observe_healthy rfl hbad', sinceNext_of_none hnone']
        exact Tracks.idle hnone' hzero
  | degraded henters hstarted hworst hclean =>
      exact tracks_degraded henters hstarted hworst hclean

/-- Run lemma: the tracker follows every history. -/
theorem tracks_observeAll (history : List Sample) :
    Tracks (observeAll history) (sinceRecovery history) := by
  induction history using List.reverseRecOn with
  | nil => exact Tracks.idle (fun h => absurd h.length_le (by decide)) rfl
  | append_singleton history s ih =>
      have hobserve : observeAll (history ++ [s]) =
          (observeAll history).observePacketLoss s.packetLoss s.observedAt := by
        unfold observeAll
        rw [List.foldl_append]
        rfl
      have hsince : sinceRecovery (history ++ [s]) = sinceNext (sinceRecovery history) s := by
        unfold sinceRecovery
        rw [List.foldl_append]
        rfl
      rw [hobserve, hsince]
      exact ih.next s

/-- The tracker is degraded exactly when, since the last recovery, two bad samples in a row
have occurred and five clean ones in a row have not occurred after them; its episode starts
with the first bad sample of the entering streak, and its worst loss is the greatest of the
episode. -/
theorem networkHealth_refines (history : List Sample) :
    ((observeAll history).health.isDegraded = true ↔
      ∃ before first second after, sinceRecovery history = before ++ first :: second :: after ∧
        first.Bad ∧ second.Bad ∧ ¬ HasRun Sample.Clean 5 after) ∧
      ∀ episode, (observeAll history).health = .degraded episode →
        ∃ before first second after,
          Enters (sinceRecovery history) before first second after ∧
            episode.startedAt = first.observedAt ∧
            IsGreatest (episodeLosses (first :: second :: after)) episode.worstPacketLoss := by
  have htracks := tracks_observeAll history
  generalize observeAll history = t at htracks
  generalize sinceRecovery history = since at htracks
  have hhealthy : ¬ HasRun Sample.Bad 2 since →
      ¬ ∃ before first second after, since = before ++ first :: second :: after ∧
        Sample.Bad first ∧ Sample.Bad second ∧ ¬ HasRun Sample.Clean 5 after := by
    rintro hnone ⟨before, first, second, after, rfl, hfirst, hsecond, _⟩
    refine hnone ⟨before, [first, second], after, by simp, rfl, ?_⟩
    intro s hs
    rcases List.mem_cons.mp hs with rfl | hs
    · exact hfirst
    · rwa [List.mem_singleton.mp hs]
  cases htracks with
  | idle hnone _ =>
      refine ⟨iff_of_false (by decide) (hhealthy hnone), ?_⟩
      intro episode heq
      cases heq
  | pending _ _ hnone =>
      refine ⟨iff_of_false (fun h => by cases h) (hhealthy hnone), ?_⟩
      intro episode heq
      cases heq
  | @degraded _ before after first second episode henters hstarted hworst _ =>
      refine ⟨iff_of_true rfl ⟨before, first, second, after, henters.split, henters.first_bad,
        henters.second_bad, henters.open_since⟩, ?_⟩
      intro episode' heq
      cases heq
      exact ⟨before, first, second, after, henters, hstarted, hworst⟩

theorem reset_eq_new (t : NetworkHealthTracker) : t.reset = .new := rfl

end PicooCamera.Session
