import PicooCamera.Library.TransitionSystem
import PicooCamera.Recording.BundleEffects

/-!
# Memory and disk of a bundle

A bundle is opened once and then goes through any sequence of operations, where
any call of the file system may fail. The history of a run is what the callers
saw: the state before each operation and whether it failed.
-/

namespace PicooCamera.Recording

open PicooCamera.Library TransitionSystem

inductive BundleOperation (κ : Type) where
  | nextPartialPath
  | markStarted (sourcePtsUs : Nat)
  | recordGap (reason : GapReason) (source : Option SourceRange)
  | commitSegment (finalized : FinalizedSegment) (metadata : SegmentMetadata)
  | finish
  | fail (reason : String)
  /-- Something other than the bundle changes a file among its segments. -/
  | changeFile (path : SegmentPath) (content : Option κ)

structure Outcome (κ : Type) where
  operation : BundleOperation κ
  before : RecordingState
  failed : Bool

structure BundleRun (κ : Type) where
  bundle : BundleState κ
  history : List (Outcome κ)

/-- The states in memory so far, the present one last. -/
def BundleRun.states {κ : Type} (x : BundleRun κ) : List RecordingState :=
  x.history.map Outcome.before ++ [x.bundle.manifest.state]

namespace RecordingBundle

open Program

variable {κ : Type} {P : Storage κ}

def operate (P : Storage κ) : BundleOperation κ → Bundle κ Unit
  | .nextPartialPath => do
      let _ ← nextPartialPath
  | .markStarted sourcePtsUs => markStarted P sourcePtsUs
  | .recordGap reason source => recordGap P reason source
  | .commitSegment finalized metadata => commitSegment P finalized metadata
  | .finish => finish P
  | .fail reason => fail P reason
  | .changeFile path content =>
      Program.update fun b => { b with files := Function.update b.files path content }

def isError {α : Type} : Except RecordingError α → Bool
  | .ok _ => false
  | .error _ => true

def bundleStep (P : Storage κ) (x : BundleRun κ) (operation : BundleOperation κ) : BundleRun κ :=
  let out := exec (operate P operation) x.bundle
  { bundle := out.2
    history := x.history ++ [⟨operation, state x.bundle, isError out.1⟩] }

/-- The run begins with a bundle that `create` made. -/
def Opened (P : Storage κ) (x : BundleRun κ) : Prop :=
  x.history = [] ∧ ∃ parent name mode b, exec (create P parent name mode) b = (.ok (), x.bundle)

/-- The segment with this number is the partial file of that number, renamed over nothing. -/
def Listed (P : Storage κ) (b : BundleState κ) (number : Nat) (segment : Segment) : Prop :=
  segment.file = "segments/" ++ (SegmentPath.mk b.path number .mp4).fileName ∧
    ∃ promotion ∈ b.promotions,
      promotion.source = ⟨b.path, number, .partialFile⟩ ∧
        promotion.target = ⟨b.path, number, .mp4⟩ ∧ promotion.overwritten = none ∧
        segment.sha256 = P.sha256 promotion.content ∧ segment.bytes = P.length promotion.content

structure Durable (P : Storage κ) (x : BundleRun κ) : Prop where
  sticky : x.states.Pairwise fun s t => s.terminal = true → t = s
  complete : state x.bundle = .complete → x.bundle.manifest.segments ≠ [] ∧
    x.bundle.manifest.gaps = [] ∧
      ∀ outcome ∈ x.history, outcome.failed = true → outcome.before = .complete
  numbered : ∀ i segment, x.bundle.manifest.segments[i]? = some segment →
    Listed P x.bundle (i + 1) segment
  agrees : ∀ stored ∈ x.bundle.stored, stored.state = .complete ∨ stored.state = .hasGaps →
    state x.bundle = stored.state

/-- A `finish` whose rename succeeds syncs the directory too, and does not complete a bundle
that had refused a path for its next segment. -/
def Settles (P : Storage κ) (x : BundleRun κ) (operation : BundleOperation κ) : Prop :=
  operation = .finish → (state x.bundle).terminal = false → x.bundle.manifest.segments ≠ [] →
    Renames P x.bundle.calls → Syncs P x.bundle.calls ∧
      (x.bundle.manifest.gaps = [] →
        ∀ outcome ∈ x.history, outcome.operation = .nextPartialPath → outcome.failed = false)

/-! ## The invariant -/

/-- What holds of every run, however its calls fail. -/
structure Recorded (P : Storage κ) (x : BundleRun κ) : Prop where
  sticky : x.states.Pairwise fun s t => s.terminal = true → t = s
  complete : state x.bundle = .complete →
    x.bundle.manifest.segments ≠ [] ∧ x.bundle.manifest.gaps = []
  refused : (state x.bundle).terminal = false →
    ∀ outcome ∈ x.history, outcome.failed = true → outcome.operation = .nextPartialPath
  numbered : ∀ i segment, x.bundle.manifest.segments[i]? = some segment →
    Listed P x.bundle (i + 1) segment
  unfinished : (state x.bundle).terminal = false →
    ∀ stored ∈ x.bundle.stored, ¬Successful stored

theorem Listed.mono {b b' : BundleState κ} {number : Nat} {segment : Segment}
    (hplace : SamePlace b b') (h : Listed P b number segment) : Listed P b' number segment := by
  obtain ⟨hfile, promotion, hmem, hrest⟩ := h
  unfold Listed
  rw [hplace.1]
  exact ⟨hfile, promotion, hplace.2.subset hmem, hrest⟩

theorem listed_withSegment {b b' : BundleState κ} {segment : Segment}
    (hplace : SamePlace b b')
    (hold : ∀ i old, b.manifest.segments[i]? = some old → Listed P b (i + 1) old)
    (hnew : Listed P b' (b.manifest.segments.length + 1) segment) {i : Nat} {listed : Segment}
    (h : (withSegment b.manifest segment).segments[i]? = some listed) :
    Listed P b' (i + 1) listed := by
  simp only [withSegment] at h
  rcases Nat.lt_trichotomy i b.manifest.segments.length with hlt | rfl | hgt
  · rw [List.getElem?_append_left hlt] at h
    exact (hold i listed h).mono hplace
  · rw [List.getElem?_append_right (Nat.le_refl _), Nat.sub_self] at h
    obtain rfl : segment = listed := by simpa using h
    exact hnew
  · rw [List.getElem?_eq_none (by simp; omega)] at h
    cases h

theorem Successor.numbered {b b' : BundleState κ} {next : Manifest}
    (hplace : SamePlace b b')
    (hold : ∀ i old, b.manifest.segments[i]? = some old → Listed P b (i + 1) old)
    (h : Successor P b b'.promotions next) {i : Nat} {listed : Segment}
    (hlisted : next.segments[i]? = some listed) : Listed P b' (i + 1) listed := by
  cases h with
  | segment segment promotion hpromotion hsource htarget hfree hfile hsha hbytes =>
      refine listed_withSegment hplace hold ?_ hlisted
      unfold Listed
      rw [hplace.1]
      exact ⟨hfile, promotion, hpromotion, hsource, htarget, hfree, hsha, hbytes⟩
  | _ => exact (hold i listed hlisted).mono hplace

/-- One operation, as a bundle sees it. -/
inductive Operated (P : Storage κ) (b b' : BundleState κ) :
    BundleOperation κ → Except RecordingError Unit → Prop
  | asked (r : Except RecordingError Unit) (hsame : SameManifest b b') :
      Operated P b b' .nextPartialPath r
  | changed (operation : BundleOperation κ) (r : Except RecordingError Unit)
      (hfinish : operation = .finish → (state b).terminal = true ∨ b.manifest.segments = [])
      (h : Change P b b' r) : Operated P b b' operation r
  | finished (r : Except RecordingError Unit) (nowMs : Nat)
      (hopen : (state b).terminal = false) (hsegments : b.manifest.segments ≠ [])
      (h : Committed P (finished b.manifest nowMs) b (r, b')) : Operated P b b' .finish r

theorem operate_operated (operation : BundleOperation κ) (b : BundleState κ) :
    Operated P b (exec (operate P operation) b).2 operation (exec (operate P operation) b).1 := by
  cases operation with
  | nextPartialPath =>
      apply Operated.asked
      have hkeeps : Keeps SameManifest (operate P (.nextPartialPath : BundleOperation κ)) := by
        unfold operate
        infer_instance
      exact hkeeps.keeps b
  | markStarted sourcePtsUs => exact .changed _ _ (fun h => nomatch h) (markStarted_change sourcePtsUs b)
  | recordGap reason source => exact .changed _ _ (fun h => nomatch h) (recordGap_change reason source b)
  | commitSegment finalized metadata =>
      exact .changed _ _ (fun h => nomatch h) (commitSegment_change finalized metadata b)
  | fail reason => exact .changed _ _ (fun h => nomatch h) (fail_change reason b)
  | changeFile path content =>
      exact .changed _ _ (fun h => nomatch h) (.kept _ (fun _ h => nomatch h) rfl rfl)
  | finish =>
      unfold operate
      cases hterminal : (state b).terminal with
      | true =>
          rw [finish_closed hterminal]
          exact .changed _ _ (fun _ => .inl hterminal) (.kept _ (fun _ _ => hterminal) rfl rfl)
      | false =>
          by_cases hsegments : b.manifest.segments = []
          · rw [finish_empty hterminal hsegments]
            exact .changed _ _ (fun _ => .inr hsegments) (fail_change _ b)
          · exact .finished _ _ hterminal hsegments (finish_committed hterminal hsegments)

instance (operation : BundleOperation κ) : Keeps SamePlace (operate P operation) := by
  cases operation with
  | changeFile path content => exact keeps_update fun _ => samePlace_of_eq rfl rfl
  | _ =>
      unfold operate
      infer_instance

/-! ## One step -/

def advance (x : BundleRun κ) (operation : BundleOperation κ) (b' : BundleState κ)
    (r : Except RecordingError Unit) : BundleRun κ where
  bundle := b'
  history := x.history ++ [⟨operation, state x.bundle, isError r⟩]

variable {x : BundleRun κ} {b' : BundleState κ} {operation : BundleOperation κ}
variable {r : Except RecordingError Unit}

theorem mem_advance {outcome : Outcome κ} :
    outcome ∈ (advance x operation b' r).history ↔
      outcome ∈ x.history ∨ outcome = ⟨operation, state x.bundle, isError r⟩ := by
  simp [advance]

theorem sticky_advance (hsticky : x.states.Pairwise fun s t => s.terminal = true → t = s)
    (hstep : (state x.bundle).terminal = true → state b' = state x.bundle) :
    (advance x operation b' r).states.Pairwise fun s t => s.terminal = true → t = s := by
  have hstates : (advance x operation b' r).states = x.states ++ [state b'] := by
    simp [BundleRun.states, advance, state]
  rw [hstates, List.pairwise_append]
  refine ⟨hsticky, List.pairwise_singleton _ _, ?_⟩
  intro s hs t ht hterminal
  obtain rfl := List.mem_singleton.mp ht
  have hpresent : state x.bundle = s := by
    obtain hs | hs := List.mem_append.mp hs
    · exact (List.pairwise_append.mp hsticky).2.2 s hs _ (List.mem_singleton_self _) hterminal
    · exact (List.mem_singleton.mp hs).symm
  rw [← hpresent] at hterminal ⊢
  exact hstep hterminal

theorem Recorded.kept (h : Recorded P x) (hplace : SamePlace x.bundle b')
    (hsame : SameManifest x.bundle b')
    (hfails : isError r = true →
      (state x.bundle).terminal = true ∨ operation = .nextPartialPath) :
    Recorded P (advance x operation b' r) := by
  have hstate : state b' = state x.bundle := congrArg Manifest.state hsame.1
  constructor
  · exact sticky_advance h.sticky fun _ => hstate
  · intro hcomplete
    rw [advance, hsame.1]
    exact h.complete (hstate ▸ hcomplete)
  · intro hopen outcome hmem hfailed
    have hopen' : (state x.bundle).terminal = false := hstate ▸ hopen
    obtain hmem | rfl := mem_advance.mp hmem
    · exact h.refused hopen' outcome hmem hfailed
    · obtain hclosed | hquery := hfails hfailed
      · rw [hopen'] at hclosed
        exact nomatch hclosed
      · exact hquery
  · intro i segment hsegment
    rw [advance, hsame.1] at hsegment
    exact (h.numbered i segment hsegment).mono hplace
  · intro hopen
    rw [advance, hsame.2]
    exact h.unfinished (hstate ▸ hopen)

theorem Recorded.undone (h : Recorded P x) (hopen : (state x.bundle).terminal = false)
    (hfailed : state b' = .failed)
    (hnumbered : ∀ i segment, b'.manifest.segments[i]? = some segment →
      Listed P b' (i + 1) segment) : Recorded P (advance x operation b' r) := by
  constructor
  · apply sticky_advance h.sticky
    intro hclosed
    rw [hopen] at hclosed
    exact nomatch hclosed
  · intro hcomplete
    exact nomatch hfailed.symm.trans hcomplete
  · intro hopen'
    rw [advance, hfailed] at hopen'
    exact nomatch hopen'
  · exact hnumbered
  · intro hopen'
    rw [advance, hfailed] at hopen'
    exact nomatch hopen'

theorem Recorded.changed (h : Recorded P x) (hplace : SamePlace x.bundle b')
    (hchange : Change P x.bundle b' r) : Recorded P (advance x operation b' r) := by
  cases hchange with
  | kept _ hrefused hmanifest hstored =>
      apply h.kept hplace ⟨hmanifest, hstored⟩
      intro herror
      cases r with
      | ok _ => exact nomatch herror
      | error error => exact .inl (hrefused error rfl)
  | durable _ next hrefused hopen hnext hmanifest hstored =>
      have hnot := hnext.not_successful hopen
      constructor
      · apply sticky_advance h.sticky
        intro hclosed
        rw [hopen] at hclosed
        exact nomatch hclosed
      · intro hcomplete
        exact absurd (.inl (hmanifest ▸ hcomplete)) hnot
      · intro hopen' outcome hmem hfailed
        obtain hmem | rfl := mem_advance.mp hmem
        · exact h.refused hopen outcome hmem hfailed
        · cases r with
          | ok _ => exact nomatch hfailed
          | error error =>
              rw [advance, state, hmanifest, hrefused error rfl] at hopen'
              exact nomatch hopen'
      · intro i segment hsegment
        rw [advance, hmanifest] at hsegment
        exact hnext.numbered hplace h.numbered hsegment
      · intro _ stored hmem
        rw [advance, hstored] at hmem
        obtain rfl : next = stored := by simpa using hmem
        exact hnot
  | undone error next nowMs hopen hnext hmanifest hstored =>
      apply h.undone hopen (by rw [state, hmanifest]; rfl)
      intro i segment hsegment
      rw [hmanifest] at hsegment
      exact hnext.numbered hplace h.numbered hsegment

theorem Recorded.committed (h : Recorded P x) {nowMs : Nat} (hplace : SamePlace x.bundle b')
    (hopen : (state x.bundle).terminal = false) (hsegments : x.bundle.manifest.segments ≠ [])
    (hcommitted : Committed P (finished x.bundle.manifest nowMs) x.bundle (r, b')) :
    Recorded P (advance x operation b' r) := by
  have hclosed := finished_terminal x.bundle.manifest nowMs
  cases hcommitted with
  | durable hrename hsync =>
      constructor
      · apply sticky_advance h.sticky
        intro hclosed
        rw [hopen] at hclosed
        exact nomatch hclosed
      · intro hcomplete
        exact ⟨hsegments, finished_complete.mp hcomplete⟩
      · intro hopen'
        exact Bool.noConfusion (hclosed.symm.trans hopen')
      · intro i segment hsegment
        exact (h.numbered i segment hsegment).mono hplace
      · intro hopen'
        exact Bool.noConfusion (hclosed.symm.trans hopen')
  | unsynced error nowMs hrename hsync =>
      exact h.undone hopen rfl fun i segment hsegment =>
        (h.numbered i segment hsegment).mono hplace
  | lost error nowMs calls hrename =>
      exact h.undone hopen rfl fun i segment hsegment =>
        (h.numbered i segment hsegment).mono hplace

theorem Recorded.operated (h : Recorded P x) (hplace : SamePlace x.bundle b')
    (hoperated : Operated P x.bundle b' operation r) : Recorded P (advance x operation b' r) := by
  cases hoperated with
  | asked _ hsame => exact h.kept hplace hsame fun _ => .inr rfl
  | changed _ _ hfinish hchange => exact h.changed hplace hchange
  | finished _ nowMs hopen hsegments hcommitted =>
      exact h.committed hplace hopen hsegments hcommitted

/-! ## When the disk agrees -/

theorem Recorded.durable {x : BundleRun κ} (h : Recorded P x)
    (hfailed : state x.bundle = .complete →
      ∀ outcome ∈ x.history, outcome.failed = true → outcome.before = .complete)
    (hagrees : ∀ stored ∈ x.bundle.stored, Successful stored → state x.bundle = stored.state) :
    Durable P x where
  sticky := h.sticky
  complete hcomplete := ⟨(h.complete hcomplete).1, (h.complete hcomplete).2, hfailed hcomplete⟩
  numbered := h.numbered
  agrees := hagrees

theorem Durable.kept (h : Durable P x) (hafter : Recorded P (advance x operation b' r))
    (hsame : SameManifest x.bundle b') : Durable P (advance x operation b' r) := by
  have hstate : state b' = state x.bundle := congrArg Manifest.state hsame.1
  apply hafter.durable
  · intro hcomplete outcome hmem hfailed
    have hbefore : state x.bundle = .complete := hstate.symm.trans hcomplete
    obtain hmem | rfl := mem_advance.mp hmem
    · exact (h.complete hbefore).2.2 outcome hmem hfailed
    · exact hbefore
  · intro stored hmem hsuccessful
    rw [advance, hsame.2] at hmem
    exact hstate.trans (h.agrees stored hmem hsuccessful)

theorem Durable.changed (h : Durable P x) (hrecorded : Recorded P x)
    (hafter : Recorded P (advance x operation b' r)) (hchange : Change P x.bundle b' r) :
    Durable P (advance x operation b' r) := by
  cases hchange with
  | kept _ hrefused hmanifest hstored => exact h.kept hafter ⟨hmanifest, hstored⟩
  | durable _ next hrefused hopen hnext hmanifest hstored =>
      have hnot := hnext.not_successful hopen
      apply hafter.durable
      · intro hcomplete
        exact absurd (.inl (hmanifest ▸ hcomplete)) hnot
      · intro stored hmem hsuccessful
        rw [advance, hstored] at hmem
        obtain rfl : next = stored := by simpa using hmem
        exact absurd hsuccessful hnot
  | undone error next nowMs hopen hnext hmanifest hstored =>
      have hstate : state b' = .failed := by rw [state, hmanifest]; rfl
      apply hafter.durable
      · intro hcomplete
        exact nomatch hstate.symm.trans hcomplete
      · intro stored hmem hsuccessful
        rw [advance] at hmem
        obtain hold | hnew := hstored
        · rw [hold] at hmem
          exact absurd hsuccessful (hrecorded.unfinished hopen stored hmem)
        · rw [hnew] at hmem
          obtain rfl : next = stored := by simpa using hmem
          exact absurd hsuccessful (hnext.not_successful hopen)

theorem Recorded.open_before (h : Recorded P x) (hopen : (state x.bundle).terminal = false)
    {outcome : Outcome κ} (hmem : outcome ∈ x.history) : outcome.before ≠ .complete := by
  intro hcomplete
  have hlast := (List.pairwise_append.mp h.sticky).2.2 outcome.before
    (List.mem_map_of_mem hmem) _ (List.mem_singleton_self _) (by rw [hcomplete]; rfl)
  rw [state, hlast, hcomplete] at hopen
  exact nomatch hopen

theorem durable_committed (hrecorded : Recorded P x) {nowMs : Nat}
    (hplace : SamePlace x.bundle b') (hopen : (state x.bundle).terminal = false)
    (hsegments : x.bundle.manifest.segments ≠ [])
    (hcommitted : Committed P (finished x.bundle.manifest nowMs) x.bundle (r, b')) :
    Durable P (advance x .finish b' r) ↔ Settles P x .finish := by
  have hafter : Recorded P (advance x .finish b' r) :=
    hrecorded.committed hplace hopen hsegments hcommitted
  cases hcommitted with
  | durable hrename hsync =>
      constructor
      · intro h _ _ _ _
        refine ⟨hsync, ?_⟩
        intro hgaps outcome hmem _
        by_contra hfailed
        have hbefore := (h.complete (finished_complete.mpr hgaps)).2.2 outcome
          (mem_advance.mpr (.inl hmem)) (by simpa using hfailed)
        exact hrecorded.open_before hopen hmem hbefore
      · intro h
        obtain ⟨-, hquery⟩ := h rfl hopen hsegments hrename
        apply hafter.durable
        · intro hcomplete outcome hmem hfailed
          obtain hmem | rfl := mem_advance.mp hmem
          · have hasked := hrecorded.refused hopen outcome hmem hfailed
            rw [hquery (finished_complete.mp hcomplete) outcome hmem hasked] at hfailed
            exact nomatch hfailed
          · exact nomatch hfailed
        · intro stored hmem _
          obtain rfl : finished x.bundle.manifest nowMs = stored := by simpa [advance] using hmem
          rfl
  | unsynced error failedMs hrename hsync =>
      constructor
      · intro h
        have hstate := h.agrees (finished x.bundle.manifest nowMs) rfl (finished_successful _ _)
        obtain hcomplete | hgaps := finished_successful x.bundle.manifest nowMs
        · exact nomatch hstate.trans hcomplete
        · exact nomatch hstate.trans hgaps
      · intro h
        exact absurd (h rfl hopen hsegments hrename).1 hsync
  | lost error failedMs calls hrename =>
      apply iff_of_true
      · apply hafter.durable
        · intro hcomplete
          exact nomatch hcomplete
        · intro stored hmem hsuccessful
          exact absurd hsuccessful (hrecorded.unfinished hopen stored hmem)
      · intro _ _ _ hrename'
        exact absurd hrename' hrename

theorem durable_iff_settles (hrecorded : Recorded P x) (h : Durable P x)
    (hplace : SamePlace x.bundle b') (hoperated : Operated P x.bundle b' operation r) :
    Durable P (advance x operation b' r) ↔ Settles P x operation := by
  have hafter := hrecorded.operated hplace hoperated
  cases hoperated with
  | asked _ hsame =>
      apply iff_of_true (h.kept hafter hsame)
      intro hfinish
      exact nomatch hfinish
  | changed _ _ hfinish hchange =>
      apply iff_of_true (h.changed hrecorded hafter hchange)
      intro hoperation hopen hsegments
      obtain hclosed | hempty := hfinish hoperation
      · rw [hopen] at hclosed
        exact nomatch hclosed
      · exact absurd hempty hsegments
  | finished _ nowMs hopen hsegments hcommitted =>
      exact durable_committed hrecorded hplace hopen hsegments hcommitted

/-! ## Runs -/

theorem Opened.recorded (h : Opened P x) : Recorded P x ∧ Durable P x := by
  obtain ⟨hhistory, parent, name, mode, b, hcreate⟩ := h
  obtain ⟨manifest, hstate, -, hsegments, hmanifest, hstored⟩ := create_ok hcreate
  have harming : state x.bundle = .arming := by rw [state, hmanifest, hstate]
  have hrecorded : Recorded P x := by
    constructor
    · rw [BundleRun.states, hhistory]
      exact List.pairwise_singleton _ _
    · intro hcomplete
      exact nomatch harming.symm.trans hcomplete
    · intro _ outcome hmem
      rw [hhistory] at hmem
      exact nomatch hmem
    · intro i segment hsegment
      rw [hmanifest, hsegments] at hsegment
      exact nomatch hsegment
    · intro _ stored hmem
      rw [hstored] at hmem
      obtain rfl : manifest = stored := by simpa using hmem
      simp [Successful, hstate]
  refine ⟨hrecorded, hrecorded.durable ?_ ?_⟩
  · intro hcomplete
    exact nomatch harming.symm.trans hcomplete
  · intro stored hmem hsuccessful
    exact absurd hsuccessful (hrecorded.unfinished (by rw [harming]; rfl) stored hmem)

/-- Through a run of a new bundle, whatever fails, memory and disk agree exactly as long as
each `finish` settles. -/
theorem durability_iff (P : Storage κ) {x : BundleRun κ} (h : Opened P x)
    (operations : List (BundleOperation κ)) :
    HoldsThroughout (Durable P) (bundleStep P) x operations ↔
      MeetsAll (Settles P) (bundleStep P) x operations := by
  refine @holdsThroughout_iff _ _ (Recorded P) _ _ _ _ ?_ ?_ _ _ h.recorded.1 h.recorded.2
    (meetsAll_true _ _ _)
  · intro y operation hy _
    exact hy.operated (Keeps.keeps y.bundle) (operate_operated operation y.bundle)
  · intro y operation hy _ hdurable
    exact durable_iff_settles hy hdurable (Keeps.keeps y.bundle)
      (operate_operated operation y.bundle)

/-- Files of a given length, on a storage where one call that syncs the bundle's directory may
fail. -/
def sampleStorage (unsynced : Option Nat) : Storage Nat where
  fails call n :=
    if call = .syncBundleDirectory ∧ unsynced = some n then some (.io "sync failed") else none
  nowMs := id
  isFile := fun _ => true
  length := id
  sha256 := fun _ => ""
  softwareVersion := "1.0.0"

def emptyBundle : BundleState Nat where
  path := ""
  manifest := newManifest (sampleStorage none) "" .encoded 0
  stored := none
  files := fun _ => none
  promotions := []
  calls := 0

def openedRun (unsynced : Option Nat) : BundleRun Nat where
  bundle := (exec (create (sampleStorage unsynced) "/parent" "recording-1" .encoded) emptyBundle).2
  history := []

def firstPath : SegmentPath := ⟨"/parent/recording-1", 1, .partialFile⟩

def sampleMetadata : SegmentMetadata where
  source := ⟨1, 1, 1, 2, 0, 33333⟩
  outputFirstPtsUs := 0
  outputLastPtsUs := 33333
  sceneRevision := none
  sourceRotation := none
  sourceMirrored := none
  codec := "avc"
  width := 1280
  height := 720
  fps := 30
  rotation := 0
  mirrored := false
  configurationSha256 := "aaaaaaaaaaaaaaaaaaaaaaaaaaaaaaaaaaaaaaaaaaaaaaaaaaaaaaaaaaaaaaaa"

/-- One segment is committed and the recording finishes. -/
def oneSegment : List (BundleOperation Nat) :=
  [.changeFile firstPath (some 5), .markStarted 0, .commitSegment ⟨firstPath⟩ sampleMetadata, .finish]

theorem durability_iff_oneSegment :
    HoldsThroughout (Durable (sampleStorage none)) (bundleStep (sampleStorage none))
        (openedRun none) oneSegment ↔
      MeetsAll (Settles (sampleStorage none)) (bundleStep (sampleStorage none)) (openedRun none)
        oneSegment :=
  durability_iff (sampleStorage none)
    ⟨rfl, "/parent", "recording-1", .encoded, emptyBundle, rfl⟩ oneSegment

/-! ### The manifest of `finish` is renamed, and then its directory is not synced -/

theorem unsynced_finish :
    let x := oneSegment.foldl (bundleStep (sampleStorage (some 33))) (openedRun (some 33))
    state x.bundle = .failed ∧ x.bundle.stored.map Manifest.state = some .complete := by
  decide +kernel

theorem durability_fails :
    Opened (sampleStorage (some 33)) (openedRun (some 33)) ∧
      ¬HoldsThroughout (Durable (sampleStorage (some 33))) (bundleStep (sampleStorage (some 33)))
        (openedRun (some 33)) oneSegment := by
  refine ⟨⟨rfl, "/parent", "recording-1", .encoded, emptyBundle, rfl⟩, ?_⟩
  intro h
  obtain ⟨hfailed, hstored⟩ := unsynced_finish
  obtain ⟨stored, hmem, hcomplete⟩ := Option.map_eq_some_iff.mp hstored
  have hagrees := h.last.agrees stored hmem (.inl hcomplete)
  exact nomatch hfailed.symm.trans (hagrees.trans hcomplete)

end RecordingBundle

end PicooCamera.Recording
