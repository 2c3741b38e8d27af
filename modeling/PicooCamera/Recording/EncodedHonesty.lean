import PicooCamera.Bitstream.Alignment
import PicooCamera.Library.TransitionSystem
import PicooCamera.Recording.BundleEffects
import PicooCamera.Recording.EncodedWriter

/-!
# What an encoded recording says of itself

A recording that ends `Complete` holds every input that was accepted since it
began. A change of the source closes the active segment without a gap, so this
depends on what comes first after the change.
-/

namespace PicooCamera.Recording

open PicooCamera.Library PicooCamera.Packet TransitionSystem

/-! ## Segments and sources -/

/-- The configuration that the writer compares. -/
structure SourceConfiguration where
  connectionGeneration : Nat
  streamEpoch : Nat
  codecConfiguration : Bytes
  fps : Nat
  rotation : Nat
  mirrored : Bool
  deriving DecidableEq, Repr

def RecordingInput.sourceConfiguration (input : RecordingInput) : SourceConfiguration where
  connectionGeneration := input.connectionGeneration
  streamEpoch := input.configuration.streamEpoch
  codecConfiguration := input.configuration.codecConfiguration
  fps := input.configuration.fps
  rotation := input.configuration.rotation
  mirrored := input.configuration.mirrored

def startsSegment (P : WriterPlatform) (input : RecordingInput) : Bool :=
  match inspectInput P input with
  | .ok inspected => inspected.idr
  | .error _ => false

/-- `next` follows `input` in a segment. -/
def Follows (input next : RecordingInput) : Prop :=
  next.id = input.id + 1 ∧ input.accessUnit.ptsUs < next.accessUnit.ptsUs

structure HonestSegment (P : WriterPlatform) (content : Samples) : Prop where
  startsWithIdr : ∃ first ∈ content.head?, startsSegment P first = true
  contiguous : content.IsChain Follows
  uniform : ∀ a ∈ content, ∀ b ∈ content, a.sourceConfiguration = b.sourceConfiguration

/-- Between two recorded ids of one source no id is missing. -/
def NoIdMissing (recorded : Samples) : Prop :=
  ∀ a ∈ recorded, ∀ b ∈ recorded, a.source = b.source → ∀ id, a.id ≤ id → id ≤ b.id →
    ∃ c ∈ recorded, c.source = a.source ∧ c.id = id

/-- There is no id between that of `input` and the recorded ids of its source. -/
def Adjoins (recorded : Samples) (input : RecordingInput) : Prop :=
  (∃ a ∈ recorded, a.source = input.source) →
    (∃ a ∈ recorded, a.source = input.source ∧ input.id ≤ a.id + 1) ∧
      ∃ b ∈ recorded, b.source = input.source ∧ b.id ≤ input.id + 1

theorem noIdMissing_append {recorded : Samples} {input : RecordingInput}
    (h : NoIdMissing recorded) (hadjoins : Adjoins recorded input) :
    NoIdMissing (recorded ++ [input]) := by
  have hold : ∀ {a b : RecordingInput} {id : Nat}, a ∈ recorded → b ∈ recorded →
      a.source = b.source → a.id ≤ id → id ≤ b.id →
        ∃ c ∈ recorded ++ [input], c.source = a.source ∧ c.id = id := by
    intro a b id ha hb hab hle hge
    obtain ⟨c, hc, hrest⟩ := h a ha b hb hab id hle hge
    exact ⟨c, List.mem_append_left _ hc, hrest⟩
  have hself : input ∈ recorded ++ [input] := List.mem_append_right _ (List.mem_singleton_self _)
  intro a hmema b hmemb hab id hle hge
  obtain ha | ha := List.mem_append.mp hmema
  · obtain hb | hb := List.mem_append.mp hmemb
    · exact hold ha hb hab hle hge
    · -- Up to the new id: the recorded ids reach the one before it.
      obtain rfl := List.mem_singleton.mp hb
      obtain ⟨⟨d, hd, hdb, hnext⟩, -⟩ := hadjoins ⟨a, ha, hab⟩
      obtain heq | hlt : id = b.id ∨ id < b.id := by omega
      · exact ⟨b, hself, hab.symm, heq.symm⟩
      · exact hold ha hd (hab.trans hdb.symm) hle (by omega)
  · obtain rfl := List.mem_singleton.mp ha
    obtain hb | hb := List.mem_append.mp hmemb
    · obtain ⟨-, d, hd, hda, hnext⟩ := hadjoins ⟨b, hb, hab.symm⟩
      obtain heq | hlt : id = a.id ∨ a.id < id := by omega
      · exact ⟨a, hself, rfl, heq.symm⟩
      · rw [← hda]
        exact hold hd hb (hda.trans hab) (by omega) hge
    · obtain rfl := List.mem_singleton.mp hb
      exact ⟨b, hself, rfl, by omega⟩

/-! ## Runs of a writer -/

inductive WriterCall where
  | writeOrdered (input : RecordingInput)
  | gap (reason : GapReason) (source : Option SourceRange)
  | finish

structure WriterRun where
  writer : WriterState
  /-- The inputs of `write_ordered` that were answered with `Ok`, in the order of the calls. -/
  accepted : Samples

namespace EncodedWriter

open Program

def acceptedBy (result : Except RecordingError Unit) (input : RecordingInput) : Samples :=
  match result with
  | .ok () => [input]
  | .error _ => []

def writerStep (P : WriterPlatform) (x : WriterRun) : WriterCall → WriterRun
  | .writeOrdered input =>
      { writer := (exec (writeOrdered P input) x.writer).2
        accepted := x.accepted ++ acceptedBy (exec (writeOrdered P input) x.writer).1 input }
  | .gap reason source => { x with writer := (exec (gap P reason source) x.writer).2 }
  | .finish => { x with writer := (exec (finish P) x.writer).2 }

/-- The run begins with a writer that `create` made. -/
def Created (P : WriterPlatform) (x : WriterRun) : Prop :=
  x.accepted = [] ∧ ∃ parent name s, exec (create P parent name) s = (.ok (), x.writer)

/-- The files of the listed segments, in their order. -/
def segmentFiles (b : BundleState Samples) : List (Option Samples) :=
  (List.range b.manifest.segments.length).map fun i => b.files ⟨b.path, i + 1, .mp4⟩

def activeSamples (s : WriterState) : Samples :=
  match s.active with
  | none => []
  | some active => active.samples

/-- What is in the listed segments and in the active one. -/
def recorded (s : WriterState) : Samples :=
  ((segmentFiles s.bundle).map fun file => file.getD []).flatten ++ activeSamples s

structure Honest (P : WriterPlatform) (x : WriterRun) : Prop where
  /-- A complete recording consists of honest segments, and of all that was accepted from its
  first input on. -/
  complete : RecordingBundle.state x.writer.bundle = .complete →
    ∃ before contents, segmentFiles x.writer.bundle = contents.map some ∧
      (∀ content ∈ contents, HonestSegment P content) ∧ contents ≠ [] ∧
      x.accepted = before ++ contents.flatten ∧
      (∀ input ∈ before, startsSegment P input = false) ∧ NoIdMissing contents.flatten
  /-- Where no gap is recorded, all that was accepted since the recording began is written. -/
  written : RecordingBundle.state x.writer.bundle ≠ .arming →
    RecordingBundle.state x.writer.bundle ≠ .failed → x.writer.bundle.manifest.gaps = [] →
      ∃ before, x.accepted = before ++ recorded x.writer ∧
        ∀ input ∈ before, startsSegment P input = false
  noGaps : RecordingBundle.state x.writer.bundle = .complete →
    x.writer.bundle.manifest.gaps = []

/-- While no gap is recorded, the source changes with a random access point, whose id leaves
none out among those that are recorded of its source. -/
def WellPlaced (P : WriterPlatform) (x : WriterRun) (call : WriterCall) : Prop :=
  ∀ input, call = .writeOrdered input → x.writer.bundle.manifest.gaps = [] →
    ∀ active ∈ x.writer.active, changed active input →
      startsSegment P input = true ∧ Adjoins (recorded x.writer) input

/-! ## Programs of the writer -/

variable {P : WriterPlatform} {s s' : WriterState}

theorem segmentFiles_congr {b b' : BundleState Samples} (hpath : b'.path = b.path)
    (hlength : b'.manifest.segments.length = b.manifest.segments.length)
    (hfiles : ∀ number ≤ b.manifest.segments.length,
      b'.files ⟨b.path, number, .mp4⟩ = b.files ⟨b.path, number, .mp4⟩) :
    segmentFiles b' = segmentFiles b := by
  unfold segmentFiles
  rw [hlength, hpath]
  apply List.map_congr_left
  intro i hi
  exact hfiles (i + 1) (by have := List.mem_range.mp hi; omega)

theorem segmentFiles_withSegment {b b' : BundleState Samples} {content : Samples}
    {segment : Segment} (hpath : b'.path = b.path)
    (hmanifest : b'.manifest = RecordingBundle.withSegment b.manifest segment)
    (hfiles : b'.files = Function.update
      (Function.update b.files (RecordingBundle.partialPath b) none)
      (RecordingBundle.partialPath b).withMp4 (some content)) :
    segmentFiles b' = segmentFiles b ++ [some content] := by
  have hlength : b'.manifest.segments.length = b.manifest.segments.length + 1 := by
    rw [hmanifest]
    simp [RecordingBundle.withSegment]
  unfold segmentFiles
  rw [hlength, List.range_succ, List.map_append, hpath]
  congr 1
  · apply List.map_congr_left
    intro i hi
    have hlt := List.mem_range.mp hi
    rw [hfiles, Function.update_of_ne, Function.update_of_ne]
    · simp [RecordingBundle.partialPath]
    · simp only [RecordingBundle.partialPath, SegmentPath.withMp4, ne_eq, SegmentPath.mk.injEq]
      omega
  · rw [hfiles]
    simp [RecordingBundle.partialPath, SegmentPath.withMp4]

theorem onBundle_ok {α : Type} {p : Bundle Samples α} {a : α}
    (h : exec (onBundle p) s = (.ok a, s')) :
    exec p s.bundle = (.ok a, s'.bundle) ∧ s' = { s with bundle := s'.bundle } := by
  have hfst : (exec p s.bundle).1 = .ok a := congrArg Prod.fst h
  have hsnd : { s with bundle := (exec p s.bundle).2 } = s' := congrArg Prod.snd h
  subst hsnd
  exact ⟨Prod.ext hfst rfl, rfl⟩

theorem ask_ok {α : Type} {answer : Nat → Except RecordingError α} {a : α}
    (h : exec (ask answer) s = (.ok a, s')) : answer s.questions = .ok a ∧ s' = nextQuestion s :=
  ⟨congrArg Prod.fst h, (congrArg Prod.snd h).symm⟩

theorem closeSegment_none (h : s.active = none) :
    exec (closeSegment P) s = (.ok (), s) := by
  unfold closeSegment
  rw [exec_read_bind, h]
  rfl

theorem closeSegment_ok {active : ActiveSegment} (hactive : s.active = some active)
    (hpath : active.path = RecordingBundle.partialPath s.bundle)
    (h : exec (closeSegment P) s = (.ok (), s')) :
    s'.active = none ∧ segmentFiles s'.bundle = segmentFiles s.bundle ++ [some active.samples] ∧
      ∃ segment, s'.bundle.manifest = RecordingBundle.withSegment s.bundle.manifest segment := by
  unfold closeSegment setActive writePartial at h
  rw [exec_read_bind, hactive] at h
  dsimp only at h
  rw [exec_update_bind] at h
  obtain ⟨_, s₂, hask, h⟩ := of_exec_bind_ok h
  obtain ⟨-, rfl⟩ := ask_ok hask
  rw [exec_update_bind] at h
  obtain ⟨hcommit, hs'⟩ := onBundle_ok h
  obtain ⟨content, segment, -, hcontent, -, hbundle, hmanifest, hfiles⟩ :=
    RecordingBundle.commitSegment_ok hcommit
  have hsamples : active.samples = content := by
    have hfile : Function.update s.bundle.files active.path (some active.samples)
        (RecordingBundle.partialPath s.bundle) = some content := hcontent
    rw [hpath, Function.update_self] at hfile
    exact Option.some.inj hfile
  refine ⟨by rw [hs']; rfl, ?_, segment, hmanifest⟩
  rw [segmentFiles_withSegment hbundle hmanifest hfiles, hsamples]
  congr 1
  refine segmentFiles_congr ?_ ?_ ?_
  · rfl
  · rfl
  · intro number _
    apply Function.update_of_ne
    rw [hpath]
    simp [RecordingBundle.partialPath]

/-- Only the environment was asked. -/
def QuestionsOnly (s s' : WriterState) : Prop := s' = { s with questions := s'.questions }

instance : Frame QuestionsOnly where
  refl _ := rfl
  trans hst htu := by
    unfold QuestionsOnly at *
    rw [htu, hst]

instance : Keeps QuestionsOnly (now P) := ⟨fun _ => rfl⟩

instance {α : Type} (answer : Nat → Except RecordingError α) :
    Keeps QuestionsOnly (ask answer) := ⟨fun _ => rfl⟩

instance (input : RecordingInput) : Keeps QuestionsOnly (checkDeadline P input) := by
  unfold checkDeadline
  infer_instance

instance (input : RecordingInput) (deadline attempts : Nat) :
    Keeps QuestionsOnly (appendLoop P input deadline attempts) := by
  induction attempts with
  | zero =>
      unfold appendLoop
      infer_instance
  | succ attempts ih =>
      unfold appendLoop
      apply keeps_then inferInstance
      intro _
      apply keeps_then inferInstance
      rintro (_ | _) <;> infer_instance

theorem questionsOnly_of {α : Type} {p : Writer α} [hp : Keeps QuestionsOnly p] {a : α}
    (h : exec p s = (.ok a, s')) : QuestionsOnly s s' := by
  have hkeeps : QuestionsOnly s (exec p s).2 := hp.keeps s
  rwa [h] at hkeeps

/-! ## The active segment -/

def ActiveSegment.sourceConfiguration (active : ActiveSegment) : SourceConfiguration where
  connectionGeneration := active.metadata.source.connectionGeneration
  streamEpoch := active.configuration.streamEpoch
  codecConfiguration := active.configuration.codecConfiguration
  fps := active.configuration.fps
  rotation := active.configuration.rotation
  mirrored := active.configuration.mirrored

theorem not_changed_iff {active : ActiveSegment} {input : RecordingInput} :
    ¬changed active input ↔
      input.sourceConfiguration = ActiveSegment.sourceConfiguration active := by
  simp only [changed, not_or, ne_eq, not_not, RecordingInput.sourceConfiguration,
    ActiveSegment.sourceConfiguration, SourceConfiguration.mk.injEq]
  constructor <;> rintro ⟨h₁, h₂, h₃, h₄, h₅, h₆⟩ <;>
    exact ⟨h₁.symm, h₂.symm, h₃.symm, h₄.symm, h₅.symm, h₆.symm⟩

structure ActiveHonest (P : WriterPlatform) (b : BundleState Samples) (active : ActiveSegment) :
    Prop where
  path : active.path = RecordingBundle.partialPath b
  segment : HonestSegment P active.samples
  last : ∃ last ∈ active.samples.getLast?, last.id = active.metadata.source.lastAu ∧
    last.accessUnit.ptsUs = active.metadata.source.lastPtsUs
  source : ∀ input ∈ active.samples,
    input.sourceConfiguration = ActiveSegment.sourceConfiguration active ∧
      input.accessUnit.streamEpoch = input.configuration.streamEpoch

/-- What an input has to be, to be appended to the active segment. -/
structure Continues (P : WriterPlatform) (active : ActiveSegment) (input : RecordingInput) :
    Prop where
  source : input.sourceConfiguration = ActiveSegment.sourceConfiguration active
  epoch : input.accessUnit.streamEpoch = input.configuration.streamEpoch
  follows : ∀ last ∈ active.samples.getLast?, Follows last input
  first : active.samples = [] → startsSegment P input = true

theorem honestSegment_append {content : Samples} {input : RecordingInput}
    (h : content ≠ [] → HonestSegment P content)
    (hfollows : ∀ last ∈ content.getLast?, Follows last input)
    (hfirst : content = [] → startsSegment P input = true)
    (huniform : ∀ a ∈ content, a.sourceConfiguration = input.sourceConfiguration) :
    HonestSegment P (content ++ [input]) := by
  constructor
  · cases content with
    | nil => exact ⟨input, rfl, hfirst rfl⟩
    | cons first rest => exact (h (by simp)).startsWithIdr
  · rw [List.isChain_append]
    refine ⟨?_, List.isChain_singleton _, ?_⟩
    · cases content with
      | nil => exact List.isChain_nil
      | cons first rest => exact (h (by simp)).contiguous
    · intro last hlast next hnext
      obtain rfl : input = next := by simpa using hnext
      exact hfollows last hlast
  · intro a ha b hb
    have hall : ∀ c ∈ content ++ [input], c.sourceConfiguration = input.sourceConfiguration := by
      intro c hc
      obtain hc | hc := List.mem_append.mp hc
      · exact huniform c hc
      · rw [List.mem_singleton.mp hc]
    rw [hall a ha, hall b hb]

theorem appended_honest {b b' : BundleState Samples} {active : ActiveSegment}
    {input : RecordingInput}
    (hpath : active.path = RecordingBundle.partialPath b')
    (h : active.samples ≠ [] → ActiveHonest P b active)
    (hcontinues : Continues P active input) : ActiveHonest P b' (appended active input) := by
  constructor
  · exact hpath
  · apply honestSegment_append
    · intro hne
      exact (h hne).segment
    · exact hcontinues.follows
    · exact hcontinues.first
    · intro a ha
      rw [((h (List.ne_nil_of_mem ha)).source a ha).1, hcontinues.source]
  · exact ⟨input, by simp [appended], rfl, rfl⟩
  · intro a ha
    obtain hold | hnew := List.mem_append.mp ha
    · exact (h (List.ne_nil_of_mem hold)).source a hold
    · rw [List.mem_singleton.mp hnew]
      exact ⟨hcontinues.source, hcontinues.epoch⟩

/-! ## Placing an input -/

theorem startSegment_ok {input : RecordingInput} {codec : Bitstream.Codec}
    (h : exec (startSegment P input codec) s = (.ok (), s')) :
    s'.active = some {
        path := RecordingBundle.partialPath s.bundle
        samples := []
        configuration := input.configuration
        metadata := segmentMetadata P input codec
        boundaryRequested := false } ∧
      s'.bundle.manifest = s.bundle.manifest ∧ s'.bundle.path = s.bundle.path ∧
      segmentFiles s'.bundle = segmentFiles s.bundle := by
  unfold startSegment writePartial setActive at h
  obtain ⟨path, s₁, hpath, h⟩ := of_exec_bind_ok h
  obtain ⟨hpath, hs₁⟩ := onBundle_ok hpath
  obtain ⟨hbundle, rfl, -⟩ := RecordingBundle.nextPartialPath_ok hpath
  obtain ⟨_, s₂, hask, h⟩ := of_exec_bind_ok h
  obtain ⟨-, rfl⟩ := ask_ok hask
  rw [exec_update_bind] at h
  obtain rfl := congrArg Prod.snd h
  have hmanifest : s₁.bundle.manifest = s.bundle.manifest := congrArg BundleState.manifest hbundle
  have hplace : s₁.bundle.path = s.bundle.path := congrArg BundleState.path hbundle
  refine ⟨rfl, hmanifest, hplace, ?_⟩
  · rw [← hbundle]
    refine segmentFiles_congr ?_ ?_ ?_
    · rfl
    · rfl
    · intro number _
      apply Function.update_of_ne
      simp [RecordingBundle.partialPath]

theorem appendInput_ok {active : ActiveSegment} {input : RecordingInput} {idr : Bool}
    (hactive : s.active = some active) (h : exec (appendInput P input idr) s = (.ok (), s')) :
    s'.active = some (appended active input) ∧ s'.bundle.files = s.bundle.files ∧
      s'.bundle.path = s.bundle.path ∧ s'.bundle.manifest =
        if s.bundle.manifest.actualStartPtsUs = none then
          RecordingBundle.started s.bundle.manifest input.accessUnit.ptsUs
        else s.bundle.manifest := by
  unfold appendInput setActive setRefreshRequested at h
  rw [exec_read_bind, hactive] at h
  dsimp only at h
  obtain ⟨instant, s₁, hnow, h⟩ := of_exec_bind_ok h
  obtain ⟨_, s₂, hloop, h⟩ := of_exec_bind_ok h
  have hbefore : QuestionsOnly s s₂ := Frame.trans (questionsOnly_of hnow) (questionsOnly_of hloop)
  rw [exec_update_bind] at h
  obtain ⟨_, s₃, hmark, h⟩ := of_exec_bind_ok h
  obtain ⟨hmark, hs₃⟩ := onBundle_ok hmark
  obtain ⟨_, s₄, hcheck, h⟩ := of_exec_bind_ok h
  have hchecked := questionsOnly_of hcheck
  have hbundle : s₂.bundle = s.bundle := by rw [hbefore]
  obtain ⟨hfiles, hpath, hmanifest⟩ := RecordingBundle.markStarted_ok hmark
  dsimp only at hfiles hpath hmanifest
  rw [hbundle] at hfiles hpath hmanifest
  have hend : s'.active = s₄.active ∧ s'.bundle = s₄.bundle := by
    rw [exec_ite] at h
    split at h <;> obtain rfl := congrArg Prod.snd h <;> exact ⟨rfl, rfl⟩
  rw [hend.1, hend.2, hchecked]
  refine ⟨?_, hfiles, hpath, hmanifest⟩
  rw [hs₃]

/-! ## The invariant -/

/-- What holds of a bundle that has not failed, also in the middle of a call. -/
structure Kept (P : WriterPlatform) (s : WriterState) (accepted : Samples) : Prop where
  listed : ∃ contents : List Samples, segmentFiles s.bundle = contents.map some ∧
    ∀ content ∈ contents, HonestSegment P content
  active : ∀ active ∈ s.active, ActiveHonest P s.bundle active
  arming : RecordingBundle.state s.bundle = .arming →
    s.bundle.manifest.segments = [] ∧ s.bundle.manifest.actualStartPtsUs = none ∧
      s.active = none ∧ ∀ input ∈ accepted, startsSegment P input = false
  gapless : RecordingBundle.state s.bundle ≠ .arming → s.bundle.manifest.gaps = [] →
    (∃ before, accepted = before ++ recorded s ∧
      ∀ input ∈ before, startsSegment P input = false) ∧ NoIdMissing (recorded s)

/-- What holds between two calls of a bundle that has not failed. -/
structure Faithful (P : WriterPlatform) (s : WriterState) (accepted : Samples) : Prop
    extends Kept P s accepted where
  running : RecordingBundle.state s.bundle = .recording → s.bundle.manifest.gaps = [] →
    s.active.isSome
  closed : (RecordingBundle.state s.bundle).terminal = true → s.active = none
  complete : RecordingBundle.state s.bundle = .complete →
    s.bundle.manifest.segments ≠ [] ∧ s.bundle.manifest.gaps = []

/-- What `advanceActive` leaves for `placeInput`. -/
structure Ready (P : WriterPlatform) (s : WriterState) (accepted : Samples)
    (input : RecordingInput) : Prop extends Kept P s accepted where
  continues : ∀ active ∈ s.active, Continues P active input
  begins : s.active = none → RecordingBundle.state s.bundle ≠ .arming →
    s.bundle.manifest.gaps = [] → startsSegment P input = true ∧ Adjoins (recorded s) input

theorem activeSamples_some {active : ActiveSegment} (h : s.active = some active) :
    activeSamples s = active.samples := by
  rw [activeSamples, h]

theorem activeSamples_none (h : s.active = none) : activeSamples s = [] := by
  rw [activeSamples, h]

theorem recorded_eq {t : WriterState} (hfiles : segmentFiles t.bundle = segmentFiles s.bundle)
    (hactive : activeSamples t = activeSamples s) : recorded t = recorded s := by
  rw [recorded, recorded, hfiles, hactive]

theorem Continues.adjoins {active : ActiveSegment} {input : RecordingInput}
    (hactive : s.active = some active) (hhonest : ActiveHonest P s.bundle active)
    (h : Continues P active input) : Adjoins (recorded s) input := by
  intro _
  obtain ⟨last, hlast, -, -⟩ := hhonest.last
  have hmem : last ∈ active.samples := List.mem_of_getLast? hlast
  obtain ⟨hsource, hepoch⟩ := hhonest.source last hmem
  have hfollows := h.follows last hlast
  have hsame : last.sourceConfiguration = input.sourceConfiguration := hsource.trans h.source.symm
  have hkey : last.source = input.source := by
    have hconnection := congrArg SourceConfiguration.connectionGeneration hsame
    have hstream := congrArg SourceConfiguration.streamEpoch hsame
    simp only [RecordingInput.sourceConfiguration] at hconnection hstream
    rw [RecordingInput.source, RecordingInput.source, hepoch, h.epoch, hconnection, hstream]
  have hrecorded : last ∈ recorded s := by
    rw [recorded, activeSamples_some hactive]
    exact List.mem_append_right _ hmem
  have hid := hfollows.1
  exact ⟨⟨last, hrecorded, hkey, by omega⟩, last, hrecorded, hkey, by omega⟩

theorem placed {t : WriterState} {accepted : Samples} {active : ActiveSegment}
    {input : RecordingInput} (hkept : Kept P s accepted)
    (hfiles : segmentFiles t.bundle = segmentFiles s.bundle)
    (hmanifest : t.bundle.manifest =
      if s.bundle.manifest.actualStartPtsUs = none then
        RecordingBundle.started s.bundle.manifest input.accessUnit.ptsUs
      else s.bundle.manifest)
    (hopen : (RecordingBundle.state s.bundle).terminal = false)
    (hactive : t.active = some active)
    (hsamples : active.samples = activeSamples s ++ [input])
    (hhonest : ActiveHonest P t.bundle active)
    (hadjoins : s.bundle.manifest.gaps = [] → Adjoins (recorded s) input) :
    Faithful P t (accepted ++ [input]) := by
  have hrecording : RecordingBundle.state t.bundle = .recording := by
    rw [RecordingBundle.state, hmanifest]
    split
    · rfl
    · rename_i hstarted
      cases hstate : RecordingBundle.state s.bundle with
      | arming => exact absurd (hkept.arming hstate).2.1 hstarted
      | recording => exact hstate
      | complete => rw [hstate] at hopen; exact nomatch hopen
      | hasGaps => rw [hstate] at hopen; exact nomatch hopen
      | failed => rw [hstate] at hopen; exact nomatch hopen
  have hgaps : t.bundle.manifest.gaps = s.bundle.manifest.gaps := by
    rw [hmanifest]
    split <;> rfl
  have hrecorded : recorded t = recorded s ++ [input] := by
    rw [recorded, recorded, hfiles, activeSamples_some hactive, hsamples, List.append_assoc]
  constructor
  · constructor
    · rw [hfiles]
      exact hkept.listed
    · intro a ha
      rw [hactive] at ha
      obtain rfl := Option.some.inj ha
      exact hhonest
    · intro harming
      rw [hrecording] at harming
      exact nomatch harming
    · intro _ hnone
      rw [hgaps] at hnone
      rw [hrecorded]
      by_cases harming : RecordingBundle.state s.bundle = .arming
      · -- The recording begins with this input.
        obtain ⟨hsegments, -, hinactive, hbefore⟩ := hkept.arming harming
        have hempty : recorded s = [] := by
          rw [recorded, activeSamples_none hinactive, segmentFiles, hsegments]
          rfl
        rw [hempty]
        refine ⟨⟨accepted, rfl, hbefore⟩, ?_⟩
        exact noIdMissing_append (fun a ha => nomatch ha) (hempty ▸ hadjoins hnone)
      · obtain ⟨⟨before, haccepted, hbefore⟩, hids⟩ := hkept.gapless harming hnone
        refine ⟨⟨before, ?_, hbefore⟩, noIdMissing_append hids (hadjoins hnone)⟩
        rw [haccepted, List.append_assoc]
  · intro _ _
    rw [hactive]
    rfl
  · intro hterminal
    rw [hrecording] at hterminal
    exact nomatch hterminal
  · intro hcomplete
    rw [hrecording] at hcomplete
    exact nomatch hcomplete

theorem startsSegment_eq {input : RecordingInput} {inspected : InspectedInput}
    (h : inspectInput P input = .ok inspected) : startsSegment P input = inspected.idr := by
  rw [startsSegment, h]

theorem inspectInput_epoch {input : RecordingInput} {inspected : InspectedInput}
    (h : inspectInput P input = .ok inspected) :
    input.accessUnit.streamEpoch = input.configuration.streamEpoch := by
  by_contra hne
  unfold inspectInput at h
  rw [if_pos hne] at h
  exact nomatch h

theorem placeInput_ok {accepted : Samples} {input : RecordingInput} {inspected : InspectedInput}
    (hinspected : inspectInput P input = .ok inspected) (hready : Ready P s accepted input)
    (hopen : (RecordingBundle.state s.bundle).terminal = false)
    (h : exec (placeInput P input inspected) s = (.ok (), s')) :
    Faithful P s' (accepted ++ [input]) := by
  have hstarts := startsSegment_eq hinspected
  unfold placeInput at h
  rw [exec_read_bind, exec_ite, exec_ite] at h
  cases hactive : s.active with
  | some active =>
      rw [if_pos (by rw [hactive]; rfl)] at h
      obtain ⟨hnext, hfiles, hpath, hmanifest⟩ := appendInput_ok hactive h
      have hhonest := hready.active active hactive
      have hcontinues := hready.continues active hactive
      have hlength : s'.bundle.manifest.segments.length = s.bundle.manifest.segments.length := by
        rw [hmanifest]
        split <;> rfl
      have hpartial : active.path = RecordingBundle.partialPath s'.bundle := by
        rw [hhonest.path, RecordingBundle.partialPath, RecordingBundle.partialPath, hpath, hlength]
      refine placed hready.toKept ?_ hmanifest hopen hnext ?_ ?_ ?_
      · exact segmentFiles_congr hpath hlength fun number _ => by rw [hfiles]
      · rw [activeSamples_some hactive]
        rfl
      · exact appended_honest hpartial (fun _ => hhonest) hcontinues
      · intro _
        exact hcontinues.adjoins hactive hhonest
  | none =>
      rw [if_neg (by rw [hactive]; simp)] at h
      cases hidr : inspected.idr with
      | false =>
          rw [if_pos hidr] at h
          obtain rfl : s = s' := congrArg Prod.snd h
          rw [hidr] at hstarts
          have hgaps : RecordingBundle.state s.bundle ≠ .arming → s.bundle.manifest.gaps ≠ [] := by
            intro harming hnone
            have hbegins := (hready.begins hactive harming hnone).1
            rw [hstarts] at hbegins
            cases hbegins
          constructor
          · constructor
            · exact hready.listed
            · exact hready.active
            · intro harming
              obtain ⟨hsegments, hstart, hinactive, hbefore⟩ := hready.arming harming
              refine ⟨hsegments, hstart, hinactive, ?_⟩
              intro a ha
              obtain hold | hnew := List.mem_append.mp ha
              · exact hbefore a hold
              · rw [List.mem_singleton.mp hnew]
                exact hstarts
            · intro harming hnone
              exact absurd hnone (hgaps harming)
          · intro hrecording hnone
            exact absurd hnone (hgaps (by rw [hrecording]; simp))
          · intro hterminal
            cases hopen.symm.trans hterminal
          · intro hcomplete
            rw [hcomplete] at hopen
            cases hopen
      | true =>
          rw [if_neg (by rw [hidr]; simp)] at h
          obtain ⟨_, s₁, hstart, h⟩ := of_exec_bind_ok h
          obtain ⟨hactive₁, hmanifest₁, hpath₁, hfiles₁⟩ := startSegment_ok hstart
          obtain ⟨hnext, hfiles, hpath, hmanifest⟩ := appendInput_ok hactive₁ h
          rw [hmanifest₁] at hmanifest
          have hlength : s'.bundle.manifest.segments.length =
              s₁.bundle.manifest.segments.length := by
            rw [hmanifest, hmanifest₁]
            split <;> rfl
          have hpartial : RecordingBundle.partialPath s.bundle =
              RecordingBundle.partialPath s'.bundle := by
            rw [RecordingBundle.partialPath, RecordingBundle.partialPath, hpath, hpath₁, hlength,
              hmanifest₁]
          refine placed hready.toKept ?_ hmanifest hopen hnext ?_ ?_ ?_
          · rw [← hfiles₁]
            exact segmentFiles_congr hpath hlength fun number _ => by rw [hfiles]
          · rw [activeSamples_none hactive]
            rfl
          · refine appended_honest hpartial (b := s.bundle) (fun hne => absurd rfl hne) ?_
            refine ⟨rfl, inspectInput_epoch hinspected, ?_, fun _ => hstarts.trans hidr⟩
            intro _ hlast
            cases hlast
          · intro hnone
            by_cases harming : RecordingBundle.state s.bundle = .arming
            · -- Nothing is recorded yet.
              obtain ⟨hsegments, -, -, -⟩ := hready.arming harming
              have hempty : recorded s = [] := by
                rw [recorded, activeSamples_none hactive, segmentFiles, hsegments]
                rfl
              rw [hempty]
              rintro ⟨a, ha, -⟩
              cases ha
            · exact (hready.begins hactive harming hnone).2

/-! ## Closing the active segment -/

theorem Kept.close {t : WriterState} {accepted : Samples} {active : ActiveSegment}
    (h : Kept P s accepted) (hactive : s.active = some active) (hnone : t.active = none)
    (hfiles : segmentFiles t.bundle = segmentFiles s.bundle ++ [some active.samples])
    {segment : Segment}
    (hmanifest : t.bundle.manifest = RecordingBundle.withSegment s.bundle.manifest segment) :
    Kept P t accepted ∧ recorded t = recorded s ∧
      RecordingBundle.state t.bundle = RecordingBundle.state s.bundle ∧
      t.bundle.manifest.gaps = s.bundle.manifest.gaps := by
  have hstate : RecordingBundle.state t.bundle = RecordingBundle.state s.bundle := by
    rw [RecordingBundle.state, hmanifest]
    rfl
  have hgaps : t.bundle.manifest.gaps = s.bundle.manifest.gaps := by
    rw [hmanifest]
    rfl
  have hrecorded : recorded t = recorded s := by
    rw [recorded, recorded, hfiles, activeSamples_none hnone, activeSamples_some hactive]
    simp
  refine ⟨?_, hrecorded, hstate, hgaps⟩
  constructor
  · obtain ⟨contents, hcontents, hhonest⟩ := h.listed
    refine ⟨contents ++ [active.samples], ?_, ?_⟩
    · rw [hfiles, hcontents]
      simp
    · intro content hmem
      obtain hold | hnew := List.mem_append.mp hmem
      · exact hhonest content hold
      · rw [List.mem_singleton.mp hnew]
        exact (h.active active hactive).segment
  · intro a ha
    rw [hnone] at ha
    exact nomatch ha
  · intro harming
    rw [hstate] at harming
    obtain ⟨-, -, hinactive, -⟩ := h.arming harming
    rw [hactive] at hinactive
    exact nomatch hinactive
  · intro harming hnogap
    rw [hstate] at harming
    rw [hgaps] at hnogap
    rw [hrecorded]
    exact h.gapless harming hnogap

theorem abortOnError_ok {reason : RecordingError → String} {p : Writer Unit}
    (h : exec (abortOnError P reason p) s = (.ok (), s')) : exec p s = (.ok (), s') := by
  unfold abortOnError at h
  rw [exec_attempt_bind] at h
  cases hp : exec p s with
  | mk result s₁ =>
      rw [hp] at h
      cases result with
      | ok _ => exact h
      | error error =>
          obtain ⟨_, _, -, h⟩ := of_exec_bind_ok h
          exact nomatch congrArg Prod.fst h

theorem gap_ok {accepted : Samples} {reason : GapReason} {source : Option SourceRange}
    (hkept : Kept P s accepted) (harming : RecordingBundle.state s.bundle ≠ .arming)
    (h : exec (gap P reason source) s = (.ok (), s')) :
    Kept P s' accepted ∧ s'.active = none ∧ s'.bundle.manifest.gaps ≠ [] ∧
      RecordingBundle.state s'.bundle = RecordingBundle.state s.bundle := by
  unfold gap setRefreshRequested at h
  rw [exec_read_bind, if_neg harming] at h
  obtain ⟨_, s₁, hclose, h⟩ := of_exec_bind_ok (abortOnError_ok h)
  obtain ⟨_, s₂, hgap, h⟩ := of_exec_bind_ok h
  obtain ⟨hgap, hs₂⟩ := onBundle_ok hgap
  obtain ⟨hfiles, hpath, hmanifest⟩ := RecordingBundle.recordGap_ok hgap
  have hclosed : Kept P s₁ accepted ∧ s₁.active = none ∧
      RecordingBundle.state s₁.bundle = RecordingBundle.state s.bundle := by
    cases hactive : s.active with
    | none =>
        rw [closeSegment_none hactive] at hclose
        obtain rfl : s = s₁ := congrArg Prod.snd hclose
        exact ⟨hkept, hactive, rfl⟩
    | some active =>
        obtain ⟨hnone, hsegments, segment, hnext⟩ :=
          closeSegment_ok hactive (hkept.active active hactive).path hclose
        obtain ⟨hkept₁, -, hstate, -⟩ := hkept.close hactive hnone hsegments hnext
        exact ⟨hkept₁, hnone, hstate⟩
  obtain ⟨hkept₁, hnone, hstate⟩ := hclosed
  have hactive : s'.active = none := by
    obtain rfl := congrArg Prod.snd h
    rw [← hnone, hs₂]
    rfl
  have hbundle : s'.bundle = s₂.bundle := by
    obtain rfl := congrArg Prod.snd h
    rfl
  have hgaps : s'.bundle.manifest.gaps ≠ [] := by
    rw [hbundle, hmanifest]
    simp [RecordingBundle.withGap]
  have hsame : RecordingBundle.state s'.bundle = RecordingBundle.state s.bundle := by
    rw [hbundle, RecordingBundle.state, hmanifest]
    exact hstate
  refine ⟨?_, hactive, hgaps, hsame⟩
  constructor
  · have hsegments : segmentFiles s'.bundle = segmentFiles s₁.bundle := by
      rw [hbundle]
      apply segmentFiles_congr hpath
      · rw [hmanifest]
        rfl
      · intro number _
        rw [hfiles]
    rw [hsegments]
    exact hkept₁.listed
  · intro active hsome
    rw [hactive] at hsome
    cases hsome
  · intro harming'
    exact absurd (hsame.symm.trans harming') harming
  · intro _ hnogap
    exact absurd hnogap hgaps

theorem Ready.requestBoundary {accepted : Samples} {input : RecordingInput}
    {active : ActiveSegment} (h : Ready P s accepted input) (hactive : s.active = some active)
    (requested : Bool) : Ready P
      { s with active := some { active with boundaryRequested := true },
               refreshRequested := requested } accepted input := by
  have hhonest := h.active active hactive
  have hcontinues := h.continues active hactive
  have hrecorded : recorded { s with
      active := some { active with boundaryRequested := true },
      refreshRequested := requested } = recorded s := by
    apply recorded_eq
    · rfl
    · rw [activeSamples_some hactive]
      rfl
  refine ⟨⟨h.listed, ?_, ?_, ?_⟩, ?_, ?_⟩
  · intro a ha
    rw [← Option.some.inj ha]
    exact ⟨hhonest.path, hhonest.segment, hhonest.last, hhonest.source⟩
  · intro harming
    have hinactive := (h.arming harming).2.2.1
    rw [hactive] at hinactive
    exact nomatch hinactive
  · intro harming hnogap
    rw [hrecorded]
    exact h.gapless harming hnogap
  · intro a ha
    rw [← Option.some.inj ha]
    exact ⟨hcontinues.source, hcontinues.epoch, hcontinues.follows, hcontinues.first⟩
  · intro hnone
    exact nomatch hnone

theorem advanceActive_ok {accepted : Samples} {input : RecordingInput}
    {inspected : InspectedInput} {active : ActiveSegment}
    (hinspected : inspectInput P input = .ok inspected) (hkept : Kept P s accepted)
    (hactive : s.active = some active)
    (hopen : (RecordingBundle.state s.bundle).terminal = false)
    (hplaced : s.bundle.manifest.gaps = [] → changed active input →
      startsSegment P input = true ∧ Adjoins (recorded s) input)
    (h : exec (advanceActive P input inspected.idr active) s = (.ok (), s')) :
    Ready P s' accepted input ∧ (RecordingBundle.state s'.bundle).terminal = false := by
  have hstarts := startsSegment_eq hinspected
  have hhonest := hkept.active active hactive
  have hrecording : RecordingBundle.state s.bundle ≠ .arming := by
    intro harming
    have hinactive := (hkept.arming harming).2.2.1
    rw [hactive] at hinactive
    exact nomatch hinactive
  have hgapped : ∀ {reason source}, exec (gap P reason source) s = (.ok (), s') →
      Ready P s' accepted input ∧ (RecordingBundle.state s'.bundle).terminal = false := by
    intro reason source hgap
    obtain ⟨hkept', hnone, hgaps, hstate⟩ := gap_ok hkept hrecording hgap
    refine ⟨⟨hkept', ?_, ?_⟩, by rw [hstate]; exact hopen⟩
    · intro a ha
      rw [hnone] at ha
      exact nomatch ha
    · intro _ _ hnogap
      exact absurd hnogap hgaps
  have hclosed : ∀ {t : WriterState}, exec (closeSegment P) s = (.ok (), t) →
      (s.bundle.manifest.gaps = [] → startsSegment P input = true ∧ Adjoins (recorded s) input) →
      Ready P t accepted input ∧ (RecordingBundle.state t.bundle).terminal = false := by
    intro t hclose hbegins
    obtain ⟨hnone, hsegments, segment, hnext⟩ := closeSegment_ok hactive hhonest.path hclose
    obtain ⟨hkept', hrecorded, hstate, hgaps⟩ := hkept.close hactive hnone hsegments hnext
    refine ⟨⟨hkept', ?_, ?_⟩, by rw [hstate]; exact hopen⟩
    · intro a ha
      rw [hnone] at ha
      exact nomatch ha
    · intro _ _ hnogap
      rw [hrecorded]
      exact hbegins (hgaps ▸ hnogap)
  unfold advanceActive setRefreshRequested setActive at h
  simp only [exec_ite] at h
  split at h
  · rename_i hchanged
    obtain ⟨_, s₁, hclose, h⟩ := of_exec_bind_ok h
    obtain rfl := congrArg Prod.snd h
    obtain ⟨hready, hopen'⟩ := hclosed hclose fun hnogap => hplaced hnogap hchanged
    exact ⟨⟨⟨hready.listed, hready.active, hready.arming, hready.gapless⟩, hready.continues,
      hready.begins⟩, hopen'⟩
  rename_i hsame
  split at h
  · exact nomatch congrArg Prod.fst h
  rename_i hordered
  split at h
  · exact hgapped h
  rename_i hcontiguous
  split at h
  · exact hgapped h
  have hcontinues : Continues P active input := by
    obtain ⟨last, hlast, hlastAu, hlastPts⟩ := hhonest.last
    refine ⟨not_changed_iff.mp hsame, inspectInput_epoch hinspected, ?_, ?_⟩
    · intro found hfound
      obtain rfl : last = found := Option.some.inj (hlast.symm.trans hfound)
      have hpts := (not_or.mp hordered).2
      have hid := (not_not.mp hcontiguous).2
      constructor
      · rw [hlastAu, hid]
        rfl
      · rw [hlastPts]
        omega
    · intro hempty
      rw [hempty] at hlast
      exact nomatch hlast
  have hready : Ready P s accepted input := by
    refine ⟨hkept, ?_, ?_⟩
    · intro a ha
      rw [hactive] at ha
      rw [← Option.some.inj ha]
      exact hcontinues
    · intro hnone
      rw [hactive] at hnone
      exact nomatch hnone
  split at h
  · -- The segment is long enough.
    split at h
    · rename_i hidr
      exact hclosed h fun _ => ⟨hstarts.trans hidr, hcontinues.adjoins hactive hhonest⟩
    split at h
    · rw [exec_update_bind] at h
      obtain rfl := congrArg Prod.snd h
      exact ⟨hready.requestBoundary hactive _, hopen⟩
    · obtain rfl : s = s' := congrArg Prod.snd h
      exact ⟨hready, hopen⟩
  · obtain rfl : s = s' := congrArg Prod.snd h
    exact ⟨hready, hopen⟩

theorem Kept.ask {accepted : Samples} {t : WriterState} (h : Kept P s accepted)
    (ht : QuestionsOnly s t) : Kept P t accepted := by
  rw [ht]
  exact ⟨h.listed, h.active, h.arming, h.gapless⟩

theorem writeInner_ok {accepted : Samples} {input : RecordingInput}
    (hkept : Kept P s accepted)
    (hplaced : s.bundle.manifest.gaps = [] → ∀ active ∈ s.active, changed active input →
      startsSegment P input = true ∧ Adjoins (recorded s) input)
    (hrunning : RecordingBundle.state s.bundle = .recording → s.bundle.manifest.gaps = [] →
      s.active.isSome)
    (h : exec (writeInner P input) s = (.ok (), s')) : Faithful P s' (accepted ++ [input]) := by
  unfold writeInner at h
  obtain ⟨_, s₁, hcheck, h⟩ := of_exec_bind_ok h
  have hs₁ : QuestionsOnly s s₁ := questionsOnly_of hcheck
  have hkept₁ := hkept.ask hs₁
  rw [exec_read_bind, exec_ite] at h
  split at h
  · exact nomatch congrArg Prod.fst h
  rename_i hterminal
  have hopen : (RecordingBundle.state s₁.bundle).terminal = false := by simpa using hterminal
  obtain ⟨inspected, s₂, hinspect, h⟩ := of_exec_bind_ok h
  rw [exec_ofExcept] at hinspect
  obtain ⟨hinspected, rfl⟩ := Prod.mk.inj hinspect
  rw [exec_read_bind] at h
  have hsame : s₁.active = s.active ∧ s₁.bundle = s.bundle := by rw [hs₁]; exact ⟨rfl, rfl⟩
  cases hactive : s₁.active with
  | none =>
      rw [hactive] at h
      change exec (placeInput P input inspected) s₁ = _ at h
      refine placeInput_ok hinspected ⟨hkept₁, ?_, ?_⟩ hopen h
      · intro a ha
        rw [hactive] at ha
        exact nomatch ha
      · intro _ harming hnogap
        rw [hsame.2] at harming hnogap hopen
        have hsome : s.active.isSome := by
          apply hrunning ?_ hnogap
          cases hstate : RecordingBundle.state s.bundle with
          | recording => rfl
          | arming => exact absurd hstate harming
          | _ => rw [hstate] at hopen; exact nomatch hopen
        rw [← hsame.1, hactive] at hsome
        exact nomatch hsome
  | some active =>
      rw [hactive] at h
      obtain ⟨_, s₃, hadvance, h⟩ := of_exec_bind_ok h
      obtain ⟨hready, hopen₃⟩ := advanceActive_ok hinspected hkept₁ hactive hopen
        (by
          intro hnogap hchanged
          rw [hsame.2] at hnogap
          rw [hs₁]
          exact hplaced hnogap active (hsame.1 ▸ hactive) hchanged)
        hadvance
      exact placeInput_ok hinspected hready hopen₃ h

/-! ## Calls that fail -/

def Advancing (s s' : WriterState) : Prop := RecordingBundle.Advances s.bundle s'.bundle

instance : Frame Advancing where
  refl s := Frame.refl s.bundle
  trans hst htu := Frame.trans (R := RecordingBundle.Advances) hst htu

theorem advancing_of_eq {t : WriterState} (h : t.bundle.manifest = s.bundle.manifest) :
    Advancing s t := by
  refine ⟨?_, fun _ => h⟩
  rw [h]
  exact id

theorem keeps_onBundle {α : Type} {p : Bundle Samples α}
    (h : ∀ b, RecordingBundle.Advances b (exec p b).2) : Keeps Advancing (onBundle p) :=
  ⟨fun s => h s.bundle⟩

instance (finalized : FinalizedSegment) (metadata : SegmentMetadata) :
    Keeps Advancing (onBundle (RecordingBundle.commitSegment P.storage finalized metadata)) :=
  keeps_onBundle fun b => (RecordingBundle.commitSegment_change finalized metadata b).advances

instance (reason : String) :
    Keeps Advancing (onBundle (RecordingBundle.fail P.storage reason)) :=
  keeps_onBundle fun b => (RecordingBundle.fail_change reason b).advances

instance (reason : GapReason) (source : Option SourceRange) :
    Keeps Advancing (onBundle (RecordingBundle.recordGap P.storage reason source)) :=
  keeps_onBundle fun b => (RecordingBundle.recordGap_change reason source b).advances

instance (sourcePtsUs : Nat) :
    Keeps Advancing (onBundle (RecordingBundle.markStarted P.storage sourcePtsUs)) :=
  keeps_onBundle fun b => (RecordingBundle.markStarted_change sourcePtsUs b).advances

instance : Keeps Advancing
    (onBundle (RecordingBundle.nextPartialPath : Bundle Samples SegmentPath)) := by
  constructor
  intro s
  have hsame : RecordingBundle.SameManifest s.bundle
      (exec (RecordingBundle.nextPartialPath : Bundle Samples SegmentPath) s.bundle).2 :=
    Keeps.keeps s.bundle
  exact advancing_of_eq hsame.1

instance (active : Option ActiveSegment) : Keeps Advancing (setActive active) :=
  keeps_update fun _ => advancing_of_eq rfl

instance (requested : Bool) : Keeps Advancing (setRefreshRequested requested) :=
  keeps_update fun _ => advancing_of_eq rfl

instance (path : SegmentPath) (samples : Samples) :
    Keeps Advancing (writePartial path samples) :=
  keeps_update fun _ => advancing_of_eq rfl

theorem keeps_of_questionsOnly {α : Type} {p : Writer α} [hp : Keeps QuestionsOnly p] :
    Keeps Advancing p := by
  constructor
  intro s
  have hs : QuestionsOnly s (exec p s).2 := hp.keeps s
  rw [hs]
  exact advancing_of_eq rfl

instance : Keeps Advancing (now P) := keeps_of_questionsOnly

instance {α : Type} (answer : Nat → Except RecordingError α) :
    Keeps Advancing (ask answer) := keeps_of_questionsOnly

instance (input : RecordingInput) : Keeps Advancing (checkDeadline P input) :=
  keeps_of_questionsOnly

instance (input : RecordingInput) (deadline attempts : Nat) :
    Keeps Advancing (appendLoop P input deadline attempts) := keeps_of_questionsOnly

instance : Keeps Advancing (closeSegment P) := by
  unfold closeSegment
  apply keeps_then inferInstance
  rintro (_ | active) <;> infer_instance

instance (reason : String) : Keeps Advancing (abort P reason) := by
  unfold abort
  infer_instance

theorem keeps_abortOnError {reason : RecordingError → String} {p : Writer Unit}
    (hp : Keeps Advancing p) :
    Keeps Advancing (abortOnError P reason p) := by
  unfold abortOnError
  apply keeps_then inferInstance
  rintro (_ | _) <;> infer_instance

instance (reason : GapReason) (source : Option SourceRange) :
    Keeps Advancing (gap P reason source) := by
  unfold gap
  have hinner := @keeps_abortOnError P (fun _ => "gap boundary finalization failed") (do
    closeSegment P
    onBundle (RecordingBundle.recordGap P.storage reason source)
    setRefreshRequested true) inferInstance
  infer_instance

instance (input : RecordingInput) (idr : Bool) (active : ActiveSegment) :
    Keeps Advancing (advanceActive P input idr active) := by
  unfold advanceActive
  infer_instance

instance (input : RecordingInput) (codec : Bitstream.Codec) :
    Keeps Advancing (startSegment P input codec) := by
  unfold startSegment
  infer_instance

instance (input : RecordingInput) (idr : Bool) :
    Keeps Advancing (appendInput P input idr) := by
  unfold appendInput
  apply keeps_then inferInstance
  rintro (_ | active) <;> infer_instance

instance (input : RecordingInput) (inspected : InspectedInput) :
    Keeps Advancing (placeInput P input inspected) := by
  unfold placeInput
  infer_instance

instance (input : RecordingInput) : Keeps Advancing (writeInner P input) := by
  unfold writeInner
  refine keeps_then inferInstance fun _ => keeps_then inferInstance fun state => ?_
  have hrest : Keeps Advancing (do
      let inspected ← Program.ofExcept (inspectInput P input)
      match ← Program.read WriterState.active with
      | none => pure ()
      | some active => advanceActive P input inspected.idr active
      placeInput P input inspected) := by
    refine keeps_then inferInstance fun inspected => keeps_then inferInstance ?_
    rintro (_ | active) <;> infer_instance
  infer_instance

theorem abort_failed {reason : String} (h : ¬RecordingBundle.Successful s.bundle.manifest) :
    RecordingBundle.state (exec (abort P reason) s).2.bundle = .failed := by
  have hclose : Advancing s (exec (closeSegment P) s).2 := Keeps.keeps s
  unfold abort
  rw [exec_attempt_bind, exec_attempt_bind]
  exact RecordingBundle.fail_undecided (hclose.1 h)

theorem abort_closed {reason : String} (hactive : s.active = none)
    (hclosed : (RecordingBundle.state s.bundle).terminal = true) :
    (exec (abort P reason) s).2.bundle = s.bundle := by
  unfold abort
  rw [exec_attempt_bind, closeSegment_none hactive, exec_attempt_bind]
  exact RecordingBundle.fail_closed hclosed

theorem abortOnError_error {reason : RecordingError → String} {p : Writer Unit}
    {error : RecordingError} (h : exec (abortOnError P reason p) s = (.error error, s')) :
    ∃ s₁, exec p s = (.error error, s₁) ∧ s' = (exec (abort P (reason error)) s₁).2 := by
  unfold abortOnError at h
  rw [exec_attempt_bind] at h
  cases hp : exec p s with
  | mk result s₁ =>
      rw [hp] at h
      cases result with
      | ok _ => exact nomatch congrArg Prod.fst h
      | error found =>
          have hrun : exec (abort P (reason found)) s₁ =
              (.ok (), (exec (abort P (reason found)) s₁).2) := rfl
          dsimp only at h
          rw [exec_bind_ok hrun, exec_fail] at h
          obtain ⟨hfound, hs'⟩ := Prod.mk.inj h
          obtain rfl := Except.error.inj hfound
          exact ⟨s₁, rfl, hs'.symm⟩

/-- A failing call leaves a failed recording, unless the recording ended well before. -/
theorem abortOnError_failed {reason : RecordingError → String} {p : Writer Unit}
    {error : RecordingError} (hp : Advancing s (exec p s).2)
    (hnot : ¬RecordingBundle.Successful s.bundle.manifest)
    (h : exec (abortOnError P reason p) s = (.error error, s')) :
    RecordingBundle.state s'.bundle = .failed := by
  obtain ⟨s₁, hfail, rfl⟩ := abortOnError_error h
  rw [hfail] at hp
  exact abort_failed (hp.1 hnot)

/-! ## Calls after the end -/

theorem writeInner_closed (input : RecordingInput)
    (hclosed : (RecordingBundle.state s.bundle).terminal = true) :
    ∃ error s₁, exec (writeInner P input) s = (.error error, s₁) ∧ QuestionsOnly s s₁ := by
  unfold writeInner
  have hasked : QuestionsOnly s (exec (checkDeadline P input) s).2 := Keeps.keeps s
  rw [exec_bind]
  cases hcheck : exec (checkDeadline P input) s with
  | mk result s₁ =>
      rw [hcheck] at hasked
      replace hasked : QuestionsOnly s s₁ := hasked
      cases result with
      | error error => exact ⟨error, s₁, rfl, hasked⟩
      | ok _ =>
          have hclosed₁ : (RecordingBundle.state s₁.bundle).terminal = true := by
            rw [hasked]
            exact hclosed
          dsimp only
          rw [exec_read_bind, if_pos hclosed₁]
          exact ⟨_, s₁, rfl, hasked⟩

theorem writeOrdered_closed (input : RecordingInput) (hactive : s.active = none)
    (hclosed : (RecordingBundle.state s.bundle).terminal = true) :
    ∃ error, (exec (writeOrdered P input) s).1 = .error error ∧
      (exec (writeOrdered P input) s).2.bundle = s.bundle ∧
      (exec (writeOrdered P input) s).2.active = none := by
  obtain ⟨error, s₁, hinner, hasked⟩ := writeInner_closed (P := P) input hclosed
  have hactive₁ : s₁.active = none := by
    rw [hasked]
    exact hactive
  have hbundle : s₁.bundle = s.bundle := by rw [hasked]
  unfold writeOrdered abortOnError
  rw [exec_attempt_bind, hinner]
  refine ⟨error, rfl, ?_, rfl⟩
  rw [← hbundle]
  exact abort_closed hactive₁ (by rw [hbundle]; exact hclosed)

theorem gap_closed (reason : GapReason) (source : Option SourceRange) (hactive : s.active = none)
    (hclosed : (RecordingBundle.state s.bundle).terminal = true) :
    (exec (gap P reason source) s).2.bundle = s.bundle ∧
      (exec (gap P reason source) s).2.active = none := by
  have harming : RecordingBundle.state s.bundle ≠ .arming := by
    intro harming
    rw [harming] at hclosed
    exact nomatch hclosed
  have hinner : exec (do
      closeSegment P
      onBundle (RecordingBundle.recordGap P.storage reason source)
      setRefreshRequested true) s =
        (.error (.invalidInput "recording already finalized"), s) := by
    rw [exec_bind_ok (closeSegment_none hactive)]
    apply exec_bind_error
    unfold onBundle exec
    exact congrArg (fun out : Except RecordingError Unit × BundleState Samples =>
      (out.1, { s with bundle := out.2 })) (RecordingBundle.recordGap_closed hclosed)
  unfold gap abortOnError
  rw [exec_read_bind, if_neg harming, exec_attempt_bind, hinner]
  exact ⟨abort_closed hactive hclosed, rfl⟩

theorem finish_closed (hactive : s.active = none)
    (hclosed : (RecordingBundle.state s.bundle).terminal = true) :
    exec (finish P) s = (.ok (), s) := by
  have hinner : exec (do
      closeSegment P
      onBundle (RecordingBundle.finish P.storage)) s = (.ok (), s) := by
    rw [exec_bind_ok (closeSegment_none hactive)]
    unfold onBundle exec
    exact congrArg (fun out : Except RecordingError Unit × BundleState Samples =>
      (out.1, { s with bundle := out.2 })) (RecordingBundle.finish_closed hclosed)
  unfold finish abortOnError
  rw [exec_attempt_bind, hinner]
  rfl

/-! ## Finishing -/

theorem Kept.finish {accepted : Samples} {b : BundleState Samples}
    (h : Kept P s accepted) (hactive : s.active = none)
    (hopen : (RecordingBundle.state s.bundle).terminal = false)
    (hfinish : exec (RecordingBundle.finish P.storage) s.bundle = (.ok (), b)) :
    RecordingBundle.state b = .failed ∨ Faithful P { s with bundle := b } accepted := by
  obtain hfailed | ⟨hfiles, hpath, hclosed | ⟨-, hsegments, nowMs, hmanifest⟩⟩ :=
    RecordingBundle.finish_ok hfinish
  · exact .inl hfailed
  · exact nomatch hopen.symm.trans hclosed.1
  · right
    have hterminal : (RecordingBundle.state b).terminal = true := by
      rw [RecordingBundle.state, hmanifest]
      exact RecordingBundle.finished_terminal _ _
    have hlisted : segmentFiles b = segmentFiles s.bundle := by
      apply segmentFiles_congr hpath
      · rw [hmanifest]
        rfl
      · intro number _
        rw [hfiles]
    have hgaps : b.manifest.gaps = s.bundle.manifest.gaps := by
      rw [hmanifest]
      rfl
    have hrecorded : recorded { s with bundle := b } = recorded s := recorded_eq hlisted rfl
    constructor
    · constructor
      · rw [hlisted]
        exact h.listed
      · intro active hsome
        exact nomatch hactive.symm.trans hsome
      · intro harming
        rw [harming] at hterminal
        exact nomatch hterminal
      · intro _ hnogap
        rw [hgaps] at hnogap
        rw [hrecorded]
        refine h.gapless ?_ hnogap
        intro harming
        exact hsegments (h.arming harming).1
    · intro hrecording
      rw [hrecording] at hterminal
      exact nomatch hterminal
    · intro _
      exact hactive
    · intro hcomplete
      rw [RecordingBundle.state, hmanifest, RecordingBundle.finished_complete] at hcomplete
      refine ⟨?_, hgaps.trans hcomplete⟩
      rw [hmanifest]
      exact hsegments

theorem finish_ok {accepted : Samples} (hkept : Kept P s accepted)
    (hopen : (RecordingBundle.state s.bundle).terminal = false)
    (h : exec (finish P) s = (.ok (), s')) :
    RecordingBundle.state s'.bundle = .failed ∨ Faithful P s' accepted := by
  obtain ⟨_, s₁, hclose, h⟩ := of_exec_bind_ok (abortOnError_ok h)
  obtain ⟨hfinish, hs'⟩ := onBundle_ok h
  rw [hs']
  cases hactive : s.active with
  | none =>
      rw [closeSegment_none hactive] at hclose
      obtain rfl : s = s₁ := congrArg Prod.snd hclose
      exact hkept.finish hactive hopen hfinish
  | some active =>
      obtain ⟨hnone, hsegments, segment, hnext⟩ :=
        closeSegment_ok hactive (hkept.active active hactive).path hclose
      obtain ⟨hkept₁, -, hstate, -⟩ := hkept.close hactive hnone hsegments hnext
      exact hkept₁.finish hnone (by rw [hstate]; exact hopen) hfinish

theorem Faithful.congr {t : WriterState} {accepted : Samples} (h : Faithful P s accepted)
    (hbundle : t.bundle = s.bundle) (hactive : t.active = s.active) :
    Faithful P t accepted := by
  have ht : t = { s with refreshRequested := t.refreshRequested, questions := t.questions } := by
    cases t
    cases s
    simp_all
  rw [ht]
  exact ⟨⟨h.listed, h.active, h.arming, h.gapless⟩, h.running, h.closed, h.complete⟩

/-! ## Runs -/

/-- What holds between two calls. -/
def Valid (P : WriterPlatform) (x : WriterRun) : Prop :=
  RecordingBundle.state x.writer.bundle ≠ .failed → Faithful P x.writer x.accepted

theorem Advancing.failed {t : WriterState} (h : Advancing s t)
    (hfailed : RecordingBundle.state s.bundle = .failed) :
    RecordingBundle.state t.bundle = .failed := by
  have hsame := h.2 (by rw [hfailed]; rfl)
  rw [RecordingBundle.state, hsame]
  exact hfailed

variable {x : WriterRun}

theorem valid_writeOrdered {input : RecordingInput} (h : Faithful P x.writer x.accepted)
    (hplaced : WellPlaced P x (.writeOrdered input)) :
    Valid P (writerStep P x (.writeOrdered input)) := by
  intro hnot
  cases hterminal : (RecordingBundle.state x.writer.bundle).terminal with
  | true =>
      have hactive := h.closed hterminal
      obtain ⟨error, hresult, hbundle, hnone⟩ :=
        writeOrdered_closed (P := P) input hactive hterminal
      have haccepted : (writerStep P x (.writeOrdered input)).accepted = x.accepted := by
        rw [writerStep, hresult]
        exact List.append_nil _
      rw [haccepted]
      exact h.congr hbundle (hnone.trans hactive.symm)
  | false =>
      cases hexec : exec (writeOrdered P input) x.writer with
      | mk result t =>
          have hstep : writerStep P x (.writeOrdered input) =
              ⟨t, x.accepted ++ acceptedBy result input⟩ := by
            rw [writerStep, hexec]
          rw [hstep] at hnot ⊢
          cases result with
          | ok _ =>
              exact writeInner_ok h.toKept (hplaced input rfl) h.running (abortOnError_ok hexec)
          | error error =>
              exact absurd (abortOnError_failed (Keeps.keeps x.writer)
                (RecordingBundle.not_successful_of_open hterminal) hexec) hnot

theorem valid_gap {reason : GapReason} {source : Option SourceRange}
    (h : Faithful P x.writer x.accepted) : Valid P (writerStep P x (.gap reason source)) := by
  intro hnot
  cases hterminal : (RecordingBundle.state x.writer.bundle).terminal with
  | true =>
      have hactive := h.closed hterminal
      obtain ⟨hbundle, hnone⟩ :=
        gap_closed (P := P) reason source hactive hterminal
      exact h.congr hbundle (hnone.trans hactive.symm)
  | false =>
      by_cases harming : RecordingBundle.state x.writer.bundle = .arming
      · have hsame : exec (gap P reason source) x.writer = (.ok (), x.writer) := by
          unfold gap
          rw [exec_read_bind, if_pos harming]
          rfl
        have hstep : (writerStep P x (.gap reason source)).writer = x.writer :=
          congrArg Prod.snd hsame
        rw [hstep]
        exact h
      · cases hexec : exec (gap P reason source) x.writer with
        | mk result t =>
            have hstep : writerStep P x (.gap reason source) = ⟨t, x.accepted⟩ := by
              rw [writerStep, hexec]
            rw [hstep] at hnot ⊢
            cases result with
            | ok _ =>
                obtain ⟨hkept, hnone, hgaps, hstate⟩ := gap_ok h.toKept harming hexec
                refine ⟨hkept, ?_, fun _ => hnone, ?_⟩
                · intro _ hnogap
                  exact absurd hnogap hgaps
                · intro hcomplete
                  rw [← hstate, hcomplete] at hterminal
                  exact nomatch hterminal
            | error error =>
                unfold gap at hexec
                rw [exec_read_bind, if_neg harming] at hexec
                exact absurd (abortOnError_failed (Keeps.keeps x.writer)
                  (RecordingBundle.not_successful_of_open hterminal) hexec) hnot

theorem finish_error {error : RecordingError}
    (hopen : (RecordingBundle.state s.bundle).terminal = false)
    (h : exec (finish P) s = (.error error, s')) : RecordingBundle.state s'.bundle = .failed := by
  obtain ⟨s₁, hinner, rfl⟩ := abortOnError_error h
  apply abort_failed
  have hclosing : Advancing s (exec (closeSegment P) s).2 := Keeps.keeps s
  rw [exec_bind] at hinner
  cases hclose : exec (closeSegment P) s with
  | mk result s₂ =>
      rw [hclose] at hinner hclosing
      cases result with
      | error found =>
          obtain rfl : s₂ = s₁ := congrArg Prod.snd hinner
          exact hclosing.1 (RecordingBundle.not_successful_of_open hopen)
      | ok _ =>
          have hresult : (exec (RecordingBundle.finish P.storage) s₂.bundle).1 = .error error :=
            congrArg Prod.fst hinner
          obtain rfl := congrArg Prod.snd hinner
          exact RecordingBundle.finish_error (Prod.ext hresult rfl)

theorem finish_failed (hfailed : RecordingBundle.state s.bundle = .failed) :
    RecordingBundle.state (exec (finish P) s).2.bundle = .failed := by
  have hinner : RecordingBundle.state (exec (do
      closeSegment P
      onBundle (RecordingBundle.finish P.storage)) s).2.bundle = .failed := by
    have hclosing : Advancing s (exec (closeSegment P) s).2 := Keeps.keeps s
    have hfailed₂ := hclosing.failed hfailed
    rw [exec_bind]
    cases hclose : exec (closeSegment P) s with
    | mk result s₂ =>
        rw [hclose] at hfailed₂
        cases result with
        | error error => exact hfailed₂
        | ok _ =>
            have hsame := RecordingBundle.finish_closed (P := P.storage)
              (show (RecordingBundle.state s₂.bundle).terminal = true by rw [hfailed₂]; rfl)
            exact (congrArg (fun out => RecordingBundle.state out.2) hsame).trans hfailed₂
  unfold finish abortOnError
  rw [exec_attempt_bind]
  generalize exec (do
      closeSegment P
      onBundle (RecordingBundle.finish P.storage)) s = out at hinner
  cases out with
  | mk result s₁ =>
      cases result with
      | ok _ => exact hinner
      | error error =>
          have habort : Advancing s₁ (exec (abort P "recording finalization failed") s₁).2 :=
            Keeps.keeps s₁
          exact habort.failed hinner

theorem valid_finish (h : Faithful P x.writer x.accepted) :
    Valid P (writerStep P x .finish) := by
  intro hnot
  cases hterminal : (RecordingBundle.state x.writer.bundle).terminal with
  | true =>
      have hsame := finish_closed (P := P) (h.closed hterminal) hterminal
      have hstep : (writerStep P x .finish).writer = x.writer := congrArg Prod.snd hsame
      rw [hstep]
      exact h
  | false =>
      cases hexec : exec (finish P) x.writer with
      | mk result t =>
          have hstep : writerStep P x .finish = ⟨t, x.accepted⟩ := by rw [writerStep, hexec]
          rw [hstep] at hnot ⊢
          cases result with
          | ok _ =>
              obtain hfailed | hfaithful := finish_ok h.toKept hterminal hexec
              · exact absurd hfailed hnot
              · exact hfaithful
          | error error => exact absurd (finish_error hterminal hexec) hnot

theorem valid_step {call : WriterCall} (h : Valid P x) (hplaced : WellPlaced P x call) :
    Valid P (writerStep P x call) := by
  by_cases hfailed : RecordingBundle.state x.writer.bundle = .failed
  · intro hnot
    apply absurd ?_ hnot
    cases call with
    | writeOrdered input =>
        have hkeeps : Keeps Advancing (writeOrdered P input) := keeps_abortOnError inferInstance
        have hadvancing : Advancing x.writer (exec (writeOrdered P input) x.writer).2 :=
          hkeeps.keeps x.writer
        exact hadvancing.failed hfailed
    | gap reason source =>
        have hadvancing : Advancing x.writer (exec (gap P reason source) x.writer).2 :=
          Keeps.keeps x.writer
        exact hadvancing.failed hfailed
    | finish => exact finish_failed hfailed
  · cases call with
    | writeOrdered input => exact valid_writeOrdered (h hfailed) hplaced
    | gap reason source => exact valid_gap (h hfailed)
    | finish => exact valid_finish (h hfailed)

theorem Faithful.honest (h : Faithful P x.writer x.accepted) : Honest P x := by
  constructor
  · intro hcomplete
    obtain ⟨hsegments, hgaps⟩ := h.complete hcomplete
    obtain ⟨contents, hlisted, hhonest⟩ := h.listed
    obtain ⟨⟨before, haccepted, hbefore⟩, hids⟩ :=
      h.gapless (by rw [hcomplete]; simp) hgaps
    have hrecorded : recorded x.writer = contents.flatten := by
      have hnone := h.closed (by rw [hcomplete]; rfl)
      rw [recorded, activeSamples_none hnone, hlisted, List.append_nil, List.map_map]
      exact congrArg List.flatten (List.map_id contents)
    rw [hrecorded] at haccepted hids
    refine ⟨before, contents, hlisted, hhonest, ?_, haccepted, hbefore, hids⟩
    intro hempty
    rw [hempty, segmentFiles] at hlisted
    simp only [List.map_nil, List.map_eq_nil_iff, List.range_eq_nil,
      List.length_eq_zero_iff] at hlisted
    exact hsegments hlisted
  · intro harming _ hgaps
    exact (h.gapless harming hgaps).1
  · intro hcomplete
    exact (h.complete hcomplete).2

theorem Valid.honest (h : Valid P x) : Honest P x := by
  by_cases hfailed : RecordingBundle.state x.writer.bundle = .failed
  · constructor
    · intro hcomplete
      exact nomatch hfailed.symm.trans hcomplete
    · intro _ hnot
      exact absurd hfailed hnot
    · intro hcomplete
      exact nomatch hfailed.symm.trans hcomplete
  · exact (h hfailed).honest

theorem Created.valid (h : Created P x) : Valid P x := by
  intro _
  obtain ⟨haccepted, parent, name, s, hcreate⟩ := h
  unfold create setActive setRefreshRequested at hcreate
  obtain ⟨_, s₁, hbundle, hcreate⟩ := of_exec_bind_ok hcreate
  obtain ⟨hbundle, -⟩ := onBundle_ok hbundle
  rw [exec_update_bind] at hcreate
  obtain ⟨manifest, hstate, hstart, hsegments, hmanifest, -⟩ := RecordingBundle.create_ok hbundle
  have hwriter : x.writer = { s₁ with active := none, refreshRequested := true } :=
    (congrArg Prod.snd hcreate).symm
  have hstate' : RecordingBundle.state x.writer.bundle = .arming := by
    rw [hwriter]
    exact (congrArg Manifest.state hmanifest).trans hstate
  have hsegments' : x.writer.bundle.manifest.segments = [] := by
    rw [hwriter]
    exact (congrArg Manifest.segments hmanifest).trans hsegments
  have hactive : x.writer.active = none := by
    rw [hwriter]
  constructor
  · constructor
    · refine ⟨[], ?_, fun _ hmem => nomatch hmem⟩
      rw [segmentFiles, hsegments']
      rfl
    · intro active hsome
      exact nomatch hactive.symm.trans hsome
    · intro _
      refine ⟨hsegments', ?_, hactive, ?_⟩
      · rw [hwriter]
        exact (congrArg Manifest.actualStartPtsUs hmanifest).trans hstart
      · intro input hmem
        rw [haccepted] at hmem
        exact nomatch hmem
    · intro harming
      exact absurd hstate' harming
  · intro hrecording
    exact nomatch hstate'.symm.trans hrecording
  · intro _
    exact hactive
  · intro hcomplete
    exact nomatch hstate'.symm.trans hcomplete

/-- Whatever fails, a recording is honest throughout a run in which each input that changes
the source has its place. -/
theorem honest_of_wellPlaced (P : WriterPlatform) {x : WriterRun} (h : Created P x)
    (calls : List WriterCall) (hplaced : MeetsAll (WellPlaced P) (writerStep P) x calls) :
    HoldsThroughout (Honest P) (writerStep P) x calls :=
  HoldsThroughout.of_invariant (fun _ => Valid.honest) (fun _ _ => valid_step) h.valid hplaced

/-- A clock that stands still, a native writer that takes everything, and the parsers of one
configuration record. -/
def samplePlatform : WriterPlatform where
  storage := {
    fails := fun _ _ => none
    nowMs := id
    isFile := fun _ => true
    length := List.length
    sha256 := fun _ => ""
    softwareVersion := "1.0.0" }
  native := {
    new := fun _ => .ok ()
    append := fun _ => .ok .written
    finish := fun _ => .ok () }
  instant := fun _ => 0
  parsers := Bitstream.CodecConfiguration.sampleParsers
  validatedVideoFormat := fun _ => .ok {
    codec := Protocol.codecAvc
    profile := Protocol.profileAvcHigh
    tier := Protocol.tierAvc
    bitDepth := 8
    chroma := Protocol.chromaYuv420
    codedSize := some ⟨1280, 720⟩
    visibleRect := some ⟨0, 0, 1280, 720⟩
    frameRate := some ⟨30, 1⟩
    color := some ⟨Protocol.rangeLimited, Protocol.bt709, Protocol.bt709, Protocol.bt709⟩ }
  digest := fun _ => "aaaaaaaaaaaaaaaaaaaaaaaaaaaaaaaaaaaaaaaaaaaaaaaaaaaaaaaaaaaaaaaa"

/-- One slice, of a random access point or not, as the access unit of an epoch. -/
def sampleInput (idr : Bool) (streamEpoch frameId : Nat) : RecordingInput where
  connectionGeneration := 1
  configuration := {
    codec := Protocol.codecAvc
    profile := Protocol.profileAvcHigh
    levelIdc := 31
    width := 1280
    height := 720
    fps := 30
    bitrate := 4000000
    rotation := 0
    mirrored := false
    colorRange := Protocol.rangeLimited
    codecConfiguration := Bitstream.CodecConfiguration.sampleRecord
    streamEpoch := streamEpoch }
  accessUnit := {
    data := if idr then [0, 0, 0, 2, 0x65, 0x88] else [0, 0, 0, 2, 0x41, 0x80]
    frameId := frameId
    ptsUs := frameId * 33333
    encodedAtUs := frameId * 33333
    keyframe := idr
    discardable := false
    streamEpoch := streamEpoch
    fragmentCount := 1
    firstFragmentAt := 0 }
  deadline := 1

def emptyWriter : WriterState where
  bundle := {
    path := ""
    manifest := RecordingBundle.newManifest samplePlatform.storage "" .encoded 0
    stored := none
    files := fun _ => none
    promotions := []
    calls := 0 }
  active := none
  refreshRequested := false
  questions := 0

def createdRun : WriterRun where
  writer := (exec (create samplePlatform "/parent" "recording-1") emptyWriter).2
  accepted := []

/-- A new epoch begins with `first`, and the recording finishes. -/
def epochChange (first : RecordingInput) : List WriterCall :=
  [.writeOrdered (sampleInput true 1 1), .writeOrdered first, .finish]

theorem honest_of_wellPlaced_epochChange :
    HoldsThroughout (Honest samplePlatform) (writerStep samplePlatform) createdRun
      (epochChange (sampleInput true 2 2)) := by
  refine honest_of_wellPlaced samplePlatform ⟨rfl, "/parent", "recording-1", emptyWriter, rfl⟩
    (epochChange (sampleInput true 2 2)) ⟨?_, ?_, ?_, trivial⟩
  · intro input _ _ active hactive
    exact nomatch hactive
  · intro input hinput _ active _ _
    obtain rfl : sampleInput true 2 2 = input := by simpa using hinput
    refine ⟨by decide +kernel, ?_⟩
    rintro ⟨a, ha, hsource⟩
    have hrecorded : recorded (writerStep samplePlatform createdRun
        (.writeOrdered (sampleInput true 1 1))).writer = [sampleInput true 1 1] := by
      decide +kernel
    rw [hrecorded] at ha
    rw [List.mem_singleton.mp ha] at hsource
    exact absurd hsource (by decide)
  · intro input hinput
    exact nomatch hinput

/-! ### The first access unit of the new epoch is no random access point -/

theorem epochChange_drops :
    let x := (epochChange (sampleInput false 2 2)).foldl (writerStep samplePlatform) createdRun
    RecordingBundle.state x.writer.bundle = .complete ∧
      x.accepted = [sampleInput true 1 1, sampleInput false 2 2] ∧
      segmentFiles x.writer.bundle = [some [sampleInput true 1 1]] := by
  decide +kernel

theorem epochChange_dishonest :
    Created samplePlatform createdRun ∧
      ¬HoldsThroughout (Honest samplePlatform) (writerStep samplePlatform) createdRun
        (epochChange (sampleInput false 2 2)) := by
  refine ⟨⟨rfl, "/parent", "recording-1", emptyWriter, rfl⟩, ?_⟩
  intro h
  obtain ⟨hcomplete, haccepted, hfiles⟩ := epochChange_drops
  obtain ⟨before, contents, hlisted, -, -, hinputs, -, -⟩ := h.last.complete hcomplete
  rw [hfiles] at hlisted
  obtain rfl : contents = [[sampleInput true 1 1]] := by
    have hmap : contents.map some = [[sampleInput true 1 1]].map some := hlisted.symm
    exact List.map_injective_iff.mpr (Option.some_injective _) hmap
  rw [haccepted] at hinputs
  have hlast := congrArg List.getLast? hinputs
  simp only [List.flatten_cons, List.flatten_nil, List.append_nil, List.getLast?_append,
    List.getLast?_singleton, Option.some_or] at hlast
  exact absurd hlast (by decide)

end EncodedWriter

end PicooCamera.Recording
