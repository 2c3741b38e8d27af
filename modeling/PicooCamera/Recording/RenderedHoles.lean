import PicooCamera.Library.TransitionSystem
import PicooCamera.Recording.BundleEffects
import PicooCamera.Recording.RenderedGrid
import PicooCamera.Recording.RenderedRecorder

/-!
# The holes of a processed recording

A slot that is missed is a gap of the bundle, and a bundle with a gap does not
end `Complete`. What the timeline does not count is no gap.
-/

namespace PicooCamera.Recording

open PicooCamera.Library PicooCamera.FrameHub Program TransitionSystem

namespace RecordingBundle

variable {κ : Type} {P : Storage κ}

/-! ## Gaps stay -/

/-- What has a start is not arming. -/
def Marked (manifest : Manifest) : Prop :=
  manifest.actualStartPtsUs ≠ none → manifest.state ≠ .arming

/-- Gaps are only added, and a start is not forgotten. -/
def Grows (b b' : BundleState κ) : Prop :=
  b.manifest.gaps <+: b'.manifest.gaps ∧ (Marked b.manifest → Marked b'.manifest)

instance : Frame (@Grows κ) where
  refl _ := ⟨List.prefix_rfl, id⟩
  trans hst htu := ⟨hst.1.trans htu.1, fun h => htu.2 (hst.2 h)⟩

theorem Successor.grows {b : BundleState κ} {promotions : List (Promotion κ)} {next : Manifest}
    (h : Successor P b promotions next) :
    b.manifest.gaps <+: next.gaps ∧ (Marked b.manifest → Marked next) := by
  cases h with
  | started sourcePtsUs hnew =>
      refine ⟨List.prefix_rfl, fun _ _ => ?_⟩
      exact fun harming => nomatch harming
  | gap gap => exact ⟨List.prefix_append _ _, id⟩
  | segment segment => exact ⟨List.prefix_rfl, id⟩
  | failed reason nowMs =>
      refine ⟨List.prefix_rfl, fun _ _ => ?_⟩
      exact fun harming => nomatch harming

theorem Change.grows {b b' : BundleState κ} {r : Except RecordingError Unit}
    (h : Change P b b' r) : Grows b b' := by
  cases h with
  | kept _ hrefused hmanifest hstored =>
      unfold Grows
      rw [hmanifest]
      exact ⟨List.prefix_rfl, id⟩
  | durable _ next hrefused hopen hnext hmanifest hstored =>
      unfold Grows
      rw [hmanifest]
      exact hnext.grows
  | undone error next nowMs hopen hnext hmanifest hstored =>
      unfold Grows
      rw [hmanifest]
      refine ⟨hnext.grows.1, fun _ _ => ?_⟩
      exact fun harming => nomatch harming

theorem markStarted_recording {sourcePtsUs : Nat} {b b' : BundleState κ}
    (h : exec (markStarted P sourcePtsUs) b = (.ok (), b')) (hmarked : Marked b'.manifest) :
    state b' = .recording := by
  have hopen := (of_ensureOpen_ok h).1
  have hmanifest := (markStarted_ok h).2.2
  split at hmanifest
  · rw [state, hmanifest]
    rfl
  · rename_i hstarted
    rw [hmanifest] at hmarked
    have hstate := hmarked hstarted
    rw [state, hmanifest]
    change b.manifest.state ≠ .arming at hstate
    cases hb : b.manifest.state with
    | recording => rfl
    | arming => exact absurd hb hstate
    | complete => rw [state, hb] at hopen; exact nomatch hopen
    | hasGaps => rw [state, hb] at hopen; exact nomatch hopen
    | failed => rw [state, hb] at hopen; exact nomatch hopen

theorem finish_gaps {b b' : BundleState κ} (h : exec (finish P) b = (.ok (), b'))
    (hnot : ¬Successful b.manifest) : state b' = .failed ∨
      b'.manifest.gaps = b.manifest.gaps ∧ (state b' = .complete → b'.manifest.gaps = []) := by
  obtain hfailed | ⟨-, -, ⟨-, hsame⟩ | ⟨-, -, nowMs, hfinished⟩⟩ := finish_ok h
  · exact .inl hfailed
  · refine .inr ⟨by rw [hsame], ?_⟩
    intro hcomplete
    rw [state, hsame] at hcomplete
    exact absurd (.inl hcomplete) hnot
  · refine .inr ⟨by rw [hfinished]; rfl, ?_⟩
    intro hcomplete
    rw [state, hfinished] at hcomplete
    rw [hfinished]
    exact finished_complete.mp hcomplete

end RecordingBundle

namespace RenderedRecorder

variable {P : RenderedPlatform} {s s' : RecorderState}

/-! ## What the programs of the recorder leave -/

/-- The bundle grows and does not end well, and the timeline stays. -/
def Continues (s s' : RecorderState) : Prop :=
  RecordingBundle.Grows s.bundle s'.bundle ∧ RecordingBundle.Advances s.bundle s'.bundle ∧
    s'.timeline = s.timeline

instance : Frame Continues where
  refl _ := ⟨Frame.refl _, Frame.refl _, rfl⟩
  trans hst htu :=
    ⟨Frame.trans hst.1 htu.1, Frame.trans hst.2.1 htu.2.1, htu.2.2.trans hst.2.2⟩

theorem continues_of_manifest (hmanifest : s'.bundle.manifest = s.bundle.manifest)
    (htimeline : s'.timeline = s.timeline) : Continues s s' := by
  unfold Continues RecordingBundle.Grows RecordingBundle.Advances
  rw [hmanifest, htimeline]
  exact ⟨⟨List.prefix_rfl, id⟩, ⟨id, fun _ => rfl⟩, rfl⟩

theorem keeps_onBundle {p : Bundle Outputs Unit}
    (h : ∀ b, RecordingBundle.Change P.storage b (exec p b).2 (exec p b).1) :
    Keeps Continues (onBundle p) :=
  ⟨fun s => ⟨(h s.bundle).grows, (h s.bundle).advances, rfl⟩⟩

instance (sourcePtsUs : Nat) :
    Keeps Continues (onBundle (RecordingBundle.markStarted P.storage sourcePtsUs)) :=
  keeps_onBundle (RecordingBundle.markStarted_change sourcePtsUs)

instance (reason : GapReason) (source : Option SourceRange) :
    Keeps Continues (onBundle (RecordingBundle.recordGap P.storage reason source)) :=
  keeps_onBundle (RecordingBundle.recordGap_change reason source)

instance (reason : String) : Keeps Continues (onBundle (RecordingBundle.fail P.storage reason)) :=
  keeps_onBundle (RecordingBundle.fail_change reason)

instance (finalized : FinalizedSegment) (metadata : SegmentMetadata) :
    Keeps Continues (onBundle (RecordingBundle.commitSegment P.storage finalized metadata)) :=
  keeps_onBundle (RecordingBundle.commitSegment_change finalized metadata)

instance : Keeps Continues (onBundle RecordingBundle.nextPartialPath) := by
  constructor
  intro s
  have hsame : RecordingBundle.SameManifest s.bundle
      (exec (RecordingBundle.nextPartialPath : Bundle Outputs SegmentPath) s.bundle).2 :=
    Keeps.keeps s.bundle
  exact continues_of_manifest hsame.1 rfl

instance {α : Type} (answer : Nat → Except RecordingError α) : Keeps Continues (ask answer) :=
  ⟨fun _ => continues_of_manifest rfl rfl⟩

instance : Keeps Continues (now P) := by
  unfold now
  infer_instance

instance (active : Option RenderedSegment) : Keeps Continues (setActive active) :=
  keeps_update fun _ => continues_of_manifest rfl rfl

instance (path : SegmentPath) (outputs : Outputs) : Keeps Continues (writePartial path outputs) :=
  keeps_update fun _ => continues_of_manifest rfl rfl

instance : Keeps Continues (closeSegment P) := by
  unfold closeSegment
  apply keeps_then inferInstance
  rintro (_ | active)
  · infer_instance
  · apply keeps_then inferInstance
    intro _
    cases active.native <;> infer_instance

instance (frame : NativeVideoFrame) (sample : RenderedSample) :
    Keeps Continues (startSegment P frame sample) := by
  unfold startSegment
  infer_instance

instance (sample : RenderedSample) (previous : Option SourceRange) :
    Keeps Continues (recordMissed P sample previous) := by
  unfold recordMissed
  infer_instance

instance (frame : NativeVideoFrame) (sample : RenderedSample) :
    Keeps Continues (selectSegment P frame sample) := by
  unfold selectSegment
  infer_instance

instance (deadline attempts : Nat) : Keeps Continues (appendLoop P deadline attempts) := by
  induction attempts with
  | zero =>
      unfold appendLoop
      infer_instance
  | succ attempts ih =>
      unfold appendLoop
      apply keeps_then inferInstance
      rintro (_ | _) <;> infer_instance

instance (frame : NativeVideoFrame) (sample : RenderedSample) (active : RenderedSegment) :
    Keeps Continues (renderAndEncode P frame sample active) := by
  unfold renderAndEncode
  infer_instance

instance (active : RenderedSegment) : Keeps Continues (openNative P active) := by
  unfold openNative
  cases active.native <;> infer_instance

instance (frame : NativeVideoFrame) (sample : RenderedSample) :
    Keeps Continues (encodeSample P frame sample) := by
  unfold encodeSample
  apply keeps_then inferInstance
  rintro (_ | active)
  · infer_instance
  · refine keeps_then inferInstance fun output => ?_
    infer_instance

instance (frame : NativeVideoFrame) (sample : RenderedSample) :
    Keeps Continues (writeSample P frame sample) := by
  unfold writeSample
  infer_instance

theorem continues_of {α : Type} {p : Recorder α} [hp : Keeps Continues p]
    {r : Except RecordingError α} (h : exec p s = (r, s')) : Continues s s' := by
  have hkeeps : Continues s (exec p s).2 := hp.keeps s
  rwa [h] at hkeeps

/-! ## What goes well -/

theorem onBundle_ok {α : Type} {p : Bundle Outputs α} {a : α}
    (h : exec (onBundle p) s = (.ok a, s')) :
    exec p s.bundle = (.ok a, s'.bundle) ∧ s' = { s with bundle := s'.bundle } := by
  have hfst : (exec p s.bundle).1 = .ok a := congrArg Prod.fst h
  have hsnd : { s with bundle := (exec p s.bundle).2 } = s' := congrArg Prod.snd h
  subst hsnd
  exact ⟨Prod.ext hfst rfl, rfl⟩

theorem closeSegment_ok (h : exec (closeSegment P) s = (.ok (), s')) :
    RecordingBundle.state s'.bundle = RecordingBundle.state s.bundle := by
  unfold closeSegment at h
  rw [exec_read_bind] at h
  cases hactive : s.active with
  | none =>
      rw [hactive] at h
      obtain rfl : s = s' := congrArg Prod.snd h
      rfl
  | some active =>
      rw [hactive] at h
      dsimp only [setActive] at h
      rw [exec_update_bind] at h
      cases hnative : active.native with
      | none =>
          rw [hnative] at h
          obtain rfl : { s with active := none } = s' := congrArg Prod.snd h
          rfl
      | some native =>
          rw [hnative] at h
          dsimp only [writePartial] at h
          obtain ⟨_, s₁, hask, h⟩ := of_exec_bind_ok h
          obtain rfl := congrArg Prod.snd hask
          rw [exec_update_bind] at h
          obtain ⟨hcommit, -⟩ := onBundle_ok h
          obtain ⟨content, segment, -, -, -, -, hmanifest, -⟩ :=
            RecordingBundle.commitSegment_ok hcommit
          rw [RecordingBundle.state, hmanifest]
          rfl

def discontinuities (b : BundleState Outputs) : Nat :=
  b.manifest.gaps.countP fun gap => gap.reason = .timeDiscontinuity

theorem discontinuities_mono {b b' : BundleState Outputs}
    (hgaps : b.manifest.gaps <+: b'.manifest.gaps) : discontinuities b ≤ discontinuities b' :=
  hgaps.sublist.countP_le

theorem recordMissed_ok {sample : RenderedSample} {previous : Option SourceRange}
    (h : exec (recordMissed P sample previous) s = (.ok (), s'))
    (hmissed : sample.missedSlots ≠ 0)
    (hstate : RecordingBundle.state s.bundle = .recording) :
    discontinuities s.bundle < discontinuities s'.bundle := by
  unfold recordMissed at h
  rw [exec_read_bind, if_pos ⟨hmissed, hstate⟩] at h
  obtain ⟨gap, s₁, hgap, h⟩ := of_exec_bind_ok h
  obtain ⟨hrecorded, -⟩ := onBundle_ok h
  have hadded : discontinuities s'.bundle = discontinuities s₁.bundle + 1 := by
    rw [discontinuities, (RecordingBundle.recordGap_ok hrecorded).2.2]
    exact List.countP_append
  rw [hadded]
  exact Nat.lt_succ_of_le (discontinuities_mono (continues_of hgap).1.1)

theorem setActive_ok {active : Option RenderedSegment}
    (h : exec (setActive active) s = (.ok (), s')) : s'.active = active := by
  obtain rfl : { s with active := active } = s' := congrArg Prod.snd h
  rfl

theorem selectSegment_ok {frame : NativeVideoFrame} {sample : RenderedSample}
    (h : exec (selectSegment P frame sample) s = (.ok (), s')) :
    s'.active ≠ none ∧ (sample.missedSlots ≠ 0 →
      RecordingBundle.state s.bundle = .recording →
        discontinuities s.bundle < discontinuities s'.bundle) := by
  unfold selectSegment at h
  rw [exec_read_bind, exec_ite] at h
  split at h
  · obtain ⟨_, s₁, hclose, h⟩ := of_exec_bind_ok h
    obtain ⟨_, s₂, hrecord, h⟩ := of_exec_bind_ok h
    rw [exec_ite] at h
    split at h
    · exact nomatch congrArg Prod.fst h
    · obtain ⟨segment, s₃, hstart, h⟩ := of_exec_bind_ok h
      refine ⟨by rw [setActive_ok h]; exact Option.some_ne_none _, ?_⟩
      intro hmissed hstate
      calc discontinuities s.bundle
          ≤ discontinuities s₁.bundle := discontinuities_mono (continues_of hclose).1.1
        _ < discontinuities s₂.bundle :=
          recordMissed_ok hrecord hmissed ((closeSegment_ok hclose).trans hstate)
        _ ≤ discontinuities s₃.bundle := discontinuities_mono (continues_of hstart).1.1
        _ ≤ discontinuities s'.bundle := discontinuities_mono (continues_of h).1.1
  · rename_i hactive
    rw [exec_ite] at h
    split at h
    · exact nomatch congrArg Prod.fst h
    · rename_i hkept
      obtain rfl := congrArg Prod.snd h
      refine ⟨?_, fun hmissed _ => absurd (.inr hmissed) hkept⟩
      intro hnone
      change s.active = none at hnone
      rw [hnone] at hactive
      exact hactive (fun h => nomatch h)

theorem encodeSample_ok {frame : NativeVideoFrame} {sample : RenderedSample}
    (h : exec (encodeSample P frame sample) s = (.ok (), s')) (hactive : s.active ≠ none)
    (hmarked : RecordingBundle.Marked s.bundle.manifest) :
    RecordingBundle.state s'.bundle = .recording := by
  have hafter := (continues_of h).1.2 hmarked
  unfold encodeSample at h
  rw [exec_read_bind] at h
  cases hs : s.active with
  | none => exact absurd hs hactive
  | some active =>
      rw [hs] at h
      obtain ⟨output, s₁, -, h⟩ := of_exec_bind_ok h
      rw [exec_ite] at h
      split at h
      · exact nomatch congrArg Prod.fst h
      rw [exec_ite] at h
      split at h
      · exact nomatch congrArg Prod.fst h
      obtain ⟨native, s₂, -, h⟩ := of_exec_bind_ok h
      obtain ⟨_, s₃, -, h⟩ := of_exec_bind_ok h
      obtain ⟨instant, s₄, -, h⟩ := of_exec_bind_ok h
      obtain ⟨_, s₅, -, h⟩ := of_exec_bind_ok h
      obtain ⟨_, s₆, -, h⟩ := of_exec_bind_ok h
      exact RecordingBundle.markStarted_recording (onBundle_ok h).1 hafter

theorem writeSample_ok {frame : NativeVideoFrame} {sample : RenderedSample}
    (h : exec (writeSample P frame sample) s = (.ok (), s'))
    (hmarked : RecordingBundle.Marked s.bundle.manifest) :
    RecordingBundle.state s'.bundle = .recording ∧ (sample.missedSlots ≠ 0 →
      RecordingBundle.state s.bundle = .recording →
        discontinuities s.bundle < discontinuities s'.bundle) := by
  unfold writeSample at h
  rw [exec_ite] at h
  split at h
  · exact nomatch congrArg Prod.fst h
  obtain ⟨_, s₁, hselect, hencode⟩ := of_exec_bind_ok h
  obtain ⟨hactive, hreported⟩ := selectSegment_ok hselect
  have hmarked₁ := (continues_of hselect).1.2 hmarked
  refine ⟨encodeSample_ok hencode hactive hmarked₁, ?_⟩
  intro hmissed hstate
  exact (hreported hmissed hstate).trans_le (discontinuities_mono (continues_of hencode).1.1)

/-! ## The end of a recording -/

theorem ending_error {p : Recorder Unit} [hp : Keeps Continues p] {error : RecordingError}
    (h : exec (p >>= fun _ => onBundle (RecordingBundle.finish P.storage)) s = (.error error, s'))
    (hnot : ¬RecordingBundle.Successful s.bundle.manifest) :
    ¬RecordingBundle.Successful s'.bundle.manifest := by
  rw [exec_bind] at h
  cases hfirst : exec p s with
  | mk r t =>
      have hadvances := (continues_of hfirst).2.1.1 hnot
      rw [hfirst] at h
      cases r with
      | error e =>
          obtain rfl : t = s' := congrArg Prod.snd h
          exact hadvances
      | ok _ =>
          have hfst : (exec (RecordingBundle.finish P.storage) t.bundle).1 = .error error :=
            congrArg Prod.fst h
          have hsnd : { t with bundle := (exec (RecordingBundle.finish P.storage) t.bundle).2 } =
            s' := congrArg Prod.snd h
          subst hsnd
          exact RecordingBundle.finish_error (Prod.ext hfst rfl)

theorem ending_ok {p : Recorder Unit} [hp : Keeps Continues p]
    (h : exec (p >>= fun _ => onBundle (RecordingBundle.finish P.storage)) s = (.ok (), s'))
    (hnot : ¬RecordingBundle.Successful s.bundle.manifest) :
    RecordingBundle.state s'.bundle = .failed ∨
      s.bundle.manifest.gaps <+: s'.bundle.manifest.gaps ∧
        (RecordingBundle.state s'.bundle = .complete → s'.bundle.manifest.gaps = []) := by
  obtain ⟨_, t, hfirst, hfinish⟩ := of_exec_bind_ok h
  obtain ⟨hgrows, hadvances, -⟩ := continues_of hfirst
  obtain hfailed | ⟨hgaps, hcomplete⟩ :=
    RecordingBundle.finish_gaps (onBundle_ok hfinish).1 (hadvances.1 hnot)
  · exact .inl hfailed
  · rw [hgaps]
    exact .inr ⟨hgrows.1, fun h => hgaps ▸ hcomplete h⟩

theorem guarded_cases (p : Recorder Unit)
    (hnot : ∀ error t, exec p s = (.error error, t) →
      ¬RecordingBundle.Successful t.bundle.manifest) :
    (∃ t, exec p s = (.ok (), t) ∧ exec (guarded P p) s = (.ok (), t)) ∨
      ∃ error t, exec (guarded P p) s = (.error error, t) ∧
        RecordingBundle.state t.bundle = .failed := by
  unfold guarded
  rw [exec_attempt_bind]
  cases hexec : exec p s with
  | mk r t =>
      cases r with
      | ok _ => exact .inl ⟨t, rfl, rfl⟩
      | error error =>
          have ht := hnot error t hexec
          have hclose : Continues t (exec (closeSegment P) t).2 := Keeps.keeps t
          have hclosed := hclose.2.1.1 ht
          refine .inr ⟨error, (exec (abort P error.text) t).2, ?_, ?_⟩
          · rfl
          · exact RecordingBundle.fail_undecided hclosed

theorem guarded_of_ok {p : Recorder Unit} (h : exec p s = (.ok (), s')) :
    exec (guarded P p) s = (.ok (), s') := by
  unfold guarded
  rw [exec_attempt_bind, h]
  rfl

end RenderedRecorder

/-! ## Runs of a recorder -/

inductive RecorderCall where
  | push (frame : NativeVideoFrame)
  | finish
  | subscriptionEnd (reason : SubscriptionEnd)

structure RecorderRun where
  recorder : RecorderState
  /-- The decisions of the timeline to encode, in their order. -/
  decisions : List EncodeDecision
  /-- The pump has returned. -/
  stopped : Bool

namespace RenderedRecorder

def perform (P : RenderedPlatform) : RecorderCall → Recorder Unit
  | .push frame => push P frame
  | .finish => finish P
  | .subscriptionEnd reason => finishAfterSubscriptionEnd P reason

def decided (t : RenderedTimeline) : RecorderCall → List EncodeDecision
  | .push frame => t.encodeDecision frame
  | _ => []

/-- The pump returns after an error and with the end of the subscription. -/
def stops : RecorderCall → Except RecordingError Unit → Bool
  | .push _, .ok () => false
  | _, _ => true

def recorderStep (P : RenderedPlatform) (x : RecorderRun) (call : RecorderCall) : RecorderRun :=
  if x.stopped = true then x
  else
    let out := exec (guarded P (perform P call)) x.recorder
    { recorder := out.2
      decisions := x.decisions ++ decided x.recorder.timeline call
      stopped := stops call out.1 }

/-- The run begins with a recorder that `create` made. -/
def Created (P : RenderedPlatform) (x : RecorderRun) : Prop :=
  x.decisions = [] ∧ x.stopped = false ∧ ∃ parent name config s,
    exec (create P parent name config) s = (.ok (), x.recorder)

def missed (decisions : List EncodeDecision) : Nat :=
  decisions.countP fun d => d.sample.missedSlots ≠ 0

theorem missed_append_singleton (decisions : List EncodeDecision) (d : EncodeDecision) :
    missed (decisions ++ [d]) = missed decisions + if d.sample.missedSlots ≠ 0 then 1 else 0 := by
  rw [missed, List.countP_append, List.countP_singleton]
  simp [missed]

structure ReportsHoles (fps : Nat) (x : RecorderRun) : Prop where
  /-- Within a stream every slot between two decisions is taken or counted. -/
  accounted : x.decisions.IsChain (EncodeDecision.Accounted fps)
  /-- Each decision that missed slots has its gap. -/
  reported : missed x.decisions ≤ discontinuities x.recorder.bundle ∨
    RecordingBundle.state x.recorder.bundle = .failed
  complete : RecordingBundle.state x.recorder.bundle = .complete →
    x.decisions.IsChain (EncodeDecision.NoHole fps)

/-- While the pump runs, a frame that changes the decoder or the configuration within its stream
comes by the next slot. -/
def KeepsSlots (x : RecorderRun) : RecorderCall → Prop
  | .push frame => x.stopped = false → x.recorder.timeline.KeepsSlots frame
  | _ => True

/-- What the recorder keeps. -/
structure Known (fps : Nat) (x : RecorderRun) : Prop where
  running : x.stopped = false → x.recorder.timeline.fps = fps ∧
    x.recorder.timeline.OnGrid x.decisions ∧
      RecordingBundle.Marked x.recorder.bundle.manifest ∧
        (RecordingBundle.state x.recorder.bundle).terminal = false ∧
          (x.decisions ≠ [] → RecordingBundle.state x.recorder.bundle = .recording)
  reported : missed x.decisions ≤ discontinuities x.recorder.bundle ∨
    RecordingBundle.state x.recorder.bundle = .failed
  complete : RecordingBundle.state x.recorder.bundle = .complete →
    x.recorder.bundle.manifest.gaps = []

theorem Known.reportsHoles_eq {fps : Nat} {x : RecorderRun} (h : Known fps x) :
    ReportsHoles fps x ↔ x.decisions.IsChain (EncodeDecision.Accounted fps) := by
  constructor
  · exact ReportsHoles.accounted
  · intro haccounted
    refine ⟨haccounted, h.reported, ?_⟩
    intro hcomplete
    refine haccounted.imp_of_mem_imp ?_
    intro d later _ hlater hpair
    apply hpair.noHole
    by_contra hmissed
    obtain hle | hfailed := h.reported
    · rw [discontinuities, h.complete hcomplete] at hle
      have hpos : 0 < missed x.decisions :=
        List.countP_pos_iff.mpr ⟨later, hlater, decide_eq_true hmissed⟩
      exact absurd hle hpos.not_ge
    · exact nomatch hcomplete.symm.trans hfailed

theorem Known.of_failed {fps : Nat} {x : RecorderRun} (hstopped : x.stopped = true)
    (hfailed : RecordingBundle.state x.recorder.bundle = .failed) : Known fps x := by
  refine ⟨?_, .inr hfailed, ?_⟩
  · intro hrunning
    exact nomatch hstopped.symm.trans hrunning
  · intro hcomplete
    exact nomatch hfailed.symm.trans hcomplete

theorem Known.of_end {fps : Nat} {x y : RecorderRun} (h : Known fps x)
    (hrunning : x.stopped = false) (hstopped : y.stopped = true)
    (hdecisions : y.decisions = x.decisions)
    (hgaps : x.recorder.bundle.manifest.gaps <+: y.recorder.bundle.manifest.gaps)
    (hcomplete : RecordingBundle.state y.recorder.bundle = .complete →
      y.recorder.bundle.manifest.gaps = []) : Known fps y := by
  refine ⟨?_, ?_, hcomplete⟩
  · intro hagain
    exact nomatch hstopped.symm.trans hagain
  · rw [hdecisions]
    obtain hle | hfailed := h.reported
    · exact .inl (hle.trans (discontinuities_mono hgaps))
    · have hopen := (h.running hrunning).2.2.2.1
      rw [hfailed] at hopen
      exact nomatch hopen

/-- What a call leaves while the pump runs. -/
def performed (x : RecorderRun) (call : RecorderCall)
    (out : Except RecordingError Unit × RecorderState) : RecorderRun where
  recorder := out.2
  decisions := x.decisions ++ decided x.recorder.timeline call
  stopped := stops call out.1

theorem recorderStep_running {x : RecorderRun} (hrunning : x.stopped = false)
    (call : RecorderCall) : recorderStep P x call =
      performed x call (exec (guarded P (perform P call)) x.recorder) := by
  rw [recorderStep, if_neg (by simp [hrunning])]
  rfl

theorem stops_error (call : RecorderCall) (error : RecordingError) :
    stops call (.error error) = true := by
  cases call <;> rfl

theorem Known.step_ending {fps : Nat} {x : RecorderRun} (h : Known fps x)
    (hrunning : x.stopped = false) {call : RecorderCall} (hdecided : ∀ t, decided t call = [])
    (hstops : ∀ r, stops call r = true) {p : Recorder Unit} [Keeps Continues p]
    (hp : exec (perform P call) x.recorder =
      exec (p >>= fun _ => onBundle (RecordingBundle.finish P.storage)) x.recorder) :
    Known fps (recorderStep P x call) := by
  rw [recorderStep_running hrunning]
  obtain ⟨-, -, -, hopen, -⟩ := h.running hrunning
  have hnot := RecordingBundle.not_successful_of_open hopen
  obtain ⟨t, hok, hguarded⟩ | ⟨error, t, hguarded, hfailed⟩ :=
    guarded_cases (P := P) (perform P call)
      (fun error t herror => ending_error (hp.symm.trans herror) hnot)
  · rw [hguarded]
    obtain hfailed | ⟨hgaps, hcomplete⟩ := ending_ok (hp.symm.trans hok) hnot
    · exact .of_failed (hstops _) hfailed
    · refine h.of_end hrunning (hstops _) ?_ hgaps hcomplete
      change x.decisions ++ decided x.recorder.timeline call = x.decisions
      rw [hdecided, List.append_nil]
  · rw [hguarded]
    exact .of_failed (stops_error call error) hfailed

theorem exec_push_error {frame : NativeVideoFrame} {error : RenderedTimelineError}
    (h : s.timeline.offer frame.identity frame.configRevision frame.sourcePtsUs = .error error) :
    exec (push P frame) s = (.error (.platform error.text), s) := by
  unfold push offerFrame
  rw [exec_bind, exec_read_bind, h]
  rfl

theorem exec_push_ok {frame : NativeVideoFrame} {decision : RenderedSampleDecision}
    {next : RenderedTimeline}
    (h : s.timeline.offer frame.identity frame.configRevision frame.sourcePtsUs =
      .ok (decision, next)) :
    exec (offerFrame frame) s = (.ok decision, { s with timeline := next }) := by
  unfold offerFrame
  rw [exec_read_bind, h]
  rfl

theorem exec_push_skip {frame : NativeVideoFrame} {next : RenderedTimeline}
    (h : s.timeline.offer frame.identity frame.configRevision frame.sourcePtsUs =
      .ok (.skip, next)) : exec (push P frame) s = (.ok (), { s with timeline := next }) := by
  unfold push
  rw [exec_bind_ok (exec_push_ok h)]
  rfl

theorem exec_push_encode {frame : NativeVideoFrame} {sample : RenderedSample}
    {next : RenderedTimeline}
    (h : s.timeline.offer frame.identity frame.configRevision frame.sourcePtsUs =
      .ok (.encode sample, next)) :
    exec (push P frame) s = exec (writeSample P frame sample) { s with timeline := next } := by
  unfold push
  rw [exec_bind_ok (exec_push_ok h)]

theorem decisions_ne_nil_of_missed {t next : RenderedTimeline} {decisions : List EncodeDecision}
    {frame : NativeVideoFrame} {sample : RenderedSample} (h : t.OnGrid decisions)
    (hoffer : t.offer frame.identity frame.configRevision frame.sourcePtsUs =
      .ok (.encode sample, next)) (hmissed : sample.missedSlots ≠ 0) : decisions ≠ [] := by
  cases RenderedTimeline.offer_ok hoffer with
  | first hgeneration => exact absurd rfl hmissed
  | otherStream current hgeneration hother => exact absurd rfl hmissed
  | changed current hgeneration hchanges => exact absurd rfl hmissed
  | sampled _ _ hgeneration hpts hsampled =>
      intro hnil
      exact nomatch hgeneration.symm.trans (h.fresh hnil)

theorem Known.step_push {fps : Nat} {x : RecorderRun} (h : Known fps x)
    (hrunning : x.stopped = false) (frame : NativeVideoFrame) :
    Known fps (recorderStep P x (.push frame)) := by
  rw [recorderStep_running hrunning]
  obtain ⟨hfps, hgrid, hmarked, hopen, hrecording⟩ := h.running hrunning
  have hnot := RecordingBundle.not_successful_of_open hopen
  cases hoffer : x.recorder.timeline.offer frame.identity frame.configRevision
      frame.sourcePtsUs with
  | error timelineError =>
      have hpush := exec_push_error (P := P) hoffer
      obtain ⟨t, hok, -⟩ | ⟨error, t, hguarded, hfailed⟩ :=
        guarded_cases (P := P) (s := x.recorder) (push P frame) (by
          intro error t herror
          obtain rfl := congrArg Prod.snd (hpush.symm.trans herror)
          exact hnot)
      · exact nomatch congrArg Prod.fst (hpush.symm.trans hok)
      · change Known fps (performed x _ (exec (guarded P (push P frame)) x.recorder))
        rw [hguarded]
        exact .of_failed rfl hfailed
  | ok out =>
      obtain ⟨decision, next⟩ := out
      obtain ⟨hnextFps, hnextGrid⟩ := RenderedTimeline.onGrid_offer hgrid hoffer
      have hdecided : decided x.recorder.timeline (.push frame) =
          RenderedTimeline.encodeOf next decision := RenderedTimeline.encodeDecision_ok hoffer
      cases decision with
      | skip =>
          have hguarded := guarded_of_ok (P := P) (exec_push_skip (P := P) hoffer)
          change Known fps (performed x _ (exec (guarded P (push P frame)) x.recorder))
          rw [hguarded]
          have hdecisions : x.decisions ++ decided x.recorder.timeline (.push frame) =
              x.decisions := by rw [hdecided]; exact List.append_nil _
          refine ⟨fun _ => ⟨hnextFps.trans hfps, hnextGrid, hmarked, hopen, ?_⟩, ?_, h.complete⟩
          · intro hne
            apply hrecording
            rwa [← hdecisions]
          · change missed (x.decisions ++ _) ≤ _ ∨ _
            rw [hdecisions]
            exact h.reported
      | encode sample =>
          have hpush := exec_push_encode (P := P) hoffer
          obtain ⟨t, hok, hguarded⟩ | ⟨error, t, hguarded, hfailed⟩ :=
            guarded_cases (P := P) (s := x.recorder) (push P frame)
              (fun error t herror => (continues_of (hpush.symm.trans herror)).2.1.1 hnot)
          · change Known fps (performed x _ (exec (guarded P (push P frame)) x.recorder))
            rw [hguarded]
            have hwrite := hpush.symm.trans hok
            obtain ⟨hstate, hreported⟩ := writeSample_ok hwrite hmarked
            obtain ⟨hgrows, -, htimeline⟩ := continues_of hwrite
            refine ⟨fun _ => ⟨?_, ?_, hgrows.2 hmarked, ?_, fun _ => hstate⟩, ?_, ?_⟩
            · change t.timeline.fps = fps
              rw [htimeline]
              exact hnextFps.trans hfps
            · change t.timeline.OnGrid _
              rw [htimeline]
              exact hnextGrid
            · rw [performed, hstate]
              rfl
            · obtain hle | hfailed := h.reported
              · refine .inl ?_
                change missed (x.decisions ++ _) ≤ discontinuities t.bundle
                rw [hdecided, RenderedTimeline.encodeOf, missed_append_singleton]
                by_cases hmissed : sample.missedSlots ≠ 0
                · rw [if_pos hmissed]
                  have hne := decisions_ne_nil_of_missed hgrid hoffer hmissed
                  exact hle.trans_lt (hreported hmissed (hrecording hne))
                · rw [if_neg hmissed]
                  exact hle.trans (discontinuities_mono hgrows.1)
              · rw [hfailed] at hopen
                exact nomatch hopen
            · intro hcomplete
              exact nomatch hstate.symm.trans hcomplete
          · change Known fps (performed x _ (exec (guarded P (push P frame)) x.recorder))
            rw [hguarded]
            exact .of_failed rfl hfailed

theorem Known.step {fps : Nat} {x : RecorderRun} (h : Known fps x) (call : RecorderCall) :
    Known fps (recorderStep P x call) := by
  cases hrunning : x.stopped with
  | true =>
      rw [recorderStep, if_pos hrunning]
      exact h
  | false =>
      cases call with
      | push frame => exact h.step_push hrunning frame
      | finish => exact h.step_ending hrunning (fun _ => rfl) (fun _ => rfl) rfl
      | subscriptionEnd reason =>
          refine h.step_ending hrunning (fun _ => rfl) (fun _ => rfl) (p := Program.when
            (RecordingBundle.state x.recorder.bundle = .recording) (closeSegment P >>= fun _ =>
              onBundle (RecordingBundle.recordGap P.storage (endReason reason) none))) ?_
          rfl

theorem known_created {x : RecorderRun} (h : Created P x) :
    Known x.recorder.timeline.fps x ∧ ReportsHoles x.recorder.timeline.fps x := by
  obtain ⟨hdecisions, -, parent, name, config, s, hcreate⟩ := h
  unfold create at hcreate
  obtain ⟨_, t, hbundle, hcreate⟩ := of_exec_bind_ok hcreate
  obtain ⟨manifest, hstate, hstart, -, hmanifest, -⟩ :=
    RecordingBundle.create_ok (onBundle_ok hbundle).1
  cases hnew : RenderedTimeline.new config.fps with
  | error error =>
      rw [hnew] at hcreate
      exact nomatch congrArg Prod.fst hcreate
  | ok timeline =>
      rw [hnew] at hcreate
      obtain ⟨hsupported, hgeneration⟩ := RenderedTimeline.new_ok hnew
      have hrecorder : { t with config := config, timeline := timeline, active := none } =
        x.recorder := congrArg Prod.snd hcreate
      have harming : RecordingBundle.state x.recorder.bundle = .arming := by
        rw [← hrecorder, RecordingBundle.state, hmanifest]
        exact hstate
      have hgrid : x.recorder.timeline.OnGrid x.decisions := by
        rw [← hrecorder, hdecisions]
        refine ⟨hsupported, fun _ => hgeneration, ?_⟩
        intro d hd
        exact nomatch hd
      have hknown : Known x.recorder.timeline.fps x := by
        refine ⟨fun _ => ⟨rfl, hgrid, ?_, ?_, fun hne => absurd hdecisions hne⟩, ?_, ?_⟩
        · rw [← hrecorder, hmanifest]
          exact fun hstarted => absurd hstart hstarted
        · rw [harming]
          rfl
        · rw [hdecisions]
          exact .inl (Nat.zero_le _)
        · intro hcomplete
          exact nomatch harming.symm.trans hcomplete
      refine ⟨hknown, hknown.reportsHoles_eq.mpr ?_⟩
      rw [hdecisions]
      exact .nil

theorem Known.step_iff {fps : Nat} {x : RecorderRun} (h : Known fps x)
    (hholes : ReportsHoles fps x) (call : RecorderCall) :
    ReportsHoles fps (recorderStep P x call) ↔ KeepsSlots x call := by
  rw [(h.step call).reportsHoles_eq]
  cases hrunning : x.stopped with
  | true =>
      rw [recorderStep, if_pos hrunning]
      refine iff_of_true hholes.accounted ?_
      cases call with
      | push frame => exact fun h => nomatch hrunning.symm.trans h
      | finish => trivial
      | subscriptionEnd reason => trivial
  | false =>
      rw [recorderStep_running hrunning]
      obtain ⟨hfps, hgrid, -⟩ := h.running hrunning
      cases call with
      | push frame =>
          have hchain := hholes.accounted
          rw [← hfps] at hchain ⊢
          refine (RenderedTimeline.accounted_iff_keepsSlots hgrid hchain).trans ?_
          exact ⟨fun hkeeps _ => hkeeps, fun hkeeps => hkeeps hrunning⟩
      | finish =>
          refine iff_of_true ?_ trivial
          change (x.decisions ++ []).IsChain _
          rw [List.append_nil]
          exact hholes.accounted
      | subscriptionEnd reason =>
          refine iff_of_true ?_ trivial
          change (x.decisions ++ []).IsChain _
          rw [List.append_nil]
          exact hholes.accounted

/-- A run of the recorder reports its holes exactly when every frame that changes the decoder or
the configuration within its stream keeps the slots. -/
theorem reportsHoles_iff (P : RenderedPlatform) {x : RecorderRun} (h : Created P x)
    (calls : List RecorderCall) :
    HoldsThroughout (ReportsHoles x.recorder.timeline.fps) (recorderStep P) x calls ↔
      MeetsAll KeepsSlots (recorderStep P) x calls := by
  obtain ⟨hknown, hholes⟩ := known_created h
  exact holdsThroughout_iff (fun _ call hs _ => hs.step call)
    (fun _ call hs _ hP => hs.step_iff hP call) hknown hholes (meetsAll_true _ _ _)

/-- Nothing fails, and the encoder keeps the time of a sample. -/
def samplePlatform : RenderedPlatform where
  storage := {
    fails := fun _ _ => none
    nowMs := id
    isFile := fun _ => true
    length := List.length
    sha256 := fun _ => ""
    softwareVersion := "1.0.0" }
  native := {
    new := fun _ => .ok ()
    append := fun _ => .ok .written
    finish := fun _ => .ok () }
  instant := fun _ => 0
  createRenderer := fun _ => .ok ()
  render := fun _ image => .ok image
  createEncoder := fun _ => .ok ()
  encode := fun _ image ptsUs _ => .ok ⟨image, ptsUs, [1]⟩
  digest := fun _ => "aaaaaaaaaaaaaaaaaaaaaaaaaaaaaaaaaaaaaaaaaaaaaaaaaaaaaaaaaaaaaaaa"

def sampleConfig : RenderedRecordingConfig where
  codec := .avc
  width := 1280
  height := 720
  fps := 30
  bitrate := 4000000
  sceneRevision := 1

def sampleFrame (decoderGeneration frameId sourcePtsUs : Nat) : NativeVideoFrame where
  identity := ⟨1, 1, decoderGeneration, frameId⟩
  sourcePtsUs := sourcePtsUs
  configRevision := 1
  visibleRect := ⟨0, 0, 1280, 720⟩
  imageWidth := 1280
  imageHeight := 720
  pixelAspectRatio := (1, 1)
  rotation := .none
  mirror := false
  image := []

def emptyRecorder : RecorderState where
  bundle := {
    path := ""
    manifest := RecordingBundle.newManifest samplePlatform.storage "" .rendered 0
    stored := none
    files := fun _ => none
    promotions := []
    calls := 0 }
  config := sampleConfig
  timeline := ⟨0, none, 0, 0, 0, 0, none, 0⟩
  active := none
  questions := 0

def createdRun : RecorderRun where
  recorder := (exec (create samplePlatform "/parent" "recording-1" sampleConfig) emptyRecorder).2
  decisions := []
  stopped := false

theorem created_createdRun : Created samplePlatform createdRun :=
  ⟨rfl, rfl, "/parent", "recording-1", sampleConfig, emptyRecorder, rfl⟩

/-- The decoder is replaced, and its first frame comes at `sourcePtsUs`. -/
def decoderChange (sourcePtsUs : Nat) : List RecorderCall :=
  [.push (sampleFrame 1 1 0), .push (sampleFrame 2 2 sourcePtsUs), .finish]

/-- The new decoder's first frame takes the next slot. -/
theorem reportsHoles_iff_decoderChange :
    HoldsThroughout (ReportsHoles createdRun.recorder.timeline.fps)
      (recorderStep samplePlatform) createdRun (decoderChange 33333) := by
  refine (reportsHoles_iff samplePlatform
    ⟨rfl, rfl, "/parent", "recording-1", sampleConfig, emptyRecorder, rfl⟩
    (decoderChange 33333)).mpr ⟨?_, ?_, trivial, trivial⟩
  · intro _ current hcurrent
    exact nomatch hcurrent
  · intro _ current _ _
    decide +kernel

/-! ### The new decoder's first frame comes one second later -/

/-- The decision on the first frame of the decoder generation `n`. -/
def firstDecision (n sourcePtsUs : Nat) : EncodeDecision where
  sample := ⟨⟨1, 1, n, n⟩, sourcePtsUs, 0, 0, n, true⟩
  anchorUs := sourcePtsUs

theorem decoderChange_uncounted :
    let x := (decoderChange 1000000).foldl (recorderStep samplePlatform) createdRun
    RecordingBundle.state x.recorder.bundle = .complete ∧
      x.decisions = [firstDecision 1 0, firstDecision 2 1000000] := by
  decide +kernel

theorem decoderChange_hidesHole :
    Created samplePlatform createdRun ∧
      RecordingBundle.state ((decoderChange 1000000).foldl (recorderStep samplePlatform)
        createdRun).recorder.bundle = .complete ∧
      ¬HoldsThroughout (ReportsHoles createdRun.recorder.timeline.fps)
        (recorderStep samplePlatform) createdRun (decoderChange 1000000) := by
  refine ⟨created_createdRun, decoderChange_uncounted.1, ?_⟩
  intro h
  have haccounted := h.last.accounted
  rw [decoderChange_uncounted.2, List.isChain_pair] at haccounted
  -- Slot 1 begins at 33333 us.
  have hslot := haccounted ⟨rfl, rfl⟩ 1 ⟨by decide +kernel, by decide +kernel⟩
  exact absurd hslot (by decide +kernel)

end RenderedRecorder

end PicooCamera.Recording
