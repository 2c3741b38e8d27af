import PicooCamera.Recording.Bundle

/-!
# What an operation does to a bundle

Every operation leaves the manifest as it is or commits one successor of it.
A commit is durable, or it is lost, or it stands on the disk while the memory
says that it failed.
-/

namespace PicooCamera.Recording

namespace RecordingBundle

open PicooCamera.Library Program

variable {κ : Type} {P : Storage κ}

/-! ## Persisting -/

/-- The calls of `persist` from number `n` on succeed up to the rename. -/
def Renames (P : Storage κ) (n : Nat) : Prop :=
  P.fails .createTemporary n = none ∧ P.fails .writeManifest (n + 1) = none ∧
    P.fails .flushManifest (n + 2) = none ∧ P.fails .syncManifest (n + 3) = none ∧
    P.fails .renameManifest (n + 4) = none

/-- The directory is synced after the rename. -/
def Syncs (P : Storage κ) (n : Nat) : Prop := P.fails .syncBundleDirectory (n + 5) = none

instance (n : Nat) : Decidable (Renames P n) := by
  unfold Renames
  infer_instance

instance (n : Nat) : Decidable (Syncs P n) := by
  unfold Syncs
  infer_instance

inductive Persisted (P : Storage κ) (manifest : Manifest) (b : BundleState κ) :
    Except RecordingError Unit × BundleState κ → Prop
  | durable (hrename : Renames P b.calls) (hsync : Syncs P b.calls) :
      Persisted P manifest b
        (.ok (), { b with stored := some manifest, calls := b.calls + 6 })
  | unsynced (error : RecordingError) (hrename : Renames P b.calls)
      (hsync : ¬Syncs P b.calls) :
      Persisted P manifest b
        (.error error, { b with stored := some manifest, calls := b.calls + 6 })
  | lost (error : RecordingError) (calls : Nat) (hrename : ¬Renames P b.calls) :
      Persisted P manifest b (.error error, { b with calls := calls })

theorem exec_systemCall_none {call : SystemCall} {b : BundleState κ}
    (h : P.fails call b.calls = none) :
    exec (systemCall P call) b = (.ok (), { b with calls := b.calls + 1 }) := by
  unfold exec systemCall
  simp only [ExceptT.run, StateT.run, h]

theorem exec_systemCall_some {call : SystemCall} {b : BundleState κ} {error : RecordingError}
    (h : P.fails call b.calls = some error) :
    exec (systemCall P call) b = (.error error, { b with calls := b.calls + 1 }) := by
  unfold exec systemCall
  simp only [ExceptT.run, StateT.run, h]

theorem exec_call_bind_none {α : Type} {call : SystemCall} {b : BundleState κ}
    {f : Unit → Bundle κ α} (h : P.fails call b.calls = none) :
    exec (systemCall P call >>= f) b = exec (f ()) { b with calls := b.calls + 1 } :=
  exec_bind_ok (exec_systemCall_none h)

theorem exec_call_bind_some {α : Type} {call : SystemCall} {b : BundleState κ}
    {f : Unit → Bundle κ α} {error : RecordingError} (h : P.fails call b.calls = some error) :
    exec (systemCall P call >>= f) b = (.error error, { b with calls := b.calls + 1 }) :=
  exec_bind_error (exec_systemCall_some h)

theorem persist_persisted (manifest : Manifest) (b : BundleState κ) :
    Persisted P manifest b (exec (persist P manifest) b) := by
  unfold persist
  cases h0 : P.fails .createTemporary b.calls with
  | some error =>
      rw [exec_call_bind_some h0]
      exact .lost error _ fun h => nomatch h0.symm.trans h.1
  | none =>
  rw [exec_call_bind_none h0]
  cases h1 : P.fails .writeManifest (b.calls + 1) with
  | some error =>
      rw [exec_call_bind_some h1]
      exact .lost error _ fun h => nomatch h1.symm.trans h.2.1
  | none =>
  rw [exec_call_bind_none h1]
  cases h2 : P.fails .flushManifest (b.calls + 2) with
  | some error =>
      rw [exec_call_bind_some h2]
      exact .lost error _ fun h => nomatch h2.symm.trans h.2.2.1
  | none =>
  rw [exec_call_bind_none h2]
  cases h3 : P.fails .syncManifest (b.calls + 3) with
  | some error =>
      rw [exec_call_bind_some h3]
      exact .lost error _ fun h => nomatch h3.symm.trans h.2.2.2.1
  | none =>
  rw [exec_call_bind_none h3]
  cases h4 : P.fails .renameManifest (b.calls + 4) with
  | some error =>
      rw [exec_call_bind_some h4]
      exact .lost error _ fun h => nomatch h4.symm.trans h.2.2.2.2
  | none =>
  have hrename : Renames P b.calls := ⟨h0, h1, h2, h3, h4⟩
  rw [exec_call_bind_none h4, exec_update_bind]
  cases h5 : P.fails .syncBundleDirectory (b.calls + 5) with
  | some error =>
      rw [exec_systemCall_some h5]
      exact .unsynced error hrename fun h => nomatch h5.symm.trans h
  | none =>
      rw [exec_systemCall_none h5]
      exact .durable hrename h5

/-! ## Committing -/

def markedFailed (next : Manifest) (nowMs : Nat) : Manifest :=
  { next with
    state := .failed
    failure := some "manifest persistence failed"
    endedAtUnixMs := some nowMs }

inductive Committed (P : Storage κ) (next : Manifest) (b : BundleState κ) :
    Except RecordingError Unit × BundleState κ → Prop
  | durable (hrename : Renames P b.calls) (hsync : Syncs P b.calls) :
      Committed P next b
        (.ok (), { b with manifest := next, stored := some next, calls := b.calls + 6 })
  | unsynced (error : RecordingError) (nowMs : Nat) (hrename : Renames P b.calls)
      (hsync : ¬Syncs P b.calls) :
      Committed P next b (.error error, { b with
        manifest := markedFailed next nowMs, stored := some next, calls := b.calls + 6 })
  | lost (error : RecordingError) (nowMs calls : Nat) (hrename : ¬Renames P b.calls) :
      Committed P next b
        (.error error, { b with manifest := markedFailed next nowMs, calls := calls })

theorem commit_committed (next : Manifest) (b : BundleState κ) :
    Committed P next b (exec (commit P next) b) := by
  unfold commit
  rw [exec_attempt_bind]
  have hpersisted := persist_persisted (P := P) next b
  generalize exec (persist P next) b = out at hpersisted
  cases hpersisted with
  | durable hrename hsync => exact .durable hrename hsync
  | unsynced error hrename hsync => exact .unsynced error _ hrename hsync
  | lost error calls hrename => exact .lost error _ calls hrename

/-! ## What stays -/

/-- The bundle stays where it is, and what was promoted stays on record. -/
def SamePlace (b b' : BundleState κ) : Prop :=
  b'.path = b.path ∧ b.promotions <+: b'.promotions

instance : Frame (@SamePlace κ) where
  refl b := ⟨rfl, List.prefix_refl b.promotions⟩
  trans hst htu := ⟨htu.1.trans hst.1, hst.2.trans htu.2⟩

theorem samePlace_of_eq {b b' : BundleState κ} (hpath : b'.path = b.path)
    (hpromotions : b'.promotions = b.promotions) : SamePlace b b' := by
  constructor
  · exact hpath
  · rw [hpromotions]

/-- Only the number of the next call changes. -/
def CallsOnly (b b' : BundleState κ) : Prop := b' = { b with calls := b'.calls }

instance : Frame (@CallsOnly κ) where
  refl b := rfl
  trans hst htu := by
    unfold CallsOnly at *
    rw [htu, hst]

instance keeps_systemCall (call : SystemCall) : Keeps CallsOnly (systemCall P call) := by
  constructor
  intro b
  cases h : P.fails call b.calls with
  | none => rw [exec_systemCall_none h]; rfl
  | some error => rw [exec_systemCall_some h]; rfl

theorem CallsOnly.samePlace {b b' : BundleState κ} (h : CallsOnly b b') : SamePlace b b' := by
  rw [h]
  exact samePlace_of_eq rfl rfl

instance (call : SystemCall) : Keeps SamePlace (systemCall P call) :=
  ⟨fun b => ((keeps_systemCall call).keeps b).samePlace⟩

instance : Keeps SamePlace (now P) := by
  unfold now
  infer_instance

instance (next : Manifest) : Keeps SamePlace (setManifest next : Bundle κ Unit) :=
  keeps_update fun _ => samePlace_of_eq rfl rfl

instance (manifest : Manifest) : Keeps SamePlace (persist P manifest) := by
  unfold persist
  have hstore : Keeps SamePlace (Program.update fun b : BundleState κ =>
      { b with stored := some manifest } : Bundle κ Unit) :=
    keeps_update fun _ => samePlace_of_eq rfl rfl
  refine keeps_then inferInstance fun _ => keeps_then inferInstance fun _ => ?_
  infer_instance

instance keeps_commit (next : Manifest) : Keeps SamePlace (commit P next) := by
  unfold commit
  apply keeps_then inferInstance
  rintro (_ | _) <;> infer_instance

instance : Keeps SamePlace (ensureOpen : Bundle κ Unit) := by
  unfold ensureOpen
  infer_instance

instance : Keeps SamePlace (nextPartialPath : Bundle κ SegmentPath) := by
  unfold nextPartialPath
  infer_instance

instance (sourcePtsUs : Nat) : Keeps SamePlace (markStarted P sourcePtsUs) := by
  unfold markStarted
  infer_instance

instance (reason : String) : Keeps SamePlace (fail P reason) := by
  unfold fail
  infer_instance

instance (reason : GapReason) (source : Option SourceRange) :
    Keeps SamePlace (recordGap P reason source) := by
  unfold recordGap
  infer_instance

instance (call : SystemCall) (path : SegmentPath) : Keeps SamePlace (fileAt P call path) := by
  unfold fileAt
  apply keeps_then inferInstance
  intro _
  apply keeps_then inferInstance
  rintro (_ | _) <;> infer_instance

instance (source target : SegmentPath) : Keeps SamePlace (promote P source target) := by
  unfold promote
  have hpromote : ∀ content : κ, Keeps SamePlace (Program.update fun b : BundleState κ => { b with
      files := Function.update (Function.update b.files source none) target (some content)
      promotions := b.promotions ++ [⟨source, target, content, b.files target⟩] } :
        Bundle κ Unit) :=
    fun _ => keeps_update fun _ => ⟨rfl, List.prefix_append _ _⟩
  infer_instance

instance (expected : SegmentPath) (content : κ) (metadata : SegmentMetadata) :
    Keeps SamePlace (promoteChecked P expected content metadata) := by
  unfold promoteChecked
  refine keeps_then inferInstance fun _ => keeps_then inferInstance fun _ => ?_
  infer_instance

instance (finalized : FinalizedSegment) (metadata : SegmentMetadata) :
    Keeps SamePlace (promoteSegment P finalized metadata) := by
  unfold promoteSegment
  infer_instance

instance (finalized : FinalizedSegment) (metadata : SegmentMetadata) :
    Keeps SamePlace (commitSegmentInner P finalized metadata) := by
  unfold commitSegmentInner
  infer_instance

instance (finalized : FinalizedSegment) (metadata : SegmentMetadata) :
    Keeps SamePlace (commitSegment P finalized metadata) := by
  unfold commitSegment
  apply keeps_then inferInstance
  intro _
  apply keeps_then inferInstance
  rintro (_ | _) <;> infer_instance

instance : Keeps SamePlace (finish P) := by
  unfold finish
  infer_instance

/-- The manifest stays, in memory and on the disk. -/
def SameManifest (b b' : BundleState κ) : Prop :=
  b'.manifest = b.manifest ∧ b'.stored = b.stored

instance : Frame (@SameManifest κ) where
  refl _ := ⟨rfl, rfl⟩
  trans hst htu := ⟨htu.1.trans hst.1, htu.2.trans hst.2⟩

instance (call : SystemCall) : Keeps SameManifest (systemCall P call) := by
  constructor
  intro b
  have hcalls : CallsOnly b (exec (systemCall P call) b).2 := (keeps_systemCall call).keeps b
  rw [hcalls]
  exact ⟨rfl, rfl⟩

instance : Keeps SameManifest (nextPartialPath : Bundle κ SegmentPath) := by
  unfold nextPartialPath ensureOpen
  infer_instance

instance (call : SystemCall) (path : SegmentPath) : Keeps SameManifest (fileAt P call path) := by
  unfold fileAt
  apply keeps_then inferInstance
  intro _
  apply keeps_then inferInstance
  rintro (_ | _) <;> infer_instance

instance (expected : SegmentPath) (content : κ) (metadata : SegmentMetadata) :
    Keeps SameManifest (promoteChecked P expected content metadata) := by
  unfold promoteChecked promote
  have hpromote : ∀ promoted : κ, Keeps SameManifest (Program.update fun b : BundleState κ => { b with
      files := Function.update (Function.update b.files expected none) expected.withMp4
        (some promoted)
      promotions := b.promotions ++
        [⟨expected, expected.withMp4, promoted, b.files expected.withMp4⟩] } : Bundle κ Unit) :=
    fun _ => keeps_update fun _ => ⟨rfl, rfl⟩
  refine keeps_then inferInstance fun _ => keeps_then inferInstance fun _ => ?_
  infer_instance

instance (finalized : FinalizedSegment) (metadata : SegmentMetadata) :
    Keeps SameManifest (promoteSegment P finalized metadata) := by
  unfold promoteSegment
  infer_instance

/-! ## Successors of a manifest -/

/-- `next` is an open manifest of `b` with one more entry, started or failed. -/
inductive Successor (P : Storage κ) (b : BundleState κ) (promotions : List (Promotion κ)) :
    Manifest → Prop
  | started (sourcePtsUs : Nat) (hnew : b.manifest.actualStartPtsUs = none) :
      Successor P b promotions (started b.manifest sourcePtsUs)
  | gap (gap : Gap) : Successor P b promotions (withGap b.manifest gap)
  | segment (segment : Segment) (promotion : Promotion κ) (hpromotion : promotion ∈ promotions)
      (hsource : promotion.source = partialPath b)
      (htarget : promotion.target = (partialPath b).withMp4)
      (hfree : promotion.overwritten = none)
      (hfile : segment.file = "segments/" ++ (partialPath b).withMp4.fileName)
      (hsha : segment.sha256 = P.sha256 promotion.content)
      (hbytes : segment.bytes = P.length promotion.content) :
      Successor P b promotions (withSegment b.manifest segment)
  | failed (reason : String) (nowMs : Nat) :
      Successor P b promotions (failedManifest b.manifest reason nowMs)

/-- How an operation other than a successful `finish` leaves the manifest in memory and on the
disk. -/
inductive Change (P : Storage κ) (b b' : BundleState κ) : Except RecordingError Unit → Prop
  | kept (r : Except RecordingError Unit)
      (hrefused : ∀ error, r = .error error → (state b).terminal = true)
      (hmanifest : b'.manifest = b.manifest) (hstored : b'.stored = b.stored) : Change P b b' r
  | durable (r : Except RecordingError Unit) (next : Manifest)
      (hrefused : ∀ error, r = .error error → next.state = .failed)
      (hopen : (state b).terminal = false) (hnext : Successor P b b'.promotions next)
      (hmanifest : b'.manifest = next) (hstored : b'.stored = some next) : Change P b b' r
  | undone (error : RecordingError) (next : Manifest) (nowMs : Nat)
      (hopen : (state b).terminal = false) (hnext : Successor P b b'.promotions next)
      (hmanifest : b'.manifest = markedFailed next nowMs)
      (hstored : b'.stored = b.stored ∨ b'.stored = some next) : Change P b b' (.error error)

theorem Change.of_committed {b b₁ : BundleState κ} {next : Manifest}
    {out : Except RecordingError Unit × BundleState κ}
    (hopen : (state b).terminal = false) (hstored : b₁.stored = b.stored)
    (hnext : Successor P b out.2.promotions next) (h : Committed P next b₁ out) :
    Change P b out.2 out.1 := by
  cases h with
  | durable hrename hsync =>
      refine .durable _ next ?_ hopen hnext rfl rfl
      intro error h
      exact nomatch h
  | unsynced error nowMs hrename hsync => exact .undone error next nowMs hopen hnext rfl (.inr rfl)
  | lost error nowMs calls hrename => exact .undone error next nowMs hopen hnext rfl (.inl hstored)

theorem commit_change {b : BundleState κ} {next : Manifest} (hopen : (state b).terminal = false)
    (hnext : Successor P b b.promotions next) :
    Change P b (exec (commit P next) b).2 (exec (commit P next) b).1 := by
  have hcommitted := commit_committed (P := P) next b
  generalize exec (commit P next) b = out at hcommitted ⊢
  refine Change.of_committed hopen rfl ?_ hcommitted
  cases hcommitted <;> exact hnext

/-! ## The operations -/

theorem exec_ensureOpen_open {b : BundleState κ} (h : (state b).terminal = false) :
    exec (ensureOpen : Bundle κ Unit) b = (.ok (), b) := by
  unfold ensureOpen
  rw [exec_read_bind, if_neg (by simp [h])]
  rfl

theorem exec_ensureOpen_closed {b : BundleState κ} (h : (state b).terminal = true) :
    exec (ensureOpen : Bundle κ Unit) b =
      (.error (.invalidInput "recording already finalized"), b) := by
  unfold ensureOpen
  rw [exec_read_bind, if_pos h]
  rfl

theorem Change.of_ensureOpen {p : Unit → Bundle κ Unit} {b : BundleState κ}
    (h : (state b).terminal = false → Change P b (exec (p ()) b).2 (exec (p ()) b).1) :
    Change P b (exec (ensureOpen >>= p) b).2 (exec (ensureOpen >>= p) b).1 := by
  cases hterminal : (state b).terminal with
  | true =>
      rw [exec_bind_error (exec_ensureOpen_closed hterminal)]
      exact .kept _ (fun _ _ => hterminal) rfl rfl
  | false =>
      rw [exec_bind_ok (exec_ensureOpen_open hterminal)]
      exact h hterminal

theorem markStarted_change (sourcePtsUs : Nat) (b : BundleState κ) :
    Change P b (exec (markStarted P sourcePtsUs) b).2 (exec (markStarted P sourcePtsUs) b).1 := by
  unfold markStarted
  apply Change.of_ensureOpen
  intro hopen
  rw [exec_read_bind, exec_ite]
  by_cases hstarted : b.manifest.actualStartPtsUs.isSome = true
  · rw [if_pos hstarted]
    exact .kept _ (fun _ h => nomatch h) rfl rfl
  · rw [if_neg hstarted]
    apply commit_change hopen
    exact .started sourcePtsUs (by simpa using hstarted)

theorem fail_change (reason : String) (b : BundleState κ) :
    Change P b (exec (fail P reason) b).2 (exec (fail P reason) b).1 := by
  unfold fail
  rw [exec_read_bind, exec_ite, exec_ite]
  by_cases hfailed : b.manifest.state = .failed
  · rw [if_pos hfailed]
    exact .kept _ (fun _ h => nomatch h) rfl rfl
  · rw [if_neg hfailed]
    by_cases hterminal : b.manifest.state.terminal = true
    · rw [if_pos hterminal]
      exact .kept _ (fun _ _ => hterminal) rfl rfl
    · rw [if_neg hterminal]
      unfold now
      rw [exec_read_bind]
      exact commit_change (by simpa [state] using hterminal) (.failed reason _)

/-- After `fail` on an open bundle the memory says so, whatever the storage did. -/
theorem fail_failed (reason : String) {b : BundleState κ} (hopen : (state b).terminal = false) :
    state (exec (fail P reason) b).2 = .failed := by
  unfold fail
  have hne : b.manifest.state ≠ .failed := by
    intro h
    simp [state, h, RecordingState.terminal] at hopen
  rw [exec_read_bind, if_neg hne, if_neg (by simpa [state] using hopen)]
  unfold now
  rw [exec_read_bind]
  have hcommitted := commit_committed (P := P) (failedManifest b.manifest reason (P.nowMs b.calls)) b
  generalize exec (commit P _) b = out at hcommitted
  cases hcommitted <;> rfl

/-- The same change with another answer, where the new answer is an error only of a bundle that
was closed or has failed. -/
theorem Change.answer {b b' : BundleState κ} {r r' : Except RecordingError Unit}
    {error : RecordingError}
    (h : Change P b b' r) (hopen : (state b).terminal = false) (hfailed : state b' = .failed)
    (hr : r' = .error error) : Change P b b' r' := by
  subst hr
  cases h with
  | kept _ hrefused hmanifest hstored =>
      have : state b' = state b := by simp [state, hmanifest]
      rw [hfailed] at this
      rw [← this] at hopen
      exact nomatch hopen
  | durable _ next hrefused hopen hnext hmanifest hstored =>
      refine .durable _ next (fun _ _ => ?_) hopen hnext hmanifest hstored
      rw [← hfailed, state, hmanifest]
  | undone e next nowMs hopen hnext hmanifest hstored =>
      exact .undone _ next nowMs hopen hnext hmanifest hstored

theorem Successor.rebase {b b₁ : BundleState κ} {promotions : List (Promotion κ)}
    {next : Manifest} (h : Successor P b₁ promotions next) (hsame : b₁.manifest = b.manifest)
    (hpath : b₁.path = b.path) : Successor P b promotions next := by
  have hplace : partialPath b₁ = partialPath b := by rw [partialPath, partialPath, hsame, hpath]
  cases h with
  | started sourcePtsUs hnew =>
      rw [hsame] at hnew ⊢
      exact .started sourcePtsUs hnew
  | gap gap =>
      rw [hsame]
      exact .gap gap
  | segment segment promotion hpromotion hsource htarget hfree hfile hsha hbytes =>
      rw [hplace] at hsource htarget hfile
      rw [hsame]
      exact .segment segment promotion hpromotion hsource htarget hfree hfile hsha hbytes
  | failed reason nowMs =>
      rw [hsame]
      exact .failed reason nowMs

theorem Change.rebase {b b₁ b' : BundleState κ} {r : Except RecordingError Unit}
    (h : Change P b₁ b' r) (hsame : SameManifest b b₁) (hpath : b₁.path = b.path) :
    Change P b b' r := by
  have hstate : state b₁ = state b := congrArg Manifest.state hsame.1
  cases h with
  | kept _ hrefused hmanifest hstored =>
      refine .kept _ ?_ (hmanifest.trans hsame.1) (hstored.trans hsame.2)
      rwa [hstate] at hrefused
  | durable _ next hrefused hopen hnext hmanifest hstored =>
      rw [hstate] at hopen
      exact .durable _ next hrefused hopen (hnext.rebase hsame.1 hpath) hmanifest hstored
  | undone error next nowMs hopen hnext hmanifest hstored =>
      rw [hstate] at hopen
      rw [hsame.2] at hstored
      exact .undone error next nowMs hopen (hnext.rebase hsame.1 hpath) hmanifest hstored

theorem Change.closed {b b' : BundleState κ} {error : RecordingError}
    (h : Change P b b' (.error error)) : (state b').terminal = true := by
  cases h with
  | kept _ hrefused hmanifest hstored =>
      rw [state, hmanifest]
      exact hrefused error rfl
  | durable _ next hrefused hopen hnext hmanifest hstored =>
      rw [state, hmanifest, hrefused error rfl]
      rfl
  | undone _ next nowMs hopen hnext hmanifest hstored =>
      rw [state, hmanifest]
      rfl

theorem recordGap_change (reason : GapReason) (source : Option SourceRange) (b : BundleState κ) :
    Change P b (exec (recordGap P reason source) b).2 (exec (recordGap P reason source) b).1 := by
  unfold recordGap
  apply Change.of_ensureOpen
  intro hopen
  rw [exec_read_bind, exec_ite]
  by_cases hcapacity : maxGaps ≤ b.manifest.gaps.length
  · rw [if_pos hcapacity]
    have hchange := fail_change (P := P) "gap capacity reached" b
    have hfailed := fail_failed (P := P) "gap capacity reached" hopen
    rw [exec_bind]
    cases hexec : exec (fail P "gap capacity reached") b with
    | mk r b' =>
        rw [hexec] at hchange hfailed
        cases r with
        | ok _ => exact hchange.answer hopen hfailed rfl
        | error e => exact hchange
  · rw [if_neg hcapacity]
    exact commit_change hopen (.gap ⟨reason, source⟩)

/-! ## Promotion of a segment -/

/-- What `promoteSegment` answers for a bundle `b`, where it ends in `b'`. -/
structure Promoted (P : Storage κ) (b b' : BundleState κ) (segment : Segment) (content : κ) :
    Prop where
  listed : (⟨partialPath b, (partialPath b).withMp4, content, none⟩ : Promotion κ) ∈ b'.promotions
  file : segment.file = "segments/" ++ (partialPath b).withMp4.fileName
  sha256 : segment.sha256 = P.sha256 content
  bytes : segment.bytes = P.length content

theorem exec_systemCall_ok {call : SystemCall} {b b' : BundleState κ}
    (h : exec (systemCall P call) b = (.ok (), b')) : CallsOnly b b' := by
  have hcalls : CallsOnly b (exec (systemCall P call) b).2 := (keeps_systemCall call).keeps b
  rw [h] at hcalls
  exact hcalls

theorem fileAt_ok {call : SystemCall} {path : SegmentPath} {b b' : BundleState κ} {content : κ}
    (h : exec (fileAt P call path) b = (.ok content, b')) :
    CallsOnly b b' ∧ b.files path = some content := by
  unfold fileAt at h
  obtain ⟨_, b₁, hcall, h⟩ := of_exec_bind_ok h
  have hcalls := exec_systemCall_ok hcall
  rw [exec_read_bind] at h
  have hfiles : b₁.files path = b.files path := by rw [hcalls]
  cases hfile : b₁.files path with
  | none =>
      rw [hfile] at h
      exact nomatch congrArg Prod.fst h
  | some found =>
      rw [hfile] at h
      obtain ⟨rfl, rfl⟩ : found = content ∧ b₁ = b' := by simpa using h
      exact ⟨hcalls, hfiles.symm.trans hfile⟩

theorem promote_ok {source target : SegmentPath} {b b' : BundleState κ}
    (h : exec (promote P source target) b = (.ok (), b')) :
    ∃ content, b.files source = some content ∧ b.files target = none ∧
      b' = { b with
        files := Function.update (Function.update b.files source none) target (some content)
        promotions := b.promotions ++ [⟨source, target, content, none⟩]
        calls := b'.calls } := by
  unfold promote at h
  obtain ⟨content, b₁, hfile, h⟩ := of_exec_bind_ok h
  obtain ⟨hcalls, hcontent⟩ := fileAt_ok hfile
  rw [exec_read_bind, exec_ite] at h
  split at h
  · exact nomatch congrArg Prod.fst h
  · rename_i hfree
    have hnone : b₁.files target = none := by simpa using hfree
    have hb' := (congrArg Prod.snd h).symm
    simp only [exec_update] at hb'
    refine ⟨content, hcontent, ?_, ?_⟩
    · rw [← hnone, hcalls]
    · rw [hb', hnone, hcalls]

theorem promoteChecked_ok {b b₁ b' : BundleState κ} {content : κ} {metadata : SegmentMetadata}
    {segment : Segment} (hcalls : CallsOnly b b₁)
    (hcontent : b.files (partialPath b) = some content)
    (h : exec (promoteChecked P (partialPath b) content metadata) b₁ = (.ok segment, b')) :
    Promoted P b b' segment content ∧ segment.metadata = metadata ∧
      b'.files = Function.update (Function.update b.files (partialPath b) none)
        (partialPath b).withMp4 (some content) := by
  unfold promoteChecked at h
  obtain ⟨_, b₂, h₂, h⟩ := of_exec_bind_ok h
  obtain ⟨_, b₃, h₃, h⟩ := of_exec_bind_ok h
  obtain ⟨_, b₄, h₄, h⟩ := of_exec_bind_ok h
  obtain ⟨_, b₅, hpromote, h⟩ := of_exec_bind_ok h
  obtain ⟨_, b₆, h₆, h⟩ := of_exec_bind_ok h
  have hbefore : CallsOnly b b₄ :=
    Frame.trans hcalls (Frame.trans (exec_systemCall_ok h₂)
      (Frame.trans (exec_systemCall_ok h₃) (exec_systemCall_ok h₄)))
  obtain ⟨promoted, hpromoted, -, hb₅⟩ := promote_ok hpromote
  have hsame : promoted = content := by
    rw [hbefore, hcontent] at hpromoted
    exact (Option.some.inj hpromoted).symm
  obtain ⟨hsegment, rfl⟩ := Prod.mk.inj h
  have hsegment := Except.ok.inj hsegment
  have hafter := exec_systemCall_ok h₆
  subst hsame
  refine ⟨⟨?_, ?_, ?_, ?_⟩, ?_, ?_⟩
  · rw [hafter, hb₅]
    exact List.mem_append_right _ (List.mem_singleton_self _)
  · rw [← hsegment]
  · rw [← hsegment]
  · rw [← hsegment]
  · rw [← hsegment]
  · rw [hafter, hb₅, hbefore]

theorem nextPartialPath_ok {b b' : BundleState κ} {path : SegmentPath}
    (h : exec (nextPartialPath : Bundle κ SegmentPath) b = (.ok path, b')) :
    b' = b ∧ path = partialPath b ∧ (state b).terminal = false := by
  unfold nextPartialPath at h
  cases hterminal : (state b).terminal with
  | true =>
      rw [exec_bind_error (exec_ensureOpen_closed hterminal)] at h
      exact nomatch congrArg Prod.fst h
  | false =>
      rw [exec_bind_ok (exec_ensureOpen_open hterminal), exec_read_bind, exec_ite] at h
      split at h
      · exact nomatch congrArg Prod.fst h
      · obtain ⟨hpath, hb⟩ := Prod.mk.inj h
        exact ⟨hb.symm, (Except.ok.inj hpath).symm, rfl⟩

theorem promoteSegment_ok {finalized : FinalizedSegment} {metadata : SegmentMetadata}
    {b b' : BundleState κ} {segment : Segment}
    (h : exec (promoteSegment P finalized metadata) b = (.ok segment, b')) :
    finalized.path = partialPath b ∧ segment.metadata = metadata ∧
      ∃ content, b.files (partialPath b) = some content ∧ Promoted P b b' segment content ∧
        b'.files = Function.update (Function.update b.files (partialPath b) none)
          (partialPath b).withMp4 (some content) := by
  unfold promoteSegment at h
  obtain ⟨expected, b₁, hnext, h⟩ := of_exec_bind_ok h
  obtain ⟨rfl, rfl, -⟩ := nextPartialPath_ok hnext
  rw [exec_read_bind, exec_ite, exec_ite, exec_ite] at h
  by_cases hpath : finalized.path = partialPath b₁
  · rw [if_neg (not_not.mpr hpath)] at h
    split at h
    · exact nomatch congrArg Prod.fst h
    split at h
    · exact nomatch congrArg Prod.fst h
    obtain ⟨content, b₂, hfile, h⟩ := of_exec_bind_ok h
    obtain ⟨_, b₃, hmetadata, h⟩ := of_exec_bind_ok h
    obtain ⟨hopened, hcontent⟩ := fileAt_ok hfile
    rw [exec_ite] at h
    split at h
    · exact nomatch congrArg Prod.fst h
    obtain ⟨hpromoted, hmeta, hfiles⟩ :=
      promoteChecked_ok (Frame.trans hopened (exec_systemCall_ok hmetadata)) hcontent h
    exact ⟨hpath, hmeta, content, hcontent, hpromoted, hfiles⟩
  · rw [if_pos hpath] at h
    exact nomatch congrArg Prod.fst h

theorem commitSegmentInner_change (finalized : FinalizedSegment) (metadata : SegmentMetadata)
    {b : BundleState κ} (hopen : (state b).terminal = false) :
    (∃ error b', exec (commitSegmentInner P finalized metadata) b = (.error error, b') ∧
      SameManifest b b') ∨
    Change P b (exec (commitSegmentInner P finalized metadata) b).2
      (exec (commitSegmentInner P finalized metadata) b).1 := by
  unfold commitSegmentInner
  have hsame : SameManifest b (exec (promoteSegment P finalized metadata) b).2 := Keeps.keeps b
  rw [exec_bind]
  cases hpromote : exec (promoteSegment P finalized metadata) b with
  | mk result b₁ =>
      rw [hpromote] at hsame
      cases result with
      | error error => exact .inl ⟨error, b₁, rfl, hsame⟩
      | ok segment =>
          obtain ⟨-, -, content, hcontent, hpromoted, -⟩ := promoteSegment_ok hpromote
          refine .inr ?_
          dsimp only
          rw [exec_read_bind, hsame.1]
          have hcommitted := commit_committed (P := P) (withSegment b.manifest segment) b₁
          generalize exec (commit P _) b₁ = out at hcommitted ⊢
          refine Change.of_committed hopen hsame.2 ?_ hcommitted
          refine .segment segment ⟨partialPath b, (partialPath b).withMp4, content, none⟩ ?_ rfl
            rfl rfl hpromoted.file hpromoted.sha256 hpromoted.bytes
          cases hcommitted <;> exact hpromoted.listed

theorem commitSegment_change (finalized : FinalizedSegment) (metadata : SegmentMetadata)
    (b : BundleState κ) :
    Change P b (exec (commitSegment P finalized metadata) b).2
      (exec (commitSegment P finalized metadata) b).1 := by
  unfold commitSegment
  apply Change.of_ensureOpen
  intro hopen
  rw [exec_attempt_bind]
  obtain ⟨error, b₁, hexec, hsame⟩ | hchange :=
    commitSegmentInner_change (P := P) finalized metadata hopen
  · -- Nothing was committed yet, so the failure is.
    have hplace : SamePlace b (exec (commitSegmentInner P finalized metadata) b).2 := Keeps.keeps b
    rw [hexec] at hplace
    have hopen₁ : (state b₁).terminal = false := by rw [state, hsame.1]; exact hopen
    rw [hexec, exec_read_bind, exec_bind, exec_when_true hopen₁, exec_attempt_bind, exec_pure]
    dsimp only
    rw [exec_fail]
    have hfail := fail_change (P := P) "segment commit failed" b₁
    have hfailed := fail_failed (P := P) "segment commit failed" hopen₁
    exact (hfail.rebase hsame hplace.1).answer hopen hfailed rfl
  · -- The commit itself was reached, and after it a failed bundle is closed.
    cases hexec : exec (commitSegmentInner P finalized metadata) b with
    | mk result b₁ =>
        rw [hexec] at hchange
        cases result with
        | ok _ => exact hchange
        | error error =>
            have hterminal : (state b₁).terminal = true := hchange.closed
            dsimp only
            rw [exec_read_bind, exec_bind, exec_when_false (by simp [hterminal])]
            exact hchange

/-! ## Finishing -/

theorem finish_closed {b : BundleState κ} (h : (state b).terminal = true) :
    exec (finish P) b = (.ok (), b) := by
  unfold finish
  rw [exec_read_bind, if_pos (by simpa [state] using h)]
  rfl

theorem finish_empty {b : BundleState κ} (hopen : (state b).terminal = false)
    (hsegments : b.manifest.segments = []) :
    exec (finish P) b = exec (fail P "no finalized video segment") b := by
  unfold finish
  rw [exec_read_bind, if_neg (by simpa [state] using hopen), if_pos hsegments]

theorem finish_committed {b : BundleState κ} (hopen : (state b).terminal = false)
    (hsegments : b.manifest.segments ≠ []) :
    Committed P (finished b.manifest (P.nowMs b.calls)) b (exec (finish P) b) := by
  unfold finish now
  rw [exec_read_bind, if_neg (by simpa [state] using hopen), if_neg hsegments, exec_read_bind]
  exact commit_committed _ b

/-! ## Operations that go well -/

theorem commit_ok {next : Manifest} {b b' : BundleState κ}
    (h : exec (commit P next) b = (.ok (), b')) :
    b' = { b with manifest := next, stored := some next, calls := b'.calls } := by
  have hcommitted := commit_committed (P := P) next b
  rw [h] at hcommitted
  cases hcommitted with
  | durable hrename hsync => rfl

theorem of_ensureOpen_ok {p : Unit → Bundle κ Unit} {b b' : BundleState κ}
    (h : exec (ensureOpen >>= p) b = (.ok (), b')) :
    (state b).terminal = false ∧ exec (p ()) b = (.ok (), b') := by
  cases hterminal : (state b).terminal with
  | true =>
      rw [exec_bind_error (exec_ensureOpen_closed hterminal)] at h
      exact nomatch congrArg Prod.fst h
  | false =>
      rw [exec_bind_ok (exec_ensureOpen_open hterminal)] at h
      exact ⟨rfl, h⟩

theorem markStarted_ok {sourcePtsUs : Nat} {b b' : BundleState κ}
    (h : exec (markStarted P sourcePtsUs) b = (.ok (), b')) :
    b'.files = b.files ∧ b'.path = b.path ∧
      b'.manifest = if b.manifest.actualStartPtsUs = none then started b.manifest sourcePtsUs
        else b.manifest := by
  obtain ⟨-, h⟩ := of_ensureOpen_ok h
  rw [exec_read_bind, exec_ite] at h
  split at h
  · rename_i hstarted
    obtain rfl : b = b' := congrArg Prod.snd h
    rw [if_neg (by intro hnone; rw [hnone] at hstarted; exact nomatch hstarted)]
    exact ⟨rfl, rfl, rfl⟩
  · rename_i hnew
    rw [commit_ok h, if_pos (by simpa using hnew)]
    exact ⟨rfl, rfl, rfl⟩

theorem recordGap_ok {reason : GapReason} {source : Option SourceRange} {b b' : BundleState κ}
    (h : exec (recordGap P reason source) b = (.ok (), b')) :
    b'.files = b.files ∧ b'.path = b.path ∧ b'.manifest = withGap b.manifest ⟨reason, source⟩ := by
  obtain ⟨-, h⟩ := of_ensureOpen_ok h
  rw [exec_read_bind, exec_ite] at h
  split at h
  · obtain ⟨_, _, -, h⟩ := of_exec_bind_ok h
    exact nomatch congrArg Prod.fst h
  · rw [commit_ok h]
    exact ⟨rfl, rfl, rfl⟩

theorem commitSegment_ok {finalized : FinalizedSegment} {metadata : SegmentMetadata}
    {b b' : BundleState κ} (h : exec (commitSegment P finalized metadata) b = (.ok (), b')) :
    ∃ content segment, finalized.path = partialPath b ∧ b.files (partialPath b) = some content ∧
      segment.metadata = metadata ∧ b'.path = b.path ∧
      b'.manifest = withSegment b.manifest segment ∧
      b'.files = Function.update (Function.update b.files (partialPath b) none)
        (partialPath b).withMp4 (some content) := by
  obtain ⟨-, h⟩ := of_ensureOpen_ok h
  rw [exec_attempt_bind] at h
  cases hinner : exec (commitSegmentInner P finalized metadata) b with
  | mk result b₁ =>
      rw [hinner] at h
      cases result with
      | error error =>
          rw [exec_read_bind] at h
          obtain ⟨_, _, -, h⟩ := of_exec_bind_ok h
          exact nomatch congrArg Prod.fst h
      | ok _ =>
          obtain rfl : b₁ = b' := congrArg Prod.snd h
          obtain ⟨segment, b₂, hpromote, hcommit⟩ := of_exec_bind_ok hinner
          have hsame : SameManifest b (exec (promoteSegment P finalized metadata) b).2 :=
            Keeps.keeps b
          have hplace : SamePlace b (exec (promoteSegment P finalized metadata) b).2 :=
            Keeps.keeps b
          rw [hpromote] at hsame hplace
          obtain ⟨hpath, hmetadata, content, hcontent, -, hfiles⟩ := promoteSegment_ok hpromote
          rw [exec_read_bind] at hcommit
          rw [commit_ok hcommit, hsame.1]
          exact ⟨content, segment, hpath, hcontent, hmetadata, hplace.1, rfl, hfiles⟩

theorem finish_ok {b b' : BundleState κ} (h : exec (finish P) b = (.ok (), b')) :
    state b' = .failed ∨ b'.files = b.files ∧ b'.path = b.path ∧
      ((state b).terminal = true ∧ b'.manifest = b.manifest ∨
        (state b).terminal = false ∧ b.manifest.segments ≠ [] ∧
          ∃ nowMs, b'.manifest = finished b.manifest nowMs) := by
  cases hterminal : (state b).terminal with
  | true =>
      rw [finish_closed hterminal] at h
      obtain rfl : b = b' := congrArg Prod.snd h
      exact .inr ⟨rfl, rfl, .inl ⟨rfl, rfl⟩⟩
  | false =>
      by_cases hsegments : b.manifest.segments = []
      · rw [finish_empty hterminal hsegments] at h
        have hfailed := fail_failed (P := P) "no finalized video segment" hterminal
        rw [h] at hfailed
        exact .inl hfailed
      · have hcommitted := finish_committed (P := P) hterminal hsegments
        rw [h] at hcommitted
        cases hcommitted with
        | durable hrename hsync => exact .inr ⟨rfl, rfl, .inr ⟨rfl, hsegments, _, rfl⟩⟩

/-! ## Operations other than `finish` -/

/-- A manifest with which a recording ends well. -/
def Successful (manifest : Manifest) : Prop :=
  manifest.state = .complete ∨ manifest.state = .hasGaps

theorem Successor.not_successful {b : BundleState κ} {promotions : List (Promotion κ)}
    {next : Manifest} (hopen : (state b).terminal = false) (h : Successor P b promotions next) :
    ¬Successful next := by
  have hstate : b.manifest.state ≠ .complete ∧ b.manifest.state ≠ .hasGaps := by
    constructor <;> intro heq <;> rw [state, heq] at hopen <;> exact nomatch hopen
  cases h with
  | started sourcePtsUs hnew => simp [Successful, RecordingBundle.started]
  | gap gap => simpa [Successful, withGap] using hstate
  | segment segment => simpa [Successful, withSegment] using hstate
  | failed reason nowMs => simp [Successful, failedManifest]

theorem Change.not_successful {b b' : BundleState κ} {r : Except RecordingError Unit}
    (h : Change P b b' r) (hnot : ¬Successful b.manifest) : ¬Successful b'.manifest := by
  cases h with
  | kept _ hrefused hmanifest hstored =>
      rw [hmanifest]
      exact hnot
  | durable _ next hrefused hopen hnext hmanifest hstored =>
      rw [hmanifest]
      exact hnext.not_successful hopen
  | undone error next nowMs hopen hnext hmanifest hstored =>
      rw [hmanifest]
      simp [Successful, markedFailed]

theorem not_successful_of_open {b : BundleState κ} (hopen : (state b).terminal = false) :
    ¬Successful b.manifest := by
  rintro (hstate | hstate) <;> rw [state, hstate] at hopen <;> exact nomatch hopen

/-- A recording that is closed stays as it is, and one that is open does not end well. -/
def Advances (b b' : BundleState κ) : Prop :=
  (¬Successful b.manifest → ¬Successful b'.manifest) ∧
    ((state b).terminal = true → b'.manifest = b.manifest)

instance : Frame (@Advances κ) where
  refl _ := ⟨id, fun _ => rfl⟩
  trans := by
    intro s t u hst htu
    refine ⟨fun h => htu.1 (hst.1 h), ?_⟩
    intro hclosed
    have hsame := hst.2 hclosed
    rw [← hsame]
    apply htu.2
    rw [state, hsame]
    exact hclosed

theorem Change.advances {b b' : BundleState κ} {r : Except RecordingError Unit}
    (h : Change P b b' r) : Advances b b' := by
  refine ⟨h.not_successful, ?_⟩
  intro hclosed
  cases h with
  | kept _ hrefused hmanifest hstored => exact hmanifest
  | durable _ next hrefused hopen hnext hmanifest hstored =>
      exact nomatch hopen.symm.trans hclosed
  | undone error next nowMs hopen hnext hmanifest hstored =>
      exact nomatch hopen.symm.trans hclosed

theorem state_failed_of_closed {b : BundleState κ} (hterminal : (state b).terminal = true)
    (hnot : ¬Successful b.manifest) : state b = .failed := by
  cases hstate : state b with
  | failed => rfl
  | complete => exact absurd (.inl hstate) hnot
  | hasGaps => exact absurd (.inr hstate) hnot
  | arming => rw [hstate] at hterminal; exact nomatch hterminal
  | recording => rw [hstate] at hterminal; exact nomatch hterminal

/-- `fail` always leaves a failed bundle, unless the recording ended well before. -/
theorem fail_undecided {reason : String} {b : BundleState κ} (hnot : ¬Successful b.manifest) :
    state (exec (fail P reason) b).2 = .failed := by
  cases hterminal : (state b).terminal with
  | false => exact fail_failed reason hterminal
  | true =>
      have hfailed : b.manifest.state = .failed := state_failed_of_closed hterminal hnot
      unfold fail
      rw [exec_read_bind, if_pos hfailed]
      exact hfailed

theorem fail_closed {reason : String} {b : BundleState κ} (hclosed : (state b).terminal = true) :
    (exec (fail P reason) b).2 = b := by
  unfold fail
  rw [exec_read_bind, exec_ite, exec_ite]
  split
  · rfl
  · rw [if_pos (show b.manifest.state.terminal = true from hclosed)]
    rfl

theorem recordGap_closed {reason : GapReason} {source : Option SourceRange} {b : BundleState κ}
    (hclosed : (state b).terminal = true) : exec (recordGap P reason source) b =
      (.error (.invalidInput "recording already finalized"), b) :=
  exec_bind_error (exec_ensureOpen_closed hclosed)

theorem finished_terminal (manifest : Manifest) (nowMs : Nat) :
    (finished manifest nowMs).state.terminal = true := by
  unfold finished
  dsimp only
  split <;> rfl

theorem finished_complete {manifest : Manifest} {nowMs : Nat} :
    (finished manifest nowMs).state = .complete ↔ manifest.gaps = [] := by
  unfold finished
  dsimp only
  split <;> simp_all

theorem finished_successful (manifest : Manifest) (nowMs : Nat) :
    Successful (finished manifest nowMs) := by
  unfold Successful finished
  dsimp only
  split
  · exact .inl rfl
  · exact .inr rfl

theorem finish_error {b b' : BundleState κ} {error : RecordingError}
    (h : exec (finish P) b = (.error error, b')) : ¬Successful b'.manifest := by
  cases hterminal : (state b).terminal with
  | true =>
      rw [finish_closed hterminal] at h
      exact nomatch congrArg Prod.fst h
  | false =>
      by_cases hsegments : b.manifest.segments = []
      · rw [finish_empty hterminal hsegments] at h
        have hchange := fail_change (P := P) "no finalized video segment" b
        rw [h] at hchange
        exact hchange.not_successful (not_successful_of_open hterminal)
      · have hcommitted := finish_committed (P := P) hterminal hsegments
        rw [h] at hcommitted
        cases hcommitted <;> simp [Successful, markedFailed]

theorem create_ok {parent name : String} {mode : RecordingMode} {b b' : BundleState κ}
    (h : exec (create P parent name mode) b = (.ok (), b')) :
    ∃ manifest, manifest.state = .arming ∧ manifest.actualStartPtsUs = none ∧
      manifest.segments = [] ∧ b'.manifest = manifest ∧
      b'.stored = some manifest := by
  unfold create at h
  obtain ⟨_, b₁, -, h⟩ := of_exec_bind_ok h
  obtain ⟨_, b₂, -, h⟩ := of_exec_bind_ok h
  obtain ⟨_, b₃, -, h⟩ := of_exec_bind_ok h
  unfold now at h
  rw [exec_read_bind, exec_update_bind] at h
  have hpersisted := persist_persisted (P := P) (newManifest P name mode (P.nowMs b₃.calls))
    { b₃ with
      path := parent ++ "/" ++ name
      manifest := newManifest P name mode (P.nowMs b₃.calls)
      stored := none
      files := fun _ => none
      promotions := [] }
  rw [h] at hpersisted
  cases hpersisted with
  | durable hrename hsync => exact ⟨_, rfl, rfl, rfl, rfl, rfl⟩

end RecordingBundle

end PicooCamera.Recording
