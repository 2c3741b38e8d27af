import PicooCamera.Library.BigEndian
import PicooCamera.Library.TransitionSystem

/-!
# Replacing a file

`atomic_replace`, as any number of processes and threads call it on one path. Each system call
is a step of its caller, which may fail. A process may be killed between any two of them, and
the power may fail.
-/

namespace PicooCamera.Pairing

open PicooCamera.Library

/-- The process id and the sequence number in the name of a temporary file. -/
structure TemporaryName where
  process : Nat
  sequence : UInt64
  deriving DecidableEq, Repr

structure StoredFile where
  contents : Bytes
  /-- `sync_all` has returned since the last write. -/
  synced : Bool
  deriving DecidableEq, Repr

inductive ReplacePhase where
  | creatingDirectory
  | drawing (attempts : Nat)
  | opening (temporary : TemporaryName) (attempts : Nat)
  | writing (temporary : TemporaryName)
  | syncing (temporary : TemporaryName)
  | replacing (temporary : TemporaryName)
  | removing (temporary : TemporaryName)
  | syncingDirectory
  | finished (ok : Bool)
  | killed
  deriving DecidableEq, Repr

namespace ReplacePhase

/-- The temporary file that a call has created and not yet renamed. -/
def temporary? : ReplacePhase → Option TemporaryName
  | writing temporary => some temporary
  | syncing temporary => some temporary
  | replacing temporary => some temporary
  | removing temporary => some temporary
  | _ => none

/-- The rename has succeeded. -/
def renamed : ReplacePhase → Bool
  | syncingDirectory => true
  | finished ok => ok
  | _ => false

/-- The rename has not been made. -/
def pending : ReplacePhase → Bool
  | syncingDirectory => false
  | finished ok => !ok
  | killed => false
  | _ => true

def kill : ReplacePhase → ReplacePhase
  | finished ok => finished ok
  | _ => killed

end ReplacePhase

structure ReplaceCall where
  process : Nat
  contents : Bytes
  phase : ReplacePhase
  deriving DecidableEq, Repr

structure FileSystem where
  /-- What the path held before the first call. -/
  initial : Option Bytes
  /-- The files that were renamed to the path, by their call, the last one last. -/
  renames : List (Nat × StoredFile)
  /-- So many of them outlast a power failure. -/
  settled : Nat
  temporaries : TemporaryName → Option StoredFile
  /-- `TEMP_FILE_SEQUENCE` of each process. -/
  sequences : Nat → UInt64
  calls : List ReplaceCall
  /-- The calls whose rename a power failure has undone. -/
  undone : List Nat

inductive ReplaceLabel where
  | begin (process : Nat) (contents : Bytes)
  /-- A system call succeeds or fails; a write that fails has written so many bytes. -/
  | system (call : Nat) (ok : Bool) (written : Nat)
  | kill (process : Nat)
  /-- So many renames were durable, the other files are arbitrary, and `torn` is what is left of
  a file that was not synced. -/
  | powerFailure (durable : Nat) (temporaries : TemporaryName → Option StoredFile) (torn : Bytes)

namespace FileSystem

variable (fs : FileSystem)

def start (initial : Option Bytes) : FileSystem where
  initial := initial
  renames := []
  settled := 0
  temporaries := fun _ => none
  sequences := fun _ => 0
  calls := []
  undone := []

/-- What the path holds. -/
def target : Option Bytes :=
  fs.renames.getLast?.elim fs.initial fun rename => some rename.2.contents

def setPhase (call : Nat) (phase : ReplacePhase) : FileSystem :=
  { fs with calls := fs.calls.modify call fun c => { c with phase := phase } }

def setTemporary (temporary : TemporaryName) (file : Option StoredFile) : FileSystem :=
  { fs with temporaries := Function.update fs.temporaries temporary file }

/-- `create_temporary_file`, in two steps for each of its attempts. -/
def draw (call process attempts : Nat) : FileSystem :=
  if attempts = 0 then fs.setPhase call (.finished false)
  else
    { fs with
      sequences := Function.update fs.sequences process (fs.sequences process + 1) }.setPhase call
        (.opening ⟨process, fs.sequences process⟩ (attempts - 1))

def openNew (call : Nat) (temporary : TemporaryName) (attempts : Nat) (ok : Bool) : FileSystem :=
  if (fs.temporaries temporary).isSome then fs.setPhase call (.drawing attempts)
  else if ok then
    (fs.setTemporary temporary (some ⟨[], false⟩)).setPhase call (.writing temporary)
  else fs.setPhase call (.finished false)

def write (call : Nat) (contents : Bytes) (temporary : TemporaryName) (ok : Bool)
    (written : Nat) : FileSystem :=
  if ok then
    (fs.setTemporary temporary (some ⟨contents, false⟩)).setPhase call (.syncing temporary)
  else
    (fs.setTemporary temporary (some ⟨contents.take written, false⟩)).setPhase call
      (.removing temporary)

def sync (call : Nat) (temporary : TemporaryName) (ok : Bool) : FileSystem :=
  if ok then
    (fs.setTemporary temporary ((fs.temporaries temporary).map fun file =>
      { file with synced := true })).setPhase call (.replacing temporary)
  else fs.setPhase call (.removing temporary)

def rename (call : Nat) (temporary : TemporaryName) (ok : Bool) : FileSystem :=
  match (fs.temporaries temporary).filter fun _ => ok with
  | some file =>
      { fs.setTemporary temporary none with renames := fs.renames ++ [(call, file)] }.setPhase call
        .syncingDirectory
  | none => fs.setPhase call (.removing temporary)

def remove (call : Nat) (temporary : TemporaryName) (ok : Bool) : FileSystem :=
  (if ok then fs.setTemporary temporary none else fs).setPhase call (.finished false)

def syncDirectory (call : Nat) (ok : Bool) : FileSystem :=
  (if ok then { fs with settled := fs.renames.length } else fs).setPhase call (.finished true)

def system (call : Nat) (ok : Bool) (written : Nat) : FileSystem :=
  match fs.calls[call]? with
  | none => fs
  | some c =>
      match c.phase with
      | .creatingDirectory => fs.setPhase call (if ok then .drawing 32 else .finished false)
      | .drawing attempts => fs.draw call c.process attempts
      | .opening temporary attempts => fs.openNew call temporary attempts ok
      | .writing temporary => fs.write call c.contents temporary ok written
      | .syncing temporary => fs.sync call temporary ok
      | .replacing temporary => fs.rename call temporary ok
      | .removing temporary => fs.remove call temporary ok
      | .syncingDirectory => fs.syncDirectory call ok
      | .finished _ => fs
      | .killed => fs

def killAll (killed : ReplaceCall → Bool) : FileSystem :=
  { fs with
    calls := fs.calls.map fun c => if killed c then { c with phase := c.phase.kill } else c }

def powerFailure (durable : Nat) (temporaries : TemporaryName → Option StoredFile)
    (torn : Bytes) : FileSystem :=
  let lasting := max durable fs.settled
  { fs.killAll fun _ => true with
    renames := (fs.renames.take lasting).map fun rename =>
      if rename.2.synced then rename else (rename.1, ⟨torn, true⟩)
    settled := min lasting fs.renames.length
    temporaries := temporaries
    sequences := fun _ => 0
    undone := fs.undone ++ (fs.renames.drop lasting).map Prod.fst }

def next : ReplaceLabel → FileSystem
  | .begin process contents =>
      { fs with calls := fs.calls ++ [⟨process, contents, .creatingDirectory⟩] }
  | .system call ok written => fs.system call ok written
  | .kill process =>
      { fs.killAll fun c => c.process = process with
        sequences := Function.update fs.sequences process 0 }
  | .powerFailure durable temporaries torn => fs.powerFailure durable temporaries torn

end FileSystem

def fileSystem (initial : Option Bytes) : TransitionSystem FileSystem ReplaceLabel :=
  .ofFunction (.start initial) FileSystem.next

/-! ## Invariant -/

/-- What a temporary file holds once it is written, and once it is synced. -/
def Holds (contents : Bytes) (file : StoredFile) : ReplacePhase → Prop
  | .syncing _ => file.contents = contents
  | .replacing _ => file.contents = contents ∧ file.synced = true
  | _ => True

structure Whole (fs : FileSystem) : Prop where
  renames : ∀ rename ∈ fs.renames, rename.2.synced = true ∧
    ∃ c, fs.calls[rename.1]? = some c ∧ c.contents = rename.2.contents ∧ c.phase.pending = false
  undone : ∀ i ∈ fs.undone, ∃ c, fs.calls[i]? = some c ∧ c.phase.pending = false
  returned : ∀ (i : Nat) (c : ReplaceCall), fs.calls[i]? = some c → c.phase.renamed = true →
    i ∈ fs.renames.map Prod.fst ∨ i ∈ fs.undone
  owns : ∀ (i : Nat) (c : ReplaceCall) temporary, fs.calls[i]? = some c →
    c.phase.temporary? = some temporary →
    ∃ file, fs.temporaries temporary = some file ∧ Holds c.contents file c.phase
  apart : ∀ (i j : Nat) (c d : ReplaceCall) temporary, fs.calls[i]? = some c →
    fs.calls[j]? = some d → c.phase.temporary? = some temporary → d.phase.temporary? = some temporary → i = j
  settled : fs.settled ≤ fs.renames.length

namespace Whole

variable {fs fs' : FileSystem} {i : Nat} {c : ReplaceCall} {p : ReplacePhase}

theorem start (initial : Option Bytes) : Whole (.start initial) where
  renames _ hmem := nomatch hmem
  undone _ hmem := nomatch hmem
  returned _ _ hcall := nomatch hcall
  owns _ _ _ hcall := nomatch hcall
  apart _ _ _ _ _ hcall := nomatch hcall
  settled := le_rfl

/-- What a system call may do: it moves its own call on, and touches no temporary file but the
one of the call, or one that was not there. -/
structure Moves (fs fs' : FileSystem) (i : Nat) (c : ReplaceCall) (p : ReplacePhase) : Prop where
  calls : fs'.calls = fs.calls.modify i fun c => { c with phase := p }
  undone : fs'.undone = fs.undone
  settled : fs'.settled ≤ fs'.renames.length
  renames : fs'.renames = fs.renames ∨ ∃ file, fs'.renames = fs.renames ++ [(i, file)] ∧
    file.synced = true ∧ file.contents = c.contents ∧ p.pending = false
  pending : c.phase.pending = false → p.pending = false
  returned : p.renamed = true → c.phase.renamed = true ∨ i ∈ fs'.renames.map Prod.fst
  owns : ∀ temporary, p.temporary? = some temporary →
    (∃ file, fs'.temporaries temporary = some file ∧ Holds c.contents file p) ∧
      (c.phase.temporary? = some temporary ∨ fs.temporaries temporary = none)
  others : ∀ temporary, fs.temporaries temporary ≠ none → c.phase.temporary? ≠ some temporary →
    fs'.temporaries temporary = fs.temporaries temporary

theorem moves (h : Whole fs) (hc : fs.calls[i]? = some c) (hmoves : Moves fs fs' i c p) :
    Whole fs' := by
  have hself : fs'.calls[i]? = some { c with phase := p } := by
    rw [hmoves.calls, List.getElem?_modify_eq, hc]
    rfl
  have hother : ∀ j, j ≠ i → fs'.calls[j]? = fs.calls[j]? := by
    intro j hj
    rw [hmoves.calls, List.getElem?_modify_ne _ _ hj.symm]
  have hsettles : ∀ (j : Nat) (d : ReplaceCall), fs.calls[j]? = some d → d.phase.pending = false →
      ∃ e : ReplaceCall, fs'.calls[j]? = some e ∧ e.contents = d.contents ∧
        e.phase.pending = false := by
    intro j d hd hpending
    by_cases hj : j = i
    · subst hj
      cases hc.symm.trans hd
      exact ⟨_, hself, rfl, hmoves.pending hpending⟩
    · exact ⟨d, (hother j hj).trans hd, rfl, hpending⟩
  have hkept : ∀ j ∈ fs.renames.map Prod.fst, j ∈ fs'.renames.map Prod.fst := by
    intro j hj
    rcases hmoves.renames with hsame | ⟨file, hgrown, _⟩
    · rw [hsame]
      exact hj
    · rw [hgrown, List.map_append]
      exact List.mem_append_left _ hj
  constructor
  case renames =>
    intro rename hmem
    have hold : ∀ rename ∈ fs.renames, rename.2.synced = true ∧ ∃ e : ReplaceCall,
        fs'.calls[rename.1]? = some e ∧ e.contents = rename.2.contents ∧
          e.phase.pending = false := by
      intro rename hmem
      obtain ⟨hsynced, d, hd, hcontents, hpending⟩ := h.renames rename hmem
      obtain ⟨e, he, hsame, hsettled⟩ := hsettles _ d hd hpending
      exact ⟨hsynced, e, he, hsame.trans hcontents, hsettled⟩
    rcases hmoves.renames with hsame | ⟨file, hgrown, hsynced, hcontents, hpending⟩
    · exact hold rename (hsame ▸ hmem)
    · rw [hgrown] at hmem
      rcases List.mem_append.mp hmem with hmem | hmem
      · exact hold rename hmem
      · rw [List.mem_singleton.mp hmem]
        exact ⟨hsynced, _, hself, hcontents.symm, hpending⟩
  case undone =>
    intro j hj
    obtain ⟨d, hd, hpending⟩ := h.undone j (hmoves.undone ▸ hj)
    obtain ⟨e, he, _, hsettled⟩ := hsettles j d hd hpending
    exact ⟨e, he, hsettled⟩
  case returned =>
    intro j d hd hrenamed
    rw [hmoves.undone]
    by_cases hj : j = i
    · subst hj
      cases hself.symm.trans hd
      rcases hmoves.returned hrenamed with hearlier | hnow
      · exact (h.returned j c hc hearlier).imp_left (hkept j)
      · exact .inl hnow
    · exact (h.returned j d ((hother j hj).symm.trans hd) hrenamed).imp_left (hkept j)
  case owns =>
    intro j d temporary hd htemporary
    by_cases hj : j = i
    · subst hj
      cases hself.symm.trans hd
      exact (hmoves.owns temporary htemporary).1
    · have hd' := (hother j hj).symm.trans hd
      obtain ⟨file, hfile, hholds⟩ := h.owns j d temporary hd' htemporary
      refine ⟨file, ?_, hholds⟩
      rw [hmoves.others temporary (by rw [hfile]; exact Option.some_ne_none file) fun hown =>
        hj (h.apart j i d c temporary hd' hc htemporary hown)]
      exact hfile
  case apart =>
    have hnew : ∀ (j : Nat) (d : ReplaceCall) temporary, j ≠ i → fs.calls[j]? = some d →
        d.phase.temporary? = some temporary → p.temporary? ≠ some temporary := by
      intro j d temporary hj hd htemporary hp
      rcases (hmoves.owns temporary hp).2 with hown | hfree
      · exact hj (h.apart j i d c temporary hd hc htemporary hown)
      · obtain ⟨file, hfile, _⟩ := h.owns j d temporary hd htemporary
        rw [hfree] at hfile
        cases hfile
    intro j k d e temporary hd he htemporary htemporary'
    by_cases hj : j = i
    · by_cases hk : k = i
      · rw [hj, hk]
      · subst hj
        cases hself.symm.trans hd
        exact absurd htemporary
          (hnew k e temporary hk ((hother k hk).symm.trans he) htemporary')
    · by_cases hk : k = i
      · subst hk
        cases hself.symm.trans he
        exact absurd htemporary'
          (hnew j d temporary hj ((hother j hj).symm.trans hd) htemporary)
      · exact h.apart j k d e temporary ((hother j hj).symm.trans hd)
          ((hother k hk).symm.trans he) htemporary htemporary'
  case settled => exact hmoves.settled

/-! ## System calls -/

theorem setPhase (h : Whole fs) (hc : fs.calls[i]? = some c)
    (hpending : c.phase.pending = false → p.pending = false)
    (hrenamed : p.renamed = true → c.phase.renamed = true)
    (htemporary : ∀ temporary, p.temporary? = some temporary →
      c.phase.temporary? = some temporary ∧ ∀ file, Holds c.contents file p) :
    Whole (fs.setPhase i p) := by
  refine h.moves hc ⟨rfl, rfl, h.settled, .inl rfl, hpending, fun hr => .inl (hrenamed hr),
    fun temporary hown => ?_, fun _ _ _ => rfl⟩
  obtain ⟨hbefore, hholds⟩ := htemporary temporary hown
  obtain ⟨file, hfile, _⟩ := h.owns i c temporary hc hbefore
  exact ⟨⟨file, hfile, hholds file⟩, .inl hbefore⟩

theorem setPhase_free (h : Whole fs) (hc : fs.calls[i]? = some c)
    (hpending : c.phase.pending = false → p.pending = false)
    (hrenamed : p.renamed = true → c.phase.renamed = true) (hnone : p.temporary? = none) :
    Whole (fs.setPhase i p) :=
  h.setPhase hc hpending hrenamed fun _ hown => nomatch hnone.symm.trans hown

theorem setTemporary (h : Whole fs) (hc : fs.calls[i]? = some c) {temporary : TemporaryName}
    {file : StoredFile} (hown : p.temporary? = some temporary) (hholds : Holds c.contents file p)
    (hpending : c.phase.pending = false → p.pending = false) (hrenamed : p.renamed = false)
    (hbefore : c.phase.temporary? = some temporary ∨ fs.temporaries temporary = none) :
    Whole ((fs.setTemporary temporary (some file)).setPhase i p) := by
  refine h.moves hc ⟨rfl, rfl, h.settled, .inl rfl, hpending,
    (fun hr => nomatch hrenamed.symm.trans hr), fun other hother => ?_, fun other hsome hnot => ?_⟩
  · cases hown.symm.trans hother
    exact ⟨⟨file, Function.update_self .., hholds⟩, hbefore⟩
  · refine Function.update_of_ne (fun hsame => ?_) _ _
    subst hsame
    rcases hbefore with hbefore | hfree
    · exact hnot hbefore
    · exact hsome hfree

theorem draw (h : Whole fs) (hc : fs.calls[i]? = some c) {attempts : Nat}
    (hphase : c.phase = .drawing attempts) : Whole (fs.draw i c.process attempts) := by
  have hpending : c.phase.pending = false → False := by
    rw [hphase]
    exact fun hp => nomatch hp
  unfold FileSystem.draw
  split
  · exact h.setPhase_free hc (fun hp => (hpending hp).elim) (fun hr => nomatch hr) rfl
  · exact h.moves hc ⟨rfl, rfl, h.settled, .inl rfl, fun hp => (hpending hp).elim,
      (fun hr => nomatch hr), (fun _ hown => nomatch hown), fun _ _ _ => rfl⟩

theorem openNew (h : Whole fs) (hc : fs.calls[i]? = some c) {temporary : TemporaryName}
    {attempts : Nat} (hphase : c.phase = .opening temporary attempts) (ok : Bool) :
    Whole (fs.openNew i temporary attempts ok) := by
  have hpending : c.phase.pending = false → False := by
    rw [hphase]
    exact fun hp => nomatch hp
  unfold FileSystem.openNew
  split
  · exact h.setPhase_free hc (fun hp => (hpending hp).elim) (fun hr => nomatch hr) rfl
  · rename_i hfree
    split
    · exact h.setTemporary hc rfl trivial (fun hp => (hpending hp).elim) rfl
        (.inr (Option.not_isSome_iff_eq_none.mp hfree))
    · exact h.setPhase_free hc (fun hp => (hpending hp).elim) (fun hr => nomatch hr) rfl

theorem write (h : Whole fs) (hc : fs.calls[i]? = some c) {temporary : TemporaryName}
    (hphase : c.phase = .writing temporary) (ok : Bool) (written : Nat) :
    Whole (fs.write i c.contents temporary ok written) := by
  have hpending : c.phase.pending = false → False := by
    rw [hphase]
    exact fun hp => nomatch hp
  have hown : c.phase.temporary? = some temporary := by rw [hphase]; rfl
  unfold FileSystem.write
  split
  · exact h.setTemporary hc rfl rfl (fun hp => (hpending hp).elim) rfl (.inl hown)
  · exact h.setTemporary hc rfl trivial (fun hp => (hpending hp).elim) rfl (.inl hown)

theorem sync (h : Whole fs) (hc : fs.calls[i]? = some c) {temporary : TemporaryName}
    (hphase : c.phase = .syncing temporary) (ok : Bool) : Whole (fs.sync i temporary ok) := by
  have hpending : c.phase.pending = false → False := by
    rw [hphase]
    exact fun hp => nomatch hp
  have hown : c.phase.temporary? = some temporary := by rw [hphase]; rfl
  unfold FileSystem.sync
  split
  · obtain ⟨file, hfile, hholds⟩ := h.owns i c temporary hc hown
    rw [hphase] at hholds
    rw [hfile]
    exact h.setTemporary hc rfl ⟨hholds, rfl⟩ (fun hp => (hpending hp).elim) rfl (.inl hown)
  · refine h.setPhase hc (fun hp => (hpending hp).elim) (fun hr => nomatch hr)
      fun other hother => ?_
    cases hother
    exact ⟨hown, fun _ => trivial⟩

theorem rename (h : Whole fs) (hc : fs.calls[i]? = some c) {temporary : TemporaryName}
    (hphase : c.phase = .replacing temporary) (ok : Bool) : Whole (fs.rename i temporary ok) := by
  have hpending : c.phase.pending = false → False := by
    rw [hphase]
    exact fun hp => nomatch hp
  have hown : c.phase.temporary? = some temporary := by rw [hphase]; rfl
  obtain ⟨file, hfile, hholds⟩ := h.owns i c temporary hc hown
  rw [hphase] at hholds
  unfold FileSystem.rename
  rw [hfile]
  cases ok with
  | true =>
      refine h.moves hc ⟨rfl, rfl, ?_, .inr ⟨file, rfl, hholds.2, hholds.1, rfl⟩, fun _ => rfl,
        fun _ => .inr ?_, (fun _ hnone => nomatch hnone), fun other _ hnot => ?_⟩
      · change fs.settled ≤ (fs.renames ++ [(i, file)]).length
        rw [List.length_append]
        exact h.settled.trans (Nat.le_add_right _ _)
      · change i ∈ (fs.renames ++ [(i, file)]).map Prod.fst
        rw [List.map_append]
        exact List.mem_append_right _ (List.mem_singleton_self i)
      · exact Function.update_of_ne (fun hsame : other = temporary => hnot (hsame ▸ hown)) _ _
  | false =>
      refine h.setPhase hc (fun hp => (hpending hp).elim) (fun hr => nomatch hr)
        fun other hother => ?_
      cases hother
      exact ⟨hown, fun _ => trivial⟩

theorem remove (h : Whole fs) (hc : fs.calls[i]? = some c) {temporary : TemporaryName}
    (hphase : c.phase = .removing temporary) (ok : Bool) : Whole (fs.remove i temporary ok) := by
  have hpending : c.phase.pending = false → False := by
    rw [hphase]
    exact fun hp => nomatch hp
  have hown : c.phase.temporary? = some temporary := by rw [hphase]; rfl
  unfold FileSystem.remove
  cases ok with
  | true =>
      exact h.moves hc ⟨rfl, rfl, h.settled, .inl rfl, fun hp => (hpending hp).elim,
        (fun hr => nomatch hr), (fun _ hnone => nomatch hnone), fun other _ hnot =>
          Function.update_of_ne (fun hsame : other = temporary => hnot (hsame ▸ hown)) _ _⟩
  | false => exact h.setPhase_free hc (fun hp => (hpending hp).elim) (fun hr => nomatch hr) rfl

theorem syncDirectory (h : Whole fs) (hc : fs.calls[i]? = some c)
    (hphase : c.phase = .syncingDirectory) (ok : Bool) : Whole (fs.syncDirectory i ok) := by
  have hrenamed : c.phase.renamed = true := by rw [hphase]; rfl
  unfold FileSystem.syncDirectory
  cases ok with
  | true =>
      exact h.moves hc ⟨rfl, rfl, le_rfl, .inl rfl, fun _ => rfl, fun _ => .inl hrenamed,
        (fun _ hnone => nomatch hnone), fun _ _ _ => rfl⟩
  | false => exact h.setPhase_free hc (fun _ => rfl) (fun _ => hrenamed) rfl

theorem system (h : Whole fs) (call : Nat) (ok : Bool) (written : Nat) :
    Whole (fs.system call ok written) := by
  unfold FileSystem.system
  split
  · exact h
  · rename_i c hc
    split
    · rename_i hphase
      refine h.setPhase_free hc (fun hp => ?_) (fun hr => ?_) ?_
      · rw [hphase] at hp
        cases hp
      · cases ok with
        | true => cases hr
        | false => cases hr
      · cases ok with
        | true => rfl
        | false => rfl
    · rename_i attempts hphase
      exact h.draw hc hphase
    · rename_i temporary attempts hphase
      exact h.openNew hc hphase ok
    · rename_i temporary hphase
      exact h.write hc hphase ok written
    · rename_i temporary hphase
      exact h.sync hc hphase ok
    · rename_i temporary hphase
      exact h.rename hc hphase ok
    · rename_i temporary hphase
      exact h.remove hc hphase ok
    · rename_i hphase
      exact h.syncDirectory hc hphase ok
    · exact h
    · exact h

/-! ## Failures -/

theorem kill_pending (h : p.pending = false) : p.kill.pending = false := by
  cases p with
  | finished ok => exact h
  | syncingDirectory => rfl
  | killed => rfl
  | creatingDirectory => cases h
  | drawing => cases h
  | opening => cases h
  | writing => cases h
  | syncing => cases h
  | replacing => cases h
  | removing => cases h

theorem kill_renamed (h : p.kill.renamed = true) : p.renamed = true := by
  cases p with
  | finished ok => exact h
  | syncingDirectory => rfl
  | killed => cases h
  | creatingDirectory => cases h
  | drawing => cases h
  | opening => cases h
  | writing => cases h
  | syncing => cases h
  | replacing => cases h
  | removing => cases h

theorem kill_temporary (p : ReplacePhase) : p.kill.temporary? = none := by
  cases p with
  | finished ok => rfl
  | syncingDirectory => rfl
  | killed => rfl
  | creatingDirectory => rfl
  | drawing => rfl
  | opening => rfl
  | writing => rfl
  | syncing => rfl
  | replacing => rfl
  | removing => rfl

variable {killed : ReplaceCall → Bool}

theorem killAll_call (hc : (fs.killAll killed).calls[i]? = some c) :
    ∃ d, fs.calls[i]? = some d ∧ c = if killed d then { d with phase := d.phase.kill } else d := by
  change (fs.calls.map fun c => if killed c then { c with phase := c.phase.kill } else c)[i]? =
    some c at hc
  rw [List.getElem?_map] at hc
  obtain ⟨d, hd, hkilled⟩ := Option.map_eq_some_iff.mp hc
  exact ⟨d, hd, hkilled.symm⟩

theorem killAll_settles (hd : fs.calls[i]? = some c) (hpending : c.phase.pending = false) :
    ∃ d, (fs.killAll killed).calls[i]? = some d ∧ d.contents = c.contents ∧
      d.phase.pending = false := by
  refine ⟨if killed c then { c with phase := c.phase.kill } else c, ?_, ?_, ?_⟩
  · change (fs.calls.map fun c => if killed c then { c with phase := c.phase.kill } else c)[i]? = _
    rw [List.getElem?_map, hd]
    rfl
  · split
    · rfl
    · rfl
  · split
    · exact kill_pending hpending
    · exact hpending

theorem killAll (h : Whole fs) (killed : ReplaceCall → Bool) : Whole (fs.killAll killed) where
  renames rename hmem := by
    obtain ⟨hsynced, c, hc, hcontents, hpending⟩ := h.renames rename hmem
    obtain ⟨d, hd, hsame, hsettled⟩ := killAll_settles hc hpending
    exact ⟨hsynced, d, hd, hsame.trans hcontents, hsettled⟩
  undone i hi := by
    obtain ⟨c, hc, hpending⟩ := h.undone i hi
    obtain ⟨d, hd, _, hsettled⟩ := killAll_settles hc hpending
    exact ⟨d, hd, hsettled⟩
  returned i c hc hrenamed := by
    obtain ⟨d, hd, rfl⟩ := killAll_call hc
    split at hrenamed
    · exact h.returned i d hd (kill_renamed hrenamed)
    · exact h.returned i d hd hrenamed
  owns i c temporary hc hown := by
    obtain ⟨d, hd, rfl⟩ := killAll_call hc
    split at hown
    · exact nomatch (kill_temporary d.phase).symm.trans hown
    · rename_i halive
      rw [if_neg halive]
      exact h.owns i d temporary hd hown
  apart i j c d temporary hc hd hown hown' := by
    obtain ⟨c', hc', rfl⟩ := killAll_call hc
    obtain ⟨d', hd', rfl⟩ := killAll_call hd
    split at hown
    · exact nomatch (kill_temporary c'.phase).symm.trans hown
    · split at hown'
      · exact nomatch (kill_temporary d'.phase).symm.trans hown'
      · exact h.apart i j c' d' temporary hc' hd' hown hown'
  settled := h.settled

theorem map_torn (h : Whole fs) (torn : Bytes) (n : Nat) :
    ((fs.renames.take n).map fun rename =>
      if rename.2.synced then rename else (rename.1, (⟨torn, true⟩ : StoredFile))) =
      fs.renames.take n := by
  conv_rhs => rw [← List.map_id (fs.renames.take n)]
  refine List.map_congr_left fun rename hmem => ?_
  exact if_pos (h.renames rename (List.mem_of_mem_take hmem)).1

theorem powerFailure (h : Whole fs) (durable : Nat)
    (temporaries : TemporaryName → Option StoredFile) (torn : Bytes) :
    Whole (fs.powerFailure durable temporaries torn) := by
  have hkilled : Whole (fs.killAll fun _ => true) := h.killAll _
  have hnone : ∀ (i : Nat) (c : ReplaceCall) temporary,
      (fs.killAll fun _ => true).calls[i]? = some c → c.phase.temporary? ≠ some temporary := by
    intro i c temporary hc hown
    obtain ⟨d, _, rfl⟩ := killAll_call hc
    rw [if_pos rfl] at hown
    exact nomatch (kill_temporary d.phase).symm.trans hown
  unfold FileSystem.powerFailure
  dsimp only
  rw [h.map_torn]
  constructor
  case renames => exact fun rename hmem => hkilled.renames rename (List.mem_of_mem_take hmem)
  case undone =>
    intro i hi
    rcases List.mem_append.mp hi with hi | hi
    · exact hkilled.undone i hi
    · obtain ⟨rename, hmem, rfl⟩ := List.mem_map.mp hi
      obtain ⟨_, c, hc, _, hpending⟩ := hkilled.renames rename (List.mem_of_mem_drop hmem)
      exact ⟨c, hc, hpending⟩
  case returned =>
    intro i c hc hrenamed
    rcases hkilled.returned i c hc hrenamed with hi | hi
    · change i ∈ fs.renames.map Prod.fst at hi
      rw [← List.take_append_drop (max durable fs.settled) fs.renames, List.map_append] at hi
      rcases List.mem_append.mp hi with hi | hi
      · exact .inl hi
      · exact .inr (List.mem_append_right _ hi)
    · exact .inr (List.mem_append_left _ hi)
  case owns => exact fun i c temporary hc hown => (hnone i c temporary hc hown).elim
  case apart => exact fun i j c d temporary hc _ hown _ => (hnone i c temporary hc hown).elim
  case settled => exact (List.length_take ..).ge

theorem begin (h : Whole fs) (process : Nat) (contents : Bytes) :
    Whole { fs with calls := fs.calls ++ [⟨process, contents, .creatingDirectory⟩] } := by
  have hold : ∀ (i : Nat) (c : ReplaceCall), fs.calls[i]? = some c →
      (fs.calls ++ [⟨process, contents, .creatingDirectory⟩])[i]? = some c := by
    intro i c hc
    rw [List.getElem?_append_left (List.getElem?_eq_some_iff.mp hc).1]
    exact hc
  have hnew : ∀ (i : Nat) (c : ReplaceCall),
      (fs.calls ++ [⟨process, contents, .creatingDirectory⟩])[i]? = some c →
      fs.calls[i]? = some c ∨ c.phase = .creatingDirectory := by
    intro i c hc
    rcases Nat.lt_or_ge i fs.calls.length with hlt | hge
    · rw [List.getElem?_append_left hlt] at hc
      exact .inl hc
    · rw [List.getElem?_append_right hge] at hc
      rw [List.mem_singleton.mp (List.mem_of_getElem? hc)]
      exact .inr rfl
  have hown : ∀ (i : Nat) (c : ReplaceCall) temporary,
      (fs.calls ++ [⟨process, contents, .creatingDirectory⟩])[i]? = some c →
      c.phase.temporary? = some temporary → fs.calls[i]? = some c := by
    intro i c temporary hc htemporary
    rcases hnew i c hc with hc | hphase
    · exact hc
    · rw [hphase] at htemporary
      cases htemporary
  constructor
  case renames =>
    intro rename hmem
    obtain ⟨hsynced, c, hc, hsettled⟩ := h.renames rename hmem
    exact ⟨hsynced, c, hold _ c hc, hsettled⟩
  case undone =>
    intro i hi
    obtain ⟨c, hc, hsettled⟩ := h.undone i hi
    exact ⟨c, hold i c hc, hsettled⟩
  case returned =>
    intro i c hc hrenamed
    rcases hnew i c hc with hc | hphase
    · exact h.returned i c hc hrenamed
    · rw [hphase] at hrenamed
      cases hrenamed
  case owns =>
    exact fun i c temporary hc htemporary =>
      h.owns i c temporary (hown i c temporary hc htemporary) htemporary
  case apart =>
    exact fun i j c d temporary hc hd htemporary htemporary' =>
      h.apart i j c d temporary (hown i c temporary hc htemporary)
        (hown j d temporary hd htemporary') htemporary htemporary'
  case settled => exact h.settled

theorem next (h : Whole fs) (label : ReplaceLabel) : Whole (fs.next label) := by
  cases label with
  | begin process contents => exact h.begin process contents
  | system call ok written => exact h.system call ok written
  | kill process =>
      have hkilled := h.killAll fun c => c.process = process
      exact ⟨hkilled.renames, hkilled.undone, hkilled.returned, hkilled.owns, hkilled.apart,
        hkilled.settled⟩
  | powerFailure durable temporaries torn => exact h.powerFailure durable temporaries torn

end Whole

theorem whole_of_reachable {initial : Option Bytes} {fs : FileSystem}
    (h : (fileSystem initial).Reachable fs) : Whole fs := by
  refine TransitionSystem.Reachable.invariant ?_ ?_ h
  · rintro s rfl
    exact .start initial
  · rintro s label t hs rfl
    exact hs.next label

theorem initial_next (fs : FileSystem) (label : ReplaceLabel) :
    (fs.next label).initial = fs.initial := by
  cases label with
  | system call ok written =>
      change (fs.system call ok written).initial = fs.initial
      unfold FileSystem.system
      split
      · rfl
      · split
        case h_2 => unfold FileSystem.draw; split <;> rfl
        case h_3 => unfold FileSystem.openNew; split <;> [rfl; split <;> rfl]
        case h_4 => unfold FileSystem.write; split <;> rfl
        case h_5 => unfold FileSystem.sync; split <;> rfl
        case h_6 => unfold FileSystem.rename; split <;> rfl
        case h_7 => cases ok <;> rfl
        case h_8 => cases ok <;> rfl
        all_goals rfl
  | begin process contents => rfl
  | kill process => rfl
  | powerFailure durable temporaries torn => rfl

theorem initial_of_reachable {initial : Option Bytes} {fs : FileSystem}
    (h : (fileSystem initial).Reachable fs) : fs.initial = initial := by
  refine @TransitionSystem.Reachable.invariant _ _ _ fs (fun s => s.initial = initial) ?_ ?_ h
  · rintro s rfl
    rfl
  · rintro s label t hs rfl
    exact (initial_next s label).trans hs

theorem target_of_reachable {initial : Option Bytes} {fs : FileSystem}
    (h : (fileSystem initial).Reachable fs) :
    fs.renames = [] ∧ fs.target = initial ∨
      ∃ i c, fs.renames.getLast?.map Prod.fst = some i ∧ fs.calls[i]? = some c ∧
        fs.target = some c.contents := by
  rcases List.eq_nil_or_concat' fs.renames with hnil | ⟨before, rename, hlast⟩
  · refine .inl ⟨hnil, ?_⟩
    unfold FileSystem.target
    rw [hnil, ← initial_of_reachable h]
    rfl
  · obtain ⟨_, c, hc, hcontents, _⟩ := (whole_of_reachable h).renames rename
      (hlast ▸ List.mem_append_right _ (List.mem_singleton_self _))
    refine .inr ⟨rename.1, c, ?_, hc, ?_⟩
    · rw [hlast, List.getLast?_concat]
      rfl
    · unfold FileSystem.target
      rw [hlast, List.getLast?_concat, hcontents]
      rfl

/-- A directory sync that returns settles the rename of its call. -/
theorem settled_of_syncDirectory {initial : Option Bytes} {fs : FileSystem}
    (h : (fileSystem initial).Reachable fs) {i : Nat} {c : ReplaceCall}
    (hc : fs.calls[i]? = some c) (hphase : c.phase = .syncingDirectory) :
    i ∈ ((fs.syncDirectory i true).renames.take (fs.syncDirectory i true).settled).map
      Prod.fst ∨ i ∈ fs.undone := by
  change i ∈ (fs.renames.take fs.renames.length).map Prod.fst ∨ i ∈ fs.undone
  rw [List.take_length]
  exact (whole_of_reachable h).returned i c hc (by rw [hphase]; rfl)

/-- Whoever else replaces the file, whatever fails and wherever a process is killed or the power
goes, the path holds the whole contents of one call, or what it held at first. A call that
failed has changed nothing. What a call that succeeded has put there stays until it is replaced
by another call, or is undone by a power failure, which spares it once a directory sync has
returned. No two calls write to one temporary file. -/
theorem atomic_replace_contract {initial : Option Bytes} {fs : FileSystem}
    (h : (fileSystem initial).Reachable fs) :
    (fs.renames = [] ∧ fs.target = initial ∨
      ∃ i c, fs.renames.getLast?.map Prod.fst = some i ∧ fs.calls[i]? = some c ∧
        fs.target = some c.contents) ∧
    (∀ (i : Nat) (c : ReplaceCall), fs.calls[i]? = some c → c.phase = .finished false →
      i ∉ fs.renames.map Prod.fst ∧ i ∉ fs.undone) ∧
    (∀ (i : Nat) (c : ReplaceCall), fs.calls[i]? = some c → c.phase = .finished true →
      i ∈ fs.renames.map Prod.fst ∨ i ∈ fs.undone) ∧
    (∀ durable temporaries torn, fs.renames.take fs.settled <+:
      (fs.next (.powerFailure durable temporaries torn)).renames) ∧
    ∀ (i j : Nat) (c d : ReplaceCall) temporary, fs.calls[i]? = some c → fs.calls[j]? = some d →
      c.phase.temporary? = some temporary → d.phase.temporary? = some temporary → i = j := by
  have hwhole := whole_of_reachable h
  have hfailed : ∀ (i : Nat) (c : ReplaceCall), fs.calls[i]? = some c →
      c.phase = .finished false → ¬∃ d, fs.calls[i]? = some d ∧ d.phase.pending = false := by
    rintro i c hc hphase ⟨d, hd, hpending⟩
    cases hc.symm.trans hd
    rw [hphase] at hpending
    cases hpending
  refine ⟨target_of_reachable h, fun i c hc hphase => ⟨fun hi => ?_, fun hi => ?_⟩,
    fun i c hc hphase => ?_, fun durable temporaries torn => ?_, hwhole.apart⟩
  · obtain ⟨rename, hmem, rfl⟩ := List.mem_map.mp hi
    obtain ⟨_, d, hd, _, hpending⟩ := hwhole.renames rename hmem
    exact hfailed _ c hc hphase ⟨d, hd, hpending⟩
  · exact hfailed i c hc hphase (hwhole.undone i hi)
  · exact hwhole.returned i c hc (by rw [hphase]; rfl)
  · change fs.renames.take fs.settled <+: (fs.powerFailure durable temporaries torn).renames
    unfold FileSystem.powerFailure
    dsimp only
    rw [hwhole.map_torn]
    exact List.take_prefix_take_left (le_max_right _ _)

/-- One call replaces the file, and the power goes before another has renamed its own. -/
def replaceLabels : List ReplaceLabel :=
  [.begin 1 [1], .begin 2 [2]] ++ List.replicate 8 (.system 0 true 0) ++
    List.replicate 5 (.system 1 true 0) ++ [.powerFailure 0 (fun _ => none) [9]]

theorem atomic_replace_contract_sample :
    (replaceLabels.foldl FileSystem.next (.start (some [0]))).target = some [1] ∧
      (replaceLabels.foldl FileSystem.next (.start (some [0]))).renames.map Prod.fst = [0] := by
  have hreached : (fileSystem (some [0])).Reachable
      (replaceLabels.foldl FileSystem.next (.start (some [0]))) :=
    TransitionSystem.reachable_foldl _ _ _
  refine ⟨?_, by decide +kernel⟩
  rcases (atomic_replace_contract hreached).1 with ⟨hnil, _⟩ | ⟨i, c, hlast, hcall, htarget⟩
  · exact absurd hnil (by decide +kernel)
  · rw [htarget]
    have hi : some i = some 0 := hlast.symm.trans (by decide +kernel)
    cases hi
    have hc : some c = some ⟨1, [1], .finished true⟩ := hcall.symm.trans (by decide +kernel)
    cases hc
    rfl

end PicooCamera.Pairing
