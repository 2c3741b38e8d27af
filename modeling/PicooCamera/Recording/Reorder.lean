import PicooCamera.Library.TransitionSystem
import PicooCamera.Recording.EncodedWriter

/-!
# The reorder buffer of a recording

The buffer holds the inputs of one source until their ids are contiguous, until one
of them has been held for 50 ms, or until the source changes.
-/

namespace PicooCamera.Recording

open PicooCamera.Library

def reorderCapacity : Nat := 16

def reorderHoldUs : Nat := 50000

structure HeldInput where
  input : RecordingInput
  arrivedAt : Nat
  deriving DecidableEq, Repr

namespace HeldInput

def id (e : HeldInput) : Nat := e.input.id

/-- The input has been held for 50 ms. -/
def expired (now : Nat) (e : HeldInput) : Bool := reorderHoldUs ≤ now - e.arrivedAt

end HeldInput

/-- `<` on pairs of a connection and an epoch. -/
def sourceBefore (a b : Nat × Nat) : Prop := a.1 < b.1 ∨ a.1 = b.1 ∧ a.2 < b.2

instance (a b : Nat × Nat) : Decidable (sourceBefore a b) := by
  unfold sourceBefore
  infer_instance

/-- `BTreeMap::insert`, on the entries in the order of their keys. -/
def insertHeld (entry : HeldInput) : List HeldInput → List HeldInput
  | [] => [entry]
  | head :: tail =>
      if entry.id < head.id then entry :: head :: tail
      else if entry.id = head.id then entry :: tail
      else head :: insertHeld entry tail

structure RecordingReorder where
  source : Option (Nat × Nat)
  lastId : Option Nat
  /-- In the order of their ids. -/
  pending : List HeldInput
  deriving DecidableEq, Repr

namespace RecordingReorder

def new : RecordingReorder := ⟨none, none, []⟩

/-- `last.checked_add(1)`. -/
def nextId (last : Option Nat) : Option Nat :=
  last.bind fun id => if id + 1 < 2 ^ 64 then some (id + 1) else none

/-- The loop of `poll`: what is released, the id released last and what stays. -/
def release (now : Nat) : Option Nat → List HeldInput →
    List RecordingInput × Option Nat × List HeldInput
  | last, [] => ([], last, [])
  | last, first :: rest =>
      let anyExpired := (first :: rest).any (HeldInput.expired now)
      if nextId last ≠ some first.id ∧ anyExpired = false then ([], last, first :: rest)
      else
        let (ready, last, kept) := release now (some first.id) rest
        (first.input :: ready, last, kept)

def poll (r : RecordingReorder) (now : Nat) : List RecordingInput × RecordingReorder :=
  let (ready, last, kept) := release now r.lastId r.pending
  (ready, { r with lastId := last, pending := kept })

def drain (r : RecordingReorder) : List RecordingInput × RecordingReorder :=
  (r.pending.map (·.input),
    { r with
      pending := []
      lastId := (r.pending.getLast?.map (·.id)).or r.lastId })

/-- Before an input of another source is taken, the old one is drained. -/
def enter (r : RecordingReorder) (source : Nat × Nat) : List RecordingInput × RecordingReorder :=
  if r.source ≠ some source then
    (r.drain.1, { r.drain.2 with source := some source, lastId := none })
  else ([], r)

def push (r : RecordingReorder) (input : RecordingInput) (now : Nat) :
    Except RecordingError (List RecordingInput) × RecordingReorder :=
  if ∃ current ∈ r.source, sourceBefore input.source current then
    (.error (.invalidInput "recording source moved backward"), r)
  else
    let (ready, r) := r.enter input.source
    if (∃ last ∈ r.lastId, input.id ≤ last) ∨ ∃ e ∈ r.pending, e.id = input.id then
      (.error (.invalidInput "duplicate or late recording AU"), r)
    else if r.pending.length = reorderCapacity then
      (.error (.invalidInput "recording reorder capacity reached"), r)
    else
      let r := { r with pending := insertHeld ⟨input, now⟩ r.pending }
      let (polled, r) := r.poll now
      (.ok (ready ++ polled), r)

end RecordingReorder

/-! ## Runs -/

inductive ReorderCall where
  | push (input : RecordingInput) (now : Nat)
  | poll (now : Nat)
  | drain

structure ReorderRun where
  reorder : RecordingReorder
  /-- What `push` accepted. -/
  pushed : List RecordingInput
  /-- The batches that were returned, one after another. -/
  returned : List RecordingInput
  deriving DecidableEq, Repr

namespace ReorderRun

def start : ReorderRun := ⟨.new, [], []⟩

def step (x : ReorderRun) : ReorderCall → ReorderRun
  | .push input now =>
      match x.reorder.push input now with
      | (.ok ready, r) => ⟨r, x.pushed ++ [input], x.returned ++ ready⟩
      | (.error _, r) => { x with reorder := r }
  | .poll now => { x with
      reorder := (x.reorder.poll now).2
      returned := x.returned ++ (x.reorder.poll now).1 }
  | .drain => { x with
      reorder := x.reorder.drain.2
      returned := x.returned ++ x.reorder.drain.1 }

def held (x : ReorderRun) : List RecordingInput := x.reorder.pending.map (·.input)

/-- By source, and by id inside a source. -/
def Before (a b : RecordingInput) : Prop :=
  sourceBefore a.source b.source ∨ a.source = b.source ∧ a.id < b.id

/-- What holds of the buffer and of what it returned at any time. -/
structure Conserved (x : ReorderRun) : Prop where
  once : (x.returned ++ x.held).Perm x.pushed
  ordered : (x.returned ++ x.held).Pairwise Before
  bounded : x.reorder.pending.length ≤ reorderCapacity

/-- The inputs that a call finds held, the one that it brings included. -/
def heldIn (x : ReorderRun) : ReorderCall → List HeldInput
  | .push input now => ⟨input, now⟩ :: x.reorder.pending
  | _ => x.reorder.pending

def time : ReorderCall → Option Nat
  | .push _ now => some now
  | .poll now => some now
  | .drain => none

/-- Why a call releases `input` after the inputs of `before` have been released. -/
inductive Released (x : ReorderRun) (before : List RecordingInput) (input : RecordingInput) :
    ReorderCall → Prop
  | drained : Released x before input .drain
  | sourceChanged (next : RecordingInput) (now : Nat)
      (hsource : sourceBefore input.source next.source) :
      Released x before input (.push next now)
  /-- An input that is not before this one has been held for 50 ms. -/
  | expired (call : ReorderCall) (now : Nat) (hnow : time call = some now) (e : HeldInput)
      (he : e ∈ x.heldIn call) (hsource : e.input.source = input.source)
      (hid : input.id ≤ e.id) (hexpired : e.expired now = true) :
      Released x before input call
  | follows (call : ReorderCall) (last : RecordingInput) (hlast : last ∈ before.getLast?)
      (hsource : last.source = input.source) (hid : input.id = last.id + 1) :
      Released x before input call

/-- What holds of the next call. -/
structure NextCall (x : ReorderRun) (call : ReorderCall) : Prop where
  /-- Nothing that was held for 50 ms stays held. -/
  timely : ∀ now, time call = some now →
    (∀ input now error, call = .push input now → (x.reorder.push input now).1 ≠ .error error) →
    ∀ e ∈ (x.step call).reorder.pending, e.expired now = false
  /-- Each input is released for a reason. -/
  reason : ∀ before input after, (x.step call).returned = before ++ input :: after →
    x.returned.length ≤ before.length → Released x before input call
  /-- A push that fails changes nothing. -/
  error : ∀ input now error, call = .push input now →
    (x.reorder.push input now).1 = .error error → (x.reorder.push input now).2 = x.reorder

/-! ## The loop of `poll` -/

open RecordingReorder

/-- The loop takes `taken` off the front and leaves `kept`, `last` being released before it. -/
inductive Pops (now : Nat) : Option Nat → List HeldInput → List HeldInput → List HeldInput → Prop
  | stop (last : Option Nat) (kept : List HeldInput)
      (htimely : ∀ e ∈ kept, e.expired now = false) : Pops now last kept [] kept
  | pop (last : Option Nat) (e : HeldInput) (rest taken kept : List HeldInput)
      (hcause : nextId last = some e.id ∨ ∃ other ∈ e :: rest, other.expired now = true)
      (h : Pops now (some e.id) rest taken kept) : Pops now last (e :: rest) (e :: taken) kept

variable {now : Nat} {last : Option Nat} {pending taken kept : List HeldInput}

theorem release_pops (now : Nat) (last : Option Nat) (pending : List HeldInput) :
    ∃ taken, (release now last pending).1 = taken.map (·.input) ∧
      (release now last pending).2.1 = (taken.getLast?.map (·.id)).or last ∧
      Pops now last pending taken (release now last pending).2.2 := by
  induction pending generalizing last with
  | nil => exact ⟨[], rfl, rfl, .stop last [] (by simp)⟩
  | cons first rest ih =>
      unfold release
      dsimp only
      split
      · rename_i hstop
        refine ⟨[], rfl, rfl, .stop last _ ?_⟩
        intro e he
        exact Bool.eq_false_iff.mpr fun h =>
          (Bool.eq_false_iff.mp hstop.2) (List.any_eq_true.mpr ⟨e, he, h⟩)
      · rename_i hgo
        obtain ⟨taken, hready, hlast, hpops⟩ := @ih (some first.id)
        refine ⟨first :: taken, by rw [hready]; rfl, ?_, .pop last first rest taken _ ?_ hpops⟩
        · rw [hlast]
          cases taken with
          | nil => rfl
          | cons e taken => simp [List.getLast?_cons]
        · by_cases hnext : nextId last = some first.id
          · exact .inl hnext
          · refine .inr ?_
            have hany := (not_and.mp hgo) hnext
            exact List.any_eq_true.mp (Bool.not_eq_false _ |>.mp hany)

theorem Pops.split (h : Pops now last pending taken kept) : pending = taken ++ kept := by
  induction h with
  | stop _ _ _ => rfl
  | pop _ e _ _ _ _ _ ih => rw [ih, List.cons_append]

theorem Pops.timely (h : Pops now last pending taken kept) :
    ∀ e ∈ kept, e.expired now = false := by
  induction h with
  | stop _ _ htimely => exact htimely
  | pop _ _ _ _ _ _ _ ih => exact ih

theorem Pops.reason (h : Pops now last pending taken kept) {before after : List HeldInput}
    {e : HeldInput} (hsplit : taken = before ++ e :: after) :
    nextId ((before.getLast?.map (·.id)).or last) = some e.id ∨
      ∃ other ∈ e :: after ++ kept, other.expired now = true := by
  induction h generalizing before with
  | stop _ _ _ => cases List.append_eq_nil_iff.mp hsplit.symm |>.2
  | pop last first rest taken kept hcause hpops ih =>
      cases before with
      | nil =>
          obtain ⟨rfl, rfl⟩ := List.cons.inj hsplit
          rw [hpops.split] at hcause
          simpa using hcause
      | cons b before =>
          obtain ⟨rfl, htail⟩ := List.cons.inj hsplit
          have hrest := ih htail
          have hfront : (((first :: before).getLast?.map (·.id)).or last) =
              ((before.getLast?.map (·.id)).or (some first.id)) := by
            cases before with
            | nil => rfl
            | cons c before => simp [List.getLast?_cons]
          rw [hfront]
          exact hrest

/-! ## Insertion -/

/-- The entries have increasing ids. -/
def ById (pending : List HeldInput) : Prop := pending.Pairwise fun a b => a.id < b.id

theorem insertHeld_perm {entry : HeldInput} (h : ∀ e ∈ pending, e.id ≠ entry.id) :
    (insertHeld entry pending).Perm (entry :: pending) := by
  induction pending with
  | nil => exact List.Perm.refl _
  | cons head tail ih =>
      unfold insertHeld
      split
      · exact List.Perm.refl _
      · rw [if_neg fun heq => h head (List.mem_cons_self ..) heq.symm]
        have htail := ih fun e he => h e (List.mem_cons_of_mem _ he)
        exact (htail.cons head).trans (List.Perm.swap entry head tail)

theorem ById.insertHeld {entry : HeldInput} (hsorted : ById pending)
    (h : ∀ e ∈ pending, e.id ≠ entry.id) : ById (insertHeld entry pending) := by
  induction pending with
  | nil => exact List.pairwise_singleton _ _
  | cons head tail ih =>
      obtain ⟨hhead, htail⟩ := List.pairwise_cons.mp hsorted
      have hother := h head (List.mem_cons_self ..)
      have hrest := fun e he => h e (List.mem_cons_of_mem head he)
      unfold Recording.insertHeld
      split
      · rename_i hless
        refine List.pairwise_cons.mpr ⟨?_, hsorted⟩
        intro e he
        obtain rfl | he := List.mem_cons.mp he
        · exact hless
        · exact Nat.lt_trans hless (hhead e he)
      · rw [if_neg fun heq => hother heq.symm]
        refine List.pairwise_cons.mpr ⟨?_, ih htail hrest⟩
        intro e he
        obtain rfl | he := List.mem_cons.mp ((insertHeld_perm hrest).mem_iff.mp he)
        · omega
        · exact hhead e he

/-! ## Runs -/

theorem Before.trans {a b c : RecordingInput} (hab : Before a b) (hbc : Before b c) :
    Before a c := by
  unfold Before sourceBefore RecordingInput.source at *
  simp only [Prod.mk.injEq] at *
  omega

variable {x : ReorderRun}

structure Coherent (x : ReorderRun) : Prop extends Conserved x where
  heldSource : ∀ e ∈ x.reorder.pending, x.reorder.source = some e.input.source
  last : ∀ id, x.reorder.lastId = some id ↔
    ∃ a ∈ x.returned.getLast?, x.reorder.source = some a.source ∧ a.id = id
  notAhead : ∀ a ∈ x.returned.getLast?, ∃ source, x.reorder.source = some source ∧
    (sourceBefore a.source source ∨ a.source = source)

theorem coherent_start : Coherent start where
  once := List.Perm.refl _
  ordered := List.Pairwise.nil
  bounded := Nat.zero_le _
  heldSource := by simp [start, RecordingReorder.new]
  last := by simp [start, RecordingReorder.new]
  notAhead := by simp [start]

theorem Coherent.byId (h : Coherent x) : ById x.reorder.pending := by
  have hheld := (List.pairwise_append.mp h.ordered).2.1
  unfold held at hheld
  rw [List.pairwise_map] at hheld
  refine hheld.imp_of_mem ?_
  intro a b ha hb hbefore
  have hsame : a.input.source = b.input.source :=
    Option.some.inj ((h.heldSource a ha).symm.trans (h.heldSource b hb))
  unfold Before at hbefore
  rw [hsame] at hbefore
  obtain hsource | ⟨_, hid⟩ := hbefore
  · unfold sourceBefore at hsource
    omega
  · exact hid

theorem Coherent.returned_before (h : Coherent x) {input : RecordingInput}
    (hlast : ∀ a ∈ x.returned.getLast?, Before a input) : ∀ a ∈ x.returned, Before a input := by
  intro a ha
  have hne : x.returned ≠ [] := List.ne_nil_of_mem ha
  obtain ⟨front, final, hsplit⟩ := List.eq_nil_or_concat x.returned |>.resolve_left hne
  rw [List.concat_eq_append] at hsplit
  have hfinal := hlast final (by rw [hsplit]; simp)
  rw [hsplit] at ha
  obtain hfront | hend := List.mem_append.mp ha
  · have hpairwise := (List.pairwise_append.mp h.ordered).1
    rw [hsplit] at hpairwise
    have := (List.pairwise_append.mp hpairwise).2.2 a hfront final (List.mem_singleton.mpr rfl)
    exact this.trans hfinal
  · rw [List.mem_singleton.mp hend]
    exact hfinal

theorem Coherent.moved (h : Coherent x) (hsplit : x.reorder.pending = taken ++ kept) :
    Coherent {
      reorder := { x.reorder with
        lastId := (taken.getLast?.map (·.id)).or x.reorder.lastId
        pending := kept }
      pushed := x.pushed
      returned := x.returned ++ taken.map (·.input) } := by
  have hall : x.returned ++ taken.map (·.input) ++ kept.map (·.input) = x.returned ++ x.held := by
    rw [held, hsplit, List.map_append, List.append_assoc]
  refine ⟨⟨?_, ?_, ?_⟩, ?_, ?_, ?_⟩
  · unfold held
    dsimp only
    rw [hall]
    exact h.once
  · unfold held
    dsimp only
    rw [hall]
    exact h.ordered
  · have hbounded := h.bounded
    rw [hsplit, List.length_append] at hbounded
    dsimp only
    omega
  · intro e he
    exact h.heldSource e (by rw [hsplit]; exact List.mem_append_right _ he)
  · intro id
    dsimp only
    cases taken using List.reverseRecOn with
    | nil =>
        rw [List.map_nil, List.append_nil]
        exact h.last id
    | append_singleton front final =>
        have hsource := h.heldSource final (by rw [hsplit]; simp)
        rw [List.map_append, List.map_singleton, ← List.append_assoc, List.getLast?_concat,
          List.getLast?_concat, Option.map_some, Option.some_or, Option.some_inj]
        constructor
        · rintro rfl
          exact ⟨final.input, rfl, hsource, rfl⟩
        · rintro ⟨a, ha, _, rfl⟩
          obtain rfl := Option.some.inj ha
          rfl
  · intro a ha
    dsimp only at ha ⊢
    cases taken using List.reverseRecOn with
    | nil =>
        rw [List.map_nil, List.append_nil] at ha
        exact h.notAhead a ha
    | append_singleton front final =>
        rw [List.map_append, List.map_singleton, ← List.append_assoc,
          List.getLast?_concat] at ha
        obtain rfl := Option.some.inj ha
        exact ⟨final.input.source, h.heldSource final (by rw [hsplit]; simp), .inr rfl⟩

theorem Coherent.poll (h : Coherent x) (now : Nat) : Coherent (x.step (.poll now)) := by
  obtain ⟨taken, hready, hlast, hpops⟩ := release_pops now x.reorder.lastId x.reorder.pending
  unfold step RecordingReorder.poll
  dsimp only
  rw [hready, hlast]
  exact h.moved hpops.split

theorem Coherent.drain (h : Coherent x) : Coherent (x.step .drain) := by
  have hsplit : x.reorder.pending = x.reorder.pending ++ [] := (List.append_nil _).symm
  have hmoved := h.moved hsplit
  exact hmoved

theorem Coherent.enter (h : Coherent x) {source : Nat × Nat}
    (hsource : ¬∃ current ∈ x.reorder.source, sourceBefore source current) :
    Coherent ⟨(x.reorder.enter source).2, x.pushed,
        x.returned ++ (x.reorder.enter source).1⟩ ∧
      (x.reorder.enter source).2.source = some source := by
  unfold RecordingReorder.enter
  split
  · rename_i hchanged
    refine ⟨?_, rfl⟩
    have hdrained := h.drain
    refine ⟨⟨hdrained.once, hdrained.ordered, Nat.zero_le _⟩, ?_, ?_, ?_⟩
    · intro e he
      cases he
    · intro id
      dsimp only
      refine iff_of_false nofun ?_
      rintro ⟨a, ha, hsame, _⟩
      obtain ⟨current, hcurrent, hbehind⟩ := hdrained.notAhead a ha
      obtain rfl := Option.some.inj hsame
      have hcurrent : x.reorder.source = some current := hcurrent
      obtain hbefore | hequal := hbehind
      · exact hsource ⟨current, hcurrent, hbefore⟩
      · rw [hequal] at hchanged
        exact hchanged hcurrent
    · intro a ha
      obtain ⟨current, hcurrent, hbehind⟩ := hdrained.notAhead a ha
      have hcurrent : x.reorder.source = some current := hcurrent
      refine ⟨source, rfl, .inl ?_⟩
      have hnotBefore : ¬sourceBefore source current := fun hb => hsource ⟨current, hcurrent, hb⟩
      have hne : current ≠ source := by
        rintro rfl
        exact hchanged hcurrent
      have hahead : sourceBefore current source := by
        unfold sourceBefore at *
        rw [ne_eq, Prod.ext_iff] at hne
        omega
      obtain hbefore | hequal := hbehind
      · unfold sourceBefore at *
        omega
      · rw [hequal]
        exact hahead
  · rename_i hsame
    have hsame := not_not.mp hsame
    rw [List.append_nil]
    exact ⟨h, hsame⟩

theorem Coherent.admitted (h : Coherent x) {input : RecordingInput} {now : Nat}
    (hsource : x.reorder.source = some input.source)
    (hfresh : ¬((∃ last ∈ x.reorder.lastId, input.id ≤ last) ∨
      ∃ e ∈ x.reorder.pending, e.id = input.id))
    (hroom : x.reorder.pending.length ≠ reorderCapacity) :
    Coherent ⟨{ x.reorder with pending := insertHeld ⟨input, now⟩ x.reorder.pending },
      x.pushed ++ [input], x.returned⟩ := by
  rw [not_or] at hfresh
  have hother : ∀ e ∈ x.reorder.pending, e.id ≠ input.id := fun e he heq => hfresh.2 ⟨e, he, heq⟩
  have hperm : (insertHeld ⟨input, now⟩ x.reorder.pending).Perm
      (⟨input, now⟩ :: x.reorder.pending) := insertHeld_perm hother
  have hreturned : ∀ a ∈ x.returned, Before a input := by
    apply h.returned_before
    intro a ha
    obtain ⟨source, hcurrent, hbehind⟩ := h.notAhead a ha
    obtain rfl := Option.some.inj (hcurrent.symm.trans hsource)
    obtain hbefore | hequal := hbehind
    · exact .inl hbefore
    · refine .inr ⟨hequal, ?_⟩
      have hlast := (h.last a.id).mpr ⟨a, ha, by rw [hsource, hequal], rfl⟩
      exact Nat.lt_of_not_le fun hle => hfresh.1 ⟨a.id, hlast, hle⟩
  have hheldSource : ∀ e ∈ insertHeld ⟨input, now⟩ x.reorder.pending,
      e.input.source = input.source := by
    intro e he
    obtain rfl | hold := List.mem_cons.mp (hperm.mem_iff.mp he)
    · rfl
    · exact Option.some.inj ((h.heldSource e hold).symm.trans hsource)
  refine ⟨⟨?_, ?_, ?_⟩, ?_, h.last, h.notAhead⟩
  · unfold held
    dsimp only
    have hmap : ((insertHeld ⟨input, now⟩ x.reorder.pending).map (·.input)).Perm
        (input :: x.held) := hperm.map _
    have hend : (x.returned ++ input :: x.held).Perm (x.returned ++ x.held ++ [input]) := by
      rw [List.append_assoc]
      exact (List.perm_append_singleton input x.held).symm.append_left x.returned
    exact ((hmap.append_left _).trans hend).trans (h.once.append_right [input])
  · unfold held
    dsimp only
    obtain ⟨hfront, _, hcross⟩ := List.pairwise_append.mp h.ordered
    refine List.pairwise_append.mpr ⟨hfront, ?_, ?_⟩
    · rw [List.pairwise_map]
      have hsorted : ById (insertHeld ⟨input, now⟩ x.reorder.pending) := h.byId.insertHeld hother
      refine hsorted.imp_of_mem ?_
      intro a b ha hb hid
      exact .inr ⟨(hheldSource a ha).trans (hheldSource b hb).symm, hid⟩
    · intro a ha b hb
      obtain ⟨e, he, rfl⟩ := List.mem_map.mp hb
      obtain rfl | hold := List.mem_cons.mp (hperm.mem_iff.mp he)
      · exact hreturned a ha
      · exact hcross a ha _ (List.mem_map_of_mem hold)
  · dsimp only
    rw [hperm.length_eq, List.length_cons]
    have := h.bounded
    omega
  · intro e he
    dsimp only at he ⊢
    rw [hsource, hheldSource e he]

/-- The buffer that a successful push polls. -/
def admittedFor (r : RecordingReorder) (input : RecordingInput) (now : Nat) : RecordingReorder :=
  { (r.enter input.source).2 with
    pending := insertHeld ⟨input, now⟩ (r.enter input.source).2.pending }

theorem push_cases (r : RecordingReorder) (input : RecordingInput) (now : Nat) :
    (∃ error, r.push input now = (.error error, r)) ∨
    (¬∃ current ∈ r.source, sourceBefore input.source current) ∧
      ¬((∃ last ∈ (r.enter input.source).2.lastId, input.id ≤ last) ∨
        ∃ e ∈ (r.enter input.source).2.pending, e.id = input.id) ∧
      (r.enter input.source).2.pending.length ≠ reorderCapacity ∧
      r.push input now =
        (.ok ((r.enter input.source).1 ++ ((admittedFor r input now).poll now).1),
          ((admittedFor r input now).poll now).2) := by
  have hentered : (r.enter input.source).2 = r ∨
      (r.enter input.source).2.lastId = none ∧ (r.enter input.source).2.pending = [] := by
    unfold RecordingReorder.enter
    split
    · exact .inr ⟨rfl, rfl⟩
    · exact .inl rfl
  unfold RecordingReorder.push
  dsimp only
  split
  · exact .inl ⟨_, rfl⟩
  · rename_i hbehind
    split
    · rename_i hstale
      obtain hsame | ⟨hlast, hpending⟩ := hentered
      · exact .inl ⟨_, by rw [hsame]⟩
      · rw [hlast, hpending] at hstale
        simp at hstale
    · rename_i hfresh
      split
      · rename_i hfull
        obtain hsame | ⟨_, hpending⟩ := hentered
        · exact .inl ⟨_, by rw [hsame]⟩
        · rw [hpending] at hfull
          cases hfull
      · rename_i hroom
        exact .inr ⟨hbehind, hfresh, hroom, rfl⟩

theorem Coherent.admittedFor (h : Coherent x) {input : RecordingInput} (now : Nat)
    (hbehind : ¬∃ current ∈ x.reorder.source, sourceBefore input.source current)
    (hfresh : ¬((∃ last ∈ (x.reorder.enter input.source).2.lastId, input.id ≤ last) ∨
      ∃ e ∈ (x.reorder.enter input.source).2.pending, e.id = input.id))
    (hroom : (x.reorder.enter input.source).2.pending.length ≠ reorderCapacity) :
    Coherent ⟨ReorderRun.admittedFor x.reorder input now, x.pushed ++ [input],
      x.returned ++ (x.reorder.enter input.source).1⟩ := by
  obtain ⟨hentered, hsource⟩ := h.enter hbehind
  exact hentered.admitted hsource hfresh hroom

theorem Coherent.step (h : Coherent x) (call : ReorderCall) : Coherent (x.step call) := by
  cases call with
  | drain => exact h.drain
  | poll now => exact h.poll now
  | push input now =>
      unfold ReorderRun.step
      obtain ⟨error, hpush⟩ | ⟨hbehind, hfresh, hroom, hpush⟩ := push_cases x.reorder input now
      · dsimp only
        rw [hpush]
        exact h
      · dsimp only
        rw [hpush]
        have hpolled := (h.admittedFor now hbehind hfresh hroom).poll now
        unfold ReorderRun.step at hpolled
        dsimp only at hpolled ⊢
        rwa [List.append_assoc] at hpolled

theorem coherent_run (calls : List ReorderCall) : Coherent (calls.foldl step start) :=
  TransitionSystem.Reachable.invariant (T := .ofFunction start step)
    (fun _ hstart => hstart ▸ coherent_start)
    (fun _ call _ hx hstep => hstep ▸ hx.step call)
    (TransitionSystem.reachable_foldl _ _ _)

theorem Coherent.poll_reason (h : Coherent x) (now : Nat) :
    (∀ e ∈ (x.reorder.poll now).2.pending, e.expired now = false) ∧
      ∀ before input after, x.returned ++ (x.reorder.poll now).1 = before ++ input :: after →
        x.returned.length ≤ before.length →
        (∃ last ∈ before.getLast?, last.source = input.source ∧ input.id = last.id + 1) ∨
          ∃ e ∈ x.reorder.pending, e.input.source = input.source ∧ input.id ≤ e.id ∧
            e.expired now = true := by
  obtain ⟨taken, hready, hlast, hpops⟩ := release_pops now x.reorder.lastId x.reorder.pending
  have hpending : x.reorder.pending = taken ++ (x.reorder.poll now).2.pending := hpops.split
  refine ⟨hpops.timely, ?_⟩
  intro before input after hsplit hlength
  have hready : (x.reorder.poll now).1 = taken.map (·.input) := hready
  rw [hready] at hsplit
  have hreturned : x.returned <+: before ++ input :: after := ⟨_, hsplit⟩
  obtain ⟨front, rfl⟩ : x.returned <+: before :=
    List.prefix_of_prefix_length_le hreturned (List.prefix_append before _) hlength
  rw [List.append_assoc, List.append_cancel_left_eq] at hsplit
  obtain ⟨first, rest, htaken, hfirst, hrest⟩ := List.map_eq_append_iff.mp hsplit
  obtain ⟨e, tail, rfl, rfl, htail⟩ := List.map_eq_cons_iff.mp hrest
  have hmem : e ∈ x.reorder.pending := by
    rw [hpending, htaken]
    simp
  obtain hnext | ⟨other, hother, hexpired⟩ := hpops.reason htaken
  · refine .inl ?_
    -- The id released last is that of the last input returned before this one.
    obtain ⟨lastId, hlastId, hid⟩ := Option.bind_eq_some_iff.mp hnext
    split at hid
    · have hid : lastId + 1 = e.id := Option.some.inj hid
      cases first using List.reverseRecOn with
      | nil =>
          rw [List.getLast?_nil, Option.map_none, Option.none_or] at hlastId
          obtain ⟨a, ha, hsource, rfl⟩ := (h.last lastId).mp hlastId
          rw [← hfirst, List.map_nil, List.append_nil]
          exact ⟨a, ha, Option.some.inj (hsource.symm.trans (h.heldSource e hmem)), hid.symm⟩
      | append_singleton first final =>
          rw [List.getLast?_concat, Option.map_some, Option.some_or] at hlastId
          obtain rfl := Option.some.inj hlastId
          rw [← hfirst, List.map_append, List.map_singleton, ← List.append_assoc,
            List.getLast?_concat]
          have hfinal : final ∈ x.reorder.pending := by
            rw [hpending, htaken]
            simp
          exact ⟨final.input, rfl,
            Option.some.inj ((h.heldSource final hfinal).symm.trans (h.heldSource e hmem)),
            hid.symm⟩
    · cases hid
  · refine .inr ⟨other, ?_, ?_, ?_, hexpired⟩
    · rw [hpending, htaken, List.append_assoc]
      exact List.mem_append_right _ hother
    · have hotherMem : other ∈ x.reorder.pending := by
        rw [hpending, htaken, List.append_assoc]
        exact List.mem_append_right _ hother
      exact Option.some.inj ((h.heldSource other hotherMem).symm.trans (h.heldSource e hmem))
    · have hsorted := h.byId
      unfold ById at hsorted
      rw [hpending, htaken, List.append_assoc] at hsorted
      have htail := (List.pairwise_append.mp hsorted).2.1
      rw [List.cons_append] at htail hother
      obtain rfl | hlater := List.mem_cons.mp hother
      · exact Nat.le_refl _
      · exact Nat.le_of_lt ((List.pairwise_cons.mp htail).1 other hlater)

theorem heldIn_of_admitted {input : RecordingInput} {now : Nat}
    (hfresh : ¬((∃ last ∈ (x.reorder.enter input.source).2.lastId, input.id ≤ last) ∨
      ∃ e ∈ (x.reorder.enter input.source).2.pending, e.id = input.id))
    {e : HeldInput} (he : e ∈ (ReorderRun.admittedFor x.reorder input now).pending) :
    e ∈ x.heldIn (.push input now) := by
  have hother : ∀ e ∈ (x.reorder.enter input.source).2.pending, e.id ≠ input.id :=
    fun e he heq => hfresh (.inr ⟨e, he, heq⟩)
  have hperm : (ReorderRun.admittedFor x.reorder input now).pending.Perm
      (⟨input, now⟩ :: (x.reorder.enter input.source).2.pending) := insertHeld_perm hother
  obtain rfl | hold := List.mem_cons.mp (hperm.mem_iff.mp he)
  · exact List.mem_cons_self ..
  · refine List.mem_cons_of_mem _ ?_
    unfold RecordingReorder.enter at hold
    split at hold
    · cases hold
    · exact hold

theorem Coherent.drained_before (h : Coherent x) {next input : RecordingInput}
    {before after polled : List RecordingInput}
    (hbehind : ¬∃ current ∈ x.reorder.source, sourceBefore next.source current)
    (hsplit : x.returned ++ (x.reorder.enter next.source).1 ++ polled = before ++ input :: after)
    (hlength : x.returned.length ≤ before.length)
    (hdrained : before.length < (x.returned ++ (x.reorder.enter next.source).1).length) :
    sourceBefore input.source next.source := by
  have hat : (x.reorder.enter next.source).1[before.length - x.returned.length]? =
      some input := by
    have hget : (before ++ input :: after)[before.length]? = some input := by simp
    rw [← hsplit, List.getElem?_append_left hdrained, List.getElem?_append_right hlength] at hget
    exact hget
  have hmem := List.mem_of_getElem? hat
  unfold RecordingReorder.enter at hmem
  split at hmem
  · rename_i hchanged
    obtain ⟨e, he, rfl⟩ := List.mem_map.mp hmem
    have hsource := h.heldSource e he
    have hne : e.input.source ≠ next.source := by
      intro heq
      exact hchanged (by rw [hsource, heq])
    have hnot : ¬sourceBefore next.source e.input.source := fun hb => hbehind ⟨_, hsource, hb⟩
    unfold sourceBefore at *
    rw [ne_eq, Prod.ext_iff] at hne
    omega
  · cases hmem

theorem Coherent.nextCall (h : Coherent x) (call : ReorderCall) : NextCall x call := by
  cases call with
  | drain =>
      refine ⟨nofun, fun _ _ _ _ _ => .drained, nofun⟩
  | poll now =>
      obtain ⟨htimely, hreason⟩ := h.poll_reason now
      refine ⟨?_, ?_, nofun⟩
      · intro now' hnow _
        obtain rfl := Option.some.inj hnow
        exact htimely
      · intro before input after hsplit hlength
        obtain ⟨last, hlast, hsource, hid⟩ | ⟨e, he, hsource, hid, hexpired⟩ :=
          hreason before input after hsplit hlength
        · exact .follows _ last hlast hsource hid
        · exact .expired _ now rfl e he hsource hid hexpired
  | push next now =>
      obtain ⟨error, hpush⟩ | ⟨hbehind, hfresh, hroom, hpush⟩ := push_cases x.reorder next now
      · refine ⟨?_, ?_, ?_⟩
        · intro now' hnow hok
          exact absurd (congrArg Prod.fst hpush) (hok next now error rfl)
        · intro before input after hsplit hlength
          unfold ReorderRun.step at hsplit
          dsimp only at hsplit
          rw [hpush] at hsplit
          have := congrArg List.length hsplit
          rw [List.length_append, List.length_cons] at this
          dsimp only at this
          omega
        · intro input now' error' hcall herror
          cases hcall
          rw [hpush]
      · have hadmitted := h.admittedFor now hbehind hfresh hroom
        obtain ⟨htimely, hreason⟩ := hadmitted.poll_reason now
        have hstep : x.step (.push next now) = ⟨((ReorderRun.admittedFor x.reorder next now).poll
            now).2, x.pushed ++ [next], x.returned ++ ((x.reorder.enter next.source).1 ++
              ((ReorderRun.admittedFor x.reorder next now).poll now).1)⟩ := by
          unfold ReorderRun.step
          dsimp only
          rw [hpush]
        refine ⟨?_, ?_, ?_⟩
        · intro now' hnow _
          obtain rfl := Option.some.inj hnow
          rw [hstep]
          exact htimely
        · intro before input after hsplit hlength
          rw [hstep] at hsplit
          dsimp only at hsplit
          rw [← List.append_assoc] at hsplit
          by_cases hdrained : (x.returned ++ (x.reorder.enter next.source).1).length ≤ before.length
          · obtain ⟨last, hlast, hsource, hid⟩ | ⟨e, he, hsource, hid, hexpired⟩ :=
              hreason before input after hsplit hdrained
            · exact .follows _ last hlast hsource hid
            · refine .expired _ now rfl e ?_ hsource hid hexpired
              exact heldIn_of_admitted hfresh he
          · exact .sourceChanged next now (h.drained_before hbehind hsplit hlength
              (Nat.lt_of_not_le hdrained))
        · intro input now' error hcall herror
          cases hcall
          rw [hpush] at herror
          cases herror

/-- The buffer returns what was pushed, once and in order, in time and for a reason. -/
theorem recording_reorder_sound (calls : List ReorderCall) :
    Conserved (calls.foldl step start) ∧ ∀ call, NextCall (calls.foldl step start) call :=
  ⟨(coherent_run calls).toConserved, (coherent_run calls).nextCall⟩

end ReorderRun

end PicooCamera.Recording
