import Mathlib

/-!
# Labelled transition systems

A system is a set of initial states and a labelled step relation. A run is a
list of labels that leads from one state to another. The rules below carry a
property of single steps to whole runs, and restrict a system to the steps
that meet a condition.
-/

namespace PicooCamera.Library

universe u v w

structure TransitionSystem (σ : Type u) (α : Type v) where
  init : σ → Prop
  step : σ → α → σ → Prop

namespace TransitionSystem

variable {σ : Type u} {α : Type v} {T : TransitionSystem σ α}

/-- `Run T s as t`: the labels `as` lead from `s` to `t`, the last label last. -/
inductive Run (T : TransitionSystem σ α) (s : σ) : List α → σ → Prop
  | nil : Run T s [] s
  | snoc {as : List α} {t u : σ} {a : α} :
      Run T s as t → T.step t a u → Run T s (as ++ [a]) u

def Reachable (T : TransitionSystem σ α) (t : σ) : Prop :=
  ∃ s as, T.init s ∧ Run T s as t

/-- The system whose steps are those of `T` that meet `C` before they are taken. -/
def restrict (T : TransitionSystem σ α) (C : σ → α → Prop) : TransitionSystem σ α where
  init := T.init
  step s a t := C s a ∧ T.step s a t

/-- The deterministic system of a total step function. -/
def ofFunction (start : σ) (f : σ → α → σ) : TransitionSystem σ α where
  init s := s = start
  step s a t := t = f s a

/-- The deterministic system of a step function that refuses some labels. -/
def ofPartial (start : σ → Prop) (f : σ → α → Option σ) : TransitionSystem σ α where
  init := start
  step s a t := f s a = some t

theorem Run.append {s t u : σ} {as bs : List α} (hst : Run T s as t) (htu : Run T t bs u) :
    Run T s (as ++ bs) u := by
  induction htu with
  | nil => simpa using hst
  | snoc _ hstep ih =>
      rw [← List.append_assoc]
      exact Run.snoc ih hstep

theorem Reachable.of_init {s : σ} (h : T.init s) : Reachable T s :=
  ⟨s, [], h, Run.nil⟩

theorem Reachable.step {s t : σ} {a : α} (hs : Reachable T s) (ha : T.step s a t) :
    Reachable T t := by
  obtain ⟨s₀, as, h₀, hrun⟩ := hs
  exact ⟨s₀, as ++ [a], h₀, Run.snoc hrun ha⟩

theorem Reachable.of_run {s t : σ} {as : List α} (hs : Reachable T s) (hrun : Run T s as t) :
    Reachable T t := by
  obtain ⟨s₀, before, h₀, hbefore⟩ := hs
  exact ⟨s₀, before ++ as, h₀, hbefore.append hrun⟩

theorem Run.preserves {s t : σ} {as : List α} {Inv : σ → Prop}
    (hstep : ∀ s a t, Inv s → T.step s a t → Inv t)
    (hrun : Run T s as t) (hs : Inv s) : Inv t := by
  induction hrun with
  | nil => exact hs
  | snoc _ ha ih => exact hstep _ _ _ ih ha

theorem Reachable.invariant {t : σ} {Inv : σ → Prop} (hinit : ∀ s, T.init s → Inv s)
    (hstep : ∀ s a t, Inv s → T.step s a t → Inv t) (ht : Reachable T t) : Inv t := by
  obtain ⟨s, as, hs, hrun⟩ := ht
  exact hrun.preserves hstep (hinit s hs)

/-- As `Reachable.invariant`, with an invariant already known of every state. -/
theorem Reachable.invariant_of {t : σ} {Known Inv : σ → Prop}
    (hknown : ∀ s, Reachable T s → Known s) (hinit : ∀ s, T.init s → Inv s)
    (hstep : ∀ s a t, Known s → Inv s → T.step s a t → Inv t)
    (ht : Reachable T t) : Inv t := by
  have hboth : Reachable T t ∧ Inv t := by
    refine @Reachable.invariant _ _ T t (fun s => Reachable T s ∧ Inv s) ?_ ?_ ht
    · intro s hs
      exact ⟨Reachable.of_init hs, hinit s hs⟩
    · intro s a u hs ha
      exact ⟨hs.1.step ha, hstep s a u (hknown s hs.1) hs.2 ha⟩
  exact hboth.2

theorem Run.of_restrict {s t : σ} {as : List α} {C : σ → α → Prop}
    (hrun : Run (T.restrict C) s as t) : Run T s as t := by
  induction hrun with
  | nil => exact Run.nil
  | snoc _ ha ih => exact Run.snoc ih ha.2

theorem Reachable.of_restrict {t : σ} {C : σ → α → Prop}
    (ht : Reachable (T.restrict C) t) : Reachable T t := by
  obtain ⟨s, as, hs, hrun⟩ := ht
  exact ⟨s, as, hs, hrun.of_restrict⟩

/-- Every step of the run of `as` meets `C`. -/
def MeetsAll (C : σ → α → Prop) (f : σ → α → σ) : σ → List α → Prop
  | _, [] => True
  | s, a :: as => C s a ∧ MeetsAll C f (f s a) as

instance decidableMeetsAll {C : σ → α → Prop} [∀ s a, Decidable (C s a)] (f : σ → α → σ)
    (s : σ) (as : List α) : Decidable (MeetsAll C f s as) := by
  induction as generalizing s with
  | nil => exact inferInstanceAs (Decidable True)
  | cons a as ih =>
      have := ih (f s a)
      exact inferInstanceAs (Decidable (C s a ∧ MeetsAll C f (f s a) as))

theorem meetsAll_true (f : σ → α → σ) (s : σ) (as : List α) :
    MeetsAll (fun _ _ => True) f s as := by
  induction as generalizing s with
  | nil => trivial
  | cons a as ih => exact ⟨trivial, ih (f s a)⟩

theorem meetsAll_append {C : σ → α → Prop} {f : σ → α → σ} {s : σ} {as bs : List α} :
    MeetsAll C f s (as ++ bs) ↔ MeetsAll C f s as ∧ MeetsAll C f (as.foldl f s) bs := by
  induction as generalizing s with
  | nil => simp [MeetsAll]
  | cons a as ih => simp only [List.cons_append, MeetsAll, List.foldl_cons, ih, and_assoc]

theorem MeetsAll.imp {C D : σ → α → Prop} {f : σ → α → σ} (h : ∀ s a, C s a → D s a) {s : σ}
    {as : List α} (hall : MeetsAll C f s as) : MeetsAll D f s as := by
  induction as generalizing s with
  | nil => trivial
  | cons a as ih => exact ⟨h s a hall.1, ih hall.2⟩

theorem meetsAll_congr {Known : σ → Prop} {C D : σ → α → Prop} {f : σ → α → σ}
    (hknown : ∀ s a, Known s → Known (f s a)) (h : ∀ s a, Known s → (C s a ↔ D s a))
    {s : σ} {as : List α} (hs : Known s) : MeetsAll C f s as ↔ MeetsAll D f s as := by
  induction as generalizing s with
  | nil => exact Iff.rfl
  | cons a as ih => exact and_congr (h s a hs) (ih (hknown s a hs))

/-- A run of a step function is a run of the restricted system where each step meets a condition
that makes it one of its steps. -/
theorem Run.foldl {s : σ} {f : σ → α → σ} {C D : σ → α → Prop}
    (hstep : ∀ s a, D s a → C s a ∧ T.step s a (f s a)) {as : List α} (h : MeetsAll D f s as) :
    Run (T.restrict C) s as (as.foldl f s) := by
  induction as generalizing s with
  | nil => exact Run.nil
  | cons a as ih =>
      have hfirst : Run (T.restrict C) s [a] (f s a) := Run.snoc Run.nil (hstep s a h.1)
      exact hfirst.append (ih h.2)

theorem Reachable.foldl {s : σ} {f : σ → α → σ} {C D : σ → α → Prop}
    (hstep : ∀ s a, D s a → C s a ∧ T.step s a (f s a)) (hs : Reachable (T.restrict C) s)
    {as : List α} (h : MeetsAll D f s as) : Reachable (T.restrict C) (as.foldl f s) :=
  hs.of_run (Run.foldl hstep h)

/-- Every state of the run of `as` from `s`, the first and the last one included, has `P`. -/
def HoldsThroughout (P : σ → Prop) (f : σ → α → σ) : σ → List α → Prop
  | s, [] => P s
  | s, a :: as => P s ∧ HoldsThroughout P f (f s a) as

/-- What an invariant of the steps that meet `C` implies holds throughout their runs. -/
theorem HoldsThroughout.of_invariant {P Inv : σ → Prop} {C : σ → α → Prop} {f : σ → α → σ}
    (hP : ∀ s, Inv s → P s) (hstep : ∀ s a, Inv s → C s a → Inv (f s a)) {s : σ} {as : List α}
    (hs : Inv s) (h : MeetsAll C f s as) : HoldsThroughout P f s as := by
  induction as generalizing s with
  | nil => exact hP s hs
  | cons a as ih => exact ⟨hP s hs, ih (hstep s a hs h.1) h.2⟩

theorem HoldsThroughout.last {P : σ → Prop} {f : σ → α → σ} {s : σ} {as : List α}
    (h : HoldsThroughout P f s as) : P (as.foldl f s) := by
  induction as generalizing s with
  | nil => exact h
  | cons a as ih => exact ih h.2

/-- If a step keeps `P` exactly when it meets `C`, then `P` holds throughout a run exactly
when every step of the run meets `C`. -/
theorem holdsThroughout_iff {Known P : σ → Prop} {V C : σ → α → Prop} {f : σ → α → σ}
    (hknown : ∀ s a, Known s → V s a → Known (f s a))
    (hstep : ∀ s a, Known s → V s a → P s → (P (f s a) ↔ C s a))
    {s : σ} {as : List α} (hs : Known s) (hP : P s) (hV : MeetsAll V f s as) :
    HoldsThroughout P f s as ↔ MeetsAll C f s as := by
  induction as generalizing s with
  | nil => exact iff_of_true hP trivial
  | cons a as ih =>
      have hiff := hstep s a hs hV.1 hP
      constructor
      · intro hall
        have hnext : P (f s a) := by
          cases as with
          | nil => exact hall.2
          | cons b bs => exact hall.2.1
        exact ⟨hiff.mp hnext, (ih (hknown s a hs hV.1) hnext hV.2).mp hall.2⟩
      · intro hall
        have hnext := hiff.mpr hall.1
        exact ⟨hP, (ih (hknown s a hs hV.1) hnext hV.2).mpr hall.2⟩

theorem ofFunction_run {start s t : σ} {f : σ → α → σ} {as : List α} :
    Run (ofFunction start f) s as t ↔ t = as.foldl f s := by
  constructor
  · intro hrun
    induction hrun with
    | nil => rfl
    | snoc _ ha ih =>
        have ha' := ha
        simp only [ofFunction] at ha'
        rw [List.foldl_append, List.foldl_cons, List.foldl_nil, ← ih, ha']
  · rintro rfl
    induction as using List.reverseRecOn with
    | nil => exact Run.nil
    | append_singleton as a ih =>
        refine Run.snoc ih ?_
        rw [List.foldl_append]
        rfl

theorem reachable_foldl (start : σ) (f : σ → α → σ) (as : List α) :
    Reachable (ofFunction start f) (as.foldl f start) :=
  ⟨start, as, rfl, ofFunction_run.mpr rfl⟩

end TransitionSystem

end PicooCamera.Library
