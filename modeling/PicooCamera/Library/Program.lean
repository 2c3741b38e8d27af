import Mathlib

/-!
# Programs that may fail

A program over a state returns a value or an error. An error keeps the state
that the program had reached, as a function that takes `&mut self` does.

`Keeps R p` says that `p` relates the states before and after it by `R`. The
instances below carry a reflexive and transitive relation through a program,
so that a relation which the elementary steps keep is kept by what is built
from them.
-/

namespace PicooCamera.Library

abbrev Program (σ ε α : Type) := ExceptT ε (StateM σ) α

namespace Program

variable {σ ε α β : Type}

def exec (p : Program σ ε α) (s : σ) : Except ε α × σ := p.run.run s

/-! ## Elementary programs -/

def read (f : σ → α) : Program σ ε α := fun s => (.ok (f s), s)

def update (f : σ → σ) : Program σ ε Unit := fun s => (.ok (), f s)

def fail (error : ε) : Program σ ε α := fun s => (.error error, s)

/-- Run `p` and hand its outcome on, so that an error does not end the caller. -/
def attempt (p : Program σ ε α) : Program σ ε (Except ε α) := fun s =>
  (.ok (exec p s).1, (exec p s).2)

def when (c : Prop) [Decidable c] (p : Program σ ε Unit) : Program σ ε Unit :=
  if c then p else pure ()

def ofExcept (r : Except ε α) : Program σ ε α := fun s => (r, s)

/-- A program over one part of the state. -/
def focus {τ : Type} (get : σ → τ) (set : τ → σ → σ) (p : Program τ ε α) : Program σ ε α :=
  fun s => ((exec p (get s)).1, set (exec p (get s)).2 s)

/-! ## Execution -/

@[simp] theorem exec_pure (a : α) (s : σ) :
    exec (pure a : Program σ ε α) s = (.ok a, s) := rfl

theorem exec_bind (p : Program σ ε α) (f : α → Program σ ε β) (s : σ) :
    exec (p >>= f) s =
      match exec p s with
      | (.ok a, t) => exec (f a) t
      | (.error e, t) => (.error e, t) := by
  change (match exec p s with | (r, t) => (ExceptT.bindCont f r : StateM σ (Except ε β)) t) = _
  cases h : exec p s with
  | mk result t =>
      cases result with
      | ok a => rfl
      | error e => rfl

theorem exec_bind_ok {p : Program σ ε α} {f : α → Program σ ε β} {s t : σ} {a : α}
    (h : exec p s = (.ok a, t)) : exec (p >>= f) s = exec (f a) t := by
  rw [exec_bind, h]

theorem exec_bind_error {p : Program σ ε α} {f : α → Program σ ε β} {s t : σ} {e : ε}
    (h : exec p s = (.error e, t)) : exec (p >>= f) s = (.error e, t) := by
  rw [exec_bind, h]

@[simp] theorem exec_read (f : σ → α) (s : σ) :
    exec (read f : Program σ ε α) s = (.ok (f s), s) := rfl

@[simp] theorem exec_update (f : σ → σ) (s : σ) :
    exec (update f : Program σ ε Unit) s = (.ok (), f s) := rfl

@[simp] theorem exec_fail (error : ε) (s : σ) :
    exec (fail error : Program σ ε α) s = (.error error, s) := rfl

@[simp] theorem exec_attempt (p : Program σ ε α) (s : σ) :
    exec (attempt p) s = (.ok (exec p s).1, (exec p s).2) := rfl

@[simp] theorem exec_ofExcept (r : Except ε α) (s : σ) :
    exec (ofExcept r : Program σ ε α) s = (r, s) := rfl

theorem of_exec_bind_ok {p : Program σ ε α} {f : α → Program σ ε β} {s u : σ} {b : β}
    (h : exec (p >>= f) s = (.ok b, u)) :
    ∃ a t, exec p s = (.ok a, t) ∧ exec (f a) t = (.ok b, u) := by
  rw [exec_bind] at h
  cases hp : exec p s with
  | mk result t =>
      rw [hp] at h
      cases result with
      | ok a => exact ⟨a, t, rfl, h⟩
      | error e => exact nomatch congrArg Prod.fst h

theorem exec_bind_pure (p : Program σ ε α) (f : α → β) (s : σ) :
    exec (p >>= fun a => pure (f a)) s = ((exec p s).1.map f, (exec p s).2) := by
  rw [exec_bind]
  cases h : exec p s with
  | mk result t => cases result <;> rfl

theorem exec_ite (c : Prop) [Decidable c] (p q : Program σ ε α) (s : σ) :
    exec (if c then p else q) s = if c then exec p s else exec q s := by
  split <;> rfl

@[simp] theorem exec_read_bind (f : σ → α) (g : α → Program σ ε β) (s : σ) :
    exec (read f >>= g) s = exec (g (f s)) s := exec_bind_ok (exec_read f s)

@[simp] theorem exec_update_bind (f : σ → σ) (g : Unit → Program σ ε β) (s : σ) :
    exec (update f >>= g) s = exec (g ()) (f s) := exec_bind_ok (exec_update f s)

@[simp] theorem exec_attempt_bind (p : Program σ ε α) (g : Except ε α → Program σ ε β) (s : σ) :
    exec (attempt p >>= g) s = exec (g (exec p s).1) (exec p s).2 :=
  exec_bind_ok (exec_attempt p s)

theorem exec_when_true {c : Prop} [Decidable c] (h : c) (p : Program σ ε Unit) (s : σ) :
    exec (when c p) s = exec p s := by
  rw [when, if_pos h]

theorem exec_when_false {c : Prop} [Decidable c] (h : ¬c) (p : Program σ ε Unit) (s : σ) :
    exec (when c p) s = (.ok (), s) := by
  rw [when, if_neg h]
  rfl

theorem exec_when_update_bind (c : Prop) [Decidable c] (f : σ → σ) (g : Unit → Program σ ε β)
    (s : σ) : exec (when c (update f) >>= g) s = exec (g ()) (if c then f s else s) := by
  by_cases h : c
  · rw [if_pos h]
    exact exec_bind_ok (exec_when_true h _ s)
  · rw [if_neg h]
    exact exec_bind_ok (exec_when_false h _ s)

/-! ## Relations that a program keeps -/

class Frame (R : σ → σ → Prop) : Prop where
  refl : ∀ s, R s s
  trans : ∀ {s t u}, R s t → R t u → R s u

/-- An invariant, as the relation of the states between which it is not lost. -/
def Keeping (Inv : σ → Prop) (s t : σ) : Prop := Inv s → Inv t

instance (Inv : σ → Prop) : Frame (Keeping Inv) where
  refl _ h := h
  trans hst htu h := htu (hst h)

class Keeps (R : σ → σ → Prop) (p : Program σ ε α) : Prop where
  keeps : ∀ s, R s (exec p s).2

section Keeps

variable {R : σ → σ → Prop}

instance [Frame R] (a : α) : Keeps R (pure a : Program σ ε α) := ⟨fun s => Frame.refl s⟩

instance keeps_bind [Frame R] (p : Program σ ε α) (f : α → Program σ ε β) [hp : Keeps R p]
    [hf : ∀ a, Keeps R (f a)] : Keeps R (p >>= f) := by
  constructor
  intro s
  have hs := hp.keeps s
  rw [exec_bind]
  cases h : exec p s with
  | mk result t =>
      rw [h] at hs
      cases result with
      | ok a => exact Frame.trans hs ((hf a).keeps t)
      | error e => exact hs

/-- As the instance, for what follows a choice. -/
theorem keeps_then [Frame R] {p : Program σ ε α} {f : α → Program σ ε β} (hp : Keeps R p)
    (hf : ∀ a, Keeps R (f a)) : Keeps R (p >>= f) :=
  inferInstance

/-- As the instance, for a program whose start is only known relative to `s₀`. -/
theorem keeps_from [Frame R] {p : Program σ ε α} {f : α → Program σ ε β} {s₀ s : σ}
    (hp : R s₀ (exec p s).2) (hf : ∀ a, Keeps R (f a)) : R s₀ (exec (p >>= f) s).2 := by
  rw [exec_bind]
  cases h : exec p s with
  | mk result t =>
      rw [h] at hp
      cases result with
      | ok a => exact Frame.trans hp ((hf a).keeps t)
      | error e => exact hp

instance [Frame R] (f : σ → α) : Keeps R (read f : Program σ ε α) := ⟨fun s => Frame.refl s⟩

instance [Frame R] (error : ε) : Keeps R (fail error : Program σ ε α) :=
  ⟨fun s => Frame.refl s⟩

instance [Frame R] (r : Except ε α) : Keeps R (ofExcept r : Program σ ε α) :=
  ⟨fun s => Frame.refl s⟩

instance (p : Program σ ε α) [hp : Keeps R p] : Keeps R (attempt p) := ⟨fun s => hp.keeps s⟩

instance (c : Prop) [Decidable c] (p q : Program σ ε α) [hp : Keeps R p] [hq : Keeps R q] :
    Keeps R (if c then p else q) := by
  by_cases h : c
  · rw [if_pos h]
    exact hp
  · rw [if_neg h]
    exact hq

instance [Frame R] (c : Prop) [Decidable c] (p : Program σ ε Unit) [Keeps R p] :
    Keeps R (when c p) := by
  unfold when
  infer_instance

theorem keeps_update {f : σ → σ} (h : ∀ s, R s (f s)) :
    Keeps R (update f : Program σ ε Unit) := ⟨h⟩

end Keeps

end Program

end PicooCamera.Library
