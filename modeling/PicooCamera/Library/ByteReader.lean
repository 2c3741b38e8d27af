import PicooCamera.Library.BigEndian
import PicooCamera.Library.Program

/-!
# Readers of a byte string

A reader is a buffer and a position in it. `Reads p W` says what a program over
it accepts: the value, the bytes that it takes and those that it leaves. The
rules below follow the program, so that the layout of a message is read off the
program that decodes it.
-/

namespace PicooCamera.Library

/-! ## Little-endian numbers -/

def putLE (w n : Nat) : Bytes := (putBE w n).reverse

def getLE (bytes : Bytes) : Nat := getBE bytes.reverse

@[simp] theorem length_putLE (w n : Nat) : (putLE w n).length = w := by
  simp [putLE]

theorem getLE_putLE {w n : Nat} (h : n < 256 ^ w) : getLE (putLE w n) = n := by
  rw [getLE, putLE, List.reverse_reverse, getBE_putBE h]

theorem getLE_lt (bytes : Bytes) : getLE bytes < 256 ^ bytes.length := by
  have h := getBE_lt bytes.reverse
  rwa [List.length_reverse] at h

theorem putLE_getLE (bytes : Bytes) : putLE bytes.length (getLE bytes) = bytes := by
  rw [putLE, getLE]
  apply List.reverse_injective
  rw [List.reverse_reverse, ← List.length_reverse, putBE_getBE]

/-! ## Readers -/

/-- A position in a buffer, which is never beyond its end. -/
@[ext] structure ByteReader where
  bytes : Bytes
  offset : Nat
  inBounds : offset ≤ bytes.length

namespace ByteReader

open Program

variable {ε α β : Type}

/-- What is still to be read. -/
def rest (r : ByteReader) : Bytes := r.bytes.drop r.offset

def take (error : ε) (length : Nat) : Program ByteReader ε Bytes := fun r =>
  if h : r.offset + length ≤ r.bytes.length then
    (.ok (r.rest.take length), ⟨r.bytes, r.offset + length, h⟩)
  else (.error error, r)

def finish (error : ε) : Program ByteReader ε Unit := fun r =>
  if r.offset = r.bytes.length then (.ok (), r) else (.error error, r)

/-- The value of an option, or an error in its place. -/
def okOr (a : Option α) (error : ε) : Program ByteReader ε α :=
  Program.ofExcept (a.elim (.error error) .ok)

theorem length_rest (r : ByteReader) : r.rest.length = r.bytes.length - r.offset :=
  List.length_drop

theorem rest_eq_nil_iff (r : ByteReader) : r.rest = [] ↔ r.offset = r.bytes.length := by
  rw [rest, List.drop_eq_nil_iff]
  have h := r.inBounds
  omega

theorem eq_of_rest {r s : ByteReader} (hbytes : r.bytes = s.bytes) (hrest : r.rest = s.rest) :
    r = s := by
  have hlength := congrArg List.length hrest
  rw [length_rest, length_rest, hbytes] at hlength
  have hr := r.inBounds
  have hs := s.inBounds
  rw [hbytes] at hr
  apply ByteReader.ext hbytes
  omega

theorem exists_behind {r : ByteReader} {consumed left : Bytes} (h : r.rest = consumed ++ left) :
    ∃ s : ByteReader, s.bytes = r.bytes ∧ s.rest = left := by
  have hlength := congrArg List.length h
  rw [length_rest, List.length_append] at hlength
  have hr := r.inBounds
  refine ⟨⟨r.bytes, r.offset + consumed.length, by omega⟩, rfl, ?_⟩
  calc
    r.bytes.drop (r.offset + consumed.length) = r.rest.drop consumed.length := by
      rw [rest, List.drop_drop]
    _ = left := by rw [h, List.drop_left]

/-- The reader only moves on in its buffer. -/
def Advances (r s : ByteReader) : Prop := s.bytes = r.bytes ∧ r.offset ≤ s.offset

instance : Frame Advances where
  refl _ := ⟨rfl, Nat.le_refl _⟩
  trans hrs hst := ⟨hst.1.trans hrs.1, hrs.2.trans hst.2⟩

instance (error : ε) (length : Nat) : Keeps Advances (take error length) := by
  constructor
  intro r
  change Advances r (if h : r.offset + length ≤ r.bytes.length then
      (Except.ok (r.rest.take length), ByteReader.mk r.bytes (r.offset + length) h)
    else (.error error, r)).2
  split
  · exact ⟨rfl, Nat.le_add_right _ _⟩
  · exact Frame.refl r

instance (error : ε) : Keeps Advances (finish error) := by
  constructor
  intro r
  change Advances r (if r.offset = r.bytes.length then (Except.ok (), r) else (.error error, r)).2
  split <;> exact Frame.refl r

instance (a : Option α) (error : ε) : Keeps Advances (okOr a error) := by
  unfold okOr
  infer_instance

/-! ## What a program reads -/

/-- `p` returns `a` exactly where it takes `consumed` and leaves `left` with
`W a consumed left`. -/
def Reads (p : Program ByteReader ε α) (W : α → Bytes → Bytes → Prop) : Prop :=
  ∀ r a s, exec p r = (.ok a, s) ↔
    s.bytes = r.bytes ∧ ∃ consumed, r.rest = consumed ++ s.rest ∧ W a consumed s.rest

/-- `p` takes the bytes `put a` and returns `a`, whatever follows them. -/
def Exact (p : Program ByteReader ε α) (put : α → Bytes) : Prop :=
  Reads p fun a consumed _ => consumed = put a

theorem Reads.congr {p : Program ByteReader ε α} {W V : α → Bytes → Bytes → Prop}
    (hp : Reads p W) (h : ∀ a consumed left, W a consumed left ↔ V a consumed left) :
    Reads p V := by
  intro r a s
  rw [hp r a s]
  simp only [h]

theorem reads_pure (a : α) :
    Reads (pure a : Program ByteReader ε α) fun b consumed _ => b = a ∧ consumed = [] := by
  intro r b s
  rw [exec_pure]
  constructor
  · intro h
    cases h
    exact ⟨rfl, [], rfl, rfl, rfl⟩
  · rintro ⟨hbytes, consumed, hrest, rfl, rfl⟩
    rw [eq_of_rest hbytes hrest.symm]

theorem reads_fail (error : ε) :
    Reads (fail error : Program ByteReader ε α) fun _ _ _ => False := by
  intro r b s
  rw [exec_fail]
  constructor
  · intro h
    cases congrArg Prod.fst h
  · rintro ⟨_, _, _, hfalse⟩
    exact hfalse.elim

theorem reads_okOr (a : Option α) (error : ε) :
    Reads (okOr a error) fun b consumed _ => a = some b ∧ consumed = [] := by
  cases a with
  | none =>
      refine (reads_fail error).congr fun b consumed left => ?_
      simp
  | some a =>
      refine (reads_pure a).congr fun b consumed left => ?_
      simp [eq_comm]

theorem reads_finish (error : ε) :
    Reads (finish error) fun _ consumed left => consumed = [] ∧ left = [] := by
  intro r a s
  change (if r.offset = r.bytes.length then (Except.ok (), r) else (.error error, r)) =
    (.ok a, s) ↔ _
  by_cases hend : r.rest = []
  · rw [if_pos (r.rest_eq_nil_iff.mp hend)]
    constructor
    · intro h
      cases h
      exact ⟨rfl, [], rfl, rfl, hend⟩
    · rintro ⟨hbytes, consumed, hrest, rfl, _⟩
      rw [eq_of_rest hbytes hrest.symm]
  · rw [if_neg fun h => hend (r.rest_eq_nil_iff.mpr h)]
    constructor
    · intro h
      cases congrArg Prod.fst h
    · rintro ⟨_, consumed, hrest, rfl, hleft⟩
      rw [hleft] at hrest
      exact (hend hrest).elim

theorem reads_take (error : ε) (length : Nat) :
    Reads (take error length) fun a consumed _ => consumed = a ∧ a.length = length := by
  intro r a s
  have hlength := r.length_rest
  have hr := r.inBounds
  change (if h : r.offset + length ≤ r.bytes.length then
      (Except.ok (r.rest.take length), ByteReader.mk r.bytes (r.offset + length) h)
    else (.error error, r)) = (.ok a, s) ↔ _
  by_cases hfits : r.offset + length ≤ r.bytes.length
  · rw [dif_pos hfits]
    have hsplit : r.rest = r.rest.take length ++ r.bytes.drop (r.offset + length) := by
      rw [← List.drop_drop]
      exact (List.take_append_drop length r.rest).symm
    constructor
    · intro h
      cases h
      refine ⟨rfl, _, hsplit, rfl, ?_⟩
      rw [List.length_take]
      omega
    · rintro ⟨hbytes, consumed, hrest, rfl, hconsumed⟩
      have htake : r.rest.take length = consumed := by
        rw [hrest, ← hconsumed, List.take_left]
      have hleft : s.rest = r.bytes.drop (r.offset + length) := by
        rw [htake, hrest] at hsplit
        exact List.append_cancel_left hsplit
      rw [htake, eq_of_rest (r := s) (s := ⟨r.bytes, r.offset + length, hfits⟩) hbytes hleft]
  · rw [dif_neg hfits]
    constructor
    · intro h
      cases congrArg Prod.fst h
    · rintro ⟨_, consumed, hrest, rfl, hconsumed⟩
      have htotal := congrArg List.length hrest
      rw [List.length_append] at htotal
      omega

theorem Reads.bind {p : Program ByteReader ε α} {f : α → Program ByteReader ε β}
    {W : α → Bytes → Bytes → Prop} {V : α → β → Bytes → Bytes → Prop} (hp : Reads p W)
    (hf : ∀ a, Reads (f a) (V a)) :
    Reads (p >>= f) fun b consumed left =>
      ∃ a first second, consumed = first ++ second ∧ W a first (second ++ left) ∧
        V a b second left := by
  intro r b s
  constructor
  · intro h
    obtain ⟨a, t, hfirst, hsecond⟩ := of_exec_bind_ok h
    obtain ⟨hbytes, first, hrest, hw⟩ := (hp r a t).mp hfirst
    obtain ⟨hbytes', second, hrest', hv⟩ := (hf a t b s).mp hsecond
    refine ⟨hbytes'.trans hbytes, first ++ second, ?_, a, first, second, rfl, ?_, hv⟩
    · rw [hrest, hrest', List.append_assoc]
    · rw [← hrest']
      exact hw
  · rintro ⟨hbytes, _, hrest, a, first, second, rfl, hw, hv⟩
    rw [List.append_assoc] at hrest
    obtain ⟨t, htbytes, htrest⟩ := exists_behind hrest
    have hfirst : exec p r = (.ok a, t) := by
      refine (hp r a t).mpr ⟨htbytes, first, ?_, ?_⟩
      · rw [hrest, htrest]
      · rw [htrest]
        exact hw
    rw [exec_bind_ok hfirst]
    exact (hf a t b s).mpr ⟨hbytes.trans htbytes.symm, second, htrest, hv⟩

theorem Exact.bind {p : Program ByteReader ε α} {f : α → Program ByteReader ε β}
    {put : α → Bytes} {V : α → β → Bytes → Bytes → Prop} (hp : Exact p put)
    (hf : ∀ a, Reads (f a) (V a)) :
    Reads (p >>= f) fun b consumed left =>
      ∃ a second, consumed = put a ++ second ∧ V a b second left := by
  intro r b s
  rw [Reads.bind hp hf r b s]
  constructor
  · rintro ⟨hbytes, consumed, hrest, a, _, second, hconsumed, rfl, hv⟩
    exact ⟨hbytes, consumed, hrest, a, second, hconsumed, hv⟩
  · rintro ⟨hbytes, consumed, hrest, a, second, hconsumed, hv⟩
    exact ⟨hbytes, consumed, hrest, a, put a, second, hconsumed, rfl, hv⟩

theorem Reads.ite {c : Prop} [Decidable c] {p q : Program ByteReader ε α}
    {W V : α → Bytes → Bytes → Prop} (hp : Reads p W) (hq : Reads q V) :
    Reads (if c then p else q) fun a consumed left =>
      (c ∧ W a consumed left) ∨ (¬ c ∧ V a consumed left) := by
  intro r a s
  by_cases h : c
  · simpa [h] using hp r a s
  · simpa [h] using hq r a s

theorem Exact.ofTake {error : ε} {width : Nat} {put : α → Bytes} {ofBytes : Bytes → α}
    (hwidth : ∀ a, (put a).length = width) (hput : ∀ a, ofBytes (put a) = a)
    (hofBytes : ∀ bytes, bytes.length = width → put (ofBytes bytes) = bytes) :
    Exact (take error width >>= fun bytes => pure (ofBytes bytes)) put := by
  refine (Reads.bind (reads_take error width) fun bytes => reads_pure (ofBytes bytes)).congr ?_
  intro a consumed left
  constructor
  · rintro ⟨bytes, _, _, rfl, ⟨rfl, hlength⟩, rfl, rfl⟩
    rw [List.append_nil, hofBytes _ hlength]
  · rintro rfl
    exact ⟨put a, put a, [], (List.append_nil _).symm, ⟨rfl, hwidth a⟩, (hput a).symm, rfl⟩

theorem Reads.value_eq_ok_iff {p : Program ByteReader ε α} {W : α → Bytes → Bytes → Prop}
    (hp : Reads p W) (hend : ∀ a consumed left, W a consumed left → left = [])
    (r : ByteReader) (a : α) : (exec p r).1 = .ok a ↔ W a r.rest [] := by
  constructor
  · intro h
    obtain ⟨-, consumed, hrest, hw⟩ := (hp r a (exec p r).2).mp (Prod.ext h rfl)
    rw [hend _ _ _ hw] at hrest hw
    rw [hrest, List.append_nil]
    exact hw
  · intro hw
    obtain ⟨s, hbytes, hrest⟩ := exists_behind (List.append_nil r.rest).symm
    have hrun : exec p r = (.ok a, s) := by
      refine (hp r a s).mpr ⟨hbytes, r.rest, ?_, ?_⟩
      · rw [hrest, List.append_nil]
      · rw [hrest]
        exact hw
    rw [hrun]

end ByteReader

end PicooCamera.Library
