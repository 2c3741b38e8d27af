import PicooCamera.Library.BigEndian

/-!
# Readers of a bit string

A reader takes what it reads off the front of a list of bits, most significant
bit first. `Local` says that a reader looks at nothing beyond the bits it takes:
whatever follows them, it reads the same value.
-/

namespace PicooCamera.Library

abbrev BitReader (α : Type) := StateT (List Bool) Option α

namespace BitReader

variable {α β : Type}

def bit : BitReader Bool := fun bits =>
  match bits with
  | [] => none
  | first :: rest => some (first, rest)

def fail : BitReader α := fun _ => none

/-- The next `width` bits appended to the number read so far. -/
def numberFrom (value : Nat) : Nat → BitReader Nat
  | 0 => pure value
  | width + 1 => do
      let next ← bit
      numberFrom (2 * value + next.toNat) width

/-- An unsigned number of a fixed width. -/
def number (width : Nat) : BitReader Nat := numberFrom 0 width

/-- An Exp-Golomb code of which `leading` zeros are read; at most `budget` more may follow. -/
def expGolombFrom (leading : Nat) : Nat → BitReader Nat
  | 0 => do
      if ← bit then
        let tail ← number leading
        return 2 ^ leading - 1 + tail
      else fail
  | budget + 1 => do
      if ← bit then
        let tail ← number leading
        return 2 ^ leading - 1 + tail
      else expGolombFrom (leading + 1) budget

/-- An unsigned Exp-Golomb code of at most 31 leading zeros. -/
def expGolomb : BitReader Nat := expGolombFrom 0 31

/-- The signed number of an Exp-Golomb code: 0, 1, -1, 2, -2 and so on. -/
def signedOf (code : Nat) : Int := if code % 2 = 0 then -(code / 2 : Nat) else (code / 2 : Nat) + 1

def signedExpGolomb : BitReader Int := do
  let code ← expGolomb
  return signedOf code

/-- A flag, and what it announces where it is set. -/
def flagged (p : BitReader α) : BitReader (Option α) := do
  if ← bit then
    let a ← p
    return some a
  else return none

/-- What is read only where a condition holds. -/
def optional (c : Prop) [Decidable c] (p : BitReader α) : BitReader (Option α) := do
  if c then
    let a ← p
    return some a
  else return none

def repeated (p : BitReader α) : Nat → BitReader (List α)
  | 0 => pure []
  | count + 1 => do
      let first ← p
      let rest ← repeated p count
      return first :: rest

/-! ## Execution -/

theorem bind_apply (p : BitReader α) (f : α → BitReader β) (bits : List Bool) :
    (p >>= f) bits = (p bits).bind fun result => f result.1 result.2 := rfl

theorem bind_eq_some {p : BitReader α} {f : α → BitReader β} {bits rest : List Bool} {b : β}
    (h : (p >>= f) bits = some (b, rest)) :
    ∃ a middle, p bits = some (a, middle) ∧ f a middle = some (b, rest) := by
  rw [bind_apply] at h
  obtain ⟨⟨a, middle⟩, hp, hf⟩ := Option.bind_eq_some_iff.mp h
  exact ⟨a, middle, hp, hf⟩

theorem bind_of_eq_some {p : BitReader α} {f : α → BitReader β} {bits middle : List Bool} {a : α}
    (h : p bits = some (a, middle)) : (p >>= f) bits = f a middle := by
  rw [bind_apply, h, Option.bind_some]

theorem optional_of_not {c : Prop} [Decidable c] (h : ¬ c) (p : BitReader α) :
    optional c p = pure none := if_neg h

theorem optional_of {c : Prop} [Decidable c] (h : c) (p : BitReader α) :
    optional c p = p >>= fun a => pure (some a) := if_pos h

theorem numberFrom_rest {value width result : Nat} {bits rest : List Bool}
    (h : numberFrom value width bits = some (result, rest)) (other : Nat) :
    ∃ result', numberFrom other width bits = some (result', rest) := by
  induction width generalizing value other bits with
  | zero =>
      cases h
      exact ⟨other, rfl⟩
  | succ width ih =>
      obtain ⟨next, middle, hbit, hnext⟩ := bind_eq_some h
      obtain ⟨result', hresult⟩ := ih hnext (2 * other + next.toNat)
      exact ⟨result', (bind_of_eq_some hbit).trans hresult⟩

theorem numberFrom_add (value first second : Nat) :
    numberFrom value (first + second) =
      numberFrom value first >>= fun middle => numberFrom middle second := by
  induction first generalizing value with
  | zero =>
      rw [Nat.zero_add]
      exact (pure_bind value fun middle => numberFrom middle second).symm
  | succ first ih =>
      rw [Nat.succ_add]
      show (bit >>= fun next => numberFrom (2 * value + next.toNat) (first + second)) =
        (bit >>= fun next => numberFrom (2 * value + next.toNat) first) >>= _
      rw [bind_assoc]
      exact congrArg (bit >>= ·) (funext fun next => ih _)

theorem number_add {first second a b : Nat} {bits middle rest : List Bool}
    (hfirst : number first bits = some (a, middle))
    (hsecond : number second middle = some (b, rest)) :
    ∃ result, number (first + second) bits = some (result, rest) := by
  obtain ⟨result, hresult⟩ := numberFrom_rest hsecond a
  unfold number at hfirst ⊢
  exact ⟨result, by rw [numberFrom_add, bind_of_eq_some hfirst, hresult]⟩

/-! ## Locality -/

/-- The reader depends only on the bits it takes. -/
def Local (p : BitReader α) : Prop :=
  ∀ bits a rest, p bits = some (a, rest) →
    ∃ front, bits = front ++ rest ∧ ∀ other, p (front ++ other) = some (a, other)

theorem local_pure (a : α) : Local (pure a : BitReader α) := by
  intro bits b rest h
  cases h
  exact ⟨[], rfl, fun _ => rfl⟩

theorem local_fail : Local (fail : BitReader α) := by
  intro bits a rest h
  cases h

theorem local_bit : Local bit := by
  intro bits first rest h
  cases bits with
  | nil => cases h
  | cons head tail =>
      cases h
      exact ⟨[first], rfl, fun _ => rfl⟩

theorem Local.bind {p : BitReader α} {f : α → BitReader β} (hp : Local p)
    (hf : ∀ a, Local (f a)) : Local (p >>= f) := by
  intro bits b rest h
  obtain ⟨a, middle, hfirst, hsecond⟩ := bind_eq_some h
  obtain ⟨front, rfl, hfront⟩ := hp bits a middle hfirst
  obtain ⟨back, rfl, hback⟩ := hf a middle b rest hsecond
  refine ⟨front ++ back, (List.append_assoc front back rest).symm, fun other => ?_⟩
  rw [List.append_assoc, bind_of_eq_some (hfront _), hback]

theorem Local.ite {c : Prop} [Decidable c] {p q : BitReader α} (hp : Local p) (hq : Local q) :
    Local (if c then p else q) := by
  split
  · exact hp
  · exact hq

theorem local_numberFrom (value width : Nat) : Local (numberFrom value width) := by
  induction width generalizing value with
  | zero => exact local_pure value
  | succ width ih => exact local_bit.bind fun next => ih (2 * value + next.toNat)

theorem local_number (width : Nat) : Local (number width) := local_numberFrom 0 width

theorem local_expGolombFrom (leading budget : Nat) : Local (expGolombFrom leading budget) := by
  induction budget generalizing leading with
  | zero =>
      exact local_bit.bind fun _ =>
        ((local_number leading).bind fun _ => local_pure _).ite local_fail
  | succ budget ih =>
      exact local_bit.bind fun _ =>
        ((local_number leading).bind fun _ => local_pure _).ite (ih (leading + 1))

theorem local_expGolomb : Local expGolomb := local_expGolombFrom 0 31

theorem local_signedExpGolomb : Local signedExpGolomb :=
  local_expGolomb.bind fun _ => local_pure _

theorem Local.flagged {p : BitReader α} (hp : Local p) : Local (flagged p) :=
  local_bit.bind fun _ => (hp.bind fun _ => local_pure _).ite (local_pure none)

theorem Local.optional {p : BitReader α} (hp : Local p) (c : Prop) [Decidable c] :
    Local (optional c p) :=
  (hp.bind fun _ => local_pure _).ite (local_pure none)

theorem Local.repeated {p : BitReader α} (hp : Local p) (count : Nat) :
    Local (repeated p count) := by
  induction count with
  | zero => exact local_pure []
  | succ count ih => exact hp.bind fun _ => ih.bind fun _ => local_pure _

theorem numberFrom_length {value width result : Nat} {bits rest : List Bool}
    (h : numberFrom value width bits = some (result, rest)) :
    bits.length = width + rest.length := by
  induction width generalizing value bits with
  | zero =>
      cases h
      exact (Nat.zero_add _).symm
  | succ width ih =>
      obtain ⟨next, middle, hbit, hnext⟩ := bind_eq_some h
      have hlength := ih hnext
      cases bits with
      | nil => cases hbit
      | cons head tail =>
          cases hbit
          rw [List.length_cons, hlength]
          omega

theorem number_front {width result : Nat} {bits rest : List Bool}
    (h : number width bits = some (result, rest)) :
    ∃ front, front.length = width ∧ bits = front ++ rest ∧
      ∀ other, number width (front ++ other) = some (result, other) := by
  obtain ⟨front, hbits, hfront⟩ := local_number width bits result rest h
  have hlength := numberFrom_length h
  rw [hbits, List.length_append] at hlength
  exact ⟨front, by omega, hbits, hfront⟩

end BitReader

/-! ## Bits of bytes -/

/-- The bits of a number of a fixed width. -/
def bitsOfNumber (width value : Nat) : List Bool :=
  (List.range width).reverse.map value.testBit

@[simp] theorem length_bitsOfNumber (width value : Nat) :
    (bitsOfNumber width value).length = width := by
  simp [bitsOfNumber]

theorem getElem?_bitsOfNumber {width ix : Nat} (h : ix < width) (value : Nat) :
    (bitsOfNumber width value)[ix]? = some (value.testBit (width - 1 - ix)) := by
  unfold bitsOfNumber
  rw [List.getElem?_map, List.getElem?_reverse (by simpa using h), List.length_range,
    List.getElem?_range (by omega), Option.map_some]

/-- The bits of a byte string, byte by byte. -/
def bitsOf (bytes : Bytes) : List Bool := bytes.flatMap fun byte => bitsOfNumber 8 byte.toNat

@[simp] theorem length_bitsOf (bytes : Bytes) : (bitsOf bytes).length = 8 * bytes.length := by
  induction bytes with
  | nil => rfl
  | cons byte bytes ih =>
      unfold bitsOf at ih ⊢
      rw [List.flatMap_cons, List.length_append, ih, length_bitsOfNumber, List.length_cons]
      omega

/-- One bit of a byte string. -/
def bitAt (bytes : Bytes) (ix : Nat) : Option Bool :=
  (bytes[ix / 8]?).map fun byte => byte.toNat.testBit (7 - ix % 8)

theorem getElem?_bitsOf (bytes : Bytes) (ix : Nat) : (bitsOf bytes)[ix]? = bitAt bytes ix := by
  induction bytes generalizing ix with
  | nil => simp [bitsOf, bitAt]
  | cons byte bytes ih =>
      have hcons : bitsOf (byte :: bytes) = bitsOfNumber 8 byte.toNat ++ bitsOf bytes :=
        List.flatMap_cons
      rw [hcons]
      by_cases h : ix < 8
      · have hdiv : ix / 8 = 0 := by omega
        have hmod : ix % 8 = ix := by omega
        rw [List.getElem?_append_left (by simpa using h), getElem?_bitsOfNumber h]
        unfold bitAt
        rw [hdiv, hmod, List.getElem?_cons_zero, Option.map_some]
      · obtain ⟨rest, rfl⟩ := Nat.exists_eq_add_of_le (Nat.not_lt.mp h)
        have hdiv : (8 + rest) / 8 = rest / 8 + 1 := by omega
        have hmod : (8 + rest) % 8 = rest % 8 := by omega
        have hlen : (bitsOfNumber 8 byte.toNat).length ≤ 8 + rest := by
          rw [length_bitsOfNumber]
          omega
        rw [List.getElem?_append_right hlen, length_bitsOfNumber, Nat.add_sub_cancel_left, ih]
        unfold bitAt
        rw [hdiv, hmod, List.getElem?_cons_succ]

/-- Set one bit of a byte string. -/
def setBit (bytes : Bytes) (ix : Nat) : Bytes :=
  bytes.modify (ix / 8) fun byte => byte ||| UInt8.ofNat (2 ^ (7 - ix % 8))

theorem bitAt_setBit (bytes : Bytes) (ix other : Nat) :
    bitAt (setBit bytes ix) other = (bitAt bytes other).map fun bit => bit || other = ix := by
  unfold bitAt setBit
  rw [List.getElem?_modify]
  cases bytes[other / 8]? with
  | none => rfl
  | some byte =>
      simp only [Option.map_eq_map, Option.map_some]
      by_cases hbyte : ix / 8 = other / 8
      · have hpow : (2 : Nat) ^ (7 - ix % 8) < 256 :=
          Nat.lt_of_le_of_lt (Nat.pow_le_pow_right (by decide) (Nat.sub_le 7 _)) (by decide)
        have hofNat : (UInt8.ofNat (2 ^ (7 - ix % 8))).toNat = 2 ^ (7 - ix % 8) :=
          UInt8.toNat_ofNat_of_lt hpow
        rw [if_pos hbyte, UInt8.toNat_or, hofNat, Nat.testBit_or, Nat.testBit_two_pow]
        congr 2
        rw [decide_eq_decide]
        omega
      · rw [if_neg hbyte]
        have hne : ¬ other = ix := by
          intro heq
          exact hbyte (by rw [heq])
        rw [decide_eq_false hne, Bool.or_false]

/-- Set the bits of a list in a byte string, from bit `first` on. -/
def setBitsFrom (first : Nat) (bits : List Bool) (bytes : Bytes) : Bytes :=
  (bits.zipIdx first).foldl
    (fun bytes entry => if entry.1 then setBit bytes entry.2 else bytes) bytes

theorem bitAt_setBitsFrom (first : Nat) (bits : List Bool) (bytes : Bytes) (ix : Nat) :
    bitAt (setBitsFrom first bits bytes) ix =
      (bitAt bytes ix).map fun bit =>
        bit || (first ≤ ix ∧ bits[ix - first]? = some true) := by
  induction bits generalizing first bytes with
  | nil => simp [setBitsFrom]
  | cons head bits ih =>
      have hstep : setBitsFrom first (head :: bits) bytes =
          setBitsFrom (first + 1) bits (if head then setBit bytes first else bytes) := by
        unfold setBitsFrom
        rw [List.zipIdx_cons, List.foldl_cons]
      have hhead : bitAt (if head then setBit bytes first else bytes) ix =
          (bitAt bytes ix).map fun bit => bit || (ix = first ∧ head = true) := by
        cases head with
        | false => simp
        | true =>
            rw [if_pos rfl, bitAt_setBit]
            simp
      rw [hstep, ih, hhead, Option.map_map]
      congr 1
      funext bit
      rw [Function.comp_apply, Bool.or_assoc, ← Bool.decide_or]
      congr 1
      rw [decide_eq_decide]
      rcases Nat.lt_trichotomy ix first with hlt | heq | hgt
      · constructor
        · rintro (⟨h, _⟩ | ⟨h, _⟩) <;> omega
        · rintro ⟨h, _⟩
          omega
      · rw [heq, Nat.sub_self, List.getElem?_cons_zero]
        constructor
        · rintro (⟨_, h⟩ | ⟨h, _⟩)
          · exact ⟨Nat.le_refl _, congrArg some h⟩
          · omega
        · rintro ⟨_, h⟩
          exact Or.inl ⟨rfl, Option.some.inj h⟩
      · obtain ⟨rest, rfl⟩ := Nat.exists_eq_add_of_lt hgt
        have hsub : first + rest + 1 - first = rest + 1 := by omega
        have hsub' : first + rest + 1 - (first + 1) = rest := by omega
        rw [hsub, hsub', List.getElem?_cons_succ]
        constructor
        · rintro (⟨h, _⟩ | ⟨_, h⟩)
          · omega
          · exact ⟨by omega, h⟩
        · rintro ⟨_, h⟩
          exact Or.inr ⟨by omega, h⟩

/-- A list of bits as a byte string, filled up with zeros. -/
def packBits (bits : List Bool) : Bytes :=
  setBitsFrom 0 bits (List.replicate ((bits.length + 7) / 8) 0)

theorem bitAt_replicate_zero (count ix : Nat) :
    bitAt (List.replicate count 0) ix = if ix < 8 * count then some false else none := by
  unfold bitAt
  rw [List.getElem?_replicate]
  by_cases h : ix < 8 * count
  · rw [if_pos h, if_pos (by omega), Option.map_some]
    simp
  · rw [if_neg h, if_neg (by omega), Option.map_none]

theorem bitsOf_packBits (bits : List Bool) :
    bitsOf (packBits bits) =
      bits ++ List.replicate (8 * ((bits.length + 7) / 8) - bits.length) false := by
  apply List.ext_getElem?
  intro ix
  rw [getElem?_bitsOf]
  unfold packBits
  rw [bitAt_setBitsFrom, bitAt_replicate_zero, Nat.sub_zero]
  rcases Nat.lt_or_ge ix bits.length with hbits | hpad
  · rw [List.getElem?_append_left hbits, if_pos (by omega), Option.map_some,
      List.getElem?_eq_getElem hbits]
    simp
  · rw [List.getElem?_append_right hpad, List.getElem?_eq_none hpad, List.getElem?_replicate]
    by_cases hlt : ix < 8 * ((bits.length + 7) / 8)
    · rw [if_pos hlt, if_pos (by omega), Option.map_some]
      simp
    · rw [if_neg hlt, if_neg (by omega), Option.map_none]

end PicooCamera.Library
