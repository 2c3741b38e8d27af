import Mathlib

/-!
# Big-endian integers in byte lists

`putBE w n` writes the low `w` bytes of `n`, most significant first, and
`getBE` reads a byte list back as a number.
-/

namespace PicooCamera.Library

abbrev Bytes := List UInt8

def putBE : Nat → Nat → Bytes
  | 0, _ => []
  | w + 1, n => UInt8.ofNat (n / 256 ^ w) :: putBE w n

def getBE (bytes : Bytes) : Nat :=
  bytes.foldl (fun acc byte => 256 * acc + byte.toNat) 0

@[simp] theorem length_putBE (w n : Nat) : (putBE w n).length = w := by
  induction w with
  | zero => rfl
  | succ w ih => simp [putBE, ih]

private theorem foldl_getBE (bytes : Bytes) (acc : Nat) :
    bytes.foldl (fun acc byte => 256 * acc + byte.toNat) acc =
      256 ^ bytes.length * acc + getBE bytes := by
  induction bytes generalizing acc with
  | nil => simp [getBE]
  | cons byte bytes ih =>
      have hcons : getBE (byte :: bytes) =
          256 ^ bytes.length * byte.toNat + getBE bytes := by
        simp only [getBE, List.foldl_cons]
        rw [ih]
        simp [getBE]
      rw [List.foldl_cons, ih, hcons, List.length_cons, pow_succ]
      ring

theorem getBE_cons (byte : UInt8) (bytes : Bytes) :
    getBE (byte :: bytes) = 256 ^ bytes.length * byte.toNat + getBE bytes := by
  have h := foldl_getBE bytes (256 * 0 + byte.toNat)
  simpa [getBE] using h

theorem getBE_putBE_mod (w n : Nat) : getBE (putBE w n) = n % 256 ^ w := by
  induction w with
  | zero => simp [putBE, getBE, Nat.mod_one]
  | succ w ih =>
      have hbyte : (UInt8.ofNat (n / 256 ^ w)).toNat = n / 256 ^ w % 256 := by
        simp
      rw [putBE, getBE_cons, length_putBE, ih, hbyte, pow_succ,
        Nat.mod_mul, Nat.add_comm]

theorem getBE_putBE {w n : Nat} (h : n < 256 ^ w) : getBE (putBE w n) = n := by
  rw [getBE_putBE_mod, Nat.mod_eq_of_lt h]

theorem getBE_lt (bytes : Bytes) : getBE bytes < 256 ^ bytes.length := by
  induction bytes with
  | nil => simp [getBE]
  | cons byte bytes ih =>
      have hbyte : byte.toNat < 256 := byte.toNat_lt
      have hstep : 256 ^ bytes.length * byte.toNat + 256 ^ bytes.length ≤
          256 ^ bytes.length * 256 := by
        rw [← Nat.mul_succ]
        exact Nat.mul_le_mul_left _ hbyte
      rw [getBE_cons, List.length_cons, pow_succ]
      omega

theorem putBE_injective {w m n : Nat} (hm : m < 256 ^ w) (hn : n < 256 ^ w)
    (h : putBE w m = putBE w n) : m = n := by
  rw [← getBE_putBE hm, h, getBE_putBE hn]

theorem putBE_add_mul (w k n : Nat) : putBE w (256 ^ w * k + n) = putBE w n := by
  induction w generalizing k with
  | zero => rfl
  | succ w ih =>
      have hpos : 0 < 256 ^ w := Nat.pow_pos (by decide)
      have hsplit : 256 ^ (w + 1) * k + n = 256 ^ w * (256 * k) + n := by ring
      have hbyte : (256 ^ (w + 1) * k + n) / 256 ^ w = 256 * k + n / 256 ^ w := by
        rw [hsplit, Nat.mul_add_div hpos]
      have hmod : UInt8.ofNat (256 * k + n / 256 ^ w) = UInt8.ofNat (n / 256 ^ w) := by
        apply UInt8.toNat.inj
        simp
      rw [putBE, putBE, hbyte, hmod, hsplit, ih]

theorem putBE_getBE (bytes : Bytes) : putBE bytes.length (getBE bytes) = bytes := by
  induction bytes with
  | nil => rfl
  | cons byte bytes ih =>
      have hlow : getBE bytes < 256 ^ bytes.length := getBE_lt bytes
      have hpos : 0 < 256 ^ bytes.length := Nat.pow_pos (by decide)
      have hhigh : getBE (byte :: bytes) / 256 ^ bytes.length = byte.toNat := by
        rw [getBE_cons, Nat.mul_add_div hpos, Nat.div_eq_of_lt hlow, Nat.add_zero]
      have htail : putBE bytes.length (getBE (byte :: bytes)) =
          putBE bytes.length (getBE bytes) := by
        rw [getBE_cons, putBE_add_mul]
      rw [List.length_cons, putBE, hhigh, htail, ih, UInt8.ofNat_toNat]

/-! ## Reading a field from the front of a buffer -/

@[simp] theorem take_putBE_append (w n : Nat) (rest : Bytes) :
    (putBE w n ++ rest).take w = putBE w n := by
  simp

@[simp] theorem drop_putBE_append (w n : Nat) (rest : Bytes) :
    (putBE w n ++ rest).drop w = rest := by
  simp

/-- `take_u8`, `take_u32`, ... of a buffer: the number in its first `w` bytes. -/
def peekBE (w : Nat) (buf : Bytes) : Nat :=
  getBE (buf.take w)

theorem peekBE_putBE_append {w n : Nat} (h : n < 256 ^ w) (rest : Bytes) :
    peekBE w (putBE w n ++ rest) = n := by
  rw [peekBE, take_putBE_append, getBE_putBE h]

theorem putBE_peekBE {w : Nat} {buf : Bytes} (h : w ≤ buf.length) :
    putBE w (peekBE w buf) = buf.take w := by
  have hlength : (buf.take w).length = w := by simp [h]
  calc
    putBE w (peekBE w buf) = putBE (buf.take w).length (getBE (buf.take w)) := by
      rw [hlength, peekBE]
    _ = buf.take w := putBE_getBE _

theorem peekBE_lt (w : Nat) (buf : Bytes) : peekBE w buf < 256 ^ w := by
  calc
    peekBE w buf < 256 ^ (buf.take w).length := getBE_lt _
    _ ≤ 256 ^ w := Nat.pow_le_pow_right (by decide) (by simp)

end PicooCamera.Library
