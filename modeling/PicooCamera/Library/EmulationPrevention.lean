import PicooCamera.Library.BigEndian

/-!
# Emulation prevention

A byte 3 is put before each byte of at most 3 that follows two zeros, so that
the escaped bytes never look like a start code. Removing these bytes gives back
what was escaped.
-/

namespace PicooCamera.Library

/-- Escape the bytes that follow `zeros` zeros. -/
def escapeFrom (zeros : Nat) : Bytes → Bytes
  | [] => []
  | byte :: rest =>
      if 2 ≤ zeros ∧ byte ≤ 3 then
        3 :: byte :: escapeFrom (if byte = 0 then 1 else 0) rest
      else byte :: escapeFrom (if byte = 0 then zeros + 1 else 0) rest

def escape (bytes : Bytes) : Bytes := escapeFrom 0 bytes

/-- Remove the emulation prevention bytes after `zeros` zeros. -/
def unescapeFrom (zeros : Nat) : Bytes → Bytes
  | [] => []
  | byte :: rest =>
      if 2 ≤ zeros ∧ byte = 3 then unescapeFrom 0 rest
      else byte :: unescapeFrom (if byte = 0 then zeros + 1 else 0) rest

def unescape (bytes : Bytes) : Bytes := unescapeFrom 0 bytes

theorem unescapeFrom_escapeFrom (zeros : Nat) (bytes : Bytes) :
    unescapeFrom zeros (escapeFrom zeros bytes) = bytes := by
  induction bytes generalizing zeros with
  | nil => rfl
  | cons byte rest ih =>
      unfold escapeFrom
      by_cases h : 2 ≤ zeros ∧ byte ≤ 3
      · rw [if_pos h, unescapeFrom, if_pos ⟨h.1, rfl⟩, unescapeFrom,
          if_neg (fun hzero => absurd hzero.1 (by decide)), Nat.zero_add, ih]
      · have hthree : ¬ (2 ≤ zeros ∧ byte = 3) := by
          rintro ⟨htwo, rfl⟩
          exact h ⟨htwo, by decide⟩
        rw [if_neg h, unescapeFrom, if_neg hthree, ih]

theorem unescape_escape (bytes : Bytes) : unescape (escape bytes) = bytes :=
  unescapeFrom_escapeFrom 0 bytes

/-! ## No start codes -/

/-- After two zeros comes no byte below 3; `zeros` zeros precede the bytes. -/
def CleanFrom (zeros : Nat) : Bytes → Prop
  | [] => True
  | byte :: rest => (2 ≤ zeros → 3 ≤ byte) ∧ CleanFrom (if byte = 0 then zeros + 1 else 0) rest

theorem cleanFrom_escapeFrom (zeros : Nat) (bytes : Bytes) :
    CleanFrom zeros (escapeFrom zeros bytes) := by
  induction bytes generalizing zeros with
  | nil => trivial
  | cons byte rest ih =>
      unfold escapeFrom
      by_cases h : 2 ≤ zeros ∧ byte ≤ 3
      · rw [if_pos h]
        exact ⟨fun _ => by decide, fun hzero => absurd hzero (by simp), by simpa using ih _⟩
      · rw [if_neg h]
        refine ⟨fun htwo => ?_, ih _⟩
        by_contra hlt
        exact h ⟨htwo, Std.le_of_lt (Std.not_le.mp hlt)⟩

theorem CleanFrom.window {zeros : Nat} {front rest : Bytes} {byte : UInt8}
    (h : CleanFrom zeros (front ++ 0 :: 0 :: byte :: rest)) : 3 ≤ byte := by
  induction front generalizing zeros with
  | nil => exact h.2.2.1 (by simp)
  | cons _ front ih => exact ih h.2

theorem escape_window {bytes front rest : Bytes} {byte : UInt8}
    (h : escape bytes = front ++ 0 :: 0 :: byte :: rest) : 3 ≤ byte := by
  have hclean := cleanFrom_escapeFrom 0 bytes
  rw [show escapeFrom 0 bytes = escape bytes from rfl, h] at hclean
  exact hclean.window

example : escape [0, 0, 1, 0, 0, 0, 0] = [0, 0, 3, 1, 0, 0, 3, 0, 0] := by decide

end PicooCamera.Library
