/-
# Python strings

The string operations the source uses on text it does not control, on a string given as the
list of its characters. Lower-casing is given for Latin-1 text only, where it never changes
the length.
-/

import Mathlib

namespace LLMRouting.Data

/-- A Python `str`. -/
abbrev PyString : Type := List Char

namespace PyString

/-- `bytes.decode("latin-1")`: every byte is a character. -/
def decodeLatin1 (bytes : List UInt8) : PyString := bytes.map fun byte => Char.ofNat byte.toNat

/-- `str.isascii`. -/
def isAscii (text : PyString) : Bool := text.all fun c => decide (c.toNat < 128)

/-- `str.isspace` of one character. -/
def isSpace (c : Char) : Bool :=
  let code := c.toNat
  decide (9 ≤ code ∧ code ≤ 13 ∨ 28 ≤ code ∧ code ≤ 32 ∨ code = 0x85 ∨ code = 0xA0 ∨
    code = 0x1680 ∨ 0x2000 ≤ code ∧ code ≤ 0x200A ∨ code = 0x2028 ∨ code = 0x2029 ∨
    code = 0x202F ∨ code = 0x205F ∨ code = 0x3000)

/-- `str.strip()`. -/
def strip (text : PyString) : PyString :=
  ((text.dropWhile isSpace).reverse.dropWhile isSpace).reverse

/-- `str.lower()` of one Latin-1 character. -/
def lowerChar (c : Char) : Char :=
  let code := c.toNat
  if 65 ≤ code ∧ code ≤ 90 ∨ 0xC0 ≤ code ∧ code ≤ 0xDE ∧ code ≠ 0xD7 then Char.ofNat (code + 32)
  else c

/-- `str.lower()` of Latin-1 text. -/
def lower (text : PyString) : PyString := text.map lowerChar

end PyString

/-- A run of one character ends where another one stands. -/
theorem replicate_split {s x : Char} {n k : ℕ} {rest more : PyString} (hx : x ≠ s)
    (h : List.replicate n s ++ x :: rest = List.replicate k s ++ more) :
    k ≤ n ∧ more = List.replicate (n - k) s ++ x :: rest := by
  induction k generalizing n with
  | zero => exact ⟨Nat.zero_le n, by simpa using h.symm⟩
  | succ k ih =>
      cases n with
      | zero =>
          have : x = s := by simpa [List.replicate_succ] using (List.cons_eq_cons.mp h).1
          exact absurd this hx
      | succ n =>
          have hrest : List.replicate n s ++ x :: rest = List.replicate k s ++ more := by
            simpa [List.replicate_succ] using h
          obtain ⟨hle, hmore⟩ := ih hrest
          exact ⟨Nat.succ_le_succ hle, by rwa [Nat.succ_sub_succ]⟩

/-- The longer of two beginnings of a text goes on where the shorter one stops. -/
theorem split_of_length_le {left right left' right' : PyString}
    (h : left ++ right = left' ++ right') (hle : left.length ≤ left'.length) :
    ∃ more, left' = left ++ more ∧ right = more ++ right' := by
  obtain ⟨more, rfl⟩ : left <+: left' :=
    List.prefix_of_prefix_length_le ⟨right, h⟩ (List.prefix_append left' right') hle
  rw [List.append_assoc] at h
  exact ⟨more, rfl, List.append_cancel_left h⟩

end LLMRouting.Data
