/-
# Character classes

What Python's `re` asks of a character: whether it is part of a word, whether it is a digit,
and whether it is another one up to case. ASCII is given outright; for the characters beyond
it, which differ from one Unicode version to the next, a table answers.
-/

import LLMRouting.Text.Lines

namespace LLMRouting.Text

/-- What the Unicode database says of the characters beyond ASCII. -/
structure CharTable where
  isAlnum : Char → Bool
  isDecimal : Char → Bool
  sameLetter : Char → Char → Bool

def isAscii (c : Char) : Bool := c.toNat < 128

/-- Line boundaries and the ASCII characters that are no letters have no case. -/
def isCaseless (c : Char) : Bool := isLineBoundary c || isAscii c && !c.isAlpha

namespace CharTable

variable (table : CharTable) {c d : Char}

/-- `\w` -/
def isWord (c : Char) : Bool :=
  if isAscii c then c.isAlphanum || c == '_' else !isLineBoundary c && table.isAlnum c

/-- `\d` -/
def isDigit (c : Char) : Bool :=
  if isAscii c then c.isDigit else !isLineBoundary c && table.isDecimal c

/-- Equality of characters under `re.IGNORECASE`. -/
def same (c d : Char) : Bool :=
  c == d || !isCaseless c && !isCaseless d &&
    if isAscii c && isAscii d then c.toLower == d.toLower else table.sameLetter c d

@[simp]
theorem same_self : table.same c c = true := by
  simp [same]

variable {table}

/-- A character without case is the same only as itself. -/
theorem eq_of_same_of_caseless (h : table.same c d = true) (hd : isCaseless d = true) : d = c := by
  have h : c = d ∨ isCaseless d = false := by
    obtain h | h := Bool.or_eq_true _ _ |>.mp h
    · exact .inl (by simpa using h)
    · have := (Bool.and_eq_true _ _ |>.mp h).1
      exact .inr (by simpa using (Bool.and_eq_true _ _ |>.mp this).2)
  obtain rfl | hcase := h
  · rfl
  · rw [hd] at hcase
    exact absurd hcase (by decide)

theorem isCaseless_of_boundary (h : isLineBoundary c = true) : isCaseless c = true := by
  simp [isCaseless, h]

/-- A character that ends no line is not the same as one that does. -/
theorem boundary_of_same (h : table.same c d = true) (hc : isLineBoundary c = false) :
    isLineBoundary d = false := by
  by_contra hd
  have hd : isLineBoundary d = true := by simpa using hd
  rw [eq_of_same_of_caseless h (isCaseless_of_boundary hd)] at hd
  rw [hc] at hd
  exact absurd hd (by decide)

/-- Every ASCII line boundary is a control character. -/
theorem boundary_of_isDigit (h : table.isDigit c = true) : isLineBoundary c = false := by
  rw [isDigit] at h
  split at h
  · by_contra hc
    have hc : isLineBoundary c = true := by simpa using hc
    simp only [isLineBoundary, decide_eq_true_eq, List.mem_cons, List.not_mem_nil, or_false] at hc
    obtain rfl | rfl | rfl | rfl | rfl | rfl | rfl | rfl | rfl | rfl := hc <;> simp at h
  · have := (Bool.and_eq_true _ _ |>.mp h).1
    simpa using this

end CharTable

end LLMRouting.Text
