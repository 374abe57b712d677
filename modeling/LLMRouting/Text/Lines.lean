/-
# Lines of a text

`str.splitlines(keepends=True)`, on a text given as the list of its characters. A line is a
body without line boundaries and what ends it; the last line of a text may have no end.
Splitting loses nothing, and lines put together are split again into the same lines, also
after their bodies have been rewritten.
-/

import Mathlib

namespace LLMRouting.Text

/-- The characters that end a line for `splitlines`. -/
def isLineBoundary (c : Char) : Bool :=
  c ∈ ['\n', '\r', '\x0b', '\x0c', '\x1c', '\x1d', '\x1e', '\u0085', '\u2028', '\u2029']

/-- A line ends after this character, unless it is the first half of a CR LF. -/
def endsLine (c : Char) (rest : List Char) : Bool :=
  isLineBoundary c && !(c == '\r' && rest.head? == some '\n')

/-- `text.splitlines(keepends=True)`. -/
def splitlines : List Char → List (List Char)
  | [] => []
  | c :: rest =>
      if endsLine c rest then [c] :: splitlines rest
      else
        match splitlines rest with
        | [] => [[c]]
        | line :: lines => (c :: line) :: lines

/-- What a line says before it ends. -/
def lineBody (line : List Char) : List Char := line.takeWhile fun c => !isLineBoundary c

/-- What ends a line; empty for a last line that just stops. -/
def lineEnd (line : List Char) : List Char := line.dropWhile fun c => !isLineBoundary c

/-- What can end a line. -/
def IsLineEnd (text : List Char) : Prop :=
  text = ['\r', '\n'] ∨ ∃ c, isLineBoundary c = true ∧ text = [c]

/-- No character of the text ends a line. -/
def Unbroken (text : List Char) : Prop := ∀ c ∈ text, isLineBoundary c = false

/-- Lists of lines that a text can be split into. -/
inductive Lines : List (List Char) → Prop
  | nil : Lines []
  | last {line : List Char} : line ≠ [] → lineEnd line = [] → Lines [line]
  | cons {line : List Char} {rest : List (List Char)} : IsLineEnd (lineEnd line) →
      (lineEnd line = ['\r'] → rest.flatten.head? ≠ some '\n') → Lines rest →
      Lines (line :: rest)

variable {c : Char} {line line' body ending text rest : List Char}
variable {lines lines' : List (List Char)}

theorem lineBody_append_lineEnd (line : List Char) : lineBody line ++ lineEnd line = line :=
  List.takeWhile_append_dropWhile

theorem unbroken_lineBody (line : List Char) : Unbroken (lineBody line) := by
  intro c hc
  simpa using List.mem_takeWhile_imp hc

theorem unbroken_of_all (h : (text.all fun c => !isLineBoundary c) = true) : Unbroken text := by
  simpa [Unbroken] using h

theorem Unbroken.initial (h : Unbroken text) (hp : body <+: text) : Unbroken body :=
  fun c hc => h c (hp.subset hc)

theorem lineEnd_cons_of_boundary (h : isLineBoundary c = true) :
    lineEnd (c :: line) = c :: line := by
  simp [lineEnd, h]

theorem lineEnd_cons_of_clear (h : isLineBoundary c = false) :
    lineEnd (c :: line) = lineEnd line := by
  simp [lineEnd, h]

theorem lineBody_cons_of_clear (h : isLineBoundary c = false) :
    lineBody (c :: line) = c :: lineBody line := by
  simp [lineBody, h]

theorem IsLineEnd.ne_nil (h : IsLineEnd ending) : ending ≠ [] := by
  obtain rfl | ⟨c, -, rfl⟩ := h
  · simp
  · simp

/-- Every character of a line's end is a line boundary. -/
theorem IsLineEnd.boundary (h : IsLineEnd ending) (hc : c ∈ ending) :
    isLineBoundary c = true := by
  obtain rfl | ⟨d, hd, rfl⟩ := h
  · have : c = '\r' ∨ c = '\n' := by simpa using hc
    obtain rfl | rfl := this
    · rfl
    · rfl
  · rw [List.mem_singleton.mp hc]
    exact hd

theorem lineBody_append (hbody : Unbroken body) (hend : ∀ c ∈ ending, isLineBoundary c = true) :
    lineBody (body ++ ending) = body := by
  induction body with
  | nil =>
      cases ending with
      | nil => rfl
      | cons c rest =>
          have hc : isLineBoundary c = true := hend c List.mem_cons_self
          simp [lineBody, hc]
  | cons c body ih =>
      have hc : isLineBoundary c = false := hbody c List.mem_cons_self
      rw [List.cons_append, lineBody_cons_of_clear hc]
      rw [ih fun d hd => hbody d (List.mem_cons_of_mem c hd)]

theorem lineEnd_append (hbody : Unbroken body) (hend : ∀ c ∈ ending, isLineBoundary c = true) :
    lineEnd (body ++ ending) = ending := by
  have h := lineBody_append_lineEnd (body ++ ending)
  rw [lineBody_append hbody hend] at h
  exact List.append_cancel_left h

theorem flatten_splitlines (text : List Char) : (splitlines text).flatten = text := by
  induction text with
  | nil => rfl
  | cons c rest ih =>
      rw [splitlines]
      split
      · simp [ih]
      · cases hlines : splitlines rest with
        | nil =>
            rw [hlines] at ih
            simp [← ih]
        | cons line lines =>
            rw [hlines] at ih
            simp [← ih]

/-- One line is split off a text that goes on with another. -/
theorem splitlines_append (hend : IsLineEnd (lineEnd line))
    (hcrlf : lineEnd line = ['\r'] → text.head? ≠ some '\n') :
    splitlines (line ++ text) = line :: splitlines text := by
  induction line with
  | nil => simp [lineEnd, IsLineEnd] at hend
  | cons c line ih =>
      by_cases hc : isLineBoundary c = true
      · rw [lineEnd_cons_of_boundary hc] at hend hcrlf
        obtain hline | ⟨d, hd, hline⟩ := hend
        · -- the two halves of a CR LF stay together
          cases hline
          simp [splitlines, endsLine, isLineBoundary]
        · cases hline
          have hends : endsLine c text = true := by
            by_cases hcr : c = '\r'
            · have htext : text.head? ≠ some '\n' := hcrlf (by rw [hcr])
              simp [endsLine, hc, htext]
            · simp [endsLine, hc, hcr]
          rw [List.singleton_append, splitlines, if_pos hends]
      · have hclear : isLineBoundary c = false := by simpa using hc
        rw [lineEnd_cons_of_clear hclear] at hend hcrlf
        have hends : endsLine c (line ++ text) = false := by simp [endsLine, hclear]
        rw [List.cons_append, splitlines, ih hend hcrlf]
        simp [hends]

/-- A text without line boundaries is one line. -/
theorem splitlines_of_unbroken (htext : text ≠ []) (hend : lineEnd text = []) :
    splitlines text = [text] := by
  induction text with
  | nil => exact absurd rfl htext
  | cons c rest ih =>
      have hc : isLineBoundary c = false := by
        by_contra hc
        rw [lineEnd_cons_of_boundary (by simpa using hc)] at hend
        exact absurd hend (by simp)
      rw [lineEnd_cons_of_clear hc] at hend
      have hends : endsLine c rest = false := by simp [endsLine, hc]
      cases rest with
      | nil => simp [splitlines, hends]
      | cons d rest =>
          rw [splitlines, ih (by simp) hend]
          simp [hends]

/-- What a text is split into is a list of lines. -/
theorem lines_splitlines (text : List Char) : Lines (splitlines text) := by
  induction text with
  | nil => exact .nil
  | cons c rest ih =>
      rw [splitlines]
      split
      next hends =>
        have hc : isLineBoundary c = true ∧ (c = '\r' → rest.head? ≠ some '\n') := by
          simpa [endsLine, imp_iff_not_or] using hends
        have hend : lineEnd [c] = [c] := lineEnd_cons_of_boundary hc.1
        apply Lines.cons
        · rw [hend]
          exact .inr ⟨c, hc.1, rfl⟩
        · intro hcr hlf
          rw [hend] at hcr
          rw [flatten_splitlines] at hlf
          exact hc.2 (List.singleton_inj.mp hcr) hlf
        · exact ih
      next hends =>
        have hflat := flatten_splitlines rest
        cases hlines : splitlines rest with
        | nil =>
            rw [hlines] at hflat
            have hc : isLineBoundary c = false := by
              rw [← hflat] at hends
              simpa [endsLine] using hends
            exact .last (by simp) (lineEnd_cons_of_clear hc)
        | cons line lines =>
            rw [hlines] at ih hflat
            by_cases hc : isLineBoundary c = true
            · -- a CR whose LF begins the next line of the rest
              have hcr : c = '\r' ∧ rest.head? = some '\n' := by
                simpa [endsLine, hc] using hends
              obtain ⟨rfl, hlf⟩ := hcr
              have hline : ∃ more, line = '\n' :: more := by
                cases line with
                | nil =>
                    cases ih with
                    | last hne _ => exact absurd rfl hne
                    | cons hend _ _ => exact absurd rfl hend.ne_nil
                | cons d more =>
                    rw [← hflat] at hlf
                    have hd : d = '\n' := by simpa using hlf
                    exact ⟨more, by rw [hd]⟩
              obtain ⟨more, rfl⟩ := hline
              have hend : lineEnd ('\n' :: more) = '\n' :: more := lineEnd_cons_of_boundary rfl
              cases ih with
              | last _ hnil =>
                  rw [hend] at hnil
                  exact absurd hnil (by simp)
              | cons hline _ hrest =>
                  rw [hend] at hline
                  have hmore : more = [] := by
                    obtain h | ⟨d, -, h⟩ := hline
                    · simp at h
                    · simpa using (List.cons_eq_cons.mp h).2
                  subst hmore
                  apply Lines.cons
                  · exact .inl rfl
                  · intro h
                    exact absurd h (by decide)
                  · exact hrest
            · have hclear : isLineBoundary c = false := by simpa using hc
              cases ih with
              | last _ hnil => exact .last (by simp) ((lineEnd_cons_of_clear hclear).trans hnil)
              | cons hline hcrlf hrest =>
                  apply Lines.cons
                  · rw [lineEnd_cons_of_clear hclear]
                    exact hline
                  · rw [lineEnd_cons_of_clear hclear]
                    exact hcrlf
                  · exact hrest

/-- Lines put together are split again into the same lines. -/
theorem splitlines_flatten (h : Lines lines) : splitlines lines.flatten = lines := by
  induction h with
  | nil => rfl
  | last hne hend =>
      rw [List.flatten_singleton]
      exact splitlines_of_unbroken hne hend
  | cons hend hcrlf _ ih =>
      rw [List.flatten_cons, splitlines_append hend hcrlf, ih]

/-- The line ends as before, and its body is empty only when it was. -/
structure SameFrame (line line' : List Char) : Prop where
  ending : lineEnd line' = lineEnd line
  body : lineBody line' = [] ↔ lineBody line = []

theorem SameFrame.refl (line : List Char) : SameFrame line line := ⟨rfl, Iff.rfl⟩

theorem SameFrame.trans {line'' : List Char} (h : SameFrame line line')
    (h' : SameFrame line' line'') : SameFrame line line'' :=
  ⟨h'.ending.trans h.ending, h'.body.trans h.body⟩

/-- A line whose body is empty is its end. -/
theorem eq_lineEnd_of_lineBody (h : lineBody line = []) : line = lineEnd line := by
  have := lineBody_append_lineEnd line
  rw [h] at this
  exact this.symm

theorem SameFrame.ne_nil (h : SameFrame line line') (hline : line ≠ []) : line' ≠ [] := by
  intro hnil
  have hend : lineEnd line = [] := by rw [← h.ending, hnil]; rfl
  have hbody : lineBody line = [] := h.body.mp (by rw [hnil]; rfl)
  exact hline ((eq_lineEnd_of_lineBody hbody).trans hend)

/-- A rewritten line begins with a line boundary only where the line did. -/
theorem SameFrame.head (h : SameFrame line line') (hc : isLineBoundary c = true)
    (hhead : line'.head? = some c) : line.head? = some c := by
  cases line' with
  | nil => simp at hhead
  | cons d rest =>
      have hd : d = c := by simpa using hhead
      subst hd
      have hbody : lineBody (d :: rest) = [] := by simp [lineBody, hc]
      have hline : line = d :: rest := by
        rw [eq_lineEnd_of_lineBody (h.body.mp hbody), ← h.ending]
        exact lineEnd_cons_of_boundary hc
      rw [hline]
      rfl

/-- Rewriting the bodies of lines leaves a list of lines. -/
theorem Lines.rewrite (h : Lines lines) (hframe : List.Forall₂ SameFrame lines lines') :
    Lines lines' := by
  induction h generalizing lines' with
  | nil =>
      cases hframe
      exact .nil
  | last hne hend =>
      cases hframe with
      | cons hline hnil =>
          cases hnil
          exact .last (hline.ne_nil hne) (hline.ending.trans hend)
  | @cons line rest hend hcrlf hrest ih =>
      cases hframe with
      | @cons _ line' _ rest' hline hrest' =>
          apply Lines.cons
          · rw [hline.ending]
            exact hend
          · intro hcr hlf
            rw [hline.ending] at hcr
            apply hcrlf hcr
            cases hrest' with
            | nil => simp at hlf
            | @cons next next' _ _ hnext _ =>
                have hne : next ≠ [] := by
                  cases hrest with
                  | last hne _ => exact hne
                  | cons hend _ _ =>
                      intro hnil
                      rw [hnil] at hend
                      exact hend.ne_nil rfl
                obtain ⟨d, tail, rfl⟩ := List.exists_cons_of_ne_nil (hnext.ne_nil hne)
                obtain ⟨e, tail', rfl⟩ := List.exists_cons_of_ne_nil hne
                have hd : d = '\n' := by simpa using hlf
                have hhead := hnext.head (c := d) (hd ▸ rfl) rfl
                rw [hd] at hhead
                simpa using hhead
          · exact ih hrest'

end LLMRouting.Text
