/-
# Inline code

The gateway knows nothing of inline code: it rewrites a self-introduction between two backticks
like any other. As no rule looks past a backtick unless a term has one, what happens to a span
depends on the span alone, and it is kept exactly where every rule finds in it only what it
would write itself.
-/

import LLMRouting.Gateway.Fences
import LLMRouting.Gateway.Phrases

namespace LLMRouting

open Data (PyString)
open Text
open Text.Regex

namespace ResponseGateway

/-- A span of inline code in a line, with what stands before and after it: the content stands
between two single backticks, which are paired from the beginning of the line on. A longer run
of backticks belongs to the content. -/
structure InlineCode (line before content after : PyString) : Prop where
  runs : ∃ first middle last : List PyString,
    line.splitBy (· == ·) = first ++ ['\x60'] :: (middle ++ ['\x60'] :: last) ∧
      Even (first.count ['\x60']) ∧ ['\x60'] ∉ middle ∧
        before = first.flatten ∧ content = middle.flatten ∧ after = last.flatten

/-- Between the same two backticks of the processed line stands what stood there before. -/
def SpansKept (line processed : PyString) : Prop :=
  ∀ before content after, InlineCode line before content after → ∃ before' after',
    processed = before' ++ '\x60' :: (content ++ '\x60' :: after') ∧
      before'.count '\x60' = before.count '\x60'

/-- Every line outside fenced and indented code keeps its inline code. -/
def InlineCodeKept (table : CharTable) (gateway : ResponseGateway) (response : PyString) : Prop :=
  ∀ (index : ℕ) (line processed : PyString), (splitlines response)[index]? = some line →
    (lineKinds none (splitlines response))[index]? = some .prose →
      (gateway.processLines table none (splitlines response))[index]? = some processed →
        SpansKept line processed

/-- Whatever a rule finds in the text reads as what the rule puts in its place. -/
def Untouched (table : CharTable) (gateway : ResponseGateway) (text : PyString) : Prop :=
  ∀ rule ∈ gateway.allRules table, ∀ found ∈ (rule.pattern table).found text,
    found.1 = found.2 ++ rule.phrase

/-- No term of the gateway has a backtick. -/
def Backtickless (gateway : ResponseGateway) : Prop :=
  ∀ term ∈ gateway.identityTerms, '\x60' ∉ term

/-- Every line outside fenced and indented code that has inline code is untouched, or no term
has a backtick and every span by itself is untouched. -/
def Spared (table : CharTable) (gateway : ResponseGateway) (response : PyString) : Prop :=
  ∀ (index : ℕ) (line before content after : PyString),
    (splitlines response)[index]? = some line →
      (lineKinds none (splitlines response))[index]? = some .prose →
        InlineCode line before content after → Untouched table gateway line ∨
          Backtickless gateway ∧ Untouched table gateway ('\x60' :: (content ++ ['\x60']))

variable {table : CharTable} {gateway : ResponseGateway} {term line : PyString} {rule : Rule}
variable {before content after : PyString}

theorem InlineCode.split (h : InlineCode line before content after) :
    line = before ++ '\x60' :: (content ++ '\x60' :: after) := by
  obtain ⟨first, middle, last, hruns, -, -, rfl, rfl, rfl⟩ := h.runs
  rw [← List.flatten_splitBy (· == ·) line, hruns]
  simp

theorem avoids_chars {chars : List Char} (h : chars.contains '\x60' = false) :
    (oneOf chars).Avoids '\x60' := by
  rw [List.contains_eq_mem] at h
  exact h

theorem avoids_blanks : blanks.Avoids '\x60' := ⟨avoids_chars rfl, avoids_chars rfl⟩

theorem avoids_digits : (digits table).Avoids '\x60' := ⟨rfl, rfl⟩

/-- A backtick has no case. -/
theorem avoids_term (hterm : '\x60' ∉ term) : (literal table.same term).Avoids '\x60' := by
  induction term with
  | nil => trivial
  | cons c term ih =>
      rw [List.mem_cons, not_or] at hterm
      refine ⟨?_, ih hterm.2⟩
      by_contra hsame
      exact hterm.1 (CharTable.eq_of_same_of_caseless (Bool.eq_true_of_not_eq_false hsame) rfl)

theorem avoids_word {text : String} (h : text.toList.contains '\x60' = false) :
    (word table text).Avoids '\x60' := by
  apply avoids_term
  intro hmem
  rw [List.contains_iff_mem.mpr hmem] at h
  cases h

theorem avoids_opt {r : Regex} (h : r.Avoids '\x60') : (opt r).Avoids '\x60' := ⟨h, trivial⟩

theorem avoids_bold : bold.Avoids '\x60' :=
  avoids_opt ⟨⟨avoids_chars rfl, avoids_chars rfl⟩, avoids_chars rfl, avoids_chars rfl⟩

theorem avoids_upTo {r : Regex} (h : r.Avoids '\x60') (n : ℕ) : (upTo r n).Avoids '\x60' := by
  induction n with
  | zero => trivial
  | succ n ih => exact avoids_opt ⟨h, ih⟩

theorem avoids_leadIn : (leadIn table).Avoids '\x60' := by
  have hmarker : (listMarker table).Avoids '\x60' :=
    ⟨⟨avoids_chars rfl, avoids_chars rfl⟩, ⟨avoids_digits, avoids_chars rfl, avoids_chars rfl⟩,
      avoids_chars rfl, avoids_upTo (avoids_chars rfl) 5, avoids_chars rfl⟩
  have hgreeting : (greeting table).Avoids '\x60' :=
    ⟨⟨avoids_word rfl, avoids_word rfl, avoids_word rfl⟩, avoids_opt (avoids_chars rfl),
      avoids_blanks⟩
  exact ⟨⟨⟨trivial, avoids_upTo (avoids_chars rfl) 3, avoids_opt hmarker⟩, trivial,
    avoids_blanks⟩, avoids_opt hgreeting, avoids_bold⟩

theorem avoids_identityEnd : (identityEnd table).Avoids '\x60' := by
  refine ⟨⟨avoids_chars rfl, avoids_chars rfl, ?_, ?_⟩, rfl⟩
  · exact ⟨avoids_word rfl, avoids_blanks, avoids_word rfl, trivial⟩
  · exact ⟨avoids_bold, avoids_chars rfl, trivial⟩

theorem avoids_assistantDescription : (assistantDescription table).Avoids '\x60' :=
  ⟨avoids_word rfl, avoids_opt (avoids_word rfl), avoids_blanks,
    ⟨avoids_word rfl, avoids_opt ⟨avoids_blanks, avoids_word rfl, avoids_word rfl⟩⟩,
    ⟨avoids_opt ⟨avoids_word rfl, avoids_blanks⟩, avoids_word rfl, avoids_blanks,
      avoids_word rfl⟩,
    avoids_word rfl⟩

theorem avoids_origin : (origin table).Avoids '\x60' :=
  ⟨⟨avoids_word rfl, avoids_word rfl, avoids_word rfl⟩, avoids_blanks, avoids_word rfl,
    avoids_blanks⟩

theorem avoids_name (hterm : '\x60' ∉ term) : (name table term).Avoids '\x60' :=
  ⟨avoids_term hterm,
    avoids_opt ⟨avoids_word rfl, avoids_digits, avoids_chars rfl, avoids_digits⟩, rfl⟩

/-- No rule looks past a backtick, unless its term has one. -/
theorem avoids_pattern (hterm : '\x60' ∉ term) (hrule : rule ∈ rules table term) :
    (rule.pattern table).Avoids '\x60' := by
  have hname : (name table term).Avoids '\x60' := avoids_name hterm
  have hbody : rule.body.Avoids '\x60' := by
    obtain rfl | rfl | rfl := mem_rules_iff.mp hrule
    · exact ⟨avoids_word rfl, ⟨⟨avoids_blanks, avoids_word rfl, avoids_word rfl⟩,
        avoids_chars rfl, avoids_word rfl⟩, avoids_blanks,
        avoids_opt ⟨avoids_assistantDescription, avoids_blanks⟩, avoids_origin, hname,
        avoids_identityEnd⟩
    · exact ⟨⟨⟨avoids_word rfl, avoids_blanks, avoids_word rfl⟩, avoids_word rfl,
        avoids_word rfl, avoids_word rfl, avoids_blanks, avoids_word rfl, avoids_blanks,
        avoids_word rfl⟩, avoids_blanks, hname, avoids_identityEnd⟩
    · refine ⟨avoids_word rfl, avoids_blanks, avoids_opt ⟨avoids_assistantDescription,
        avoids_blanks, avoids_origin⟩, hname, avoids_chars rfl, ?_, rfl⟩
      exact ⟨avoids_blanks, ⟨avoids_word rfl, trivial⟩, avoids_word rfl, trivial⟩
  exact ⟨avoids_leadIn, hbody⟩

/-- The rules of the gateway as substitutions. -/
theorem scrub_eq_foldl_sub (line : PyString) : gateway.scrub table line =
    ((gateway.allRules table).map fun rule => (rule.pattern table, rule.phrase)).foldl
      (fun line rule => rule.1.sub (· ++ rule.2) line) line := by
  rw [scrub, List.foldl_map]
  rfl

theorem Untouched.scrub (h : Untouched table gateway line) :
    gateway.scrub table line = line := by
  apply foldl_rewrite (· = line) _ rfl
  rintro rule hrule _ rfl
  obtain ⟨term, -, hmem⟩ := mem_allRules_iff.mp hrule
  exact sub_eq_self (consumes_pattern hmem) (h rule hrule)

/-- A text is untouched exactly where the gateway leaves it as it is. -/
theorem untouched_iff : Untouched table gateway line ↔ gateway.scrub table line = line := by
  constructor
  · exact Untouched.scrub
  · intro h rule hrule
    have hrules : ∀ substitution ∈ (gateway.allRules table).map fun rule =>
        (rule.pattern table, rule.phrase), substitution.1.Consumes = true ∧
          Lightens writtenPhrases substitution.2 substitution.1 := by
      intro substitution hmem
      obtain ⟨rule, hrule, rfl⟩ := List.mem_map.mp hmem
      obtain ⟨term, -, hmem⟩ := mem_allRules_iff.mp hrule
      exact ⟨consumes_pattern hmem, lightens_pattern hmem⟩
    rw [scrub_eq_foldl_sub] at h
    exact found_of_foldl_sub hrules line h _ (List.mem_map_of_mem hrule)

theorem backtick_not_in_phrase (hrule : rule ∈ rules table term) : '\x60' ∉ rule.phrase := by
  obtain h | h := phrase_cases hrule
  · rw [h]
    decide
  · rw [h]
    decide

theorem exists_rewrite_between (hterm : '\x60' ∉ term) (hrule : rule ∈ rules table term)
    (before content after : PyString) : ∃ before' content' after',
      rule.rewrite table (before ++ '\x60' :: (content ++ '\x60' :: after)) =
        before' ++ '\x60' :: (content' ++ '\x60' :: after') ∧
      rule.rewrite table ('\x60' :: (content ++ ['\x60'])) =
        '\x60' :: (content' ++ ['\x60']) ∧
      before'.count '\x60' = before.count '\x60' ∧
      content'.count '\x60' = content.count '\x60' := by
  apply exists_sub_between (avoids_pattern hterm hrule) (consumes_pattern hrule) (by decide)
  intro group hgroup hmem
  obtain hmem | hmem := List.mem_append.mp hmem
  · exact hgroup hmem
  · exact backtick_not_in_phrase hrule hmem

/-- What happens between two backticks depends on nothing else. -/
theorem exists_scrub_between (h : Backtickless gateway) (before content after : PyString) :
    ∃ before' content' after',
      gateway.scrub table (before ++ '\x60' :: (content ++ '\x60' :: after)) =
        before' ++ '\x60' :: (content' ++ '\x60' :: after') ∧
      gateway.scrub table ('\x60' :: (content ++ ['\x60'])) =
        '\x60' :: (content' ++ ['\x60']) ∧
      before'.count '\x60' = before.count '\x60' ∧
      content'.count '\x60' = content.count '\x60' := by
  have hrules : ∀ rule ∈ gateway.allRules table, ∃ term, '\x60' ∉ term ∧
      rule ∈ rules table term := by
    intro rule hrule
    obtain ⟨term, hterm, hrule⟩ := mem_allRules_iff.mp hrule
    exact ⟨term, h term hterm, hrule⟩
  rw [scrub, scrub]
  generalize gateway.allRules table = applied at hrules
  induction applied generalizing before content after with
  | nil => exact ⟨before, content, after, rfl, rfl, rfl, rfl⟩
  | cons rule applied ih =>
      obtain ⟨term, hterm, hrule⟩ := hrules rule List.mem_cons_self
      have hothers := fun other hother => hrules other (List.mem_cons_of_mem rule hother)
      obtain ⟨before₁, content₁, after₁, hline₁, hspan₁, hbefore₁, hcontent₁⟩ :=
        exists_rewrite_between hterm hrule before content after
      obtain ⟨before₂, content₂, after₂, hline₂, hspan₂, hbefore₂, hcontent₂⟩ :=
        ih before₁ content₁ after₁ hothers
      refine ⟨before₂, content₂, after₂, ?_, ?_, hbefore₂.trans hbefore₁,
        hcontent₂.trans hcontent₁⟩
      · rw [List.foldl_cons, hline₁]
        exact hline₂
      · rw [List.foldl_cons, hspan₁]
        exact hspan₂

/-- Two places behind equally many backticks are the same. -/
theorem eq_of_same_backticks {before' content' after' : PyString}
    (h : before ++ '\x60' :: (content ++ '\x60' :: after) =
      before' ++ '\x60' :: (content' ++ '\x60' :: after'))
    (hbefore : before.count '\x60' = before'.count '\x60')
    (hcontent : content.count '\x60' = content'.count '\x60') : content = content' := by
  obtain ⟨-, hrest⟩ := append_cons_inj_of_count h hbefore
  exact (append_cons_inj_of_count hrest hcontent).1

/-- A span is kept exactly where it is untouched by itself. -/
theorem span_kept_iff (h : Backtickless gateway) :
    (∃ before' after', gateway.scrub table (before ++ '\x60' :: (content ++ '\x60' :: after)) =
        before' ++ '\x60' :: (content ++ '\x60' :: after') ∧
          before'.count '\x60' = before.count '\x60') ↔
      Untouched table gateway ('\x60' :: (content ++ ['\x60'])) := by
  obtain ⟨before₁, content₁, after₁, hline, hspan, hbefore, hcontent⟩ :=
    @exists_scrub_between table _ h before content after
  rw [untouched_iff, hline, hspan]
  constructor
  · intro hkept
    obtain ⟨before', after', hsame, hcount⟩ := hkept
    rw [eq_of_same_backticks hsame (hbefore.trans hcount.symm) hcontent]
  · intro hsame
    have hcontents : content₁ = content :=
      List.append_cancel_right (List.cons_eq_cons.mp hsame).2
    exact ⟨before₁, after₁, by rw [hcontents], hbefore⟩

/-- What inline code the gateway keeps. Spans that are spared are kept, and unless a term has
a backtick no other ones are. -/
theorem inline_code_kept (table : CharTable) (identityTerms : List PyString)
    (response : PyString) :
    (Spared table (init identityTerms) response →
      InlineCodeKept table (init identityTerms) response) ∧
    ((∀ term ∈ identityTerms, '\x60' ∉ term) →
      InlineCodeKept table (init identityTerms) response →
        Spared table (init identityTerms) response) := by
  constructor
  · intro hspared index line processed hline hprose hprocessed before content after hcode
    rw [processLines_of_prose hprose, hline] at hprocessed
    have hprocessed : (init identityTerms).scrub table line = processed :=
      Option.some_inj.mp hprocessed
    rw [← hprocessed]
    obtain huntouched | ⟨hterms, huntouched⟩ :=
      hspared index line before content after hline hprose hcode
    · rw [huntouched.scrub]
      exact ⟨before, after, hcode.split, rfl⟩
    · rw [hcode.split]
      exact (span_kept_iff hterms).mpr huntouched
  · intro hterms hkept index line before content after hline hprose hcode
    have hbacktickless : (init identityTerms).Backtickless := fun term hterm =>
      hterms term (List.mem_of_mem_filter hterm)
    have hprocessed : ((init identityTerms).processLines table none
        (splitlines response))[index]? = some ((init identityTerms).scrub table line) := by
      rw [processLines_of_prose hprose, hline]
      rfl
    have hspan := hkept index line _ hline hprose hprocessed before content after hcode
    rw [hcode.split] at hspan
    exact .inr ⟨hbacktickless, (span_kept_iff hbacktickless).mp hspan⟩

/-- A span that is kept because nothing in its line stands at the beginning of a sentence. -/
theorem inline_code_kept_gemini : InlineCodeKept asciiTable (init ["Gemini".toList])
    "Examples include \x60I am Gemini\x60.".toList := by
  apply (inline_code_kept asciiTable ["Gemini".toList] _).1
  have hlines : splitlines "Examples include \x60I am Gemini\x60.".toList =
      ["Examples include \x60I am Gemini\x60.".toList] := by
    decide +kernel
  have huntouched : Untouched asciiTable (init ["Gemini".toList])
      "Examples include \x60I am Gemini\x60.".toList := by
    unfold Untouched
    decide +kernel
  intro index line before content after hline _ _
  rw [hlines] at hline
  rw [List.mem_singleton.mp (List.mem_of_getElem? hline)]
  exact .inl huntouched

/-- A self-introduction at the beginning of a sentence is rewritten inside a span. -/
theorem inline_code_rewritten : ¬ InlineCodeKept asciiTable (init ["GPT-4".toList])
    "\x60Hi. I am GPT-4.\x60".toList := by
  intro hkept
  have hlines : splitlines "\x60Hi. I am GPT-4.\x60".toList =
      ["\x60Hi. I am GPT-4.\x60".toList] := by
    decide +kernel
  have hmarks : lineKinds none ["\x60Hi. I am GPT-4.\x60".toList] = [.prose] := by decide +kernel
  have hprocessed : (init ["GPT-4".toList]).processLines asciiTable none
      ["\x60Hi. I am GPT-4.\x60".toList] = ["\x60Hi. I am an AI assistant.\x60".toList] := by
    decide +kernel
  have hcode : InlineCode "\x60Hi. I am GPT-4.\x60".toList [] "Hi. I am GPT-4.".toList [] :=
    ⟨[], "Hi. I am GPT-4.".toList.splitBy (· == ·), [], by decide, by decide, by decide,
      by decide, by decide, rfl⟩
  rw [InlineCodeKept, hlines, hmarks, hprocessed] at hkept
  obtain ⟨before', after', hsame, hcount⟩ := hkept 0 _ _ rfl rfl rfl _ _ _ hcode
  have hcontent : "Hi. I am an AI assistant.".toList = "Hi. I am GPT-4.".toList :=
    @eq_of_same_backticks [] _ [] before' _ after' hsame hcount.symm (by decide)
  exact absurd hcontent (by decide)

end ResponseGateway

end LLMRouting
