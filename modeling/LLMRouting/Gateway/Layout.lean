/-
# Code and layout under the gateway

What the gateway rewrites it rewrites within the body of a line: every line keeps its end, no
line becomes a fence or an indented one, and so the lines of the processed response are the
processed lines, with the same ones of them outside code.
-/

import LLMRouting.Gateway.ResponseGateway

namespace LLMRouting

open Data (PyString sortedBy mem_sortedBy)
open Text
open Text.Regex

namespace ResponseGateway

/-- The lines outside code, from here on: neither fences, nor between fences, nor indented. -/
def proseLines : Option PyString → List PyString → List PyString
  | _, [] => []
  | some fence, line :: lines =>
      proseLines (if closesFence fence line then none else some fence) lines
  | none, line :: lines =>
      match fenceMarker line with
      | some fence => proseLines (some fence) lines
      | none => if isIndented line then proseLines none lines else line :: proseLines none lines

/-- Not a line boundary. -/
abbrev Clear (c : Char) : Prop := isLineBoundary c = false

variable {table : CharTable} {gateway : ResponseGateway} {term line : PyString} {rule : Rule}

theorem mem_rules_iff : rule ∈ rules table term ↔ rule = originRule table term ∨
    rule = nameRule table term ∨ rule = roleRule table term := by
  simp [rules]

theorem consumes_pattern (hrule : rule ∈ rules table term) :
    (rule.pattern table).Consumes = true := by
  have hbody : rule.body.Consumes = true := by
    obtain rfl | rfl | rfl := mem_rules_iff.mp hrule
    · rfl
    · rfl
    · rfl
  rw [Rule.pattern, Consumes, hbody, Bool.or_true]

@[simp]
theorem groupless_name : (name table term).Groupless = true := by
  show ((literal table.same term).Groupless && _) = true
  rw [groupless_literal]
  rfl

theorem groupless_body (hrule : rule ∈ rules table term) : rule.body.Groupless = true := by
  obtain rfl | rfl | rfl := mem_rules_iff.mp hrule
  · show (_ && (_ && (_ && (_ && (_ && ((name table term).Groupless && _)))))) = true
    rw [groupless_name]
    rfl
  · show (_ && (_ && ((name table term).Groupless && _))) = true
    rw [groupless_name]
    rfl
  · show (_ && (_ && (_ && ((name table term).Groupless && _)))) = true
    rw [groupless_name]
    rfl

theorem within_chars {chars : List Char}
    (h : (chars.all fun c => !isLineBoundary c) = true) : (oneOf chars).Within Clear :=
  within_oneOf (unbroken_of_all h)

theorem within_blanks : blanks.Within Clear := within_plus.mpr (within_chars rfl)

theorem within_digits : (digits table).Within Clear :=
  within_plus.mpr fun _ hx => CharTable.boundary_of_isDigit hx

theorem within_term (hterm : Unbroken term) : (literal table.same term).Within Clear :=
  within_literal fun c hc _ hx => CharTable.boundary_of_same hx (hterm c hc)

theorem within_word {text : String}
    (h : (text.toList.all fun c => !isLineBoundary c) = true) : (word table text).Within Clear :=
  within_term (unbroken_of_all h)

theorem within_bold : bold.Within Clear :=
  within_opt.mpr ⟨⟨within_chars rfl, within_chars rfl⟩, within_chars rfl, within_chars rfl⟩

theorem within_listMarker : (listMarker table).Within Clear :=
  ⟨⟨within_chars rfl, within_chars rfl⟩, ⟨within_digits, within_chars rfl, within_chars rfl⟩,
    within_chars rfl, within_upTo (within_chars rfl), within_chars rfl⟩

theorem within_greeting : (greeting table).Within Clear :=
  ⟨⟨within_word rfl, within_word rfl, within_word rfl⟩, within_opt.mpr (within_chars rfl),
    within_blanks⟩

theorem within_leadIn : (leadIn table).Within Clear :=
  ⟨⟨⟨trivial, within_upTo (within_chars rfl), within_opt.mpr within_listMarker⟩, trivial,
    within_blanks⟩, within_opt.mpr within_greeting, within_bold⟩

theorem within_assistantDescription : (assistantDescription table).Within Clear :=
  ⟨within_word rfl, within_opt.mpr (within_word rfl), within_blanks,
    ⟨within_word rfl, within_opt.mpr ⟨within_blanks, within_word rfl, within_word rfl⟩⟩,
    ⟨within_opt.mpr ⟨within_word rfl, within_blanks⟩, within_word rfl, within_blanks,
      within_word rfl⟩,
    within_word rfl⟩

theorem within_origin : (origin table).Within Clear :=
  ⟨⟨within_word rfl, within_word rfl, within_word rfl⟩, within_blanks, within_word rfl,
    within_blanks⟩

theorem within_name (hterm : Unbroken term) : (name table term).Within Clear :=
  ⟨within_term hterm,
    within_opt.mpr ⟨within_word rfl, within_digits, within_chars rfl, within_digits⟩, trivial⟩

/-- No rule takes a line boundary. -/
theorem within_pattern (hterm : Unbroken term) (hrule : rule ∈ rules table term) :
    (rule.pattern table).Within Clear := by
  have hname : (name table term).Within Clear := within_name hterm
  have hbody : rule.body.Within Clear := by
    obtain rfl | rfl | rfl := mem_rules_iff.mp hrule
    · exact ⟨within_word rfl, ⟨⟨within_blanks, within_word rfl, within_word rfl⟩,
        within_chars rfl, within_word rfl⟩, within_blanks,
        within_opt.mpr ⟨within_assistantDescription, within_blanks⟩, within_origin, hname, rfl⟩
    · exact ⟨⟨⟨within_word rfl, within_blanks, within_word rfl⟩, within_word rfl, within_word rfl,
        within_word rfl, within_blanks, within_word rfl, within_blanks, within_word rfl⟩,
        within_blanks, hname, rfl⟩
    · exact ⟨within_word rfl, within_blanks,
        within_opt.mpr ⟨within_assistantDescription, within_blanks, within_origin⟩, hname,
        within_chars rfl, rfl⟩
  exact ⟨within_leadIn, hbody⟩

/-- A place of a line where a self-introduction may follow: what stands before the lead-in, the
lead-in and what comes after it. -/
structure LedIn (table : CharTable) (line before lead after : PyString) : Prop where
  split : before ++ lead ++ after = line
  leads : ⟨(before ++ lead).reverse, after, none⟩ ∈
    (leadIn table).run ⟨before.reverse, lead ++ after, none⟩

theorem groupless_leadIn : (leadIn table).Groupless = true := rfl

/-- A match of a rule stands after a lead-in, and that is its group. -/
theorem ledIn_of_match {before rest : PyString} {c : Cursor} (hrule : rule ∈ rules table term)
    (hc : c ∈ (rule.pattern table).run ⟨before.reverse, rest, none⟩) :
    ∃ lead after, c.group = some lead ∧ LedIn table (before ++ rest) before lead after := by
  obtain ⟨m, hm, hbody⟩ := mem_run_seq.mp hc
  obtain ⟨m', lead, hlead, htook, rfl⟩ := took_group hm
  have hgroup : m'.group = none := group_of_groupless groupless_leadIn hlead
  have hrest : rest = lead ++ m'.ahead := htook.1
  have hpassed : m'.passed = (before ++ lead).reverse := by
    rw [List.reverse_append]
    exact htook.2
  have hm' : m' = ⟨(before ++ lead).reverse, m'.ahead, none⟩ := by
    rw [← hpassed, ← hgroup]
  refine ⟨lead, m'.ahead, group_of_groupless (groupless_body hrule) hbody, ?_, ?_⟩
  · rw [hrest, List.append_assoc]
  · rw [← hrest, ← hm']
    exact hlead

/-- A rule leaves a line alone, or puts its phrase after a lead-in of the line. -/
theorem rewrite_cases (hrule : rule ∈ rules table term) (line : PyString) :
    (¬ (rule.pattern table).Occurs line ∧ rule.rewrite table line = line) ∨
    ∃ before lead after tail, LedIn table line before lead after ∧
      rule.rewrite table line = before ++ lead ++ (rule.phrase ++ tail) := by
  have hconsumes := consumes_pattern hrule
  by_cases hoccurs : (rule.pattern table).Occurs line
  · right
    obtain ⟨before, rest, c, tail, hline, hc, hsub⟩ :=
      sub_of_occurs (· ++ rule.phrase) hconsumes hoccurs
    obtain ⟨lead, after, hgroup, hlead⟩ := ledIn_of_match hrule hc
    rw [hline] at hlead
    refine ⟨before, lead, after, tail, hlead, ?_⟩
    rw [Rule.rewrite, hsub, hgroup]
    simp
  · exact .inl ⟨hoccurs, sub_of_not_occurs hconsumes hoccurs⟩

theorem phrase_cases (hrule : rule ∈ rules table term) :
    rule.phrase = "I am an AI assistant".toList ∨ rule.phrase = "As an AI assistant,".toList := by
  obtain rfl | rfl | rfl := mem_rules_iff.mp hrule
  · exact .inl rfl
  · exact .inl rfl
  · exact .inr rfl

theorem unbroken_phrase (hrule : rule ∈ rules table term) : Unbroken rule.phrase := by
  obtain h | h := phrase_cases hrule
  · rw [h]
    exact unbroken_of_all rfl
  · rw [h]
    exact unbroken_of_all rfl

/-- Every phrase begins with one of two letters. -/
theorem phrase_head (hrule : rule ∈ rules table term) :
    ∃ x rest, rule.phrase = x :: rest ∧ (x = 'I' ∨ x = 'A') := by
  obtain h | h := phrase_cases hrule
  · exact ⟨'I', " am an AI assistant".toList, h, .inl rfl⟩
  · exact ⟨'A', "s an AI assistant,".toList, h, .inr rfl⟩

/-- A rewritten line begins with nothing new, except with a phrase of the gateway. -/
theorem prefix_of_rewrite {beginning : PyString} (hrule : rule ∈ rules table term)
    (hI : 'I' ∉ beginning) (hA : 'A' ∉ beginning)
    (h : beginning <+: rule.rewrite table line) : beginning <+: line := by
  obtain ⟨-, hsame⟩ | ⟨before, lead, after, tail, hlead, hrewrite⟩ := rewrite_cases hrule line
  · rw [hsame] at h
    exact h
  · obtain ⟨x, rest, hphrase, hx⟩ := phrase_head hrule
    have hnot : x ∉ beginning := by
      obtain rfl | rfl := hx
      · exact hI
      · exact hA
    rw [hrewrite, hphrase] at h
    rw [← hlead.split]
    apply List.IsPrefix.trans _ (List.prefix_append _ after)
    obtain ⟨more, hmore⟩ := h
    obtain ⟨middle, hbeginning, hmiddle⟩ | ⟨middle, hbefore, -⟩ :=
      List.append_eq_append_iff.mp hmore.symm
    · cases middle with
      | nil => rw [hbeginning, List.append_nil]
      | cons y middle =>
          have hy : x = y := (List.cons_eq_cons.mp hmiddle).1
          exact absurd (by simp [hbeginning, hy]) hnot
    · exact ⟨middle, hbefore.symm⟩

/-- What ends the line is made of line boundaries. -/
def WellEnded (line : PyString) : Prop := ∀ c ∈ lineEnd line, isLineBoundary c = true

theorem sameFrame_rewrite (hterm : Unbroken term) (hrule : rule ∈ rules table term)
    (hline : WellEnded line) : SameFrame line (rule.rewrite table line) := by
  have hconsumes := consumes_pattern hrule
  have hwithin := within_pattern hterm hrule
  have hending : ∀ c ∈ lineEnd line, ¬ Clear c := fun c hc => by simp [hline c hc]
  obtain ⟨body', hrewrite, hbody'⟩ : ∃ body', rule.rewrite table line = body' ++ lineEnd line ∧
      Unbroken body' := by
    have h := sub_append (· ++ rule.phrase) hconsumes hwithin
      (fun group hgroup x hx => by
        obtain hx | hx := List.mem_append.mp hx
        · exact hgroup x hx
        · exact unbroken_phrase hrule x hx)
      (unbroken_lineBody line) hending
    rw [lineBody_append_lineEnd] at h
    exact h
  have hbody : lineBody (rule.rewrite table line) = body' := by
    rw [hrewrite]
    exact lineBody_append hbody' hline
  constructor
  · rw [hrewrite]
    exact lineEnd_append hbody' hline
  · rw [hbody]
    constructor
    · intro hnil
      rw [hnil, List.nil_append] at hrewrite
      obtain ⟨-, hsame⟩ | ⟨before, lead, after, tail, -, hphrase⟩ := rewrite_cases hrule line
      · have hself : lineBody line ++ lineEnd line = lineEnd line :=
          (lineBody_append_lineEnd line).trans (hsame.symm.trans hrewrite)
        exact List.append_left_eq_self.mp hself
      · -- the phrase would be part of what ends the line
        obtain ⟨x, rest, hx, hletter⟩ := phrase_head hrule
        have hmem : x ∈ lineEnd line := by
          rw [← hrewrite, hphrase, hx]
          simp
        have hclear : Clear x := by
          obtain rfl | rfl := hletter
          · rfl
          · rfl
        exact absurd hclear (hending x hmem)
    · intro hnil
      have hself : line = lineEnd line := eq_lineEnd_of_lineBody hnil
      have hsame : rule.rewrite table line = line := by
        apply sub_of_not_occurs hconsumes
        apply not_occurs_of_within hconsumes hwithin
        rw [hself]
        exact hending
      have hbody' : body' ++ lineEnd line = lineEnd line :=
        hrewrite.symm.trans (hsame.trans hself)
      exact List.append_left_eq_self.mp hbody'

theorem mem_allRules_iff :
    rule ∈ gateway.allRules table ↔ ∃ term ∈ gateway.identityTerms, rule ∈ rules table term := by
  simp [allRules, sortedTerms]

/-- What every rule keeps, a line keeps under all of them. -/
theorem foldl_rewrite (kept : PyString → Prop) {applied : List Rule}
    (hstep : ∀ rule ∈ applied, ∀ line, kept line → kept (rule.rewrite table line))
    (hline : kept line) :
    kept (applied.foldl (fun line rule => rule.rewrite table line) line) := by
  induction applied generalizing line with
  | nil => exact hline
  | cons rule applied ih =>
      apply ih fun rule hrule => hstep rule (List.mem_cons_of_mem _ hrule)
      exact hstep rule List.mem_cons_self line hline

/-- The terms of the gateway are single lines. -/
def SingleLine (gateway : ResponseGateway) : Prop :=
  ∀ term ∈ gateway.identityTerms, Unbroken term

theorem sameFrame_scrub (hsingle : gateway.SingleLine) (hline : WellEnded line) :
    SameFrame line (gateway.scrub table line) := by
  have hkept : SameFrame line (gateway.scrub table line) ∧
      WellEnded (gateway.scrub table line) := by
    apply foldl_rewrite fun line' => SameFrame line line' ∧ WellEnded line'
    · intro rule hrule line' h
      obtain ⟨term, hterm, hrule⟩ := mem_allRules_iff.mp hrule
      have hframe := sameFrame_rewrite (hsingle term hterm) hrule h.2
      refine ⟨h.1.trans hframe, ?_⟩
      rw [WellEnded, hframe.ending]
      exact h.2
    · exact ⟨.refl line, hline⟩
  exact hkept.1

/-- A scrubbed line begins with nothing new, except with a phrase of the gateway. -/
theorem prefix_of_scrub {beginning : PyString} (hI : 'I' ∉ beginning) (hA : 'A' ∉ beginning)
    (h : beginning <+: gateway.scrub table line) : beginning <+: line := by
  have hkept : beginning <+: gateway.scrub table line → beginning <+: line := by
    apply foldl_rewrite fun line' => beginning <+: line' → beginning <+: line
    · intro rule hrule line' hline' h
      obtain ⟨term, -, hrule⟩ := mem_allRules_iff.mp hrule
      exact hline' (prefix_of_rewrite hrule hI hA h)
    · exact id
  exact hkept h

/-- A fence begins with at most three spaces and three fence characters. -/
theorem fenceMarker_isSome_iff : (fenceMarker line).isSome = true ↔
    ∃ indent ≤ 3, ∃ c ∈ ['\x60', '~'],
      List.replicate indent ' ' ++ List.replicate 3 c <+: line := by
  constructor
  · intro h
    obtain ⟨fence, hfence⟩ := Option.isSome_iff_exists.mp h
    obtain ⟨c', hmatch, -⟩ := Option.bind_eq_some_iff.mp hfence
    have hrun := List.mem_of_mem_head? hmatch
    obtain ⟨start, hstart, hrest⟩ := mem_run_seq.mp hrun
    obtain ⟨indented, hindented, hgroup⟩ := mem_run_seq.mp hrest
    obtain ⟨c, hc, -⟩ := mem_run_group.mp hgroup
    obtain ⟨indent, hindent, htook⟩ := took_of_mem_run_upTo hindented
    rw [(mem_run_start.mp hstart).1] at htook
    have hline : line = List.replicate indent ' ' ++ indented.ahead := htook.1
    obtain hc | hc := mem_run_alt.mp hc
    · refine ⟨indent, hindent, '\x60', by simp, ?_⟩
      rw [hline, List.prefix_append_right_inj]
      exact prefix_of_mem_run_atLeast hc
    · refine ⟨indent, hindent, '~', by simp, ?_⟩
      rw [hline, List.prefix_append_right_inj]
      exact prefix_of_mem_run_atLeast hc
  · intro h
    obtain ⟨indent, hindent, c, hc, rest, rfl⟩ := h
    rw [List.append_assoc]
    have hindented := mem_run_upTo hindent ' ' [] (List.replicate 3 c ++ rest) none
    have hfence := mem_run_atLeast (le_refl 3) c (List.replicate indent ' ' ++ []) rest none
    have halt : (⟨List.replicate 3 c ++ (List.replicate indent ' ' ++ []), rest, none⟩ : Cursor) ∈
        (alt (atLeast (exactly '\x60') 3) (atLeast (exactly '~') 3)).run
          ⟨List.replicate indent ' ' ++ [], List.replicate 3 c ++ rest, none⟩ := by
      have hc : c = '\x60' ∨ c = '~' := by simpa using hc
      obtain rfl | rfl := hc
      · exact mem_run_alt.mpr (.inl hfence)
      · exact mem_run_alt.mpr (.inr hfence)
    have hrun := mem_run_seq.mpr ⟨_, mem_run_start.mpr ⟨rfl, rfl⟩,
      mem_run_seq.mpr ⟨_, hindented, mem_run_group.mpr ⟨_, halt, rfl⟩⟩⟩
    obtain ⟨c', hmatch, hc'⟩ := exists_matchStart hrun
    -- whichever way of matching comes first, it captures
    obtain ⟨start, -, hrest⟩ := mem_run_seq.mp hc'
    obtain ⟨indented, -, hgroup⟩ := mem_run_seq.mp hrest
    obtain ⟨m, taken, -, -, rfl⟩ := took_group hgroup
    rw [fenceMarker]
    exact Option.isSome_iff_exists.mpr ⟨taken, Option.bind_eq_some_iff.mpr ⟨_, hmatch, rfl⟩⟩

theorem fenceMarker_scrub (h : fenceMarker line = none) :
    fenceMarker (gateway.scrub table line) = none := by
  by_contra hsome
  have hsome : (fenceMarker (gateway.scrub table line)).isSome = true :=
    Option.isSome_iff_ne_none.mpr hsome
  obtain ⟨indent, hindent, c, hc, hbegins⟩ := fenceMarker_isSome_iff.mp hsome
  have hnot (x : Char) (hx : x = 'I' ∨ x = 'A') :
      x ∉ List.replicate indent ' ' ++ List.replicate 3 c := by
    have hc : c = '\x60' ∨ c = '~' := by simpa using hc
    obtain rfl | rfl := hx <;> obtain rfl | rfl := hc <;> simp
  have hline := fenceMarker_isSome_iff.mpr
    ⟨indent, hindent, c, hc, prefix_of_scrub (hnot 'I' (.inl rfl)) (hnot 'A' (.inr rfl)) hbegins⟩
  rw [h] at hline
  exact absurd hline (by decide)

theorem isIndented_iff :
    isIndented line = true ↔ "    ".toList <+: line ∨ "\t".toList <+: line := by
  rw [isIndented, Bool.or_eq_true, List.isPrefixOf_iff_prefix, List.isPrefixOf_iff_prefix]

theorem isIndented_scrub (h : isIndented line = false) :
    isIndented (gateway.scrub table line) = false := by
  by_contra hindented
  have hindented : isIndented (gateway.scrub table line) = true := by simpa using hindented
  have hline : isIndented line = true := by
    rw [isIndented_iff] at hindented ⊢
    exact hindented.imp (prefix_of_scrub (by decide) (by decide))
      (prefix_of_scrub (by decide) (by decide))
  rw [h] at hline
  exact absurd hline (by decide)

theorem WellEnded.of_lines {lines : List PyString} (h : Lines lines) :
    ∀ line ∈ lines, WellEnded line := by
  induction h with
  | nil => simp
  | last _ hend =>
      intro line hline c hc
      rw [List.mem_singleton.mp hline, hend] at hc
      simp at hc
  | cons hend _ _ ih =>
      intro line hline
      obtain rfl | hline := List.mem_cons.mp hline
      · exact fun c hc => hend.boundary hc
      · exact ih line hline

/-- The gateway rewrites lines within their frames. -/
theorem sameFrame_processLines (hsingle : gateway.SingleLine) {lines : List PyString}
    (hlines : ∀ line ∈ lines, WellEnded line) (fence : Option PyString) :
    List.Forall₂ SameFrame lines (gateway.processLines table fence lines) := by
  induction lines generalizing fence with
  | nil =>
      cases fence with
      | none => exact .nil
      | some fence => exact .nil
  | cons line lines ih =>
      have hrest := ih fun line hline => hlines line (List.mem_cons_of_mem _ hline)
      cases fence with
      | some fence => exact .cons (.refl line) (hrest _)
      | none =>
          rw [processLines]
          cases fenceMarker line with
          | some fence => exact .cons (.refl line) (hrest _)
          | none =>
              apply List.Forall₂.cons
              · by_cases hindented : isIndented line = true
                · rw [if_pos hindented]
                  exact .refl line
                · rw [if_neg hindented]
                  exact sameFrame_scrub hsingle (hlines line List.mem_cons_self)
              · exact hrest none

/-- The lines of the processed response are the processed lines. -/
theorem splitlines_process (hsingle : gateway.SingleLine) (response : PyString) :
    splitlines (gateway.process table response) =
      gateway.processLines table none (splitlines response) := by
  have hlines := lines_splitlines response
  apply splitlines_flatten
  exact hlines.rewrite (sameFrame_processLines hsingle (WellEnded.of_lines hlines) none)

theorem proseLines_processLines (fence : Option PyString) (lines : List PyString) :
    proseLines fence (gateway.processLines table fence lines) =
      (proseLines fence lines).map (gateway.scrub table) := by
  induction lines generalizing fence with
  | nil =>
      cases fence with
      | none => rfl
      | some fence => rfl
  | cons line lines ih =>
      cases fence with
      | some fence =>
          rw [processLines, proseLines, proseLines]
          exact ih _
      | none =>
          rw [processLines]
          cases hmarker : fenceMarker line with
          | some fence =>
              simp only [proseLines, hmarker]
              exact ih _
          | none =>
              by_cases hindented : isIndented line = true
              · simp only [proseLines, hmarker, hindented, if_true]
                exact ih none
              · have hindented : isIndented line = false := by simpa using hindented
                simp only [proseLines, hmarker, hindented, fenceMarker_scrub hmarker,
                  isIndented_scrub hindented, Bool.false_eq_true, if_false, List.map_cons]
                exact congrArg _ (ih none)

/-- The same lines stand outside code after processing, each of them scrubbed. -/
theorem proseLines_process (hsingle : gateway.SingleLine) (response : PyString) :
    proseLines none (splitlines (gateway.process table response)) =
      (proseLines none (splitlines response)).map (gateway.scrub table) := by
  rw [splitlines_process hsingle, proseLines_processLines]

end ResponseGateway

end LLMRouting
