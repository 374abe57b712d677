/-
# What a substitution can see

A pattern that never takes a certain character stops at it: how it matches before that
character does not depend on what comes after it, and of what lies before a match only the
last character counts. So a substitution works on the stretches between such characters one
by one, each with the character before it as its only context.
-/

import LLMRouting.Text.Regex

namespace LLMRouting.Text

open Regex

namespace Regex

/-- No test for a character, not even in a lookahead, accepts the character. -/
def Avoids (stop : Char) : Regex → Prop
  | .char accepts => accepts stop = false
  | .seq first second => first.Avoids stop ∧ second.Avoids stop
  | .alt left right => left.Avoids stop ∧ right.Avoids stop
  | .star body => body.Avoids stop
  | .group body => body.Avoids stop
  | .lookahead body => body.Avoids stop ∧ body.Groupless = true
  | .negativeLookahead body => body.Avoids stop
  | _ => True

end Regex

namespace Cursor

/-- The cursor in a larger text, with more before and after what it was given. -/
def widen (before after : List Char) (c : Cursor) : Cursor :=
  ⟨c.passed ++ before, c.ahead ++ after, c.group⟩

/-- What is added cannot be seen: there is a character between it and the cursor. -/
structure Sheltered (stop : Char) (before after : List Char) (c : Cursor) : Prop where
  behind : before = [] ∨ c.passed ≠ []
  ahead : after = [] ∨ stop ∈ c.ahead

end Cursor

variable {r : Regex} {c c' : Cursor} {stop : Char} {before after : List Char}

/-- What an avoiding pattern takes and captures does not have the character. -/
theorem Regex.Avoids.within (hr : r.Avoids stop) : r.Within (· ≠ stop) := by
  induction r with
  | char accepts =>
      intro x hx hsame
      rw [hsame, hr] at hx
      cases hx
  | seq first second ihFirst ihSecond => exact ⟨ihFirst hr.1, ihSecond hr.2⟩
  | alt left right ihLeft ihRight => exact ⟨ihLeft hr.1, ihRight hr.2⟩
  | star body ih => exact ih hr
  | group body ih => exact ih hr
  | lookahead body => exact hr.2
  | _ => trivial

theorem Regex.Avoids.not_mem_taken {taken : List Char} (hr : r.Avoids stop) (h : c' ∈ r.run c)
    (htook : c.Took taken c') : stop ∉ taken :=
  fun hmem => hr.within.taken h htook stop hmem rfl

/-- A match leaves the cursor sheltered. -/
theorem Cursor.Sheltered.of_mem_run (hc : c.Sheltered stop before after) (hr : r.Avoids stop)
    (h : c' ∈ r.run c) : c'.Sheltered stop before after := by
  obtain ⟨taken, htook⟩ := exists_took h
  constructor
  · apply hc.behind.imp_right
    intro hpassed
    rw [htook.2]
    exact List.append_ne_nil_of_right_ne_nil taken.reverse hpassed
  · apply hc.ahead.imp_right
    intro hahead
    rw [htook.1] at hahead
    exact (List.mem_append.mp hahead).resolve_left (hr.not_mem_taken h htook)

/-- The next and the last character are the same in the larger text. -/
theorem Cursor.Sheltered.head?_ahead (hc : c.Sheltered stop before after) :
    (c.widen before after).ahead.head? = c.ahead.head? := by
  obtain rfl | hmem := hc.ahead
  · exact congrArg List.head? (List.append_nil _)
  · exact List.head?_append_of_ne_nil _ (List.ne_nil_of_mem hmem)

theorem Cursor.Sheltered.head?_passed (hc : c.Sheltered stop before after) :
    (c.widen before after).passed.head? = c.passed.head? := by
  obtain rfl | hne := hc.behind
  · exact congrArg List.head? (List.append_nil _)
  · exact List.head?_append_of_ne_nil _ hne

theorem Cursor.Sheltered.isEmpty_passed (hc : c.Sheltered stop before after) :
    (c.widen before after).passed.isEmpty = c.passed.isEmpty := by
  rw [Bool.eq_iff_iff, List.isEmpty_iff, List.isEmpty_iff, ← List.head?_eq_none_iff,
    ← List.head?_eq_none_iff, hc.head?_passed]

/-- The larger text does not end where the cursor's own goes on. -/
theorem Cursor.Sheltered.finished (hc : c.Sheltered stop before after) (hstop : stop ≠ '\n') :
    ((c.widen before after).ahead.isEmpty || (c.widen before after).ahead == ['\n']) =
      (c.ahead.isEmpty || c.ahead == ['\n']) := by
  have hopen : ∀ text, stop ∈ text → (text.isEmpty || text == ['\n']) = false := by
    intro text hmem
    apply Bool.eq_false_iff.mpr
    intro hend
    obtain hnil | hfeed := Bool.or_eq_true _ _ |>.mp hend
    · rw [List.isEmpty_iff.mp hnil] at hmem
      cases hmem
    · rw [eq_of_beq hfeed] at hmem
      exact hstop (List.mem_singleton.mp hmem)
  obtain rfl | hmem := hc.ahead
  · show ((c.ahead ++ []).isEmpty || c.ahead ++ [] == ['\n']) = _
    rw [List.append_nil]
  · rw [hopen c.ahead hmem]
    exact hopen (c.ahead ++ after) (List.mem_append_left after hmem)

/-- What lies between two cursors lies between them in the larger text. -/
theorem Cursor.Took.widen {taken : List Char} (h : c.Took taken c')
    (before after : List Char) : (c.widen before after).Took taken (c'.widen before after) := by
  constructor
  · show c.ahead ++ after = taken ++ (c'.ahead ++ after)
    rw [h.1, List.append_assoc]
  · show c'.passed ++ before = taken.reverse ++ (c.passed ++ before)
    rw [h.2, List.append_assoc]

private theorem iterate_widen {step : Cursor → List Cursor}
    (hshelter : ∀ c next, c.Sheltered stop before after → next ∈ step c →
      next.Sheltered stop before after)
    (hstep : ∀ c, c.Sheltered stop before after →
      step (c.widen before after) = (step c).map (Cursor.widen before after))
    (n : ℕ) (hc : c.Sheltered stop before after) :
    iterate step n (c.widen before after) =
      (iterate step n c).map (Cursor.widen before after) := by
  induction n generalizing c with
  | zero => rfl
  | succ n ih =>
      have hforward : ∀ next : Cursor,
          decide ((next.widen before after).ahead.length < (c.widen before after).ahead.length) =
            decide (next.ahead.length < c.ahead.length) := by
        intro next
        apply decide_eq_decide.mpr
        show (next.ahead ++ after).length < (c.ahead ++ after).length ↔ _
        rw [List.length_append, List.length_append]
        omega
      rw [iterate, iterate, hstep c hc, List.map_append, List.filter_map, List.flatMap_map,
        List.map_flatMap]
      congr 1
      have hfilter : ((fun next : Cursor =>
          decide (next.ahead.length < (c.widen before after).ahead.length)) ∘
            Cursor.widen before after) = fun next => decide (next.ahead.length < c.ahead.length) :=
        funext hforward
      rw [hfilter]
      apply List.flatMap_congr
      intro next hnext
      exact ih (hshelter c next hc (List.mem_filter.mp hnext).1)

/-- A sheltered match is the same in a larger text. -/
theorem run_widen (hr : r.Avoids stop) (hstop : stop ≠ '\n')
    (hc : c.Sheltered stop before after) :
    r.run (c.widen before after) = (r.run c).map (Cursor.widen before after) := by
  induction r generalizing c with
  | empty => rfl
  | char accepts =>
      obtain ⟨passed, ahead, group⟩ := c
      cases ahead with
      | nil =>
          obtain rfl | hmem := hc.ahead
          · rfl
          · cases hmem
      | cons x rest =>
          show (if accepts x then [_] else []) = (if accepts x then [_] else []).map _
          by_cases hx : accepts x = true
          · rw [if_pos hx, if_pos hx]
            rfl
          · rw [if_neg hx, if_neg hx]
            rfl
  | seq first second ihFirst ihSecond =>
      rw [run_seq, run_seq, ihFirst hr.1 hc, List.flatMap_map, List.map_flatMap]
      apply List.flatMap_congr
      intro m hm
      exact ihSecond hr.2 (hc.of_mem_run hr.1 hm)
  | alt left right ihLeft ihRight =>
      rw [run_alt, run_alt, ihLeft hr.1 hc, ihRight hr.2 hc, List.map_append]
  | star body ih =>
      have hfuel : c.ahead.length ≤ (c.widen before after).ahead.length := by
        show c.ahead.length ≤ (c.ahead ++ after).length
        rw [List.length_append]
        omega
      rw [run_star, run_star, iterate_fuel (c := c) le_rfl hfuel]
      apply iterate_widen _ _ _ hc
      · intro c next hc hnext
        exact hc.of_mem_run (r := body) hr hnext
      · intro c hc
        exact ih hr hc
  | group body ih =>
      rw [run_group, run_group, ih hr hc, List.map_map, List.map_map]
      apply List.map_congr_left
      intro m hm
      obtain ⟨taken, htook⟩ := exists_took hm
      show Cursor.mk _ _ (some _) = Cursor.mk _ _ (some _)
      rw [(htook.widen before after).take, htook.take]
      rfl
  | lookahead body ih =>
      rw [Regex.run, Regex.run, ih hr.1 hc]
      cases body.run c with
      | nil => rfl
      | cons m rest => rfl
  | negativeLookahead body ih =>
      rw [Regex.run, Regex.run, ih hr hc]
      cases body.run c with
      | nil => rfl
      | cons m rest => rfl
  | lookbehind accepts =>
      rw [Regex.run, Regex.run, hc.head?_passed]
      split
      · rfl
      · rfl
  | start =>
      rw [Regex.run, Regex.run, hc.isEmpty_passed]
      split
      · rfl
      · rfl
  | finish =>
      rw [Regex.run, Regex.run, hc.finished hstop]
      split
      · rfl
      · rfl
  | boundary isWord =>
      rw [Regex.run, Regex.run, hc.head?_passed, hc.head?_ahead]
      split
      · rfl
      · rfl

/-- The matches that a substitution replaces, as `re.finditer` gives them: what each takes and
what it leaves in the group. -/
def Regex.foundFrom (r : Regex) : ℕ → List Char → List Char → List (List Char × List Char)
  | _, _, [] => []
  | skip + 1, passed, x :: rest => r.foundFrom skip (x :: passed) rest
  | 0, passed, x :: rest =>
      match (r.run ⟨passed, x :: rest, none⟩).head? with
      | none => r.foundFrom 0 (x :: passed) rest
      | some c =>
          if c.ahead.length < rest.length + 1 then
            ((x :: rest).take (rest.length + 1 - c.ahead.length), c.group.getD []) ::
              r.foundFrom (rest.length - c.ahead.length) (x :: passed) rest
          else r.foundFrom 0 (x :: passed) rest

/-- `re.finditer`, for patterns that never match the empty text. -/
def Regex.found (r : Regex) (text : List Char) : List (List Char × List Char) :=
  r.foundFrom 0 [] text

section Scanning

variable {template : List Char → List Char} {passed taken rest text : List Char} {x : Char}

theorem subFrom_skip (skip : ℕ) (passed text : List Char) :
    r.subFrom template skip passed text =
      r.subFrom template 0 ((text.take skip).reverse ++ passed) (text.drop skip) := by
  induction skip generalizing passed text with
  | zero => rfl
  | succ skip ih =>
      cases text with
      | nil => rfl
      | cons x rest =>
          rw [Regex.subFrom, ih, List.take_succ_cons, List.reverse_cons, List.append_assoc]
          rfl

theorem foundFrom_skip (skip : ℕ) (passed text : List Char) :
    r.foundFrom skip passed text =
      r.foundFrom 0 ((text.take skip).reverse ++ passed) (text.drop skip) := by
  induction skip generalizing passed text with
  | zero => rfl
  | succ skip ih =>
      cases text with
      | nil => rfl
      | cons x rest =>
          rw [Regex.foundFrom, ih, List.take_succ_cons, List.reverse_cons, List.append_assoc]
          rfl

theorem subFrom_of_none (h : (r.run ⟨passed, x :: rest, none⟩).head? = none) :
    r.subFrom template 0 passed (x :: rest) = x :: r.subFrom template 0 (x :: passed) rest := by
  rw [Regex.subFrom, h]

theorem foundFrom_of_none (h : (r.run ⟨passed, x :: rest, none⟩).head? = none) :
    r.foundFrom 0 passed (x :: rest) = r.foundFrom 0 (x :: passed) rest := by
  rw [Regex.foundFrom, h]

/-- At a place where the pattern matches, the scan goes on behind the match. -/
theorem subFrom_of_match (hr : r.Consumes = true)
    (htook : Cursor.Took ⟨passed, text, none⟩ taken c)
    (h : (r.run ⟨passed, text, none⟩).head? = some c) :
    r.subFrom template 0 passed text =
      template (c.group.getD []) ++ r.subFrom template 0 (taken.reverse ++ passed) c.ahead := by
  have htext : text = taken ++ c.ahead := htook.1
  cases taken with
  | nil =>
      have hlt := length_lt_of_consumes hr (List.mem_of_mem_head? h)
      rw [htext] at hlt
      exact absurd hlt (Nat.lt_irrefl _)
  | cons x taken =>
      subst htext
      rw [List.cons_append] at h ⊢
      rw [subFrom_of_head hr h, subFrom_skip, List.length_append, Nat.add_sub_cancel,
        List.take_left, List.drop_left, List.reverse_cons, List.append_assoc]
      rfl

theorem foundFrom_of_match (hr : r.Consumes = true)
    (htook : Cursor.Took ⟨passed, text, none⟩ taken c)
    (h : (r.run ⟨passed, text, none⟩).head? = some c) :
    r.foundFrom 0 passed text =
      (taken, c.group.getD []) :: r.foundFrom 0 (taken.reverse ++ passed) c.ahead := by
  have htext : text = taken ++ c.ahead := htook.1
  cases taken with
  | nil =>
      have hlt := length_lt_of_consumes hr (List.mem_of_mem_head? h)
      rw [htext] at hlt
      exact absurd hlt (Nat.lt_irrefl _)
  | cons x taken =>
      subst htext
      rw [List.cons_append] at h ⊢
      have hlt : c.ahead.length < (taken ++ c.ahead).length + 1 :=
        length_lt_of_consumes hr (List.mem_of_mem_head? h)
      have hlength : (taken ++ c.ahead).length + 1 - c.ahead.length = (x :: taken).length := by
        rw [List.length_append, List.length_cons]
        omega
      rw [Regex.foundFrom, h]
      dsimp only
      rw [if_pos hlt, hlength, ← List.cons_append, List.take_left, foundFrom_skip,
        List.length_append, Nat.add_sub_cancel, List.take_left, List.drop_left, List.reverse_cons,
        List.append_assoc]
      rfl

/-- What holds of the end of a text, of one character that is passed over and of one match that
is replaced holds of a whole scan. -/
theorem scan_induction (template : List Char → List Char) (hr : r.Consumes = true)
    {motive : List Char → List Char → List Char → List (List Char × List Char) → Prop}
    (nil : ∀ passed, motive passed [] [] [])
    (pass : ∀ passed x rest result found, (r.run ⟨passed, x :: rest, none⟩).head? = none →
      motive (x :: passed) rest result found → motive passed (x :: rest) (x :: result) found)
    (replace : ∀ passed text taken c result found,
      Cursor.Took ⟨passed, text, none⟩ taken c → (r.run ⟨passed, text, none⟩).head? = some c →
      motive (taken.reverse ++ passed) c.ahead result found →
      motive passed text (template (c.group.getD []) ++ result)
        ((taken, c.group.getD []) :: found))
    (passed text : List Char) :
    motive passed text (r.subFrom template 0 passed text) (r.foundFrom 0 passed text) := by
  induction hlength : text.length using Nat.strong_induction_on generalizing passed text with
  | _ n ih =>
      cases text with
      | nil => exact nil passed
      | cons x rest =>
          cases h : (r.run ⟨passed, x :: rest, none⟩).head? with
          | none =>
              rw [subFrom_of_none h, foundFrom_of_none h]
              exact pass passed x rest _ _ h (ih rest.length (by simp [← hlength]) _ _ rfl)
          | some c =>
              obtain ⟨taken, htook⟩ := exists_took (List.mem_of_mem_head? h)
              have hlt := length_lt_of_consumes hr (List.mem_of_mem_head? h)
              rw [subFrom_of_match hr htook h, foundFrom_of_match hr htook h]
              exact replace passed _ taken c _ _ htook h (ih _ (hlength ▸ hlt) _ _ rfl)

/-- A text is kept where all that is found reads as it will. -/
theorem sub_eq_self (hr : r.Consumes = true)
    (h : ∀ found ∈ r.found text, found.1 = template found.2) : r.sub template text = text := by
  have hscan : (∀ found ∈ r.foundFrom 0 [] text, found.1 = template found.2) →
      r.subFrom template 0 [] text = text := by
    apply scan_induction template hr (motive := fun _ text result found =>
      (∀ match' ∈ found, match'.1 = template match'.2) → result = text)
    · intro passed hfound
      rfl
    · intro passed x rest result found hnone ih hfound
      rw [ih hfound]
    · intro passed text taken c result found htook hhead ih hfound
      have hsame : taken = template (c.group.getD []) := hfound _ List.mem_cons_self
      have htext : text = taken ++ c.ahead := htook.1
      rw [ih fun other hother => hfound other (List.mem_cons_of_mem _ hother), ← hsame, htext]
  exact hscan h

/-- Of what lies before a place only the last character counts. -/
theorem subFrom_passed (hr : r.Avoids stop) (hconsumes : r.Consumes = true) (hstop : stop ≠ '\n')
    (hpassed : passed ≠ []) (before text : List Char) :
    r.subFrom template 0 (passed ++ before) text = r.subFrom template 0 passed text := by
  have hhead (passed text : List Char) (hpassed : passed ≠ []) :
      (r.run ⟨passed ++ before, text, none⟩).head? =
        (r.run ⟨passed, text, none⟩).head?.map (Cursor.widen before []) := by
    have hshelter : (Cursor.mk passed text none).Sheltered stop before [] :=
      ⟨.inr hpassed, .inl rfl⟩
    have hrun := run_widen hr hstop hshelter
    rw [Cursor.widen, List.append_nil] at hrun
    rw [hrun, List.head?_map]
  have hscan : passed ≠ [] →
      r.subFrom template 0 (passed ++ before) text = r.subFrom template 0 passed text := by
    apply scan_induction template hconsumes (motive := fun passed text result _ =>
      passed ≠ [] → r.subFrom template 0 (passed ++ before) text = result)
    · intro passed hpassed
      rfl
    · intro passed x rest result found hnone ih hpassed
      have hwide : (r.run ⟨passed ++ before, x :: rest, none⟩).head? = none := by
        rw [hhead passed _ hpassed, hnone]
        rfl
      rw [subFrom_of_none hwide, ← ih (List.cons_ne_nil x passed)]
      rfl
    · intro passed text taken c result found htook hmatch ih hpassed
      have hwide : (r.run ⟨passed ++ before, text, none⟩).head? = some (c.widen before []) := by
        rw [hhead passed _ hpassed, hmatch]
        rfl
      have hsame : (c.widen before []).ahead = c.ahead := List.append_nil _
      have htookWide := htook.widen before []
      rw [Cursor.widen, List.append_nil] at htookWide
      rw [subFrom_of_match hconsumes htookWide hwide, hsame, ← List.append_assoc,
        ih (List.append_ne_nil_of_right_ne_nil _ hpassed)]
      rfl
  exact hscan hpassed

theorem widen_stop (passed text rest : List Char) :
    (Cursor.mk passed (text ++ [stop]) none).widen [] rest =
      ⟨passed, text ++ stop :: rest, none⟩ := by
  rw [Cursor.widen, List.append_nil, List.append_assoc]
  rfl

/-- What comes behind a stop does not change the first match before it. -/
theorem head?_run_stop (hr : r.Avoids stop) (hstop : stop ≠ '\n')
    (passed text rest : List Char) :
    (r.run ⟨passed, text ++ stop :: rest, none⟩).head? =
      (r.run ⟨passed, text ++ [stop], none⟩).head?.map (Cursor.widen [] rest) := by
  have hshelter : (Cursor.mk passed (text ++ [stop]) none).Sheltered stop [] rest :=
    ⟨.inl rfl, .inr (by simp)⟩
  have hrun := run_widen hr hstop hshelter
  rw [widen_stop] at hrun
  rw [hrun, List.head?_map]

/-- A match ends before the stop. -/
theorem exists_ahead_of_match (hr : r.Avoids stop)
    (htook : Cursor.Took ⟨passed, text ++ [stop], none⟩ taken c)
    (h : c ∈ r.run ⟨passed, text ++ [stop], none⟩) :
    ∃ more, text = taken ++ more ∧ c.ahead = more ++ [stop] := by
  obtain ⟨more, htaken, hstopped⟩ | ⟨more, htext, hahead⟩ := List.append_eq_append_iff.mp htook.1
  · cases more with
    | nil => exact ⟨[], by rw [htaken, List.append_nil, List.append_nil], hstopped.symm⟩
    | cons y more =>
        have hclear : stop ∉ taken := hr.not_mem_taken h htook
        have hy : stop = y := (List.cons_eq_cons.mp hstopped).1
        rw [htaken, hy] at hclear
        exact absurd (by simp) hclear
  · exact ⟨more, htext, hahead⟩

/-- A text is rewritten up to a stop whatever comes behind the stop, and then from there on. -/
theorem exists_subFrom_stop (hr : r.Avoids stop) (hconsumes : r.Consumes = true)
    (hstop : stop ≠ '\n') (htemplate : ∀ group : List Char, stop ∉ group → stop ∉ template group)
    (passed text : List Char) :
    ∃ rewritten, rewritten.count stop = text.count stop ∧ ∀ rest,
      r.subFrom template 0 passed (text ++ stop :: rest) =
        rewritten ++ stop :: r.subFrom template 0 (stop :: (text.reverse ++ passed)) rest := by
  induction hlength : text.length using Nat.strong_induction_on generalizing passed text with
  | _ n ih =>
      cases h : (r.run ⟨passed, text ++ [stop], none⟩).head? with
      | none =>
          have hnone (rest : List Char) :
              (r.run ⟨passed, text ++ stop :: rest, none⟩).head? = none := by
            rw [head?_run_stop hr hstop, h]
            rfl
          cases text with
          | nil => exact ⟨[], rfl, fun rest => subFrom_of_none (hnone rest)⟩
          | cons x text =>
              obtain ⟨rewritten, hcount, hrewritten⟩ :=
                ih text.length (by simp [← hlength]) (x :: passed) text rfl
              refine ⟨x :: rewritten, ?_, ?_⟩
              · rw [List.count_cons, List.count_cons, hcount]
              · intro rest
                have hrest : r.subFrom template 0 passed (x :: (text ++ stop :: rest)) = _ :=
                  subFrom_of_none (hnone rest)
                rw [List.cons_append, hrest, hrewritten rest, List.reverse_cons,
                  List.append_assoc]
                rfl
      | some c =>
          have hmatch := List.mem_of_mem_head? h
          obtain ⟨taken, htook⟩ := exists_took hmatch
          obtain ⟨more, rfl, hahead⟩ := exists_ahead_of_match hr htook hmatch
          have hshorter : more.length < n := by
            have hlt := length_lt_of_consumes hconsumes hmatch
            rw [hahead] at hlt
            simp only [List.length_append] at hlt hlength
            omega
          obtain ⟨rewritten, hcount, hrewritten⟩ :=
            ih more.length hshorter (taken.reverse ++ passed) more rfl
          have hgroup : stop ∉ template (c.group.getD []) := by
            apply htemplate
            intro hmem
            exact hr.within.group hmatch (by simp) stop hmem rfl
          refine ⟨template (c.group.getD []) ++ rewritten, ?_, ?_⟩
          · have hclear : stop ∉ taken := hr.not_mem_taken hmatch htook
            rw [List.count_append, List.count_append, hcount, List.count_eq_zero.mpr hgroup,
              List.count_eq_zero.mpr hclear]
          · intro rest
            have hwide : (r.run ⟨passed, taken ++ more ++ stop :: rest, none⟩).head? =
                some (c.widen [] rest) := by
              rw [head?_run_stop hr hstop, h]
              rfl
            have haheadWide : (c.widen [] rest).ahead = more ++ stop :: rest := by
              show c.ahead ++ rest = _
              rw [hahead, List.append_assoc]
              rfl
            have htookWide := htook.widen [] rest
            rw [widen_stop] at htookWide
            rw [subFrom_of_match hconsumes htookWide hwide, haheadWide, hrewritten rest,
              List.reverse_append, List.append_assoc, List.append_assoc]
            rfl

/-- No match begins at a stop. -/
theorem subFrom_stop (hr : r.Avoids stop) (hconsumes : r.Consumes = true)
    (passed rest : List Char) :
    r.subFrom template 0 passed (stop :: rest) =
      stop :: r.subFrom template 0 (stop :: passed) rest := by
  apply subFrom_of_none
  apply List.head?_eq_none_iff.mpr
  apply List.eq_nil_iff_forall_not_mem.mpr
  intro c hc
  obtain ⟨taken, htook⟩ := exists_took hc
  have hlt := length_lt_of_consumes hconsumes hc
  cases taken with
  | nil =>
      have hsame : stop :: rest = c.ahead := htook.1
      rw [← hsame] at hlt
      exact absurd hlt (Nat.lt_irrefl _)
  | cons x taken =>
      have hx : stop = x := (List.cons_eq_cons.mp htook.1).1
      exact hr.not_mem_taken hc htook (hx ▸ List.mem_cons_self)

/-- A substitution works on a stretch between two stops by itself. -/
theorem exists_sub_between (hr : r.Avoids stop) (hconsumes : r.Consumes = true)
    (hstop : stop ≠ '\n') (htemplate : ∀ group : List Char, stop ∉ group → stop ∉ template group)
    (before content after : List Char) :
    ∃ before' content' after',
      r.sub template (before ++ stop :: (content ++ stop :: after)) =
        before' ++ stop :: (content' ++ stop :: after') ∧
      r.sub template (stop :: (content ++ [stop])) = stop :: (content' ++ [stop]) ∧
      before'.count stop = before.count stop ∧ content'.count stop = content.count stop := by
  obtain ⟨before', hbefore, hrewritten⟩ :=
    exists_subFrom_stop hr hconsumes hstop htemplate [] before
  obtain ⟨content', hcontent, hbetween⟩ :=
    exists_subFrom_stop hr hconsumes hstop htemplate [stop] content
  have hlocal : r.subFrom template 0 (stop :: (before.reverse ++ [])) (content ++ stop :: after) =
      r.subFrom template 0 [stop] (content ++ stop :: after) :=
    subFrom_passed hr hconsumes hstop (List.cons_ne_nil stop []) _ _
  refine ⟨before', content',
    r.subFrom template 0 (stop :: (content.reverse ++ [stop])) after, ?_, ?_, hbefore, hcontent⟩
  · rw [Regex.sub, hrewritten]
    congr 2
    exact hlocal.trans (hbetween after)
  · rw [Regex.sub, subFrom_stop hr hconsumes, hbetween []]
    rfl

end Scanning

/-- The place of a character is determined by how often it occurs before. -/
theorem append_cons_inj_of_count {before before' after after' : List Char}
    (h : before ++ stop :: after = before' ++ stop :: after')
    (hcount : before.count stop = before'.count stop) : before = before' ∧ after = after' := by
  induction before generalizing before' with
  | nil =>
      cases before' with
      | nil => exact ⟨rfl, (List.cons_eq_cons.mp h).2⟩
      | cons x before' =>
          have hx : stop = x := (List.cons_eq_cons.mp h).1
          rw [← hx, List.count_cons_self] at hcount
          exact absurd hcount (Nat.succ_ne_zero _).symm
  | cons x before ih =>
      cases before' with
      | nil =>
          have hx : x = stop := (List.cons_eq_cons.mp h).1
          rw [hx, List.count_cons_self] at hcount
          exact absurd hcount (Nat.succ_ne_zero _)
      | cons y before' =>
          obtain ⟨rfl, hrest⟩ := List.cons_eq_cons.mp h
          rw [List.count_cons, List.count_cons] at hcount
          obtain ⟨rfl, hafter⟩ := ih hrest (Nat.add_right_cancel hcount)
          exact ⟨rfl, hafter⟩

end LLMRouting.Text
