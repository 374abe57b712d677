/-
# Backtracking regular expressions

The part of Python's `re` that matches, searches and substitutes with one capturing group.
A pattern lists the ways in which it can match at a place of a text, in the order in which a
backtracking matcher tries them; its match there is the first of them. Rules about all ways of
matching (what they take from the text, what they can begin with, what they leave in the
group) are proved once for every pattern, by recursion on the pattern.
-/

import Mathlib

namespace LLMRouting.Text

/-- Where a match stands in a text: what it has passed, last character first, what lies ahead
of it, and what group 1 holds. -/
structure Cursor where
  passed : List Char
  ahead : List Char
  group : Option (List Char)

/-- The cursor at the beginning of a text. -/
def Cursor.start (text : List Char) : Cursor := ⟨[], text, none⟩

/-- Patterns. Quantifiers are greedy and `group` is group 1. -/
inductive Regex where
  | empty
  | char (accepts : Char → Bool)
  | seq (first second : Regex)
  | alt (left right : Regex)
  | star (body : Regex)
  | group (body : Regex)
  | lookahead (body : Regex)
  | negativeLookahead (body : Regex)
  | lookbehind (accepts : Char → Bool)
  | start
  | finish
  | boundary (isWord : Char → Bool)

/-- Repeats a step that moves forward, as long as possible first. -/
def iterate (step : Cursor → List Cursor) : ℕ → Cursor → List Cursor
  | 0, c => [c]
  | fuel + 1, c =>
      ((step c).filter fun next => next.ahead.length < c.ahead.length).flatMap
        (iterate step fuel) ++ [c]

namespace Regex

/-- The ways in which a pattern matches at a cursor, in the order they are tried. -/
def run : Regex → Cursor → List Cursor
  | .empty, c => [c]
  | .char accepts, c =>
      match c.ahead with
      | [] => []
      | x :: rest => if accepts x then [{ c with passed := x :: c.passed, ahead := rest }] else []
  | .seq first second, c => (first.run c).flatMap second.run
  | .alt left right, c => left.run c ++ right.run c
  | .star body, c => iterate body.run c.ahead.length c
  | .group body, c =>
      (body.run c).map fun c' =>
        { c' with group := some (c.ahead.take (c.ahead.length - c'.ahead.length)) }
  | .lookahead body, c =>
      match body.run c with
      | [] => []
      | c' :: _ => [{ c with group := c'.group }]
  | .negativeLookahead body, c =>
      match body.run c with
      | [] => [c]
      | _ :: _ => []
  | .lookbehind accepts, c => if c.passed.head?.any accepts then [c] else []
  | .start, c => if c.passed.isEmpty then [c] else []
  -- `$` also matches before a final line feed
  | .finish, c => if c.ahead.isEmpty || c.ahead == ['\n'] then [c] else []
  | .boundary isWord, c =>
      if c.passed.head?.any isWord != c.ahead.head?.any isWord then [c] else []

/-- `r?` -/
def opt (r : Regex) : Regex := .alt r .empty

/-- `r+` -/
def plus (r : Regex) : Regex := .seq r (.star r)

/-- `r{0,n}` -/
def upTo (r : Regex) : ℕ → Regex
  | 0 => .empty
  | n + 1 => opt (.seq r (r.upTo n))

/-- `r{n,}` -/
def atLeast (r : Regex) : ℕ → Regex
  | 0 => .star r
  | n + 1 => .seq r (r.atLeast n)

/-- Patterns one after the other. -/
def seqs : List Regex → Regex
  | [] => .empty
  | [r] => r
  | r :: s :: rest => .seq r (seqs (s :: rest))

/-- Alternatives, the first one preferred. -/
def alts : List Regex → Regex
  | [] => .empty
  | [r] => r
  | r :: s :: rest => .alt r (alts (s :: rest))

/-- One of the characters between the brackets. -/
def oneOf (chars : List Char) : Regex := .char fun c => c ∈ chars

/-- The characters of a text one after the other, up to an equivalence of characters. -/
def literal (same : Char → Char → Bool) : List Char → Regex
  | [] => .empty
  | c :: rest => .seq (.char (same c)) (literal same rest)

/-- `re.match`. -/
def matchStart (r : Regex) (text : List Char) : Option Cursor := (r.run (.start text)).head?

/-- `re.fullmatch`, as a test. -/
def fullmatch (r : Regex) (text : List Char) : Bool :=
  (r.run (.start text)).any fun c => c.ahead.isEmpty

/-- The text from a place on, its matches replaced by what the template makes of group 1;
`skip` characters still belong to the last match. Matches that take nothing are passed over:
see `Consumes`. -/
def subFrom (r : Regex) (template : List Char → List Char) :
    ℕ → List Char → List Char → List Char
  | _, _, [] => []
  | skip + 1, passed, x :: rest => r.subFrom template skip (x :: passed) rest
  | 0, passed, x :: rest =>
      match (r.run ⟨passed, x :: rest, none⟩).head? with
      | none => x :: r.subFrom template 0 (x :: passed) rest
      | some c =>
          if c.ahead.length < rest.length + 1 then
            template (c.group.getD []) ++
              r.subFrom template (rest.length - c.ahead.length) (x :: passed) rest
          else x :: r.subFrom template 0 (x :: passed) rest

/-- `re.sub`, for patterns that never match the empty text. -/
def sub (r : Regex) (template : List Char → List Char) (text : List Char) : List Char :=
  r.subFrom template 0 [] text

/-- The pattern matches somewhere in the text. -/
def Occurs (r : Regex) (text : List Char) : Prop :=
  ∃ before rest c, before ++ rest = text ∧ c ∈ r.run ⟨before.reverse, rest, none⟩

end Regex

open Regex

variable {r first second : Regex} {c c' d e : Cursor} {accepts : Char → Bool} {p : Char → Prop}

theorem run_empty : Regex.empty.run c = [c] := rfl

theorem run_seq : (Regex.seq first second).run c = (first.run c).flatMap second.run := rfl

theorem run_alt : (Regex.alt first second).run c = first.run c ++ second.run c := rfl

theorem run_star : (Regex.star r).run c = iterate r.run c.ahead.length c := rfl

theorem run_group : (Regex.group r).run c = (r.run c).map fun m =>
    { m with group := some (c.ahead.take (c.ahead.length - m.ahead.length)) } := rfl

@[simp]
theorem mem_run_empty : c' ∈ Regex.empty.run c ↔ c' = c := by
  rw [run_empty, List.mem_singleton]

theorem mem_run_char : c' ∈ (Regex.char accepts).run c ↔
    ∃ x rest, c.ahead = x :: rest ∧ accepts x = true ∧
      c' = { c with passed := x :: c.passed, ahead := rest } := by
  obtain ⟨passed, ahead, group⟩ := c
  cases ahead with
  | nil =>
      show c' ∈ [] ↔ _
      simp
  | cons x rest =>
      show c' ∈ (if accepts x then [Cursor.mk (x :: passed) rest group] else []) ↔ _
      by_cases hx : accepts x = true
      · simp [hx]
      · simp [hx]

@[simp]
theorem mem_run_seq : c' ∈ (Regex.seq first second).run c ↔
    ∃ m ∈ first.run c, c' ∈ second.run m := by
  rw [run_seq, List.mem_flatMap]

@[simp]
theorem mem_run_alt : c' ∈ (Regex.alt first second).run c ↔
    c' ∈ first.run c ∨ c' ∈ second.run c := by
  rw [run_alt, List.mem_append]

@[simp]
theorem mem_run_opt : c' ∈ (opt r).run c ↔ c' ∈ r.run c ∨ c' = c := by
  rw [opt, mem_run_alt, mem_run_empty]

theorem mem_run_group : c' ∈ (Regex.group r).run c ↔
    ∃ m ∈ r.run c, { m with group := some (c.ahead.take (c.ahead.length - m.ahead.length)) } =
      c' := by
  rw [run_group, List.mem_map]

theorem mem_run_lookahead (h : c' ∈ (Regex.lookahead r).run c) :
    ∃ m ∈ r.run c, c' = { c with group := m.group } := by
  change c' ∈ (match r.run c with | [] => [] | m :: _ => [{ c with group := m.group }]) at h
  cases hrun : r.run c with
  | nil => simp [hrun] at h
  | cons m rest =>
      have hc : c' = { c with group := m.group } := by simpa [hrun] using h
      exact ⟨m, List.mem_cons_self, hc⟩

/-- A lookahead without a group succeeds where its body does. -/
theorem mem_run_lookahead_self (h : (r.run c) ≠ []) (hgroup : ∀ m ∈ r.run c, m.group = c.group) :
    c ∈ (Regex.lookahead r).run c := by
  show c ∈ (match r.run c with | [] => [] | m :: _ => [{ c with group := m.group }])
  cases hrun : r.run c with
  | nil => exact absurd hrun h
  | cons m rest =>
      have hm : m.group = c.group := hgroup m (by simp [hrun])
      simp [hm]

theorem mem_run_negativeLookahead :
    c' ∈ (Regex.negativeLookahead r).run c ↔ c' = c ∧ r.run c = [] := by
  show c' ∈ (match r.run c with | [] => [c] | _ :: _ => []) ↔ _
  cases hrun : r.run c with
  | nil => simp
  | cons m rest => simp

/-- A test that leaves the cursor where it is. -/
private theorem mem_guarded {b : Bool} : c' ∈ (if b then [c] else []) ↔ c' = c ∧ b = true := by
  cases b with
  | false => simp
  | true => simp

theorem mem_run_lookbehind :
    c' ∈ (Regex.lookbehind accepts).run c ↔ c' = c ∧ c.passed.head?.any accepts = true :=
  mem_guarded

theorem mem_run_start : c' ∈ Regex.start.run c ↔ c' = c ∧ c.passed = [] := by
  rw [← List.isEmpty_iff]
  exact mem_guarded

theorem mem_run_finish :
    c' ∈ Regex.finish.run c ↔ c' = c ∧ (c.ahead = [] ∨ c.ahead = ['\n']) := by
  have h : (c.ahead.isEmpty || c.ahead == ['\n']) = true ↔ c.ahead = [] ∨ c.ahead = ['\n'] := by
    simp
  rw [← h]
  exact mem_guarded

theorem mem_run_boundary {isWord : Char → Bool} : c' ∈ (Regex.boundary isWord).run c ↔
    c' = c ∧ (c.passed.head?.any isWord != c.ahead.head?.any isWord) = true :=
  mem_guarded

/-- `re.match` finds a match where there is one. -/
theorem exists_matchStart {text : List Char} (h : c ∈ r.run (.start text)) :
    ∃ c', r.matchStart text = some c' ∧ c' ∈ r.run (.start text) := by
  rw [matchStart]
  cases hrun : r.run (.start text) with
  | nil => simp [hrun] at h
  | cons c' more => exact ⟨c', rfl, List.mem_cons_self⟩

/-- More fuel than there are characters ahead changes nothing. -/
theorem iterate_fuel {step : Cursor → List Cursor} {n m : ℕ} (hn : c.ahead.length ≤ n)
    (hm : c.ahead.length ≤ m) : iterate step n c = iterate step m c := by
  induction n generalizing c m with
  | zero =>
      have hc : c.ahead.length = 0 := Nat.le_zero.mp hn
      cases m with
      | zero => rfl
      | succ m => simp [iterate, hc]
  | succ n ih =>
      cases m with
      | zero =>
          have hc : c.ahead.length = 0 := Nat.le_zero.mp hm
          simp [iterate, hc]
      | succ m =>
          rw [iterate, iterate]
          congr 1
          apply List.flatMap_congr
          intro next hnext
          have hlt : next.ahead.length < c.ahead.length := by
            simpa using (List.mem_filter.mp hnext).2
          exact ih (by omega) (by omega)

/-- A repetition stops, or steps forward once and goes on. -/
theorem mem_run_star : c' ∈ (Regex.star r).run c ↔
    (∃ next ∈ r.run c, next.ahead.length < c.ahead.length ∧ c' ∈ (Regex.star r).run next) ∨
      c' = c := by
  cases hlength : c.ahead.length with
  | zero => simp [run_star, iterate, hlength]
  | succ n =>
      have hfuel (next : Cursor) (hnext : next.ahead.length < n + 1) :
          iterate r.run n next = (Regex.star r).run next := by
        rw [run_star]
        exact iterate_fuel (Nat.le_of_lt_succ hnext) le_rfl
      rw [run_star, hlength, iterate]
      simp only [List.mem_append, List.mem_flatMap, List.mem_filter,
        List.mem_singleton, decide_eq_true_eq, hlength]
      apply or_congr_left
      apply exists_congr
      intro next
      by_cases hnext : next.ahead.length < n + 1
      · rw [hfuel next hnext]
        simp [hnext]
      · simp [hnext]

/-- A repetition may stop at once. -/
theorem self_mem_run_star : c ∈ (Regex.star r).run c :=
  mem_run_star.mpr (.inr rfl)

/-- What holds of standing still, and of one step before it, holds of a repetition. -/
theorem star_induction {motive : Cursor → Cursor → Prop} (hrefl : ∀ c, motive c c)
    (hstep : ∀ c next c', next ∈ r.run c → c' ∈ (Regex.star r).run next → motive next c' →
      motive c c')
    (h : c' ∈ (Regex.star r).run c) : motive c c' := by
  have hbounded (n : ℕ) : ∀ c, c.ahead.length ≤ n → c' ∈ (Regex.star r).run c → motive c c' := by
    induction n with
    | zero =>
        intro c hlength h
        obtain ⟨next, -, hlt, -⟩ | rfl := mem_run_star.mp h
        · omega
        · exact hrefl c'
    | succ n ih =>
        intro c hlength h
        obtain ⟨next, hnext, hlt, hrest⟩ | rfl := mem_run_star.mp h
        · exact hstep c next c' hnext hrest (ih next (by omega) hrest)
        · exact hrefl c'
  exact hbounded c.ahead.length c le_rfl h

/-- The second cursor stands a given text further than the first. -/
def Cursor.Took (c : Cursor) (taken : List Char) (c' : Cursor) : Prop :=
  c.ahead = taken ++ c'.ahead ∧ c'.passed = taken.reverse ++ c.passed

namespace Cursor

variable {taken taken' : List Char}

theorem Took.refl (c : Cursor) : c.Took [] c := ⟨rfl, rfl⟩

theorem Took.trans (h : c.Took taken d) (h' : d.Took taken' e) :
    c.Took (taken ++ taken') e := by
  have hahead : c.ahead = taken ++ taken' ++ e.ahead := by
    rw [h.1, h'.1, List.append_assoc]
  have hpassed : e.passed = (taken ++ taken').reverse ++ c.passed := by
    rw [h'.2, h.2, List.reverse_append, List.append_assoc]
  exact ⟨hahead, hpassed⟩

/-- Between two cursors there is one text. -/
theorem Took.unique (h : c.Took taken c') (h' : c.Took taken' c') : taken = taken' :=
  List.append_cancel_right (h.1.symm.trans h'.1)

theorem Took.take (h : c.Took taken c') :
    c.ahead.take (c.ahead.length - c'.ahead.length) = taken := by
  simp [h.1]

end Cursor

namespace Regex

/-- The pattern looks at its surroundings and takes nothing. -/
def Assertion : Regex → Bool
  | .char _ | .seq _ _ | .alt _ _ | .star _ | .group _ => false
  | _ => true

/-- The pattern leaves group 1 alone. -/
def Groupless : Regex → Bool
  | .seq first second => first.Groupless && second.Groupless
  | .alt left right => left.Groupless && right.Groupless
  | .star body => body.Groupless
  | .lookahead body => body.Groupless
  | .group _ => false
  | _ => true

/-- Every character the pattern takes or captures has a property. -/
def Within (p : Char → Prop) : Regex → Prop
  | .char accepts => ∀ x, accepts x = true → p x
  | .seq first second => first.Within p ∧ second.Within p
  | .alt left right => left.Within p ∧ right.Within p
  | .star body => body.Within p
  | .group body => body.Within p
  | .lookahead body => body.Groupless = true
  | _ => True

/-- The pattern takes at least one character. -/
def Consumes : Regex → Bool
  | .char _ => true
  | .seq first second => first.Consumes || second.Consumes
  | .alt left right => left.Consumes && right.Consumes
  | .group body => body.Consumes
  | _ => false

/-- The pattern takes a character first, and that has a property. -/
def BeginsWith (p : Char → Prop) : Regex → Prop
  | .char accepts => ∀ x, accepts x = true → p x
  | .seq first _ => first.BeginsWith p
  | .alt left right => left.BeginsWith p ∧ right.BeginsWith p
  | .group body => body.BeginsWith p
  | _ => False

end Regex

theorem took_of_assertion (hr : r.Assertion = true) (h : c' ∈ r.run c) : c.Took [] c' := by
  cases r with
  | empty => rw [mem_run_empty.mp h]; exact .refl c
  | lookahead body =>
      obtain ⟨m, -, rfl⟩ := mem_run_lookahead h
      exact .refl c
  | negativeLookahead body => rw [(mem_run_negativeLookahead.mp h).1]; exact .refl c
  | lookbehind accepts => rw [(mem_run_lookbehind.mp h).1]; exact .refl c
  | start => rw [(mem_run_start.mp h).1]; exact .refl c
  | finish => rw [(mem_run_finish.mp h).1]; exact .refl c
  | boundary isWord => rw [(mem_run_boundary.mp h).1]; exact .refl c
  | _ => simp [Assertion] at hr

/-- Every way of matching takes the next characters of the text. -/
theorem exists_took (h : c' ∈ r.run c) : ∃ taken, c.Took taken c' := by
  induction r generalizing c c' with
  | char accepts =>
      obtain ⟨x, rest, hahead, -, rfl⟩ := mem_run_char.mp h
      exact ⟨[x], hahead, rfl⟩
  | seq first second ihFirst ihSecond =>
      obtain ⟨m, hm, hc'⟩ := mem_run_seq.mp h
      obtain ⟨taken, htaken⟩ := ihFirst hm
      obtain ⟨taken', htaken'⟩ := ihSecond hc'
      exact ⟨taken ++ taken', htaken.trans htaken'⟩
  | alt left right ihLeft ihRight =>
      obtain h | h := mem_run_alt.mp h
      · exact ihLeft h
      · exact ihRight h
  | star body ih =>
      apply star_induction (motive := fun c c' => ∃ taken, c.Took taken c') _ _ h
      · exact fun c => ⟨[], .refl c⟩
      · intro c next c' hnext _ hrest
        obtain ⟨taken, htaken⟩ := ih hnext
        obtain ⟨taken', htaken'⟩ := hrest
        exact ⟨taken ++ taken', htaken.trans htaken'⟩
  | group body ih =>
      obtain ⟨m, hm, rfl⟩ := mem_run_group.mp h
      obtain ⟨taken, htaken⟩ := ih hm
      exact ⟨taken, htaken⟩
  | _ => exact ⟨[], took_of_assertion rfl h⟩

/-- The group of a captured match is the text it took. -/
theorem took_group (h : c' ∈ (Regex.group r).run c) :
    ∃ m taken, m ∈ r.run c ∧ c.Took taken m ∧ c' = { m with group := some taken } := by
  obtain ⟨m, hm, rfl⟩ := mem_run_group.mp h
  obtain ⟨taken, htaken⟩ := exists_took hm
  exact ⟨m, taken, hm, htaken, by rw [htaken.take]⟩

/-- What a match takes has the property its pattern promises. -/
theorem Regex.Within.taken {taken : List Char} (hr : r.Within p) (h : c' ∈ r.run c)
    (htook : c.Took taken c') : ∀ x ∈ taken, p x := by
  induction r generalizing c c' taken with
  | char accepts =>
      obtain ⟨x, rest, hahead, hx, rfl⟩ := mem_run_char.mp h
      have htaken : taken = [x] := htook.unique ⟨hahead, rfl⟩
      intro y hy
      rw [htaken, List.mem_singleton] at hy
      rw [hy]
      exact hr x hx
  | seq first second ihFirst ihSecond =>
      obtain ⟨m, hm, hc'⟩ := mem_run_seq.mp h
      obtain ⟨left, hleft⟩ := exists_took hm
      obtain ⟨right, hright⟩ := exists_took hc'
      rw [htook.unique (hleft.trans hright)]
      intro x hx
      obtain hx | hx := List.mem_append.mp hx
      · exact ihFirst hr.1 hm hleft x hx
      · exact ihSecond hr.2 hc' hright x hx
  | alt left right ihLeft ihRight =>
      obtain h | h := mem_run_alt.mp h
      · exact ihLeft hr.1 h htook
      · exact ihRight hr.2 h htook
  | star body ih =>
      have hall : ∀ taken, c.Took taken c' → ∀ x ∈ taken, p x := by
        apply star_induction (motive := fun c c' => ∀ taken, c.Took taken c' → ∀ x ∈ taken, p x)
          _ _ h
        · intro c taken htaken x hx
          rw [htaken.unique (.refl c)] at hx
          simp at hx
        · intro c next c' hnext hstar hrest taken htaken x hx
          obtain ⟨left, hleft⟩ := exists_took hnext
          obtain ⟨right, hright⟩ := exists_took hstar
          rw [htaken.unique (hleft.trans hright)] at hx
          obtain hx | hx := List.mem_append.mp hx
          · exact ih hr hnext hleft x hx
          · exact hrest right hright x hx
      exact hall taken htook
  | group body ih =>
      obtain ⟨m, hm, rfl⟩ := mem_run_group.mp h
      exact ih hr hm htook
  | _ =>
      rw [htook.unique (took_of_assertion rfl h)]
      simp

/-- A pattern that consumes moves forward. -/
theorem length_lt_of_consumes (hr : r.Consumes = true) (h : c' ∈ r.run c) :
    c'.ahead.length < c.ahead.length := by
  have hle {r : Regex} {c c' : Cursor} (h : c' ∈ r.run c) :
      c'.ahead.length ≤ c.ahead.length := by
    obtain ⟨taken, htaken, -⟩ := exists_took h
    simp [htaken]
  induction r generalizing c c' with
  | char accepts =>
      obtain ⟨x, rest, hahead, -, rfl⟩ := mem_run_char.mp h
      simp [hahead]
  | seq first second ihFirst ihSecond =>
      obtain ⟨m, hm, hc'⟩ := mem_run_seq.mp h
      have hr : first.Consumes = true ∨ second.Consumes = true := by
        simpa [Consumes] using hr
      obtain hfirst | hsecond := hr
      · exact (hle hc').trans_lt (ihFirst hfirst hm)
      · exact (ihSecond hsecond hc').trans_le (hle hm)
  | alt left right ihLeft ihRight =>
      have hr : left.Consumes = true ∧ right.Consumes = true := by
        simpa [Consumes] using hr
      obtain h | h := mem_run_alt.mp h
      · exact ihLeft hr.1 h
      · exact ihRight hr.2 h
  | group body ih =>
      obtain ⟨m, hm, rfl⟩ := mem_run_group.mp h
      have hlt : m.ahead.length < c.ahead.length := ih hr hm
      exact hlt
  | _ => simp [Consumes] at hr

/-- A match begins with a character its pattern can begin with. -/
theorem Regex.BeginsWith.head (hr : r.BeginsWith p) (h : c' ∈ r.run c) :
    ∃ x rest, c.ahead = x :: rest ∧ p x := by
  induction r generalizing c c' with
  | char accepts =>
      obtain ⟨x, rest, hahead, hx, -⟩ := mem_run_char.mp h
      exact ⟨x, rest, hahead, hr x hx⟩
  | seq first second ihFirst ihSecond =>
      obtain ⟨m, hm, -⟩ := mem_run_seq.mp h
      exact ihFirst hr hm
  | alt left right ihLeft ihRight =>
      obtain h | h := mem_run_alt.mp h
      · exact ihLeft hr.1 h
      · exact ihRight hr.2 h
  | group body ih =>
      obtain ⟨m, hm, -⟩ := mem_run_group.mp h
      exact ih hr hm
  | _ => exact absurd hr id

/-- An optional part is skipped where the text cannot begin with it. -/
theorem eq_of_mem_run_opt (hr : r.BeginsWith p) (hhead : ∀ x ∈ c.ahead.head?, ¬ p x)
    (h : c' ∈ (opt r).run c) : c' = c := by
  obtain h | h := mem_run_opt.mp h
  · obtain ⟨x, rest, hahead, hx⟩ := hr.head h
    exact absurd hx (hhead x (by simp [hahead]))
  · exact h

/-- What is matched without a group leaves the group as it was. -/
theorem group_of_groupless (hr : r.Groupless = true) (h : c' ∈ r.run c) :
    c'.group = c.group := by
  induction r generalizing c c' with
  | empty => rw [mem_run_empty.mp h]
  | char accepts =>
      obtain ⟨x, rest, -, -, rfl⟩ := mem_run_char.mp h
      rfl
  | seq first second ihFirst ihSecond =>
      have hr : first.Groupless = true ∧ second.Groupless = true := by
        simpa [Groupless] using hr
      obtain ⟨m, hm, hc'⟩ := mem_run_seq.mp h
      exact (ihSecond hr.2 hc').trans (ihFirst hr.1 hm)
  | alt left right ihLeft ihRight =>
      have hr : left.Groupless = true ∧ right.Groupless = true := by
        simpa [Groupless] using hr
      obtain h | h := mem_run_alt.mp h
      · exact ihLeft hr.1 h
      · exact ihRight hr.2 h
  | star body ih =>
      apply star_induction (motive := fun c c' => c'.group = c.group) _ _ h
      · exact fun c => rfl
      · exact fun c next c' hnext _ hrest => hrest.trans (ih hr hnext)
  | group body ih => simp [Groupless] at hr
  | lookahead body ih =>
      obtain ⟨m, hm, rfl⟩ := mem_run_lookahead h
      have hgroup : m.group = c.group := ih hr hm
      exact hgroup
  | negativeLookahead body ih => rw [(mem_run_negativeLookahead.mp h).1]
  | lookbehind accepts => rw [(mem_run_lookbehind.mp h).1]
  | start => rw [(mem_run_start.mp h).1]
  | finish => rw [(mem_run_finish.mp h).1]
  | boundary isWord => rw [(mem_run_boundary.mp h).1]

/-- What a match captures has the property its pattern promises. -/
theorem Regex.Within.group (hr : r.Within p) (h : c' ∈ r.run c)
    (hc : ∀ x ∈ c.group.getD [], p x) : ∀ x ∈ c'.group.getD [], p x := by
  induction r generalizing c c' with
  | seq first second ihFirst ihSecond =>
      obtain ⟨m, hm, hc'⟩ := mem_run_seq.mp h
      exact ihSecond hr.2 hc' (ihFirst hr.1 hm hc)
  | alt left right ihLeft ihRight =>
      obtain h | h := mem_run_alt.mp h
      · exact ihLeft hr.1 h hc
      · exact ihRight hr.2 h hc
  | star body ih =>
      have hall : (∀ x ∈ c.group.getD [], p x) → ∀ x ∈ c'.group.getD [], p x := by
        apply star_induction
          (motive := fun c c' => (∀ x ∈ c.group.getD [], p x) → ∀ x ∈ c'.group.getD [], p x) _ _ h
        · exact fun c hc => hc
        · exact fun c next c' hnext _ hrest hc => hrest (ih hr hnext hc)
      exact hall hc
  | group body ih =>
      obtain ⟨m, taken, hm, htaken, rfl⟩ := took_group h
      exact Regex.Within.taken (r := body) hr hm htaken
  | lookahead body ih =>
      rw [group_of_groupless (r := .lookahead body) hr h]
      exact hc
  | _ =>
      rw [group_of_groupless rfl h]
      exact hc

section Derived

variable {x : Char} {n k : ℕ}

@[simp]
theorem within_opt : (opt r).Within p ↔ r.Within p :=
  and_iff_left trivial

@[simp]
theorem within_plus : (plus r).Within p ↔ r.Within p :=
  and_self_iff

@[simp]
theorem within_upTo (hr : r.Within p) : (upTo r n).Within p := by
  induction n with
  | zero => exact trivial
  | succ n ih => exact within_opt.mpr ⟨hr, ih⟩

theorem within_oneOf {chars : List Char} (h : ∀ x ∈ chars, p x) : (oneOf chars).Within p :=
  fun x hx => h x (of_decide_eq_true hx)

theorem within_literal {same : Char → Char → Bool} {text : List Char}
    (h : ∀ c ∈ text, ∀ x, same c x = true → p x) : (literal same text).Within p := by
  induction text with
  | nil => exact trivial
  | cons c text ih =>
      exact ⟨h c List.mem_cons_self, ih fun d hd => h d (List.mem_cons_of_mem c hd)⟩

@[simp]
theorem groupless_literal {same : Char → Char → Bool} (text : List Char) :
    (literal same text).Groupless = true := by
  induction text with
  | nil => rfl
  | cons c text ih => exact ih

/-- A run of at most `n` copies of a character. -/
theorem took_of_mem_run_upTo (h : c' ∈ (upTo (oneOf [x]) n).run c) :
    ∃ k ≤ n, c.Took (List.replicate k x) c' := by
  induction n generalizing c with
  | zero =>
      rw [upTo, mem_run_empty] at h
      exact ⟨0, le_rfl, h ▸ .refl c⟩
  | succ n ih =>
      rw [upTo, mem_run_opt, mem_run_seq] at h
      obtain ⟨m, hm, hc'⟩ | rfl := h
      · obtain ⟨y, rest, hahead, hy, rfl⟩ := mem_run_char.mp hm
        have hy : y = x := by simpa using hy
        obtain ⟨k, hk, htook⟩ := ih hc'
        have hfirst : c.Took [x] { c with passed := y :: c.passed, ahead := rest } := by
          rw [hy] at hahead ⊢
          exact ⟨hahead, rfl⟩
        exact ⟨k + 1, Nat.succ_le_succ hk, hfirst.trans htook⟩
      · exact ⟨0, Nat.zero_le _, .refl c'⟩

/-- Any number of copies of a character within the bound can be taken. -/
theorem mem_run_upTo (hk : k ≤ n) (x : Char) (passed rest : List Char)
    (group : Option (List Char)) : ⟨List.replicate k x ++ passed, rest, group⟩ ∈
      (upTo (oneOf [x]) n).run ⟨passed, List.replicate k x ++ rest, group⟩ := by
  induction k generalizing n passed with
  | zero =>
      cases n with
      | zero => exact mem_run_empty.mpr rfl
      | succ n => exact mem_run_opt.mpr (.inr rfl)
  | succ k ih =>
      cases n with
      | zero => omega
      | succ n =>
          rw [upTo, mem_run_opt, mem_run_seq]
          left
          have hfirst : ⟨x :: passed, List.replicate k x ++ rest, group⟩ ∈
              (oneOf [x]).run ⟨passed, List.replicate (k + 1) x ++ rest, group⟩ :=
            mem_run_char.mpr ⟨x, List.replicate k x ++ rest, rfl, by simp, rfl⟩
          have hrest := ih (Nat.le_of_succ_le_succ hk) (x :: passed)
          rw [List.append_cons, ← List.replicate_succ'] at hrest
          exact ⟨_, hfirst, hrest⟩

/-- At least `n` copies of a character. -/
theorem prefix_of_mem_run_atLeast (h : c' ∈ (atLeast (oneOf [x]) n).run c) :
    List.replicate n x <+: c.ahead := by
  induction n generalizing c with
  | zero => exact List.nil_prefix
  | succ n ih =>
      rw [atLeast, mem_run_seq] at h
      obtain ⟨m, hm, hc'⟩ := h
      obtain ⟨y, rest, hahead, hy, rfl⟩ := mem_run_char.mp hm
      have hy : y = x := by simpa using hy
      rw [hahead, hy, List.replicate_succ]
      exact (List.prefix_cons_inj x).mpr (ih hc')

theorem run_oneOf_cons {chars : List Char} (passed rest : List Char)
    (group : Option (List Char)) (hx : x ∈ chars) :
    (oneOf chars).run ⟨passed, x :: rest, group⟩ = [⟨x :: passed, rest, group⟩] := by
  show (if decide (x ∈ chars) then _ else _) = _
  rw [if_pos (decide_eq_true hx)]

/-- Any number of characters out of some. -/
theorem mem_run_star_oneOf {chars : List Char} : c' ∈ (Regex.star (oneOf chars)).run c ↔
    ∃ taken, c.Took taken c' ∧ (∀ x ∈ taken, x ∈ chars) ∧ c'.group = c.group := by
  constructor
  · intro h
    obtain ⟨taken, htook⟩ := exists_took h
    have hwithin : (Regex.star (oneOf chars)).Within (· ∈ chars) :=
      within_oneOf (p := (· ∈ chars)) fun x hx => hx
    exact ⟨taken, htook, hwithin.taken h htook, group_of_groupless rfl h⟩
  · intro h
    obtain ⟨taken, htook, hchars, hgroup⟩ := h
    induction taken generalizing c with
    | nil =>
        have hc : c' = c := by
          obtain ⟨passed, ahead, group⟩ := c
          obtain ⟨passed', ahead', group'⟩ := c'
          have hahead : ahead = ahead' := htook.1
          have hpassed : passed' = passed := htook.2
          have hsame : group' = group := hgroup
          rw [hahead, hpassed, hsame]
        rw [hc]
        exact self_mem_run_star
    | cons x taken ih =>
        obtain ⟨passed, ahead, group⟩ := c
        have hahead : ahead = x :: (taken ++ c'.ahead) := htook.1
        subst hahead
        have hstep := run_oneOf_cons passed (taken ++ c'.ahead) group
          (hchars x List.mem_cons_self)
        have hnext : Cursor.Took ⟨x :: passed, taken ++ c'.ahead, group⟩ taken c' := by
          refine ⟨rfl, ?_⟩
          rw [htook.2, List.reverse_cons, List.append_assoc]
          rfl
        apply mem_run_star.mpr
        left
        refine ⟨⟨x :: passed, taken ++ c'.ahead, group⟩, ?_, ?_, ?_⟩
        · rw [hstep]
          exact List.mem_singleton_self _
        · show (taken ++ c'.ahead).length < (x :: (taken ++ c'.ahead)).length
          exact Nat.lt_succ_self _
        · exact ih hnext (fun y hy => hchars y (List.mem_cons_of_mem x hy)) hgroup

/-- A repetition takes all it can first. -/
theorem head?_run_star_oneOf {chars taken rest : List Char} (htaken : ∀ x ∈ taken, x ∈ chars)
    (hrest : ∀ x ∈ rest.head?, x ∉ chars) (passed : List Char) (group : Option (List Char)) :
    ((Regex.star (oneOf chars)).run ⟨passed, taken ++ rest, group⟩).head? =
      some ⟨taken.reverse ++ passed, rest, group⟩ := by
  induction taken generalizing passed with
  | nil =>
      cases rest with
      | nil => rfl
      | cons x rest =>
          have hx : x ∉ chars := hrest x rfl
          have hnone : (oneOf chars).run ⟨passed, x :: rest, group⟩ = [] := by
            show (if decide (x ∈ chars) then _ else _) = _
            rw [if_neg (by simpa using hx)]
          show (iterate (oneOf chars).run (rest.length + 1) ⟨passed, x :: rest, group⟩).head? = _
          rw [iterate, hnone]
          rfl
  | cons x taken ih =>
      have hstep := run_oneOf_cons passed (taken ++ rest) group (htaken x List.mem_cons_self)
      have hrun := ih (fun y hy => htaken y (List.mem_cons_of_mem x hy)) (x :: passed)
      rw [run_star] at hrun
      show (iterate (oneOf chars).run ((taken ++ rest).length + 1)
        ⟨passed, x :: (taken ++ rest), group⟩).head? = _
      rw [iterate, hstep, List.filter_cons_of_pos (by simp)]
      rw [List.filter_nil, List.flatMap_singleton, List.head?_append, hrun]
      simp

/-- At least `n` copies of a character, all there are first. -/
theorem head?_run_atLeast {rest : List Char} (hn : n ≤ k) (hrest : rest.head? ≠ some x)
    (passed : List Char) (group : Option (List Char)) :
    ((atLeast (oneOf [x]) n).run ⟨passed, List.replicate k x ++ rest, group⟩).head? =
      some ⟨List.replicate k x ++ passed, rest, group⟩ := by
  induction n generalizing k passed with
  | zero =>
      rw [atLeast, head?_run_star_oneOf]
      · rw [List.reverse_replicate]
      · exact fun y hy => List.mem_singleton.mpr (List.eq_of_mem_replicate hy)
      · intro y hy hxy
        rw [List.mem_singleton.mp hxy] at hy
        exact hrest hy
  | succ n ih =>
      obtain ⟨k, rfl⟩ := Nat.exists_eq_succ_of_ne_zero (Nat.ne_zero_of_lt hn)
      have hstep := run_oneOf_cons passed (List.replicate k x ++ rest) group
        (List.mem_singleton_self x)
      rw [atLeast, run_seq, List.replicate_succ, List.cons_append, hstep,
        List.flatMap_singleton, ih (Nat.le_of_succ_le_succ hn)]
      rw [List.append_cons, ← List.replicate_succ', List.replicate_succ]

/-- At least `n` copies of a character and nothing else. -/
theorem took_of_mem_run_atLeast (h : c' ∈ (atLeast (oneOf [x]) n).run c) :
    ∃ k ≥ n, c.Took (List.replicate k x) c' := by
  induction n generalizing c with
  | zero =>
      obtain ⟨taken, htook, hchars, -⟩ := mem_run_star_oneOf.mp h
      have htaken : taken = List.replicate taken.length x :=
        List.eq_replicate_of_mem fun y hy => List.mem_singleton.mp (hchars y hy)
      exact ⟨taken.length, Nat.zero_le _, htaken ▸ htook⟩
  | succ n ih =>
      rw [atLeast, mem_run_seq] at h
      obtain ⟨m, hm, hc'⟩ := h
      obtain ⟨y, rest, hahead, hy, rfl⟩ := mem_run_char.mp hm
      have hy : y = x := by simpa using hy
      obtain ⟨k, hk, htook⟩ := ih hc'
      have hfirst : c.Took [x] { c with passed := y :: c.passed, ahead := rest } := by
        rw [hy] at hahead ⊢
        exact ⟨hahead, rfl⟩
      exact ⟨k + 1, Nat.succ_le_succ hk, hfirst.trans htook⟩

/-- Any number of copies of a character from the bound on can be taken. -/
theorem mem_run_atLeast (hn : n ≤ k) (x : Char) (passed rest : List Char)
    (group : Option (List Char)) : ⟨List.replicate k x ++ passed, rest, group⟩ ∈
      (atLeast (oneOf [x]) n).run ⟨passed, List.replicate k x ++ rest, group⟩ := by
  induction n generalizing k passed with
  | zero =>
      apply mem_run_star_oneOf.mpr
      refine ⟨List.replicate k x, ⟨rfl, ?_⟩, ?_, rfl⟩
      · rw [List.reverse_replicate]
      · exact fun y hy => List.mem_singleton.mpr (List.eq_of_mem_replicate hy)
  | succ n ih =>
      obtain ⟨k, rfl⟩ := Nat.exists_eq_succ_of_ne_zero (Nat.ne_zero_of_lt hn)
      have hrest := ih (Nat.le_of_succ_le_succ hn) (x :: passed)
      rw [List.append_cons, ← List.replicate_succ'] at hrest
      rw [atLeast, run_seq, List.replicate_succ, List.cons_append,
        run_oneOf_cons passed (List.replicate k x ++ rest) group (List.mem_singleton_self x),
        List.flatMap_singleton]
      exact hrest

/-- One copy of a character or none. -/
theorem took_of_mem_run_opt (h : c' ∈ (opt (oneOf [x])).run c) :
    c.Took [x] c' ∨ c.Took [] c' := by
  obtain h | rfl := mem_run_opt.mp h
  · obtain ⟨y, rest, hahead, hy, rfl⟩ := mem_run_char.mp h
    have hy : y = x := by simpa using hy
    left
    rw [hy] at hahead ⊢
    exact ⟨hahead, rfl⟩
  · exact .inr (.refl c')

/-- Where one way of matching first is the only one to go on from, the match goes on there. -/
theorem head?_run_seq {m : Cursor} (hm : m ∈ first.run c)
    (honly : ∀ other ∈ first.run c, other ≠ m → second.run other = []) :
    ((Regex.seq first second).run c).head? = (second.run m).head? := by
  have hflat (ways : List Cursor) (hways : m ∈ ways)
      (honly : ∀ other ∈ ways, other ≠ m → second.run other = []) :
      (ways.flatMap second.run).head? = (second.run m).head? := by
    induction ways with
    | nil => exact absurd hways List.not_mem_nil
    | cons way ways ih =>
        have hrest := fun other hother => honly other (List.mem_cons_of_mem way hother)
        rw [List.flatMap_cons, List.head?_append]
        by_cases hway : way = m
        · subst hway
          cases hhead : (second.run way).head? with
          | some found => rfl
          | none =>
              rw [Option.none_or]
              apply List.head?_eq_none_iff.mpr
              apply List.flatMap_eq_nil_iff.mpr
              intro other hother
              by_cases hsame : other = way
              · rw [hsame]
                exact List.head?_eq_none_iff.mp hhead
              · exact hrest other hother hsame
        · rw [honly way List.mem_cons_self hway, List.head?_nil, Option.none_or]
          obtain rfl | hmore := List.mem_cons.mp hways
          · exact absurd rfl hway
          · exact ih hmore hrest
  exact hflat _ hm honly

/-- A literal matches its own text. -/
theorem mem_run_literal {same : Char → Char → Bool} (hsame : ∀ c, same c c = true)
    (text passed rest : List Char) (group : Option (List Char)) :
    ⟨text.reverse ++ passed, rest, group⟩ ∈
      (literal same text).run ⟨passed, text ++ rest, group⟩ := by
  induction text generalizing passed with
  | nil => exact mem_run_empty.mpr rfl
  | cons c text ih =>
      rw [literal, mem_run_seq]
      have hfirst : ⟨c :: passed, text ++ rest, group⟩ ∈
          (Regex.char (same c)).run ⟨passed, c :: text ++ rest, group⟩ :=
        mem_run_char.mpr ⟨c, text ++ rest, rfl, hsame c, rfl⟩
      refine ⟨_, hfirst, ?_⟩
      rw [List.reverse_cons, List.append_assoc]
      exact ih (c :: passed)

end Derived

section Substitution

variable {template : List Char → List Char} {text body ending passed : List Char}

/-- At a place where the pattern matches, its first way of matching is rewritten. -/
theorem subFrom_of_head {x : Char} {rest : List Char} (hr : r.Consumes = true)
    (h : (r.run ⟨passed, x :: rest, none⟩).head? = some c) :
    r.subFrom template 0 passed (x :: rest) = template (c.group.getD []) ++
      r.subFrom template (rest.length - c.ahead.length) (x :: passed) rest := by
  have hlt : c.ahead.length < rest.length + 1 :=
    length_lt_of_consumes hr (List.mem_of_mem_head? h)
  rw [subFrom, h]
  exact if_pos hlt

/-- From a place on, either the pattern matches nowhere or the first match is rewritten. -/
theorem subFrom_cases (template : List Char → List Char) (hr : r.Consumes = true)
    (rest : List Char) : ∀ passed,
    ((∀ before after, before ++ after = rest →
      r.run ⟨before.reverse ++ passed, after, none⟩ = []) ∧
      r.subFrom template 0 passed rest = rest) ∨
    ∃ before after c tail, before ++ after = rest ∧
      c ∈ r.run ⟨before.reverse ++ passed, after, none⟩ ∧
      r.subFrom template 0 passed rest = before ++ template (c.group.getD []) ++ tail := by
  induction rest with
  | nil =>
      intro passed
      refine .inl ⟨?_, rfl⟩
      intro before after hnil
      obtain ⟨rfl, rfl⟩ := List.append_eq_nil_iff.mp hnil
      apply List.eq_nil_iff_forall_not_mem.mpr
      intro c hc
      have hlt := length_lt_of_consumes hr hc
      simp at hlt
  | cons x rest ih =>
      intro passed
      cases hhead : (r.run ⟨passed, x :: rest, none⟩).head? with
      | some c =>
          right
          exact ⟨[], x :: rest, c, _, rfl, List.mem_of_mem_head? hhead,
            subFrom_of_head hr hhead⟩
      | none =>
          have hsub : r.subFrom template 0 passed (x :: rest) =
              x :: r.subFrom template 0 (x :: passed) rest := by
            rw [subFrom, hhead]
          obtain ⟨hnone, hsame⟩ | ⟨before, after, c, tail, hrest, hc, hrewrite⟩ :=
            ih (x :: passed)
          · refine .inl ⟨?_, by rw [hsub, hsame]⟩
            intro before after hrest
            cases before with
            | nil =>
                rw [List.nil_append] at hrest
                rw [hrest]
                exact List.head?_eq_none_iff.mp hhead
            | cons y before =>
                obtain ⟨rfl, htail⟩ := List.cons_eq_cons.mp hrest
                simpa using hnone before after htail
          · right
            refine ⟨x :: before, after, c, tail, by rw [← hrest]; rfl, by simpa using hc, ?_⟩
            rw [hsub, hrewrite]
            rfl

/-- A pattern that matches nowhere substitutes nothing. -/
theorem sub_of_not_occurs (hr : r.Consumes = true) (h : ¬ r.Occurs text) :
    r.sub template text = text := by
  obtain ⟨-, hsame⟩ | ⟨before, after, c, tail, htext, hc, -⟩ :=
    subFrom_cases template hr text []
  · exact hsame
  · exact absurd ⟨before, after, c, htext, by simpa using hc⟩ h

/-- The text is rewritten at the first place where the pattern matches. -/
theorem sub_of_occurs (template : List Char → List Char) (hr : r.Consumes = true)
    (h : r.Occurs text) :
    ∃ before after c tail, before ++ after = text ∧
      c ∈ r.run ⟨before.reverse, after, none⟩ ∧
      r.sub template text = before ++ template (c.group.getD []) ++ tail := by
  obtain ⟨hnone, -⟩ | ⟨before, after, c, tail, htext, hc, hrewrite⟩ :=
    subFrom_cases template hr text []
  · obtain ⟨before, after, c, htext, hc⟩ := h
    have hempty := hnone before after htext
    rw [List.append_nil] at hempty
    rw [hempty] at hc
    simp at hc
  · exact ⟨before, after, c, tail, htext, by simpa using hc, hrewrite⟩

/-- Where the pattern matches at the beginning, the text is rewritten there. -/
theorem sub_of_start (template : List Char → List Char) (hr : r.Consumes = true)
    (h : c ∈ r.run (.start text)) :
    ∃ c' tail, c' ∈ r.run (.start text) ∧
      r.sub template text = template (c'.group.getD []) ++ tail := by
  cases text with
  | nil =>
      have hlt := length_lt_of_consumes hr h
      simp [Cursor.start] at hlt
  | cons x rest =>
      obtain ⟨c', hhead, hc'⟩ := exists_matchStart h
      exact ⟨c', _, hc', subFrom_of_head hr hhead⟩

/-- A match does not reach into an end that has nothing of what the pattern takes. -/
theorem length_ahead_of_within (body : List Char) (hwithin : r.Within p)
    (hending : ∀ x ∈ ending, ¬ p x) (hc : c.ahead = body ++ ending) (h : c' ∈ r.run c) :
    ending.length ≤ c'.ahead.length := by
  obtain ⟨taken, htaken⟩ := exists_took h
  have htakenWithin := hwithin.taken h htaken
  have hsplit : body ++ ending = taken ++ c'.ahead := hc.symm.trans htaken.1
  obtain ⟨middle, htakenEq, hmiddle⟩ | ⟨middle, -, hmiddle⟩ :=
    List.append_eq_append_iff.mp hsplit
  · cases middle with
    | nil =>
        rw [hmiddle]
        rfl
    | cons x middle =>
        have hx : x ∈ ending := by rw [hmiddle]; exact List.mem_cons_self
        have hp : p x := htakenWithin x (by simp [htakenEq])
        exact absurd hp (hending x hx)
  · rw [hmiddle, List.length_append]
    omega

/-- A pattern does not match where nothing ahead can be taken. -/
theorem run_eq_nil_of_within (hr : r.Consumes = true) (hwithin : r.Within p)
    (hahead : ∀ x ∈ c.ahead, ¬ p x) : r.run c = [] := by
  apply List.eq_nil_iff_forall_not_mem.mpr
  intro c' hc'
  have hle : c.ahead.length ≤ c'.ahead.length := length_ahead_of_within [] hwithin hahead rfl hc'
  have hlt := length_lt_of_consumes hr hc'
  omega

theorem not_occurs_of_within (hr : r.Consumes = true) (hwithin : r.Within p)
    (htext : ∀ x ∈ text, ¬ p x) : ¬ r.Occurs text := by
  intro h
  obtain ⟨before, after, c, rfl, hc⟩ := h
  have hnil : r.run ⟨before.reverse, after, none⟩ = [] :=
    run_eq_nil_of_within hr hwithin fun x hx => htext x (List.mem_append_right before hx)
  rw [hnil] at hc
  simp at hc

/-- Substitution keeps the end of a text that no match can reach, and what comes before it
stays within what matches and templates are made of. -/
theorem sub_append (template : List Char → List Char) (hr : r.Consumes = true)
    (hwithin : r.Within p)
    (htemplate : ∀ group : List Char, (∀ x ∈ group, p x) → ∀ x ∈ template group, p x)
    (hbody : ∀ x ∈ body, p x) (hending : ∀ x ∈ ending, ¬ p x) :
    ∃ body', r.sub template (body ++ ending) = body' ++ ending ∧ ∀ x ∈ body', p x := by
  have hfrom (body : List Char) : ∀ skip passed, skip ≤ body.length → (∀ x ∈ body, p x) →
      ∃ body', r.subFrom template skip passed (body ++ ending) = body' ++ ending ∧
        ∀ x ∈ body', p x := by
    induction body with
    | nil =>
        intro skip passed hskip _
        obtain rfl : skip = 0 := Nat.le_zero.mp hskip
        refine ⟨[], ?_, by simp⟩
        obtain ⟨-, hsame⟩ | ⟨before, after, c, tail, hsplit, hc, -⟩ :=
          subFrom_cases template hr ending passed
        · exact hsame
        · have hnil : r.run ⟨before.reverse ++ passed, after, none⟩ = [] :=
            run_eq_nil_of_within hr hwithin fun x hx => hending x (by simp [← hsplit, hx])
          rw [hnil] at hc
          simp at hc
    | cons x body ih =>
        intro skip passed hskip hbody
        have hrest : ∀ y ∈ body, p y := fun y hy => hbody y (List.mem_cons_of_mem x hy)
        have hx : p x := hbody x List.mem_cons_self
        cases skip with
        | succ skip => exact ih skip (x :: passed) (Nat.le_of_succ_le_succ hskip) hrest
        | zero =>
            cases hhead : (r.run ⟨passed, x :: (body ++ ending), none⟩).head? with
            | none =>
                obtain ⟨body', hsub, hbody'⟩ := ih 0 (x :: passed) (Nat.zero_le _) hrest
                refine ⟨x :: body', ?_, ?_⟩
                · rw [List.cons_append, subFrom, hhead]
                  exact congrArg (x :: ·) hsub
                · intro y hy
                  obtain rfl | hy := List.mem_cons.mp hy
                  · exact hx
                  · exact hbody' y hy
            | some c =>
                have hc := List.mem_of_mem_head? hhead
                have hlength : ending.length ≤ c.ahead.length :=
                  length_ahead_of_within (x :: body) hwithin hending rfl hc
                obtain ⟨body', hsub, hbody'⟩ :=
                  ih ((body ++ ending).length - c.ahead.length) (x :: passed)
                    (by rw [List.length_append]; omega) hrest
                refine ⟨template (c.group.getD []) ++ body', ?_, ?_⟩
                · rw [List.cons_append, subFrom_of_head hr hhead, hsub, List.append_assoc]
                · intro y hy
                  obtain hy | hy := List.mem_append.mp hy
                  · exact htemplate _ (hwithin.group hc (by simp)) y hy
                  · exact hbody' y hy
  exact hfrom body 0 [] (Nat.zero_le _) hbody

end Substitution

end LLMRouting.Text
