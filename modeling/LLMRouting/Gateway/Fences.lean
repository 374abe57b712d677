/-
# Fenced code

What the fence tracker of the gateway takes for code, said without its patterns: a fenced block
goes from an opening line to the first line that closes it, or to the end of the response. The
tracker marks the lines of a response accordingly, and the gateway keeps every line it does
not mark as prose, and the marks.
-/

import LLMRouting.Gateway.SelfIntroduction

namespace LLMRouting

open Data (PyString replicate_split)
open Text
open Text.Regex

namespace ResponseGateway

/-- A line opens a fence with a run of so many copies of a fence character, at most three
spaces in. -/
structure Opens (c : Char) (count : ℕ) (line : PyString) : Prop where
  fence : c ∈ ['\x60', '~']
  long : 3 ≤ count
  run : ∃ indent ≤ 3, ∃ rest : PyString, rest.head? ≠ some c ∧
    line = List.replicate indent ' ' ++ (List.replicate count c ++ rest)

/-- What may stand after a closing fence on its line. -/
def lineFeeds : List PyString := ["".toList, "\n".toList, "\r".toList, "\r\n".toList]

/-- A line closes a fence with a run of its character at least as long, at most three spaces
in and with nothing but blanks after it. -/
def Closes (c : Char) (count : ℕ) (line : PyString) : Prop :=
  ∃ indent ≤ 3, ∃ more ≥ count, ∃ trailing : PyString, (∀ x ∈ trailing, x ∈ [' ', '\t']) ∧
    ∃ feed ∈ lineFeeds,
      line = List.replicate indent ' ' ++ (List.replicate more c ++ (trailing ++ feed))

/-- What a line of a response is to the gateway. -/
inductive LineKind where
  | fence
  | fenced
  | indented
  | prose
  deriving DecidableEq, Repr

/-- The marks of the fence tracker from here on, `fence` being the fence that is open. -/
def lineKinds : Option PyString → List PyString → List LineKind
  | _, [] => []
  | some fence, line :: lines =>
      if closesFence fence line then .fence :: lineKinds none lines
      else .fenced :: lineKinds (some fence) lines
  | none, line :: lines =>
      match fenceMarker line with
      | some fence => .fence :: lineKinds (some fence) lines
      | none => (if isIndented line then .indented else .prose) :: lineKinds none lines

/-- The lines of a response fall into fenced blocks, closed or not, and the lines between. -/
inductive Blocks : List PyString → List LineKind → Prop
  | nil : Blocks [] []
  | prose {line : PyString} {lines : List PyString} {kinds : List LineKind} :
      (∀ c count, ¬ Opens c count line) → isIndented line = false → Blocks lines kinds →
      Blocks (line :: lines) (.prose :: kinds)
  | indented {line : PyString} {lines : List PyString} {kinds : List LineKind} :
      (∀ c count, ¬ Opens c count line) → isIndented line = true → Blocks lines kinds →
      Blocks (line :: lines) (.indented :: kinds)
  | closed {c : Char} {count : ℕ} {opening closing : PyString} {inside lines : List PyString}
      {kinds : List LineKind} : Opens c count opening → (∀ line ∈ inside, ¬ Closes c count line) →
      Closes c count closing → Blocks lines kinds →
      Blocks (opening :: (inside ++ closing :: lines))
        (.fence :: (List.replicate inside.length .fenced ++ .fence :: kinds))
  | unclosed {c : Char} {count : ℕ} {opening : PyString} {inside : List PyString} :
      Opens c count opening → (∀ line ∈ inside, ¬ Closes c count line) →
      Blocks (opening :: inside) (.fence :: List.replicate inside.length .fenced)

variable {table : CharTable} {gateway : ResponseGateway} {line fence : PyString}
variable {lines : List PyString} {kinds : List LineKind} {c : Char} {count : ℕ}

theorem Opens.pos (h : Opens c count line) : 0 < count := Nat.lt_of_lt_of_le (by decide) h.long

theorem not_space_of_fence (h : c ∈ ['\x60', '~']) : c ≠ ' ' := by
  have hc : c = '\x60' ∨ c = '~' := by simpa using h
  obtain rfl | rfl := hc
  · decide
  · decide

/-- A pattern that begins with a fence character does not match at another one. -/
theorem run_atLeast_eq_nil {x y : Char} {n : ℕ} (hne : y ≠ x) (passed rest : PyString)
    (group : Option PyString) :
    (atLeast (exactly x) (n + 1)).run ⟨passed, y :: rest, group⟩ = [] := by
  apply List.eq_nil_iff_forall_not_mem.mpr
  intro c' hc'
  have hprefix := prefix_of_mem_run_atLeast hc'
  rw [List.replicate_succ, List.cons_prefix_cons] at hprefix
  exact hne hprefix.1.symm

/-- The run of the fence is captured, and the whole of it. -/
theorem fenceMarker_of_opens (h : Opens c count line) :
    fenceMarker line = some (List.replicate count c) := by
  obtain ⟨indent, hindent, rest, hrest, rfl⟩ := h.run
  have hspace : c ≠ ' ' := not_space_of_fence h.fence
  obtain ⟨more, rfl⟩ := Nat.exists_eq_add_of_le' h.long
  have hrun : List.replicate (more + 3) c ++ rest = c :: (List.replicate (more + 2) c ++ rest) := by
    rw [List.replicate_succ, List.cons_append]
  have hspaces := mem_run_upTo hindent ' ' [] (List.replicate (more + 3) c ++ rest) none
  have honly : ∀ other ∈ (upTo (exactly ' ') 3).run
      ⟨[], List.replicate indent ' ' ++ (List.replicate (more + 3) c ++ rest), none⟩,
      other ≠ ⟨List.replicate indent ' ' ++ [], List.replicate (more + 3) c ++ rest, none⟩ →
      (Regex.group (alt (atLeast (exactly '\x60') 3) (atLeast (exactly '~') 3))).run other =
        [] := by
    intro other hother hne
    obtain ⟨k, -, htook⟩ := took_of_mem_run_upTo hother
    have hgroup := group_of_groupless (r := upTo (exactly ' ') 3) rfl hother
    obtain ⟨passed, ahead, group⟩ := other
    have hsplit : List.replicate indent ' ' ++ c :: (List.replicate (more + 2) c ++ rest) =
        List.replicate k ' ' ++ ahead := by
      rw [← hrun]
      exact htook.1
    obtain ⟨hk, hahead⟩ := replicate_split hspace hsplit
    cases hleft : indent - k with
    | zero =>
        -- all spaces are passed
        have hsame : k = indent := by omega
        have hpassed : passed = List.replicate indent ' ' ++ [] := by
          rw [← hsame, ← List.reverse_replicate]
          exact htook.2
        rw [hleft, List.replicate_zero, List.nil_append, ← hrun] at hahead
        have hnone : group = none := hgroup
        rw [hpassed, hahead, hnone] at hne
        exact absurd rfl hne
    | succ left =>
        rw [hleft, List.replicate_succ, List.cons_append] at hahead
        rw [run_group, run_alt, hahead, run_atLeast_eq_nil (by decide),
          run_atLeast_eq_nil (by decide)]
        rfl
  have hcapture : ((Regex.group (alt (atLeast (exactly '\x60') 3) (atLeast (exactly '~') 3))).run
      ⟨List.replicate indent ' ' ++ [], List.replicate (more + 3) c ++ rest, none⟩).head? =
      some ⟨List.replicate (more + 3) c ++ (List.replicate indent ' ' ++ []), rest,
        some (List.replicate (more + 3) c)⟩ := by
    have htake : (List.replicate (more + 3) c ++ rest).take
        ((List.replicate (more + 3) c ++ rest).length - rest.length) =
        List.replicate (more + 3) c := by
      rw [List.length_append, Nat.add_sub_cancel, List.take_left']
      rfl
    have hgreedy := head?_run_atLeast (n := 3) (Nat.le_add_left 3 more) hrest
      (List.replicate indent ' ' ++ []) none
    rw [run_group, List.head?_map, run_alt, List.head?_append]
    have hc : c = '\x60' ∨ c = '~' := by simpa using h.fence
    obtain rfl | rfl := hc
    · rw [exactly, hgreedy]
      show some (Cursor.mk _ _ (some (List.take _ _))) = _
      rw [htake]
    · rw [hrun, run_atLeast_eq_nil (by decide), ← hrun, List.head?_nil, Option.none_or,
        exactly, hgreedy]
      show some (Cursor.mk _ _ (some (List.take _ _))) = _
      rw [htake]
  have hmatch := (head?_run_seq hspaces honly).trans hcapture
  show (Option.bind ((Regex.seq .start _).run _).head? Cursor.group) = _
  rw [head?_run_seq (mem_run_start.mpr ⟨rfl, rfl⟩)
    fun other hother hne => absurd (mem_run_start.mp hother).1 hne]
  exact congrArg (Option.bind · Cursor.group) hmatch

/-- The tracker sees the lines that open a fence, and what they open it with. -/
theorem fenceMarker_eq_some_iff : fenceMarker line = some fence ↔
    ∃ c count, fence = List.replicate count c ∧ Opens c count line := by
  constructor
  · intro h
    have hsome : (fenceMarker line).isSome = true := by rw [h]; rfl
    obtain ⟨indent, hindent, c, hc, more, hline⟩ := fenceMarker_isSome_iff.mp hsome
    -- the run goes on as long as it can
    have hrun : more.takeWhile (· == c) = List.replicate (more.takeWhile (· == c)).length c :=
      List.eq_replicate_of_mem fun x hx => by simpa using List.mem_takeWhile_imp hx
    have hstop : (more.dropWhile (· == c)).head? ≠ some c := by
      intro hhead
      have hnot := List.head?_dropWhile_not (· == c) more
      rw [hhead] at hnot
      simp at hnot
    have hopens : Opens c (3 + (more.takeWhile (· == c)).length) line := by
      refine ⟨hc, Nat.le_add_right 3 _, indent, hindent, more.dropWhile (· == c), hstop, ?_⟩
      rw [← hline, List.replicate_add, ← hrun, List.append_assoc, List.append_assoc,
        List.takeWhile_append_dropWhile]
    rw [fenceMarker_of_opens hopens] at h
    exact ⟨c, _, (Option.some_inj.mp h).symm, hopens⟩
  · intro h
    obtain ⟨c, count, rfl, hopens⟩ := h
    exact fenceMarker_of_opens hopens

theorem fenceMarker_eq_none_iff :
    fenceMarker line = none ↔ ∀ c count, ¬ Opens c count line := by
  constructor
  · intro h c count hopens
    rw [fenceMarker_of_opens hopens] at h
    simp at h
  · intro h
    cases hmarker : fenceMarker line with
    | none => rfl
    | some fence =>
        obtain ⟨c, count, -, hopens⟩ := fenceMarker_eq_some_iff.mp hmarker
        exact absurd hopens (h c count)

/-- What ends a closing line is matched by `\r?\n?`. -/
theorem exists_mem_run_feed {feed : PyString} (h : feed ∈ lineFeeds) (passed : PyString)
    (group : Option PyString) :
    ∃ last ∈ (Regex.seq (opt (exactly '\r')) (opt (exactly '\n'))).run ⟨passed, feed, group⟩,
      last.ahead = [] := by
  have hfeed : feed = [] ∨ feed = ['\n'] ∨ feed = ['\r'] ∨ feed = ['\r', '\n'] := by
    simpa [lineFeeds] using h
  have hchar (x : Char) (passed rest : PyString) :
      ⟨x :: passed, rest, group⟩ ∈ (opt (exactly x)).run ⟨passed, x :: rest, group⟩ := by
    apply mem_run_opt.mpr
    left
    rw [exactly, run_oneOf_cons passed rest group (List.mem_singleton_self x)]
    exact List.mem_singleton_self _
  have hskip (x : Char) (c : Cursor) : c ∈ (opt (exactly x)).run c := mem_run_opt.mpr (.inr rfl)
  obtain rfl | rfl | rfl | rfl := hfeed
  · exact ⟨_, mem_run_seq.mpr ⟨_, hskip '\r' _, hskip '\n' _⟩, rfl⟩
  · exact ⟨_, mem_run_seq.mpr ⟨_, hskip '\r' _, hchar '\n' passed []⟩, rfl⟩
  · exact ⟨_, mem_run_seq.mpr ⟨_, hchar '\r' passed [], hskip '\n' _⟩, rfl⟩
  · exact ⟨_, mem_run_seq.mpr ⟨_, hchar '\r' passed ['\n'], hchar '\n' ('\r' :: passed) []⟩, rfl⟩

/-- The tracker closes a fence where a line closes it. -/
theorem closesFence_iff (hcount : 0 < count) :
    closesFence (List.replicate count c) line = true ↔ Closes c count line := by
  obtain ⟨less, rfl⟩ := Nat.exists_eq_succ_of_ne_zero hcount.ne'
  show fullmatch (seqs [upTo (exactly ' ') 3,
    atLeast (exactly c) (List.replicate (less + 1) c).length, .star blank, opt (exactly '\r'),
    opt (exactly '\n')]) line = true ↔ _
  rw [fullmatch, List.any_eq_true, List.length_replicate]
  constructor
  · intro h
    obtain ⟨last, hmatch, hend⟩ := h
    obtain ⟨spaced, hspaced, hmatch⟩ := mem_run_seq.mp hmatch
    obtain ⟨fenced, hfenced, hmatch⟩ := mem_run_seq.mp hmatch
    obtain ⟨trailed, htrailed, hmatch⟩ := mem_run_seq.mp hmatch
    obtain ⟨returned, hreturned, hfed⟩ := mem_run_seq.mp hmatch
    obtain ⟨indent, hindent, hspaces⟩ := took_of_mem_run_upTo hspaced
    obtain ⟨more, hmore, hrun⟩ := took_of_mem_run_atLeast hfenced
    obtain ⟨trailing, htrailing, hblank, -⟩ := mem_run_star_oneOf.mp htrailed
    have hended : last.ahead = [] := List.isEmpty_iff.mp hend
    obtain ⟨feed, hfeed, htook⟩ : ∃ feed ∈ lineFeeds, trailed.Took feed last := by
      obtain hreturn | hreturn := took_of_mem_run_opt hreturned
      · obtain hline | hline := took_of_mem_run_opt hfed
        · exact ⟨['\r', '\n'], by decide, hreturn.trans hline⟩
        · exact ⟨['\r'], by decide, hreturn.trans hline⟩
      · obtain hline | hline := took_of_mem_run_opt hfed
        · exact ⟨['\n'], by decide, hreturn.trans hline⟩
        · exact ⟨[], by decide, hreturn.trans hline⟩
    refine ⟨indent, hindent, more, hmore, trailing, hblank, feed, hfeed, ?_⟩
    have hline := (hspaces.trans (hrun.trans (htrailing.trans htook))).1
    rw [hended, List.append_nil] at hline
    exact hline
  · intro h
    obtain ⟨indent, hindent, more, hmore, trailing, htrailing, feed, hfeed, rfl⟩ := h
    have hspaced := mem_run_upTo hindent ' ' []
      (List.replicate more c ++ (trailing ++ feed)) none
    have hfenced := mem_run_atLeast hmore c (List.replicate indent ' ' ++ [])
      (trailing ++ feed) none
    have htrailed : ⟨trailing.reverse ++ (List.replicate more c ++
        (List.replicate indent ' ' ++ [])), feed, none⟩ ∈ (Regex.star blank).run
        ⟨List.replicate more c ++ (List.replicate indent ' ' ++ []), trailing ++ feed, none⟩ :=
      mem_run_star_oneOf.mpr ⟨trailing, ⟨rfl, rfl⟩, htrailing, rfl⟩
    obtain ⟨last, hlast, hend⟩ := exists_mem_run_feed hfeed (trailing.reverse ++
      (List.replicate more c ++ (List.replicate indent ' ' ++ []))) none
    refine ⟨last, ?_, by rw [hend]; rfl⟩
    exact mem_run_seq.mpr ⟨_, hspaced, mem_run_seq.mpr ⟨_, hfenced,
      mem_run_seq.mpr ⟨_, htrailed, hlast⟩⟩⟩

theorem lineKinds_unclosed {inside : List PyString} (hcount : 0 < count)
    (hinside : ∀ line ∈ inside, ¬ Closes c count line) (lines : List PyString) :
    lineKinds (some (List.replicate count c)) (inside ++ lines) =
      List.replicate inside.length .fenced ++
        lineKinds (some (List.replicate count c)) lines := by
  induction inside with
  | nil => rfl
  | cons line inside ih =>
      have hopen : ¬ closesFence (List.replicate count c) line = true := fun h =>
        hinside line List.mem_cons_self ((closesFence_iff hcount).mp h)
      rw [List.cons_append, lineKinds, if_neg hopen,
        ih fun line hline => hinside line (List.mem_cons_of_mem _ hline)]
      rfl

theorem lineKinds_opening (h : Opens c count line) (lines : List PyString) :
    lineKinds none (line :: lines) =
      .fence :: lineKinds (some (List.replicate count c)) lines := by
  simp only [lineKinds, fenceMarker_of_opens h]

theorem lineKinds_plain (h : ∀ c count, ¬ Opens c count line) (lines : List PyString) :
    lineKinds none (line :: lines) =
      (if isIndented line then .indented else .prose) :: lineKinds none lines := by
  simp only [lineKinds, fenceMarker_eq_none_iff.mpr h]

theorem Blocks.lineKinds (h : Blocks lines kinds) : lineKinds none lines = kinds := by
  induction h with
  | nil => rfl
  | prose hplain hindented _ ih =>
      rw [lineKinds_plain hplain, hindented, ih]
      rfl
  | indented hplain hindented _ ih =>
      rw [lineKinds_plain hplain, hindented, ih]
      rfl
  | closed hopens hinside hcloses _ ih =>
      have hpos := hopens.pos
      rw [lineKinds_opening hopens, lineKinds_unclosed hpos hinside, ResponseGateway.lineKinds,
        if_pos ((closesFence_iff hpos).mpr hcloses), ih]
  | @unclosed c count opening inside hopens hinside =>
      have hmarks := lineKinds_unclosed hopens.pos hinside []
      rw [List.append_nil] at hmarks
      rw [lineKinds_opening hopens, hmarks]
      show _ :: (_ ++ []) = _
      rw [List.append_nil]

/-- Lines run up to the first one that closes a fence, or none of them does. -/
theorem exists_closing (c : Char) (count : ℕ) (lines : List PyString) :
    (∀ line ∈ lines, ¬ Closes c count line) ∨
    ∃ inside closing more, lines = inside ++ closing :: more ∧
      (∀ line ∈ inside, ¬ Closes c count line) ∧ Closes c count closing := by
  induction lines with
  | nil => exact .inl fun line hline => absurd hline List.not_mem_nil
  | cons line lines ih =>
      by_cases hcloses : Closes c count line
      · exact .inr ⟨[], line, lines, rfl, fun line hline => absurd hline List.not_mem_nil, hcloses⟩
      · obtain hnone | ⟨inside, closing, more, rfl, hinside, hclosing⟩ := ih
        · left
          intro other hother
          obtain rfl | hother := List.mem_cons.mp hother
          · exact hcloses
          · exact hnone other hother
        · refine .inr ⟨line :: inside, closing, more, rfl, ?_, hclosing⟩
          intro other hother
          obtain rfl | hother := List.mem_cons.mp hother
          · exact hcloses
          · exact hinside other hother

theorem exists_blocks (lines : List PyString) : ∃ kinds, Blocks lines kinds := by
  have hbounded (n : ℕ) : ∀ lines : List PyString, lines.length ≤ n →
      ∃ kinds, Blocks lines kinds := by
    induction n with
    | zero =>
        intro lines hlength
        rw [List.length_eq_zero_iff.mp (Nat.le_zero.mp hlength)]
        exact ⟨[], .nil⟩
    | succ n ih =>
        intro lines hlength
        cases lines with
        | nil => exact ⟨[], .nil⟩
        | cons line lines =>
            have hlines : lines.length ≤ n := Nat.le_of_succ_le_succ hlength
            by_cases hopens : ∃ c count, Opens c count line
            · obtain ⟨c, count, hopens⟩ := hopens
              obtain hnone | ⟨inside, closing, more, rfl, hinside, hclosing⟩ :=
                exists_closing c count lines
              · exact ⟨_, .unclosed hopens hnone⟩
              · rw [List.length_append, List.length_cons] at hlines
                obtain ⟨kinds, hkinds⟩ := ih more (by omega)
                exact ⟨_, .closed hopens hinside hclosing hkinds⟩
            · have hplain : ∀ c count, ¬ Opens c count line :=
                fun c count h => hopens ⟨c, count, h⟩
              obtain ⟨kinds, hkinds⟩ := ih lines hlines
              cases hindented : isIndented line with
              | true => exact ⟨_, .indented hplain hindented hkinds⟩
              | false => exact ⟨_, .prose hplain hindented hkinds⟩
  exact hbounded lines.length lines le_rfl

/-- The tracker marks the fenced blocks. -/
theorem blocks_iff : Blocks lines kinds ↔ lineKinds none lines = kinds := by
  constructor
  · exact Blocks.lineKinds
  · intro h
    obtain ⟨kinds', hblocks⟩ := exists_blocks lines
    rw [← h, hblocks.lineKinds]
    exact hblocks

/-- The gateway changes no mark. -/
theorem lineKinds_processLines (fence : Option PyString) (lines : List PyString) :
    lineKinds fence (gateway.processLines table fence lines) = lineKinds fence lines := by
  induction lines generalizing fence with
  | nil =>
      cases fence with
      | none => rfl
      | some fence => rfl
  | cons line lines ih =>
      cases fence with
      | some fence =>
          rw [processLines, lineKinds, lineKinds]
          by_cases hcloses : closesFence fence line = true
          · rw [if_pos hcloses, if_pos hcloses, if_pos hcloses, ih]
          · rw [if_neg hcloses, if_neg hcloses, if_neg hcloses, ih]
      | none =>
          cases hmarker : fenceMarker line with
          | some fence =>
              simp only [processLines, lineKinds, hmarker]
              rw [ih]
          | none =>
              cases hindented : isIndented line with
              | true =>
                  simp only [processLines, lineKinds, hmarker, hindented, if_true]
                  rw [ih]
              | false =>
                  simp only [processLines, lineKinds, hmarker, hindented,
                    fenceMarker_scrub hmarker, isIndented_scrub hindented, Bool.false_eq_true,
                    if_false]
                  rw [ih]

/-- The lines that are marked as prose are scrubbed, and no others. -/
theorem getElem?_processLines (fence : Option PyString) (lines : List PyString) (index : ℕ) :
    (gateway.processLines table fence lines)[index]? = lines[index]?.map fun line =>
      if (lineKinds fence lines)[index]? = some .prose then gateway.scrub table line else line := by
  induction lines generalizing fence index with
  | nil =>
      cases fence with
      | none => rfl
      | some fence => rfl
  | cons line lines ih =>
      cases fence with
      | some fence =>
          rw [lineKinds, processLines]
          by_cases hcloses : closesFence fence line = true
          · rw [if_pos hcloses, if_pos hcloses]
            cases index with
            | zero => rfl
            | succ index => exact ih none index
          · rw [if_neg hcloses, if_neg hcloses]
            cases index with
            | zero => rfl
            | succ index => exact ih (some fence) index
      | none =>
          cases hmarker : fenceMarker line with
          | some fence =>
              simp only [lineKinds, processLines, hmarker]
              cases index with
              | zero => rfl
              | succ index => exact ih (some fence) index
          | none =>
              simp only [lineKinds, processLines, hmarker]
              cases index with
              | succ index => exact ih none index
              | zero =>
                  by_cases hindented : isIndented line = true
                  · rw [if_pos hindented, if_pos hindented]
                    rfl
                  · rw [if_neg hindented, if_neg hindented]
                    rfl

/-- A line that is not marked as prose is kept as it is. -/
theorem processLines_of_mark {index : ℕ} {fence : Option PyString} {lines : List PyString}
    (h : (lineKinds fence lines)[index]? ≠ some .prose) :
    (gateway.processLines table fence lines)[index]? = lines[index]? := by
  rw [getElem?_processLines]
  simp only [if_neg h]
  exact Option.map_id_apply

/-- A line that is marked as prose is scrubbed. -/
theorem processLines_of_prose {index : ℕ} {fence : Option PyString} {lines : List PyString}
    (h : (lineKinds fence lines)[index]? = some .prose) :
    (gateway.processLines table fence lines)[index]? =
      lines[index]?.map (gateway.scrub table) := by
  rw [getElem?_processLines]
  simp only [if_pos h]

/-- An indented line is not marked as prose. -/
theorem not_prose_of_isIndented {index : ℕ} {fence : Option PyString} {lines : List PyString}
    (hline : lines[index]? = some line) (hindented : isIndented line = true) :
    (lineKinds fence lines)[index]? ≠ some .prose := by
  induction lines generalizing fence index with
  | nil => simp at hline
  | cons first lines ih =>
      cases fence with
      | some fence =>
          rw [lineKinds]
          by_cases hcloses : closesFence fence first = true
          · rw [if_pos hcloses]
            cases index with
            | zero => simp
            | succ index => exact ih hline
          · rw [if_neg hcloses]
            cases index with
            | zero => simp
            | succ index => exact ih hline
      | none =>
          cases hmarker : fenceMarker first with
          | some fence =>
              simp only [lineKinds, hmarker]
              cases index with
              | zero => simp
              | succ index => exact ih hline
          | none =>
              simp only [lineKinds, hmarker]
              cases index with
              | succ index => exact ih hline
              | zero =>
                  have hfirst : first = line := Option.some_inj.mp hline
                  rw [hfirst, if_pos hindented]
                  simp

/-- A processed text has the lines of the text, with the same ends, and the same of them are
code; all that is code is kept as it is. -/
structure CodeKept (text processed : PyString) : Prop where
  count : (splitlines processed).length = (splitlines text).length
  ends : (splitlines processed).map lineEnd = (splitlines text).map lineEnd
  blocks : ∃ kinds, Blocks (splitlines text) kinds ∧ Blocks (splitlines processed) kinds ∧
    ∀ index : ℕ, kinds[index]? ≠ some .prose →
      (splitlines processed)[index]? = (splitlines text)[index]?
  indented : ∀ (index : ℕ) (line : PyString), (splitlines text)[index]? = some line →
    ("    ".toList <+: line ∨ "\t".toList <+: line) →
      (splitlines processed)[index]? = some line
  marks : lineKinds none (splitlines processed) = lineKinds none (splitlines text)

theorem map_lineEnd_of_sameFrame {lines lines' : List PyString}
    (h : List.Forall₂ SameFrame lines lines') : lines'.map lineEnd = lines.map lineEnd := by
  induction h with
  | nil => rfl
  | cons hline _ ih => rw [List.map_cons, List.map_cons, hline.ending, ih]

/-- The gateway keeps code and layout. -/
theorem process_code_kept (table : CharTable) {identityTerms : List PyString}
    (hterms : ∀ term ∈ identityTerms, Unbroken term) (response : PyString) :
    CodeKept response ((init identityTerms).process table response) := by
  have hsingle : (init identityTerms).SingleLine :=
    fun term hterm => hterms term (List.mem_filter.mp hterm).1
  have hsplit := @splitlines_process table _ hsingle response
  have hframe := @sameFrame_processLines table _ hsingle _
    (WellEnded.of_lines (lines_splitlines response)) none
  have hmarks := @lineKinds_processLines table (init identityTerms) none
    (splitlines response)
  rw [← hsplit] at hframe hmarks
  have hkept {index : ℕ} (hmark : (lineKinds none (splitlines response))[index]? ≠ some .prose) :
      (splitlines ((init identityTerms).process table response))[index]? =
        (splitlines response)[index]? := by
    rw [hsplit]
    exact processLines_of_mark hmark
  exact {
    count := hframe.length_eq.symm
    ends := map_lineEnd_of_sameFrame hframe
    blocks := ⟨lineKinds none (splitlines response), blocks_iff.mpr rfl, blocks_iff.mpr hmarks,
      fun index hmark => hkept hmark⟩
    indented := fun index line hline hbegins =>
      (hkept (not_prose_of_isIndented hline (isIndented_iff.mpr hbegins))).trans hline
    marks := hmarks }

theorem process_code_kept_gemini :
    CodeKept "I am Gemini.\n~~~\nI am Gemini.\n~~~\n\tI am Gemini.\n".toList
      "I am an AI assistant.\n~~~\nI am Gemini.\n~~~\n\tI am Gemini.\n".toList := by
  have hterms : ∀ term ∈ ["Gemini".toList], Unbroken term := by
    intro term hterm
    rw [List.mem_singleton.mp hterm]
    exact unbroken_of_all rfl
  have hprocess : (init ["Gemini".toList]).process asciiTable
      "I am Gemini.\n~~~\nI am Gemini.\n~~~\n\tI am Gemini.\n".toList =
      "I am an AI assistant.\n~~~\nI am Gemini.\n~~~\n\tI am Gemini.\n".toList := by
    decide +kernel
  rw [← hprocess]
  exact process_code_kept asciiTable hterms _

end ResponseGateway

end LLMRouting
