/-
# What the rules of the gateway replace

A rule puts its phrase in the place of a text that begins like a self-introduction and ends
where a sentence can go on. Neither end can be the inside of a phrase, so no phrase that stands
in a line is cut by a match, and a match either reads as the phrase already or is heavier.
-/

import LLMRouting.Gateway.SelfIntroduction
import LLMRouting.Text.Weight

namespace LLMRouting

open Data (PyString)
open Text
open Text.Regex

namespace ResponseGateway

/-- What the rules write, but for the comma of the last one. -/
def writtenPhrases : List PyString :=
  ["I am an AI assistant".toList, "As an AI assistant".toList]

theorem separate_writtenPhrases : Separate writtenPhrases where
  nodup := by decide
  nonempty := by decide
  apart := by decide

variable {table : CharTable} {term text tail body after : PyString} {c m : Cursor}

/-- The text begins with characters of the given classes. -/
def StartsLike (classes : List (Char → Bool)) (text : PyString) : Prop :=
  ∃ taken rest, text = taken ++ rest ∧
    List.Forall₂ (fun accepts x => accepts x = true) classes taken

/-- Some character of the text is not of the class of its place. -/
def conflicts (classes : List (Char → Bool)) (text : PyString) : Bool :=
  (classes.zip text).any fun pair => !pair.1 pair.2

theorem not_prefix_of_conflicts {classes : List (Char → Bool)} (h : StartsLike classes text)
    (hconflict : conflicts classes tail = true) : ¬ tail <+: text := by
  obtain ⟨taken, rest, rfl, hclasses⟩ := h
  induction hclasses generalizing tail with
  | nil => simp [conflicts] at hconflict
  | @cons accepts x classes taken hx _ ih =>
      cases tail with
      | nil => simp [conflicts] at hconflict
      | cons y tail =>
          intro hstarts
          obtain ⟨hy, hrest⟩ := List.cons_prefix_cons.mp hstarts
          have hclash : conflicts classes tail = true := by
            simpa [conflicts, hy, hx] using hconflict
          exact ih hclash hrest

/-- An ASCII character that is the same up to case, or any other character. -/
def like (c x : Char) : Bool := !isAscii x || x.toLower == c.toLower

theorem like_of_same {c x : Char} (hc : isAscii c = true) (h : table.same c x = true) :
    like c x = true := by
  rw [like, Bool.or_eq_true]
  cases hx : isAscii x with
  | false => exact .inl rfl
  | true =>
      have h : c = x ∨ c.toLower = x.toLower := by
        simp only [CharTable.same, hc, hx, Bool.and_self, if_true, Bool.or_eq_true,
          Bool.and_eq_true, beq_iff_eq] at h
        exact h.imp_right And.right
      right
      obtain rfl | h := h
      · exact beq_self_eq_true _
      · exact beq_iff_eq.mpr h.symm

theorem StartsLike.cons {accepts : Char → Bool} {classes : List (Char → Bool)} {x : Char}
    (hx : accepts x = true) (h : StartsLike classes text) :
    StartsLike (accepts :: classes) (x :: text) := by
  obtain ⟨taken, rest, rfl, hclasses⟩ := h
  exact ⟨x :: taken, rest, rfl, .cons hx hclasses⟩

theorem startsLike_nil (text : PyString) : StartsLike [] text := ⟨[], text, rfl, .nil⟩

def isBlank (c : Char) : Bool := c == ' ' || c == '\t'

theorem isBlank_of_mem {c : Char} (h : c ∈ [' ', '\t']) : isBlank c = true := by
  simpa [isBlank] using h

/-- A piece of text under `re.IGNORECASE` takes a text that is the same up to case. -/
theorem same_of_mem_run_literal {text : PyString} (h : c ∈ (literal table.same text).run m) :
    ∃ taken, m.ahead = taken ++ c.ahead ∧
      List.Forall₂ (fun x y => table.same x y = true) text taken := by
  induction text generalizing m with
  | nil =>
      rw [mem_run_empty.mp h]
      exact ⟨[], rfl, .nil⟩
  | cons x text ih =>
      obtain ⟨first, hfirst, hrest⟩ := mem_run_seq.mp h
      obtain ⟨y, rest, hahead, hy, rfl⟩ := mem_run_char.mp hfirst
      obtain ⟨taken, htaken, hsame⟩ := ih hrest
      refine ⟨y :: taken, ?_, .cons hy hsame⟩
      rw [hahead]
      exact congrArg (y :: ·) htaken

/-- A text begins like a piece that is taken from it, and goes on like the rest. -/
theorem StartsLike.after_literal {classes : List (Char → Bool)}
    (hrest : StartsLike classes c.ahead) (text : PyString) (htext : text.all isAscii = true)
    (h : c ∈ (literal table.same text).run m) :
    StartsLike (text.map like ++ classes) m.ahead := by
  obtain ⟨taken, hahead, hsame⟩ := same_of_mem_run_literal h
  rw [hahead]
  clear h hahead
  induction hsame with
  | nil => exact hrest
  | @cons x y text taken hxy _ ih =>
      rw [List.all_cons, Bool.and_eq_true] at htext
      exact .cons (like_of_same htext.1 hxy) (ih htext.2)

theorem startsLike_of_mem_run_literal {text : PyString} (htext : text.all isAscii = true)
    (h : c ∈ (literal table.same text).run m) : StartsLike (text.map like) m.ahead := by
  have hbegins := (startsLike_nil c.ahead).after_literal text htext h
  rw [List.append_nil] at hbegins
  exact hbegins

theorem ahead_of_mem_run_blanks (h : c ∈ blanks.run m) :
    ∃ b more, isBlank b = true ∧ (∀ x ∈ more, isBlank x = true) ∧
      m.ahead = b :: (more ++ c.ahead) := by
  obtain ⟨first, hfirst, hrest⟩ := mem_run_seq.mp h
  obtain ⟨b, rest, hahead, hb, rfl⟩ := mem_run_char.mp hfirst
  obtain ⟨more, htook, hmore, -⟩ := mem_run_star_oneOf.mp hrest
  refine ⟨b, more, isBlank_of_mem (of_decide_eq_true hb),
    fun x hx => isBlank_of_mem (hmore x hx), ?_⟩
  rw [hahead]
  exact congrArg (b :: ·) htook.1

/-- How what the first two rules replace can begin: `I am`, `I was`, `I'm` or `My`. -/
def firstShapes : List (List (Char → Bool)) :=
  [[like 'I', isBlank, isBlank], [like 'I', isBlank, like 'a', like 'm'],
    [like 'I', isBlank, like 'w', like 'a', like 's'], [like 'I', (· != ' '), like 'm'],
    [like 'M', like 'y']]

/-- How what the last rule replaces begins: `As`. -/
def roleShape : List (Char → Bool) := [like 'A', like 's', isBlank]

/-- None of these is the inside of a phrase. -/
theorem conflicts_firstShapes : ∀ classes ∈ firstShapes, ∀ phrase ∈ writtenPhrases,
    ∀ index < phrase.length, 0 < index → conflicts classes (phrase.drop index) = true := by
  decide

theorem conflicts_roleShape : ∀ phrase ∈ writtenPhrases, ∀ index < phrase.length, 0 < index →
    conflicts roleShape (phrase.drop index) = true := by
  decide

/-- The first rules neither write what the last one writes, nor the other way round. -/
theorem conflicts_phrases :
    (∀ classes ∈ firstShapes, conflicts classes "As an AI assistant".toList = true) ∧
      conflicts roleShape "I am an AI assistant".toList = true := by
  decide

/-- `I` and blanks before a verb. -/
theorem begins_verb {m₁ m₂ : Cursor} {verb : PyString} (hI : m₁ ∈ (word table "I").run m)
    (hblanks : m₂ ∈ blanks.run m₁) (hverb : StartsLike (verb.map like) m₂.ahead)
    (hshape : like 'I' :: isBlank :: verb.map like ∈ firstShapes) :
    ∃ classes ∈ firstShapes, StartsLike classes m.ahead := by
  obtain ⟨b, more, hb, hmore, hahead⟩ := ahead_of_mem_run_blanks hblanks
  have hbegins {classes : List (Char → Bool)} (h : StartsLike classes m₁.ahead) :
      StartsLike (like 'I' :: classes) m.ahead := h.after_literal ['I'] rfl hI
  cases more with
  | cons b' more =>
      have hblanks : StartsLike [isBlank, isBlank] m₁.ahead := by
        rw [hahead]
        exact .cons hb (.cons (hmore b' List.mem_cons_self) (startsLike_nil _))
      exact ⟨_, List.mem_cons_self, hbegins hblanks⟩
  | nil =>
      rw [List.nil_append] at hahead
      refine ⟨_, hshape, hbegins ?_⟩
      rw [hahead]
      exact .cons hb hverb

/-- `I'm` with whatever is not a space for the apostrophe. -/
theorem begins_short {m₁ m₂ : Cursor} {q : Char → Bool} (hq : q ' ' = false)
    (hI : m₁ ∈ (word table "I").run m) (hquote : m₂ ∈ (Regex.char q).run m₁)
    (hm : c ∈ (word table "m").run m₂) : ∃ classes ∈ firstShapes, StartsLike classes m.ahead := by
  have hshape : [like 'I', (· != ' '), like 'm'] ∈ firstShapes := by simp [firstShapes]
  obtain ⟨x, rest, hahead, hx, rfl⟩ := mem_run_char.mp hquote
  have hrest : StartsLike [like 'm'] rest := @startsLike_of_mem_run_literal table _ _ ['m'] rfl hm
  have hspace : (x != ' ') = true := by
    rw [bne_iff_ne]
    rintro rfl
    rw [hq] at hx
    cases hx
  have hshort : StartsLike [(· != ' '), like 'm'] m₁.ahead := by
    rw [hahead]
    exact .cons hspace hrest
  exact ⟨_, hshape, hshort.after_literal ['I'] rfl hI⟩

theorem begins_originRule (h : c ∈ (originRule table term).body.run m) :
    ∃ classes ∈ firstShapes, StartsLike classes m.ahead := by
  obtain ⟨m₁, hI, hrest⟩ := mem_run_seq.mp h
  obtain ⟨m₂, hverb, -⟩ := mem_run_seq.mp hrest
  obtain hverb | hshort := mem_run_alt.mp hverb
  · obtain ⟨m₃, hblanks, hverb⟩ := mem_run_seq.mp hverb
    obtain ham | hwas := mem_run_alt.mp hverb
    · exact begins_verb hI hblanks (startsLike_of_mem_run_literal rfl ham) (by simp [firstShapes])
    · exact begins_verb hI hblanks (startsLike_of_mem_run_literal rfl hwas) (by simp [firstShapes])
  · obtain ⟨m₃, hquote, hm⟩ := mem_run_seq.mp hshort
    exact begins_short rfl hI hquote hm

theorem begins_nameRule (h : c ∈ (nameRule table term).body.run m) :
    ∃ classes ∈ firstShapes, StartsLike classes m.ahead := by
  obtain ⟨m₁, hspeaker, -⟩ := mem_run_seq.mp h
  have hshort {q : Char} (hq : q ≠ ' ') (h : m₁ ∈ (literal table.same ['I', q, 'm']).run m) :
      ∃ classes ∈ firstShapes, StartsLike classes m.ahead := by
    obtain ⟨m₂, hI, hrest⟩ := mem_run_seq.mp h
    obtain ⟨m₃, hquote, hm⟩ := mem_run_seq.mp hrest
    have hblank : table.same q ' ' = false := by
      by_contra hsame
      exact hq (CharTable.eq_of_same_of_caseless (Bool.eq_true_of_not_eq_false hsame) rfl).symm
    exact begins_short hblank (mem_run_seq.mpr ⟨m₂, hI, mem_run_empty.mpr rfl⟩) hquote hm
  obtain ham | hspeaker := mem_run_alt.mp hspeaker
  · obtain ⟨m₂, hI, ham⟩ := mem_run_seq.mp ham
    obtain ⟨m₃, hblanks, ham⟩ := mem_run_seq.mp ham
    exact begins_verb hI hblanks (startsLike_of_mem_run_literal rfl ham) (by simp [firstShapes])
  obtain hstraight | hspeaker := mem_run_alt.mp hspeaker
  · exact hshort (by decide) hstraight
  obtain hcurly | hMy := mem_run_alt.mp hspeaker
  · exact hshort (by decide) hcurly
  · obtain ⟨m₂, hMy, -⟩ := mem_run_seq.mp hMy
    have hshape : [like 'M', like 'y'] ∈ firstShapes := by simp [firstShapes]
    exact ⟨_, hshape, startsLike_of_mem_run_literal rfl hMy⟩

theorem begins_roleRule (h : c ∈ (roleRule table term).body.run m) :
    StartsLike roleShape m.ahead := by
  obtain ⟨m₁, hAs, hrest⟩ := mem_run_seq.mp h
  obtain ⟨m₂, hblanks, -⟩ := mem_run_seq.mp hrest
  obtain ⟨b, more, hb, -, hahead⟩ := ahead_of_mem_run_blanks hblanks
  have hblank : StartsLike [isBlank] m₁.ahead := by
    rw [hahead]
    exact .cons hb (startsLike_nil _)
  exact hblank.after_literal "As".toList rfl hAs

/-- How a text can go on behind a name that the first two rules replace, unless it is only
layout. -/
def endShapes : List (List (Char → Bool)) :=
  [[(· ∈ closers)], [like 'a', like 'n', like 'd'], [isBlank, isBlank],
    [isBlank, (· ∈ closers)], [isBlank, like 'a', like 'n', like 'd']]

/-- Blanks, marks of bold text and the line feed at the end. -/
def isLayout (x : Char) : Bool := x ∈ [' ', '\t', '*', '_', '\n']

/-- What can come behind a name that the first two rules replace. -/
structure FollowsName (after : PyString) : Prop where
  whole : ∀ x ∈ after.head?, (isAscii x && x.isAlphanum) = false
  goesOn : (∃ classes ∈ endShapes, StartsLike classes after) ∨ after.all isLayout = true

/-- No inside of a phrase goes on like this. -/
theorem conflicts_endShapes : ∀ phrase ∈ writtenPhrases, ∀ index < phrase.length, 0 < index →
    (phrase.drop index).head?.any (fun x => isAscii x && x.isAlphanum) = true ∨
      (∀ classes ∈ endShapes, conflicts classes (phrase.drop index) = true) ∧
        (phrase.drop index).all isLayout = false := by
  decide

/-- Blanks before a text of a certain shape. -/
theorem goesOn_of_blanks {blanks : PyString} {classes : List (Char → Bool)}
    (hblanks : ∀ x ∈ blanks, x ∈ [' ', '\t']) (h : StartsLike classes after)
    (hshape : classes ∈ endShapes) (hblankShape : isBlank :: classes ∈ endShapes) :
    ∃ classes ∈ endShapes, StartsLike classes (blanks ++ after) := by
  cases blanks with
  | nil => exact ⟨classes, hshape, h⟩
  | cons b blanks =>
      have hb := isBlank_of_mem (hblanks b List.mem_cons_self)
      cases blanks with
      | nil => exact ⟨_, hblankShape, .cons hb h⟩
      | cons b' more =>
          have hb' := isBlank_of_mem (hblanks b' (by simp))
          exact ⟨[isBlank, isBlank], by simp [endShapes], .cons hb (.cons hb' (startsLike_nil _))⟩

theorem within_bold_layout : bold.Within (isLayout · = true) := by
  have hchars {x : Char} (hx : isLayout x = true) : (exactly x).Within (isLayout · = true) := by
    intro y hy
    rw [List.mem_singleton.mp (of_decide_eq_true hy)]
    exact hx
  exact within_opt.mpr ⟨⟨hchars rfl, hchars rfl⟩, hchars rfl, hchars rfl⟩

theorem layout_of_finish (h : c ∈ (seqs [bold, .star blank, .finish]).run m) :
    m.ahead.all isLayout = true := by
  obtain ⟨m₁, hbold, hrest⟩ := mem_run_seq.mp h
  obtain ⟨m₂, hblanks, hfinish⟩ := mem_run_seq.mp hrest
  obtain ⟨rfl, hend⟩ := mem_run_finish.mp hfinish
  obtain ⟨marks, htook⟩ := exists_took hbold
  obtain ⟨blanks, htook', hblanks, -⟩ := mem_run_star_oneOf.mp hblanks
  rw [htook.1, htook'.1, List.all_append, List.all_append, Bool.and_eq_true, Bool.and_eq_true]
  refine ⟨?_, ?_, ?_⟩
  · rw [List.all_eq_true]
    exact within_bold_layout.taken hbold htook
  · rw [List.all_eq_true]
    intro x hx
    have hx : x = ' ' ∨ x = '\t' := by simpa using hblanks x hx
    obtain rfl | rfl := hx
    · rfl
    · rfl
  · obtain hend | hend := hend
    · rw [hend]
      rfl
    · rw [hend]
      rfl

/-- A name is not the beginning of a longer word. -/
theorem whole_of_mem_run_name (h : c ∈ (name table term).run m) :
    ∀ x ∈ c.ahead.head?, (isAscii x && x.isAlphanum) = false := by
  obtain ⟨_, -, h⟩ := mem_run_seq.mp h
  obtain ⟨_, -, h⟩ := mem_run_seq.mp h
  obtain ⟨rfl, hnone⟩ := mem_run_negativeLookahead.mp h
  intro x hx
  by_contra hword
  obtain ⟨rest, hahead⟩ := List.head?_eq_some_iff.mp hx
  have hword : isAscii x = true ∧ x.isAlphanum = true := by simpa using hword
  have haccepts : (table.isWord x || x == '-') = true := by
    rw [CharTable.isWord, if_pos hword.1, hword.2]
    rfl
  have hmatch : _ ∈ (Regex.char fun c => table.isWord c || c == '-').run c :=
    mem_run_char.mpr ⟨x, rest, hahead, haccepts, rfl⟩
  rw [hnone] at hmatch
  cases hmatch

theorem followsName_of_mem_run (h : c ∈ (seqs [name table term, identityEnd table]).run m) :
    FollowsName c.ahead := by
  obtain ⟨m₁, hname, hend⟩ := mem_run_seq.mp h
  obtain ⟨m₂, hbehind, rfl⟩ := mem_run_lookahead hend
  obtain ⟨m₃, hblanks, hmore⟩ := mem_run_seq.mp hbehind
  obtain ⟨blanks, htook, hblanks, -⟩ := mem_run_star_oneOf.mp hblanks
  have hwhole := whole_of_mem_run_name hname
  refine ⟨hwhole, ?_⟩
  show (∃ classes ∈ endShapes, StartsLike classes m₁.ahead) ∨ m₁.ahead.all isLayout = true
  rw [htook.1]
  obtain hcloser | hmore := mem_run_alt.mp hmore
  · obtain ⟨x, rest, hahead, hx, -⟩ := mem_run_char.mp hcloser
    have hgoesOn : StartsLike [(· ∈ closers)] m₃.ahead := by
      rw [hahead]
      exact .cons hx (startsLike_nil rest)
    exact .inl (goesOn_of_blanks hblanks hgoesOn (by simp [endShapes]) (by simp [endShapes]))
  obtain hand | hfinish := mem_run_alt.mp hmore
  · obtain ⟨m₄, hand, -⟩ := mem_run_seq.mp hand
    have hgoesOn : StartsLike [like 'a', like 'n', like 'd'] m₃.ahead :=
      startsLike_of_mem_run_literal rfl hand
    exact .inl (goesOn_of_blanks hblanks hgoesOn (by simp [endShapes]) (by simp [endShapes]))
  · right
    rw [List.all_append, layout_of_finish hfinish, Bool.and_true, List.all_eq_true]
    intro x hx
    have hx : x = ' ' ∨ x = '\t' := by simpa using hblanks x hx
    obtain rfl | rfl := hx
    · rfl
    · rfl

/-- What comes behind a name is not the inside of a phrase. -/
theorem FollowsName.not_prefix (h : FollowsName after) {phrase : PyString}
    (hphrase : phrase ∈ writtenPhrases) {index : ℕ} (hpos : 0 < index)
    (hindex : index < phrase.length) : ¬ phrase.drop index <+: after := by
  rintro ⟨rest, hrest⟩
  obtain hword | ⟨hconflicts, hlayout⟩ := conflicts_endShapes phrase hphrase index hindex hpos
  · obtain ⟨x, hx, hword⟩ := (Option.any_eq_true _ _).mp hword
    have hhead : x ∈ after.head? := by
      rw [← hrest, List.head?_append, hx]
      rfl
    rw [h.whole x hhead] at hword
    cases hword
  · obtain ⟨classes, hclasses, hlike⟩ | hall := h.goesOn
    · exact not_prefix_of_conflicts hlike (hconflicts classes hclasses) ⟨rest, hrest⟩
    · rw [← hrest, List.all_append, hlayout] at hall
      cases hall

theorem weight_writtenPhrase {phrase : PyString} (h : phrase ∈ writtenPhrases) :
    weight writtenPhrases phrase = 1 := by
  have hweight := separate_writtenPhrases.weight_phrase_append h []
  rw [List.append_nil, weight] at hweight
  exact hweight

/-- What the first two rules find they can replace. -/
theorem replaceable_introduction
    (hbegins : ∃ classes ∈ firstShapes, StartsLike classes (body ++ after))
    (hafter : FollowsName after) (hlength : 2 ≤ body.length) :
    Replaceable writtenPhrases "I am an AI assistant".toList body after := by
  obtain ⟨classes, hclasses, hlike⟩ := hbegins
  constructor
  · intro before
    apply apart_of_drop
    intro phrase hphrase index hpos hindex
    exact not_prefix_of_conflicts hlike
      (conflicts_firstShapes classes hclasses phrase hphrase index hindex hpos)
  · apply apart_of_drop
    intro phrase hphrase index hpos hindex
    exact hafter.not_prefix hphrase hpos hindex
  · intro hne
    have hbody : body ∉ writtenPhrases := by
      intro hmem
      have hmem : body = "I am an AI assistant".toList ∨ body = "As an AI assistant".toList := by
        simpa [writtenPhrases] using hmem
      have hrole : body = "As an AI assistant".toList := hmem.resolve_left hne
      apply not_prefix_of_conflicts hlike (conflicts_phrases.1 classes hclasses)
      rw [← hrole]
      exact List.prefix_append body after
    have hweight : weight writtenPhrases "I am an AI assistant".toList = 1 :=
      weight_writtenPhrase (by simp [writtenPhrases])
    have hheavy := separate_writtenPhrases.two_le_weight hlength hbody
    rw [hweight]
    omega

theorem comma_not_written : ∀ phrase ∈ writtenPhrases, ',' ∉ phrase := by decide

/-- What the last rule finds it can replace. -/
theorem replaceable_role (hbegins : StartsLike roleShape (body ++ ([','] ++ after)))
    (hlength : 2 ≤ body.length) :
    Replaceable writtenPhrases "As an AI assistant,".toList (body ++ [',']) after := by
  have hcomma (text : PyString) :
      weight writtenPhrases (text ++ [',']) = weight writtenPhrases text + 1 := by
    have hweight : weight writtenPhrases [','] = 1 := by decide
    rw [weight_append (apart_stop comma_not_written), hweight]
  constructor
  · intro before
    apply apart_of_drop
    intro phrase hphrase index hpos hindex
    rw [List.append_assoc]
    exact not_prefix_of_conflicts hbegins (conflicts_roleShape phrase hphrase index hindex hpos)
  · exact apart_of_stop comma_not_written separate_writtenPhrases.nonempty
  · intro hne
    have hbody : body ∉ writtenPhrases := by
      intro hmem
      have hmem : body = "I am an AI assistant".toList ∨ body = "As an AI assistant".toList := by
        simpa [writtenPhrases] using hmem
      obtain hbody | hbody := hmem
      · apply not_prefix_of_conflicts hbegins conflicts_phrases.2
        rw [← hbody]
        exact List.prefix_append body _
      · rw [hbody] at hne
        exact hne rfl
    have hphrase : weight writtenPhrases "As an AI assistant,".toList = 1 + 1 := by
      have hwritten : "As an AI assistant".toList ∈ writtenPhrases := by simp [writtenPhrases]
      have hweight := hcomma "As an AI assistant".toList
      rw [weight_writtenPhrase hwritten] at hweight
      exact hweight
    have hheavy := separate_writtenPhrases.two_le_weight hlength hbody
    rw [hphrase, hcomma]
    omega

/-- Two patterns that take something take two characters. -/
theorem two_le_of_seq {first second : Regex} (hfirst : first.Consumes = true)
    (hsecond : second.Consumes = true) (h : c ∈ (Regex.seq first second).run m)
    (htext : m.ahead = body ++ c.ahead) : 2 ≤ body.length := by
  obtain ⟨m₁, hm₁, hc⟩ := mem_run_seq.mp h
  have hlt := length_lt_of_consumes hfirst hm₁
  have hlt' := length_lt_of_consumes hsecond hc
  rw [htext, List.length_append] at hlt
  omega

theorem replaceable_originRule (h : c ∈ (originRule table term).body.run m)
    (htext : m.ahead = body ++ c.ahead) :
    Replaceable writtenPhrases (originRule table term).phrase body c.ahead := by
  have hbegins := begins_originRule h
  have hlength := two_le_of_seq rfl rfl h htext
  obtain ⟨_, -, hrest⟩ := mem_run_seq.mp h
  obtain ⟨_, -, hrest⟩ := mem_run_seq.mp hrest
  obtain ⟨_, -, hrest⟩ := mem_run_seq.mp hrest
  obtain ⟨_, -, hrest⟩ := mem_run_seq.mp hrest
  obtain ⟨_, -, hname⟩ := mem_run_seq.mp hrest
  rw [htext] at hbegins
  exact replaceable_introduction hbegins (followsName_of_mem_run hname) hlength

theorem replaceable_nameRule (h : c ∈ (nameRule table term).body.run m)
    (htext : m.ahead = body ++ c.ahead) :
    Replaceable writtenPhrases (nameRule table term).phrase body c.ahead := by
  have hbegins := begins_nameRule h
  have hlength := two_le_of_seq rfl rfl h htext
  obtain ⟨_, -, hrest⟩ := mem_run_seq.mp h
  obtain ⟨_, -, hname⟩ := mem_run_seq.mp hrest
  rw [htext] at hbegins
  exact replaceable_introduction hbegins (followsName_of_mem_run hname) hlength

theorem replaceable_roleRule (h : c ∈ (roleRule table term).body.run m)
    (htext : m.ahead = body ++ c.ahead) :
    Replaceable writtenPhrases (roleRule table term).phrase body c.ahead := by
  have hbegins := begins_roleRule h
  obtain ⟨m₁, hAs, hrest⟩ := mem_run_seq.mp h
  obtain ⟨m₂, hblanks, hrest⟩ := mem_run_seq.mp hrest
  obtain ⟨m₃, horigin, hrest⟩ := mem_run_seq.mp hrest
  obtain ⟨m₄, hname, hrest⟩ := mem_run_seq.mp hrest
  obtain ⟨m₅, hcomma, hrest⟩ := mem_run_seq.mp hrest
  have hbefore : m₄ ∈ (seqs [word table "As", blanks,
      opt (seqs [assistantDescription table, blanks, origin table]), name table term]).run m :=
    mem_run_seq.mpr ⟨m₁, hAs, mem_run_seq.mpr ⟨m₂, hblanks, mem_run_seq.mpr ⟨m₃, horigin, hname⟩⟩⟩
  obtain ⟨before, htook⟩ := exists_took hbefore
  obtain ⟨x, rest, hahead, hx, rfl⟩ := mem_run_char.mp hcomma
  have hx : x = ',' := by simpa using hx
  obtain ⟨m₆, -, rfl⟩ := mem_run_lookahead hrest
  -- the comma is the last character taken
  have hbody : body = before ++ [','] := by
    have hsplit : body ++ rest = before ++ [','] ++ rest := by
      rw [List.append_assoc, ← hx]
      show _ = before ++ x :: rest
      rw [← hahead, ← htook.1]
      exact htext.symm
    exact List.append_cancel_right hsplit
  rw [hbody]
  apply replaceable_role
  · rw [← hx]
    show StartsLike roleShape (before ++ x :: rest)
    rw [← hahead, ← htook.1]
    exact hbegins
  · exact two_le_of_seq rfl rfl hbefore htook.1

/-- What a rule finds it can replace, and it leaves nothing heavier. -/
theorem lightens_pattern {rule : Rule} (hrule : rule ∈ rules table term) :
    Lightens writtenPhrases rule.phrase (rule.pattern table) := by
  intro passed text c hc
  obtain ⟨m, hm, hbody⟩ := mem_run_seq.mp hc
  obtain ⟨m', lead, hlead, htook, rfl⟩ := took_group hm
  obtain ⟨body, htook'⟩ := exists_took hbody
  refine ⟨lead, body, ?_, group_of_groupless (groupless_body hrule) hbody, ?_⟩
  · rw [← htook'.1]
    exact htook.1
  · obtain rfl | rfl | rfl := mem_rules_iff.mp hrule
    · exact replaceable_originRule hbody htook'.1
    · exact replaceable_nameRule hbody htook'.1
    · exact replaceable_roleRule hbody htook'.1

end ResponseGateway

end LLMRouting
