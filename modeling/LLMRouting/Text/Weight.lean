/-
# Substitutions that cannot be undone

The weight of a text is its length, counting each occurrence of a fixed phrase as one character.
Where the phrases cannot overlap, a substitution that puts phrases in the place of heavier
texts lowers the weight, however many matches it replaces; so a sequence of such substitutions
that ends with the text it began with has changed nothing on the way.
-/

import LLMRouting.Text.Locality

namespace LLMRouting.Text

open Regex

/-- What is saved at a place: all but one character of a phrase that begins there. -/
def saving (phrases : List (List Char)) (text : List Char) : ℕ :=
  ((phrases.filter fun phrase => phrase.isPrefixOf text).map fun phrase => phrase.length - 1).sum

/-- The number of characters of a text, an occurrence of a phrase counting as one. -/
def weight (phrases : List (List Char)) : List Char → ℤ
  | [] => 0
  | x :: rest => weight phrases rest + 1 - saving phrases (x :: rest)

/-- No phrase begins in the first text and reaches into the second. -/
def Apart (phrases : List (List Char)) (left right : List Char) : Prop :=
  ∀ before middle, left = before ++ middle → middle ≠ [] → ∀ phrase ∈ phrases,
    phrase <+: middle ++ right → phrase <+: middle

/-- No phrase is empty, and no place inside a phrase can be the beginning of one. -/
structure Separate (phrases : List (List Char)) : Prop where
  nodup : phrases.Nodup
  nonempty : ∀ phrase ∈ phrases, phrase ≠ []
  apart : ∀ phrase ∈ phrases, ∀ other ∈ phrases, ∀ index < phrase.length,
    (index = 0 → phrase ≠ other) →
      ¬ other <+: phrase.drop index ∧ ¬ phrase.drop index <+: other

variable {phrases : List (List Char)} {left right text phrase : List Char}

theorem saving_le_append (phrases : List (List Char)) (text more : List Char) :
    saving phrases text ≤ saving phrases (text ++ more) := by
  apply List.Sublist.sum_le_sum
  · apply List.Sublist.map
    apply List.monotone_filter_right
    intro phrase hphrase
    rw [List.isPrefixOf_iff_prefix] at hphrase ⊢
    exact hphrase.trans (List.prefix_append text more)
  · intro _ _
    exact Nat.zero_le _

theorem saving_append (h : ∀ phrase ∈ phrases, phrase <+: text ++ right → phrase <+: text) :
    saving phrases (text ++ right) = saving phrases text := by
  rw [saving, saving]
  congr 2
  apply List.filter_congr
  intro phrase hphrase
  rw [Bool.eq_iff_iff, List.isPrefixOf_iff_prefix, List.isPrefixOf_iff_prefix]
  constructor
  · exact h phrase hphrase
  · intro hstarts
    exact hstarts.trans (List.prefix_append text right)

theorem saving_eq_zero (h : ∀ phrase ∈ phrases, ¬ phrase <+: text) : saving phrases text = 0 := by
  have hnone : phrases.filter (fun phrase => phrase.isPrefixOf text) = [] := by
    rw [List.filter_eq_nil_iff]
    intro phrase hphrase hstarts
    exact h phrase hphrase (List.isPrefixOf_iff_prefix.mp hstarts)
  rw [saving, hnone]
  rfl

/-- Side by side, texts weigh no more than by themselves. -/
theorem weight_append_le (phrases : List (List Char)) (left right : List Char) :
    weight phrases (left ++ right) ≤ weight phrases left + weight phrases right := by
  induction left with
  | nil => simp [weight]
  | cons x left ih =>
      have hsaving := saving_le_append phrases (x :: left) right
      rw [List.cons_append, weight, weight]
      rw [List.cons_append] at hsaving
      omega

/-- Where no phrase goes from one text into the other, their weights add up. -/
theorem weight_append (h : Apart phrases left right) :
    weight phrases (left ++ right) = weight phrases left + weight phrases right := by
  induction left with
  | nil => simp [weight]
  | cons x left ih =>
      have hrest : Apart phrases left right := by
        intro before middle hleft
        exact h (x :: before) middle (by rw [hleft]; rfl)
      have hsaving := saving_append (h [] (x :: left) rfl (List.cons_ne_nil x left))
      rw [List.cons_append] at hsaving
      rw [List.cons_append, weight, weight, hsaving, ih hrest]
      omega

theorem apart_of_drop (h : ∀ phrase ∈ phrases, ∀ index, 0 < index → index < phrase.length →
    ¬ phrase.drop index <+: right) : Apart phrases left right := by
  intro before middle hleft hmiddle phrase hphrase hstarts
  have hmiddleLength : 0 < middle.length := List.length_pos_iff.mpr hmiddle
  by_cases hlength : phrase.length ≤ middle.length
  · exact List.prefix_of_prefix_length_le hstarts (List.prefix_append middle right) hlength
  · -- the phrase would go on into the second text
    have hbegins : middle <+: phrase :=
      List.prefix_of_prefix_length_le (List.prefix_append middle right) hstarts (by omega)
    obtain ⟨rest, rfl⟩ := hbegins
    apply absurd _ (h _ hphrase middle.length hmiddleLength (Nat.lt_of_not_le hlength))
    rw [List.drop_left]
    exact (List.prefix_append_right_inj middle).mp hstarts

/-- No phrase reaches over a character that none of them has. -/
theorem apart_stop {stop : Char} (h : ∀ phrase ∈ phrases, stop ∉ phrase) :
    Apart phrases left (stop :: right) := by
  apply apart_of_drop
  intro phrase hphrase index _ hindex hstarts
  cases hdrop : phrase.drop index with
  | nil =>
      have hlength := congrArg List.length hdrop
      rw [List.length_drop, List.length_nil] at hlength
      omega
  | cons x rest =>
      rw [hdrop, List.cons_prefix_cons] at hstarts
      have hmem : x ∈ phrase := List.mem_of_mem_drop (by rw [hdrop]; exact List.mem_cons_self)
      exact h phrase hphrase (hstarts.1 ▸ hmem)

theorem apart_of_stop {stop : Char} (h : ∀ phrase ∈ phrases, stop ∉ phrase)
    (hnonempty : ∀ phrase ∈ phrases, phrase ≠ []) : Apart phrases (left ++ [stop]) right := by
  intro before middle hleft hmiddle phrase hphrase hstarts
  have hsplit := List.dropLast_append_getLast hmiddle
  have hlast : middle.getLast hmiddle = stop := by
    have hlasts := congrArg List.getLast? hleft
    rw [List.getLast?_append, List.getLast?_append, List.getLast?_eq_some_getLast hmiddle] at hlasts
    simpa using hlasts.symm
  rw [hlast] at hsplit
  rw [← hsplit, List.append_assoc] at hstarts
  rw [← hsplit]
  by_cases hempty : middle.dropLast = []
  · rw [hempty] at hstarts
    have hmem : stop ∈ phrase := by
      cases phrase with
      | nil => exact absurd rfl (hnonempty [] hphrase)
      | cons x rest =>
          rw [(List.cons_prefix_cons.mp hstarts).1]
          exact List.mem_cons_self
    exact absurd hmem (h phrase hphrase)
  · exact (apart_stop h [] middle.dropLast rfl hempty phrase hphrase hstarts).trans
      (List.prefix_append _ _)

/-- Where a phrase begins, nothing else is saved. -/
theorem Separate.saving_phrase (h : Separate phrases) (hphrase : phrase ∈ phrases)
    (more : List Char) : saving phrases (phrase ++ more) = phrase.length - 1 := by
  have honly : phrases.filter (fun other => other.isPrefixOf (phrase ++ more)) = [phrase] := by
    have hsame : phrases.filter (fun other => other.isPrefixOf (phrase ++ more)) =
        phrases.filter fun other => decide (other = phrase) := by
      apply List.filter_congr
      intro other hother
      rw [Bool.eq_iff_iff, List.isPrefixOf_iff_prefix, decide_eq_true_eq]
      constructor
      · intro hstarts
        by_contra hne
        have hlength : 0 < phrase.length := List.length_pos_iff.mpr (h.nonempty phrase hphrase)
        obtain ⟨hother', hphrase'⟩ :=
          h.apart phrase hphrase other hother 0 hlength fun _ heq => hne heq.symm
        obtain hle | hle :=
          List.prefix_or_prefix_of_prefix hstarts (List.prefix_append phrase more)
        · exact hother' hle
        · exact hphrase' hle
      · rintro rfl
        exact List.prefix_append other more
    rw [hsame, List.filter_eq, List.count_eq_one_of_mem h.nodup hphrase]
    rfl
  rw [saving, honly]
  rfl

/-- A phrase weighs one. -/
theorem Separate.weight_phrase_append (h : Separate phrases) (hphrase : phrase ∈ phrases)
    (more : List Char) : weight phrases (phrase ++ more) = 1 + weight phrases more := by
  have hinside (tail : List Char) : ∀ index, 0 < index → tail = phrase.drop index →
      weight phrases (tail ++ more) = tail.length + weight phrases more := by
    induction tail with
    | nil => simp
    | cons x tail ih =>
        intro index hindex htail
        have hlength : index < phrase.length := by
          by_contra hlong
          rw [List.drop_eq_nil_of_le (Nat.not_lt.mp hlong)] at htail
          cases htail
        have hnone : saving phrases (x :: tail ++ more) = 0 := by
          apply saving_eq_zero
          intro other hother hstarts
          obtain ⟨hother', hphrase'⟩ := h.apart phrase hphrase other hother index hlength (by omega)
          rw [← htail] at hother' hphrase'
          obtain hle | hle :=
            List.prefix_or_prefix_of_prefix hstarts (List.prefix_append (x :: tail) more)
          · exact hother' hle
          · exact hphrase' hle
        have hnext : tail = phrase.drop (index + 1) := by
          rw [← List.drop_drop, ← htail]
          rfl
        rw [List.cons_append] at hnone
        rw [List.cons_append, weight, hnone, ih (index + 1) (Nat.succ_pos index) hnext,
          List.length_cons]
        push_cast
        ring
  have hsaving := h.saving_phrase hphrase more
  cases phrase with
  | nil => exact absurd rfl (h.nonempty [] hphrase)
  | cons x tail =>
      rw [List.cons_append] at hsaving
      rw [List.cons_append, weight, hsaving, hinside tail 1 Nat.one_pos rfl, List.length_cons]
      push_cast
      ring

/-- A text that is not empty weighs at least one, and more if it is neither a character nor a
phrase. -/
theorem Separate.one_le_weight (h : Separate phrases) (text : List Char) :
    0 ≤ weight phrases text ∧ (text ≠ [] → 1 ≤ weight phrases text) := by
  induction hlength : text.length using Nat.strong_induction_on generalizing text with
  | _ n ih =>
      by_cases hbegins : ∃ phrase ∈ phrases, phrase <+: text
      · obtain ⟨phrase, hphrase, more, rfl⟩ := hbegins
        have hpos : 0 < phrase.length := List.length_pos_iff.mpr (h.nonempty phrase hphrase)
        have hmore := (ih more.length (by rw [← hlength, List.length_append]; omega) more rfl).1
        rw [h.weight_phrase_append hphrase]
        exact ⟨by omega, fun _ => by omega⟩
      · cases text with
        | nil => exact ⟨le_rfl, fun hne => absurd rfl hne⟩
        | cons x rest =>
            have hrest := (ih rest.length (by rw [← hlength]; exact Nat.lt_succ_self _) rest rfl).1
            have hnone : saving phrases (x :: rest) = 0 :=
              saving_eq_zero fun phrase hphrase hstarts => hbegins ⟨phrase, hphrase, hstarts⟩
            rw [weight, hnone]
            exact ⟨by omega, fun _ => by omega⟩

theorem Separate.two_le_weight (h : Separate phrases) (hlength : 2 ≤ text.length)
    (htext : text ∉ phrases) : 2 ≤ weight phrases text := by
  by_cases hbegins : ∃ phrase ∈ phrases, phrase <+: text
  · obtain ⟨phrase, hphrase, more, rfl⟩ := hbegins
    have hmore : more ≠ [] := by
      rintro rfl
      rw [List.append_nil] at htext
      exact htext hphrase
    have hweight := (h.one_le_weight more).2 hmore
    rw [h.weight_phrase_append hphrase]
    omega
  · cases text with
    | nil => exact absurd hlength (by decide)
    | cons x rest =>
        have hrest : rest ≠ [] := by
          rintro rfl
          simp at hlength
        have hweight := (h.one_le_weight rest).2 hrest
        have hnone : saving phrases (x :: rest) = 0 :=
          saving_eq_zero fun phrase hphrase hstarts => hbegins ⟨phrase, hphrase, hstarts⟩
        rw [weight, hnone]
        omega

/-- A match that a phrase replaces, but for what it leaves in the group: no phrase reaches into
it or out of it, and unless it reads as the phrase it is heavier. -/
structure Replaceable (phrases : List (List Char)) (phrase body after : List Char) : Prop where
  into : ∀ before, Apart phrases before (body ++ after)
  out : Apart phrases body after
  heavier : body ≠ phrase → weight phrases phrase < weight phrases body

/-- What a pattern matches is a lead, which the group keeps, and a body that can be replaced. -/
def Lightens (phrases : List (List Char)) (phrase : List Char) (r : Regex) : Prop :=
  ∀ passed text c, c ∈ r.run ⟨passed, text, none⟩ → ∃ lead body,
    text = lead ++ (body ++ c.ahead) ∧ c.group = some lead ∧
      Replaceable phrases phrase body c.ahead

theorem Replaceable.weight_le {body after : List Char} (h : Replaceable phrases phrase body after)
    (before : List Char) :
    weight phrases (before ++ (phrase ++ after)) ≤ weight phrases (before ++ (body ++ after)) ∧
      (weight phrases (before ++ (phrase ++ after)) = weight phrases (before ++ (body ++ after)) →
        body = phrase) := by
  have hnew := weight_append_le phrases before (phrase ++ after)
  have hphrase := weight_append_le phrases phrase after
  have hold := weight_append (h.into before)
  have hbody := weight_append h.out
  by_cases hsame : body = phrase
  · rw [hsame]
    exact ⟨le_rfl, fun _ => rfl⟩
  · have hheavier := h.heavier hsame
    constructor
    · omega
    · intro heq
      omega

/-- A substitution does not make a text heavier, and lighter if it changes a match. -/
theorem weight_sub_le {r : Regex} (hconsumes : r.Consumes = true)
    (hr : Lightens phrases phrase r) (text : List Char) :
    weight phrases (r.sub (· ++ phrase) text) ≤ weight phrases text ∧
      (weight phrases (r.sub (· ++ phrase) text) = weight phrases text →
        ∀ found ∈ r.found text, found.1 = found.2 ++ phrase) := by
  have hscan : ∀ before,
      weight phrases (before ++ r.subFrom (· ++ phrase) 0 [] text) ≤
          weight phrases (before ++ text) ∧
        (weight phrases (before ++ r.subFrom (· ++ phrase) 0 [] text) =
            weight phrases (before ++ text) →
          ∀ found ∈ r.foundFrom 0 [] text, found.1 = found.2 ++ phrase) := by
    apply scan_induction (· ++ phrase) hconsumes (motive := fun _ text result found => ∀ before,
      weight phrases (before ++ result) ≤ weight phrases (before ++ text) ∧
        (weight phrases (before ++ result) = weight phrases (before ++ text) →
          ∀ match' ∈ found, match'.1 = match'.2 ++ phrase))
    · intro passed before
      exact ⟨le_rfl, fun _ match' hmem => absurd hmem List.not_mem_nil⟩
    · intro passed x rest result found hnone ih before
      rw [List.append_cons before x result, List.append_cons before x rest]
      exact ih (before ++ [x])
    · intro passed text taken c result found htook hmatch ih before
      obtain ⟨lead, body, htext, hgroup, hreplaceable⟩ :=
        hr passed text c (List.mem_of_mem_head? hmatch)
      have htaken : taken = lead ++ body := by
        have hsame : taken ++ c.ahead = lead ++ body ++ c.ahead := by
          rw [← htook.1, List.append_assoc]
          exact htext
        exact List.append_cancel_right hsame
      have hone := hreplaceable.weight_le (before ++ lead)
      have hrest := ih (before ++ lead ++ phrase)
      rw [hgroup, Option.getD_some, htext]
      simp only [List.append_assoc] at hone hrest ⊢
      constructor
      · exact hrest.1.trans hone.1
      · intro heq match' hmem
        obtain rfl | hmem := List.mem_cons.mp hmem
        · have hbody : body = phrase := hone.2 (le_antisymm hone.1 (heq ▸ hrest.1))
          rw [htaken, hbody]
        · exact hrest.2 (le_antisymm hrest.1 (heq ▸ hone.1)) match' hmem
  exact hscan []

/-- A sequence of such substitutions that leaves a text as it was has found nothing to
change. -/
theorem found_of_foldl_sub {rules : List (Regex × List Char)}
    (hrules : ∀ rule ∈ rules, rule.1.Consumes = true ∧ Lightens phrases rule.2 rule.1)
    (text : List Char)
    (h : rules.foldl (fun text rule => rule.1.sub (· ++ rule.2) text) text = text) :
    ∀ rule ∈ rules, ∀ found ∈ rule.1.found text, found.1 = found.2 ++ rule.2 := by
  have hweight (rules : List (Regex × List Char))
      (hrules : ∀ rule ∈ rules, rule.1.Consumes = true ∧ Lightens phrases rule.2 rule.1) :
      ∀ text, weight phrases (rules.foldl (fun text rule => rule.1.sub (· ++ rule.2) text) text) ≤
        weight phrases text := by
    induction rules with
    | nil => exact fun text => le_rfl
    | cons rule rules ih =>
        intro text
        obtain ⟨hconsumes, hlightens⟩ := hrules rule List.mem_cons_self
        have hrest := ih (fun other hother => hrules other (List.mem_cons_of_mem rule hother))
          (rule.1.sub (· ++ rule.2) text)
        exact hrest.trans (weight_sub_le hconsumes hlightens text).1
  induction rules with
  | nil =>
      intro rule hrule
      cases hrule
  | cons rule rules ih =>
      obtain ⟨hconsumes, hlightens⟩ := hrules rule List.mem_cons_self
      have hothers := fun other hother => hrules other (List.mem_cons_of_mem rule hother)
      have hfirst := weight_sub_le hconsumes hlightens text
      have hrest := hweight rules hothers (rule.1.sub (· ++ rule.2) text)
      rw [List.foldl_cons] at h
      rw [h] at hrest
      have hfound := hfirst.2 (le_antisymm hfirst.1 hrest)
      rw [sub_eq_self hconsumes hfound] at h
      intro other hother
      obtain rfl | hother := List.mem_cons.mp hother
      · exact hfound
      · exact ih hothers h other hother

end LLMRouting.Text
