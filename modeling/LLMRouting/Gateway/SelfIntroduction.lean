/-
# Plain self-introductions under the gateway

Whether a line that introduces the speaker by an identity term survives the gateway. Going
back from a scrubbed line, a rule either left it alone or put a phrase into it, and that phrase
cannot be part of the introduction unless the term itself goes on, after the end of a sentence,
with such a phrase. So what survives was there before, and the rule for names has removed it
unless the line ends in another way than with a line feed.
-/

import LLMRouting.Gateway.Layout

namespace LLMRouting

open Data (PyString replicate_split split_of_length_le)
open Text
open Text.Regex

namespace ResponseGateway

/-- What a plain self-introduction begins with. -/
def openings : List PyString := ["I am ".toList, "I'm ".toList, "My name is ".toList]

/-- What may follow a name. -/
def closers : List Char := ['.', '!', '?', ';', ',']

/-- What every phrase of the gateway says. -/
def description : PyString := "an AI assistant".toList

/-- At most three spaces and the beginning of a self-introduction. -/
def IsOpening (opening : PyString) : Prop :=
  ∃ indent ≤ 3, ∃ words ∈ openings, opening = List.replicate indent ' ' ++ words

/-- The line says no more than that the speaker is the term. -/
def Ended (term line : PyString) : Prop :=
  ∃ opening ending, IsOpening opening ∧ line = opening ++ term ++ ending ∧
    (ending = [] ∨ IsLineEnd ending)

/-- The line says that the speaker is the term, and goes on after a punctuation mark. -/
def Punctuated (term line : PyString) : Prop :=
  ∃ opening closer rest, IsOpening opening ∧ closer ∈ closers ∧
    line = opening ++ term ++ closer :: rest

/-- The line is a plain self-introduction. -/
def Introduces (term line : PyString) : Prop := Ended term line ∨ Punctuated term line

/-- A line outside code introduces the speaker by the term. -/
def Leaks (term text : PyString) : Prop :=
  ∃ line ∈ proseLines none (splitlines text), Introduces term line

/-- Some rule of the gateway matches in the line. -/
def Recognised (table : CharTable) (gateway : ResponseGateway) (line : PyString) : Prop :=
  ∃ rule ∈ gateway.allRules table, (rule.pattern table).Occurs line

/-- The line is a self-introduction that ends with another line boundary than a line feed, and
no rule matches in it. -/
def Overlooked (table : CharTable) (gateway : ResponseGateway) (term line : PyString) : Prop :=
  (∃ opening ending, IsOpening opening ∧ line = opening ++ term ++ ending ∧
    IsLineEnd ending ∧ ending ≠ ['\n']) ∧ ¬ Recognised table gateway line

/-- The line begins like a self-introduction by the term up to the end of a sentence inside the
term, and from there on the term itself goes on to say what the gateway's phrases say. -/
def Resumes (term line : PyString) : Prop :=
  ∃ opening head stop blank rest tail, IsOpening opening ∧ stop ∈ ['.', '!', '?'] ∧
    blank ∈ [' ', '\t'] ∧ term = head ++ stop :: blank :: rest ∧ description <:+: rest ∧
    line = opening ++ head ++ stop :: blank :: tail

variable {table : CharTable} {gateway : ResponseGateway}
variable {term line opening said ending before lead after : PyString} {rule : Rule}

/-- A piece of text none of whose characters can begin what follows lies before it. -/
theorem prefix_of_stop {piece tail : PyString} (hstop : ∀ c ∈ ending.head?, c ∉ piece)
    (h : piece ++ tail = said ++ ending) : piece <+: said := by
  obtain ⟨middle, hsaid, -⟩ | ⟨middle, hpiece, hending⟩ := List.append_eq_append_iff.mp h
  · exact ⟨middle, hsaid.symm⟩
  · cases middle with
    | nil => rw [hpiece, List.append_nil]
    | cons c middle =>
        have hc : c ∉ piece := hstop c (by rw [hending]; rfl)
        exact absurd (by simp [hpiece]) hc

/-- None of these can begin a list marker, a greeting or bold text. -/
def Plain (c : Char) : Prop := c = ' ' ∨ c = 'I' ∨ c = 'M'

theorem beginsWith_oneOf {chars : List Char} {p : Char → Prop} (h : ∀ c ∈ chars, p c) :
    (oneOf chars).BeginsWith p :=
  fun c hc => h c (of_decide_eq_true hc)

theorem beginsWith_listMarker : (listMarker table).BeginsWith fun c => ¬ Plain c := by
  have hdigits : (digits table).BeginsWith fun c => ¬ Plain c := by
    intro c hc hplain
    obtain rfl | rfl | rfl := hplain
    · exact Bool.false_ne_true hc
    · exact Bool.false_ne_true hc
    · exact Bool.false_ne_true hc
  exact ⟨beginsWith_oneOf (by simp [Plain]), hdigits, beginsWith_oneOf (by simp [Plain])⟩

theorem beginsWith_greeting : (greeting table).BeginsWith fun c => ¬ Plain c := by
  have hH (c : Char) (hc : table.same 'H' c = true) : ¬ Plain c := by
    intro hplain
    obtain rfl | rfl | rfl := hplain
    · exact Bool.false_ne_true hc
    · exact Bool.false_ne_true hc
    · exact Bool.false_ne_true hc
  exact ⟨hH, hH, hH⟩

theorem eq_of_mem_run_bold {c c' : Cursor} (hhead : ∀ x ∈ c.ahead.head?, Plain x)
    (h : c' ∈ bold.run c) : c' = c := by
  apply eq_of_mem_run_opt (p := fun x => ¬ Plain x) _ _ h
  · exact ⟨beginsWith_oneOf (by simp [Plain]), beginsWith_oneOf (by simp [Plain])⟩
  · exact fun x hx hnot => hnot (hhead x hx)

/-- A lead-in is layout at the beginning of the line, or follows the end of a sentence. -/
theorem ledIn_cases (h : LedIn table line before lead after) :
    before = [] ∨ ∃ sentence stop blank more, before = sentence ++ [stop] ∧
      stop ∈ ['.', '!', '?'] ∧ lead = blank :: more ∧ blank ∈ [' ', '\t'] := by
  obtain ⟨m, hm, hrest⟩ := mem_run_seq.mp h.leads
  obtain hstart | hsentence := mem_run_alt.mp hm
  · obtain ⟨start, hstart, -⟩ := mem_run_seq.mp hstart
    left
    simpa using (mem_run_start.mp hstart).2
  · right
    obtain ⟨behind, hbehind, hblanks⟩ := mem_run_seq.mp hsentence
    obtain ⟨rfl, hstop⟩ := mem_run_lookbehind.mp hbehind
    have hblank : blanks.BeginsWith fun c => c ∈ [' ', '\t'] := beginsWith_oneOf fun c hc => hc
    obtain ⟨blank, more, hahead, hblank⟩ := hblank.head hblanks
    have hlead : after.length < (lead ++ after).length := by
      have hlt : m.ahead.length < (lead ++ after).length :=
        length_lt_of_consumes (r := blanks) rfl hblanks
      obtain ⟨taken, htaken⟩ := exists_took hrest
      have hle : m.ahead.length = taken.length + after.length := by
        rw [htaken.1, List.length_append]
      omega
    have hbefore : before ≠ [] := by
      intro hnil
      simp [hnil] at hstop
    have hsplit := List.dropLast_append_getLast hbefore
    refine ⟨before.dropLast, before.getLast hbefore, blank, ?_, hsplit.symm, ?_, ?_, hblank⟩
    · exact lead.tail
    · simpa [List.head?_reverse, List.getLast?_eq_some_getLast hbefore] using hstop
    · cases lead with
      | nil => simp at hlead
      | cons y lead => rw [(List.cons_eq_cons.mp hahead).1, List.tail_cons]

/-- Before a plain character there is no other layout than spaces. -/
theorem length_le_of_ledIn_start {indent : ℕ} {x : Char} {rest : PyString} (hx : Plain x)
    (hspace : x ≠ ' ') (hline : line = List.replicate indent ' ' ++ x :: rest)
    (h : LedIn table line [] lead after) : lead.length ≤ indent := by
  have hahead : lead ++ after = List.replicate indent ' ' ++ x :: rest := by
    rw [← hline, ← h.split, List.nil_append]
  obtain ⟨m, hm, hrest⟩ := mem_run_seq.mp h.leads
  obtain ⟨greeted, hgreeted, hbold⟩ := mem_run_seq.mp hrest
  obtain hstart | hsentence := mem_run_alt.mp hm
  · obtain ⟨start, hstart, hmore⟩ := mem_run_seq.mp hstart
    obtain ⟨indented, hindented, hmarker⟩ := mem_run_seq.mp hmore
    rw [(mem_run_start.mp hstart).1] at hindented
    obtain ⟨k, -, htook⟩ := took_of_mem_run_upTo hindented
    have hsplit : List.replicate indent ' ' ++ x :: rest =
        List.replicate k ' ' ++ indented.ahead := by
      rw [← hahead]
      exact htook.1
    -- so many spaces are there, and a plain character comes next
    have hk : k ≤ indent ∧ ∀ y ∈ indented.ahead.head?, Plain y := by
      obtain ⟨hle, hrest⟩ := replicate_split hspace hsplit
      refine ⟨hle, ?_⟩
      intro y hy
      rw [hrest] at hy
      cases hmore : indent - k with
      | zero =>
          have hy : x = y := by simpa [hmore] using hy
          exact hy ▸ hx
      | succ more =>
          have hy : ' ' = y := by simpa [hmore, List.replicate_succ] using hy
          exact .inl hy.symm
    have hmarked : m = indented := by
      apply eq_of_mem_run_opt beginsWith_listMarker _ hmarker
      exact fun y hy hnot => hnot (hk.2 y hy)
    have hgreeting : greeted = m := by
      apply eq_of_mem_run_opt beginsWith_greeting _ hgreeted
      rw [hmarked]
      exact fun y hy hnot => hnot (hk.2 y hy)
    rw [hgreeting, hmarked] at hbold
    have hend := eq_of_mem_run_bold hk.2 hbold
    have hafter : after = indented.ahead := congrArg Cursor.ahead hend
    have hlead : lead = List.replicate k ' ' := by
      rw [hafter] at hahead
      exact List.append_cancel_right (hahead.trans hsplit)
    rw [hlead, List.length_replicate]
    exact hk.1
  · obtain ⟨behind, hbehind, -⟩ := mem_run_seq.mp hsentence
    simp [mem_run_lookbehind] at hbehind

/-- No phrase of the gateway has this character before its final comma. -/
def IsStop (c : Char) : Prop :=
  c ∉ "I am an AI assistant".toList ∧ c ∉ "As an AI assistant".toList

theorem isStop_of_closer {c : Char} (h : c ∈ closers) : IsStop c := by
  have h : c = '.' ∨ c = '!' ∨ c = '?' ∨ c = ';' ∨ c = ',' := by simpa [closers] using h
  obtain rfl | rfl | rfl | rfl | rfl := h <;> simp [IsStop]

theorem isStop_of_boundary {c : Char} (h : isLineBoundary c = true) : IsStop c := by
  have hphrases : Unbroken ("I am an AI assistant".toList ++ "As an AI assistant".toList) :=
    unbroken_of_all rfl
  constructor
  · intro hc
    rw [hphrases c (List.mem_append_left _ hc)] at h
    exact absurd h (by decide)
  · intro hc
    rw [hphrases c (List.mem_append_right _ hc)] at h
    exact absurd h (by decide)

/-- A phrase that has been put before a stop lies before it, with what it describes. -/
theorem description_of_phrase {tail : PyString} (hrule : rule ∈ rules table term)
    (hstop : ∀ c ∈ ending.head?, IsStop c) (h : rule.phrase ++ tail = said ++ ending) :
    description <:+: said := by
  obtain hphrase | hphrase := phrase_cases hrule
  · rw [hphrase] at h
    have hsaid := prefix_of_stop (fun c hc => (hstop c hc).1) h
    have hinfix : description <:+: "I am an AI assistant".toList :=
      ⟨"I am ".toList, [], rfl⟩
    exact hinfix.trans hsaid.isInfix
  · rw [hphrase] at h
    have hrole : "As an AI assistant".toList ++ (",".toList ++ tail) = said ++ ending := h
    have hsaid := prefix_of_stop (fun c hc => (hstop c hc).2) hrole
    have hinfix : description <:+: "As an AI assistant".toList :=
      ⟨"As ".toList, [], rfl⟩
    exact hinfix.trans hsaid.isInfix

/-- A plain self-introduction begins with one of two letters. -/
theorem opening_head {words : PyString} (h : words ∈ openings) :
    ∃ x rest, words = x :: rest ∧ Plain x ∧ x ≠ ' ' := by
  have h : words = "I am ".toList ∨ words = "I'm ".toList ∨ words = "My name is ".toList := by
    simpa [openings] using h
  obtain rfl | rfl | rfl := h
  · exact ⟨'I', " am ".toList, rfl, .inr (.inl rfl), by decide⟩
  · exact ⟨'I', "'m ".toList, rfl, .inr (.inl rfl), by decide⟩
  · exact ⟨'M', "y name is ".toList, rfl, .inr (.inr rfl), by decide⟩

/-- A phrase at the beginning of a line makes no other introduction. -/
theorem description_of_opening {words tail : PyString} (hrule : rule ∈ rules table term)
    (hwords : words ∈ openings) (hstop : ∀ c ∈ ending.head?, IsStop c)
    (h : rule.phrase ++ tail = words ++ (said ++ ending)) : description <+: said := by
  have hwords : words = "I am ".toList ∨ words = "I'm ".toList ∨ words = "My name is ".toList := by
    simpa [openings] using hwords
  obtain hphrase | hphrase := phrase_cases hrule
  · obtain rfl | rfl | rfl := hwords
    · rw [hphrase] at h
      have hsame : "I am ".toList ++ (description ++ tail) =
          "I am ".toList ++ (said ++ ending) := h
      have hdescription := List.append_cancel_left hsame
      apply prefix_of_stop _ hdescription
      intro c hc hmem
      exact (hstop c hc).1 (List.mem_append_right "I am ".toList hmem)
    · rw [hphrase] at h
      simp at h
    · rw [hphrase] at h
      simp at h
  · obtain rfl | rfl | rfl := hwords
    · rw [hphrase] at h
      simp at h
    · rw [hphrase] at h
      simp at h
    · rw [hphrase] at h
      simp at h

/-- Where a phrase has been put at the beginning of a line, the line introduces nobody whose
name does not begin like the phrase. -/
theorem description_of_start {tail : PyString} (hrule : rule ∈ rules table term)
    (hopening : IsOpening opening) (hstop : ∀ c ∈ ending.head?, IsStop c)
    (hlead : LedIn table line [] lead after)
    (h : lead ++ (rule.phrase ++ tail) = opening ++ said ++ ending) : description <+: said := by
  obtain ⟨indent, -, words, hwords, rfl⟩ := hopening
  obtain ⟨x, rest, rfl, hx, hspace⟩ := opening_head hwords
  have hlength : lead.length ≤ indent := by
    by_contra hlong
    -- the lead-in would go on to the first letter
    have hline : List.replicate indent ' ' ++ [x] <+: lead ++ (rule.phrase ++ tail) := by
      rw [h]
      exact ⟨rest ++ said ++ ending, by simp⟩
    have hbegins : List.replicate indent ' ' ++ [x] <+: lead := by
      apply List.prefix_of_prefix_length_le hline (List.prefix_append lead _)
      simp only [List.length_append, List.length_replicate, List.length_singleton]
      omega
    obtain ⟨more, rfl⟩ := hbegins
    apply hlong
    apply length_le_of_ledIn_start hx hspace _ hlead
    · exact more ++ after
    · rw [← hlead.split]
      simp
  have hline : List.replicate indent ' ' <+: lead ++ (rule.phrase ++ tail) := by
    rw [h]
    exact ⟨(x :: rest) ++ said ++ ending, by simp⟩
  have hspaces : lead <+: List.replicate indent ' ' := by
    apply List.prefix_of_prefix_length_le (List.prefix_append lead _) hline
    rw [List.length_replicate]
    exact hlength
  obtain ⟨middle, hmiddle⟩ := hspaces
  have hphrase : rule.phrase ++ tail = middle ++ (x :: rest) ++ (said ++ ending) := by
    have hlead : lead ++ (rule.phrase ++ tail) =
        lead ++ (middle ++ (x :: rest) ++ (said ++ ending)) := by
      rw [h, ← hmiddle]
      simp
    exact List.append_cancel_left hlead
  have hnil : middle = [] := by
    cases middle with
    | nil => rfl
    | cons y middle =>
        obtain ⟨z, phrase, hz, hletter⟩ := phrase_head hrule
        rw [hz] at hphrase
        have hzy : z = y := (List.cons_eq_cons.mp hphrase).1
        have hy : y = ' ' := by
          apply List.eq_of_mem_replicate (n := indent)
          rw [← hmiddle]
          simp
        rw [hzy, hy] at hletter
        simp at hletter
  rw [hnil, List.nil_append] at hphrase
  exact description_of_opening hrule hwords hstop hphrase

theorem not_stop_of_opening {stop : Char} (hopening : IsOpening opening)
    (hstop : stop ∈ ['.', '!', '?']) : stop ∉ opening := by
  obtain ⟨indent, -, words, hwords, rfl⟩ := hopening
  have hwords : words = "I am ".toList ∨ words = "I'm ".toList ∨ words = "My name is ".toList := by
    simpa [openings] using hwords
  have hstop : stop = '.' ∨ stop = '!' ∨ stop = '?' := by simpa using hstop
  obtain rfl | rfl | rfl := hstop <;> obtain rfl | rfl | rfl := hwords <;> simp

/-- A sentence that ends after an opening ends inside what is said. -/
theorem sentence_after_opening {sentence more rest : PyString} {stop : Char}
    (hopening : IsOpening opening) (hstop : stop ∈ ['.', '!', '?'])
    (h : sentence ++ stop :: more = opening ++ rest) :
    ∃ head, sentence = opening ++ head ∧ rest = head ++ stop :: more := by
  obtain ⟨middle, hmiddle, hrest⟩ | ⟨head, hsentence, hrest⟩ := List.append_eq_append_iff.mp h
  · cases middle with
    | nil => exact ⟨[], by simpa using hmiddle.symm, by simpa using hrest.symm⟩
    | cons c middle =>
        have hc : stop = c := (List.cons_eq_cons.mp hrest).1
        exact absurd (by simp [hmiddle, hc]) (not_stop_of_opening hopening hstop)
  · exact ⟨head, hsentence, hrest⟩

/-- Where a rewritten line has an opening and the beginning of a term, either nothing was
rewritten, or the term resumes in the line, or the line had all of this and more before. -/
theorem rewrite_back {other unsaid : PyString} (hrule : rule ∈ rules table other)
    (hopening : IsOpening opening) (hterm : term = said ++ unsaid)
    (hdescription : ¬ description <+: term) (hstop : ∀ c ∈ ending.head?, IsStop c)
    (h : rule.rewrite table line = opening ++ said ++ ending) :
    (¬ (rule.pattern table).Occurs line ∧ rule.rewrite table line = line) ∨
      Resumes term line ∨
      ∃ kept tail, kept <+: line ∧ rule.rewrite table line = kept ++ (rule.phrase ++ tail) ∧
        (opening ++ said).length < kept.length := by
  obtain hsame | ⟨before, lead, after, tail, hlead, hrewrite⟩ := rewrite_cases hrule line
  · exact .inl hsame
  right
  by_cases hlong : (opening ++ said).length < (before ++ lead).length
  · exact .inr ⟨before ++ lead, tail, ⟨after, hlead.split⟩, hrewrite, hlong⟩
  left
  obtain rfl | ⟨sentence, stop, blank, more, rfl, hsentence, rfl, hblank⟩ := ledIn_cases hlead
  · -- the phrase would begin the line, and the term would begin with it
    have hsaid : description <+: said := by
      apply description_of_start hrule hopening hstop hlead
      rw [← h, hrewrite, List.nil_append]
    exact absurd (hsaid.trans ⟨unsaid, hterm.symm⟩) hdescription
  · have hsplit : sentence ++ stop :: (blank :: more ++ (rule.phrase ++ tail)) =
        opening ++ (said ++ ending) := by
      rw [← List.append_assoc opening, ← h, hrewrite]
      simp
    obtain ⟨head, rfl, hrest⟩ := sentence_after_opening hopening hsentence hsplit
    obtain ⟨said', hsaid, hphrase⟩ : ∃ said', said = head ++ stop :: blank :: more ++ said' ∧
        rule.phrase ++ tail = said' ++ ending := by
      have hlength : (head ++ stop :: blank :: more).length ≤ said.length := by
        simp only [List.length_append, List.length_cons, List.length_nil] at hlong ⊢
        omega
      have hsame : head ++ stop :: blank :: more ++ (rule.phrase ++ tail) = said ++ ending := by
        rw [hrest]
        simp
      exact split_of_length_le hsame hlength
    have hinfix := description_of_phrase hrule hstop hphrase
    refine ⟨opening, head, stop, blank, more ++ said' ++ unsaid, more ++ after, hopening,
      hsentence, hblank, ?_, ?_, ?_⟩
    · rw [hterm, hsaid]
      simp
    · obtain ⟨left, right, hmiddle⟩ := hinfix
      exact ⟨more ++ left, right ++ unsaid, by simp [← hmiddle]⟩
    · rw [← hlead.split]
      simp

/-- A punctuated introduction was there before, unless the term resumes. -/
theorem Punctuated.back {other : PyString} (hrule : rule ∈ rules table other)
    (hdescription : ¬ description <+: term) (h : Punctuated term (rule.rewrite table line)) :
    Punctuated term line ∨ Resumes term line := by
  obtain ⟨opening, closer, rest, hopening, hcloser, hline⟩ := h
  have hstop : ∀ c ∈ (closer :: rest).head?, IsStop c := by
    simpa using isStop_of_closer hcloser
  obtain ⟨-, hsame⟩ | hresumes | ⟨kept, tail, hkept, hrewrite, hlong⟩ :=
    rewrite_back hrule hopening (List.append_nil term).symm hdescription hstop hline
  · rw [hsame] at hline
    exact .inl ⟨opening, closer, rest, hopening, hcloser, hline⟩
  · exact .inr hresumes
  · left
    have hsame : opening ++ term ++ [closer] ++ rest = kept ++ (rule.phrase ++ tail) := by
      rw [← hrewrite, hline]
      simp
    have hlength : (opening ++ term ++ [closer]).length ≤ kept.length := by
      rw [List.length_append, List.length_singleton]
      exact hlong
    obtain ⟨more, rfl, -⟩ := split_of_length_le hsame hlength
    obtain ⟨after, hline⟩ := hkept
    exact ⟨opening, closer, more ++ after, hopening, hcloser, by rw [← hline]; simp⟩

/-- A bare introduction is the line itself that no rule has rewritten, unless the term
resumes. -/
theorem Ended.back {other : PyString} (hrule : rule ∈ rules table other)
    (hdescription : ¬ description <+: term) (h : Ended term (rule.rewrite table line)) :
    (¬ (rule.pattern table).Occurs line ∧ rule.rewrite table line = line) ∨
      Resumes term line := by
  obtain ⟨opening, ending, hopening, hline, hending⟩ := h
  have hboundary : ∀ c ∈ ending, isLineBoundary c = true := by
    obtain rfl | hending := hending
    · simp
    · exact fun c hc => hending.boundary hc
  have hstop : ∀ c ∈ ending.head?, IsStop c := fun c hc =>
    isStop_of_boundary (hboundary c (List.mem_of_mem_head? hc))
  obtain hsame | hresumes | ⟨kept, tail, hkept, hrewrite, hlong⟩ :=
    rewrite_back hrule hopening (List.append_nil term).symm hdescription hstop hline
  · exact .inl hsame
  · exact .inr hresumes
  · -- the phrase would be part of what ends the line
    obtain ⟨x, phrase, hphrase, hletter⟩ := phrase_head hrule
    have hx : x ∈ ending := by
      have hsame : opening ++ term ++ ending = kept ++ (rule.phrase ++ tail) := by
        rw [← hrewrite, hline]
      obtain ⟨more, -, hmore⟩ := split_of_length_le hsame hlong.le
      rw [hmore, hphrase]
      simp
    have hx := hboundary x hx
    obtain rfl | rfl := hletter
    · exact absurd hx (by decide)
    · exact absurd hx (by decide)

theorem Resumes.back {other : PyString} (hrule : rule ∈ rules table other)
    (hdescription : ¬ description <+: term) (h : Resumes term (rule.rewrite table line)) :
    Resumes term line := by
  obtain ⟨opening, head, stop, blank, rest, tail, hopening, hsentence, hblank, hterm, hinfix,
    hline⟩ := h
  have hstop : ∀ c ∈ (stop :: blank :: tail).head?, IsStop c := by
    have : stop ∈ closers := by
      have h : stop = '.' ∨ stop = '!' ∨ stop = '?' := by simpa using hsentence
      obtain rfl | rfl | rfl := h <;> simp [closers]
    simpa using isStop_of_closer this
  obtain ⟨-, hsame⟩ | hresumes | ⟨kept, tail', hkept, hrewrite, hlong⟩ :=
    rewrite_back hrule hopening hterm hdescription hstop hline
  · rw [hsame] at hline
    exact ⟨opening, head, stop, blank, rest, tail, hopening, hsentence, hblank, hterm, hinfix,
      hline⟩
  · exact hresumes
  · have hsame : opening ++ head ++ [stop] ++ blank :: tail = kept ++ (rule.phrase ++ tail') := by
      rw [← hrewrite, hline]
      simp
    have hbegins : opening ++ head ++ [stop, blank] <+: kept := by
      have hlength : (opening ++ head ++ [stop]).length ≤ kept.length := by
        rw [List.length_append, List.length_singleton]
        exact hlong
      obtain ⟨more, rfl, hmore⟩ := split_of_length_le hsame hlength
      cases more with
      | nil =>
          -- a phrase does not begin with a blank
          obtain ⟨x, phrase, hphrase, hletter⟩ := phrase_head hrule
          rw [hphrase] at hmore
          have hx : blank = x := (List.cons_eq_cons.mp hmore).1
          rw [hx] at hblank
          obtain rfl | rfl := hletter <;> simp at hblank
      | cons c more =>
          have hc : blank = c := (List.cons_eq_cons.mp hmore).1
          exact ⟨more, by simp [hc]⟩
    obtain ⟨more, hmore⟩ := hbegins.trans hkept
    exact ⟨opening, head, stop, blank, rest, more, hopening, hsentence, hblank, hterm, hinfix,
      by rw [← hmore]; simp⟩

section Applied

variable {applied : List Rule}

/-- The rules applied to a line are rules for some terms. -/
def AreRules (table : CharTable) (applied : List Rule) : Prop :=
  ∀ rule ∈ applied, ∃ term, rule ∈ rules table term

/-- Where no rule matches, no rule rewrites. -/
theorem foldl_rewrite_of_not_occurs (happlied : AreRules table applied)
    (h : ∀ rule ∈ applied, ¬ (rule.pattern table).Occurs line) :
    applied.foldl (fun line rule => rule.rewrite table line) line = line := by
  induction applied with
  | nil => rfl
  | cons rule applied ih =>
      obtain ⟨other, hrule⟩ := happlied rule List.mem_cons_self
      have hsame : rule.rewrite table line = line :=
        sub_of_not_occurs (consumes_pattern hrule) (h rule List.mem_cons_self)
      rw [List.foldl_cons, hsame]
      apply ih
      · exact fun r hr => happlied r (List.mem_cons_of_mem _ hr)
      · exact fun r hr => h r (List.mem_cons_of_mem _ hr)

theorem Resumes.back_all (happlied : AreRules table applied)
    (hdescription : ¬ description <+: term)
    (h : Resumes term (applied.foldl (fun line rule => rule.rewrite table line) line)) :
    Resumes term line := by
  induction applied generalizing line with
  | nil => exact h
  | cons rule applied ih =>
      obtain ⟨other, hrule⟩ := happlied rule List.mem_cons_self
      have hrest : AreRules table applied := fun r hr => happlied r (List.mem_cons_of_mem _ hr)
      exact (ih hrest h).back hrule hdescription

theorem Punctuated.back_all (happlied : AreRules table applied)
    (hdescription : ¬ description <+: term)
    (h : Punctuated term (applied.foldl (fun line rule => rule.rewrite table line) line)) :
    Punctuated term line ∨ Resumes term line := by
  induction applied generalizing line with
  | nil => exact .inl h
  | cons rule applied ih =>
      obtain ⟨other, hrule⟩ := happlied rule List.mem_cons_self
      have hrest : AreRules table applied := fun r hr => happlied r (List.mem_cons_of_mem _ hr)
      obtain h | h := ih hrest h
      · exact h.back hrule hdescription
      · exact .inr (h.back hrule hdescription)

theorem Ended.back_all (happlied : AreRules table applied)
    (hdescription : ¬ description <+: term)
    (h : Ended term (applied.foldl (fun line rule => rule.rewrite table line) line)) :
    (∀ rule ∈ applied, ¬ (rule.pattern table).Occurs line) ∨ Resumes term line := by
  induction applied generalizing line with
  | nil => simp
  | cons rule applied ih =>
      obtain ⟨other, hrule⟩ := happlied rule List.mem_cons_self
      have hrest : AreRules table applied := fun r hr => happlied r (List.mem_cons_of_mem _ hr)
      obtain hnone | hresumes := ih hrest h
      · rw [List.foldl_cons, foldl_rewrite_of_not_occurs hrest hnone] at h
        obtain ⟨hoccurs, hsame⟩ | hresumes := h.back hrule hdescription
        · left
          have hnone : ∀ rule' ∈ applied,
              ¬ (rule'.pattern table).Occurs (rule.rewrite table line) := hnone
          rw [hsame] at hnone
          exact List.forall_mem_cons.mpr ⟨hoccurs, hnone⟩
        · exact .inr hresumes
      · exact .inr (hresumes.back hrule hdescription)

end Applied

section NameRule

/-- One blank will do. -/
theorem mem_run_blanks (passed rest : PyString) (group : Option PyString) :
    ⟨' ' :: passed, rest, group⟩ ∈ blanks.run ⟨passed, ' ' :: rest, group⟩ := by
  rw [blanks, plus, mem_run_seq]
  have hfirst : ⟨' ' :: passed, rest, group⟩ ∈ blank.run ⟨passed, ' ' :: rest, group⟩ :=
    mem_run_char.mpr ⟨' ', rest, rfl, by simp, rfl⟩
  exact ⟨_, hfirst, self_mem_run_star⟩

theorem mem_run_word (table : CharTable) (text : String) (passed rest : PyString)
    (group : Option PyString) :
    ⟨text.toList.reverse ++ passed, rest, group⟩ ∈
      (word table text).run ⟨passed, text.toList ++ rest, group⟩ :=
  mem_run_literal (fun _ => table.same_self) text.toList passed rest group

/-- What may follow a name where the rule is to match. -/
def EndsName (ending : PyString) : Prop :=
  ending = [] ∨ ending = ['\n'] ∨ ∃ closer ∈ closers, ∃ rest, ending = closer :: rest

theorem mem_run_name (hending : EndsName ending) (passed : PyString) (group : Option PyString) :
    ⟨term.reverse ++ passed, ending, group⟩ ∈
      (name table term).run ⟨passed, term ++ ending, group⟩ := by
  have hterm := mem_run_literal (fun _ => table.same_self) term passed ending group
  have hend : (⟨term.reverse ++ passed, ending, group⟩ : Cursor) ∈
      (Regex.negativeLookahead (.char fun c => table.isWord c || c == '-')).run
        ⟨term.reverse ++ passed, ending, group⟩ := by
    refine mem_run_negativeLookahead.mpr ⟨rfl, ?_⟩
    obtain rfl | rfl | ⟨closer, hcloser, rest, rfl⟩ := hending
    · rfl
    · rfl
    · have h : closer = '.' ∨ closer = '!' ∨ closer = '?' ∨ closer = ';' ∨ closer = ',' := by
        simpa [closers] using hcloser
      obtain rfl | rfl | rfl | rfl | rfl := h <;> rfl
  exact mem_run_seq.mpr ⟨_, hterm, mem_run_seq.mpr ⟨_, mem_run_opt.mpr (.inr rfl), hend⟩⟩

theorem mem_run_identityEnd (hending : EndsName ending) (passed : PyString)
    (group : Option PyString) : ⟨passed, ending, group⟩ ∈
      (identityEnd table).run ⟨passed, ending, group⟩ := by
  have hmatch : ∃ c', c' ∈ (Regex.seq (.star blank) (alts [oneOf ['.', '!', '?', ';', ','],
      seqs [word table "and", blanks, word table "I", .boundary table.isWord],
      seqs [bold, .star blank, .finish]])).run ⟨passed, ending, group⟩ := by
    have hfinish (h : ending = [] ∨ ending = ['\n']) : ⟨passed, ending, group⟩ ∈
        (seqs [bold, .star blank, .finish]).run ⟨passed, ending, group⟩ :=
      mem_run_seq.mpr ⟨_, mem_run_opt.mpr (.inr rfl),
        mem_run_seq.mpr ⟨_, self_mem_run_star, mem_run_finish.mpr ⟨rfl, h⟩⟩⟩
    obtain h | h | ⟨closer, hcloser, rest, rfl⟩ := hending
    · exact ⟨_, mem_run_seq.mpr ⟨_, self_mem_run_star,
        mem_run_alt.mpr (.inr (mem_run_alt.mpr (.inr (hfinish (.inl h)))))⟩⟩
    · exact ⟨_, mem_run_seq.mpr ⟨_, self_mem_run_star,
        mem_run_alt.mpr (.inr (mem_run_alt.mpr (.inr (hfinish (.inr h)))))⟩⟩
    · have hfirst : ⟨closer :: passed, rest, group⟩ ∈
          (oneOf ['.', '!', '?', ';', ',']).run ⟨passed, closer :: rest, group⟩ :=
        mem_run_char.mpr ⟨closer, rest, rfl, decide_eq_true hcloser, rfl⟩
      exact ⟨_, mem_run_seq.mpr ⟨_, self_mem_run_star, mem_run_alt.mpr (.inl hfirst)⟩⟩
  obtain ⟨c', hc'⟩ := hmatch
  apply mem_run_lookahead_self
  · exact List.ne_nil_of_mem hc'
  · exact fun m hm => group_of_groupless rfl hm

theorem mem_run_leadIn (table : CharTable) {indent : ℕ} (hindent : indent ≤ 3) (rest : PyString) :
    ⟨List.replicate indent ' ' ++ [], rest, none⟩ ∈
      (leadIn table).run (.start (List.replicate indent ' ' ++ rest)) := by
  have hindented := mem_run_upTo hindent ' ' [] rest none
  have hlayout : ⟨List.replicate indent ' ' ++ [], rest, none⟩ ∈
      (seqs [.start, upTo (exactly ' ') 3, opt (listMarker table)]).run
        (.start (List.replicate indent ' ' ++ rest)) :=
    mem_run_seq.mpr ⟨_, mem_run_start.mpr ⟨rfl, rfl⟩,
      mem_run_seq.mpr ⟨_, hindented, mem_run_opt.mpr (.inr rfl)⟩⟩
  have hskip : ⟨List.replicate indent ' ' ++ [], rest, none⟩ ∈
      (seqs [opt (greeting table), bold]).run ⟨List.replicate indent ' ' ++ [], rest, none⟩ :=
    mem_run_seq.mpr ⟨_, mem_run_opt.mpr (.inr rfl), mem_run_opt.mpr (.inr rfl)⟩
  exact mem_run_seq.mpr ⟨_, mem_run_alt.mpr (.inl hlayout), hskip⟩

theorem mem_run_nameBody (table : CharTable) {words : PyString} (hwords : words ∈ openings)
    (hending : EndsName ending) (passed : PyString) (group : Option PyString) :
    ∃ c, c ∈ (nameRule table term).body.run ⟨passed, words ++ (term ++ ending), group⟩ := by
  have hname (passed : PyString) : ∃ c, c ∈ (seqs [blanks, name table term,
      identityEnd table]).run ⟨passed, ' ' :: (term ++ ending), group⟩ :=
    ⟨_, mem_run_seq.mpr ⟨_, mem_run_blanks passed (term ++ ending) group,
      mem_run_seq.mpr ⟨_, mem_run_name hending (' ' :: passed) group,
        mem_run_identityEnd hending (term.reverse ++ ' ' :: passed) group⟩⟩⟩
  have hwords : words = "I am ".toList ∨ words = "I'm ".toList ∨ words = "My name is ".toList := by
    simpa [openings] using hwords
  have hmatch {introduced passed : PyString} (h : ⟨introduced, ' ' :: (term ++ ending), group⟩ ∈
      (alts [seqs [word table "I", blanks, word table "am"], word table "I'm", word table "I’m",
        seqs [word table "My", blanks, word table "name", blanks, word table "is"]]).run
        ⟨passed, words ++ (term ++ ending), group⟩) :
      ∃ c, c ∈ (nameRule table term).body.run ⟨passed, words ++ (term ++ ending), group⟩ := by
    obtain ⟨c, hc⟩ := hname introduced
    exact ⟨c, mem_run_seq.mpr ⟨_, h, hc⟩⟩
  obtain rfl | rfl | rfl := hwords
  · have hI : ⟨'I' :: passed, ' ' :: ("am ".toList ++ (term ++ ending)), group⟩ ∈
        (word table "I").run ⟨passed, "I am ".toList ++ (term ++ ending), group⟩ :=
      mem_run_word table "I" passed _ group
    have ham := mem_run_word table "am" (' ' :: 'I' :: passed)
      (' ' :: (term ++ ending)) group
    exact hmatch (mem_run_alt.mpr (.inl (mem_run_seq.mpr ⟨_, hI,
      mem_run_seq.mpr ⟨_, mem_run_blanks _ _ group, ham⟩⟩)))
  · have hIm := mem_run_word table "I'm" passed (' ' :: (term ++ ending)) group
    exact hmatch (mem_run_alt.mpr (.inr (mem_run_alt.mpr (.inl hIm))))
  · have hMy : ⟨"My".toList.reverse ++ passed, ' ' :: ("name is ".toList ++ (term ++ ending)),
        group⟩ ∈ (word table "My").run
          ⟨passed, "My name is ".toList ++ (term ++ ending), group⟩ :=
      mem_run_word table "My" passed _ group
    have hname : ⟨"name".toList.reverse ++ ' ' :: ("My".toList.reverse ++ passed),
        ' ' :: ("is ".toList ++ (term ++ ending)), group⟩ ∈ (word table "name").run
          ⟨' ' :: ("My".toList.reverse ++ passed), "name is ".toList ++ (term ++ ending), group⟩ :=
      mem_run_word table "name" _ _ group
    have his := mem_run_word table "is"
      (' ' :: ("name".toList.reverse ++ ' ' :: ("My".toList.reverse ++ passed)))
      (' ' :: (term ++ ending)) group
    exact hmatch (mem_run_alt.mpr (.inr (mem_run_alt.mpr (.inr (mem_run_alt.mpr (.inr
      (mem_run_seq.mpr ⟨_, hMy, mem_run_seq.mpr ⟨_, mem_run_blanks _ _ group,
        mem_run_seq.mpr ⟨_, hname, mem_run_seq.mpr ⟨_, mem_run_blanks _ _ group, his⟩⟩⟩⟩)))))))

/-- The rule for the term matches where a line begins with an introduction by it. -/
theorem nameRule_matches (table : CharTable) (term : PyString)
    (hopening : IsOpening opening) (hending : EndsName ending) :
    ∃ c, c ∈ ((nameRule table term).pattern table).run
      (.start (opening ++ (term ++ ending))) := by
  obtain ⟨indent, hindent, words, hwords, rfl⟩ := hopening
  rw [List.append_assoc]
  have hlead := mem_run_leadIn table hindent (words ++ (term ++ ending))
  have hgroup := mem_run_group.mpr ⟨_, hlead, rfl⟩
  obtain ⟨c, hc⟩ := mem_run_nameBody table hwords hending _ _
  exact ⟨c, mem_run_seq.mpr ⟨_, hgroup, hc⟩⟩

end NameRule

/-- Once the rule for the term has matched at the beginning of a line, the line does not
introduce the speaker by the term. -/
theorem not_punctuated_of_nameRule (hdescription : ¬ description <+: term)
    (h : Punctuated term line) :
    ¬ Punctuated term ((nameRule table term).rewrite table line) := by
  intro hrewritten
  have hrule : nameRule table term ∈ rules table term := mem_rules_iff.mpr (.inr (.inl rfl))
  obtain ⟨opening, closer, rest, hopening, hcloser, hline⟩ := h
  obtain ⟨c, hc⟩ := nameRule_matches table term hopening
    (.inr (.inr ⟨closer, hcloser, rest, rfl⟩))
  rw [← List.append_assoc, ← hline] at hc
  obtain ⟨c', tail, hc', hsub⟩ :=
    sub_of_start (· ++ (nameRule table term).phrase) (consumes_pattern hrule) hc
  have hstart : c' ∈ ((nameRule table term).pattern table).run
      ⟨List.reverse [], line, none⟩ := hc'
  obtain ⟨lead, after, hgroup, hlead⟩ := ledIn_of_match hrule hstart
  obtain ⟨opening', closer', rest', hopening', hcloser', hline'⟩ := hrewritten
  have hsame : lead ++ ((nameRule table term).phrase ++ tail) =
      opening' ++ term ++ closer' :: rest' := by
    rw [← hline', Rule.rewrite, hsub, hgroup]
    simp
  have hstop : ∀ c ∈ (closer' :: rest').head?, IsStop c := by
    simpa using isStop_of_closer hcloser'
  exact hdescription (description_of_start hrule hopening' hstop hlead hsame)

theorem areRules_allRules (table : CharTable) (gateway : ResponseGateway) :
    AreRules table (gateway.allRules table) := by
  intro rule hrule
  obtain ⟨term, -, hrule⟩ := mem_allRules_iff.mp hrule
  exact ⟨term, hrule⟩

/-- Where no rule matches, the line is kept. -/
theorem scrub_of_not_recognised (h : ¬ Recognised table gateway line) :
    gateway.scrub table line = line := by
  apply foldl_rewrite_of_not_occurs (areRules_allRules table gateway)
  exact fun rule hrule hoccurs => h ⟨rule, hrule, hoccurs⟩

/-- An introduction by a term of the gateway that no rule recognises ends in another way than
the rule for the term allows. -/
theorem overlooked_of_not_recognised (hterm : term ∈ gateway.identityTerms)
    (h : Introduces term line) (hnot : ¬ Recognised table gateway line) :
    Overlooked table gateway term line := by
  have hrule : nameRule table term ∈ gateway.allRules table :=
    mem_allRules_iff.mpr ⟨term, hterm, mem_rules_iff.mpr (.inr (.inl rfl))⟩
  have hmatches {opening ending : PyString} (hopening : IsOpening opening)
      (hline : line = opening ++ term ++ ending) : ¬ EndsName ending := by
    intro hending
    obtain ⟨c, hc⟩ := nameRule_matches table term hopening hending
    rw [← List.append_assoc, ← hline] at hc
    exact hnot ⟨_, hrule, [], line, c, rfl, hc⟩
  obtain ⟨opening, ending, hopening, hline, hending⟩ | ⟨opening, closer, rest, hopening, hcloser,
    hline⟩ := h
  · have hnotEnds := hmatches hopening hline
    refine ⟨⟨opening, ending, hopening, hline, ?_, ?_⟩, hnot⟩
    · obtain hnil | hending := hending
      · exact absurd (.inl hnil) hnotEnds
      · exact hending
    · exact fun hlf => hnotEnds (.inr (.inl hlf))
  · exact absurd (.inr (.inr ⟨closer, hcloser, rest, rfl⟩)) (hmatches hopening hline)

/-- What survives the gateway was overlooked, or the term resumes in the line. -/
theorem introduces_scrub (hterm : term ∈ gateway.identityTerms)
    (hdescription : ¬ description <+: term) (h : Introduces term (gateway.scrub table line)) :
    Overlooked table gateway term line ∨ Resumes term line ∧ Recognised table gateway line := by
  by_cases hnot : Recognised table gateway line
  · right
    refine ⟨?_, hnot⟩
    obtain hended | hpunctuated := h
    · obtain hnone | hresumes := hended.back_all (areRules_allRules table gateway) hdescription
      · obtain ⟨rule, hrule, hoccurs⟩ := hnot
        exact absurd hoccurs (hnone rule hrule)
      · exact hresumes
    · -- the rule for the term comes somewhere among the rules, and removes the introduction
      have hrule : nameRule table term ∈ gateway.allRules table :=
        mem_allRules_iff.mpr ⟨term, hterm, mem_rules_iff.mpr (.inr (.inl rfl))⟩
      obtain ⟨front, back, hrules⟩ := List.append_of_mem hrule
      have hall := areRules_allRules table gateway
      rw [hrules] at hall
      have hfront : AreRules table front := fun r hr => hall r (List.mem_append_left _ hr)
      have hback : AreRules table back := fun r hr =>
        hall r (List.mem_append_right front (List.mem_cons_of_mem _ hr))
      have hname : nameRule table term ∈ rules table term := mem_rules_iff.mpr (.inr (.inl rfl))
      rw [scrub, hrules, List.foldl_append, List.foldl_cons] at hpunctuated
      apply Resumes.back_all hfront hdescription
      obtain hbefore | hresumes := hpunctuated.back_all hback hdescription
      · obtain hbefore' | hresumes := hbefore.back hname hdescription
        · exact absurd hbefore (not_punctuated_of_nameRule hdescription hbefore')
        · exact hresumes
      · exact hresumes.back hname hdescription
  · left
    rw [scrub_of_not_recognised hnot] at h
    exact overlooked_of_not_recognised hterm h hnot

/-- What the gateway leaks. A plain self-introduction by a term gets through exactly where
it was overlooked, apart from lines in which a term that itself speaks of an AI assistant is put
together by the gateway. -/
theorem self_introductions_scrubbed (table : CharTable) {identityTerms : List PyString}
    (hsingle : ∀ term ∈ identityTerms, Unbroken term) (hterm : term ∈ identityTerms)
    (hne : term ≠ []) (hdescription : ¬ description <+: term) (response : PyString) :
    (Leaks term ((init identityTerms).process table response) →
      ∃ line ∈ proseLines none (splitlines response),
        Overlooked table (init identityTerms) term line ∨
          Resumes term line ∧ Recognised table (init identityTerms) line) ∧
    ((∃ line ∈ proseLines none (splitlines response),
        Overlooked table (init identityTerms) term line) →
      Leaks term ((init identityTerms).process table response)) := by
  have hmem : term ∈ (init identityTerms).identityTerms := by
    simp [init, hterm, hne]
  have hsingle' : (init identityTerms).SingleLine := fun t ht =>
    hsingle t (List.mem_of_mem_filter ht)
  have hprose := @proseLines_process table _ hsingle' response
  constructor
  · intro h
    obtain ⟨line', hline', hintroduces⟩ := h
    rw [hprose] at hline'
    obtain ⟨line, hline, rfl⟩ := List.mem_map.mp hline'
    exact ⟨line, hline, introduces_scrub hmem hdescription hintroduces⟩
  · intro h
    obtain ⟨line, hline, hoverlooked⟩ := h
    have hkept := scrub_of_not_recognised hoverlooked.2
    obtain ⟨opening, ending, hopening, hsplit, hending, -⟩ := hoverlooked.1
    refine ⟨line, ?_, .inl ⟨opening, ending, hopening, hsplit, .inr hending⟩⟩
    rw [hprose]
    exact List.mem_map.mpr ⟨line, hline, hkept⟩

/-- The characters of ASCII alone. -/
def asciiTable : CharTable where
  isAlnum _ := false
  isDecimal _ := false
  sameLetter _ _ := false

/-- Where the gateway's phrase completes another term, that one is left in the line. -/
example : (init ["Bob. I am an AI assistant".toList, "Gemini".toList]).process asciiTable
    "I am Bob. I am Gemini.".toList = "I am Bob. I am an AI assistant.".toList := by
  decide +kernel

theorem leaks_of_crlf : Leaks "Gemini".toList
    ((init ["Gemini".toList]).process asciiTable "I am Gemini\r\n".toList) := by
  have hprocess : (init ["Gemini".toList]).process asciiTable "I am Gemini\r\n".toList =
      "I am Gemini\r\n".toList := by
    decide +kernel
  rw [hprocess]
  have hprose : proseLines none (splitlines "I am Gemini\r\n".toList) =
      ["I am Gemini\r\n".toList] := by
    decide +kernel
  have hended : Ended "Gemini".toList "I am Gemini\r\n".toList :=
    ⟨"I am ".toList, "\r\n".toList, ⟨0, by decide, "I am ".toList, by simp [openings], rfl⟩,
      rfl, .inr (.inl rfl)⟩
  rw [Leaks, hprose]
  exact ⟨_, List.mem_singleton_self _, .inl hended⟩

/-- The self-introduction is left in the response when its line ends with CR LF. -/
theorem crlf_introduction_kept : Unbroken "Gemini".toList ∧
    ¬ description.map Char.toLower <+: "Gemini".toList.map Char.toLower ∧
    Leaks "Gemini".toList
      ((init ["Gemini".toList]).process asciiTable "I am Gemini\r\n".toList) :=
  ⟨unbroken_of_all rfl, by decide, leaks_of_crlf⟩

theorem self_introductions_scrubbed_gemini :
    ∃ line ∈ proseLines none (splitlines "I am Gemini\r\n".toList),
      Overlooked asciiTable (init ["Gemini".toList]) "Gemini".toList line ∨
        Resumes "Gemini".toList line ∧ Recognised asciiTable (init ["Gemini".toList]) line := by
  have hsingle : ∀ term ∈ ["Gemini".toList], Unbroken term := by
    intro term hterm
    rw [List.mem_singleton.mp hterm]
    exact unbroken_of_all rfl
  have hne : "Gemini".toList ≠ [] := by decide
  have hdescription : ¬ description <+: "Gemini".toList := by decide
  exact (self_introductions_scrubbed asciiTable hsingle (List.mem_singleton_self _) hne
    hdescription "I am Gemini\r\n".toList).1 leaks_of_crlf

end ResponseGateway

end LLMRouting
