/-
# The response gateway

Deterministic response normalization at the client boundary: where a model introduces itself
by one of the identity terms, the introduction is rewritten. Fenced and indented code is left
alone, so the gateway goes over a response line by line and tracks the fences.
-/

import LLMRouting.Data.PyString
import LLMRouting.Data.SortedBy
import LLMRouting.Text.Characters
import LLMRouting.Text.Regex

namespace LLMRouting

open Data (PyString sortedBy)
open Text
open Text.Regex

namespace ResponseGateway

/-- `[ \t]` -/
def blank : Regex := oneOf [' ', '\t']

/-- `[ \t]+` -/
def blanks : Regex := plus blank

/-- One character, which has no case. -/
def exactly (c : Char) : Regex := oneOf [c]

/-- `(?:\*\*|__)?` -/
def bold : Regex :=
  opt (alt (.seq (exactly '*') (exactly '*')) (.seq (exactly '_') (exactly '_')))

section Patterns

variable (table : CharTable)

/-- A piece of text under `re.IGNORECASE`. -/
def word (text : String) : Regex := literal table.same text.toList

/-- `\d+` -/
def digits : Regex := plus (.char table.isDigit)

/-- `(?:[-*+] |\d+[.)] |#{1,6} )` -/
def listMarker : Regex :=
  alts [seqs [oneOf ['-', '*', '+'], exactly ' '],
    seqs [digits table, oneOf ['.', ')'], exactly ' '],
    seqs [exactly '#', upTo (exactly '#') 5, exactly ' ']]

/-- `(?:Hello|Hi|Hey)[,!]?[ \t]+` -/
def greeting : Regex :=
  seqs [alts [word table "Hello", word table "Hi", word table "Hey"], opt (oneOf [',', '!']),
    blanks]

/-- What may stand before a self-introduction: the beginning of the line with its layout, or
the end of a sentence. -/
def leadIn : Regex :=
  seqs [alt (seqs [.start, upTo (exactly ' ') 3, opt (listMarker table)])
      (.seq (.lookbehind fun c => c ∈ ['.', '!', '?']) blanks),
    opt (greeting table), bold]

/-- The lead-in is kept as group 1. -/
def introduction : Regex := .group (leadIn table)

/-- What must follow the name. -/
def identityEnd : Regex :=
  .lookahead (.seq (.star blank) (alts [oneOf ['.', '!', '?', ';', ','],
    seqs [word table "and", blanks, word table "I", .boundary table.isWord],
    seqs [bold, .star blank, .finish]]))

/-- `an?[ \t]+(?:AI(?:[ \t]+(?:assistant|model))?|(?:large[ \t]+)?language[ \t]+model|assistant)` -/
def assistantDescription : Regex :=
  seqs [word table "a", opt (word table "n"), blanks,
    alts [seqs [word table "AI",
        opt (seqs [blanks, alt (word table "assistant") (word table "model")])],
      seqs [opt (seqs [word table "large", blanks]), word table "language", blanks,
        word table "model"],
      word table "assistant"]]

/-- `(?:trained|developed|created)[ \t]+by[ \t]+` -/
def origin : Regex :=
  seqs [alts [word table "trained", word table "developed", word table "created"], blanks,
    word table "by", blanks]

/-- A term with an optional version, as a whole name. -/
def name (term : PyString) : Regex :=
  seqs [literal table.same term,
    opt (seqs [word table "-V", digits table, .star (.seq (exactly '.') (digits table))]),
    .negativeLookahead (.char fun c => table.isWord c || c == '-')]

/-- A substitution that keeps group 1, the introduction, and puts a phrase after it. -/
structure Rule where
  body : Regex
  phrase : PyString

/-- The pattern the rule looks for. -/
def Rule.pattern (rule : Rule) : Regex := .seq (introduction table) rule.body

/-- `re.sub(pattern, r"\1" + phrase, line, flags=re.IGNORECASE)` -/
def Rule.rewrite (rule : Rule) (line : PyString) : PyString :=
  (rule.pattern table).sub (· ++ rule.phrase) line

/-- `I was trained by ...` -/
def originRule (term : PyString) : Rule where
  body := seqs [word table "I",
    alt (seqs [blanks, alt (word table "am") (word table "was")])
      (.seq (oneOf ['\x27', '\u2019']) (word table "m")),
    blanks, opt (.seq (assistantDescription table) blanks), origin table, name table term,
    identityEnd table]
  phrase := "I am an AI assistant".toList

/-- `I am ...` -/
def nameRule (term : PyString) : Rule where
  body := seqs [
    alts [seqs [word table "I", blanks, word table "am"], word table "I'm", word table "I’m",
      seqs [word table "My", blanks, word table "name", blanks, word table "is"]],
    blanks, name table term, identityEnd table]
  phrase := "I am an AI assistant".toList

/-- `As ..., I can` -/
def roleRule (term : PyString) : Rule where
  body := seqs [word table "As", blanks,
    opt (seqs [assistantDescription table, blanks, origin table]), name table term,
    exactly ',',
    .lookahead (.seq blanks (alts [seqs [word table "I", .boundary table.isWord],
      seqs [word table "my", .boundary table.isWord]]))]
  phrase := "As an AI assistant,".toList

/-- The rules for one term, in the order they are applied. -/
def rules (term : PyString) : List Rule :=
  [originRule table term, nameRule table term, roleRule table term]

end Patterns

/-- The fence a line opens: group 1 of `^ {0,3}(\x60{3,}|~{3,})`. -/
def fenceMarker (line : PyString) : Option PyString :=
  (matchStart (seqs [.start, upTo (exactly ' ') 3,
    .group (alt (atLeast (exactly '\x60') 3) (atLeast (exactly '~') 3))]) line).bind
    Cursor.group

/-- `re.fullmatch(rf" {{0,3}}{re.escape(fence[0])}{{{len(fence)},}}[ \t]*\r?\n?", line)` -/
def closesFence (fence line : PyString) : Bool :=
  match fence with
  | [] => false
  | c :: _ => fullmatch (seqs [upTo (exactly ' ') 3, atLeast (exactly c) fence.length,
      .star blank, opt (exactly '\r'), opt (exactly '\n')]) line

/-- `line.startswith(("    ", "\t"))` -/
def isIndented (line : PyString) : Bool :=
  "    ".toList.isPrefixOf line || "\t".toList.isPrefixOf line

end ResponseGateway

/-- A gateway for a list of identity terms, none of them empty. -/
structure ResponseGateway where
  identityTerms : List PyString
  nonempty : [] ∉ identityTerms

namespace ResponseGateway

/-- `ResponseGateway(identity_terms)` -/
def init (identityTerms : List PyString) : ResponseGateway where
  identityTerms := identityTerms.filter fun term => !term.isEmpty
  nonempty := by simp

variable (table : CharTable) (gateway : ResponseGateway)

/-- The longest terms first. -/
def sortedTerms : List PyString :=
  sortedBy (fun term => OrderDual.toDual term.length) gateway.identityTerms

/-- All rules of the gateway, in the order they are applied to a line. -/
def allRules : List Rule := gateway.sortedTerms.flatMap (rules table)

/-- A line of text outside code. -/
def scrub (line : PyString) : PyString :=
  (gateway.allRules table).foldl (fun line rule => rule.rewrite table line) line

/-- The lines from here on, `fence` being the fence that is open. -/
def processLines : Option PyString → List PyString → List PyString
  | _, [] => []
  | some fence, line :: lines =>
      line :: processLines (if closesFence fence line then none else some fence) lines
  | none, line :: lines =>
      match fenceMarker line with
      | some fence => line :: processLines (some fence) lines
      | none =>
          (if isIndented line then line else gateway.scrub table line) :: processLines none lines

/-- `process` -/
def process (response : PyString) : PyString :=
  (gateway.processLines table none (splitlines response)).flatten

end ResponseGateway

end LLMRouting
