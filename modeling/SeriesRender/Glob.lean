import SeriesRender.Regex.Parser

/-!
# Path patterns

In a path pattern `*` is any run of characters within one segment of a dotted path, `?` is one
such character, `[..]` is a class of characters, `[!..]` its complement, and `{a,b}` is a choice
between patterns. Everything else stands for itself.

`regexText` writes a pattern as a regular expression that matches whole paths only, and `compile`
makes a matcher of it.
-/

namespace SeriesRender

/-- Why a path pattern cannot be used. -/
inductive GlobError
  | unterminatedClass
  | unterminatedChoice
  | regex (error : Regex.PatternError)
  deriving DecidableEq, Repr

/-- What is said about a pattern that cannot be compiled. -/
def GlobError.message : GlobError → String
  | unterminatedClass => "unterminated character class"
  | unterminatedChoice => "unterminated alternation"
  | regex e => e.message

namespace Glob

/-- The characters with a meaning of their own in a regular expression. -/
def isMeta (c : Char) : Bool :=
  c ∈ ['\\', '.', '+', '*', '?', '(', ')', '|', '[', ']', '{', '}', '^', '$', '#', '&', '-', '~']

/-- A character that stands for itself. -/
def literal (c : Char) : List Char :=
  if isMeta c then ['\\', c] else [c]

/-- A character of a class. -/
def member (c : Char) : List Char :=
  if c = '\\' ∨ c = '[' then ['\\', c] else [c]

/-- Put text in front of a regular expression. -/
def before (text : List Char) (rest : Except GlobError (List Char)) :
    Except GlobError (List Char) :=
  rest.map (text ++ ·)

/-- The regular expression for the rest of a pattern, `depth` choices being open; `inClass` says
that a class is open too. -/
def regexTextFrom (inClass : Bool) (depth : Nat) : List Char → Except GlobError (List Char)
  | [] =>
    if inClass then .error .unterminatedClass
    else if depth = 0 then .ok []
    else .error .unterminatedChoice
  | c :: cs =>
    if inClass then
      if c = ']' then before [']'] (regexTextFrom false depth cs)
      else before (member c) (regexTextFrom true depth cs)
    else if c = '*' then before ['[', '^', '.', ']', '*'] (regexTextFrom false depth cs)
    else if c = '?' then before ['[', '^', '.', ']'] (regexTextFrom false depth cs)
    else if c = '[' then
      match cs with
      | '!' :: cs => before ['[', '^'] (regexTextFrom true depth cs)
      | cs => before ['['] (regexTextFrom true depth cs)
    else if c = '{' then before ['(', '?', ':'] (regexTextFrom false (depth + 1) cs)
    else if c = '}' ∧ 0 < depth then before [')'] (regexTextFrom false (depth - 1) cs)
    else if c = ',' ∧ 0 < depth then before ['|'] (regexTextFrom false depth cs)
    else before (literal c) (regexTextFrom false depth cs)

/-- The regular expression for a pattern. -/
def regexText (pattern : List Char) : Except GlobError (List Char) :=
  (regexTextFrom false 0 pattern).map fun body => '^' :: (body ++ ['$'])

/-- The matcher for a pattern. -/
def compile (pattern : List Char) : Except GlobError Regex :=
  (regexText pattern).bind fun text => (Regex.ofText text).mapError .regex

end Glob

end SeriesRender
