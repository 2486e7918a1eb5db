import SeriesRender.Regex.CharClass

/-!
# Patterns

A regular expression as a tree. Besides classes of characters it holds assertions about the
place between two characters (`Look`), numbered groups, whose text a match remembers, and
repetitions, which prefer more copies or, if not greedy, fewer.
-/

namespace SeriesRender.Regex

/-- The characters before and after a place in a text. -/
structure Around where
  before : Option Char
  after : Option Char

/-- An assertion about a place. With `crlf` a carriage return ends a line too, but a carriage
return and the line feed after it are never parted. -/
inductive Look
  | textStart
  | textEnd
  | lineStart (crlf : Bool)
  | lineEnd (crlf : Bool)
  | wordStart (ascii : Bool)
  | wordEnd (ascii : Bool)
  | wordStartHalf (ascii : Bool)
  | wordEndHalf (ascii : Bool)
  | boundary (ascii : Bool)
  | noBoundary (ascii : Bool)
  deriving DecidableEq, Repr

/-- Whether there is a word character on one side of a place. -/
def isWordAt (ascii : Bool) : Option Char → Bool
  | none => false
  | some c => if ascii then c.isAlphanum || c = '_' else isWord c

/-- Whether an assertion holds between two characters. -/
def Look.holds (a : Around) : Look → Bool
  | textStart => a.before.isNone
  | textEnd => a.after.isNone
  | lineStart false => a.before.isNone || a.before = some '\n'
  | lineStart true =>
    a.before.isNone || a.before = some '\n' || (a.before = some '\r' && a.after ≠ some '\n')
  | lineEnd false => a.after.isNone || a.after = some '\n'
  | lineEnd true =>
    a.after.isNone || a.after = some '\r' || (a.after = some '\n' && a.before ≠ some '\r')
  | wordStart ascii => !isWordAt ascii a.before && isWordAt ascii a.after
  | wordEnd ascii => isWordAt ascii a.before && !isWordAt ascii a.after
  | wordStartHalf ascii => !isWordAt ascii a.before
  | wordEndHalf ascii => !isWordAt ascii a.after
  | boundary ascii => isWordAt ascii a.before != isWordAt ascii a.after
  | noBoundary ascii => isWordAt ascii a.before == isWordAt ascii a.after

/-- Parsed patterns. Group 0 is not written, but is the whole match. -/
inductive Pattern
  | empty
  | set (s : CharClass)
  | look (l : Look)
  | cat (a b : Pattern)
  | alt (a b : Pattern)
  | group (index : Nat) (a : Pattern)
  | rep (greedy : Bool) (least : Nat) (most : Option Nat) (a : Pattern)
  deriving DecidableEq, Repr

/-- What is wrong with the text of a pattern. -/
inductive PatternError
  | malformed
  | tooLarge
  deriving DecidableEq, Repr

/-- The most memory, in bytes, that a compiled pattern may take. -/
def sizeLimit : Nat := 10485760

/-- What is said about a pattern that is refused. -/
def PatternError.message : PatternError → String
  | malformed => "regex parse error:"
  | tooLarge => "Compiled regex exceeds size limit of " ++ toString sizeLimit ++ " bytes."

namespace Pattern

/-- About how many states an automaton for the pattern has : one for each byte of a character
and each branch, with a flat charge for classes beyond ASCII. -/
def states : Pattern → Nat
  | empty => 1
  | set (.range _ low high) => if low = high then low.utf8Size else if high.toNat < 128 then 1 else 12
  | set .word => 400
  | set .letter => 400
  | set .digit => 60
  | set _ => 12
  | look _ => 1
  | cat a b => a.states + b.states
  | alt a b => a.states + b.states + 2
  | group _ a => a.states + 2
  | rep _ least none a => (max least 1) * a.states + 2
  | rep _ least (some most) a => max least most * (a.states + 1) + 1

/-- The bytes an automaton state takes. -/
def stateSize : Nat := 32

/-- Whether the pattern would be compiled to more than there is room for. -/
def isTooLarge (p : Pattern) : Bool :=
  sizeLimit < p.states * stateSize

end Pattern

end SeriesRender.Regex
