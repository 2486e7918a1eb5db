/-!
# Tokens and syntax errors

A target is a sequence of tokens, each with the byte offset of its first character. A
`SyntaxError` is a `Fault` at such an offset; `Fault.message` has the wording of all of them.
-/

namespace SeriesRender.Target

/-- What a token is. Whether a word names a function, a path pattern, a number or a truth value
is for the parser to say. -/
inductive Symbol
  | word (text : String)
  | quoted (value : String) (quote : Char)
  | openParen
  | closeParen
  | comma
  deriving DecidableEq, Repr

/-- A symbol and the byte offset of its first character. -/
structure Token where
  symbol : Symbol
  position : Nat
  deriving DecidableEq, Repr

/-- The tokens of a text, and the offset of its end. -/
structure Tokens where
  list : List Token
  stop : Nat
  deriving DecidableEq, Repr

/-- How a message names a symbol. -/
def Symbol.describe : Symbol → String
  | .word w => "'" ++ w ++ "'"
  | .quoted v _ => "string \"" ++ v ++ "\""
  | .openParen => "'('"
  | .closeParen => "')'"
  | .comma => "','"

/-- How a message names the end of a text. -/
def Tokens.describeStop : String :=
  "end of input"

/-- What can be wrong with a target. -/
inductive Fault
  | unterminatedString
  | unbalanced (bracket : Char)
  | emptyExpression
  | emptyArgument
  | unexpectedParen
  | missingParen
  | invalidFunctionName (word : String)
  | tooDeep (limit : Nat)
  | expectedSeparator (found : Symbol)
  | trailing (found : Symbol)
  deriving DecidableEq, Repr

/-- What is said about a fault. -/
def Fault.message : Fault → String
  | .unterminatedString => "unterminated string"
  | .unbalanced c => "unbalanced '" ++ c.toString ++ "'"
  | .emptyExpression => "empty expression"
  | .emptyArgument => "empty argument"
  | .unexpectedParen => "unexpected '('"
  | .missingParen => "missing ')'"
  | .invalidFunctionName w => "invalid function name '" ++ w ++ "'"
  | .tooDeep limit => "expression nested too deeply (limit " ++ toString limit ++ ")"
  | .expectedSeparator s => "expected ',' or ')', found " ++ s.describe
  | .trailing s => "unexpected " ++ s.describe ++ " after expression"

/-- A fault at a byte offset of the target. -/
structure SyntaxError where
  position : Nat
  fault : Fault
  deriving DecidableEq, Repr

/-- A target that could not be read. -/
structure ParseError where
  target : String
  error : SyntaxError
  deriving DecidableEq, Repr

/-- The whole text about a target that cannot be parsed. -/
def ParseError.message (e : ParseError) : String :=
  "could not parse target: " ++ e.target ++ " (" ++ e.error.fault.message ++ " at position " ++
    toString e.error.position ++ ")"

end SeriesRender.Target
