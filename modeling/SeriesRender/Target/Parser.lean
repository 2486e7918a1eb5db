import SeriesRender.Decimal.Reading
import SeriesRender.Target.Expr
import SeriesRender.Target.Lexer

/-!
# From tokens to expressions

The parser reads the tokens once, from left to right, with a stack of the calls that are open.
It expects an operand (a word, a string or the start of a call) or has just read one
(`State`); a word right before an opening parenthesis starts a call. The depth of the stack is
the nesting that the limit bounds.
-/

namespace SeriesRender.Target

/-! ## Words -/

/-- Characters that the name of a function can start with. -/
def isIdentifierStart (c : Char) : Bool :=
  c.isAlpha || c = '_'

/-- Characters that it can go on with. -/
def isIdentifierChar (c : Char) : Bool :=
  c.isAlphanum || c = '_'

/-- Function names : ASCII letters, digits and underscores, no digit first. -/
def isIdentifier : List Char → Bool
  | [] => false
  | c :: cs => isIdentifierStart c && cs.all isIdentifierChar

/-- The characters a number can start with. -/
def startsNumber (c : Char) : Bool :=
  c.isDigit || c = '-' || c = '+' || c = '.'

/-- The number a word spells, if it starts like one and is finite. -/
def wordNumber? (w : List Char) : Option Float :=
  match w with
  | [] => none
  | c :: _ => if startsNumber c then (Decimal.readFloat? w).filter Float.isFinite else none

/-- A word that is not a function name : a truth value in any case, a number, or else a path
pattern. -/
def classifyWord (w : String) : Expr :=
  if w.toLower = "true" then .literal (.boolean true)
  else if w.toLower = "false" then .literal (.boolean false)
  else
    match wordNumber? w.toList with
    | some x => .literal (.number x w)
    | none => .selector w

/-! ## The machine -/

/-- A call that is open : its name and the arguments read so far, last first. -/
structure Frame where
  name : String
  args : List Expr

/-- Where the parser stands, with the open calls, innermost first. -/
inductive State
  /-- An expression must follow; right after an opening parenthesis the call may also end. -/
  | operand (afterComma : Bool) (frames : List Frame)
  /-- The expression `e` has been read. -/
  | operator (e : Expr) (frames : List Frame)

/-- Read tokens from a state on. The limit bounds the number of open calls, and `stop` is the
offset of the end of the text. -/
def run (limit stop : Nat) : State → List Token → Except SyntaxError Expr
  | .operand _ [], [] => .error ⟨0, .emptyExpression⟩
  | .operand _ (_ :: _), [] => .error ⟨stop, .missingParen⟩
  | .operand _ frames, ⟨.word w, p⟩ :: ⟨.openParen, _⟩ :: ts =>
    if isIdentifier w.toList then
      if frames.length < limit then run limit stop (.operand false (⟨w, []⟩ :: frames)) ts
      else .error ⟨p, .tooDeep limit⟩
    else .error ⟨p, .invalidFunctionName w⟩
  | .operand _ frames, ⟨.word w, _⟩ :: ts => run limit stop (.operator (classifyWord w) frames) ts
  | .operand _ frames, ⟨.quoted v q, _⟩ :: ts =>
    run limit stop (.operator (.literal (.string v q)) frames) ts
  | .operand _ [], ⟨.closeParen, p⟩ :: _ => .error ⟨p, .unbalanced ')'⟩
  | .operand true (_ :: _), ⟨.closeParen, p⟩ :: _ => .error ⟨p, .emptyArgument⟩
  | .operand false (f :: frames), ⟨.closeParen, _⟩ :: ts =>
    run limit stop (.operator (.call f.name f.args.reverse) frames) ts
  | .operand _ _, ⟨.comma, p⟩ :: _ => .error ⟨p, .emptyArgument⟩
  | .operand _ _, ⟨.openParen, p⟩ :: _ => .error ⟨p, .unexpectedParen⟩
  | .operator e [], [] => .ok e
  | .operator _ [], ⟨.closeParen, p⟩ :: _ => .error ⟨p, .unbalanced ')'⟩
  | .operator _ [], ⟨s, p⟩ :: _ => .error ⟨p, .trailing s⟩
  | .operator _ (_ :: _), [] => .error ⟨stop, .missingParen⟩
  | .operator e (f :: frames), ⟨.comma, _⟩ :: ts =>
    run limit stop (.operand true (⟨f.name, e :: f.args⟩ :: frames)) ts
  | .operator e (f :: frames), ⟨.closeParen, _⟩ :: ts =>
    run limit stop (.operator (.call f.name (e :: f.args).reverse) frames) ts
  | .operator _ (_ :: _), ⟨s, p⟩ :: _ => .error ⟨p, .expectedSeparator s⟩

/-- The expression that a sequence of tokens spells. -/
def Tokens.parse (limit : Nat) (tokens : Tokens) : Except SyntaxError Expr :=
  run limit tokens.stop (.operand false []) tokens.list

/-- How deep calls may be nested where nothing else is said. -/
def defaultDepthLimit : Nat := 128

/-- The expression that a target spells, its calls nested at most `limit` deep. -/
def parse (limit : Nat) (target : String) : Except ParseError Expr :=
  ((lex target).bind (·.parse limit)).mapError fun e => ⟨target, e⟩

end SeriesRender.Target
