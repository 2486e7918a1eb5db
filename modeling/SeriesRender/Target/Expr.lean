import SeriesRender.Decimal.Numeral

/-!
# Target expressions

An expression selects series by a path pattern, is a literal, or calls a function on
expressions. `Expr.text` is its canonical text : no blanks, numbers as they were written,
strings in their own quotes.
-/

namespace SeriesRender.Target

/-- A literal. A number keeps its spelling beside its value, a string its quote. -/
inductive Literal
  | number (value : Float) (text : String)
  | string (value : String) (quote : Char)
  | boolean (value : Bool)

/-- A target expression. -/
inductive Expr
  | selector (pattern : String)
  | literal (value : Literal)
  | call (name : String) (args : List Expr)
  deriving Inhabited

/-- What a function can ask of an argument. -/
inductive Kind
  | series
  | number
  | string
  | boolean
  deriving DecidableEq, Repr

/-- The kind in words. -/
def Kind.name : Kind → String
  | .series => "series"
  | .number => "number"
  | .string => "string"
  | .boolean => "boolean"

/-- The kind of a literal. -/
def Literal.kind : Literal → Kind
  | .number .. => .number
  | .string .. => .string
  | .boolean _ => .boolean

/-- The kind of an expression as an argument. What is not a literal is series. -/
def Expr.kind : Expr → Kind
  | .selector _ => .series
  | .literal l => l.kind
  | .call .. => .series

/-! ## Literals as values -/

/-- A number literal spelled in plain notation. -/
def Expr.number (x : Float) : Expr :=
  .literal (.number x (Decimal.plain x))

/-- The number that is written, if it is one. -/
def Expr.asNumber? : Expr → Option Float
  | .literal (.number x _) => some x
  | _ => none

/-- The text that is quoted, if it is one. -/
def Expr.asString? : Expr → Option String
  | .literal (.string s _) => some s
  | _ => none

/-- The truth value that is written, if it is one. -/
def Expr.asBoolean? : Expr → Option Bool
  | .literal (.boolean b) => some b
  | _ => none

/-! ## Canonical text -/

/-- A string literal's characters, with a backslash before its quote and before a backslash. -/
def escape (quote : Char) : List Char → List Char
  | [] => []
  | c :: cs => if c = quote ∨ c = '\\' then '\\' :: c :: escape quote cs else c :: escape quote cs

/-- A literal as it is written : a number as it was read, a text in its own quotes. -/
def Literal.chars : Literal → List Char
  | .number _ text => text.toList
  | .string value quote => quote :: (escape quote value.toList ++ [quote])
  | .boolean true => ['t', 'r', 'u', 'e']
  | .boolean false => ['f', 'a', 'l', 's', 'e']

mutual

/-- An expression as it is written, without blanks. -/
def Expr.chars : Expr → List Char
  | .selector pattern => pattern.toList
  | .literal l => l.chars
  | .call name args => name.toList ++ '(' :: (Expr.listChars args ++ [')'])

/-- Expressions separated by commas. -/
def Expr.listChars : List Expr → List Char
  | [] => []
  | e :: es => e.chars ++ Expr.tailChars es

/-- A comma before each expression. -/
def Expr.tailChars : List Expr → List Char
  | [] => []
  | e :: es => ',' :: (e.chars ++ Expr.tailChars es)

end

/-- The same as a text. -/
def Literal.text (l : Literal) : String :=
  String.ofList l.chars

/-- The canonical text of an expression. -/
def Expr.text (e : Expr) : String :=
  String.ofList e.chars

/-! ## Nesting -/

mutual

/-- How deep calls are nested. -/
def Expr.depth : Expr → Nat
  | .selector _ => 0
  | .literal _ => 0
  | .call _ args => Expr.listDepth args + 1

/-- The depth of the deepest of several expressions. -/
def Expr.listDepth : List Expr → Nat
  | [] => 0
  | e :: es => max e.depth (Expr.listDepth es)

end

/-! ## Comparison

Numbers are compared as floats are : a NaN differs from itself. -/

/-- Whether literals are the same. A NaN is not the same as anything. -/
def Literal.same : Literal → Literal → Bool
  | .number x s, .number y t => x == y && s == t
  | .string v p, .string w q => v == w && p == q
  | .boolean a, .boolean b => a == b
  | _, _ => false

mutual

/-- Whether two expressions are the same tree. -/
def Expr.same : Expr → Expr → Bool
  | .selector p, .selector q => p == q
  | .literal a, .literal b => a.same b
  | .call n as, .call m bs => n == m && Expr.listSame as bs
  | _, _ => false

/-- Whether lists of expressions are the same, one by one. -/
def Expr.listSame : List Expr → List Expr → Bool
  | [], [] => true
  | a :: as, b :: bs => a.same b && Expr.listSame as bs
  | _, _ => false

end

end SeriesRender.Target
