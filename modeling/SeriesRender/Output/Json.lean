import SeriesRender.Decimal.Numeral

/-!
# JSON

Values, and the two ways of writing them : `compact`, without any blanks, and `pretty`, one member
or element to a line. In strings only the quote, the backslash and control characters are escaped.
Numbers carry their text; a float that is not finite is null (`Json.ofFloat`).
-/

namespace SeriesRender

/-- A JSON value. Numbers are kept as they are written. -/
inductive Json
  | null
  | boolean (b : Bool)
  | number (text : List Char)
  | string (s : String)
  | array (elements : List Json)
  | object (members : List (String × Json))
  deriving Inhabited

namespace Json

/-- An integer as a number. -/
def ofInt (n : Int) : Json :=
  .number (Decimal.signed (n < 0) (Decimal.digitChars n.natAbs))

/-- A float as a number, if it has a token; otherwise null. -/
def ofFloat (x : Float) : Json :=
  match Decimal.Layout.json.chars? x with
  | some text => .number text
  | none => .null

/-! ## Strings -/

/-- A digit to base sixteen, in lower case. -/
def hexDigitChar (n : Nat) : Char :=
  if n < 10 then Char.ofNat ('0'.toNat + n) else Char.ofNat ('a'.toNat + (n - 10))

/-- A character of a string as it is written. -/
def escapeChar (c : Char) : List Char :=
  if c = '"' then ['\\', '"']
  else if c = '\\' then ['\\', '\\']
  else if c = '\x08' then ['\\', 'b']
  else if c = '\x0C' then ['\\', 'f']
  else if c = '\n' then ['\\', 'n']
  else if c = '\r' then ['\\', 'r']
  else if c = '\t' then ['\\', 't']
  else if c.toNat < 32 then
    ['\\', 'u', '0', '0', hexDigitChar (c.toNat / 16), hexDigitChar (c.toNat % 16)]
  else [c]

/-- A text between quotes, with what has to be escaped in it. -/
def quoted (s : String) : List Char :=
  '"' :: (s.toList.flatMap escapeChar ++ ['"'])

/-! ## Compact form -/

mutual

/-- The text of a value without any blank. -/
def compact : Json → List Char
  | .null => ['n', 'u', 'l', 'l']
  | .boolean true => ['t', 'r', 'u', 'e']
  | .boolean false => ['f', 'a', 'l', 's', 'e']
  | .number text => text
  | .string s => quoted s
  | .array [] => ['[', ']']
  | .array (v :: vs) => '[' :: (v.compact ++ compactElements vs)
  | .object [] => ['{', '}']
  | .object ((k, v) :: ms) => '{' :: (quoted k ++ ':' :: (v.compact ++ compactMembers ms))

/-- Further elements of an array, and its end. -/
def compactElements : List Json → List Char
  | [] => [']']
  | v :: vs => ',' :: (v.compact ++ compactElements vs)

/-- Further members of an object, and its end. -/
def compactMembers : List (String × Json) → List Char
  | [] => ['}']
  | (k, v) :: ms => ',' :: (quoted k ++ ':' :: (v.compact ++ compactMembers ms))

end

/-! ## Pretty form -/

/-- A new line at an indentation of `n` levels. -/
def newline (n : Nat) : List Char :=
  '\n' :: List.replicate (2 * n) ' '

mutual

/-- The pretty form of a value that stands at `n` levels. -/
def prettyAt (n : Nat) : Json → List Char
  | .array [] => ['[', ']']
  | .array (v :: vs) =>
    '[' :: (newline (n + 1) ++ (prettyAt (n + 1) v ++ prettyElements n vs))
  | .object [] => ['{', '}']
  | .object ((k, v) :: ms) =>
    '{' :: (newline (n + 1) ++ (quoted k ++ ':' :: ' ' :: (prettyAt (n + 1) v ++ prettyMembers n ms)))
  | v => v.compact

/-- The later elements of an array, each on a line, and its end. -/
def prettyElements (n : Nat) : List Json → List Char
  | [] => newline n ++ [']']
  | v :: vs => ',' :: (newline (n + 1) ++ (prettyAt (n + 1) v ++ prettyElements n vs))

/-- The later members of an object, each on a line, and its end. -/
def prettyMembers (n : Nat) : List (String × Json) → List Char
  | [] => newline n ++ ['}']
  | (k, v) :: ms =>
    ',' :: (newline (n + 1) ++
      (quoted k ++ ':' :: ' ' :: (prettyAt (n + 1) v ++ prettyMembers n ms)))

end

/-- The text of a value on several lines. -/
def pretty (v : Json) : List Char :=
  prettyAt 0 v

end Json

end SeriesRender
