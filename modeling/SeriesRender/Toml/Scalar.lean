import SeriesRender.Decimal.Reading
import SeriesRender.Configuration.Value
import SeriesRender.Text.HexDigit

/-!
# Scalars in TOML

Strings in their four forms, numbers, booleans, dates and times. Every reader answers with what it
read and the rest of the text, or with none if the text does not begin with it.
-/

namespace SeriesRender.Toml

/-- What a reader of `α` finds at the beginning of a text. -/
abbrev Reader (α : Type) := List Char → Option (α × List Char)

/-- Characters between tokens of one line. -/
def isBlank (c : Char) : Bool :=
  c = ' ' || c = '\t'

/-- What follows the blanks. -/
def skipBlanks (cs : List Char) : List Char :=
  cs.dropWhile isBlank

/-- Characters that may stand in comments and strings : all but control characters, of which only
the tabulator may. -/
def isPlain (c : Char) : Bool :=
  c = '\t' || (0x20 ≤ c.toNat && c.toNat ≠ 0x7F)

/-- The rest after the end of a line. -/
def newline? : List Char → Option (List Char)
  | '\n' :: cs => some cs
  | '\r' :: '\n' :: cs => some cs
  | _ => none

/-- Put a character before what is read later. -/
def andThen (c : Char) : Option (List Char × List Char) → Option (List Char × List Char) :=
  Option.map fun (s, rest) => (c :: s, rest)

/-! ## Strings -/

/-- What a letter after a backslash stands for. -/
def escape? (c : Char) : Option Char :=
  match c with
  | 'b' => some '\x08'
  | 't' => some '\t'
  | 'n' => some '\n'
  | 'f' => some '\x0C'
  | 'r' => some '\r'
  | '"' => some '"'
  | '\\' => some '\\'
  | _ => none

/-- The rest of a string between quotes. -/
def basicRest : Reader (List Char)
  | '"' :: cs => some ([], cs)
  | '\\' :: 'u' :: a :: b :: c :: d :: cs => do
    let x ← Text.charOfHex? [a, b, c, d]
    andThen x (basicRest cs)
  | '\\' :: 'U' :: a :: b :: c :: d :: e :: f :: g :: h :: cs => do
    let x ← Text.charOfHex? [a, b, c, d, e, f, g, h]
    andThen x (basicRest cs)
  | '\\' :: c :: cs => do
    let x ← escape? c
    andThen x (basicRest cs)
  | c :: cs => if isPlain c ∧ c ≠ '\\' then andThen c (basicRest cs) else none
  | [] => none

/-- Whether a string over several lines is being read as it stands, or a backslash at the end of a
line makes its blanks drop out : those before the line ends, and then all up to other text. -/
inductive LineState
  | text
  | beforeBreak
  | afterBreak
  deriving DecidableEq

/-- The rest of a string over several lines between triple quotes. Up to two quotes may stand
right before the closing ones. -/
def longBasicRest (state : LineState) : Reader (List Char)
  | '\n' :: cs =>
    if state = .text then andThen '\n' (longBasicRest .text cs) else longBasicRest .afterBreak cs
  | '\r' :: '\n' :: cs =>
    if state = .text then andThen '\n' (longBasicRest .text cs) else longBasicRest .afterBreak cs
  | ' ' :: cs =>
    if state = .text then andThen ' ' (longBasicRest .text cs) else longBasicRest state cs
  | '\t' :: cs =>
    if state = .text then andThen '\t' (longBasicRest .text cs) else longBasicRest state cs
  | cs =>
    if state = .beforeBreak then none
    else
      match cs with
      | '"' :: '"' :: '"' :: '"' :: '"' :: cs => some (['"', '"'], cs)
      | '"' :: '"' :: '"' :: '"' :: cs => some (['"'], cs)
      | '"' :: '"' :: '"' :: cs => some ([], cs)
      | '\\' :: 'u' :: a :: b :: c :: d :: cs => do
        let x ← Text.charOfHex? [a, b, c, d]
        andThen x (longBasicRest .text cs)
      | '\\' :: 'U' :: a :: b :: c :: d :: e :: f :: g :: h :: cs => do
        let x ← Text.charOfHex? [a, b, c, d, e, f, g, h]
        andThen x (longBasicRest .text cs)
      | '\\' :: c :: cs =>
        if c = ' ' ∨ c = '\t' then longBasicRest .beforeBreak cs
        else if c = '\n' then longBasicRest .afterBreak cs
        else if c = '\r' then
          match cs with
          | '\n' :: cs => longBasicRest .afterBreak cs
          | _ => none
        else do
          let x ← escape? c
          andThen x (longBasicRest .text cs)
      | c :: cs => if isPlain c ∧ c ≠ '\\' then andThen c (longBasicRest .text cs) else none
      | [] => none

/-- The rest of a string between apostrophes, in which nothing is escaped. -/
def literalRest : Reader (List Char)
  | '\'' :: cs => some ([], cs)
  | c :: cs => if isPlain c then andThen c (literalRest cs) else none
  | [] => none

/-- The rest of a string over several lines between triple apostrophes. -/
def longLiteralRest : Reader (List Char)
  | '\'' :: '\'' :: '\'' :: '\'' :: '\'' :: cs => some (['\'', '\''], cs)
  | '\'' :: '\'' :: '\'' :: '\'' :: cs => some (['\''], cs)
  | '\'' :: '\'' :: '\'' :: cs => some ([], cs)
  | '\n' :: cs => andThen '\n' (longLiteralRest cs)
  | '\r' :: '\n' :: cs => andThen '\n' (longLiteralRest cs)
  | c :: cs => if isPlain c then andThen c (longLiteralRest cs) else none
  | [] => none

/-- The text without a line end at its beginning. -/
def dropNewline (cs : List Char) : List Char :=
  (newline? cs).getD cs

/-- A string on one line. -/
def shortString? : Reader String
  | '"' :: cs => (basicRest cs).map fun (s, rest) => (String.ofList s, rest)
  | '\'' :: cs => (literalRest cs).map fun (s, rest) => (String.ofList s, rest)
  | _ => none

/-- A string in any form. -/
def string? : Reader String
  | '"' :: '"' :: '"' :: cs =>
    (longBasicRest .text (dropNewline cs)).map fun (s, rest) => (String.ofList s, rest)
  | '\'' :: '\'' :: '\'' :: cs =>
    (longLiteralRest (dropNewline cs)).map fun (s, rest) => (String.ofList s, rest)
  | cs => shortString? cs

/-! ## Numbers -/

/-- Further digits of a number, each of which may have an underscore before it. -/
def moreDigits (isDigit : Char → Bool) : List Char → List Char × List Char
  | '_' :: c :: cs =>
    if isDigit c then
      match moreDigits isDigit cs with
      | (ds, rest) => (c :: ds, rest)
    else ([], '_' :: c :: cs)
  | c :: cs =>
    if isDigit c then
      match moreDigits isDigit cs with
      | (ds, rest) => (c :: ds, rest)
    else ([], c :: cs)
  | [] => ([], [])

/-- One digit or more. -/
def digits? (isDigit : Char → Bool) : Reader (List Char)
  | c :: cs =>
    if isDigit c then
      match moreDigits isDigit cs with
      | (ds, rest) => some (c :: ds, rest)
    else none
  | [] => none

/-- A sign, if there is one, and what follows it. -/
def sign : List Char → List Char × List Char
  | '+' :: cs => (['+'], cs)
  | '-' :: cs => (['-'], cs)
  | cs => ([], cs)

/-- A decimal integer with an optional sign and without zeros in front. -/
def decimal? (cs : List Char) : Option (List Char × List Char) :=
  match sign cs with
  | (s, '0' :: rest) => some (s ++ ['0'], rest)
  | (s, rest) => (digits? Char.isDigit rest).map fun (ds, rest) => (s ++ ds, rest)

/-- A point and the digits behind it. -/
def fraction? : Reader (List Char)
  | '.' :: cs => (digits? Char.isDigit cs).map fun (ds, rest) => ('.' :: ds, rest)
  | _ => none

/-- An exponent, which may have a sign. -/
def exponent? : Reader (List Char)
  | c :: cs =>
    if c = 'e' ∨ c = 'E' then
      match sign cs with
      | (s, rest) => (digits? Char.isDigit rest).map fun (ds, rest) => ('e' :: (s ++ ds), rest)
    else none
  | [] => none

/-- The text of a number with a fraction, an exponent or both, without underscores. -/
def floatText? (cs : List Char) : Option (List Char × List Char) := do
  let (whole, rest) ← decimal? cs
  match fraction? rest, exponent? rest with
  | some (fraction, rest), _ =>
    match exponent? rest with
    | some (exponent, rest) => some (whole ++ fraction ++ exponent, rest)
    | none => some (whole ++ fraction, rest)
  | none, some (exponent, rest) => some (whole ++ exponent, rest)
  | none, none => none

/-- A float that is written out; one beyond the greatest float is refused. -/
def writtenFloat? (cs : List Char) : Option (ConfigValue × List Char) := do
  let (text, rest) ← floatText? cs
  let x ← Decimal.readFloat? text
  if x = 1.0 / 0.0 then none else some (.float x, rest)

/-- Infinity or NaN. -/
def wordFloat? (cs : List Char) : Option (ConfigValue × List Char) :=
  match sign cs with
  | (s, 'i' :: 'n' :: 'f' :: rest) =>
    some (.float (if s = ['-'] then -1.0 / 0.0 else 1.0 / 0.0), rest)
  | (_, 'n' :: 'a' :: 'n' :: rest) => some (.float (0.0 / 0.0), rest)
  | _ => none

/-- The digits and the base of an integer with a base. -/
def basedDigits? : List Char → Option (Nat × List Char × List Char)
  | '0' :: 'x' :: cs => (digits? Text.isHexDigit cs).map fun r => (16, r)
  | '0' :: 'o' :: cs => (digits? (fun c => '0' ≤ c && c ≤ '7') cs).map fun r => (8, r)
  | '0' :: 'b' :: cs => (digits? (fun c => c = '0' || c = '1') cs).map fun r => (2, r)
  | _ => none

/-- An integer in any base. -/
def anyInteger? (cs : List Char) : Option (Int × List Char) :=
  match basedDigits? cs with
  | some (base, ds, rest) => some (((ds.filterMap Text.hexDigit?).foldl (base * · + ·) 0 : Nat), rest)
  | none =>
    (decimal? cs).bind fun (text, rest) => (Decimal.readInt? text).map fun n => (n, rest)

/-- Whether an integer can be a value : it has 64 bits with its sign. -/
def isIntegerValue (n : Int) : Bool :=
  -0x8000000000000000 ≤ n && n < 0x8000000000000000

/-- An integer to any of the bases, if it has 64 bits. -/
def integer? (cs : List Char) : Option (ConfigValue × List Char) :=
  (anyInteger? cs).bind fun (n, rest) =>
    if isIntegerValue n then some (.integer n, rest) else none

/-! ## Dates and times -/

/-- A number of exactly `n` digits. -/
def fixedDigits? (n : Nat) (cs : List Char) : Option (Nat × List Char) := do
  let ds := cs.take n
  if ds.length = n then return (← Decimal.readNat? ds, cs.drop n) else none

/-- A number of two digits between bounds. -/
def twoDigits? (least greatest : Nat) (cs : List Char) : Option (Nat × List Char) := do
  let (n, rest) ← fixedDigits? 2 cs
  if least ≤ n ∧ n ≤ greatest then some (n, rest) else none

/-- The rest after a character. -/
def mark? (c : Char) : List Char → Option (List Char)
  | [] => none
  | d :: cs => if d = c then some cs else none

/-- The length of a month. -/
def daysOfMonth (year month : Nat) : Nat :=
  if month = 2 then (if year % 4 = 0 ∧ (year % 100 ≠ 0 ∨ year % 400 = 0) then 29 else 28)
  else if month = 4 ∨ month = 6 ∨ month = 9 ∨ month = 11 then 30
  else 31

/-- The rest after a date. -/
def date? (cs : List Char) : Option (List Char) := do
  let (year, cs) ← fixedDigits? 4 cs
  let (month, cs) ← twoDigits? 1 12 (← mark? '-' cs)
  let (_, cs) ← twoDigits? 1 (daysOfMonth year month) (← mark? '-' cs)
  return cs

/-- The rest after a time of day, which may have a fraction of a second. -/
def time? (cs : List Char) : Option (List Char) := do
  let (_, cs) ← twoDigits? 0 23 cs
  let (_, cs) ← twoDigits? 0 59 (← mark? ':' cs)
  let (_, cs) ← twoDigits? 0 60 (← mark? ':' cs)
  match cs with
  | '.' :: d :: rest =>
    if d.isDigit then return rest.dropWhile Char.isDigit else return cs
  | cs => return cs

/-- The rest after the offset of a time zone. -/
def offset? (cs : List Char) : Option (List Char) :=
  match cs with
  | 'Z' :: cs => some cs
  | 'z' :: cs => some cs
  | '+' :: cs => do
    let (_, cs) ← twoDigits? 0 23 cs
    return (← twoDigits? 0 59 (← mark? ':' cs)).2
  | '-' :: cs => do
    let (_, cs) ← twoDigits? 0 23 cs
    return (← twoDigits? 0 59 (← mark? ':' cs)).2
  | _ => none

/-- The rest after a time that follows a date. -/
def timeAfterDate? (cs : List Char) : Option (List Char) :=
  match cs with
  | [] => none
  | c :: cs =>
    if c = 'T' ∨ c = 't' ∨ c = ' ' then
      (time? cs).map fun rest => (offset? rest).getD rest
    else none

/-- A date, a time, or both. No setting is one; it counts as a table with a member of its own. -/
def dateTime? (cs : List Char) : Option (ConfigValue × List Char) := do
  let rest ← match date? cs with
    | some rest => some ((timeAfterDate? rest).getD rest)
    | none => time? cs
  let text := String.ofList (cs.take (cs.length - rest.length))
  return (.table [("$__toml_private_datetime", .text text)], rest)

/-! ## All of them -/

/-- A truth value. -/
def boolean? : Reader ConfigValue
  | 't' :: 'r' :: 'u' :: 'e' :: cs => some (.boolean true, cs)
  | 'f' :: 'a' :: 'l' :: 's' :: 'e' :: cs => some (.boolean false, cs)
  | _ => none

/-- A value that is neither an array nor a table. -/
def scalar? (cs : List Char) : Option (ConfigValue × List Char) :=
  ((string? cs).map fun (s, rest) => (.text s, rest)) <|> boolean? cs <|> dateTime? cs <|>
    writtenFloat? cs <|> wordFloat? cs <|> integer? cs

end SeriesRender.Toml
