import SeriesRender.Configuration.Value
import SeriesRender.Decimal.Reading
import SeriesRender.Text.Blank

/-!
# Settings in the environment

An environment variable whose name begins with `GRAPHITE_READER__`, in any case, gives a setting :
the rest of the name is its path, split at double underscores, and its text is read as a boolean, a
number, an array or a table if it is one, and otherwise stands for itself.
-/

namespace SeriesRender.Environment

/-! ## Values -/

/-- Blanks around values. -/
def isSpace (c : Char) : Bool :=
  c = ' ' || c = '\t' || c = '\n' || c = '\r' || c = '\x0C'

/-- What follows the blanks. -/
def skipSpaces (cs : List Char) : List Char :=
  cs.dropWhile isSpace

/-- Characters that end a value without quotes. -/
def isDelimiter (c : Char) : Bool :=
  c = ',' || c = '[' || c = ']' || c = '{' || c = '}'

/-- The integers that are read : those of 64 bits, with a sign or without. -/
def isInteger (n : Int) : Bool :=
  -0x8000000000000000 ≤ n && n < 0x10000000000000000

/-- A text without quotes : a number if it is one. Only a text with a point is read as a float. -/
def plainValue (cs : List Char) : ConfigValue :=
  let float := if '.' ∈ cs then Decimal.readFloat? cs else none
  match float, (Decimal.readInt? cs).filter isInteger with
  | some x, _ => .float x
  | none, some n => .integer n
  | none, none => .text (String.ofList cs)

/-- The rest of a text between quotes, in which a backslash takes the next character as it is. -/
def quotedRest : List Char → Option (List Char × List Char)
  | '"' :: cs => some ([], cs)
  | '\\' :: c :: cs => (quotedRest cs).map fun (s, rest) => (c :: s, rest)
  | c :: cs => (quotedRest cs).map fun (s, rest) => (c :: s, rest)
  | [] => none

/-- Characters of a key without quotes. -/
def isKeyChar (c : Char) : Bool :=
  c.isAlphanum || c = '_' || c = '-'

/-- The key of a member of a table. -/
def key? (cs : List Char) : Option (String × List Char) :=
  match cs with
  | '"' :: cs => (quotedRest cs).map fun (s, rest) => (String.ofList s, rest)
  | cs =>
    match cs.takeWhile isKeyChar with
    | [] => none
    | name => some (String.ofList name, cs.dropWhile isKeyChar)

/-- A value that is neither an array nor a table. -/
def scalar? (cs : List Char) : Option (ConfigValue × List Char) :=
  match cs with
  | 't' :: 'r' :: 'u' :: 'e' :: rest => some (.boolean true, rest)
  | 'f' :: 'a' :: 'l' :: 's' :: 'e' :: rest => some (.boolean false, rest)
  | '"' :: rest => (quotedRest rest).map fun (s, rest) => (.text (String.ofList s), rest)
  | '\'' :: c :: '\'' :: rest => some (.text (String.singleton c), rest)
  | '\'' :: _ => none
  | cs => some (plainValue (Text.trim (cs.takeWhile (!isDelimiter ·))),
      cs.dropWhile (!isDelimiter ·))

mutual

/-- A value with the spaces around it, in a bounded number of steps. -/
def value? (fuel : Nat) (cs : List Char) : Option (ConfigValue × List Char) :=
  match fuel with
  | 0 => none
  | fuel + 1 => do
    let (v, rest) ← match skipSpaces cs with
      | '[' :: cs => (elements? fuel cs).map fun (vs, rest) => (.array vs, rest)
      | '{' :: cs => (members? fuel cs).map fun (ms, rest) => (.table ms, rest)
      | cs => scalar? cs
    return (v, skipSpaces rest)

/-- The elements of an array from here on, and its end. -/
def elements? (fuel : Nat) (cs : List Char) : Option (List ConfigValue × List Char) :=
  match fuel, skipSpaces cs with
  | 0, _ => none
  | _, ']' :: rest => some ([], rest)
  | fuel + 1, cs => do
    let (v, rest) ← value? fuel cs
    match rest with
    | ',' :: rest =>
      let (vs, rest) ← elements? fuel rest
      return (v :: vs, rest)
    | ']' :: rest => return ([v], rest)
    | _ => none

/-- The members of a table from here on, and its end. Of two members with one key the later one
holds. -/
def members? (fuel : Nat) (cs : List Char) : Option (List (String × ConfigValue) × List Char) :=
  match fuel, skipSpaces cs with
  | 0, _ => none
  | _, '}' :: rest => some ([], rest)
  | fuel + 1, cs => do
    let (key, rest) ← key? cs
    match skipSpaces rest with
    | '=' :: rest =>
      let (v, rest) ← value? fuel rest
      match rest with
      | ',' :: rest =>
        let (ms, rest) ← members? fuel rest
        return (if (ms.lookup key).isSome then ms else (key, v) :: ms, rest)
      | '}' :: rest => return ([(key, v)], rest)
      | _ => none
    | _ => none

end

/-- The value of a variable. -/
def readValue (text : String) : ConfigValue :=
  match value? (text.length + 1) text.toList with
  | some (v, []) => v
  | _ => .text text

/-! ## Names -/

/-- What the names of all settings begin with. -/
def marker : List Char :=
  "graphite_reader__".toList

/-- The name of a variable after the marker, in lower case, if it has the marker. -/
def settingName? (name : String) : Option (List Char) :=
  let cs := (Text.trim name.toList).map Char.toLower
  if marker.isPrefixOf cs then some (cs.drop marker.length) else none

/-- The text with points in place of double underscores. -/
def pointed : List Char → List Char
  | '_' :: '_' :: cs => '.' :: pointed cs
  | c :: cs => c :: pointed cs
  | [] => []

/-- The path of a setting, which ends before an empty part. -/
def path (name : List Char) : List String :=
  ((Text.splitOn '.' (pointed name)).takeWhile (!·.isEmpty)).map String.ofList

/-- The settings in an environment, later variables over earlier ones; none if one of them names no
setting at all and is not a table either. -/
def read? (environment : List (String × String)) : Option ConfigValue :=
  environment.foldlM (fun settings (name, text) =>
      match settingName? name with
      | none => some settings
      | some rest =>
        match ConfigValue.nested (path rest) (readValue text) with
        | .table members => some (settings.overlay (.table members))
        | _ => none)
    (.table [])

end SeriesRender.Environment
