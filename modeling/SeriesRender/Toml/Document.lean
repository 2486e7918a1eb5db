import SeriesRender.Toml.Scalar
import SeriesRender.Toml.Table

/-!
# TOML documents

`Toml.read?` reads a document into the table that it describes, or finds that it is not one. The
readers are bounded by a number of steps, which the length of the text always suffices for, as
every step takes at least one character.
-/

namespace SeriesRender.Toml

/-! ## Keys -/

/-- Characters of a key without quotes. -/
def isBareKeyChar (c : Char) : Bool :=
  c.isAlphanum || c = '_' || c = '-'

/-- One part of a key, bare or quoted. -/
def simpleKey? (cs : List Char) : Option (String × List Char) :=
  match cs.takeWhile isBareKeyChar with
  | [] => shortString? cs
  | name => some (String.ofList name, cs.dropWhile isBareKeyChar)

/-- A key of parts joined by points, between blanks : all parts but the last, and the last. -/
def key? (fuel : Nat) (cs : List Char) : Option ((List String × String) × List Char) :=
  match fuel with
  | 0 => none
  | fuel + 1 => do
    let (part, rest) ← simpleKey? (skipBlanks cs)
    match skipBlanks rest with
    | '.' :: rest =>
      let ((path, last), rest) ← key? fuel rest
      return ((part :: path, last), rest)
    | rest => return (([], part), rest)

/-! ## Values -/

/-- The rest after blanks, line ends and comments; `inComment` says that one is under way. -/
def skipSpace (inComment : Bool) : List Char → List Char
  | [] => []
  | '\n' :: cs => skipSpace false cs
  | '\r' :: '\n' :: cs => skipSpace false cs
  | c :: cs =>
    if inComment then (if isPlain c then skipSpace true cs else c :: cs)
    else if isBlank c then skipSpace false cs
    else if c = '#' then skipSpace true cs
    else c :: cs

mutual

/-- A value. -/
def value? (fuel : Nat) (cs : List Char) : Option (ConfigValue × List Char) :=
  match fuel, cs with
  | 0, _ => none
  | fuel + 1, '[' :: cs => do
    let (vs, rest) ← elements? fuel (skipSpace false cs)
    return (.array vs, rest)
  | fuel + 1, '{' :: cs =>
    match skipBlanks cs with
    | '}' :: rest => some (.table [], rest)
    | cs => do
      let (pairs, rest) ← pairs? fuel cs
      return (← tableOfPairs pairs, rest)
  | _, cs => scalar? cs

/-- The elements of an array from here on, and its end. A comma may follow the last one. -/
def elements? (fuel : Nat) (cs : List Char) : Option (List ConfigValue × List Char) :=
  match fuel, cs with
  | 0, _ => none
  | _, ']' :: rest => some ([], rest)
  | fuel + 1, cs => do
    let (v, rest) ← value? fuel cs
    match skipSpace false rest with
    | ',' :: rest =>
      let (vs, rest) ← elements? fuel (skipSpace false rest)
      return (v :: vs, rest)
    | ']' :: rest => return ([v], rest)
    | _ => none

/-- The pairs of a table within a line from here on, and its end. -/
def pairs? (fuel : Nat) (cs : List Char) :
    Option (List ((List String × String) × ConfigValue) × List Char) :=
  match fuel with
  | 0 => none
  | fuel + 1 => do
    let (key, rest) ← key? (cs.length + 1) cs
    let (v, rest) ← value? fuel (skipBlanks (← mark? '=' rest))
    match skipBlanks rest with
    | ',' :: rest =>
      let (pairs, rest) ← pairs? fuel rest
      return ((key, v) :: pairs, rest)
    | '}' :: rest => return ([(key, v)], rest)
    | _ => none

end

/-! ## Lines -/

/-- The rest after what may end a line : blanks, a comment, and a line end or the end of the
document. -/
def lineEnd? (cs : List Char) : Option (List Char) :=
  let rest := match skipBlanks cs with
    | '#' :: rest => rest.dropWhile isPlain
    | rest => rest
  if rest.isEmpty then some [] else newline? rest

/-- The tables so far, and the path of the one that values go to. -/
structure Draft where
  root : Entries
  current : List String

/-- Add a value to the current table. -/
def Draft.add (d : Draft) (path : List String) (key : String) (v : ConfigValue) : Option Draft :=
  (change false (addValue path key v) .header d.root d.current).map fun root => { d with root }

/-- What a line that is not blank says : the header of a table or of an element of an array of
tables, or a value. -/
def line? (d : Draft) (cs : List Char) : Option (Draft × List Char) :=
  let fuel := cs.length + 1
  match cs with
  | '[' :: '[' :: cs => do
    let ((path, key), rest) ← key? fuel cs
    let rest ← mark? ']' (← mark? ']' rest)
    return (⟨← openElement path key d.root, path ++ [key]⟩, rest)
  | '[' :: cs => do
    let ((path, key), rest) ← key? fuel cs
    let rest ← mark? ']' rest
    return (⟨← openTable path key d.root, path ++ [key]⟩, rest)
  | cs => do
    let ((path, key), rest) ← key? fuel cs
    let (v, rest) ← value? fuel (skipBlanks (← mark? '=' rest))
    return (← d.add path key v, rest)

/-- The document from the beginning of a line on. -/
def lines? (fuel : Nat) (d : Draft) (cs : List Char) : Option Draft :=
  match fuel with
  | 0 => none
  | fuel + 1 =>
    match skipBlanks cs with
    | [] => some d
    | cs =>
      match lineEnd? cs with
      | some rest => lines? fuel d rest
      | none => do
        let (d, rest) ← line? d cs
        lines? fuel d (← lineEnd? rest)

/-- The text without a byte order mark at its beginning. -/
def dropMark : List Char → List Char
  | '\uFEFF' :: cs => cs
  | cs => cs

/-- The table that a document describes. -/
def read? (cs : List Char) : Option ConfigValue :=
  let cs := dropMark cs
  (lines? (cs.length + 1) ⟨[], []⟩ cs).map fun d => .table (membersOf d.root)

end SeriesRender.Toml
