import SeriesRender.Configuration.Value

/-!
# Building tables in TOML

A document names a table by its header, or implies it by the header of a table inside, or makes it
by a dotted key. Each table may be named once, and only tables made by dotted keys are extended by
dotted keys; the values of one key are never given twice. What is built is a tree of `Node`s, which
remembers where every table comes from.
-/

namespace SeriesRender.Toml

/-- How a table came about. -/
inductive Origin
  | header
  | implied
  | dottedKey
  deriving DecidableEq

/-- What a key stands for while a document is being read. -/
inductive Node
  | value (v : ConfigValue)
  | table (origin : Origin) (entries : List (String × Node))
  /-- An array of tables, the latest first. -/
  | tables (elements : List (List (String × Node)))
  deriving Inhabited

/-- The keys of a table with what is at them. -/
abbrev Entries := List (String × Node)

/-- Change the table at a path, making those on the way that do not exist. A path of dotted keys
does not lead through a table that has a header. -/
def change (dotted : Bool) (f : Origin → Entries → Option Entries) (origin : Origin)
    (entries : Entries) : List String → Option Entries
  | [] => f origin entries
  | key :: path => do
    let node ← match entries.lookup key with
      | none =>
        let made := if dotted then Origin.dottedKey else .implied
        (change dotted f made [] path).map (.table made)
      | some (.value _) => none
      | some (.table made inner) =>
        if dotted ∧ made = .header then none
        else (change dotted f made inner path).map (.table made)
      | some (.tables []) => none
      | some (.tables (latest :: earlier)) =>
        (change dotted f .header latest path).map fun latest => .tables (latest :: earlier)
    return ConfigValue.setAt entries key node

/-- Give the value of a dotted key in a table. -/
def addValue (path : List String) (key : String) (v : ConfigValue) (origin : Origin)
    (entries : Entries) : Option Entries :=
  change true
    (fun reached entries =>
      if (reached = .dottedKey) = path.isEmpty ∨ (entries.lookup key).isSome then none
      else some (entries ++ [(key, .value v)]))
    origin entries path

/-- Name the table at a path, the last key of which is given apart. -/
def openTable (path : List String) (key : String) (root : Entries) : Option Entries :=
  change false
    (fun _ entries =>
      match entries.lookup key with
      | none => some (entries ++ [(key, .table .header [])])
      | some (.table .implied inner) => some (ConfigValue.setAt entries key (.table .header inner))
      | some _ => none)
    .header root path

/-- Add an element to the array of tables at a path, the last key of which is given apart. -/
def openElement (path : List String) (key : String) (root : Entries) : Option Entries :=
  change false
    (fun _ entries =>
      match entries.lookup key with
      | none => some (entries ++ [(key, .tables [[]])])
      | some (.tables elements) =>
        some (ConfigValue.setAt entries key (.tables ([] :: elements)))
      | some _ => none)
    .header root path

mutual

/-- The value of a node when all has been read. -/
def Node.toValue : Node → ConfigValue
  | .value v => v
  | .table _ entries => .table (membersOf entries)
  | .tables elements => .array (tablesOf elements [])

/-- The values of the members of a table. -/
def membersOf : List (String × Node) → List (String × ConfigValue)
  | [] => []
  | (key, node) :: rest => (key, node.toValue) :: membersOf rest

/-- Tables in the opposite order, before those that are done. -/
def tablesOf : List (List (String × Node)) → List ConfigValue → List ConfigValue
  | [], done => done
  | entries :: rest, done => tablesOf rest (.table (membersOf entries) :: done)

end

/-- A table from its dotted keys and values alone. -/
def tableOfPairs (pairs : List ((List String × String) × ConfigValue)) : Option ConfigValue :=
  (pairs.foldlM (fun entries ((path, key), v) => addValue path key v .header entries) []).map
    fun entries => .table (membersOf entries)

end SeriesRender.Toml
