/-!
# Configuration values

Every source of settings is read into a `ConfigValue`. `ConfigValue.overlay` lays one source over
another : tables are joined member by member, and of anything else the later one holds.
-/

namespace SeriesRender

/-- What can stand in a configuration. -/
inductive ConfigValue
  | boolean (b : Bool)
  | integer (n : Int)
  | float (x : Float)
  | text (s : String)
  | array (elements : List ConfigValue)
  | table (members : List (String × ConfigValue))
  deriving Inhabited

namespace ConfigValue

/-- Give the value at a key, in place of the one that is there. -/
def setAt {α : Type} (members : List (String × α)) (key : String) (value : α) :
    List (String × α) :=
  match members with
  | [] => [(key, value)]
  | (k, v) :: rest => if k = key then (k, value) :: rest else (k, v) :: setAt rest key value

mutual

/-- A value over an earlier one. -/
def overlay (base : ConfigValue) : ConfigValue → ConfigValue
  | .table members =>
    match base with
    | .table old => .table (overlayMembers old members)
    | _ => .table members
  | v => v

/-- Members over earlier ones. -/
def overlayMembers (old : List (String × ConfigValue)) :
    List (String × ConfigValue) → List (String × ConfigValue)
  | [] => old
  | (key, value) :: rest =>
    let joined := match old.lookup key with
      | some v => overlay v value
      | none => value
    overlayMembers (setAt old key joined) rest

end

/-- The value as the only one at the end of a path of tables. -/
def nested : List String → ConfigValue → ConfigValue
  | [], v => v
  | key :: path, v => .table [(key, nested path v)]

end ConfigValue

end SeriesRender
