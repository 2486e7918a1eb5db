import SeriesRender.Output.Format
import SeriesRender.Request.Time
import SeriesRender.Text.FormEncoded

/-!
# Request parameters

Parameters come from the query string and then from a form-encoded body, as one list. Every
`target` counts, in order, unless it is blank; of the other parameters the last one does. The
tenant is the parameter, or else the header, or else a fixed name, an empty one being none.
-/

namespace SeriesRender

/-- The tenant of a request that names none. -/
def defaultTenant : String := "NONE"

/-- What a request asks for. -/
structure Parameters where
  tenant : String
  targets : List String
  start : Int
  stop : Int
  format : OutputFormat
  deriving DecidableEq, Repr

/-- The value of the last pair with a name. -/
def lastValue? (pairs : List (String × String)) (name : String) : Option String :=
  ((pairs.filter (·.1 = name)).getLast?).map (·.2)

/-- The values of all pairs with a name. -/
def allValues (pairs : List (String × String)) (name : String) : List String :=
  (pairs.filter (·.1 = name)).map (·.2)

/-- The text, unless it is empty. -/
def nonEmpty? (s : String) : Option String :=
  if s.isEmpty then none else some s

/-- The tenant that a request names, by a parameter first and then by a header. -/
def resolveTenant (parameter header : Option String) : String :=
  ((parameter.bind nonEmpty?).or (header.bind nonEmpty?)).getD defaultTenant

/-- The format with a name, or the default without one. -/
def readFormat : Option String → Except ParameterFault OutputFormat
  | none => .ok .json
  | some name =>
    match OutputFormat.ofName? name with
    | some f => .ok f
    | none => .error (.format name.toLower)

/-- The pairs of a query string and a body, in this order. -/
def parameterPairs (query body : String) : List (String × String) :=
  Text.formPairs (Text.bytes query.toList) ++ Text.formPairs (Text.bytes body.toList)

namespace Parameters

/-- The parameters that a list of pairs gives. -/
def ofPairs (pairs : List (String × String)) (header : Option String) (now : Int) :
    Except ParameterFault Parameters := do
  let targets := (allValues pairs "target").filter fun t => !Text.isAllBlank t.toList
  if targets.isEmpty then throw .noTarget
  let start ← readTime "from" ((lastValue? pairs "from").getD "-1d") now
  let stop ← readTime "until" ((lastValue? pairs "until").getD "now") now
  if stop ≤ start then throw (.emptyRange start stop)
  let format ← readFormat (lastValue? pairs "format")
  return ⟨resolveTenant (lastValue? pairs "tenant") header, targets, start, stop, format⟩

/-- The parameters of a request : those of its query, and then those of its body. -/
def read (query body : String) (header : Option String) (now : Int) :
    Except ParameterFault Parameters :=
  ofPairs (parameterPairs query body) header now

/-- Reject a range of more than `limit` seconds. -/
def checkRange (p : Parameters) (limit : Nat) : Except ParameterFault Unit :=
  if p.stop - p.start ≤ limit then .ok () else .error (.wideRange (p.stop - p.start) limit)

end Parameters

end SeriesRender
