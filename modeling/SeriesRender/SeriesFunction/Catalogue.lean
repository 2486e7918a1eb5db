import SeriesRender.SeriesFunction.Combine
import SeriesRender.SeriesFunction.Filter
import SeriesRender.SeriesFunction.Rename
import SeriesRender.SeriesFunction.Signature
import SeriesRender.SeriesFunction.Transform

/-!
# The functions

A call is checked in two steps. `SeriesFunction.check` looks at the arguments as they are
written : their number and kinds, regular expressions and the names of statistics.
`SeriesFunction.operation` turns them into an `Operation` on series; it also rejects a limit that
is no count and a node index that is no integer. `Operation.apply` is what is left to do once the
series are there.
-/

namespace SeriesRender

open Target

/-- The functions that a target can call; several names can lead to one of them. -/
inductive SeriesFunction
  | averageSeries
  | combineSeries (r : Reducer)
  | scale
  | offset
  | absolute
  | derivative
  | nonNegativeDerivative
  | transformNull
  | threshold (level : Level) (side : Side)
  | matchName (keepMatches : Bool)
  | limit
  | setAlias
  | aliasByNode
  | aliasSub
  | legendValue
  deriving DecidableEq, Repr

/-- A call with its literal arguments read. -/
inductive Operation
  | combine (r : Reducer)
  | transform (t : Transform)
  | filter (f : Filter)
  | rename (r : Renaming)

namespace SeriesFunction

/-- The arguments that a function takes. -/
def signature : SeriesFunction → Signature
  | averageSeries => .exact [.series]
  | combineSeries _ => .withRest [.series] .series
  | scale => .exact [.series, .number]
  | offset => .exact [.series, .number]
  | absolute => .exact [.series]
  | derivative => .exact [.series]
  | nonNegativeDerivative => .withOptional [.series] [.number]
  | transformNull => .withOptional [.series] [.number]
  | threshold _ _ => .exact [.series, .number]
  | matchName _ => .exact [.series, .string]
  | limit => .exact [.series, .number]
  | setAlias => .exact [.series, .string]
  | aliasByNode => .withRest [.series, .number] .number
  | aliasSub => .exact [.series, .string, .string]
  | legendValue => .withRest [.series, .string] .string

/-! ## Reading arguments -/

/-- The number literal at an index. -/
def numberAt (args : List Expr) (index : Nat) : Except ArgumentFault Float :=
  match (args[index]?).bind Expr.asNumber? with
  | some x => .ok x
  | none => .error (.missing (index + 1) .number)

/-- The string literal at an index. -/
def stringAt (args : List Expr) (index : Nat) : Except ArgumentFault String :=
  match (args[index]?).bind Expr.asString? with
  | some s => .ok s
  | none => .error (.missing (index + 1) .string)

/-- The regular expression at an index. -/
def regexAt (args : List Expr) (index : Nat) : Except ArgumentFault Regex := do
  let pattern ← stringAt args index
  (Regex.ofText pattern.toList).mapError (.regex pattern)

/-- A number with a part behind the point, or none at all. -/
def hasFraction (x : Float) : Bool :=
  !Decimal.isWhole x

/-- The count that a limit asks for. -/
def limitAt (args : List Expr) (index : Nat) : Except ArgumentFault Float := do
  let x ← numberAt args index
  if x < 0.0 || hasFraction x then throw (.limit x)
  return x

/-- The node indices that arguments ask for. -/
def nodeIndices : List Expr → Except ArgumentFault (List Int)
  | [] => .ok []
  | arg :: args =>
    match arg.asNumber? with
    | none => .error (.nodeIndex arg.text)
    | some x =>
      if hasFraction x then .error (.nodeIndex arg.text)
      else (nodeIndices args).map (Decimal.wholePart x :: ·)

/-- The names of statistics, each of which must be known. -/
def checkStatistics : List Expr → Except ArgumentFault Unit
  | [] => .ok ()
  | arg :: args =>
    let name := arg.asString?.getD ""
    if (Statistic.ofName? name).isSome then checkStatistics args else .error (.statistic name)

/-- The statistics that arguments ask for, with the names they were asked for by. -/
def statistics (args : List Expr) : List (String × Statistic) :=
  (args.filterMap Expr.asString?).filterMap fun name =>
    (Statistic.ofName? name).map fun s => (name, s)

/-- The number at an index, if there are so many arguments. -/
def optionalNumber (args : List Expr) (index : Nat) : Except ArgumentFault (Option Float) :=
  if index < args.length then (numberAt args index).map some else .ok none

/-! ## Checking and instantiating calls -/

/-- Check arguments as they are written. -/
def check (f : SeriesFunction) (args : List Expr) : Except ArgumentFault Unit := do
  f.signature.check args
  match f with
  | matchName _ => discard (regexAt args 1)
  | aliasSub => discard (regexAt args 1)
  | legendValue => checkStatistics args.tail
  | _ => return ()

/-- What a call does to its series. -/
def operation (f : SeriesFunction) (args : List Expr) : Except ArgumentFault Operation :=
  match f with
  | averageSeries => .ok (.combine .average)
  | combineSeries r => .ok (.combine r)
  | scale => (numberAt args 1).map fun x => .transform (.scale x)
  | offset => (numberAt args 1).map fun x => .transform (.offset x)
  | absolute => .ok (.transform .absolute)
  | derivative => .ok (.transform .derivative)
  | nonNegativeDerivative =>
    (optionalNumber args 1).map fun x => .transform (.nonNegativeDerivative x)
  | transformNull =>
    (optionalNumber args 1).map fun x => .transform (.transformNull (x.getD 0.0))
  | threshold level side =>
    (numberAt args 1).map fun x => .filter (.threshold level side x)
  | matchName keepMatches => (regexAt args 1).map fun r => .filter (.name keepMatches r)
  | limit => (limitAt args 1).map fun x => .filter (.limit x)
  | setAlias => (stringAt args 1).map fun s => .rename (.whole s)
  | aliasByNode => (nodeIndices args.tail).map fun indices => .rename (.byNode indices)
  | aliasSub => do
    let regex ← regexAt args 1
    let text ← stringAt args 2
    return .rename (.substitute regex (Regex.backreferences text.toList))
  | legendValue => .ok (.rename (.legend (statistics args.tail)))

end SeriesFunction

/-- Apply the operation of a call to its series. -/
def Operation.apply (o : Operation) (style : NumberStyle) (function : String) (args : List Expr)
    (inputs : List Series) : Except EvalError (List Series) :=
  match o with
  | combine r => SeriesRender.combine function (Expr.call function args).text r inputs
  | transform t => .ok (t.apply function args inputs)
  | filter f => .ok (f.apply inputs)
  | rename r => (r.apply style inputs).mapError (.invalidArgument function)

/-! ## Names -/

/-- The functions that calls may name. -/
structure Registry where
  functions : List (String × SeriesFunction)

namespace Registry

/-- The function with a name. -/
def find? (r : Registry) (name : String) : Option SeriesFunction :=
  r.functions.lookup name

/-- Whether there is a function with a name. -/
def contains (r : Registry) (name : String) : Bool :=
  (r.find? name).isSome

/-- The number of names. -/
def size (r : Registry) : Nat :=
  r.functions.length

/-- A registry without functions. -/
def empty : Registry := ⟨[]⟩

/-- All functions, under all their names, in the order of the names. -/
def standard : Registry := ⟨[
  ("absolute", .absolute),
  ("alias", .setAlias),
  ("aliasByNode", .aliasByNode),
  ("aliasSub", .aliasSub),
  ("averageAbove", .threshold .average .above),
  ("averageBelow", .threshold .average .below),
  ("averageSeries", .averageSeries),
  ("avg", .averageSeries),
  ("currentAbove", .threshold .current .above),
  ("currentBelow", .threshold .current .below),
  ("derivative", .derivative),
  ("diffSeries", .combineSeries .diff),
  ("exclude", .matchName false),
  ("grep", .matchName true),
  ("legendValue", .legendValue),
  ("limit", .limit),
  ("maxSeries", .combineSeries .max),
  ("minSeries", .combineSeries .min),
  ("nonNegativeDerivative", .nonNegativeDerivative),
  ("offset", .offset),
  ("rangeSeries", .combineSeries .range),
  ("scale", .scale),
  ("sum", .combineSeries .sum),
  ("sumSeries", .combineSeries .sum),
  ("transformNull", .transformNull)]⟩

/-- A listing of the names for diagnostics. -/
def describe (r : Registry) : String :=
  let names := ", ".intercalate (r.functions.map fun (name, _) => "\"" ++ name ++ "\"")
  "FunctionRegistry ".push '{' ++ " functions: [" ++ names ++ "] ".push '}'

end Registry

end SeriesRender
