import SeriesRender.NumberText
import SeriesRender.Regex.Template
import SeriesRender.Series
import SeriesRender.SeriesFunction.Error
import SeriesRender.Text.Blank

/-!
# Renaming series

A renamer gives each series another name and leaves its samples alone. Nodes are the segments of
the path at the heart of a name (`basePath`), whatever functions have decorated it with.
-/

namespace SeriesRender

/-- A number that sums up a series. -/
inductive Statistic
  | average
  | total
  | min
  | max
  | last
  deriving DecidableEq, Repr

namespace Statistic

/-- The statistic with a name. -/
def ofName? (name : String) : Option Statistic :=
  match name with
  | "avg" => some average
  | "total" => some total
  | "sum" => some total
  | "min" => some min
  | "max" => some max
  | "last" => some last
  | _ => none

/-- The value of a statistic, if the series has a sample. -/
def ofSeries (s : Series) : Statistic → Option Float
  | average => mean? s.present
  | total => reduce (· + ·) s.present
  | min => reduce lesser s.present
  | max => reduce greater s.present
  | last => s.lastPresent?

end Statistic

/-- The ways to find a new name. -/
inductive Renaming
  | whole (name : String)
  /-- The nodes at these indices, joined by dots; negative ones count from the end. -/
  | byNode (indices : List Int)
  /-- Every match of the expression replaced by the expanded template. -/
  | substitute (regex : Regex) (template : List Char)
  /-- The name followed by statistics, each under the name it was asked for. -/
  | legend (statistics : List (String × Statistic))

namespace Renaming

/-- The metric path at the heart of a name : what follows the last opening parenthesis, up to the
first comma or closing parenthesis. -/
def basePath (name : List Char) : List Char :=
  ((name.reverse.takeWhile (· ≠ '(')).reverse).takeWhile fun c => c ≠ ',' && c ≠ ')'

/-- The segments of a dotted path. -/
def nodes (path : List Char) : List (List Char) :=
  Text.splitOn '.' path

/-- The node at an index, a negative one counting from the end. -/
def nodeAt? (nodes : List (List Char)) (index : Int) : Option (List Char) :=
  let resolved := if index < 0 then nodes.length + index else index
  if resolved < 0 then none else nodes[resolved.toNat]?

/-- The nodes at some indices, if there is one at each. -/
def pick (nodes : List (List Char)) (name : String) :
    List Int → Except ArgumentFault (List (List Char))
  | [] => .ok []
  | index :: rest =>
    match nodeAt? nodes index with
    | none => .error (.nodeOutOfRange index name)
    | some node => (pick nodes name rest).map (node :: ·)

/-- What the legend appends for one statistic. -/
def legendChars (style : NumberStyle) (s : Series) : String × Statistic → List Char
  | (label, statistic) =>
    let value := match statistic.ofSeries s with
      | some x => style.chars x
      | none => ['N', 'o', 'n', 'e']
    ' ' :: '(' :: (label.toList ++ ':' :: ' ' :: (value ++ [')']))

/-- The new name of a series. -/
def nameOf (style : NumberStyle) (s : Series) : Renaming → Except ArgumentFault String
  | whole name => .ok name
  | byNode indices =>
    (pick (nodes (basePath s.name.toList)) s.name indices).map fun picked =>
      String.ofList (['.'].intercalate picked)
  | substitute regex template =>
    .ok (String.ofList (regex.replaceAll template s.name.toList))
  | legend statistics =>
    .ok (String.ofList (s.name.toList ++ statistics.flatMap (legendChars style s)))

/-- Rename every series, or fail at the first that cannot be. -/
def apply (style : NumberStyle) (r : Renaming) : List Series → Except ArgumentFault (List Series)
  | [] => .ok []
  | s :: rest => do
    let name ← r.nameOf style s
    let renamed ← r.apply style rest
    return s.rename name :: renamed

end Renaming

end SeriesRender
