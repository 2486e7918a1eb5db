import SeriesRender.NumberText
import SeriesRender.Output.Calendar
import SeriesRender.Output.Json
import SeriesRender.Series

/-!
# Output formats

Series are written as JSON, always with exact numbers, as CSV with one line for each sample, or
raw with one line for each series. CSV and raw write samples in a given style. JSON and CSV write
the instant of each sample, and crash where one cannot be found.
-/

namespace SeriesRender

/-- The formats that series are sent in. -/
inductive OutputFormat
  | json
  | csv
  | raw
  deriving DecidableEq, Repr

/-- What is sent for a completed request. -/
structure Response where
  contentType : String
  body : String
  deriving DecidableEq, Repr

namespace OutputFormat

/-- The format with a name, in any case. -/
def ofName? (name : String) : Option OutputFormat :=
  match name.toLower with
  | "json" => some json
  | "csv" => some csv
  | "raw" => some raw
  | _ => none

/-- What the client is told that the body is. -/
def contentType : OutputFormat → String
  | json => "application/json"
  | csv => "text/csv"
  | raw => "text/plain"

/-- The style that suits a format's readers. -/
def style : OutputFormat → NumberStyle
  | json => .machine
  | csv => .human
  | raw => .human

end OutputFormat

/-- The digits of an integer. -/
def intChars (n : Int) : List Char :=
  Decimal.signed (n < 0) (Decimal.digitChars n.natAbs)

/-! ## JSON -/

/-- A sample in JSON; a missing one is null. -/
def sampleJson : Option Float → Json
  | some x => .ofFloat x
  | none => .null

/-- A series with its samples, each beside its timestamp. -/
def Series.json (s : Series) : Except Overflow Json := do
  let instants ← s.timestamps
  return .object [("target", .string s.name),
    ("datapoints", .array ((s.samples.zip instants).map fun (x, t) =>
      .array [sampleJson x, .ofInt t]))]

/-- An array with an object for each series. -/
def jsonBody (series : List Series) : Except Overflow (List Char) := do
  let elements ← series.mapM Series.json
  return (Json.array elements).compact

/-! ## CSV -/

/-- Name, time and value; nothing for a missing sample, and the bare timestamp where the calendar
ends. -/
def csvLine (style : NumberStyle) (name : List Char) (sample : Option Float) (timestamp : Int) :
    List Char :=
  let time := (Calendar.chars? timestamp).getD (intChars timestamp)
  let value := (sample.map style.chars).getD []
  name ++ ',' :: (time ++ ',' :: (value ++ ['\n']))

/-- The lines of a series. -/
def Series.csv (style : NumberStyle) (s : Series) : Except Overflow (List Char) := do
  let instants ← s.timestamps
  return (s.samples.zip instants).flatMap fun (x, t) => csvLine style s.name.toList x t

/-- The lines of all series. -/
def csvBody (style : NumberStyle) (series : List Series) : Except Overflow (List Char) := do
  let bodies ← series.mapM (Series.csv style)
  return bodies.flatten

/-! ## Raw -/

/-- A sample in a raw line. -/
def rawSample (style : NumberStyle) : Option Float → List Char
  | some x => style.chars x
  | none => ['N', 'o', 'n', 'e']

/-- Name, start, end and step, and after a bar the samples. -/
def rawLine (style : NumberStyle) (s : Series) : List Char :=
  s.name.toList ++ ',' :: (intChars s.start ++ ',' :: (intChars s.stop ++ ',' ::
    (intChars s.step ++ '|' :: ([','].intercalate (s.samples.map (rawSample style)) ++ ['\n']))))

/-- A line for each series. -/
def rawBody (style : NumberStyle) (series : List Series) : List Char :=
  series.flatMap (rawLine style)

/-- Series in a format. -/
def formatSeries (format : OutputFormat) (style : NumberStyle) (series : List Series) :
    Except Overflow Response := do
  let body ← match format with
    | .json => jsonBody series
    | .csv => csvBody style series
    | .raw => .ok (rawBody style series)
  return ⟨format.contentType, String.ofList body⟩

end SeriesRender
