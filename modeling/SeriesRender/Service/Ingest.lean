import SeriesRender.Decimal.Reading
import SeriesRender.Store.Memory
import SeriesRender.Text.Blank

/-!
# Writing points

Points are sent as text, one to a line : a path, a value and a timestamp, between blanks. Blank
lines are skipped. A line that is anything else rejects the whole text; the points are then
written one after the other, until one of them cannot be.
-/

namespace SeriesRender

/-- A value to be written. -/
structure Point where
  path : String
  value : Float
  timestamp : Int
  deriving DecidableEq

/-- Why points were not written. -/
inductive IngestError
  | malformed (number : Nat) (line : String)
  | outOfRange (timestamp : Int)
  deriving DecidableEq, Repr

/-- What a client is told about points that are refused. -/
def IngestError.message : IngestError → String
  | malformed number line => "malformed line " ++ toString number ++ ": " ++ line
  | outOfRange timestamp => "timestamp out of range: " ++ toString timestamp

namespace Point

/-- The point on a line. A timestamp may have a fraction, which is dropped, but must be finite. -/
def ofLine? (line : List Char) : Option Point :=
  match Text.fields line with
  | [path, value, timestamp] => do
    let value ← Decimal.readFloat? value
    let timestamp ← (Decimal.readFloat? timestamp).filter Float.isFinite
    return ⟨String.ofList path, value, Timestamp.ofFloat timestamp⟩
  | _ => none

/-- The points on lines, the first of which has the given number. -/
def ofLines (number : Nat) : List (List Char) → Except IngestError (List Point)
  | [] => .ok []
  | line :: lines =>
    if Text.isAllBlank line then ofLines (number + 1) lines
    else
      match ofLine? line with
      | none => .error (.malformed number (String.ofList line))
      | some point => (ofLines (number + 1) lines).map (point :: ·)

/-- The points that a text holds. -/
def ofText (text : String) : Except IngestError (List Point) :=
  ofLines 1 (Text.lines text.toList)

end Point

namespace MemoryStore

/-- Write points in order, up to the first one that cannot be written. -/
def insertAll (s : MemoryStore) (tenant : String) :
    List Point → Except IngestError Unit × MemoryStore
  | [] => (.ok (), s)
  | p :: ps =>
    match s.insert tenant p.path p.timestamp p.value with
    | .ok s => s.insertAll tenant ps
    | .error _ => (.error (.outOfRange p.timestamp), s)

/-- Write the points that a text holds. -/
def ingest (s : MemoryStore) (tenant text : String) : Except IngestError Unit × MemoryStore :=
  match Point.ofText text with
  | .error e => (.error e, s)
  | .ok points => s.insertAll tenant points

end MemoryStore

end SeriesRender
