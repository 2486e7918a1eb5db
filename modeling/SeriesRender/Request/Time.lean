import SeriesRender.Decimal.Reading
import SeriesRender.Request.Error
import SeriesRender.Text.Blank
import SeriesRender.Timestamp

/-!
# Times in requests

A time is `now`, a number of units before now such as `-90min`, or epoch seconds. Every step of
the arithmetic must fit a timestamp.
-/

namespace SeriesRender

/-- The seconds of a unit. -/
def unitSeconds? (unit : String) : Option Int :=
  match unit with
  | "s" => some 1
  | "min" => some 60
  | "h" => some 3600
  | "d" => some 86400
  | "w" => some (7 * 86400)
  | "mon" => some (30 * 86400)
  | "y" => some (365 * 86400)
  | _ => none

/-- So many units before `now`. -/
def relativeTime? (now : Int) (cs : List Char) : Option Int := do
  let amount ← Decimal.readNat? (cs.takeWhile Char.isDigit)
  let amount ← Timestamp.checked amount
  let unit ← unitSeconds? (String.ofList (cs.dropWhile Char.isDigit))
  let offset ← Timestamp.checked (amount * unit)
  Timestamp.checked (now - offset)

/-- The instant that a text without surrounding blanks names. -/
def timeOf? (now : Int) (cs : List Char) : Option Int :=
  if cs.map Char.toLower = ['n', 'o', 'w'] then some now
  else
    match cs with
    | '-' :: rest => relativeTime? now rest
    | cs => (Decimal.readInt? cs).bind Timestamp.checked

/-- The instant that the value of a parameter names. -/
def readTime (name value : String) (now : Int) : Except ParameterFault Int :=
  match timeOf? now (Text.trim value.toList) with
  | some t => .ok t
  | none => .error (.time name value)

end SeriesRender
