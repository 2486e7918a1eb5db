import SeriesRender.Glob
import SeriesRender.Series

/-!
# Failures of a store
-/

namespace SeriesRender

/-- Why a store cannot answer. -/
inductive StoreError
  | unavailable (detail : String)
  | invalidPattern (pattern : String) (reason : String)
  | invalidRange (start stop : Int)
  /-- It does not answer at all. -/
  | crashed (overflow : Overflow)
  deriving DecidableEq, Repr

/-- What is said about a fetch that failed. -/
def StoreError.message : StoreError → String
  | unavailable detail => "storage backend unavailable: " ++ detail
  | invalidPattern pattern reason => "invalid series pattern '" ++ pattern ++ "': " ++ reason
  | invalidRange start stop =>
    "time range " ++ toString start ++ ".." ++ toString stop ++ " is out of bounds"
  | crashed overflow => overflow.message

/-- The matcher for a path pattern, or why the pattern cannot be used. -/
def matcher (pattern : String) : Except StoreError Regex :=
  (Glob.compile pattern.toList).mapError fun e => .invalidPattern pattern e.message

end SeriesRender
