import SeriesRender.Target.Expr

/-!
# The calls and the selectors of an expression

`Expr.calls` lists the calls of an expression in the order in which they are read : a call before
those among its arguments, and arguments from left to right. `Expr.selectors` lists the patterns of
its selectors, from left to right. `Expr.inductionOn` is induction over expressions, with a
hypothesis for each argument of a call.
-/

namespace SeriesRender.Target

/-- Induction over a tree, where a call may assume the statement of each of its arguments. -/
@[elab_as_elim]
theorem Expr.inductionOn {motive : Expr → Prop}
    (selector : ∀ pattern, motive (.selector pattern)) (literal : ∀ l, motive (.literal l))
    (call : ∀ name args, (∀ arg ∈ args, motive arg) → motive (.call name args)) (e : Expr) :
    motive e :=
  Expr.rec (motive_1 := motive) (motive_2 := fun args => ∀ arg ∈ args, motive arg) selector
    literal call (fun _ h => absurd h List.not_mem_nil)
    (fun _ _ head tail => List.forall_mem_cons.2 ⟨head, tail⟩) e

mutual

/-- The calls of an expression, each with its arguments. -/
def Expr.calls : Expr → List (String × List Expr)
  | .selector _ => []
  | .literal _ => []
  | .call name args => (name, args) :: Expr.listCalls args

/-- The calls of a list of trees, from left to right. -/
def Expr.listCalls : List Expr → List (String × List Expr)
  | [] => []
  | e :: es => e.calls ++ Expr.listCalls es

end

mutual

/-- The patterns of the selectors of an expression, each as often as it occurs. -/
def Expr.selectors : Expr → List String
  | .selector pattern => [pattern]
  | .literal _ => []
  | .call _ args => Expr.listSelectors args

/-- The selectors of a list of trees, from left to right. -/
def Expr.listSelectors : List Expr → List String
  | [] => []
  | e :: es => e.selectors ++ Expr.listSelectors es

end

/-- An expression that is no series has no selector. -/
theorem Expr.selectors_of_literal {e : Expr} (h : e.kind ≠ .series) : e.selectors = [] := by
  cases e with
  | literal l => rw [selectors]
  | selector | call => exact absurd rfl h

end SeriesRender.Target
