import SeriesRender.Evaluation.Trace
import SeriesRender.SeriesFunction.Catalogue

/-!
# Evaluating expressions

A selector is fetched from the store. A call is checked, then the series among its arguments are
evaluated from left to right, and then its operation is applied to all their series. The evaluation
of an expression begins with a look for an interruption, and that of a call ends with another one.
`validate` makes the same static checks for a whole expression beforehand, without a store.
-/

namespace SeriesRender

open Target

/-- What evaluation needs to know besides the expression. -/
structure Context where
  registry : Registry
  style : NumberStyle
  source : Source

/-- The operation that a call stands for. -/
def callOperation (registry : Registry) (name : String) (args : List Expr) :
    Except EvalError Operation :=
  match registry.find? name with
  | none => .error (.unknownFunction name)
  | some f => ((f.check args).bind fun _ => f.operation args).mapError (.invalidArgument name)

mutual

/-- The series of an expression. -/
def evaluate (c : Context) : Expr → Trace (List Series)
  | .selector pattern => do
    Trace.check
    Trace.fetch c.source pattern
  | .literal l => do
    Trace.check
    Trace.ofExcept (.error (.notASeries l.text))
  | .call name args => do
    Trace.check
    let operation ← Trace.ofExcept (callOperation c.registry name args)
    let inputs ← evaluateSeries c args
    let series ← Trace.ofExcept (operation.apply c.style name args inputs)
    Trace.check
    return series

/-- The series of all arguments that are series. -/
def evaluateSeries (c : Context) : List Expr → Trace (List Series)
  | [] => return []
  | arg :: args =>
    if arg.kind = .series then do
      let series ← evaluate c arg
      let others ← evaluateSeries c args
      return series ++ others
    else evaluateSeries c args

end

/-- The series of several expressions, one expression after the other. -/
def evaluateAll (c : Context) : List Expr → Trace (List Series)
  | [] => return []
  | e :: es => do
    let series ← evaluate c e
    let others ← evaluateAll c es
    return series ++ others

mutual

/-- Check every call of an expression, outer ones first. -/
def validate (registry : Registry) : Expr → Except EvalError Unit
  | .selector _ => .ok ()
  | .literal l => .error (.notASeries l.text)
  | .call name args =>
    match registry.find? name with
    | none => .error (.unknownFunction name)
    | some f =>
      match f.check args with
      | .error fault => .error (.invalidArgument name fault)
      | .ok () => validateCalls registry args

/-- Check the calls among some arguments. -/
def validateCalls (registry : Registry) : List Expr → Except EvalError Unit
  | [] => .ok ()
  | .call name args :: rest =>
    match validate registry (.call name args) with
    | .error e => .error e
    | .ok () => validateCalls registry rest
  | _ :: rest => validateCalls registry rest

end

/-- Check several expressions in order. -/
def validateAll (registry : Registry) : List Expr → Except EvalError Unit
  | [] => .ok ()
  | e :: es =>
    match validate registry e with
    | .error err => .error err
    | .ok () => validateAll registry es

end SeriesRender
