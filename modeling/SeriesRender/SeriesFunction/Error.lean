import SeriesRender.Store.Error
import SeriesRender.Target.Expr

/-!
# Failures of evaluation

An evaluation fails because a call is wrong (`ArgumentFault`), because the store does, or because
it was cancelled. `EvalError.isUserError` tells what the author of a request can mend from what
is no business of theirs. An evaluation can also crash (`EvalError.overflow?`), on its own or in the
store.
-/

namespace SeriesRender

open Target

/-- How many arguments a function takes. -/
inductive Arity
  | atLeast (n : Nat)
  | exactly (n : Nat)
  | between (least most : Nat)
  deriving DecidableEq, Repr

/-- A number in words as far as messages have words for it. -/
def spell : Nat → String
  | 0 => "zero"
  | 1 => "one"
  | 2 => "two"
  | 3 => "three"
  | n => toString n

/-- The numbers of arguments that are admitted, in words. -/
def Arity.describe : Arity → String
  | .atLeast n => "at least " ++ spell n
  | .exactly n => spell n
  | .between least most => "between " ++ spell least ++ " and " ++ spell most

/-- What is wrong with the arguments of a call. Positions count from one. -/
inductive ArgumentFault
  | count (given : Nat) (expected : Arity)
  | kind (position : Nat) (given : Kind) (text : String) (expected : Kind)
  | missing (position : Nat) (expected : Kind)
  | regex (pattern : String) (error : Regex.PatternError)
  | limit (given : Float)
  | nodeIndex (text : String)
  | nodeOutOfRange (index : Int) (series : String)
  | statistic (name : String)

/-- What is said about the arguments, behind the name of the function. -/
def ArgumentFault.message : ArgumentFault → String
  | .count given expected =>
    "number of arguments is " ++ toString given ++ ". Must be " ++ expected.describe ++ "."
  | .kind position given text expected =>
    "argument " ++ toString position ++ " is " ++ given.name ++ " (" ++ text ++ "). Must be " ++
      expected.name ++ "."
  | .missing position expected =>
    "argument " ++ toString position ++ " must be a " ++ expected.name
  | .regex pattern error => "invalid regex '" ++ pattern ++ "': " ++ error.message
  | .limit given => "limit must be a non-negative integer, got " ++ Decimal.plain given
  | .nodeIndex text => "node index " ++ text ++ " must be an integer"
  | .nodeOutOfRange index series =>
    "node " ++ toString index ++ " is out of range for '" ++ series ++ "'"
  | .statistic name => "unknown statistic '" ++ name ++ "'"

/-- Why an evaluation fails. -/
inductive EvalError
  | invalidArgument (function : String) (fault : ArgumentFault)
  | notAligned (function : String)
  | unknownFunction (name : String)
  | notASeries (text : String)
  | store (error : StoreError)
  | cancelled
  /-- It does not come to an end. -/
  | crashed (overflow : Overflow)

/-- What is said about a failed evaluation. -/
def EvalError.message : EvalError → String
  | .invalidArgument function fault => function ++ ": " ++ fault.message
  | .notAligned function => function ++ ": time series are not aligned"
  | .unknownFunction name => "unknown function: " ++ name
  | .notASeries text => text ++ " is not a series expression"
  | .store error => error.message
  | .cancelled => "evaluation cancelled"
  | .crashed overflow => overflow.message

/-- What an evaluation crashed at, if it did. -/
def EvalError.overflow? : EvalError → Option Overflow
  | .store (.crashed overflow) => some overflow
  | .crashed overflow => some overflow
  | _ => none

/-- Whether the author of a request can mend the error. -/
def EvalError.isUserError : EvalError → Bool
  | .store (.unavailable _) => false
  | .store (.crashed _) => false
  | .cancelled => false
  | .crashed _ => false
  | _ => true

end SeriesRender
