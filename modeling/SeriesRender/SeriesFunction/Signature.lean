import SeriesRender.SeriesFunction.Error

/-!
# Signatures

A signature lists the kinds of the arguments that a function requires, those that may follow,
and the kind of any further ones. `Signature.check` accepts an argument list of the right length
whose arguments have the kinds at their positions, and otherwise names the first fault.
-/

namespace SeriesRender

open Target

/-- The kinds of arguments : those that have to be given, those that may be, and those of any number
at the end. -/
structure Signature where
  required : List Kind
  optional : List Kind
  variadic : Option Kind
  deriving Repr

namespace Signature

/-- No more and no fewer arguments than these. -/
def exact (required : List Kind) : Signature :=
  ⟨required, [], none⟩

/-- A signature with arguments that may be left out. -/
def withOptional (required optional : List Kind) : Signature :=
  ⟨required, optional, none⟩

/-- Any number of further arguments of one kind. -/
def withRest (required : List Kind) (rest : Kind) : Signature :=
  ⟨required, [], some rest⟩

/-- How many arguments have to be given. -/
def least (s : Signature) : Nat :=
  s.required.length

/-- How many can be given, if there is no rest of any length. -/
def most (s : Signature) : Nat :=
  s.required.length + s.optional.length

/-- The numbers of arguments that are admitted. -/
def arity (s : Signature) : Arity :=
  if s.variadic.isSome then .atLeast s.least
  else if s.least = s.most then .exactly s.least
  else .between s.least s.most

/-- Whether a list of `n` arguments has an admissible length. -/
def admits (s : Signature) (n : Nat) : Bool :=
  s.least ≤ n && (s.variadic.isSome || n ≤ s.most)

/-- The kind that the argument at an index must have. -/
def kindAt? (s : Signature) (index : Nat) : Option Kind :=
  (s.required ++ s.optional)[index]?.or s.variadic

/-- Compare the arguments from `index` on with the kinds at their positions. -/
def checkKinds (s : Signature) (index : Nat) : List Expr → Except ArgumentFault Unit
  | [] => .ok ()
  | arg :: args =>
    match s.kindAt? index with
    | none => s.checkKinds (index + 1) args
    | some expected =>
      if arg.kind = expected then s.checkKinds (index + 1) args
      else .error (.kind (index + 1) arg.kind arg.text expected)

/-- Whether the number of arguments is admitted, and then whether each is of its kind. -/
def check (s : Signature) (args : List Expr) : Except ArgumentFault Unit :=
  if s.admits args.length then s.checkKinds 0 args
  else .error (.count args.length s.arity)

end Signature

end SeriesRender
