import SeriesRender.SeriesFunction.Error
import SeriesRender.Target.Token

/-!
# Rejected and failed requests
-/

namespace SeriesRender

/-- What is wrong with a parameter. -/
inductive ParameterFault
  | noTarget
  | time (name value : String)
  | emptyRange (start stop : Int)
  | format (name : String)
  | wideRange (span limit : Int)
  | target (error : Target.ParseError)
  deriving DecidableEq, Repr

/-- What a client is told about a parameter. -/
def ParameterFault.message : ParameterFault → String
  | noTarget => "no target specified"
  | time name value => "invalid " ++ name ++ " value: " ++ value
  | emptyRange start stop =>
    "from (" ++ toString start ++ ") must be before until (" ++ toString stop ++ ")"
  | format name => "unsupported format: " ++ name
  | wideRange span limit =>
    "time range of " ++ toString span ++ "s exceeds the maximum of " ++ toString limit ++ "s"
  | target error => error.message

/-- How a failed request is reported : a parameter that is missing or malformed, a request that
the engine refuses, a failure that is no business of the client's, or an evaluation that crashed. -/
inductive RenderError
  | invalidParameter (fault : ParameterFault)
  | badRequest (error : EvalError)
  | internal (error : EvalError)
  | crashed (overflow : Overflow)

namespace RenderError

/-- The report of an evaluation that failed. -/
def ofEvalError (e : EvalError) : RenderError :=
  match e.overflow? with
  | some overflow => .crashed overflow
  | none => if e.isUserError then .badRequest e else .internal e

/-- The whole text, for those who run the service. Tasks have numbers, which are left out. -/
def message : RenderError → String
  | invalidParameter fault => fault.message
  | badRequest error => error.message
  | internal error => "internal error: " ++ error.message
  | crashed overflow =>
    "internal error: evaluation task failed: task panicked with message \"" ++ overflow.message ++
      "\""

/-- The status of a response that reports the error. -/
def status : RenderError → Nat
  | invalidParameter _ => 400
  | badRequest _ => 400
  | internal _ => 500
  | crashed _ => 500

/-- What a client is told : a category and a text, which says nothing of an internal failure. -/
def report : RenderError → String × String
  | invalidParameter fault => ("invalid_parameter", fault.message)
  | badRequest error => ("bad_request", error.message)
  | internal _ => ("internal_error", "Internal server error")
  | crashed _ => ("internal_error", "Internal server error")

end RenderError

end SeriesRender
