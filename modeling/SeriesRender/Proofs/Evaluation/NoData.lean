import SeriesRender.Proofs.Evaluation.Validation

/-!
# Evaluation without data

Over a store that has no series for any pattern, no operation fails for what it is applied to : a
valid expression has no series either. What is left to fail are the literals that validation does
not look at (`Registry.literalFault?`). `result_evaluate_of_empty` goes through the calls of an
expression in the order in which they are read, and `evaluate_without_data` says that the first call
with such a literal is the error of the evaluation, and that without one there is no error.
-/

namespace SeriesRender

open Target

/-! ## Literals of several calls -/

/-- What is wrong with the literals of a valid call. -/
def Registry.literalFault? (r : Registry) (call : String × List Expr) : Option ArgumentFault :=
  (r.find? call.1).bind fun f => f.literalFault? call.2

/-- Look at the literals of calls, one call after the other. -/
def Registry.checkLiterals (r : Registry) : List (String × List Expr) → Except EvalError Unit
  | [] => .ok ()
  | call :: calls =>
    match r.literalFault? call with
    | some fault => .error (.invalidArgument call.1 fault)
    | none => r.checkLiterals calls

namespace Registry

variable {r : Registry} {before after : List (String × List Expr)} {call : String × List Expr}

theorem checkLiterals_append : r.checkLiterals (before ++ after) =
    r.checkLiterals before >>= fun _ => r.checkLiterals after := by
  induction before with
  | nil => rfl
  | cons call before ih =>
    rw [List.cons_append, checkLiterals, checkLiterals]
    cases r.literalFault? call with
    | none => exact ih
    | some fault => rfl

theorem checkLiterals_of_forall (h : ∀ call ∈ before, r.literalFault? call = none) :
    r.checkLiterals before = .ok () := by
  induction before with
  | nil => rfl
  | cons call before ih =>
    rw [List.forall_mem_cons] at h
    rw [checkLiterals, h.1]
    exact ih h.2

/-- The first fault counts. -/
theorem checkLiterals_of_first {fault : ArgumentFault}
    (hbefore : ∀ call ∈ before, r.literalFault? call = none)
    (hcall : r.literalFault? call = some fault) :
    r.checkLiterals (before ++ call :: after) = .error (.invalidArgument call.1 fault) := by
  rw [checkLiterals_append, checkLiterals_of_forall hbefore]
  change r.checkLiterals (call :: after) = _
  rw [checkLiterals, hcall]

/-- Of the catalogue, only `limit` and `aliasByNode` have such literals. -/
theorem name_of_literalFault?_standard {fault : ArgumentFault}
    (h : standard.literalFault? call = some fault) :
    call.1 = "limit" ∨ call.1 = "aliasByNode" := by
  obtain ⟨f, hf, hfault⟩ := Option.bind_eq_some_iff.1 h
  exact (isLate_of_literalFault? hf hfault).imp And.left And.left

end Registry

/-! ## Evaluation -/

variable {c : Context} {args : List Expr}

/-- If every argument that is a series is what the literals of its calls make it, so are all of
them, one after the other. -/
theorem result_evaluateSeries_of_empty (h : ∀ arg ∈ args, arg.kind = .series →
      (evaluate c arg).result = (c.registry.checkLiterals arg.calls).map fun _ => []) :
    (evaluateSeries c args).result =
      (c.registry.checkLiterals (Expr.listCalls args)).map fun _ => [] := by
  induction args with
  | nil => exact result_evaluateSeries_nil c
  | cons arg args ih =>
    rw [List.forall_mem_cons] at h
    rw [Expr.listCalls, Registry.checkLiterals_append]
    by_cases hk : arg.kind = .series
    · rw [result_evaluateSeries_of_series hk, h.1 hk, ih h.2]
      cases c.registry.checkLiterals arg.calls with
      | error e => rfl
      | ok _ => cases c.registry.checkLiterals (Expr.listCalls args) <;> rfl
    · rw [evaluateSeries_of_literal hk, ih h.2]
      cases arg with
      | literal l =>
        rw [Expr.calls]
        rfl
      | selector | call => exact absurd rfl hk

/-- Where nothing is found, only the literals of a valid tree can still be refused. -/
theorem result_evaluate_of_empty {e : Expr} (hvalid : validate c.registry e = .ok ())
    (hempty : ∀ pattern, (c.source pattern).series = .ok []) :
    (evaluate c e).result = (c.registry.checkLiterals e.calls).map fun _ => [] := by
  induction e using Expr.inductionOn with
  | selector pattern =>
    rw [result_evaluate_selector, hempty, Expr.calls]
    rfl
  | literal l => cases hvalid
  | call name args ih =>
    obtain ⟨f, hf, hcheck, hargs⟩ := validate_call_eq_ok_iff.1 hvalid
    have hinputs : (evaluateSeries c args).result =
        (c.registry.checkLiterals (Expr.listCalls args)).map fun _ => [] :=
      result_evaluateSeries_of_empty fun arg harg hk =>
        ih arg harg (validateCalls_eq_ok_iff.1 hargs arg harg hk)
    have hfault : c.registry.literalFault? (name, args) = f.literalFault? args := by
      rw [Registry.literalFault?, hf, Option.bind_some]
    rw [Expr.calls, Registry.checkLiterals, hfault]
    rcases SeriesFunction.operation_of_check hcheck with ⟨hnone, o, ho⟩ | ⟨fault, hsome, ho⟩
    · rw [hnone, result_evaluate_call_of_ok (callOperation_eq_ok_iff.2 ⟨f, hf, hcheck, ho⟩),
        hinputs]
      cases c.registry.checkLiterals (Expr.listCalls args) with
      | error e => rfl
      | ok _ => exact o.apply_nil c.style name args
    · rw [hsome, result_evaluate_call_of_error (callOperation_eq_error hf hcheck ho)]
      rfl

/-- A valid expression has no series over a store without data, unless one of its calls has a count
or an index that is no good : then the first such call, as they are read, is the error. -/
theorem evaluate_without_data (style : NumberStyle) (source : Source) (e : Expr)
    (hvalid : validate .standard e = .ok ())
    (hempty : ∀ pattern, (source pattern).series = .ok []) :
    ((∀ call ∈ e.calls, Registry.standard.literalFault? call = none) →
      (evaluate ⟨.standard, style, source⟩ e).result = .ok []) ∧
    ∀ before call after fault, e.calls = before ++ call :: after →
      (∀ b ∈ before, Registry.standard.literalFault? b = none) →
      Registry.standard.literalFault? call = some fault →
      (call.1 = "limit" ∨ call.1 = "aliasByNode") ∧
        (evaluate ⟨.standard, style, source⟩ e).result =
          .error (.invalidArgument call.1 fault) := by
  have hresult := result_evaluate_of_empty (c := ⟨.standard, style, source⟩) hvalid hempty
  dsimp only at hresult
  rw [hresult]
  constructor
  · intro h
    rw [Registry.checkLiterals_of_forall h]
    rfl
  · intro before call after fault hcalls hbefore hcall
    refine ⟨Registry.name_of_literalFault?_standard hcall, ?_⟩
    rw [hcalls, Registry.checkLiterals_of_first hbefore hcall]
    rfl

/-- Several calls with no such literal. -/
def nestedCalls : Expr := .call "sumSeries" [.call "absolute" [.selector "a"], .selector "b"]

/-- Without data, calls that pass validation have no series, but a negative limit is an error. -/
theorem evaluate_without_data_nestedCalls :
    validate .standard nestedCalls = .ok () ∧
      (evaluate ⟨.standard, .machine, noData⟩ nestedCalls).result = .ok [] ∧
      validate .standard negativeLimit = .ok () ∧
      (evaluate ⟨.standard, .machine, noData⟩ negativeLimit).result =
        .error (.invalidArgument "limit" (.limit (-1.0))) := by
  have hnested := (evaluate_without_data .machine noData nestedCalls rfl fun _ => rfl).1 (by decide)
  have hnegative := (evaluate_without_data .machine noData negativeLimit rfl fun _ => rfl).2 [] _ []
    _ rfl (List.forall_mem_nil _) literalFault?_negativeLimit
  exact ⟨rfl, hnested, rfl, hnegative.2⟩

/-- So it is not the case that every valid expression evaluates over a store without data. -/
theorem exists_error_without_data :
    ¬∀ (style : NumberStyle) (source : Source) (e : Expr), validate .standard e = .ok () →
      (∀ pattern, (source pattern).series = .ok []) →
        (evaluate ⟨.standard, style, source⟩ e).result = .ok [] := by
  intro h
  have hok := h .machine noData negativeLimit rfl fun _ => rfl
  rw [result_evaluate_negativeLimit] at hok
  cases hok

end SeriesRender
