import SeriesRender.Proofs.Evaluation.Trace
import SeriesRender.Proofs.SeriesFunction.Arguments

/-!
# Validation and evaluation

`validate` makes the static checks of a whole expression, `evaluate` makes them call by call on its
way. An expression that evaluates passes validation (`validate_of_evaluate`), since every call in it
has been reached. An expression that passes validation can still fail, but only in the ways of
`EvalError.IsLate` (`isLate_of_evaluate`) : of the arguments only the count of a `limit` and the
indices of an `aliasByNode` are looked at for the first time when the call is made.
`evaluate_agrees_validate` puts the two together, for evaluations with or without an interruption.
-/

namespace SeriesRender

open Target

/-! ## Validation -/

variable {registry : Registry} {name : String} {args : List Expr}

/-- A call is valid if its function is known, takes the arguments and they are valid themselves. -/
theorem validate_call_eq_ok_iff : validate registry (.call name args) = .ok () ↔
    ∃ f, registry.find? name = some f ∧ f.check args = .ok () ∧
      validateCalls registry args = .ok () := by
  rw [validate]
  cases registry.find? name with
  | none => simp
  | some f => cases hf : f.check args <;> simp [hf]

/-- The arguments of a call are valid when those that are series are. -/
theorem validateCalls_eq_ok_iff : validateCalls registry args = .ok () ↔
    ∀ arg ∈ args, arg.kind = .series → validate registry arg = .ok () := by
  induction args with
  | nil => simp [validateCalls]
  | cons arg args ih =>
    rw [List.forall_mem_cons, ← ih]
    cases arg with
    | selector pattern => simp [validateCalls, validate]
    | literal l => cases l <;> simp [validateCalls, Expr.kind, Literal.kind]
    | call name inner =>
      rw [validateCalls]
      cases validate registry (.call name inner) <;> simp [Expr.kind]

/-- If arguments are refused, then for one of them. -/
theorem exists_of_validateCalls_eq_error {error : EvalError}
    (h : validateCalls registry args = .error error) :
    ∃ arg ∈ args, validate registry arg = .error error := by
  induction args with
  | nil => cases h
  | cons arg args ih =>
    cases arg with
    | selector | literal =>
      obtain ⟨arg, harg, h⟩ := ih h
      exact ⟨arg, List.mem_cons_of_mem _ harg, h⟩
    | call name inner =>
      rw [validateCalls] at h
      cases hcall : validate registry (.call name inner) with
      | error e =>
        rw [hcall] at h
        exact ⟨_, List.mem_cons_self .., hcall.trans h⟩
      | ok _ =>
        rw [hcall] at h
        obtain ⟨arg, harg, h⟩ := ih h
        exact ⟨arg, List.mem_cons_of_mem _ harg, h⟩

/-- What validation has against an expression is for its author to mend. -/
theorem isUserError_of_validate {e : Expr} {error : EvalError}
    (h : validate registry e = .error error) : error.isUserError = true := by
  induction e using Expr.inductionOn with
  | selector pattern => cases h
  | literal l =>
    obtain rfl := Except.error.inj h
    rfl
  | call name args ih =>
    rw [validate] at h
    cases hf : registry.find? name with
    | none =>
      rw [hf] at h
      obtain rfl := Except.error.inj h
      rfl
    | some f =>
      rw [hf] at h
      dsimp only at h
      cases hcheck : f.check args with
      | error fault =>
        rw [hcheck] at h
        obtain rfl := Except.error.inj h
        rfl
      | ok _ =>
        rw [hcheck] at h
        obtain ⟨arg, harg, h⟩ := exists_of_validateCalls_eq_error h
        exact ih arg harg h

/-- A call has an operation if its function is known, takes the arguments and can use them. -/
theorem callOperation_eq_ok_iff {o : Operation} : callOperation registry name args = .ok o ↔
    ∃ f, registry.find? name = some f ∧ f.check args = .ok () ∧ f.operation args = .ok o := by
  unfold callOperation
  cases registry.find? name with
  | none => simp
  | some f =>
    dsimp only
    rw [mapError_eq_ok_iff]
    constructor
    · intro h
      obtain ⟨_, hcheck, ho⟩ := bind_eq_ok_iff.1 h
      exact ⟨f, rfl, hcheck, ho⟩
    · rintro ⟨_, hf, hcheck, ho⟩
      obtain rfl := Option.some.inj hf
      exact bind_eq_ok_iff.2 ⟨(), hcheck, ho⟩

/-- A known function that takes the arguments but cannot use them. -/
theorem callOperation_eq_error {f : SeriesFunction} {fault : ArgumentFault}
    (hf : registry.find? name = some f) (hcheck : f.check args = .ok ())
    (ho : f.operation args = .error fault) :
    callOperation registry name args = .error (.invalidArgument name fault) := by
  rw [callOperation, hf]
  dsimp only
  rw [hcheck]
  exact mapError_eq_error_iff.2 ⟨fault, ho, rfl⟩

/-- A call of a function with one argument that is a series does its operation to the series of this
argument. -/
theorem result_evaluate_of_operation {c : Context} {f : SeriesFunction} {o : Operation} {arg : Expr}
    {literals : List Expr} (hf : c.registry.find? name = some f)
    (hcheck : f.check (arg :: literals) = .ok ()) (ho : f.operation (arg :: literals) = .ok o)
    (hk : arg.kind = .series) (hliterals : ∀ l ∈ literals, l.kind ≠ .series) :
    (evaluate c (.call name (arg :: literals))).result =
      (evaluate c arg).result >>= o.apply c.style name (arg :: literals) := by
  rw [result_evaluate_call_of_ok (callOperation_eq_ok_iff.2 ⟨f, hf, hcheck, ho⟩),
    result_evaluateSeries_cons hk hliterals]

/-! ## What evaluates is valid -/

/-- What has been evaluated was valid. -/
theorem validate_of_evaluate {c : Context} {e : Expr} {series : List Series}
    (h : (evaluate c e).result = .ok series) : validate c.registry e = .ok () := by
  induction e using Expr.inductionOn generalizing series with
  | selector pattern => rfl
  | literal l =>
    rw [result_evaluate_literal] at h
    cases h
  | call name args ih =>
    rw [result_evaluate_call] at h
    obtain ⟨o, ho, h⟩ := bind_eq_ok_iff.1 h
    obtain ⟨inputs, hinputs, -⟩ := bind_eq_ok_iff.1 h
    obtain ⟨f, hf, hcheck, -⟩ := callOperation_eq_ok_iff.1 ho
    refine validate_call_eq_ok_iff.2 ⟨f, hf, hcheck, validateCalls_eq_ok_iff.2 ?_⟩
    intro arg harg hk
    obtain ⟨s, hs⟩ := exists_of_evaluateSeries hinputs arg harg hk
    exact ih arg harg hs

/-! ## What is valid fails late -/

/-- The failures that validation does not rule out : those of a store or of alignment, an
interruption, a crash, the count of a `limit`, and the indices of an `aliasByNode`. -/
def EvalError.IsLate : EvalError → Prop
  | invalidArgument function fault =>
    (function = "limit" ∧ ∃ count, fault = .limit count) ∨
      (function = "aliasByNode" ∧
        ((∃ text, fault = .nodeIndex text) ∨ ∃ index series, fault = .nodeOutOfRange index series))
  | unknownFunction _ | notASeries _ => False
  | notAligned _ | store _ | cancelled | crashed _ => True

/-- A function that is found is one of the registry. -/
theorem mem_functions_of_find? {f : SeriesFunction} (h : Registry.standard.find? name = some f) :
    (name, f) ∈ Registry.standard.functions := by
  obtain ⟨before, after, hfunctions, -⟩ := List.lookup_eq_some_iff.1 h
  rw [hfunctions]
  simp

/-- In the catalogue, `limit` and `aliasByNode` have one name each. -/
theorem name_of_find?_standard {f : SeriesFunction} (h : Registry.standard.find? name = some f) :
    (f = .limit → name = "limit") ∧ (f = .aliasByNode → name = "aliasByNode") := by
  have hnames : ∀ p ∈ Registry.standard.functions,
      (p.2 = .limit → p.1 = "limit") ∧ (p.2 = .aliasByNode → p.1 = "aliasByNode") := by
    decide
  exact hnames (name, f) (mem_functions_of_find? h)

theorem isLate_of_literalFault? {f : SeriesFunction} {fault : ArgumentFault}
    (hf : Registry.standard.find? name = some f) (h : f.literalFault? args = some fault) :
    (EvalError.invalidArgument name fault).IsLate := by
  obtain ⟨hlimit, halias⟩ := name_of_find?_standard hf
  rcases SeriesFunction.eq_of_literalFault? h with ⟨rfl, x, rfl⟩ | ⟨rfl, text, rfl⟩
  · exact Or.inl ⟨hlimit rfl, x, rfl⟩
  · exact Or.inr ⟨halias rfl, Or.inl ⟨text, rfl⟩⟩

/-- What is found out about series only is found out late. -/
theorem isLate_of_apply {f : SeriesFunction} {o : Operation} {style : NumberStyle}
    {inputs : List Series} {error : EvalError} (hf : Registry.standard.find? name = some f)
    (ho : f.operation args = .ok o) (h : o.apply style name args inputs = .error error) :
    error.IsLate := by
  rcases Operation.apply_eq_error h with rfl | rfl | ⟨indices, rfl, index, -, s, -, rfl⟩
  · trivial
  · trivial
  · have hname := (name_of_find?_standard hf).2 (SeriesFunction.eq_aliasByNode_of_operation ho)
    exact Or.inr ⟨hname, Or.inr ⟨index, s.name, rfl⟩⟩

theorem isLate_of_evaluate {style : NumberStyle} {source : Source} {e : Expr} {error : EvalError}
    (hvalid : validate .standard e = .ok ())
    (h : (evaluate ⟨.standard, style, source⟩ e).result = .error error) : error.IsLate := by
  induction e using Expr.inductionOn with
  | selector pattern =>
    rw [result_evaluate_selector] at h
    obtain ⟨_, -, rfl⟩ := mapError_eq_error_iff.1 h
    trivial
  | literal l => cases hvalid
  | call name args ih =>
    obtain ⟨f, hf, hcheck, hargs⟩ := validate_call_eq_ok_iff.1 hvalid
    rcases SeriesFunction.operation_of_check hcheck with ⟨-, o, ho⟩ | ⟨fault, hfault, ho⟩
    · rw [result_evaluate_call_of_ok (callOperation_eq_ok_iff.2 ⟨f, hf, hcheck, ho⟩)] at h
      rcases bind_eq_error_iff.1 h with hinputs | ⟨inputs, -, happly⟩
      · obtain ⟨arg, harg, hk, herror⟩ := exists_error_of_evaluateSeries hinputs
        exact ih arg harg (validateCalls_eq_ok_iff.1 hargs arg harg hk) herror
      · exact isLate_of_apply hf ho happly
    · rw [result_evaluate_call_of_error (callOperation_eq_error hf hcheck ho)] at h
      obtain rfl := Except.error.inj h
      exact isLate_of_literalFault? hf hfault

/-- Whatever the store and whenever an interruption comes : an expression that evaluates is valid,
and a valid one fails only late. -/
theorem evaluate_agrees_validate (style : NumberStyle) (source : Source)
    (interruption : Option Duration) (e : Expr) :
    ((∃ series, ((evaluate ⟨.standard, style, source⟩ e).cutAt interruption).result = .ok series) →
      validate .standard e = .ok ()) ∧
    (validate .standard e = .ok () → ∀ error,
      ((evaluate ⟨.standard, style, source⟩ e).cutAt interruption).result = .error error →
        error.IsLate) := by
  constructor
  · rintro ⟨series, h⟩
    rcases Trace.result_cutAt interruption (evaluate ⟨.standard, style, source⟩ e) with hcut | hcut
    · rw [hcut] at h
      cases h
    · exact validate_of_evaluate (hcut.symm.trans h)
  · intro hvalid error h
    rcases Trace.result_cutAt interruption (evaluate ⟨.standard, style, source⟩ e) with hcut | hcut
    · obtain rfl := Except.error.inj (hcut.symm.trans h)
      trivial
    · exact isLate_of_evaluate hvalid (hcut.symm.trans h)

/-! ## A negative limit -/

/-- A store without data. -/
def noData : Source := fun _ => ⟨0, .ok []⟩

/-- A limit with a negative count. -/
def negativeLimit : Expr := .call "limit" [.selector "a", .literal (.number (-1.0) "-1")]

theorem literalFault?_negativeLimit : SeriesFunction.limit.literalFault?
    [.selector "a", .literal (.number (-1.0) "-1")] = some (.limit (-1.0)) := by
  have hneg : (-1.0 : Float) < 0.0 := by
    decide +kernel
  exact SeriesFunction.literalFault?_limit_of_neg rfl hneg

theorem result_evaluate_negativeLimit :
    (evaluate ⟨.standard, .machine, noData⟩ negativeLimit).result =
      .error (.invalidArgument "limit" (.limit (-1.0))) :=
  result_evaluate_call_of_error (callOperation_eq_error (f := .limit) rfl rfl
    (SeriesFunction.operation_of_literalFault? rfl literalFault?_negativeLimit))

/-- A call that evaluates, and one that is valid and fails late. -/
theorem evaluate_agrees_validate_negativeLimit :
    validate .standard (.call "absolute" [.selector "a"]) = .ok () ∧
      validate .standard negativeLimit = .ok () ∧
      (evaluate ⟨.standard, .machine, noData⟩ negativeLimit).result =
        .error (.invalidArgument "limit" (.limit (-1.0))) ∧
      (EvalError.invalidArgument "limit" (.limit (-1.0))).IsLate := by
  have hvalid := (evaluate_agrees_validate .machine noData none
    (.call "absolute" [.selector "a"])).1 ⟨[], rfl⟩
  have hlate := (evaluate_agrees_validate .machine noData none negativeLimit).2 rfl _
    result_evaluate_negativeLimit
  exact ⟨hvalid, rfl, result_evaluate_negativeLimit, hlate⟩

end SeriesRender
