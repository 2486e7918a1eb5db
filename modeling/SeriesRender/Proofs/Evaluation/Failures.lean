import SeriesRender.Proofs.Evaluation.Trace
import SeriesRender.Proofs.SeriesFunction.Arguments

/-!
# How evaluations fail

An evaluation fails with a failure of the store, or else with an error of the expression or of its
series (`EvalError.IsOwn`); it is never cancelled, unless something interrupts it. So every error of
an evaluation has a property that the failures of its store have and that errors of expressions have
(`failsOnlyWith_evaluate`).

What a store says about being unavailable goes nowhere else : two stores that differ in this lead to
evaluations that differ in this, with the same events (`sameButDetails_evaluate`).
-/

namespace SeriesRender

open Target

/-! ## Properties of errors -/

/-- The error is one of the expression or of its series, not of the store or of an interruption. -/
def EvalError.IsOwn : EvalError → Prop
  | store _ | cancelled => False
  | _ => True

/-- Users can mend all of these but crashes. -/
theorem EvalError.IsOwn.isUserError {error : EvalError} (h : error.IsOwn)
    (hoverflow : error.overflow? = none) : error.isUserError = true := by
  cases error with
  | store | cancelled => exact h.elim
  | crashed => cases hoverflow
  | _ => rfl

/-- If the trace fails, its error has a property. -/
def Trace.FailsOnlyWith {α : Type} (P : EvalError → Prop) (t : Trace α) : Prop :=
  ∀ error, t.result = .error error → P error

namespace Trace.FailsOnlyWith

variable {α β : Type} {P : EvalError → Prop}

theorem ofExcept {result : Except EvalError α} (h : ∀ error, result = .error error → P error) :
    (Trace.ofExcept result).FailsOnlyWith P := h

theorem pure (a : α) : (Trace.ofExcept (.ok a)).FailsOnlyWith P := by
  intro error h
  cases h

/-- A checkpoint by itself does not fail. -/
theorem check : Trace.check.FailsOnlyWith P := by
  intro error h
  cases h

/-- Two steps in turn fail with nothing but what each of them fails with. -/
theorem bind {t : Trace α} {next : α → Trace β} (ht : t.FailsOnlyWith P)
    (hnext : ∀ a, (next a).FailsOnlyWith P) : (t >>= next).FailsOnlyWith P := by
  intro error h
  rw [result_bind] at h
  rcases bind_eq_error_iff.1 h with h | ⟨a, -, h⟩
  · exact ht error h
  · exact hnext a error h

end Trace.FailsOnlyWith

/-- What is wrong with a call is the evaluator's own error. -/
theorem isOwn_of_callOperation {registry : Registry} {name : String} {args : List Expr}
    {error : EvalError} (h : callOperation registry name args = .error error) : error.IsOwn := by
  unfold callOperation at h
  split at h
  · obtain rfl := Except.error.inj h
    trivial
  · obtain ⟨fault, -, rfl⟩ := mapError_eq_error_iff.1 h
    trivial

theorem isOwn_of_apply {o : Operation} {style : NumberStyle} {function : String}
    {args : List Expr} {inputs : List Series} {error : EvalError}
    (h : o.apply style function args inputs = .error error) : error.IsOwn := by
  rcases Operation.apply_eq_error h with rfl | rfl | ⟨_, _, _, _, _, _, rfl⟩ <;> trivial

section Properties

variable {c : Context} {args : List Expr} {P : EvalError → Prop}
  (hown : ∀ error : EvalError, error.IsOwn → P error)
  (hstore : ∀ pattern failure, (c.source pattern).series = .error failure → P (.store failure))

/-- Arguments fail with what each of them fails with. -/
theorem failsOnlyWith_evaluateSeries (h : ∀ arg ∈ args, (evaluate c arg).FailsOnlyWith P) :
    (evaluateSeries c args).FailsOnlyWith P := by
  induction args with
  | nil =>
    rw [evaluateSeries]
    exact .pure []
  | cons arg args ih =>
    rw [List.forall_mem_cons] at h
    by_cases hk : arg.kind = .series
    · rw [evaluateSeries, if_pos hk]
      exact h.1.bind fun series => (ih h.2).bind fun others => .pure (series ++ others)
    · rw [evaluateSeries_of_literal hk]
      exact ih h.2

include hown hstore

/-- The errors of an evaluation are those of its store, and those of the expression. -/
theorem failsOnlyWith_evaluate (e : Expr) : (evaluate c e).FailsOnlyWith P := by
  induction e using Expr.inductionOn with
  | selector pattern =>
    intro error h
    rw [result_evaluate_selector] at h
    obtain ⟨failure, hfailure, rfl⟩ := mapError_eq_error_iff.1 h
    exact hstore pattern failure hfailure
  | literal l =>
    intro error h
    rw [result_evaluate_literal] at h
    obtain rfl := Except.error.inj h
    exact hown _ trivial
  | call name args ih =>
    rw [evaluate]
    refine .bind .check fun _ => .bind (.ofExcept fun error h => ?_) fun operation => ?_
    · exact hown error (isOwn_of_callOperation h)
    refine .bind (failsOnlyWith_evaluateSeries ih) fun inputs => ?_
    refine .bind (.ofExcept fun error h => ?_) fun series => .bind .check fun _ => .pure series
    exact hown error (isOwn_of_apply h)

theorem failsOnlyWith_evaluateAll (es : List Expr) : (evaluateAll c es).FailsOnlyWith P := by
  induction es with
  | nil => exact .pure []
  | cons e es ih =>
    rw [evaluateAll]
    refine .bind (failsOnlyWith_evaluate hown hstore e) fun series => ?_
    exact .bind ih fun others => .pure (series ++ others)

end Properties

/-! ## What a store says about being unavailable -/

/-- The failure without what a store says about being unavailable. -/
def StoreError.redact : StoreError → StoreError
  | unavailable _ => unavailable ""
  | failure => failure

/-- An error of an evaluation without what the store says about it. -/
def EvalError.redact : EvalError → EvalError
  | store failure => store failure.redact
  | error => error

/-- An answer of a store, with the same delay and without the details of its error. -/
def Answer.redact (a : Answer) : Answer where
  delay := a.delay
  series := a.series.mapError StoreError.redact

/-- The traces have the same events and, save for what is said about being unavailable, the same
result. -/
structure Trace.SameButDetails {α : Type} (t u : Trace α) : Prop where
  events : t.events = u.events
  result : t.result.mapError EvalError.redact = u.result.mapError EvalError.redact

namespace Trace.SameButDetails

variable {α β : Type}

theorem refl (t : Trace α) : t.SameButDetails t := ⟨rfl, rfl⟩

theorem fetches {t u : Trace α} (h : t.SameButDetails u) : t.fetches = u.fetches := by
  rw [Trace.fetches, Trace.fetches, h.events]

theorem duration {t u : Trace α} (h : t.SameButDetails u) : t.duration = u.duration :=
  congrArg totalDelay h.fetches

/-- Two steps in turn, if they differ in details only. -/
theorem bind {t u : Trace α} {next next' : α → Trace β} (h : t.SameButDetails u)
    (hnext : ∀ a, (next a).SameButDetails (next' a)) :
    (t >>= next).SameButDetails (u >>= next') := by
  rcases mapError_eq_mapError_iff.1 h.result with ⟨a, ht, hu⟩ | ⟨d, e, ht, hu, hde⟩
  · rw [bind_of_ok ht, bind_of_ok hu, h.events, (hnext a).events]
    exact ⟨rfl, (hnext a).result⟩
  · rw [bind_of_error ht, bind_of_error hu]
    exact ⟨h.events, congrArg Except.error hde⟩

/-- A fetch shows nothing of the details but its error. -/
theorem fetch {source source' : Source} {pattern : String}
    (h : (source pattern).redact = (source' pattern).redact) :
    (Trace.fetch source pattern).SameButDetails (Trace.fetch source' pattern) := by
  rw [Answer.redact, Answer.redact, Answer.mk.injEq] at h
  obtain ⟨hdelay, hseries⟩ := h
  refine ⟨?_, ?_⟩
  · rw [Trace.fetch, Trace.fetch, hdelay]
  · rw [Trace.fetch, Trace.fetch]
    dsimp only
    rcases mapError_eq_mapError_iff.1 hseries with ⟨series, hs, hs'⟩ | ⟨d, e, hs, hs', hde⟩
    · rw [hs, hs']
    · rw [hs, hs']
      exact congrArg (fun failure => Except.error (EvalError.store failure)) hde

end Trace.SameButDetails

section Details

variable {registry : Registry} {style : NumberStyle} {source source' : Source} {args : List Expr}

/-- Arguments are evaluated alike up to details if each of them is. -/
theorem sameButDetails_evaluateSeries
    (h : ∀ arg ∈ args, (evaluate ⟨registry, style, source⟩ arg).SameButDetails
      (evaluate ⟨registry, style, source'⟩ arg)) :
    (evaluateSeries ⟨registry, style, source⟩ args).SameButDetails
      (evaluateSeries ⟨registry, style, source'⟩ args) := by
  induction args with
  | nil =>
    rw [evaluateSeries, evaluateSeries]
    exact .refl _
  | cons arg args ih =>
    rw [List.forall_mem_cons] at h
    by_cases hk : arg.kind = .series
    · rw [evaluateSeries, evaluateSeries, if_pos hk, if_pos hk]
      exact h.1.bind fun series => (ih h.2).bind fun others => .refl _
    · rw [evaluateSeries_of_literal hk, evaluateSeries_of_literal hk]
      exact ih h.2

variable (h : ∀ pattern, (source pattern).redact = (source' pattern).redact)

include h

/-- Whatever the details are, an evaluation is the same up to them. -/
theorem sameButDetails_evaluate (e : Expr) : (evaluate ⟨registry, style, source⟩ e).SameButDetails
    (evaluate ⟨registry, style, source'⟩ e) := by
  induction e using Expr.inductionOn with
  | selector pattern =>
    rw [evaluate, evaluate]
    exact .bind (.refl _) fun _ => .fetch (h pattern)
  | literal l =>
    rw [evaluate, evaluate]
    exact .refl _
  | call name args ih =>
    rw [evaluate, evaluate]
    refine .bind (.refl _) fun _ => .bind (.refl _) fun operation => ?_
    exact .bind (sameButDetails_evaluateSeries ih) fun inputs => .refl _

theorem sameButDetails_evaluateAll (es : List Expr) :
    (evaluateAll ⟨registry, style, source⟩ es).SameButDetails
      (evaluateAll ⟨registry, style, source'⟩ es) := by
  induction es with
  | nil => exact .refl _
  | cons e es ih =>
    rw [evaluateAll, evaluateAll]
    exact (sameButDetails_evaluate h e).bind fun series => ih.bind fun others => .refl _

end Details

end SeriesRender
