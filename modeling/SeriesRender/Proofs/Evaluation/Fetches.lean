import SeriesRender.Proofs.Evaluation.Trace
import SeriesRender.Proofs.SeriesFunction.Arguments
import SeriesRender.Service.Render

/-!
# What an evaluation asks for

An evaluation asks its store for the selectors of the expression, from left to right and each as
often as it occurs; if it fails, it has asked for the first ones only (`asksFor_evaluate`). The store
matters for nothing else : another store that gives the same answers to what is asked for leads to
the same evaluation (`evaluate_congr`). Both go through an evaluation step by step
(`Trace.AsksFor.bind`, `Trace.bind_congr`).

`calls_evaluate` says both for a store that is asked on behalf of a tenant and over a range of time.
-/

namespace SeriesRender

open Target

/-! ## Patterns -/

namespace Trace

variable {α β : Type}

/-- The patterns that are asked for, in order. -/
def patterns (t : Trace α) : List String :=
  t.fetches.map Fetch.pattern

/-- The trace asks for patterns in the order of a list : for all of it if it ends with a result, and
for a first part of it if it fails. -/
structure AsksFor (t : Trace α) (expected : List String) : Prop where
  initial : t.patterns <+: expected
  complete : ∀ a, t.result = .ok a → t.patterns = expected

namespace AsksFor

variable {t : Trace α} {next : α → Trace β} {xs ys : List String}

theorem ofExcept (result : Except EvalError α) : (Trace.ofExcept result).AsksFor [] :=
  ⟨List.prefix_refl [], fun _ _ => rfl⟩

theorem check : Trace.check.AsksFor [] :=
  ⟨List.prefix_refl [], fun _ _ => rfl⟩

theorem fetch (source : Source) (pattern : String) :
    (Trace.fetch source pattern).AsksFor [pattern] :=
  ⟨List.prefix_refl [pattern], fun _ _ => rfl⟩

/-- What is asked for first comes first, and nothing else is asked for if that fails. -/
theorem bind (ht : t.AsksFor xs) (hnext : ∀ a, (next a).AsksFor ys) :
    (t >>= next).AsksFor (xs ++ ys) := by
  cases hr : t.result with
  | error e =>
    constructor
    · rw [patterns, fetches_bind_of_error hr]
      exact ht.initial.trans (List.prefix_append _ _)
    · intro b h
      rw [result_bind, hr] at h
      cases h
  | ok a =>
    have hpatterns : (t >>= next).patterns = xs ++ (next a).patterns := by
      rw [← ht.complete a hr, patterns, fetches_bind_of_ok hr, List.map_append]
      rfl
    constructor
    · rw [hpatterns]
      exact (List.prefix_append_right_inj _).2 (hnext a).initial
    · intro b h
      rw [result_bind, hr] at h
      rw [hpatterns, (hnext a).complete b h]

/-- A first step that asks for nothing adds nothing to what the next one asks for. -/
theorem bind_left (ht : t.AsksFor []) (hnext : ∀ a, (next a).AsksFor ys) :
    (t >>= next).AsksFor ys :=
  ht.bind hnext

/-- A last step that asks for nothing adds nothing. -/
theorem bind_right (ht : t.AsksFor xs) (hnext : ∀ a, (next a).AsksFor []) :
    (t >>= next).AsksFor xs :=
  List.append_nil xs ▸ ht.bind hnext

end AsksFor

end Trace

variable {c : Context} {args : List Expr}

/-- The arguments of a call ask for their selectors, from left to right. -/
theorem asksFor_evaluateSeries
    (h : ∀ arg ∈ args, (evaluate c arg).AsksFor arg.selectors) :
    (evaluateSeries c args).AsksFor (Expr.listSelectors args) := by
  induction args with
  | nil =>
    rw [evaluateSeries, Expr.listSelectors]
    exact .ofExcept (.ok [])
  | cons arg args ih =>
    rw [List.forall_mem_cons] at h
    rw [Expr.listSelectors]
    by_cases hk : arg.kind = .series
    · rw [evaluateSeries, if_pos hk]
      refine h.1.bind fun series => (ih h.2).bind_right fun others => ?_
      exact .ofExcept (.ok (series ++ others))
    · rw [evaluateSeries_of_literal hk, Expr.selectors_of_literal hk]
      exact ih h.2

/-- A tree asks for its selectors, as long as nothing fails. -/
theorem asksFor_evaluate (c : Context) (e : Expr) : (evaluate c e).AsksFor e.selectors := by
  induction e using Expr.inductionOn with
  | selector pattern =>
    rw [evaluate, Expr.selectors]
    exact .bind_left .check fun _ => .fetch c.source pattern
  | literal l =>
    rw [evaluate, Expr.selectors]
    exact .bind_left .check fun _ => .ofExcept (.error (.notASeries l.text))
  | call name args ih =>
    rw [evaluate, Expr.selectors]
    refine .bind_left .check fun _ => .bind_left (.ofExcept _) fun operation => ?_
    refine .bind_right (asksFor_evaluateSeries ih) fun inputs => ?_
    refine .bind_left (.ofExcept _) fun series => .bind_left .check fun _ => ?_
    exact .ofExcept (.ok series)

/-! ## What a store is not asked for -/

/-- If what is fetched has a property, a trace is the same whose steps are the same for fetches with
that property. -/
theorem Trace.bind_congr {α β : Type} {P : Fetch → Prop} {t t' : Trace α}
    {next next' : α → Trace β} (h : ∀ f ∈ (t >>= next).fetches, P f)
    (ht : (∀ f ∈ t.fetches, P f) → t' = t)
    (hnext : ∀ a, (∀ f ∈ (next a).fetches, P f) → next' a = next a) :
    t' >>= next' = t >>= next := by
  cases hr : t.result with
  | error e =>
    rw [fetches_bind_of_error hr] at h
    rw [ht h, bind_of_error hr, bind_of_error hr]
  | ok a =>
    rw [fetches_bind_of_ok hr, List.forall_mem_append] at h
    rw [ht h.1, bind_of_ok hr, bind_of_ok hr, hnext a h.2]

variable {source : Source}

/-- Arguments depend on the answers to their own fetches only. -/
theorem evaluateSeries_congr
    (h : ∀ arg ∈ args, (∀ f ∈ (evaluate c arg).fetches, source f.pattern = c.source f.pattern) →
      evaluate { c with source } arg = evaluate c arg)
    (hfetches : ∀ f ∈ (evaluateSeries c args).fetches, source f.pattern = c.source f.pattern) :
    evaluateSeries { c with source } args = evaluateSeries c args := by
  induction args with
  | nil => rw [evaluateSeries, evaluateSeries]
  | cons arg args ih =>
    rw [List.forall_mem_cons] at h
    by_cases hk : arg.kind = .series
    · rw [evaluateSeries, if_pos hk] at hfetches
      rw [evaluateSeries, evaluateSeries, if_pos hk, if_pos hk]
      refine Trace.bind_congr hfetches h.1 fun series hfetches => ?_
      exact Trace.bind_congr hfetches (ih h.2) fun _ _ => rfl
    · rw [evaluateSeries_of_literal hk] at hfetches
      rw [evaluateSeries_of_literal hk, evaluateSeries_of_literal hk]
      exact ih h.2 hfetches

/-- A store that gives the same answers to what an evaluation asks for leads to the same one. -/
theorem evaluate_congr {e : Expr}
    (h : ∀ f ∈ (evaluate c e).fetches, source f.pattern = c.source f.pattern) :
    evaluate { c with source } e = evaluate c e := by
  induction e using Expr.inductionOn with
  | selector pattern =>
    rw [fetches_evaluate_selector, List.forall_mem_singleton] at h
    rw [evaluate, evaluate, Trace.fetch, Trace.fetch]
    dsimp only at h ⊢
    rw [h]
  | literal l => rw [evaluate, evaluate]
  | call name args ih =>
    rw [evaluate] at h
    rw [evaluate, evaluate]
    refine Trace.bind_congr h (fun _ => rfl) fun _ h => ?_
    refine Trace.bind_congr h (fun _ => rfl) fun operation h => ?_
    exact Trace.bind_congr h (evaluateSeries_congr ih) fun _ _ => rfl

/-! ## Calls of a store -/

/-- What a store answers to a call. -/
def Backend.answerTo (store : Backend) (call : StoreCall) : Answer :=
  store.source call.tenant call.start call.stop call.pattern

/-- The fetches, as calls of a store on behalf of a tenant and over a range. -/
def Trace.calls {α : Type} (t : Trace α) (tenant : String) (start stop : Int) : List StoreCall :=
  t.fetches.map fun f => ⟨tenant, f.pattern, start, stop⟩

/-- The calls of a trace are its patterns, over one interval and for one tenant. -/
theorem Trace.calls_eq {α : Type} (t : Trace α) (tenant : String) (start stop : Int) :
    t.calls tenant start stop = t.patterns.map fun pattern => ⟨tenant, pattern, start, stop⟩ := by
  rw [patterns, List.map_map]
  rfl

/-- The calls are those for the selectors of the expression, in order, each as often as it occurs :
all of them if the evaluation has a result, and a first part of them if it fails. What the store
answers to any other call does not matter. -/
theorem calls_evaluate (registry : Registry) (style : NumberStyle) (store : Backend)
    (tenant : String) (start stop : Int) (e : Expr) :
    let evaluation := evaluate ⟨registry, style, store.source tenant start stop⟩ e
    let selected := e.selectors.map fun pattern => StoreCall.mk tenant pattern start stop
    evaluation.calls tenant start stop <+: selected ∧
      ((∃ series, evaluation.result = .ok series) →
        evaluation.calls tenant start stop = selected) ∧
      ∀ other : Backend,
        (∀ call ∈ evaluation.calls tenant start stop,
          other.answerTo call = store.answerTo call) →
        evaluate ⟨registry, style, other.source tenant start stop⟩ e = evaluation := by
  intro evaluation selected
  have hasks : evaluation.AsksFor e.selectors := asksFor_evaluate _ e
  rw [evaluation.calls_eq]
  refine ⟨hasks.initial.map _, ?_, fun other h => ?_⟩
  · rintro ⟨series, hseries⟩
    rw [hasks.complete series hseries]
  · refine evaluate_congr (c := ⟨registry, style, store.source tenant start stop⟩) fun f hf => ?_
    exact h ⟨tenant, f.pattern, start, stop⟩
      (List.mem_map_of_mem (List.mem_map_of_mem hf))

/-- Selectors at different depths, one of them twice. -/
def nestedSelectors : Expr :=
  .call "sumSeries" [.selector "a", .call "absolute" [.selector "b"], .selector "a"]

/-- A store without data that is not there for one pattern. -/
def withoutPattern (missing : String) : Backend :=
  .readOnly fun _ _ _ pattern =>
    ⟨0, if pattern = missing then .error (.unavailable "gone") else .ok []⟩

/-- Of two stores, one without data and one that fails for the second selector, the first one is
asked three times, and the other one twice. What a store has for other patterns does not matter. -/
theorem calls_evaluate_nestedSelectors :
    (evaluate ⟨.standard, .machine, (withoutPattern "").source "acme" 0 60⟩
        nestedSelectors).calls "acme" 0 60 =
      [⟨"acme", "a", 0, 60⟩, ⟨"acme", "b", 0, 60⟩, ⟨"acme", "a", 0, 60⟩] ∧
    (evaluate ⟨.standard, .machine, (withoutPattern "b").source "acme" 0 60⟩
        nestedSelectors).calls "acme" 0 60 =
      [⟨"acme", "a", 0, 60⟩, ⟨"acme", "b", 0, 60⟩] ∧
    evaluate ⟨.standard, .machine, (withoutPattern "c").source "acme" 0 60⟩ nestedSelectors =
      evaluate ⟨.standard, .machine, (withoutPattern "").source "acme" 0 60⟩ nestedSelectors := by
  have hwhole := calls_evaluate .standard .machine (withoutPattern "") "acme" 0 60 nestedSelectors
  have hcalls := hwhole.2.1 ⟨[], rfl⟩
  refine ⟨hcalls, rfl, hwhole.2.2 (withoutPattern "c") ?_⟩
  rw [hcalls]
  change ∀ call ∈ [StoreCall.mk "acme" "a" 0 60, ⟨"acme", "b", 0, 60⟩, ⟨"acme", "a", 0, 60⟩], _
  simp only [List.forall_mem_cons]
  exact ⟨rfl, rfl, rfl, List.forall_mem_nil _⟩

end SeriesRender
