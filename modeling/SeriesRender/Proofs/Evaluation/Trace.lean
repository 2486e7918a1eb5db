import SeriesRender.Evaluation.Evaluate
import SeriesRender.Proofs.Basic
import SeriesRender.Proofs.Target.Calls

/-!
# Results and fetches of an evaluation

The result of a trace that goes on with another one is that of the other one (`Trace.result_bind`),
and its fetches are those of both (`Trace.fetches_bind_of_ok`, `Trace.mem_fetches_bind`). An
interruption replaces the result by `cancelled` or leaves it as it is (`Trace.result_cutAt`).

So the result of a call is its operation, applied to the series of its arguments
(`result_evaluate_call`), and every fetch takes as long as the store takes to answer its pattern
(`delay_of_mem_fetches`).
-/

namespace SeriesRender

open Target

/-! ## Traces -/

namespace Trace

variable {α β : Type}

@[simp] theorem result_bind (t : Trace α) (next : α → Trace β) :
    (t >>= next).result = t.result >>= fun a => (next a).result := by
  change (t.bind next).result = _
  unfold bind
  cases t.result <;> rfl

theorem mem_fetches_iff {t : Trace α} {f : Fetch} : f ∈ t.fetches ↔ .fetch f ∈ t.events := by
  simp only [fetches, List.mem_filterMap]
  constructor
  · rintro ⟨event, hevent, h⟩
    cases event with
    | check => cases h
    | fetch g =>
      obtain rfl := Option.some.inj h
      exact hevent
  · intro h
    exact ⟨.fetch f, h, rfl⟩

/-- A fetch of two steps in turn is one of the first, or one of the second if the first succeeds. -/
theorem mem_fetches_bind {t : Trace α} {next : α → Trace β} {f : Fetch}
    (h : f ∈ (t >>= next).fetches) :
    f ∈ t.fetches ∨ ∃ a, t.result = .ok a ∧ f ∈ (next a).fetches := by
  simp only [mem_fetches_iff] at h ⊢
  change .fetch f ∈ (t.bind next).events at h
  unfold bind at h
  cases ht : t.result with
  | error e =>
    rw [ht] at h
    exact Or.inl h
  | ok a =>
    rw [ht, List.mem_append] at h
    exact h.imp_right fun h => ⟨a, rfl, h⟩

theorem bind_of_ok {t : Trace α} {a : α} (h : t.result = .ok a) (next : α → Trace β) :
    t >>= next = ⟨t.events ++ (next a).events, (next a).result⟩ := by
  change t.bind next = _
  rw [bind, h]

theorem bind_of_error {t : Trace α} {e : EvalError} (h : t.result = .error e)
    (next : α → Trace β) : t >>= next = ⟨t.events, .error e⟩ := by
  change t.bind next = _
  rw [bind, h]

theorem fetches_bind_of_ok {t : Trace α} {a : α} (h : t.result = .ok a) (next : α → Trace β) :
    (t >>= next).fetches = t.fetches ++ (next a).fetches := by
  rw [bind_of_ok h]
  exact List.filterMap_append

theorem fetches_bind_of_error {t : Trace α} {e : EvalError} (h : t.result = .error e)
    (next : α → Trace β) : (t >>= next).fetches = t.fetches := by
  rw [bind_of_error h]
  rfl

/-- What makes no fetch adds none. -/
theorem fetches_bind_of_forall {next : α → Trace β} (h : ∀ a, (next a).fetches = [])
    (t : Trace α) : (t >>= next).fetches = t.fetches := by
  cases ht : t.result with
  | error e => exact fetches_bind_of_error ht next
  | ok a => rw [fetches_bind_of_ok ht, h, List.append_nil]

theorem totalDelay_eq_zero {fs : List Fetch} (h : ∀ f ∈ fs, f.delay = 0) : totalDelay fs = 0 := by
  induction fs with
  | nil => rfl
  | cons f fs ih =>
    rw [List.forall_mem_cons] at h
    rw [totalDelay, h.1, ih h.2]

/-- The trace with an interruption at an instant after its start, or without one. -/
def cutAt : Option Duration → Trace α → Trace α
  | none, t => t
  | some limit, t => t.interruptedAt limit

/-- If no event notices the interruption, all events happen. -/
theorem replay_of_unnoticed {limit now : Duration} {es : List Event}
    (h : (replay limit now es).2 = false) : (replay limit now es).1 = es := by
  induction es generalizing now with
  | nil => rfl
  | cons event es ih =>
    cases event with
    | check =>
      rw [replay] at h ⊢
      split at h
      · cases h
      · next hnow =>
        rw [if_neg hnow]
        exact congrArg (Event.check :: ·) (ih h)
    | fetch f =>
      rw [replay] at h ⊢
      split at h
      · cases h
      · next hnow =>
        split at h
        · cases h
        · next hanswer =>
          rw [if_neg hnow, if_neg hanswer]
          exact congrArg (Event.fetch f :: ·) (ih h)

/-- An interruption that is not noticed leaves the whole trace as it is. -/
theorem cutAt_eq_self_or (limit : Option Duration) (t : Trace α) :
    (t.cutAt limit).result = .error .cancelled ∨ t.cutAt limit = t := by
  cases limit with
  | none => exact Or.inr rfl
  | some limit =>
    simp only [cutAt, interruptedAt]
    cases hnoticed : (replay limit 0 t.events).2 with
    | true => exact Or.inl rfl
    | false =>
      rw [replay_of_unnoticed hnoticed]
      exact Or.inr rfl

/-- An interrupted evaluation is cancelled or has its own result. -/
theorem result_cutAt (limit : Option Duration) (t : Trace α) :
    (t.cutAt limit).result = .error .cancelled ∨ (t.cutAt limit).result = t.result :=
  (t.cutAt_eq_self_or limit).imp_right (congrArg result)

end Trace

/-! ## Evaluation -/

variable {c : Context}

theorem result_evaluate_selector (c : Context) (pattern : String) :
    (evaluate c (.selector pattern)).result = (c.source pattern).series.mapError .store := by
  rw [evaluate]
  rfl

theorem result_evaluate_literal (c : Context) (l : Literal) :
    (evaluate c (.literal l)).result = .error (.notASeries l.text) := by
  rw [evaluate]
  rfl

/-- A call checks itself, evaluates its arguments and then applies its function. -/
theorem result_evaluate_call (c : Context) (name : String) (args : List Expr) :
    (evaluate c (.call name args)).result = callOperation c.registry name args >>= fun operation =>
      (evaluateSeries c args).result >>= operation.apply c.style name args := by
  rw [evaluate]
  simp only [Trace.result_bind]
  cases callOperation c.registry name args with
  | error e => rfl
  | ok operation =>
    cases (evaluateSeries c args).result with
    | error e => rfl
    | ok inputs => exact bind_pure (operation.apply c.style name args inputs)

theorem result_evaluate_call_of_ok {name : String} {args : List Expr} {operation : Operation}
    (h : callOperation c.registry name args = .ok operation) :
    (evaluate c (.call name args)).result =
      (evaluateSeries c args).result >>= operation.apply c.style name args := by
  rw [result_evaluate_call, h]
  rfl

theorem result_evaluate_call_of_error {name : String} {args : List Expr} {error : EvalError}
    (h : callOperation c.registry name args = .error error) :
    (evaluate c (.call name args)).result = .error error := by
  rw [result_evaluate_call, h]
  rfl

theorem result_evaluateSeries_nil (c : Context) : (evaluateSeries c []).result = .ok [] := by
  rw [evaluateSeries]
  rfl

/-- An argument that is a series is evaluated, and its series stand before those of the others. -/
theorem result_evaluateSeries_of_series {arg : Expr} (h : arg.kind = .series) (args : List Expr) :
    (evaluateSeries c (arg :: args)).result = (evaluate c arg).result >>= fun series =>
      (evaluateSeries c args).result >>= fun others => .ok (series ++ others) := by
  rw [evaluateSeries, if_pos h]
  simp only [Trace.result_bind]
  rfl

/-- An argument that is a literal is not evaluated. -/
theorem evaluateSeries_of_literal {arg : Expr} (h : arg.kind ≠ .series) (args : List Expr) :
    evaluateSeries c (arg :: args) = evaluateSeries c args := by
  rw [evaluateSeries, if_neg h]

/-- Literals have no series. -/
theorem result_evaluateSeries_cons {arg : Expr} {literals : List Expr} (hk : arg.kind = .series)
    (hliterals : ∀ l ∈ literals, l.kind ≠ .series) :
    (evaluateSeries c (arg :: literals)).result = (evaluate c arg).result := by
  have hnil : (evaluateSeries c literals).result = .ok [] := by
    induction literals with
    | nil => exact result_evaluateSeries_nil c
    | cons l literals ih =>
      rw [List.forall_mem_cons] at hliterals
      rw [evaluateSeries_of_literal hliterals.1]
      exact ih hliterals.2
  rw [result_evaluateSeries_of_series hk, hnil]
  cases (evaluate c arg).result with
  | error e => rfl
  | ok series => exact congrArg Except.ok (List.append_nil series)

/-- If the arguments have series, so has each one among them that is a series. -/
theorem exists_of_evaluateSeries {args : List Expr} {inputs : List Series}
    (h : (evaluateSeries c args).result = .ok inputs) :
    ∀ arg ∈ args, arg.kind = .series → ∃ series, (evaluate c arg).result = .ok series := by
  induction args generalizing inputs with
  | nil => simp
  | cons arg args ih =>
    rw [List.forall_mem_cons]
    by_cases hk : arg.kind = .series
    · rw [result_evaluateSeries_of_series hk] at h
      obtain ⟨series, hseries, h⟩ := bind_eq_ok_iff.1 h
      obtain ⟨others, hothers, -⟩ := bind_eq_ok_iff.1 h
      exact ⟨fun _ => ⟨series, hseries⟩, ih hothers⟩
    · rw [evaluateSeries_of_literal hk] at h
      exact ⟨fun hs => absurd hs hk, ih h⟩

/-- If they have not, it is because of one of them. -/
theorem exists_error_of_evaluateSeries {args : List Expr} {error : EvalError}
    (h : (evaluateSeries c args).result = .error error) :
    ∃ arg ∈ args, arg.kind = .series ∧ (evaluate c arg).result = .error error := by
  induction args with
  | nil =>
    rw [result_evaluateSeries_nil] at h
    cases h
  | cons arg args ih =>
    by_cases hk : arg.kind = .series
    · rw [result_evaluateSeries_of_series hk] at h
      rcases bind_eq_error_iff.1 h with harg | ⟨series, -, h⟩
      · exact ⟨arg, List.mem_cons_self, hk, harg⟩
      · rcases bind_eq_error_iff.1 h with hargs | ⟨others, -, h⟩
        · obtain ⟨a, ha, he⟩ := ih hargs
          exact ⟨a, List.mem_cons_of_mem _ ha, he⟩
        · cases h
    · rw [evaluateSeries_of_literal hk] at h
      obtain ⟨a, ha, he⟩ := ih h
      exact ⟨a, List.mem_cons_of_mem _ ha, he⟩

/-! ## Fetches -/

theorem fetches_evaluate_selector (c : Context) (pattern : String) :
    (evaluate c (.selector pattern)).fetches = [⟨pattern, (c.source pattern).delay⟩] := by
  rw [evaluate]
  rfl

theorem not_mem_fetches_check {f : Fetch} : f ∉ Trace.check.fetches := List.not_mem_nil

theorem not_mem_fetches_ofExcept {α : Type} {x : Except EvalError α} {f : Fetch} :
    f ∉ (Trace.ofExcept x).fetches := List.not_mem_nil

/-- A fetch of the arguments belongs to one of them. -/
theorem exists_of_mem_fetches_evaluateSeries {args : List Expr} {f : Fetch}
    (h : f ∈ (evaluateSeries c args).fetches) : ∃ arg ∈ args, f ∈ (evaluate c arg).fetches := by
  induction args with
  | nil =>
    rw [evaluateSeries] at h
    exact absurd h not_mem_fetches_ofExcept
  | cons arg args ih =>
    by_cases hk : arg.kind = .series
    · rw [evaluateSeries, if_pos hk] at h
      rcases Trace.mem_fetches_bind h with harg | ⟨_, -, h⟩
      · exact ⟨arg, List.mem_cons_self, harg⟩
      · rcases Trace.mem_fetches_bind h with hargs | ⟨_, -, h⟩
        · obtain ⟨a, ha, hf⟩ := ih hargs
          exact ⟨a, List.mem_cons_of_mem _ ha, hf⟩
        · exact absurd h not_mem_fetches_ofExcept
    · rw [evaluateSeries_of_literal hk] at h
      obtain ⟨a, ha, hf⟩ := ih h
      exact ⟨a, List.mem_cons_of_mem _ ha, hf⟩

/-- A fetch takes as long as the store takes to answer. -/
theorem delay_of_mem_fetches {e : Expr} {f : Fetch} (h : f ∈ (evaluate c e).fetches) :
    f.delay = (c.source f.pattern).delay := by
  induction e using Expr.inductionOn with
  | selector pattern =>
    rw [evaluate] at h
    rcases Trace.mem_fetches_bind h with h | ⟨_, -, h⟩
    · exact absurd h not_mem_fetches_check
    · rw [Trace.mem_fetches_iff, Trace.fetch, List.mem_singleton] at h
      cases h
      rfl
  | literal l =>
    rw [evaluate] at h
    rcases Trace.mem_fetches_bind h with h | ⟨_, -, h⟩
    · exact absurd h not_mem_fetches_check
    · exact absurd h not_mem_fetches_ofExcept
  | call name args ih =>
    have hargs : f ∈ (evaluateSeries c args).fetches := by
      rw [evaluate] at h
      rcases Trace.mem_fetches_bind h with h | ⟨_, -, h⟩
      · exact absurd h not_mem_fetches_check
      rcases Trace.mem_fetches_bind h with h | ⟨operation, -, h⟩
      · exact absurd h not_mem_fetches_ofExcept
      rcases Trace.mem_fetches_bind h with h | ⟨inputs, -, h⟩
      · exact h
      rcases Trace.mem_fetches_bind h with h | ⟨series, -, h⟩
      · exact absurd h not_mem_fetches_ofExcept
      rcases Trace.mem_fetches_bind h with h | ⟨_, -, h⟩
      · exact absurd h not_mem_fetches_check
      · exact absurd h not_mem_fetches_ofExcept
    obtain ⟨arg, harg, hf⟩ := exists_of_mem_fetches_evaluateSeries hargs
    exact ih arg harg hf

theorem exists_of_mem_fetches_evaluateAll {es : List Expr} {f : Fetch}
    (h : f ∈ (evaluateAll c es).fetches) : ∃ e ∈ es, f ∈ (evaluate c e).fetches := by
  induction es with
  | nil => exact absurd h not_mem_fetches_ofExcept
  | cons e es ih =>
    rw [evaluateAll] at h
    rcases Trace.mem_fetches_bind h with he | ⟨_, -, h⟩
    · exact ⟨e, List.mem_cons_self, he⟩
    · rcases Trace.mem_fetches_bind h with hes | ⟨_, -, h⟩
      · obtain ⟨e, he, hf⟩ := ih hes
        exact ⟨e, List.mem_cons_of_mem _ he, hf⟩
      · exact absurd h not_mem_fetches_ofExcept

end SeriesRender
