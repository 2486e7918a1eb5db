import SeriesRender.Proofs.Evaluation.Failures
import SeriesRender.Proofs.Evaluation.Interruption
import SeriesRender.Proofs.Service.Permits
import SeriesRender.Proofs.Service.Rejection

/-!
# Internal errors

A request fails because of one of its parameters, or with an error of evaluation
(`Service.cause_of_failed`). Of these, users cannot mend only two : that a store is not available,
and that an evaluation has been cancelled. A store in memory is available; what it refuses is a
pattern or a range (`MemoryStore.isUserError_of_fetch`). And what would have been cancelled at its
deadline is timed out already (`Outcome.startedAt_eq_ofResult`).

So no request to a store in memory ends as an internal error, and none to any store because it was
cancelled (`Service.outcome_ne_internal`). What crashes is another matter, and is kept apart
(`EvalError.overflow?`).
-/

namespace SeriesRender

/-! ## Failures of stores -/

/-- Users can mend what a store in memory refuses, unless it crashes. -/
theorem MemoryStore.isUserError_of_fetch {store : MemoryStore} {tenant pattern : String}
    {start stop : Int} {failure : StoreError}
    (h : store.fetch tenant pattern start stop = .error failure)
    (hoverflow : (EvalError.store failure).overflow? = none) :
    (EvalError.store failure).isUserError = true := by
  unfold fetch at h
  rcases bind_eq_error_iff.1 h with h | ⟨regex, -, h⟩
  · obtain ⟨e, -, rfl⟩ := mapError_eq_error_iff.1 h
    rfl
  · split at h
    · obtain rfl := Except.error.inj h
      rfl
    · obtain ⟨before, entry, after, -, -, h⟩ := mapM_eq_error_iff.1 h
      obtain ⟨overflow, -, rfl⟩ := mapError_eq_error_iff.1 h
      cases hoverflow

/-- Cancelling is not an error of the evaluator. -/
theorem EvalError.IsOwn.ne_cancelled {error : EvalError} (h : error.IsOwn) : error ≠ .cancelled := by
  rintro rfl
  exact h

namespace Outcome

variable {deadline start : Duration} {evaluation : Trace Response}

/-- What comes of a request whose evaluation has a result : if it has been cancelled, the request is
timed out. -/
def ofResult : Except EvalError Response → Outcome
  | .ok response => .completed response
  | .error .cancelled => .timedOut
  | .error error => .failed (.ofEvalError error)

/-- An evaluation that is cancelled at its deadline is timed out, and no other one is cancelled. -/
theorem startedAt_eq_ofResult (hstart : start < deadline)
    (hresult : evaluation.result ≠ .error .cancelled) : startedAt deadline start evaluation =
      ofResult (evaluation.interruptedAt (deadline - start)).result := by
  have hleft : (evaluation.interruptedAt (deadline - start)).result =
      if (Trace.replay (deadline - start) 0 evaluation.events).2 then .error .cancelled
      else evaluation.result := rfl
  have hnoticed : (Trace.replay (deadline - start) 0 evaluation.events).2 = true ↔
      ¬start + evaluation.duration < deadline := by
    rw [Nat.not_lt]
    cases hevents : evaluation.events with
    | nil =>
      -- Nothing looks for an interruption, and nothing takes time.
      have hduration : evaluation.duration = 0 := by
        rw [Trace.duration_eq, hevents]
        rfl
      rw [hduration]
      exact iff_of_false Bool.false_ne_true (Nat.not_le_of_lt hstart)
    | cons event events =>
      rw [Trace.noticed_iff (List.cons_ne_nil _ _), ← hevents, ← Trace.duration_eq, Nat.zero_add]
      exact Nat.sub_le_iff_le_add'
  rw [hleft, startedAt]
  by_cases h : start + evaluation.duration < deadline
  · rw [if_pos h, if_neg fun hn => hnoticed.1 hn h]
    cases hended : evaluation.result with
    | ok response => rfl
    | error error =>
      cases error with
      | cancelled => exact absurd hended hresult
      | _ => rfl
  · rw [if_neg h, if_pos (hnoticed.2 h)]
    rfl

/-- An outcome that failed has an evaluation that did. -/
theorem result_of_startedAt_eq_failed {error : RenderError}
    (h : startedAt deadline start evaluation = .failed error) :
    ∃ e, evaluation.result = .error e ∧ error = .ofEvalError e := by
  unfold startedAt at h
  split at h
  · cases hresult : evaluation.result with
    | ok response =>
      rw [hresult] at h
      cases h
    | error e =>
      rw [hresult] at h
      exact ⟨e, rfl, (Outcome.failed.inj h).symm⟩
  · cases h

end Outcome

/-- An error is an internal one if users cannot mend it and it is no crash. -/
theorem RenderError.ofEvalError_eq_internal_iff {e error : EvalError} :
    ofEvalError e = .internal error ↔ e.overflow? = none ∧ e.isUserError = false ∧ e = error := by
  unfold ofEvalError
  cases hoverflow : e.overflow? with
  | some overflow => exact iff_of_false (fun h => by cases h) fun h => by cases h.1
  | none =>
    by_cases huser : e.isUserError = true
    · simp [huser]
    · simp [huser]

/-- Any other outcome leads to a status below those of internal errors, unless it is a crash. -/
theorem HttpResponse.status_ofOutcome_lt {outcome : Outcome}
    (h : ∀ error, outcome ≠ .failed (.internal error))
    (hcrash : ∀ overflow, outcome ≠ .failed (.crashed overflow)) :
    (ofOutcome outcome).status < 500 := by
  cases outcome with
  | completed response => exact Nat.le_of_ble_eq_true rfl
  | timedOut => exact Nat.le_of_ble_eq_true rfl
  | throttled retryAfter => exact Nat.le_of_ble_eq_true rfl
  | failed error =>
    cases error with
    | invalidParameter fault => exact Nat.le_of_ble_eq_true rfl
    | badRequest error => exact Nat.le_of_ble_eq_true rfl
    | internal error => exact absurd rfl (h error)
    | crashed overflow => exact absurd rfl (hcrash overflow)

namespace Service

variable (s : Service) {p : Parameters}

/-! ## Why requests fail -/

/-- Evaluations fail with errors of their own and with those of the store. -/
theorem failsOnlyWith_evaluation {P : EvalError → Prop} (hown : ∀ error, error.IsOwn → P error)
    (hstore : ∀ pattern failure,
      (s.backend.source p.tenant p.start p.stop pattern).series = .error failure →
        P (.store failure))
    (targets : List Target.Expr) : (s.evaluation p targets).FailsOnlyWith P :=
  (failsOnlyWith_evaluateAll hown hstore targets).bind fun series => .ofExcept fun error h => by
    obtain ⟨overflow, -, rfl⟩ := mapError_eq_error_iff.1 h
    exact hown _ trivial

/-- No evaluation is cancelled of its own accord. -/
theorem result_evaluation_ne_cancelled (p : Parameters) (targets : List Target.Expr) :
    (s.evaluation p targets).result ≠ .error .cancelled := by
  intro h
  have hne : (s.evaluation p targets).FailsOnlyWith (· ≠ .cancelled) :=
    s.failsOnlyWith_evaluation (fun _ => EvalError.IsOwn.ne_cancelled)
      (fun _ _ _ h => EvalError.noConfusion h) targets
  exact hne _ h rfl

/-- A request fails because of a parameter, or with an error that users can mend, or with the error
of its evaluation. -/
theorem cause_of_failed {error : RenderError} (h : (s.render p).1.outcome = .failed error) :
    (∃ fault, error = .invalidParameter fault) ∨ ∃ e, error = .ofEvalError e ∧
      (e.isUserError = true ∨ ∃ targets, (s.evaluation p targets).result = .error e) := by
  cases hc : s.settings.render.check p with
  | error rejection =>
    rw [render, hc] at h
    obtain rfl := Outcome.failed.inj h
    cases RenderSettings.check_eq_error_iff.1 hc with
    | range => exact .inl ⟨_, rfl⟩
    | target => exact .inl ⟨_, rfl⟩
    | call _ _ _ _ _ hcall =>
      exact .inr ⟨_, (RenderError.ofEvalError_of_validate hcall).symm,
        .inl (isUserError_of_validate hcall)⟩
  | ok targets =>
    rw [s.render_of_check hc] at h
    split at h
    · cases h
    · rw [outcome_work] at h
      obtain ⟨e, hresult, rfl⟩ := Outcome.result_of_startedAt_eq_failed h
      exact .inr ⟨e, rfl, .inr ⟨targets, hresult⟩⟩

/-- An internal error is that of an evaluation. -/
theorem result_of_internal {error : EvalError}
    (h : (s.render p).1.outcome = .failed (.internal error)) :
    error.overflow? = none ∧ error.isUserError = false ∧
      ∃ targets, (s.evaluation p targets).result = .error error := by
  obtain ⟨fault, h⟩ | ⟨e, h, hcause⟩ := s.cause_of_failed h
  · cases h
  · obtain ⟨hoverflow, hinternal, rfl⟩ := RenderError.ofEvalError_eq_internal_iff.1 h.symm
    refine ⟨hoverflow, hinternal, hcause.resolve_left fun huser => ?_⟩
    exact Bool.false_ne_true (hinternal.symm.trans huser)

/-- Over a store in memory users can mend every error of an evaluation but a crash. -/
theorem isUserError_of_memory {store : MemoryStore} (hs : s.backend = .memory store)
    {targets : List Target.Expr} {error : EvalError}
    (h : (s.evaluation p targets).result = .error error) (hoverflow : error.overflow? = none) :
    error.isUserError = true := by
  have huser : (s.evaluation p targets).FailsOnlyWith
      fun error => error.overflow? = none → error.isUserError = true := by
    refine s.failsOnlyWith_evaluation (fun _ => EvalError.IsOwn.isUserError) ?_ targets
    intro pattern failure hfailure
    rw [hs] at hfailure
    exact MemoryStore.isUserError_of_fetch hfailure
  exact huser error h hoverflow

/-- With a store in memory no request fails for an internal error. -/
theorem render_ne_internal {store : MemoryStore} (hs : s.backend = .memory store) (p : Parameters)
    (error : EvalError) : (s.render p).1.outcome ≠ .failed (.internal error) := by
  intro h
  obtain ⟨hoverflow, hinternal, targets, hresult⟩ := s.result_of_internal h
  exact Bool.false_ne_true (hinternal.symm.trans (s.isUserError_of_memory hs hresult hoverflow))

/-- Over any store an internal error is that the store is not available. -/
theorem exists_detail_of_internal {error : EvalError}
    (h : (s.render p).1.outcome = .failed (.internal error)) :
    ∃ detail, error = .store (.unavailable detail) := by
  obtain ⟨hoverflow, hinternal, targets, hresult⟩ := s.result_of_internal h
  cases error with
  | store failure =>
    cases failure with
    | unavailable detail => exact ⟨detail, rfl⟩
    | crashed => cases hoverflow
    | _ => cases hinternal
  | cancelled => exact absurd hresult (s.result_evaluation_ne_cancelled p targets)
  | crashed => cases hoverflow
  | _ => cases hinternal

/-- A request with a permit ends as its evaluation does if that is cancelled at the deadline. -/
theorem outcome_of_task {k : Task} (hk : k ∈ s.task? p) {l : Lease} (hl : l ∈ k.lease?) :
    (s.render p).1.outcome =
      .ofResult (k.evaluation.interruptedAt (s.deadline - l.since)).result := by
  obtain ⟨htask, -⟩ | ⟨k', targets, htask, hevaluation, hlease, hrun, -⟩ := s.render_cases p
  · cases htask.symm.trans hk
  obtain rfl := Option.some.inj (htask.symm.trans hk)
  obtain ⟨hstart, hsince⟩ := Pool.lease?_eq_some_iff.1 (hlease.symm.trans hl)
  have hresult : k'.evaluation.result ≠ .error .cancelled := by
    rw [hevaluation]
    exact s.result_evaluation_ne_cancelled p targets
  have hbefore : l.since < s.deadline := by
    rw [hsince]
    exact hstart
  rw [hrun, Task.run, Option.mem_def.1 hl]
  exact Outcome.startedAt_eq_ofResult hbefore hresult

/-! ## Requests that start together, and requests over HTTP -/

/-- Each of several runs is that of one request, with the same settings and over the same store. -/
theorem exists_render_of_mem_renderAll {requests : List Parameters} {run : Run}
    (h : run ∈ (s.renderAll requests).1) : ∃ p ∈ requests, ∃ t : Service,
      t.settings = s.settings ∧ t.backend = s.backend ∧ run = (t.render p).1 := by
  induction requests generalizing s with
  | nil => cases h
  | cons p ps ih =>
    rcases List.mem_cons.1 h with rfl | h
    · exact ⟨p, List.mem_cons_self .., s, rfl, rfl, rfl⟩
    · obtain ⟨q, hq, t, hsettings, hbackend, hrun⟩ := ih (s.render p).2 h
      rw [settings_render] at hsettings
      rw [backend_render] at hbackend
      exact ⟨q, List.mem_cons_of_mem _ hq, t, hsettings, hbackend, hrun⟩

/-- Each outcome of a batch is the outcome of one of its requests, taken in by itself. -/
theorem exists_render_of_mem {requests : List Parameters} {outcome : Outcome}
    (h : outcome ∈ (s.serve requests).1) : ∃ p ∈ requests, ∃ t : Service,
      t.settings = s.settings ∧ t.backend = s.backend ∧ outcome = (t.render p).1.outcome := by
  obtain ⟨run, hrun, rfl⟩ := List.mem_map.1 h
  obtain ⟨p, hp, t, hsettings, hbackend, rfl⟩ := s.exists_render_of_mem_renderAll hrun
  exact ⟨p, hp, t, hsettings, hbackend, rfl⟩

section Answers

variable {store : MemoryStore} (hs : s.backend = .memory store)

include hs

/-- No write fails for an internal error. -/
theorem status_answerMetrics_lt (r : HttpRequest) : (s.answerMetrics r).1.status < 500 := by
  unfold answerMetrics
  rw [hs]
  split
  · exact Nat.le_of_ble_eq_true rfl
  · dsimp only [Backend.writable?]
    cases (store.ingest _ r.body).1 with
    | ok _ => exact Nat.le_of_ble_eq_true rfl
    | error e => exact Nat.le_of_ble_eq_true rfl

variable {r : HttpRequest}
  (hcrash : ∀ p ∈ r.rendering?, ∀ overflow, (s.render p).1.outcome ≠ .failed (.crashed overflow))

include hcrash

theorem status_answerOn_lt {route : Route} (hr : Route.ofPath? r.path = some route)
    (hm : r.method ∈ route.methods) : (s.answerOn r route).1.status < 500 := by
  cases route with
  | render =>
    rw [HttpRequest.rendering?, if_pos ⟨hr, hm⟩] at hcrash
    rw [answerOn, answerRender]
    cases hread : Parameters.read r.query r.body r.tenant? r.time with
    | error fault =>
      exact HttpResponse.status_ofOutcome_lt (fun _ h => by cases h) fun _ h => by cases h
    | ok p =>
      rw [hread] at hcrash
      exact HttpResponse.status_ofOutcome_lt (s.render_ne_internal hs p) (hcrash p rfl)
  | metrics =>
    rw [answerOn_metrics]
    dsimp only
    exact s.status_answerMetrics_lt hs r
  | health => exact Nat.le_of_ble_eq_true rfl

theorem status_answer_lt : (s.answer r).1.status < 500 := by
  cases hr : Route.ofPath? r.path with
  | none =>
    rw [answer, hr]
    exact Nat.le_of_ble_eq_true rfl
  | some route =>
    rw [answer, hr]
    dsimp only
    split
    · next hm =>
      dsimp only
      split <;> exact s.status_answerOn_lt hs hcrash hr hm
    · exact Nat.le_of_ble_eq_true rfl

end Answers

/-! ## Histories -/

/-- A store in memory stays one when it is written to. -/
theorem exists_memory_answerMetrics {store : MemoryStore} (hs : s.backend = .memory store)
    (r : HttpRequest) : ∃ next, (s.answerMetrics r).2.backend = .memory next := by
  unfold answerMetrics
  rw [hs]
  split
  · exact ⟨store, hs⟩
  · exact ⟨_, rfl⟩

/-- A store in memory stays one. -/
theorem exists_memory_after {store : MemoryStore} (hs : s.backend = .memory store) (a : Action) :
    ∃ next, (s.after a).backend = .memory next := by
  cases a with
  | wait d => exact ⟨store, hs⟩
  | start p => exact ⟨store, (s.backend_render p).trans hs⟩
  | drain => exact ⟨store, hs⟩
  | answer r =>
    rw [after]
    cases hr : r.rendering? with
    | some p => exact ⟨store, by rw [s.answer_of_rendering hr]; exact (s.backend_render p).trans hs⟩
    | none =>
      rcases s.answer_of_not_rendering hr with h | h
      · rw [h]
        exact ⟨store, hs⟩
      · rw [h]
        exact s.exists_memory_answerMetrics hs r

theorem exists_memory_afterAll {store : MemoryStore} (hs : s.backend = .memory store)
    (history : List Action) : ∃ next, (s.afterAll history).backend = .memory next := by
  induction history generalizing s store with
  | nil => exact ⟨store, hs⟩
  | cons a as ih =>
    obtain ⟨next, hnext⟩ := s.exists_memory_after hs a
    exact ih (s.after a) hnext

/-- No request to a store in memory ends as an internal error, whatever has happened before : users
can mend every error of an evaluation that does not crash. Over any store an internal error is that
the store is not available, and none is that an evaluation has been cancelled : a request whose
evaluation is cancelled at its deadline is timed out. -/
theorem outcome_ne_internal (settings : Settings) (history : List Action) :
    (∀ store, let s := (launch settings (.memory store)).afterAll history
      (∀ requests, ∀ outcome ∈ (s.serve requests).1, ∀ error,
          outcome ≠ .failed (.internal error)) ∧
        (∀ r, (∀ p ∈ r.rendering?, ∀ overflow,
            (s.render p).1.outcome ≠ .failed (.crashed overflow)) → (s.answer r).1.status < 500) ∧
        ∀ p targets error, (s.evaluation p targets).result = .error error →
          error.overflow? = none → error.isUserError = true) ∧
      ∀ backend, let s := (launch settings backend).afterAll history
        (∀ requests, ∀ outcome ∈ (s.serve requests).1, outcome ≠ .failed (.ofEvalError .cancelled) ∧
            ∀ error, outcome = .failed (.internal error) →
              ∃ detail, error = .store (.unavailable detail)) ∧
          ∀ p, ∀ k ∈ s.task? p, ∀ l ∈ k.lease?, (s.render p).1.outcome =
            .ofResult (k.evaluation.interruptedAt (s.deadline - l.since)).result := by
  constructor
  · intro store s
    obtain ⟨next, hs⟩ : ∃ next, s.backend = .memory next := exists_memory_afterAll _ rfl history
    refine ⟨fun requests outcome houtcome => ?_, fun r => s.status_answer_lt hs,
      fun p targets error => s.isUserError_of_memory hs⟩
    obtain ⟨p, -, t, -, hbackend, rfl⟩ := s.exists_render_of_mem houtcome
    exact t.render_ne_internal (hbackend.trans hs) p
  · intro backend s
    refine ⟨fun requests outcome houtcome => ?_, fun p k hk l hl => s.outcome_of_task hk hl⟩
    obtain ⟨p, -, t, -, -, rfl⟩ := s.exists_render_of_mem houtcome
    refine ⟨fun h => ?_, fun error => t.exists_detail_of_internal⟩
    obtain ⟨detail, hdetail⟩ := t.exists_detail_of_internal h
    cases hdetail

end Service

end SeriesRender
