import SeriesRender.Proofs.Evaluation.Trace
import SeriesRender.Proofs.Service.History

/-!
# Services that answer at once

A store in memory answers at once, so an evaluation over it takes no time. If all permits are free
and the deadline is not now, the evaluation starts and ends at the instant at which it is asked for
(`IsPrompt.work_eq`), and all permits are free again. A service that is like this stays like this
(`IsPrompt.after`), and no request takes time (`IsPrompt.serveOne_eq`).
-/

namespace SeriesRender

/-- A free permit goes to an evaluation that takes no time. -/
theorem Pool.assign_of_idle {p : Pool} {now deadline : Duration} (hidle : ∀ b ∈ p.busy, b ≤ now)
    (hdeadline : now < deadline) : p.assign now deadline 0 = (some now, ⟨p.size, [now]⟩) := by
  have hbusy : p.busy.filter (now < ·) = [] := by
    rw [List.filter_eq_nil_iff]
    intro b hb
    simpa using hidle b hb
  have hend : min (now + 0) deadline = now := Nat.min_eq_left (Nat.le_of_lt hdeadline)
  rw [assign, acquire, hbusy]
  dsimp only [List.min?_nil]
  rw [if_pos hdeadline, hend]

/-- The run of an evaluation that is made at the instant at which it is asked for. -/
def Run.atOnce (now deadline : Duration) (p : Parameters) (evaluation : Trace Response) : Run where
  outcome := match evaluation.result with
    | .ok response => .completed response
    | .error e => .failed (.ofEvalError e)
  ended := now
  calls := (timedFetches deadline [] now evaluation.fetches).map fun (turns, f) =>
    (turns, ⟨p.tenant, f.pattern, p.start, p.stop⟩)

namespace Service

/-- The store decides how long each fetch of an evaluation takes. -/
theorem delay_of_mem_fetches_evaluation (s : Service) {p : Parameters} {targets : List Target.Expr}
    {f : Fetch} (h : f ∈ (s.evaluation p targets).fetches) :
    f.delay = (s.backend.source p.tenant p.start p.stop f.pattern).delay := by
  rcases Trace.mem_fetches_bind h with h | ⟨_, -, h⟩
  · obtain ⟨e, -, h⟩ := exists_of_mem_fetches_evaluateAll h
    exact delay_of_mem_fetches h
  · exact absurd h not_mem_fetches_ofExcept

/-- The store is in memory, all permits are free, and a request has time. -/
structure IsPrompt (s : Service) : Prop where
  memory : ∃ store, s.backend = .memory store
  idle : ∀ b ∈ s.pool.busy, b ≤ s.now
  patient : 0 < s.settings.render.requestTimeout

/-- A service is prompt that starts with a store in memory and time for its requests. -/
theorem isPrompt_launch {settings : Settings} (h : 0 < settings.render.requestTimeout)
    (store : MemoryStore) : (launch settings (.memory store)).IsPrompt :=
  ⟨⟨store, rfl⟩, List.forall_mem_nil _, h⟩

namespace IsPrompt

variable {s : Service} (h : s.IsPrompt)

include h

theorem duration_evaluation (p : Parameters) (targets : List Target.Expr) :
    (s.evaluation p targets).duration = 0 := by
  obtain ⟨store, hstore⟩ := h.memory
  refine Trace.totalDelay_eq_zero fun f hf => ?_
  rw [s.delay_of_mem_fetches_evaluation hf, hstore]
  rfl

theorem work_eq (p : Parameters) {evaluation : Trace Response} (hd : evaluation.duration = 0) :
    s.work p evaluation =
      (.atOnce s.now (s.now + s.settings.render.requestTimeout) p evaluation,
        { s with pool := ⟨s.pool.size, [s.now]⟩ }) := by
  have hdeadline : s.now < s.now + s.settings.render.requestTimeout :=
    Nat.lt_add_of_pos_right h.patient
  rw [work, hd, Pool.assign_of_idle h.idle hdeadline]
  dsimp only
  rw [Option.filter_some, Nat.add_zero, if_pos (by simpa using hdeadline)]
  rfl

/-- A request that passes the check is refused, or answered at once. -/
theorem render_eq {p : Parameters} {targets : List Target.Expr}
    (hc : s.settings.render.check p = .ok targets) : s.render p =
      if 0 < (s.accept p.tenant).1 ∧ s.settings.limits.refuses = true then
        (⟨.throttled ((Duration.ofSeconds? (s.accept p.tenant).1.seconds).getD
          (s.accept p.tenant).1), s.now, []⟩, (s.accept p.tenant).2)
      else
        (.atOnce s.now (s.now + s.settings.render.requestTimeout) p (s.evaluation p targets),
          { (s.accept p.tenant).2 with pool := ⟨s.pool.size, [s.now]⟩ }) := by
  have haccept : (s.accept p.tenant).2.IsPrompt := ⟨h.memory, h.idle, h.patient⟩
  have hwork := haccept.work_eq p (haccept.duration_evaluation p targets)
  rw [s.render_of_check hc]
  exact congrArg (ite _ _) hwork

theorem ended_render (p : Parameters) : (s.render p).1.ended = s.now := by
  cases hc : s.settings.render.check p with
  | error e => rw [render, hc]
  | ok targets =>
    rw [h.render_eq hc]
    split <;> rfl

/-- The request ends when it starts. -/
theorem serveOne_eq (p : Parameters) : s.serveOne p =
    ((s.render p).1.outcome, (s.render p).1.calls.map (·.2), (s.render p).2) := by
  have hnow : max (s.render p).2.now (s.render p).1.ended = (s.render p).2.now := by
    rw [h.ended_render, now_render]
    exact Nat.max_self _
  rw [serveOne]
  dsimp only
  rw [hnow]

/-- A prompt service stays prompt when a request is taken in. -/
theorem render (p : Parameters) : (s.render p).2.IsPrompt := by
  cases hc : s.settings.render.check p with
  | error e =>
    rw [Service.render, hc]
    exact h
  | ok targets =>
    rw [h.render_eq hc]
    split
    · exact ⟨h.memory, h.idle, h.patient⟩
    · exact ⟨h.memory, by simp [accept], h.patient⟩

theorem answerMetrics (r : HttpRequest) : (s.answerMetrics r).2.IsPrompt := by
  obtain ⟨store, hstore⟩ := h.memory
  unfold Service.answerMetrics
  rw [hstore]
  split
  · exact h
  · exact ⟨⟨_, rfl⟩, h.idle, h.patient⟩

/-- A request for series, read and taken in without waiting. -/
theorem answerOn_render_eq (r : HttpRequest) : s.answerOn r .render =
    match Parameters.read r.query r.body r.tenant? r.time with
    | .error fault => (.ofOutcome (.failed (.invalidParameter fault)), [], s)
    | .ok p => (.ofOutcome (s.render p).1.outcome, (s.render p).1.calls.map (·.2),
        (s.render p).2) := by
  rw [Service.answerOn, answerRender]
  cases Parameters.read r.query r.body r.tenant? r.time with
  | error fault => rfl
  | ok p =>
    dsimp only
    rw [h.serveOne_eq]

theorem answer (r : HttpRequest) : (s.answer r).2.2.IsPrompt := by
  cases hr : r.rendering? with
  | some p =>
    rw [s.answer_of_rendering hr, h.serveOne_eq]
    exact h.render p
  | none =>
    rcases s.answer_of_not_rendering hr with hs | hs
    · rw [hs]
      exact h
    · rw [hs]
      exact h.answerMetrics r

theorem after (a : Action) : (s.after a).IsPrompt := by
  cases a with
  | wait d =>
    exact ⟨h.memory, fun b hb => Nat.le_trans (h.idle b hb) (Nat.le_add_right _ _), h.patient⟩
  | start p => exact h.render p
  | drain => exact ⟨h.memory, h.idle, h.patient⟩
  | answer r => exact h.answer r

theorem afterAll (as : List Action) : (s.afterAll as).IsPrompt := by
  induction as generalizing s with
  | nil => exact h
  | cons a as ih => exact ih (h.after a)

end IsPrompt

end Service

end SeriesRender
