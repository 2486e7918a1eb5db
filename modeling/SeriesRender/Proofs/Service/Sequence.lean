import Mathlib.Data.List.TakeWhile
import SeriesRender.Proofs.Evaluation.Interruption
import SeriesRender.Proofs.Output.Format
import SeriesRender.Proofs.Service.Permits

/-!
# One request, one target after the other

`Trace.UntilFailure` says which of several evaluations are made, one after the other, and what comes
of them : either all of them are made, and their series are put together in order, or those up to
the first one that fails, with its error. The targets of a request are evaluated like this
(`evaluateAll_of_untilFailure`).

A request that has all permits to itself does not wait for one (`Service.Idle.acquire_eq`). So if it
is not rejected and not refused, it ends with what comes of its targets in sequence, unless their
fetches take as long as the request has, or the series cannot be written
(`Service.serveOne_of_untilFailure`). The fetches are those of this sequence that can start before
the deadline (`map_snd_timedFetches`).
-/

namespace SeriesRender

open Target

/-! ## One evaluation after the other -/

/-- Of several evaluations, those that are made if each one is made after the one before, until one
fails; and what comes of all of them. -/
inductive Trace.UntilFailure :
    List (Trace (List Series)) → List (Trace (List Series)) → Except EvalError (List Series) → Prop
  /-- No evaluation fails : the result is all the series, in order. -/
  | completed {evaluations : List (Trace (List Series))} {found : List (List Series)}
    (h : List.Forall₂ (fun t series => t.result = .ok series) evaluations found) :
    UntilFailure evaluations evaluations (.ok found.flatten)
  /-- This evaluation is the first one that fails : the result is its error, and no later one is
  made. -/
  | failed {before after : List (Trace (List Series))} {t : Trace (List Series)} {error : EvalError}
    (hbefore : ∀ u ∈ before, ∃ series, u.result = .ok series) (ht : t.result = .error error) :
    UntilFailure (before ++ t :: after) (before ++ [t]) (.error error)

namespace Trace

variable {t : Trace (List Series)} {evaluations made : List (Trace (List Series))}
  {result : Except EvalError (List Series)}

/-- Without evaluations nothing is made, and no series are found. -/
theorem untilFailure_nil_iff : UntilFailure [] made result ↔ made = [] ∧ result = .ok [] := by
  constructor
  · generalize hnil : [] = evaluations
    rintro (h | ⟨-, -⟩)
    · subst hnil
      cases h
      exact ⟨rfl, rfl⟩
    · simp at hnil
  · rintro ⟨rfl, rfl⟩
    exact .completed .nil

/-- If the first evaluation fails, it is the only one; otherwise its series come first. -/
theorem untilFailure_cons_iff : UntilFailure (t :: evaluations) made result ↔
    (∃ error, t.result = .error error ∧ made = [t] ∧ result = .error error) ∨
      ∃ series others rest, t.result = .ok series ∧ UntilFailure evaluations others rest ∧
        made = t :: others ∧ result = rest.map (series ++ ·) := by
  constructor
  · generalize hcons : t :: evaluations = all
    rintro (h | ⟨hbefore, ht⟩)
    · subst hcons
      cases h with
      | cons ht h => exact .inr ⟨_, _, _, ht, .completed h, rfl, rfl⟩
    · next before after u error =>
      cases before with
      | nil =>
        obtain ⟨rfl, rfl⟩ := List.cons.inj hcons
        exact .inl ⟨error, ht, rfl, rfl⟩
      | cons v before =>
        obtain ⟨rfl, rfl⟩ := List.cons.inj hcons
        obtain ⟨⟨series, hseries⟩, hbefore⟩ := List.forall_mem_cons.1 hbefore
        exact .inr ⟨series, _, _, hseries, .failed hbefore ht, rfl, rfl⟩
  · rintro (⟨error, ht, rfl, rfl⟩ | ⟨series, others, rest, ht, h, rfl, rfl⟩)
    · rw [← List.nil_append (t :: evaluations), ← List.nil_append [t]]
      exact .failed (List.forall_mem_nil _) ht
    · cases h with
      | completed h => exact .completed (.cons ht h)
      | failed hbefore hu => exact .failed (List.forall_mem_cons.2 ⟨⟨series, ht⟩, hbefore⟩) hu

/-- Evaluations end with the first failure, or are all made. -/
theorem exists_untilFailure (evaluations : List (Trace (List Series))) :
    ∃ made result, UntilFailure evaluations made result := by
  induction evaluations with
  | nil => exact ⟨[], .ok [], untilFailure_nil_iff.2 ⟨rfl, rfl⟩⟩
  | cons t evaluations ih =>
    obtain ⟨others, rest, h⟩ := ih
    cases ht : t.result with
    | error error => exact ⟨_, _, untilFailure_cons_iff.2 (.inl ⟨error, ht, rfl, rfl⟩)⟩
    | ok series =>
      exact ⟨_, _, untilFailure_cons_iff.2 (.inr ⟨series, others, rest, ht, h, rfl, rfl⟩)⟩

end Trace

theorem result_evaluateAll_cons (c : Context) (e : Expr) (es : List Expr) :
    (evaluateAll c (e :: es)).result = (evaluate c e).result >>= fun series =>
      (evaluateAll c es).result.map (series ++ ·) := by
  rw [evaluateAll, Trace.result_bind]
  refine congrArg (_ >>= ·) (funext fun series => ?_)
  rw [Trace.result_bind]
  cases (evaluateAll c es).result <;> rfl

/-- Several expressions are evaluated one after the other, until one fails. -/
theorem evaluateAll_of_untilFailure {c : Context} {es : List Expr}
    {made : List (Trace (List Series))} {result : Except EvalError (List Series)}
    (h : Trace.UntilFailure (es.map (evaluate c)) made result) :
    (evaluateAll c es).result = result ∧
      (evaluateAll c es).fetches = made.flatMap Trace.fetches := by
  induction es generalizing made result with
  | nil =>
    obtain ⟨rfl, rfl⟩ := Trace.untilFailure_nil_iff.1 h
    exact ⟨rfl, rfl⟩
  | cons e es ih =>
    rw [result_evaluateAll_cons, evaluateAll]
    obtain ⟨error, he, rfl, rfl⟩ | ⟨series, others, rest, he, hrest, rfl, rfl⟩ :=
      Trace.untilFailure_cons_iff.1 h
    · rw [Trace.fetches_bind_of_error he, he, List.flatMap_singleton]
      exact ⟨rfl, rfl⟩
    · obtain ⟨hresult, hfetches⟩ := ih hrest
      rw [Trace.fetches_bind_of_ok he, he, hresult,
        Trace.fetches_bind_of_forall (fun _ => rfl), hfetches, List.flatMap_cons]
      exact ⟨rfl, rfl⟩

/-! ## Fetches before a deadline -/

/-- The fetches of an evaluation are those that start before the deadline. -/
theorem map_snd_timedFetches (deadline : Duration) (turns : Turns) (now : Duration)
    (fs : List Fetch) : (timedFetches deadline turns now fs).map Prod.snd =
      ((startsFrom now fs).takeWhile (·.1 < deadline)).map Prod.snd := by
  induction fs generalizing turns now with
  | nil => rfl
  | cons f fs ih =>
    rcases Nat.lt_or_ge now deadline with hstart | hlate
    · obtain ⟨turns', hnext⟩ := exists_timedFetches_cons hstart turns f fs
      rw [hnext, startsFrom, List.takeWhile_cons_of_pos (by simpa using hstart),
        List.map_cons, List.map_cons, ih]
    · rw [timedFetches_of_le hlate, takeWhile_startsFrom_of_le hlate]
      rfl

/-- A fetch starts no later than the delays before it allow. -/
theorem le_of_mem_startsFrom {now : Duration} {fs : List Fetch} {start : Duration × Fetch}
    (h : start ∈ startsFrom now fs) : start.1 ≤ now + Trace.totalDelay fs := by
  induction fs generalizing now with
  | nil => cases h
  | cons f fs ih =>
    rw [Trace.totalDelay, ← Nat.add_assoc]
    rcases List.mem_cons.1 h with rfl | h
    · exact Nat.le_trans (Nat.le_add_right _ _) (Nat.le_add_right _ _)
    · exact ih h

/-- If they take less time than there is, all of them do. -/
theorem map_snd_takeWhile_startsFrom {deadline now : Duration} {fs : List Fetch}
    (h : now + Trace.totalDelay fs < deadline) :
    ((startsFrom now fs).takeWhile (·.1 < deadline)).map Prod.snd = fs := by
  rw [List.takeWhile_eq_self_iff.2 fun start hstart =>
    decide_eq_true (Nat.lt_of_le_of_lt (le_of_mem_startsFrom hstart) h), map_snd_startsFrom]

/-! ## A request alone -/

namespace Service

/-- The evaluations of several targets, each of them by itself. -/
def evaluations (s : Service) (p : Parameters) (targets : List Expr) : List (Trace (List Series)) :=
  targets.map (evaluate ⟨.standard, s.settings.render.style p.format,
    s.backend.source p.tenant p.start p.stop⟩)

variable {s : Service} {p : Parameters} {targets : List Expr}

/-- The evaluation of a request is that of its targets in sequence, and then the response. -/
theorem evaluation_of_untilFailure {made : List (Trace (List Series))}
    {result : Except EvalError (List Series)}
    (h : Trace.UntilFailure (s.evaluations p targets) made result) :
    (s.evaluation p targets).result =
        (result >>= fun series =>
          (formatSeries p.format (s.settings.render.style p.format) series).mapError .crashed) ∧
      (s.evaluation p targets).fetches = made.flatMap Trace.fetches := by
  obtain ⟨hresult, hfetches⟩ := evaluateAll_of_untilFailure h
  rw [← hresult, ← hfetches]
  refine ⟨?_, Trace.fetches_bind_of_forall (fun _ => rfl) _⟩
  exact Trace.result_bind _ _

/-- If no permit is in use, there is one at once. -/
theorem Idle.acquire_eq (h : s.Idle) (hsize : 0 < s.pool.size) :
    (s.pool.acquire s.now).1 = s.now :=
  Pool.acquire_of_available (by rwa [Pool.available_of_idle h])

/-- A request that is not throttled is worked on. -/
theorem render_of_not_throttled (hc : s.settings.render.check p = .ok targets)
    (h : ∀ d, (s.render p).1.outcome ≠ .throttled d) :
    s.render p = (s.accept p.tenant).2.work p (s.evaluation p targets) := by
  have hrender := s.render_of_check hc
  split at hrender
  · exact absurd (congrArg (·.1.outcome) hrender) (h _)
  · exact hrender

/-- The run of a request that finds all permits free. -/
theorem run_render_of_idle (hidle : s.Idle) (hsize : 0 < s.pool.size)
    (hc : s.settings.render.check p = .ok targets)
    (h : ∀ d, (s.render p).1.outcome ≠ .throttled d) : (s.render p).1 =
      let evaluation := s.evaluation p targets
      ⟨.startedAt s.deadline s.now evaluation, min (s.now + evaluation.duration) s.deadline,
        (timedFetches s.deadline [] s.now evaluation.fetches).map fun (turns, f) =>
          (turns, ⟨p.tenant, f.pattern, p.start, p.stop⟩)⟩ := by
  have hacquire := hidle.acquire_eq hsize
  have hrun : (s.render p).1 = (Task.mk (s.evaluation p targets)
      (s.pool.lease? s.now s.deadline (s.evaluation p targets).duration)).run p s.deadline := by
    rw [render_of_not_throttled hc h]
    exact run_work (s.accept p.tenant).2 p _
  rw [hrun]
  dsimp only
  rcases Nat.lt_or_ge s.now s.deadline with hstart | hlate
  · rw [Pool.lease?_of_lt (by rwa [hacquire]), hacquire]
    rfl
  · rw [Pool.lease?_of_le (by rwa [hacquire]), timedFetches_of_le hlate,
      Outcome.startedAt_of_deadline_le hlate,
      Nat.min_eq_right (Nat.le_trans hlate (Nat.le_add_right _ _))]
    rfl

/-- On an idle service work starts at once. -/
theorem outcome_of_idle (hidle : s.Idle) (hsize : 0 < s.pool.size)
    (hc : s.settings.render.check p = .ok targets) (h : ∀ d, (s.serveOne p).1 ≠ .throttled d) :
    (s.serveOne p).1 =
      .startedAt s.settings.render.requestTimeout 0 (s.evaluation p targets) :=
  (congrArg Run.outcome (run_render_of_idle hidle hsize hc h)).trans
    (Outcome.startedAt_shift s.now s.settings.render.requestTimeout)

/-- A request that finds all permits free makes the fetches that start before its deadline. -/
theorem calls_of_idle (hidle : s.Idle) (hsize : 0 < s.pool.size)
    (hc : s.settings.render.check p = .ok targets) (h : ∀ d, (s.serveOne p).1 ≠ .throttled d) :
    (s.serveOne p).2.1 =
      (((startsFrom s.now (s.evaluation p targets).fetches).takeWhile (·.1 < s.deadline)).map
        Prod.snd).map fun f => ⟨p.tenant, f.pattern, p.start, p.stop⟩ := by
  have hcalls : (s.serveOne p).2.1 = (s.render p).1.calls.map (·.2) := rfl
  rw [hcalls, run_render_of_idle hidle hsize hc h, ← map_snd_timedFetches s.deadline []]
  dsimp only
  rw [List.map_map, List.map_map]
  rfl

theorem now_of_idle (hidle : s.Idle) (hsize : 0 < s.pool.size)
    (hc : s.settings.render.check p = .ok targets) (h : ∀ d, (s.serveOne p).1 ≠ .throttled d) :
    (s.serveOne p).2.2.now =
      s.now + min (s.evaluation p targets).duration s.settings.render.requestTimeout := by
  have hnow : (s.serveOne p).2.2.now = max (s.render p).2.now (s.render p).1.ended := rfl
  rw [hnow, run_render_of_idle hidle hsize hc h, now_render]
  dsimp only
  rw [deadline, Nat.add_min_add_left]
  exact Nat.max_eq_right (Nat.le_add_right _ _)

/-- After any rounds, a request alone is the evaluation of its targets one after the other, up to
the first one that fails. If the fetches of these take as long as the request has, it is timed out.
Otherwise it is completed with all the series in order, or it fails with the error of that target;
it makes these fetches and no other ones, and ends after them. But series whose samples do not all
have instants can be written raw only : in another format the request fails with a crash. -/
theorem serveOne_of_untilFailure (settings : Settings) (backend : Backend) (rounds : List Round)
    {p : Parameters} {targets : List Expr} (hc : settings.render.check p = .ok targets)
    (h : ∀ d, (((launch settings backend).afterRounds rounds).serveOne p).1 ≠ .throttled d) :
    let s := (launch settings backend).afterRounds rounds
    let timeout := settings.render.requestTimeout
    (∃ made result, Trace.UntilFailure (s.evaluations p targets) made result) ∧
      ∀ made result, Trace.UntilFailure (s.evaluations p targets) made result →
        let fetches := made.flatMap Trace.fetches
        let delay := Trace.totalDelay fetches
        (timeout ≤ delay → (s.serveOne p).1 = .timedOut) ∧
          (delay < timeout →
            (∀ series, result = .ok series →
              let formatted := formatSeries p.format (settings.render.style p.format) series
              (∀ response, formatted = .ok response → (s.serveOne p).1 = .completed response) ∧
                (∀ overflow, formatted = .error overflow →
                  (s.serveOne p).1 = .failed (.crashed overflow)) ∧
                ((∃ response, formatted = .ok response) ↔
                  p.format = .raw ∨ ∀ a ∈ series, a.Dated)) ∧
              (∀ error, result = .error error →
                (s.serveOne p).1 = .failed (.ofEvalError error)) ∧
              (s.serveOne p).2.1 = made.flatMap (·.calls p.tenant p.start p.stop)) ∧
          (s.serveOne p).2.1 =
            (((startsFrom s.now fetches).takeWhile (·.1 < s.now + timeout)).map Prod.snd).map
              (fun f => ⟨p.tenant, f.pattern, p.start, p.stop⟩) ∧
          (s.serveOne p).2.2.now = s.now + min delay timeout := by
  intro s timeout
  have hs : s.settings = settings := settings_afterRounds _ rounds
  have hidle : s.Idle := idle_afterRounds settings backend rounds
  have hsize : 0 < s.pool.size := by
    rw [size_afterRounds]
    exact Nat.lt_of_lt_of_le Nat.one_pos (Nat.le_max_left _ _)
  have hcheck : s.settings.render.check p = .ok targets := by rwa [hs]
  refine ⟨Trace.exists_untilFailure _, ?_⟩
  intro made result hmade fetches delay
  obtain ⟨hresult, hfetches⟩ := evaluation_of_untilFailure hmade
  have hduration : (s.evaluation p targets).duration = delay := congrArg Trace.totalDelay hfetches
  have houtcome := outcome_of_idle hidle hsize hcheck h
  have hcalls := calls_of_idle hidle hsize hcheck h
  have hnow := now_of_idle hidle hsize hcheck h
  rw [hs] at hresult houtcome hnow
  rw [Outcome.startedAt, Nat.zero_add, hduration] at houtcome
  rw [hfetches, deadline, hs] at hcalls
  rw [hduration] at hnow
  refine ⟨fun hlate => ?_, fun hearly => ⟨?_, ?_, ?_⟩, hcalls, hnow⟩
  · rw [houtcome, if_neg (Nat.not_lt_of_le hlate)]
  · rintro series rfl formatted
    replace hresult : (s.evaluation p targets).result = formatted.mapError .crashed := hresult
    rw [houtcome, if_pos hearly, hresult]
    refine ⟨?_, ?_, exists_formatSeries_iff⟩
    · rintro response hresponse
      rw [hresponse]
      rfl
    · rintro overflow hoverflow
      rw [hoverflow]
      rfl
  · rintro error rfl
    rw [houtcome, if_pos hearly, hresult]
    rfl
  · rw [hcalls, map_snd_takeWhile_startsFrom (Nat.add_lt_add_left hearly _), List.map_flatMap]
    rfl

/-! ## Three targets -/

/-- Where nothing is refused, nothing is throttled. -/
theorem serveOne_ne_throttled (h : s.settings.limits.refuses = false) (p : Parameters)
    (d : Duration) : (s.serveOne p).1 ≠ .throttled d := by
  intro hd
  obtain ⟨-, hrefuses, -⟩ := s.throttled_iff.1 hd
  exact Bool.false_ne_true (h.symm.trans hrefuses)

/-- A request for two paths, and again for the first one. -/
def threeTargets : Parameters := ⟨"acme", ["a", "b", "a"], 0, 3, .json⟩

/-- A store without data that takes its time to answer, and that is not there for one pattern. -/
def answersAfter (delay : Duration) (missing : String) : Backend :=
  .readOnly fun _ _ _ pattern =>
    ⟨delay, if pattern = missing then .error (.unavailable "gone") else .ok []⟩

theorem check_threeTargets : (hasty 1).render.check threeTargets =
    .ok [.selector "a", .selector "b", .selector "a"] := by
  have ha : Target.parse 128 "a" = .ok (.selector "a") :=
    parse_text_of_wellFormed (e := .selector "a") wellFormed_probe (Nat.zero_le _)
  have hb : Target.parse 128 "b" = .ok (.selector "b") :=
    parse_text_of_wellFormed (e := .selector "b") ⟨isWord_of_isIdentifier rfl,
      classifyWord_of_none (by decide) (by decide) (by decide)⟩ (Nat.zero_le _)
  refine RenderSettings.check_eq_ok_iff.2 ⟨rfl, ?_, rfl⟩
  change List.mapM (Target.parse 128) ["a", "b", "a"] = _
  rw [List.mapM_cons, List.mapM_cons, List.mapM_cons, ha, hb]
  rfl

/-- The second target fails. If this is known after eight of ten milliseconds, so does the request,
without a fetch for the third one; if it is known at the deadline, the request is timed out. -/
theorem serveOne_of_untilFailure_threeTargets :
    let s := fun delay => launch (hasty 1) (answersAfter delay "b")
    (hasty 1).render.check threeTargets =
        .ok [.selector "a", .selector "b", .selector "a"] ∧
      (∀ delay d, ((s delay).serveOne threeTargets).1 ≠ .throttled d) ∧
      ((s (.ofMillis 4)).serveOne threeTargets).1 =
        .failed (.internal (.store (.unavailable "gone"))) ∧
      ((s (.ofMillis 4)).serveOne threeTargets).2.1 =
        [⟨"acme", "a", 0, 3⟩, ⟨"acme", "b", 0, 3⟩] ∧
      ((s (.ofMillis 5)).serveOne threeTargets).1 = .timedOut := by
  intro s
  have hnotThrottled : ∀ delay d, ((s delay).serveOne threeTargets).1 ≠ .throttled d :=
    fun delay => serveOne_ne_throttled rfl threeTargets
  have hfailure : ∀ delay, Trace.UntilFailure
      ((s delay).evaluations threeTargets [.selector "a", .selector "b", .selector "a"])
      ((s delay).evaluations threeTargets [.selector "a", .selector "b"])
      (.error (.store (.unavailable "gone"))) := by
    intro delay
    refine Trace.untilFailure_cons_iff.2 (.inr
      ⟨[], _, .error (.store (.unavailable "gone")), rfl, ?_, rfl, rfl⟩)
    exact Trace.untilFailure_cons_iff.2 (.inl ⟨_, rfl, rfl, rfl⟩)
  have hrequest := fun delay =>
    (serveOne_of_untilFailure (hasty 1) (answersAfter delay "b") [] check_threeTargets
      (hnotThrottled delay)).2 _ _ (hfailure delay)
  obtain ⟨-, hearly, -⟩ := hrequest (.ofMillis 4)
  obtain ⟨hlate, -⟩ := hrequest (.ofMillis 5)
  obtain ⟨-, hfailed, hcalls⟩ := hearly (by decide)
  exact ⟨check_threeTargets, hnotThrottled, hfailed _ rfl, hcalls, hlate (by decide)⟩

/-- A store with one series, on the widest interval. -/
def widestStore : Backend :=
  .readOnly fun _ _ _ _ => ⟨0, .ok [widestSeries]⟩

/-- So a request may not be completed though its targets all evaluate, and in time. -/
theorem exists_crash_of_evaluations : ∃ (settings : Settings) (backend : Backend) (p : Parameters)
    (targets : List Expr) (series : List Series), settings.render.check p = .ok targets ∧
      let s := launch settings backend
      (∀ d, (s.serveOne p).1 ≠ .throttled d) ∧
        Trace.UntilFailure (s.evaluations p targets) (s.evaluations p targets) (.ok series) ∧
        Trace.totalDelay ((s.evaluations p targets).flatMap Trace.fetches) <
          settings.render.requestTimeout ∧
        ∀ response, (s.serveOne p).1 ≠ .completed response := by
  refine ⟨.standard, widestStore, probe, [.selector "a"], [widestSeries], check_probe,
    serveOne_ne_throttled rfl probe, ?_, by decide, ?_⟩
  · have hfound : (evaluate ⟨.standard, .machine, widestStore.source "acme" 0 3⟩
        (.selector "a")).result = .ok [widestSeries] := rfl
    exact .completed (.cons hfound .nil)
  · have hcheck : (launch .standard widestStore).settings.render.check probe =
        .ok [.selector "a"] := check_probe
    have hcrash : ((launch .standard widestStore).serveOne probe).1 =
        .failed (.crashed .product) := by
      rw [outcome_serveOne_launch rfl, outcomeFrom_of_check _ hcheck]
      rfl
    intro response h
    cases hcrash.symm.trans h

end Service

end SeriesRender
