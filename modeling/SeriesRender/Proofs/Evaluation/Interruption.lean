import SeriesRender.Proofs.Evaluation.Trace

/-!
# Interrupted evaluations

`Trace.interruptedAt` cuts the trace of a whole evaluation. `evaluateUntil` is the evaluation that
carries a clock and looks at it : it gives up at the first check, or at the first answer to a fetch,
that is not before the interruption. The two are the same (`follows_evaluate`), since a cut can be
made step by step (`Trace.cutFrom_bind`).

So an interruption only cuts an evaluation short, and exactly if it comes before the end
(`evaluateUntil_cut`).
-/

namespace SeriesRender

open Target

/-! ## Cutting step by step -/

namespace Trace

variable {α β : Type} {limit now : Duration}

/-- The fetches among events. -/
def fetchesOf (es : List Event) : List Fetch :=
  es.filterMap fun
    | .check => none
    | .fetch f => some f

theorem duration_eq (t : Trace α) : t.duration = totalDelay (fetchesOf t.events) := rfl

theorem totalDelay_append (fs gs : List Fetch) :
    totalDelay (fs ++ gs) = totalDelay fs + totalDelay gs := by
  induction fs with
  | nil => exact (Nat.zero_add _).symm
  | cons f fs ih => rw [List.cons_append, totalDelay, ih, totalDelay, Nat.add_assoc]

theorem replay_append (limit now : Duration) (es fs : List Event) :
    replay limit now (es ++ fs) =
      if (replay limit now es).2 then replay limit now es
      else (es ++ (replay limit (now + totalDelay (fetchesOf es)) fs).1,
        (replay limit (now + totalDelay (fetchesOf es)) fs).2) := by
  induction es generalizing now with
  | nil => rfl
  | cons event es ih =>
    cases event with
    | check =>
      rw [List.cons_append, replay, replay]
      by_cases hnow : limit ≤ now
      · rw [if_pos hnow, if_pos hnow]
        rfl
      · rw [if_neg hnow, if_neg hnow, ih]
        dsimp only
        split <;> rfl
    | fetch f =>
      have helapsed : totalDelay (fetchesOf (.fetch f :: es)) =
          f.delay + totalDelay (fetchesOf es) := rfl
      rw [List.cons_append, replay, replay, helapsed, ← Nat.add_assoc]
      by_cases hnow : limit ≤ now
      · rw [if_pos hnow, if_pos hnow]
        rfl
      · by_cases hanswer : limit ≤ now + f.delay
        · rw [if_neg hnow, if_neg hnow, if_pos hanswer, if_pos hanswer]
          rfl
        · rw [if_neg hnow, if_neg hnow, if_neg hanswer, if_neg hanswer, ih]
          dsimp only
          split <;> rfl

/-- What is left of a trace that begins at the instant `now` and is interrupted at `limit`. -/
def cutFrom (limit now : Duration) (t : Trace α) : Trace α where
  events := (replay limit now t.events).1
  result := if (replay limit now t.events).2 then .error .cancelled else t.result

theorem cutFrom_zero (limit : Duration) (t : Trace α) :
    t.cutFrom limit 0 = t.interruptedAt limit := rfl

/-- A trace is cut step by step, while the clock goes on. -/
theorem cutFrom_bind (t : Trace α) (next : α → Trace β) :
    (t >>= next).cutFrom limit now =
      t.cutFrom limit now >>= fun a => (next a).cutFrom limit (now + t.duration) := by
  have hcut : (t.cutFrom limit now).result =
      if (replay limit now t.events).2 then .error .cancelled else t.result := rfl
  cases hnoticed : (replay limit now t.events).2 with
  | true =>
    rw [hnoticed, if_pos rfl] at hcut
    rw [bind_of_error hcut]
    cases ht : t.result with
    | error e =>
      rw [bind_of_error ht, cutFrom, hnoticed]
      rfl
    | ok a =>
      rw [bind_of_ok ht, cutFrom, replay_append, hnoticed, if_pos rfl, hnoticed]
      rfl
  | false =>
    have hevents := replay_of_unnoticed hnoticed
    rw [hnoticed, if_neg Bool.false_ne_true] at hcut
    cases ht : t.result with
    | error e =>
      rw [bind_of_error ht, bind_of_error (hcut.trans ht), cutFrom, hnoticed]
      rfl
    | ok a =>
      rw [bind_of_ok ht, bind_of_ok (hcut.trans ht), cutFrom, replay_append, hnoticed,
        if_neg Bool.false_ne_true, ← duration_eq, cutFrom, hevents]
      rfl

/-- A trace that has not been given up is left as it is. -/
theorem cutFrom_of_ok {t : Trace α} {a : α} (h : (t.cutFrom limit now).result = .ok a) :
    t.cutFrom limit now = t := by
  unfold cutFrom at h ⊢
  dsimp only at h
  cases hnoticed : (replay limit now t.events).2 with
  | true =>
    rw [hnoticed] at h
    cases h
  | false =>
    rw [replay_of_unnoticed hnoticed]
    rfl

/-- Of some events, the interruption is noticed exactly if it is not after the last of them. -/
theorem noticed_iff {es : List Event} (h : es ≠ []) :
    (replay limit now es).2 = true ↔ limit ≤ now + totalDelay (fetchesOf es) := by
  induction es generalizing now with
  | nil => exact absurd rfl h
  | cons event es ih =>
    cases event with
    | check =>
      have helapsed : totalDelay (fetchesOf (.check :: es)) = totalDelay (fetchesOf es) := rfl
      rw [replay, helapsed]
      by_cases hnow : limit ≤ now
      · rw [if_pos hnow]
        exact iff_of_true rfl (Nat.le_trans hnow (Nat.le_add_right _ _))
      · rw [if_neg hnow]
        cases es with
        | nil => exact iff_of_false Bool.false_ne_true hnow
        | cons event es => exact ih (List.cons_ne_nil _ _)
    | fetch f =>
      have helapsed : now + totalDelay (fetchesOf (.fetch f :: es)) =
          now + f.delay + totalDelay (fetchesOf es) := (Nat.add_assoc _ _ _).symm
      rw [replay, helapsed]
      by_cases hanswer : limit ≤ now + f.delay
      · rw [if_pos hanswer]
        refine iff_of_true ?_ (Nat.le_trans hanswer (Nat.le_add_right _ _))
        split <;> rfl
      · have hnow : ¬limit ≤ now := fun h => hanswer (Nat.le_trans h (Nat.le_add_right _ _))
        rw [if_neg hnow, if_neg hanswer]
        cases es with
        | nil => exact iff_of_false Bool.false_ne_true hanswer
        | cons event es => exact ih (List.cons_ne_nil _ _)

end Trace

/-! ## Evaluating with a clock -/

/-- The time, and the fetches started so far, each with the instant at which it was. -/
structure Clock where
  now : Duration
  started : List (Duration × Fetch)

/-- Computations with a clock that may fail. -/
abbrev Clocked := ExceptT EvalError (StateM Clock)

namespace Clocked

/-- Give up if the interruption has come. -/
def check (limit : Duration) : Clocked Unit := do
  if limit ≤ (← get).now then throw .cancelled

/-- Ask a store, and wait until it answers or until the interruption comes, whichever is first. -/
def fetch (limit : Duration) (source : Source) (pattern : String) : Clocked (List Series) := do
  let clock ← get
  let answer := source pattern
  let started := clock.started ++ [(clock.now, ⟨pattern, answer.delay⟩)]
  if limit ≤ clock.now then throw .cancelled
  else if limit ≤ clock.now + answer.delay then
    set (Clock.mk limit started)
    throw .cancelled
  else
    set (Clock.mk (clock.now + answer.delay) started)
    ofExcept (answer.series.mapError .store)

end Clocked

mutual

/-- The series of an expression, unless the interruption comes before. -/
def evaluateUntil (limit : Duration) (c : Context) : Expr → Clocked (List Series)
  | .selector pattern => do
    Clocked.check limit
    Clocked.fetch limit c.source pattern
  | .literal l => do
    Clocked.check limit
    throw (.notASeries l.text)
  | .call name args => do
    Clocked.check limit
    let operation ← ofExcept (callOperation c.registry name args)
    let inputs ← evaluateSeriesUntil limit c args
    let series ← ofExcept (operation.apply c.style name args inputs)
    Clocked.check limit
    return series

/-- The series of all arguments that are series, unless the interruption comes before. -/
def evaluateSeriesUntil (limit : Duration) (c : Context) : List Expr → Clocked (List Series)
  | [] => return []
  | arg :: args =>
    if arg.kind = .series then do
      let series ← evaluateUntil limit c arg
      let others ← evaluateSeriesUntil limit c args
      return series ++ others
    else evaluateSeriesUntil limit c args

end

/-- The fetches, each with the instant at which it starts if the first one starts at `now`. -/
def startsFrom (now : Duration) : List Fetch → List (Duration × Fetch)
  | [] => []
  | f :: fs => (now, f) :: startsFrom (now + f.delay) fs

theorem startsFrom_append (now : Duration) (fs gs : List Fetch) : startsFrom now (fs ++ gs) =
    startsFrom now fs ++ startsFrom (now + Trace.totalDelay fs) gs := by
  induction fs generalizing now with
  | nil => rfl
  | cons f fs ih =>
    rw [List.cons_append, startsFrom, ih, Nat.add_assoc, startsFrom, Trace.totalDelay]
    rfl

theorem map_snd_startsFrom (now : Duration) (fs : List Fetch) :
    (startsFrom now fs).map Prod.snd = fs := by
  induction fs generalizing now with
  | nil => rfl
  | cons f fs ih => rw [startsFrom, List.map_cons, ih]

theorem takeWhile_startsFrom_of_le {limit now : Duration} (h : limit ≤ now) (fs : List Fetch) :
    (startsFrom now fs).takeWhile (·.1 < limit) = [] := by
  cases fs with
  | nil => rfl
  | cons f fs => exact List.takeWhile_cons_of_neg (by simpa using h)

/-- Of the fetches those are left that start before the interruption. -/
theorem startsFrom_replay (limit now : Duration) (es : List Event) :
    startsFrom now (Trace.fetchesOf (Trace.replay limit now es).1) =
      (startsFrom now (Trace.fetchesOf es)).takeWhile (·.1 < limit) := by
  induction es generalizing now with
  | nil => rfl
  | cons event es ih =>
    cases event with
    | check =>
      rw [Trace.replay]
      by_cases hnow : limit ≤ now
      · rw [if_pos hnow, takeWhile_startsFrom_of_le hnow]
        rfl
      · rw [if_neg hnow]
        exact ih now
    | fetch f =>
      rw [Trace.replay]
      by_cases hnow : limit ≤ now
      · rw [if_pos hnow, takeWhile_startsFrom_of_le hnow]
        rfl
      · have hstarts : startsFrom now (Trace.fetchesOf (.fetch f :: es)) =
            (now, f) :: startsFrom (now + f.delay) (Trace.fetchesOf es) := rfl
        rw [if_neg hnow, hstarts, List.takeWhile_cons_of_pos (by simpa using hnow)]
        by_cases hanswer : limit ≤ now + f.delay
        · rw [if_pos hanswer, takeWhile_startsFrom_of_le hanswer]
          rfl
        · rw [if_neg hanswer, ← ih]
          rfl

/-- A computation with a clock does what is left of a trace if it begins at the instant that the
clock shows, and leaves the clock at the end of the trace if it does not fail. -/
structure Follows {α : Type} (limit : Duration) (m : Clocked α) (t : Trace α) : Prop where
  result : ∀ clock, (m.run.run clock).1 = (t.cutFrom limit clock.now).result
  started : ∀ clock, (m.run.run clock).2.started =
    clock.started ++ startsFrom clock.now (t.cutFrom limit clock.now).fetches
  now : ∀ clock a, (m.run.run clock).1 = .ok a → (m.run.run clock).2.now = clock.now + t.duration

variable {limit : Duration}

namespace Clocked

variable {α β : Type} {m : Clocked α} {clock : Clock}

/-- A clocked step that succeeds passes its clock on. -/
theorem run_bind_of_ok {a : α} (h : (m.run.run clock).1 = .ok a) (f : α → Clocked β) :
    (m >>= f).run.run clock = (f a).run.run (m.run.run clock).2 := by
  rw [ExceptT.run_bind, StateT.run_bind]
  rcases hm : m.run.run clock with ⟨x, later⟩
  rw [hm] at h
  obtain rfl : x = .ok a := h
  rfl

theorem run_bind_of_error {e : EvalError} (h : (m.run.run clock).1 = .error e)
    (f : α → Clocked β) : (m >>= f).run.run clock = (.error e, (m.run.run clock).2) := by
  rw [ExceptT.run_bind, StateT.run_bind]
  rcases hm : m.run.run clock with ⟨x, later⟩
  rw [hm] at h
  obtain rfl : x = .error e := h
  rfl

theorem run_ofExcept (x : Except EvalError α) (clock : Clock) :
    (ofExcept x : Clocked α).run.run clock = (x, clock) := by
  cases x <;> rfl

/-- A checkpoint looks at the clock only. -/
theorem run_check (limit : Duration) (clock : Clock) : (check limit).run.run clock =
    (if limit ≤ clock.now then .error .cancelled else .ok (), clock) := by
  change (if limit ≤ clock.now then throw .cancelled else pure () : Clocked Unit).run.run clock = _
  split <;> rfl

/-- A fetch is not started after the limit, and is given up when the limit comes. -/
theorem run_fetch (limit : Duration) (source : Source) (pattern : String) (clock : Clock) :
    (fetch limit source pattern).run.run clock =
      if limit ≤ clock.now then (.error .cancelled, clock)
      else if limit ≤ clock.now + (source pattern).delay then
        (.error .cancelled,
          ⟨limit, clock.started ++ [(clock.now, ⟨pattern, (source pattern).delay⟩)]⟩)
      else
        ((source pattern).series.mapError .store, ⟨clock.now + (source pattern).delay,
          clock.started ++ [(clock.now, ⟨pattern, (source pattern).delay⟩)]⟩) := by
  change (ite (limit ≤ clock.now) _ (ite (limit ≤ clock.now + (source pattern).delay) _ _) :
    Clocked (List Series)).run.run clock = _
  split
  · rfl
  · split
    · rfl
    · exact run_ofExcept _ _

end Clocked

namespace Follows

variable {α β : Type}

theorem bind {m : Clocked α} {t : Trace α} {f : α → Clocked β} {next : α → Trace β}
    (h : Follows limit m t) (hnext : ∀ a, Follows limit (f a) (next a)) :
    Follows limit (m >>= f) (t >>= next) := by
  constructor
  · intro clock
    rw [Trace.cutFrom_bind, Trace.result_bind]
    cases hm : (m.run.run clock).1 with
    | error e =>
      rw [Clocked.run_bind_of_error hm, ← h.result, hm]
      rfl
    | ok a =>
      rw [Clocked.run_bind_of_ok hm, ← h.result, hm, (hnext a).result, h.now clock a hm]
      rfl
  · intro clock
    rw [Trace.cutFrom_bind]
    cases hm : (m.run.run clock).1 with
    | error e =>
      rw [Clocked.run_bind_of_error hm, Trace.fetches_bind_of_error ((h.result clock).symm.trans hm),
        h.started]
    | ok a =>
      have ht := (h.result clock).symm.trans hm
      rw [Clocked.run_bind_of_ok hm, Trace.fetches_bind_of_ok ht, (hnext a).started, h.started,
        h.now clock a hm, startsFrom_append, List.append_assoc, Trace.cutFrom_of_ok ht]
      rfl
  · intro clock b hb
    cases hm : (m.run.run clock).1 with
    | error e =>
      rw [Clocked.run_bind_of_error hm] at hb
      cases hb
    | ok a =>
      have ht : t.result = .ok a := by
        have hcut := (h.result clock).symm.trans hm
        rwa [Trace.cutFrom_of_ok hcut] at hcut
      rw [Clocked.run_bind_of_ok hm] at hb ⊢
      rw [(hnext a).now _ b hb, h.now clock a hm, Trace.duration, Trace.duration, Trace.duration,
        Trace.fetches_bind_of_ok ht, Trace.totalDelay_append, Nat.add_assoc]

theorem ofExcept (limit : Duration) (x : Except EvalError α) :
    Follows limit (MonadExcept.ofExcept x) (Trace.ofExcept x) := by
  constructor
  · intro clock
    rw [Clocked.run_ofExcept]
    rfl
  · intro clock
    rw [Clocked.run_ofExcept]
    exact (List.append_nil _).symm
  · intro clock a _
    rw [Clocked.run_ofExcept]
    rfl

theorem check (limit : Duration) : Follows limit (Clocked.check limit) Trace.check := by
  constructor
  · intro clock
    rw [Clocked.run_check]
    dsimp only [Trace.cutFrom, Trace.check, Trace.replay]
    split <;> rfl
  · intro clock
    rw [Clocked.run_check]
    dsimp only [Trace.cutFrom, Trace.check, Trace.replay]
    split <;> exact (List.append_nil _).symm
  · intro clock a _
    rw [Clocked.run_check]
    rfl

theorem fetch (limit : Duration) (source : Source) (pattern : String) :
    Follows limit (Clocked.fetch limit source pattern) (Trace.fetch source pattern) := by
  constructor
  · intro clock
    rw [Clocked.run_fetch]
    dsimp only [Trace.cutFrom, Trace.fetch, Trace.replay]
    split
    · rfl
    · split <;> rfl
  · intro clock
    rw [Clocked.run_fetch]
    dsimp only [Trace.cutFrom, Trace.fetch, Trace.replay]
    split
    · exact (List.append_nil _).symm
    · split <;> rfl
  · intro clock a h
    rw [Clocked.run_fetch] at h ⊢
    split at h
    · cases h
    · next hnow =>
      split at h
      · cases h
      · next hanswer =>
        rw [if_neg hnow, if_neg hanswer]
        rfl

end Follows

variable {c : Context} {args : List Expr}

/-- Under the clock, arguments follow their traces if each of them does. -/
theorem follows_evaluateSeries
    (h : ∀ arg ∈ args, Follows limit (evaluateUntil limit c arg) (evaluate c arg)) :
    Follows limit (evaluateSeriesUntil limit c args) (evaluateSeries c args) := by
  induction args with
  | nil =>
    rw [evaluateSeriesUntil, evaluateSeries]
    exact .ofExcept limit (.ok [])
  | cons arg args ih =>
    rw [List.forall_mem_cons] at h
    rw [evaluateSeriesUntil, evaluateSeries]
    by_cases hk : arg.kind = .series
    · rw [if_pos hk, if_pos hk]
      refine h.1.bind fun series => (ih h.2).bind fun others => ?_
      exact .ofExcept limit (.ok (series ++ others))
    · rw [if_neg hk, if_neg hk]
      exact ih h.2

/-- The evaluation with a clock does what is left of the trace. -/
theorem follows_evaluate (limit : Duration) (c : Context) (e : Expr) :
    Follows limit (evaluateUntil limit c e) (evaluate c e) := by
  induction e using Expr.inductionOn with
  | selector pattern =>
    rw [evaluateUntil, evaluate]
    exact (Follows.check limit).bind fun _ => .fetch limit c.source pattern
  | literal l =>
    rw [evaluateUntil, evaluate]
    exact (Follows.check limit).bind fun _ => .ofExcept limit (.error (.notASeries l.text))
  | call name args ih =>
    rw [evaluateUntil, evaluate]
    refine (Follows.check limit).bind fun _ => ?_
    refine (Follows.ofExcept limit _).bind fun operation => ?_
    refine (follows_evaluateSeries ih).bind fun inputs => ?_
    refine (Follows.ofExcept limit _).bind fun series => ?_
    exact (Follows.check limit).bind fun _ => .ofExcept limit (.ok series)

/-! ## What an interruption leaves -/

/-- An evaluation begins with a check. -/
theorem events_evaluate_ne_nil (c : Context) (e : Expr) : (evaluate c e).events ≠ [] := by
  have hcheck : ∀ next : Unit → Trace (List Series), (Trace.check >>= next).events ≠ [] := by
    intro next
    rw [Trace.bind_of_ok (t := Trace.check) rfl]
    exact List.cons_ne_nil _ _
  cases e with
  | selector pattern =>
    rw [evaluate]
    exact hcheck _
  | literal l =>
    rw [evaluate]
    exact hcheck _
  | call name args =>
    rw [evaluate]
    exact hcheck _

/-- An evaluation is given up exactly if the interruption comes before it has ended. -/
theorem result_interruptedAt_evaluate (limit : Duration) (c : Context) (e : Expr) :
    ((evaluate c e).interruptedAt limit).result =
      if limit ≤ (evaluate c e).duration then .error .cancelled else (evaluate c e).result := by
  have hnoticed : (Trace.replay limit 0 (evaluate c e).events).2 = true ↔
      limit ≤ (evaluate c e).duration := by
    rw [Trace.noticed_iff (events_evaluate_ne_nil c e), Nat.zero_add, ← Trace.duration_eq]
  rw [← Trace.cutFrom_zero, Trace.cutFrom]
  by_cases h : limit ≤ (evaluate c e).duration
  · rw [if_pos h, hnoticed.2 h, if_pos rfl]
  · rw [if_neg h, if_neg fun hn => h (hnoticed.1 hn)]

/-- An interruption cuts an evaluation short, and does nothing else. The result of an evaluation with
a clock is that of the whole evaluation, or that it was given up, and this exactly if the whole
evaluation would not have ended before. The fetches are those of the whole evaluation that start
before the interruption. And this is what cutting the trace of the whole evaluation gives. -/
theorem evaluateUntil_cut (c : Context) (e : Expr) (limit : Duration) :
    let whole := evaluate c e
    let cut := (evaluateUntil limit c e).run.run ⟨0, []⟩
    (cut.1 = whole.result ∨ cut.1 = .error .cancelled) ∧
      cut.1 = (if limit ≤ whole.duration then .error .cancelled else whole.result) ∧
      cut.2.started.map Prod.snd <+: whole.fetches ∧
      (∀ p ∈ cut.2.started, p.1 < limit) ∧
      cut.2.started = (startsFrom 0 whole.fetches).takeWhile (·.1 < limit) ∧
      (whole.interruptedAt limit).result = cut.1 ∧
      (whole.interruptedAt limit).fetches = cut.2.started.map Prod.snd := by
  intro whole cut
  have hfollows := follows_evaluate limit c e
  have hresult : cut.1 = (whole.interruptedAt limit).result := hfollows.result ⟨0, []⟩
  have hstarted : cut.2.started = startsFrom 0 (whole.interruptedAt limit).fetches :=
    hfollows.started ⟨0, []⟩
  have hfetches : cut.2.started.map Prod.snd = (whole.interruptedAt limit).fetches := by
    rw [hstarted, map_snd_startsFrom]
  have hbefore : cut.2.started = (startsFrom 0 whole.fetches).takeWhile (·.1 < limit) :=
    hstarted.trans (startsFrom_replay limit 0 whole.events)
  have hended := result_interruptedAt_evaluate limit c e
  refine ⟨?_, hresult.trans hended, ?_, ?_, hbefore, hresult.symm, hfetches.symm⟩
  · rw [hresult.trans hended]
    split
    · exact .inr rfl
    · exact .inl rfl
  · have hcut := (List.takeWhile_prefix (·.1 < limit) (l := startsFrom 0 whole.fetches)).map Prod.snd
    rwa [map_snd_startsFrom, ← hbefore] at hcut
  · rw [hbefore]
    intro p hp
    exact of_decide_eq_true (List.all_eq_true.1 List.all_takeWhile p hp)

/-- The third of three fetches is given up while it is under way. -/
example :
    let delays : Source := fun pattern => ⟨.ofMillis pattern.length, .ok []⟩
    let e := Expr.call "sumSeries" [.selector "a", .selector "a.b", .selector "a.b.c"]
    let cut := (evaluateUntil (.ofMillis 8) ⟨.standard, .machine, delays⟩ e).run.run ⟨0, []⟩
    cut.1 = .error .cancelled ∧
      cut.2.started = [(0, ⟨"a", .ofMillis 1⟩), (.ofMillis 1, ⟨"a.b", .ofMillis 3⟩),
        (.ofMillis 4, ⟨"a.b.c", .ofMillis 5⟩)] :=
  ⟨rfl, rfl⟩

end SeriesRender
