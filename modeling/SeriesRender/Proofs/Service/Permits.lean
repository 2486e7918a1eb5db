import SeriesRender.Proofs.Evaluation.Fetches
import SeriesRender.Proofs.Service.Lease
import SeriesRender.Proofs.Service.Prompt
import SeriesRender.Proofs.Service.Rounds

/-!
# Permits of requests

A request that is neither rejected nor refused asks for a permit : it has a `Task`, with the lease
that the pool gives to its evaluation, if there is one before the deadline. Its run follows from the
lease (`Service.render_cases`) : it ends with the lease and makes its fetches during it, at most one
at a time (`countP_timedFetches_le`), or it is timed out without a fetch.

So the bound on leases (`Pool.Granted`) bounds the fetches that are under way, and since requests
end with their leases, no permit is in use between two rounds (`Service.idle_afterRounds`).
`Service.permits_serve` puts this together for requests that start together.
-/

namespace SeriesRender

/-! ## Fetches that are under way -/

/-- The fetch has been made, and neither its answer nor the deadline has come. -/
def Backend.underWay (store : Backend) (deadline t : Duration) (call : Turns × StoreCall) : Bool :=
  call.1.head?.any fun made => made ≤ t && t < min (made + (store.answerTo call.2).delay) deadline

section TimedFetches

variable {deadline now : Duration} {turns : Turns}

/-- With or without a delay, the next fetch is made when this one has been answered. -/
theorem exists_timedFetches_cons (h : now < deadline) (turns : Turns) (f : Fetch)
    (fs : List Fetch) : ∃ turns', timedFetches deadline turns now (f :: fs) =
      (now :: turns, f) :: timedFetches deadline turns' (now + f.delay) fs := by
  rw [timedFetches, if_neg (Nat.not_le_of_lt h)]
  split
  · next hzero => exact ⟨turns, by rw [hzero, Nat.add_zero]⟩
  · exact ⟨now :: turns, rfl⟩

/-- Nothing is fetched after the deadline. -/
theorem timedFetches_of_le (h : deadline ≤ now) (turns : Turns) (fs : List Fetch) :
    timedFetches deadline turns now fs = [] := by
  cases fs with
  | nil => rfl
  | cons f fs => exact if_pos h

/-- Times that follow one another up to a deadline do not overlap. -/
theorem Lease.toNat_holdsAt_add_le {a b c t : Duration} (hab : a ≤ b) (hbc : b ≤ c) :
    ((Lease.mk a (min b deadline)).holdsAt t).toNat +
        ((Lease.mk b (min c deadline)).holdsAt t).toNat ≤
      ((Lease.mk a (min c deadline)).holdsAt t).toNat := by
  grind [holdsAt_iff]

/-- Of the fetches of an evaluation at most one is under way, and none before its start or after
its end. -/
theorem countP_timedFetches_le (deadline t : Duration) (turns : Turns) (now : Duration)
    (fs : List Fetch) : ((timedFetches deadline turns now fs).countP fun call =>
        call.1.head?.any fun made => made ≤ t && t < min (made + call.2.delay) deadline) ≤
      ((Lease.mk now (min (now + Trace.totalDelay fs) deadline)).holdsAt t).toNat := by
  induction fs generalizing turns now with
  | nil => exact Nat.zero_le _
  | cons f fs ih =>
    rcases Nat.lt_or_ge now deadline with hstart | hlate
    · obtain ⟨turns', hnext⟩ := exists_timedFetches_cons hstart turns f fs
      rw [hnext, List.countP_cons, Trace.totalDelay, ← Nat.add_assoc, Nat.add_comm]
      refine Nat.le_trans (Nat.add_le_add (Nat.le_of_eq ?_) (ih turns' _))
        (Lease.toNat_holdsAt_add_le (Nat.le_add_right _ _) (Nat.le_add_right _ _))
      rw [List.head?_cons, Option.any_some]
      change _ = (decide (now ≤ t) && decide (t < min (now + f.delay) deadline)).toNat
      cases decide (now ≤ t) && decide (t < min (now + f.delay) deadline) <;> rfl
    · rw [timedFetches_of_le hlate]
      exact Nat.zero_le _

/-- Every fetch is made from the start of the evaluation to its end, and before the deadline. -/
theorem exists_made_of_mem_timedFetches {fs : List Fetch} {call : Turns × Fetch}
    (h : call ∈ timedFetches deadline turns now fs) : call.2 ∈ fs ∧ ∃ made ∈ call.1.head?,
      now ≤ made ∧ made ≤ now + Trace.totalDelay fs ∧ made < deadline := by
  induction fs generalizing turns now with
  | nil => simp [timedFetches] at h
  | cons f fs ih =>
    rcases Nat.lt_or_ge now deadline with hstart | hlate
    · obtain ⟨turns', hnext⟩ := exists_timedFetches_cons hstart turns f fs
      rw [hnext] at h
      rcases List.mem_cons.1 h with rfl | h
      · exact ⟨List.mem_cons_self .., now, rfl, Nat.le_refl _, Nat.le_add_right _ _, hstart⟩
      · obtain ⟨hmem, made, hmade, hge, hle, hlt⟩ := ih h
        rw [Trace.totalDelay, ← Nat.add_assoc]
        exact ⟨List.mem_cons_of_mem _ hmem, made, hmade,
          Nat.le_trans (Nat.le_add_right _ _) hge, hle, hlt⟩
    · rw [timedFetches_of_le hlate] at h
      cases h

end TimedFetches

/-! ## Tasks -/

/-- An evaluation that asks for a permit, and the lease that it is given before its deadline. -/
structure Task where
  evaluation : Trace Response
  lease? : Option Lease

/-- The run of an evaluation with a lease, or without one. -/
def Task.run (k : Task) (p : Parameters) (deadline : Duration) : Run :=
  match k.lease? with
  | none => ⟨.timedOut, deadline, []⟩
  | some l =>
    ⟨.startedAt deadline l.since k.evaluation, l.stop,
      (timedFetches deadline [] l.since k.evaluation.fetches).map fun (turns, f) =>
        (turns, ⟨p.tenant, f.pattern, p.start, p.stop⟩)⟩

/-- The leases that are given to several tasks. -/
def Task.leases (tasks : List (Option Task)) : List Lease :=
  tasks.filterMap (·.bind (·.lease?))

theorem Task.leases_cons (task : Option Task) (tasks : List (Option Task)) :
    leases (task :: tasks) = leases [task] ++ leases tasks := by
  rw [leases, leases, leases, ← List.filterMap_append, List.singleton_append]

/-- How a run follows from the task of its request. -/
inductive Run.Follows (now deadline : Duration) : Run → Option Task → Prop
  /-- A request that asks for no permit fails or is refused, without a fetch. -/
  | notAsked {run : Run} (hcalls : run.calls = [])
    (houtcome : (∃ e, run.outcome = .failed e) ∨ ∃ d, run.outcome = .throttled d) :
    Follows now deadline run none
  /-- A request that is given no permit before its deadline is timed out, without a fetch. -/
  | notGiven {run : Run} {evaluation : Trace Response} (hcalls : run.calls = [])
    (houtcome : run.outcome = .timedOut) : Follows now deadline run (some ⟨evaluation, none⟩)
  /-- A request that is given a permit is evaluated from then on, up to the deadline that it had at
  its start, and makes its fetches while it holds the permit. -/
  | given {run : Run} {evaluation : Trace Response} {l : Lease}
    (hsince : now ≤ l.since ∧ l.since < deadline)
    (hstop : l.stop = min (l.since + evaluation.duration) deadline)
    (houtcome : run.outcome = .startedAt deadline l.since evaluation)
    (hcalls : ∀ call ∈ run.calls, ∃ made ∈ call.1.head?, l.since ≤ made ∧ made ≤ l.stop) :
    Follows now deadline run (some ⟨evaluation, some l⟩)

namespace Service

variable (s : Service) {p : Parameters}

/-- The instant before which a request that starts now has to end. -/
def deadline : Duration :=
  s.now + s.settings.render.requestTimeout

/-- The task of a request that starts now, unless it is rejected or refused. -/
def task? (p : Parameters) : Option Task :=
  match s.settings.render.check p with
  | .error _ => none
  | .ok targets =>
    if 0 < (s.accept p.tenant).1 ∧ s.settings.limits.refuses then none
    else
      let evaluation := s.evaluation p targets
      some ⟨evaluation, s.pool.lease? s.now s.deadline evaluation.duration⟩

/-- The tasks of requests that start together. -/
def tasks (s : Service) : List Parameters → List (Option Task)
  | [] => []
  | p :: ps => s.task? p :: (s.render p).2.tasks ps

/-- A run follows from the lease of its evaluation. -/
theorem run_work (p : Parameters) (evaluation : Trace Response) : (s.work p evaluation).1 =
    (Task.mk evaluation (s.pool.lease? s.now s.deadline evaluation.duration)).run p s.deadline := by
  unfold work Task.run deadline
  dsimp only
  rcases Nat.lt_or_ge (s.pool.acquire s.now).1 (s.now + s.settings.render.requestTimeout)
    with h | h
  · rw [Pool.lease?_of_lt h, Pool.assign_of_lt h]
    dsimp only
    rw [Option.filter_some, Outcome.startedAt]
    by_cases hended : (s.pool.acquire s.now).1 + evaluation.duration <
        s.now + s.settings.render.requestTimeout
    · rw [if_pos hended, if_pos (decide_eq_true hended)]
      exact congrArg (Run.mk _ · _) (Nat.min_eq_left (Nat.le_of_lt hended)).symm
    · rw [if_neg hended, if_neg fun h => hended (of_decide_eq_true h),
        Nat.min_eq_right (Nat.le_of_not_lt hended)]
  · rw [Pool.lease?_of_le h, Pool.assign_of_le h]
    rfl

/-- Either a request asks for no permit, and fails or is refused without a fetch; or its run is
that of its task. -/
theorem render_cases (p : Parameters) :
    (s.task? p = none ∧ (s.render p).2.pool = s.pool ∧ (s.render p).1.calls = [] ∧
        (s.render p).1.ended = s.now ∧
        ((∃ e, (s.render p).1.outcome = .failed e) ∨
          ∃ d, (s.render p).1.outcome = .throttled d)) ∨
      ∃ k targets, s.task? p = some k ∧ k.evaluation = s.evaluation p targets ∧
        k.lease? = s.pool.lease? s.now s.deadline k.evaluation.duration ∧
        (s.render p).1 = k.run p s.deadline ∧
        (s.render p).2.pool = (s.pool.assign s.now s.deadline k.evaluation.duration).2 := by
  cases hc : s.settings.render.check p with
  | error e =>
    rw [task?, render, hc]
    exact .inl ⟨rfl, rfl, rfl, rfl, .inl ⟨e, rfl⟩⟩
  | ok targets =>
    rw [task?, s.render_of_check hc, hc]
    dsimp only
    by_cases hrefused : 0 < (s.accept p.tenant).1 ∧ s.settings.limits.refuses = true
    · rw [if_pos hrefused, if_pos hrefused]
      exact .inl ⟨rfl, rfl, rfl, rfl, .inr ⟨_, rfl⟩⟩
    · rw [if_neg hrefused, if_neg hrefused]
      exact .inr ⟨_, targets, rfl, rfl, rfl, run_work (s.accept p.tenant).2 p _,
        pool_work (s.accept p.tenant).2 p _⟩

/-! ## Requests that start together -/

@[simp] theorem deadline_render (p : Parameters) : (s.render p).2.deadline = s.deadline := by
  rw [deadline, deadline, now_render, settings_render]

theorem follows_render (p : Parameters) :
    (s.render p).1.Follows s.now s.deadline (s.task? p) := by
  obtain ⟨htask, -, hcalls, -, houtcome⟩ | ⟨⟨evaluation, lease?⟩, targets, htask, -, hlease, hrun, -⟩
    := s.render_cases p
  · rw [htask]
    exact .notAsked hcalls houtcome
  rw [htask, hrun]
  dsimp only at hlease
  cases lease? with
  | none => exact .notGiven rfl rfl
  | some l =>
    obtain ⟨h, rfl⟩ := Pool.lease?_eq_some_iff.1 hlease.symm
    refine .given ⟨Pool.le_acquire, h⟩ rfl rfl fun call hcall => ?_
    obtain ⟨fetch, hfetch, rfl⟩ := List.mem_map.1 hcall
    obtain ⟨-, made, hmade, hge, hle, hlt⟩ := exists_made_of_mem_timedFetches hfetch
    exact ⟨made, hmade, hge, Nat.le_min.2 ⟨hle, Nat.le_of_lt hlt⟩⟩

/-- All runs of a batch are those of their tasks. -/
theorem follows_renderAll (requests : List Parameters) :
    List.Forall₂ (Run.Follows s.now s.deadline) (s.renderAll requests).1 (s.tasks requests) := by
  induction requests generalizing s with
  | nil => exact .nil
  | cons p ps ih =>
    have hps := ih (s.render p).2
    rw [now_render, deadline_render] at hps
    exact .cons (s.follows_render p) hps

/-! ### The number of permits -/

/-- The pool stays granted, with the lease of the request if it has one. -/
theorem granted_render {leases : List Lease} (h : s.pool.Granted s.now leases) (p : Parameters) :
    (s.render p).2.pool.Granted s.now (leases ++ Task.leases [s.task? p]) := by
  obtain ⟨htask, hpool, -⟩ | ⟨k, targets, htask, -, hlease, -, hpool⟩ := s.render_cases p
  · rw [htask, hpool]
    simpa [Task.leases] using h
  · have hleases : Task.leases [s.task? p] =
        (s.pool.lease? s.now s.deadline k.evaluation.duration).toList := by
      rw [← hlease, htask]
      cases hk : k.lease? <;> simp [Task.leases, hk]
    rw [hleases, hpool]
    exact h.assign

theorem granted_renderAll {leases : List Lease} (h : s.pool.Granted s.now leases)
    (requests : List Parameters) : (s.renderAll requests).2.pool.Granted s.now
      (leases ++ Task.leases (s.tasks requests)) := by
  induction requests generalizing s leases with
  | nil => simpa [renderAll, tasks, Task.leases] using h
  | cons p ps ih =>
    have hps := ih (s.render p).2 (by rw [now_render]; exact s.granted_render h p)
    rw [now_render, List.append_assoc, ← Task.leases_cons] at hps
    exact hps

/-- A fetch is under way only while the permit of its evaluation is held. -/
theorem countP_underWay_render (p : Parameters) (t : Duration) :
    (s.render p).1.calls.countP (s.backend.underWay s.deadline t) ≤
      (Task.leases [s.task? p]).countP (·.holdsAt t) := by
  obtain ⟨-, -, hcalls, -⟩ | ⟨⟨evaluation, lease?⟩, targets, htask, rfl, hlease, hrun, -⟩
    := s.render_cases p
  · rw [hcalls]
    exact Nat.zero_le _
  rw [htask, hrun]
  dsimp only at hlease
  cases lease? with
  | none => exact Nat.zero_le _
  | some l =>
    obtain ⟨h, rfl⟩ := Pool.lease?_eq_some_iff.1 hlease.symm
    have hcalls := countP_timedFetches_le s.deadline t [] (s.pool.acquire s.now).1
      (s.evaluation p targets).fetches
    have hleases : ∀ l : Lease,
        (Task.leases [some ⟨s.evaluation p targets, some l⟩]).countP (·.holdsAt t) =
          (l.holdsAt t).toNat := fun l => by
      cases hholds : l.holdsAt t <;> simp [Task.leases, hholds]
    rw [hleases]
    refine Nat.le_trans (Nat.le_of_eq ?_) hcalls
    rw [Task.run, List.countP_map]
    refine List.countP_congr fun call hcall => ?_
    have hdelay := s.delay_of_mem_fetches_evaluation (exists_made_of_mem_timedFetches hcall).1
    simp only [Function.comp_apply, Backend.underWay, Backend.answerTo, hdelay]
    exact Iff.rfl

/-- Whenever a call is under way, the lease of its task holds. -/
theorem countP_underWay_renderAll (requests : List Parameters) (t : Duration) :
    ((s.renderAll requests).1.flatMap (·.calls)).countP (s.backend.underWay s.deadline t) ≤
      (Task.leases (s.tasks requests)).countP (·.holdsAt t) := by
  induction requests generalizing s with
  | nil => exact Nat.zero_le _
  | cons p ps ih =>
    have hps := ih (s.render p).2
    rw [backend_render, deadline_render] at hps
    rw [tasks, Task.leases_cons, List.countP_append, renderAll, List.flatMap_cons,
      List.countP_append]
    exact Nat.add_le_add (s.countP_underWay_render p t) hps

/-! ### The order of permits -/

/-- The next request does not get its permit any earlier. -/
theorem acquire_le_acquire_render (hsize : 0 < s.pool.size) (p : Parameters) :
    (s.pool.acquire s.now).1 ≤ ((s.render p).2.pool.acquire s.now).1 := by
  obtain ⟨-, hpool, -⟩ | ⟨k, targets, -, -, -, -, hpool⟩ := s.render_cases p
  · exact Nat.le_of_eq (by rw [hpool])
  · rw [hpool]
    exact Pool.acquire_le_acquire_assign hsize

/-- No task is given a permit before there is one. -/
theorem le_since_of_mem_tasks (hsize : 0 < s.pool.size) {requests : List Parameters} {k : Task}
    {l : Lease} (hk : some k ∈ s.tasks requests) (hl : k.lease? = some l) :
    (s.pool.acquire s.now).1 ≤ l.since ∧ l.since < s.deadline := by
  induction requests generalizing s with
  | nil => cases hk
  | cons p ps ih =>
    rcases List.mem_cons.1 hk with hk | hk
    · obtain ⟨htask, -⟩ | ⟨m, targets, htask, -, hlease, -⟩ := s.render_cases p
      · cases hk.trans htask
      · obtain rfl := Option.some.inj (hk.trans htask)
        obtain ⟨h, rfl⟩ := Pool.lease?_eq_some_iff.1 (hlease.symm.trans hl)
        exact ⟨Nat.le_refl _, h⟩
    · have hlater := ih (s.render p).2 (by rwa [size_render]) hk
      rw [now_render, deadline_render] at hlater
      exact ⟨Nat.le_trans (s.acquire_le_acquire_render hsize p) hlater.1, hlater.2⟩

/-- A permit that is given to a later request has been given to each earlier one before. -/
theorem pairwise_tasks (hsize : 0 < s.pool.size) (requests : List Parameters) :
    (s.tasks requests).Pairwise fun a b => ∀ k ∈ a, ∀ m ∈ b, ∀ later ∈ m.lease?,
      ∃ earlier ∈ k.lease?, earlier.since ≤ later.since := by
  induction requests generalizing s with
  | nil => exact .nil
  | cons p ps ih =>
    refine .cons (fun b hb k hk m hm later hlater => ?_) (ih (s.render p).2 (by rwa [size_render]))
    obtain rfl := hm
    obtain ⟨hge, hlt⟩ := le_since_of_mem_tasks _ (by rwa [size_render]) hb hlater
    rw [now_render] at hge
    rw [deadline_render] at hlt
    have hstart := Nat.le_trans (s.acquire_le_acquire_render hsize p) hge
    obtain ⟨htask, -⟩ | ⟨k', targets, htask, -, hlease, -⟩ := s.render_cases p
    · cases htask.symm.trans hk
    · obtain rfl := Option.some.inj (htask.symm.trans hk)
      rw [hlease, Pool.lease?_of_lt (Nat.lt_of_le_of_lt hstart hlt)]
      exact ⟨_, rfl, hstart⟩

/-! ### Permits come back -/

/-- No permit is in use. -/
def Idle : Prop :=
  ∀ b ∈ s.pool.busy, b ≤ s.now

/-- A request has not ended before its permit comes back. -/
theorem le_ended_of_mem_busy {p : Parameters} {b : Duration}
    (h : b ∈ (s.render p).2.pool.busy) : b ∈ s.pool.busy ∨ b ≤ (s.render p).1.ended := by
  obtain ⟨-, hpool, -⟩ | ⟨⟨evaluation, lease?⟩, targets, -, -, hlease, hrun, hpool⟩ :=
    s.render_cases p
  · rw [hpool] at h
    exact .inl h
  rw [hpool] at h
  dsimp only at hlease h
  rcases Nat.lt_or_ge (s.pool.acquire s.now).1 s.deadline with hstart | hlate
  · rw [Pool.lease?_of_lt hstart] at hlease
    subst hlease
    rw [Pool.assign_of_lt hstart] at h
    rcases List.mem_cons.1 h with rfl | h
    · rw [hrun]
      exact .inr (Nat.le_refl _)
    · exact .inl (Pool.mem_busy_of_mem_acquire h)
  · rw [Pool.assign_of_le hlate] at h
    exact .inl h

/-- A permit is given back when its run has ended, at the latest. -/
theorem exists_le_ended_of_mem_busy {requests : List Parameters} {b : Duration}
    (h : b ∈ (s.renderAll requests).2.pool.busy) :
    b ∈ s.pool.busy ∨ ∃ run ∈ (s.renderAll requests).1, b ≤ run.ended := by
  induction requests generalizing s with
  | nil => exact .inl h
  | cons p ps ih =>
    rw [renderAll] at h ⊢
    rcases ih (s.render p).2 h with hb | ⟨run, hrun, hb⟩
    · refine (s.le_ended_of_mem_busy hb).imp_right fun hb => ⟨_, List.mem_cons_self .., hb⟩
    · exact .inr ⟨run, List.mem_cons_of_mem _ hrun, hb⟩

theorem ended_le_latest {runs : List Run} {run : Run} (h : run ∈ runs) (now : Duration) :
    run.ended ≤ runs.foldl (fun latest run => max latest run.ended) now := by
  induction runs generalizing now with
  | nil => cases h
  | cons other runs ih =>
    rw [List.foldl_cons]
    rcases List.mem_cons.1 h with rfl | h
    · obtain ⟨d, hd⟩ := exists_latest_eq (max now run.ended) runs
      rw [hd]
      exact Nat.le_trans (Nat.le_max_right _ _) (Nat.le_add_right _ _)
    · exact ih h _

variable {s}

/-- A service that is idle stays so as time passes. -/
theorem Idle.wait (h : s.Idle) (d : Duration) : (s.wait d).Idle := fun b hb =>
  Nat.le_trans (h b hb) (Nat.le_add_right _ _)

theorem Idle.serve (h : s.Idle) (requests : List Parameters) : (s.serve requests).2.2.Idle := by
  intro b hb
  obtain ⟨d, hd⟩ := exists_latest_eq (s.renderAll requests).2.now (s.renderAll requests).1
  have hnow : s.now ≤ (s.serve requests).2.2.now := by
    rw [Service.serve]
    dsimp only
    rw [hd, now_renderAll]
    exact Nat.le_add_right _ _
  rcases s.exists_le_ended_of_mem_busy hb with hb | ⟨run, hrun, hb⟩
  · exact Nat.le_trans (h b hb) hnow
  · exact Nat.le_trans hb (ended_le_latest hrun _)

theorem Idle.afterRound (h : s.Idle) (round : Round) : (s.afterRound round).Idle := by
  cases round with
  | wait d => exact h.wait d
  | serve requests => exact h.serve requests
  | answer r =>
    cases hr : r.rendering? with
    | some p =>
      rw [s.afterRound_answer_of_rendering hr]
      exact h.serve [p]
    | none =>
      obtain ⟨backend, hb⟩ := s.exists_answer_eq hr
      rw [Service.afterRound, hb]
      exact h
  | drain => exact h

theorem Idle.afterRounds (h : s.Idle) (rounds : List Round) : (s.afterRounds rounds).Idle := by
  induction rounds generalizing s with
  | nil => exact h
  | cons round rounds ih => exact ih (h.afterRound round)

/-- Between two rounds no permit is in use. -/
theorem idle_afterRounds (settings : Settings) (backend : Backend) (rounds : List Round) :
    ((launch settings backend).afterRounds rounds).Idle := by
  have hlaunch : (launch settings backend).Idle := List.forall_mem_nil _
  exact hlaunch.afterRounds rounds

theorem size_afterRounds (settings : Settings) (backend : Backend) (rounds : List Round) :
    ((launch settings backend).afterRounds rounds).pool.size =
      max 1 settings.render.maxConcurrent := by
  obtain ⟨actions, h⟩ := (launch settings backend).exists_afterRounds_eq rounds
  rw [h, size_afterAll, Nat.max_comm]
  rfl

/-- After any rounds, of requests that start together at any instant only as many hold a permit as
there are permits, and only as many fetches are under way. Permits are given in the order of the
requests, and each run follows from its permit, with a deadline that does not move while the request
waits for one. Before and after these requests all permits are available. -/
theorem permits_serve (settings : Settings) (backend : Backend) (rounds : List Round)
    (requests : List Parameters) :
    let s := (launch settings backend).afterRounds rounds
    let permits := max 1 settings.render.maxConcurrent
    let deadline := s.now + settings.render.requestTimeout
    let runs := (s.renderAll requests).1
    let tasks := s.tasks requests
    let next := (s.serve requests).2.2
    (∀ t, (Task.leases tasks).countP (·.holdsAt t) ≤ permits ∧
        (runs.flatMap (·.calls)).countP (s.backend.underWay deadline t) ≤ permits) ∧
      (tasks.Pairwise fun a b => ∀ k ∈ a, ∀ m ∈ b, ∀ later ∈ m.lease?,
        ∃ earlier ∈ k.lease?, earlier.since ≤ later.since) ∧
      List.Forall₂ (Run.Follows s.now deadline) runs tasks ∧
      s.pool.available s.now = permits ∧ next.pool.available next.now = permits := by
  intro s permits deadline runs tasks next
  have hsize : s.pool.size = permits := size_afterRounds settings backend rounds
  have hpos : 0 < s.pool.size := hsize ▸ Nat.lt_of_lt_of_le Nat.one_pos (Nat.le_max_left _ _)
  have hidle : s.Idle := idle_afterRounds settings backend rounds
  have hdeadline : s.deadline = deadline := by
    rw [Service.deadline, settings_afterRounds]
    rfl
  have hgranted := s.granted_renderAll (Pool.granted_of_idle hpos hidle) requests
  rw [List.nil_append] at hgranted
  have hnextSize : next.pool.size = permits := by
    obtain ⟨d, hd⟩ := s.exists_serve_eq requests
    rw [← hsize, ← size_afterAll s, ← hd]
  have hrunsSize : (s.renderAll requests).2.pool.size = permits := hnextSize
  refine ⟨fun t => ?_, s.pairwise_tasks hpos requests, ?_, ?_, ?_⟩
  · have hleases := hgranted.countP_holdsAt_le t
    rw [hrunsSize] at hleases
    exact ⟨hleases, hdeadline ▸ Nat.le_trans (s.countP_underWay_renderAll requests t) hleases⟩
  · exact hdeadline ▸ s.follows_renderAll requests
  · rw [Pool.available_of_idle hidle, hsize]
  · rw [Pool.available_of_idle (hidle.serve requests), hnextSize]

end Service

end SeriesRender
