import SeriesRender.Proofs.Service.Accounting
import SeriesRender.Proofs.Service.Lockstep
import SeriesRender.Proofs.Service.Permits

/-!
# Limits that refuse nothing

Limits that are switched off, or that are only counted, refuse no request. Then nothing that is
evaluated, fetched or timed out depends on them : two services that differ in such limits give a
request the same permit, and the same run (`Service.run_render_of_not_refuses`), and count it in the
same way but for its waiting time (`Service.tally_render`). So they go on in lockstep
(`Service.lockstep_upToLimits`), and their transcripts are the same
(`Service.transcript_of_not_refuses`).
-/

namespace SeriesRender

/-- A tally with one more request of a tenant. -/
def Counters.tallyRequest (tally : String → Option (Nat × Nat)) (tenant : String)
    (timedOut : Bool) : String → Option (Nat × Nat) := fun other =>
  if tenant = other then
    match (tally other).getD (0, 0) with
    | (requests, timeouts) => some (requests + 1, timeouts + timedOut.toNat)
  else tally other

namespace Service

section Render

variable (s : Service) {p : Parameters}

/-- What a request adds to the tally, whatever it has to wait. -/
theorem tally_render (h : s.settings.render.Admits p) : (s.render p).2.counters.tally =
    Counters.tallyRequest s.counters.tally p.tenant (s.render p).1.outcome.isTimedOut := by
  funext tenant
  rw [Counters.tally, s.getElem?_render h, Counters.tallyRequest]
  by_cases htenant : p.tenant = tenant
  · rw [if_pos htenant, if_pos htenant, Counters.tally, Counters.get]
    cases s.counters[tenant]? <;> rfl
  · rw [if_neg htenant, if_neg htenant, Counters.tally]

variable {targets : List Target.Expr}

/-- Where nothing is refused, an admitted request runs as the pool lets it. -/
theorem run_render_of_not_refuses (h : s.settings.limits.refuses = false)
    (hc : s.settings.render.check p = .ok targets) : (s.render p).1 =
      (Task.mk (s.evaluation p targets) (s.pool.lease? s.now s.deadline
        (s.evaluation p targets).duration)).run p s.deadline := by
  rw [s.render_of_not_refuses h hc]
  exact run_work (s.accept p.tenant).2 p _

theorem pool_render_of_not_refuses (h : s.settings.limits.refuses = false)
    (hc : s.settings.render.check p = .ok targets) : (s.render p).2.pool =
      (s.pool.assign s.now s.deadline (s.evaluation p targets).duration).2 := by
  rw [s.render_of_not_refuses h hc]
  exact pool_work (s.accept p.tenant).2 p _

end Render

/-- The services differ in their limits, which refuse nothing, and in what follows from them : in
slots and in waiting times. -/
structure UpToLimits (s t : Service) : Prop where
  settings : t.settings = { s.settings with limits := t.settings.limits }
  refuses_left : s.settings.limits.refuses = false
  refuses_right : t.settings.limits.refuses = false
  backend : s.backend = t.backend
  pool : s.pool = t.pool
  now : s.now = t.now
  tally : s.counters.tally = t.counters.tally

namespace UpToLimits

variable {s t : Service} (h : s.UpToLimits t)

include h

/-- The settings are the same but for the limits. -/
theorem renderSettings : t.settings.render = s.settings.render := by
  rw [h.settings]

theorem deadline : t.deadline = s.deadline := by
  rw [Service.deadline, Service.deadline, h.renderSettings, h.now]

theorem evaluation (p : Parameters) (targets : List Target.Expr) :
    t.evaluation p targets = s.evaluation p targets := by
  rw [Service.evaluation, Service.evaluation, h.renderSettings, h.backend]

/-- One request has the same run, and the services stay the same up to limits. -/
theorem render (p : Parameters) :
    (s.render p).1 = (t.render p).1 ∧ (s.render p).2.UpToLimits (t.render p).2 := by
  cases hc : s.settings.render.check p with
  | error e =>
    rw [Service.render, Service.render, h.renderSettings, hc]
    exact ⟨by rw [h.now], h⟩
  | ok targets =>
    have hc' : t.settings.render.check p = .ok targets := by rwa [h.renderSettings]
    have hrun : (s.render p).1 = (t.render p).1 := by
      rw [s.run_render_of_not_refuses h.refuses_left hc,
        t.run_render_of_not_refuses h.refuses_right hc', h.deadline, h.evaluation, h.pool, h.now]
    refine ⟨hrun, ?_, ?_, ?_, ?_, ?_, ?_, ?_⟩
    · rw [settings_render, settings_render]
      exact h.settings
    · rw [settings_render]
      exact h.refuses_left
    · rw [settings_render]
      exact h.refuses_right
    · rw [backend_render, backend_render, h.backend]
    · rw [s.pool_render_of_not_refuses h.refuses_left hc,
        t.pool_render_of_not_refuses h.refuses_right hc', h.deadline, h.evaluation, h.pool, h.now]
    · rw [now_render, now_render, h.now]
    · rw [s.tally_render ⟨targets, hc⟩, t.tally_render ⟨targets, hc'⟩, hrun, h.tally]

theorem answerMetrics (r : HttpRequest) : (s.answerMetrics r).1 = (t.answerMetrics r).1 ∧
    (s.answerMetrics r).2.UpToLimits (t.answerMetrics r).2 := by
  unfold Service.answerMetrics
  rw [← h.backend]
  split
  · exact ⟨rfl, h⟩
  · split
    · exact ⟨rfl, h⟩
    · exact ⟨rfl, h.settings, h.refuses_left, h.refuses_right, rfl, h.pool, h.now, h.tally⟩

end UpToLimits

/-- They go on in lockstep, whole outcomes being seen. -/
theorem lockstep_upToLimits : Lockstep id UpToLimits where
  now_eq h := h.now
  tally_eq h := h.tally
  setNow h _ := ⟨h.settings, h.refuses_left, h.refuses_right, h.backend, h.pool, rfl, h.tally⟩
  drain h := ⟨h.settings, h.refuses_left, h.refuses_right, h.backend, h.pool, h.now, rfl⟩
  write h r := h.answerMetrics r
  render h p := (h.render p).imp_left (congrArg (Run.seenBy id))
  ofOutcome h := congrArg HttpResponse.ofOutcome h

/-- If neither of two limits refuses a request, services that only differ in them have the same
outcomes, responses and fetches in all rounds, and the same counts but for waiting times. -/
theorem transcript_of_not_refuses (settings : Settings) (limits : RateLimits) (backend : Backend)
    (h : settings.limits.refuses = false) (h' : limits.refuses = false) (rounds : List Round) :
    (launch settings backend).transcript id rounds =
      (launch { settings with limits } backend).transcript id rounds := by
  have hlaunch : (launch settings backend).UpToLimits (launch { settings with limits } backend) :=
    ⟨rfl, h, h', rfl, rfl, rfl, rfl⟩
  exact lockstep_upToLimits.transcript_eq hlaunch rounds

/-! ## Waits that are only counted -/

/-- One request in two seconds, without refusing the others. -/
def countedOnly : RateLimits := ⟨true, false, 0.5, ∅, []⟩

/-- The second of two requests would have to wait for two seconds. -/
theorem wait_countedOnly (backend : Backend) :
    (((launch { Settings.standard with limits := countedOnly } backend).render probe).2.accept
      probe.tenant).1 = 2000000000 := by
  have hinterval : countedOnly.interval? probe.tenant = some 2000000000 := interval_probe.1
  have hadmits : Settings.standard.render.Admits probe := ⟨_, check_probe⟩
  obtain ⟨pool, counters, hs⟩ :=
    (launch { Settings.standard with limits := countedOnly } backend).exists_render_eq hadmits
  have hslot : (Pacer.empty.reserve countedOnly 0 probe.tenant).2.slot 0 probe.tenant =
      2000000000 := by
    rw [Pacer.slot_reserve_self hinterval (by decide)]
    decide
  have hwait : ∀ s : Service, (s.accept probe.tenant).1 =
      (s.pacer.reserve s.settings.limits s.now probe.tenant).1 := fun _ => rfl
  rw [hwait, hs]
  dsimp only [launch]
  rw [Pacer.reserve_of_interval hinterval (by rw [hslot]; decide), hslot]

/-- Although the second of these requests would have to wait, both of them go as they do without
limits. -/
theorem transcript_of_not_refuses_twoProbes :
    Settings.standard.limits.refuses = false ∧ countedOnly.refuses = false ∧
      (((launch { Settings.standard with limits := countedOnly } slowly).render probe).2.accept
        probe.tenant).1 = 2000000000 ∧
      (launch .standard slowly).transcript id [.serve [probe, probe], .drain] =
        (launch { Settings.standard with limits := countedOnly } slowly).transcript id
          [.serve [probe, probe], .drain] :=
  ⟨rfl, rfl, wait_countedOnly slowly,
    transcript_of_not_refuses .standard countedOnly slowly rfl rfl [.serve [probe, probe], .drain]⟩

end Service

end SeriesRender
