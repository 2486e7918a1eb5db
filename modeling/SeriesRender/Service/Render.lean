import SeriesRender.Counters
import SeriesRender.Evaluation.Evaluate
import SeriesRender.Request.Parameters
import SeriesRender.Service.Pool
import SeriesRender.Settings
import SeriesRender.Store.Memory
import SeriesRender.Target.Parser

/-!
# The render service

A request is checked (`RenderSettings.check`), takes its tenant's next slot, is counted, and is then
evaluated by a worker, with a deadline. It ends in one `Outcome`. Requests that start together
(`Service.serve`) are accepted one after the other at the same instant; they share the workers, but
nothing that one of them does changes what another one's evaluation finds.
-/

namespace SeriesRender

/-- Where series come from : a store in memory, which can be written to, or one that only answers,
to a tenant over a range. -/
inductive Backend
  | memory (store : MemoryStore)
  | readOnly (answers : String → Int → Int → Source)

namespace Backend

/-- The store as a tenant sees it over a range. A store in memory answers at once. -/
def source : Backend → String → Int → Int → Source
  | memory store, tenant, start, stop => fun pattern => ⟨0, store.fetch tenant pattern start stop⟩
  | readOnly answers, tenant, start, stop => answers tenant start stop

/-- The store to write to, if there is one. -/
def writable? : Backend → Option MemoryStore
  | memory store => some store
  | readOnly _ => none

end Backend

/-- How a request ends. -/
inductive Outcome
  | completed (response : Response)
  | timedOut
  | throttled (retryAfter : Duration)
  | failed (error : RenderError)

/-- A fetch as a store is asked for it. -/
structure StoreCall where
  tenant : String
  pattern : String
  start : Int
  stop : Int
  deriving DecidableEq, Repr

namespace RenderSettings

/-- Everything that can be said against a request without asking a store : its range, then the
first target that cannot be parsed, then the first target with a call that cannot be made. The
answer is the parsed targets. -/
def check (s : RenderSettings) (p : Parameters) : Except RenderError (List Target.Expr) := do
  (p.checkRange s.maxRange.wholeSeconds).mapError .invalidParameter
  let targets ← (p.targets.mapM (Target.parse s.maxDepth)).mapError
    (.invalidParameter ∘ .target)
  (validateAll .standard targets).mapError .ofEvalError
  return targets

/-- The style in which numbers are written in a format. -/
def style (s : RenderSettings) (format : OutputFormat) : NumberStyle :=
  if s.humanNumbers then format.style else .machine

end RenderSettings

/-- The service between two requests. -/
structure Service where
  settings : Settings
  backend : Backend
  pacer : Pacer
  counters : Counters
  pool : Pool
  /-- The time on the service's clock. -/
  now : Duration

/-- How one of several requests went : its outcome, when it ended, and its fetches. -/
structure Run where
  outcome : Outcome
  ended : Duration
  calls : List (Turns × StoreCall)

namespace Service

/-- A service that has not been asked anything. -/
def launch (settings : Settings) (backend : Backend) : Service :=
  ⟨settings, backend, .empty, ∅, .ofSize settings.render.maxConcurrent, 0⟩

/-- A service on an empty store in memory. -/
def inMemory (settings : Settings) : Service :=
  launch settings (.memory (.empty settings.storage.step))

/-- The evaluation of checked targets, ending in the response. -/
def evaluation (s : Service) (p : Parameters) (targets : List Target.Expr) :
    Trace Response := do
  let style := s.settings.render.style p.format
  let context : Context := ⟨.standard, style, s.backend.source p.tenant p.start p.stop⟩
  let series ← evaluateAll context targets
  Trace.ofExcept ((formatSeries p.format style series).mapError .crashed)

/-- Let a worker do an evaluation. -/
def work (s : Service) (p : Parameters) (evaluation : Trace Response) : Run × Service :=
  let deadline := s.now + s.settings.render.requestTimeout
  match s.pool.assign s.now deadline evaluation.duration with
  | (started, pool) =>
    let calls := match started with
      | some start => (timedFetches deadline [] start evaluation.fetches).map fun (turns, f) =>
          (turns, ⟨p.tenant, f.pattern, p.start, p.stop⟩)
      | none => []
    match started.filter (· + evaluation.duration < deadline) with
    | some start =>
      let outcome := match evaluation.result with
        | .ok response => .completed response
        | .error e => .failed (.ofEvalError e)
      (⟨outcome, start + evaluation.duration, calls⟩, { s with pool })
    | none =>
      (⟨.timedOut, deadline, calls⟩,
        { s with pool, counters := s.counters.countTimeout p.tenant })

/-- Take the tenant's next slot and count the request; the answer is the time until the slot. -/
def accept (s : Service) (tenant : String) : Duration × Service :=
  match s.pacer.reserve s.settings.limits s.now tenant with
  | (delay, pacer) =>
    let counters := s.counters.countRequest tenant
    (delay, { s with pacer, counters := counters.addThrottleTime tenant delay.seconds })

/-- A request that starts now, while the clock stands still. -/
def render (s : Service) (p : Parameters) : Run × Service :=
  match s.settings.render.check p with
  | .error e => (⟨.failed e, s.now, []⟩, s)
  | .ok targets =>
    match s.accept p.tenant with
    | (delay, s) =>
      if 0 < delay ∧ s.settings.limits.refuses then
        (⟨.throttled ((Duration.ofSeconds? delay.seconds).getD delay), s.now, []⟩, s)
      else s.work p (s.evaluation p targets)

/-- Requests that start now, one after the other, while the clock stands still. -/
def renderAll (s : Service) : List Parameters → List Run × Service
  | [] => ([], s)
  | p :: ps =>
    match s.render p with
    | (run, s) =>
      match s.renderAll ps with
      | (runs, s) => (run :: runs, s)

/-- Serve one request, until it has ended. -/
def serveOne (s : Service) (p : Parameters) : Outcome × List StoreCall × Service :=
  match s.render p with
  | (run, t) => (run.outcome, run.calls.map (·.2), { t with now := max t.now run.ended })

/-- The calls of several runs, in the order in which they are made. -/
def callsInOrder (runs : List Run) : List StoreCall :=
  ((runs.flatMap (·.calls)).mergeSort fun a b => a.1.before b.1).map (·.2)

/-- Serve requests that start together, until the last one has ended. -/
def serve (s : Service) (requests : List Parameters) :
    List Outcome × List StoreCall × Service :=
  match s.renderAll requests with
  | (runs, t) =>
    (runs.map (·.outcome), callsInOrder runs,
      { t with now := runs.foldl (fun latest run => max latest run.ended) t.now })

/-- Let time pass. -/
def wait (s : Service) (d : Duration) : Service :=
  { s with now := s.now + d }

/-- Hand out the counters, and forget every tenant. -/
def drainCounters (s : Service) : Counters × Service :=
  match s.counters.drain with
  | (drained, counters) => (drained, { s with counters })

end Service

end SeriesRender
