import SeriesRender.Duration
import SeriesRender.Series
import SeriesRender.SeriesFunction.Error

/-!
# Traces

An evaluation makes fetches, one after the other, and ends with a result; at certain points it looks
whether it has been interrupted. What a store answers does not depend on when it is asked, so an
evaluation is described by its `Trace` : the events of a run that nothing interrupts, and the result
of that run. Traces are composed as a monad, in which nothing happens after a failure.

`Trace.interruptedAt` goes through the events again, this time with a clock and an instant at which
the evaluation is interrupted. It ends at the first event that notices.
-/

namespace SeriesRender

/-- What a store answers to a pattern, and the time until it does. -/
structure Answer where
  delay : Duration
  series : Except StoreError (List Series)

/-- A store as one tenant sees it over one range of time : the answer to every pattern. -/
abbrev Source := String → Answer

/-- The pattern of a fetch, and the time it takes. -/
structure Fetch where
  pattern : String
  delay : Duration
  deriving DecidableEq, Repr

/-- An event of an evaluation at which an interruption is noticed. -/
inductive Event
  /-- A look at whether the evaluation has been interrupted. -/
  | check
  /-- A fetch, and the wait for its answer. -/
  | fetch (f : Fetch)
  deriving DecidableEq, Repr

/-- The events of an evaluation, and its result. -/
structure Trace (α : Type) where
  events : List Event
  result : Except EvalError α

namespace Trace

/-- A result without an event. -/
def ofExcept {α : Type} (result : Except EvalError α) : Trace α :=
  ⟨[], result⟩

/-- Look whether the evaluation has been interrupted. -/
def check : Trace Unit :=
  ⟨[.check], .ok ()⟩

/-- Ask a store for the series that match a pattern. -/
def fetch (source : Source) (pattern : String) : Trace (List Series) :=
  ⟨[.fetch ⟨pattern, (source pattern).delay⟩], (source pattern).series.mapError .store⟩

/-- Go on with a result; a failure ends the evaluation. -/
def bind {α β : Type} (t : Trace α) (next : α → Trace β) : Trace β :=
  match t.result with
  | .error e => ⟨t.events, .error e⟩
  | .ok a => ⟨t.events ++ (next a).events, (next a).result⟩

instance : Monad Trace where
  pure a := ofExcept (.ok a)
  bind := bind

/-- The fetches, in the order in which they are made. -/
def fetches {α : Type} (t : Trace α) : List Fetch :=
  t.events.filterMap fun
    | .check => none
    | .fetch f => some f

/-- How long fetches take, one after the other. -/
def totalDelay : List Fetch → Duration
  | [] => 0
  | f :: fs => f.delay + totalDelay fs

/-- How long the evaluation takes. -/
def duration {α : Type} (t : Trace α) : Duration :=
  totalDelay t.fetches

/-! ## Interruption -/

/-- What becomes of events from the instant `now` on, with an interruption at the instant `limit` :
those that happen, and whether the interruption is noticed. A check notices one that has come. A
fetch does not start then, and is given up at the interruption if no answer has come before. -/
def replay (limit : Duration) : Duration → List Event → List Event × Bool
  | _, [] => ([], false)
  | now, .check :: es =>
    if limit ≤ now then ([.check], true)
    else
      match replay limit now es with
      | (happened, noticed) => (.check :: happened, noticed)
  | now, .fetch f :: es =>
    if limit ≤ now then ([], true)
    else if limit ≤ now + f.delay then ([.fetch f], true)
    else
      match replay limit (now + f.delay) es with
      | (happened, noticed) => (.fetch f :: happened, noticed)

/-- The evaluation if it is interrupted at an instant after its start. -/
def interruptedAt {α : Type} (limit : Duration) (t : Trace α) : Trace α :=
  match replay limit 0 t.events with
  | (happened, noticed) => ⟨happened, if noticed then .error .cancelled else t.result⟩

end Trace

end SeriesRender
