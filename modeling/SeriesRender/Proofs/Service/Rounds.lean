import SeriesRender.Proofs.Service.History

/-!
# Rounds

A `Round` is what clients do that wait for their answers : they let time pass, start requests
together and wait for the last of them, ask over HTTP, or have the counters handed out. A sequence
of rounds is a history (`Service.exists_afterRounds_eq`) in which no evaluation is left over from an
earlier round.
-/

namespace SeriesRender

/-- What clients do that wait for their answers. -/
inductive Round
  | wait (d : Duration)
  | serve (requests : List Parameters)
  | answer (r : HttpRequest)
  | drain

namespace Service

/-- The service after a round. -/
def afterRound (s : Service) : Round → Service
  | .wait d => s.wait d
  | .serve requests => (s.serve requests).2.2
  | .answer r => (s.answer r).2.2
  | .drain => s.drainCounters.2

/-- The service after several rounds. -/
def afterRounds (s : Service) (rounds : List Round) : Service :=
  rounds.foldl afterRound s

@[simp] theorem afterRounds_nil (s : Service) : s.afterRounds [] = s := rfl

@[simp] theorem afterRounds_cons (s : Service) (round : Round) (rounds : List Round) :
    s.afterRounds (round :: rounds) = (s.afterRound round).afterRounds rounds := rfl

variable (s : Service)

/-- Each round is a number of actions. -/
theorem exists_afterRound_eq (round : Round) :
    ∃ actions, s.afterRound round = s.afterAll actions := by
  cases round with
  | wait d => exact ⟨[.wait d], rfl⟩
  | serve requests =>
    obtain ⟨d, hd⟩ := s.exists_serve_eq requests
    exact ⟨_, hd⟩
  | answer r => exact ⟨[.answer r], rfl⟩
  | drain => exact ⟨[.drain], rfl⟩

/-- Rounds are a history. -/
theorem exists_afterRounds_eq (rounds : List Round) :
    ∃ actions, s.afterRounds rounds = s.afterAll actions := by
  induction rounds generalizing s with
  | nil => exact ⟨[], rfl⟩
  | cons round rounds ih =>
    obtain ⟨first, hfirst⟩ := s.exists_afterRound_eq round
    obtain ⟨later, hlater⟩ := ih (s.afterRound round)
    refine ⟨first ++ later, ?_⟩
    rw [afterRounds_cons, hlater, hfirst, afterAll_append]

@[simp] theorem settings_afterRounds (rounds : List Round) :
    (s.afterRounds rounds).settings = s.settings := by
  obtain ⟨actions, h⟩ := s.exists_afterRounds_eq rounds
  rw [h, settings_afterAll]

/-- To serve one request is to serve a batch of one. -/
theorem serveOne_eq_serve (p : Parameters) :
    (s.serve [p]).1 = [(s.serveOne p).1] ∧ (s.serve [p]).2.2 = (s.serveOne p).2.2 :=
  ⟨rfl, rfl⟩

/-- A render request over HTTP is served like any other. -/
theorem afterRound_answer_of_rendering {r : HttpRequest} {p : Parameters}
    (h : r.rendering? = some p) : s.afterRound (.answer r) = s.afterRound (.serve [p]) :=
  (s.answer_of_rendering h).trans (s.serveOne_eq_serve p).2.symm

end Service

end SeriesRender
