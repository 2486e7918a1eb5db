import SeriesRender.Proofs.Service.Rounds

/-!
# Two services side by side

The transcript of several rounds is what comes of each of them and what has been counted after it,
save for waiting times (`Service.transcript`). Of an outcome it may have less than all : the outcome
as it is seen, for example the response over HTTP that it leads to.

A relation between services is a `Lockstep` if related services go on alike : the same request has
runs that look the same and leaves related services behind, and so for the other steps that rounds
are made of. Services in lockstep have the same transcript (`Lockstep.transcript_eq`), whatever is
asked of them.
-/

namespace SeriesRender

/-! ## What is seen of a round -/

/-- How many requests of a tenant have been counted and how many timeouts, if it is listed. -/
def Counters.tally (counters : Counters) (tenant : String) : Option (Nat × Nat) :=
  counters[tenant]?.map fun counts => (counts.requests, counts.timedOut)

/-- What comes of a round, with outcomes as they are seen. -/
inductive RoundReply (α : Type)
  | nothing
  | outcomes (seen : List α) (calls : List StoreCall)
  | response (response : HttpResponse) (calls : List StoreCall)
  | counts (drained : String → Option (Nat × Nat))

/-- A run, with its outcome as it is seen. -/
def Run.seenBy {α : Type} (see : Outcome → α) (run : Run) :
    α × Duration × List (Turns × StoreCall) :=
  (see run.outcome, run.ended, run.calls)

namespace Service

variable {α : Type} (see : Outcome → α)

/-- What a round replies, its outcomes seen in some way. -/
def roundReply (s : Service) : Round → RoundReply α
  | .wait _ => .nothing
  | .serve requests => .outcomes ((s.serve requests).1.map see) (s.serve requests).2.1
  | .answer r => .response (s.answer r).1 (s.answer r).2.1
  | .drain => .counts s.drainCounters.1.tally

/-- What comes of each round, and what has been counted after it. -/
def transcript (s : Service) :
    List Round → List (RoundReply α × (String → Option (Nat × Nat)))
  | [] => []
  | round :: rounds =>
    (s.roundReply see round, (s.afterRound round).counters.tally) ::
      (s.afterRound round).transcript rounds

/-! Of runs, only what is seen matters to what is seen of a batch. -/

theorem map_see_outcomes (runs : List Run) :
    (runs.map (·.outcome)).map see = (runs.map (·.seenBy see)).map Prod.fst := by
  rw [List.map_map, List.map_map]
  rfl

/-- The order of calls depends on what is seen of the runs. -/
theorem callsInOrder_eq (runs : List Run) : callsInOrder runs =
    (((runs.map (·.seenBy see)).flatMap (·.2.2)).mergeSort fun a b => a.1.before b.1).map
      (·.2) := by
  rw [callsInOrder, List.flatMap_map]
  rfl

theorem latest_eq (now : Duration) (runs : List Run) :
    runs.foldl (fun latest run => max latest run.ended) now =
      (runs.map (·.seenBy see)).foldl (fun latest seen => max latest seen.2.1) now := by
  rw [List.foldl_map]
  rfl

end Service

/-! ## Lockstep -/

/-- Related services go on alike, as far as is seen of outcomes. -/
structure Lockstep {α : Type} (see : Outcome → α) (Related : Service → Service → Prop) : Prop where
  now_eq : ∀ {s t}, Related s t → s.now = t.now
  tally_eq : ∀ {s t}, Related s t → s.counters.tally = t.counters.tally
  setNow : ∀ {s t}, Related s t → ∀ now, Related { s with now } { t with now }
  drain : ∀ {s t}, Related s t → Related s.drainCounters.2 t.drainCounters.2
  write : ∀ {s t}, Related s t → ∀ r, (s.answerMetrics r).1 = (t.answerMetrics r).1 ∧
    Related (s.answerMetrics r).2 (t.answerMetrics r).2
  render : ∀ {s t}, Related s t → ∀ p, (s.render p).1.seenBy see = (t.render p).1.seenBy see ∧
    Related (s.render p).2 (t.render p).2
  /-- What is seen of an outcome decides the response. -/
  ofOutcome : ∀ {o o'}, see o = see o' → HttpResponse.ofOutcome o = HttpResponse.ofOutcome o'

namespace Lockstep

variable {α : Type} {see : Outcome → α} {Related : Service → Service → Prop} {s t : Service}
  (h : Lockstep see Related)

include h

/-- Batches are taken in alike, request by request. -/
theorem renderAll (hst : Related s t) (requests : List Parameters) :
    (s.renderAll requests).1.map (·.seenBy see) = (t.renderAll requests).1.map (·.seenBy see) ∧
      Related (s.renderAll requests).2 (t.renderAll requests).2 := by
  induction requests generalizing s t with
  | nil => exact ⟨rfl, hst⟩
  | cons p ps ih =>
    obtain ⟨hp, hnext⟩ := h.render hst p
    obtain ⟨hps, hlast⟩ := ih hnext
    refine ⟨?_, hlast⟩
    rw [Service.renderAll, Service.renderAll]
    dsimp only
    rw [List.map_cons, List.map_cons, hp, hps]

theorem serve (hst : Related s t) (requests : List Parameters) :
    (s.serve requests).1.map see = (t.serve requests).1.map see ∧
      (s.serve requests).2.1 = (t.serve requests).2.1 ∧
      Related (s.serve requests).2.2 (t.serve requests).2.2 := by
  obtain ⟨hruns, hnext⟩ := h.renderAll hst requests
  refine ⟨?_, ?_, ?_⟩
  · change ((s.renderAll requests).1.map (·.outcome)).map see =
      ((t.renderAll requests).1.map (·.outcome)).map see
    rw [Service.map_see_outcomes, hruns, Service.map_see_outcomes]
  · change Service.callsInOrder (s.renderAll requests).1 =
      Service.callsInOrder (t.renderAll requests).1
    rw [Service.callsInOrder_eq see, hruns, ← Service.callsInOrder_eq see]
  · have hlatest := Service.latest_eq see (s.renderAll requests).2.now (s.renderAll requests).1
    rw [hruns, h.now_eq hnext, ← Service.latest_eq see] at hlatest
    have hmoved := h.setNow hnext
      ((t.renderAll requests).1.foldl (fun latest run => max latest run.ended)
        (t.renderAll requests).2.now)
    rw [Service.serve, Service.serve]
    dsimp only
    rw [h.now_eq hnext, hlatest]
    exact hmoved

theorem serveOne (hst : Related s t) (p : Parameters) :
    see (s.serveOne p).1 = see (t.serveOne p).1 ∧ (s.serveOne p).2.1 = (t.serveOne p).2.1 ∧
      Related (s.serveOne p).2.2 (t.serveOne p).2.2 := by
  obtain ⟨hrun, hnext⟩ := h.render hst p
  obtain ⟨houtcome, hended, hcalls⟩ : _ ∧ _ ∧ _ := by
    simpa only [Run.seenBy, Prod.mk.injEq] using hrun
  rw [Service.serveOne, Service.serveOne]
  dsimp only
  rw [hended, hcalls, h.now_eq hnext]
  exact ⟨houtcome, rfl, h.setNow hnext _⟩

/-- Requests on a route are answered alike. -/
theorem answerOn (hst : Related s t) (r : HttpRequest) (route : Route) :
    (s.answerOn r route).1 = (t.answerOn r route).1 ∧
      (s.answerOn r route).2.1 = (t.answerOn r route).2.1 ∧
      Related (s.answerOn r route).2.2 (t.answerOn r route).2.2 := by
  cases route with
  | render =>
    rw [Service.answerOn, Service.answerOn, Service.answerRender, Service.answerRender]
    cases Parameters.read r.query r.body r.tenant? r.time with
    | error fault => exact ⟨rfl, rfl, hst⟩
    | ok p =>
      obtain ⟨houtcome, hcalls, hnext⟩ := h.serveOne hst p
      exact ⟨h.ofOutcome houtcome, hcalls, hnext⟩
  | metrics =>
    obtain ⟨hresponse, hnext⟩ := h.write hst r
    rw [Service.answerOn_metrics, Service.answerOn_metrics]
    dsimp only
    exact ⟨hresponse, rfl, hnext⟩
  | health => exact ⟨rfl, rfl, hst⟩

theorem answer (hst : Related s t) (r : HttpRequest) : (s.answer r).1 = (t.answer r).1 ∧
    (s.answer r).2.1 = (t.answer r).2.1 ∧ Related (s.answer r).2.2 (t.answer r).2.2 := by
  rw [Service.answer, Service.answer]
  cases Route.ofPath? r.path with
  | none => exact ⟨rfl, rfl, hst⟩
  | some route =>
    dsimp only
    by_cases hm : r.method ∈ route.methods
    · obtain ⟨hresponse, hcalls, hnext⟩ := h.answerOn hst r route
      rw [if_pos hm, if_pos hm]
      dsimp only
      rw [hresponse]
      exact ⟨rfl, hcalls, hnext⟩
    · rw [if_neg hm, if_neg hm]
      exact ⟨rfl, rfl, hst⟩

theorem round (hst : Related s t) (round : Round) :
    s.roundReply see round = t.roundReply see round ∧
      Related (s.afterRound round) (t.afterRound round) := by
  cases round with
  | wait d =>
    refine ⟨rfl, ?_⟩
    rw [Service.afterRound, Service.afterRound, Service.wait, Service.wait, h.now_eq hst]
    exact h.setNow hst _
  | serve requests =>
    obtain ⟨houtcomes, hcalls, hnext⟩ := h.serve hst requests
    refine ⟨?_, hnext⟩
    rw [Service.roundReply, Service.roundReply, houtcomes, hcalls]
  | answer r =>
    obtain ⟨hresponse, hcalls, hnext⟩ := h.answer hst r
    refine ⟨?_, hnext⟩
    rw [Service.roundReply, Service.roundReply, hresponse, hcalls]
  | drain => exact ⟨congrArg RoundReply.counts (h.tally_eq hst), h.drain hst⟩

/-- Services in lockstep have the same transcript. -/
theorem transcript_eq (hst : Related s t) (rounds : List Round) :
    s.transcript see rounds = t.transcript see rounds := by
  induction rounds generalizing s t with
  | nil => rfl
  | cons round rounds ih =>
    obtain ⟨hreply, hnext⟩ := h.round hst round
    rw [Service.transcript, Service.transcript, hreply, h.tally_eq hnext, ih hnext]

end Lockstep

end SeriesRender
