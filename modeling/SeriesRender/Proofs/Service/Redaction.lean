import SeriesRender.Proofs.Evaluation.Failures
import SeriesRender.Proofs.Service.Lockstep
import SeriesRender.Proofs.Service.Permits
import SeriesRender.Proofs.Service.Tenant

/-!
# What a store says about its failures

A store that is not available may say why. This is for those who run the service : no response
depends on it. Two services whose stores differ in nothing else (`Backend.redact`) have evaluations
with the same events and, save for such a text, with the same result
(`Service.sameButDetails_evaluation`). The response over HTTP leaves the text out
(`HttpResponse.ofOutcome_redact`), and nothing else takes account of it. So the services go on in
lockstep, as far as responses show (`Service.transcript_of_redact_eq`).
-/

namespace SeriesRender

/-! ## Stores without their texts -/

namespace Backend

/-- The store without what it says about being unavailable. -/
def redact : Backend → Backend
  | memory store => memory store
  | readOnly answers => readOnly fun tenant start stop pattern =>
      (answers tenant start stop pattern).redact

variable {b b' : Backend} (h : b.redact = b'.redact)

include h

/-- Up to details the two stores give the same answers. -/
theorem redact_source (tenant : String) (start stop : Int) (pattern : String) :
    (b.source tenant start stop pattern).redact = (b'.source tenant start stop pattern).redact := by
  cases b with
  | memory store =>
    cases b' with
    | memory store' =>
      obtain rfl := Backend.memory.inj h
      rfl
    | readOnly answers' => cases h
  | readOnly answers =>
    cases b' with
    | memory store' => cases h
    | readOnly answers' =>
      exact congrFun (congrFun (congrFun (congrFun (Backend.readOnly.inj h) tenant) start) stop)
        pattern

theorem writable?_of_redact : b.writable? = b'.writable? := by
  cases b with
  | memory store =>
    cases b' with
    | memory store' => exact congrArg some (Backend.memory.inj h)
    | readOnly answers' => cases h
  | readOnly answers =>
    cases b' with
    | memory store' => cases h
    | readOnly answers' => rfl

end Backend

/-! ## Responses without texts -/

/-- A client is not told what a store says. -/
theorem HttpResponse.ofOutcome_redact (error : EvalError) :
    ofOutcome (.failed (.ofEvalError error)) = ofOutcome (.failed (.ofEvalError error.redact)) := by
  cases error with
  | store failure =>
    cases failure with
    | unavailable detail => rfl
    | _ => rfl
  | _ => rfl

theorem Trace.SameButDetails.ofOutcome_startedAt {t u : Trace Response} (h : t.SameButDetails u)
    (deadline start : Duration) :
    HttpResponse.ofOutcome (.startedAt deadline start t) =
      HttpResponse.ofOutcome (.startedAt deadline start u) := by
  rw [Outcome.startedAt, Outcome.startedAt, h.duration]
  split
  · rcases mapError_eq_mapError_iff.1 h.result with ⟨response, ht, hu⟩ | ⟨d, e, ht, hu, hde⟩
    · rw [ht, hu]
    · rw [ht, hu]
      dsimp only
      rw [HttpResponse.ofOutcome_redact d, hde, ← HttpResponse.ofOutcome_redact e]
  · rfl

namespace Service

/-- The services differ in their stores, and these only in what they say about being unavailable. -/
structure UpToDetails (s t : Service) : Prop where
  eq : t = { s with backend := t.backend }
  redact : s.backend.redact = t.backend.redact

variable (s : Service) {backend : Backend} (h : s.backend.redact = backend.redact)

/-- What is evaluated is seen alike, and the pool changes alike. -/
theorem work_of_sameButDetails {t u : Trace Response} (h : t.SameButDetails u) (p : Parameters) :
    (s.work p t).1.seenBy HttpResponse.ofOutcome =
        (({ s with backend } : Service).work p u).1.seenBy HttpResponse.ofOutcome ∧
      (({ s with backend } : Service).work p u).2 = { (s.work p t).2 with backend } := by
  constructor
  · have hdeadline : ({ s with backend } : Service).deadline = s.deadline := rfl
    rw [run_work, run_work, hdeadline, h.duration]
    dsimp only
    cases s.pool.lease? s.now s.deadline u.duration with
    | none => rfl
    | some l =>
      dsimp only [Task.run, Run.seenBy]
      rw [h.ofOutcome_startedAt, h.fetches]
  · unfold work
    dsimp only
    rw [h.duration, h.fetches]
    split <;> rfl

include h

/-- With either store, evaluations are the same up to details. -/
theorem sameButDetails_evaluation (p : Parameters) (targets : List Target.Expr) :
    (s.evaluation p targets).SameButDetails
      (({ s with backend } : Service).evaluation p targets) :=
  (sameButDetails_evaluateAll (Backend.redact_source h p.tenant p.start p.stop) targets).bind
    fun _ => .refl _

theorem render_upToDetails (p : Parameters) :
    (s.render p).1.seenBy HttpResponse.ofOutcome =
        (({ s with backend } : Service).render p).1.seenBy HttpResponse.ofOutcome ∧
      (s.render p).2.UpToDetails (({ s with backend } : Service).render p).2 := by
  cases hc : s.settings.render.check p with
  | error e =>
    rw [render, render, hc]
    exact ⟨rfl, rfl, h⟩
  | ok targets =>
    have hc' : ({ s with backend } : Service).settings.render.check p = .ok targets := hc
    have haccept : ({ s with backend } : Service).accept p.tenant =
        ((s.accept p.tenant).1, { (s.accept p.tenant).2 with backend }) := rfl
    rw [s.render_of_check hc, render_of_check _ hc', haccept]
    dsimp only
    split
    · exact ⟨rfl, rfl, h⟩
    · obtain ⟨hrun, hnext⟩ := work_of_sameButDetails (s.accept p.tenant).2
        (s.sameButDetails_evaluation h p targets) p
      obtain ⟨pool, counters, hwork⟩ :=
        exists_work_eq (s.accept p.tenant).2 p (s.evaluation p targets)
      refine ⟨hrun, ?_⟩
      rw [hnext, hwork]
      exact ⟨rfl, h⟩

theorem answerMetrics_upToDetails (r : HttpRequest) :
    (s.answerMetrics r).1 = (({ s with backend } : Service).answerMetrics r).1 ∧
      (s.answerMetrics r).2.UpToDetails (({ s with backend } : Service).answerMetrics r).2 := by
  unfold answerMetrics
  dsimp only
  rw [Backend.writable?_of_redact h]
  split
  · exact ⟨rfl, rfl, h⟩
  · split
    · exact ⟨rfl, rfl, h⟩
    · exact ⟨rfl, rfl, rfl⟩

omit h

/-- They go on in lockstep, as far as responses over HTTP show. -/
theorem lockstep_upToDetails : Lockstep HttpResponse.ofOutcome UpToDetails where
  now_eq h := by rw [h.eq]
  tally_eq h := by rw [h.eq]
  setNow h now := ⟨by rw [h.eq], h.redact⟩
  drain h := ⟨by rw [h.eq]; rfl, h.redact⟩
  write {s t} h r := by
    rw [h.eq]
    exact s.answerMetrics_upToDetails h.redact r
  render {s t} h p := by
    rw [h.eq]
    exact s.render_upToDetails h.redact p
  ofOutcome h := h

/-- Over stores that differ only in what they say about being unavailable, a service gives the same
responses in all rounds, makes the same fetches, and counts the same. -/
theorem transcript_of_redact_eq (settings : Settings) {backend backend' : Backend}
    (h : backend.redact = backend'.redact) (rounds : List Round) :
    (launch settings backend).transcript HttpResponse.ofOutcome rounds =
      (launch settings backend').transcript HttpResponse.ofOutcome rounds :=
  lockstep_upToDetails.transcript_eq (s := launch settings backend)
    (t := launch settings backend') ⟨rfl, h⟩ rounds

/-! ## Two texts -/

/-- A store that is never available, and says why. -/
def unavailable (detail : String) : Backend :=
  .readOnly fun _ _ _ _ => ⟨.ofMillis 6, .error (.unavailable detail)⟩

/-- A store that is unavailable fails the request for an internal error. -/
theorem serveOne_unavailable (detail : String) :
    ((launch .standard (unavailable detail)).serveOne probe).1 =
      .failed (.internal (.store (.unavailable detail))) := by
  have hcheck : (launch .standard (unavailable detail)).settings.render.check probe =
      .ok [.selector "a"] := check_probe
  have hduration : ((launch .standard (unavailable detail)).evaluation probe
      [.selector "a"]).duration = .ofMillis 6 := Nat.add_zero _
  have hearly : 0 + Duration.ofMillis 6 < 0 + Settings.standard.render.requestTimeout := by
    decide
  rw [outcome_serveOne_launch rfl, outcomeFrom_of_check _ hcheck, Outcome.startedAt, hduration]
  exact if_pos hearly

/-- The outcome has the text, the response has not, and those over two stores are the same. -/
theorem transcript_of_redact_eq_twoTexts :
    (unavailable "disk failure").redact = (unavailable "no route to host").redact ∧
      ((launch .standard (unavailable "disk failure")).serveOne probe).1 =
        .failed (.internal (.store (.unavailable "disk failure"))) ∧
      HttpResponse.ofOutcome ((launch .standard (unavailable "disk failure")).serveOne probe).1 =
        .error 500 "internal_error" "Internal server error" ∧
      (launch .standard (unavailable "disk failure")).transcript HttpResponse.ofOutcome
          [.serve [probe, probe], .answer (lookup "acme")] =
        (launch .standard (unavailable "no route to host")).transcript HttpResponse.ofOutcome
          [.serve [probe, probe], .answer (lookup "acme")] := by
  have hredact : (unavailable "disk failure").redact = (unavailable "no route to host").redact :=
    rfl
  refine ⟨hredact, serveOne_unavailable _, ?_, transcript_of_redact_eq .standard hredact _⟩
  rw [serveOne_unavailable]
  rfl

end Service

end SeriesRender
