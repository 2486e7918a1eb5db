import SeriesRender.Proofs.Evaluation.Validation
import SeriesRender.Proofs.Service.Throttling

/-!
# Rejected requests

`RenderSettings.Rejects` says which error a request is rejected with : that of its range, or else
that of its first target that cannot be parsed, or else that of its first target with a call that
cannot be made. These are exactly the errors of the check (`RenderSettings.check_eq_error_iff`), and
there is one whenever anything is wrong with the request (`RenderSettings.exists_rejects`).

A rejected request fails with this error before anything is fetched, reserved or counted. The
service is the same as before, and requests that start together with the rejected one, or later,
are answered as if it had not been made (`Service.serve_of_faulty`).
-/

namespace SeriesRender

open Target

/-! ## Checks of several targets -/

/-- A range is refused if it is wider than the limit, and the fault says so. -/
theorem Parameters.checkRange_eq_error_iff {p : Parameters} {limit : Nat} {fault : ParameterFault} :
    p.checkRange limit = .error fault ↔
      limit < p.stop - p.start ∧ fault = .wideRange (p.stop - p.start) limit := by
  unfold checkRange
  split
  · next h =>
    refine iff_of_false (fun h => by cases h) ?_
    rintro ⟨hlt, -⟩
    omega
  · next h =>
    rw [Except.error.injEq, eq_comm]
    exact (and_iff_right (by omega)).symm

theorem Parameters.checkRange_eq_ok_iff {p : Parameters} {limit : Nat} :
    p.checkRange limit = .ok () ↔ p.stop - p.start ≤ limit := by
  unfold checkRange
  split
  · next h => exact iff_of_true rfl h
  · next h => exact iff_of_false (fun h => by cases h) h

/-- No user can mend a crash. -/
theorem EvalError.overflow?_of_isUserError {error : EvalError} (h : error.isUserError = true) :
    error.overflow? = none := by
  cases error with
  | store failure => cases failure with
    | crashed => cases h
    | _ => rfl
  | crashed => cases h
  | _ => rfl

/-- What validation refuses is a bad request. -/
theorem RenderError.ofEvalError_of_validate {registry : Registry} {e : Expr} {error : EvalError}
    (h : validate registry e = .error error) : ofEvalError error = .badRequest error := by
  have huser := isUserError_of_validate h
  rw [ofEvalError, EvalError.overflow?_of_isUserError huser]
  exact if_pos huser

/-- Targets are valid if each of them is. -/
theorem validateAll_eq_ok_iff {registry : Registry} {es : List Expr} :
    validateAll registry es = .ok () ↔ ∀ e ∈ es, validate registry e = .ok () := by
  induction es with
  | nil => exact iff_of_true rfl (List.forall_mem_nil _)
  | cons e es ih =>
    rw [validateAll, List.forall_mem_cons]
    cases he : validate registry e with
    | error _ => simp
    | ok _ => simpa using ih

/-- Of several parsed targets, the first one with a call that cannot be made is reported. -/
theorem validateAll_eq_error_iff {ε : Type} {read : String → Except ε Expr} {registry : Registry}
    {targets : List String} {es : List Expr} {error : EvalError}
    (h : targets.mapM read = .ok es) : validateAll registry es = .error error ↔
      ∃ before target after e, targets = before ++ target :: after ∧
        (∀ t ∈ before, ∀ d, read t = .ok d → validate registry d = .ok ()) ∧
        read target = .ok e ∧ validate registry e = .error error := by
  induction targets generalizing es with
  | nil =>
    obtain rfl := Except.ok.inj h
    refine iff_of_false (fun h => by cases h) ?_
    rintro ⟨before, target, after, e, htargets, -⟩
    simp at htargets
  | cons t targets ih =>
    rw [List.mapM_cons] at h
    obtain ⟨d, hd, h⟩ := bind_eq_ok_iff.1 h
    obtain ⟨es, hes, h⟩ := bind_eq_ok_iff.1 h
    obtain rfl := Except.ok.inj h
    rw [validateAll]
    cases hvalid : validate registry d with
    | error _ =>
      constructor
      · intro h
        exact ⟨[], t, targets, d, rfl, List.forall_mem_nil _, hd, hvalid.trans h⟩
      · rintro ⟨before, target, after, e, htargets, hbefore, htarget, he⟩
        cases before with
        | nil =>
          obtain ⟨rfl, rfl⟩ := List.cons.inj htargets
          obtain rfl := Except.ok.inj (hd.symm.trans htarget)
          exact hvalid.symm.trans he
        | cons u before =>
          obtain ⟨rfl, rfl⟩ := List.cons.inj htargets
          cases hvalid.symm.trans (hbefore t (List.mem_cons_self ..) d hd)
    | ok _ =>
      dsimp only
      rw [ih hes]
      constructor
      · rintro ⟨before, target, after, e, rfl, hbefore, htarget, he⟩
        refine ⟨t :: before, target, after, e, rfl, List.forall_mem_cons.2 ⟨?_, hbefore⟩, htarget,
          he⟩
        intro d' hd'
        obtain rfl := Except.ok.inj (hd.symm.trans hd')
        exact hvalid
      · rintro ⟨before, target, after, e, htargets, hbefore, htarget, he⟩
        cases before with
        | nil =>
          obtain ⟨rfl, rfl⟩ := List.cons.inj htargets
          obtain rfl := Except.ok.inj (hd.symm.trans htarget)
          cases hvalid.symm.trans he
        | cons u before =>
          obtain ⟨rfl, rfl⟩ := List.cons.inj htargets
          exact ⟨before, target, after, e, rfl, fun v hv => hbefore v (List.mem_cons_of_mem _ hv),
            htarget, he⟩

/-! ## What a request is rejected for -/

namespace RenderSettings

variable {s : RenderSettings} {p : Parameters}

/-- The error that a request is rejected with. -/
inductive Rejects (s : RenderSettings) (p : Parameters) : RenderError → Prop
  /-- The range is wider than allowed. -/
  | range (h : s.maxRange.wholeSeconds < p.stop - p.start) :
    Rejects s p (.invalidParameter (.wideRange (p.stop - p.start) s.maxRange.wholeSeconds))
  /-- The target is the first one that cannot be parsed. -/
  | target {before after : List String} {target : String} {error : ParseError}
    (hrange : p.stop - p.start ≤ s.maxRange.wholeSeconds)
    (htargets : p.targets = before ++ target :: after)
    (hbefore : ∀ t ∈ before, ∃ e, Target.parse s.maxDepth t = .ok e)
    (htarget : Target.parse s.maxDepth target = .error error) :
    Rejects s p (.invalidParameter (.target error))
  /-- All targets can be parsed, and this one is the first with a call that cannot be made. -/
  | call {before after : List String} {target : String} {e : Expr} {error : EvalError}
    (hrange : p.stop - p.start ≤ s.maxRange.wholeSeconds)
    (hparsed : ∀ t ∈ p.targets, ∃ e, Target.parse s.maxDepth t = .ok e)
    (htargets : p.targets = before ++ target :: after)
    (hbefore : ∀ t ∈ before, ∀ e, Target.parse s.maxDepth t = .ok e →
      validate .standard e = .ok ())
    (htarget : Target.parse s.maxDepth target = .ok e)
    (hcall : validate .standard e = .error error) :
    Rejects s p (.badRequest error)

/-- Something is wrong with the request : its range, or any of its targets. -/
def Faulty (s : RenderSettings) (p : Parameters) : Prop :=
  s.maxRange.wholeSeconds < p.stop - p.start ∨ ∃ target ∈ p.targets,
    (∃ error, Target.parse s.maxDepth target = .error error) ∨
      ∃ e error, Target.parse s.maxDepth target = .ok e ∧ validate .standard e = .error error

/-- The checks fail just as a request is to be rejected. -/
theorem check_eq_error_iff {error : RenderError} :
    s.check p = .error error ↔ s.Rejects p error := by
  unfold check
  constructor
  · intro h
    obtain h | ⟨_, hrange, h⟩ := bind_eq_error_iff.1 h
    · obtain ⟨fault, hfault, rfl⟩ := mapError_eq_error_iff.1 h
      obtain ⟨hwide, rfl⟩ := Parameters.checkRange_eq_error_iff.1 hfault
      exact .range hwide
    have hle := Parameters.checkRange_eq_ok_iff.1 (mapError_eq_ok_iff.1 hrange)
    obtain h | ⟨es, hes, h⟩ := bind_eq_error_iff.1 h
    · obtain ⟨fault, hfault, rfl⟩ := mapError_eq_error_iff.1 h
      obtain ⟨before, target, after, htargets, hbefore, htarget⟩ := mapM_eq_error_iff.1 hfault
      exact .target hle htargets hbefore htarget
    obtain h | ⟨_, -, h⟩ := bind_eq_error_iff.1 h
    · have hparse := mapError_eq_ok_iff.1 hes
      obtain ⟨fault, hfault, rfl⟩ := mapError_eq_error_iff.1 h
      obtain ⟨before, target, after, e, htargets, hbefore, htarget, hcall⟩ :=
        (validateAll_eq_error_iff hparse).1 hfault
      rw [RenderError.ofEvalError_of_validate hcall]
      refine .call hle (fun t ht => ?_) htargets hbefore htarget hcall
      obtain ⟨d, -, hd⟩ := exists_of_mapM_eq_ok hparse t ht
      exact ⟨d, hd⟩
    · cases h
  · intro h
    cases h with
    | range hwide =>
      have hfault := Parameters.checkRange_eq_error_iff.2 ⟨hwide, rfl⟩
      exact bind_eq_error_iff.2 (.inl (mapError_eq_error_iff.2 ⟨_, hfault, rfl⟩))
    | target hrange htargets hbefore htarget =>
      have hparse := mapM_eq_error_iff.2 ⟨_, _, _, htargets, hbefore, htarget⟩
      refine bind_eq_error_iff.2
        (.inr ⟨(), mapError_eq_ok_iff.2 (Parameters.checkRange_eq_ok_iff.2 hrange), ?_⟩)
      exact bind_eq_error_iff.2 (.inl (mapError_eq_error_iff.2 ⟨_, hparse, rfl⟩))
    | call hrange hparsed htargets hbefore htarget hcall =>
      obtain ⟨es, hes⟩ := exists_mapM_eq_ok hparsed
      have hvalid := (validateAll_eq_error_iff hes).2
        ⟨_, _, _, _, htargets, hbefore, htarget, hcall⟩
      refine bind_eq_error_iff.2
        (.inr ⟨(), mapError_eq_ok_iff.2 (Parameters.checkRange_eq_ok_iff.2 hrange), ?_⟩)
      refine bind_eq_error_iff.2 (.inr ⟨es, mapError_eq_ok_iff.2 hes, ?_⟩)
      exact bind_eq_error_iff.2 (.inl (mapError_eq_error_iff.2
        ⟨_, hvalid, RenderError.ofEvalError_of_validate hcall⟩))

/-- A request with any fault is rejected. -/
theorem exists_rejects (h : s.Faulty p) : ∃ error, s.Rejects p error := by
  cases hc : s.check p with
  | error error => exact ⟨error, check_eq_error_iff.1 hc⟩
  | ok es =>
    obtain ⟨hrange, hparse, hvalid⟩ := check_eq_ok_iff.1 hc
    rcases h with hwide | ⟨target, htarget, ⟨error, herror⟩ | ⟨e, error, he, herror⟩⟩
    · cases hrange.symm.trans (Parameters.checkRange_eq_error_iff.2 ⟨hwide, rfl⟩)
    · obtain ⟨e, -, he⟩ := exists_of_mapM_eq_ok hparse target htarget
      cases he.symm.trans herror
    · obtain ⟨d, hd, hread⟩ := exists_of_mapM_eq_ok hparse target htarget
      obtain rfl := Except.ok.inj (hread.symm.trans he)
      cases (validateAll_eq_ok_iff.1 hvalid d hd).symm.trans herror

end RenderSettings

/-! ## What becomes of it -/

namespace Service

variable (s : Service) {p : Parameters} {error : RenderError}

theorem render_of_rejects (h : s.settings.render.Rejects p error) :
    s.render p = (⟨.failed error, s.now, []⟩, s) := by
  rw [render, RenderSettings.check_eq_error_iff.2 h]

theorem renderAll_append (as bs : List Parameters) : s.renderAll (as ++ bs) =
    ((s.renderAll as).1 ++ ((s.renderAll as).2.renderAll bs).1,
      ((s.renderAll as).2.renderAll bs).2) := by
  induction as generalizing s with
  | nil => rfl
  | cons a as ih => simp [renderAll, ih]

/-- A run that ends at once does not delay the end of the last one. -/
theorem latest_append_of_le {now : Duration} {run : Run} (h : run.ended ≤ now)
    (runs others : List Run) :
    (runs ++ run :: others).foldl (fun latest run => max latest run.ended) now =
      (runs ++ others).foldl (fun latest run => max latest run.ended) now := by
  obtain ⟨d, hd⟩ := exists_latest_eq now runs
  have hlatest : max (now + d) run.ended = now + d :=
    Nat.max_eq_left (Nat.le_trans h (Nat.le_add_right _ _))
  rw [List.foldl_append, List.foldl_append, List.foldl_cons, hd, hlatest]

theorem callsInOrder_append_of_nil {run : Run} (h : run.calls = []) (runs others : List Run) :
    callsInOrder (runs ++ run :: others) = callsInOrder (runs ++ others) := by
  simp [callsInOrder, h]

/-- Among requests that start together, a rejected one fails and is not noticed otherwise. -/
theorem serve_of_rejects (h : s.settings.render.Rejects p error) (before after : List Parameters) :
    ∃ outcomes, (s.serve (before ++ after)).1 = (s.serve before).1 ++ outcomes ∧
      s.serve (before ++ p :: after) =
        ((s.serve before).1 ++ .failed error :: outcomes, (s.serve (before ++ after)).2) := by
  have hp : (s.renderAll before).2.render p =
      (⟨.failed error, s.now, []⟩, (s.renderAll before).2) := by
    rw [render_of_rejects _ (by rwa [settings_renderAll]), now_renderAll]
  have hnow : ((s.renderAll before).2.renderAll after).2.now = s.now := by
    rw [now_renderAll, now_renderAll]
  refine ⟨((s.renderAll before).2.renderAll after).1.map (·.outcome), ?_, ?_⟩
  · simp [serve, renderAll_append]
  · simp only [serve, renderAll_append, renderAll, hp, List.map_append, List.map_cons]
    rw [callsInOrder_append_of_nil rfl, latest_append_of_le (Nat.le_of_eq hnow.symm)]

/-- A request with a fault fails with the error of its range, or else of its first target that
cannot be parsed, or else of its first target with a call that cannot be made. Nothing is fetched,
and the service is the same as before. Among requests that start together, the other ones are
answered as they are without it, and leave the service as they do without it. -/
theorem serve_of_faulty (h : s.settings.render.Faulty p) :
    ∃ error, s.settings.render.Rejects p error ∧
      (∀ other, s.settings.render.Rejects p other → other = error) ∧
      s.serveOne p = (.failed error, [], s) ∧
      ∀ before after, ∃ outcomes,
        (s.serve (before ++ after)).1 = (s.serve before).1 ++ outcomes ∧
          s.serve (before ++ p :: after) =
            ((s.serve before).1 ++ .failed error :: outcomes, (s.serve (before ++ after)).2) := by
  obtain ⟨error, hrejects⟩ := RenderSettings.exists_rejects h
  refine ⟨error, hrejects, fun other hother => ?_, ?_, s.serve_of_rejects hrejects⟩
  · have hcheck := RenderSettings.check_eq_error_iff.2 hrejects
    exact Except.error.inj ((RenderSettings.check_eq_error_iff.2 hother).symm.trans hcheck)
  · rw [serveOne, s.render_of_rejects hrejects]
    dsimp only
    rw [Nat.max_self]
    rfl

/-- A request for a function that does not exist, and for a text that is no target. -/
def doublyFaulty : Parameters := ⟨"acme", ["nosuch(a)", "a("], 0, 3, .json⟩

/-- It fails because of the text, although the other target comes first. -/
theorem serve_of_faulty_secondTarget :
    (inMemory .standard).settings.render.Faulty doublyFaulty ∧
      (inMemory .standard).serveOne doublyFaulty =
        (.failed (.invalidParameter (.target ⟨"a(", ⟨2, .missingParen⟩⟩)), [],
          inMemory .standard) := by
  have hfirst : Target.parse 128 "nosuch(a)" = .ok (.call "nosuch" [.selector "a"]) :=
    parse_text_of_wellFormed (e := .call "nosuch" [.selector "a"])
      ⟨rfl, wellFormed_probe, trivial⟩ (by decide)
  have hlexes : Lexes 0 ("a".toList ++ ['(']) [⟨.word "a", 0⟩, ⟨.openParen, 1⟩] :=
    lexes_word wellFormed_probe.1 (stopsWord_cons.2 rfl) (.mark rfl (.done _))
  have hlex : lexFrom 0 "a(".toList = _ := lexFrom_of_lexes hlexes
  have hsecond : Target.parse 128 "a(" = .error ⟨"a(", ⟨2, .missingParen⟩⟩ := by
    rw [Target.parse, lex, hlex]
    rfl
  have hfaulty : (inMemory .standard).settings.render.Faulty doublyFaulty :=
    .inr ⟨"a(", by simp [doublyFaulty], .inl ⟨_, hsecond⟩⟩
  have hrejects : (inMemory .standard).settings.render.Rejects doublyFaulty
      (.invalidParameter (.target ⟨"a(", ⟨2, .missingParen⟩⟩)) := by
    refine .target (by decide) (List.singleton_append.symm : _ = ["nosuch(a)"] ++ "a(" :: []) ?_
      hsecond
    exact List.forall_mem_singleton.2 ⟨_, hfirst⟩
  obtain ⟨error, -, honly, hserve, -⟩ := serve_of_faulty _ hfaulty
  rw [← honly _ hrejects] at hserve
  exact ⟨hfaulty, hserve⟩

end Service

end SeriesRender
