import SeriesRender.Proofs.SeriesFunction.Filter

/-!
# Derived names

A `Stack` is an expression that applies one function after the other to what one selector fetches,
and takes literals beside it. A transform gives each series a name that is put together from the
name it had and from the literals of the call; a filter gives no name. Put together or written, it
is the same text (`derivedName_text`), so the name of a series that comes out of a stack is the text
of an expression : that of the stack without its filters, with the name of the fetched series in
place of the selector (`Expr.derivedFrom`). The parser reads it back as this expression, if the
fetched name is read as a selector.
-/

namespace SeriesRender

open Target

/-! ## Stacks -/

/-- Calls of these functions, one around the other, the innermost one around a selector; their other
arguments are literals. -/
inductive Stack (functions : List String) (pattern : String) : Expr → Prop
  | selector : Stack functions pattern (.selector pattern)
  | call {name : String} {arg : Expr} (literals : List Literal) : name ∈ functions →
      Stack functions pattern arg →
      Stack functions pattern (.call name (arg :: literals.map .literal))

variable {functions : List String} {pattern name : String} {e arg : Expr} {args : List Expr}
  {literals : List Literal} {o : Operation} {c : Context} {outs : List Series}

theorem Stack.kind (h : Stack functions pattern e) : e.kind = .series := by
  cases h <;> rfl

theorem kind_literal_ne (l : Literal) : (Expr.literal l).kind ≠ .series := by
  cases l <;> exact fun h => by cases h

theorem kind_of_mem_literals : ∀ l ∈ literals.map Expr.literal, l.kind ≠ .series :=
  List.forall_mem_map.2 fun l _ => kind_literal_ne l

/-- A call with one series that evaluates has an operation, and its argument evaluates too. -/
theorem exists_of_evaluate_call (hk : arg.kind = .series)
    (h : (evaluate c (.call name (arg :: literals.map .literal))).result = .ok outs) :
    ∃ o inputs, callOperation c.registry name (arg :: literals.map .literal) = .ok o ∧
      (evaluate c arg).result = .ok inputs ∧
      o.apply c.style name (arg :: literals.map .literal) inputs = .ok outs := by
  rw [result_evaluate_call] at h
  obtain ⟨o, ho, h⟩ := bind_eq_ok_iff.1 h
  rw [result_evaluateSeries_cons hk kind_of_mem_literals] at h
  obtain ⟨inputs, hinputs, h⟩ := bind_eq_ok_iff.1 h
  exact ⟨o, inputs, ho, hinputs, h⟩

/-- A call of one of `filterNames` has a filter as its operation. -/
theorem exists_filter_of_callOperation (hname : name ∈ filterNames)
    (h : callOperation .standard name args = .ok o) : ∃ f : Filter, o = .filter f := by
  obtain ⟨g, hg, -, ho⟩ := callOperation_eq_ok_iff.1 h
  simp only [filterNames, List.mem_cons, List.not_mem_nil, or_false] at hname
  rcases hname with rfl | rfl | rfl | rfl | rfl | rfl | rfl
  all_goals
    obtain rfl := Option.some.inj hg
    obtain ⟨_, -, rfl⟩ := map_eq_ok_iff.1 ho
    exact ⟨_, rfl⟩

/-! ## The expression that a name spells -/

/-- The expression without its filters, and with this path in place of its selector. -/
def Target.Expr.derivedFrom (path : String) : Expr → Expr
  | .selector _ => .selector path
  | .literal l => .literal l
  | .call name [] => .call name []
  | .call name (arg :: literals) =>
    if name ∈ filterNames then arg.derivedFrom path
    else .call name (arg.derivedFrom path :: literals)

/-- An argument that is a series is left out of the literals of a name. -/
theorem literalChars_cons_of_series (h : arg.kind = .series) (args : List Expr) :
    literalChars (arg :: args) = literalChars args := by
  rw [literalChars, List.filter_cons_of_neg (by simp [h])]
  rfl

/-- Literals behind the first argument are written as in a list of literals. -/
theorem tailChars_literals : Expr.tailChars (literals.map .literal) =
    literalChars (literals.map .literal) := by
  induction literals with
  | nil => rfl
  | cons l literals ih =>
    rw [List.map_cons, Expr.tailChars, ih, literalChars, literalChars,
      List.filter_cons_of_pos (by simpa using kind_literal_ne l), List.flatMap_cons]
    rfl

/-- A name that is put together around the text of an expression is the text of the call. -/
theorem derivedName_text (h : arg.kind = .series) (name : String) (e : Expr) :
    derivedName name (arg :: literals.map .literal) e.text =
      (Expr.call name (e :: literals.map .literal)).text := by
  rw [derivedName, literalChars_cons_of_series h, ← tailChars_literals, Expr.text, Expr.text,
    String.toList_ofList, Expr.chars, Expr.listChars, List.append_assoc]

namespace Stack

/-- The name over another path is no deeper than the tree. -/
theorem depth_derivedFrom_le (h : Stack functions pattern e) (path : String) :
    (e.derivedFrom path).depth ≤ e.depth := by
  induction h with
  | selector => exact Nat.le_refl _
  | @call name arg literals hname _ ih =>
    rw [Expr.derivedFrom]
    split
    · exact ih.trans ((Nat.le_max_left ..).trans (Nat.le_succ _))
    · simp only [Expr.depth, Expr.listDepth]
      omega

theorem wellFormed_derivedFrom (h : Stack functions pattern e) (he : e.WellFormed) {path : String}
    (hpath : (Expr.selector path).WellFormed) : (e.derivedFrom path).WellFormed := by
  induction h with
  | selector => exact hpath
  | @call name arg literals hname _ ih =>
    obtain ⟨hid, harg, hliterals⟩ := he
    rw [Expr.derivedFrom]
    split
    · exact ih harg
    · exact ⟨hid, ih harg, hliterals⟩

end Stack

/-! ## The series that come out of a stack -/

/-- The series that come out of a stack are fetched ones, with the names that the stack derives from
theirs, and the samples changed. -/
theorem Stack.exists_sublist_of_evaluate {style : NumberStyle} {source : Source}
    {inputs : List Series} (h : Stack (transformNames ++ filterNames) pattern e)
    (hinputs : (source pattern).series = .ok inputs)
    (houts : (evaluate ⟨.standard, style, source⟩ e).result = .ok outs) :
    ∃ (kept : List Series) (change : List (Option Float) → List (Option Float)),
      kept.Sublist inputs ∧ outs = kept.map fun s => { s with
        name := (e.derivedFrom s.name).text, samples := change s.samples } := by
  induction h generalizing outs with
  | selector =>
    rw [result_evaluate_selector, hinputs] at houts
    obtain rfl := Except.ok.inj houts
    refine ⟨inputs, id, List.Sublist.refl inputs, ?_⟩
    simp [Expr.derivedFrom, Expr.text, Expr.chars]
  | @call name arg literals hname hstack ih =>
    obtain ⟨o, middle, ho, hmiddle, happly⟩ := exists_of_evaluate_call hstack.kind houts
    obtain ⟨kept, change, hkept, rfl⟩ := ih hmiddle
    by_cases hfilter : name ∈ filterNames
    · obtain ⟨f, rfl⟩ := exists_filter_of_callOperation hfilter ho
      obtain rfl := Except.ok.inj happly
      obtain ⟨fewer, hfewer, heq⟩ := List.sublist_map_iff.1 (f.sublist_apply _)
      simp only [Expr.derivedFrom, if_pos hfilter]
      exact ⟨fewer, change, hfewer.trans hkept, heq⟩
    · have htransform := (List.mem_append.1 hname).resolve_right hfilter
      obtain ⟨t, rfl, -, -⟩ := exists_transform_of_callOperation htransform ho
      obtain rfl := Except.ok.inj happly
      simp only [Expr.derivedFrom, if_neg hfilter]
      refine ⟨kept, fun xs => t.samples (change xs), hkept, ?_⟩
      rw [Transform.apply, List.map_map]
      simp only [Function.comp_def, derivedName_text hstack.kind]

/-- A stack of transforms and filters names each series that comes out of it by the text of an
expression : that of the stack without its filters, around the name that the series was fetched
under. If this name is read as a selector, and the stack is an expression that a target spells, the
parser reads the derived name as this expression, at every limit that the stack respects. -/
theorem names_evaluate_stack (style : NumberStyle) (source : Source) {pattern : String} {e : Expr}
    {inputs outs : List Series} (h : Stack (transformNames ++ filterNames) pattern e)
    (hinputs : (source pattern).series = .ok inputs)
    (houts : (evaluate ⟨.standard, style, source⟩ e).result = .ok outs) :
    ∃ (kept : List Series) (change : List (Option Float) → List (Option Float)),
      kept.Sublist inputs ∧
      (outs = kept.map fun s => { s with
        name := (e.derivedFrom s.name).text, samples := change s.samples }) ∧
      (e.WellFormed → ∀ limit, e.depth ≤ limit → ∀ s ∈ kept, (Expr.selector s.name).WellFormed →
        parse limit (e.derivedFrom s.name).text = .ok (e.derivedFrom s.name)) := by
  obtain ⟨kept, change, hkept, rfl⟩ := h.exists_sublist_of_evaluate hinputs houts
  refine ⟨kept, change, hkept, rfl, fun he limit hlimit s _ hs => ?_⟩
  exact parse_text_of_wellFormed (h.wellFormed_derivedFrom he hs)
    ((h.depth_derivedFrom_le s.name).trans hlimit)

theorem wellFormed_selector_gappy : (Expr.selector gappy.name).WellFormed :=
  ⟨isWord_iff.2 (by decide), classifyWord_of_none (by decide) (by decide) (by decide)⟩

/-- A filter under a transform leaves no trace in the name, and the number keeps its spelling. -/
theorem names_evaluate_stack_scaledLimit :
    let e : Expr := .call "scale" [.call "limit" [.selector "a.*", .literal (.number 1.0 "1")],
      .literal (.number 0.5 "0.50")]
    ∃ out, (evaluate ⟨.standard, .machine, gappySource⟩ e).result = .ok [out] ∧
      out.name = "scale(a.b,0.50)" ∧
      parse 2 out.name =
        .ok (.call "scale" [.selector "a.b", .literal (.number 0.5 "0.50")]) := by
  intro e
  have hstack : Stack (transformNames ++ filterNames) "a.*" e :=
    .call [.number 0.5 "0.50"] (by decide) (.call [.number 1.0 "1"] (by decide) .selector)
  have hresult : (evaluate ⟨.standard, .machine, gappySource⟩ e).result = .ok [_] := rfl
  obtain ⟨kept, change, hkept, houts, hparse⟩ :=
    names_evaluate_stack .machine gappySource hstack rfl hresult
  obtain ⟨s, rfl⟩ : ∃ s, kept = [s] :=
    List.length_eq_one_iff.1 ((List.length_map _).symm.trans (congrArg List.length houts.symm))
  obtain rfl : s = gappy := List.mem_singleton.1 (hkept.subset List.mem_cons_self)
  have hname := congrArg Series.name (List.cons.inj houts).1
  have htext : (e.derivedFrom gappy.name).text = "scale(a.b,0.50)" := by decide
  have hpattern : (Expr.selector "a.*").WellFormed :=
    ⟨isWord_iff.2 (by decide), classifyWord_of_none (by decide) (by decide) (by decide)⟩
  have hone : (Expr.literal (.number 1.0 "1")).WellFormed :=
    ⟨isWord_iff.2 (by decide),
      classifyWord_of_some (by decide) (by decide) (by decide +kernel)⟩
  have hhalf : (Expr.literal (.number 0.5 "0.50")).WellFormed :=
    ⟨isWord_iff.2 (by decide),
      classifyWord_of_some (by decide) (by decide) (by decide +kernel)⟩
  have he : e.WellFormed := ⟨rfl, ⟨rfl, hpattern, hone, trivial⟩, hhalf, trivial⟩
  have hread := hparse he 2 (by decide) gappy List.mem_cons_self wellFormed_selector_gappy
  refine ⟨_, hresult, hname.trans htext, ?_⟩
  rw [hname]
  exact hread

end SeriesRender
