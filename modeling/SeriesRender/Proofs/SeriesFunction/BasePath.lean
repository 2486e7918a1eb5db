import Mathlib.Data.List.TakeWhile
import SeriesRender.Proofs.NumberText
import SeriesRender.Proofs.SeriesFunction.DerivedName
import SeriesRender.Proofs.Target.Occurrence

/-!
# The path at the heart of a name

`basePath` looks for the path behind the last opening parenthesis of a name. A transform writes its
own parenthesis before the name, and only a comma or a closing one behind it, so it leaves the base
path as it is (`Renaming.basePath_derivedName`). A legend writes its parentheses behind the name, and
the base path is the text of its last statistic from then on (`Renaming.basePath_legend`).

`basePath_evaluate_stack` puts the two together : the base path is the path that a series was fetched
under if the stack has no legend, and otherwise only if the path happens to be what the outermost
legend says last.
-/

namespace SeriesRender

open Target

/-! ## Base paths -/

theorem takeWhile_append_cons_of_neg {α : Type} {p : α → Bool} {x : α} (hx : p x = false)
    (before after : List α) : (before ++ x :: after).takeWhile p = before.takeWhile p := by
  induction before with
  | nil => exact List.takeWhile_cons_of_neg (by simp [hx])
  | cons y before ih =>
    rw [List.cons_append, List.takeWhile_cons, List.takeWhile_cons, ih]

namespace Renaming

/-- Nothing before an opening parenthesis matters. -/
theorem basePath_append_open (before cs : List Char) :
    basePath (before ++ '(' :: cs) = basePath cs := by
  have hreverse : (before ++ '(' :: cs).reverse = cs.reverse ++ '(' :: before.reverse := by simp
  rw [basePath, hreverse, takeWhile_append_cons_of_neg rfl]
  rfl

/-- Nothing from a comma or a closing parenthesis on matters, unless another parenthesis is opened
there. -/
theorem basePath_append {after : List Char} (hopen : '(' ∉ after)
    (hhead : ∀ c ∈ after.head?, c = ',' ∨ c = ')') (cs : List Char) :
    basePath (cs ++ after) = basePath cs := by
  have hall : ∀ c ∈ after.reverse, decide (c ≠ '(') = true := by
    intro c hc
    refine decide_eq_true fun h => hopen ?_
    rwa [← h, ← List.mem_reverse]
  rw [basePath, List.reverse_append, List.takeWhile_append_of_pos hall, List.reverse_append,
    List.reverse_reverse]
  cases after with
  | nil => rw [List.append_nil, basePath]
  | cons c rest =>
    refine takeWhile_append_cons_of_neg ?_ _ rest
    rcases hhead c rfl with rfl | rfl <;> rfl

theorem basePath_of_bare {cs : List Char} (h : Bare cs) : basePath cs = cs := by
  have hopen : ∀ c ∈ cs.reverse, decide (c ≠ '(') = true := fun c hc =>
    decide_eq_true (h c (List.mem_reverse.1 hc)).1
  have hclose : ∀ c ∈ cs, (c ≠ ',' && c ≠ ')') = true := by
    intro c hc
    simp [h c hc]
  rw [basePath, List.takeWhile_eq_self_iff.2 hopen, List.reverse_reverse,
    List.takeWhile_eq_self_iff.2 hclose]

/-- A transform keeps the base path, its literals being without an opening parenthesis. -/
theorem basePath_derivedName {args : List Expr} (h : '(' ∉ literalChars args)
    (function name : String) :
    basePath (derivedName function args name).toList = basePath name.toList := by
  rw [derivedName, String.toList_ofList, basePath_append_open]
  refine basePath_append (by simp [h]) ?_ _
  unfold literalChars
  cases args.filter (·.kind ≠ .series) with
  | nil => simp
  | cons e es => simp

/-- What a legend says in parentheses for one statistic. -/
def legendText (style : NumberStyle) (s : Series) (statistic : String × Statistic) : List Char :=
  statistic.1.toList ++ ':' :: ' ' ::
    ((statistic.2.ofSeries s).elim ['N', 'o', 'n', 'e'] style.chars)

theorem legendChars_eq (style : NumberStyle) (s : Series) (statistic : String × Statistic) :
    legendChars style s statistic = [' '] ++ '(' :: (legendText style s statistic ++ [')']) := by
  obtain ⟨label, statistic⟩ := statistic
  cases hx : statistic.ofSeries s <;> simp [legendChars, legendText, hx]

theorem bare_legendText {label : String} {statistic : Statistic}
    (h : Statistic.ofName? label = some statistic) (style : NumberStyle) (s : Series) :
    Bare (legendText style s (label, statistic)) := by
  have hlabel : Bare label.toList := by
    unfold Statistic.ofName? at h
    split at h
    all_goals first | decide | cases h
  refine bare_append.2 ⟨hlabel, bare_cons.2 ⟨by decide, bare_cons.2 ⟨by decide, ?_⟩⟩⟩
  cases statistic.ofSeries s with
  | none => exact (by decide : Bare ['N', 'o', 'n', 'e'])
  | some x => exact style.bare_chars x

/-- The base path of a name with a legend is the text of its last statistic. -/
theorem basePath_legend {statistics : List (String × Statistic)} {last : String × Statistic}
    (hlast : statistics.getLast? = some last) (hknown : Statistic.ofName? last.1 = some last.2)
    (style : NumberStyle) (s : Series) (name : List Char) :
    basePath (name ++ statistics.flatMap (legendChars style s)) = legendText style s last := by
  obtain ⟨before, rfl⟩ := List.getLast?_eq_some_iff.1 hlast
  rw [List.flatMap_append, List.flatMap_singleton, legendChars_eq, ← List.append_assoc,
    ← List.append_assoc, basePath_append_open, basePath_append (by decide) (by simp)]
  exact basePath_of_bare (bare_legendText hknown style s)

/-! ## Nodes -/

/-- The nodes of a path at some indices, joined by dots, if it has them all. -/
def pathNodes? (path : List Char) (indices : List Int) : Option String :=
  (indices.mapM (nodeAt? (nodes path))).map fun picked => String.ofList (['.'].intercalate picked)

/-- Picking nodes is taking each of them. -/
theorem toOption_pick (nodes : List (List Char)) (name : String) (indices : List Int) :
    (pick nodes name indices).toOption = indices.mapM (nodeAt? nodes) := by
  induction indices with
  | nil => rfl
  | cons index rest ih =>
    rw [pick, List.mapM_cons, ← ih]
    cases nodeAt? nodes index with
    | none => rfl
    | some node => cases pick nodes name rest <;> rfl

/-- Renaming by nodes picks those of the base paths. -/
theorem names_apply_byNode {style : NumberStyle} {indices : List Int} {inputs outs : List Series}
    (h : List.Forall₂ (fun s out : Series => basePath out.name.toList = s.name.toList) inputs outs) :
    ((byNode indices).apply style outs).toOption.map (·.map Series.name) =
      inputs.mapM fun s => pathNodes? s.name.toList indices := by
  induction h with
  | nil => rfl
  | @cons s out inputs outs hpath _ ih =>
    rw [List.mapM_cons, ← ih, apply, pathNodes?, ← hpath, nameOf, ← toOption_pick _ out.name]
    cases pick (nodes (basePath out.name.toList)) out.name indices with
    | error fault => rfl
    | ok picked => cases (byNode indices).apply style outs <;> rfl

end Renaming

/-! ## Literals without parentheses -/

variable {name pattern : String} {args : List Expr} {arg e : Expr} {literals : List Literal}
  {f : SeriesFunction} {style : NumberStyle} {source : Source} {inputs middle : List Series}

theorem forall_wellFormed : ∀ {literals : List Literal},
    Expr.AllWellFormed (literals.map .literal) → ∀ l ∈ literals, l.WellFormed
  | [], _ => List.forall_mem_nil _
  | _ :: _, ⟨hl, hrest⟩ => List.forall_mem_cons.2 ⟨hl, forall_wellFormed hrest⟩

/-- Numbers that a target spells have no opening parenthesis. -/
theorem not_mem_literalChars (hk : arg.kind = .series) (hwf : ∀ l ∈ literals, l.WellFormed)
    (hnumber : ∀ l ∈ literals, l.kind = .number) :
    '(' ∉ literalChars (arg :: literals.map .literal) := by
  rw [literalChars_cons_of_series hk, ← tailChars_literals]
  induction literals with
  | nil => exact List.not_mem_nil
  | cons l literals ih =>
    rw [List.forall_mem_cons] at hwf hnumber
    have hl : '(' ∉ l.chars := by
      cases l with
      | number x text =>
        intro hopen
        rcases not_isDelimiter_or_comma_of_nests (isWord_iff.1 hwf.1.1).2 _ hopen with h | h
        · exact absurd h (by decide)
        · exact absurd h (by decide)
      | string | boolean => cases hnumber.1
    simp [Expr.tailChars, Expr.chars, hl, ih hwf.2 hnumber.2]

/-! ## Calls that decorate names -/

/-- The functions that write something around or behind the names of their series. -/
def decoratorNames : List String :=
  transformNames ++ ["legendValue"]

/-- A decorator that takes its arguments can use them. -/
theorem exists_callOperation_of_decorator (hname : name ∈ decoratorNames)
    (hf : Registry.standard.find? name = some f) (hcheck : f.check args = .ok ()) :
    ∃ o, callOperation .standard name args = .ok o := by
  have hchecked : ∀ p ∈ Registry.standard.functions, p.1 ∈ decoratorNames →
      p.2 ≠ .limit ∧ p.2 ≠ .aliasByNode := by
    decide
  obtain ⟨hlimit, hnode⟩ := hchecked _ (mem_functions_of_find? hf) hname
  rcases SeriesFunction.operation_of_check hcheck with ⟨-, o, ho⟩ | ⟨fault, hfault, -⟩
  · exact ⟨o, callOperation_eq_ok_iff.2 ⟨f, hf, hcheck, ho⟩⟩
  · rcases SeriesFunction.eq_of_literalFault? hfault with ⟨h, -⟩ | ⟨h, -⟩
    · exact absurd h hlimit
    · exact absurd h hnode

/-- A transform takes numbers beside its series. -/
theorem kind_of_transform (hname : name ∈ transformNames)
    (hf : Registry.standard.find? name = some f)
    (hcheck : f.check (arg :: literals.map .literal) = .ok ()) :
    ∀ l ∈ literals, l.kind = .number := by
  have hsignatures : ∀ p ∈ Registry.standard.functions, p.1 ∈ transformNames →
      p.2.signature.variadic = none ∧
        ∀ kind ∈ (p.2.signature.required ++ p.2.signature.optional).tail, kind = .number := by
    decide
  obtain ⟨hvariadic, hkinds⟩ := hsignatures _ (mem_functions_of_find? hf) hname
  intro l hl
  obtain ⟨i, hi⟩ := List.mem_iff_getElem?.1 hl
  have harg : (arg :: literals.map Expr.literal)[i + 1]? = some (.literal l) := by
    simp [hi]
  have hkind := Signature.kindAt?_of_check (SeriesFunction.signature_check_of_check hcheck) harg
  rw [Signature.kindAt?, hvariadic, Option.or_none, ← List.getElem?_tail] at hkind
  exact hkinds _ (List.mem_of_getElem? hkind)

/-- A statistic of a legend is one that has a name. -/
theorem ofName?_of_mem_statistics {statistic : String × Statistic}
    (h : statistic ∈ SeriesFunction.statistics args) :
    Statistic.ofName? statistic.1 = some statistic.2 := by
  obtain ⟨label, -, hlabel⟩ := List.mem_filterMap.1 h
  obtain ⟨s, hs, rfl⟩ := Option.map_eq_some_iff.1 hlabel
  exact hs

/-- A legend has a last statistic. -/
theorem exists_getLast?_statistics
    (hcheck : SeriesFunction.legendValue.check (arg :: literals.map .literal) = .ok ()) :
    ∃ last, (SeriesFunction.statistics (literals.map .literal)).getLast? = some last := by
  have hsignature := SeriesFunction.signature_check_of_check hcheck
  obtain ⟨first, hfirst, hkind⟩ := Signature.exists_arg_of_check hsignature (Nat.le_refl 2) rfl
  cases literals with
  | nil => cases hfirst
  | cons l literals =>
    obtain rfl := Option.some.inj hfirst
    obtain ⟨label, hlabel⟩ := exists_asString? hkind
    obtain ⟨_, -, hstatistics⟩ := bind_eq_ok_iff.1 hcheck
    rw [List.map_cons, List.tail_cons, SeriesFunction.checkStatistics, hlabel,
      Option.getD_some] at hstatistics
    split_ifs at hstatistics with hknown
    obtain ⟨s, hs⟩ := Option.isSome_iff_exists.1 hknown
    have hmem : (label, s) ∈ SeriesFunction.statistics ((l :: literals).map .literal) := by
      rw [SeriesFunction.statistics, List.map_cons, List.filterMap_cons_some hlabel]
      exact List.mem_filterMap.2 ⟨label, List.mem_cons_self, by rw [hs]; rfl⟩
    exact ⟨_, List.getLast?_eq_some_getLast (List.ne_nil_of_mem hmem)⟩

/-! ## The base paths of a stack -/

/-- What the outermost legend of a stack says last about the series at an index. -/
def Target.Expr.lastLegend? (c : Context) (index : Nat) : Expr → Option (List Char)
  | .call name (arg :: literals) =>
    if name = "legendValue" then do
      let series ← (evaluate c arg).result.toOption
      let s ← series[index]?
      let last ← (SeriesFunction.statistics literals).getLast?
      return Renaming.legendText c.style s last
    else arg.lastLegend? c index
  | _ => none

/-- A stack of calls, by the last of them. -/
theorem Stack.call_iff {functions : List String} :
    Stack functions pattern (.call name (arg :: literals.map .literal)) ↔
      name ∈ functions ∧ Stack functions pattern arg := by
  constructor
  · generalize hx : Expr.call name (arg :: literals.map .literal) = x
    rintro (_ | ⟨_, hname, harg⟩)
    · cases hx
    · obtain ⟨rfl, hargs⟩ := Expr.call.inj hx
      obtain ⟨rfl, -⟩ := List.cons.inj hargs
      exact ⟨hname, harg⟩
  · rintro ⟨hname, harg⟩
    exact .call literals hname harg

/-- A transform of a stack keeps the base paths. -/
theorem result_evaluate_transform (hname : name ∈ transformNames) (hk : arg.kind = .series)
    (hwf : ∀ l ∈ literals, l.WellFormed) (hf : Registry.standard.find? name = some f)
    (hcheck : f.check (arg :: literals.map .literal) = .ok ())
    (hmiddle : (evaluate ⟨.standard, style, source⟩ arg).result = .ok middle) :
    ∃ change : Series → Series,
      (evaluate ⟨.standard, style, source⟩ (.call name (arg :: literals.map .literal))).result =
        .ok (middle.map change) ∧
      ∀ s, Renaming.basePath (change s).name.toList = Renaming.basePath s.name.toList := by
  obtain ⟨o, ho⟩ := exists_callOperation_of_decorator (List.mem_append_left _ hname) hf hcheck
  obtain ⟨t, rfl, -, -⟩ := exists_transform_of_callOperation hname ho
  have hopen := not_mem_literalChars hk hwf (kind_of_transform hname hf hcheck)
  refine ⟨fun s => { s with
    name := derivedName name (arg :: literals.map .literal) s.name,
    samples := t.samples s.samples }, ?_, fun s => Renaming.basePath_derivedName hopen name s.name⟩
  rw [result_evaluate_call_of_ok ho, result_evaluateSeries_cons hk kind_of_mem_literals, hmiddle]
  rfl

/-- A legend makes what it says last the base path. -/
theorem result_evaluate_legend (hk : arg.kind = .series)
    (hcheck : SeriesFunction.legendValue.check (arg :: literals.map .literal) = .ok ())
    (hmiddle : (evaluate ⟨.standard, style, source⟩ arg).result = .ok middle) :
    ∃ (change : Series → Series) (last : String × Statistic),
      (evaluate ⟨.standard, style, source⟩
        (.call "legendValue" (arg :: literals.map .literal))).result = .ok (middle.map change) ∧
      (SeriesFunction.statistics (literals.map .literal)).getLast? = some last ∧
      ∀ s, Renaming.basePath (change s).name.toList = Renaming.legendText style s last := by
  obtain ⟨last, hlast⟩ := exists_getLast?_statistics hcheck
  have hknown := ofName?_of_mem_statistics (List.mem_of_getLast? hlast)
  have ho : callOperation .standard "legendValue" (arg :: literals.map .literal) =
      .ok (.rename (.legend (SeriesFunction.statistics (literals.map .literal)))) :=
    callOperation_eq_ok_iff.2 ⟨.legendValue, rfl, hcheck, rfl⟩
  generalize SeriesFunction.statistics (literals.map .literal) = statistics at hlast ho
  let named (s : Series) :=
    String.ofList (s.name.toList ++ statistics.flatMap (Renaming.legendChars style s))
  have happly : (Renaming.legend statistics).apply style middle =
      .ok (middle.map fun s => s.rename (named s)) := by
    rw [Renaming.apply_eq_mapM]
    exact List.mapM_pure
  refine ⟨fun s => s.rename (named s), last, ?_, hlast, fun s => ?_⟩
  · rw [result_evaluate_call_of_ok ho, result_evaluateSeries_cons hk kind_of_mem_literals, hmiddle]
    exact mapError_eq_ok_iff.2 happly
  · change Renaming.basePath (named s).toList = _
    rw [String.toList_ofList]
    exact Renaming.basePath_legend hlast hknown style s s.name.toList

/-- A valid stack yields a series for each fetched one. The base path of its name is what the
outermost legend says last, or else the path that the series was fetched under. -/
theorem Stack.basePath_evaluate (h : Stack decoratorNames pattern e) (he : e.WellFormed)
    (hvalid : validate .standard e = .ok ()) (hinputs : (source pattern).series = .ok inputs) :
    ∃ outs, (evaluate ⟨.standard, style, source⟩ e).result = .ok outs ∧
      outs.length = inputs.length ∧
      ∀ (i : Nat) (s : Series), inputs[i]? = some s → Bare s.name.toList →
        let last := e.lastLegend? ⟨.standard, style, source⟩ i
        ∃ out, outs[i]? = some out ∧
          Renaming.basePath out.name.toList = last.getD s.name.toList ∧
          (last = none ↔ Stack transformNames pattern e) := by
  induction h with
  | selector =>
    refine ⟨inputs, by rw [result_evaluate_selector, hinputs]; rfl, rfl, fun i s hs hbare => ?_⟩
    exact ⟨s, hs, Renaming.basePath_of_bare hbare, iff_of_true rfl .selector⟩
  | @call name arg literals hname hstack ih =>
    obtain ⟨f, hf, hcheck, hcalls⟩ := validate_call_eq_ok_iff.1 hvalid
    have hk := hstack.kind
    obtain ⟨middle, hmiddle, hlength, hpaths⟩ :=
      ih he.2.1 (validateCalls_eq_ok_iff.1 hcalls arg List.mem_cons_self hk)
    by_cases hlegend : name = "legendValue"
    · -- This legend is the outermost one, and what is inside does not matter for the base path.
      subst hlegend
      obtain rfl : .legendValue = f := Option.some.inj hf
      obtain ⟨change, last, hresult, hlast, hchange⟩ :=
        result_evaluate_legend hk hcheck hmiddle
      refine ⟨_, hresult, by rw [List.length_map, hlength], fun i s hs hbare => ?_⟩
      obtain ⟨t, ht, -⟩ := hpaths i s hs hbare
      have hsome : Expr.lastLegend? ⟨.standard, style, source⟩ i
          (.call "legendValue" (arg :: literals.map .literal)) =
          some (Renaming.legendText style t last) := by
        simp [Expr.lastLegend?, hmiddle, Except.toOption, ht, hlast]
      refine ⟨change t, by rw [List.getElem?_map, ht]; rfl, ?_, ?_⟩
      · rw [hsome]
        exact hchange t
      · rw [hsome, Stack.call_iff]
        exact iff_of_false (fun h => by cases h) fun h => absurd h.1 (by decide)
    · have htransform : name ∈ transformNames := by
        simpa [decoratorNames, hlegend] using hname
      obtain ⟨change, hresult, hchange⟩ :=
        result_evaluate_transform htransform hk (forall_wellFormed he.2.2) hf hcheck hmiddle
      refine ⟨_, hresult, by rw [List.length_map, hlength], fun i s hs hbare => ?_⟩
      obtain ⟨t, ht, hpath, hnone⟩ := hpaths i s hs hbare
      refine ⟨change t, by rw [List.getElem?_map, ht]; rfl, ?_, ?_⟩
      · rw [hchange, hpath, Expr.lastLegend?, if_neg hlegend]
      · rw [Expr.lastLegend?, if_neg hlegend, hnone, Stack.call_iff]
        exact (and_iff_right htransform).symm

/-- Over series whose base paths are the names of others, `aliasByNode` picks the nodes of these. -/
theorem result_evaluate_aliasByNode {outs : List Series} {numbers : List (Float × String)}
    (hk : e.kind = .series) (houts : (evaluate ⟨.standard, style, source⟩ e).result = .ok outs)
    (hpaths : List.Forall₂ (fun s out : Series =>
      Renaming.basePath out.name.toList = s.name.toList) inputs outs)
    (hne : numbers ≠ []) (hintegers : ∀ n ∈ numbers, Decimal.IsInteger n.1) :
    (evaluate ⟨.standard, style, source⟩
        (.call "aliasByNode" (e :: indexLiterals numbers))).result.toOption.map
          (·.map Series.name) =
      inputs.mapM fun s =>
        Renaming.pathNodes? s.name.toList (numbers.map fun n => Decimal.wholePart n.1) := by
  have hindices : SeriesFunction.nodeIndices (indexLiterals numbers) =
      .ok (numbers.map fun n => Decimal.wholePart n.1) := by
    cases h : SeriesFunction.nodeIndices (indexLiterals numbers) with
    | ok indices => rw [SeriesFunction.eq_of_nodeIndices h]
    | error fault =>
      obtain ⟨n, hn, hfraction⟩ := SeriesFunction.nodeIndices_eq_error_iff.1 ⟨fault, h⟩
      exact absurd (hintegers n hn) hfraction
  have ho : callOperation .standard "aliasByNode" (e :: indexLiterals numbers) =
      .ok (.rename (.byNode (numbers.map fun n => Decimal.wholePart n.1))) :=
    callOperation_eq_ok_iff.2 ⟨.aliasByNode, rfl, check_aliasByNode hk hne,
      map_eq_ok_iff.2 ⟨_, hindices, rfl⟩⟩
  have hnumbers : ∀ l ∈ indexLiterals numbers, l.kind ≠ .series := by
    intro l hl
    simp [kind_of_mem_indexLiterals l hl]
  rw [result_evaluate_call_of_ok ho, result_evaluateSeries_cons hk hnumbers, houts,
    ← Renaming.names_apply_byNode hpaths]
  change ((Renaming.apply style _ outs).mapError _).toOption.map _ = _
  cases Renaming.apply style _ outs <;> rfl

/-- A valid stack of transforms and legends names a series so that the base path is the path that
the series was fetched under, exactly if the stack has no legend, or the path is what the outermost
legend says last. Over a stack without legends, `aliasByNode` picks the nodes of these paths. -/
theorem basePath_evaluate_stack (style : NumberStyle) (source : Source) {pattern : String} {e : Expr}
    {inputs : List Series} (h : Stack decoratorNames pattern e) (he : e.WellFormed)
    (hvalid : validate .standard e = .ok ()) (hinputs : (source pattern).series = .ok inputs) :
    (∃ outs, (evaluate ⟨.standard, style, source⟩ e).result = .ok outs ∧
      outs.length = inputs.length ∧
      ∀ (i : Nat) (s : Series), inputs[i]? = some s → Bare s.name.toList →
        let last := e.lastLegend? ⟨.standard, style, source⟩ i
        ∃ out, outs[i]? = some out ∧
          Renaming.basePath out.name.toList = last.getD s.name.toList ∧
          (Renaming.basePath out.name.toList = s.name.toList ↔
            Stack transformNames pattern e ∨ last = some s.name.toList)) ∧
    (Stack transformNames pattern e → (∀ s ∈ inputs, Bare s.name.toList) →
      ∀ numbers : List (Float × String), numbers ≠ [] →
        (∀ n ∈ numbers, Decimal.IsInteger n.1) →
        (evaluate ⟨.standard, style, source⟩
            (.call "aliasByNode" (e :: indexLiterals numbers))).result.toOption.map
              (·.map Series.name) =
          inputs.mapM fun s =>
            Renaming.pathNodes? s.name.toList (numbers.map fun n => Decimal.wholePart n.1)) := by
  obtain ⟨outs, houts, hlength, hpaths⟩ := h.basePath_evaluate he hvalid hinputs
  refine ⟨⟨outs, houts, hlength, fun i s hs hbare => ?_⟩,
    fun hstack hbare numbers hne hintegers => ?_⟩
  · obtain ⟨out, hout, hpath, hnone⟩ := hpaths i s hs hbare
    refine ⟨out, hout, hpath, ?_⟩
    rw [hpath, ← hnone]
    cases e.lastLegend? ⟨.standard, style, source⟩ i <;> simp
  · refine result_evaluate_aliasByNode h.kind houts ?_ hne hintegers
    refine List.forall₂_iff_get.2 ⟨hlength.symm, fun i hi hi' => ?_⟩
    obtain ⟨out, hout, hpath, hnone⟩ :=
      hpaths i _ (List.getElem?_eq_getElem hi) (hbare _ (List.getElem_mem hi))
    rw [hnone.2 hstack, Option.getD_none] at hpath
    obtain rfl := Option.some.inj ((List.getElem?_eq_getElem hi').symm.trans hout)
    exact hpath

/-- A legend for the last sample. -/
def legendOfLast : Expr :=
  .call "legendValue" [.selector "a.b", .literal (.string "last" '\'')]

theorem stack_legendOfLast : Stack decoratorNames "a.b" legendOfLast :=
  .call [.string "last" '\''] (by decide) .selector

theorem wellFormed_legendOfLast : legendOfLast.WellFormed := by
  have hquoted : (Expr.literal (.string "last" '\'')).WellFormed :=
    (by decide : isQuote '\'' = true)
  exact ⟨rfl, wellFormed_selector_gappy, hquoted, trivial⟩

/-- Through two transforms, the path and its nodes are found. Behind a legend that says that the last
sample is 3, the base path is "last: 3". -/
theorem basePath_evaluate_stack_gappy :
    let plain : Expr := .call "scale"
      [.call "absolute" [.selector "a.b"], .literal (.number 2.0 "2")]
    (∃ out, (evaluate ⟨.standard, .machine, gappySource⟩ plain).result = .ok [out] ∧
      Renaming.basePath out.name.toList = ['a', '.', 'b']) ∧
    (evaluate ⟨.standard, .machine, gappySource⟩
        (.call "aliasByNode" [plain, .literal (.number (-1.0) "-1")])).result.toOption.map
          (·.map Series.name) = some ["b"] ∧
    ∃ out, (evaluate ⟨.standard, .machine, gappySource⟩ legendOfLast).result = .ok [out] ∧
      Renaming.basePath out.name.toList = "last: 3".toList := by
  intro plain
  have hstack : ∀ functions, "scale" ∈ functions → "absolute" ∈ functions →
      Stack functions "a.b" plain := fun functions hscale habsolute =>
    .call [.number 2.0 "2"] hscale (.call [] habsolute .selector)
  have htwo : (Expr.literal (.number 2.0 "2")).WellFormed :=
    ⟨isWord_iff.2 (by decide), classifyWord_of_some (by decide) (by decide) (by decide +kernel)⟩
  have hbare : Bare gappy.name.toList := by decide
  have hinteger : Decimal.IsInteger (-1.0) := Decimal.isWhole_iff.1 (by decide +kernel)
  obtain ⟨⟨outs, houts, hlength, hpaths⟩, hnodes⟩ := basePath_evaluate_stack .machine gappySource
    (hstack decoratorNames (by decide) (by decide))
    ⟨rfl, ⟨rfl, wellFormed_selector_gappy, trivial⟩, htwo, trivial⟩ rfl rfl
  obtain ⟨⟨legends, hlegends, hone, hlegendPaths⟩, -⟩ := basePath_evaluate_stack .machine
    gappySource stack_legendOfLast wellFormed_legendOfLast rfl rfl
  have hplain := hstack transformNames (by decide) (by decide)
  refine ⟨?_, ?_, ?_⟩
  · obtain ⟨out, rfl⟩ := List.length_eq_one_iff.1 hlength
    obtain ⟨out', hout, -, hiff⟩ := hpaths 0 gappy rfl hbare
    obtain rfl := Option.some.inj hout
    exact ⟨out, houts, hiff.2 (Or.inl hplain)⟩
  · refine (hnodes hplain (List.forall_mem_singleton.2 hbare) [(-1.0, "-1")]
      (List.cons_ne_nil _ _) (List.forall_mem_singleton.2 hinteger)).trans ?_
    decide +kernel
  · obtain ⟨out, rfl⟩ := List.length_eq_one_iff.1 hone
    obtain ⟨out', hout, hlast, -⟩ := hlegendPaths 0 gappy rfl hbare
    obtain rfl := Option.some.inj hout
    refine ⟨out, hlegends, hlast.trans ?_⟩
    decide +kernel

/-- The base path behind a legend is not the path. -/
theorem exists_basePath_ne :
    ∃ (e : Expr) (out : Series), Stack decoratorNames "a.b" e ∧ e.WellFormed ∧
      (gappySource "a.b").series = .ok [gappy] ∧ Bare gappy.name.toList ∧
      (evaluate ⟨.standard, .machine, gappySource⟩ e).result = .ok [out] ∧
      Renaming.basePath out.name.toList ≠ gappy.name.toList := by
  refine ⟨legendOfLast, _, stack_legendOfLast, wellFormed_legendOfLast, rfl, by decide, rfl, ?_⟩
  decide +kernel

end SeriesRender
