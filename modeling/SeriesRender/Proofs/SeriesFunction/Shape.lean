import Mathlib.Data.List.Forall2
import SeriesRender.Proofs.Decimal.Value
import SeriesRender.Proofs.Evaluation.Grid
import SeriesRender.Proofs.Evaluation.Validation

/-!
# One series for each

Transforms and renamings work on each series on its own. What they yield is related to what they are
applied to series by series, in order (`Transform.forall₂_apply`, `Renaming.forall₂_apply`) : a
transform keeps the grid, and some of them the gaps or none; a renaming changes the name only.

A renaming by nodes fails if one of the names does not have one of the nodes
(`Renaming.apply_byNode_eq_error_iff`), or before that, if an index is no integer
(`SeriesFunction.nodeIndices_numbers`).
-/

namespace SeriesRender

open Target

/-! ## Programs made for each value -/

/-- A function that succeeds on a list gives a value for each element. -/
theorem mapM_eq_ok_iff {ε α β : Type} {f : α → Except ε β} {xs : List α} {ys : List β} :
    xs.mapM f = .ok ys ↔ List.Forall₂ (fun x y => f x = .ok y) xs ys := by
  induction xs generalizing ys with
  | nil =>
    rw [List.forall₂_nil_left_iff]
    exact ⟨fun h => (Except.ok.inj h).symm, fun h => by rw [h]; rfl⟩
  | cons x xs ih =>
    rw [List.mapM_cons, List.forall₂_cons_left_iff, bind_eq_ok_iff]
    constructor
    · rintro ⟨y, hy, h⟩
      obtain ⟨ys, hys, h⟩ := bind_eq_ok_iff.1 h
      exact ⟨y, ys, hy, ih.1 hys, (Except.ok.inj h).symm⟩
    · rintro ⟨y, ys, hy, hys, rfl⟩
      exact ⟨y, hy, bind_eq_ok_iff.2 ⟨ys, ih.2 hys, rfl⟩⟩

theorem exists_mapM_eq_error_iff {ε α β : Type} {f : α → Except ε β} {xs : List α} :
    (∃ e, xs.mapM f = .error e) ↔ ∃ x ∈ xs, ∃ e, f x = .error e := by
  constructor
  · rintro ⟨e, h⟩
    obtain ⟨before, x, after, rfl, -, hx⟩ := mapM_eq_error_iff.1 h
    exact ⟨x, List.mem_append_right _ List.mem_cons_self, e, hx⟩
  · rintro ⟨x, hx, e, he⟩
    cases h : xs.mapM f with
    | error e => exact ⟨e, rfl⟩
    | ok ys =>
      obtain ⟨y, -, hy⟩ := exists_of_mapM_eq_ok h x hx
      cases he.symm.trans hy

/-! ## Transforms -/

/-- Samples are missing in the same slots. -/
def SameGaps (xs ys : List (Option Float)) : Prop :=
  ∀ i : Nat, ys[i]? = some none ↔ xs[i]? = some none

/-- No sample is missing any more, and those that were not missing are the same. -/
def FillsGaps (xs ys : List (Option Float)) : Prop :=
  ∀ i < xs.length, ∃ y, ys[i]? = some (some y) ∧ ∀ x, xs[i]? = some (some x) → y = x

theorem sameGaps_map (g : Float → Float) (xs : List (Option Float)) :
    SameGaps xs (xs.map (·.map g)) := by
  intro i
  rw [List.getElem?_map]
  cases xs[i]? with
  | none => simp
  | some x => simp

theorem fillsGaps_map (value : Float) (xs : List (Option Float)) :
    FillsGaps xs (xs.map fun x => some (x.getD value)) := by
  intro i hi
  refine ⟨xs[i].getD value, by simp [hi], fun x hx => ?_⟩
  rw [List.getElem?_eq_getElem hi, Option.some_inj] at hx
  rw [hx, Option.getD_some]

/-- Each series is transformed, on its grid. -/
theorem Transform.forall₂_apply {t : Transform} {P : List (Option Float) → List (Option Float) → Prop}
    (hP : ∀ xs, P xs (t.samples xs)) (function : String) (args : List Expr) (inputs : List Series) :
    List.Forall₂ (fun s out : Series => out.grid = s.grid ∧ P s.samples out.samples) inputs
      (t.apply function args inputs) := by
  refine List.forall₂_map_right_iff.2 (List.forall₂_same.2 fun s _ => ⟨?_, hP s.samples⟩)
  simp [Series.grid, t.length_samples]

/-! ## Renamings -/

namespace Renaming

variable {style : NumberStyle} {r : Renaming} {inputs outs : List Series}

/-- Renaming gives each series a name of its own. -/
theorem apply_eq_mapM : r.apply style inputs =
    inputs.mapM fun s => (r.nameOf style s).map s.rename := by
  induction inputs with
  | nil => rfl
  | cons s rest ih =>
    rw [apply, ih, List.mapM_cons]
    cases r.nameOf style s <;> rfl

/-- Each series is renamed. -/
theorem forall₂_apply (h : r.apply style inputs = .ok outs) :
    List.Forall₂ (fun s out : Series => out = s.rename out.name) inputs outs := by
  rw [apply_eq_mapM, mapM_eq_ok_iff] at h
  refine h.imp fun s out hout => ?_
  obtain ⟨name, -, rfl⟩ := map_eq_ok_iff.1 hout
  rfl

/-- Whether a list of `n` nodes has one at an index, a negative index counting from the end. -/
def InRange (n : Nat) (index : Int) : Prop :=
  -(n : Int) ≤ index ∧ index < n

instance (n : Nat) (index : Int) : Decidable (InRange n index) :=
  inferInstanceAs (Decidable (_ ∧ _))

/-- How many nodes the name of a series has. -/
def nodeCount (s : Series) : Nat :=
  (nodes (basePath s.name.toList)).length

theorem nodeAt?_eq_none_iff {nodes : List (List Char)} {index : Int} :
    nodeAt? nodes index = none ↔ ¬ InRange nodes.length index := by
  unfold nodeAt? InRange
  dsimp only
  split_ifs <;> simp only [List.getElem?_eq_none_iff, true_iff] <;> omega

/-- Picking fails if one of the indices is out of range. -/
theorem pick_eq_error_iff {nodes : List (List Char)} {name : String} {indices : List Int} :
    (∃ fault, pick nodes name indices = .error fault) ↔
      ∃ index ∈ indices, ¬ InRange nodes.length index := by
  induction indices with
  | nil => simp [pick]
  | cons index rest ih =>
    rw [pick, List.exists_mem_cons_iff, ← ih, ← nodeAt?_eq_none_iff]
    cases nodeAt? nodes index with
    | none => simp
    | some node => simp [map_eq_error_iff]

/-- Renaming by nodes fails if one of the series does not have one of the nodes. -/
theorem apply_byNode_eq_error_iff {indices : List Int} :
    (∃ fault, (byNode indices).apply style inputs = .error fault) ↔
      ∃ s ∈ inputs, ∃ index ∈ indices, ¬ InRange (nodeCount s) index := by
  rw [apply_eq_mapM, exists_mapM_eq_error_iff]
  refine exists_congr fun s => and_congr_right fun _ => ?_
  simp only [nameOf, map_eq_error_iff]
  exact pick_eq_error_iff

end Renaming

/-! ## Node indices -/

/-- Numbers as arguments, with their spellings. -/
def indexLiterals (numbers : List (Float × String)) : List Expr :=
  numbers.map fun n => .literal (.number n.1 n.2)

namespace SeriesFunction

variable {numbers : List (Float × String)}

theorem nodeIndices_indexLiterals : nodeIndices (indexLiterals numbers) =
    numbers.mapM fun n =>
      if hasFraction n.1 then .error (.nodeIndex (Expr.literal (.number n.1 n.2)).text)
      else .ok (Decimal.wholePart n.1) := by
  induction numbers with
  | nil => rfl
  | cons n numbers ih =>
    rw [List.mapM_cons, ← ih, indexLiterals, List.map_cons, nodeIndices]
    dsimp only [Expr.asNumber?]
    by_cases h : hasFraction n.1 = true
    · rw [if_pos h, if_pos h]
      rfl
    · rw [if_neg h, if_neg h]
      rfl

/-- A number has a fraction if it is no integer. -/
theorem hasFraction_iff {x : Float} : hasFraction x = true ↔ ¬ Decimal.IsInteger x := by
  rw [← Decimal.isWhole_iff, hasFraction, Bool.not_eq_true', Bool.not_eq_true]

/-- Indices are refused if one of them is no integer. -/
theorem nodeIndices_eq_error_iff :
    (∃ fault, nodeIndices (indexLiterals numbers) = .error fault) ↔
      ∃ n ∈ numbers, ¬ Decimal.IsInteger n.1 := by
  rw [nodeIndices_indexLiterals, exists_mapM_eq_error_iff]
  refine exists_congr fun n => and_congr_right fun _ => ?_
  rw [← hasFraction_iff]
  by_cases h : hasFraction n.1 = true
  · simp [h]
  · simp [h]

/-- Indices that are not refused are the whole parts of their numbers. -/
theorem eq_of_nodeIndices {indices : List Int}
    (h : nodeIndices (indexLiterals numbers) = .ok indices) :
    indices = numbers.map fun n => Decimal.wholePart n.1 := by
  rw [nodeIndices_indexLiterals, mapM_eq_ok_iff] at h
  have hread : List.Forall₂ (fun n index => Decimal.wholePart n.1 = index) numbers indices := by
    refine h.imp fun n index hindex => ?_
    split at hindex
    · cases hindex
    · exact Except.ok.inj hindex
  rw [← List.forall₂_map_left_iff (f := fun n : Float × String => Decimal.wholePart n.1),
    List.forall₂_eq_eq_eq] at hread
  exact hread.symm

end SeriesFunction

/-! ## Calls -/

/-- The functions that transform samples. -/
def transformNames : List String :=
  ["scale", "offset", "absolute", "derivative", "nonNegativeDerivative", "transformNull"]

/-- The functions that rename. -/
def renamerNames : List String :=
  ["alias", "aliasByNode", "aliasSub", "legendValue"]

/-- The transforms of a number by itself. -/
def numberwiseNames : List String :=
  ["scale", "offset", "absolute"]

variable {name : String} {args : List Expr} {o : Operation}

/-- A call of one of `transformNames` has a transform as its operation, with what it does to gaps.
-/
theorem exists_transform_of_callOperation (hname : name ∈ transformNames)
    (h : callOperation .standard name args = .ok o) : ∃ t : Transform, o = .transform t ∧
      (name ∈ numberwiseNames → ∀ xs, SameGaps xs (t.samples xs)) ∧
      (name = "transformNull" → ∀ xs, FillsGaps xs (t.samples xs)) := by
  obtain ⟨f, hf, -, ho⟩ := callOperation_eq_ok_iff.1 h
  simp only [transformNames, List.mem_cons, List.not_mem_nil, or_false] at hname
  rcases hname with rfl | rfl | rfl | rfl | rfl | rfl
  · obtain rfl : .scale = f := Option.some.inj hf
    obtain ⟨x, -, rfl⟩ := map_eq_ok_iff.1 ho
    exact ⟨_, rfl, fun _ => sameGaps_map _, fun h => absurd h (by decide)⟩
  · obtain rfl : .offset = f := Option.some.inj hf
    obtain ⟨x, -, rfl⟩ := map_eq_ok_iff.1 ho
    exact ⟨_, rfl, fun _ => sameGaps_map _, fun h => absurd h (by decide)⟩
  · obtain rfl : .absolute = f := Option.some.inj hf
    obtain rfl := Except.ok.inj ho
    exact ⟨_, rfl, fun _ => sameGaps_map _, fun h => absurd h (by decide)⟩
  · obtain rfl : .derivative = f := Option.some.inj hf
    obtain rfl := Except.ok.inj ho
    exact ⟨_, rfl, fun h => absurd h (by decide), fun h => absurd h (by decide)⟩
  · obtain rfl : .nonNegativeDerivative = f := Option.some.inj hf
    obtain ⟨x, -, rfl⟩ := map_eq_ok_iff.1 ho
    exact ⟨_, rfl, fun h => absurd h (by decide), fun h => absurd h (by decide)⟩
  · obtain rfl : .transformNull = f := Option.some.inj hf
    obtain ⟨x, -, rfl⟩ := map_eq_ok_iff.1 ho
    exact ⟨_, rfl, fun h => absurd h (by decide), fun _ => fillsGaps_map _⟩

/-- A call of one of `renamerNames` has a renaming as its operation. -/
theorem exists_rename_of_callOperation (hname : name ∈ renamerNames)
    (h : callOperation .standard name args = .ok o) : ∃ r : Renaming, o = .rename r := by
  obtain ⟨f, hf, -, ho⟩ := callOperation_eq_ok_iff.1 h
  simp only [renamerNames, List.mem_cons, List.not_mem_nil, or_false] at hname
  rcases hname with rfl | rfl | rfl | rfl
  · obtain rfl : .setAlias = f := Option.some.inj hf
    obtain ⟨s, -, rfl⟩ := map_eq_ok_iff.1 ho
    exact ⟨_, rfl⟩
  · obtain rfl : .aliasByNode = f := Option.some.inj hf
    obtain ⟨indices, -, rfl⟩ := map_eq_ok_iff.1 ho
    exact ⟨_, rfl⟩
  · obtain rfl : .aliasSub = f := Option.some.inj hf
    obtain ⟨_, -, ho⟩ := bind_eq_ok_iff.1 ho
    obtain ⟨_, -, ho⟩ := bind_eq_ok_iff.1 ho
    obtain rfl := Except.ok.inj ho
    exact ⟨_, rfl⟩
  · obtain rfl : .legendValue = f := Option.some.inj hf
    obtain rfl := Except.ok.inj ho
    exact ⟨_, rfl⟩

/-- What a function may do to a series : keep its grid and, depending on the function, its samples or
its gaps, or fill the gaps. -/
structure KeepsShape (name : String) (s out : Series) : Prop where
  grid : out.grid = s.grid
  samples : name ∈ renamerNames → out.samples = s.samples
  gaps : name ∈ numberwiseNames → SameGaps s.samples out.samples
  filled : name = "transformNull" → FillsGaps s.samples out.samples

/-- Transforms and renamings keep the shape of what they are applied to. -/
theorem keepsShape_of_apply {style : NumberStyle} {inputs outs : List Series}
    (hname : name ∈ transformNames ++ renamerNames)
    (ho : callOperation .standard name args = .ok o)
    (h : o.apply style name args inputs = .ok outs) :
    List.Forall₂ (KeepsShape name) inputs outs := by
  have hdisjoint : ∀ n ∈ renamerNames, n ∉ transformNames ∧ n ∉ numberwiseNames ∧
      n ≠ "transformNull" := by
    decide
  by_cases hrenamer : name ∈ renamerNames
  · obtain ⟨-, hnumberwise, hfilling⟩ := hdisjoint name hrenamer
    obtain ⟨r, rfl⟩ := exists_rename_of_callOperation hrenamer ho
    refine (Renaming.forall₂_apply (mapError_eq_ok_iff.1 h)).imp fun s out hout => ?_
    rw [hout]
    exact ⟨rfl, fun _ => rfl, fun hn => absurd hn hnumberwise, fun hn => absurd hn hfilling⟩
  · obtain ⟨t, rfl, hgaps, hfilled⟩ := exists_transform_of_callOperation
      ((List.mem_append.1 hname).resolve_right hrenamer) ho
    obtain rfl := Except.ok.inj h
    refine (Transform.forall₂_apply (P := fun xs ys =>
      (name ∈ numberwiseNames → SameGaps xs ys) ∧ (name = "transformNull" → FillsGaps xs ys))
      (fun xs => ⟨fun hn => hgaps hn xs, fun hn => hfilled hn xs⟩) name args inputs).imp ?_
    rintro s out ⟨hgrid, hsame, hfill⟩
    exact ⟨hgrid, fun hn => absurd hn hrenamer, hsame, hfill⟩

section

variable {arg : Expr} {numbers : List (Float × String)} {inputs : List Series}

theorem kind_of_mem_indexLiterals : ∀ l ∈ indexLiterals numbers, l.kind = .number := by
  intro l hl
  obtain ⟨n, -, rfl⟩ := List.mem_map.1 hl
  rfl

/-- `aliasByNode` takes a series and one index at least. -/
theorem check_aliasByNode (hk : arg.kind = .series) (hne : numbers ≠ []) :
    SeriesFunction.aliasByNode.check (arg :: indexLiterals numbers) = .ok () := by
  have hpos := List.length_pos_iff.2 hne
  have hsignature : SeriesFunction.aliasByNode.signature.check (arg :: indexLiterals numbers) =
      .ok () := by
    refine Signature.check_eq_ok_iff.2 ⟨?_, fun i l hl kind hkind => ?_⟩
    · simpa [SeriesFunction.signature, Signature.withRest, Signature.admits, Signature.least,
        indexLiterals]
    · cases i with
      | zero =>
        obtain rfl := Option.some.inj hl
        exact hk.trans (Option.some.inj hkind)
      | succ i =>
        rw [kind_of_mem_indexLiterals l (List.mem_of_getElem? hl)]
        cases i <;> exact Option.some.inj hkind
  exact bind_eq_ok_iff.2 ⟨(), hsignature, rfl⟩

/-- A renaming by nodes fails if an index is no integer, or out of the range of the nodes of a
series. -/
theorem aliasByNode_eq_error_iff {style : NumberStyle} {source : Source} (hk : arg.kind = .series)
    (hne : numbers ≠ []) (hinputs : (evaluate ⟨.standard, style, source⟩ arg).result = .ok inputs) :
    (∃ error, (evaluate ⟨.standard, style, source⟩
        (.call "aliasByNode" (arg :: indexLiterals numbers))).result = .error error) ↔
      (∃ n ∈ numbers, ¬ Decimal.IsInteger n.1) ∨ ∃ n ∈ numbers, ∃ s ∈ inputs,
        ¬ Renaming.InRange (Renaming.nodeCount s) (Decimal.wholePart n.1) := by
  have hcheck := check_aliasByNode hk hne
  rw [← SeriesFunction.nodeIndices_eq_error_iff]
  cases hindices : SeriesFunction.nodeIndices (indexLiterals numbers) with
  | error fault =>
    have ho : SeriesFunction.aliasByNode.operation (arg :: indexLiterals numbers) =
        .error fault :=
      map_eq_error_iff.2 hindices
    exact iff_of_true ⟨.invalidArgument "aliasByNode" fault,
      result_evaluate_call_of_error (callOperation_eq_error rfl hcheck ho)⟩ (Or.inl ⟨fault, rfl⟩)
  | ok indices =>
    have ho : SeriesFunction.aliasByNode.operation (arg :: indexLiterals numbers) =
        .ok (.rename (.byNode indices)) :=
      map_eq_ok_iff.2 ⟨indices, hindices, rfl⟩
    have hresult : (evaluate ⟨.standard, style, source⟩
        (.call "aliasByNode" (arg :: indexLiterals numbers))).result =
        ((Renaming.byNode indices).apply style inputs).mapError
          (.invalidArgument "aliasByNode") := by
      rw [result_evaluate_of_operation rfl hcheck ho hk fun l hl => by
        simp [kind_of_mem_indexLiterals l hl], hinputs]
      rfl
    have happly : (∃ error, ((Renaming.byNode indices).apply style inputs).mapError
        (EvalError.invalidArgument "aliasByNode") = .error error) ↔
        ∃ fault, (Renaming.byNode indices).apply style inputs = .error fault := by
      cases (Renaming.byNode indices).apply style inputs <;> simp [Except.mapError]
    rw [hresult, happly, Renaming.apply_byNode_eq_error_iff,
      SeriesFunction.eq_of_nodeIndices hindices]
    constructor
    · rintro ⟨s, hs, index, hindex, hrange⟩
      obtain ⟨n, hn, rfl⟩ := List.mem_map.1 hindex
      exact Or.inr ⟨n, hn, s, hs, hrange⟩
    · rintro (⟨fault, h⟩ | ⟨n, hn, s, hs, hrange⟩)
      · cases h
      · exact ⟨s, hs, _, List.mem_map_of_mem hn, hrange⟩

end

/-- Transforms and renamings yield one series for each, in order, and what they may not touch is as it
was. Renaming by nodes fails as a whole if an index is no integer, or out of the range of the nodes
of a series. -/
theorem keepsShape_evaluate (style : NumberStyle) (source : Source) :
    (∀ name ∈ transformNames ++ renamerNames, ∀ (args : List Expr) (inputs outs : List Series),
      (evaluateSeries ⟨.standard, style, source⟩ args).result = .ok inputs →
      (evaluate ⟨.standard, style, source⟩ (.call name args)).result = .ok outs →
        List.Forall₂ (KeepsShape name) inputs outs) ∧
    ∀ (arg : Expr) (numbers : List (Float × String)) (inputs : List Series),
      arg.kind = .series → numbers ≠ [] →
      (evaluate ⟨.standard, style, source⟩ arg).result = .ok inputs →
        ((∃ error, (evaluate ⟨.standard, style, source⟩
            (.call "aliasByNode" (arg :: indexLiterals numbers))).result = .error error) ↔
          (∃ n ∈ numbers, ¬ Decimal.IsInteger n.1) ∨ ∃ n ∈ numbers, ∃ s ∈ inputs,
            ¬ Renaming.InRange (Renaming.nodeCount s) (Decimal.wholePart n.1)) := by
  constructor
  · intro name hname args inputs outs hinputs houts
    rw [result_evaluate_call] at houts
    obtain ⟨o, ho, houts⟩ := bind_eq_ok_iff.1 houts
    rw [hinputs] at houts
    exact keepsShape_of_apply hname ho houts
  · intro arg numbers inputs hk hne hinputs
    exact aliasByNode_eq_error_iff hk hne hinputs

/-- A series with a gap, whose name has two nodes. -/
def gappy : Series :=
  ⟨"a.b", 0, 180, 60, [some 1.0, none, some 3.0]⟩

/-- A store with this series for every pattern. -/
def gappySource : Source := fun _ => ⟨0, .ok [gappy]⟩

/-- Scaling keeps the grid and the gap. The last of two nodes can be picked, and a sixth one cannot. -/
theorem keepsShape_evaluate_gappy :
    (∃ out, (evaluate ⟨.standard, .machine, gappySource⟩
        (.call "scale" [.selector "a.b", .literal (.number 2.0 "2")])).result = .ok [out] ∧
      out.grid = (0, 180, 60, 3) ∧ out.samples[1]? = some none) ∧
    (¬ ∃ error, (evaluate ⟨.standard, .machine, gappySource⟩
      (.call "aliasByNode" [.selector "a.b", .literal (.number (-1.0) "-1")])).result =
        .error error) ∧
    ∃ error, (evaluate ⟨.standard, .machine, gappySource⟩
      (.call "aliasByNode" [.selector "a.b", .literal (.number 5.0 "5")])).result =
        .error error := by
  obtain ⟨hshape, hnodes⟩ := keepsShape_evaluate .machine gappySource
  refine ⟨?_, ?_, ?_⟩
  · have hscale := hshape "scale" (by decide) [.selector "a.b", .literal (.number 2.0 "2")]
      [gappy] _ rfl rfl
    obtain _ | ⟨hkeeps, ⟨⟩⟩ := hscale
    exact ⟨_, rfl, hkeeps.grid, (hkeeps.gaps (by decide) 1).2 rfl⟩
  · have hlast := hnodes (.selector "a.b") [(-1.0, "-1")] [gappy] rfl (List.cons_ne_nil _ _) rfl
    have hinteger : Decimal.IsInteger (-1.0) := Decimal.isWhole_iff.1 (by decide +kernel)
    have hrange : Renaming.InRange (Renaming.nodeCount gappy) (Decimal.wholePart (-1.0)) := by
      decide +kernel
    refine mt hlast.1 ?_
    simp [hinteger, hrange]
  · refine (hnodes (.selector "a.b") [(5.0, "5")] [gappy] rfl (List.cons_ne_nil _ _) rfl).2
      (Or.inr ⟨_, List.mem_cons_self, gappy, List.mem_cons_self, ?_⟩)
    decide +kernel

end SeriesRender
