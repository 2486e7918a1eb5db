import SeriesRender.Proofs.Evaluation.Grid
import SeriesRender.Proofs.Evaluation.Validation

/-!
# Combining slot by slot

A reducer other than the average has a sample where one of the series has (`Reducer.apply_eq_none_iff`).
Series are aligned if any two of them are on one grid (`areAligned_iff`), so every slot of the first
is one of all of them, and a column holds a sample of each (`map_getElem?_eq_map_column`).

`Columnwise` is what combining aligned series yields, and `columnwise_evaluate` says when a call of
a function that combines yields it : there has to be room for the interval of the series.
-/

namespace SeriesRender

open Target

/-! ## Reducers -/

/-- There is no value just where there are no samples. -/
theorem reduce_eq_none_iff {op : Float → Float → Float} {xs : List Float} :
    reduce op xs = none ↔ xs = [] := by
  cases xs with
  | nil => exact iff_of_true rfl rfl
  | cons x xs => exact iff_of_false (fun h => by cases h) (List.cons_ne_nil x xs)

namespace Reducer

variable {column : List (Option Float)}

/-- A column has no samples if all of them are missing. -/
theorem present_eq_nil_iff : present column = [] ↔ ∀ x ∈ column, x = none :=
  List.filterMap_eq_nil_iff

/-- Every reduction but an average is missing where all samples are, and only there. -/
theorem apply_eq_none_iff {r : Reducer} :
    r.apply column = none ↔ r ≠ average ∧ ∀ x ∈ column, x = none := by
  cases r with
  | average => simp [apply]
  | sum | max | min => simp [apply, reduce_eq_none_iff, present_eq_nil_iff]
  | diff => simp [apply]
  | range =>
    rw [← present_eq_nil_iff]
    cases hp : present column with
    | nil => simp [apply, hp, reduce]
    | cons x xs => simp [apply, hp, reduce]

end Reducer

/-! ## Aligned series -/

variable {inputs : List Series}

/-- The test for alignment finds the series on one grid. -/
theorem areAligned_iff : areAligned inputs = true ↔ OneGrid inputs := by
  refine ⟨fun h => ?_, OneGrid.areAligned⟩
  cases inputs with
  | nil => exact List.forall_mem_nil _
  | cons first rest =>
    have hfirst : ∀ s ∈ first :: rest, s.grid = first.grid :=
      List.forall_mem_cons.2 ⟨rfl, fun s hs => of_decide_eq_true (List.all_eq_true.1 h s hs)⟩
    intro s hs u hu
    rw [hfirst s hs, hfirst u hu]

/-- If every series has a slot, a column is what they have there. -/
theorem map_getElem?_eq_map_column {i : Nat} (h : ∀ s ∈ inputs, i < s.samples.length) :
    inputs.map (·.samples[i]?) = (column inputs i).map some := by
  rw [column, List.map_map]
  refine List.map_congr_left fun s hs => ?_
  simp [List.getElem?_eq_getElem (h s hs)]

/-! ## Combining -/

/-- What series combine to : one series on their grid, in each slot of which is the reduction of what
they have there, in order. -/
structure Columnwise (r : Reducer) (name : String) (inputs : List Series) (out : Series) : Prop where
  name : out.name = name
  grid : ∀ s ∈ inputs, s.grid = out.grid
  sample : ∀ i < out.samples.length, ∃ column : List (Option Float),
    inputs.map (·.samples[i]?) = column.map some ∧ out.samples[i]? = some (r.apply column)
  missing : ∀ i < out.samples.length, out.samples[i]? = some none ↔
    r ≠ .average ∧ ∀ s ∈ inputs, s.samples[i]? = some none

variable {function name : String} {r : Reducer}

/-- Combining complains about series that are not on one grid, and about no others. -/
theorem combine_eq_notAligned_iff : combine function name r inputs = .error (.notAligned function) ↔
    ∃ s ∈ inputs, ∃ u ∈ inputs, s.grid ≠ u.grid := by
  have hunaligned : (∃ s ∈ inputs, ∃ u ∈ inputs, s.grid ≠ u.grid) ↔ ¬ areAligned inputs = true := by
    rw [areAligned_iff]
    simp [OneGrid]
  rw [hunaligned]
  cases inputs with
  | nil => simp [combine, areAligned]
  | cons first rest =>
    rw [combine_cons_eq_error_iff]
    split
    · next h => simp [h]
    · next h => simp [h]

/-- Series on one grid are combined slot by slot, each slot from its column. -/
theorem columnwise_of_oneGrid {first : Series} {rest : List Series} (h : OneGrid (first :: rest)) :
    Columnwise r name (first :: rest) ⟨name, first.start, first.stop, first.step,
      (List.range first.samples.length).map fun i => r.apply (column (first :: rest) i)⟩ := by
  have hgrid : ∀ s ∈ first :: rest, s.grid = first.grid := fun s hs => h s hs first List.mem_cons_self
  have hslots : ∀ i < first.samples.length, ∀ s ∈ first :: rest, i < s.samples.length := by
    intro i hi s hs
    have hlength : s.samples.length = first.samples.length := congrArg (·.2.2.2) (hgrid s hs)
    exact hlength ▸ hi
  have hsample : ∀ i < first.samples.length, ((List.range first.samples.length).map fun i =>
      r.apply (column (first :: rest) i))[i]? = some (r.apply (column (first :: rest) i)) := by
    intro i hi
    simp [hi]
  constructor
  case name => rfl
  case grid =>
    intro s hs
    rw [hgrid s hs]
    simp [Series.grid]
  case sample =>
    intro i hi
    rw [List.length_map, List.length_range] at hi
    exact ⟨_, map_getElem?_eq_map_column (hslots i hi), hsample i hi⟩
  case missing =>
    intro i hi
    rw [List.length_map, List.length_range] at hi
    rw [hsample i hi, Option.some_inj, Reducer.apply_eq_none_iff]
    refine and_congr_right fun _ => ?_
    simp only [column, List.forall_mem_map]
    refine forall₂_congr fun s hs => ?_
    rw [List.getElem?_eq_getElem (hslots i hi s hs)]
    simp

/-! ## Calls -/

/-- The functions that combine series, under all their names. -/
def combinators : List (String × Reducer) :=
  [("averageSeries", .average), ("avg", .average), ("sumSeries", .sum), ("sum", .sum),
    ("maxSeries", .max), ("minSeries", .min), ("diffSeries", .diff), ("rangeSeries", .range)]

variable {args : List Expr}

/-- The arguments of combining functions are series. -/
theorem kindAt?_of_combinator {f : SeriesFunction} (hf : f = .averageSeries ∨ f = .combineSeries r)
    {i : Nat} {kind : Kind} (h : f.signature.kindAt? i = some kind) : kind = .series := by
  rcases hf with rfl | rfl <;> rcases i with _ | i <;>
    simp_all [SeriesFunction.signature, Signature.kindAt?, Signature.exact, Signature.withRest]

/-- An average takes one list of series, the others any number. -/
theorem callOperation_combinator (hname : (name, r) ∈ combinators)
    (hargs : ∀ arg ∈ args, arg.kind = .series) (hne : args ≠ [])
    (hone : r = .average → args.length = 1) :
    callOperation .standard name args = .ok (.combine r) := by
  obtain ⟨f, hfind, hoperation, hf⟩ : ∃ f, Registry.standard.find? name = some f ∧
      f.operation args = .ok (.combine r) ∧
      (f = .averageSeries ∧ r = .average ∨ f = .combineSeries r) := by
    simp only [combinators, List.mem_cons, Prod.mk.injEq, List.not_mem_nil, or_false] at hname
    rcases hname with ⟨rfl, rfl⟩ | ⟨rfl, rfl⟩ | ⟨rfl, rfl⟩ | ⟨rfl, rfl⟩ | ⟨rfl, rfl⟩ | ⟨rfl, rfl⟩ |
      ⟨rfl, rfl⟩ | ⟨rfl, rfl⟩
    · exact ⟨_, rfl, rfl, Or.inl ⟨rfl, rfl⟩⟩
    · exact ⟨_, rfl, rfl, Or.inl ⟨rfl, rfl⟩⟩
    all_goals exact ⟨_, rfl, rfl, Or.inr rfl⟩
  have hadmits : f.signature.admits args.length = true := by
    have hpos := List.length_pos_iff.2 hne
    rcases hf with ⟨rfl, hr⟩ | rfl
    · rw [hone hr]
      rfl
    · simpa [SeriesFunction.signature, Signature.withRest, Signature.admits, Signature.least]
  have hsignature : f.signature.check args = .ok () := by
    refine Signature.check_eq_ok_iff.2 ⟨hadmits, fun i arg harg kind hkind => ?_⟩
    rw [hargs arg (List.mem_of_getElem? harg),
      kindAt?_of_combinator (hf.imp_left And.left) hkind]
  refine callOperation_eq_ok_iff.2 ⟨f, hfind, bind_eq_ok_iff.2 ⟨(), hsignature, ?_⟩, hoperation⟩
  rcases hf with ⟨rfl, -⟩ | rfl <;> rfl

/-- A call that combines series yields nothing for no series, and fails if two of them are not on one
grid. Otherwise it yields one series, named by the call, that is made of columns, unless their
interval has more steps than there is room for, whatever the number of their samples. -/
theorem columnwise_evaluate (style : NumberStyle) (source : Source)
    (hname : (name, r) ∈ combinators) (hargs : ∀ arg ∈ args, arg.kind = .series) (hne : args ≠ [])
    (hone : r = .average → args.length = 1)
    (hinputs : (evaluateSeries ⟨.standard, style, source⟩ args).result = .ok inputs) :
    let result := (evaluate ⟨.standard, style, source⟩ (.call name args)).result
    (inputs = [] → result = .ok []) ∧
    (result = .error (.notAligned name) ↔ ∃ s ∈ inputs, ∃ u ∈ inputs, s.grid ≠ u.grid) ∧
    (inputs ≠ [] → (∀ s ∈ inputs, ∀ u ∈ inputs, s.grid = u.grid) →
      ((∀ s ∈ inputs, Series.slotCount s.start s.stop s.step ≤ Series.maxSlots) →
        ∃ out, result = .ok [out] ∧ Columnwise r (Expr.call name args).text inputs out) ∧
      ((∃ s ∈ inputs, Series.maxSlots < Series.slotCount s.start s.stop s.step) →
        result = .error (.crashed .capacity))) := by
  intro result
  have hresult : result = combine name (Expr.call name args).text r inputs := by
    change (evaluate ⟨.standard, style, source⟩ (.call name args)).result = _
    rw [result_evaluate_call_of_ok (callOperation_combinator hname hargs hne hone), hinputs]
    rfl
  rw [hresult]
  refine ⟨?_, combine_eq_notAligned_iff, fun hinputs hgrid => ?_⟩
  · rintro rfl
    rfl
  obtain ⟨first, rest, rfl⟩ := List.exists_cons_of_ne_nil hinputs
  have haligned : areAligned (first :: rest) = true := areAligned_iff.2 hgrid
  constructor
  · intro hroom
    exact ⟨_, combine_cons_eq_ok_iff.2 ⟨haligned, hroom first List.mem_cons_self, rfl⟩,
      columnwise_of_oneGrid hgrid⟩
  · rintro ⟨s, hs, hlt⟩
    -- the interval is that of the first series
    obtain ⟨hstart, hstop, hstep, -⟩ : s.start = first.start ∧ s.stop = first.stop ∧
        s.step = first.step ∧ s.samples.length = first.samples.length := by
      simpa [Series.grid] using hgrid s hs first List.mem_cons_self
    rw [hstart, hstop, hstep] at hlt
    refine combine_cons_eq_error_iff.2 ?_
    rw [if_pos haligned]
    exact ⟨hlt, rfl⟩

/-- Two series with two samples each, though their interval has one slot only. -/
def unevenInputs : List Series :=
  [⟨"m.a", 0, 60, 60, [some 1.0, none]⟩, ⟨"m.b", 0, 60, 60, [some 3.0, none]⟩]

/-- A series with as many samples as slots. -/
def evenInput : Series := ⟨"m.c", 0, 60, 60, [some 5.0]⟩

/-- A series with one sample, though a sample for each second up to the last instant is more than
there is room for. -/
def widestInput : Series := ⟨"a", 0, Timestamp.greatest, 1, [some 1.0]⟩

/-- Uneven series are added up slot by slot, but not with one that has fewer samples, and not over
an interval that is too wide. -/
theorem columnwise_evaluate_unevenInputs :
    (∃ out, (evaluate ⟨.standard, .machine, fun _ => ⟨0, .ok unevenInputs⟩⟩
        (.call "sum" [.selector "m.*"])).result = .ok [out] ∧
      out.grid = (0, 60, 60, 2) ∧
      out.samples[0]? = some (some 4.0) ∧ out.samples[1]? = some none) ∧
    (evaluate ⟨.standard, .machine, fun _ => ⟨0, .ok (evenInput :: unevenInputs)⟩⟩
      (.call "sum" [.selector "m.*"])).result = .error (.notAligned "sum") ∧
    (evaluate ⟨.standard, .machine, fun _ => ⟨0, .ok [widestInput]⟩⟩
      (.call "sum" [.selector "m.*"])).result = .error (.crashed .capacity) := by
  have hname : ("sum", Reducer.sum) ∈ combinators := by decide
  have hargs : ∀ arg ∈ [Expr.selector "m.*"], arg.kind = .series :=
    List.forall_mem_singleton.2 rfl
  have hne := List.cons_ne_nil (Expr.selector "m.*") []
  refine ⟨?_, ?_, ?_⟩
  · have hone : ∀ s ∈ unevenInputs, ∀ u ∈ unevenInputs, s.grid = u.grid := by
      simp [unevenInputs, Series.grid]
    obtain ⟨-, -, hcolumns⟩ := columnwise_evaluate .machine (fun _ => ⟨0, .ok unevenInputs⟩)
      hname hargs hne (fun h => by cases h) rfl
    obtain ⟨out, hout, hcolumnwise⟩ := (hcolumns (List.cons_ne_nil _ _) hone).1 (by decide)
    have hgrid := hcolumnwise.grid _ List.mem_cons_self
    have hlength : out.samples.length = 2 := congrArg (·.2.2.2) hgrid.symm
    refine ⟨out, hout, hgrid.symm, ?_, (hcolumnwise.missing 1 (by omega)).2 ?_⟩
    · obtain ⟨column, hcolumn, hsample⟩ := hcolumnwise.sample 0 (by omega)
      have hcolumn : [some 1.0, some 3.0].map some = column.map some := hcolumn
      obtain rfl := (List.map_inj_right fun _ _ => Option.some.inj).1 hcolumn
      rw [hsample]
      decide +kernel
    · simp [unevenInputs]
  · obtain ⟨-, hunaligned, -⟩ := columnwise_evaluate .machine
      (fun _ => ⟨0, .ok (evenInput :: unevenInputs)⟩) hname hargs hne (fun h => by cases h) rfl
    exact hunaligned.2 ⟨_, List.mem_cons_self, _, List.mem_cons_of_mem _ List.mem_cons_self, by decide⟩
  · obtain ⟨-, -, hcolumns⟩ := columnwise_evaluate .machine
      (fun _ => ⟨0, .ok [widestInput]⟩) hname hargs hne (fun h => by cases h) rfl
    exact (hcolumns (List.cons_ne_nil _ _) (by simp)).2 ⟨_, List.mem_cons_self, by decide⟩

/-- So a call that combines can crash, though there is one series only and it has one sample. -/
theorem exists_crash_of_combinator : ∃ (s : Series) (source : Source),
    s.samples.length = 1 ∧ (source "a").series = .ok [s] ∧
      ∀ series, (evaluate ⟨.standard, .machine, source⟩
        (.call "sumSeries" [.selector "a"])).result ≠ .ok series := by
  refine ⟨widestInput, fun _ => ⟨0, .ok [widestInput]⟩, rfl, rfl, fun series h => ?_⟩
  have hcrash : (evaluate ⟨.standard, .machine, fun _ => ⟨0, .ok [widestInput]⟩⟩
      (.call "sumSeries" [.selector "a"])).result = .error (.crashed .capacity) := rfl
  cases hcrash.symm.trans h

end SeriesRender
