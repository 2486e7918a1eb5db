import SeriesRender.Proofs.Evaluation.Trace
import SeriesRender.Proofs.SeriesFunction.Arguments
import SeriesRender.Proofs.Store
import SeriesRender.Service.Render

/-!
# Grids of series

No function makes a grid of its own : every series that an operation yields is on the grid of one
that it is applied to (`Operation.exists_grid_of_apply`), and so every series of an expression is on
the grid of one that was found in the store. If all that was found is on one grid, series are always
aligned (`keepsGrids_evaluate`).

A store in memory answers to a range with series on one grid (`MemoryStore.exists_grid_of_fetch`).
So over such a store no evaluation fails for alignment.
-/

namespace SeriesRender

open Target

/-! ## Operations -/

theorem Transform.length_deltas (onDrop : Float → Float → Option Float) (previous : Option Float)
    (xs : List (Option Float)) : (deltas onDrop previous xs).length = xs.length := by
  induction xs generalizing previous with
  | nil => rfl
  | cons x xs ih =>
    cases x with
    | none => rw [deltas, List.length_cons, ih, List.length_cons]
    | some current => rw [deltas, List.length_cons, ih, List.length_cons]

/-- A transform has a sample for each sample. -/
theorem Transform.length_samples (t : Transform) (xs : List (Option Float)) :
    (t.samples xs).length = xs.length := by
  cases t with
  | scale | offset | absolute | transformNull => exact List.length_map _
  | derivative | nonNegativeDerivative => exact length_deltas _ _ _

theorem Filter.mem_of_mem_apply {f : Filter} {inputs : List Series} {s : Series}
    (h : s ∈ f.apply inputs) : s ∈ inputs := by
  cases f with
  | threshold | name => exact (List.mem_filter.1 h).1
  | limit => exact List.mem_of_mem_take h

/-- Renaming changes names only. -/
theorem Renaming.exists_of_mem_apply {style : NumberStyle} {r : Renaming}
    {inputs outputs : List Series} (h : r.apply style inputs = .ok outputs) :
    ∀ s ∈ outputs, ∃ u ∈ inputs, s = u.rename s.name := by
  induction inputs generalizing outputs with
  | nil =>
    cases h
    exact List.forall_mem_nil _
  | cons u inputs ih =>
    rw [apply] at h
    obtain ⟨name, -, h⟩ := bind_eq_ok_iff.1 h
    obtain ⟨renamed, hrenamed, h⟩ := bind_eq_ok_iff.1 h
    obtain rfl := Except.ok.inj h
    rw [List.forall_mem_cons]
    refine ⟨⟨u, List.mem_cons_self, rfl⟩, fun s hs => ?_⟩
    obtain ⟨v, hv, hsv⟩ := ih hrenamed s hs
    exact ⟨v, List.mem_cons_of_mem _ hv, hsv⟩

/-- All series are on one grid. -/
def OneGrid (series : List Series) : Prop :=
  ∀ s ∈ series, ∀ u ∈ series, s.grid = u.grid

/-- Series on the grids of others are on one grid if those are. -/
theorem OneGrid.of_exists {all part : List Series} (h : OneGrid all)
    (hpart : ∀ s ∈ part, ∃ u ∈ all, u.grid = s.grid) : OneGrid part := by
  intro s hs t ht
  obtain ⟨u, hu, hus⟩ := hpart s hs
  obtain ⟨v, hv, hvt⟩ := hpart t ht
  rw [← hus, ← hvt, h u hu v hv]

theorem OneGrid.areAligned {inputs : List Series} (h : OneGrid inputs) :
    areAligned inputs = true := by
  cases inputs with
  | nil => rfl
  | cons first rest =>
    rw [SeriesRender.areAligned, List.all_eq_true]
    intro u hu
    exact decide_eq_true (h u (List.mem_cons_of_mem _ hu) first List.mem_cons_self)

namespace Operation

variable {o : Operation} {style : NumberStyle} {function : String} {args : List Expr}
  {inputs outputs : List Series}

/-- Every series that an operation yields is on the grid of one that it is applied to. -/
theorem exists_grid_of_apply (h : o.apply style function args inputs = .ok outputs) :
    ∀ s ∈ outputs, ∃ u ∈ inputs, u.grid = s.grid := by
  cases o with
  | combine r =>
    cases inputs with
    | nil =>
      cases h
      exact List.forall_mem_nil _
    | cons first rest =>
      obtain ⟨-, -, rfl⟩ := combine_cons_eq_ok_iff.1 h
      rw [List.forall_mem_singleton]
      exact ⟨first, List.mem_cons_self, by simp [Series.grid]⟩
  | transform t =>
    obtain rfl := Except.ok.inj h
    intro s hs
    obtain ⟨u, hu, rfl⟩ := List.mem_map.1 hs
    exact ⟨u, hu, by simp [Series.grid, t.length_samples]⟩
  | filter f =>
    obtain rfl := Except.ok.inj h
    exact fun s hs => ⟨s, Filter.mem_of_mem_apply hs, rfl⟩
  | rename r =>
    intro s hs
    obtain ⟨u, hu, hsu⟩ := Renaming.exists_of_mem_apply (mapError_eq_ok_iff.1 h) s hs
    refine ⟨u, hu, ?_⟩
    rw [hsu]
    rfl

/-- An operation does not fail for alignment if it is applied to series on one grid. -/
theorem apply_ne_notAligned (hinputs : OneGrid inputs) (g : String) :
    o.apply style function args inputs ≠ .error (.notAligned g) := by
  intro h
  cases o with
  | combine r =>
    cases inputs with
    | nil => cases h
    | cons first rest =>
      have herror := combine_cons_eq_error_iff.1 h
      rw [if_pos hinputs.areAligned] at herror
      cases herror.2
  | transform | filter => cases h
  | rename r =>
    obtain ⟨fault, -, h⟩ := mapError_eq_error_iff.1 h
    cases h

end Operation

/-! ## Evaluation -/

/-- The series in an answer. -/
def Answer.found (a : Answer) : List Series :=
  a.series.toOption.getD []

/-- What has been found are the series of an answer that is no error. -/
theorem Answer.mem_found_iff {a : Answer} {s : Series} :
    s ∈ a.found ↔ ∃ series, a.series = .ok series ∧ s ∈ series := by
  unfold found
  cases a.series with
  | error e =>
    refine iff_of_false List.not_mem_nil ?_
    rintro ⟨series, h, -⟩
    cases h
  | ok series =>
    constructor
    · intro hs
      exact ⟨series, rfl, hs⟩
    · rintro ⟨_, h, hs⟩
      obtain rfl := Except.ok.inj h
      exact hs

/-- The series that are found by the fetches. -/
def Trace.found {α : Type} (t : Trace α) (source : Source) : List Series :=
  t.fetches.flatMap fun f => (source f.pattern).found

/-- After a step that succeeds, the next one finds more. -/
theorem Trace.found_bind_of_ok {α β : Type} {t : Trace α} {a : α} (h : t.result = .ok a)
    (next : α → Trace β) (source : Source) :
    (t >>= next).found source = t.found source ++ (next a).found source := by
  rw [found, fetches_bind_of_ok h, List.flatMap_append]
  rfl

/-- After a step that fails, nothing more is found. -/
theorem Trace.found_bind_of_error {α β : Type} {t : Trace α} {e : EvalError}
    (h : t.result = .error e) (next : α → Trace β) (source : Source) :
    (t >>= next).found source = t.found source := by
  rw [found, fetches_bind_of_error h]
  rfl

/-- Steps without a fetch find nothing. -/
theorem Trace.found_bind_of_forall {α β : Type} {next : α → Trace β}
    (h : ∀ a, (next a).fetches = []) (t : Trace α) (source : Source) :
    (t >>= next).found source = t.found source := by
  rw [found, fetches_bind_of_forall h]
  rfl

/-- Every series is on the grid of one that was found, and alignment only fails if there are two
grids among those that were found. -/
structure Trace.KeepsGrids (t : Trace (List Series)) (source : Source) : Prop where
  grid : ∀ series, t.result = .ok series → ∀ s ∈ series, ∃ u ∈ t.found source, u.grid = s.grid
  aligned : OneGrid (t.found source) → ∀ function, t.result ≠ .error (.notAligned function)

namespace Trace.KeepsGrids

variable {α : Type} {source : Source}

theorem ofExcept_nil : (Trace.ofExcept (.ok [])).KeepsGrids source := by
  constructor
  · intro series h
    obtain rfl := Except.ok.inj h
    exact List.forall_mem_nil _
  · intro _ function h
    cases h

/-- A fetch returns what it has found. -/
theorem fetch (pattern : String) : (Trace.fetch source pattern).KeepsGrids source := by
  constructor
  · intro series h s hs
    have hs : s ∈ (source pattern).found :=
      Answer.mem_found_iff.2 ⟨series, mapError_eq_ok_iff.1 h, hs⟩
    exact ⟨s, List.mem_append_left [] hs, rfl⟩
  · intro _ function h
    obtain ⟨_, -, h⟩ := mapError_eq_error_iff.1 h
    cases h

/-- A step that asks for nothing may come first, if it does not fail for alignment. -/
theorem after {t : Trace α} {next : α → Trace (List Series)} (hfetches : t.fetches = [])
    (ht : ∀ function, t.result ≠ .error (.notAligned function))
    (hnext : ∀ a, (next a).KeepsGrids source) : (t >>= next).KeepsGrids source := by
  cases hr : t.result with
  | error e =>
    rw [bind_of_error hr]
    constructor
    · intro series h
      cases h
    · intro _ function h
      exact ht function (hr.trans (congrArg Except.error (Except.error.inj h)))
  | ok a =>
    have hfound : (t >>= next).found source = (next a).found source := by
      rw [found_bind_of_ok hr, found, hfetches]
      rfl
    constructor
    · rw [hfound, result_bind, hr]
      exact (hnext a).grid
    · rw [hfound, result_bind, hr]
      exact (hnext a).aligned

/-- Series are put together. -/
theorem append {t u : Trace (List Series)} (ht : t.KeepsGrids source) (hu : u.KeepsGrids source) :
    (t >>= fun series => u >>= fun others => pure (series ++ others)).KeepsGrids source := by
  cases hr : t.result with
  | error e =>
    constructor
    · intro all h
      rw [result_bind, hr] at h
      cases h
    · rw [found_bind_of_error hr, result_bind, hr]
      exact fun hone function h => ht.aligned hone function (hr.trans h)
  | ok series =>
    have hfound : (t >>= fun series => u >>= fun others => pure (series ++ others)).found source =
        t.found source ++ u.found source := by
      rw [found_bind_of_ok hr, found_bind_of_forall fun _ => rfl]
    have hresult : (t >>= fun series => u >>= fun others => pure (series ++ others)).result =
        u.result >>= fun others => .ok (series ++ others) := by
      rw [result_bind, hr]
      exact result_bind u _
    constructor
    · intro all h
      rw [hresult] at h
      obtain ⟨others, hothers, h⟩ := bind_eq_ok_iff.1 h
      obtain rfl := Except.ok.inj h
      rw [hfound, List.forall_mem_append]
      constructor
      · intro s hs
        obtain ⟨v, hv, hvs⟩ := ht.grid series hr s hs
        exact ⟨v, List.mem_append_left _ hv, hvs⟩
      · intro s hs
        obtain ⟨v, hv, hvs⟩ := hu.grid others hothers s hs
        exact ⟨v, List.mem_append_right _ hv, hvs⟩
    · intro hone function h
      rw [hfound] at hone
      rw [hresult] at h
      rcases bind_eq_error_iff.1 h with h | ⟨_, -, h⟩
      · refine hu.aligned (hone.of_exists fun s hs => ?_) function h
        exact ⟨s, List.mem_append_right _ hs, rfl⟩
      · cases h

/-- Series are worked on, by a step that asks for nothing. -/
theorem apply {t : Trace (List Series)} {next : List Series → Trace (List Series)}
    (ht : t.KeepsGrids source) (hfetches : ∀ inputs, (next inputs).fetches = [])
    (hgrid : ∀ inputs outputs, (next inputs).result = .ok outputs →
      ∀ s ∈ outputs, ∃ u ∈ inputs, u.grid = s.grid)
    (haligned : ∀ inputs, OneGrid inputs →
      ∀ function, (next inputs).result ≠ .error (.notAligned function)) :
    (t >>= next).KeepsGrids source := by
  have hfound : (t >>= next).found source = t.found source :=
    found_bind_of_forall hfetches t source
  constructor
  · intro outputs h s hs
    rw [result_bind] at h
    obtain ⟨inputs, hinputs, h⟩ := bind_eq_ok_iff.1 h
    obtain ⟨u, hu, hus⟩ := hgrid inputs outputs h s hs
    obtain ⟨v, hv, hvu⟩ := ht.grid inputs hinputs u hu
    exact ⟨v, hfound ▸ hv, hvu.trans hus⟩
  · intro hone function h
    rw [hfound] at hone
    rw [result_bind] at h
    rcases bind_eq_error_iff.1 h with h | ⟨inputs, hinputs, h⟩
    · exact ht.aligned hone function h
    · exact haligned inputs (hone.of_exists (ht.grid inputs hinputs)) function h

end Trace.KeepsGrids

variable {c : Context} {args : List Expr}

/-- A call by itself is never refused for alignment. -/
theorem callOperation_ne_notAligned {registry : Registry} {name function : String} :
    callOperation registry name args ≠ .error (.notAligned function) := by
  intro h
  unfold callOperation at h
  split at h
  · cases h
  · obtain ⟨fault, -, h⟩ := mapError_eq_error_iff.1 h
    cases h

/-- Arguments keep the grids if each of them does. -/
theorem keepsGrids_evaluateSeries
    (h : ∀ arg ∈ args, (evaluate c arg).KeepsGrids c.source) :
    (evaluateSeries c args).KeepsGrids c.source := by
  induction args with
  | nil =>
    rw [evaluateSeries]
    exact .ofExcept_nil
  | cons arg args ih =>
    rw [List.forall_mem_cons] at h
    by_cases hk : arg.kind = .series
    · rw [evaluateSeries, if_pos hk]
      exact h.1.append (ih h.2)
    · rw [evaluateSeries_of_literal hk]
      exact ih h.2

/-- All series of an evaluation are on the grids that have been found. -/
theorem keepsGrids_evaluate (c : Context) (e : Expr) : (evaluate c e).KeepsGrids c.source := by
  have hcheck : ∀ function, Trace.check.result ≠ .error (.notAligned function) := by
    intro function h
    cases h
  induction e using Expr.inductionOn with
  | selector pattern =>
    rw [evaluate]
    exact .after rfl hcheck fun _ => .fetch pattern
  | literal l =>
    rw [evaluate]
    refine .after rfl hcheck fun _ => ⟨fun series h => ?_, fun _ function h => ?_⟩
    · cases h
    · cases h
  | call name args ih =>
    have hresult : ∀ (operation : Operation) (inputs : List Series),
        (do
          let series ← Trace.ofExcept (operation.apply c.style name args inputs)
          Trace.check
          return series).result = operation.apply c.style name args inputs := by
      intro operation inputs
      rw [Trace.result_bind]
      exact bind_pure (operation.apply c.style name args inputs)
    rw [evaluate]
    refine .after rfl hcheck fun _ => .after rfl (fun _ => callOperation_ne_notAligned) ?_
    intro operation
    refine (keepsGrids_evaluateSeries ih).apply (fun inputs => ?_) (fun inputs outputs h => ?_)
      fun inputs hone function h => ?_
    · exact Trace.fetches_bind_of_forall (fun _ => rfl) _
    · exact Operation.exists_grid_of_apply (hresult operation inputs ▸ h)
    · exact Operation.apply_ne_notAligned hone function (hresult operation inputs ▸ h)

/-! ## Stores in memory -/

/-- A store answers to a range with series on one grid, whatever the pattern. -/
theorem MemoryStore.exists_grid_of_fetch (store : MemoryStore) (start stop : Int) :
    ∃ grid, ∀ tenant pattern result, store.fetch tenant pattern start stop = .ok result →
      ∀ s ∈ result, s.grid = grid := by
  cases hb : bounds? store.step start stop with
  | none =>
    refine ⟨(0, 0, 0, 0), fun tenant pattern result h => ?_⟩
    obtain ⟨_, range, -, hbounds, -⟩ := fetch_eq_ok_iff.1 h
    cases hb.symm.trans hbounds
  | some range =>
    refine ⟨(range.1, range.2, store.step, Series.slotCount range.1 range.2 store.step), ?_⟩
    intro tenant pattern result h s hs
    obtain ⟨_, range', -, hbounds, -, rfl⟩ := fetch_eq_ok_iff.1 h
    obtain rfl := Option.some.inj (hb.symm.trans hbounds)
    obtain ⟨⟨path, slots⟩, -, rfl⟩ := List.mem_map.1 hs
    simp [Series.grid, seriesOver]

/-- All answers of a store in memory, over one interval, are on one grid. -/
theorem oneGrid_of_memory {α : Type} (t : Trace α) (store : MemoryStore) (tenant : String)
    (start stop : Int) : OneGrid (t.found ((Backend.memory store).source tenant start stop)) := by
  obtain ⟨grid, hgrid⟩ := store.exists_grid_of_fetch start stop
  have hall : ∀ s ∈ t.found ((Backend.memory store).source tenant start stop), s.grid = grid := by
    intro s hs
    obtain ⟨f, -, hs⟩ := List.mem_flatMap.1 hs
    obtain ⟨result, hresult, hs⟩ := Answer.mem_found_iff.1 hs
    exact hgrid tenant f.pattern result hresult s hs
  intro s hs u hu
  rw [hall s hs, hall u hu]

/-- Whatever the store and whenever an interruption comes, series are on the grids of those that were
found, and alignment does not fail if those are on one grid; so it never does over a store in
memory. -/
theorem grids_evaluate (c : Context) (interruption : Option Duration) (e : Expr) :
    let evaluation := (evaluate c e).cutAt interruption
    (∀ series, evaluation.result = .ok series →
      ∀ s ∈ series, ∃ u ∈ evaluation.found c.source, u.grid = s.grid) ∧
    ((∀ s ∈ evaluation.found c.source, ∀ u ∈ evaluation.found c.source, s.grid = u.grid) →
      ∀ function, evaluation.result ≠ .error (.notAligned function)) ∧
    ∀ store tenant start stop, c.source = (Backend.memory store).source tenant start stop →
      ∀ function, evaluation.result ≠ .error (.notAligned function) := by
  intro evaluation
  have hkeeps : evaluation.KeepsGrids c.source := by
    rcases (evaluate c e).cutAt_eq_self_or interruption with hcut | hcut
    · constructor
      · intro series h
        cases hcut.symm.trans h
      · intro _ function h
        cases hcut.symm.trans h
    · change ((evaluate c e).cutAt interruption).KeepsGrids c.source
      rw [hcut]
      exact keepsGrids_evaluate c e
  refine ⟨hkeeps.grid, hkeeps.aligned, fun store tenant start stop hsource => ?_⟩
  refine hkeeps.aligned ?_
  rw [hsource]
  exact oneGrid_of_memory evaluation store tenant start stop

/-- A store with one series for each pattern, over the first minute. -/
def minutes : Source := fun pattern => ⟨0, .ok [⟨pattern, 0, 60, 60, [some 1.0]⟩]⟩

/-- The sum of two series. -/
def sumOfTwo : Expr := .call "sumSeries" [.selector "a", .selector "b"]

/-- The sum of two series is on their grid, and over one grid, or a store in memory, it does not
fail for alignment. -/
theorem grids_evaluate_sumOfTwo :
    (∃ s, (evaluate ⟨.standard, .machine, minutes⟩ sumOfTwo).result = .ok [s] ∧
      s.grid = (0, 60, 60, 1)) ∧
    (evaluate ⟨.standard, .machine, minutes⟩ sumOfTwo).result ≠ .error (.notAligned "sumSeries") ∧
    (evaluate ⟨.standard, .machine,
      (Backend.memory (.empty 60)).source "acme" 0 60⟩ sumOfTwo).result ≠
        .error (.notAligned "sumSeries") := by
  obtain ⟨hgrid, haligned, -⟩ := grids_evaluate ⟨.standard, .machine, minutes⟩ none sumOfTwo
  obtain ⟨-, -, hmemory⟩ := grids_evaluate ⟨.standard, .machine,
    (Backend.memory (.empty 60)).source "acme" 0 60⟩ none sumOfTwo
  have hfound : ∀ s ∈ (evaluate ⟨.standard, .machine, minutes⟩ sumOfTwo).found minutes,
      s.grid = (0, 60, 60, 1) := by
    change ∀ s ∈ [Series.mk "a" 0 60 60 [some 1.0], ⟨"b", 0, 60, 60, [some 1.0]⟩], _
    simp [Series.grid]
  refine ⟨⟨_, rfl, ?_⟩, haligned (fun s hs u hu => ?_) _, hmemory _ _ _ _ rfl _⟩
  · obtain ⟨u, hu, hus⟩ := hgrid _ rfl _ List.mem_cons_self
    rw [← hus, hfound u hu]
  · rw [hfound s hs, hfound u hu]

end SeriesRender
