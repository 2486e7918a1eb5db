import Mathlib.Order.Bounds.Basic
import SeriesRender.Proofs.SeriesFunction.Shape

/-!
# Derivatives

A derivative goes through the samples once and carries the last one that is not missing
(`Transform.deltas`). In a slot it has what is made of the sample there and the one carried, which is
the last one before the slot (`Transform.getElem?_deltas`, `Transform.lastBefore_of_isGreatest`).
A sample is carried whether or not anything was made of it, so neither a gap nor a drop is a start
anew.

`IsDerivative` says it by indices alone, for all that is made of two samples, and
`derivative_evaluate` says what the two derivatives make of them.
-/

namespace SeriesRender

open Target

/-- The slots before slot `i` that have a sample. -/
def samplesBefore (xs : List (Option Float)) (i : Nat) : Set Nat :=
  {j | j < i ∧ ∃ y, xs[j]? = some (some y)}

/-- A sample with nothing but gaps behind it is the last one. -/
theorem isGreatest_samplesBefore {xs : List (Option Float)} {i j : Nat} {y : Float} (hj : j < i)
    (hy : xs[j]? = some (some y)) (hgap : ∀ k < i, j < k → xs[k]? = some none) :
    IsGreatest (samplesBefore xs i) j := by
  refine ⟨⟨hj, y, hy⟩, fun k ⟨hk, z, hz⟩ => Nat.le_of_not_lt fun hlt => ?_⟩
  cases hz.symm.trans (hgap k hk hlt)

/-- In every slot is what `make` makes of the sample there and the last one before it, or nothing if
one of the two is missing. -/
structure IsDerivative (make : Float → Float → Option Float) (xs out : List (Option Float)) :
    Prop where
  length : out.length = xs.length
  missing : ∀ i < xs.length, xs[i]? = some none ∨ samplesBefore xs i = ∅ → out[i]? = some none
  present : ∀ i j x y, xs[i]? = some (some x) → IsGreatest (samplesBefore xs i) j →
    xs[j]? = some (some y) → out[i]? = some (make y x)

namespace Transform

variable {onDrop : Float → Float → Option Float} {previous : Option Float}
  {xs : List (Option Float)} {i j : Nat} {y : Float}

/-! ## The loop -/

/-- What a sample becomes after `previous`. -/
def delta (onDrop : Float → Float → Option Float) (previous current : Float) : Option Float :=
  if current - previous < 0.0 then onDrop previous current else some (current - previous)

/-- The last sample before slot `i`; if there is none, it is `previous`. -/
def lastBefore (previous : Option Float) (xs : List (Option Float)) (i : Nat) : Option Float :=
  ((xs.take i).filterMap id).getLast?.or previous

theorem lastBefore_none_cons : lastBefore previous (none :: xs) (i + 1) = lastBefore previous xs i :=
  rfl

theorem lastBefore_some_cons :
    lastBefore previous (some y :: xs) (i + 1) = lastBefore (some y) xs i := by
  change (y :: (xs.take i).filterMap id).getLast?.or previous = _
  rw [List.getLast?_cons, lastBefore]
  cases ((xs.take i).filterMap id).getLast? <;> rfl

/-- What is carried into a slot is the last sample before it. -/
theorem getElem?_deltas : (deltas onDrop previous xs)[i]? = xs[i]?.map fun x =>
    x.bind fun current => (lastBefore previous xs i).bind fun p => delta onDrop p current := by
  induction xs generalizing previous i with
  | nil => rfl
  | cons x xs ih =>
    cases x with
    | none =>
      cases i with
      | zero => rfl
      | succ i =>
        rw [deltas, List.getElem?_cons_succ, List.getElem?_cons_succ, ih, lastBefore_none_cons]
    | some current =>
      cases i with
      | zero => rfl
      | succ i =>
        rw [deltas, List.getElem?_cons_succ, List.getElem?_cons_succ, ih, lastBefore_some_cons]

/-! ## The last sample before a slot -/

theorem lastBefore_succ : lastBefore previous xs (i + 1) =
    (xs[i]?.bind id).or (lastBefore previous xs i) := by
  rw [lastBefore, List.take_add_one, List.filterMap_append, List.getLast?_append]
  cases xs[i]? with
  | none => rfl
  | some x => cases x <;> rfl

/-- What is before a slot is before the next one. -/
theorem samplesBefore_subset_succ : samplesBefore xs i ⊆ samplesBefore xs (i + 1) :=
  fun _ hj => ⟨Nat.lt_succ_of_lt hj.1, hj.2⟩

/-- Where no samples come before, there is no last one. -/
theorem lastBefore_of_eq_empty (h : samplesBefore xs i = ∅) : lastBefore none xs i = none := by
  induction i with
  | zero => rfl
  | succ i ih =>
    have hbefore : samplesBefore xs i = ∅ := Set.subset_eq_empty samplesBefore_subset_succ h
    have hhere : xs[i]?.bind id = none := by
      refine Option.eq_none_iff_forall_ne_some.2 fun y hy => ?_
      obtain ⟨x, hx, rfl⟩ := Option.bind_eq_some_iff.1 hy
      exact (Set.eq_empty_iff_forall_notMem.1 h i) ⟨Nat.lt_succ_self i, y, hx⟩
    rw [lastBefore_succ, hhere, Option.none_or, ih hbefore]

theorem lastBefore_of_isGreatest (h : IsGreatest (samplesBefore xs i) j)
    (hy : xs[j]? = some (some y)) : lastBefore previous xs i = some y := by
  obtain ⟨⟨hj, -⟩, hlast⟩ := h
  induction i with
  | zero => exact absurd hj (Nat.not_lt_zero j)
  | succ i ih =>
    rw [lastBefore_succ]
    rcases Nat.lt_succ_iff_lt_or_eq.1 hj with hlt | rfl
    · have hhere : xs[i]?.bind id = none := by
        refine Option.eq_none_iff_forall_ne_some.2 fun z hz => ?_
        obtain ⟨x, hx, rfl⟩ := Option.bind_eq_some_iff.1 hz
        exact absurd (hlast ⟨Nat.lt_succ_self i, z, hx⟩) (Nat.not_le.2 hlt)
      rw [hhere, Option.none_or]
      exact ih (fun k hk => hlast (samplesBefore_subset_succ hk)) hlt
    · rw [hy]
      rfl

/-- Differences are taken from the last sample before, whatever is made of them. -/
theorem isDerivative_deltas {make : Float → Float → Option Float}
    (hmake : ∀ p current, delta onDrop p current = make p current) :
    IsDerivative make xs (deltas onDrop none xs) := by
  constructor
  case length => exact length_deltas onDrop none xs
  case missing =>
    intro i hi h
    rw [getElem?_deltas]
    rcases h with hgap | hfirst
    · rw [hgap]
      rfl
    · rw [lastBefore_of_eq_empty hfirst, List.getElem?_eq_getElem hi]
      cases xs[i] <;> rfl
  case present =>
    intro i j x y hx hj hy
    rw [getElem?_deltas, hx, lastBefore_of_isGreatest hj hy]
    exact congrArg some (hmake y x)

/-- The increase to `current`; after a drop it is that of a counter that starts again behind its
greatest value, if this is known and the increase is not negative. -/
def increase (greatest : Option Float) (previous current : Float) : Option Float :=
  if current - previous < 0.0 then
    greatest.bind fun m =>
      if 0.0 ≤ m - previous + current + 1.0 then some (m - previous + current + 1.0) else none
  else some (current - previous)

theorem isDerivative_samples_derivative (xs : List (Option Float)) :
    IsDerivative (fun p current => some (current - p)) xs (derivative.samples xs) :=
  isDerivative_deltas fun _ _ => ite_self _

theorem isDerivative_samples_nonNegativeDerivative (greatest : Option Float)
    (xs : List (Option Float)) :
    IsDerivative (increase greatest) xs ((nonNegativeDerivative greatest).samples xs) := by
  refine isDerivative_deltas fun p current => ?_
  have hwrapped : wrapped greatest p current = greatest.bind fun m =>
      if 0.0 ≤ m - p + current + 1.0 then some (m - p + current + 1.0) else none := by
    cases greatest with
    | none => rfl
    | some m => simp [wrapped, Option.filter]
  rw [delta, increase, hwrapped]

end Transform

/-! ## Calls -/

/-- A call of a transform succeeds where its series do, and transforms each of them. -/
theorem exists_evaluate_transform {c : Context} {name : String} {f : SeriesFunction} {t : Transform}
    {arg : Expr} {literals : List Expr} {inputs : List Series}
    {P : List (Option Float) → List (Option Float) → Prop} (hP : ∀ xs, P xs (t.samples xs))
    (hf : c.registry.find? name = some f) (hcheck : f.check (arg :: literals) = .ok ())
    (ho : f.operation (arg :: literals) = .ok (.transform t)) (hk : arg.kind = .series)
    (hliterals : ∀ l ∈ literals, l.kind ≠ .series)
    (hinputs : (evaluate c arg).result = .ok inputs) :
    ∃ outs, (evaluate c (.call name (arg :: literals))).result = .ok outs ∧
      List.Forall₂ (fun s out : Series => P s.samples out.samples) inputs outs := by
  refine ⟨t.apply name (arg :: literals) inputs, ?_, ?_⟩
  · rw [result_evaluate_of_operation hf hcheck ho hk hliterals, hinputs]
    rfl
  · exact (Transform.forall₂_apply hP name (arg :: literals) inputs).imp fun _ _ h => h.2

variable {arg : Expr} {inputs : List Series}

/-- The derivative has the difference to the last sample in each slot. The other one has the increase
since then, a drop being a gap or, given the greatest value of the counter, a wrap around it. -/
theorem derivative_evaluate (style : NumberStyle) (source : Source) (hk : arg.kind = .series)
    (hinputs : (evaluate ⟨.standard, style, source⟩ arg).result = .ok inputs) :
    (∃ outs, (evaluate ⟨.standard, style, source⟩ (.call "derivative" [arg])).result = .ok outs ∧
      List.Forall₂ (fun s out : Series =>
        IsDerivative (fun p current => some (current - p)) s.samples out.samples) inputs outs) ∧
    (∃ outs, (evaluate ⟨.standard, style, source⟩ (.call "nonNegativeDerivative" [arg])).result =
        .ok outs ∧
      List.Forall₂ (fun s out : Series =>
        IsDerivative (Transform.increase none) s.samples out.samples) inputs outs) ∧
    ∀ greatest text, ∃ outs, (evaluate ⟨.standard, style, source⟩
        (.call "nonNegativeDerivative" [arg, .literal (.number greatest text)])).result = .ok outs ∧
      List.Forall₂ (fun s out : Series =>
        IsDerivative (Transform.increase (some greatest)) s.samples out.samples) inputs outs := by
  have hkinds : [arg].map Expr.kind = [.series] := congrArg (fun k => [k]) hk
  refine ⟨?_, ?_, fun greatest text => ?_⟩
  · exact exists_evaluate_transform Transform.isDerivative_samples_derivative
      (f := .derivative) rfl
      (bind_eq_ok_iff.2 ⟨(), Signature.check_of_kinds _ hkinds rfl rfl, rfl⟩) rfl hk
      (List.forall_mem_nil _) hinputs
  · exact exists_evaluate_transform (Transform.isDerivative_samples_nonNegativeDerivative none)
      (f := .nonNegativeDerivative) rfl
      (bind_eq_ok_iff.2 ⟨(), Signature.check_of_kinds _ hkinds rfl rfl, rfl⟩) rfl hk
      (List.forall_mem_nil _) hinputs
  · have hkinds : [arg, .literal (.number greatest text)].map Expr.kind = [.series, .number] :=
      congrArg (fun k => [k, Kind.number]) hk
    exact exists_evaluate_transform
      (Transform.isDerivative_samples_nonNegativeDerivative (some greatest))
      (f := .nonNegativeDerivative) rfl
      (bind_eq_ok_iff.2 ⟨(), Signature.check_of_kinds _ hkinds rfl rfl, rfl⟩) rfl hk
      (List.forall_mem_singleton.2 fun h => by cases h) hinputs

/-- A counter with a gap, and a drop from 25 to 5. -/
def counter : Series :=
  ⟨"counter", 0, 5, 1, [some 10.0, some 15.0, none, some 25.0, some 5.0]⟩

/-- A store with a counter for every pattern. -/
def counters : Source := fun _ => ⟨0, .ok [counter]⟩

/-- The counter rises by 10 over the gap, and with a greatest value of 30 it rises by 11 where it
drops. -/
theorem derivative_evaluate_counter :
    (∃ out, (evaluate ⟨.standard, .machine, counters⟩
        (.call "derivative" [.selector "counter"])).result = .ok [out] ∧
      out.samples[3]? = some (some 10.0)) ∧
    ∃ out, (evaluate ⟨.standard, .machine, counters⟩ (.call "nonNegativeDerivative"
        [.selector "counter", .literal (.number 30.0 "30")])).result = .ok [out] ∧
      out.samples[4]? = some (some 11.0) := by
  have hk : (Expr.selector "counter").kind = .series := rfl
  obtain ⟨⟨differences, hdifferences, hplain⟩, -, hcounters⟩ :=
    derivative_evaluate .machine counters hk rfl
  obtain ⟨increases, hincreases, hwrapped⟩ := hcounters 30.0 "30"
  obtain _ | ⟨hdifference, ⟨⟩⟩ := hplain
  obtain _ | ⟨hincrease, ⟨⟩⟩ := hwrapped
  constructor
  · have hlast : IsGreatest (samplesBefore counter.samples 3) 1 :=
      isGreatest_samplesBefore (by decide) rfl (by decide)
    refine ⟨_, hdifferences, ?_⟩
    rw [hdifference.present 3 1 25.0 15.0 rfl hlast rfl]
    decide +kernel
  · have hlast : IsGreatest (samplesBefore counter.samples 4) 3 :=
      isGreatest_samplesBefore (by decide) rfl (by decide)
    refine ⟨_, hincreases, ?_⟩
    rw [hincrease.present 4 3 5.0 25.0 rfl hlast rfl]
    decide +kernel

end SeriesRender
