import SeriesRender.Proofs.Series
import SeriesRender.Proofs.SeriesFunction.Signature
import SeriesRender.SeriesFunction.Catalogue

/-!
# Arguments that pass the static check

A call whose arguments pass `SeriesFunction.check` has an operation, unless a literal that only
counts once the call is made is no good : the count of a `limit`, or an index of `aliasByNode`
(`SeriesFunction.literalFault?`, `operation_of_check`). Applied to no series, an operation yields
none (`Operation.apply_nil`); applied to any, it fails only if they are not aligned or there is no
room for them, or if one of them does not have a node that is asked for
(`Operation.apply_eq_error`).
-/

namespace SeriesRender

open Target

/-! ## Literals -/

/-- An argument of the kind of numbers has a number. -/
theorem exists_asNumber? {e : Expr} (h : e.kind = .number) : ∃ x, e.asNumber? = some x := by
  cases e with
  | literal l => cases l with
    | number x text => exact ⟨x, rfl⟩
    | string | boolean => cases h
  | selector | call => cases h

/-- One of the kind of strings has a string. -/
theorem exists_asString? {e : Expr} (h : e.kind = .string) : ∃ s, e.asString? = some s := by
  cases e with
  | literal l => cases l with
    | string s quote => exact ⟨s, rfl⟩
    | number | boolean => cases h
  | selector | call => cases h

namespace SeriesFunction

variable {f : SeriesFunction} {args : List Expr}

/-- What is wrong with a literal that the static check does not look at : the count of a `limit` is
negative or no whole number, or an index of `aliasByNode` is no whole number. -/
def literalFault? : SeriesFunction → List Expr → Option ArgumentFault
  | limit, args => ((args[1]?).bind Expr.asNumber?).bind fun x =>
    if x < 0.0 || hasFraction x then some (.limit x) else none
  | aliasByNode, args => (args.tail.find? fun arg => arg.asNumber?.any hasFraction).map fun arg =>
    .nodeIndex arg.text
  | _, _ => none

/-- A function checks its signature first. -/
theorem signature_check_of_check (h : f.check args = .ok ()) :
    f.signature.check args = .ok () := by
  obtain ⟨_, hs, -⟩ := bind_eq_ok_iff.1 h
  exact hs

theorem numberAt_eq_ok_iff {index : Nat} {x : Float} :
    numberAt args index = .ok x ↔ (args[index]?).bind Expr.asNumber? = some x := by
  unfold numberAt
  cases (args[index]?).bind Expr.asNumber? <;> simp

/-- A required number is there after the check. -/
theorem exists_numberAt (h : f.check args = .ok ()) (index : Nat) (hi : index < f.signature.least)
    (hkind : f.signature.kindAt? index = some .number) : ∃ x, numberAt args index = .ok x := by
  obtain ⟨arg, harg, hk⟩ :=
    Signature.exists_arg_of_check (signature_check_of_check h) hi hkind
  obtain ⟨x, hx⟩ := exists_asNumber? hk
  exact ⟨x, by rw [numberAt, harg, Option.bind_some, hx]⟩

/-- The count of a limit is a whole number that is not negative. -/
theorem limitAt_of_numberAt {index : Nat} {x : Float} (h : numberAt args index = .ok x) :
    limitAt args index = if x < 0.0 || hasFraction x then .error (.limit x) else .ok x := by
  rw [limitAt, h]
  by_cases hbad : (x < 0.0 || hasFraction x) = true
  · exact (if_pos hbad).trans (if_pos hbad).symm
  · exact (if_neg hbad).trans (if_neg hbad).symm

/-- A required string is there after the check. -/
theorem exists_stringAt (h : f.check args = .ok ()) (index : Nat) (hi : index < f.signature.least)
    (hkind : f.signature.kindAt? index = some .string) : ∃ s, stringAt args index = .ok s := by
  obtain ⟨arg, harg, hk⟩ :=
    Signature.exists_arg_of_check (signature_check_of_check h) hi hkind
  obtain ⟨s, hs⟩ := exists_asString? hk
  exact ⟨s, by rw [stringAt, harg, Option.bind_some, hs]⟩

/-- A number that may be left out is a number where it is not. -/
theorem exists_optionalNumber (h : f.check args = .ok ()) (index : Nat)
    (hkind : f.signature.kindAt? index = some .number) :
    ∃ x, optionalNumber args index = .ok x := by
  unfold optionalNumber
  by_cases hi : index < args.length
  · obtain ⟨x, hx⟩ := exists_asNumber?
      ((Signature.check_eq_ok_iff.1 (signature_check_of_check h)).2 index _
        (List.getElem?_eq_getElem hi) _ hkind)
    refine ⟨some x, ?_⟩
    rw [if_pos hi, numberAt, List.getElem?_eq_getElem hi, Option.bind_some, hx]
    rfl
  · exact ⟨none, if_neg hi⟩

/-- Numbers are node indices, unless one of them has a fraction : then it is named. -/
theorem nodeIndices_cases (h : ∀ arg ∈ args, arg.kind = .number) :
    (args.find? (fun arg => arg.asNumber?.any hasFraction) = none ∧
      ∃ indices, nodeIndices args = .ok indices) ∨
    ∃ arg, args.find? (fun arg => arg.asNumber?.any hasFraction) = some arg ∧
      nodeIndices args = .error (.nodeIndex arg.text) := by
  induction args with
  | nil => exact Or.inl ⟨rfl, [], rfl⟩
  | cons arg args ih =>
    rw [List.forall_mem_cons] at h
    obtain ⟨x, hx⟩ := exists_asNumber? h.1
    rw [nodeIndices, hx]
    by_cases hfraction : hasFraction x = true
    · refine Or.inr ⟨arg, List.find?_cons_of_pos (by simpa [hx] using hfraction), ?_⟩
      simp [hfraction]
    · rw [List.find?_cons_of_neg (by simpa [hx] using hfraction)]
      dsimp only
      rw [if_neg hfraction]
      rcases ih h.2 with ⟨hnone, indices, hindices⟩ | ⟨bad, hbad, herror⟩
      · exact Or.inl ⟨hnone, _, by rw [hindices]; rfl⟩
      · exact Or.inr ⟨bad, hbad, by rw [herror]; rfl⟩

/-- Every argument of `aliasByNode` but the first one is a number. -/
theorem kind_of_mem_tail (h : aliasByNode.check args = .ok ()) :
    ∀ arg ∈ args.tail, arg.kind = .number := by
  intro arg harg
  obtain ⟨i, hi⟩ := List.mem_iff_getElem?.1 harg
  rw [List.getElem?_tail] at hi
  refine (Signature.check_eq_ok_iff.1 (signature_check_of_check h)).2 (i + 1) arg hi .number ?_
  cases i with
  | zero => rfl
  | succ i => simp [signature, Signature.withRest, Signature.kindAt?]

/-- A regular expression that has been checked is there. -/
theorem exists_regexAt {x : Except ArgumentFault Regex} (h : discard x = .ok ()) :
    ∃ r, x = .ok r := by
  cases x with
  | error fault => cases h
  | ok r => exact ⟨r, rfl⟩

/-- A call that passes the static check has an operation, unless one of its literals is no good. -/
theorem operation_of_check (h : f.check args = .ok ()) :
    (f.literalFault? args = none ∧ ∃ o, f.operation args = .ok o) ∨
    ∃ fault, f.literalFault? args = some fault ∧ f.operation args = .error fault := by
  cases f with
  | averageSeries | combineSeries | absolute | derivative | legendValue =>
    exact Or.inl ⟨rfl, _, rfl⟩
  | scale | offset | threshold =>
    obtain ⟨x, hx⟩ := exists_numberAt h 1 (Nat.le_refl 2) rfl
    exact Or.inl ⟨rfl, _, by rw [operation, hx]; rfl⟩
  | nonNegativeDerivative | transformNull =>
    obtain ⟨x, hx⟩ := exists_optionalNumber h 1 rfl
    exact Or.inl ⟨rfl, _, by rw [operation, hx]; rfl⟩
  | matchName =>
    obtain ⟨_, -, hregex⟩ := bind_eq_ok_iff.1 h
    obtain ⟨r, hr⟩ := exists_regexAt hregex
    exact Or.inl ⟨rfl, _, by rw [operation, hr]; rfl⟩
  | setAlias =>
    obtain ⟨s, hs⟩ := exists_stringAt h 1 (Nat.le_refl 2) rfl
    exact Or.inl ⟨rfl, _, by rw [operation, hs]; rfl⟩
  | aliasSub =>
    obtain ⟨_, -, hregex⟩ := bind_eq_ok_iff.1 h
    obtain ⟨r, hr⟩ := exists_regexAt hregex
    obtain ⟨s, hs⟩ := exists_stringAt h 2 (Nat.le_refl 3) rfl
    exact Or.inl ⟨rfl, _, by rw [operation, hr, hs]; rfl⟩
  | limit =>
    obtain ⟨x, hx⟩ := exists_numberAt h 1 (Nat.le_refl 2) rfl
    have hliteral : limit.literalFault? args =
        if x < 0.0 || hasFraction x then some (.limit x) else none := by
      rw [literalFault?, numberAt_eq_ok_iff.1 hx, Option.bind_some]
    rw [hliteral, operation, limitAt_of_numberAt hx]
    by_cases hbad : (x < 0.0 || hasFraction x) = true
    · rw [if_pos hbad, if_pos hbad]
      exact Or.inr ⟨_, rfl, rfl⟩
    · rw [if_neg hbad, if_neg hbad]
      exact Or.inl ⟨rfl, _, rfl⟩
  | aliasByNode =>
    rcases nodeIndices_cases (kind_of_mem_tail h) with ⟨hnone, indices, hok⟩ | ⟨arg, hbad, herror⟩
    · exact Or.inl ⟨by rw [literalFault?, hnone]; rfl, _, by rw [operation, hok]; rfl⟩
    · exact Or.inr ⟨_, by rw [literalFault?, hbad]; rfl, by rw [operation, herror]; rfl⟩

/-- A function with a fault in its literals has no operation. -/
theorem operation_of_literalFault? {fault : ArgumentFault} (h : f.check args = .ok ())
    (hfault : f.literalFault? args = some fault) : f.operation args = .error fault := by
  rcases operation_of_check h with ⟨hnone, -⟩ | ⟨fault', hsome, ho⟩
  · cases hnone.symm.trans hfault
  · obtain rfl := Option.some.inj (hsome.symm.trans hfault)
    exact ho

theorem literalFault?_limit_of_neg {x : Float} (h : (args[1]?).bind Expr.asNumber? = some x)
    (hneg : x < 0.0) : limit.literalFault? args = some (.limit x) := by
  rw [literalFault?, h, Option.bind_some, if_pos (by simp [hneg])]

/-- The two functions whose literals can be at fault, and their faults. -/
theorem eq_of_literalFault? {fault : ArgumentFault} (h : f.literalFault? args = some fault) :
    (f = limit ∧ ∃ x, fault = .limit x) ∨ (f = aliasByNode ∧ ∃ text, fault = .nodeIndex text) := by
  cases f with
  | limit =>
    obtain ⟨x, -, hx⟩ := Option.bind_eq_some_iff.1 h
    split at hx
    · exact Or.inl ⟨rfl, x, (Option.some.inj hx).symm⟩
    · cases hx
  | aliasByNode =>
    obtain ⟨arg, -, rfl⟩ := Option.map_eq_some_iff.1 h
    exact Or.inr ⟨rfl, arg.text, rfl⟩
  | _ => cases h

/-- Only `aliasByNode` picks nodes. -/
theorem eq_aliasByNode_of_operation {indices : List Int}
    (h : f.operation args = .ok (.rename (.byNode indices))) : f = aliasByNode := by
  cases f with
  | aliasByNode => rfl
  | averageSeries | combineSeries | absolute | derivative | legendValue => cases h
  | scale | offset | nonNegativeDerivative | transformNull | threshold | matchName | limit
  | setAlias =>
    obtain ⟨_, -, ho⟩ := map_eq_ok_iff.1 h
    cases ho
  | aliasSub =>
    obtain ⟨_, -, h⟩ := bind_eq_ok_iff.1 h
    obtain ⟨_, -, ho⟩ := bind_eq_ok_iff.1 h
    cases ho

end SeriesFunction

/-! ## Operations on series -/

namespace Renaming

variable {style : NumberStyle}

/-- A node that cannot be picked is out of range. -/
theorem pick_eq_error {nodes : List (List Char)} {name : String} {indices : List Int}
    {fault : ArgumentFault} (h : pick nodes name indices = .error fault) :
    ∃ index ∈ indices, fault = .nodeOutOfRange index name := by
  induction indices with
  | nil => cases h
  | cons index rest ih =>
    rw [pick] at h
    cases hn : nodeAt? nodes index with
    | none =>
      rw [hn] at h
      exact ⟨index, List.mem_cons_self, (Except.error.inj h).symm⟩
    | some node =>
      rw [hn] at h
      obtain ⟨i, hi, hfault⟩ := ih (map_eq_error_iff.1 h)
      exact ⟨i, List.mem_cons_of_mem _ hi, hfault⟩

/-- A series cannot be renamed only if it does not have a node that is asked for. -/
theorem nameOf_eq_error {r : Renaming} {s : Series} {fault : ArgumentFault}
    (h : r.nameOf style s = .error fault) :
    ∃ indices, r = .byNode indices ∧ ∃ index ∈ indices, fault = .nodeOutOfRange index s.name := by
  cases r with
  | whole | substitute | legend => cases h
  | byNode indices => exact ⟨indices, rfl, pick_eq_error (map_eq_error_iff.1 h)⟩

/-- Renaming fails for a node that is out of range only. -/
theorem apply_eq_error {r : Renaming} {inputs : List Series} {fault : ArgumentFault}
    (h : r.apply style inputs = .error fault) :
    ∃ indices, r = .byNode indices ∧
      ∃ index ∈ indices, ∃ s ∈ inputs, fault = .nodeOutOfRange index s.name := by
  induction inputs with
  | nil => cases h
  | cons s rest ih =>
    rw [apply] at h
    rcases bind_eq_error_iff.1 h with hname | ⟨_, -, h⟩
    · obtain ⟨indices, hr, index, hindex, hfault⟩ := nameOf_eq_error hname
      exact ⟨indices, hr, index, hindex, s, List.mem_cons_self, hfault⟩
    · rcases bind_eq_error_iff.1 h with hrest | ⟨_, -, h⟩
      · obtain ⟨indices, hr, index, hindex, t, ht, hfault⟩ := ih hrest
        exact ⟨indices, hr, index, hindex, t, List.mem_cons_of_mem _ ht, hfault⟩
      · cases h

end Renaming

/-! ## Combining -/

section

variable {function name : String} {r : Reducer} {first : Series} {rest : List Series}

/-- Series combine if they are aligned and there is room for their interval. -/
theorem combine_cons_eq_ok_iff {outputs : List Series} :
    combine function name r (first :: rest) = .ok outputs ↔
      areAligned (first :: rest) = true ∧
        Series.slotCount first.start first.stop first.step ≤ Series.maxSlots ∧
        [⟨name, first.start, first.stop, first.step, (List.range first.samples.length).map
          fun i => r.apply (column (first :: rest) i)⟩] = outputs := by
  rw [combine]
  by_cases h : areAligned (first :: rest) = true
  · rw [if_pos h, bind_eq_ok_iff, and_iff_right h]
    simp [mapError_eq_ok_iff, Series.room_eq_ok_iff, pure, Except.pure]
  · simp [h]

/-- Otherwise they fail to, or there is a crash. -/
theorem combine_cons_eq_error_iff {error : EvalError} :
    combine function name r (first :: rest) = .error error ↔
      if areAligned (first :: rest) = true then
        Series.maxSlots < Series.slotCount first.start first.stop first.step ∧
          error = .crashed .capacity
      else error = .notAligned function := by
  rw [combine]
  by_cases h : areAligned (first :: rest) = true
  · rw [if_pos h, if_pos h, bind_eq_error_iff, mapError_eq_error_iff]
    constructor
    · rintro (⟨overflow, hroom, rfl⟩ | ⟨_, -, h⟩)
      · obtain ⟨hlt, rfl⟩ := Series.room_eq_error_iff.1 hroom
        exact ⟨hlt, rfl⟩
      · cases h
    · rintro ⟨hlt, rfl⟩
      exact Or.inl ⟨.capacity, Series.room_eq_error_iff.2 ⟨hlt, rfl⟩, rfl⟩
  · rw [if_neg h, if_neg h, Except.error.injEq, eq_comm]

end

namespace Operation

variable {o : Operation} {style : NumberStyle} {function : String} {args : List Expr}

theorem apply_nil (o : Operation) (style : NumberStyle) (function : String) (args : List Expr) :
    o.apply style function args [] = .ok [] := by
  cases o with
  | filter f => cases f <;> simp [apply, Filter.apply]
  | _ => rfl

/-- What can go wrong with series : their grids, the room for a new one, or a node. -/
theorem apply_eq_error {inputs : List Series} {error : EvalError}
    (h : o.apply style function args inputs = .error error) :
    error = .notAligned function ∨ error = .crashed .capacity ∨
      ∃ indices, o = .rename (.byNode indices) ∧ ∃ index ∈ indices, ∃ s ∈ inputs,
        error = .invalidArgument function (.nodeOutOfRange index s.name) := by
  cases o with
  | combine r =>
    cases inputs with
    | nil => cases h
    | cons first rest =>
      have herror := combine_cons_eq_error_iff.1 h
      split at herror
      · exact Or.inr (Or.inl herror.2)
      · exact Or.inl herror
  | transform | filter => cases h
  | rename r =>
    obtain ⟨fault, hfault, rfl⟩ := mapError_eq_error_iff.1 h
    obtain ⟨indices, rfl, index, hindex, s, hs, rfl⟩ := Renaming.apply_eq_error hfault
    exact Or.inr (Or.inr ⟨indices, rfl, index, hindex, s, hs, rfl⟩)

end Operation

end SeriesRender
