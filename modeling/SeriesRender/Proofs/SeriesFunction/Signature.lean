import SeriesRender.Proofs.Basic
import SeriesRender.SeriesFunction.Signature

/-!
# What a signature accepts

`Signature.Declares` says what kind a signature declares for the argument at a position : the kind
listed there, or behind the listed ones that of any further arguments. `check_declared` says that
`Signature.check` accepts exactly the lists of an admissible length whose arguments have the kinds
that are declared for them, and that of any other list of such a length it names the first argument
of another kind. The length and the kinds are compared one after the other, but they agree : for
every argument of a list of admissible length a kind is declared (`exists_kindAt?`).
-/

namespace SeriesRender

open Target

namespace Signature

variable {s : Signature} {args : List Expr}

/-! ## Lengths and positions -/

/-- The kind that is declared for the argument at a position. -/
def Declares (s : Signature) (index : Nat) (kind : Kind) : Prop :=
  (s.required ++ s.optional)[index]? = some kind ∨
    (s.required ++ s.optional).length ≤ index ∧ s.variadic = some kind

/-- A signature admits as many arguments as it has required ones, and no more than it declares. -/
theorem admits_iff {n : Nat} : s.admits n = true ↔ s.required.length ≤ n ∧
    (s.variadic = none → n ≤ s.required.length + s.optional.length) := by
  unfold admits least most
  cases s.variadic with
  | none => simp
  | some kind => simp

/-- The kind at a position is the one that is declared there. -/
theorem kindAt?_eq_some_iff {index : Nat} {kind : Kind} :
    s.kindAt? index = some kind ↔ s.Declares index kind := by
  unfold kindAt? Declares
  rw [Option.or_eq_some_iff, List.getElem?_eq_none_iff]

/-- A kind is declared for every argument of a list of admissible length. -/
theorem exists_kindAt? {n index : Nat} (h : s.admits n = true) (hi : index < n) :
    ∃ kind, s.kindAt? index = some kind := by
  rw [← Option.isSome_iff_exists, ← Option.ne_none_iff_isSome]
  intro hnone
  -- the position would be behind the last one, in a list that is not that long
  obtain ⟨hpast, hrest⟩ := Option.or_eq_none_iff.1 hnone
  rw [List.getElem?_eq_none_iff, List.length_append] at hpast
  have := (admits_iff.1 h).2 hrest
  omega

/-! ## The first argument of another kind -/

/-- An argument of the declared kind is passed over. -/
theorem checkKinds_cons_of_fits {index : Nat} {arg : Expr}
    (h : ∀ kind, s.kindAt? index = some kind → arg.kind = kind) :
    s.checkKinds index (arg :: args) = s.checkKinds (index + 1) args := by
  rw [checkKinds]
  cases hkind : s.kindAt? index with
  | none => rfl
  | some expected => exact if_pos (h expected hkind)

theorem checkKinds_cons_of_ne {index : Nat} {arg : Expr} {expected : Kind}
    (hkind : s.kindAt? index = some expected) (hne : arg.kind ≠ expected) :
    s.checkKinds index (arg :: args) = .error (.kind (index + 1) arg.kind arg.text expected) := by
  rw [checkKinds, hkind]
  exact if_neg hne

/-- Arguments pass if each is of the kind declared at its position. -/
theorem checkKinds_eq_ok_iff {index : Nat} : s.checkKinds index args = .ok () ↔
    ∀ (i : Nat) (arg : Expr), args[i]? = some arg →
      ∀ kind, s.kindAt? (index + i) = some kind → arg.kind = kind := by
  induction args generalizing index with
  | nil => simp [checkKinds]
  | cons arg args ih =>
    have hcons : (∀ (i : Nat) (a : Expr), (arg :: args)[i]? = some a →
          ∀ kind, s.kindAt? (index + i) = some kind → a.kind = kind) ↔
        (∀ kind, s.kindAt? index = some kind → arg.kind = kind) ∧
          ∀ (i : Nat) (a : Expr), args[i]? = some a →
            ∀ kind, s.kindAt? (index + 1 + i) = some kind → a.kind = kind := by
      constructor
      · intro h
        refine ⟨h 0 arg rfl, fun i a ha kind hkind => h (i + 1) a ha kind ?_⟩
        rwa [Nat.add_comm i, ← Nat.add_assoc]
      · rintro ⟨hhead, htail⟩ (_ | i) a ha kind hkind
        · obtain rfl := Option.some.inj ha
          exact hhead kind hkind
        · refine htail i a ha kind ?_
          rwa [Nat.add_assoc, Nat.add_comm 1]
    rw [hcons]
    by_cases hfits : ∀ kind, s.kindAt? index = some kind → arg.kind = kind
    · rw [checkKinds_cons_of_fits hfits, ih, and_iff_right hfits]
    · obtain ⟨expected, hkind, hne⟩ : ∃ kind, s.kindAt? index = some kind ∧ arg.kind ≠ kind := by
        simpa using hfits
      rw [checkKinds_cons_of_ne hkind hne]
      exact iff_of_false (fun h => by cases h) fun h => hfits h.1

/-- Comparing kinds fails at the first argument that has not the kind at its position. -/
theorem checkKinds_eq_error_iff {index : Nat} {fault : ArgumentFault} :
    s.checkKinds index args = .error fault ↔ ∃ before arg after expected,
      args = before ++ arg :: after ∧ s.checkKinds index before = .ok () ∧
      s.kindAt? (index + before.length) = some expected ∧ arg.kind ≠ expected ∧
      fault = .kind (index + before.length + 1) arg.kind arg.text expected := by
  induction args generalizing index with
  | nil =>
    refine iff_of_false (fun h => by cases h) ?_
    rintro ⟨before, arg, after, -, h, -⟩
    simp at h
  | cons a args ih =>
    by_cases hfits : ∀ kind, s.kindAt? index = some kind → a.kind = kind
    · rw [checkKinds_cons_of_fits hfits, ih]
      constructor
      · rintro ⟨before, arg, after, expected, rfl, hbefore, hkind, hne, rfl⟩
        refine ⟨a :: before, arg, after, expected, rfl, ?_, ?_, hne, ?_⟩
        · rwa [checkKinds_cons_of_fits hfits]
        · rwa [List.length_cons, Nat.add_comm before.length, ← Nat.add_assoc]
        · rw [List.length_cons, Nat.add_comm before.length, ← Nat.add_assoc]
      · rintro ⟨before, arg, after, expected, hargs, hbefore, hkind, hne, rfl⟩
        cases before with
        | nil =>
          obtain ⟨rfl, -⟩ := List.cons.inj hargs
          exact absurd (hfits expected hkind) hne
        | cons b before =>
          obtain ⟨rfl, rfl⟩ := List.cons.inj hargs
          rw [checkKinds_cons_of_fits hfits] at hbefore
          rw [List.length_cons, Nat.add_comm before.length, ← Nat.add_assoc] at hkind ⊢
          exact ⟨before, arg, after, expected, rfl, hbefore, hkind, hne, rfl⟩
    · obtain ⟨expected, hkind, hne⟩ : ∃ kind, s.kindAt? index = some kind ∧ a.kind ≠ kind := by
        simpa using hfits
      rw [checkKinds_cons_of_ne hkind hne]
      constructor
      · intro h
        exact ⟨[], a, args, expected, rfl, rfl, hkind, hne, (Except.error.inj h).symm⟩
      · rintro ⟨before, arg, after, expected', hargs, hbefore, hkind', -, rfl⟩
        cases before with
        | nil =>
          obtain ⟨rfl, -⟩ := List.cons.inj hargs
          obtain rfl := Option.some.inj (hkind.symm.trans hkind')
          rfl
        | cons b before =>
          obtain ⟨rfl, -⟩ := List.cons.inj hargs
          rw [checkKinds_cons_of_ne hkind hne] at hbefore
          cases hbefore

/-! ## Accepted lists -/

theorem check_eq_ok_iff : s.check args = .ok () ↔ s.admits args.length = true ∧
    ∀ (i : Nat) (arg : Expr), args[i]? = some arg →
      ∀ kind, s.kindAt? i = some kind → arg.kind = kind := by
  unfold check
  by_cases h : s.admits args.length = true
  · simp [h, checkKinds_eq_ok_iff]
  · simp [h]

/-- Arguments of the kinds at their positions are accepted, if there is the right number of them. -/
theorem check_of_kinds (kinds : List Kind) (hargs : args.map Expr.kind = kinds)
    (hadmits : s.admits kinds.length = true)
    (hkinds : (List.range kinds.length).map s.kindAt? = kinds.map some) : s.check args = .ok () := by
  subst hargs
  rw [List.length_map] at hadmits hkinds
  refine check_eq_ok_iff.2 ⟨hadmits, fun i arg harg kind hkind => ?_⟩
  have hi : i < args.length := (List.getElem?_eq_some_iff.1 harg).1
  have h := congrArg (·[i]?) hkinds
  simp only [List.getElem?_map, List.getElem?_range hi, harg, Option.map_some] at h
  exact (Option.some.inj (hkind.symm.trans (Option.some.inj h))).symm

/-- Every argument has the kind at its position. -/
theorem kindAt?_of_check (h : s.check args = .ok ()) {index : Nat} {arg : Expr}
    (harg : args[index]? = some arg) : s.kindAt? index = some arg.kind := by
  obtain ⟨hadmits, hkinds⟩ := check_eq_ok_iff.1 h
  obtain ⟨kind, hkind⟩ := exists_kindAt? hadmits (List.getElem?_eq_some_iff.1 harg).1
  rw [hkinds index arg harg kind hkind]
  exact hkind

/-- A required argument is there, and of the kind that is asked for. -/
theorem exists_arg_of_check (h : s.check args = .ok ()) {index : Nat} (hi : index < s.least)
    {kind : Kind} (hkind : s.kindAt? index = some kind) :
    ∃ arg, args[index]? = some arg ∧ arg.kind = kind := by
  obtain ⟨hadmits, hkinds⟩ := check_eq_ok_iff.1 h
  have hlength : index < args.length := by
    simp only [admits, Bool.and_eq_true, decide_eq_true_eq] at hadmits
    omega
  exact ⟨args[index], List.getElem?_eq_getElem hlength,
    hkinds index _ (List.getElem?_eq_getElem hlength) kind hkind⟩

/-- In a list of admissible length the kinds that are compared are those that are declared. -/
theorem checkKinds_eq_ok_iff_declares {n : Nat} (h : s.admits n = true) (hn : args.length ≤ n) :
    s.checkKinds 0 args = .ok () ↔
      ∀ (i : Nat) (arg : Expr), args[i]? = some arg → s.Declares i arg.kind := by
  simp only [checkKinds_eq_ok_iff, Nat.zero_add, ← kindAt?_eq_some_iff]
  refine forall_congr' fun i => forall_congr' fun arg => forall_congr' fun harg => ?_
  have hi := (List.getElem?_eq_some_iff.1 harg).1
  obtain ⟨kind, hkind⟩ := exists_kindAt? h (Nat.lt_of_lt_of_le hi hn)
  simp [hkind, eq_comm]

/-- A signature accepts a list of arguments exactly if it has an admissible length and every
argument has the kind that is declared at its position. If only the length is admissible, the error
names the first argument of another kind. At every position of such a list a kind is looked up and
found. -/
theorem check_declared (s : Signature) (args : List Expr) :
    (s.check args = .ok () ↔ (s.required.length ≤ args.length ∧
        (s.variadic = none → args.length ≤ s.required.length + s.optional.length)) ∧
      ∀ (i : Nat) (arg : Expr), args[i]? = some arg → s.Declares i arg.kind) ∧
    (s.required.length ≤ args.length →
      (s.variadic = none → args.length ≤ s.required.length + s.optional.length) →
      (∀ i < args.length, ∃ kind, s.kindAt? i = some kind) ∧
      ∀ fault, s.check args = .error fault ↔ ∃ before arg after expected,
        args = before ++ arg :: after ∧
        (∀ (i : Nat) (a : Expr), before[i]? = some a → s.Declares i a.kind) ∧
        s.Declares before.length expected ∧ arg.kind ≠ expected ∧
        fault = .kind (before.length + 1) arg.kind arg.text expected) := by
  rw [← admits_iff]
  refine ⟨?_, fun hleast hmost => ?_⟩
  · by_cases hadmits : s.admits args.length = true
    · rw [check, if_pos hadmits, checkKinds_eq_ok_iff_declares hadmits (Nat.le_refl _),
        and_iff_right hadmits]
    · rw [check, if_neg hadmits]
      exact iff_of_false (fun h => by cases h) fun h => hadmits h.1
  · have hadmits : s.admits args.length = true := admits_iff.2 ⟨hleast, hmost⟩
    refine ⟨fun i hi => exists_kindAt? hadmits hi, fun fault => ?_⟩
    rw [check, if_pos hadmits, checkKinds_eq_error_iff]
    simp only [Nat.zero_add, kindAt?_eq_some_iff]
    refine exists_congr fun before => exists_congr fun arg => exists_congr fun after =>
      exists_congr fun expected => and_congr_right fun hargs => and_congr_left fun _ => ?_
    refine checkKinds_eq_ok_iff_declares hadmits ?_
    rw [hargs, List.length_append]
    exact Nat.le_add_right ..

/-- One argument of each part of a signature, and a further one of the wrong kind. -/
theorem check_declared_furtherArgument :
    (∀ i < 4, ∃ kind, (⟨[.series], [.number], some .string⟩ : Signature).kindAt? i = some kind) ∧
    (⟨[.series], [.number], some .string⟩ : Signature).check
        [.selector "a", .literal (.number 0.5 "0.5"), .literal (.string "b" '"'),
          .literal (.boolean true)] = .error (.kind 4 .boolean "true" .string) := by
  obtain ⟨hkinds, herror⟩ := (check_declared ⟨[.series], [.number], some .string⟩
    [.selector "a", .literal (.number 0.5 "0.5"), .literal (.string "b" '"'),
      .literal (.boolean true)]).2 (by decide) (by simp)
  refine ⟨hkinds, (herror _).2 ⟨[.selector "a", .literal (.number 0.5 "0.5"),
    .literal (.string "b" '"')], .literal (.boolean true), [], .string, rfl, fun i a ha => ?_,
    Or.inr ⟨Nat.le_succ _, rfl⟩, by decide, rfl⟩⟩
  match i, ha with
  | 0, rfl => exact Or.inl rfl
  | 1, rfl => exact Or.inl rfl
  | 2, rfl => exact Or.inr ⟨Nat.le_refl _, rfl⟩

end Signature

end SeriesRender
