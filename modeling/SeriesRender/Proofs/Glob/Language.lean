import SeriesRender.Proofs.Glob.Reading

/-!
# Patterns without classes

A pattern without a class is rejected for one reason only, an opening brace that is never closed, as
long as its translation keeps the limits that hold for all regular expressions (`WithinLimits`). Any
other one means the language of its tree (`compile_language`) : its classes would be the only thing
that the reader of regular expressions can find fault with (`exists_items?`).
-/

namespace SeriesRender.Glob

open Regex

/-- Whether the translation of a pattern is neither nested too deep nor too large. -/
def WithinLimits (p : List Char) : Prop :=
  ∀ m ∈ (regexText p).toOption.bind Machine.start.read, m.Fits

instance (m : Machine) : Decidable m.Fits :=
  inferInstanceAs (Decidable (_ ∧ _))

instance (p : List Char) : Decidable (WithinLimits p) :=
  inferInstanceAs (Decidable (∀ m ∈ (regexText p).toOption.bind Machine.start.read, m.Fits))

mutual

/-- A piece without a bracket is always a pattern. -/
theorem exists_item? {inside : Bool} {q : List Char} {p : Piece} (h : SpellsPiece inside q p)
    (hclass : '[' ∉ q) : ∃ i, p.item? = some i := by
  cases h with
  | char => exact ⟨_, rfl⟩
  | one => exact ⟨_, rfl⟩
  | run => exact ⟨_, rfl⟩
  | cls => exact absurd (List.mem_cons_self ..) hclass
  | @choice _ q o h =>
    obtain ⟨b, hb⟩ := exists_body? h (fun hmem => hclass (by simp [hmem])) []
    exact ⟨_, Option.map_eq_some_iff.2 ⟨b, hb, rfl⟩⟩

/-- The reader finds no fault with a pattern without classes. -/
theorem exists_items? {inside : Bool} {q : List Char} {t : Tree} (h : Spells inside q t)
    (hclass : '[' ∉ q) : ∃ items, t.items? = some items := by
  cases h with
  | nil => exact ⟨[], rfl⟩
  | @cons _ q r p t hp ht =>
    rw [List.mem_append, not_or] at hclass
    obtain ⟨i, hi⟩ := exists_item? hp hclass.1
    obtain ⟨items, hitems⟩ := exists_items? ht hclass.2
    exact ⟨items ++ [i], by rw [Tree.items?, hi, hitems]; rfl⟩

theorem exists_body? {q : List Char} {o : Options} (h : SpellsOptions q o) (hclass : '[' ∉ q)
    (branches : List Item) : ∃ b, o.body? branches = some b := by
  cases h with
  | @last q t h =>
    obtain ⟨items, hitems⟩ := exists_items? h hclass
    exact ⟨⟨branches, items⟩, by rw [Options.body?, hitems]; rfl⟩
  | @more q r t o ht ho =>
    rw [List.mem_append, List.mem_cons, not_or, not_or] at hclass
    obtain ⟨items, hitems⟩ := exists_items? ht hclass.1
    obtain ⟨b, hb⟩ := exists_body? ho hclass.2.2 (branchOf items :: branches)
    exact ⟨b, by rw [Options.body?, hitems]; exact hb⟩

end

variable {p : List Char}

/-- A pattern with an open brace is refused. -/
theorem compile_of_hasUnclosed (hclass : '[' ∉ p) (h : HasUnclosed p) :
    compile p = .error .unterminatedChoice := by
  cases htext : regexTextFrom false 0 p with
  | ok text => exact absurd h ((exists_regexTextFrom_iff hclass).1 ⟨text, htext⟩).1
  | error e =>
    rw [compile, regexText, htext, eq_of_regexTextFrom_eq_error hclass htext]
    rfl

/-- A pattern without an open brace is compiled unless it is too large, and has a tree. -/
theorem exists_compile (hclass : '[' ∉ p) (hlimits : WithinLimits p) (h : ¬ HasUnclosed p) :
    ∃ r t, compile p = .ok r ∧ Spells false p t := by
  obtain ⟨text, htext⟩ := (exists_regexTextFrom_iff hclass).2 ⟨h, closes_zero p⟩
  obtain ⟨t, ht⟩ := exists_spells htext
  obtain ⟨items, hitems⟩ := exists_items? ht hclass
  have hread : (regexText p).toOption.bind Machine.start.read = some (anchored items) := by
    rw [regexText_spells ht]
    exact (read_anchored ht).trans (by rw [hitems]; rfl)
  exact ⟨_, t, (compile_eq_ok_iff ht).2 ⟨items, hitems, hlimits _ hread, rfl⟩, ht⟩

/-- A pattern without classes is rejected exactly if it leaves a brace open, and otherwise matches
the texts of its language, however it is taken to be spelled. -/
theorem compile_language (hclass : '[' ∉ p) (hlimits : WithinLimits p) :
    (∀ e, compile p = .error e ↔ HasUnclosed p ∧ e = .unterminatedChoice) ∧
      (¬ HasUnclosed p → ∃ r, compile p = .ok r ∧ (∃ t, Spells false p t) ∧
        ∀ t, Spells false p t → ∀ n, r.isMatch n = true ↔ n ∈ t.language) := by
  have hclosed : ¬ HasUnclosed p → ∃ r t, compile p = .ok r ∧ Spells false p t :=
    exists_compile hclass hlimits
  refine ⟨fun e => ⟨fun he => ?_, ?_⟩, fun h => ?_⟩
  · by_cases h : HasUnclosed p
    · rw [compile_of_hasUnclosed hclass h] at he
      exact ⟨h, (Except.error.inj he).symm⟩
    · obtain ⟨r, t, hr, -⟩ := hclosed h
      rw [hr] at he
      cases he
  · rintro ⟨h, rfl⟩
    exact compile_of_hasUnclosed hclass h
  · obtain ⟨r, t, hr, ht⟩ := hclosed h
    exact ⟨r, hr, ⟨t, ht⟩, fun t ht => isMatch_iff ht hr⟩

/-- A choice within a choice, one of its patterns empty, and a brace that closes nothing. -/
def nestedChoice : List Char :=
  ['{', 'b', '*', ',', '{', 'c', ',', '}', '?', '}', '}']

/-- The language of a choice in a choice. -/
theorem compile_language_nestedChoice :
    '[' ∉ nestedChoice ∧ WithinLimits nestedChoice ∧
      (∀ e, compile nestedChoice = .error e ↔
        HasUnclosed nestedChoice ∧ e = .unterminatedChoice) ∧
      (¬ HasUnclosed nestedChoice → ∃ r, compile nestedChoice = .ok r ∧
        (∃ t, Spells false nestedChoice t) ∧
        ∀ t, Spells false nestedChoice t → ∀ n, r.isMatch n = true ↔ n ∈ t.language) :=
  have hclass : '[' ∉ nestedChoice := by decide
  have hlimits : WithinLimits nestedChoice := by decide +kernel
  ⟨hclass, hlimits, compile_language hclass hlimits⟩

end SeriesRender.Glob
