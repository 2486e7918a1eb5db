import SeriesRender.Decimal.Numeral
import SeriesRender.Decimal.Reading

/-!
# Strings of digits

A string of digits is read place by place (`readNat?_eq_some_iff`). A number is written in digits
without a zero in front of others (`head?_digitChars_ne`). An integer is read back from the digits
and the sign it is written with (`readInt?_signed`), so no two integers are written alike.
-/

namespace SeriesRender.Decimal

/-- Digits, at least one, and nothing else. -/
def IsDigits (cs : List Char) : Prop :=
  cs ≠ [] ∧ ∀ c ∈ cs, c.isDigit = true

instance (cs : List Char) : Decidable (IsDigits cs) :=
  @instDecidableAnd _ _ _ (List.decidableBAll _ cs)

variable {cs : List Char} {n : Nat}

theorem mem_digits_of_isDigit {c : Char} (h : c.isDigit = true) : c ∈ "0123456789".toList := by
  have hdigits : ∀ n < 58, 48 ≤ n → Char.ofNat n ∈ "0123456789".toList := by decide
  obtain ⟨hlow, hhigh⟩ := Char.isDigit_iff_toNat.1 h
  rw [← Char.ofNat_toNat c]
  exact hdigits _ (Nat.lt_succ_of_le hhigh) hlow

theorem IsDigits.subset (h : IsDigits cs) : cs ⊆ "0123456789".toList :=
  fun c hc => mem_digits_of_isDigit (h.2 c hc)

/-! ## Reading -/

theorem digitsValue_eq (n : Nat) (cs : List Char) :
    digitsValue n cs = Nat.ofDigitChars 10 cs n := by
  rw [Nat.ofDigitChars_eq_foldl]
  induction cs generalizing n with
  | nil => rfl
  | cons c cs ih => exact ih _

/-- A whole number is read from digits and from nothing else. -/
theorem readNat?_eq_some_iff :
    readNat? cs = some n ↔ IsDigits cs ∧ Nat.ofDigitChars 10 cs 0 = n := by
  rw [← digitsValue_eq]
  unfold readNat? IsDigits
  by_cases hnil : cs = []
  · simp [hnil]
  · by_cases hall : ∀ c ∈ cs, c.isDigit = true
    · simp only [List.isEmpty_iff, hnil, if_false, List.all_eq_true.2 hall, if_true,
        Option.some.injEq]
      exact (and_iff_right ⟨hnil, hall⟩).symm
    · have hany : cs.all Char.isDigit = false := by simpa using hall
      simp [hnil, hany, hall]

theorem readNat?_int_eq_some_iff {z : Int} : (readNat? cs).bind (fun n => some (n : Int)) = some z ↔
    IsDigits cs ∧ Nat.ofDigitChars 10 cs 0 = z := by
  rw [Option.bind_eq_some_iff]
  constructor
  · rintro ⟨n, hn, h⟩
    obtain ⟨hcs, rfl⟩ := readNat?_eq_some_iff.1 hn
    exact ⟨hcs, Option.some.inj h⟩
  · rintro ⟨hcs, rfl⟩
    exact ⟨_, readNat?_eq_some_iff.2 ⟨hcs, rfl⟩, rfl⟩

theorem not_isDigits_cons {c : Char} (hc : c.isDigit = false) (cs : List Char) :
    ¬IsDigits (c :: cs) := by
  intro h
  cases hc.symm.trans (h.2 c List.mem_cons_self)

/-- Digits, perhaps with a sign in front. -/
theorem readInt?_eq_some_iff {z : Int} : readInt? cs = some z ↔
    ∃ ds, IsDigits ds ∧ ((cs = ds ∨ cs = '+' :: ds) ∧ Nat.ofDigitChars 10 ds 0 = z ∨
      cs = '-' :: ds ∧ -(Nat.ofDigitChars 10 ds 0 : Int) = z) := by
  unfold readInt?
  fun_cases readSign cs with
  | case1 cs =>
    rw [Option.map_eq_some_iff]
    constructor
    · rintro ⟨n, hn, rfl⟩
      obtain ⟨hcs, rfl⟩ := readNat?_int_eq_some_iff.1 hn
      exact ⟨cs, hcs, Or.inr ⟨rfl, rfl⟩⟩
    · rintro ⟨ds, hds, ⟨rfl | h, -⟩ | ⟨h, rfl⟩⟩
      · exact absurd hds (not_isDigits_cons rfl cs)
      · cases h
      · obtain rfl := (List.cons.inj h).2
        exact ⟨_, readNat?_int_eq_some_iff.2 ⟨hds, rfl⟩, rfl⟩
  | case2 cs =>
    rw [Option.map_eq_some_iff]
    constructor
    · rintro ⟨n, hn, rfl⟩
      obtain ⟨hcs, rfl⟩ := readNat?_int_eq_some_iff.1 hn
      exact ⟨cs, hcs, Or.inl ⟨Or.inr rfl, rfl⟩⟩
    · rintro ⟨ds, hds, ⟨rfl | h, rfl⟩ | ⟨h, -⟩⟩
      · exact absurd hds (not_isDigits_cons rfl cs)
      · obtain rfl := (List.cons.inj h).2
        exact ⟨_, readNat?_int_eq_some_iff.2 ⟨hds, rfl⟩, rfl⟩
      · cases h
  | case3 cs hm hp =>
    rw [Option.map_eq_some_iff]
    constructor
    · rintro ⟨n, hn, rfl⟩
      obtain ⟨hcs, rfl⟩ := readNat?_int_eq_some_iff.1 hn
      exact ⟨cs, hcs, Or.inl ⟨Or.inl rfl, rfl⟩⟩
    · rintro ⟨ds, hds, ⟨rfl | h, rfl⟩ | ⟨h, -⟩⟩
      · exact ⟨_, readNat?_int_eq_some_iff.2 ⟨hds, rfl⟩, rfl⟩
      · exact (hp ds h).elim
      · exact (hm ds h).elim

/-! ## Writing -/

theorem digitChars_eq (n : Nat) : digitChars n = Nat.toDigits 10 n :=
  Nat.toList_repr

/-- What is written for a number are digits. -/
theorem isDigits_digitChars (n : Nat) : IsDigits (digitChars n) := by
  rw [digitChars_eq]
  exact ⟨Nat.toDigits_ne_nil, fun c hc => Nat.isDigit_of_mem_toDigits (by decide) (by decide) hc⟩

/-- Only zero is written with a zero in front. -/
theorem head?_digitChars_ne (h : n ≠ 0) : (digitChars n).head? ≠ some '0' := by
  rw [digitChars_eq]
  induction n using Nat.strongRecOn with
  | ind n ih =>
    by_cases hn : n < 10
    · rw [Nat.toDigits_of_lt_base hn]
      simpa using h
    · have hle : 10 ≤ n := by omega
      rw [Nat.toDigits_of_base_le (by decide) hle, List.head?_append,
        List.head?_eq_some_head Nat.toDigits_ne_nil, Option.some_or, ← List.head?_eq_some_head]
      exact ih (n / 10) (by omega) (by omega)

/-- An integer is read back from its sign and its digits. -/
theorem readInt?_signed (z : Int) : readInt? (signed (z < 0) (digitChars z.natAbs)) = some z := by
  have hdigits := isDigits_digitChars z.natAbs
  have hvalue : Nat.ofDigitChars 10 (digitChars z.natAbs) 0 = z.natAbs := by
    rw [digitChars_eq]
    exact Nat.ofDigitChars_ten_toDigits
  rw [readInt?_eq_some_iff]
  refine ⟨digitChars z.natAbs, hdigits, ?_⟩
  rw [hvalue]
  by_cases hz : z < 0
  · rw [decide_eq_true hz]
    exact Or.inr ⟨rfl, by omega⟩
  · rw [decide_eq_false hz]
    exact Or.inl ⟨Or.inl rfl, by omega⟩

end SeriesRender.Decimal
