import SeriesRender.Output.Format
import SeriesRender.Proofs.Decimal.Value
import SeriesRender.Proofs.Output.JsonGrammar

/-!
# Numbers in JSON

Integers and finite floats are written as numerals (`hasNumerals_ofInt`, `hasNumerals_ofFloat`), and
only what is not finite is null (`ofFloat_eq_null_iff`). The digits of a float are those of a number
that is not zero (`digits_shortest_ne_zero`), so no zero stands in front of them.
-/

namespace SeriesRender

/-! ## The digits of a float -/

namespace Decimal

theorem Ratio.num_scaled_pos {n : Nat} (hn : 0 < n) (q : Int) : 0 < (scaled n q).num := by
  cases q with
  | ofNat e => exact Nat.mul_pos hn (Nat.two_pow_pos e)
  | negSucc e => exact hn

theorem Ratio.num_inUnits_pos {r : Ratio} (hr : 0 < r.num) (e : Int) : 0 < (r.inUnits e).num := by
  cases e with
  | ofNat k => exact hr
  | negSucc k => exact Nat.mul_pos hr (Nat.pow_pos (by decide))

theorem Basin.num_low_pos {m : Nat} (hm : m ≠ 0) (q : Int) : 0 < (Basin.of m q).low.num :=
  Ratio.num_scaled_pos (by split <;> omega) _

/-- Zero does not lie in the basin of another number. -/
theorem Basin.ne_zero_of_holds {m n : Nat} (hm : m ≠ 0) {q e : Int}
    (h : (Basin.of m q).holds n e = true) : n ≠ 0 := by
  rintro rfl
  have hlow := Ratio.num_inUnits_pos (num_low_pos hm q) e
  unfold holds at h
  dsimp only at h
  split at h
  · have hle := of_decide_eq_true (Bool.and_eq_true_iff.1 h).1
    omega
  · have hlt := of_decide_eq_true (Bool.and_eq_true_iff.1 h).1
    omega

/-- Rounding takes the whole part at least. -/
theorem Ratio.div_le_round (tie : Tie) (r : Ratio) : r.num / r.den ≤ r.round tie := by
  unfold round
  dsimp only
  split
  · exact Nat.le_refl _
  · split
    · exact Nat.le_succ _
    · cases tie with
      | up => exact Nat.le_succ _
      | toEven =>
        dsimp only
        split
        · exact Nat.le_refl _
        · exact Nat.le_succ _

/-- On a grid, too, the number found is not zero. -/
theorem Basin.digits_ne_zero_of_onGrid? {m : Nat} (hm : m ≠ 0) {q e : Int} {tie : Tie}
    {d : Scientific} (h : (Basin.of m q).onGrid? tie e = some d) : d.digits ≠ 0 := by
  unfold onGrid? at h
  dsimp only at h
  split at h
  · next hdown _ =>
    obtain rfl := Option.some.inj h
    exact Nat.ne_zero_of_lt (Nat.lt_of_lt_of_le (Nat.pos_of_ne_zero (ne_zero_of_holds hm hdown))
      (Ratio.div_le_round _ _))
  · next hdown _ =>
    obtain rfl := Option.some.inj h
    exact ne_zero_of_holds hm hdown
  · next hup =>
    obtain rfl := Option.some.inj h
    exact ne_zero_of_holds hm hup
  · cases h

theorem Scientific.digits_dropZeros_ne_zero {fuel : Nat} {d : Scientific} (h : d.digits ≠ 0) :
    (d.dropZeros fuel).digits ≠ 0 := by
  induction fuel generalizing d with
  | zero => exact h
  | succ fuel ih =>
    unfold dropZeros
    split
    · exact ih (by dsimp only; omega)
    · exact h

theorem digits_shortest_ne_zero (tie : Tie) {m : Nat} (hm : m ≠ 0) (q : Int) :
    (shortest tie m q).digits ≠ 0 := by
  unfold shortest
  refine Scientific.digits_dropZeros_ne_zero ?_
  cases hfound : (List.range 17).findSome? fun n => (Basin.of m q).onGrid? tie
      ((Basin.of m q).value.magnitude - (n + 1 : Nat)) with
  | none => exact (Ratio.num_scaled_pos (by omega) _).ne'
  | some d =>
    obtain ⟨n, -, hd⟩ := List.exists_of_findSome?_eq_some hfound
    exact Basin.digits_ne_zero_of_onGrid? hm hd

end Decimal

/-! ## Numerals -/

namespace Json

open Decimal

/-- No zero stands in front of the digits. -/
theorem isWhole_cons {c : Char} {cs : List Char} (hc : c ≠ '0')
    (hdigits : ∀ d ∈ c :: cs, d.isDigit = true) : IsWhole (c :: cs) :=
  ⟨⟨List.cons_ne_nil _ _, hdigits⟩, fun h => absurd (Option.some.inj h) hc⟩

/-- Digits of a number that is not zero have no zero in front. -/
theorem exists_digitChars_eq_cons {n : Nat} (hn : n ≠ 0) : ∃ c cs, digitChars n = c :: cs ∧
    c ≠ '0' ∧ ∀ d ∈ c :: cs, d.isDigit = true := by
  obtain ⟨hne, hdigits⟩ := isDigits_digitChars n
  obtain ⟨c, cs, h⟩ := List.exists_cons_of_ne_nil hne
  refine ⟨c, cs, h, ?_, h ▸ hdigits⟩
  rintro rfl
  exact head?_digitChars_ne hn (h ▸ rfl)

theorem isWhole_zero : IsWhole ['0'] :=
  ⟨by decide, fun _ => rfl⟩

/-- A whole number with a sign is a numeral. -/
theorem isNumeral_signed (negative : Bool) (n : Nat) :
    IsNumeral (signed negative (digitChars n)) := by
  have hwhole : IsWhole (digitChars n) := by
    by_cases hn : n = 0
    · subst hn
      exact isWhole_zero
    · obtain ⟨c, cs, h, hc, hdigits⟩ := exists_digitChars_eq_cons hn
      exact h ▸ isWhole_cons hc hdigits
  simpa using IsNumeral.mk negative hwhole (Or.inl rfl) (Or.inl rfl)

/-- An exponent as it is written is one of the grammar. -/
theorem isExponent_exponentChars (e : Int) : IsExponent (Layout.exponentChars e) := by
  refine Or.inr ⟨'e', [if e < 0 then '-' else '+'], _, rfl, by decide, ?_, isDigits_digitChars _⟩
  split <;> decide

/-- Digits behind a point make a numeral. -/
theorem isNumeral_places (negative : Bool) {whole places : List Char} (hwhole : IsWhole whole)
    (hplaces : IsDigits places) : IsNumeral (signed negative (whole ++ '.' :: places)) := by
  simpa using IsNumeral.mk negative hwhole (Or.inr ⟨places, rfl, hplaces⟩) (Or.inl rfl)

/-- Digits make a numeral in every layout, if no zero stands in front of them. -/
theorem isNumeral_layout (l : Layout) (negative : Bool) {c : Char} {cs : List Char} (hc : c ≠ '0')
    (hdigits : ∀ d ∈ c :: cs, d.isDigit = true) (e : Int) :
    IsNumeral (signed negative (l.digits (c :: cs) e)) := by
  have hzeros : ∀ k, ∀ d ∈ List.replicate k '0', d.isDigit = true := by
    intro k d hd
    rw [List.eq_of_mem_replicate hd]
    rfl
  have hlength : (c :: cs).length = cs.length + 1 := rfl
  unfold Layout.digits positional
  dsimp only
  split
  · split
    · -- A whole number, with zeros up to the point.
      rw [if_neg (by omega), if_pos (by omega)]
      exact isNumeral_places negative
        (isWhole_cons hc (List.forall_mem_append.2 ⟨hdigits, hzeros _⟩)) (by decide)
    · split
      · -- A number below one.
        exact isNumeral_places negative isWhole_zero
          ⟨by simp, List.forall_mem_append.2 ⟨hzeros _, hdigits⟩⟩
      · -- The point stands among the digits.
        rw [if_neg (by omega)]
        obtain ⟨k, hk⟩ : ∃ k, (((c :: cs).length : Int) + e).toNat = k + 1 :=
          ⟨(((c :: cs).length : Int) + e).toNat - 1, by omega⟩
        rw [hk, List.take_succ_cons, List.drop_succ_cons]
        refine isNumeral_places negative (isWhole_cons hc fun d hd => hdigits d ?_)
          ⟨mt List.drop_eq_nil_iff.1 (by omega), fun d hd => hdigits d ?_⟩
        · exact List.cons_subset_cons c (List.take_subset k cs) hd
        · exact List.mem_cons_of_mem c (List.mem_of_mem_drop hd)
  · -- One digit before the point, and an exponent.
    have hfirst : IsWhole [c] :=
      isWhole_cons hc (List.forall_mem_singleton.2 (hdigits c List.mem_cons_self))
    cases cs with
    | nil => exact .mk negative hfirst (Or.inl rfl) (isExponent_exponentChars _)
    | cons d ds =>
      have hplaces : IsDigits (d :: ds) :=
        ⟨List.cons_ne_nil _ _, (List.forall_mem_cons.1 hdigits).2⟩
      exact .mk negative hfirst (Or.inr ⟨_, rfl, hplaces⟩) (isExponent_exponentChars _)

/-- Whatever the layout, what is written is a numeral. -/
theorem isNumeral_of_chars? {l : Layout} {x : Float} {text : List Char}
    (h : l.chars? x = some text) : IsNumeral text := by
  unfold Layout.chars? at h
  split at h
  · cases h
  · cases h
  · next negative m q _ =>
    split at h
    · obtain rfl := Option.some.inj h
      exact isNumeral_places negative isWhole_zero (by decide : IsDigits ['0'])
    · next hm =>
      obtain rfl := Option.some.inj h
      obtain ⟨c, cs, hcs, hc, hdigits⟩ :=
        exists_digitChars_eq_cons (digits_shortest_ne_zero l.tie hm q)
      rw [hcs]
      exact isNumeral_layout _ negative hc hdigits _

/-! ## Numbers -/

theorem hasNumerals_ofInt (n : Int) : (ofInt n).HasNumerals :=
  .number (isNumeral_signed _ _)

variable {x : Float}

/-- A number without a text is not finite. -/
theorem chars?_eq_none_iff (l : Layout) : l.chars? x = none ↔ x.isFinite = false := by
  rw [← Bool.not_eq_true, isFinite_iff]
  unfold Layout.chars?
  split
  · next h => simp [h]
  · next h => simp [h]
  · next h => split <;> simp [h]

/-- Only what is not finite is null. -/
theorem ofFloat_eq_null_iff : ofFloat x = .null ↔ x.isFinite = false := by
  rw [← chars?_eq_none_iff Layout.json, ofFloat]
  cases Layout.json.chars? x with
  | none => exact iff_of_true rfl rfl
  | some text => exact iff_of_false (fun h => by cases h) fun h => by cases h

/-- Each number is written as a numeral, or as null. -/
theorem hasNumerals_ofFloat (x : Float) : (ofFloat x).HasNumerals := by
  unfold ofFloat
  split
  · next h => exact .number (isNumeral_of_chars? h)
  · exact .null

end Json

end SeriesRender
