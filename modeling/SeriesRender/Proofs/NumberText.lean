import Mathlib.Tactic.SplitIfs
import SeriesRender.NumberText
import SeriesRender.Proofs.Decimal.Digits

/-!
# The characters of a number

Whatever the style, a number is written with digits, a sign, a point, a suffix, or as the name of
what is not finite : in the characters `numberChars` and no others (`NumberStyle.chars_subset`), and
never as an empty text (`NumberStyle.chars_ne_nil`). A text is `Bare` if it has no parentheses and
no commas, so that it can stand between them, as numbers can (`NumberStyle.bare_chars`).
-/

namespace SeriesRender

/-- The characters that numbers are written with. -/
def numberChars : List Char :=
  "0123456789-.NainfPTGMK".toList

variable {cs : List Char}

/-! ## Numbers -/

namespace Decimal

theorem digitChars_subset (n : Nat) : digitChars n ⊆ numberChars :=
  List.Subset.trans (isDigits_digitChars n).subset (by decide)

theorem replicate_zero_subset (n : Nat) : List.replicate n '0' ⊆ numberChars :=
  List.replicate_subset.2 (Or.inr (by decide))

theorem positional_subset (h : cs ⊆ numberChars) (point : Int) :
    positional cs point ⊆ numberChars := by
  unfold positional
  split_ifs
  · exact List.cons_subset.2 ⟨by decide, List.cons_subset.2 ⟨by decide,
      List.append_subset.2 ⟨replicate_zero_subset _, h⟩⟩⟩
  · exact List.append_subset.2 ⟨h, replicate_zero_subset _⟩
  · exact List.append_subset.2 ⟨List.Subset.trans (List.take_subset _ _) h,
      List.cons_subset.2 ⟨by decide, List.Subset.trans (List.drop_subset _ _) h⟩⟩

theorem signed_subset (h : cs ⊆ numberChars) (negative : Bool) :
    signed negative cs ⊆ numberChars := by
  cases negative with
  | false => exact h
  | true => exact List.cons_subset.2 ⟨by decide, h⟩

theorem plainChars_subset (x : Float) : plainChars x ⊆ numberChars := by
  unfold plainChars
  cases Binary64.ofFloat x with
  | nan => decide
  | infinite negative => exact signed_subset (by decide) negative
  | finite negative m q =>
    dsimp only
    split_ifs
    · exact signed_subset (by decide) negative
    · exact signed_subset (positional_subset (digitChars_subset _) _) negative

/-- With a fixed number of places there are no other characters than those of numbers. -/
theorem placesChars_subset (n : Nat) (x : Float) : placesChars n x ⊆ numberChars := by
  unfold placesChars
  cases Binary64.ofFloat x with
  | nan => exact (by decide : ['N', 'a', 'N'] ⊆ numberChars)
  | infinite negative => exact signed_subset (by decide) negative
  | finite negative m q =>
    refine signed_subset (List.append_subset.2 ⟨digitChars_subset _, ?_⟩) negative
    exact List.cons_subset.2 ⟨by decide,
      List.append_subset.2 ⟨replicate_zero_subset _, digitChars_subset _⟩⟩

theorem signed_ne_nil (h : cs ≠ []) (negative : Bool) : signed negative cs ≠ [] := by
  cases negative with
  | false => exact h
  | true => exact List.cons_ne_nil _ _

theorem signed_append (negative : Bool) (cs ds : List Char) :
    signed negative (cs ++ ds) = signed negative cs ++ ds := by
  cases negative with
  | false => rfl
  | true => rfl

theorem positional_ne_nil (h : cs ≠ []) (point : Int) : positional cs point ≠ [] := by
  unfold positional
  split_ifs
  · exact List.cons_ne_nil _ _
  · exact List.append_ne_nil_of_left_ne_nil h _
  · exact List.append_ne_nil_of_right_ne_nil _ (List.cons_ne_nil _ _)

theorem plainChars_ne_nil (x : Float) : plainChars x ≠ [] := by
  unfold plainChars
  cases Binary64.ofFloat x with
  | nan => decide
  | infinite negative => exact signed_ne_nil (by decide) negative
  | finite negative m q =>
    dsimp only
    split_ifs
    · exact signed_ne_nil (by decide) negative
    · exact signed_ne_nil (positional_ne_nil (isDigits_digitChars _).1 _) negative

/-- A number has places after a point, unless it is not finite. -/
theorem placesChars_cases (n : Nat) (x : Float) :
    (placesChars n x ≠ [] ∧ '.' ∉ placesChars n x) ∨
      ∃ whole places, whole ≠ [] ∧ placesChars n x = whole ++ '.' :: places := by
  unfold placesChars
  cases Binary64.ofFloat x with
  | nan => exact Or.inl (by decide : ['N', 'a', 'N'] ≠ [] ∧ '.' ∉ ['N', 'a', 'N'])
  | infinite negative =>
    have h : ∀ negative, signed negative ['i', 'n', 'f'] ≠ [] ∧
        '.' ∉ signed negative ['i', 'n', 'f'] := by
      decide
    exact Or.inl (h negative)
  | finite negative m q =>
    dsimp only
    rw [signed_append]
    exact Or.inr ⟨_, _, signed_ne_nil (isDigits_digitChars _).1 _, rfl⟩

end Decimal

namespace NumberStyle

theorem trimFraction_subset (cs : List Char) : trimFraction cs ⊆ cs := by
  have hdrop : cs.reverse.dropWhile (· = '0') ⊆ cs := fun c hc =>
    List.mem_reverse.1 ((List.dropWhile_sublist _).subset hc)
  unfold trimFraction
  split_ifs
  · split
    · next rest hrest =>
      exact fun c hc => hdrop (hrest ▸ List.mem_cons_of_mem _ (List.mem_reverse.1 hc))
    · exact fun c hc => hdrop (List.mem_reverse.1 hc)
  · exact List.Subset.refl cs

/-- What stands before the point is left. -/
theorem trimFraction_ne_nil {whole : List Char} (h : whole ≠ []) (places : List Char) :
    trimFraction (whole ++ '.' :: places) ≠ [] := by
  have hdrop : ∃ zs, (whole ++ '.' :: places).reverse.dropWhile (· = '0') =
      zs ++ '.' :: whole.reverse := by
    rw [List.reverse_append, List.reverse_cons, List.append_assoc, List.singleton_append,
      List.dropWhile_append]
    split_ifs
    · exact ⟨[], rfl⟩
    · exact ⟨_, rfl⟩
  obtain ⟨zs, hzs⟩ := hdrop
  unfold trimFraction
  rw [if_pos (by simp), hzs]
  cases zs with
  | nil => simpa using h
  | cons z zs =>
    split
    · next rest hrest =>
      obtain ⟨-, rfl⟩ := List.cons.inj hrest
      simp
    · simp

theorem short_subset (x : Float) : short x ⊆ numberChars := by
  unfold short
  dsimp only
  split_ifs
  · decide
  · exact List.Subset.trans (trimFraction_subset _) (Decimal.placesChars_subset 2 x)

/-- The short form of a number is never empty. -/
theorem short_ne_nil (x : Float) : short x ≠ [] := by
  unfold short
  dsimp only
  split_ifs
  · decide
  · rcases Decimal.placesChars_cases 2 x with ⟨hne, hpoint⟩ | ⟨whole, places, hwhole, heq⟩
    · rwa [trimFraction, if_neg hpoint]
    · rw [heq]
      exact trimFraction_ne_nil hwhole places

/-- Numbers are written with the characters of numbers. -/
theorem chars_subset (style : NumberStyle) (x : Float) : style.chars x ⊆ numberChars := by
  cases style with
  | machine => exact Decimal.plainChars_subset x
  | human =>
    have hsuffixes : scales.map Prod.snd ⊆ numberChars := by decide
    unfold chars
    dsimp only
    split
    · next limit suffix hscale =>
      have hsuffix : suffix ∈ numberChars :=
        hsuffixes (List.mem_map_of_mem (List.mem_of_find?_eq_some hscale))
      exact List.append_subset.2 ⟨short_subset _, List.cons_subset.2 ⟨hsuffix, List.nil_subset _⟩⟩
    · exact short_subset x

theorem chars_ne_nil (style : NumberStyle) (x : Float) : style.chars x ≠ [] := by
  cases style with
  | machine => exact Decimal.plainChars_ne_nil x
  | human =>
    unfold chars
    dsimp only
    split
    · exact List.append_ne_nil_of_left_ne_nil (short_ne_nil _) _
    · exact short_ne_nil x

end NumberStyle

/-! ## Texts without parentheses and commas -/

/-- There are no parentheses and no commas in the text. -/
def Bare (cs : List Char) : Prop :=
  ∀ c ∈ cs, c ≠ '(' ∧ c ≠ ')' ∧ c ≠ ','

instance (cs : List Char) : Decidable (Bare cs) :=
  List.decidableBAll _ cs

@[simp] theorem bare_nil : Bare [] :=
  List.forall_mem_nil _

@[simp] theorem bare_cons {c : Char} {cs : List Char} :
    Bare (c :: cs) ↔ (c ≠ '(' ∧ c ≠ ')' ∧ c ≠ ',') ∧ Bare cs :=
  List.forall_mem_cons

@[simp] theorem bare_append {cs ds : List Char} : Bare (cs ++ ds) ↔ Bare cs ∧ Bare ds :=
  List.forall_mem_append

/-- Numbers are written without parentheses and commas. -/
theorem NumberStyle.bare_chars (style : NumberStyle) (x : Float) : Bare (style.chars x) := by
  have h : Bare numberChars := by decide
  exact fun c hc => h c (style.chars_subset x hc)

end SeriesRender
