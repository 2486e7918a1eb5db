import Mathlib.Tactic.SplitIfs
import SeriesRender.Output.Json
import SeriesRender.Proofs.Basic
import SeriesRender.Proofs.Decimal.Digits
import SeriesRender.Text.FormEncoded

/-!
# The grammar of JSON

`Spells` is the grammar : a text stands for a value, with blanks around it and between its parts.
It is put together of `Reads`, which says what a text starts with and what is left of it. The first
character tells which kind of value follows, and where it ends, so a text stands for one value at
most (`Spells.unique`). The compact form of a value stands for it, whatever characters its strings
hold, if its numbers are numerals (`HasNumerals.spells`).
-/

namespace SeriesRender.Json

open Decimal

/-! ## Numerals -/

/-- The characters that numerals are made of. -/
def numeralChars : List Char :=
  "0123456789+-.eE".toList

/-- Digits without a zero in front of others. -/
def IsWhole (cs : List Char) : Prop :=
  IsDigits cs ∧ (cs.head? = some '0' → cs = ['0'])

/-- Digits after a point, or nothing. -/
def IsFraction (cs : List Char) : Prop :=
  cs = [] ∨ ∃ ds, cs = '.' :: ds ∧ IsDigits ds

/-- Digits after a letter and perhaps a sign, or nothing. -/
def IsExponent (cs : List Char) : Prop :=
  cs = [] ∨ ∃ e sign ds, cs = e :: (sign ++ ds) ∧ e ∈ ['e', 'E'] ∧ sign ∈ [[], ['+'], ['-']] ∧
    IsDigits ds

/-- A number in the grammar : a sign, a whole part, a fraction and an exponent. -/
inductive IsNumeral : List Char → Prop
  | mk {whole fraction exponent : List Char} (negative : Bool) :
      IsWhole whole → IsFraction fraction → IsExponent exponent →
      IsNumeral (signed negative (whole ++ (fraction ++ exponent)))

/-- The text does not go on like a number. -/
def Stops (cs : List Char) : Prop :=
  ∀ c ∈ cs.head?, c ∉ numeralChars

/-! ## Strings -/

/-- The letters of short escapes, with the characters that they stand for. -/
def shortEscapes : List (Char × Char) :=
  [('"', '"'), ('\\', '\\'), ('/', '/'), ('b', '\x08'), ('f', '\x0C'), ('n', '\n'), ('r', '\r'),
    ('t', '\t')]

/-- The number of four hexadecimal digits. -/
def codeUnit? (a b c d : Char) : Option Nat :=
  [a, b, c, d].foldlM (fun n digit => (Text.hexValue? digit.toNat).map (16 * n + ·)) 0

/-- The first half of a pair of code units that stands for one character. -/
def IsHighSurrogate (n : Nat) : Prop :=
  0xD800 ≤ n ∧ n < 0xDC00

/-- The second half of such a pair. -/
def IsLowSurrogate (n : Nat) : Prop :=
  0xDC00 ≤ n ∧ n < 0xE000

/-- A text starts with these characters of a string and its closing quote; the rest is left. -/
inductive ReadsCharacters : List Char → List Char → List Char → Prop
  | close {rest : List Char} : ReadsCharacters [] ('"' :: rest) rest
  | plain {c : Char} {s cs rest : List Char} : c ≠ '"' → c ≠ '\\' → 0x20 ≤ c.toNat →
      ReadsCharacters s cs rest → ReadsCharacters (c :: s) (c :: cs) rest
  | short {e c : Char} {s cs rest : List Char} : shortEscapes.lookup e = some c →
      ReadsCharacters s cs rest → ReadsCharacters (c :: s) ('\\' :: e :: cs) rest
  | unit {a b c d : Char} {n : Nat} {s cs rest : List Char} : codeUnit? a b c d = some n →
      ¬IsHighSurrogate n → ¬IsLowSurrogate n → ReadsCharacters s cs rest →
      ReadsCharacters (Char.ofNat n :: s) ('\\' :: 'u' :: a :: b :: c :: d :: cs) rest
  | pair {a b c d a' b' c' d' : Char} {high low : Nat} {s cs rest : List Char} :
      codeUnit? a b c d = some high → codeUnit? a' b' c' d' = some low →
      IsHighSurrogate high → IsLowSurrogate low → ReadsCharacters s cs rest →
      ReadsCharacters (Char.ofNat (0x10000 + (high - 0xD800) * 0x400 + (low - 0xDC00)) :: s)
        ('\\' :: 'u' :: a :: b :: c :: d :: '\\' :: 'u' :: a' :: b' :: c' :: d' :: cs) rest

/-! ## Values -/

/-- A text without the blanks in front. -/
def skip (cs : List Char) : List Char :=
  cs.dropWhile (· ∈ [' ', '\t', '\n', '\r'])

/-- What a piece of text stands for : a value, further elements of an array, a member of an object,
or further members. -/
inductive Part
  | value (v : Json)
  | elements (vs : List Json)
  | member (k : String) (v : Json)
  | members (ms : List (String × Json))

/-- A text starts with a part; the rest is left. Further elements and members start after the ones
before them and end with the bracket. A number goes as far as it can. -/
inductive Reads : Part → List Char → List Char → Prop
  | null {rest : List Char} : Reads (.value .null) ('n' :: 'u' :: 'l' :: 'l' :: rest) rest
  | literalFalse {rest : List Char} :
      Reads (.value (.boolean false)) ('f' :: 'a' :: 'l' :: 's' :: 'e' :: rest) rest
  | literalTrue {rest : List Char} :
      Reads (.value (.boolean true)) ('t' :: 'r' :: 'u' :: 'e' :: rest) rest
  | number {text cs rest : List Char} : IsNumeral text → cs = text ++ rest →
      Stops rest → Reads (.value (.number text)) cs rest
  | string {s : String} {cs rest : List Char} : ReadsCharacters s.toList cs rest →
      Reads (.value (.string s)) ('"' :: cs) rest
  | noElements {cs rest : List Char} : skip cs = ']' :: rest →
      Reads (.value (.array [])) ('[' :: cs) rest
  | array {v : Json} {vs : List Json} {cs next rest : List Char} :
      Reads (.value v) (skip cs) next → Reads (.elements vs) (skip next) rest →
      Reads (.value (.array (v :: vs))) ('[' :: cs) rest
  | lastElement {rest : List Char} : Reads (.elements []) (']' :: rest) rest
  | element {v : Json} {vs : List Json} {cs next rest : List Char} :
      Reads (.value v) (skip cs) next → Reads (.elements vs) (skip next) rest →
      Reads (.elements (v :: vs)) (',' :: cs) rest
  | noMembers {cs rest : List Char} : skip cs = '}' :: rest →
      Reads (.value (.object [])) ('{' :: cs) rest
  | object {k : String} {v : Json} {ms : List (String × Json)} {cs next rest : List Char} :
      Reads (.member k v) (skip cs) next → Reads (.members ms) (skip next) rest →
      Reads (.value (.object ((k, v) :: ms))) ('{' :: cs) rest
  | member {k : String} {v : Json} {cs next value rest : List Char} :
      ReadsCharacters k.toList cs next → skip next = ':' :: value →
      Reads (.value v) (skip value) rest → Reads (.member k v) ('"' :: cs) rest
  | lastMember {rest : List Char} : Reads (.members []) ('}' :: rest) rest
  | members {k : String} {v : Json} {ms : List (String × Json)} {cs next rest : List Char} :
      Reads (.member k v) (skip cs) next → Reads (.members ms) (skip next) rest →
      Reads (.members ((k, v) :: ms)) (',' :: cs) rest

/-- The text stands for the value. -/
def Spells (cs : List Char) (v : Json) : Prop :=
  ∃ rest, Reads (.value v) (skip cs) rest ∧ skip rest = []

/-! ## A text stands for one value -/

theorem IsFraction.subset {cs : List Char} (h : IsFraction cs) : cs ⊆ numeralChars := by
  obtain rfl | ⟨ds, rfl, hds⟩ := h
  · exact List.nil_subset _
  · exact List.cons_subset.2 ⟨by decide, List.Subset.trans hds.subset (by decide)⟩

theorem IsExponent.subset {cs : List Char} (h : IsExponent cs) : cs ⊆ numeralChars := by
  obtain rfl | ⟨e, sign, ds, rfl, he, hsign, hds⟩ := h
  · exact List.nil_subset _
  · have hletters : ['e', 'E'] ⊆ numeralChars := by decide
    have hsigns : ∀ sign ∈ [[], ['+'], ['-']], sign ⊆ numeralChars := by decide
    exact List.cons_subset.2 ⟨hletters he,
      List.append_subset.2 ⟨hsigns sign hsign, List.Subset.trans hds.subset (by decide)⟩⟩

theorem IsNumeral.subset {text : List Char} (h : IsNumeral text) : text ⊆ numeralChars := by
  obtain ⟨negative, hwhole, hfraction, hexponent⟩ := h
  have hdigits := List.Subset.trans hwhole.1.subset (by decide : _ ⊆ numeralChars)
  have hparts := List.append_subset.2 ⟨hdigits,
    List.append_subset.2 ⟨hfraction.subset, hexponent.subset⟩⟩
  cases negative with
  | false => exact hparts
  | true => exact List.cons_subset.2 ⟨by decide, hparts⟩

/-- A numeral starts with a digit or a minus. -/
theorem IsNumeral.ne_cons {text : List Char} (h : IsNumeral text) {c : Char}
    (hc : c ∉ '-' :: "0123456789".toList) (cs rest : List Char) : c :: cs ≠ text ++ rest := by
  rintro heq
  obtain ⟨negative, ⟨hdigits, -⟩, -, -⟩ := h
  rename_i whole fraction exponent
  obtain ⟨d, ds, rfl⟩ := List.exists_cons_of_ne_nil hdigits.1
  cases negative with
  | false =>
    obtain ⟨rfl, -⟩ := List.cons.inj heq
    exact hc (List.mem_cons_of_mem _ (hdigits.subset List.mem_cons_self))
  | true =>
    obtain ⟨rfl, -⟩ := List.cons.inj heq
    exact hc List.mem_cons_self

/-- A numeral that goes as far as it can is what stands there of characters of numerals. -/
theorem IsNumeral.span {text rest : List Char} (h : IsNumeral text) (hrest : Stops rest) :
    (text ++ rest).takeWhile (· ∈ numeralChars) = text ∧
      (text ++ rest).dropWhile (· ∈ numeralChars) = rest :=
  span_append (fun _ hc => decide_eq_true (h.subset hc)) fun c hc => decide_eq_false (hrest c hc)

/-- A string is read in one way only, and so is where it ends. -/
theorem ReadsCharacters.unique {s s' cs rest rest' : List Char} (h : ReadsCharacters s cs rest)
    (h' : ReadsCharacters s' cs rest') : s = s' ∧ rest = rest' := by
  have hu : ∀ c, shortEscapes.lookup 'u' ≠ some c := by
    intro c h
    cases h
  induction h generalizing s' rest' with
  | close =>
    cases h' with
    | close => exact ⟨rfl, rfl⟩
    | plain hquote => exact absurd rfl hquote
  | plain hquote hslash _ _ ih =>
    cases h' with
    | close => exact absurd rfl hquote
    | plain _ _ _ h' =>
      obtain ⟨rfl, rfl⟩ := ih h'
      exact ⟨rfl, rfl⟩
    | short | unit | pair => exact absurd rfl hslash
  | short he _ ih =>
    cases h' with
    | plain _ hslash => exact absurd rfl hslash
    | short he' h' =>
      obtain ⟨rfl, rfl⟩ := ih h'
      rw [Option.some.inj (he.symm.trans he')]
      exact ⟨rfl, rfl⟩
    | unit | pair => exact absurd he (hu _)
  | unit hn hhigh _ _ ih =>
    cases h' with
    | plain _ hslash => exact absurd rfl hslash
    | short he => exact absurd he (hu _)
    | unit hn' _ _ h' =>
      obtain ⟨rfl, rfl⟩ := ih h'
      rw [Option.some.inj (hn.symm.trans hn')]
      exact ⟨rfl, rfl⟩
    | pair hn' _ hhigh' => exact absurd (Option.some.inj (hn.symm.trans hn') ▸ hhigh') hhigh
  | pair hn hm hhigh _ _ ih =>
    cases h' with
    | plain _ hslash => exact absurd rfl hslash
    | short he => exact absurd he (hu _)
    | unit hn' hhigh' => exact absurd (Option.some.inj (hn.symm.trans hn') ▸ hhigh) hhigh'
    | pair hn' hm' _ _ h' =>
      obtain ⟨rfl, rfl⟩ := ih h'
      rw [Option.some.inj (hn.symm.trans hn'), Option.some.inj (hm.symm.trans hm')]
      exact ⟨rfl, rfl⟩

/-- A closing bracket starts no value. -/
theorem not_reads_value_of_bracket {v : Json} {cs rest : List Char} :
    ¬Reads (.value v) (']' :: cs) rest := by
  intro h
  cases h with
  | number hn heq => exact hn.ne_cons (by decide) _ _ heq

theorem not_reads_member_of_brace {k : String} {v : Json} {cs rest : List Char} :
    ¬Reads (.member k v) ('}' :: cs) rest := by
  intro h
  cases h

/-- A text starts with one part of a kind at most. -/
theorem Reads.unique {p q : Part} {cs rest rest' : List Char} (h : Reads p cs rest)
    (h' : Reads q cs rest') (hkind : p.ctorIdx = q.ctorIdx) : p = q ∧ rest = rest' := by
  -- The first character leaves two readings of the same form, or one of a number, which it cannot
  -- start; only empty brackets have to be told from brackets with something in them.
  induction h generalizing q rest' with
  | null =>
    cases h' with
    | null => exact ⟨rfl, rfl⟩
    | number hn heq => exact absurd heq (hn.ne_cons (by decide) _ _)
  | literalFalse =>
    cases h' with
    | literalFalse => exact ⟨rfl, rfl⟩
    | number hn heq => exact absurd heq (hn.ne_cons (by decide) _ _)
  | literalTrue =>
    cases h' with
    | literalTrue => exact ⟨rfl, rfl⟩
    | number hn heq => exact absurd heq (hn.ne_cons (by decide) _ _)
  | number hn heq hrest =>
    cases h' with
    | number hn' heq' hrest' =>
      subst heq
      obtain ⟨htake, hdrop⟩ := hn.span hrest
      obtain ⟨htake', hdrop'⟩ := hn'.span hrest'
      rw [heq'] at htake hdrop
      exact ⟨congrArg (fun t => Part.value (.number t)) (htake.symm.trans htake'),
        hdrop.symm.trans hdrop'⟩
    | null | literalFalse | literalTrue | string | noElements | array | noMembers | object =>
      exact absurd heq (hn.ne_cons (by decide) _ _)
    | lastElement | element | member | lastMember | members => cases hkind
  | string hs =>
    cases h' with
    | string hs' =>
      obtain ⟨hs, rfl⟩ := hs.unique hs'
      rw [String.toList_inj.1 hs]
      exact ⟨rfl, rfl⟩
    | number hn heq => exact absurd heq (hn.ne_cons (by decide) _ _)
    | member => cases hkind
  | noElements hcs =>
    cases h' with
    | noElements hcs' => exact ⟨rfl, (List.cons.inj (hcs.symm.trans hcs')).2⟩
    | array hv => exact absurd (hcs ▸ hv) not_reads_value_of_bracket
    | number hn heq => exact absurd heq (hn.ne_cons (by decide) _ _)
  | array hv _ ihv ihvs =>
    cases h' with
    | noElements hcs => exact absurd (hcs ▸ hv) not_reads_value_of_bracket
    | array hv' hvs' =>
      obtain ⟨hpart, rfl⟩ := ihv hv' rfl
      cases hpart
      obtain ⟨hpart, rfl⟩ := ihvs hvs' rfl
      cases hpart
      exact ⟨rfl, rfl⟩
    | number hn heq => exact absurd heq (hn.ne_cons (by decide) _ _)
  | lastElement =>
    cases h' with
    | lastElement => exact ⟨rfl, rfl⟩
    | number hn heq => exact absurd heq (hn.ne_cons (by decide) _ _)
  | element _ _ ihv ihvs =>
    cases h' with
    | element hv' hvs' =>
      obtain ⟨hpart, rfl⟩ := ihv hv' rfl
      cases hpart
      obtain ⟨hpart, rfl⟩ := ihvs hvs' rfl
      cases hpart
      exact ⟨rfl, rfl⟩
    | number hn heq => exact absurd heq (hn.ne_cons (by decide) _ _)
    | members => cases hkind
  | noMembers hcs =>
    cases h' with
    | noMembers hcs' => exact ⟨rfl, (List.cons.inj (hcs.symm.trans hcs')).2⟩
    | object hm => exact absurd (hcs ▸ hm) not_reads_member_of_brace
    | number hn heq => exact absurd heq (hn.ne_cons (by decide) _ _)
  | object hm _ ihm ihms =>
    cases h' with
    | noMembers hcs => exact absurd (hcs ▸ hm) not_reads_member_of_brace
    | object hm' hms' =>
      obtain ⟨hpart, rfl⟩ := ihm hm' rfl
      cases hpart
      obtain ⟨hpart, rfl⟩ := ihms hms' rfl
      cases hpart
      exact ⟨rfl, rfl⟩
    | number hn heq => exact absurd heq (hn.ne_cons (by decide) _ _)
  | member hk hcolon _ ihv =>
    cases h' with
    | member hk' hcolon' hv' =>
      obtain ⟨hk, rfl⟩ := hk.unique hk'
      obtain ⟨-, rfl⟩ := List.cons.inj (hcolon.symm.trans hcolon')
      obtain ⟨hpart, rfl⟩ := ihv hv' rfl
      cases hpart
      rw [String.toList_inj.1 hk]
      exact ⟨rfl, rfl⟩
    | number hn heq => exact absurd heq (hn.ne_cons (by decide) _ _)
    | string => cases hkind
  | lastMember =>
    cases h' with
    | lastMember => exact ⟨rfl, rfl⟩
    | number hn heq => exact absurd heq (hn.ne_cons (by decide) _ _)
  | members _ _ ihm ihms =>
    cases h' with
    | members hm' hms' =>
      obtain ⟨hpart, rfl⟩ := ihm hm' rfl
      cases hpart
      obtain ⟨hpart, rfl⟩ := ihms hms' rfl
      cases hpart
      exact ⟨rfl, rfl⟩
    | number hn heq => exact absurd heq (hn.ne_cons (by decide) _ _)
    | element => cases hkind

/-- A text stands for one value at most. -/
theorem Spells.unique {cs : List Char} {v w : Json} (hv : Spells cs v) (hw : Spells cs w) :
    v = w := by
  obtain ⟨rest, hv, -⟩ := hv
  obtain ⟨rest', hw, -⟩ := hw
  exact Part.value.inj (hv.unique hw rfl).1

/-! ## What is written -/

/-- All numbers in the value are numerals. -/
inductive HasNumerals : Json → Prop
  | null : HasNumerals .null
  | boolean (b : Bool) : HasNumerals (.boolean b)
  | number {text : List Char} : IsNumeral text → HasNumerals (.number text)
  | string (s : String) : HasNumerals (.string s)
  | array {vs : List Json} : (∀ v ∈ vs, HasNumerals v) → HasNumerals (.array vs)
  | object {ms : List (String × Json)} : (∀ m ∈ ms, HasNumerals m.2) → HasNumerals (.object ms)

/-- A character that has been escaped is read as itself. -/
theorem readsCharacters_escapeChar {s cs rest : List Char} (c : Char)
    (h : ReadsCharacters s cs rest) : ReadsCharacters (c :: s) (escapeChar c ++ cs) rest := by
  unfold escapeChar
  split_ifs with hquote hslash hb hf hn hr ht hcontrol
  · subst hquote
    exact .short rfl h
  · subst hslash
    exact .short rfl h
  · subst hb
    exact .short rfl h
  · subst hf
    exact .short rfl h
  · subst hn
    exact .short rfl h
  · subst hr
    exact .short rfl h
  · subst ht
    exact .short rfl h
  · have hunits : ∀ n < 32,
        codeUnit? '0' '0' (hexDigitChar (n / 16)) (hexDigitChar (n % 16)) = some n := by
      decide
    have hread := ReadsCharacters.unit (hunits _ hcontrol) (fun hhigh => by have := hhigh.1; omega)
      (fun hlow => by have := hlow.1; omega) h
    rwa [Char.ofNat_toNat] at hread
  · exact .plain hquote hslash (Nat.le_of_not_lt hcontrol) h

theorem readsCharacters_quoted (s rest : List Char) :
    ReadsCharacters s (s.flatMap escapeChar ++ '"' :: rest) rest := by
  induction s with
  | nil => exact .close
  | cons c s ih =>
    rw [List.flatMap_cons, List.append_assoc]
    exact readsCharacters_escapeChar c ih

/-- What can be read does not start with a blank. -/
theorem Reads.skip_eq {p : Part} {cs rest : List Char} (h : Reads p cs rest) : skip cs = cs := by
  cases h with
  | number hn heq =>
    cases cs with
    | nil => rfl
    | cons c cs =>
      have hc : c ∉ [' ', '\t', '\n', '\r'] := by
        intro hc
        have hblanks : ∀ c ∈ [' ', '\t', '\n', '\r'], c ∉ '-' :: "0123456789".toList :=
          forall_mem_of_all (by decide)
        exact hn.ne_cons (hblanks c hc) _ _ heq
      exact List.dropWhile_cons_of_neg (mt of_decide_eq_true hc)
  | _ => rfl

theorem Reads.skip {p : Part} {cs rest : List Char} (h : Reads p cs rest) :
    Reads p (Json.skip cs) rest :=
  h.skip_eq.symm ▸ h

theorem quoted_append (s : String) (cs : List Char) :
    quoted s ++ cs = '"' :: (s.toList.flatMap escapeChar ++ '"' :: cs) := by
  simp [quoted]

theorem stops_nil : Stops [] := by
  rintro _ ⟨⟩

theorem stops_cons {c : Char} (hc : c ∉ numeralChars) (cs : List Char) : Stops (c :: cs) := by
  rintro _ ⟨⟩
  exact hc

theorem stops_compactElements (vs : List Json) (rest : List Char) :
    Stops (compactElements vs ++ rest) := by
  cases vs with
  | nil => exact stops_cons (by decide) _
  | cons v vs => exact stops_cons (by decide) _

theorem stops_compactMembers (ms : List (String × Json)) (rest : List Char) :
    Stops (compactMembers ms ++ rest) := by
  cases ms with
  | nil => exact stops_cons (by decide) _
  | cons m ms => exact stops_cons (by decide) _

/-- The compact form of a value is read back where it stands. -/
def ReadsBack (v : Json) : Prop :=
  ∀ rest, Stops rest → Reads (.value v) (v.compact ++ rest) rest

/-- Elements that are read back by themselves are read back from a list. -/
theorem reads_elements {vs : List Json} (rest : List Char) (h : ∀ v ∈ vs, ReadsBack v) :
    Reads (.elements vs) (compactElements vs ++ rest) rest := by
  induction vs with
  | nil => exact .lastElement
  | cons v vs ih =>
    obtain ⟨hv, hvs⟩ := List.forall_mem_cons.1 h
    have hv := hv _ (stops_compactElements vs rest)
    rw [compactElements, List.cons_append, List.append_assoc]
    exact .element hv.skip (ih hvs).skip

/-- A value that is read back is so behind its key. -/
theorem reads_member {k : String} {v : Json} {rest : List Char} (h : ReadsBack v)
    (hrest : Stops rest) : Reads (.member k v) (quoted k ++ ':' :: (v.compact ++ rest)) rest := by
  have hv := h rest hrest
  rw [quoted_append]
  exact .member (readsCharacters_quoted _ _) rfl hv.skip

/-- Members whose values are read back are read back from an object. -/
theorem reads_members {ms : List (String × Json)} (rest : List Char)
    (h : ∀ m ∈ ms, ReadsBack m.2) : Reads (.members ms) (compactMembers ms ++ rest) rest := by
  induction ms with
  | nil => exact .lastMember
  | cons m ms ih =>
    obtain ⟨k, v⟩ := m
    obtain ⟨hv, hms⟩ := List.forall_mem_cons.1 h
    have hm := reads_member (k := k) hv (stops_compactMembers ms rest)
    have htext : compactMembers ((k, v) :: ms) ++ rest =
        ',' :: (quoted k ++ ':' :: (v.compact ++ (compactMembers ms ++ rest))) := by
      simp [compactMembers]
    rw [htext]
    exact .members hm.skip (ih hms).skip

/-- Compact text is read back, if its numbers are numerals. -/
theorem HasNumerals.readsBack {v : Json} (h : v.HasNumerals) : ReadsBack v := by
  induction h with
  | null => exact fun rest _ => .null
  | boolean b =>
    cases b with
    | false => exact fun rest _ => .literalFalse
    | true => exact fun rest _ => .literalTrue
  | number hn => exact fun rest hrest => .number hn rfl hrest
  | string s =>
    intro rest _
    rw [compact, quoted_append]
    exact .string (readsCharacters_quoted _ _)
  | @array vs _ ih =>
    intro rest hrest
    cases vs with
    | nil => exact .noElements rfl
    | cons v vs =>
      obtain ⟨hv, hvs⟩ := List.forall_mem_cons.1 ih
      have hv := hv _ (stops_compactElements vs rest)
      have hvs := reads_elements rest hvs
      rw [compact, List.cons_append, List.append_assoc]
      exact .array hv.skip hvs.skip
  | @object ms _ ih =>
    intro rest hrest
    cases ms with
    | nil => exact .noMembers rfl
    | cons m ms =>
      obtain ⟨k, v⟩ := m
      obtain ⟨hv, hms⟩ := List.forall_mem_cons.1 ih
      have hm := reads_member (k := k) hv (stops_compactMembers ms rest)
      have hms := reads_members rest hms
      have htext : (Json.object ((k, v) :: ms)).compact ++ rest =
          '{' :: (quoted k ++ ':' :: (v.compact ++ (compactMembers ms ++ rest))) := by
        simp [compact]
      rw [htext]
      exact .object hm.skip hms.skip

/-- The compact form stands for the value. -/
theorem HasNumerals.spells {v : Json} (h : v.HasNumerals) : Spells v.compact v := by
  have hread := h.readsBack [] stops_nil
  rw [List.append_nil] at hread
  exact ⟨[], hread.skip, rfl⟩

end SeriesRender.Json
