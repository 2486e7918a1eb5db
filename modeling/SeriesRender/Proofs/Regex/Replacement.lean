import Mathlib.Data.List.TakeWhile
import SeriesRender.Decimal.Reading
import SeriesRender.Proofs.Basic
import SeriesRender.Proofs.Regex.Reading
import SeriesRender.Regex.Template

/-!
# References to groups

In the text that replaces a match, a backslash and all the digits behind it refer to a group, and
everything else stands for itself (`Filled`). The matcher knows another notation, in which a dollar
refers to a group, by a number or by a name. `expand_backreferences_iff` says that the translation
from one into the other means the same : its references are those to numbers, and a dollar or a brace
of the text is none.

A number in braces could be taken for a name if it is too great for a group. There is no such name,
since the names that the reader accepts do not start with a digit (`Machine.properlyNamed_read`).
-/

namespace SeriesRender.Regex

/-! ## Texts with references -/

/-- The text is `out` if its references are filled in by what each number stands for. A reference is
a backslash with all the digits behind it, if there is one. -/
inductive Filled (group : Nat → List Char) : List Char → List Char → Prop
  | nil : Filled group [] []
  | reference {digits rest out : List Char} : digits ≠ [] → (∀ d ∈ digits, d.isDigit = true) →
      (∀ d ∈ rest.head?, d.isDigit = false) → Filled group rest out →
      Filled group ('\\' :: (digits ++ rest)) (group (Decimal.digitsValue 0 digits) ++ out)
  | verbatim {c : Char} {rest out : List Char} :
      (c = '\\' → ∀ d ∈ rest.head?, d.isDigit = false) → Filled group rest out →
      Filled group (c :: rest) (c :: out)

theorem exists_filled (group : Nat → List Char) : ∀ text, ∃ out, Filled group text out
  | [] => ⟨[], .nil⟩
  | c :: cs => by
    by_cases h : c = '\\' ∧ cs.takeWhile Char.isDigit ≠ []
    · obtain ⟨rfl, hne⟩ := h
      obtain ⟨out, hout⟩ := exists_filled group (cs.dropWhile Char.isDigit)
      have hdigits : ∀ d ∈ cs.takeWhile Char.isDigit, d.isDigit = true :=
        fun d hd => List.mem_takeWhile_imp hd
      have hrest : ∀ d ∈ (cs.dropWhile Char.isDigit).head?, d.isDigit = false := by
        intro d hd
        have := List.head?_dropWhile_not Char.isDigit cs
        rw [hd] at this
        simpa using this
      have := Filled.reference hne hdigits hrest hout
      rw [List.takeWhile_append_dropWhile] at this
      exact ⟨_, this⟩
    · obtain ⟨out, hout⟩ := exists_filled group cs
      refine ⟨c :: out, .verbatim (fun hc d hd => ?_) hout⟩
      cases cs with
      | nil => cases hd
      | cons e cs =>
        obtain rfl := Option.some.inj hd
        by_contra hdigit
        exact h ⟨hc, by simp [List.takeWhile, Bool.eq_true_of_not_eq_false hdigit]⟩
termination_by text => text.length
decreasing_by
  · exact Nat.lt_succ_of_le (length_dropWhile_le Char.isDigit cs)
  · exact Nat.lt_succ_self _

/-! ## The template of a text -/

/-- Digits behind a backslash are copied, and closed with a brace where they end. -/
theorem backreferencesFrom_digits {digits rest : List Char}
    (hdigits : ∀ d ∈ digits, d.isDigit = true) (hrest : ∀ d ∈ rest.head?, d.isDigit = false) :
    backreferencesFrom true (digits ++ rest) = digits ++ '}' :: backreferencesFrom false rest := by
  induction digits with
  | nil =>
    cases rest with
    | nil => rfl
    | cons c cs => simp [backreferencesFrom, hrest c rfl]
  | cons d digits ih =>
    rw [List.forall_mem_cons] at hdigits
    rw [List.cons_append, backreferencesFrom, hdigits.1, ih hdigits.2]
    rfl

/-- A reference becomes one in the form of templates. -/
theorem backreferences_reference {digits rest : List Char} (hne : digits ≠ [])
    (hdigits : ∀ d ∈ digits, d.isDigit = true) (hrest : ∀ d ∈ rest.head?, d.isDigit = false) :
    backreferences ('\\' :: (digits ++ rest)) =
      '$' :: '{' :: (digits ++ '}' :: backreferences rest) := by
  have hhead : (digits ++ rest).head?.any Char.isDigit = true := by
    obtain ⟨d, ds, rfl⟩ := List.exists_cons_of_ne_nil hne
    exact hdigits d List.mem_cons_self
  have hbackslash : ¬ ('\\'.isDigit = true) := by decide
  rw [backreferences, backreferencesFrom, Bool.false_and, if_neg Bool.false_ne_true,
    if_neg Bool.false_ne_true, if_pos ⟨rfl, hhead⟩, backreferencesFrom_digits hdigits hrest]
  rfl

/-- Any other character stays, but a dollar is doubled. -/
theorem backreferences_verbatim {c : Char} {rest : List Char}
    (h : c = '\\' → ∀ d ∈ rest.head?, d.isDigit = false) : backreferences (c :: rest) =
      if c = '$' then '$' :: '$' :: backreferences rest else c :: backreferences rest := by
  have hnone : ¬(c = '\\' ∧ rest.head?.any Char.isDigit = true) := by
    rintro ⟨rfl, hany⟩
    obtain ⟨d, hd, hdigit⟩ := Option.any_eq_true _ _ |>.1 hany
    cases hdigit.symm.trans (h rfl d hd)
  rw [backreferences, backreferencesFrom, Bool.false_and, if_neg Bool.false_ne_true,
    if_neg Bool.false_ne_true, if_neg hnone]
  rfl

/-! ## What becomes of a template -/

variable (groups : Groups)

theorem expand_dollar (cs : List Char) :
    expand groups ('$' :: '$' :: cs) = '$' :: expand groups cs := by
  rw [expand]

/-- A name between braces stands for its group. -/
theorem expand_braces {name : List Char} (hname : '}' ∉ name) (cs : List Char) :
    expand groups ('$' :: '{' :: (name ++ '}' :: cs)) = groups.get name ++ expand groups cs := by
  have hne : ∀ c ∈ name, (c != '}') = true := fun c hc => by
    rw [bne_iff_ne]
    rintro rfl
    exact hname hc
  have htake : (name ++ '}' :: cs).takeWhile (· != '}') = name := by
    rw [List.takeWhile_append_of_pos hne]
    simp
  have hdrop : (name ++ '}' :: cs).dropWhile (· != '}') = '}' :: cs := by
    rw [List.dropWhile_append_of_pos hne]
    simp
  rw [expand, if_pos (List.mem_append_right name List.mem_cons_self), htake, hdrop]
  rfl

theorem expand_cons {c : Char} (h : c ≠ '$') (cs : List Char) :
    expand groups (c :: cs) = c :: expand groups cs := by
  rw [expand.eq_def]
  split <;> simp_all

/-! ## Numbers and names -/

theorem isNameStart_of_isDigit {c : Char} (h : c.isDigit = true) : isNameStart c = false := by
  have hletters : ∀ n < 58, 48 ≤ n → inRanges n alphabeticRanges = false := by decide +kernel
  have hrange : 48 ≤ c.toNat ∧ c.toNat ≤ 57 := by
    simpa [Char.isDigit, UInt32.le_iff_toNat_le] using h
  have hne : c ≠ '_' := by
    rintro rfl
    exact absurd h (by decide)
  rw [isNameStart, isLetter, hletters c.toNat (by omega) hrange.1]
  simpa using hne

/-- Every name starts with a character that names may start with. -/
def ProperlyNamed (names : List (String × Nat)) : Prop :=
  ∀ entry ∈ names, ∃ c cs, entry.1.toList = c :: cs ∧ isNameStart c = true

theorem lookup_of_properlyNamed {names : List (String × Nat)} (h : ProperlyNamed names)
    {digits : List Char} (hdigits : ∀ d ∈ digits, d.isDigit = true) :
    names.lookup (String.ofList digits) = none := by
  refine List.lookup_eq_none_iff.2 fun entry hentry => ?_
  obtain ⟨c, cs, hname, hc⟩ := h entry hentry
  rw [bne_iff_ne]
  intro heq
  rw [← heq, String.toList_ofList] at hname
  have hdigit := hdigits c (hname ▸ List.mem_cons_self)
  cases hc.symm.trans (isNameStart_of_isDigit hdigit)

theorem readNumber?_of_digits {digits : List Char} (hne : digits ≠ [])
    (hdigits : ∀ d ∈ digits, d.isDigit = true) : readNumber? digits =
      if Decimal.digitsValue 0 digits ≤ groupLimit then some (Decimal.digitsValue 0 digits)
      else none := by
  have hvalue : ∀ (ds : List Char) (n : Nat),
      ds.foldl (fun n c => 10 * n + (c.toNat - '0'.toNat)) n = Decimal.digitsValue n ds := by
    intro ds
    induction ds with
    | nil => exact fun _ => rfl
    | cons d ds ih => exact fun n => ih _
  have hplus : ∀ cs, digits ≠ '+' :: cs := by
    rintro cs rfl
    exact absurd (hdigits '+' List.mem_cons_self) (by decide)
  have hall : digits.all Char.isDigit = true := List.all_eq_true.2 hdigits
  unfold readNumber?
  split
  · next cs => exact absurd rfl (hplus cs)
  · dsimp only
    rw [hall, List.isEmpty_eq_false_iff.2 hne, hvalue]
    simp [Option.filter]

/-! ## The names that the reader accepts -/

/-- Names that are read start as they have to. -/
theorem exists_cons_of_scanName {cs : List Char} {s : Scanned String cs.length}
    (h : scanName cs = some s) : ∃ c name, s.value.toList = c :: name ∧ isNameStart c = true := by
  unfold scanName at h
  dsimp only at h
  split at h
  · split at h
    · next c name _ _ hname =>
      obtain rfl := Option.some.inj h
      exact ⟨c, name, String.toList_ofList, (Bool.and_eq_true_iff.1 hname).1⟩
    · cases h
  · cases h

theorem exists_cons_of_scanHead {flags : Flags} {cs : List Char} {s : Scanned Head (cs.length + 1)}
    {name : String} (h : scanHead flags cs = some s) (hs : s.value = .named name) :
    ∃ c rest, name.toList = c :: rest ∧ isNameStart c = true := by
  unfold scanHead at h
  split at h
  · obtain ⟨n, hn, rfl⟩ := Option.map_eq_some_iff.1 h
    obtain rfl := Head.named.inj hs
    exact exists_cons_of_scanName hn
  · cases h
  · cases h
  · obtain ⟨n, hn, rfl⟩ := Option.map_eq_some_iff.1 h
    obtain rfl := Head.named.inj hs
    exact exists_cons_of_scanName hn
  · cases h
  · obtain ⟨flags, -, rfl⟩ := Option.map_eq_some_iff.1 h
    dsimp only at hs
    split at hs <;> cases hs
  · obtain rfl := Option.some.inj h
    cases hs

theorem exists_cons_of_scanPiece {flags : Flags} {cs : List Char} {s : Scanned Piece cs.length}
    {name : String} (h : scanPiece flags cs = some s) (hs : s.value = .opening (.named name)) :
    ∃ c rest, name.toList = c :: rest ∧ isNameStart c = true := by
  unfold scanPiece at h
  split at h
  · cases h
  · dsimp only at h
    -- Only an opening parenthesis opens a group.
    split at h
    case h_1 =>
      obtain ⟨head, hhead, rfl⟩ := Option.map_eq_some_iff.1 h
      exact exists_cons_of_scanHead hhead (Piece.opening.inj hs)
    case h_4 | h_8 | h_9 =>
      obtain ⟨_, -, rfl⟩ := Option.map_eq_some_iff.1 h
      cases hs
    case h_10 =>
      obtain ⟨_, -, h⟩ := Option.bind_eq_some_iff.1 h
      obtain rfl := Option.some.inj h
      cases hs
    all_goals
      obtain rfl := Option.some.inj h
      cases hs

theorem exists_cons_of_nextPiece {flags : Flags} {cs : List Char} {s : Scanned Piece cs.length}
    {name : String} (h : nextPiece flags cs = some s) (hs : s.value = .opening (.named name)) :
    ∃ c rest, name.toList = c :: rest ∧ isNameStart c = true := by
  obtain ⟨p, hp, rfl⟩ := Option.map_eq_some_iff.1 h
  exact exists_cons_of_scanPiece hp hs

namespace Machine

variable {m m' : Machine}

/-- A step keeps the names proper if it opens no group by another name. -/
theorem properlyNamed_step {piece : Piece} (hm : ProperlyNamed m.names)
    (hpiece : ∀ name, piece = .opening (.named name) →
      ∃ c rest, name.toList = c :: rest ∧ isNameStart c = true)
    (h : m.step piece = some m') : ProperlyNamed m'.names := by
  cases piece with
  | item p depth =>
    obtain rfl := Option.some.inj h
    exact hm
  | bar =>
    obtain rfl := Option.some.inj h
    exact hm
  | closing =>
    simp only [step, close] at h
    split at h
    · cases h
    · obtain rfl := Option.some.inj h
      exact hm
  | repetition least most lazy =>
    simp only [step, rep] at h
    split at h
    · obtain rfl := Option.some.inj h
      exact hm
    · cases h
  | opening head =>
    cases head with
    | plain | directive | capture =>
      obtain rfl := Option.some.inj h
      exact hm
    | named name =>
      simp only [step, openHead] at h
      split at h
      · cases h
      · obtain rfl := Option.some.inj h
        exact List.forall_mem_cons.2 ⟨hpiece name rfl, hm⟩

/-- All names that have been read in the end are proper ones. -/
theorem properlyNamed_read {cs : List Char} (hm : ProperlyNamed m.names)
    (h : m.read cs = some m') : ProperlyNamed m'.names := by
  fun_induction read m cs with
  | case1 m cs hend hlevels =>
    obtain rfl := Option.some.inj h
    exact hm
  | case2 => cases h
  | case3 m cs hend ih =>
    obtain ⟨piece, hpiece, h⟩ := Option.bind_eq_some_iff.1 h
    obtain ⟨next, hnext, h⟩ := Option.bind_eq_some_iff.1 h
    exact ih piece next (properlyNamed_step hm (fun name => exists_cons_of_nextPiece hpiece) hnext) h

end Machine

/-- The groups of a regular expression have proper names. -/
theorem properlyNamed_of_ofText {pattern : List Char} {r : Regex}
    (h : Regex.ofText pattern = .ok r) : ProperlyNamed r.names := by
  obtain ⟨m, hm, -, rfl⟩ := ofText_eq_ok_iff.1 h
  have hstart : ProperlyNamed Machine.start.names := List.forall_mem_nil _
  exact Machine.properlyNamed_read hstart hm

/-! ## Assignments -/

/-- Groups with these texts, by their numbers; those that have names have them by their names too. -/
def assign (r : Regex) (texts : Nat → Option (List Char)) : Groups :=
  ⟨texts, fun name => (r.names.lookup name).bind texts⟩

/-- The text of the group with a number, which is empty if the group is absent or the number is too
great for one. -/
def groupText (texts : Nat → Option (List Char)) (n : Nat) : List Char :=
  if n ≤ groupLimit then (texts n).getD [] else []

/-- A number stands for the text of its group, which is empty if the group is absent. -/
theorem get_assign {r : Regex} (hr : ProperlyNamed r.names) (texts : Nat → Option (List Char))
    {digits : List Char} (hne : digits ≠ []) (hdigits : ∀ d ∈ digits, d.isDigit = true) :
    (r.assign texts).get digits = groupText texts (Decimal.digitsValue 0 digits) := by
  rw [Groups.get, readNumber?_of_digits hne hdigits, groupText]
  by_cases h : Decimal.digitsValue 0 digits ≤ groupLimit
  · rw [if_pos h, if_pos h]
    rfl
  · rw [if_neg h, if_neg h]
    dsimp only [assign]
    rw [lookup_of_properlyNamed hr hdigits]
    rfl

/-- Expanding the translated template fills in the references. -/
theorem expand_of_filled {r : Regex} (hr : ProperlyNamed r.names)
    {texts : Nat → Option (List Char)} {text out : List Char}
    (h : Filled (groupText texts) text out) :
    expand (r.assign texts) (backreferences text) = out := by
  induction h with
  | nil => rw [backreferences, backreferencesFrom, if_neg Bool.false_ne_true, expand]
  | @reference digits rest out hne hdigits hrest _ ih =>
    have hbrace : '}' ∉ digits := fun hmem => absurd (hdigits '}' hmem) (by decide)
    rw [backreferences_reference hne hdigits hrest, expand_braces _ hbrace, ih,
      get_assign hr texts hne hdigits]
  | @verbatim c rest out hc _ ih =>
    rw [backreferences_verbatim hc]
    by_cases hdollar : c = '$'
    · rw [if_pos hdollar, expand_dollar, ih, hdollar]
    · rw [if_neg hdollar, expand_cons _ hdollar, ih]

/-- A text with references to groups means the same as its template. For every regular expression and
all texts that its groups can have, the expanded template is the text with each reference filled in
by the text of its group, and with nothing else changed. The groups of a match are a case of it. -/
theorem expand_backreferences_iff {pattern : List Char} {r : Regex}
    (h : Regex.ofText pattern = .ok r) :
    (∀ (texts : Nat → Option (List Char)) (text out : List Char),
      expand (r.assign texts) (backreferences text) = out ↔ Filled (groupText texts) text out) ∧
    ∀ (found : Found) (whole : List Char) (start : Nat),
      ∃ texts, found.groups r.names whole start = r.assign texts := by
  refine ⟨fun texts text out => ⟨fun hout => ?_, expand_of_filled (properlyNamed_of_ofText h)⟩,
    fun found whole start => ⟨_, rfl⟩⟩
  obtain ⟨filled, hfilled⟩ := exists_filled (groupText texts) text
  rw [← hout, expand_of_filled (properlyNamed_of_ofText h) hfilled]
  exact hfilled

/-- The texts of two groups, of which the second one is absent. -/
def firstOnly : Nat → Option (List Char)
  | 1 => some ['a']
  | _ => none

/-- In front of two references is a text that stands for itself, though a template has its own
references written like this. The first one has a zero before its number, the second one refers to an
absent group. -/
theorem expand_backreferences_iff_firstOnly :
    ∃ r, Regex.ofText "(a)(b)?".toList = .ok r ∧
      expand (r.assign firstOnly) (backreferences "${1}\\01\\2".toList) = "${1}a".toList := by
  have hok : (Regex.ofText "(a)(b)?".toList).toOption.isSome = true := by decide +kernel
  obtain ⟨r, hr⟩ := Option.isSome_iff_exists.1 hok
  rw [toOption_eq_some_iff] at hr
  refine ⟨r, hr, ((expand_backreferences_iff hr).1 firstOnly _ _).2 ?_⟩
  have hself : ∀ {c : Char} {rest out : List Char}, c ≠ '\\' →
      Filled (groupText firstOnly) rest out → Filled (groupText firstOnly) (c :: rest) (c :: out) :=
    fun hc => .verbatim fun h => absurd h hc
  have habsent : Filled (groupText firstOnly) ['\\', '2'] [] :=
    @Filled.reference _ ['2'] _ _ (by decide) (List.all_eq_true.1 rfl) (by simp) .nil
  have hpresent : Filled (groupText firstOnly) ['\\', '0', '1', '\\', '2'] ['a'] :=
    @Filled.reference _ ['0', '1'] _ _ (by decide) (List.all_eq_true.1 rfl) (by simp) habsent
  exact hself (by decide) (hself (by decide) (hself (by decide) (hself (by decide) hpresent)))

end SeriesRender.Regex
