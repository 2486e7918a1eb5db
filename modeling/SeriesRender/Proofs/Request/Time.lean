import SeriesRender.Proofs.Basic
import SeriesRender.Proofs.Decimal.Digits
import SeriesRender.Request.Time

/-!
# The texts of times

`NamesTime` is the grammar of times, with the instant that each one names : the present in letters
of any case, so many units before it, or seconds since the epoch. A number of units, the seconds
they are and the instant itself all have to fit. No time has a blank in it, so between blanks there
is at most one (`trim_append`), and `readTime_holdsTime` says that a value is read exactly if it is
a time between blanks.
-/

namespace SeriesRender

open Decimal Timestamp

/-! ## Between blanks -/

namespace Text

/-- Blanks at the start are what is trimmed there. -/
theorem trimStart_append {before cs : List Char} (hbefore : ∀ c ∈ before, isBlank c = true)
    (hcs : ∀ c ∈ cs.head?, isBlank c = false) : trimStart (before ++ cs) = cs := by
  rw [trimStart, List.dropWhile_append_of_pos hbefore]
  cases cs with
  | nil => rfl
  | cons c cs => exact List.dropWhile_cons_of_neg (by simp [hcs c rfl])

/-- Between blanks, trimming leaves a text that has none. -/
theorem trim_append {before cs after : List Char} (hbefore : ∀ c ∈ before, isBlank c = true)
    (hcs : ∀ c ∈ cs, isBlank c = false) (hafter : ∀ c ∈ after, isBlank c = true) :
    trim (before ++ cs ++ after) = cs := by
  have hend : ∀ ds, (∀ d ∈ ds, isBlank d = true) → trimEnd (cs ++ ds) = cs := by
    intro ds hds
    rw [trimEnd, List.reverse_append, trimStart_append (by simpa using hds), List.reverse_reverse]
    exact fun c hc => hcs c (List.mem_reverse.1 (List.mem_of_mem_head? hc))
  cases cs with
  | nil =>
    have hall : ∀ c ∈ before ++ after, isBlank c = true :=
      List.forall_mem_append.2 ⟨hbefore, hafter⟩
    have hstart : trimStart (before ++ after ++ []) = [] := trimStart_append hall (by simp)
    rw [List.append_nil] at hstart
    rw [trim, List.append_nil, hstart]
    rfl
  | cons c cs =>
    have hc : ∀ d ∈ (c :: cs ++ after).head?, isBlank d = false := by
      rintro d hd
      obtain rfl := Option.some.inj hd
      exact hcs c List.mem_cons_self
    rw [trim, List.append_assoc, trimStart_append hbefore hc]
    exact hend after hafter

/-- Trimming takes blanks away from both ends. -/
theorem exists_trim (cs : List Char) : ∃ before after, cs = before ++ trim cs ++ after ∧
    (∀ c ∈ before, isBlank c = true) ∧ ∀ c ∈ after, isBlank c = true := by
  have hall : ∀ ds : List Char, ∀ c ∈ ds.takeWhile isBlank, isBlank c = true := fun ds =>
    List.all_eq_true.1 List.all_takeWhile
  refine ⟨cs.takeWhile isBlank, ((trimStart cs).reverse.takeWhile isBlank).reverse, ?_, hall cs,
    fun c hc => hall _ c (List.mem_reverse.1 hc)⟩
  have hend : trim cs ++ ((trimStart cs).reverse.takeWhile isBlank).reverse = trimStart cs := by
    rw [trim, trimEnd, ← List.reverse_append]
    exact (congrArg List.reverse List.takeWhile_append_dropWhile).trans (List.reverse_reverse _)
  rw [List.append_assoc, hend]
  exact List.takeWhile_append_dropWhile.symm

end Text

/-! ## The grammar -/

/-- The units of time and the seconds that each one has. -/
def timeUnits : List (String × Int) :=
  [("s", 1), ("min", 60), ("h", 3600), ("d", 86400), ("w", 604800), ("mon", 2592000),
    ("y", 31536000)]

/-- The texts that are times, and the instant that each one names at `now`. -/
inductive NamesTime (now : Int) : List Char → Int → Prop
  | present {n o w : Char} : n ∈ ['n', 'N'] → o ∈ ['o', 'O'] → w ∈ ['w', 'W'] →
      NamesTime now [n, o, w] now
  | before {digits unit : List Char} {amount : Nat} {seconds : Int} :
      IsDigits digits → Nat.ofDigitChars 10 digits 0 = amount →
      (String.ofList unit, seconds) ∈ timeUnits →
      fits amount = true → fits (amount * seconds) = true →
      fits (now - amount * seconds) = true →
      NamesTime now ('-' :: (digits ++ unit)) (now - amount * seconds)
  | epoch {sign digits : List Char} {amount : Nat} : sign = [] ∨ sign = ['+'] →
      IsDigits digits → Nat.ofDigitChars 10 digits 0 = amount → fits amount = true →
      NamesTime now (sign ++ digits) amount

variable {now t : Int} {cs : List Char}

/-- The units of time are those of the table. -/
theorem unitSeconds?_eq_some_iff {unit : String} {seconds : Int} :
    unitSeconds? unit = some seconds ↔ (unit, seconds) ∈ timeUnits := by
  unfold unitSeconds? timeUnits
  split <;> simp_all [eq_comm]

/-- The letters of a unit. -/
theorem unit_letters : ∀ entry ∈ timeUnits, ∀ c ∈ entry.1.toList,
    c.isDigit = false ∧ Text.isBlank c = false := by
  have h : ∀ entry ∈ timeUnits,
      (entry.1.toList.all fun c => c.isDigit = false ∧ Text.isBlank c = false) = true := by
    decide
  exact fun entry hentry => forall_mem_of_all (h entry hentry)

theorem isBlank_of_isDigit {c : Char} (h : c.isDigit = true) : Text.isBlank c = false := by
  have hc := Char.isDigit_iff_toNat.1 h
  simp at hc
  simp [Text.isBlank]
  omega

/-- There is no blank in a text that names a time. -/
theorem NamesTime.not_blank (h : NamesTime now cs t) : ∀ c ∈ cs, Text.isBlank c = false := by
  cases h with
  | present hn ho hw =>
    refine List.forall_mem_cons.2 ⟨?_, List.forall_mem_cons.2 ⟨?_, List.forall_mem_singleton.2 ?_⟩⟩
    · exact (forall_mem_of_all (by decide) : ∀ c ∈ ['n', 'N'], Text.isBlank c = false) _ hn
    · exact (forall_mem_of_all (by decide) : ∀ c ∈ ['o', 'O'], Text.isBlank c = false) _ ho
    · exact (forall_mem_of_all (by decide) : ∀ c ∈ ['w', 'W'], Text.isBlank c = false) _ hw
  | before hdigits _ hunit =>
    refine List.forall_mem_cons.2 ⟨rfl, List.forall_mem_append.2 ⟨?_, ?_⟩⟩
    · exact fun c hc => isBlank_of_isDigit (hdigits.2 c hc)
    · exact fun c hc => (unit_letters _ hunit c (by simpa using hc)).2
  | epoch hsign hdigits =>
    refine List.forall_mem_append.2 ⟨?_, fun c hc => isBlank_of_isDigit (hdigits.2 c hc)⟩
    rcases hsign with rfl | rfl
    · exact List.forall_mem_nil _
    · exact forall_mem_of_all (by decide)

/-- What is read behind a hyphen are the times before now. -/
theorem relativeTime?_eq_some_iff :
    relativeTime? now cs = some t ↔ NamesTime now ('-' :: cs) t := by
  unfold relativeTime?
  simp only [Option.bind_eq_bind, Option.bind_eq_some_iff, readNat?_eq_some_iff,
    checked_eq_some_iff, unitSeconds?_eq_some_iff]
  constructor
  · rintro ⟨amount, ⟨hdigits, hamount⟩, _, ⟨hfits, rfl⟩, seconds, hunit, _, ⟨hoffset, rfl⟩,
      htime, rfl⟩
    have h := NamesTime.before hdigits hamount hunit hfits hoffset htime
    rwa [List.takeWhile_append_dropWhile] at h
  · intro h
    generalize htext : '-' :: cs = text at h
    cases h with
    | present hn =>
      obtain ⟨rfl, -⟩ := List.cons.inj htext
      exact absurd hn (by decide)
    | before hdigits hamount hunit hfits hoffset htime =>
      obtain rfl := (List.cons.inj htext).2
      obtain ⟨htake, hdrop⟩ := span_append hdigits.2 fun d hd =>
        (unit_letters _ hunit d (by simpa using List.mem_of_mem_head? hd)).1
      rw [htake, hdrop]
      exact ⟨_, ⟨hdigits, hamount⟩, _, ⟨hfits, rfl⟩, _, hunit, _, ⟨hoffset, rfl⟩, htime, rfl⟩
    | epoch hsign hdigits =>
      rcases hsign with rfl | rfl
      · rw [List.nil_append] at htext
        exact absurd (htext ▸ hdigits) (not_isDigits_cons rfl cs)
      · cases htext

/-- A letter in lower case stands for two. -/
theorem toLower_eq_letter_iff {c lower upper : Char} (hlower : 97 ≤ lower.toNat ∧ lower.toNat ≤ 122)
    (hupper : upper.toNat + 32 = lower.toNat) : c.toLower = lower ↔ c ∈ [lower, upper] := by
  simp only [List.mem_cons, List.not_mem_nil, or_false, ← Char.toNat_inj, toNat_toLower]
  split <;> omega

theorem map_toLower_eq_now_iff : cs.map Char.toLower = ['n', 'o', 'w'] ↔
    ∃ n ∈ ['n', 'N'], ∃ o ∈ ['o', 'O'], ∃ w ∈ ['w', 'W'], cs = [n, o, w] := by
  have hn : ∀ c : Char, c.toLower = 'n' ↔ c ∈ ['n', 'N'] := fun c =>
    toLower_eq_letter_iff (by decide) (by decide)
  have ho : ∀ c : Char, c.toLower = 'o' ↔ c ∈ ['o', 'O'] := fun c =>
    toLower_eq_letter_iff (by decide) (by decide)
  have hw : ∀ c : Char, c.toLower = 'w' ↔ c ∈ ['w', 'W'] := fun c =>
    toLower_eq_letter_iff (by decide) (by decide)
  simp only [List.map_eq_cons_iff, List.map_eq_nil_iff, hn, ho, hw]
  constructor
  · rintro ⟨n, _, rfl, hn, o, _, rfl, ho, w, _, rfl, hw, rfl⟩
    exact ⟨n, hn, o, ho, w, hw, rfl⟩
  · rintro ⟨n, hn, o, ho, w, hw, rfl⟩
    exact ⟨n, _, rfl, hn, o, _, rfl, ho, w, _, rfl, hw, rfl⟩

/-- A time is read from the texts that name one. -/
theorem timeOf?_eq_some_iff : timeOf? now cs = some t ↔ NamesTime now cs t := by
  unfold timeOf?
  by_cases hnow : cs.map Char.toLower = ['n', 'o', 'w']
  · obtain ⟨n, hn, o, ho, w, hw, rfl⟩ := map_toLower_eq_now_iff.1 hnow
    rw [if_pos hnow, Option.some.injEq]
    constructor
    · rintro rfl
      exact .present hn ho hw
    · intro h
      generalize htext : [n, o, w] = text at h
      cases h with
      | present => rfl
      | before =>
        obtain ⟨rfl, -⟩ := List.cons.inj htext
        exact absurd hn (by decide)
      | @epoch sign digits _ hsign hdigits =>
        rcases hsign with rfl | rfl
        · rw [List.nil_append] at htext
          have hdigit : ∀ c ∈ ['n', 'N'], c.isDigit = false := forall_mem_of_all (by decide)
          exact absurd (htext ▸ hdigits) (not_isDigits_cons (hdigit n hn) _)
        · obtain ⟨rfl, -⟩ := List.cons.inj htext
          exact absurd hn (by decide)
  · rw [if_neg hnow]
    split
    · exact relativeTime?_eq_some_iff
    · next hminus =>
      simp only [Option.bind_eq_some_iff, readInt?_eq_some_iff, checked_eq_some_iff]
      constructor
      · rintro ⟨_, ⟨ds, hds, ⟨hcs, rfl⟩ | ⟨hcs, -⟩⟩, hfits, rfl⟩
        · rcases hcs with rfl | rfl
          · exact .epoch (Or.inl rfl) hds rfl hfits
          · exact .epoch (Or.inr rfl) hds rfl hfits
        · exact (hminus ds hcs).elim
      · intro h
        cases h with
        | present hn ho hw =>
          exact absurd (map_toLower_eq_now_iff.2 ⟨_, hn, _, ho, _, hw, rfl⟩) hnow
        | before => exact (hminus _ rfl).elim
        | @epoch sign digits amount hsign hdigits hamount hfits =>
          subst hamount
          refine ⟨_, ⟨digits, hdigits, Or.inl ⟨?_, rfl⟩⟩, hfits, rfl⟩
          rcases hsign with rfl | rfl
          · exact Or.inl rfl
          · exact Or.inr rfl

/-- Each time that is named fits, since now does. -/
theorem NamesTime.fits (hnow : Timestamp.fits now = true) (h : NamesTime now cs t) :
    Timestamp.fits t = true := by
  cases h with
  | present => exact hnow
  | before _ _ _ _ _ htime => exact htime
  | epoch _ _ _ hfits => exact hfits

/-! ## Values -/

/-- The value is a time, perhaps with blanks around it, and this names the instant. -/
def HoldsTime (now : Int) (value : String) (t : Int) : Prop :=
  ∃ before text after, value.toList = before ++ text ++ after ∧
    (∀ c ∈ before, Text.isBlank c = true) ∧ (∀ c ∈ after, Text.isBlank c = true) ∧
    NamesTime now text t

/-- A value holds a time if it names one without the blanks around. -/
theorem holdsTime_iff {value : String} :
    HoldsTime now value t ↔ timeOf? now (Text.trim value.toList) = some t := by
  rw [timeOf?_eq_some_iff]
  constructor
  · rintro ⟨before, text, after, hvalue, hbefore, hafter, htext⟩
    rw [hvalue, Text.trim_append hbefore htext.not_blank hafter]
    exact htext
  · intro h
    obtain ⟨before, after, hvalue, hbefore, hafter⟩ := Text.exists_trim value.toList
    exact ⟨before, _, after, hvalue, hbefore, hafter, h⟩

/-- A value is read as an instant exactly if it is a time between blanks that names this instant,
which then fits. Any other value is refused, by the name of the parameter and with the value. -/
theorem readTime_holdsTime (name value : String) {now : Int} (hnow : fits now = true) :
    (∀ t, readTime name value now = .ok t ↔ HoldsTime now value t) ∧
      (∀ t, HoldsTime now value t → fits t = true) ∧
      ((∀ t, ¬HoldsTime now value t) → readTime name value now = .error (.time name value)) := by
  refine ⟨fun t => ?_, ?_, fun hnone => ?_⟩
  · rw [holdsTime_iff]
    unfold readTime
    cases timeOf? now (Text.trim value.toList) with
    | none => exact iff_of_false (fun h => by cases h) fun h => by cases h
    | some s => simp
  · rintro t ⟨-, text, -, -, -, -, htext⟩
    exact htext.fits hnow
  · have hvalue : timeOf? now (Text.trim value.toList) = none :=
      Option.eq_none_iff_forall_ne_some.2 fun t ht => hnone t (holdsTime_iff.2 ht)
    rw [readTime, hvalue]

/-- Shortly after the earliest instant there is a time one minute ago, but none two minutes ago. -/
theorem readTime_holdsTime_earliest : fits (least + 100) = true ∧
    readTime "from" "\u2003-1min\n" (least + 100) = .ok (least + 40) ∧
    (∀ t, ¬HoldsTime (least + 100) "-2min" t) ∧
    readTime "from" "-2min" (least + 100) = .error (.time "from" "-2min") := by
  have hnow : fits (least + 100) = true := by decide
  obtain ⟨hread, -, -⟩ := readTime_holdsTime "from" "\u2003-1min\n" hnow
  obtain ⟨hread', -, hrefused⟩ := readTime_holdsTime "from" "-2min" hnow
  have hminute : NamesTime (least + 100) ['-', '1', 'm', 'i', 'n'] (least + 40) :=
    .before (by decide : IsDigits ['1']) (by decide : _ = 1) (by decide : (_, 60) ∈ timeUnits)
      (by decide) (by decide) (by decide)
  have hnone : ∀ t, ¬HoldsTime (least + 100) "-2min" t := by
    intro t ht
    have hok := toOption_eq_some_iff.2 ((hread' t).2 ht)
    have hfails : (readTime "from" "-2min" (least + 100)).toOption = none := by decide
    cases hfails.symm.trans hok
  exact ⟨hnow, (hread _).2 ⟨['\u2003'], _, ['\n'], rfl, forall_mem_of_all (by decide),
    forall_mem_of_all (by decide), hminute⟩, hnone, hrefused hnone⟩

end SeriesRender
