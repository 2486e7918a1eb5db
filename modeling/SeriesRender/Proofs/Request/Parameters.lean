import SeriesRender.Proofs.Basic
import SeriesRender.Request.Parameters

/-!
# What parameters are made of

The pairs of a query string and of a body are those of the two texts joined by an ampersand
(`parameterPairs_join`), so it does not matter where a parameter stands. `LastOf` says which value
of a parameter decides, and `Parameters.Follow` what follows from the pairs : every target that is
not blank, in order, and of the other parameters the last one. `Parameters.read_joined` says that
parameters are accepted exactly if they follow from the pairs; their tenant has a name then,
whatever the parameter and the header are (`resolveTenant_ne_empty`).
-/

namespace SeriesRender

open Text

/-! ## Pairs -/

theorem bytes_append (as bs : List Char) : bytes (as ++ bs) = bytes as ++ bytes bs := by
  simp [bytes]

theorem splitBytes_eq (sep : Nat) (bs : List Nat) : splitBytes sep bs = bs.splitOn sep := by
  induction bs with
  | nil => rfl
  | cons b bs ih =>
    rw [splitBytes, ih, List.splitOn_cons_eq_if_modifyHead]
    by_cases hb : b = sep
    · rw [if_pos hb, if_pos (beq_iff_eq.2 hb)]
    · rw [if_neg hb, if_neg (mt beq_iff_eq.1 hb)]
      cases hs : bs.splitOn sep with
      | nil => exact absurd hs (List.splitOn_ne_nil sep bs)
      | cons piece pieces => rfl

theorem formPairs_append (as bs : List Nat) :
    formPairs (as ++ ampersand :: bs) = formPairs as ++ formPairs bs := by
  simp only [formPairs, splitBytes_eq, List.splitOn_append_cons_self, List.filter_append,
    List.map_append]

/-- A query string and a body are read like one text. -/
theorem parameterPairs_join (query body : String) :
    parameterPairs (query ++ "&" ++ body) "" = parameterPairs query body := by
  have hbytes : bytes (query ++ "&" ++ body).toList =
      bytes query.toList ++ ampersand :: bytes body.toList := by
    rw [String.toList_append, String.toList_append, bytes_append, bytes_append, List.append_assoc]
    rfl
  have hnone : formPairs (bytes "".toList) = [] := rfl
  rw [parameterPairs, hbytes, formPairs_append, hnone, List.append_nil, parameterPairs]

/-- The value of the last pair with a name, if there is one. -/
inductive LastOf (name : String) : List (String × String) → Option String → Prop
  | none {pairs : List (String × String)} : (∀ pair ∈ pairs, pair.1 ≠ name) → LastOf name pairs none
  | some (before : List (String × String)) (value : String) {after : List (String × String)} :
      (∀ pair ∈ after, pair.1 ≠ name) → LastOf name (before ++ (name, value) :: after) (some value)

variable {pairs : List (String × String)} {name : String}

/-- The last value is the last of all the values. -/
theorem lastValue?_eq (pairs : List (String × String)) (name : String) :
    lastValue? pairs name = (allValues pairs name).getLast? := by
  rw [lastValue?, allValues, List.getLast?_map]

theorem allValues_eq_nil (h : ∀ pair ∈ pairs, pair.1 ≠ name) : allValues pairs name = [] := by
  rw [allValues, List.map_eq_nil_iff, List.filter_eq_nil_iff]
  exact fun pair hpair => mt of_decide_eq_true (h pair hpair)

/-- Where the last occurrence is known, this is the value. -/
theorem LastOf.lastValue?_eq {value : Option String} (h : LastOf name pairs value) :
    lastValue? pairs name = value := by
  rw [SeriesRender.lastValue?_eq]
  cases h with
  | none h => rw [allValues_eq_nil h, List.getLast?_nil]
  | @some before value after h =>
    have hvalues : allValues (before ++ (name, value) :: after) name =
        allValues before name ++ value :: allValues after name := by
      simp [allValues]
    rw [hvalues, allValues_eq_nil h, List.getLast?_concat]

/-- There is a last occurrence, or none at all. -/
theorem exists_lastOf (pairs : List (String × String)) (name : String) :
    ∃ value, LastOf name pairs value := by
  induction pairs with
  | nil => exact ⟨none, .none (List.forall_mem_nil _)⟩
  | cons pair pairs ih =>
    obtain ⟨value, h⟩ := ih
    cases h with
    | none h =>
      by_cases hpair : pair.1 = name
      · subst hpair
        exact ⟨some pair.2, LastOf.some [] pair.2 h⟩
      · exact ⟨none, .none (List.forall_mem_cons.2 ⟨hpair, h⟩)⟩
    | @some before value after h => exact ⟨some value, LastOf.some (pair :: before) value h⟩

theorem lastOf_iff {value : Option String} :
    LastOf name pairs value ↔ lastValue? pairs name = value := by
  refine ⟨LastOf.lastValue?_eq, fun h => ?_⟩
  obtain ⟨last, hlast⟩ := exists_lastOf pairs name
  rwa [← h, hlast.lastValue?_eq]

/-- What is said of the last value is said of the value that is read. -/
theorem forall_lastOf_iff {P : Option String → Prop} :
    (∀ value, LastOf name pairs value → P value) ↔ P (lastValue? pairs name) := by
  simp only [lastOf_iff, forall_eq']

/-! ## Tenants -/

theorem nonEmpty?_eq_none_iff {name : String} : nonEmpty? name = none ↔ name = "" := by
  unfold nonEmpty?
  by_cases h : name = ""
  · simp [h]
  · simp [h]

theorem nonEmpty?_of_ne {name : String} (h : name ≠ "") : nonEmpty? name = some name := by
  unfold nonEmpty?
  simp [h]

theorem bind_nonEmpty?_eq (value : Option String) :
    value.bind nonEmpty? = value.filter (· ≠ "") := by
  cases value with
  | none => rfl
  | some name =>
    by_cases h : name = ""
    · rw [Option.bind_some, nonEmpty?_eq_none_iff.2 h, Option.filter_some_neg (by simpa)]
    · rw [Option.bind_some, nonEmpty?_of_ne h, Option.filter_some_pos (by simpa)]

/-- The parameter comes before the header, and an empty one counts as none. -/
theorem resolveTenant_eq (parameter header : Option String) :
    resolveTenant parameter header =
      ((parameter.filter (· ≠ "")).or (header.filter (· ≠ ""))).getD "NONE" := by
  rw [resolveTenant, bind_nonEmpty?_eq, bind_nonEmpty?_eq, defaultTenant]

/-- Nothing can be rendered for the empty tenant. -/
theorem resolveTenant_ne_empty (parameter header : Option String) :
    resolveTenant parameter header ≠ "" := by
  have hfilter : ∀ {value : Option String} {name}, value.filter (· ≠ "") = some name → name ≠ "" :=
    fun h => of_decide_eq_true (Option.filter_eq_some_iff.1 h).2
  rw [resolveTenant_eq]
  cases hp : parameter.filter (· ≠ "") with
  | some name => exact hfilter hp
  | none =>
    cases hh : header.filter (· ≠ "") with
    | some name => exact hfilter hh
    | none => decide

/-! ## Targets and formats -/

/-- A text is not blank if one of its characters is not. -/
theorem isAllBlank_eq_false_iff {cs : List Char} :
    isAllBlank cs = false ↔ ∃ c ∈ cs, isBlank c = false := by
  rw [isAllBlank, List.all_eq_false]
  simp

/-- The values that are not blank, taken from the pairs at once. -/
theorem filter_allValues_eq (pairs : List (String × String)) (name : String) :
    ((allValues pairs name).filter fun value => !isAllBlank value.toList) =
      (pairs.filter fun pair => pair.1 = name && pair.2.toList.any fun c => !isBlank c).map
        Prod.snd := by
  rw [allValues, List.filter_map, List.filter_filter]
  refine congrArg (List.map Prod.snd) (List.filter_congr fun pair _ => ?_)
  rw [Bool.and_comm, Function.comp_apply, isAllBlank, List.not_all_eq_any_not]

/-- Any of the names of a format is accepted, and JSON is meant where there is none. -/
theorem readFormat_eq_ok_iff {name : Option String} {format : OutputFormat} :
    readFormat name = .ok format ↔ OutputFormat.ofName? (name.getD "json") = some format := by
  cases name with
  | none =>
    have hjson : OutputFormat.ofName? "json" = some .json := by decide +kernel
    rw [Option.getD_none, hjson, readFormat, Except.ok.injEq, Option.some.injEq]
  | some name =>
    rw [Option.getD_some, readFormat]
    cases OutputFormat.ofName? name with
    | none => exact iff_of_false (fun h => by cases h) fun h => by cases h
    | some f => rw [Except.ok.injEq, Option.some.injEq]

/-! ## Accepted parameters -/

namespace Parameters

/-- What parameters have to be, given the pairs of a request and its header. -/
structure Follow (pairs : List (String × String)) (header : Option String) (now : Int)
    (p : Parameters) : Prop where
  targets : p.targets = (pairs.filter fun pair =>
    pair.1 = "target" && pair.2.toList.any fun c => !isBlank c).map Prod.snd
  targets_ne_nil : p.targets ≠ []
  tenant : ∀ value, LastOf "tenant" pairs value →
    p.tenant = ((value.filter (· ≠ "")).or (header.filter (· ≠ ""))).getD "NONE"
  start : ∀ value, LastOf "from" pairs value →
    readTime "from" (value.getD "-1d") now = .ok p.start
  stop : ∀ value, LastOf "until" pairs value →
    readTime "until" (value.getD "now") now = .ok p.stop
  start_lt_stop : p.start < p.stop
  format : ∀ value, LastOf "format" pairs value →
    OutputFormat.ofName? (value.getD "json") = some p.format

theorem ofPairs_eq_ok_iff {header : Option String} {now : Int} {p : Parameters} :
    ofPairs pairs header now = .ok p ↔
      p.targets = ((allValues pairs "target").filter fun t => !isAllBlank t.toList) ∧
        p.targets ≠ [] ∧
        p.tenant = resolveTenant (lastValue? pairs "tenant") header ∧
        readTime "from" ((lastValue? pairs "from").getD "-1d") now = .ok p.start ∧
        readTime "until" ((lastValue? pairs "until").getD "now") now = .ok p.stop ∧
        p.start < p.stop ∧ readFormat (lastValue? pairs "format") = .ok p.format := by
  unfold ofPairs
  dsimp only
  constructor
  · intro h
    split at h
    · obtain ⟨_, h, -⟩ := bind_eq_ok_iff.1 h
      cases h
    · obtain ⟨start, hstart, h⟩ := bind_eq_ok_iff.1 h
      obtain ⟨stop, hstop, h⟩ := bind_eq_ok_iff.1 h
      split at h
      · obtain ⟨_, h, -⟩ := bind_eq_ok_iff.1 h
        cases h
      · obtain ⟨format, hformat, h⟩ := bind_eq_ok_iff.1 h
        obtain rfl := Except.ok.inj h
        exact ⟨rfl, mt List.isEmpty_iff.2 ‹_›, rfl, hstart, hstop, Int.not_le.1 ‹_›, hformat⟩
  · rintro ⟨htargets, hne, htenant, hstart, hstop, hlt, hformat⟩
    rw [if_neg (mt List.isEmpty_iff.1 (htargets ▸ hne))]
    refine bind_eq_ok_iff.2 ⟨p.start, hstart, bind_eq_ok_iff.2 ⟨p.stop, hstop, ?_⟩⟩
    rw [if_neg (Int.not_le.2 hlt)]
    refine bind_eq_ok_iff.2 ⟨p.format, hformat, ?_⟩
    rw [← htargets, ← htenant]
    rfl

theorem ofPairs_eq_ok_iff_follow {header : Option String} {now : Int} {p : Parameters} :
    ofPairs pairs header now = .ok p ↔ p.Follow pairs header now := by
  rw [ofPairs_eq_ok_iff, filter_allValues_eq, readFormat_eq_ok_iff, resolveTenant_eq]
  constructor
  · rintro ⟨htargets, hne, htenant, hstart, hstop, hlt, hformat⟩
    exact ⟨htargets, hne, forall_lastOf_iff.2 htenant, forall_lastOf_iff.2 hstart,
      forall_lastOf_iff.2 hstop, hlt, forall_lastOf_iff.2 hformat⟩
  · intro h
    exact ⟨h.targets, h.targets_ne_nil, forall_lastOf_iff.1 h.tenant, forall_lastOf_iff.1 h.start,
      forall_lastOf_iff.1 h.stop, h.start_lt_stop, forall_lastOf_iff.1 h.format⟩

/-- A query string and a body are read like one text. Parameters are accepted exactly if they
follow from the pairs of both. They have a target then, no target is blank, the tenant has a name,
and the range is not empty. -/
theorem read_joined (query body : String) (header : Option String) (now : Int) :
    read query body header now = read (query ++ "&" ++ body) "" header now ∧
      (∀ p, read query body header now = .ok p ↔
        p.Follow (parameterPairs query body) header now) ∧
      ∀ p, read query body header now = .ok p →
        p.targets ≠ [] ∧ (∀ t ∈ p.targets, ∃ c ∈ t.toList, isBlank c = false) ∧
          p.tenant ≠ "" ∧ p.start < p.stop := by
  refine ⟨?_, fun p => ofPairs_eq_ok_iff_follow, fun p hp => ?_⟩
  · rw [read, read, parameterPairs_join]
  · obtain ⟨htargets, hne, htenant, -, -, hlt, -⟩ := ofPairs_eq_ok_iff.1 hp
    refine ⟨hne, fun t ht => isAllBlank_eq_false_iff.1 ?_, ?_, hlt⟩
    · rw [htargets] at ht
      simpa using (List.mem_filter.1 ht).2
    · rw [htenant]
      exact resolveTenant_ne_empty _ _

/-- Of the names in both texts the last one decides, and a blank target does not count. -/
theorem read_joined_repeated :
    read "target=b&tenant=&target=%20&from=10" "from=5&target=a+b&until=65&tenant=acme&format=raw"
        (some "other") 0 = .ok ⟨"acme", ["b", "a b"], 5, 65, .raw⟩ ∧
      read "target=b&tenant=&target=%20&from=10&from=5&target=a+b&until=65&tenant=acme&format=raw"
        "" (some "other") 0 = .ok ⟨"acme", ["b", "a b"], 5, 65, .raw⟩ ∧
      "acme" ≠ "" ∧ (5 : Int) < 65 := by
  have hread : read "target=b&tenant=&target=%20&from=10"
      "from=5&target=a+b&until=65&tenant=acme&format=raw" (some "other") 0 =
        .ok ⟨"acme", ["b", "a b"], 5, 65, .raw⟩ := by
    rw [← toOption_eq_some_iff]
    decide +kernel
  obtain ⟨hjoined, -, hsane⟩ := read_joined "target=b&tenant=&target=%20&from=10"
    "from=5&target=a+b&until=65&tenant=acme&format=raw" (some "other") 0
  obtain ⟨-, -, htenant, hlt⟩ := hsane _ hread
  exact ⟨hread, hjoined.symm.trans hread, htenant, hlt⟩

end Parameters

theorem tenant_of_read {query body : String} {header : Option String} {now : Int}
    {p : Parameters} (h : Parameters.read query body header now = .ok p) :
    p.tenant = resolveTenant (lastValue? (parameterPairs query body) "tenant") header :=
  (Parameters.ofPairs_eq_ok_iff.1 h).2.2.1

end SeriesRender
