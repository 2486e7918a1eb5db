import Mathlib.Data.List.Forall2
import SeriesRender.Proofs.Output.Format
import SeriesRender.Proofs.Output.JsonNumber

/-!
# JSON bodies

A JSON body stands for one value, an array that shows the series : each by its name and, in order,
its samples beside their instants (`Json.Shows`). There is a body where all these instants can be
found (`body_json_spells`).
-/

namespace SeriesRender

open Timestamp

namespace Json

/-- The value is a sample beside its instant. The sample is null exactly if it is no finite number,
and else the number as it is written in JSON. -/
def IsPoint (sample : Option Float) (instant : Int) (v : Json) : Prop :=
  ∃ first text, v = .array [first, .number text] ∧ Decimal.readInt? text = some instant ∧
    (first = .null ↔ sample = none ∨ ∃ x, sample = some x ∧ x.isFinite = false) ∧
    ∀ x token, sample = some x → Decimal.Layout.json.chars? x = some token → first = .number token

/-- The value is an object with the name of the series and a point for each sample. -/
def Shows (s : Series) (v : Json) : Prop :=
  ∃ points, v = .object [("target", .string s.name), ("datapoints", .array points)] ∧
    points.length = s.samples.length ∧ ∀ (i : Nat) (sample : Option Float) (point : Json),
      s.samples[i]? = some sample → points[i]? = some point →
        IsPoint sample (s.start + i * s.step) point

theorem isPoint (sample : Option Float) (instant : Int) :
    IsPoint sample instant (.array [sampleJson sample, .ofInt instant]) := by
  refine ⟨_, _, rfl, Decimal.readInt?_signed instant, ?_, ?_⟩
  · cases sample with
    | none => simp [sampleJson]
    | some x => simp [sampleJson, ofFloat_eq_null_iff]
  · rintro x token rfl htoken
    rw [sampleJson, ofFloat, htoken]

/-- The value of a series whose instants can be found. -/
def ofSeries (s : Series) : Json :=
  .object [("target", .string s.name),
    ("datapoints", .array ((s.samples.zip s.wholeSteps).map fun (x, t) =>
      .array [sampleJson x, .ofInt t]))]

/-- A dated series is written as the object with its points. -/
theorem json_eq_ok_iff {s : Series} {v : Json} : s.json = .ok v ↔ s.Dated ∧ ofSeries s = v := by
  rw [Series.json, bind_eq_ok_iff]
  constructor
  · rintro ⟨ts, hts, hv⟩
    obtain ⟨hdated, rfl⟩ := Series.timestamps_eq_ok_iff.1 hts
    exact ⟨hdated, Except.ok.inj hv⟩
  · rintro ⟨hdated, rfl⟩
    exact ⟨_, Series.timestamps_eq_ok_iff.2 ⟨hdated, rfl⟩, rfl⟩

/-- The object of a series shows the series. -/
theorem shows_ofSeries (s : Series) : Shows s (ofSeries s) := by
  refine ⟨_, rfl, by simp [Series.wholeSteps], fun i sample point hsample hpoint => ?_⟩
  rw [List.getElem?_map, Option.map_eq_some_iff] at hpoint
  obtain ⟨⟨x, t⟩, hpair, rfl⟩ := hpoint
  obtain ⟨hx, ht⟩ := List.getElem?_zip_eq_some.1 hpair
  obtain rfl := Option.some.inj (hx.symm.trans hsample)
  obtain ⟨hi, -⟩ := List.getElem?_eq_some_iff.1 hx
  obtain rfl : s.start + i * s.step = t := by simpa [Series.wholeSteps, hi] using ht
  exact isPoint x _

theorem hasNumerals_sampleJson (sample : Option Float) : (sampleJson sample).HasNumerals := by
  cases sample with
  | none => exact .null
  | some x => exact hasNumerals_ofFloat x

theorem hasNumerals_ofSeries (s : Series) : (ofSeries s).HasNumerals := by
  refine .object (List.forall_mem_cons.2 ⟨.string s.name,
    List.forall_mem_singleton.2 (.array fun point hpoint => ?_)⟩)
  obtain ⟨⟨x, t⟩, -, rfl⟩ := List.mem_map.1 hpoint
  exact .array (List.forall_mem_cons.2 ⟨hasNumerals_sampleJson x,
    List.forall_mem_singleton.2 (hasNumerals_ofInt t)⟩)

end Json

variable {ss : List Series}

theorem jsonBody_eq_ok_iff {body : List Char} : jsonBody ss = .ok body ↔
    (∀ s ∈ ss, s.Dated) ∧ (Json.array (ss.map Json.ofSeries)).compact = body := by
  rw [jsonBody, bind_eq_ok_iff]
  constructor
  · rintro ⟨elements, helements, hbody⟩
    obtain ⟨hdated, rfl⟩ := (mapM_eq_ok_iff_map fun s v => Json.json_eq_ok_iff).1 helements
    exact ⟨hdated, Except.ok.inj hbody⟩
  · rintro ⟨hdated, rfl⟩
    exact ⟨_, (mapM_eq_ok_iff_map fun s v => Json.json_eq_ok_iff).2 ⟨hdated, rfl⟩, rfl⟩

/-- Where all sums fit, a crash is for an offset that does not. -/
theorem product_of_jsonBody {overflow : Overflow}
    (hsums : ∀ s ∈ ss, Series.SumsFit s.start s.step s.samples.length)
    (h : jsonBody ss = .error overflow) : overflow = .product := by
  rcases bind_eq_error_iff.1 h with h | ⟨_, -, h⟩
  · -- the first series that cannot be written says why
    obtain ⟨before, s, after, rfl, -, hs⟩ := mapM_eq_error_iff.1 h
    rcases bind_eq_error_iff.1 hs with hs | ⟨_, -, hs⟩
    · exact ((Series.timestamps_eq_error_iff (hsums s (by simp))).1 hs).2
    · cases hs
  · cases h

/-- The instants of all samples fit. If the offsets from the starts fit as well, there is a JSON
body, and it stands for one value only : an array that shows the series in order. Otherwise there
is a crash. -/
theorem body_json_spells (style : NumberStyle)
    (h : ∀ s ∈ ss, Series.SumsFit s.start s.step s.samples.length) :
    ((∀ s ∈ ss, Series.OffsetsFit s.step s.samples.length) →
      ∃ response values, formatSeries .json style ss = .ok response ∧
        (∀ v, Json.Spells response.body.toList v ↔ v = .array values) ∧
        List.Forall₂ Json.Shows ss values) ∧
    ((∃ s ∈ ss, ¬Series.OffsetsFit s.step s.samples.length) →
      formatSeries .json style ss = .error .product) := by
  constructor
  · intro hoffsets
    have hbody := jsonBody_eq_ok_iff.2 ⟨fun s hs => ⟨hoffsets s hs, h s hs⟩, rfl⟩
    have hspells : Json.Spells (Json.array (ss.map Json.ofSeries)).compact
        (.array (ss.map Json.ofSeries)) := by
      refine Json.HasNumerals.spells (.array fun v hv => ?_)
      obtain ⟨s, -, rfl⟩ := List.mem_map.1 hv
      exact Json.hasNumerals_ofSeries s
    refine ⟨_, ss.map Json.ofSeries, bind_eq_ok_iff.2 ⟨_, hbody, rfl⟩, fun v => ?_, ?_⟩
    · rw [String.toList_ofList]
      exact ⟨fun hv => hv.unique hspells, fun hv => hv ▸ hspells⟩
    · rw [List.forall₂_map_right_iff, List.forall₂_same]
      exact fun s _ => Json.shows_ofSeries s
  · rintro ⟨s, hs, hoffset⟩
    cases hbody : jsonBody ss with
    | ok body => exact absurd ((jsonBody_eq_ok_iff.1 hbody).1 s hs).1 hoffset
    | error overflow =>
      obtain rfl := product_of_jsonBody h hbody
      exact bind_eq_error_iff.2 (Or.inl hbody)

/-- A name that has to be escaped, with the last instants there are, and a series of no samples. -/
def escapedSeries : List Series :=
  [⟨"a\"\\\n\x01é", 9223372036854775800, 9223372036854775807, 7, [none, some 1]⟩, ⟨"", 0, 0, 1, []⟩]

theorem body_json_spells_escaped :
    (∃ response points, formatSeries .json .machine escapedSeries = .ok response ∧
      Json.Spells response.body.toList
        (.array [.object [("target", .string "a\"\\\n\x01é"), ("datapoints", .array points)],
          .object [("target", .string ""), ("datapoints", .array [])]]) ∧
        points.length = 2 ∧ ∃ text, points[0]? = some (.array [.null, .number text]) ∧
          Decimal.readInt? text = some 9223372036854775800) ∧
      formatSeries .json .machine [widestSeries] = .error .product := by
  have hsums : ∀ s ∈ escapedSeries, Series.SumsFit s.start s.step s.samples.length := by
    decide
  have hoffsets : ∀ s ∈ escapedSeries, Series.OffsetsFit s.step s.samples.length := by
    decide
  constructor
  · obtain ⟨response, values, hresponse, hvalues, hshows⟩ :=
      (body_json_spells .machine hsums).1 hoffsets
    obtain ⟨_, _, ⟨points, rfl, hlength, hpoints⟩, hrest, rfl⟩ :=
      List.forall₂_cons_left_iff.1 hshows
    obtain ⟨_, _, ⟨others, rfl, hothers, -⟩, hnil, rfl⟩ := List.forall₂_cons_left_iff.1 hrest
    obtain rfl := List.forall₂_nil_left_iff.1 hnil
    obtain rfl := List.length_eq_zero_iff.1 hothers
    refine ⟨response, points, hresponse, (hvalues _).2 rfl, hlength, ?_⟩
    obtain ⟨point, hpoint⟩ : ∃ point, points[0]? = some point :=
      ⟨_, List.getElem?_eq_getElem (hlength ▸ (by decide : 0 < 2))⟩
    obtain ⟨first, text, rfl, htext, hnull, -⟩ := hpoints 0 none point rfl hpoint
    obtain rfl := hnull.2 (Or.inl rfl)
    exact ⟨text, hpoint, htext⟩
  · exact (body_json_spells .machine (by decide)).2 ⟨widestSeries, List.mem_singleton.2 rfl,
      by decide⟩

/-- So there are series whose instants all fit, and no JSON body. -/
theorem exists_body_json_missed : ∃ ss : List Series,
    (∀ s ∈ ss, ∀ i < s.samples.length, fits (s.start + i * s.step) = true) ∧
      formatSeries .json .machine ss = .error .product := by
  refine ⟨[widestSeries], ?_, rfl⟩
  decide

end SeriesRender
