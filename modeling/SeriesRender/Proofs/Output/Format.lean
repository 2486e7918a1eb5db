import SeriesRender.Output.Format
import SeriesRender.Proofs.Series

/-!
# When series can be written

JSON and CSV write the instant of every sample, and raw does not. So all series can be written raw,
and in the other formats just those whose samples have instants (`exists_formatSeries_iff`).
-/

namespace SeriesRender

variable {style : NumberStyle}

namespace Series

variable {s : Series}

/-- A series has timestamps just if it is dated. -/
theorem exists_timestamps_iff : (∃ ts, s.timestamps = .ok ts) ↔ s.Dated := by
  simp only [timestamps_eq_ok_iff]
  exact ⟨fun ⟨ts, h, _⟩ => h, fun h => ⟨_, h, rfl⟩⟩

theorem exists_json_iff : (∃ v, s.json = .ok v) ↔ s.Dated :=
  exists_bind_pure_eq_ok_iff.trans exists_timestamps_iff

theorem exists_csv_iff : (∃ lines, s.csv style = .ok lines) ↔ s.Dated :=
  exists_bind_pure_eq_ok_iff.trans exists_timestamps_iff

end Series

/-- Series can be written raw, and otherwise if all samples have instants. -/
theorem exists_formatSeries_iff {format : OutputFormat} {ss : List Series} :
    (∃ response, formatSeries format style ss = .ok response) ↔
      format = .raw ∨ ∀ s ∈ ss, s.Dated := by
  cases format with
  | json =>
    refine exists_bind_pure_eq_ok_iff.trans (exists_bind_pure_eq_ok_iff.trans ?_)
    simp only [exists_mapM_eq_ok_iff, Series.exists_json_iff, reduceCtorEq, false_or]
  | csv =>
    refine exists_bind_pure_eq_ok_iff.trans (exists_bind_pure_eq_ok_iff.trans ?_)
    simp only [exists_mapM_eq_ok_iff, Series.exists_csv_iff, reduceCtorEq, false_or]
  | raw => exact iff_of_true ⟨_, rfl⟩ (Or.inl rfl)

/-- Three samples on the widest interval, of which the last one is too far from the first. -/
def widestSeries : Series :=
  ⟨"s", Timestamp.least, Timestamp.greatest, Timestamp.greatest, [none, none, none]⟩

end SeriesRender
