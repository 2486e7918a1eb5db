import SeriesRender.Pacing
import SeriesRender.Timestamp

/-!
# Settings

What can be configured, with the values that hold unless something else is said.
-/

namespace SeriesRender

/-- How requests are evaluated. -/
structure RenderSettings where
  /-- The address that the service listens on. -/
  bindAddress : String
  /-- The time after which a request is given up. -/
  requestTimeout : Duration
  /-- Whether formats for people have numbers with suffixes. -/
  humanNumbers : Bool
  /-- How many evaluations run at the same time. -/
  maxConcurrent : Nat
  /-- How deep calls may be nested. -/
  maxDepth : Nat
  /-- The widest range a request may ask for. -/
  maxRange : Duration

/-- When counters are reported. -/
structure ReportSettings where
  enabled : Bool
  interval : Duration

/-- How series are kept. -/
structure StorageSettings where
  /-- The time between the samples of all series. -/
  resolution : Duration

/-- The step of all series in whole seconds; one that no timestamp reaches counts as one second. -/
def StorageSettings.step (s : StorageSettings) : Int :=
  (Timestamp.checked s.resolution.wholeSeconds).getD 1

/-- All settings of the service. -/
structure Settings where
  render : RenderSettings
  limits : RateLimits
  reports : ReportSettings
  storage : StorageSettings

/-- The settings that hold unless something else is said. -/
def Settings.standard : Settings where
  render := {
    bindAddress := "0.0.0.0:8080"
    requestTimeout := Duration.ofWholeSeconds 30
    humanNumbers := false
    maxConcurrent := 64
    maxDepth := 128
    maxRange := Duration.ofWholeSeconds (365 * 86400) }
  limits := .standard
  reports := ⟨true, Duration.ofWholeSeconds 60⟩
  storage := ⟨Duration.ofWholeSeconds 60⟩

end SeriesRender
