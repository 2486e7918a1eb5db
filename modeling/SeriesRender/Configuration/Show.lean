import SeriesRender.Duration.Text
import SeriesRender.Output.Json
import SeriesRender.Settings

/-!
# Showing settings

Settings are shown as lines for people, which leave out what is switched off, or in full as JSON,
under the names that they have in a file.
-/

namespace SeriesRender

/-- The settings of requests as an object. -/
def RenderSettings.json (s : RenderSettings) : Json :=
  .object [("bind_addr", .string s.bindAddress),
    ("request_timeout", .string s.requestTimeout.text),
    ("human_readable_numbers", .boolean s.humanNumbers),
    ("max_concurrent_evaluations", .ofInt s.maxConcurrent),
    ("max_expression_depth", .ofInt s.maxDepth),
    ("max_range", .string s.maxRange.text)]

/-- The limits as an object, with the rates of single tenants in it. -/
def RateLimits.json (l : RateLimits) : Json :=
  .object [("enabled", .boolean l.enabled),
    ("default_qps", .ofFloat l.defaultRate),
    ("tenants", .object (l.rates.toList.map fun (tenant, rate) => (tenant, .ofFloat rate))),
    ("exceptions", .array (l.exempt.map .string)),
    ("enforce", .boolean l.enforced)]

namespace Settings

/-- All settings as an object. -/
def json (s : Settings) : Json :=
  .object [("querier", s.render.json), ("throttling", s.limits.json),
    ("stats", .object [("enabled", .boolean s.reports.enabled),
      ("interval", .string s.reports.interval.text)]),
    ("storage", .object [("resolution", .string s.storage.resolution.text)])]

/-- A duration as one number with a unit. -/
def durationText (d : Duration) : String :=
  String.ofList d.decimalChars

/-- A truth value in words. -/
def booleanText (b : Bool) : String :=
  if b then "true" else "false"

/-- The lines on limits. -/
def limitLines (l : RateLimits) : List String :=
  if l.enabled then
    ["Throttling default QPS: " ++ Decimal.plain l.defaultRate,
      "Throttling overrides: " ++ toString l.rates.size,
      "Throttling enforced: " ++ booleanText l.enforced]
  else ["Throttling: disabled"]

/-- The line on reports. -/
def reportLine (s : ReportSettings) : String :=
  if s.enabled then "Stats interval: " ++ durationText s.interval else "Stats: disabled"

/-- Settings as lines. -/
def lines (s : Settings) : List String :=
  ["Graphite Reader Configuration:",
    "==============================",
    "Bind address: " ++ s.render.bindAddress,
    "Request timeout: " ++ durationText s.render.requestTimeout,
    "Human readable numbers: " ++ booleanText s.render.humanNumbers,
    "Max concurrent evaluations: " ++ toString s.render.maxConcurrent,
    "Max expression depth: " ++ toString s.render.maxDepth,
    "Max time range: " ++ durationText s.render.maxRange] ++
  limitLines s.limits ++
  [reportLine s.reports, "Storage resolution: " ++ durationText s.storage.resolution]

end Settings

end SeriesRender
