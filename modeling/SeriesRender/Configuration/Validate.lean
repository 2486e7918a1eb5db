import SeriesRender.Settings
import SeriesRender.SocketAddress

/-!
# Settings that cannot be used

`Settings.validate` finds the first fault of settings. Limits matter only where they are enabled,
and so does the interval of reports.
-/

namespace SeriesRender

/-- A setting that the service cannot start with. -/
inductive SettingsFault
  | bindAddress (text : String)
  | requestTimeout
  | maxConcurrent
  | maxDepth
  | maxRange
  | reportInterval
  | resolution
  | rate
  deriving DecidableEq, Repr

/-- What is said about it. -/
def SettingsFault.message : SettingsFault → String
  | bindAddress text => "Invalid bind address: " ++ text
  | requestTimeout => "Request timeout must be greater than zero"
  | maxConcurrent => "max_concurrent_evaluations must be at least 1"
  | maxDepth => "max_expression_depth must be at least 1"
  | maxRange => "max_range must be at least one second"
  | reportInterval => "Stats interval must be greater than zero"
  | resolution => "Storage resolution must be at least one second"
  | rate => "Throttling QPS values must be finite and at least 0.000001"

/-- The least rate that can be used. -/
def leastRate : Float := 1e-6

/-- Rates that leave a finite time between two requests. -/
def isUsableRate (rate : Float) : Bool :=
  rate.isFinite && leastRate ≤ rate

/-- Whether the default rate and the rates of all tenants can be used. -/
def RateLimits.isUsable (l : RateLimits) : Bool :=
  isUsableRate l.defaultRate && l.rates.toList.all fun (_, rate) => isUsableRate rate

namespace Settings

/-- All faults of settings. -/
def faults (s : Settings) : List SettingsFault :=
  [(isSocketAddress s.render.bindAddress, .bindAddress s.render.bindAddress),
    (decide (s.render.requestTimeout ≠ 0), .requestTimeout),
    (decide (s.render.maxConcurrent ≠ 0), .maxConcurrent),
    (decide (s.render.maxDepth ≠ 0), .maxDepth),
    (decide (Duration.second ≤ s.render.maxRange), .maxRange),
    (!s.reports.enabled || decide (s.reports.interval ≠ 0), .reportInterval),
    (decide (Duration.second ≤ s.storage.resolution), .resolution),
    (!s.limits.enabled || s.limits.isUsable, SettingsFault.rate)].filterMap
    fun (holds, fault) => if holds then none else some fault

/-- Whether settings can be used, or else their first fault. -/
def validate (s : Settings) : Except SettingsFault Unit :=
  match s.faults with
  | [] => .ok ()
  | fault :: _ => .error fault

end Settings

end SeriesRender
