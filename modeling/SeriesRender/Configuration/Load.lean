import SeriesRender.Configuration.Environment
import SeriesRender.Duration.Text
import SeriesRender.Settings
import SeriesRender.Toml.Document

/-!
# Loading settings

Settings come from a TOML file and from the environment, which is laid over the file; what neither
of them gives keeps its standard value, and what they give beyond the settings is ignored. An error
names the path of the setting that is at fault. Where several are, it is the first one in the order
of names.
-/

namespace SeriesRender

/-- Where the settings are wrong, as a path; empty if a source cannot be read at all. -/
structure LoadError where
  path : List String
  deriving DecidableEq, Repr

namespace ConfigValue

/-- A reader of settings from a value. -/
abbrev Decoder (α : Type) := ConfigValue → Except LoadError α

/-- An error at the value itself. -/
def wrong {α : Type} : Except LoadError α :=
  .error ⟨[]⟩

/-- The same error, seen from outside : one key further down. -/
def LoadError.within (key : String) (e : LoadError) : LoadError :=
  ⟨key :: e.path⟩

/-- The value at a key, or the standard one. -/
def field {α : Type} (members : List (String × ConfigValue)) (key : String) (standard : α)
    (decode : Decoder α) : Except LoadError α :=
  match members.lookup key with
  | none => .ok standard
  | some v => (decode v).mapError (LoadError.within key)

/-- A text. -/
def toText : Decoder String
  | .text s => .ok s
  | _ => wrong

/-- A truth value. -/
def toBoolean : Decoder Bool
  | .boolean b => .ok b
  | _ => wrong

/-- A count, in 64 bits. -/
def toCount : Decoder Nat
  | .integer n => if 0 ≤ n ∧ n < 0x10000000000000000 then .ok n.toNat else wrong
  | _ => wrong

/-- A rate; an integer is one as well. -/
def toFloat : Decoder Float
  | .float x => .ok x
  | .integer n => .ok (Float.ofInt n)
  | _ => wrong

/-- A duration, written as a text. -/
def toDuration : Decoder Duration
  | .text s =>
    match Duration.read? s.toList with
    | some d => .ok d
    | none => wrong
  | _ => wrong

/-- Texts, the first of which has the given index. -/
def textsFrom (index : Nat) : List ConfigValue → Except LoadError (List String)
  | [] => .ok []
  | v :: vs => do
    let s ← v.toText.mapError (LoadError.within (toString index))
    return s :: (← textsFrom (index + 1) vs)

/-- An array of texts. -/
def toTexts : Decoder (List String)
  | .array vs => textsFrom 0 vs
  | _ => wrong

/-- Rates by tenant. -/
def toRates : Decoder (Std.TreeMap String Float)
  | .table members => do
    let sorted := members.mergeSort fun a b => a.1 ≤ b.1
    let rates ← sorted.mapM fun (tenant, v) =>
      (v.toFloat.mapError (LoadError.within tenant)).map fun rate => (tenant, rate)
    return .ofList rates
  | _ => wrong

/-- The settings of requests; a missing member keeps its value. -/
def toRenderSettings (s : RenderSettings) : Decoder RenderSettings
  | .table members => do
    let bindAddress ← field members "bind_addr" s.bindAddress toText
    let humanNumbers ← field members "human_readable_numbers" s.humanNumbers toBoolean
    let maxConcurrent ← field members "max_concurrent_evaluations" s.maxConcurrent toCount
    let maxDepth ← field members "max_expression_depth" s.maxDepth toCount
    let maxRange ← field members "max_range" s.maxRange toDuration
    let requestTimeout ← field members "request_timeout" s.requestTimeout toDuration
    return { bindAddress, humanNumbers, maxConcurrent, maxDepth, maxRange, requestTimeout }
  | _ => wrong

/-- The settings of reports; a missing member keeps its value. -/
def toReportSettings (s : ReportSettings) : Decoder ReportSettings
  | .table members => do
    let enabled ← field members "enabled" s.enabled toBoolean
    let interval ← field members "interval" s.interval toDuration
    return { enabled, interval }
  | _ => wrong

/-- The settings of the store; a missing member keeps its value. -/
def toStorageSettings (s : StorageSettings) : Decoder StorageSettings
  | .table members => do
    let resolution ← field members "resolution" s.resolution toDuration
    return { resolution }
  | _ => wrong

/-- Rates that are given are added to the standard ones. -/
def toRateLimits (l : RateLimits) : Decoder RateLimits
  | .table members => do
    let defaultRate ← field members "default_qps" l.defaultRate toFloat
    let enabled ← field members "enabled" l.enabled toBoolean
    let enforced ← field members "enforce" l.enforced toBoolean
    let exempt ← field members "exceptions" l.exempt toTexts
    let rates ← field members "tenants" l.rates toRates
    return { defaultRate, enabled, enforced, exempt, rates }
  | _ => wrong

/-- Settings, where the value gives none the standard ones. -/
def toSettings : Decoder Settings
  | .table members => do
    let s := Settings.standard
    let render ← field members "querier" s.render (toRenderSettings s.render)
    let reports ← field members "stats" s.reports (toReportSettings s.reports)
    let storage ← field members "storage" s.storage (toStorageSettings s.storage)
    let limits ← field members "throttling" s.limits (toRateLimits s.limits)
    return { render, reports, storage, limits }
  | _ => wrong

end ConfigValue

/-- The settings from the text of a file, if there is one, and an environment. -/
def Settings.load (file : Option String) (environment : List (String × String)) :
    Except LoadError Settings :=
  match Toml.read? ((file.getD "").toList), Environment.read? environment with
  | some fromFile, some fromEnvironment => (fromFile.overlay fromEnvironment).toSettings
  | _, _ => .error ⟨[]⟩

end SeriesRender
