/-
  Config.lean --- the configuration of an audit.

  WHAT THIS FILE IS FOR.  The configuration names the score that routes have to reach,
  routes to leave out, where tests are found, where reports go, and the auditors.  What
  is not configured has a default.
-/
import RouteAudit.Decode.Format
import RouteAudit.Discovery.Method
import RouteAudit.Yaml.Decode

set_option autoImplicit false

namespace RouteAudit

open RouteAudit.Decode RouteAudit.Discovery RouteAudit.Coverage

/-- Where reports are written. -/
structure OutputSettings where
  directory : Path := ⟨"storage/exports/audit-routes"⟩
  fileName : String := "report.json"
  deriving DecidableEq, Repr, Inhabited

/-- The configuration of an audit. -/
structure Config where
  /-- the least score of a route that passes -/
  benchmark : Int := 0
  /-- patterns of routes that are never audited -/
  ignoredRoutes : List String := ["telescope*", "debugbar.*", "ignition.*", "sanctum.*"]
  tests : TestSettings := {}
  output : OutputSettings := {}
  /-- the entries that describe the auditors -/
  auditors : Yaml := .null
  deriving Inhabited

section Decoding

variable {V : Type}

/-- A path. -/
def decodePath (f : Format V) (v : V) : Except Problem Path :=
  (f.text "path string" v).map Path.mk

/-- The fields of the settings for tests. -/
def TestSettings.record (f : Format V) : Record V TestSettings :=
  let preset : TestSettings := {}
  let words := preset.vocabulary
  (fun directory baseClass extension actingMethods routeFunction marker =>
    { directory, baseClass, extension, vocabulary := { actingMethods, routeFunction, marker } })
    <$> .optional "directory" preset.directory (f.option (decodePath f))
    <*> .optional "implementation" preset.baseClass f.string
    <*> .optional "extension" preset.extension f.string
    <*> .optional "acting_methods" words.actingMethods (f.list f.string)
    <*> .optional "route_method" words.routeFunction f.string
    <*> .optional "coverage_attribute" words.marker f.string

/-- The settings for tests. -/
def TestSettings.decode (f : Format V) (v : V) : Except Problem TestSettings :=
  (TestSettings.record f).decode f "struct TestsConfig" v

/-- The fields of the settings for reports. -/
def OutputSettings.record (f : Format V) : Record V OutputSettings :=
  let preset : OutputSettings := {}
  OutputSettings.mk
    <$> .optional "directory" preset.directory (decodePath f)
    <*> .optional "filename" preset.fileName f.string

/-- The settings for reports. -/
def OutputSettings.decode (f : Format V) (v : V) : Except Problem OutputSettings :=
  (OutputSettings.record f).decode f "struct OutputConfig" v

/-- The fields of a configuration; `whole` takes a value as it is. -/
def Config.record (f : Format V) (whole : V → Except Problem Yaml) : Record V Config :=
  let preset : Config := {}
  Config.mk
    <$> .optional "benchmark" preset.benchmark f.int
    <*> .optional "ignored_routes" preset.ignoredRoutes (f.list f.string)
    <*> .optional "tests" preset.tests (TestSettings.decode f)
    <*> .optional "output" preset.output (OutputSettings.decode f)
    <*> .optional "auditors" preset.auditors whole

/-- A configuration. -/
def Config.decode (f : Format V) (whole : V → Except Problem Yaml) (v : V) :
    Except Problem Config :=
  (Config.record f whole).decode f "struct Config" v

end Decoding

/-- The configuration that a YAML value stands for. -/
def Config.ofYaml (y : Yaml) : Except Problem Config := Config.decode Yaml.format .ok y

end RouteAudit
