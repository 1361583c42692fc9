import Shortlist.Feature.LoadConfig
import Shortlist.Json.Tree
import Shortlist.Settings.EnvFile
import Shortlist.Text.Upper
/-! Settings of the process, from environment variables with named profiles or from a
configuration record. -/
namespace Shortlist

/-- An empty profile name is the default one. -/
structure Settings where
  profile : String := ""
  timeoutMs : Nat := 100
  filterDir : String := "config/filters"
  hotReload : Bool := false
deriving DecidableEq, Repr

namespace Settings

/-- A variable that is empty counts as unset. -/
def given? (env : Environment) (key : String) : Option String :=
  match env[key]? with
  | some v => if v.isEmpty then none else some v
  | none => none

/-- The profile's own variable comes before the common one. -/
def profiled? (env : Environment) (profile key : String) : Option String :=
  match if profile.isEmpty then none else given? env (profile ++ "_" ++ key) with
  | some v => some v
  | none => given? env key

def readFlag (s : String) : Bool :=
  let word := Text.lowerAscii s
  word == "1" || word == "true" || word == "yes" || word == "on"

/-- A variable that is set but not a number leaves the default. -/
def ofProfile (env : Environment) (profile : String) : Settings :=
  let profile := Text.upper profile
  let get := profiled? env profile
  { profile
    timeoutMs := ((get "RECFLOW_FEATURE_TIMEOUT_MS").bind (Number.readWord64? ·.toList)).getD 100
    filterDir := (get "RECFLOW_FILTER_DIR").getD "config/filters"
    hotReload := ((get "RECFLOW_FILTER_HOT_RELOAD").map readFlag).getD false }

def ofEnvironment (env : Environment) : Settings :=
  ofProfile env ((env["RECFLOW_PROFILE"]?).getD "")

def label (s : Settings) : String := if s.profile.isEmpty then "default" else s.profile

def summary (s : Settings) : List String :=
  ["Config loaded (profile: " ++ s.label ++ "):",
   "  feature:  timeout_ms=" ++ Number.intText s.timeoutMs,
   "  filter:   dir=" ++ s.filterDir ++ ", hot_reload=" ++ Value.boolText s.hotReload]

def toJson (s : Settings) : Json :=
  .object [("feature", .object [("timeout_ms", .int s.timeoutMs)]),
    ("filter", .object [("config_dir", .string s.filterDir), ("hot_reload", .bool s.hotReload)]),
    ("profile", .string s.profile)]

def ofDatum? (d : Datum) : Option Settings := do
  let [some profile, some feature, some filter] ←
    d.fields? false [["profile"], ["feature"], ["filter"]] | none
  let [some timeout] ← feature.fields? false [["timeout_ms"]] | none
  let [some dir, some reload] ← filter.fields? false [["config_dir"], ["hot_reload"]] | none
  return {
    profile := ← profile.string?
    timeoutMs := ← timeout.word64?
    filterDir := ← dir.string?
    hotReload := ← reload.bool? }

end Settings

namespace LoadConfig

def toJson (c : LoadConfig) : Json :=
  .object [("async_load", .bool c.concurrent),
    ("promote_namespaces", .array (c.promoted.map .string)), ("timeout_ms", .int c.timeoutMs)]

def ofDatum? (d : Datum) : Option LoadConfig := do
  let [timeout, promoted, concurrent] ←
    d.fields? false [["timeout_ms"], ["promote_namespaces"], ["async_load"]] | none
  let base : LoadConfig := {}
  return {
    timeoutMs := ← Datum.orElse? timeout Datum.word64? base.timeoutMs
    promoted := ← Datum.orElse? promoted Datum.strings? base.promoted
    concurrent := ← Datum.orElse? concurrent Datum.bool? base.concurrent }

end LoadConfig
end Shortlist
