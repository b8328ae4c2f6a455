import ThreatModel.Toml.Reader

/-!
# Settings

Defaults for analyses that are kept in a file. All of them may be left out, and nothing else may be in
the file.
-/

namespace ThreatModel

/-- What a settings file says. -/
structure Settings where
  /-- The directory for the results. -/
  output : Option String := none
  /-- The ids of rules that are not run. -/
  skip : List String := []
  ignoreOrphans : Bool := false
  /-- The executables of further rules. -/
  rulePlugins : List String := []
  /-- The executable that scores the assets. -/
  scorePlugin : Option String := none
  /-- The seconds that a plugin may take. -/
  timeout : Option Nat := none
  deriving DecidableEq, Inhabited

namespace Settings

/-- The name of the settings file in the working directory. -/
def fileName : String := "threatscry.toml"

/-- The settings with what one key says. -/
def set (s : Settings) (key : String) (v : Toml) : Option Settings :=
  match key with
  | "output" => v.text?.map fun x => { s with output := some x }
  | "skip_risk_rules" => v.texts?.map fun x => { s with skip := x }
  | "ignore_orphaned_risk_tracking" => v.truth?.map fun x => { s with ignoreOrphans := x }
  | "custom_risk_rules_plugins" => v.texts?.map fun x => { s with rulePlugins := x }
  | "raa_plugin" => v.text?.map fun x => { s with scorePlugin := some x }
  | "plugin_timeout_secs" => v.nat?.map fun x => { s with timeout := some x }
  | _ => none

/-- Reads a settings file. -/
def parse? (text : String) : Option Settings := do
  (← Toml.parse? text).foldlM (fun s e => s.set e.1 e.2) {}

/-- The directory for the results if nothing else is said. -/
def defaultOutput : String := "threatscry-output"

/-- A settings file with comments and all defaults. -/
def template (output scorePlugin : Option String) : String :=
  "# threatscry configuration\n" ++
  "#\n" ++
  "# Values here are defaults for \x60threatscry analyze\x60; command line flags win.\n" ++
  "\n" ++
  "# Directory the JSON reports are written to.\n" ++
  "output = " ++ Toml.quoted (output.getD defaultOutput) ++ "\n" ++
  "\n" ++
  "# Risk rule ids that are not executed.\n" ++
  "skip_risk_rules = []\n" ++
  "\n" ++
  "# Keep going when risk tracking entries match no risk.\n" ++
  "ignore_orphaned_risk_tracking = false\n" ++
  "\n" ++
  "# Executables providing additional risk rules. Bare names are looked up on PATH.\n" ++
  "custom_risk_rules_plugins = []\n" ++
  "\n" ++
  "# Executable computing relative attacker attractiveness. The built-in\n" ++
  "# calculation is used when unset.\n" ++
  "# raa_plugin = \"threatscry-raa\"\n" ++
  "\n" ++
  "# Seconds a single plugin call may take.\n" ++
  "plugin_timeout_secs = 30\n" ++
  match scorePlugin with
  | some p => "raa_plugin = " ++ Toml.quoted p ++ "\n"
  | none => ""

end Settings

end ThreatModel
