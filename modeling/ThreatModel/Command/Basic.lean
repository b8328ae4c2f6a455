import ThreatModel.Command.Option

/-!
# Commands

What the program can be asked to do, and how it is read from the arguments. The first plain argument
names the command; the options that all commands share may stand on either side of it.
-/

namespace ThreatModel

/-- What an analysis is given by its arguments. -/
structure AnalysisRequest where
  /-- The path of the model file. -/
  model : String
  output : Option String := none
  /-- The ids of rules that are not run, with commas. -/
  skip : Option String := none
  ignoreOrphans : Bool := false
  rulePlugins : List String := []
  scorePlugin : Option String := none
  timeout : Option Nat := none
  deriving DecidableEq, Repr

/-- A command. -/
inductive Command where
  /-- Analyse a model, with a settings file in place of the usual ones. -/
  | analyze (settings : Option String) (request : AnalysisRequest)
  | listRules
  | explainRule (id : String)
  | listValueSets
  | writeSettings (output scorePlugin : Option String) (overwrite : Bool)
  | showVersion
  deriving DecidableEq, Repr

namespace Command

/-- The options of all commands. -/
def sharedOptions : List OptionSpec := [⟨"config", some 'c', .path⟩, ⟨"verbose", some 'v', .flag⟩]

/-- The options before the name of a command. -/
def leadingOptions : List OptionSpec := sharedOptions ++ [⟨"version", some 'V', .last⟩]

/-- The options of an analysis. -/
def analysisOptions : List OptionSpec := sharedOptions ++
  [⟨"model", some 'm', .path⟩, ⟨"output", some 'o', .path⟩, ⟨"skip-risk-rules", none, .text⟩,
    ⟨"ignore-orphaned-risk-tracking", none, .flag⟩, ⟨"custom-risk-rules-plugin", none, .texts⟩,
    ⟨"raa-plugin", none, .text⟩, ⟨"plugin-timeout", none, .number⟩]

/-- The options for writing a settings file. -/
def settingsOptions : List OptionSpec := sharedOptions ++
  [⟨"output", none, .path⟩, ⟨"raa-plugin", none, .text⟩, ⟨"force", none, .flag⟩]

/-- The options of the command with a name. -/
def optionsOf : String → Option (List OptionSpec)
  | "analyze" => some analysisOptions
  | "init" => some settingsOptions
  | "list-risk-rules" | "explain-risk-rule" | "list-types" => some sharedOptions
  | _ => none

/-- The command with a name and arguments; `settings` is the settings file that is given. -/
def ofGiven? (name : String) (settings : Option String) (g : Given) : Option Command :=
  match name, g.plain with
  | "analyze", [] => (g.value? "model").map fun model => .analyze settings {
      model := model
      output := g.value? "output"
      skip := g.value? "skip-risk-rules"
      ignoreOrphans := g.has "ignore-orphaned-risk-tracking"
      rulePlugins := g.values "custom-risk-rules-plugin"
      scorePlugin := g.value? "raa-plugin"
      timeout := (g.value? "plugin-timeout").bind OptionSpec.number? }
  | "init", [] => some (.writeSettings (g.value? "output") (g.value? "raa-plugin") (g.has "force"))
  | "list-risk-rules", [] => some .listRules
  | "explain-risk-rule", [id] => some (.explainRule id)
  | "list-types", [] => some .listValueSets
  | _, _ => none

/-- The command in the arguments of the program. -/
def parse? (args : List String) : Option Command := do
  let leading ← OptionSpec.parse? leadingOptions true args
  if leading.has "version" then return .showVersion
  match leading.plain with
  | [] => none
  | name :: rest =>
    let g ← OptionSpec.parse? (← optionsOf name) false rest
    ofGiven? name (g.value? "config" <|> leading.value? "config") g

end Command

end ThreatModel
