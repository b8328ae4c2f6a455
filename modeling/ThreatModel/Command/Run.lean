import ThreatModel.Analysis.Basic
import ThreatModel.Command.Basic
import ThreatModel.Command.Listing
import ThreatModel.Inclusion.Model
import ThreatModel.Json.Layout
import ThreatModel.Plugin.Served
import ThreatModel.Settings.Basic

/-!
# Running commands

A command is a function of its surroundings: the files, the day and the executables that can be found.
It gives a text and the files as they are afterwards, or a fault.
-/

namespace ThreatModel

/-- What a command can look at. -/
structure Surroundings where
  today : Date
  files : FileTree
  /-- The path of the user's directory. -/
  home : String
  /-- The executables that are found by name. -/
  plugins : List Plugin

/-- What a command leaves behind. -/
structure Effect where
  output : String
  files : FileTree

/-- Why a command fails. -/
inductive CommandFault where
  | unreadableSettings (path : String)
  | malformedSettings (path : String)
  | settingsExist
  | unwritable (path : String)
  | model (path : String) (fault : LoadFault)
  /-- The scores of the built-in calculation are refused. -/
  | scores (fault : PluginFault)
  | scorePlugin (plugin : String) (fault : PluginFault)
  | rulePlugin (plugin : String) (fault : PluginFault)
  | duplicateCategory (id : String)
  | analysis (fault : AnalysisFault)
  | unknownRule (id : String)

namespace CommandFault

/-- What is said about a fault of a plugin: what was done with it, unless it was not found, which is
followed by its reason. -/
def ofPlugin (doing : String) : PluginFault → String
  | .notFound p => (PluginFault.notFound p).message ++ ": " ++ PluginFault.notFoundReason
  | fault => doing ++ ": " ++ fault.message

/-- What is said about a fault. -/
def message : CommandFault → String
  | .unreadableSettings path => "reading config " ++ path
  | .malformedSettings path => "parsing config " ++ path
  | .settingsExist => Settings.fileName ++ " already exists, use --force to overwrite it"
  | .unwritable path => "writing " ++ path
  | .model path fault => "loading model " ++ path ++ ": " ++ fault.message
  | .scores fault => fault.message
  | .scorePlugin plugin fault => ofPlugin ("running RAA plugin " ++ plugin) fault
  | .rulePlugin plugin fault => ofPlugin ("loading risk rule plugin " ++ plugin) fault
  | .duplicateCategory id => (AnalysisFault.duplicateCategory id).message
  | .analysis fault => fault.message
  | .unknownRule id => "unknown risk rule: " ++ id

end CommandFault

/-- The executable that a text names: one of those that are found by name, unless it is a path of more
than one step. -/
def Plugin.locate (plugins : List Plugin) (spec : String) : Except PluginFault Plugin :=
  if 1 < (Path.steps spec).length then .error (.notStarted spec)
  else match plugins.find? (·.name = spec) with
    | some p => .ok p
    | none => .error (.notFound spec)

namespace Command

/-! ## Settings -/

/-- Reads a settings file. -/
def readSettings (files : FileTree) (path : String) : Except CommandFault Settings :=
  match files.text? path with
  | none => .error (.unreadableSettings path)
  | some text => match Settings.parse? text with
    | none => .error (.malformedSettings path)
    | some s => .ok s

/-- The settings from the file that is given, else from the working directory, else from the user's
directory, else the defaults. -/
def findSettings (s : Surroundings) (given : Option String) : Except CommandFault Settings :=
  let usual := [Settings.fileName, Path.join (Path.join s.home ".threatscry") "config.toml"]
  match given <|> usual.find? fun path => (s.files.text? path).isSome with
  | some path => readSettings s.files path
  | none => .ok {}

/-- The settings with what a request says. -/
def withRequest (s : Settings) (r : AnalysisRequest) : Settings where
  output := r.output <|> s.output
  skip := (r.skip.map Analysis.skipList).getD s.skip
  ignoreOrphans := r.ignoreOrphans || s.ignoreOrphans
  rulePlugins := s.rulePlugins ++ r.rulePlugins
  scorePlugin := r.scorePlugin <|> s.scorePlugin
  timeout := r.timeout <|> s.timeout

/-! ## Analysis -/

/-- Scores the assets of a model with a plugin or by the built-in calculation. -/
def scored (plugins : List Plugin) (plugin : Option String) (m : Model) :
    Except CommandFault Model :=
  match plugin with
  | none => ((Scores.builtin m).apply m "builtin").mapError .scores
  | some spec => (do return (← (← Plugin.locate plugins spec).score m).2 :
      Except PluginFault Model).mapError (.scorePlugin spec)

/-- Adds the rules of plugins to a registry. -/
def withPlugins (plugins : List Plugin) (r : Registry) : List String → Except CommandFault Registry
  | [] => .ok r
  | spec :: rest => do
    let rule ← (do (← Plugin.locate plugins spec).rule :
      Except PluginFault Rule).mapError (.rulePlugin spec)
    match r.register? rule with
    | some r => withPlugins plugins r rest
    | none => .error (.duplicateCategory rule.id)

/-- The files of a report with their names. -/
def reportFiles (r : Report) : List (String × Json) :=
  [("risks.json", .array (r.risks.map Risk.toJson)),
    ("technical-assets.json", .array (r.model.technicalAssets.values.map TechnicalAsset.toJson)),
    ("stats.json", r.statistics.toJson)]

/-- Writes files into a directory. -/
def writeAll (dir : String) (files : FileTree) : List (String × Json) → Except CommandFault FileTree
  | [] => .ok files
  | (name, content) :: rest =>
    match files.write? (Path.join dir name) content.pretty with
    | some files => writeAll dir files rest
    | none => .error (.unwritable (Path.join dir name))

/-- Analyses a model file and writes the report. -/
def analyzeFile (s : Surroundings) (settings : Settings) (path : String) :
    Except CommandFault Effect := do
  let m ← (Model.load s.today s.files.store path).mapError (.model path)
  let m ← scored s.plugins settings.scorePlugin m
  let registry ← withPlugins s.plugins .builtin settings.rulePlugins
  let report ← (Analysis.analyze m registry ⟨settings.skip, settings.ignoreOrphans⟩).mapError .analysis
  let dir := settings.output.getD Settings.defaultOutput
  let files ← writeAll dir s.files (reportFiles report)
  return ⟨toString report.risks.length ++ " risks in " ++ toString report.byCategory.size ++
    " categories written to " ++ dir ++ "\n", files⟩

/-! ## All commands -/

/-- Writes a settings file into the working directory. -/
def writeTemplate (s : Surroundings) (output scorePlugin : Option String) (overwrite : Bool) :
    Except CommandFault Effect :=
  if (s.files.resolve Settings.fileName).isSome && !overwrite then .error .settingsExist
  else match s.files.write? Settings.fileName (Settings.template output scorePlugin) with
    | some files => .ok ⟨"", files⟩
    | none => .error (.unwritable Settings.fileName)

/-- Runs a command. -/
def run (s : Surroundings) : Command → Except CommandFault Effect
  | .analyze given request => do
    analyzeFile s (withRequest (← findSettings s given) request) request.model
  | .listRules => .ok ⟨ruleListing, s.files⟩
  | .explainRule id =>
    match Registry.builtin.get? id with
    | some rule => .ok ⟨explanation rule.category rule.tags, s.files⟩
    | none => .error (.unknownRule id)
  | .listValueSets => .ok ⟨valueSetListing, s.files⟩
  | .writeSettings output scorePlugin overwrite => writeTemplate s output scorePlugin overwrite
  | .showVersion => .ok ⟨"threatscry 0.2.0\n", s.files⟩

end Command

end ThreatModel
