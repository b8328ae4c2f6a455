import ThreatModel.Plugin.Basic
import ThreatModel.Rule.Undocumented

/-!
# Plugins of this library

The other side of the exchange with plugins: a rule, or the built-in calculation of attractiveness, as
an executable that is given a model and answers in JSON.
-/

namespace ThreatModel

/-- Why an executable could not read the model that it was given. -/
def modelComplaint (input : String) : String :=
  if input.isEmpty then "EOF while parsing a value at line 1 column 0" else "malformed model"

namespace Plugin

/-- A successful run with an answer. -/
def answering (j : Json) : Outcome := ⟨0, j.render ++ "\n", ""⟩

/-- The model that an executable is given. -/
def given? (input : String) : Option Model := (Json.parse? input).bind Model.ofJson?

/-- A rule as an executable. -/
def serving (name : String) (r : ModelRule) : Plugin where
  name := name
  run args input :=
    if args.head? = some getInfo then answering (PluginInfo.toJson ⟨r.category.id, r.category, r.tags⟩)
    else if args.head? = some generateRisks then
      match given? input with
      | some m => answering (.array ((r.findings m).map Risk.toJson))
      | none => ⟨1, "", modelComplaint input ++ "\n"⟩
    else ⟨2, "", "usage: " ++ getInfo ++ " | " ++ generateRisks ++ " < model.json\n"⟩

/-- The built-in calculation of attractiveness as an executable. -/
def scoring (name : String) : Plugin where
  name := name
  run _ input :=
    match given? input with
    | some m => answering (Scores.builtin m).toJson
    | none => ⟨1, "", name ++ ": " ++ modelComplaint input ++ "\n"⟩

/-- The executables that come with this library. -/
def bundled : List Plugin :=
  [serving "threatscry-demo-rule" .undocumentedAsset, scoring "threatscry-raa"]

end Plugin

end ThreatModel
