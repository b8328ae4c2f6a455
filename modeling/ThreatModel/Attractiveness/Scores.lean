import ThreatModel.Attractiveness.Basic
import ThreatModel.Plugin.Fault

/-!
# Scores

The result of a calculation of attractiveness and how it enters a model. A result is refused as a whole
if it scores an unknown asset or leaves the range of percents.
-/

namespace ThreatModel

/-- Scores of technical assets with a text on how they came about. -/
structure Scores where
  summary : String
  scores : Dict Float

namespace Scores

/-- The text on the built-in calculation. -/
def builtinSummary : String :=
  "For each technical asset the Relative Attacker Attractiveness (RAA) value was calculated in " ++
    "percent. The higher the RAA, the more interesting it is for an attacker to compromise the " ++
    "asset. The calculation factors in the sensitivity ratings and quantities of the data " ++
    "processed, stored and transferred by the asset, as well as its type and technology. Assets " ++
    "that serve as a stepping stone to more attractive neighbours are scored higher as well."

/-- The scores of the built-in calculation. -/
def builtin (m : Model) : Scores := ⟨builtinSummary, Attractiveness.scores m⟩

/-- Reads scores. -/
def ofJson? (j : Json) : Option Scores := do
  let s ← j.slots? ["summary", "scores"]
  return ⟨← Record.optional s "summary" Json.text? "",
    ← Record.required s "scores" (Record.dict Json.float?)⟩

/-- Scores as an object. -/
def toJson (s : Scores) : Json :=
  .object [("summary", .string s.summary), ("scores", .ofDict .ofFloat s.scores)]

/-- Checks that a score can be entered into a model: its asset has to be known, and it has to be a
percentage. -/
def check (m : Model) (plugin : String) (e : String × Float) : Except PluginFault Unit :=
  if !m.technicalAssets.contains e.1 then .error (.unknownAsset plugin e.1)
  else if !Attractiveness.isPercentage e.2 then .error (.scoreOutOfRange plugin e.1 e.2)
  else .ok ()

/-- Sets the score of an asset. -/
def set (m : Model) (e : String × Float) : Model :=
  { m with technicalAssets := m.technicalAssets.modify e.1 fun a => { a with raa := e.2 } }

/-- Checks all scores, then sets one after the other, and computes the index anew. -/
def update (s : Scores) (plugin : String) : ExceptT PluginFault (StateM Model) Unit := do
  let m ← get
  (s.scores.entries.forM (check m plugin) : Except PluginFault Unit)
  s.scores.entries.forM fun e => modify (set · e)
  modify Model.reindex

/-- Enters scores into a model or says what is wrong with the first bad one. -/
def apply (m : Model) (s : Scores) (plugin : String) : Except PluginFault Model :=
  match (update s plugin).run.run m with
  | (.ok (), m) => .ok m
  | (.error fault, _) => .error fault

end Scores

end ThreatModel
