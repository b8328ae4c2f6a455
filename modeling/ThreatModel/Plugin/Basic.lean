import ThreatModel.Attractiveness.Scores
import ThreatModel.Json.Printer
import ThreatModel.Json.Reader
import ThreatModel.Rule.Basic

/-!
# Plugins

A plugin is a separate executable that is given a model as JSON text and answers in JSON. One kind
announces a category and finds risks of it, the other kind computes scores. A plugin that gives up is
reported as such, whatever it has printed.
-/

namespace ThreatModel

/-- How a run of an executable has ended. -/
structure Outcome where
  status : UInt8
  output : String
  errors : String

/-- An executable with the name by which it is called in messages. -/
structure Plugin where
  name : String
  /-- What the executable does with some arguments and an input. -/
  run : List String → String → Outcome

/-- What a plugin announces about its rule. -/
structure PluginInfo where
  id : String
  category : Category
  tags : List String
  deriving DecidableEq

namespace PluginInfo

/-- Reads an announcement. -/
def ofJson? (j : Json) : Option PluginInfo := do
  let s ← j.slots? ["id", "category", "tags"]
  return ⟨← Record.required s "id" Json.text?, ← Record.required s "category" Category.ofJson?,
    ← Record.optional s "tags" Record.texts []⟩

/-- An announcement as an object. -/
def toJson (i : PluginInfo) : Json :=
  .object [("id", .string i.id), ("category", i.category.toJson), ("tags", .ofTexts i.tags)]

end PluginInfo

namespace Plugin

/-- The argument that asks for an announcement. -/
def getInfo : String := "--get-info"

/-- The argument that asks for risks. -/
def generateRisks : String := "--generate-risks"

/-- Runs a plugin and reads its answer. -/
def ask {α : Type} (p : Plugin) (args : List String) (input : String) (read : Json → Option α) :
    Except PluginFault α :=
  let o := p.run args input
  if o.status ≠ 0 then .error (.failed p.name o.status.toNat (Text.trim o.errors))
  else match (Json.parse? o.output).bind read with
    | some answer => .ok answer
    | none => .error (.malformed p.name (Text.trim o.errors))

/-- Asks a plugin for its announcement, whose ids have to agree. -/
def info (p : Plugin) : Except PluginFault PluginInfo := do
  let i ← p.ask [getInfo] "" PluginInfo.ofJson?
  if i.id ≠ i.category.id then .error (.idMismatch p.name i.id i.category.id)
  return i

/-- The risk with an id of its own. -/
def withId (r : Risk) : Risk := if r.syntheticId.isEmpty then r.withComposedId else r

/-- The risks that a plugin finds in a model. -/
def risks (p : Plugin) (m : Model) : Except PluginFault (List Risk) := do
  return (← p.ask [generateRisks] m.toJson.render (Record.list Risk.ofJson?)).map withId

/-- The rule that rests on a plugin. -/
def rule (p : Plugin) : Except PluginFault Rule := do
  let i ← p.info
  return ⟨i.category, i.tags, fun c => p.risks c.model⟩

/-- Asks a plugin for scores and enters them into a model; the text on them comes first. -/
def score (p : Plugin) (m : Model) : Except PluginFault (String × Model) := do
  let s ← p.ask [] m.toJson.render Scores.ofJson?
  return (s.summary, ← s.apply m p.name)

end Plugin

end ThreatModel
