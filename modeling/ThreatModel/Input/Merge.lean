import ThreatModel.Input.Basic
import ThreatModel.Text.Blank

/-!
# Merging stated models

A model may be stated in parts. A part adds its elements to a model and fills in the texts that are still
blank. No title may occur in both.
-/

namespace ThreatModel

/-- The entries of two dictionaries; fails with the first key of the second that the first one has. -/
def Dict.union? {α : Type} (d e : Dict α) : Except String (Dict α) :=
  match e.keys.find? d.contains with
  | some k => .error k
  | none => .ok (e.entries.foldl (fun d x => d.insert x.1 x.2) d)

namespace ModelInput

/-- The first of two texts that is not blank, else the second. -/
def firstStated (s t : String) : String := if Text.blank s then t else s

/-- The values of a list with those of another that are not there yet. -/
def addNew (l : List String) (more : List String) : List String :=
  more.foldl (fun l x => if l.contains x then l else l ++ [x]) l

/-- Adds a part to an overview. -/
def mergeOverview (a b : OverviewInput) : OverviewInput :=
  ⟨firstStated a.description b.description, a.images ++ b.images⟩

/-- Adds a part to a model; fails with the first title that occurs in both. What the part includes is
not looked at. -/
def merge (m part : ModelInput) : Except String ModelInput := do
  return {
    includes := m.includes
    title := firstStated m.title part.title
    author := ⟨firstStated m.author.name part.author.name,
      firstStated m.author.homepage part.author.homepage⟩
    date := firstStated m.date part.date
    businessOverview := mergeOverview m.businessOverview part.businessOverview
    technicalOverview := mergeOverview m.technicalOverview part.technicalOverview
    businessCriticality := firstStated m.businessCriticality part.businessCriticality
    managementSummaryComment := firstStated m.managementSummaryComment part.managementSummaryComment
    tagsAvailable := addNew m.tagsAvailable part.tagsAvailable
    questions := ← m.questions.union? part.questions
    abuseCases := ← m.abuseCases.union? part.abuseCases
    securityRequirements := ← m.securityRequirements.union? part.securityRequirements
    dataAssets := ← m.dataAssets.union? part.dataAssets
    technicalAssets := ← m.technicalAssets.union? part.technicalAssets
    trustBoundaries := ← m.trustBoundaries.union? part.trustBoundaries
    sharedRuntimes := ← m.sharedRuntimes.union? part.sharedRuntimes
    individualCategories := ← m.individualCategories.union? part.individualCategories
    tracking := ← m.tracking.union? part.tracking }

end ModelInput

end ThreatModel
