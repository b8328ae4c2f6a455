import ThreatModel.ValueSet.Asset
import ThreatModel.ValueSet.Boundary
import ThreatModel.ValueSet.Link
import ThreatModel.ValueSet.Protocol
import ThreatModel.ValueSet.Rating
import ThreatModel.ValueSet.Risk
import ThreatModel.ValueSet.Technology

/-!
# The catalogue of value sets

Every closed value set with the label under which it is listed.
-/

namespace ThreatModel

/-- The words of a value set with their descriptions. -/
def ValueSet.wordList (α : Type) [ValueSet α] : List (String × String) :=
  (all : List α).map fun v => (word v, description v)

/-- All value sets under their labels. -/
def valueSets : List (String × List (String × String)) :=
  [("quantity", ValueSet.wordList Quantity),
    ("confidentiality", ValueSet.wordList Confidentiality),
    ("criticality", ValueSet.wordList Criticality),
    ("technical asset type", ValueSet.wordList AssetKind),
    ("technical asset size", ValueSet.wordList AssetSize),
    ("technical asset technology", ValueSet.wordList Technology),
    ("technical asset machine", ValueSet.wordList Machine),
    ("encryption style", ValueSet.wordList Encryption),
    ("usage", ValueSet.wordList Usage),
    ("data format", ValueSet.wordList DataFormat),
    ("protocol", ValueSet.wordList Protocol),
    ("authentication", ValueSet.wordList Authentication),
    ("authorization", ValueSet.wordList Authorization),
    ("trust boundary type", ValueSet.wordList BoundaryKind),
    ("data breach probability", ValueSet.wordList BreachProbability),
    ("risk severity", ValueSet.wordList Severity),
    ("risk exploitation likelihood", ValueSet.wordList Likelihood),
    ("risk exploitation impact", ValueSet.wordList Impact),
    ("risk function", ValueSet.wordList Responsibility),
    ("stride", ValueSet.wordList Stride),
    ("risk status", ValueSet.wordList RiskStatus)]

end ThreatModel
