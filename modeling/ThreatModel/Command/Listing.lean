import ThreatModel.Analysis.Registry
import ThreatModel.ValueSet.Catalogue

/-!
# Listings

What the program says about its rules and value sets.
-/

namespace ThreatModel.Command

/-- Lines of text. -/
def lines (ls : List String) : String := String.join (ls.map (· ++ "\n"))

/-- How the program is called. -/
def usage : String :=
  lines ["usage: threatscry [-c FILE] [-v] COMMAND",
    "  analyze -m FILE [-o DIR] [--skip-risk-rules IDS] [--ignore-orphaned-risk-tracking]",
    "    [--custom-risk-rules-plugin PLUGIN]... [--raa-plugin PLUGIN] [--plugin-timeout SECS]",
    "  list-risk-rules",
    "  explain-risk-rule ID",
    "  list-types",
    "  init [--output DIR] [--raa-plugin PLUGIN] [--force]"]

/-- The built-in rules, one a line. -/
def ruleListing : String :=
  lines (BuiltinRule.all.map fun r => r.category.id ++ " --> " ++ r.category.title)

/-- The value sets with the words of each and what they mean. -/
def valueSetListing : String :=
  lines (valueSets.flatMap fun s => (s.1 ++ ":") :: s.2.map fun v => "  " ++ v.1 ++ ": " ++ v.2)

/-- A labelled text, unless it is empty. -/
def labelled (label text : String) : List String :=
  if text.isEmpty then [] else [label ++ ": " ++ text]

/-- What there is to say about a rule. -/
def explanation (category : Category) (tags : List String) : String :=
  lines ([category.title ++ " (" ++ category.id ++ ")", ""] ++
    labelled "Description" category.description ++
    labelled "Impact" category.impact ++
    labelled "Detection" category.detectionLogic ++
    labelled "Rating" category.riskAssessment ++
    labelled "False positives" category.falsePositives ++
    labelled "Mitigation" category.mitigation ++
    labelled "Check" category.check ++
    labelled "ASVS" category.asvs ++
    labelled "Cheat sheet" category.cheatSheet ++
    ["Function: " ++ ValueSet.word category.function, "STRIDE: " ++ ValueSet.word category.stride] ++
    (if category.cwe = 0 then [] else ["CWE: " ++ toString category.cwe]) ++
    labelled "Tags" (", ".intercalate tags))

end ThreatModel.Command
