import ThreatModel.Analysis.Registry
import ThreatModel.Risk.Presentation

/-!
# Analysis

An analysis registers the categories that a model brings along, runs all rules that are not skipped,
reconciles the risks with the tracking records and lists what was found in the order of presentation.
-/

namespace ThreatModel

/-- What an analysis is asked to do. -/
structure AnalysisOptions where
  /-- The ids of rules that are not run. -/
  skip : List String := []
  ignoreOrphans : Bool := false

/-- The result of an analysis in the order of presentation. -/
structure Report where
  model : Model
  /-- The categories of all rules that were run. -/
  categories : List Category
  risks : List Risk
  byCategory : Dict (List Risk)
  statistics : Statistics
  applied : Dict String
  orphans : List String
  tags : List String
  skipped : List String
  /-- The ids to skip that no rule has. -/
  unknownSkipped : List String
  /-- The places of the risks by their ids in lower case. -/
  places : Dict Nat

namespace Report

/-- The risk with an id, without regard to case. -/
def risk? (r : Report) (syntheticId : String) : Option Risk :=
  (r.places.get? (Text.lower syntheticId)).bind (r.risks[·]?)

/-- The categories that have risks. -/
def categoriesWithRisks (r : Report) : List Category :=
  r.categories.filter fun c => r.byCategory.contains c.id

end Report

namespace Analysis

/-- The ids in a list that is written with commas. -/
def skipList (s : String) : List String :=
  ((s.splitOn ",").map Text.trim).filter (!·.isEmpty)

/-- The ids to skip, trimmed, in order and each once. -/
def skipSet (options : AnalysisOptions) : List String :=
  sortedUnique ((options.skip.map Text.trim).filter (!·.isEmpty))

/-- Registers the individual categories of a model after all other rules. -/
def registerIndividual (r : Registry) : List IndividualCategory → Except AnalysisFault Registry
  | [] => .ok r
  | c :: rest =>
    match r.register (.ofIndividual c) with
    | (r, .ok ()) => registerIndividual r rest
    | (_, .error fault) => .error fault

/-! ## Running rules -/

/-- Adds tags, trimmed and in lower case, to a set of tags. -/
def addTags (d : Dict Unit) (tags : List String) : Dict Unit :=
  tags.foldl (fun d tag => d.insert (Text.fold tag) ()) d

/-- The state before the first rule. -/
def start (m : Model) : AnalysisContext := { model := m, tags := addTags .empty m.tagsAvailable }

/-- The state with the results of a rule. -/
def record (c : AnalysisContext) (rule : Rule) (risks : List Risk) : AnalysisContext :=
  { c with
    byCategory := if risks.isEmpty then c.byCategory else c.byCategory.insert rule.id risks
    categories := c.categories.insert rule.id rule.category }

/-- Runs a rule, all of whose risks have to be of its category. -/
def execute (c : AnalysisContext) (rule : Rule) : Except AnalysisFault AnalysisContext :=
  let c := { c with tags := addTags c.tags rule.tags }
  match rule.findings c with
  | .error fault => .error (.failed rule.id fault)
  | .ok risks =>
    match risks.find? (·.category ≠ rule.id) with
    | some r => .error (.foreignCategory rule.id r.syntheticId r.category)
    | none => .ok (record c rule risks)

/-- Goes on to a rule: skips it and notes its id, or runs it. -/
def visit (skip : List String) (s : AnalysisContext × List String) (rule : Rule) :
    Except AnalysisFault (AnalysisContext × List String) :=
  if skip.contains rule.id then .ok (s.1, s.2 ++ [rule.id])
  else return (← execute s.1 rule, s.2)

/-! ## The report -/

/-- Risks by their categories, in the order of the risks. -/
def groupByCategory (risks : List Risk) : Dict (List Risk) :=
  risks.foldl (fun d r => d.push r.category r) .empty

/-- The places of risks by their ids in lower case; of risks with the same id the last counts. -/
def placesOf (risks : List Risk) : Dict Nat :=
  risks.zipIdx.foldl (fun d r => d.insert (Text.lower r.1.syntheticId) r.2) .empty

/-- The report on what was found; the risks are reconciled with the tracking records before they are
sorted. -/
def report (registry : Registry) (options : AnalysisOptions) (c : AnalysisContext)
    (skipped : List String) : Except AnalysisFault Report :=
  match Reconciliation.reconcile c.byCategory.values.flatten c.model.tracking
      options.ignoreOrphans with
  | .error o => .error (.orphan o)
  | .ok reconciled =>
    let risks := Risk.sort reconciled.risks
    let byCategory := groupByCategory risks
    .ok {
      model := c.model
      categories := Category.sort byCategory c.categories.values
      risks := risks
      byCategory := byCategory
      statistics := .ofRisks risks
      applied := reconciled.applied
      orphans := reconciled.orphans
      tags := c.tags.keys
      skipped := skipped
      unknownSkipped := (skipSet options).filter (!registry.contains ·)
      places := placesOf risks }

/-- Analyses a model with the rules of a registry and its individual categories. -/
def analyze (m : Model) (registry : Registry) (options : AnalysisOptions) :
    Except AnalysisFault Report := do
  let registry ← registerIndividual registry m.individualCategories.values
  let (c, skipped) ← registry.rules.foldlM (visit (skipSet options)) (start m, [])
  report registry options c skipped

end Analysis

end ThreatModel
