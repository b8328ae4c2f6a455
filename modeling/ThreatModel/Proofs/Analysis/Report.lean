import Mathlib.Data.List.Induction
import ThreatModel.Proofs.Analysis.Run
import ThreatModel.Proofs.Risk.Presentation

/-!
# Reports are consistent

Between the rules and the report the risks of a run are kept by category, put in one list, given
their statuses, sorted, grouped, counted and numbered. Here each of these steps is shown to keep
every risk, and `analyze_presents` puts them together: a report presents what the rules that were run
have found, and nothing else.
-/

namespace ThreatModel

/-! ## Groups -/

namespace Analysis

/-- A category without risks has no group. -/
theorem get?_groupByCategory (risks : List Risk) (id : String) :
    (groupByCategory risks).get? id =
      if risks.filter (·.category = id) = [] then none
      else some (risks.filter (·.category = id)) := by
  induction risks using List.reverseRecOn with
  | nil => rfl
  | append_singleton risks r ih =>
    have hpush : groupByCategory (risks ++ [r]) = (groupByCategory risks).push r.category r := by
      rw [groupByCategory, List.foldl_append]
      rfl
    rw [hpush, Dict.get?_push, List.filter_append]
    by_cases hid : id = r.category
    · subst hid
      rw [if_pos rfl, ih]
      by_cases hempty : risks.filter (·.category = r.category) = []
      · simp [hempty]
      · rw [if_neg hempty]
        simp
    · simp [hid, Ne.symm hid, ih]

theorem get?_groupByCategory_eq_some_iff {risks found : List Risk} {id : String} :
    (groupByCategory risks).get? id = some found ↔
      found ≠ [] ∧ found = risks.filter (·.category = id) := by
  rw [get?_groupByCategory]
  split
  · next hempty =>
    rw [hempty]
    simp
  · next hfilled =>
    rw [Option.some.injEq, eq_comm]
    exact ⟨fun h => ⟨h ▸ hfilled, h⟩, And.right⟩

/-! ## Places -/

theorem placesOf_append (risks : List Risk) (r : Risk) :
    placesOf (risks ++ [r]) =
      (placesOf risks).insert (Text.lower r.syntheticId) risks.length := by
  rw [placesOf, List.zipIdx_append, List.foldl_append, Nat.zero_add]
  rfl

/-- The place of an id is that of the last risk with it. -/
theorem bind_get?_placesOf (risks : List Risk) (key : String) :
    ((placesOf risks).get? key).bind (risks[·]?) =
      risks.reverse.find? (fun r => Text.lower r.syntheticId = key) := by
  -- Places are within the list, so they stay what they are when a risk is appended.
  have hplaces : (∀ i, (placesOf risks).get? key = some i → i < risks.length) ∧
      ((placesOf risks).get? key).bind (risks[·]?) =
        risks.reverse.find? (fun r => Text.lower r.syntheticId = key) := by
    induction risks using List.reverseRecOn with
    | nil => exact ⟨nofun, rfl⟩
    | append_singleton risks r ih =>
      rw [placesOf_append, Dict.get?_insert, List.reverse_concat, List.find?_cons,
        List.length_append, List.length_singleton]
      by_cases hkey : key = Text.lower r.syntheticId
      · simp [hkey]
      · rw [if_neg hkey, ← ih.2, decide_eq_false (Ne.symm hkey)]
        refine ⟨fun i hi => Nat.lt_succ_of_lt (ih.1 i hi), ?_⟩
        cases hget : (placesOf risks).get? key with
        | none => rfl
        | some i => exact List.getElem?_append_left (ih.1 i hget)
  exact hplaces.2

end Analysis

namespace Reconciliation

/-- A risk with the status that the records give to it. -/
def tracked (tracking : Dict TrackingRecord) (r : Risk) : Risk :=
  { r with status := statusOf tracking r }

theorem risks_of_reconcile {risks : List Risk} {tracking : Dict TrackingRecord} {ignore : Bool}
    {reconciled : Reconciled} (h : reconcile risks tracking ignore = .ok reconciled) :
    reconciled.risks = risks.map (tracked tracking) := by
  unfold reconcile at h
  rcases update_cases risks tracking ignore with ⟨-, o, os, -, hrun⟩ | ⟨-, d, hrun, -, -⟩
  · rw [hrun] at h
    cases h
  · rw [hrun] at h
    cases h
    rfl

end Reconciliation

namespace Analysis

open Reconciliation (tracked)
open Validation (bind_eq_ok_iff)

/-! ## Rules that are skipped -/

/-- The rule with this id is not to be run. -/
def Skips (options : AnalysisOptions) (id : String) : Prop :=
  id ≠ "" ∧ ∃ s ∈ options.skip, Text.trim s = id

instance (options : AnalysisOptions) (id : String) : Decidable (Skips options id) :=
  inferInstanceAs (Decidable (_ ∧ _))

theorem mem_skipSet {options : AnalysisOptions} {id : String} :
    id ∈ skipSet options ↔ Skips options id := by
  rw [skipSet, mem_sortedUnique, List.mem_filter, List.mem_map, and_comm, Skips]
  simp

theorem contains_skipSet (options : AnalysisOptions) :
    (skipSet options).contains = fun id => decide (Skips options id) := by
  funext id
  rw [List.contains_eq_mem, decide_eq_decide]
  exact mem_skipSet

/-- The rules of a registry, followed by those of the individual categories of a model. -/
def rulesFor (m : Model) (registry : Registry) : List Rule :=
  registry.rules ++ m.individualCategories.values.map .ofIndividual

/-! ## Risks of one rule -/

/-- The risks of a category are those of its rule, as ids of rules differ. -/
theorem filter_flatMap_own {results : List (Rule × List Risk)}
    (hids : (results.map (·.1.id)).Nodup)
    (hown : ∀ x ∈ results, ∀ r ∈ x.2, r.category = x.1.id) {x : Rule × List Risk}
    (hx : x ∈ results) :
    (results.flatMap (·.2)).filter (·.category = x.1.id) = x.2 := by
  induction results with
  | nil => cases hx
  | cons y results ih =>
    rw [List.map_cons, List.nodup_cons] at hids
    rw [List.forall_mem_cons] at hown
    rw [List.flatMap_cons, List.filter_append]
    rcases List.mem_cons.1 hx with rfl | hx
    · have hothers : (results.flatMap (·.2)).filter (·.category = x.1.id) = [] := by
        rw [List.filter_eq_nil_iff]
        intro r hr
        obtain ⟨z, hz, hrz⟩ := List.mem_flatMap.1 hr
        have hid : z.1.id ≠ x.1.id := fun heq => hids.1 (heq ▸ List.mem_map_of_mem hz)
        simpa [hown.2 z hz r hrz] using hid
      rw [hothers, List.append_nil, List.filter_eq_self.2]
      simpa using hown.1
    · have hid : x.1.id ≠ y.1.id := fun heq => hids.1 (heq ▸ List.mem_map_of_mem hx)
      have hnone : y.2.filter (·.category = x.1.id) = [] := by
        rw [List.filter_eq_nil_iff]
        intro r hr
        simpa [hown.1 r hr] using hid.symm
      rw [hnone, List.nil_append, ih hids.2 hown.2 hx]

variable {m : Model} {registry : Registry} {options : AnalysisOptions}
  {results : List (Rule × List Risk)} {c : AnalysisContext} {r : Report}

/-- After reconciliation and in any order, what is found under a category comes from one rule. -/
theorem exists_source {tracking : Dict TrackingRecord} {risks : List Risk}
    (hrisks : risks.Perm (results.flatMap fun x => x.2.map (tracked tracking)))
    (hids : (results.map (·.1.id)).Nodup)
    (hown : ∀ x ∈ results, ∀ r ∈ x.2, r.category = x.1.id) {id : String}
    (hfilled : risks.filter (·.category = id) ≠ []) :
    ∃ x ∈ results, x.1.id = id ∧
      (risks.filter (·.category = id)).Perm (x.2.map (tracked tracking)) ∧
        ∀ y ∈ results, y.1.id = id → y = x := by
  -- The rules with what they have found, statuses included.
  let settled := results.map fun x => (x.1, x.2.map (tracked tracking))
  have hflat : settled.flatMap (·.2) = results.flatMap fun x => x.2.map (tracked tracking) :=
    List.flatMap_map ..
  have hidsSettled : (settled.map (·.1.id)).Nodup := by
    rwa [List.map_map]
  have hownSettled : ∀ x ∈ settled, ∀ r ∈ x.2, r.category = x.1.id := by
    intro x hx r hr
    obtain ⟨y, hy, rfl⟩ := List.mem_map.1 hx
    obtain ⟨r, hfound, rfl⟩ := List.mem_map.1 hr
    exact hown y hy r hfound
  obtain ⟨r, hr⟩ := List.exists_mem_of_ne_nil _ hfilled
  obtain ⟨hr, hid⟩ := List.mem_filter.1 hr
  rw [decide_eq_true_eq] at hid
  rw [hrisks.mem_iff, ← hflat] at hr
  obtain ⟨x', hx', hrx⟩ := List.mem_flatMap.1 hr
  -- Some risk has the category, and the rule that it is from is the one.
  have hown' := filter_flatMap_own hidsSettled hownSettled hx'
  have hid' : x'.1.id = id := (hownSettled x' hx' r hrx).symm.trans hid
  obtain ⟨x, hx, rfl⟩ := List.mem_map.1 hx'
  refine ⟨x, hx, hid', ?_, fun y hy heq => ?_⟩
  · have hperm := hrisks.filter fun r => decide (r.category = id)
    rw [← hflat, ← hid', hown'] at hperm
    rwa [← hid']
  · exact List.inj_on_of_nodup_map hids hy hx (heq.trans hid'.symm)

/-! ## The report -/

/-- A report presents the results of some rules. -/
structure Presents (m : Model) (registry : Registry) (options : AnalysisOptions)
    (results : List (Rule × List Risk)) (report : Report) : Prop where
  model : report.model = m
  /-- All rules but those to be skipped were run, in their order. -/
  executed : results.map (·.1) = (rulesFor m registry).filter fun r => ¬ Skips options r.id
  /-- Nothing but statuses of what the rules have found has changed. -/
  risks : report.risks.Perm (results.flatMap fun x => x.2.map (tracked m.tracking))
  /-- The statuses, and what is said about records, come from reconciliation. -/
  reconciled : ∃ found reconciled, found.Perm (results.flatMap (·.2)) ∧
    Reconciliation.reconcile found m.tracking options.ignoreOrphans = .ok reconciled ∧
    report.risks.Perm reconciled.risks ∧ report.applied = reconciled.applied ∧
    report.orphans = reconciled.orphans
  sorted : report.risks.Pairwise (Risk.listedBefore · · = true)
  /-- A group is what the list of risks says of its category, in the same order. -/
  groups : ∀ id risks, report.byCategory.get? id = some risks ↔
    risks ≠ [] ∧ risks = report.risks.filter (·.category = id)
  /-- Each group comes from the one rule with its id. -/
  sources : ∀ id risks, report.byCategory.get? id = some risks →
    ∃ x ∈ results, x.1.id = id ∧ risks.Perm (x.2.map (tracked m.tracking)) ∧
      ∀ y ∈ results, y.1.id = id → y = x
  categories : report.categories.Perm (results.map (·.1.category))
  categories_nodup : (report.categories.map (·.id)).Nodup
  statistics : report.statistics.Tallies report.risks
  skipped : report.skipped = ((rulesFor m registry).map Rule.id).filter fun id => Skips options id
  unknownSkipped : ∀ id, id ∈ report.unknownSkipped ↔
    Skips options id ∧ id ∉ (rulesFor m registry).map Rule.id
  unknownSkipped_sorted : report.unknownSkipped.Pairwise (· < ·)
  tags : ∀ tag, tag ∈ report.tags ↔
    ∃ t, (t ∈ m.tagsAvailable ∨ ∃ x ∈ results, t ∈ x.1.tags) ∧ Text.fold t = tag
  tags_sorted : report.tags.Pairwise (· < ·)
  /-- Of risks with the same id the last one is found. -/
  lookup : ∀ id, report.risk? id =
    report.risks.reverse.find? fun r => Text.lower r.syntheticId = Text.lower id

/-- An analysis with a report has run the rules that are not skipped. -/
theorem exists_ran_of_analyze (h : analyze m registry options = .ok r) :
    ∃ results c registry', Ran m results c ∧
      results.map (·.1) = (rulesFor m registry).filter (fun x => ¬ Skips options x.id) ∧
      registry'.rules = rulesFor m registry ∧
      report registry' options c
        (((rulesFor m registry).map Rule.id).filter fun id => Skips options id) = .ok r := by
  unfold analyze at h
  obtain ⟨registry', hregister, h⟩ := bind_eq_ok_iff.1 h
  obtain ⟨⟨c, skipped⟩, hrun, h⟩ := bind_eq_ok_iff.1 h
  obtain ⟨results, hran, hresults, hskipped⟩ := ran_of_foldlM_visit .nil hrun
  have hrules : registry'.rules = rulesFor m registry := rules_of_registerIndividual hregister
  rw [hrules, contains_skipSet] at hresults hskipped
  rw [List.nil_append] at hran hskipped
  refine ⟨results, c, registry', hran, ?_, hrules, ?_⟩
  · simpa using hresults
  · rw [← hskipped]
    exact h

/-- The registry keeps the ids of its rules apart, and leaving rules out does not change that. -/
theorem nodup_ids_of_executed {registry' : Registry} {p : Rule → Bool}
    (hexecuted : results.map (·.1) = registry'.rules.filter p) :
    (results.map (·.1.id)).Nodup := by
  have hfiltered := registry'.coherent.distinct.sublist ((List.filter_sublist (p := p)).map Rule.id)
  rwa [← hexecuted, List.map_map] at hfiltered

/-- The report on a run presents its results: ids of registered rules differ, so none replaces those
of another. -/
theorem presents_report {registry' : Registry} (hran : Ran m results c)
    (hexecuted : results.map (·.1) = (rulesFor m registry).filter fun x => ¬ Skips options x.id)
    (hrules : registry'.rules = rulesFor m registry)
    (h : report registry' options c
      (((rulesFor m registry).map Rule.id).filter fun id => Skips options id) = .ok r) :
    Presents m registry options results r := by
  have hids : (results.map (·.1.id)).Nodup := nodup_ids_of_executed (hrules ▸ hexecuted)
  unfold report at h
  split at h
  · cases h
  next reconciled hreconciled =>
  rw [hran.model_eq] at hreconciled
  have hfound := hran.risks_perm hids
  have hsorted := Risk.perm_sort reconciled.risks
  have hrisks : (Risk.sort reconciled.risks).Perm
      (results.flatMap fun x => x.2.map (tracked m.tracking)) := by
    have hmap := hfound.map (tracked m.tracking)
    rw [← Reconciliation.risks_of_reconcile hreconciled, List.map_flatMap] at hmap
    exact hsorted.trans hmap
  cases h
  have hcategories := (Category.perm_sort (groupByCategory (Risk.sort reconciled.risks))
    c.categories.values).trans (hran.categories_perm hids)
  exact {
    model := hran.model_eq
    executed := hexecuted
    risks := hrisks
    reconciled := ⟨_, reconciled, hfound, hreconciled, hsorted, rfl, rfl⟩
    sorted := Risk.pairwise_sort _
    groups := fun id risks => get?_groupByCategory_eq_some_iff
    sources := fun id risks hget => by
      obtain ⟨hfilled, rfl⟩ := get?_groupByCategory_eq_some_iff.1 hget
      exact exists_source hrisks hids hran.own hfilled
    categories := hcategories
    categories_nodup := by
      rw [(hcategories.map (·.id)).nodup_iff, List.map_map]
      exact hids
    statistics := Statistics.tallies_ofRisks _
    skipped := rfl
    unknownSkipped := fun id => by
      rw [List.mem_filter, mem_skipSet, Bool.not_eq_true', ← Bool.not_eq_true,
        registry'.coherent.contains_iff, RuleTable.ids, hrules]
    unknownSkipped_sorted := (Dict.pairwise_keys _).sublist List.filter_sublist
    tags := fun tag => by
      rw [Dict.mem_keys_iff, hran.contains_tags]
      simp only [List.mem_map, List.mem_append, List.mem_flatMap]
    tags_sorted := Dict.pairwise_keys _
    lookup := fun id => bind_get?_placesOf _ _ }

/-- A report presents what the rules that were run have found. -/
theorem analyze_presents (h : analyze m registry options = .ok r) :
    ∃ results c, Ran m results c ∧ Presents m registry options results r := by
  obtain ⟨results, c, registry', hran, hexecuted, hrules, hreport⟩ := exists_ran_of_analyze h
  exact ⟨results, c, hran, presents_report hran hexecuted hrules hreport⟩

/-- A rule with two findings and a rule that is to be skipped. -/
def catalogue : Registry :=
  let xss := Rule.fixed { (default : Category) with id := "xss" } [" Web "] Reconciliation.findings
  let sqli := Rule.fixed { (default : Category) with id := "sqli" } [] []
  ((Registry.empty.register xss).1.register sqli).1

/-- A model that states one more risk. -/
def store : Model :=
  let leak := Risk.new "leak" .unlikely .high "Leak of orders"
  { (default : Model) with
    tagsAvailable := ["PCI"]
    individualCategories := .ofList
      [("Data Leak", ⟨{ (default : Category) with id := "leak" }, [leak]⟩)]
    tracking := Reconciliation.ledger }

theorem analyze_presents_store :
    ∃ r, analyze store catalogue ⟨["sqli ", "csrf", ""], true⟩ = .ok r ∧
      ∃ results c, Ran store results c ∧
        Presents store catalogue ⟨["sqli ", "csrf", ""], true⟩ results r := by
  have hok : (analyze store catalogue ⟨["sqli ", "csrf", ""], true⟩).isOk = true := by
    decide +kernel
  cases hr : analyze store catalogue ⟨["sqli ", "csrf", ""], true⟩ with
  | error fault => simp [hr, Except.isOk, Except.toBool] at hok
  | ok r => exact ⟨r, rfl, analyze_presents hr⟩

end Analysis

end ThreatModel
