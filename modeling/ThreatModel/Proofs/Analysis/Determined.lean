import ThreatModel.Proofs.Analysis.Report

/-!
# Runs of rules that look at the model only

A rule may look at what the rules before it have found, but the built-in rules, the rules of
individual categories and those with fixed findings do not (`Rule.OfModel`). What a run of such rules
leaves is known beforehand: every rule finds in the run what it finds by itself (`Rule.risksIn`), and
the run succeeds if each of them does (`exists_foldlM_visit`).
-/

namespace ThreatModel

namespace Rule

/-- What a rule finds depends on nothing but the model. -/
def OfModel (rule : Rule) : Prop :=
  ∀ c c' : AnalysisContext, c.model = c'.model → rule.findings c = rule.findings c'

theorem ofModel_ofModelRule (r : ModelRule) : (ofModelRule r).OfModel := fun _ _ h =>
  congrArg (fun m => Except.ok (r.findings m)) h

theorem ofModel_fixed (category : Category) (tags : List String) (risks : List Risk) :
    (fixed category tags risks).OfModel := fun _ _ _ => rfl

theorem ofModel_ofIndividual (c : IndividualCategory) : (ofIndividual c).OfModel :=
  ofModel_fixed c.category [] c.risks

/-- What a rule finds in a model by itself, nothing if it fails. -/
def risksIn (rule : Rule) (m : Model) : List Risk :=
  match rule.findings { model := m } with
  | .ok risks => risks
  | .error _ => []

theorem risksIn_of_eq_ok {rule : Rule} {m : Model} {risks : List Risk}
    (h : rule.findings { model := m } = .ok risks) : rule.risksIn m = risks := by
  rw [risksIn, h]

/-- A rule succeeds on a model, and all that it finds is of its category. -/
def Succeeds (rule : Rule) (m : Model) : Prop :=
  ∃ risks, rule.findings { model := m } = .ok risks ∧ ∀ r ∈ risks, r.category = rule.id

end Rule

namespace Analysis

open Validation (bind_eq_ok_iff)

variable {m : Model} {results : List (Rule × List Risk)} {c : AnalysisContext}

/-! ## What rules find -/

theorem ofModel_of_mem_rulesFor {registry : Registry} (h : ∀ rule ∈ registry.rules, rule.OfModel) :
    ∀ rule ∈ rulesFor m registry, rule.OfModel := by
  intro rule hrule
  rcases List.mem_append.1 hrule with hrule | hrule
  · exact h rule hrule
  · obtain ⟨category, -, rfl⟩ := List.mem_map.1 hrule
    exact Rule.ofModel_ofIndividual category

theorem ofModel_register {registry : Registry} (h : ∀ rule ∈ registry.rules, rule.OfModel)
    {new : Rule} (hnew : new.OfModel) : ∀ rule ∈ (registry.register new).1.rules, rule.OfModel := by
  rw [Registry.rules_register]
  split
  · exact h
  · exact List.forall_mem_append.2 ⟨h, List.forall_mem_singleton.2 hnew⟩

/-- In a run rules find what they find by themselves. -/
theorem Ran.findings_eq (h : Ran m results c) (hrules : ∀ x ∈ results, x.1.OfModel) :
    ∀ x ∈ results, x.1.findings { model := m } = .ok x.2 := by
  induction h with
  | nil => simp
  | @snoc results c rule risks h hfound _ ih =>
    simp only [List.forall_mem_append, List.forall_mem_singleton] at hrules ⊢
    refine ⟨ih hrules.1, ?_⟩
    rw [← hfound]
    exact hrules.2 _ _ h.model_eq.symm

theorem Ran.succeeds (h : Ran m results c) (hrules : ∀ x ∈ results, x.1.OfModel) :
    ∀ x ∈ results, x.1.Succeeds m := fun x hx =>
  ⟨x.2, h.findings_eq hrules x hx, h.own x hx⟩

theorem Ran.results_eq (h : Ran m results c) (hrules : ∀ x ∈ results, x.1.OfModel) :
    results = (results.map (·.1)).map fun rule => (rule, rule.risksIn m) := by
  rw [List.map_map]
  refine (List.map_id results).symm.trans (List.map_congr_left fun x hx => ?_)
  exact Prod.ext rfl (Rule.risksIn_of_eq_ok (h.findings_eq hrules x hx)).symm

/-- A loop over rules succeeds if each of those that are not skipped does. -/
theorem exists_foldlM_visit (skip skipped : List String) {rules : List Rule} (hc : c.model = m)
    (hof : ∀ rule ∈ rules, rule.OfModel)
    (hsucceed : ∀ rule ∈ rules, rule.id ∉ skip → rule.Succeeds m) :
    ∃ s, rules.foldlM (visit skip) (c, skipped) = .ok s := by
  induction rules generalizing c skipped with
  | nil => exact ⟨_, rfl⟩
  | cons rule rules ih =>
    rw [List.forall_mem_cons] at hof hsucceed
    rw [List.foldlM_cons]
    by_cases hskip : rule.id ∈ skip
    · obtain ⟨s, hs⟩ := ih (skipped ++ [rule.id]) hc hof.2 hsucceed.2
      refine ⟨s, bind_eq_ok_iff.2 ⟨_, ?_, hs⟩⟩
      rw [visit, if_pos (by simpa using hskip)]
    · obtain ⟨risks, hfound, hown⟩ := hsucceed.1 hskip
      have hseen : rule.findings (seenBy c rule) = .ok risks := by
        rw [← hfound]
        exact hof.1 _ _ hc
      have hexecute := execute_eq_ok_iff.2 ⟨risks, hseen, hown, rfl⟩
      obtain ⟨s, hs⟩ := ih (c := record (seenBy c rule) rule risks) skipped hc hof.2 hsucceed.2
      refine ⟨s, bind_eq_ok_iff.2 ⟨_, ?_, hs⟩⟩
      rw [visit, if_neg (by simpa using hskip), hexecute]
      rfl

/-- With all individual categories registered, an analysis gets as far as the report on a run of the
rules that are not skipped. -/
theorem exists_ran {registry registry' : Registry} (options : AnalysisOptions)
    (hregister : registerIndividual registry m.individualCategories.values = .ok registry')
    (hof : ∀ rule ∈ rulesFor m registry, rule.OfModel)
    (hsucceed : ∀ rule ∈ rulesFor m registry, ¬ Skips options rule.id → rule.Succeeds m) :
    ∃ results c, Ran m results c ∧
      results.map (·.1) = (rulesFor m registry).filter (fun rule => ¬ Skips options rule.id) ∧
      analyze m registry options = report registry' options c
        (((rulesFor m registry).map Rule.id).filter fun id => Skips options id) := by
  have hrules := rules_of_registerIndividual hregister
  rw [← show registry'.rules = rulesFor m registry from hrules] at hof hsucceed ⊢
  obtain ⟨⟨c, skipped⟩, hrun⟩ := exists_foldlM_visit (c := start m) (skipSet options) [] rfl hof
    fun rule hrule hskip => hsucceed rule hrule (mem_skipSet.not.1 hskip)
  obtain ⟨results, hran, hexecuted, hskipped⟩ := ran_of_foldlM_visit .nil hrun
  rw [contains_skipSet] at hexecuted hskipped
  rw [List.nil_append] at hran hskipped
  refine ⟨results, c, hran, by simpa using hexecuted, ?_⟩
  rw [analyze, hregister, ← hskipped]
  show (registry'.rules.foldlM (visit (skipSet options)) (start m, []) >>= fun r =>
    report registry' options r.1 r.2) = _
  rw [hrun]
  rfl

/-! ## What a run leaves -/

/-- The state keeps the risks of a run as they are grouped by category. -/
theorem Ran.byCategory_eq (h : Ran m results c) (hids : (results.map (·.1.id)).Nodup) :
    c.byCategory = groupByCategory (results.flatMap (·.2)) := by
  induction h with
  | nil => rfl
  | @snoc results c rule risks h _ hown ih =>
    rw [List.map_append, List.map_singleton, ← List.concat_eq_append, List.nodup_concat] at hids
    refine Dict.ext_get? fun id => ?_
    rw [get?_groupByCategory, List.flatMap_append, List.flatMap_singleton, List.filter_append,
      record]
    by_cases hid : id = rule.id
    · -- no rule before has this id, so all risks with it are new
      subst hid
      have hbefore : (results.flatMap (·.2)).filter (·.category = rule.id) = [] := by
        rw [List.filter_eq_nil_iff]
        intro r hr
        obtain ⟨x, hx, hr⟩ := List.mem_flatMap.1 hr
        have hne : x.1.id ≠ rule.id := fun heq => hids.1 (heq ▸ List.mem_map_of_mem hx)
        simpa [h.own x hx r hr] using hne
      have hall : risks.filter (·.category = rule.id) = risks :=
        List.filter_eq_self.2 (by simpa using hown)
      have hnone : c.byCategory.get? rule.id = none := by
        rw [ih hids.2, get?_groupByCategory, if_pos hbefore]
      rw [hbefore, hall, List.nil_append]
      by_cases hempty : risks = []
      · simp [hempty, seenBy, hnone]
      · simp [hempty]
    · have hnew : risks.filter (·.category = id) = [] := by
        rw [List.filter_eq_nil_iff]
        intro r hr
        simpa [hown r hr] using Ne.symm hid
      have hold : (seenBy c rule).byCategory.get? id = c.byCategory.get? id := rfl
      rw [hnew, List.append_nil, ← get?_groupByCategory, ← ih hids.2]
      split
      · rfl
      · rw [Dict.get?_insert, if_neg hid, hold]

end Analysis

end ThreatModel
