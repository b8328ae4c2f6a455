import Mathlib.Data.List.Basic
import ThreatModel.Proofs.Analysis.Determined

/-!
# Skipping rules does not disturb the rest

An analysis that skips rules is compared with one that runs them all. The state after a run is a
function of what its rules have found: risks and categories are kept by the ids of the rules
(`Ran.byCategory_eq`, `Ran.categories_eq`), so leaving rules out leaves just their ids out of the two
dictionaries (`Ran.kept_of_filter`). From there on each step of the report looks at single risks or
is a stable sort; `analyze_skip` goes through them one after the other.
-/

namespace ThreatModel

/-! ## Leaving out entries -/

/-- Parts that are wanted or not as a whole can be left out before or after they are put together. -/
theorem flatMap_filter_of_forall {α β : Type} {l : List α} {f : α → List β} {p : α → Bool}
    {q : β → Bool} (h : ∀ a ∈ l, ∀ b ∈ f a, q b = p a) :
    (l.filter p).flatMap f = (l.flatMap f).filter q := by
  induction l with
  | nil => rfl
  | cons a l ih =>
    rw [List.forall_mem_cons] at h
    rw [List.flatMap_cons, List.filter_append, ← ih h.2, List.filter_cons]
    cases hp : p a with
    | true =>
      rw [if_pos rfl, List.flatMap_cons,
        List.filter_eq_self.2 fun b hb => (h.1 b hb).trans hp]
    | false =>
      have hnone : (f a).filter q = [] := List.filter_eq_nil_iff.2 fun b hb => by simp [h.1 b hb, hp]
      rw [if_neg Bool.false_ne_true, hnone, List.nil_append]

namespace Analysis

open Reconciliation (tracked trackedId riskIds orphans entryFor mem_riskIds)
open Validation (bind_eq_ok_iff exists_eq_ok_of_map)

variable {m : Model} {results : List (Rule × List Risk)} {c : AnalysisContext} {p : String → Bool}

/-! ## Groups and categories -/

theorem groupByCategory_filter (risks : List Risk) (p : String → Bool) :
    groupByCategory (risks.filter (p ·.category)) = (groupByCategory risks).restrict p := by
  refine Dict.ext_get? fun id => ?_
  have hfilter : (risks.filter (p ·.category)).filter (·.category = id) =
      if p id then risks.filter (·.category = id) else [] := by
    rw [List.filter_filter]
    cases hp : p id with
    | true =>
      refine List.filter_congr fun r _ => ?_
      by_cases hid : r.category = id <;> simp [hid, hp]
    | false =>
      refine List.filter_eq_nil_iff.2 fun r _ => ?_
      by_cases hid : r.category = id <;> simp [hid, hp]
  rw [Dict.get?_restrict, get?_groupByCategory, get?_groupByCategory, hfilter]
  cases p id <;> rfl

/-- The risks that are left in a list of groups when some categories are not wanted. -/
theorem flatten_values_restrict (risks : List Risk) (p : String → Bool) :
    ((groupByCategory risks).restrict p).values.flatten =
      (groupByCategory risks).values.flatten.filter (p ·.category) := by
  have hgroup : ∀ e ∈ (groupByCategory risks).entries, ∀ r ∈ e.2, p r.category = p e.1 := by
    intro e he r hr
    obtain ⟨-, hfound⟩ := get?_groupByCategory_eq_some_iff.1 (Dict.get?_eq_some_iff.2 he)
    rw [hfound] at hr
    rw [show r.category = e.1 by simpa using (List.mem_filter.1 hr).2]
  rw [Dict.values, Dict.values, ← List.flatMap_def, ← List.flatMap_def]
  exact flatMap_filter_of_forall hgroup

/-- The state keeps the category of each rule by its id. -/
theorem Ran.categories_eq (h : Ran m results c) :
    c.categories = .ofList (results.map fun x => (x.1.id, x.1.category)) := by
  induction h with
  | nil => rfl
  | snoc _ _ _ ih =>
    rw [List.map_append, List.map_singleton, Dict.ofList, List.foldl_append, ← Dict.ofList, ← ih]
    rfl

theorem Ran.id_of_mem_categories (h : Ran m results c) {e : String × Category}
    (he : e ∈ c.categories.entries) : e.2.id = e.1 := by
  rw [h.categories_eq] at he
  obtain ⟨x, -, rfl⟩ := List.mem_map.1 (Dict.mem_of_mem_ofList he)
  rfl

/-- Rules that look at the model only find the same when others are left out. -/
theorem Ran.results_filter {results' : List (Rule × List Risk)} {c' : AnalysisContext}
    (h : Ran m results c) (h' : Ran m results' c') (hrules : ∀ x ∈ results, x.1.OfModel)
    (hexecuted : results'.map (·.1) = (results.map (·.1)).filter (p ·.id)) :
    results' = results.filter (p ·.1.id) := by
  have hrules' : ∀ x ∈ results', x.1.OfModel := by
    intro x hx
    have hmem : x.1 ∈ results.map (·.1) := List.mem_of_mem_filter (hexecuted ▸ List.mem_map_of_mem hx)
    obtain ⟨y, hy, heq⟩ := List.mem_map.1 hmem
    exact heq ▸ hrules y hy
  let found (rule : Rule) : Rule × List Risk := (rule, rule.risksIn m)
  calc results' = (results'.map (·.1)).map found := h'.results_eq hrules'
    _ = ((results.map (·.1)).filter (p ·.id)).map found := by rw [hexecuted]
    _ = ((results.map (·.1)).map found).filter (p ·.1.id) := by
        rw [List.filter_map (f := found)]
        rfl
    _ = results.filter (p ·.1.id) := by rw [← h.results_eq hrules]

/-- What the state keeps when some of the rules are left out of a run. -/
theorem Ran.kept_of_filter {results' : List (Rule × List Risk)} {c' : AnalysisContext}
    (h : Ran m results c) (h' : Ran m results' c') (hids : (results.map (·.1.id)).Nodup)
    (hresults : results' = results.filter (p ·.1.id)) :
    c'.byCategory.values.flatten = c.byCategory.values.flatten.filter (p ·.category) ∧
      c'.categories.values = c.categories.values.filter (p ·.id) := by
  subst hresults
  have hids' : ((results.filter (p ·.1.id)).map (·.1.id)).Nodup :=
    hids.sublist (List.filter_sublist.map _)
  have hrisks : (results.filter (p ·.1.id)).flatMap (·.2) =
      (results.flatMap (·.2)).filter (p ·.category) :=
    flatMap_filter_of_forall fun x hx r hr => by rw [h.own x hx r hr]
  have hcategories : c'.categories = c.categories.restrict p := by
    rw [h.categories_eq, h'.categories_eq, ← Dict.ofList_filter, List.filter_map]
    rfl
  constructor
  · rw [h.byCategory_eq hids, h'.byCategory_eq hids', hrisks, groupByCategory_filter,
      flatten_values_restrict]
  · rw [hcategories]
    exact Dict.values_restrict fun e he => by rw [h.id_of_mem_categories he]

/-! ## The report -/

/-- A report on a run in which orphans are ignored. -/
structure Ignores (tracking : Dict TrackingRecord) (c : AnalysisContext) (found : List Risk)
    (r : Report) : Prop where
  risks : r.risks = Risk.sort (found.map (tracked tracking))
  categories : r.categories = Category.sort (groupByCategory r.risks) c.categories.values
  applied : ∀ id, r.applied.get? id =
    if id ∈ riskIds found then (entryFor tracking id).map (·.1) else none
  orphans : r.orphans = (orphans tracking (riskIds found)).map (·.key)

/-- With orphans ignored there always is a report. -/
theorem exists_report_ignoring (registry : Registry) (options : AnalysisOptions)
    (skipped : List String) (hran : Ran m results c) (hignore : options.ignoreOrphans = true) :
    ∃ r, report registry options c skipped = .ok r ∧
      Ignores m.tracking c c.byCategory.values.flatten r := by
  rw [← hran.model_eq]
  rcases Reconciliation.update_cases c.byCategory.values.flatten c.model.tracking
      options.ignoreOrphans with ⟨hheed, -⟩ | ⟨-, d, hrun, horphans, happlied⟩
  · rw [hignore] at hheed
    cases hheed
  · simp only [report, Reconciliation.reconcile, hrun]
    exact ⟨_, rfl, rfl, rfl, happlied, horphans⟩

/-- A report says what another one says about the categories that are wanted. -/
structure Restricts (full : Report) (wanted : String → Prop) [DecidablePred wanted] (r : Report) :
    Prop where
  risks : r.risks = full.risks.filter fun risk => wanted risk.category
  categories : r.categories = full.categories.filter fun category => wanted category.id
  applied : ∀ id, r.applied.get? id =
    if ∃ risk ∈ r.risks, trackedId risk = id then full.applied.get? id else none
  /-- Fewer risks can only make more keys orphans. -/
  orphans : full.orphans.Sublist r.orphans

theorem orphans_sublist {tracking : Dict TrackingRecord} {ids ids' : List String}
    (h : ∀ id ∈ ids', id ∈ ids) : (orphans tracking ids).Sublist (orphans tracking ids') := by
  have hopen : ∀ id ∈ Reconciliation.openIds tracking ids', id ∈ Reconciliation.openIds tracking ids :=
    fun id hid => by
      rw [Reconciliation.mem_openIds] at hid ⊢
      exact ⟨h id hid.1, hid.2⟩
  refine .append (.map _ (List.monotone_filter_right _ fun e he => ?_))
    (.map _ (List.monotone_filter_right _ fun e he => ?_))
  · rw [Bool.not_eq_true', List.contains_eq_mem, decide_eq_false_iff_not] at he ⊢
    exact fun hid => he (h _ hid)
  · rw [Bool.not_eq_true', List.any_eq_false] at he ⊢
    exact fun id hid => he id (hopen id hid)

/-- Ids of reconciled risks in any order. -/
theorem mem_riskIds_iff_of_ignores {tracking : Dict TrackingRecord} {found : List Risk} {r : Report}
    (h : Ignores tracking c found r) {id : String} :
    id ∈ riskIds found ↔ ∃ risk ∈ r.risks, trackedId risk = id := by
  simp only [mem_riskIds, h.risks, (Risk.perm_sort _).mem_iff, List.mem_map, exists_exists_and_eq_and]
  rfl

/-- Leaving out the risks and categories of some ids before the report leaves them out of it. -/
theorem Ignores.restricts {tracking : Dict TrackingRecord} {found : List Risk}
    {c' : AnalysisContext} {full r : Report} {wanted : String → Prop} [DecidablePred wanted]
    (hfull : Ignores tracking c found full)
    (h : Ignores tracking c' (found.filter fun risk => wanted risk.category) r)
    (hcategories : c'.categories.values = c.categories.values.filter fun x => wanted x.id) :
    Restricts full wanted r := by
  have hrisks : r.risks = full.risks.filter fun risk => wanted risk.category := by
    rw [h.risks, hfull.risks, Risk.filter_sort, List.filter_map]
    rfl
  have hids : ∀ id ∈ riskIds (found.filter fun risk => wanted risk.category), id ∈ riskIds found := by
    intro id hid
    obtain ⟨risk, hrisk, heq⟩ := mem_riskIds.1 hid
    exact mem_riskIds.2 ⟨risk, List.mem_of_mem_filter hrisk, heq⟩
  refine ⟨hrisks, ?_, fun id => ?_, ?_⟩
  · rw [h.categories, hfull.categories, hcategories]
    refine (Category.filter_sort (fun category hwanted => ?_) _).symm
    -- The group of a wanted category has lost nothing.
    rw [hrisks, groupByCategory_filter (p := fun id => wanted id), Dict.get?_restrict, if_pos hwanted]
  · rw [h.applied, hfull.applied]
    by_cases hid : id ∈ riskIds (found.filter fun risk => wanted risk.category)
    · rw [if_pos hid, if_pos ((mem_riskIds_iff_of_ignores h).1 hid), if_pos (hids id hid)]
    · rw [if_neg hid, if_neg fun hex => hid ((mem_riskIds_iff_of_ignores h).2 hex)]
  · rw [h.orphans, hfull.orphans]
    exact (orphans_sublist hids).map _

/-! ## All steps -/

/-- An analysis that skips rules succeeds if one that skips none does, and says the same about what
is left: only a rule without an id cannot be skipped. -/
theorem analyze_skip {registry : Registry} {full : Report}
    (hof : ∀ rule ∈ registry.rules, rule.OfModel) (skip : List String)
    (h : analyze m registry ⟨[], true⟩ = .ok full) :
    ∃ r, analyze m registry ⟨skip, true⟩ = .ok r ∧
      Restricts full (fun id => ¬ Skips ⟨skip, true⟩ id) r := by
  have hrules := ofModel_of_mem_rulesFor (m := m) hof
  obtain ⟨registry', hregister, -⟩ := bind_eq_ok_iff.1 h
  obtain ⟨results, c, registry'', hran, hexecuted, hregistered, hreport⟩ := exists_ran_of_analyze h
  have hall : results.map (·.1) = rulesFor m registry := by
    rw [hexecuted, List.filter_eq_self]
    simp [Skips]
  have hresults : ∀ x ∈ results, x.1.OfModel := fun x hx =>
    hrules x.1 (hall ▸ List.mem_map_of_mem hx)
  have hsucceed : ∀ rule ∈ rulesFor m registry, rule.Succeeds m := by
    intro rule hrule
    rw [← hall, List.mem_map] at hrule
    obtain ⟨x, hx, rfl⟩ := hrule
    exact hran.succeeds hresults x hx
  obtain ⟨results', c', hran', hexecuted', hanalyze⟩ :=
    exists_ran ⟨skip, true⟩ hregister hrules fun rule hrule _ => hsucceed rule hrule
  have hids : (results.map (·.1.id)).Nodup := nodup_ids_of_executed (hregistered ▸ hexecuted)
  let wanted (id : String) : Prop := ¬ Skips ⟨skip, true⟩ id
  have hleft : results' = results.filter fun x => wanted x.1.id :=
    hran.results_filter (p := fun id => wanted id) hran' hresults (hall ▸ hexecuted')
  obtain ⟨hfound, hcategories⟩ := hran.kept_of_filter (p := fun id => wanted id) hran' hids hleft
  obtain ⟨full', hfull', hignores⟩ :=
    exists_report_ignoring registry'' ⟨[], true⟩ _ hran rfl
  obtain ⟨r, hr, hignores'⟩ :=
    exists_report_ignoring registry' ⟨skip, true⟩ _ hran' rfl
  rw [hreport, Except.ok.injEq] at hfull'
  subst hfull'
  rw [hfound] at hignores'
  exact ⟨r, hanalyze.trans hr, hignores.restricts hignores' hcategories⟩

/-- A rule whose category has no id. -/
def unnamed : Registry :=
  (Registry.empty.register (.fixed default [] [Risk.new "" .likely .medium "Loose end"])).1

/-- Blank entries do not count, so a rule without an id is run although its id is on the list. -/
theorem unnamed_not_skipped :
    ¬ ∀ (m : Model) (registry : Registry) (full : Report),
      (∀ rule ∈ registry.rules, rule.OfModel) → ∀ skip : List String,
        analyze m registry ⟨[], true⟩ = .ok full →
        ∃ r, analyze m registry ⟨skip, true⟩ = .ok r ∧
          Restricts full (fun id => id ∉ skip.map Text.trim) r := by
  intro hall
  have hof : ∀ rule ∈ unnamed.rules, rule.OfModel :=
    ofModel_register (List.forall_mem_nil _) (Rule.ofModel_fixed _ _ _)
  have hfull : (analyze default unnamed ⟨[], true⟩).toOption.map (fun _ => ()) = some () := by
    decide +kernel
  have hfound : (analyze default unnamed ⟨[""], true⟩).toOption.map
      (·.risks.all (·.category ∉ [""].map Text.trim)) = some false := by
    decide +kernel
  obtain ⟨full, hfull, -⟩ := exists_eq_ok_of_map hfull
  obtain ⟨r, hr, hfound⟩ := exists_eq_ok_of_map hfound
  obtain ⟨r', hr', hrestricts⟩ := hall default unnamed full hof [""] hfull
  rw [hr, Except.ok.injEq] at hr'
  subst hr'
  -- A risk of the rule is in the report.
  obtain ⟨risk, hrisk, hid⟩ := List.all_eq_false.1 hfound
  rw [hrestricts.risks] at hrisk
  exact hid (List.mem_filter.1 hrisk).2

theorem analyze_skip_store :
    ∃ full r, analyze store catalogue ⟨[], true⟩ = .ok full ∧
      analyze store catalogue ⟨[" xss", "sqli", ""], true⟩ = .ok r ∧
      Restricts full (fun id => ¬ Skips ⟨[" xss", "sqli", ""], true⟩ id) r := by
  have hof : ∀ rule ∈ catalogue.rules, rule.OfModel :=
    ofModel_register (ofModel_register (List.forall_mem_nil _) (Rule.ofModel_fixed _ _ _))
      (Rule.ofModel_fixed _ _ _)
  have hfull : (analyze store catalogue ⟨[], true⟩).toOption.map (fun _ => ()) = some () := by
    decide +kernel
  obtain ⟨full, hfull, -⟩ := exists_eq_ok_of_map hfull
  obtain ⟨r, hr, hrestricts⟩ := analyze_skip hof [" xss", "sqli", ""] hfull
  exact ⟨full, r, hfull, hr, hrestricts⟩

end Analysis

end ThreatModel
