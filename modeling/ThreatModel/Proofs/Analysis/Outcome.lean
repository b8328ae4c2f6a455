import ThreatModel.Proofs.Analysis.Determined
import ThreatModel.Proofs.Analysis.Registration
import ThreatModel.Proofs.Rule.Soundness

/-!
# When an analysis fails

On an accepted model the built-in rules and the individual categories cannot fail, so an analysis ends
in one of three ways (`Outcome`): an individual category takes the id of a registered rule, a tracking
key is an orphan, or there is a report. Ids are looked at before anything is skipped, orphans only
after the rules were run. `analyze_builtin_fails_iff` puts this as one equivalence for each kind of
fault.
-/

namespace ThreatModel

namespace Analysis

open Reconciliation (IsOrphan Before Canonical)
open Validation (bind_eq_ok_iff)

variable {m : Model} {registry : Registry} {options : AnalysisOptions}

/-! ## The ways an analysis ends -/

/-- An individual category of a model has the id of a registered rule. -/
def Taken (m : Model) (registry : Registry) (id : String) : Prop :=
  (∃ c ∈ m.individualCategories.values, c.category.id = id) ∧
    ∃ rule ∈ registry.rules, rule.id = id

/-- The first id that is taken. -/
def FirstTaken (m : Model) (registry : Registry) (id : String) : Prop :=
  Taken m registry id ∧ ∀ id', Taken m registry id' → id ≤ id'

theorem FirstTaken.eq {id id' : String} (h : FirstTaken m registry id)
    (h' : FirstTaken m registry id') : id = id' :=
  String.le_antisymm (h.2 id' h'.1) (h'.2 id h.1)

/-- What the rules of a registry and the individual categories find in a model, without the rules
that are to be skipped. -/
def risksFound (m : Model) (registry : Registry) (options : AnalysisOptions) : List Risk :=
  ((rulesFor m registry).filter fun rule => ¬ Skips options rule.id).flatMap (·.risksIn m)

/-- How an analysis with rules that do not fail ends. -/
inductive Outcome (m : Model) (registry : Registry) (options : AnalysisOptions) :
    Except AnalysisFault Report → Prop where
  /-- The first id that is taken is refused, no matter what is skipped. -/
  | taken {id : String} (h : FirstTaken m registry id) :
    Outcome m registry options (.error (.duplicateCategory id))
  | orphan {o : Orphan} (hfree : ∀ id, ¬ Taken m registry id) (hheed : options.ignoreOrphans = false)
    (h : IsOrphan m.tracking (risksFound m registry options) o)
    (hfirst : ∀ o', IsOrphan m.tracking (risksFound m registry options) o' → o' = o ∨ Before o o') :
    Outcome m registry options (.error (.orphan o))
  | report {r : Report} (hfree : ∀ id, ¬ Taken m registry id)
    (h : options.ignoreOrphans = true ∨
      ∀ o, ¬ IsOrphan m.tracking (risksFound m registry options) o) :
    Outcome m registry options (.ok r)

/-! ## Registering individual categories -/

theorem contains_eq_true_iff {id : String} :
    registry.contains id = true ↔ ∃ rule ∈ registry.rules, rule.id = id := by
  rw [registry.coherent.contains_iff, RuleTable.ids, List.mem_map]

/-- The first category with a taken id ends the registration. -/
theorem registerIndividual_cases {r : Registry} {categories : List IndividualCategory}
    (hids : (categories.map (·.category.id)).Nodup) :
    match categories.find? (r.contains ·.category.id) with
    | some c => registerIndividual r categories = .error (.duplicateCategory c.category.id)
    | none => ∃ r', registerIndividual r categories = .ok r' := by
  induction categories generalizing r with
  | nil => exact ⟨r, rfl⟩
  | cons c categories ih =>
    rw [List.map_cons, List.nodup_cons] at hids
    rw [List.find?_cons, registerIndividual]
    cases hc : r.contains c.category.id with
    | true =>
      have htaken : r.contains (Rule.ofIndividual c).id = true := hc
      simp only [Registry.register_of_contains htaken]
      rfl
    | false =>
      have hfree : r.contains (Rule.ofIndividual c).id = false := hc
      obtain ⟨r₁, hrules, hr₁⟩ := Registry.exists_register_of_free hfree
      simp only [hr₁]
      -- Later categories have other ids, so for them the new rule makes no difference.
      have hsame : categories.find? (r₁.contains ·.category.id) =
          categories.find? (r.contains ·.category.id) := by
        rw [← List.head?_filter, ← List.head?_filter]
        refine congrArg _ (List.filter_congr fun x hx => ?_)
        have hother : x.category.id ≠ c.category.id := fun heq =>
          hids.1 (heq ▸ List.mem_map_of_mem hx)
        rw [Bool.eq_iff_iff, contains_eq_true_iff, contains_eq_true_iff, hrules]
        simp [Rule.id, Rule.ofIndividual, Rule.fixed, hother.symm]
      exact hsame ▸ ih hids.2

/-- The categories of a model are in the order of their ids, so the one that is refused has the first
id of those that are taken. -/
theorem registerIndividual_values_cases
    (hkeys : m.individualCategories.KeyedBy (·.category.id)) :
    (∃ id, FirstTaken m registry id ∧
        registerIndividual registry m.individualCategories.values =
          .error (.duplicateCategory id)) ∨
      ((∀ id, ¬ Taken m registry id) ∧
        ∃ r', registerIndividual registry m.individualCategories.values = .ok r') := by
  have hcases := registerIndividual_cases (r := registry) hkeys.nodup
  split at hcases
  · next c hfound =>
    obtain ⟨htaken, before, after, hvalues, hfree⟩ := List.find?_eq_some_iff_append.1 hfound
    refine .inl ⟨c.category.id, ⟨⟨⟨c, ?_, rfl⟩, contains_eq_true_iff.1 htaken⟩, ?_⟩, hcases⟩
    · rw [hvalues]
      simp
    · rintro _ ⟨⟨c', hc', rfl⟩, htaken'⟩
      have hsorted := m.individualCategories.pairwise_keys
      rw [← hkeys.map_values, hvalues, List.map_append, List.map_cons, List.pairwise_append,
        List.pairwise_cons] at hsorted
      rw [hvalues, List.mem_append, List.mem_cons] at hc'
      rcases hc' with hc' | rfl | hc'
      · have hnot := hfree c' hc'
        rw [contains_eq_true_iff.2 htaken'] at hnot
        cases hnot
      · exact String.le_refl _
      · exact String.not_lt.1 (String.lt_asymm (hsorted.2.1.1 _ (List.mem_map_of_mem hc')))
  · next hfound =>
    refine .inr ⟨?_, hcases⟩
    rintro _ ⟨⟨c, hc, rfl⟩, htaken⟩
    exact List.find?_eq_none.1 hfound c hc (contains_eq_true_iff.2 htaken)

/-! ## Orphans -/

/-- Which keys are orphans depends on what was found, not on the order. -/
theorem isOrphan_congr {tracking : Dict TrackingRecord} {risks risks' : List Risk}
    (h : risks.Perm risks') (o : Orphan) : IsOrphan tracking risks o ↔ IsOrphan tracking risks' o := by
  have hoccurs (id : String) :
      Reconciliation.Occurs risks id ↔ Reconciliation.Occurs risks' id := by
    simp only [Reconciliation.Occurs, h.mem_iff]
  cases o <;> simp only [IsOrphan, hoccurs]

/-- Reconciliation with checked records ends with the first orphan, unless there is none or orphans
are ignored. -/
theorem reconcile_cases {tracking : Dict TrackingRecord} (h : Canonical tracking)
    (risks : List Risk) (ignore : Bool) :
    (ignore = false ∧ ∃ o, IsOrphan tracking risks o ∧
        (∀ o', IsOrphan tracking risks o' → o' = o ∨ Before o o') ∧
        Reconciliation.reconcile risks tracking ignore = .error o) ∨
      ((ignore = true ∨ ∀ o, ¬ IsOrphan tracking risks o) ∧
        ∃ reconciled, Reconciliation.reconcile risks tracking ignore = .ok reconciled) := by
  rw [Reconciliation.reconcile]
  rcases Reconciliation.update_cases risks tracking ignore with
    ⟨hheed, o, os, hos, hrun⟩ | ⟨hfree, d, hrun, -, -⟩
  · obtain ⟨horphan, hfirst⟩ := h.isOrphan_of_orphans_eq_cons hos
    exact .inl ⟨hheed, o, horphan, hfirst, by rw [hrun]⟩
  · rw [h.orphans_eq_nil_iff] at hfree
    exact .inr ⟨hfree, _, by rw [hrun]⟩

/-! ## All steps -/

/-- A run of rules that look at the model only has found just what these rules find. -/
theorem Ran.flatMap_eq_risksFound {results : List (Rule × List Risk)} {c : AnalysisContext}
    (h : Ran m results c) (hrules : ∀ x ∈ results, x.1.OfModel)
    (hexecuted : results.map (·.1) = (rulesFor m registry).filter fun rule => ¬ Skips options rule.id) :
    results.flatMap (·.2) = risksFound m registry options := by
  rw [h.results_eq hrules, hexecuted, List.flatMap_map, risksFound]

/-- Rules that look at the model only and succeed on it leave three ways in which an analysis can
end. -/
theorem analyze_outcome (hkeys : m.individualCategories.KeyedBy (·.category.id))
    (htracking : Canonical m.tracking) (hof : ∀ rule ∈ rulesFor m registry, rule.OfModel)
    (hsucceed : ∀ rule ∈ rulesFor m registry, rule.Succeeds m) :
    Outcome m registry options (analyze m registry options) := by
  rcases registerIndividual_values_cases hkeys with
    ⟨id, htaken, hregister⟩ | ⟨hfree, registry', hregister⟩
  · rw [analyze, hregister]
    exact .taken htaken
  · obtain ⟨results, c, hran, hexecuted, hreport⟩ :=
      exists_ran options hregister hof fun rule hrule _ => hsucceed rule hrule
    have hrules : registry'.rules = rulesFor m registry := rules_of_registerIndividual hregister
    have hmem : ∀ x ∈ results, x.1 ∈ rulesFor m registry := fun x hx =>
      List.mem_of_mem_filter (hexecuted ▸ List.mem_map_of_mem hx)
    have hfound : c.byCategory.values.flatten.Perm (risksFound m registry options) := by
      rw [← hran.flatMap_eq_risksFound (fun x hx => hof x.1 (hmem x hx)) hexecuted]
      exact hran.risks_perm (nodup_ids_of_executed (hrules ▸ hexecuted))
    rw [hreport, report, hran.model_eq]
    rcases reconcile_cases htracking c.byCategory.values.flatten options.ignoreOrphans with
      ⟨hheed, o, horphan, hfirst, hreconcile⟩ | ⟨hignore, reconciled, hreconcile⟩
    · simp only [isOrphan_congr hfound] at horphan hfirst
      rw [hreconcile]
      exact .orphan hfree hheed horphan hfirst
    · simp only [isOrphan_congr hfound] at hignore
      rw [hreconcile]
      exact .report hfree hignore

/-! ## The built-in rules -/

/-- The built-in rules and the individual categories of an accepted model look at the model only, and
succeed on it. -/
theorem ofModel_and_succeeds_builtin (hm : m.Accepted) :
    ∀ rule ∈ rulesFor m .builtin, rule.OfModel ∧ rule.Succeeds m := by
  intro rule hrule
  rcases List.mem_append.1 hrule with hrule | hrule
  · obtain ⟨builtin, hbuiltin, rfl⟩ := Registry.mem_rules_builtin_iff.1 hrule
    exact ⟨Rule.ofModel_ofModelRule builtin, builtin.findings m, rfl, fun r hr =>
      (BuiltinRule.sound_of_mem_all hm.coherent builtin hbuiltin r hr).category⟩
  · obtain ⟨c, hc, rfl⟩ := List.mem_map.1 hrule
    exact ⟨Rule.ofModel_ofIndividual c, c.risks, rfl, fun r hr =>
      (hm.coherent.risk_ids c hc r hr).1⟩

theorem canonical_of_accepted (hm : m.Accepted) : Canonical m.tracking := by
  intro e he
  obtain ⟨-, hlower, hid⟩ := hm.coherent.tracking e.1 e.2 (Dict.get?_eq_some_iff.2 he)
  exact ⟨hlower, hid⟩

/-- With the built-in rules an analysis of an accepted model fails on the first individual category
with the id of such a rule, whatever is skipped; if there is none, on an orphan among what was found,
unless orphans are ignored; and never otherwise. -/
theorem analyze_builtin_fails_iff (hm : m.Accepted) (options : AnalysisOptions) :
    ((∃ id, analyze m .builtin options = .error (.duplicateCategory id)) ↔
        ∃ id, Taken m .builtin id) ∧
      (∀ id, analyze m .builtin options = .error (.duplicateCategory id) ↔
        FirstTaken m .builtin id) ∧
      ((∃ o, analyze m .builtin options = .error (.orphan o)) ↔
        (∀ id, ¬ Taken m .builtin id) ∧ options.ignoreOrphans = false ∧
          ∃ o, IsOrphan m.tracking (risksFound m .builtin options) o) ∧
      ((∃ r, analyze m .builtin options = .ok r) ↔
        (∀ id, ¬ Taken m .builtin id) ∧ ¬ (options.ignoreOrphans = false ∧
          ∃ o, IsOrphan m.tracking (risksFound m .builtin options) o)) ∧
      (∀ rule fault, analyze m .builtin options ≠ .error (.failed rule fault)) ∧
      ∀ rule id found, analyze m .builtin options ≠ .error (.foreignCategory rule id found) := by
  have hrules := ofModel_and_succeeds_builtin hm
  have houtcome : Outcome m .builtin options (analyze m .builtin options) :=
    analyze_outcome hm.coherent.individualCategories (canonical_of_accepted hm)
      (fun rule hrule => (hrules rule hrule).1) fun rule hrule => (hrules rule hrule).2
  generalize analyze m .builtin options = x at houtcome ⊢
  cases houtcome with
  | @taken id h =>
    have hnot (hfree : ∀ id, ¬ Taken m .builtin id) : False := hfree id h.1
    refine ⟨⟨fun _ => ⟨id, h.1⟩, fun _ => ⟨id, rfl⟩⟩, fun id' => ⟨?_, ?_⟩, ⟨nofun, ?_⟩, ⟨nofun, ?_⟩,
      nofun, nofun⟩
    · rintro ⟨⟩
      exact h
    · intro h'
      rw [h.eq h']
    · exact fun hother => (hnot hother.1).elim
    · exact fun hother => (hnot hother.1).elim
  | orphan hfree hheed h hfirst =>
    refine ⟨⟨nofun, fun ⟨id, hid⟩ => (hfree id hid).elim⟩,
      fun id => ⟨nofun, fun hid => (hfree id hid.1).elim⟩,
      ⟨fun _ => ⟨hfree, hheed, _, h⟩, fun _ => ⟨_, rfl⟩⟩, ⟨nofun, fun hother => ?_⟩, nofun, nofun⟩
    exact (hother.2 ⟨hheed, _, h⟩).elim
  | report hfree h =>
    have hnone : ¬ (options.ignoreOrphans = false ∧
        ∃ o, IsOrphan m.tracking (risksFound m .builtin options) o) := by
      rintro ⟨hheed, o, ho⟩
      rcases h with hignore | hnone
      · rw [hheed] at hignore
        cases hignore
      · exact hnone o ho
    exact ⟨⟨nofun, fun ⟨id, hid⟩ => (hfree id hid).elim⟩,
      fun id => ⟨nofun, fun hid => (hfree id hid.1).elim⟩,
      ⟨nofun, fun hother => (hnone hother.2).elim⟩, ⟨fun _ => ⟨hfree, hnone⟩, fun _ => ⟨_, rfl⟩⟩,
      nofun, nofun⟩

/-- A model that states a risk of its own and a decision about it. -/
def register : ModelInput where
  title := "Register"
  businessCriticality := "important"
  individualCategories := .ofList [("Data Leak",
    { id := "leak", function := "operations", stride := "information-disclosure"
      risks := .ofList [("Leak of orders", {})] })]
  tracking := .ofList [(" Leak ", { status := "accepted" })]

/-- The decision becomes an orphan when the category that it is about is not run. -/
theorem register_fails_without_leak :
    ∃ m, Validation.build ⟨2024, 3, 1⟩ register = .ok m ∧ m.Accepted ∧
      ∃ o, analyze m .builtin ⟨[" leak "], false⟩ = .error (.orphan o) := by
  have hchecked : (Validation.build ⟨2024, 3, 1⟩ register).toOption.map (fun m =>
      (m.individualCategories.values.any (Registry.builtin.contains ·.category.id),
        m.tracking.contains "leak",
        (risksFound m .builtin ⟨[" leak "], false⟩).any
          (Reconciliation.trackedId · = "leak"))) = some (false, true, false) := by
    decide +kernel
  obtain ⟨m, hm, hchecked⟩ := Model.exists_of_build hchecked
  obtain ⟨htaken, hrest⟩ := Prod.mk.inj hchecked
  obtain ⟨hkey, hfound⟩ := Prod.mk.inj hrest
  have haccepted : m.Accepted := .of_build hm
  have hfree : ∀ id, ¬ Taken m .builtin id := by
    rintro _ ⟨⟨c, hc, rfl⟩, hrule⟩
    exact List.any_eq_false.1 htaken c hc (contains_eq_true_iff.2 hrule)
  have horphan : IsOrphan m.tracking (risksFound m .builtin ⟨[" leak "], false⟩) (.id "leak") := by
    refine ⟨⟨hkey, by decide +kernel⟩, ?_⟩
    rintro ⟨r, hr, hid⟩
    simpa [hid] using List.any_eq_false.1 hfound r hr
  exact ⟨m, hm, haccepted,
    (analyze_builtin_fails_iff haccepted _).2.2.1.2 ⟨hfree, rfl, _, horphan⟩⟩

end Analysis

end ThreatModel
