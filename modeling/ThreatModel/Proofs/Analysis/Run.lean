import ThreatModel.Analysis.Basic
import ThreatModel.Proofs.Analysis.Reconciliation
import ThreatModel.Proofs.Validation.Success

/-!
# Runs of rules

An analysis runs its rules one after the other, and each can look at what those before it have left.
`Ran m results c` says that the rules in `results` were run on a model, each with the risks that it
found, and that `c` is the state in the end; what holds of every run is proved by induction on it.
The state keeps risks and categories by category id, so nothing is lost as long as ids differ, which
the registry sees to.
-/

namespace ThreatModel.Analysis

open Validation (bind_eq_ok_iff pure_eq_ok_iff)

/-! ## One rule -/

/-- The state that a rule can look at: its own tags are in it already. -/
def seenBy (c : AnalysisContext) (rule : Rule) : AnalysisContext :=
  { c with tags := addTags c.tags rule.tags }

theorem execute_eq_ok_iff {c c' : AnalysisContext} {rule : Rule} :
    execute c rule = .ok c' ↔ ∃ risks, rule.findings (seenBy c rule) = .ok risks ∧
      (∀ r ∈ risks, r.category = rule.id) ∧ record (seenBy c rule) rule risks = c' := by
  have hseen : { c with tags := addTags c.tags rule.tags } = seenBy c rule := rfl
  simp only [execute, hseen]
  cases rule.findings (seenBy c rule) with
  | error fault => simp
  | ok risks =>
    simp only [Except.ok.injEq, exists_eq_left']
    cases hfound : risks.find? (·.category ≠ rule.id) with
    | some r =>
      have hforeign : r.category ≠ rule.id := by simpa using List.find?_some hfound
      have hmem := List.mem_of_find?_eq_some hfound
      simp only [reduceCtorEq, false_iff, not_and]
      exact fun hown => absurd (hown r hmem) hforeign
    | none =>
      have hown : ∀ r ∈ risks, r.category = rule.id := by simpa using hfound
      simp only [Except.ok.injEq]
      exact ⟨fun h => ⟨hown, h⟩, fun h => h.2⟩

/-! ## Several rules -/

/-- Rules were run on a model, each with the risks that it found. -/
inductive Ran (m : Model) : List (Rule × List Risk) → AnalysisContext → Prop where
  | nil : Ran m [] (start m)
  | snoc {results : List (Rule × List Risk)} {c : AnalysisContext} {rule : Rule}
    {risks : List Risk} (h : Ran m results c) (hfound : rule.findings (seenBy c rule) = .ok risks)
    (hown : ∀ r ∈ risks, r.category = rule.id) :
    Ran m (results ++ [(rule, risks)]) (record (seenBy c rule) rule risks)

variable {m : Model} {results : List (Rule × List Risk)} {c c' : AnalysisContext}

/-- The loop over the rules runs those that are not skipped and notes the ids of the others. -/
theorem ran_of_foldlM_visit {skip skipped skipped' : List String} {rules : List Rule}
    (hran : Ran m results c) (h : rules.foldlM (visit skip) (c, skipped) = .ok (c', skipped')) :
    ∃ more, Ran m (results ++ more) c' ∧
      more.map (·.1) = rules.filter (fun r => !skip.contains r.id) ∧
        skipped' = skipped ++ (rules.map Rule.id).filter skip.contains := by
  induction rules generalizing results c skipped with
  | nil =>
    obtain ⟨rfl, rfl⟩ := Prod.mk.inj (pure_eq_ok_iff.1 h)
    exact ⟨[], by simpa using hran, rfl, by simp⟩
  | cons rule rules ih =>
    rw [List.foldlM_cons, bind_eq_ok_iff] at h
    obtain ⟨⟨c₁, skipped₁⟩, hvisit, hrest⟩ := h
    unfold visit at hvisit
    split at hvisit
    · next hskip =>
      obtain ⟨rfl, rfl⟩ := Prod.mk.inj (Except.ok.inj hvisit)
      obtain ⟨more, hmore, hrules, hskipped⟩ := ih hran hrest
      refine ⟨more, hmore, ?_, ?_⟩
      · rw [List.filter_cons_of_neg (by simpa using hskip), hrules]
      · rw [List.map_cons, List.filter_cons_of_pos hskip, hskipped, List.append_assoc]
        rfl
    · next hskip =>
      obtain ⟨_, hexecute, heq⟩ := bind_eq_ok_iff.1 hvisit
      obtain ⟨rfl, rfl⟩ := Prod.mk.inj (pure_eq_ok_iff.1 heq)
      obtain ⟨risks, hfound, hown, rfl⟩ := execute_eq_ok_iff.1 hexecute
      obtain ⟨more, hmore, hrules, hskipped⟩ := ih (hran.snoc hfound hown) hrest
      refine ⟨(rule, risks) :: more, ?_, ?_, ?_⟩
      · simpa using hmore
      · rw [List.filter_cons_of_pos (by simpa using hskip), List.map_cons, hrules]
      · rw [List.map_cons, List.filter_cons_of_neg (by simpa using hskip), hskipped]

namespace Ran

theorem model_eq (h : Ran m results c) : c.model = m := by
  induction h with
  | nil => rfl
  | snoc _ _ _ ih => exact ih

theorem own (h : Ran m results c) : ∀ x ∈ results, ∀ r ∈ x.2, r.category = x.1.id := by
  induction h with
  | nil => simp
  | snoc _ _ hown ih =>
    intro x hx
    rcases List.mem_append.1 hx with hx | hx
    · exact ih x hx
    · rw [List.mem_singleton] at hx
      subst hx
      exact hown

end Ran

/-! ## Tags -/

theorem contains_addTags {d : Dict Unit} {tags : List String} {tag : String} :
    (addTags d tags).contains tag = true ↔ d.contains tag = true ∨ tag ∈ tags.map Text.fold := by
  have hall : addTags d tags = d.insertAll (tags.map fun tag => (Text.fold tag, ())) := by
    rw [addTags, Dict.insertAll, List.foldl_map]
  rw [hall, Dict.contains_insertAll, List.map_map]
  rfl

/-- The tags are those of the model and of the rules that were run. -/
theorem Ran.contains_tags (h : Ran m results c) (tag : String) :
    c.tags.contains tag = true ↔
      tag ∈ (m.tagsAvailable ++ results.flatMap (·.1.tags)).map Text.fold := by
  induction h with
  | nil =>
    rw [start, contains_addTags]
    simp
  | snoc _ _ _ ih =>
    rw [record, seenBy, contains_addTags, ih]
    simp only [List.flatMap_append, List.map_append, List.mem_append, List.flatMap_singleton,
      or_assoc]

/-! ## Categories and risks -/

theorem Ran.contains_categories (h : Ran m results c) (id : String) :
    c.categories.contains id = true ↔ id ∈ results.map (·.1.id) := by
  induction h with
  | nil => simp [start]
  | snoc _ _ _ ih =>
    rw [record, Dict.contains_insert, Bool.or_eq_true, decide_eq_true_eq]
    simp only [seenBy, ih, List.map_append, List.map_singleton, List.mem_append, List.mem_singleton]
    exact or_comm

/-- Only rules that were run have risks. -/
theorem Ran.contains_byCategory (h : Ran m results c) {id : String}
    (hid : c.byCategory.contains id = true) : id ∈ results.map (·.1.id) := by
  induction h with
  | nil => simp [start] at hid
  | @snoc results c rule risks _ _ _ ih =>
    rw [List.map_append, List.mem_append, List.map_singleton, List.mem_singleton]
    unfold record at hid
    split at hid
    · exact .inl (ih hid)
    · rw [Dict.contains_insert, Bool.or_eq_true, decide_eq_true_eq] at hid
      exact hid.symm.imp_left ih

/-- With different ids every category is kept. -/
theorem Ran.categories_perm (h : Ran m results c) (hids : (results.map (·.1.id)).Nodup) :
    c.categories.values.Perm (results.map (·.1.category)) := by
  induction h with
  | nil => exact .refl _
  | @snoc results c rule risks h _ _ ih =>
    rw [List.map_append, List.map_singleton, ← List.concat_eq_append, List.nodup_concat] at hids
    have hnew : c.categories.contains rule.id = false := by
      rw [← Bool.not_eq_true, h.contains_categories]
      exact hids.1
    have hinsert := (Dict.perm_entries_insert rule.category hnew).map (·.2)
    rw [List.map_append]
    exact hinsert.trans (((ih hids.2).cons _).trans (List.perm_append_singleton ..).symm)

/-- With different ids every risk is kept. -/
theorem Ran.risks_perm (h : Ran m results c) (hids : (results.map (·.1.id)).Nodup) :
    c.byCategory.values.flatten.Perm (results.flatMap (·.2)) := by
  induction h with
  | nil => exact .refl _
  | @snoc results c rule risks h _ _ ih =>
    rw [List.map_append, List.map_singleton, ← List.concat_eq_append, List.nodup_concat] at hids
    rw [List.flatMap_append, List.flatMap_singleton, record]
    by_cases hempty : risks = []
    · -- a rule that has found nothing leaves no entry
      subst hempty
      simpa [seenBy] using ih hids.2
    · have hnew : c.byCategory.contains rule.id = false := by
        rw [← Bool.not_eq_true]
        exact fun hid => hids.1 (h.contains_byCategory hid)
      have hinsert := ((Dict.perm_entries_insert risks hnew).map (·.2)).flatten
      rw [if_neg (by simpa using hempty)]
      exact hinsert.trans (((ih hids.2).append_left risks).trans List.perm_append_comm)

/-! ## Registered rules -/

/-- The rules of a registry, followed by those that stand for individual categories. -/
theorem rules_of_registerIndividual {r r' : Registry} {categories : List IndividualCategory}
    (h : registerIndividual r categories = .ok r') :
    r'.rules = r.rules ++ categories.map .ofIndividual := by
  induction categories generalizing r with
  | nil =>
    cases h
    simp
  | cons c categories ih =>
    unfold registerIndividual at h
    cases hc : r.contains (Rule.ofIndividual c).id with
    | true =>
      rw [Registry.register_of_contains hc] at h
      cases h
    | false =>
      obtain ⟨r₁, hrules, hr₁⟩ := Registry.exists_register_of_free hc
      rw [hr₁] at h
      rw [ih h, hrules, List.append_assoc]
      rfl

end ThreatModel.Analysis
