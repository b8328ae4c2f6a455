import Mathlib.Data.Finset.Card
import Mathlib.Data.List.Infix
import Mathlib.Data.List.Nodup
import ThreatModel.Analysis.Registry
import ThreatModel.Proofs.Dict

/-!
# Sequences of registrations

A call to register a rule adds it to the list and its id to the set, or fails. What a table holds after
any calls is told by all rules that it was ever offered (`RuleTable.Keeps`): of those with one id it
keeps the first, in the order in which the ids came up, and the set has just these ids. One call keeps
this up (`Keeps.register`), and so does a sequence of calls that may succeed or fail (`Keeps.run`). The
table of the built-in rules, which is filled in a loop of its own, is what comes of such a sequence
(`builtin_eq_run`), and so is every coherent table (`coherent_iff_exists_run`).
-/

namespace ThreatModel

namespace RuleTable

variable {t : RuleTable} {rule : Rule} {offered calls : List Rule} {id : String}

/-- The table after calls to register rules, some of which may fail. -/
def run (t : RuleTable) (calls : List Rule) : RuleTable :=
  calls.foldl (fun t rule => (t.register rule).1) t

theorem isSome_find?_iff {rules : List Rule} :
    (rules.find? (·.id = id)).isSome = true ↔ id ∈ rules.map Rule.id := by
  rw [List.find?_isSome, List.mem_map]
  simp only [decide_eq_true_eq]

theorem isSome_get?_iff : (t.get? id).isSome = true ↔ id ∈ t.ids := isSome_find?_iff

/-! ## One call -/

/-- A call leaves the table as it is just if the id is taken. -/
theorem register_fst_eq_iff : (t.register rule).1 = t ↔ t.contains rule.id = true := by
  cases h : t.contains rule.id with
  | true => simp only [register_of_contains h]
  | false =>
    rw [register_of_free h]
    refine iff_of_false (fun heq => ?_) (by decide)
    exact List.cons_ne_nil _ _ (List.self_eq_append_right.1 (congrArg rules heq).symm)

theorem register_snd_eq_error_iff {f : AnalysisFault} : (t.register rule).2 = .error f ↔
    t.contains rule.id = true ∧ f = .duplicateCategory rule.id := by
  cases h : t.contains rule.id with
  | true => rw [register_of_contains h, and_iff_right rfl, Except.error.injEq, eq_comm]
  | false => simp [register_of_free h]

/-! ## What a table keeps -/

/-- A coherent table that keeps the first rule for each id that it was offered, in the order of the
offers. -/
structure Keeps (t : RuleTable) (offered : List Rule) : Prop extends Coherent t where
  first : ∀ id, t.get? id = offered.find? (·.id = id)
  inOrder : t.ids.Pairwise fun i j => (offered.map Rule.id).idxOf i < (offered.map Rule.id).idxOf j

/-- The ids in the list are those that were ever offered, be it in vain. -/
theorem Keeps.mem_ids_iff (h : t.Keeps offered) : id ∈ t.ids ↔ id ∈ offered.map Rule.id := by
  rw [← isSome_get?_iff, h.first, isSome_find?_iff]

theorem Coherent.keeps_rules (h : t.Coherent) : t.Keeps t.rules where
  toCoherent := h
  first _ := rfl
  inOrder := by
    refine List.pairwise_iff_getElem.2 fun i j hi hj hij => ?_
    have hdistinct : (t.rules.map Rule.id).Nodup := h.distinct
    exact (hdistinct.idxOf_getElem i hi).trans_lt
      (hij.trans_eq (hdistinct.idxOf_getElem j hj).symm)

theorem Keeps.register (h : t.Keeps offered) (rule : Rule) :
    (t.register rule).1.Keeps (offered ++ [rule]) := by
  -- What was offered before stays where it was.
  have hidx {id : String} (hid : id ∈ t.ids) :
      ((offered ++ [rule]).map Rule.id).idxOf id = (offered.map Rule.id).idxOf id := by
    rw [List.map_append, List.idxOf_append_of_mem (h.mem_ids_iff.1 hid)]
  have horder : t.ids.Pairwise fun i j => ((offered ++ [rule]).map Rule.id).idxOf i <
      ((offered ++ [rule]).map Rule.id).idxOf j :=
    h.inOrder.imp_of_mem fun hi hj hlt => by rwa [hidx hi, hidx hj]
  have hcoherent := h.toCoherent.register rule
  cases htaken : t.contains rule.id with
  | true =>
    have hmem : rule.id ∈ t.ids := (h.contains_iff _).1 htaken
    rw [register_of_contains htaken] at hcoherent ⊢
    refine ⟨hcoherent, fun id => ?_, horder⟩
    rw [List.find?_append, ← h.first]
    by_cases hid : rule.id = id
    · -- the first rule with this id has come before
      obtain ⟨found, hfound⟩ := Option.isSome_iff_exists.1 (isSome_get?_iff.2 (hid ▸ hmem))
      rw [hfound, Option.some_or]
    · rw [List.find?_cons_of_neg (by simpa using hid), List.find?_nil, Option.or_none]
  | false =>
    have hids := ids_register_of_free htaken
    rw [register_of_free htaken] at hcoherent hids ⊢
    refine ⟨hcoherent, fun id => ?_, ?_⟩
    · rw [List.find?_append, ← h.first]
      exact List.find?_append
    · rw [hids, List.pairwise_append]
      refine ⟨horder, List.pairwise_singleton .., fun i hi j hj => ?_⟩
      -- an id that comes up for the first time stands behind all others
      rw [List.mem_singleton] at hj
      subst hj
      rw [hidx hi, List.map_append, List.map_singleton,
        List.idxOf_append_of_notMem fun hoffered =>
          h.notMem_ids htaken (h.mem_ids_iff.2 hoffered)]
      exact (List.idxOf_lt_length_iff.2 (h.mem_ids_iff.1 hi)).trans_le (Nat.le_add_right ..)

theorem Keeps.size_eq (h : t.Keeps offered) : t.size = (offered.map Rule.id).toFinset.card := by
  have hsame : (offered.map Rule.id).toFinset = t.ids.toFinset := by
    ext id
    rw [List.mem_toFinset, List.mem_toFinset, h.mem_ids_iff]
  rw [hsame, List.toFinset_card_of_nodup h.distinct, ids, List.length_map, size]

/-- The set has as many ids as the list has rules. -/
theorem Coherent.size_idSet (h : t.Coherent) : t.idSet.size = t.size := by
  have hperm : t.idSet.keys.Perm t.ids := by
    refine (List.perm_ext_iff_of_nodup (Dict.nodup_keys _) h.distinct).2 fun id => ?_
    rw [Dict.mem_keys_iff, ← h.contains_iff]
    rfl
  have hlength := hperm.length_eq
  rwa [Dict.keys, ids, List.length_map, List.length_map] at hlength

/-- Coherent tables with the same list have the same set. -/
theorem Coherent.eq_of_rules_eq {s : RuleTable} (ht : t.Coherent) (hs : s.Coherent)
    (h : t.rules = s.rules) : t = s := by
  have hset : t.idSet = s.idSet := by
    refine Dict.ext_get? fun id => ?_
    have hboth : (t.idSet.get? id).isSome = true ↔ (s.idSet.get? id).isSome = true := by
      refine (ht.contains_iff id).trans ?_
      rw [ids, h]
      exact (hs.contains_iff id).symm
    cases hl : t.idSet.get? id <;> cases hr : s.idSet.get? id <;> simp_all
  cases t
  cases s
  cases h
  cases hset
  rfl

/-! ## Sequences of calls -/

theorem run_concat (t : RuleTable) (calls : List Rule) (rule : Rule) :
    t.run (calls ++ [rule]) = ((t.run calls).register rule).1 := by
  rw [run, List.foldl_append]
  rfl

theorem Keeps.run (h : t.Keeps offered) (calls : List Rule) :
    (t.run calls).Keeps (offered ++ calls) := by
  induction calls using List.reverseRecOn with
  | nil =>
    rw [List.append_nil]
    exact h
  | append_singleton calls rule ih =>
    rw [run_concat, ← List.append_assoc]
    exact ih.register rule

/-- What is registered stands behind what was there, in the order of the calls. -/
theorem exists_rules_run_eq (t : RuleTable) (calls : List Rule) :
    ∃ accepted, accepted.Sublist calls ∧ (t.run calls).rules = t.rules ++ accepted := by
  induction calls using List.reverseRecOn with
  | nil => exact ⟨[], List.Sublist.refl _, (List.append_nil _).symm⟩
  | append_singleton calls rule ih =>
    obtain ⟨accepted, hsub, hrules⟩ := ih
    rw [run_concat, rules_register, hrules]
    split
    · exact ⟨accepted, hsub.trans (List.sublist_append_left ..), rfl⟩
    · exact ⟨accepted ++ [rule], hsub.append (List.Sublist.refl _), List.append_assoc ..⟩

/-- Rules with new and distinct ids are all registered. -/
theorem Coherent.rules_run_of_nodup (h : t.Coherent)
    (hnodup : ((t.rules ++ calls).map Rule.id).Nodup) :
    (t.run calls).rules = t.rules ++ calls := by
  induction calls using List.reverseRecOn with
  | nil => exact (List.append_nil _).symm
  | append_singleton calls rule ih =>
    rw [← List.append_assoc, List.map_append, List.map_singleton, ← List.concat_eq_append,
      List.nodup_concat] at hnodup
    have hrules := ih hnodup.2
    rw [run_concat, rules_register, if_neg, hrules, List.append_assoc]
    rw [(h.keeps_rules.run calls).contains_iff, ids, hrules]
    exact hnodup.1

/-- Coherent tables are what comes of registering rules one after the other. -/
theorem coherent_iff_exists_run : t.Coherent ↔ ∃ calls, t = empty.run calls := by
  constructor
  · intro h
    have hnodup : ((empty.rules ++ t.rules).map Rule.id).Nodup := h.distinct
    exact ⟨t.rules, h.eq_of_rules_eq (coherent_empty.keeps_rules.run _).toCoherent
      (coherent_empty.rules_run_of_nodup hnodup).symm⟩
  · rintro ⟨calls, rfl⟩
    exact (coherent_empty.keeps_rules.run calls).toCoherent

/-! ## The built-in rules -/

/-- The loop over the built-in rules does what calls to register them would do. -/
theorem builtin_eq_run : builtin = empty.run (BuiltinRule.all.map .ofModelRule) := by
  rw [builtin, run]
  congr 1
  funext t rule
  exact offer_eq t rule

/-- The built-in rules have different ids, so none of them is passed over. -/
theorem rules_builtin : builtin.rules = BuiltinRule.all.map .ofModelRule := by
  rw [builtin_eq_run]
  refine coherent_empty.rules_run_of_nodup ?_
  decide +kernel

/-! ## What a table tells after any calls -/

/-- What a table tells that began with some rules and took calls to register more: all questions about
an id agree, and the answers are about the first rule that was ever offered under it. -/
structure Records (t : RuleTable) (first calls : List Rule) : Prop where
  distinct : t.ids.Nodup
  contains_iff_get? : ∀ id, t.contains id = true ↔ (t.get? id).isSome = true
  contains_iff_category : ∀ id, t.contains id = true ↔ id ∈ t.rules.map (·.category.id)
  get?_eq : ∀ id, t.get? id = (first ++ calls).find? (·.id = id)
  /-- There are as many rules as different ids were offered. -/
  size_eq : t.size = ((first ++ calls).map Rule.id).toFinset.card
  size_idSet : t.idSet.size = t.size
  /-- The rules at the beginning stand first, and those that were taken follow in the order of the
  calls. -/
  rules_eq : ∃ accepted, accepted.Sublist calls ∧ t.rules = first ++ accepted
  inOrder : t.ids.Pairwise fun i j =>
    ((first ++ calls).map Rule.id).idxOf i < ((first ++ calls).map Rule.id).idxOf j
  /-- The next call fails exactly if the id is there, -/
  register_error_iff : ∀ rule f, (t.register rule).2 = .error f ↔
    t.contains rule.id = true ∧ f = .duplicateCategory rule.id
  /-- and just then it leaves both the list and the set as they are. -/
  register_unchanged_iff : ∀ rule, (t.register rule).1 = t ↔ t.contains rule.id = true

theorem Coherent.records_run (h : t.Coherent) (calls : List Rule) :
    (t.run calls).Records t.rules calls := by
  have hkeeps := h.keeps_rules.run calls
  exact {
    distinct := hkeeps.distinct
    contains_iff_get? id := by rw [hkeeps.contains_iff, isSome_get?_iff]
    contains_iff_category := hkeeps.contains_iff
    get?_eq := hkeeps.first
    size_eq := hkeeps.size_eq
    size_idSet := hkeeps.size_idSet
    rules_eq := exists_rules_run_eq t calls
    inOrder := hkeeps.inOrder
    register_error_iff _ _ := register_snd_eq_error_iff
    register_unchanged_iff _ := register_fst_eq_iff }

/-- The empty table and that of the built-in rules tell the truth about what they were offered after
any calls to register rules, some of which may have failed. Tables whose list and set agree are those
that come of such calls. -/
theorem run_records (calls : List Rule) :
    (empty.run calls).Records [] calls ∧
      (builtin.run calls).Records (BuiltinRule.all.map .ofModelRule) calls ∧
      ∀ t : RuleTable, t.Coherent ↔ ∃ calls, t = empty.run calls := by
  refine ⟨coherent_empty.records_run calls, ?_, fun t => coherent_iff_exists_run⟩
  rw [← rules_builtin]
  exact (coherent_empty.offers _).records_run calls

end RuleTable

theorem Registry.rules_builtin : Registry.builtin.rules = BuiltinRule.all.map .ofModelRule :=
  RuleTable.rules_builtin

theorem Registry.mem_rules_builtin_iff {rule : Rule} :
    rule ∈ Registry.builtin.rules ↔ ∃ r ∈ BuiltinRule.all, Rule.ofModelRule r = rule := by
  rw [rules_builtin, List.mem_map]

end ThreatModel
