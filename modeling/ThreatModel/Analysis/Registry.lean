import ThreatModel.Analysis.Fault
import ThreatModel.Rule.Builtin

/-!
# Registries

A rule table has the rules in the order in which they were registered and, beside them, the set of the
ids that are taken. Whether an id is taken is looked up in the set, and rules are looked up in the list.
The table is coherent if the two agree and no id is there twice (`RuleTable.Coherent`). That is so of the
empty table, and adding a rule keeps it up, be it in vain; a registry is a coherent table.
-/

namespace ThreatModel

/-- Rules in the order of their registration, and the ids that are taken. -/
structure RuleTable where
  rules : List Rule
  idSet : Dict Unit

namespace RuleTable

/-- The table without rules. -/
def empty : RuleTable := ⟨[], .empty⟩

/-- Puts an id into the set, and tells whether it was not there before. -/
def take (t : RuleTable) (id : String) : RuleTable × Bool :=
  ({ t with idSet := t.idSet.insert id () }, !t.idSet.contains id)

/-- Puts a rule at the end of the list. -/
def push (t : RuleTable) (rule : Rule) : RuleTable := { t with rules := t.rules ++ [rule] }

/-- Adds a rule, or passes it over if its id is taken. -/
def offer (t : RuleTable) (rule : Rule) : RuleTable :=
  match t.take rule.id with
  | (t, true) => t.push rule
  | (t, false) => t

/-- Adds a rule, which fails if its id is taken. -/
def register (t : RuleTable) (rule : Rule) : RuleTable × Except AnalysisFault Unit :=
  match t.take rule.id with
  | (t, true) => (t.push rule, .ok ())
  | (t, false) => (t, .error (.duplicateCategory rule.id))

/-- The table of the built-in rules. -/
def builtin : RuleTable := (BuiltinRule.all.map Rule.ofModelRule).foldl offer empty

/-- Whether an id is taken. -/
def contains (t : RuleTable) (id : String) : Bool := t.idSet.contains id

/-- The first rule with an id. -/
def get? (t : RuleTable) (id : String) : Option Rule := t.rules.find? (·.id = id)

/-- The ids of the rules in their order. -/
def ids (t : RuleTable) : List String := t.rules.map Rule.id

/-- The number of rules. -/
def size (t : RuleTable) : Nat := t.rules.length

/-! ## Adding a rule -/

variable {t : RuleTable} {rule : Rule}

/-- A rule with a new id goes to the end of the list. -/
theorem register_of_free (h : t.contains rule.id = false) :
    t.register rule = (⟨t.rules ++ [rule], t.idSet.insert rule.id ()⟩, .ok ()) := by
  have hnew : (!t.idSet.contains rule.id) = true := by simpa [contains] using h
  rw [register, take, hnew]
  rfl

/-- A rule whose id is taken leaves the table as it is, as the set has the id already. -/
theorem register_of_contains (h : t.contains rule.id = true) :
    t.register rule = (t, .error (.duplicateCategory rule.id)) := by
  have hold : (!t.idSet.contains rule.id) = false := by simpa [contains] using h
  obtain ⟨u, hu⟩ := Option.isSome_iff_exists.1 h
  rw [register, take, hold, Dict.insert_eq_self hu]

/-- Adding and registering a rule come to the same. -/
theorem offer_eq (t : RuleTable) (rule : Rule) : t.offer rule = (t.register rule).1 := by
  unfold offer register
  split <;> simp_all

theorem rules_register (t : RuleTable) (rule : Rule) :
    (t.register rule).1.rules = if t.contains rule.id then t.rules else t.rules ++ [rule] := by
  cases h : t.contains rule.id with
  | true => rw [register_of_contains h, if_pos rfl]
  | false => rw [register_of_free h, if_neg (by decide)]

theorem ids_register_of_free (h : t.contains rule.id = false) :
    (t.register rule).1.ids = t.ids ++ [rule.id] := by
  rw [ids, rules_register, h, if_neg (by decide), List.map_append, List.map_singleton, ids]

/-! ## Coherent tables -/

/-- The taken ids are those of the rules, and no two rules have the same. -/
structure Coherent (t : RuleTable) : Prop where
  contains_iff : ∀ id, t.contains id = true ↔ id ∈ t.ids
  distinct : t.ids.Nodup

theorem coherent_empty : empty.Coherent where
  contains_iff id := by simp [empty, contains, Dict.contains, ids]
  distinct := .nil

theorem Coherent.notMem_ids (h : t.Coherent) {id : String} (hfree : t.contains id = false) :
    id ∉ t.ids := by
  rw [← h.contains_iff, hfree]
  decide

theorem Coherent.register (h : t.Coherent) (rule : Rule) : (t.register rule).1.Coherent := by
  cases hid : t.contains rule.id with
  | true =>
    rw [register_of_contains hid]
    exact h
  | false =>
    refine ⟨fun id => ?_, ?_⟩
    · have hset := h.contains_iff id
      rw [contains] at hset
      rw [ids_register_of_free hid, register_of_free hid, contains, Dict.contains_insert,
        Bool.or_eq_true, decide_eq_true_eq, hset, List.mem_append, List.mem_singleton, or_comm]
    · rw [ids_register_of_free hid, List.nodup_append]
      refine ⟨h.distinct, by simp, fun a ha b hb hab => h.notMem_ids hid ?_⟩
      rw [List.mem_singleton] at hb
      exact hb ▸ hab ▸ ha

theorem Coherent.offers (h : t.Coherent) (rules : List Rule) : (rules.foldl offer t).Coherent := by
  induction rules generalizing t with
  | nil => exact h
  | cons rule rules ih =>
    rw [List.foldl_cons, offer_eq]
    exact ih (h.register rule)

end RuleTable

/-- A coherent table of rules. -/
structure Registry extends RuleTable where
  coherent : toRuleTable.Coherent

namespace Registry

/-- The registry without rules. -/
def empty : Registry := ⟨.empty, RuleTable.coherent_empty⟩

/-- The registry of all built-in rules. -/
def builtin : Registry := ⟨.builtin, RuleTable.coherent_empty.offers _⟩

/-- Adds a rule, which fails if its id is taken. -/
def register (r : Registry) (rule : Rule) : Registry × Except AnalysisFault Unit :=
  (⟨(r.toRuleTable.register rule).1, r.coherent.register rule⟩, (r.toRuleTable.register rule).2)

/-- The registry with one more rule, unless its id is taken. -/
def register? (r : Registry) (rule : Rule) : Option Registry :=
  match r.register rule with
  | (r, .ok ()) => some r
  | (_, .error _) => none

theorem rules_register (r : Registry) (rule : Rule) :
    (r.register rule).1.rules = if r.contains rule.id then r.rules else r.rules ++ [rule] :=
  r.toRuleTable.rules_register rule

theorem eq_of_toRuleTable_eq {r s : Registry} (h : r.toRuleTable = s.toRuleTable) : r = s := by
  obtain ⟨t, ht⟩ := r
  obtain ⟨u, hu⟩ := s
  obtain rfl : t = u := h
  rfl

theorem register_of_contains {r : Registry} {rule : Rule} (h : r.contains rule.id = true) :
    r.register rule = (r, .error (.duplicateCategory rule.id)) := by
  have htable := RuleTable.register_of_contains h
  exact Prod.ext (eq_of_toRuleTable_eq (congrArg Prod.fst htable)) (congrArg (·.2) htable)

theorem exists_register_of_free {r : Registry} {rule : Rule} (h : r.contains rule.id = false) :
    ∃ s, s.rules = r.rules ++ [rule] ∧ r.register rule = (s, .ok ()) := by
  have htable := RuleTable.register_of_free h
  exact ⟨(r.register rule).1, congrArg (·.1.rules) htable, Prod.ext rfl (congrArg (·.2) htable)⟩

end Registry

end ThreatModel
