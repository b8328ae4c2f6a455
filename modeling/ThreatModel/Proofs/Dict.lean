import Mathlib.Algebra.GroupWithZero.Nat
import Mathlib.Data.List.Nodup
import Mathlib.Data.List.Pairwise
import Mathlib.Data.List.Perm.Basic
import ThreatModel.Dict

/-!
# Dictionaries as collections

A dictionary is filled one entry after the other. As long as every key is new, filling it loses
nothing and adds nothing: its entries are the given ones in another order (`perm_entries_ofList`).
This is how the elements of a model, the results of rules and the groups of risks are counted
below. Where keys repeat, the last value of a key stays (`get?_ofList`). Leaving entries out leaves the
others in their order (`exists_values_erase`, `restrict`).
-/

namespace ThreatModel.Dict

variable {α β : Type}

/-! ## Keys and values -/

theorem contains_eq_true_iff {d : Dict α} {k : String} :
    d.contains k = true ↔ ∃ v, d.get? k = some v := by
  rw [contains, Option.isSome_iff_exists]

theorem contains_eq_false_iff {d : Dict α} {k : String} :
    d.contains k = false ↔ d.get? k = none := by
  rw [contains, ← Bool.not_eq_true, Option.isSome_iff_ne_none]
  simp

@[simp] theorem contains_empty (k : String) : (empty : Dict α).contains k = false := rfl

theorem mem_values_of_get? {d : Dict α} {k : String} {v : α} (h : d.get? k = some v) :
    v ∈ d.values := mem_values_iff.2 ⟨k, h⟩

theorem mem_values_of_mem_entries {d : Dict α} {e : String × α} (h : e ∈ d.entries) :
    e.2 ∈ d.values := List.mem_map_of_mem h

theorem map_values (f : α → β) (d : Dict α) : d.values.map f = d.entries.map fun e => f e.2 :=
  List.map_map

theorem map_keys (f : String → β) (d : Dict α) : d.keys.map f = d.entries.map fun e => f e.1 :=
  List.map_map

theorem values_map (f : α → β) (d : Dict α) : (d.map f).values = d.values.map f := by
  rw [map, mapWithKey, values, values, List.map_map, List.map_map]
  rfl

theorem pairwise_keys (d : Dict α) : d.keys.Pairwise (· < ·) :=
  List.pairwise_map.2 d.sorted

theorem nodup_keys (d : Dict α) : d.keys.Nodup := by
  refine List.Pairwise.imp ?_ d.pairwise_keys
  intro a b hlt heq
  exact String.lt_irrefl b (heq ▸ hlt)

/-! ## Changing one value -/

theorem get?_modify (d : Dict α) (k k' : String) (f : α → α) :
    (d.modify k f).get? k' = (d.get? k').map fun v => if k' = k then f v else v :=
  get?_mapWithKey _ d k'

@[simp] theorem keys_modify (d : Dict α) (k : String) (f : α → α) :
    (d.modify k f).keys = d.keys := by
  rw [modify, mapWithKey, keys, List.map_map]
  rfl

theorem get?_push (d : Dict (List α)) (k k' : String) (v : α) :
    (d.push k v).get? k' =
      if k' = k then some ((d.get? k).getD [] ++ [v]) else d.get? k' :=
  get?_insert d k k' _

theorem get?_insertNew (d : Dict α) (k k' : String) (v : α) :
    (d.insertNew k v).get? k' = (d.get? k').or (if k' = k then some v else none) := by
  unfold insertNew
  split
  · next hold =>
    obtain ⟨w, hw⟩ := contains_eq_true_iff.1 hold
    by_cases h : k' = k
    · simp [h, hw]
    · simp [h]
  · next hnew =>
    have hnone : d.get? k = none := contains_eq_false_iff.1 (by simpa using hnew)
    by_cases h : k' = k
    · simp [h, hnone]
    · simp [h]

/-- The entry of a key stands among entries with other keys. -/
theorem exists_entries_eq {d : Dict α} {k : String} {v : α} (h : d.get? k = some v) :
    ∃ before after, d.entries = before ++ (k, v) :: after ∧ ∀ e ∈ before ++ after, e.1 ≠ k := by
  obtain ⟨before, after, hsplit⟩ := List.append_of_mem (get?_eq_some_iff.1 h)
  have hkeys := d.nodup_keys
  rw [keys, hsplit, List.map_append, List.map_cons, List.nodup_middle, List.nodup_cons,
    ← List.map_append, List.mem_map] at hkeys
  exact ⟨before, after, hsplit, fun e he heq => hkeys.1 ⟨e, he, heq⟩⟩

/-- A change that adds one to the weight of a value adds one to the weight of all values. -/
theorem sum_values_modify {d : Dict α} {k : String} {v : α} {f : α → α} {g : α → Nat}
    (hv : d.get? k = some v) (hg : g (f v) = g v + 1) :
    ((d.modify k f).values.map g).sum = (d.values.map g).sum + 1 := by
  obtain ⟨before, after, hsplit, hothers⟩ := exists_entries_eq hv
  have hother (l : List (String × α)) (hl : ∀ e ∈ l, e ∈ before ++ after) :
      (l.map fun e => (e.1, if e.1 = k then f e.2 else e.2)) = l := by
    refine (List.map_congr_left fun e he => ?_).trans (List.map_id l)
    simp [hothers e (hl e he)]
  simp only [modify, mapWithKey, values, hsplit, List.map_append, List.map_cons,
    hother before fun e he => List.mem_append_left _ he,
    hother after fun e he => List.mem_append_right _ he, if_true, hg, List.sum_append,
    List.sum_cons]
  omega

/-! ## Filling a dictionary -/

/-- A new key adds one entry and keeps all others. -/
theorem put_perm {k : String} {v : α} {l : List (String × α)} (h : find k l = none) :
    (put k v l).Perm ((k, v) :: l) := by
  induction l with
  | nil => exact .refl _
  | cons e l ih =>
    obtain ⟨k', v'⟩ := e
    have hne : k ≠ k' := by
      rintro rfl
      simp [find] at h
    rw [find, if_neg hne] at h
    simp only [put, if_neg hne]
    split
    · exact .refl _
    · exact ((ih h).cons _).trans (.swap ..)

theorem perm_entries_insert {d : Dict α} {k : String} (v : α) (h : d.contains k = false) :
    (d.insert k v).entries.Perm ((k, v) :: d.entries) :=
  put_perm (contains_eq_false_iff.1 h)

/-- A new key takes its place among the others and leaves them in their order. -/
theorem exists_values_insert {d : Dict α} {k : String} (v : α) (h : d.contains k = false) :
    ∃ before after, d.values = before ++ after ∧ (d.insert k v).values = before ++ v :: after := by
  have hput (l : List (String × α)) (hnone : find k l = none) :
      ∃ before after, l = before ++ after ∧ put k v l = before ++ (k, v) :: after := by
    induction l with
    | nil => exact ⟨[], [], rfl, rfl⟩
    | cons e l ih =>
      obtain ⟨k', w⟩ := e
      by_cases hk : k = k'
      · simp [find, hk] at hnone
      · by_cases hlt : k < k'
        · exact ⟨[], (k', w) :: l, rfl, by simp [put, hlt]⟩
        · obtain ⟨before, after, hl, heq⟩ := ih (by simpa [find, hk] using hnone)
          exact ⟨(k', w) :: before, after, by rw [hl]; rfl, by simp [put, hlt, hk, heq]⟩
  obtain ⟨before, after, hl, heq⟩ := hput d.entries (contains_eq_false_iff.1 h)
  exact ⟨before.map (·.2), after.map (·.2), by simp [values, hl], by simp [values, insert, heq]⟩

/-- Sets the keys of a list in a dictionary one after the other. -/
def insertAll (d : Dict α) (l : List (String × α)) : Dict α :=
  l.foldl (fun d e => d.insert e.1 e.2) d

theorem ofList_eq_insertAll (l : List (String × α)) : ofList l = insertAll empty l := rfl

theorem insertAll_cons (d : Dict α) (e : String × α) (l : List (String × α)) :
    d.insertAll (e :: l) = (d.insert e.1 e.2).insertAll l := rfl

/-- The last value of a key stays, and keys that do not occur keep theirs. -/
theorem get?_insertAll (d : Dict α) (l : List (String × α)) (k : String) :
    (d.insertAll l).get? k = ((l.reverse.find? (·.1 = k)).map (·.2)).or (d.get? k) := by
  induction l generalizing d with
  | nil => rfl
  | cons e l ih =>
    rw [insertAll_cons, ih, get?_insert, List.reverse_cons, List.find?_append]
    cases l.reverse.find? (·.1 = k) with
    | some x => simp
    | none =>
      by_cases h : k = e.1
      · simp [h]
      · simp [h, Ne.symm h]

theorem get?_ofList (l : List (String × α)) (k : String) :
    (ofList l).get? k = (l.reverse.find? (·.1 = k)).map (·.2) := by
  rw [ofList_eq_insertAll, get?_insertAll, get?_empty, Option.or_none]

theorem contains_insertAll (d : Dict α) (l : List (String × α)) (k : String) :
    (d.insertAll l).contains k = true ↔ d.contains k = true ∨ k ∈ l.map (·.1) := by
  induction l generalizing d with
  | nil => simp [insertAll]
  | cons e l ih =>
    rw [insertAll_cons, ih, contains_insert, List.map_cons, List.mem_cons, Bool.or_eq_true,
      decide_eq_true_eq]
    tauto

theorem contains_ofList (l : List (String × α)) (k : String) :
    (ofList l).contains k = true ↔ k ∈ l.map (·.1) := by
  rw [ofList_eq_insertAll, contains_insertAll]
  simp

/-- With new and distinct keys nothing is lost. -/
theorem perm_entries_insertAll {d : Dict α} {l : List (String × α)} (hl : (l.map (·.1)).Nodup)
    (hd : ∀ e ∈ l, d.contains e.1 = false) : (d.insertAll l).entries.Perm (d.entries ++ l) := by
  induction l generalizing d with
  | nil => simp [insertAll]
  | cons e l ih =>
    rw [List.map_cons, List.nodup_cons] at hl
    have hfresh : ∀ x ∈ l, (d.insert e.1 e.2).contains x.1 = false := by
      intro x hx
      have hne : x.1 ≠ e.1 := fun heq => hl.1 (heq ▸ List.mem_map_of_mem hx)
      simp [contains_insert, hne, hd x (List.mem_cons_of_mem _ hx)]
    have hrest : (insertAll (d.insert e.1 e.2) l).entries.Perm ((d.insert e.1 e.2).entries ++ l) :=
      ih hl.2 hfresh
    have hone : ((d.insert e.1 e.2).entries ++ l).Perm (e :: d.entries ++ l) :=
      (perm_entries_insert e.2 (hd e (List.mem_cons_self ..))).append_right l
    exact hrest.trans (hone.trans List.perm_middle.symm)

theorem perm_entries_ofList {l : List (String × α)} (hl : (l.map (·.1)).Nodup) :
    (ofList l).entries.Perm l :=
  perm_entries_insertAll hl fun _ _ => rfl

/-- A dictionary is the one with its entries. -/
theorem ofList_entries (d : Dict α) : ofList d.entries = d := by
  refine ext_get? fun k => Option.ext fun v => ?_
  rw [get?_eq_some_iff, get?_eq_some_iff]
  exact (perm_entries_ofList d.nodup_keys).mem_iff

theorem mem_of_mem_ofList {l : List (String × α)} {e : String × α} (h : e ∈ (ofList l).entries) :
    e ∈ l := by
  rw [← Prod.eta e, ← get?_eq_some_iff, get?_ofList, Option.map_eq_some_iff] at h
  obtain ⟨x, hx, hvalue⟩ := h
  have hkey : x.1 = e.1 := by simpa using List.find?_some hx
  rw [← Prod.ext hkey hvalue]
  exact List.mem_reverse.1 (List.mem_of_find?_eq_some hx)

/-! ## Leaving out entries -/

/-- Removing a key takes one value out and leaves the others in their order. -/
theorem exists_values_erase {d : Dict α} {k : String} {v : α} (h : d.get? k = some v) :
    ∃ before after, d.values = before ++ v :: after ∧ (d.erase k).values = before ++ after := by
  obtain ⟨before, after, hsplit, hothers⟩ := exists_entries_eq h
  have hentries : (d.erase k).entries = before ++ after := by
    show d.entries.filter (·.1 ≠ k) = _
    rw [hsplit, List.filter_append, List.filter_cons_of_neg (by simp), ← List.filter_append,
      List.filter_eq_self]
    simpa using hothers
  exact ⟨before.map (·.2), after.map (·.2), by simp [values, hsplit], by simp [values, hentries]⟩

/-- The entries whose keys are wanted. -/
def restrict (d : Dict α) (p : String → Bool) : Dict α :=
  ⟨d.entries.filter (p ·.1), d.sorted.sublist List.filter_sublist⟩

theorem get?_restrict (d : Dict α) (p : String → Bool) (k : String) :
    (d.restrict p).get? k = if p k then d.get? k else none := by
  refine Option.ext fun v => ?_
  rw [get?_eq_some_iff, restrict, List.mem_filter, ← get?_eq_some_iff]
  cases hp : p k <;> simp

/-- Restricting a dictionary restricts the values, if these know their keys. -/
theorem values_restrict {d : Dict α} {p : String → Bool} {q : α → Bool}
    (h : ∀ e ∈ d.entries, q e.2 = p e.1) : (d.restrict p).values = d.values.filter q := by
  rw [values, values, List.filter_map, restrict]
  exact congrArg _ (List.filter_congr fun e he => (h e he).symm)

theorem ofList_filter (l : List (String × α)) (p : String → Bool) :
    ofList (l.filter (p ·.1)) = (ofList l).restrict p := by
  refine ext_get? fun k => ?_
  rw [get?_restrict, get?_ofList, get?_ofList, ← List.filter_reverse, List.find?_filter]
  cases hp : p k with
  | true =>
    have hsame : (fun e : String × α => decide (p e.1 = true ∧ decide (e.1 = k) = true)) =
        fun e => decide (e.1 = k) := by
      funext e
      by_cases hk : e.1 = k <;> simp [hk, hp]
    rw [hsame, if_pos rfl]
  | false =>
    rw [if_neg Bool.false_ne_true, List.find?_eq_none.2 fun e _ => ?_, Option.map_none]
    by_cases hk : e.1 = k <;> simp [hk, hp]

end ThreatModel.Dict
