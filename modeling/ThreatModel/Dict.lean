/-!
# Dictionaries

Collections of a model are keyed by text and listed in the order of their keys, which is the order of
code points. A dictionary is the list of its entries with the order as an invariant, so two
dictionaries with the same lookups are equal (`Dict.ext_get?`).
-/

namespace ThreatModel

/-- Entries in strictly increasing order of their keys. -/
structure Dict (α : Type) where
  entries : List (String × α)
  sorted : entries.Pairwise (fun a b => a.1 < b.1) := by simp

namespace Dict

variable {α β : Type}

/-! ## Operations on sorted entries -/

/-- The value at the first entry with a key. -/
def find (k : String) : List (String × α) → Option α
  | [] => none
  | (k', v) :: rest => if k = k' then some v else find k rest

/-- Sets the value of a key in sorted entries. -/
def put (k : String) (v : α) : List (String × α) → List (String × α)
  | [] => [(k, v)]
  | (k', v') :: rest =>
    if k < k' then (k, v) :: (k', v') :: rest
    else if k = k' then (k, v) :: rest
    else (k', v') :: put k v rest

theorem mem_put {k : String} {v : α} {l : List (String × α)} {e : String × α}
    (h : e ∈ put k v l) : e = (k, v) ∨ e ∈ l := by
  induction l with
  | nil => simpa [put] using h
  | cons e' l ih =>
    obtain ⟨k', v'⟩ := e'
    simp only [put] at h
    split at h
    · simpa using h
    · split at h
      · rcases List.mem_cons.1 h with h | h
        · exact .inl h
        · exact .inr (List.mem_cons_of_mem _ h)
      · rcases List.mem_cons.1 h with h | h
        · exact .inr (by simp [h])
        · exact (ih h).imp id (List.mem_cons_of_mem _)

theorem pairwise_put {k : String} {v : α} {l : List (String × α)}
    (h : l.Pairwise (fun a b => a.1 < b.1)) : (put k v l).Pairwise (fun a b => a.1 < b.1) := by
  induction l with
  | nil => simp [put]
  | cons e l ih =>
    obtain ⟨k', v'⟩ := e
    rw [List.pairwise_cons] at h
    simp only [put]
    split
    · next hlt =>
      refine List.pairwise_cons.2 ⟨fun x hx => ?_, List.pairwise_cons.2 h⟩
      rcases List.mem_cons.1 hx with rfl | hx
      · exact hlt
      · exact String.lt_trans hlt (h.1 x hx)
    · split
      · next _ heq => exact List.pairwise_cons.2 ⟨fun x hx => heq ▸ h.1 x hx, h.2⟩
      · next hnlt hne =>
        refine List.pairwise_cons.2 ⟨fun x hx => ?_, ih h.2⟩
        rcases mem_put hx with rfl | hx
        · exact String.not_le.1 fun hle => hne (String.le_antisymm hle (String.not_lt.1 hnlt))
        · exact h.1 x hx

theorem find_put {k : String} {v : α} {l : List (String × α)} (k' : String) :
    find k' (put k v l) = if k' = k then some v else find k' l := by
  induction l with
  | nil => simp [put, find]
  | cons e l ih =>
    obtain ⟨k₁, v₁⟩ := e
    simp only [put]
    split
    · rfl
    · split
      · next _ heq => subst heq; by_cases hk : k' = k <;> simp [find, hk]
      · next _ hne =>
        by_cases hk : k' = k₁
        · have hk' : k' ≠ k := fun h => hne (h ▸ hk)
          rw [find, if_pos hk, find, if_pos hk, if_neg hk']
        · rw [find, if_neg hk, ih, find, if_neg hk]

theorem find_eq_none_of_lt {k : String} {l : List (String × α)} (h : ∀ e ∈ l, k < e.1) :
    find k l = none := by
  induction l with
  | nil => rfl
  | cons e l ih =>
    obtain ⟨k', v⟩ := e
    have hk : k ≠ k' := fun he => String.lt_irrefl k' (he ▸ h _ (List.mem_cons_self ..))
    rw [find, if_neg hk]
    exact ih fun e he => h e (List.mem_cons_of_mem _ he)

theorem find_eq_some_iff {k : String} {v : α} {l : List (String × α)}
    (h : l.Pairwise (fun a b => a.1 < b.1)) : find k l = some v ↔ (k, v) ∈ l := by
  induction l with
  | nil => simp [find]
  | cons e l ih =>
    obtain ⟨k', v'⟩ := e
    rw [List.pairwise_cons] at h
    by_cases hk : k = k'
    · subst hk
      rw [find, if_pos rfl]
      constructor
      · intro hv; cases hv; exact List.mem_cons_self ..
      · intro hm
        rcases List.mem_cons.1 hm with hm | hm
        · cases hm; rfl
        · exact absurd (h.1 _ hm) (String.lt_irrefl k)
    · rw [find, if_neg hk, ih h.2, List.mem_cons]
      constructor
      · exact .inr
      · rintro (hm | hm)
        · cases hm; exact absurd rfl hk
        · exact hm

/-! ## The dictionary -/

/-- The dictionary without entries. -/
def empty : Dict α := ⟨[], .nil⟩

instance : Inhabited (Dict α) := ⟨empty⟩

instance : EmptyCollection (Dict α) := ⟨empty⟩

/-- The value of a key. -/
def get? (d : Dict α) (k : String) : Option α := find k d.entries

/-- Whether a key has a value. -/
def contains (d : Dict α) (k : String) : Bool := (d.get? k).isSome

/-- Sets the value of a key. -/
def insert (d : Dict α) (k : String) (v : α) : Dict α := ⟨put k v d.entries, pairwise_put d.sorted⟩

/-- Removes a key. -/
def erase (d : Dict α) (k : String) : Dict α :=
  ⟨d.entries.filter (·.1 ≠ k), d.sorted.sublist List.filter_sublist⟩

/-- The keys in order. -/
def keys (d : Dict α) : List String := d.entries.map (·.1)

/-- The values in the order of their keys. -/
def values (d : Dict α) : List α := d.entries.map (·.2)

/-- The number of entries. -/
def size (d : Dict α) : Nat := d.entries.length

/-- Whether there is no entry. -/
def isEmpty (d : Dict α) : Bool := d.entries.isEmpty

/-- Sets the keys of a list one after the other, so that the last value of a key stays. -/
def ofList (l : List (String × α)) : Dict α := l.foldl (fun d e => d.insert e.1 e.2) empty

/-- Applies a function to every value, which may look at the key. -/
def mapWithKey (f : String → α → β) (d : Dict α) : Dict β where
  entries := d.entries.map fun e => (e.1, f e.1 e.2)
  sorted := List.pairwise_map.2 d.sorted

/-- Applies a function to every value. -/
def map (f : α → β) (d : Dict α) : Dict β := d.mapWithKey fun _ => f

/-- Changes the value of a key, if it has one. -/
def modify (d : Dict α) (k : String) (f : α → α) : Dict α :=
  d.mapWithKey fun k' v => if k' = k then f v else v

/-- Appends a value to the list of a key, which starts out empty. -/
def push (d : Dict (List α)) (k : String) (v : α) : Dict (List α) :=
  d.insert k ((d.get? k).getD [] ++ [v])

/-- Sets the value of a key that has none yet. -/
def insertNew (d : Dict α) (k : String) (v : α) : Dict α :=
  if d.contains k then d else d.insert k v

theorem ext {d e : Dict α} (h : d.entries = e.entries) : d = e := by
  cases d; cases e; simp_all

instance [DecidableEq α] : DecidableEq (Dict α) := fun d e =>
  decidable_of_iff (d.entries = e.entries) ⟨ext, fun h => h ▸ rfl⟩

instance [BEq α] : BEq (Dict α) := ⟨fun d e => d.entries == e.entries⟩

@[simp] theorem get?_empty (k : String) : (empty : Dict α).get? k = none := rfl

@[simp] theorem get?_insert (d : Dict α) (k k' : String) (v : α) :
    (d.insert k v).get? k' = if k' = k then some v else d.get? k' := find_put k'

theorem get?_eq_some_iff {d : Dict α} {k : String} {v : α} :
    d.get? k = some v ↔ (k, v) ∈ d.entries := find_eq_some_iff d.sorted

theorem mem_values_iff {d : Dict α} {v : α} : v ∈ d.values ↔ ∃ k, d.get? k = some v := by
  simp only [values, List.mem_map, get?_eq_some_iff]
  exact ⟨fun ⟨e, he, hv⟩ => ⟨e.1, hv ▸ he⟩, fun ⟨k, hk⟩ => ⟨(k, v), hk, rfl⟩⟩

theorem mem_keys_iff {d : Dict α} {k : String} : k ∈ d.keys ↔ d.contains k = true := by
  simp only [keys, List.mem_map, contains, Option.isSome_iff_exists, get?_eq_some_iff]
  exact ⟨fun ⟨e, he, hk⟩ => ⟨e.2, hk ▸ he⟩, fun ⟨v, hv⟩ => ⟨(k, v), hv, rfl⟩⟩

theorem contains_insert (d : Dict α) (k k' : String) (v : α) :
    (d.insert k v).contains k' = (decide (k' = k) || d.contains k') := by
  by_cases h : k' = k <;> simp [contains, h]

theorem find_filter_ne {k k' : String} {l : List (String × α)} :
    find k' (l.filter (·.1 ≠ k)) = if k' = k then none else find k' l := by
  induction l with
  | nil => simp [find]
  | cons e l ih =>
    obtain ⟨k₁, v⟩ := e
    by_cases h1 : k₁ = k
    · subst h1
      rw [List.filter_cons_of_neg (by simp), ih]
      by_cases h2 : k' = k₁ <;> simp [find, h2]
    · rw [List.filter_cons_of_pos (by simpa using h1), find, find, ih]
      by_cases h2 : k' = k₁
      · simp [h2, h1]
      · simp [h2]

@[simp] theorem get?_erase (d : Dict α) (k k' : String) :
    (d.erase k).get? k' = if k' = k then none else d.get? k' := find_filter_ne

theorem find_map (f : String → α → β) (k : String) (l : List (String × α)) :
    find k (l.map fun e => (e.1, f e.1 e.2)) = (find k l).map (f k) := by
  induction l with
  | nil => rfl
  | cons e l ih =>
    obtain ⟨k', v⟩ := e
    by_cases h : k = k'
    · subst h; simp [find]
    · simp only [List.map_cons, find, if_neg h]; exact ih

@[simp] theorem get?_mapWithKey (f : String → α → β) (d : Dict α) (k : String) :
    (d.mapWithKey f).get? k = (d.get? k).map (f k) := find_map f k d.entries

/-- Dictionaries with the same lookups are equal. -/
theorem ext_get? {d e : Dict α} (h : ∀ k, d.get? k = e.get? k) : d = e := by
  obtain ⟨l, hl⟩ := d
  obtain ⟨m, hm⟩ := e
  refine ext ?_
  simp only [get?] at h
  show l = m
  induction l generalizing m with
  | nil =>
    cases m with
    | nil => rfl
    | cons e m =>
      have := h e.1
      rw [show find e.1 (e :: m) = some e.2 from
        (find_eq_some_iff hm).2 (List.mem_cons_self ..)] at this
      cases this
  | cons a l ih =>
    cases m with
    | nil =>
      have := h a.1
      rw [show find a.1 (a :: l) = some a.2 from
        (find_eq_some_iff hl).2 (List.mem_cons_self ..)] at this
      cases this
    | cons b m =>
      have hl' := List.pairwise_cons.1 hl
      have hm' := List.pairwise_cons.1 hm
      have ha : (a.1, a.2) ∈ b :: m :=
        (find_eq_some_iff hm).1 (h a.1 ▸ (find_eq_some_iff hl).2 (List.mem_cons_self ..))
      have hb : (b.1, b.2) ∈ a :: l :=
        (find_eq_some_iff hl).1 (h b.1 ▸ (find_eq_some_iff hm).2 (List.mem_cons_self ..))
      have hab : a = b := by
        rcases List.mem_cons.1 ha with ha | ha
        · exact ha
        · rcases List.mem_cons.1 hb with hb | hb
          · exact hb.symm
          · exact absurd (hl'.1 _ hb) (String.lt_asymm (hm'.1 _ ha))
      subst hab
      refine congrArg _ (ih hl'.2 m hm'.2 fun k => ?_)
      by_cases hk : k = a.1
      · subst hk
        rw [find_eq_none_of_lt hl'.1, find_eq_none_of_lt hm'.1]
      · have := h k
        simpa [find, hk] using this

/-- Setting a value that a key has already changes nothing. -/
theorem insert_eq_self {d : Dict α} {k : String} {v : α} (h : d.get? k = some v) :
    d.insert k v = d := by
  refine ext_get? fun k' => ?_
  rw [get?_insert]
  split
  · next heq => rw [heq, h]
  · rfl

end Dict

end ThreatModel
