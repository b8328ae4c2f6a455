import ThreatModel.Json.Record
import ThreatModel.Proofs.Dict
import ThreatModel.Proofs.Json.Roundtrip
import ThreatModel.Proofs.ValueSet.Word

/-!
# Written records are read back

A record is written field by field, some of them only if there is something to say, and read by the
names of the fields, with defaults for those left out. `Carried` says of one value that its form is
exact and read as the value; the lemmas below say it of texts, numbers, words, lists and maps, and take
records apart into their fields (`present`).
-/

namespace ThreatModel.Json

/-- The JSON form of a value is the one that its text denotes, and it is read as the value. -/
structure Carried {α : Type} (write : α → Json) (read : Json → Option α) (x : α) : Prop where
  exact : (write x).Exact
  read : read (write x) = some x

/-- What is carried by its form is carried by its text. -/
theorem Carried.parse {α : Type} {write : α → Json} {read : Json → Option α} {x : α}
    (h : Carried write read x) : (parse? (write x).render).bind read = some x := by
  rw [parse?_render h.exact, Option.bind_some, h.read]

/-! ## Single values -/

attribute [simp] Exact.string Exact.bool

theorem carried_text (s : String) : Carried .string text? s := ⟨.string s, rfl⟩

@[simp] theorem exact_ofWord {α : Type} [ValueSet α] (v : α) : Exact (ofWord v) := .string _

@[simp] theorem word?_ofWord {α : Type} [ValueSet α] [ValueSet.Lawful α] (v : α) :
    word? (ofWord v) = some v := ValueSet.ofWord?_word v

theorem carried_word {α : Type} [ValueSet α] [ValueSet.Lawful α] (v : α) :
    Carried ofWord word? v := ⟨exact_ofWord v, word?_ofWord v⟩

theorem carried_word32 {n : Nat} (h : n ≤ 0xFFFFFFFF) : Carried ofNat Record.word32 n where
  exact := .int (by unfold IsWord64; omega)
  read := by
    have hrange : (n : Int) ≤ 0xFFFFFFFF := by omega
    simp [Record.word32, RecordSource.int?, ofNat, int?, hrange]

theorem carried_int32 {i : Int} (h : -0x80000000 ≤ i ∧ i ≤ 0x7FFFFFFF) :
    Carried .int Record.int32 i where
  exact := .int (by unfold IsWord64; omega)
  read := by simp [Record.int32, RecordSource.int?, int?, h]

theorem carried_float {x : Float} (h : ReadsBack x) : Carried ofFloat float? x where
  exact := h.ofFloat_eq ▸ .float h
  read := by rw [h.ofFloat_eq, float?]

/-! ## Lists and maps -/

theorem mapM_map {α β : Type} {l : List α} {write : α → β} {read : β → Option α}
    (h : ∀ x ∈ l, read (write x) = some x) : (l.map write).mapM read = some l := by
  induction l with
  | nil => rfl
  | cons x l ih =>
    obtain ⟨hx, hl⟩ := List.forall_mem_cons.1 h
    simp [hx, ih hl]

theorem carried_list {α : Type} {write : α → Json} {read : Json → Option α} {l : List α}
    (h : ∀ x ∈ l, Carried write read x) :
    Carried (fun l => .array (l.map write)) (Record.list read) l where
  exact := .array (List.forall_mem_map.2 fun x hx => (h x hx).exact)
  read := mapM_map fun x hx => (h x hx).read

theorem carried_texts (l : List String) : Carried ofTexts Record.texts l :=
  carried_list fun s _ => carried_text s

theorem carried_dict {α : Type} {write : α → Json} {read : Json → Option α} {d : Dict α}
    (h : ∀ v ∈ d.values, Carried write read v) :
    Carried (ofDict write) (Record.dict read) d where
  exact := .object (List.forall_mem_map.2 fun e he =>
    (h _ (Dict.mem_values_of_mem_entries he)).exact)
  read := by
    have hentries : (d.entries.map fun e => (e.1, write e.2)).mapM
        (fun e => (read e.2).map fun x => (e.1, x)) = some d.entries := by
      refine mapM_map fun e he => ?_
      simp [(h _ (Dict.mem_values_of_mem_entries he)).read]
    simp [Record.dict, RecordSource.entries?, ofDict, members?, hentries, Dict.ofList_entries]

theorem carried_textDict (d : Dict String) : Carried (ofDict .string) Record.textDict d :=
  carried_dict fun s _ => carried_text s

/-! ## Fields -/

/-- The fields of a record that are written. -/
def present (fields : List (String × Option Json)) : List (String × Json) :=
  fields.filterMap fun f => f.2.map (f.1, ·)

/-- A text that is left out if it is empty. -/
def textField (s : String) : Option Json := if s.isEmpty then none else some (.string s)

/-- A list that is left out if it is empty. -/
def listField {α : Type} (write : α → Json) (l : List α) : Option Json :=
  if l.isEmpty then none else some (.array (l.map write))

@[simp] theorem present_nil : present [] = [] := rfl

@[simp] theorem present_cons_some (name : String) (j : Json) (fields : List (String × Option Json)) :
    present ((name, some j) :: fields) = (name, j) :: present fields := rfl

@[simp] theorem present_cons_none (name : String) (fields : List (String × Option Json)) :
    present ((name, none) :: fields) = present fields := rfl

@[simp] theorem present_cons_textField (name : String) (s : String)
    (fields : List (String × Option Json)) :
    present ((name, textField s) :: fields) = textUnlessEmpty name s ++ present fields := by
  cases h : s.isEmpty <;> simp [textField, textUnlessEmpty, h]

@[simp] theorem present_cons_listField {α : Type} (name : String) (write : α → Json) (l : List α)
    (fields : List (String × Option Json)) :
    present ((name, listField write l) :: fields) =
      listUnlessEmpty name write l ++ present fields := by
  cases l <;> simp [listField, listUnlessEmpty]

@[simp] theorem present_cons_map {α : Type} (name : String) (write : α → Json) (v : Option α)
    (fields : List (String × Option Json)) :
    present ((name, v.map write) :: fields) = ifPresent name write v ++ present fields := by
  cases v <;> rfl

theorem map_fst_present_sublist (fields : List (String × Option Json)) :
    ((present fields).map (·.1)).Sublist (fields.map (·.1)) := by
  induction fields with
  | nil => exact .slnil
  | cons f fields ih =>
    obtain ⟨name, v⟩ := f
    cases v with
    | none => exact ih.cons _
    | some j => exact ih.cons_cons _

/-- A record is taken apart into the fields that were written. -/
theorem slots?_present {fields : List (String × Option Json)} (h : (fields.map (·.1)).Nodup) :
    slots? (fields.map (·.1)) (.object (present fields)) = some (present fields) := by
  have hsublist := map_fst_present_sublist fields
  have hknown : (present fields).filter (fun m => (fields.map (·.1)).contains m.1) =
      present fields := by
    refine List.filter_eq_self.2 fun m hm => ?_
    exact List.contains_iff_mem.2 (hsublist.subset (List.mem_map_of_mem hm))
  have hdistinct : distinctNames (present fields) = true :=
    decide_eq_true (h.sublist hsublist)
  simp only [slots?, hknown, hdistinct, if_true]

theorem lookup_eq_none {fields : List (String × Option Json)} {name : String}
    (h : name ∉ fields.map (·.1)) : (present fields).lookup name = none := by
  rw [List.lookup_eq_none_iff]
  intro m hm
  have hmem : m.1 ∈ fields.map (·.1) :=
    (map_fst_present_sublist fields).subset (List.mem_map_of_mem hm)
  exact bne_iff_ne.2 fun heq => h (heq ▸ hmem)

/-- What was written of a field is found under its name. -/
theorem lookup_present {fields : List (String × Option Json)} (h : (fields.map (·.1)).Nodup)
    (name : String) : (present fields).lookup name = (fields.lookup name).join := by
  induction fields with
  | nil => rfl
  | cons f fields ih =>
    obtain ⟨k, v⟩ := f
    rw [List.map_cons, List.nodup_cons] at h
    by_cases hname : name = k
    · subst hname
      cases v with
      | none => simp [lookup_eq_none h.1]
      | some j => simp
    · have hne : (name == k) = false := by simpa using hname
      cases v <;> simp [List.lookup_cons, hne, ih h.2]

theorem optional_eq {α : Type} (slots : List (String × Json)) (name : String)
    (read : Json → Option α) (default : α) :
    Record.optional slots name read default = (slots.lookup name).elim (some default) read := by
  rw [Record.optional]
  cases slots.lookup name <;> rfl

/-! ## Records -/

/-- What is written of a field is exact. -/
def ExactField (v : Option Json) : Prop := ∀ j ∈ v, Exact j

@[simp] theorem exactField_some {j : Json} : ExactField (some j) ↔ Exact j := by simp [ExactField]

@[simp] theorem exactField_none : ExactField none := by simp [ExactField]

/-- A record is carried if its fields are exact and, each looked up under its name, are read as the
record. -/
theorem carried_record {α : Type} {write : α → Json} {read : Json → Option α} {x : α}
    {ofSlots : List (String × Json) → Option α} {names : List String}
    (fields : List (String × Option Json)) (hread : ∀ j, read j = (slots? names j).bind ofSlots)
    (hwrite : write x = .object (present fields)) (hnames : fields.map (·.1) = names)
    (hnodup : names.Nodup) (hexact : ∀ f ∈ fields, ExactField f.2)
    (hslots : ∀ slots, (∀ name, slots.lookup name = (fields.lookup name).join) →
      ofSlots slots = some x) : Carried write read x where
  exact := by
    rw [hwrite]
    refine .object fun m hm => ?_
    obtain ⟨f, hf, hm⟩ := List.mem_filterMap.1 hm
    obtain ⟨j, hj, rfl⟩ := Option.map_eq_some_iff.1 hm
    exact hexact f hf j hj
  read := by
    subst hnames
    rw [hread, hwrite, slots?_present hnodup, Option.bind_some,
      hslots _ fun name => lookup_present hnodup name]

/-! ## Fields that are left out -/

@[simp] theorem elim_textField (s : String) : (textField s).elim (some "") text? = some s := by
  by_cases h : s = ""
  · rw [h]
    rfl
  · simp [textField, h, text?]

@[simp] theorem exactField_textField (s : String) : ExactField (textField s) := by
  cases h : s.isEmpty <;> simp [textField, h, Exact.string]

section

variable {α : Type} {write : α → Json} {read : Json → Option α}

/-- A list that is left out is read as empty. -/
theorem elim_listField {l : List α} (h : ∀ x ∈ l, Carried write read x) :
    (listField write l).elim (some []) (Record.list read) = some l := by
  cases l with
  | nil => rfl
  | cons x l => exact (carried_list h).read

theorem exactField_listField {l : List α} (h : ∀ x ∈ l, Carried write read x) :
    ExactField (listField write l) := by
  cases l with
  | nil => exact exactField_none
  | cons x l => exact exactField_some.2 (carried_list h).exact

/-- A value that is left out is read as absent, and no other value is. -/
theorem elim_map {v : Option α} (hnull : ∀ x, write x ≠ .null)
    (h : ∀ x ∈ v, Carried write read x) :
    (v.map write).elim (some none) (nullable read) = some v := by
  cases v with
  | none => rfl
  | some x =>
    have hread : nullable read (write x) = (read (write x)).map some := by
      rw [nullable]
      exact hnull x
    simp [hread, (h x rfl).read]

theorem exactField_map {v : Option α} (h : ∀ x ∈ v, Carried write read x) :
    ExactField (v.map write) := by
  cases v with
  | none => exact exactField_none
  | some x => exact exactField_some.2 (h x rfl).exact

end

@[simp] theorem elim_listField_text (l : List String) :
    (listField .string l).elim (some []) Record.texts = some l :=
  elim_listField fun s _ => carried_text s

@[simp] theorem exactField_listField_text (l : List String) : ExactField (listField .string l) :=
  exactField_listField fun s _ => carried_text s

end ThreatModel.Json
