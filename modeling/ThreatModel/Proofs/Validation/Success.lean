import Mathlib.Data.List.Forall2
import ThreatModel.Validation.Build

/-!
# When a check succeeds

Validation is written as a sequence of checks of which the first failing one ends everything. For
each kind of check this module says when it succeeds and with what, so that no later proof looks
into the sequence again. How a single field is read is stated without the checks: `Reads` for words
of closed sets, `ReadsDate` for dates and `IsId` for ids.
-/

namespace ThreatModel.Validation

/-! ## Sequences of checks -/

variable {ε α β : Type}

@[simp] theorem bind_eq_ok_iff {x : Except ε α} {f : α → Except ε β} {b : β} :
    (x >>= f) = .ok b ↔ ∃ a, x = .ok a ∧ f a = .ok b := by
  cases x with
  | error e => simp [bind, Except.bind]
  | ok a => simp [bind, Except.bind]

@[simp] theorem pure_eq_ok_iff {a b : α} : (pure a : Except ε α) = .ok b ↔ a = b := by
  simp [pure, Except.pure]

@[simp] theorem forM_eq_ok_iff {l : List α} {f : α → Except ε Unit} {u : Unit} :
    forM l f = .ok u ↔ ∀ x ∈ l, f x = .ok () := by
  induction l with
  | nil => simp
  | cons x l ih =>
    rw [List.forM_cons, bind_eq_ok_iff, List.forall_mem_cons, ih]
    exact ⟨fun ⟨_, hx, hl⟩ => ⟨hx, hl⟩, fun ⟨hx, hl⟩ => ⟨(), hx, hl⟩⟩

theorem mapM_eq_ok_iff {f : α → Except ε β} {l : List α} {l' : List β} :
    l.mapM f = .ok l' ↔ List.Forall₂ (fun x y => f x = .ok y) l l' := by
  induction l generalizing l' with
  | nil => cases l' <;> simp
  | cons x l ih =>
    rw [List.mapM_cons, bind_eq_ok_iff]
    constructor
    · rintro ⟨y, hy, h⟩
      obtain ⟨ys, hys, h⟩ := bind_eq_ok_iff.1 h
      obtain rfl := pure_eq_ok_iff.1 h
      exact .cons hy (ih.1 hys)
    · rintro (_ | ⟨hy, hys⟩)
      exact ⟨_, hy, bind_eq_ok_iff.2 ⟨_, ih.2 hys, rfl⟩⟩

/-- What is computed from a result is computed from something that succeeds. -/
theorem exists_eq_ok_of_map {x : Except ε α} {f : α → β} {v : β}
    (h : x.toOption.map f = some v) : ∃ a, x = .ok a ∧ f a = v := by
  cases x with
  | error e => cases h
  | ok a => exact ⟨a, rfl, Option.some.inj h⟩

/-! ## Lists side by side -/

variable {R : α → β → Prop} {l : List α} {l' : List β}

theorem exists_left_of_mem (h : List.Forall₂ R l l') {y : β} (hy : y ∈ l') :
    ∃ x ∈ l, R x y := by
  induction h with
  | nil => cases hy
  | cons hr _ ih =>
    rcases List.mem_cons.1 hy with rfl | hy
    · exact ⟨_, List.mem_cons_self .., hr⟩
    · obtain ⟨x, hx, hr⟩ := ih hy
      exact ⟨x, List.mem_cons_of_mem _ hx, hr⟩

theorem exists_right_of_mem (h : List.Forall₂ R l l') {x : α} (hx : x ∈ l) :
    ∃ y ∈ l', R x y := by
  induction h with
  | nil => cases hx
  | cons hr _ ih =>
    rcases List.mem_cons.1 hx with rfl | hx
    · exact ⟨_, List.mem_cons_self .., hr⟩
    · obtain ⟨y, hy, hr⟩ := ih hx
      exact ⟨y, List.mem_cons_of_mem _ hy, hr⟩

/-- A partner for every member makes a list of partners. -/
theorem exists_forall₂_iff : (∃ l', List.Forall₂ R l l') ↔ ∀ x ∈ l, ∃ y, R x y := by
  constructor
  · rintro ⟨l', h⟩ x hx
    obtain ⟨y, -, hr⟩ := exists_right_of_mem h hx
    exact ⟨y, hr⟩
  · intro h
    induction l with
    | nil => exact ⟨[], .nil⟩
    | cons x l ih =>
      obtain ⟨y, hy⟩ := h x (List.mem_cons_self ..)
      obtain ⟨ys, hys⟩ := ih fun z hz => h z (List.mem_cons_of_mem _ hz)
      exact ⟨y :: ys, .cons hy hys⟩

/-- What partners have in common the two lists have in common. -/
theorem map_eq_of_forall₂ {γ : Type} {f : α → γ} {g : β → γ} (h : List.Forall₂ R l l')
    (hfg : ∀ x y, R x y → g y = f x) : l'.map g = l.map f := by
  induction h with
  | nil => rfl
  | cons hr _ ih => rw [List.map_cons, List.map_cons, hfg _ _ hr, ih]

/-! ## How a field is read -/

/-- A text is read as a value: trimmed and up to the case of ASCII letters it is its word. -/
def Reads [ValueSet α] (text : String) (v : α) : Prop := ValueSet.parse? text = some v

/-- A blank text is read as a default, any other one as a value. -/
def ReadsOr [ValueSet α] (default : α) (text : String) (v : α) : Prop :=
  if Text.blank text then v = default else Reads text v

/-- A blank text is read as no date, any other one as a date in the form of model files. -/
def ReadsDate (text : String) (d : Option Date) : Prop :=
  if Text.blank text then d = none else d.isSome ∧ d = Date.parse? (Text.trim text)

/-- A blank text refers to nothing, any other one to the trimmed text. -/
def ReadsReference (text : String) (id : Option String) : Prop :=
  id = if Text.trim text = "" then none else some (Text.trim text)

/-- A text is an id: at least one character, all of them ASCII letters, digits and hyphens. -/
def IsId (s : String) : Prop :=
  s ≠ "" ∧ ∀ c ∈ s.toList,
    ('A' ≤ c ∧ c ≤ 'Z') ∨ ('a' ≤ c ∧ c ≤ 'z') ∨ ('0' ≤ c ∧ c ≤ '9') ∨ c = '-'

theorem isIdChar_eq_true_iff {c : Char} : isIdChar c = true ↔
    ('A' ≤ c ∧ c ≤ 'Z') ∨ ('a' ≤ c ∧ c ≤ 'z') ∨ ('0' ≤ c ∧ c ≤ '9') ∨ c = '-' := by
  delta isIdChar Char.isAlphanum Char.isAlpha Char.isUpper Char.isLower Char.isDigit
  simp only [Bool.or_eq_true, Bool.and_eq_true, decide_eq_true_eq, ge_iff_le, Char.le_def, or_assoc]

theorem isId_eq_true_iff {s : String} : isId s = true ↔ IsId s := by
  simp only [isId, IsId, Bool.and_eq_true, List.all_eq_true, isIdChar_eq_true_iff]
  simp

/-! ## Single checks -/

@[simp] theorem require_eq_ok_iff {ok : Bool} {fault : Fault} {u : Unit} :
    require ok fault = .ok u ↔ ok = true := by
  cases ok <;> simp [require]

@[simp] theorem value_eq_ok_iff [ValueSet α] {field element text : String} {v : α} :
    value field element text = .ok v ↔ Reads text v := by
  unfold value Reads
  split <;> simp_all

@[simp] theorem valueOr_eq_ok_iff [ValueSet α] {default : α} {field element text : String} {v : α} :
    valueOr default field element text = .ok v ↔ ReadsOr default text v := by
  unfold valueOr ReadsOr
  split
  · rw [Except.ok.injEq]
    exact eq_comm
  · exact value_eq_ok_iff

@[simp] theorem checkId_eq_ok_iff {id : String} {u : Unit} : checkId id = .ok u ↔ IsId id := by
  rw [checkId, require_eq_ok_iff, isId_eq_true_iff]

@[simp] theorem checkNew_eq_ok_iff {d : Dict α} {id : String} {u : Unit} :
    checkNew d id = .ok u ↔ d.contains id = false := by
  simp [checkNew]

@[simp] theorem checkReferences_eq_ok_iff {d : Dict α} {kind location : String}
    {ids : List String} {u : Unit} :
    checkReferences d kind location ids = .ok u ↔ ∀ id ∈ ids, d.contains id = true := by
  simp [checkReferences]

@[simp] theorem checkTags_eq_ok_iff {available : List String} {location : String}
    {tags folded : List String} :
    checkTags available location tags = .ok folded ↔
      folded = tags.map Text.fold ∧ ∀ t ∈ folded, t ∈ available := by
  unfold checkTags
  dsimp only
  split
  · next t ht =>
    have hmem := List.mem_of_find?_eq_some ht
    have hmissing : t ∉ available := by simpa using List.find?_some ht
    simp only [reduceCtorEq, false_iff, not_and]
    rintro rfl hall
    exact hmissing (hall t hmem)
  · next hnone =>
    have hall : ∀ t ∈ tags.map Text.fold, t ∈ available := by
      simpa using List.find?_eq_none.1 hnone
    simp only [Except.ok.injEq]
    constructor
    · rintro rfl
      exact ⟨rfl, hall⟩
    · rintro ⟨rfl, -⟩
      rfl

@[simp] theorem date?_eq_ok_iff {fault : Fault} {text : String} {d : Option Date} :
    date? fault text = .ok d ↔ ReadsDate text d := by
  unfold date? ReadsDate
  split
  · rw [Except.ok.injEq]
    exact eq_comm
  · split
    · next x hx =>
      rw [hx, Except.ok.injEq]
      constructor
      · rintro rfl
        exact ⟨rfl, rfl⟩
      · rintro ⟨-, rfl⟩
        rfl
    · next hx =>
      rw [hx]
      constructor
      · intro h
        cases h
      · rintro ⟨h, rfl⟩
        cases h

theorem reference_eq_ok_iff {found : String → Bool} {kind location text : String}
    {id : Option String} :
    reference found kind location text = .ok id ↔
      ReadsReference text id ∧ ∀ x ∈ id, found x = true := by
  unfold reference ReadsReference
  by_cases h : Text.trim text = ""
  · rw [if_pos h]
    have hempty : (Text.trim text).isEmpty = true := by simpa using h
    simp only [hempty, if_true, Except.ok.injEq]
    constructor
    · rintro rfl
      exact ⟨rfl, by simp⟩
    · rintro ⟨rfl, -⟩
      rfl
  · rw [if_neg h]
    have hempty : (Text.trim text).isEmpty = false := by simpa using h
    simp only [hempty, Bool.false_eq_true, if_false]
    split
    · next hfound =>
      rw [Except.ok.injEq]
      constructor
      · rintro rfl
        exact ⟨rfl, fun x hx => by cases hx; exact hfound⟩
      · rintro ⟨rfl, -⟩
        rfl
    · next hmissing =>
      constructor
      · intro hok
        cases hok
      · rintro ⟨rfl, hall⟩
        exact absurd (hall _ rfl) hmissing

end ThreatModel.Validation
