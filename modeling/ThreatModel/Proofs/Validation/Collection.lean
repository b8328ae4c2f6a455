import ThreatModel.Proofs.Dict
import ThreatModel.Proofs.Validation.Success

/-!
# How collections are built

Every collection of a model is built by one loop over the stated entries: an entry is turned into an
element, the key of the element must be new, and the element is stored under it. `AddsOne` says what
one round of such a loop does, and `collects_iff` what the whole loop does: it succeeds exactly when
every entry can be turned into an element and the keys are distinct, and then the collection holds
these elements and no others (`Collects`). The loop over trust boundaries places assets on the side;
`foldlM_pair_eq_ok_iff` takes the two apart, and `foldlM_place_eq_ok_iff` is the second one.
-/

namespace ThreatModel.Validation

variable {α β : Type} {R : String × α → β → Prop} {key : β → String}
  {step : Dict β → String × α → Except Fault (Dict β)}

/-! ## Loops that fill a dictionary -/

/-- A round of a loop adds one element `v` that an entry `e` stands for, under a key that is new. -/
def AddsOne (R : String × α → β → Prop) (key : β → String)
    (step : Dict β → String × α → Except Fault (Dict β)) : Prop :=
  ∀ d e d', step d e = .ok d' ↔
    ∃ v, R e v ∧ d.contains (key v) = false ∧ d' = d.insert (key v) v

/-- Elements under their keys. -/
def keyed (key : β → String) (vs : List β) : List (String × β) := vs.map fun v => (key v, v)

@[simp] theorem map_fst_keyed (key : β → String) (vs : List β) :
    (keyed key vs).map (·.1) = vs.map key := by
  simp [keyed, Function.comp_def]

@[simp] theorem map_snd_keyed (key : β → String) (vs : List β) :
    (keyed key vs).map (·.2) = vs := by
  simp [keyed, Function.comp_def]

/-- A loop of such rounds turns every entry into an element; the keys are new and distinct. -/
theorem AddsOne.foldlM_eq_ok_iff (h : AddsOne R key step) (l : List (String × α))
    (d d' : Dict β) :
    l.foldlM step d = .ok d' ↔
      ∃ vs, List.Forall₂ R l vs ∧ (vs.map key).Nodup ∧ (∀ v ∈ vs, d.contains (key v) = false) ∧
        d' = d.insertAll (keyed key vs) := by
  induction l generalizing d with
  | nil =>
    rw [List.foldlM_nil, pure_eq_ok_iff]
    constructor
    · rintro rfl
      exact ⟨[], .nil, .nil, by simp, rfl⟩
    · rintro ⟨vs, hvs, -, -, rfl⟩
      cases hvs
      rfl
  | cons e l ih =>
    rw [List.foldlM_cons, bind_eq_ok_iff]
    constructor
    · rintro ⟨d₁, hstep, hrest⟩
      obtain ⟨v, hv, hnew, rfl⟩ := (h d e d₁).1 hstep
      obtain ⟨vs, hvs, hnodup, hfresh, rfl⟩ := (ih _).1 hrest
      -- The rest was new to a dictionary that has the key of `v` already.
      refine ⟨v :: vs, .cons hv hvs, ?_, ?_, rfl⟩
      · rw [List.map_cons, List.nodup_cons]
        refine ⟨fun hmem => ?_, hnodup⟩
        obtain ⟨w, hw, hkey⟩ := List.mem_map.1 hmem
        have := hfresh w hw
        simp [Dict.contains_insert, hkey] at this
      · intro w hw
        rcases List.mem_cons.1 hw with rfl | hw
        · exact hnew
        · have := hfresh w hw
          rw [Dict.contains_insert, Bool.or_eq_false_iff] at this
          exact this.2
    · rintro ⟨vs, hvs, hnodup, hfresh, rfl⟩
      obtain ⟨v, vs, hv, hrest, rfl⟩ := List.forall₂_cons_left_iff.1 hvs
      rw [List.map_cons, List.nodup_cons] at hnodup
      refine ⟨d.insert (key v) v, ?_, ?_⟩
      · exact (h d e _).2 ⟨v, hv, hfresh v (List.mem_cons_self ..), rfl⟩
      · refine (ih _).2 ⟨vs, hrest, hnodup.2, fun w hw => ?_, rfl⟩
        have hne : key w ≠ key v := fun heq => hnodup.1 (heq ▸ List.mem_map_of_mem hw)
        simp [Dict.contains_insert, hne, hfresh w (List.mem_cons_of_mem _ hw)]

/-- A dictionary holds one element for each entry of a list, under distinct keys, and nothing
else. -/
def Collects (R : String × α → β → Prop) (key : β → String) (l : List (String × α))
    (d : Dict β) : Prop :=
  ∃ vs, List.Forall₂ R l vs ∧ (vs.map key).Nodup ∧ d = Dict.ofList (keyed key vs)

theorem collects_iff (h : AddsOne R key step) (l : List (String × α)) (d : Dict β) :
    l.foldlM step .empty = .ok d ↔ Collects R key l d := by
  rw [h.foldlM_eq_ok_iff]
  simp only [Collects, Dict.contains_empty, implies_true, true_and, Dict.ofList_eq_insertAll]

namespace Collects

variable {l : List (String × α)} {d : Dict β}

/-- The entries correspond one-to-one to the elements. -/
theorem forall₂_perm (h : Collects R key l d) :
    ∃ vs, List.Forall₂ R l vs ∧ vs.Perm d.values := by
  obtain ⟨vs, hvs, hnodup, rfl⟩ := h
  have hperm := Dict.perm_entries_ofList (l := keyed key vs) (by simpa using hnodup)
  refine ⟨vs, hvs, ?_⟩
  have hvalues := (hperm.map Prod.snd).symm
  rwa [map_snd_keyed] at hvalues

/-- What the elements list all together is what the entries list. -/
theorem flatMap_perm {γ : Type} (h : Collects R key l d) {f : String × α → List γ}
    {g : β → List γ} (hfg : ∀ e v, R e v → (g v).Perm (f e)) :
    (d.values.flatMap g).Perm (l.flatMap f) := by
  obtain ⟨vs, hvs, hperm⟩ := h.forall₂_perm
  refine (hperm.symm.flatMap_right g).trans ?_
  clear hperm h
  induction hvs with
  | nil => exact .refl _
  | cons hr _ ih => exact (hfg _ _ hr).append ih

theorem exists_of_mem (h : Collects R key l d) {v : β} (hv : v ∈ d.values) :
    ∃ e ∈ l, R e v := by
  obtain ⟨vs, hvs, hperm⟩ := h.forall₂_perm
  exact exists_left_of_mem hvs (hperm.mem_iff.2 hv)

/-- Every element is stored under its own key. -/
theorem key_eq (h : Collects R key l d) {k : String} {v : β} (hv : d.get? k = some v) :
    key v = k := by
  obtain ⟨vs, -, hnodup, rfl⟩ := h
  have hperm := Dict.perm_entries_ofList (l := keyed key vs) (by simpa using hnodup)
  have hmem := hperm.mem_iff.1 (Dict.get?_eq_some_iff.1 hv)
  obtain ⟨w, -, hw⟩ := List.mem_map.1 hmem
  cases hw
  rfl

/-- When the entry determines the key, the keys are those of the entries. -/
theorem contains_iff (h : Collects R key l d) (id : String × α → String)
    (hid : ∀ e v, R e v → key v = id e) (k : String) :
    d.contains k = true ↔ k ∈ l.map id := by
  obtain ⟨vs, hvs, -, rfl⟩ := h
  rw [Dict.contains_ofList, map_fst_keyed, map_eq_of_forall₂ hvs hid]

/-- There is such a dictionary exactly when every entry stands for an element and the keys are
distinct. -/
theorem exists_iff (id : String × α → String) (hid : ∀ e v, R e v → key v = id e) :
    (∃ d, Collects R key l d) ↔ (∀ e ∈ l, ∃ v, R e v) ∧ (l.map id).Nodup := by
  constructor
  · rintro ⟨d, vs, hvs, hnodup, -⟩
    exact ⟨exists_forall₂_iff.1 ⟨vs, hvs⟩, map_eq_of_forall₂ hvs hid ▸ hnodup⟩
  · rintro ⟨hall, hnodup⟩
    obtain ⟨vs, hvs⟩ := exists_forall₂_iff.2 hall
    exact ⟨_, vs, hvs, (map_eq_of_forall₂ hvs hid).symm ▸ hnodup, rfl⟩

end Collects

/-! ## The loop over trust boundaries -/

/-- A loop over a pair of states that do not meet is two loops. -/
theorem foldlM_pair_eq_ok_iff {σ τ ι : Type} {step : σ × τ → ι → Except Fault (σ × τ)}
    (left : σ → ι → Except Fault σ) (right : τ → ι → Except Fault τ)
    (h : ∀ s e s', step s e = .ok s' ↔ left s.1 e = .ok s'.1 ∧ right s.2 e = .ok s'.2)
    (l : List ι) (s s' : σ × τ) :
    l.foldlM step s = .ok s' ↔ l.foldlM left s.1 = .ok s'.1 ∧ l.foldlM right s.2 = .ok s'.2 := by
  induction l generalizing s with
  | nil =>
    simp only [List.foldlM_nil, pure_eq_ok_iff]
    exact Prod.ext_iff
  | cons e l ih =>
    simp only [List.foldlM_cons, bind_eq_ok_iff, ih, h]
    constructor
    · rintro ⟨t, ⟨h₁, h₂⟩, h₃, h₄⟩
      exact ⟨⟨t.1, h₁, h₃⟩, t.2, h₂, h₄⟩
    · rintro ⟨⟨a, h₁, h₃⟩, b, h₂, h₄⟩
      exact ⟨(a, b), ⟨h₁, h₂⟩, h₃, h₄⟩

theorem place_eq_ok_iff {assets : Dict TechnicalAsset} {title id : String}
    {placed placed' : List String} :
    place assets title placed id = .ok placed' ↔
      assets.contains id = true ∧ id ∉ placed ∧ placed' = id :: placed := by
  simp only [place, bind_eq_ok_iff, require_eq_ok_iff, pure_eq_ok_iff]
  constructor
  · rintro ⟨_, hid, _, hnew, rfl⟩
    exact ⟨hid, by simpa using hnew, rfl⟩
  · rintro ⟨hid, hnew, rfl⟩
    exact ⟨(), hid, (), by simpa using hnew, rfl⟩

/-- Placing assets succeeds if they exist and none is placed twice or was placed before. -/
theorem foldlM_place_eq_ok_iff {assets : Dict TechnicalAsset} {title : String}
    {ids placed placed' : List String} :
    ids.foldlM (place assets title) placed = .ok placed' ↔
      (∀ id ∈ ids, assets.contains id = true) ∧ ids.Nodup ∧ (∀ id ∈ ids, id ∉ placed) ∧
        placed' = ids.reverse ++ placed := by
  induction ids generalizing placed with
  | nil =>
    rw [List.foldlM_nil, pure_eq_ok_iff]
    simpa using eq_comm
  | cons id ids ih =>
    rw [List.foldlM_cons, bind_eq_ok_iff]
    simp only [place_eq_ok_iff, ih, List.forall_mem_cons, List.nodup_cons]
    constructor
    · rintro ⟨_, ⟨hid, hnew, rfl⟩, hall, hnodup, hfresh, rfl⟩
      exact ⟨⟨hid, hall⟩, ⟨fun hmem => hfresh id hmem (List.mem_cons_self ..), hnodup⟩,
        ⟨hnew, fun x hx hmem => hfresh x hx (List.mem_cons_of_mem _ hmem)⟩, by simp⟩
    · rintro ⟨⟨hid, hall⟩, ⟨hnot, hnodup⟩, ⟨hnew, hfresh⟩, rfl⟩
      refine ⟨_, ⟨hid, hnew, rfl⟩, hall, hnodup, fun x hx hmem => ?_, by simp⟩
      rcases List.mem_cons.1 hmem with rfl | hmem
      · exact hnot hx
      · exact hfresh x hx hmem

/-- Placing the assets of all boundaries is placing the members of one long list. -/
theorem foldlM_placeAll_eq_ok_iff {assets : Dict TechnicalAsset}
    {l : List (String × TrustBoundaryInput)} {placed placed' : List String} :
    l.foldlM (fun s e => e.2.assetsInside.foldlM (place assets e.1) s) placed = .ok placed' ↔
      (∀ id ∈ l.flatMap (·.2.assetsInside), assets.contains id = true) ∧
        (l.flatMap (·.2.assetsInside)).Nodup ∧
        (∀ id ∈ l.flatMap (·.2.assetsInside), id ∉ placed) ∧
        placed' = (l.flatMap (·.2.assetsInside)).reverse ++ placed := by
  induction l generalizing placed with
  | nil =>
    rw [List.foldlM_nil, pure_eq_ok_iff]
    simpa using eq_comm
  | cons e l ih =>
    rw [List.foldlM_cons, bind_eq_ok_iff]
    simp only [foldlM_place_eq_ok_iff, ih, List.flatMap_cons, List.forall_mem_append,
      List.nodup_append]
    constructor
    · rintro ⟨_, ⟨hids, hnodup, hnew, rfl⟩, hall, hrest, hfresh, rfl⟩
      refine ⟨⟨hids, hall⟩, ⟨hnodup, hrest, ?_⟩, ⟨hnew, ?_⟩, by simp⟩
      · rintro a ha b hb rfl
        exact hfresh a hb (by simp [ha])
      · intro x hx hplaced
        exact hfresh x hx (by simp [hplaced])
    · rintro ⟨⟨hids, hall⟩, ⟨hnodup, hrest, hdisjoint⟩, ⟨hnew, hfresh⟩, rfl⟩
      refine ⟨_, ⟨hids, hnodup, hnew, rfl⟩, hall, hrest, fun x hx hmem => ?_, by simp⟩
      rcases List.mem_append.1 hmem with hmem | hmem
      · exact hdisjoint x (List.mem_reverse.1 hmem) x hx rfl
      · exact hfresh x hx hmem

end ThreatModel.Validation
