import ThreatModel.Input.Merge
import ThreatModel.Proofs.Dict
import ThreatModel.Proofs.Validation.Success

/-!
# What merging gives

`MergeOf root rest m` says what a model is that was put together from a root and further parts, for
all parts at once: each titled collection is the disjoint union of theirs, each text the first one
that is stated, and lists follow each other. Merging two models that were put together keeps it
(`MergeOf.merge`), in the order of the parts, and it succeeds when no title is stated twice
(`MergeOf.exists_merge`).
-/

namespace ThreatModel

open Validation

/-! ## Unions of dictionaries -/

namespace Dict

variable {α : Type} {d e u : Dict α}

/-- No key is in both dictionaries. -/
def Disjoint (d e : Dict α) : Prop := ∀ k, d.contains k = true → e.contains k = false

theorem Disjoint.symm (h : d.Disjoint e) : e.Disjoint d := by
  intro k he
  by_contra hd
  rw [Bool.not_eq_false] at hd
  rw [h k hd] at he
  cases he

theorem union?_eq_ok_iff : d.union? e = .ok u ↔ d.Disjoint e ∧ u = d.insertAll e.entries := by
  unfold union?
  split
  · next k hk =>
    have hd := List.find?_some hk
    have he := mem_keys_iff.1 (List.mem_of_find?_eq_some hk)
    constructor
    · rintro ⟨⟩
    · rintro ⟨h, -⟩
      rw [h k hd] at he
      cases he
  · next hnone =>
    have h : d.Disjoint e := Disjoint.symm fun k hk => by
      simpa using List.find?_eq_none.1 hnone k (mem_keys_iff.2 hk)
    rw [Except.ok.injEq, and_iff_right h]
    exact eq_comm

theorem get?_insertAll_entries (d e : Dict α) (k : String) :
    (d.insertAll e.entries).get? k = (e.get? k).or (d.get? k) := by
  rw [get?_insertAll, ← get?_ofList, ofList_entries]

/-- A dictionary has the entries of all dictionaries of a list, of which no two share a key. -/
structure IsUnion (ds : List (Dict α)) (u : Dict α) : Prop where
  disjoint : ds.Pairwise Disjoint
  get?_iff : ∀ k v, u.get? k = some v ↔ ∃ d ∈ ds, d.get? k = some v

theorem isUnion_singleton (d : Dict α) : IsUnion [d] d where
  disjoint := List.pairwise_singleton ..
  get?_iff := by simp

theorem IsUnion.contains_iff {ds : List (Dict α)} (h : IsUnion ds u) {k : String} :
    u.contains k = true ↔ ∃ d ∈ ds, d.contains k = true := by
  simp only [contains_eq_true_iff, h.get?_iff]
  exact ⟨fun ⟨v, d, hd, hv⟩ => ⟨d, hd, v, hv⟩, fun ⟨d, hd, v, hv⟩ => ⟨v, d, hd, hv⟩⟩

/-- Two unions are disjoint when the dictionaries of the one are disjoint from those of the
other. -/
theorem IsUnion.disjoint_iff {ds es : List (Dict α)} (hd : IsUnion ds d) (he : IsUnion es e) :
    d.Disjoint e ↔ ∀ x ∈ ds, ∀ y ∈ es, x.Disjoint y := by
  constructor
  · intro h x hx y hy k hk
    by_contra hne
    rw [Bool.not_eq_false] at hne
    have := h k (hd.contains_iff.2 ⟨x, hx, hk⟩)
    rw [he.contains_iff.2 ⟨y, hy, hne⟩] at this
    cases this
  · intro h k hk
    obtain ⟨x, hx, hxk⟩ := hd.contains_iff.1 hk
    rw [← Bool.not_eq_true, he.contains_iff]
    rintro ⟨y, hy, hyk⟩
    rw [h x hx y hy k hxk] at hyk
    cases hyk

theorem IsUnion.union? {ds es : List (Dict α)} (hd : IsUnion ds d) (he : IsUnion es e)
    (h : d.union? e = .ok u) : IsUnion (ds ++ es) u := by
  obtain ⟨hdisjoint, rfl⟩ := union?_eq_ok_iff.1 h
  refine ⟨List.pairwise_append.2 ⟨hd.disjoint, he.disjoint, (hd.disjoint_iff he).1 hdisjoint⟩,
    fun k v => ?_⟩
  simp only [List.mem_append, or_and_right, exists_or, ← hd.get?_iff, ← he.get?_iff]
  rw [get?_insertAll_entries]
  cases hk : e.get? k with
  | none => simp
  | some w =>
    -- The left dictionary has no such key then.
    have hnone : d.get? k = none :=
      contains_eq_false_iff.1 (hdisjoint.symm k (contains_eq_true_iff.2 ⟨w, hk⟩))
    simp [hnone]

end Dict

namespace ModelInput

/-! ## Collections and texts of a stated model -/

/-- A collection of a stated model that is keyed by title. -/
inductive Collection where
  | questions
  | abuseCases
  | securityRequirements
  | dataAssets
  | technicalAssets
  | trustBoundaries
  | sharedRuntimes
  | individualCategories
  | tracking

/-- What a collection has under its titles. -/
def Collection.Entry : Collection → Type
  | .questions | .abuseCases | .securityRequirements => String
  | .dataAssets => DataAssetInput
  | .technicalAssets => TechnicalAssetInput
  | .trustBoundaries => TrustBoundaryInput
  | .sharedRuntimes => SharedRuntimeInput
  | .individualCategories => IndividualCategoryInput
  | .tracking => TrackingInput

/-- A single text of a stated model. -/
inductive Scalar where
  | title
  | date
  | businessCriticality
  | managementSummaryComment
  | authorName
  | authorHomepage
  | businessDescription
  | technicalDescription

def collection (m : ModelInput) : (c : Collection) → Dict c.Entry
  | .questions => m.questions
  | .abuseCases => m.abuseCases
  | .securityRequirements => m.securityRequirements
  | .dataAssets => m.dataAssets
  | .technicalAssets => m.technicalAssets
  | .trustBoundaries => m.trustBoundaries
  | .sharedRuntimes => m.sharedRuntimes
  | .individualCategories => m.individualCategories
  | .tracking => m.tracking

def scalar (m : ModelInput) : Scalar → String
  | .title => m.title
  | .date => m.date
  | .businessCriticality => m.businessCriticality
  | .managementSummaryComment => m.managementSummaryComment
  | .authorName => m.author.name
  | .authorHomepage => m.author.homepage
  | .businessDescription => m.businessOverview.description
  | .technicalDescription => m.technicalOverview.description

/-! ## Merging two models -/

/-- A model `u` is `m` with a part `n` added. -/
structure Merged (m n u : ModelInput) : Prop where
  includes : u.includes = m.includes
  scalar : ∀ f, u.scalar f = firstStated (m.scalar f) (n.scalar f)
  tags : u.tagsAvailable = addNew m.tagsAvailable n.tagsAvailable
  businessImages :
    u.businessOverview.images = m.businessOverview.images ++ n.businessOverview.images
  technicalImages :
    u.technicalOverview.images = m.technicalOverview.images ++ n.technicalOverview.images
  collection : ∀ c, (m.collection c).union? (n.collection c) = .ok (u.collection c)

theorem merged_of_merge {m n u : ModelInput} (h : m.merge n = .ok u) : Merged m n u := by
  simp only [merge, bind_eq_ok_iff, pure_eq_ok_iff] at h
  obtain ⟨_, hquestions, _, habuse, _, hrequirements, _, hdata, _, hassets, _, hboundaries, _,
    hruntimes, _, hcategories, _, htracking, rfl⟩ := h
  refine ⟨rfl, fun f => by cases f <;> rfl, rfl, rfl, rfl, fun c => ?_⟩
  cases c with
  | questions => exact hquestions
  | abuseCases => exact habuse
  | securityRequirements => exact hrequirements
  | dataAssets => exact hdata
  | technicalAssets => exact hassets
  | trustBoundaries => exact hboundaries
  | sharedRuntimes => exact hruntimes
  | individualCategories => exact hcategories
  | tracking => exact htracking

/-- Only a title that both models state keeps them from being merged. -/
theorem exists_merge {m n : ModelInput} (h : ∀ c, (m.collection c).Disjoint (n.collection c)) :
    ∃ u, m.merge n = .ok u := by
  have hunion (c : Collection) : (m.collection c).union? (n.collection c) =
      .ok ((m.collection c).insertAll (n.collection c).entries) :=
    Dict.union?_eq_ok_iff.2 ⟨h c, rfl⟩
  simp only [merge, bind_eq_ok_iff, pure_eq_ok_iff]
  exact ⟨_, _, hunion .questions, _, hunion .abuseCases, _, hunion .securityRequirements, _,
    hunion .dataAssets, _, hunion .technicalAssets, _, hunion .trustBoundaries, _,
    hunion .sharedRuntimes, _, hunion .individualCategories, _, hunion .tracking, rfl⟩

/-! ## Texts and tags -/

/-- A text is the first stated one of a list, or all are blank. -/
def FirstStated (ts : List String) (t : String) : Prop :=
  ts.find? (!Text.blank ·) = some t ∨ (∀ s ∈ ts, Text.blank s = true) ∧ Text.blank t = true

theorem firstStated_singleton (t : String) : FirstStated [t] t := by
  cases h : Text.blank t <;> simp [FirstStated, h]

theorem FirstStated.append {ts us : List String} {t u : String} (ht : FirstStated ts t)
    (hu : FirstStated us u) : FirstStated (ts ++ us) (firstStated t u) := by
  rcases ht with hfound | ⟨hblank, hall⟩
  · have hstated : Text.blank t = false := by simpa using List.find?_some hfound
    rw [firstStated, if_neg (by simp [hstated])]
    exact .inl (by rw [List.find?_append, hfound, Option.some_or])
  · rw [firstStated, if_pos hall]
    have hnone : ts.find? (!Text.blank ·) = none :=
      List.find?_eq_none.2 fun s hs => by simp [hblank s hs]
    rcases hu with hfound | ⟨hmore, hblank'⟩
    · exact .inl (by rw [List.find?_append, hnone, Option.none_or, hfound])
    · exact .inr ⟨List.forall_mem_append.2 ⟨hblank, hmore⟩, hblank'⟩

theorem addNew_append (l a b : List String) : addNew l (a ++ b) = addNew (addNew l a) b :=
  List.foldl_append

theorem addNew_cons_of_mem {l : List String} {x : String} (h : x ∈ l) (more : List String) :
    addNew l (x :: more) = addNew l more := by
  simp [addNew, h]

theorem addNew_cons_of_not_mem {l : List String} {x : String} (h : x ∉ l) (more : List String) :
    addNew l (x :: more) = addNew (l ++ [x]) more := by
  simp [addNew, h]

/-- Further values are appended once each. -/
theorem addNew_eq (l more : List String) :
    addNew l more = l ++ (more.filter (· ∉ l)).eraseDups := by
  induction more generalizing l with
  | nil => simp [addNew]
  | cons x more ih =>
    by_cases hx : x ∈ l
    · rw [addNew_cons_of_mem hx, ih, List.filter_cons_of_neg (by simpa using hx)]
    · rw [addNew_cons_of_not_mem hx, ih, List.filter_cons_of_pos (by simpa using hx),
        List.eraseDups_cons, List.filter_filter, List.append_assoc, List.singleton_append]
      refine congrArg (l ++ x :: List.eraseDups ·) (List.filter_congr fun y _ => ?_)
      by_cases hy : y = x <;> simp [hy]

theorem mem_addNew {l more : List String} {x : String} :
    x ∈ addNew l more ↔ x ∈ l ∨ x ∈ more := by
  rw [addNew_eq, List.mem_append, List.mem_eraseDups, List.mem_filter]
  by_cases hx : x ∈ l <;> simp [hx]

/-- Values that are new to a list are new to what it is added to, or are there already. -/
theorem addNew_addNew (l a b : List String) : addNew l (addNew a b) = addNew l (a ++ b) := by
  induction b generalizing a with
  | nil => simp [addNew]
  | cons x b ih =>
    by_cases hx : x ∈ a
    · have hl : x ∈ addNew l a := mem_addNew.2 (.inr hx)
      rw [addNew_cons_of_mem hx, ih, addNew_append, addNew_append, addNew_cons_of_mem hl]
    · rw [addNew_cons_of_not_mem hx, ih, List.append_assoc, List.singleton_append]

end ModelInput

/-! ## Merging many models -/

/-- A model is put together from a root and further parts, in that order. -/
structure MergeOf (root : ModelInput) (rest : List ModelInput) (m : ModelInput) : Prop where
  includes : m.includes = []
  collection : ∀ c, Dict.IsUnion ((root :: rest).map (·.collection c)) (m.collection c)
  scalar : ∀ f, ModelInput.FirstStated ((root :: rest).map (·.scalar f)) (m.scalar f)
  /-- Tags that the root does not have are added once. -/
  tags : m.tagsAvailable = root.tagsAvailable ++
    ((rest.flatMap (·.tagsAvailable)).filter (· ∉ root.tagsAvailable)).eraseDups
  businessImages : m.businessOverview.images = (root :: rest).flatMap (·.businessOverview.images)
  technicalImages : m.technicalOverview.images = (root :: rest).flatMap (·.technicalOverview.images)

/-- The parts state no title twice, in any collection. -/
def TitlesDiffer (parts : List ModelInput) : Prop :=
  ∀ c, parts.Pairwise fun a b => (a.collection c).Disjoint (b.collection c)

theorem TitlesDiffer.sublist {parts parts' : List ModelInput} (h : TitlesDiffer parts')
    (hsub : parts.Sublist parts') : TitlesDiffer parts := fun c => (h c).sublist hsub

namespace MergeOf

variable {root root' m n u : ModelInput} {rest rest' : List ModelInput}

/-- A model alone, apart from what it includes. -/
theorem self (m : ModelInput) : MergeOf m [] { m with includes := [] } where
  includes := rfl
  collection c := by cases c <;> exact Dict.isUnion_singleton _
  scalar f := by cases f <;> exact ModelInput.firstStated_singleton _
  tags := by simp
  businessImages := by simp
  technicalImages := by simp

theorem titlesDiffer (h : MergeOf root rest m) : TitlesDiffer (root :: rest) :=
  fun c => List.pairwise_map.1 (h.collection c).disjoint

/-- The parts of one model stand before those of the other. -/
theorem merge (hm : MergeOf root rest m) (hn : MergeOf root' rest' n) (h : m.merge n = .ok u) :
    MergeOf root (rest ++ root' :: rest') u := by
  have hu := ModelInput.merged_of_merge h
  have hparts : root :: (rest ++ root' :: rest') = (root :: rest) ++ (root' :: rest') := rfl
  refine ⟨hu.includes.trans hm.includes, fun c => ?_, fun f => ?_, ?_, ?_, ?_⟩
  · rw [hparts, List.map_append]
    exact (hm.collection c).union? (hn.collection c) (hu.collection c)
  · rw [hparts, List.map_append, hu.scalar]
    exact (hm.scalar f).append (hn.scalar f)
  · have htags := hm.tags
    have htags' := hn.tags
    rw [← ModelInput.addNew_eq] at htags htags' ⊢
    rw [hu.tags, htags, htags', ModelInput.addNew_addNew, List.flatMap_append, List.flatMap_cons]
    simp only [ModelInput.addNew_append]
  · rw [hparts, List.flatMap_append, hu.businessImages, hm.businessImages, hn.businessImages]
  · rw [hparts, List.flatMap_append, hu.technicalImages, hm.technicalImages, hn.technicalImages]

/-- Two models can be merged if all their parts together state no title twice. -/
theorem exists_merge (hm : MergeOf root rest m) (hn : MergeOf root' rest' n)
    (h : TitlesDiffer ((root :: rest) ++ (root' :: rest'))) : ∃ u, m.merge n = .ok u := by
  refine ModelInput.exists_merge fun c => ((hm.collection c).disjoint_iff (hn.collection c)).2 ?_
  have hacross := (List.pairwise_append.1 (h c)).2.2
  simpa only [List.forall_mem_map] using hacross

end MergeOf

end ThreatModel
