import Mathlib.Data.List.Flatten
import ThreatModel.Model.Neighbourhood
import ThreatModel.Proofs.Model.Accepted
import ThreatModel.Rule.Finding

/-!
# What is found in a coherent model

Rules look elements up by id: the source and the target of a link, the callers of an asset, the
members of a boundary. In a coherent model none of these look-ups fails, every link has one source
and one target among the assets, and the ids of elements are plain. So a rule that goes over all
accesses, or over all links of all assets, meets each link once (`nodup_linkIds_of_accesses`,
`nodup_linkIds_of_links`).
-/

namespace ThreatModel

open Validation

/-! ## Keys -/

namespace Dict.KeyedBy

variable {α : Type} {id : α → String} {d : Dict α} {v w : α}

theorem eq_of_id (h : d.KeyedBy id) (hv : v ∈ d.values) (hw : w ∈ d.values) (hid : id v = id w) :
    v = w := List.inj_on_of_nodup_map h.nodup hv hw hid

theorem get?_of_mem (h : d.KeyedBy id) (hv : v ∈ d.values) : d.get? (id v) = some v := by
  obtain ⟨k, hk⟩ := mem_values_iff.1 hv
  rwa [(h k v hk).1]

theorem contains_of_mem (h : d.KeyedBy id) (hv : v ∈ d.values) : d.contains (id v) = true :=
  contains_eq_true_iff.2 ⟨v, h.get?_of_mem hv⟩

theorem isId_of_mem (h : d.KeyedBy id) (hv : v ∈ d.values) : IsId (id v) := by
  obtain ⟨k, hk⟩ := mem_values_iff.1 hv
  obtain ⟨heq, hid⟩ := h k v hk
  exact heq ▸ hid

theorem isId_of_contains (h : d.KeyedBy id) {k : String} (hk : d.contains k = true) : IsId k := by
  obtain ⟨v, hv⟩ := contains_eq_true_iff.1 hk
  exact (h k v hv).2

/-- What is found under some ids has these ids, apart from those that are not found. -/
theorem map_filterMap_get?_sublist (h : d.KeyedBy id) (keys : List String) :
    ((keys.filterMap d.get?).map id).Sublist keys := by
  induction keys with
  | nil => exact List.Sublist.refl _
  | cons k keys ih =>
    cases hk : d.get? k with
    | none =>
      rw [List.filterMap_cons_none hk]
      exact ih.cons k
    | some v =>
      rw [List.filterMap_cons_some hk, List.map_cons, (h k v hk).1]
      exact ih.cons_cons k

/-- Some of the elements, listed in the order of their ids. -/
theorem pairwise_filter (h : d.KeyedBy id) (q : α → Bool) :
    ((d.values.filter q).map id).Pairwise (· < ·) := by
  refine List.Pairwise.sublist (List.filter_sublist.map id) ?_
  rw [h.map_values]
  exact d.pairwise_keys

/-- If all ids are known, what is found under them has these ids. -/
theorem map_filterMap_get? (h : d.KeyedBy id) {keys : List String}
    (hkeys : ∀ k ∈ keys, d.contains k = true) : (keys.filterMap d.get?).map id = keys := by
  rw [List.map_filterMap]
  refine (List.filterMap_congr fun k hk => ?_).trans List.filterMap_some
  obtain ⟨v, hv⟩ := contains_eq_true_iff.1 (hkeys k hk)
  rw [hv, Option.map_some, (h k v hv).1]

/-- Elements are found again under their ids. -/
theorem filterMap_get?_map (h : d.KeyedBy id) {vs : List α} (hvs : ∀ v ∈ vs, v ∈ d.values) :
    (vs.map id).filterMap d.get? = vs := by
  rw [List.filterMap_map]
  exact (List.filterMap_congr fun v hv => h.get?_of_mem (hvs v hv)).trans List.filterMap_some

/-- What is found under some ids is what has these ids. -/
theorem mem_filterMap_get?_iff (h : d.KeyedBy id) {keys : List String} :
    v ∈ keys.filterMap d.get? ↔ v ∈ d.values ∧ id v ∈ keys := by
  rw [List.mem_filterMap]
  constructor
  · rintro ⟨k, hk, hv⟩
    exact ⟨mem_values_of_get? hv, (h k v hv).1.symm ▸ hk⟩
  · rintro ⟨hv, hid⟩
    exact ⟨id v, hid, h.get?_of_mem hv⟩

/-- A dictionary of elements under their ids can be filled anew from their values. -/
theorem ofList_map_values {β : Type} (h : d.KeyedBy id) (f : α → β) :
    ofList (d.values.map fun v => (id v, f v)) = d.map f := by
  have hentries : d.values.map (fun v => (id v, f v)) = (d.map f).entries := by
    rw [values, List.map_map]
    refine List.map_congr_left fun e he => ?_
    rw [Function.comp_apply, (h e.1 e.2 (get?_eq_some_iff.2 he)).1]
  rw [hentries, ofList_entries]

end Dict.KeyedBy

theorem Validation.IsId.plain {s : String} (h : IsId s) : Risk.Plain s := by
  intro hat
  have := h.2 '@' hat
  revert this
  decide

theorem mem_values_of_inScope {m : Model} {a : TechnicalAsset} (ha : a ∈ m.inScope) :
    a ∈ m.technicalAssets.values := List.mem_of_mem_filter ha

theorem inScope_sublist (m : Model) : m.inScope.Sublist m.technicalAssets.values :=
  List.filter_sublist

namespace Model.Coherent

variable {m : Model} {a : TechnicalAsset} {l : Link} {x : Access} {id : String}

/-! ## Ids -/

theorem plain_asset (h : m.Coherent) (ha : a ∈ m.technicalAssets.values) : Risk.Plain a.id :=
  (h.technicalAssets.isId_of_mem ha).plain

/-- A link id is never empty and has no `@`: before the `>` stands an id, behind it a slug. -/
theorem plain_link (h : m.Coherent) (hl : l ∈ m.links) : l.id ≠ "" ∧ Risk.Plain l.id := by
  obtain ⟨a, ha, hla⟩ := List.mem_flatMap.1 hl
  obtain ⟨title, hid⟩ := h.link_id l hl
  rw [hid, h.link_source a ha l hla]
  have hmark : Risk.Plain ">" := by simp [Risk.Plain]
  refine ⟨?_, Risk.plain_append.2 ⟨Risk.plain_append.2 ⟨h.plain_asset ha, hmark⟩, ?_⟩⟩
  · intro hempty
    have := congrArg String.toList hempty
    simp at this
  · intro hat
    rcases Text.mem_slug hat with h | h
    · revert h
      decide
    · revert h
      decide

/-! ## Links -/

theorem mem_links (ha : a ∈ m.technicalAssets.values) (hl : l ∈ a.links) : l ∈ m.links :=
  List.mem_flatMap.2 ⟨a, ha, hl⟩

theorem link_eq_of_id {k : Link} (h : m.Coherent) (hk : k ∈ m.links) (hl : l ∈ m.links)
    (hid : k.id = l.id) : k = l := List.inj_on_of_nodup_map h.link_ids_nodup hk hl hid

/-- Every link has a source among the assets. -/
theorem get?_source (h : m.Coherent) (ha : a ∈ m.technicalAssets.values) (hl : l ∈ a.links) :
    m.technicalAssets.get? l.sourceId = some a := by
  rw [h.link_source a ha l hl]
  exact h.technicalAssets.get?_of_mem ha

/-- The target of a link is the asset whose id the link names. -/
theorem target_spec (h : m.Coherent) {target : TechnicalAsset} (hl : m.target? l = some target) :
    target ∈ m.technicalAssets.values ∧ target.id = l.targetId :=
  ⟨Dict.mem_values_of_get? hl, (h.technicalAssets _ _ hl).1⟩

theorem incomingLinks_eq (h : m.Coherent) (id : String) :
    m.incomingLinks id = m.links.filter (·.targetId = id) :=
  h.index ▸ incomingLinks_reindex m id

/-! ## Boundaries -/

theorem mem_values_of_mem_reach {boundaries : Dict TrustBoundary} {seen pending : List String}
    {b : TrustBoundary} (hb : b ∈ reach boundaries seen pending) : b ∈ boundaries.values := by
  fun_induction reach boundaries seen pending with
  | case1 => cases hb
  | case2 seen id pending hnone ih => exact ih hb
  | case3 seen id pending c hc hseen ih => exact ih hb
  | case4 seen id pending c hc hseen ih =>
    rcases List.mem_cons.1 hb with rfl | hb
    · exact Dict.mem_values_of_get? hc
    · exact ih hb

/-- What lies inside a boundary or a boundary inside it is known. -/
theorem contains_of_mem_assetsWithin (h : m.Coherent) {b : TrustBoundary}
    (hb : b ∈ m.trustBoundaries.values) :
    ∀ id ∈ m.assetsWithin b, m.technicalAssets.contains id = true := by
  intro id hid
  obtain ⟨c, hc, hid⟩ := List.mem_flatMap.1 hid
  rcases List.mem_cons.1 hc with heq | hc
  · exact h.inside c (heq ▸ hb) id hid
  · exact h.inside c (mem_values_of_mem_reach hc) id hid

/-! ## Accesses -/

/-- An access is a link to the asset, with the asset that owns the link. -/
theorem mem_accesses (h : m.Coherent) (hx : x ∈ m.accesses id) :
    x.caller ∈ m.technicalAssets.values ∧ x.link ∈ x.caller.links ∧ x.link.targetId = id := by
  simp only [accesses, List.mem_filterMap, Option.map_eq_some_iff, h.incomingLinks_eq,
    List.mem_filter, decide_eq_true_eq] at hx
  obtain ⟨l, ⟨hl, htarget⟩, a, hsource, rfl⟩ := hx
  obtain ⟨owner, howner, hl⟩ := List.mem_flatMap.1 hl
  have heq : owner = a := Option.some.inj ((h.get?_source howner hl).symm.trans hsource)
  exact ⟨heq ▸ howner, heq ▸ hl, htarget⟩

theorem mem_accesses_iff (h : m.Coherent) : x ∈ m.accesses id ↔
    x.caller ∈ m.technicalAssets.values ∧ x.link ∈ x.caller.links ∧ x.link.targetId = id := by
  refine ⟨h.mem_accesses, fun ⟨hcaller, hl, htarget⟩ => ?_⟩
  rw [accesses, List.mem_filterMap]
  refine ⟨x.link, ?_, by rw [h.get?_source hcaller hl, Option.map_some]⟩
  rw [h.incomingLinks_eq, List.mem_filter, decide_eq_true_eq]
  exact ⟨mem_links hcaller hl, htarget⟩

/-- All links to an asset count as accesses. -/
theorem map_link_accesses (h : m.Coherent) (id : String) :
    (m.accesses id).map (·.link) = m.incomingLinks id := by
  rw [accesses, List.map_filterMap]
  refine (List.filterMap_congr fun l hl => ?_).trans List.filterMap_some
  rw [h.incomingLinks_eq] at hl
  obtain ⟨owner, howner, hl⟩ := List.mem_flatMap.1 (List.mem_of_mem_filter hl)
  rw [h.get?_source howner hl]
  rfl

theorem nodup_linkIds_of_links (h : m.Coherent) {assets : List TechnicalAsset}
    (hassets : assets.Sublist m.technicalAssets.values) {f : TechnicalAsset → List Link}
    (hf : ∀ a ∈ assets, (f a).Sublist a.links) : ((assets.flatMap f).map (·.id)).Nodup :=
  h.link_ids_nodup.sublist <| List.Sublist.map _ <|
    (List.Sublist.flatMap_right _ hf).trans (hassets.flatMap _)

theorem nodup_linkIds_of_accesses (h : m.Coherent) {assets : List TechnicalAsset}
    (hassets : assets.Sublist m.technicalAssets.values) {f : TechnicalAsset → List Access}
    (hf : ∀ a ∈ assets, (f a).Subperm (m.accesses a.id)) :
    ((assets.flatMap f).map (·.link.id)).Nodup := by
  rw [List.map_flatMap, List.nodup_flatMap]
  constructor
  · -- the links to one asset are some of all links
    intro a ha
    obtain ⟨xs, hperm, hsub⟩ := hf a ha
    have hlinks : (xs.map (·.link)).Sublist m.links := by
      refine (hsub.map _).trans ?_
      rw [h.map_link_accesses, h.incomingLinks_eq]
      exact List.filter_sublist
    have hids := h.link_ids_nodup.sublist (hlinks.map (·.id))
    rw [List.map_map] at hids
    exact (hperm.map _).nodup_iff.1 hids
  · -- a link to two assets would have two targets
    have hne : assets.Pairwise fun a b => a.id ≠ b.id :=
      List.pairwise_map.1 (h.technicalAssets.nodup.sublist (hassets.map _))
    refine hne.imp_of_mem ?_
    intro a b ha hb hab id hida hidb
    obtain ⟨x, hx, rfl⟩ := List.mem_map.1 hida
    obtain ⟨y, hy, heq⟩ := List.mem_map.1 hidb
    obtain ⟨hxa, hxl, hxt⟩ := h.mem_accesses ((hf a ha).subset hx)
    obtain ⟨hya, hyl, hyt⟩ := h.mem_accesses ((hf b hb).subset hy)
    have hsame : y.link = x.link := h.link_eq_of_id (mem_links hya hyl) (mem_links hxa hxl) heq
    exact hab (hxt.symm.trans (hsame ▸ hyt))

end Model.Coherent

end ThreatModel
