import ThreatModel.Proofs.Attractiveness.Order

/-!
# Stepping stones

A link that transfers no data makes no asset more attractive by itself, so it leaves the scale of a
model as it is (`owns_addLink`), and with it the scores of all assets but the one that it starts at.
What links add to that one is the greatest gain that any of them leads to (`pivot_le_iff`), so one
more link never takes anything from it (`pivot_withLink`). Its score falls nevertheless if it was the
one percent at the start of the scale and the link moves it to a place close behind the start
(`addLink_scores`).
-/

namespace ThreatModel

/-- The asset with one more link, in the order of link ids. -/
def TechnicalAsset.withLink (a : TechnicalAsset) (l : Link) : TechnicalAsset :=
  { a with links := Validation.sortLinks (l :: a.links) }

/-- The model with one more link of an asset. -/
def Model.addLink (m : Model) (id : String) (l : Link) : Model :=
  reindex { m with technicalAssets := m.technicalAssets.modify id (·.withLink l) }

namespace Attractiveness

open Scalar

theorem perm_links_withLink (a : TechnicalAsset) (l : Link) :
    (a.withLink l).links.Perm (l :: a.links) := List.mergeSort_perm ..

/-! ## The attractiveness of assets by themselves -/

section Weight

variable {m : Model} {a : TechnicalAsset} {l : Link} {id : String}

/-- Transferred data is counted in any order. -/
theorem foldl_transferredWeight_perm {ds es : List DataAsset} (h : ds.Perm es) (n : Nat) :
    ds.foldl (fun n d => n + transferredWeight d) n =
      es.foldl (fun n d => n + transferredWeight d) n := by
  refine h.foldl_eq' ?_ n
  intro d _ e _ k
  exact Nat.add_right_comm ..

theorem weight_withLink (hdata : l.data = []) :
    weight (m.addLink id l) (a.withLink l) = weight m a := by
  have hperm : ((a.withLink l).links.flatMap (·.data)).Perm (a.links.flatMap (·.data)) := by
    have hflat := (perm_links_withLink a l).flatMap_right (·.data)
    rwa [List.flatMap_cons, hdata, List.nil_append] at hflat
  exact foldl_transferredWeight_perm (hperm.filterMap _) _

theorem own_withLink {ν : Type} [Scalar ν] (hdata : l.data = []) :
    (own (m.addLink id l) (a.withLink l) : ν) = own m a := by
  rw [own, weight_withLink hdata]
  rfl

theorem owns_addLink {ν : Type} [Scalar ν] (hdata : l.data = []) :
    (owns (m.addLink id l) : Dict ν) = owns m := by
  have hvalues : (m.addLink id l).technicalAssets.values = m.technicalAssets.entries.map fun e =>
      if e.1 = id then e.2.withLink l else e.2 := List.map_map
  rw [owns, owns, hvalues, Dict.map_values, List.map_map]
  refine congrArg Dict.ofList (List.map_congr_left fun e _ => ?_)
  rw [Function.comp_apply]
  split
  · exact congrArg _ (own_withLink hdata)
  · rfl

end Weight

/-! ## What links add -/

section Pivot

variable {values : Dict Rat} {s : Scale Rat} {a : TechnicalAsset} {v u : Rat} {l : Link}

theorem foldl_greatest_le_iff {vs : List Rat} : vs.foldl greatest v ≤ u ↔ ∀ w ∈ v :: vs, w ≤ u := by
  obtain ⟨hmem, hgreatest⟩ := foldl_greatest_spec v vs
  constructor
  · intro hle w hw
    exact (hgreatest w hw).trans hle
  · intro hall
    exact hall _ hmem

/-- Links add the greatest gain that one of them leads to, if there is any. -/
theorem pivot_le_iff : pivot values s a v ≤ u ↔ 0 ≤ u ∧ ∀ l ∈ a.links,
    ∀ target ∈ values.get? l.targetId, (s.relative target - s.relative v) / 3 ≤ u := by
  have hpivot : pivot values s a v = (((a.links.filterMap fun l => values.get? l.targetId).map
      fun target => (s.relative target - s.relative v) / 3).filter (less 0 ·)).foldl greatest 0 := rfl
  rw [hpivot, foldl_greatest_le_iff, List.forall_mem_cons]
  refine and_congr_right fun hu => ?_
  constructor
  · intro hall l hl target htarget
    rcases le_or_gt ((s.relative target - s.relative v) / 3) 0 with hloss | hgain
    · exact hloss.trans hu
    · refine hall _ (List.mem_filter.2 ⟨?_, decide_eq_true hgain⟩)
      exact List.mem_map_of_mem (List.mem_filterMap.2 ⟨l, hl, htarget⟩)
  · intro hall w hw
    obtain ⟨target, htarget, rfl⟩ := List.mem_map.1 (List.mem_of_mem_filter hw)
    obtain ⟨l, hl, htarget⟩ := List.mem_filterMap.1 htarget
    exact hall l hl target htarget

theorem pivot_withLink {target : Rat} (htarget : values.get? l.targetId = some target) :
    pivot values s (a.withLink l) v =
      max (pivot values s a v) ((s.relative target - s.relative v) / 3) := by
  refine eq_of_forall_ge_iff fun u => ?_
  rw [max_le_iff, pivot_le_iff, pivot_le_iff]
  simp only [(perm_links_withLink a l).mem_iff, List.forall_mem_cons, htarget, Option.mem_some_iff,
    forall_eq']
  tauto

end Pivot

/-! ## Scores with one more link -/

section Checked

variable {m : Model} {s t : TechnicalAsset} {l : Link}

/-- A third of what one asset has over another one in percent. -/
def gain (m : Model) (s t : TechnicalAsset) : Rat :=
  ((scaleOf m).relative (own m t) - (scaleOf m).relative (own m s)) / 3

/-- What has a gain over an asset at the start of the scale is more attractive by itself. -/
theorem exists_own_lt (h : m.Accepted) (ht : t ∈ m.technicalAssets.values)
    (hleast : own m s ≤ (scaleOf m).lowest) (hgain : 0 < gain m s t) :
    ∃ b ∈ m.technicalAssets.values, (own m s : Rat) < own m b := by
  have hpos := (spans_scaleOf h).spread_pos
  refine ⟨t, ht, ?_⟩
  by_contra hnot
  have hle : (own m t : Rat) ≤ own m s := not_lt.1 hnot
  rw [gain, Scale.relative_of_le hpos (hle.trans hleast), Scale.relative_of_le hpos hleast,
    sub_self, zero_div] at hgain
  exact lt_irrefl 0 hgain

theorem get?_scores_addLink (h : m.Accepted) (hdata : l.data = []) (id k : String) :
    (scores (m.addLink id l) : Dict Rat).get? k = (m.technicalAssets.get? k).map fun a =>
      score (owns m) (scaleOf m) (if k = id then a.withLink l else a) := by
  have hkeyed : (m.addLink id l).technicalAssets.KeyedBy (·.id) := by
    intro k a ha
    obtain ⟨b, hb, rfl⟩ := Option.map_eq_some_iff.1 ((Dict.get?_modify _ id k _).symm.trans ha)
    obtain ⟨heq, hid⟩ := h.coherent.technicalAssets k b hb
    refine ⟨?_, hid⟩
    split
    · exact heq
    · exact heq
  rw [scores, owns_addLink hdata, hkeyed.ofList_map_values, Dict.map, Dict.get?_mapWithKey]
  show ((m.technicalAssets.modify id (·.withLink l)).get? k).map _ = _
  rw [Dict.get?_modify, Option.map_map]
  rfl

theorem get?_scores_addLink_of_ne (h : m.Accepted) (hdata : l.data = []) {id k : String}
    (hk : k ≠ id) : (scores (m.addLink id l) : Dict Rat).get? k = (scores m : Dict Rat).get? k := by
  rw [get?_scores_addLink h hdata, scores_eq h, Dict.map, Dict.get?_mapWithKey]
  simp only [if_neg hk]
  rfl

theorem get?_scores_addLink_self (h : m.Accepted) (hs : s ∈ m.technicalAssets.values)
    (ht : t ∈ m.technicalAssets.values) (hscope : s.outOfScope = false) (htarget : l.targetId = t.id)
    (hdata : l.data = []) : (scores (m.addLink s.id l) : Dict Rat).get? s.id = some
      (least ((scaleOf m).relative (own m s + max (bonus m s) (gain m s t))) 100) := by
  have hscore : score (owns m) (scaleOf m) (s.withLink l) = least
      ((scaleOf m).relative (own m s + pivot (owns m) (scaleOf m) (s.withLink l) (own m s))) 100 := by
    have hown : (owns m : Dict Rat).get? (s.withLink l).id = some (own m s) := get?_owns h hs
    have hscope' : (s.withLink l).outOfScope = false := hscope
    rw [score, hown, hscope']
    rfl
  have hbonus : bonus m s = pivot (owns m) (scaleOf m) s (own m s) := by
    rw [bonus, hscope]
    rfl
  rw [get?_scores_addLink h hdata, h.coherent.technicalAssets.get?_of_mem hs, Option.map_some,
    if_pos rfl, hscore, pivot_withLink (htarget ▸ get?_owns h ht), hbonus]
  rfl

/-- With the gain of one more link an asset is overtaken from where it was only if it was at the start
of the scale. -/
theorem overtakes_bonus_iff (h : m.Accepted) (hs : s ∈ m.technicalAssets.values)
    (ht : t ∈ m.technicalAssets.values) :
    (scaleOf m).Overtakes (own m s + bonus m s) (own m s + max (bonus m s) (gain m s t)) ↔
      bonus m s = 0 ∧ Undercut m s (gain m s t) := by
  have hnonneg := bonus_nonneg m s
  have hlowest := lowest_le_own h hs
  constructor
  · intro hover
    have hbonus : bonus m s = 0 := by
      have hstart := hover.1.trans hlowest
      exact le_antisymm ((add_le_iff_nonpos_right _).1 hstart) hnonneg
    rw [hbonus, add_zero] at hover
    have hpos : 0 < gain m s t := by
      have hbehind := pos_of_lt_add_right (hover.1.trans_lt hover.2.1)
      exact (lt_max_iff.1 hbehind).resolve_left (lt_irrefl 0)
    rw [max_eq_right hpos.le] at hover
    exact ⟨hbonus, (overtakes_iff h hs (exists_own_lt h ht hover.1)).1 hover⟩
  · rintro ⟨hbonus, hundercut⟩
    have hstart := (own_le_lowest_iff h hs).2 hundercut.least
    rw [hbonus, add_zero, max_eq_right hundercut.pos.le]
    exact (overtakes_iff h hs (exists_own_lt h ht hstart)).2 hundercut

end Checked

/-- One more link that transfers no data leaves the scores of all other assets as they are and lowers
that of its source in one case only: the source is the least attractive asset of all, no link led it to a
more attractive one so far, and the gain that the new link leads to undercuts it. -/
theorem addLink_scores {m : Model} (h : m.Accepted) {s t : TechnicalAsset}
    (hs : s ∈ m.technicalAssets.values) (ht : t ∈ m.technicalAssets.values)
    (hscope : s.outOfScope = false) {l : Link} (htarget : l.targetId = t.id) (hdata : l.data = []) :
    (∀ id ≠ s.id,
      (scores (m.addLink s.id l) : Dict Rat).get? id = (scores m : Dict Rat).get? id) ∧
      ∃ v ∈ (scores m : Dict Rat).get? s.id, ∃ w ∈ (scores (m.addLink s.id l) : Dict Rat).get? s.id,
        (v ≤ w ↔ ¬ (bonus m s = 0 ∧ Undercut m s (gain m s t))) := by
  refine ⟨fun id hid => get?_scores_addLink_of_ne h hdata hid, _, get?_scores_eq h hs, _,
    get?_scores_addLink_self h hs ht hscope htarget hdata, ?_⟩
  have hle : own m s + bonus m s ≤ own m s + max (bonus m s) (gain m s t) := by
    gcongr
    exact le_max_left _ _
  rw [Scale.percent_le_percent_iff (spans_scaleOf h).spread_pos hle, overtakes_bonus_iff h hs ht]

/-- A link from one asset to another one that transfers no data. -/
def forwarding (source target : String) : Link :=
  { (default : Link) with
    id := source ++ ">forward", sourceId := source, targetId := target, title := "Forward" }

/-- A link to the store raises the score of the proxy and leaves that of the balancer alone. -/
theorem storefront_proxy_forwards :
    ∃ m, Validation.build ⟨2024, 3, 1⟩ storefront = .ok m ∧
      ∃ proxy ∈ m.technicalAssets.get? "proxy", ∃ store ∈ m.technicalAssets.get? "store",
        proxy.outOfScope = false ∧ (forwarding proxy.id store.id).targetId = store.id ∧
          (forwarding proxy.id store.id).data = [] ∧
          (scores (m.addLink proxy.id (forwarding proxy.id store.id)) : Dict Rat).get? "balancer" =
            (scores m : Dict Rat).get? "balancer" ∧
          ∃ v ∈ (scores m : Dict Rat).get? proxy.id,
            ∃ w ∈ (scores (m.addLink proxy.id (forwarding proxy.id store.id)) : Dict Rat).get? proxy.id,
              v ≤ w := by
  have hchecked : (Validation.build ⟨2024, 3, 1⟩ storefront).toOption.map (fun m =>
      decide (∃ proxy ∈ m.technicalAssets.get? "proxy", ∃ store ∈ m.technicalAssets.get? "store",
        proxy.outOfScope = false ∧ proxy.id = "proxy" ∧
          ∃ balancer ∈ m.technicalAssets.get? "balancer",
            (own m balancer : Rat) < own m proxy)) = some true := by
    decide +kernel
  obtain ⟨m, hm, hchecked⟩ := Model.exists_of_build hchecked
  obtain ⟨proxy, hproxy, store, hstore, hscope, hid, balancer, hbalancer, hlt⟩ :=
    of_decide_eq_true hchecked
  obtain ⟨hothers, v, hv, w, hw, hiff⟩ := addLink_scores (l := forwarding proxy.id store.id)
    (.of_build hm) (Dict.mem_values_of_get? hproxy) (Dict.mem_values_of_get? hstore) hscope rfl rfl
  have hnot : ¬ (bonus m proxy = 0 ∧ Undercut m proxy (gain m proxy store)) := by
    rintro ⟨-, hundercut⟩
    have hleast := hundercut.least balancer (Dict.mem_values_of_get? hbalancer)
    exact absurd hlt (not_lt.2 hleast)
  have hbalancer : (scores (m.addLink proxy.id (forwarding proxy.id store.id)) : Dict Rat).get?
      "balancer" = (scores m : Dict Rat).get? "balancer" := by
    refine hothers "balancer" ?_
    rw [hid]
    decide
  exact ⟨m, hm, proxy, hproxy, store, hstore, hscope, rfl, rfl, hbalancer, v, hv, w, hw, hiff.2 hnot⟩

/-- A link to the portal, which is more attractive, lowers the score of the balancer. -/
theorem storefront_balancer_forwards :
    ∃ m, Validation.build ⟨2024, 3, 1⟩ storefront = .ok m ∧
      ∃ balancer ∈ m.technicalAssets.get? "balancer", ∃ portal ∈ m.technicalAssets.get? "portal",
        balancer.outOfScope = false ∧ m.link? (forwarding balancer.id portal.id).id = none ∧
          (forwarding balancer.id portal.id).data = [] ∧
          (own m balancer : Rat) < own m portal ∧
          ∃ v ∈ (scores m : Dict Rat).get? balancer.id,
            ∃ w ∈ (scores (m.addLink balancer.id (forwarding balancer.id portal.id)) : Dict Rat).get?
              balancer.id, ¬ v ≤ w :=
  Model.exists_of_build_decide (by decide +kernel)

end Attractiveness

end ThreatModel
