import ThreatModel.Proofs.Attractiveness.Scores

/-!
# Scores in the order of attractiveness

A score follows from the place that an asset has in the scale of the model by itself, moved up by what
its links lead to (`get?_scores_eq`). Places keep the order of values but for the start of the scale,
which is put at one percent and so may overtake what lies just behind it (`Scale.Overtakes`). In terms
of the assets: the least attractive asset of all overtakes a gain over it that is less than a hundredth
of what the most attractive asset has over it (`Undercut`, `overtakes_iff`). Assets without links
have their scores in the order of attractiveness in all other cases, and only in these
(`scores_le_iff_of_unlinked`).
-/

namespace ThreatModel

namespace Attractiveness

open Scalar

/-- The scale of a model. -/
def scaleOf (m : Model) : Scale Rat := .spanning (owns m : Dict Rat).values

/-- What the links of an asset add to what it has by itself. -/
def bonus (m : Model) (a : TechnicalAsset) : Rat :=
  if a.outOfScope then 0 else pivot (owns m) (scaleOf m) a (own m a)

/-- An asset is least attractive of all, and the gain over it is less than a hundredth of what some
asset has over it. -/
structure Undercut (m : Model) (a : TechnicalAsset) (gain : Rat) : Prop where
  least : ∀ b ∈ m.technicalAssets.values, (own m a : Rat) ≤ own m b
  pos : 0 < gain
  small : ∃ b ∈ m.technicalAssets.values, 100 * gain < own m b - own m a

theorem bonus_nonneg (m : Model) (a : TechnicalAsset) : 0 ≤ bonus m a := by
  rw [bonus]
  split
  · exact le_refl 0
  · exact pivot_nonneg _ _ a _

theorem bonus_of_unlinked (m : Model) {a : TechnicalAsset} (hlinks : a.links = []) :
    bonus m a = 0 := by
  have hpivot : pivot (owns m) (scaleOf m) a (own m a) = (0 : Rat) := by
    rw [pivot, hlinks]
    rfl
  rw [bonus, hpivot, ite_self]

theorem score_eq {m : Model} {a : TechnicalAsset} (hown : (owns m : Dict Rat).get? a.id = some (own m a)) :
    score (owns m) (scaleOf m) a = least ((scaleOf m).relative (own m a + bonus m a)) 100 := by
  rw [score, hown]
  rfl

section Checked

variable {m : Model} {a b : TechnicalAsset} {gain : Rat}

theorem get?_scores_eq (h : m.Accepted) (ha : a ∈ m.technicalAssets.values) :
    (scores m : Dict Rat).get? a.id =
      some (least ((scaleOf m).relative (own m a + bonus m a)) 100) := by
  rw [get?_scores h ha]
  exact congrArg some (score_eq (get?_owns h ha))

/-! ## The scale and the assets -/

theorem spans_scaleOf (h : m.Accepted) :
    (scaleOf m).Spans (m.technicalAssets.values.map (own m)) := spans_owns h

theorem lowest_le_own (h : m.Accepted) (ha : a ∈ m.technicalAssets.values) :
    (scaleOf m).lowest ≤ own m a := (spans_scaleOf h).lowest_le _ (List.mem_map_of_mem ha)

theorem own_le_lowest_iff (h : m.Accepted) (ha : a ∈ m.technicalAssets.values) :
    own m a ≤ (scaleOf m).lowest ↔
      ∀ b ∈ m.technicalAssets.values, (own m a : Rat) ≤ own m b := by
  constructor
  · intro hle b hb
    exact hle.trans (lowest_le_own h hb)
  · intro hleast
    obtain ⟨b, hb, heq⟩ := List.mem_map.1
      ((spans_scaleOf h).lowest_mem (List.ne_nil_of_mem (List.mem_map_of_mem ha)))
    exact heq ▸ hleast b hb

/-- The start of the scale overtakes what is close behind it in terms of the most attractive
asset. -/
theorem overtakes_iff (h : m.Accepted) (ha : a ∈ m.technicalAssets.values)
    (hdiffer : 0 < gain → ∃ b ∈ m.technicalAssets.values, (own m a : Rat) < own m b) :
    (scaleOf m).Overtakes (own m a) (own m a + gain) ↔ Undercut m a gain := by
  have hspans := spans_scaleOf h
  have hlowest := lowest_le_own h ha
  constructor
  · rintro ⟨hstart, hbehind, hclose⟩
    have heq : (own m a : Rat) = (scaleOf m).lowest := le_antisymm hstart hlowest
    rw [← heq] at hbehind hclose
    rw [add_sub_cancel_left] at hclose
    have hpos : 0 < gain := pos_of_lt_add_right hbehind
    obtain ⟨b, hb, hlt⟩ := hdiffer hpos
    obtain ⟨top, htop, hend⟩ := List.mem_map.1
      (hspans.top_mem ⟨_, List.mem_map_of_mem ha, _, List.mem_map_of_mem hb, hlt.ne⟩)
    refine ⟨(own_le_lowest_iff h ha).1 hstart, hpos, top, htop, ?_⟩
    rw [hend, heq, add_sub_cancel_left]
    exact hclose
  · rintro ⟨hleast, hpos, top, htop, hsmall⟩
    have hstart := (own_le_lowest_iff h ha).2 hleast
    have heq : (own m a : Rat) = (scaleOf m).lowest := le_antisymm hstart hlowest
    have hend : own m top - (scaleOf m).lowest ≤ (scaleOf m).spread :=
      sub_le_iff_le_add'.2 (hspans.le_top _ (List.mem_map_of_mem htop))
    rw [heq] at hsmall
    rw [Scale.Overtakes, heq, add_sub_cancel_left]
    exact ⟨le_refl _, lt_add_of_pos_right _ hpos, hsmall.trans_le hend⟩

end Checked

/-- Of two assets without links the one that is more attractive by itself has a score at least as high,
unless the other one is the least attractive of all and undercut by the difference. -/
theorem scores_le_iff_of_unlinked {m : Model} (h : m.Accepted) {a b : TechnicalAsset}
    (ha : a ∈ m.technicalAssets.values) (hb : b ∈ m.technicalAssets.values) (hla : a.links = [])
    (hlb : b.links = []) (hle : (own m a : Rat) ≤ own m b) :
    ∃ v ∈ (scores m : Dict Rat).get? a.id, ∃ w ∈ (scores m : Dict Rat).get? b.id,
      (v ≤ w ↔ ¬ Undercut m a (own m b - own m a)) := by
  refine ⟨_, get?_scores_eq h ha, _, get?_scores_eq h hb, ?_⟩
  have hgain : (own m b : Rat) = own m a + (own m b - own m a) := (add_sub_cancel _ _).symm
  have hdiffer : 0 < (own m b - own m a : Rat) →
      ∃ c ∈ m.technicalAssets.values, (own m a : Rat) < own m c := by
    intro hpos
    exact ⟨b, hb, sub_pos.1 hpos⟩
  rw [bonus_of_unlinked m hla, bonus_of_unlinked m hlb, add_zero, add_zero,
    Scale.percent_le_percent_iff (spans_scaleOf h).spread_pos hle, ← overtakes_iff h ha hdiffer,
    ← hgain]

/-- A store behind two forwarding assets and a portal, apart from its links. -/
def storefront : ModelInput where
  title := "Storefront"
  businessCriticality := "important"
  technicalAssets := .ofList [
    ("Balancer", {
      id := "balancer", kind := "process", usage := "business", size := "component"
      technology := "load-balancer", machine := "virtual", encryption := "none"
      confidentiality := "public", integrity := "archive", availability := "archive" }),
    ("Proxy", {
      id := "proxy", kind := "process", usage := "business", size := "component"
      technology := "reverse-proxy", machine := "virtual", encryption := "none"
      confidentiality := "internal", integrity := "archive", availability := "archive" }),
    ("Portal", {
      id := "portal", kind := "process", usage := "business", size := "application"
      technology := "web-application", machine := "container", encryption := "none"
      confidentiality := "public", integrity := "archive", availability := "archive" }),
    ("Store", {
      id := "store", kind := "datastore", usage := "business", size := "component"
      technology := "database", machine := "virtual", encryption := "transparent"
      confidentiality := "strictly-confidential", integrity := "mission-critical"
      availability := "mission-critical" })]

/-- The proxy is not the least attractive asset, so the portal has at least its score. -/
theorem storefront_portal_above_proxy :
    ∃ m, Validation.build ⟨2024, 3, 1⟩ storefront = .ok m ∧
      ∃ proxy ∈ m.technicalAssets.get? "proxy", ∃ portal ∈ m.technicalAssets.get? "portal",
        proxy.links = [] ∧ portal.links = [] ∧ (own m proxy : Rat) ≤ own m portal ∧
          ∃ v ∈ (scores m : Dict Rat).get? proxy.id, ∃ w ∈ (scores m : Dict Rat).get? portal.id,
            v ≤ w := by
  have hchecked : (Validation.build ⟨2024, 3, 1⟩ storefront).toOption.map (fun m =>
      decide (∃ proxy ∈ m.technicalAssets.get? "proxy", ∃ portal ∈ m.technicalAssets.get? "portal",
        proxy.links = [] ∧ portal.links = [] ∧ (own m proxy : Rat) ≤ own m portal ∧
          ∃ balancer ∈ m.technicalAssets.get? "balancer",
            (own m balancer : Rat) < own m proxy)) = some true := by
    decide +kernel
  obtain ⟨m, hm, hchecked⟩ := Model.exists_of_build hchecked
  obtain ⟨proxy, hproxy, portal, hportal, hnone, hnone', hle, balancer, hbalancer, hlt⟩ :=
    of_decide_eq_true hchecked
  obtain ⟨v, hv, w, hw, hiff⟩ := scores_le_iff_of_unlinked (.of_build hm)
    (Dict.mem_values_of_get? hproxy) (Dict.mem_values_of_get? hportal) hnone hnone' hle
  have hnot : ¬ Undercut m proxy (own m portal - own m proxy) := by
    intro hundercut
    have hleast := hundercut.least balancer (Dict.mem_values_of_get? hbalancer)
    exact absurd hlt (not_lt.2 hleast)
  exact ⟨m, hm, proxy, hproxy, portal, hportal, hnone, hnone', hle, v, hv, w, hw, hiff.2 hnot⟩

/-- The balancer is less attractive than the proxy, and none of the two has links, yet its score of one
percent is higher than that of the proxy. -/
theorem storefront_balancer_above_proxy :
    ∃ m, Validation.build ⟨2024, 3, 1⟩ storefront = .ok m ∧
      ∃ balancer ∈ m.technicalAssets.get? "balancer", ∃ proxy ∈ m.technicalAssets.get? "proxy",
        balancer.links = [] ∧ proxy.links = [] ∧ (own m balancer : Rat) ≤ own m proxy ∧
          ∃ v ∈ (scores m : Dict Rat).get? balancer.id, ∃ w ∈ (scores m : Dict Rat).get? proxy.id,
            ¬ v ≤ w :=
  Model.exists_of_build_decide (by decide +kernel)

end Attractiveness

end ThreatModel
