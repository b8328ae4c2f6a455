import ThreatModel.Proofs.Model.Nesting

/-!
# What lies around an asset

Looking up asks the index for one parent at a time, the first boundary that lists the one below.
Looking down goes by all that is nested. Each step up is a step down the other way round
(`Accepted.nests_of_stepsUp`); a step down is a step up where no boundary is listed by two others
(`Accepted.stepsUp_of_nests`). So the boundaries above an asset have it among their assets, and in
the second case they are the only ones that do, also where boundaries are nested in circles.
-/

namespace ThreatModel

namespace Model

open Relation (ReflTransGen)

/-- No boundary is listed as nested by two different ones. -/
def NestedOnce (m : Model) : Prop :=
  ∀ b ∈ m.trustBoundaries.values, ∀ c ∈ m.trustBoundaries.values, ∀ id ∈ b.nested, id ∈ c.nested →
    b = c

instance (m : Model) : Decidable m.NestedOnce :=
  inferInstanceAs (Decidable (∀ b ∈ m.trustBoundaries.values, ∀ c ∈ m.trustBoundaries.values,
    ∀ id ∈ b.nested, id ∈ c.nested → b = c))

namespace Accepted

variable {m : Model} {b c : TrustBoundary} {id : String}

theorem get?_parentBoundary (h : m.Accepted) (id : String) :
    m.index.parentBoundary.get? id =
      (m.trustBoundaries.values.find? (id ∈ ·.nested)).map (·.id) := by
  rw [← get?_parentBoundary_buildIndex]
  exact congrArg (·.index.parentBoundary.get? id) h.coherent.index.symm

/-! ## Steps -/

/-- A boundary is nested in the one that is its parent by the index. -/
theorem nests_of_stepsUp (h : m.Accepted) (hc : c ∈ m.trustBoundaries.values)
    (hstep : StepsUp m.index.parentBoundary c.id id) :
    ∃ b ∈ m.trustBoundaries.values, b.id = id ∧ Nests m.trustBoundaries b c := by
  rw [StepsUp, h.get?_parentBoundary, Option.map_eq_some_iff] at hstep
  obtain ⟨b, hfound, hid⟩ := hstep
  have hnested : c.id ∈ b.nested := by simpa using List.find?_some hfound
  exact ⟨b, List.mem_of_find?_eq_some hfound, hid, c.id, hnested,
    h.coherent.trustBoundaries.get?_of_mem hc⟩

/-- Where no other boundary lists it, a boundary has the one that it is nested in as its parent. -/
theorem stepsUp_of_nests (h : m.Accepted) (honce : m.NestedOnce)
    (hb : b ∈ m.trustBoundaries.values) (hnests : Nests m.trustBoundaries b c) :
    StepsUp m.index.parentBoundary c.id b.id := by
  obtain ⟨id, hid, hget⟩ := hnests
  rw [StepsUp, h.get?_parentBoundary, h.own_id id c hget]
  cases hfound : m.trustBoundaries.values.find? (id ∈ ·.nested) with
  | none => simpa [hid] using List.find?_eq_none.1 hfound b hb
  | some u =>
    have hu : id ∈ u.nested := by simpa using List.find?_some hfound
    rw [honce b hb u (List.mem_of_find?_eq_some hfound) id hid hu]
    rfl

/-! ## Walks -/

/-- What the parents of a boundary lead to has the boundary below it. -/
theorem exists_nests_of_stepsUp (h : m.Accepted) (hc : c ∈ m.trustBoundaries.values)
    (hup : ReflTransGen (StepsUp m.index.parentBoundary) c.id id) :
    ∃ b ∈ m.trustBoundaries.values, b.id = id ∧ ReflTransGen (Nests m.trustBoundaries) b c := by
  induction hup with
  | refl => exact ⟨c, hc, rfl, .refl⟩
  | tail _ hstep ih =>
    obtain ⟨u, hu, rfl, hdown⟩ := ih
    obtain ⟨b, hb, hid, hnests⟩ := h.nests_of_stepsUp hu hstep
    exact ⟨b, hb, hid, .head hnests hdown⟩

theorem mem_values_of_nests (h : m.Accepted) (hb : b ∈ m.trustBoundaries.values)
    (hdown : ReflTransGen (Nests m.trustBoundaries) b c) : c ∈ m.trustBoundaries.values :=
  mem_values_of_mem_boundariesWithin hb ((h.mem_boundariesWithin_iff hb).2 hdown)

theorem stepsUp_of_nests_below (h : m.Accepted) (honce : m.NestedOnce)
    (hb : b ∈ m.trustBoundaries.values) (hdown : ReflTransGen (Nests m.trustBoundaries) b c) :
    ReflTransGen (StepsUp m.index.parentBoundary) c.id b.id := by
  induction hdown with
  | refl => exact .refl
  | tail hdown hnests ih =>
    exact .head (h.stepsUp_of_nests honce (h.mem_values_of_nests hb hdown) hnests) ih

/-! ## Assets -/

theorem eq_of_mem_assetsInside (h : m.Accepted) (hb : b ∈ m.trustBoundaries.values)
    (hc : c ∈ m.trustBoundaries.values) (hidb : id ∈ b.assetsInside) (hidc : id ∈ c.assetsInside) :
    b = c := by
  by_contra hne
  obtain ⟨-, hdisjoint⟩ := List.nodup_flatMap.1 h.coherent.inside_nodup
  have : Std.Symm (Function.onFun List.Disjoint TrustBoundary.assetsInside) :=
    ⟨fun _ _ hd _ hx hy => hd hy hx⟩
  exact hdisjoint.forall hb hc hne hidb hidc

/-- The boundary of an asset is the one that lists it. -/
theorem directBoundary_eq_some_iff (h : m.Accepted) :
    m.directBoundary id = some b ↔ b ∈ m.trustBoundaries.values ∧ id ∈ b.assetsInside := by
  have hlookup : m.directBoundary id =
      (m.trustBoundaries.values.find? (id ∈ ·.assetsInside)).bind
        fun b => m.trustBoundaries.get? b.id :=
    (congrArg (·.directBoundary id) h.coherent.index).symm.trans (directBoundary_reindex m id)
  rw [hlookup]
  constructor
  · intro hfound
    obtain ⟨c, hc, hget⟩ := Option.bind_eq_some_iff.1 hfound
    have hmem := List.mem_of_find?_eq_some hc
    rw [h.eq_of_get? hmem b hget]
    exact ⟨hmem, by simpa using List.find?_some hc⟩
  · rintro ⟨hb, hid⟩
    cases hfound : m.trustBoundaries.values.find? (id ∈ ·.assetsInside) with
    | none => simpa [hid] using List.find?_eq_none.1 hfound b hb
    | some c =>
      have hc := List.mem_of_find?_eq_some hfound
      rw [h.eq_of_mem_assetsInside hb hc hid (by simpa using List.find?_some hfound)]
      exact h.coherent.trustBoundaries.get?_of_mem hc

/-- An asset is listed below a boundary if and only if the asset's own boundary is nested in it. -/
theorem mem_assetsWithin_iff (h : m.Accepted) (hb : b ∈ m.trustBoundaries.values)
    (hc : m.directBoundary id = some c) :
    id ∈ m.assetsWithin b ↔ ReflTransGen (Nests m.trustBoundaries) b c := by
  obtain ⟨hmem, hid⟩ := h.directBoundary_eq_some_iff.1 hc
  rw [assetsWithin, List.mem_flatMap, ← h.mem_boundariesWithin_iff hb]
  constructor
  · rintro ⟨u, hu, hidu⟩
    have hvalues := mem_values_of_mem_boundariesWithin hb hu
    rwa [h.eq_of_mem_assetsInside hmem hvalues hid hidu]
  · intro hwithin
    exact ⟨c, hwithin, hid⟩

end Accepted

/-- If `b` is one of the boundaries above an asset, then the asset is among those within `b`, and
the other way round where no boundary is nested in two different ones. -/
theorem mem_ancestry_and_mem_assetsWithin {m : Model} (h : m.Accepted) {id : String}
    {b c : TrustBoundary} (hc : m.directBoundary id = some c)
    (hb : b ∈ m.trustBoundaries.values) :
    (b.id ∈ m.ancestry c.id → id ∈ m.assetsWithin b) ∧
      (m.NestedOnce → id ∈ m.assetsWithin b → b.id ∈ m.ancestry c.id) := by
  have hmem := (h.directBoundary_eq_some_iff.1 hc).1
  rw [h.mem_assetsWithin_iff hb hc, mem_ancestry_iff]
  constructor
  · intro hup
    obtain ⟨u, hu, hid, hdown⟩ := h.exists_nests_of_stepsUp hmem hup
    have hget := h.coherent.trustBoundaries.get?_of_mem hu
    rw [hid] at hget
    rwa [← h.eq_of_get? hb u hget]
  · intro honce hdown
    exact h.stepsUp_of_nests_below honce hb hdown

end Model

/-- In the shop with the ring, looking up from the vault and looking down from the cloud agree. -/
theorem ringedShop_store_in_cloud :
    ∃ m cloud vault, Validation.build ⟨2024, 3, 1⟩ ringedShop = .ok m ∧ m.NestedOnce ∧
      m.trustBoundaries.get? "cloud" = some cloud ∧ m.directBoundary "store" = some vault ∧
      cloud.id ∈ m.ancestry vault.id ∧ "store" ∈ m.assetsWithin cloud ∧
      ("store" ∈ m.assetsWithin cloud → cloud.id ∈ m.ancestry vault.id) := by
  have hchecked : (Validation.build ⟨2024, 3, 1⟩ ringedShop).toOption.map (fun m =>
      (decide m.NestedOnce, (m.trustBoundaries.get? "cloud").map (·.id),
        (m.directBoundary "store").map fun b => (b.id, m.ancestry b.id))) =
        some (true, some "cloud", some ("vault", ["vault", "cloud"])) := by
    decide +kernel
  obtain ⟨m, hm, hchecked⟩ := Model.exists_of_build hchecked
  obtain ⟨honce, hchecked⟩ := Prod.mk.inj hchecked
  obtain ⟨hcloud, hvault⟩ := Prod.mk.inj hchecked
  obtain ⟨cloud, hcloud, hid⟩ := Option.map_eq_some_iff.1 hcloud
  obtain ⟨vault, hvault, hup⟩ := Option.map_eq_some_iff.1 hvault
  have honce : m.NestedOnce := of_decide_eq_true honce
  have hup : cloud.id ∈ m.ancestry vault.id := by
    rw [(Prod.mk.inj hup).2, hid]
    decide
  obtain ⟨hdown, hback⟩ := Model.mem_ancestry_and_mem_assetsWithin (.of_build hm) hvault
    (Dict.mem_values_of_get? hcloud)
  exact ⟨m, cloud, vault, hm, honce, hcloud, hvault, hup, hdown hup, hback honce⟩

end ThreatModel
