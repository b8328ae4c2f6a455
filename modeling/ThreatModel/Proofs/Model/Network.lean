import ThreatModel.Proofs.Model.Enclosure

/-!
# The network of an asset

An execution environment protects no network, so the network that an asset lies in would be the closest
boundary around it of another kind (`innermostNetwork`). The lookup does not go through the ancestry
for it: where the boundary of an asset is an environment, it takes the one around that, whatever that
is. The two agree unless an environment lies directly in an environment
(`Accepted.networkBoundary_eq_innermostNetwork_iff`), for which the first two ids of the ancestry are
all that is needed (`exists_ancestry_eq`). A link to an asset in such a place never counts as one to
another network; a link out of it may, although it leaves nothing but environments.
-/

namespace ThreatModel

namespace Model

/-- The boundaries around an asset, closest first. -/
def boundariesAround (m : Model) (assetId : String) : List TrustBoundary :=
  match m.directBoundary assetId with
  | some b => (m.ancestry b.id).filterMap m.trustBoundaries.get?
  | none => []

/-- The closest boundary around an asset that is a network. -/
def innermostNetwork (m : Model) (assetId : String) : Option TrustBoundary :=
  (m.boundariesAround assetId).find? (·.kind.isNetwork)

/-- An asset lies in an execution environment, and this directly in one. -/
def WrappedTwice (m : Model) (assetId : String) : Prop :=
  ∃ b ∈ m.directBoundary assetId, ∃ c ∈ m.parentBoundary b.id,
    b.kind = .executionEnvironment ∧ c.kind = .executionEnvironment

instance (m : Model) (assetId : String) : Decidable (m.WrappedTwice assetId) :=
  inferInstanceAs (Decidable (∃ b ∈ m.directBoundary assetId, ∃ c ∈ m.parentBoundary b.id,
    b.kind = .executionEnvironment ∧ c.kind = .executionEnvironment))

theorem isNetwork_eq_false_iff {k : BoundaryKind} :
    k.isNetwork = false ↔ k = .executionEnvironment := by
  simp [BoundaryKind.isNetwork]

theorem networkBoundary_of_environment {m : Model} {id : String} {b : TrustBoundary}
    (hb : m.directBoundary id = some b) (hkind : b.kind.isNetwork = false) :
    m.networkBoundary id = m.parentBoundary b.id := by
  rw [networkBoundary, hb]
  exact if_neg (by simp [hkind])

theorem networkBoundary_of_isNetwork {m : Model} {id : String} {b : TrustBoundary}
    (hb : m.directBoundary id = some b) (hkind : b.kind.isNetwork = true) :
    m.networkBoundary id = some b := by
  rw [networkBoundary, hb]
  exact if_pos hkind

/-- An environment is taken for a network only around another one. -/
theorem wrappedTwice_iff {m : Model} {id : String} :
    m.WrappedTwice id ↔ ∃ c ∈ m.networkBoundary id, c.kind.isNetwork = false := by
  cases hb : m.directBoundary id with
  | none => simp [WrappedTwice, networkBoundary, hb]
  | some b =>
    cases hkind : b.kind.isNetwork with
    | true =>
      rw [networkBoundary_of_isNetwork hb hkind]
      have hnot : b.kind ≠ .executionEnvironment := by
        rw [ne_eq, ← isNetwork_eq_false_iff, hkind]
        decide
      simp [WrappedTwice, hb, hnot, hkind]
    | false =>
      rw [networkBoundary_of_environment hb hkind]
      simp [WrappedTwice, hb, isNetwork_eq_false_iff.1 hkind, isNetwork_eq_false_iff]

/-! ## The first steps of looking up -/

/-- A climb only adds to what it has met. -/
theorem Climb.isPrefix {parents : Dict String} {result ids : List String} {current : Option String}
    (h : Climb parents result current ids) : result <+: ids := by
  induction h with
  | top => exact List.prefix_rfl
  | again => exact List.prefix_rfl
  | up _ _ ih => exact (List.prefix_append ..).trans ih

variable {m : Model} {id : String} {b c : TrustBoundary}

/-- The ancestry of an id starts with it and goes on with its parent, if that is another one. -/
theorem exists_ancestry_eq (m : Model) (id : String) :
    ∃ rest, m.ancestry id = id :: rest ∧
      (m.index.parentBoundary.get? id = none → rest = []) ∧
      ∀ parent ≠ id, m.index.parentBoundary.get? id = some parent → [parent] <+: rest := by
  have hclimb := m.climb_ancestry id
  generalize m.ancestry id = ids at hclimb ⊢
  cases hclimb with
  | again hmet => cases hmet
  | up _ hrest =>
    obtain ⟨rest, rfl⟩ := hrest.isPrefix
    refine ⟨rest, rfl, fun hnone => ?_, fun parent hne hparent => ?_⟩
    · rw [hnone] at hrest
      cases hrest
      rfl
    · rw [hparent] at hrest
      cases hrest with
      | again hmet => exact absurd (List.mem_singleton.1 hmet) hne
      | up _ hrest => exact (List.prefix_append_right_inj _).1 hrest.isPrefix

namespace Accepted

/-- The boundary around a boundary is the first one that lists it. -/
theorem parentBoundary_eq (h : m.Accepted) (id : String) :
    m.parentBoundary id = m.trustBoundaries.values.find? (id ∈ ·.nested) := by
  rw [parentBoundary, h.get?_parentBoundary]
  cases hfound : m.trustBoundaries.values.find? (id ∈ ·.nested) with
  | none => rfl
  | some b => exact h.coherent.trustBoundaries.get?_of_mem (List.mem_of_find?_eq_some hfound)

theorem get?_parentBoundary_eq (h : m.Accepted) (id : String) :
    m.index.parentBoundary.get? id = (m.parentBoundary id).map (·.id) := by
  rw [h.get?_parentBoundary, h.parentBoundary_eq]

theorem mem_values_of_parentBoundary (h : m.Accepted) (hc : m.parentBoundary id = some c) :
    c ∈ m.trustBoundaries.values := by
  rw [h.parentBoundary_eq] at hc
  exact List.mem_of_find?_eq_some hc

/-! ## The innermost network -/

theorem boundariesAround_eq (h : m.Accepted) (hb : m.directBoundary id = some b) :
    ∃ rest, m.boundariesAround id = b :: rest ∧ (m.parentBoundary b.id = none → rest = []) ∧
      ∀ c ≠ b, m.parentBoundary b.id = some c → [c] <+: rest := by
  have hmem := (h.directBoundary_eq_some_iff.1 hb).1
  have hget := h.coherent.trustBoundaries.get?_of_mem hmem
  obtain ⟨ids, hids, hnone, hparent⟩ := m.exists_ancestry_eq b.id
  refine ⟨ids.filterMap m.trustBoundaries.get?, ?_, fun hc => ?_, fun c hne hc => ?_⟩
  · rw [boundariesAround, hb]
    show (m.ancestry b.id).filterMap _ = _
    rw [hids, List.filterMap_cons_some hget]
  · rw [hnone (by rw [h.get?_parentBoundary_eq, hc]; rfl), List.filterMap_nil]
  · have hcget := h.coherent.trustBoundaries.get?_of_mem (h.mem_values_of_parentBoundary hc)
    have hcid : c.id ≠ b.id := fun heq => hne (h.eq_of_get? hmem c (heq ▸ hcget))
    have hprefix := (hparent c.id hcid (by rw [h.get?_parentBoundary_eq, hc]; rfl)).filterMap
      m.trustBoundaries.get?
    rwa [List.filterMap_cons_some hcget, List.filterMap_nil] at hprefix

theorem innermostNetwork_of_isNetwork (h : m.Accepted) (hb : m.directBoundary id = some b)
    (hkind : b.kind.isNetwork = true) : m.innermostNetwork id = some b := by
  obtain ⟨rest, hrest, -⟩ := h.boundariesAround_eq hb
  rw [innermostNetwork, hrest]
  exact List.find?_cons_of_pos hkind

/-- Around an environment the network is the boundary around it, if that is one. -/
theorem innermostNetwork_of_environment (h : m.Accepted) (hb : m.directBoundary id = some b)
    (hkind : b.kind.isNetwork = false)
    (hparent : ∀ c ∈ m.parentBoundary b.id, c.kind.isNetwork = true) :
    m.innermostNetwork id = m.parentBoundary b.id := by
  obtain ⟨rest, hrest, hnone, hsome⟩ := h.boundariesAround_eq hb
  rw [innermostNetwork, hrest, List.find?_cons_of_neg (by simp [hkind])]
  cases hc : m.parentBoundary b.id with
  | none => rw [hnone hc, List.find?_nil]
  | some c =>
    have hnetwork := hparent c hc
    have hne : c ≠ b := by
      rintro rfl
      rw [hkind] at hnetwork
      cases hnetwork
    obtain ⟨more, rfl⟩ := hsome c hne hc
    exact List.find?_cons_of_pos hnetwork

theorem networkBoundary_eq_innermostNetwork_iff (h : m.Accepted) :
    m.networkBoundary id = m.innermostNetwork id ↔ ¬ m.WrappedTwice id := by
  constructor
  · intro heq hwrapped
    obtain ⟨c, hc, hkind⟩ := wrappedTwice_iff.1 hwrapped
    -- What was searched for a network is an environment.
    have hfound := List.find?_some (heq.symm.trans hc)
    rw [hkind] at hfound
    cases hfound
  · intro hwrapped
    have hkinds : ∀ c ∈ m.networkBoundary id, c.kind.isNetwork = true := fun c hc =>
      eq_true_of_ne_false fun hkind => hwrapped (wrappedTwice_iff.2 ⟨c, hc, hkind⟩)
    cases hb : m.directBoundary id with
    | none => rw [networkBoundary, innermostNetwork, boundariesAround, hb, List.find?_nil]
    | some b =>
      cases hkind : b.kind.isNetwork with
      | true =>
        rw [networkBoundary_of_isNetwork hb hkind, h.innermostNetwork_of_isNetwork hb hkind]
      | false =>
        rw [networkBoundary_of_environment hb hkind] at hkinds ⊢
        exact (h.innermostNetwork_of_environment hb hkind hkinds).symm

/-! ## Assets in one network -/

theorem mem_values_of_networkBoundary (h : m.Accepted) (hc : m.networkBoundary id = some c) :
    c ∈ m.trustBoundaries.values := by
  cases hb : m.directBoundary id with
  | none =>
    rw [networkBoundary, hb] at hc
    cases hc
  | some b =>
    cases hkind : b.kind.isNetwork with
    | true =>
      rw [networkBoundary_of_isNetwork hb hkind] at hc
      exact Option.some.inj hc ▸ (h.directBoundary_eq_some_iff.1 hb).1
    | false =>
      rw [networkBoundary_of_environment hb hkind] at hc
      exact h.mem_values_of_parentBoundary hc

/-- Networks with one id are one network. -/
theorem network_eq_iff (h : m.Accepted) {other : String} :
    m.network id = m.network other ↔ m.networkBoundary id = m.networkBoundary other := by
  refine ⟨fun heq => ?_, congrArg _⟩
  rw [network, network] at heq
  cases hc : m.networkBoundary id with
  | none =>
    rw [hc, Option.map_none] at heq
    exact (Option.map_eq_none_iff.1 heq.symm).symm
  | some c =>
    rw [hc, Option.map_some] at heq
    obtain ⟨d, hd, hid⟩ := Option.map_eq_some_iff.1 heq.symm
    have hget := h.coherent.trustBoundaries.get?_of_mem (h.mem_values_of_networkBoundary hc)
    rw [hd, h.eq_of_get? (h.mem_values_of_networkBoundary hd) c (hid ▸ hget)]

theorem sameNetwork_iff (h : m.Accepted) {a : TechnicalAsset} (ha : ¬ m.WrappedTwice a.id)
    (hid : ¬ m.WrappedTwice id) :
    a.sameNetwork m id = true ↔ m.innermostNetwork a.id = m.innermostNetwork id := by
  rw [TechnicalAsset.sameNetwork, decide_eq_true_eq, h.network_eq_iff,
    h.networkBoundary_eq_innermostNetwork_iff.2 ha, h.networkBoundary_eq_innermostNetwork_iff.2 hid]

/-- A link leads to another network if its ends are not in the same one and its target is not in an
environment within an environment. -/
theorem crossesNetwork_iff (h : m.Accepted) {a : TechnicalAsset}
    (ha : a ∈ m.technicalAssets.values) {l : Link} (hl : l ∈ a.links) :
    l.crossesNetwork m = true ↔
      ¬ a.sameNetwork m l.targetId = true ∧ ¬ m.WrappedTwice l.targetId := by
  rw [Link.crossesNetwork, h.coherent.link_source a ha l hl, Bool.and_eq_true, decide_eq_true_eq,
    TechnicalAsset.sameNetwork, decide_eq_true_eq, wrappedTwice_iff]
  refine and_congr_right fun _ => ?_
  cases m.networkBoundary l.targetId <;> simp

end Accepted

/-- The lookup of the network of an asset goes one step up: around an environment it takes the first
boundary that lists it. That is the innermost network just for assets that are not in an environment
within an environment. Of such assets two are in the same network if their innermost networks are the
same, and a link to one of them leads to another network if its ends are not in the same one; a link
to any other asset never does. -/
theorem networkBoundary_one_step_up {m : Model} (h : m.Accepted) :
    (∀ a ∈ m.technicalAssets.values,
      (m.networkBoundary a.id = m.innermostNetwork a.id ↔ ¬ m.WrappedTwice a.id) ∧
        ∀ b, m.directBoundary a.id = some b → b.kind = .executionEnvironment →
          m.networkBoundary a.id = m.trustBoundaries.values.find? (b.id ∈ ·.nested)) ∧
      (∀ a ∈ m.technicalAssets.values, ∀ b ∈ m.technicalAssets.values,
        ¬ m.WrappedTwice a.id → ¬ m.WrappedTwice b.id →
          (a.sameNetwork m b.id = true ↔ m.innermostNetwork a.id = m.innermostNetwork b.id)) ∧
      ∀ a ∈ m.technicalAssets.values, ∀ l ∈ a.links,
        (l.crossesNetwork m = true ↔
          ¬ a.sameNetwork m l.targetId = true ∧ ¬ m.WrappedTwice l.targetId) := by
  refine ⟨fun a _ => ⟨h.networkBoundary_eq_innermostNetwork_iff, fun b hb hkind => ?_⟩,
    fun a _ b _ ha hb => h.sameNetwork_iff ha hb, fun a ha l hl => h.crossesNetwork_iff ha hl⟩
  rw [networkBoundary_of_environment hb (isNetwork_eq_false_iff.2 hkind), h.parentBoundary_eq]

end Model

/-- The shop whose store runs in a pod, in a node of some kind, inside the cloud, and has a link back
to the shop. -/
def clusteredShop (node : String) : ModelInput :=
  { Validation.bookshop with
    technicalAssets := Validation.bookshop.technicalAssets.modify "Store" fun store =>
      { store with
        links := .ofList [("Notify",
          { target := "shop", protocol := "https", authentication := "none", authorization := "none",
            usage := "business" })] }
    trustBoundaries := .ofList [("Cloud",
        { id := "cloud", kind := "network-cloud-provider", assetsInside := ["shop"],
          nested := ["node"] }),
      ("Node", { id := "node", kind := node, nested := ["pod"] }),
      ("Pod", { id := "pod", kind := "execution-environment", assetsInside := ["store"] })] }

/-- Where the node is a network, it is the innermost one of the store, and the link of the shop leads
there. -/
theorem clusteredShop_one_step_up :
    ∃ m, Validation.build ⟨2024, 3, 1⟩ (clusteredShop "network-virtual-lan") = .ok m ∧
      ∃ shop ∈ m.technicalAssets.get? "shop", ∃ store ∈ m.technicalAssets.get? "store",
        ∃ link ∈ shop.links, link.targetId = store.id ∧
          (m.innermostNetwork store.id).map (·.id) = some "node" ∧
          m.networkBoundary store.id = m.innermostNetwork store.id ∧
          ¬ shop.sameNetwork m store.id = true ∧ link.crossesNetwork m = true := by
  have hchecked : (Validation.build ⟨2024, 3, 1⟩ (clusteredShop "network-virtual-lan")).toOption.map
      (fun m => decide (∃ shop ∈ m.technicalAssets.get? "shop",
        ∃ store ∈ m.technicalAssets.get? "store", ∃ link ∈ shop.links, link.targetId = store.id ∧
          (m.innermostNetwork store.id).map (·.id) = some "node" ∧
          m.innermostNetwork shop.id ≠ m.innermostNetwork store.id ∧
          ¬ m.WrappedTwice shop.id ∧ ¬ m.WrappedTwice store.id)) = some true := by
    decide +kernel
  obtain ⟨m, hm, hchecked⟩ := Model.exists_of_build hchecked
  obtain ⟨shop, hshop, store, hstore, link, hlink, htarget, hnode, hne, hwrapped, hwrapped'⟩ :=
    of_decide_eq_true hchecked
  have hshop' := Dict.mem_values_of_get? hshop
  have hstore' := Dict.mem_values_of_get? hstore
  obtain ⟨hlookup, hsame, hcrosses⟩ := Model.networkBoundary_one_step_up (.of_build hm)
  have hapart : ¬ shop.sameNetwork m store.id = true := fun hin =>
    hne ((hsame shop hshop' store hstore' hwrapped hwrapped').1 hin)
  refine ⟨m, hm, shop, hshop, store, hstore, link, hlink, htarget, hnode,
    (hlookup store hstore').1.2 hwrapped', hapart, ?_⟩
  exact (hcrosses shop hshop' link hlink).2 ⟨htarget ▸ hapart, htarget ▸ hwrapped'⟩

/-- Where the node is an environment as well, it is taken for the network of the store. So the shop,
which lies in the innermost network of the store, is not in the same network, and yet its link to the
store leads to no other one. The link back from the store does, although it only leaves
environments. -/
theorem clusteredShop_environments_not_transparent :
    ∃ m, Validation.build ⟨2024, 3, 1⟩ (clusteredShop "execution-environment") = .ok m ∧
      ∃ shop ∈ m.technicalAssets.get? "shop", ∃ store ∈ m.technicalAssets.get? "store",
        m.networkBoundary store.id ≠ m.innermostNetwork store.id ∧
          ¬ (m.innermostNetwork shop.id = m.innermostNetwork store.id →
            shop.sameNetwork m store.id = true) ∧
          (∃ link ∈ shop.links,
            ¬ (link.crossesNetwork m = true ↔ ¬ shop.sameNetwork m link.targetId = true)) ∧
          ∃ back ∈ store.links, back.targetId = shop.id ∧
            m.innermostNetwork store.id = m.innermostNetwork shop.id ∧
            back.crossesNetwork m = true :=
  Model.exists_of_build_decide (by decide +kernel)

end ThreatModel
