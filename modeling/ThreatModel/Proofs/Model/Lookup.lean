import ThreatModel.Model.Neighbourhood
import ThreatModel.Proofs.Model.Index

/-!
# Lookups answer from the graph

The graph of a model may be edited at will, even into one that validation would refuse: ids may be
used twice, several boundaries may list one asset, an element may stand under a key that is not its
id. `Model.IndexFits` says of every lookup what it has to answer, in terms of the graph alone, and
`reindex_fits` proves that `Model.reindex` makes it so for every graph, whatever the index was before.
-/

namespace ThreatModel

namespace Model

/-- The graph has a link from an asset with the id `x` to the id `y`. -/
def LinksTo (m : Model) (x y : String) : Prop :=
  ∃ a ∈ m.technicalAssets.values, a.id = x ∧ ∃ l ∈ a.links, l.targetId = y

/-- Every link carries the id of the asset that it belongs to. -/
def OwnsLinks (m : Model) : Prop :=
  ∀ a ∈ m.technicalAssets.values, ∀ l ∈ a.links, l.sourceId = a.id

/-- The lookups of a model answer from its graph. -/
structure IndexFits (m : Model) : Prop where
  /-- The links to an asset, in the order of all links. -/
  incoming : ∀ id, m.incomingLinks id = m.links.filter (·.targetId = id)
  /-- Of the links with an id the last one counts. -/
  link : ∀ id, m.link? id = (m.links.filter (·.id = id)).getLast?
  link_none : ∀ id, m.link? id = none ↔ ∀ l ∈ m.links, l.id ≠ id
  /-- The first boundary that lists an asset decides; what stands under its id is the answer. -/
  direct : ∀ id, m.directBoundary id =
    (m.trustBoundaries.values.find? (id ∈ ·.assetsInside)).bind (m.trustBoundaries.get? ·.id)
  parent : ∀ id, m.parentBoundary id =
    (m.trustBoundaries.values.find? (id ∈ ·.nested)).bind (m.trustBoundaries.get? ·.id)
  connected : m.OwnsLinks → ∀ a b : TechnicalAsset,
    a.connectedTo m b.id = true ↔ m.LinksTo a.id b.id ∨ m.LinksTo b.id a.id
  connected_symm : ∀ a b : TechnicalAsset, a.connectedTo m b.id = b.connectedTo m a.id

/-! ## Links and connections -/

theorem link?_reindex_eq_getLast? (m : Model) (id : String) :
    m.reindex.link? id = (m.links.filter (·.id = id)).getLast? := by
  rw [link?_reindex, ← List.head?_filter, List.filter_reverse, List.head?_reverse]

theorem link?_reindex_eq_none_iff (m : Model) (id : String) :
    m.reindex.link? id = none ↔ ∀ l ∈ m.links, l.id ≠ id := by
  rw [link?_reindex, List.find?_eq_none]
  simp

/-- A link to `y` that carries the id `x` is one of an asset with that id. -/
theorem any_incomingLinks_reindex {m : Model} (h : m.OwnsLinks) (x y : String) :
    (m.reindex.incomingLinks y).any (·.sourceId = x) = true ↔ m.LinksTo x y := by
  rw [incomingLinks_reindex, List.any_eq_true]
  simp only [List.mem_filter, decide_eq_true_eq]
  constructor
  · rintro ⟨l, ⟨hl, htarget⟩, hsource⟩
    obtain ⟨a, ha, hl⟩ := List.mem_flatMap.1 hl
    exact ⟨a, ha, (h a ha l hl).symm.trans hsource, l, hl, htarget⟩
  · rintro ⟨a, ha, hid, l, hl, htarget⟩
    exact ⟨l, ⟨List.mem_flatMap.2 ⟨a, ha, hl⟩, htarget⟩, (h a ha l hl).trans hid⟩

theorem connectedTo_comm (m : Model) (a b : TechnicalAsset) :
    a.connectedTo m b.id = b.connectedTo m a.id := Bool.or_comm ..

theorem connectedTo_reindex_iff {m : Model} (h : m.OwnsLinks) (a b : TechnicalAsset) :
    a.connectedTo m.reindex b.id = true ↔ m.LinksTo a.id b.id ∨ m.LinksTo b.id a.id := by
  rw [TechnicalAsset.connectedTo, Bool.or_eq_true, any_incomingLinks_reindex h,
    any_incomingLinks_reindex h]
  exact or_comm

/-! ## The index is computed anew -/

/-- After indexing the lookups answer from the graph, which is left as it was; the index before
plays no part, and indexing again changes nothing. -/
theorem reindex_fits (m : Model) :
    m.reindex.IndexFits ∧ { m.reindex with index := m.index } = m ∧
      (∀ old : Index, { m with index := old }.reindex = m.reindex) ∧
        m.reindex.reindex = m.reindex := by
  refine ⟨?_, rfl, fun _ => rfl, reindex_reindex m⟩
  exact {
    incoming := incomingLinks_reindex m
    link := link?_reindex_eq_getLast? m
    link_none := link?_reindex_eq_none_iff m
    direct := directBoundary_reindex m
    parent := parentBoundary_reindex m
    connected := connectedTo_reindex_iff (m := m)
    connected_symm := connectedTo_comm m.reindex }

/-- A graph that validation would refuse, with an index that does not fit it: two links have one id,
two boundaries list one asset. -/
def tangled : Model where
  title := "Tangled"
  date := ⟨2024, 3, 1⟩
  businessCriticality := .important
  technicalAssets := .ofList
    [("api", { (default : TechnicalAsset) with
        id := "api"
        links :=
          [{ (default : Link) with
              id := "api>ask", sourceId := "api", targetId := "db", title := "Ask" },
            { (default : Link) with
              id := "api>ask", sourceId := "api", targetId := "db", title := "Ask again" }] }),
      ("db", { (default : TechnicalAsset) with id := "db" })]
  trustBoundaries := .ofList
    [("inner", { (default : TrustBoundary) with id := "inner", assetsInside := ["api"] }),
      ("outer", { (default : TrustBoundary) with
        id := "outer", assetsInside := ["db", "api"], nested := ["inner"] })]
  index := { directBoundary := .ofList [("api", "outer")] }

/-- The last link with the id is found, the first boundary counts, and the link connects both
ways. -/
theorem tangled_fits :
    tangled.OwnsLinks ∧ (tangled.reindex.link? "api>ask").map (·.title) = some "Ask again" ∧
      (tangled.reindex.directBoundary "api").map (·.id) = some "inner" ∧
      (tangled.reindex.parentBoundary "inner").map (·.id) = some "outer" ∧
      ∀ a ∈ tangled.technicalAssets.get? "db", ∀ b ∈ tangled.technicalAssets.get? "api",
        a.connectedTo tangled.reindex b.id = true := by
  have howns : tangled.OwnsLinks := by
    unfold OwnsLinks
    decide +kernel
  obtain ⟨hfits, -⟩ := reindex_fits tangled
  refine ⟨howns, ?_, ?_, ?_, fun a ha b hb => ?_⟩
  · rw [hfits.link]
    decide +kernel
  · rw [hfits.direct]
    decide +kernel
  · rw [hfits.parent]
    decide +kernel
  · -- The link leads from the second asset to the first one.
    refine (hfits.connected howns a b).2 (.inr ⟨b, Dict.mem_values_of_get? hb, rfl, ?_⟩)
    revert a b
    decide +kernel

end Model

end ThreatModel
