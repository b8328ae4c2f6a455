import Mathlib.Data.List.Nodup
import ThreatModel.Model.Basic
import ThreatModel.Proofs.Dict

/-!
# The index and the graph

The index of a model is built in two loops, over the links and over the trust boundaries. Each
field of it is filled by one of the loops and left alone by the other one (`foldl_unchanged`), so a
lookup can be said in terms of the graph: the link with an id is the last one that has it
(`link?_reindex`), the links to an asset are those that name it as their target
(`incomingLinks_reindex`), and an asset or a boundary lies in the first boundary that lists it
(`directBoundary_reindex`, `parentBoundary_reindex`).
-/

namespace ThreatModel.Model

/-- What no round of a loop changes is the same after the loop. -/
theorem foldl_unchanged {σ ι γ : Type} (view : σ → γ) (step : σ → ι → σ)
    (h : ∀ s x, view (step s x) = view s) (s : σ) (l : List ι) :
    view (l.foldl step s) = view s := by
  induction l generalizing s with
  | nil => rfl
  | cons x l ih => rw [List.foldl_cons, ih, h]

/-- The loop over the links enters all of them under their ids. -/
theorem linksById_foldl_indexLink (i : Index) (ls : List Link) :
    (ls.foldl indexLink i).linksById = i.linksById.insertAll (ls.map fun l => (l.id, l)) := by
  induction ls generalizing i with
  | nil => rfl
  | cons l ls ih =>
    rw [List.foldl_cons, ih]
    rfl

theorem linksById_buildIndex (m : Model) :
    m.buildIndex.linksById = Dict.ofList (m.links.map fun l => (l.id, l)) := by
  rw [buildIndex, foldl_unchanged Index.linksById indexBoundary fun _ _ => rfl,
    linksById_foldl_indexLink]
  rfl

/-- Of several links with an id the last one counts. -/
theorem link?_reindex (m : Model) (id : String) :
    m.reindex.link? id = m.links.reverse.find? (·.id = id) := by
  show m.buildIndex.linksById.get? id = _
  rw [linksById_buildIndex, Dict.get?_ofList, ← List.map_reverse, List.find?_map, Option.map_map]
  exact congrFun Option.map_id_fun' _

theorem isSome_link?_reindex (m : Model) (id : String) :
    (m.reindex.link? id).isSome = true ↔ id ∈ m.links.map (·.id) := by
  rw [link?_reindex, List.find?_isSome]
  simp

/-- Where link ids are distinct, every link is found under its id. -/
theorem link?_reindex_of_mem {m : Model} (hids : (m.links.map (·.id)).Nodup) {l : Link}
    (hl : l ∈ m.links) : m.reindex.link? l.id = some l := by
  rw [link?_reindex]
  cases hfound : m.links.reverse.find? (·.id = l.id) with
  | none =>
    have := List.find?_eq_none.1 hfound l (List.mem_reverse.2 hl)
    simp at this
  | some k =>
    have hk : k ∈ m.links := List.mem_reverse.1 (List.mem_of_find?_eq_some hfound)
    have hid : k.id = l.id := by simpa using List.find?_some hfound
    rw [List.inj_on_of_nodup_map hids hk hl hid]

/-! ## Links to an asset -/

/-- The loop over the links appends each one to those with the same target. -/
theorem incoming_foldl_indexLink (i : Index) (ls : List Link) (id : String) :
    ((ls.foldl indexLink i).incoming.get? id).getD [] =
      (i.incoming.get? id).getD [] ++ ls.filter (·.targetId = id) := by
  induction ls generalizing i with
  | nil => simp
  | cons l ls ih =>
    rw [List.foldl_cons, ih, indexLink, Dict.get?_push]
    by_cases h : id = l.targetId
    · simp [h]
    · simp [h, Ne.symm h]

theorem incomingLinks_reindex (m : Model) (id : String) :
    m.reindex.incomingLinks id = m.links.filter (·.targetId = id) := by
  show (m.buildIndex.incoming.get? id).getD [] = _
  rw [buildIndex, foldl_unchanged Index.incoming indexBoundary fun _ _ => rfl,
    incoming_foldl_indexLink]
  rfl

/-! ## Boundaries around assets and boundaries -/

/-- Members that have a boundary keep it. -/
theorem get?_foldl_insertNew (d : Dict String) (members : List String) (boundaryId id : String) :
    (members.foldl (fun d a => d.insertNew a boundaryId) d).get? id =
      (d.get? id).or (if id ∈ members then some boundaryId else none) := by
  induction members generalizing d with
  | nil => simp
  | cons k members ih =>
    rw [List.foldl_cons, ih, Dict.get?_insertNew]
    by_cases h : id = k
    · simp [h]
    · simp [h]

/-- The loop over the boundaries enters members of one kind under the first boundary that lists
them. -/
theorem get?_foldl_indexBoundary (view : Index → Dict String)
    (members : TrustBoundary → List String)
    (h : ∀ i b, view (indexBoundary i b) =
      (members b).foldl (fun d a => d.insertNew a b.id) (view i))
    (i : Index) (bs : List TrustBoundary) (id : String) :
    (view (bs.foldl indexBoundary i)).get? id =
      ((view i).get? id).or ((bs.find? (id ∈ members ·)).map (·.id)) := by
  induction bs generalizing i with
  | nil => simp
  | cons b bs ih =>
    rw [List.foldl_cons, ih, h, get?_foldl_insertNew, Option.or_assoc]
    by_cases hid : id ∈ members b
    · simp [hid]
    · simp [hid]

/-- The index has the id of the first boundary that lists an asset. -/
theorem get?_directBoundary_buildIndex (m : Model) (id : String) :
    m.buildIndex.directBoundary.get? id =
      (m.trustBoundaries.values.find? (id ∈ ·.assetsInside)).map (·.id) := by
  rw [buildIndex, get?_foldl_indexBoundary Index.directBoundary (·.assetsInside) fun _ _ => rfl,
    foldl_unchanged Index.directBoundary indexLink fun _ _ => rfl]
  rfl

theorem get?_parentBoundary_buildIndex (m : Model) (id : String) :
    m.buildIndex.parentBoundary.get? id =
      (m.trustBoundaries.values.find? (id ∈ ·.nested)).map (·.id) := by
  rw [buildIndex, get?_foldl_indexBoundary Index.parentBoundary (·.nested) fun _ _ => rfl,
    foldl_unchanged Index.parentBoundary indexLink fun _ _ => rfl]
  rfl

/-- The boundary of an asset is looked up by the id of the first one that lists it. -/
theorem directBoundary_reindex (m : Model) (id : String) :
    m.reindex.directBoundary id = (m.trustBoundaries.values.find? (id ∈ ·.assetsInside)).bind
      fun b => m.trustBoundaries.get? b.id := by
  show (m.buildIndex.directBoundary.get? id).bind m.trustBoundaries.get? = _
  rw [get?_directBoundary_buildIndex]
  exact Option.bind_map

/-- So is the boundary that a boundary is nested in. -/
theorem parentBoundary_reindex (m : Model) (id : String) :
    m.reindex.parentBoundary id = (m.trustBoundaries.values.find? (id ∈ ·.nested)).bind
      fun b => m.trustBoundaries.get? b.id := by
  show (m.buildIndex.parentBoundary.get? id).bind m.trustBoundaries.get? = _
  rw [get?_parentBoundary_buildIndex]
  exact Option.bind_map

end ThreatModel.Model
