import Mathlib.Data.List.Chain
import Mathlib.Data.List.Nodup
import Mathlib.Data.List.Perm.Subperm
import Mathlib.Logic.Relation
import ThreatModel.Model.Nesting
import ThreatModel.Proofs.Model.Neighbours

/-!
# Walks over nested boundaries

Boundaries may be nested in circles, in several others, or not exist, so it has to be shown that the
walks over them end and that they miss nothing. Each walk is first said as a relation with one case
for each thing that it may meet: `Climb` goes up, one parent at a time, until one repeats; `Descent`
goes down into every boundary that was not entered before, then on to the next one. A derivation is
a run to its end, and there always is one (`climb_ancestry`, `Descent.exists_run`). The functions of
the model yield what these runs yield.

A descent turns back at boundaries that it has seen, but all that is nested in what it has entered
has been entered when it ends (`Descent.exhausted`). Depth first means that the next boundary always
comes from the latest one that has any left (`next?`).
-/

namespace ThreatModel

namespace Model

open Relation (ReflTransGen)

/-! ## Looking up -/

/-- A climb from an id, if there is one, after the ids of `result`: it ends where no parent is left
and at an id that it has met before. -/
inductive Climb (parents : Dict String) : List String → Option String → List String → Prop
  | top {result} : Climb parents result none result
  | again {result id} (hmet : id ∈ result) : Climb parents result (some id) result
  | up {result id ids} (hmet : id ∉ result)
      (hrest : Climb parents (result ++ [id]) (parents.get? id) ids) :
      Climb parents result (some id) ids

/-- One id is the parent of the other. -/
def StepsUp (parents : Dict String) (x y : String) : Prop := parents.get? x = some y

namespace Climb

variable {parents : Dict String} {result ids : List String} {current : Option String} {x : String}

theorem nodup (h : Climb parents result current ids) (hresult : result.Nodup) : ids.Nodup := by
  induction h with
  | top => exact hresult
  | again => exact hresult
  | up hmet _ ih => exact ih (by simpa using hresult.concat hmet)

theorem subset (h : Climb parents result current ids) : result ⊆ ids := by
  induction h with
  | top => exact List.Subset.refl _
  | again => exact List.Subset.refl _
  | up _ _ ih => exact List.Subset.trans (List.subset_append_left ..) ih

theorem current_mem (h : Climb parents result current ids) (hx : current = some x) : x ∈ ids := by
  cases h with
  | top => cases hx
  | again hmet => exact Option.some.inj hx ▸ hmet
  | up _ hrest => exact Option.some.inj hx ▸ hrest.subset (by simp)

theorem reachable (h : Climb parents result current ids) (hx : x ∈ ids) :
    x ∈ result ∨ ∃ id, current = some id ∧ ReflTransGen (StepsUp parents) id x := by
  induction h with
  | top => exact .inl hx
  | again => exact .inl hx
  | @up result id ids _ _ ih =>
    obtain hx | ⟨parent, hparent, hx⟩ := ih hx
    · rw [List.mem_append, List.mem_singleton] at hx
      obtain hx | rfl := hx
      · exact .inl hx
      · exact .inr ⟨x, rfl, .refl⟩
    · exact .inr ⟨id, rfl, .head hparent hx⟩

/-- The parent of whatever a climb meets is met as well. -/
theorem step_mem (h : Climb parents result current ids) (hx : x ∈ ids) {y : String}
    (hy : StepsUp parents x y) : x ∈ result ∨ y ∈ ids := by
  induction h with
  | top => exact .inl hx
  | again => exact .inl hx
  | up _ hrest ih =>
    obtain hx | hy := ih hx
    · rw [List.mem_append, List.mem_singleton] at hx
      obtain hx | rfl := hx
      · exact .inl hx
      · exact .inr (hrest.current_mem hy)
    · exact .inr hy

/-- Every id of a climb is followed by its parent. -/
theorem isChain (h : Climb parents result current ids)
    (hresult : (result ++ current.toList).IsChain (StepsUp parents)) :
    ids.IsChain (StepsUp parents) := by
  induction h with
  | top => simpa using hresult
  | again => exact hresult.left_of_append
  | @up result id ids _ _ ih =>
    refine ih ?_
    cases hparent : parents.get? id with
    | none => simpa using hresult
    | some parent =>
      refine List.isChain_append.2 ⟨hresult, .singleton _, ?_⟩
      simpa [StepsUp] using hparent

end Climb

theorem climb_ancestryFrom (parents : Dict String) (seen : List String) (id : String) :
    Climb parents seen.reverse (some id) (seen.reverse ++ ancestryFrom parents seen id) := by
  induction seen, id using ancestryFrom.induct parents with
  | case1 seen id hseen =>
    rw [ancestryFrom, dif_pos hseen, List.append_nil]
    exact .again (by simpa using hseen)
  | case2 seen id hseen hnone =>
    have hwalk : ancestryFrom parents seen id = [id] := by
      rw [ancestryFrom, dif_neg hseen]
      split
      · rfl
      · next heq => cases hnone.symm.trans heq
    rw [hwalk]
    refine .up (by simpa using hseen) ?_
    rw [hnone]
    exact .top
  | case3 seen id hseen parent hparent ih =>
    have hwalk : ancestryFrom parents seen id = id :: ancestryFrom parents (id :: seen) parent := by
      rw [ancestryFrom, dif_neg hseen]
      split
      · next heq => cases hparent.symm.trans heq
      · next heq => rw [Option.some.inj (hparent.symm.trans heq)]
    rw [hwalk]
    refine .up (by simpa using hseen) ?_
    rw [hparent]
    simpa using ih

theorem climb_ancestry (m : Model) (id : String) :
    Climb m.index.parentBoundary [] (some id) (m.ancestry id) :=
  climb_ancestryFrom m.index.parentBoundary [] id

/-- The ancestry of an id is all that its parents lead to. -/
theorem mem_ancestry_iff {m : Model} {id x : String} :
    x ∈ m.ancestry id ↔ ReflTransGen (StepsUp m.index.parentBoundary) id x := by
  have hclimb := m.climb_ancestry id
  constructor
  · intro hx
    obtain hx | ⟨start, hstart, hx⟩ := hclimb.reachable hx
    · cases hx
    · exact Option.some.inj hstart ▸ hx
  · intro hx
    induction hx with
    | refl => exact hclimb.current_mem rfl
    | tail _ hstep ih => exact (hclimb.step_mem ih hstep).resolve_left List.not_mem_nil

/-! ## Looking down -/

/-- A descent into the boundaries with some ids, one after the other: it enters those that exist and
were not seen before. Said of it are the boundaries that it enters, in order, and the ids that are
seen when it ends. -/
inductive Descent (d : Dict TrustBoundary) :
    List String → List String → List TrustBoundary → List String → Prop
  | nil {seen} : Descent d seen [] [] seen
  | missing {seen id ids bs seen'} (hget : d.get? id = none) (hrest : Descent d seen ids bs seen') :
      Descent d seen (id :: ids) bs seen'
  | again {seen id ids b bs seen'} (hget : d.get? id = some b) (hseen : b.id ∈ seen)
      (hrest : Descent d seen ids bs seen') : Descent d seen (id :: ids) bs seen'
  | enter {seen id ids b inner rest mid seen'} (hget : d.get? id = some b) (hseen : b.id ∉ seen)
      (hinner : Descent d (b.id :: seen) b.nested inner mid)
      (hrest : Descent d mid ids rest seen') :
      Descent d seen (id :: ids) (b :: (inner ++ rest)) seen'

/-- One boundary is nested in the other. -/
def Nests (d : Dict TrustBoundary) (b c : TrustBoundary) : Prop :=
  ∃ id ∈ b.nested, d.get? id = some c

/-- The first boundary with one of some ids that was not seen before. -/
def firstNew? (d : Dict TrustBoundary) (seen ids : List String) : Option TrustBoundary :=
  ids.findSome? fun id => (d.get? id).filter fun b => !seen.contains b.id

/-- The boundary that comes next, depth first, when some have been entered, the latest one first in
the list: the first new one in the latest one that has any. -/
def next? (d : Dict TrustBoundary) (entered : List TrustBoundary) : Option TrustBoundary :=
  entered.findSome? fun b => firstNew? d (entered.map (·.id)) b.nested

/-- Boundaries come depth first, when some have been entered before. -/
def DepthFirst (d : Dict TrustBoundary) : List TrustBoundary → List TrustBoundary → Prop
  | _, [] => True
  | entered, b :: bs => next? d entered = some b ∧ DepthFirst d (b :: entered) bs

variable {d : Dict TrustBoundary} {seen seen' ids : List String} {bs entered : List TrustBoundary}
  {b c : TrustBoundary}

theorem firstNew?_eq_none_iff :
    firstNew? d seen ids = none ↔ ∀ id ∈ ids, ∀ b, d.get? id = some b → b.id ∈ seen := by
  rw [firstNew?, List.findSome?_eq_none_iff]
  refine forall₂_congr fun id _ => ?_
  rw [Option.filter_eq_none_iff]
  simp

theorem firstNew?_append {more : List String} :
    firstNew? d seen (ids ++ more) = (firstNew? d seen ids).or (firstNew? d seen more) :=
  List.findSome?_append

theorem firstNew?_cons_eq_none {id : String} (hget : ∀ b, d.get? id = some b → b.id ∈ seen)
    (h : firstNew? d seen ids = none) : firstNew? d seen (id :: ids) = none :=
  firstNew?_eq_none_iff.2 (List.forall_mem_cons.2 ⟨hget, firstNew?_eq_none_iff.1 h⟩)

theorem firstNew?_concat_eq_none {id : String} (h : firstNew? d seen ids = none)
    (hget : ∀ b, d.get? id = some b → b.id ∈ seen) : firstNew? d seen (ids ++ [id]) = none := by
  rw [firstNew?_append, h]
  exact firstNew?_cons_eq_none hget rfl

theorem firstNew?_cons_of_get? {id : String} (hget : d.get? id = some b) (hnew : b.id ∉ seen) :
    firstNew? d seen (id :: ids) = some b := by
  have hkeep : (some b).filter (fun b => !seen.contains b.id) = some b := by simp [hnew]
  rw [firstNew?, List.findSome?_cons, hget, hkeep]

/-- Where nothing new is left, nothing is once more was seen. -/
theorem firstNew?_eq_none_of_subset (hsub : seen ⊆ seen') (h : firstNew? d seen ids = none) :
    firstNew? d seen' ids = none := by
  rw [firstNew?_eq_none_iff] at h ⊢
  exact fun id hid b hget => hsub (h id hid b hget)

theorem depthFirst_append {cs : List TrustBoundary} :
    DepthFirst d entered (bs ++ cs) ↔
      DepthFirst d entered bs ∧ DepthFirst d (bs.reverse ++ entered) cs := by
  induction bs generalizing entered with
  | nil => simp [DepthFirst]
  | cons b bs ih => simp [DepthFirst, ih, and_assoc]

namespace Descent

/-- What is seen in the end is what was entered and what was seen before. -/
theorem seen_eq (h : Descent d seen ids bs seen') : seen' = bs.reverse.map (·.id) ++ seen := by
  induction h with
  | nil => rfl
  | missing _ _ ih => exact ih
  | again _ _ _ ih => exact ih
  | enter _ _ _ _ ihinner ihrest =>
    rw [ihrest, ihinner]
    simp

theorem mem_seen_iff (h : Descent d seen ids bs seen') {id : String} :
    id ∈ seen' ↔ (∃ b ∈ bs, b.id = id) ∨ id ∈ seen := by
  rw [h.seen_eq]
  simp

theorem subset (h : Descent d seen ids bs seen') : seen ⊆ seen' :=
  fun _ hid => h.mem_seen_iff.2 (.inr hid)

/-- Every id is seen once at most. -/
theorem nodup (h : Descent d seen ids bs seen') (hseen : seen.Nodup) : seen'.Nodup := by
  induction h with
  | nil => exact hseen
  | missing _ _ ih => exact ih hseen
  | again _ _ _ ih => exact ih hseen
  | enter _ hnew _ _ ihinner ihrest => exact ihrest (ihinner (List.nodup_cons.2 ⟨hnew, hseen⟩))

theorem reachable (h : Descent d seen ids bs seen') (hc : c ∈ bs) :
    ∃ id ∈ ids, ∃ b, d.get? id = some b ∧ ReflTransGen (Nests d) b c := by
  induction h with
  | nil => cases hc
  | missing _ _ ih =>
    obtain ⟨id, hid, hreach⟩ := ih hc
    exact ⟨id, List.mem_cons_of_mem _ hid, hreach⟩
  | again _ _ _ ih =>
    obtain ⟨id, hid, hreach⟩ := ih hc
    exact ⟨id, List.mem_cons_of_mem _ hid, hreach⟩
  | @enter _ id _ b _ _ _ _ hget _ _ _ ihinner ihrest =>
    rw [List.mem_cons, List.mem_append] at hc
    obtain rfl | hc | hc := hc
    · exact ⟨id, List.mem_cons_self, c, hget, .refl⟩
    · obtain ⟨id', hid', b', hget', hreach⟩ := ihinner hc
      exact ⟨id, List.mem_cons_self, b, hget, .head ⟨id', hid', hget'⟩ hreach⟩
    · obtain ⟨id, hid, hreach⟩ := ihrest hc
      exact ⟨id, List.mem_cons_of_mem _ hid, hreach⟩

/-- A descent leaves nothing new behind, neither with the ids that it was for nor in what it has
entered. -/
theorem exhausted (h : Descent d seen ids bs seen') :
    firstNew? d seen' ids = none ∧ ∀ b ∈ bs, firstNew? d seen' b.nested = none := by
  induction h with
  | nil => exact ⟨rfl, by simp⟩
  | missing hget _ ih => exact ⟨firstNew?_cons_eq_none (by simp [hget]) ih.1, ih.2⟩
  | again hget hseen hrest ih =>
    exact ⟨firstNew?_cons_eq_none (by simpa [hget] using hrest.subset hseen) ih.1, ih.2⟩
  | enter hget _ hinner hrest ihinner ihrest =>
    have hb := hrest.subset (hinner.subset List.mem_cons_self)
    refine ⟨firstNew?_cons_eq_none (by simpa [hget] using hb) ihrest.1, fun c hc => ?_⟩
    rw [List.mem_cons, List.mem_append] at hc
    obtain rfl | hc | hc := hc
    · exact firstNew?_eq_none_of_subset hrest.subset ihinner.1
    · exact firstNew?_eq_none_of_subset hrest.subset (ihinner.2 c hc)
    · exact ihrest.2 c hc

/-- Within a boundary `u`, of which the ids of `done` are finished, a descent goes on depth first
if nothing new is left in what was entered after `u`. -/
theorem depthFirst (h : Descent d seen ids bs seen') {newer older : List TrustBoundary}
    {u : TrustBoundary} {done : List String} (hseen : seen = (newer ++ u :: older).map (·.id))
    (hnested : u.nested = done ++ ids) (hdone : firstNew? d seen done = none)
    (hnewer : ∀ v ∈ newer, firstNew? d seen v.nested = none) :
    DepthFirst d (newer ++ u :: older) bs := by
  induction h generalizing newer older u done with
  | nil => trivial
  | @missing seen id _ _ _ hget _ ih =>
    have hfinished : firstNew? d seen (done ++ [id]) = none :=
      firstNew?_concat_eq_none hdone (by simp [hget])
    exact ih hseen (by simp [hnested]) hfinished hnewer
  | @again seen id _ _ _ _ hget hmem _ ih =>
    have hfinished : firstNew? d seen (done ++ [id]) = none :=
      firstNew?_concat_eq_none hdone (by simpa [hget] using hmem)
    exact ih hseen (by simp [hnested]) hfinished hnewer
  | @enter seen id ids b inner rest mid _ hget hnew hinner hrest ihinner ihrest =>
    have hnext : next? d (newer ++ u :: older) = some b := by
      have hskip : newer.findSome? (fun v => firstNew? d seen v.nested) = none :=
        List.findSome?_eq_none_iff.2 hnewer
      rw [next?, ← hseen, List.findSome?_append, hskip, List.findSome?_cons, hnested,
        firstNew?_append, hdone, firstNew?_cons_of_get? hget hnew]
      rfl
    have hbelow : DepthFirst d ([] ++ b :: (newer ++ u :: older)) inner :=
      ihinner (by simp [hseen]) (List.nil_append _).symm rfl (by simp)
    -- Back in `u`: what was entered below `b` is exhausted, and so is `b` itself.
    have hsub : seen ⊆ mid := List.Subset.trans (List.subset_cons_self ..) hinner.subset
    have hb : b.id ∈ mid := hinner.subset List.mem_cons_self
    have hfinished : firstNew? d mid (done ++ [id]) = none :=
      firstNew?_concat_eq_none (firstNew?_eq_none_of_subset hsub hdone) (by simpa [hget] using hb)
    have hafter : DepthFirst d ((inner.reverse ++ b :: newer) ++ u :: older) rest := by
      refine ihrest ?_ (by simp [hnested]) hfinished fun v hv => ?_
      · rw [hinner.seen_eq, hseen]
        simp
      · rw [List.mem_append, List.mem_reverse, List.mem_cons] at hv
        obtain hv | rfl | hv := hv
        · exact hinner.exhausted.2 v hv
        · exact hinner.exhausted.1
        · exact firstNew?_eq_none_of_subset hsub (hnewer v hv)
    refine ⟨hnext, depthFirst_append.2 ⟨hbelow, ?_⟩⟩
    simpa using hafter

/-! ### Every descent ends -/

/-- The boundaries that have not been seen. -/
def unseen (d : Dict TrustBoundary) (seen : List String) : List TrustBoundary :=
  d.values.filter fun b => !seen.contains b.id

theorem length_unseen_lt {mid : List String} (h : Descent d (b.id :: seen) ids bs mid) {id : String}
    (hget : d.get? id = some b) (hnew : b.id ∉ seen) :
    (unseen d mid).length < (unseen d seen).length := by
  refine length_filter_lt (fun c hc => ?_) (Dict.mem_values_of_get? hget) (by simpa using hnew) ?_
  · have hmid : c.id ∉ mid := by simpa using hc
    simpa using fun hmem => hmid (h.subset (List.mem_cons_of_mem _ hmem))
  · simpa using h.subset List.mem_cons_self

/-- A descent into a new boundary and what follows it has fewer unseen boundaries left. -/
theorem exists_run (d : Dict TrustBoundary) (seen : List String) :
    (ids : List String) → ∃ bs seen', Descent d seen ids bs seen'
  | [] => ⟨[], seen, .nil⟩
  | id :: ids => by
    cases hget : d.get? id with
    | none =>
      obtain ⟨bs, seen', hrest⟩ := exists_run d seen ids
      exact ⟨bs, seen', .missing hget hrest⟩
    | some b =>
      by_cases hseen : b.id ∈ seen
      · obtain ⟨bs, seen', hrest⟩ := exists_run d seen ids
        exact ⟨bs, seen', .again hget hseen hrest⟩
      · obtain ⟨inner, mid, hinner⟩ := exists_run d (b.id :: seen) b.nested
        have hless := hinner.length_unseen_lt hget hseen
        obtain ⟨rest, seen', hrest⟩ := exists_run d mid ids
        exact ⟨b :: (inner ++ rest), seen', .enter hget hseen hinner hrest⟩
termination_by ids => ((unseen d seen).length, ids.length)
decreasing_by
  · exact Prod.Lex.right _ (Nat.lt_succ_self _)
  · exact Prod.Lex.right _ (Nat.lt_succ_self _)
  · exact Prod.Lex.left _ _ (Descent.nil.length_unseen_lt hget hseen)
  · exact Prod.Lex.left _ _ hless

end Descent

/-! ## The boundaries within a boundary -/

theorem reach_missing {id : String} (hget : d.get? id = none) :
    reach d seen (id :: ids) = reach d seen ids := by
  rw [reach]
  split
  · rfl
  · next heq => cases hget.symm.trans heq

theorem reach_again {id : String} (hget : d.get? id = some b) (hseen : b.id ∈ seen) :
    reach d seen (id :: ids) = reach d seen ids := by
  rw [reach]
  split
  · next heq => cases hget.symm.trans heq
  · next heq =>
    obtain rfl := Option.some.inj (hget.symm.trans heq)
    rw [dif_pos (by simpa using hseen)]

theorem reach_enter {id : String} (hget : d.get? id = some b) (hseen : b.id ∉ seen) :
    reach d seen (id :: ids) = b :: reach d (b.id :: seen) (b.nested ++ ids) := by
  rw [reach]
  split
  · next heq => cases hget.symm.trans heq
  · next heq =>
    obtain rfl := Option.some.inj (hget.symm.trans heq)
    rw [dif_neg (by simpa using hseen)]

/-- The walk over pending ids is a descent into the first ones, then the walk over the others. -/
theorem Descent.reach_append (h : Descent d seen ids bs seen') (pending : List String) :
    reach d seen (ids ++ pending) = bs ++ reach d seen' pending := by
  induction h generalizing pending with
  | nil => rfl
  | missing hget _ ih => rw [List.cons_append, reach_missing hget, ih]
  | again hget hseen _ ih => rw [List.cons_append, reach_again hget hseen, ih]
  | enter hget hseen _ _ ihinner ihrest =>
    rw [List.cons_append, reach_enter hget hseen, ihinner, ihrest, List.cons_append,
      List.append_assoc]

theorem Descent.reach_eq (h : Descent d seen ids bs seen') : reach d seen ids = bs := by
  have hreach := h.reach_append []
  rwa [List.append_nil, reach, List.append_nil] at hreach

theorem Descent.mem_values (h : Descent d seen ids bs seen') (hc : c ∈ bs) : c ∈ d.values :=
  Coherent.mem_values_of_mem_reach (h.reach_eq.symm ▸ hc)

variable {m : Model}

theorem Descent.boundariesWithin_eq (h : Descent m.trustBoundaries [b.id] b.nested bs seen') :
    m.boundariesWithin b = b :: bs := by
  rw [boundariesWithin, h.reach_eq]

theorem mem_values_of_mem_boundariesWithin (hb : b ∈ m.trustBoundaries.values)
    (hc : c ∈ m.boundariesWithin b) : c ∈ m.trustBoundaries.values := by
  obtain rfl | hc := List.mem_cons.1 hc
  · exact hb
  · exact Coherent.mem_values_of_mem_reach hc

/-- A run of looking down from a boundary, and what it lists. -/
structure LooksDown (m : Model) (b : TrustBoundary) (bs : List TrustBoundary) : Prop where
  ends : ∃ seen, Descent m.trustBoundaries [b.id] b.nested bs seen
  /-- No boundary is entered twice. -/
  once : ((b :: bs).map (·.id)).Nodup
  depthFirst : DepthFirst m.trustBoundaries [b] bs
  /-- Nothing comes next when it ends. -/
  finished : next? m.trustBoundaries (bs.reverse ++ [b]) = none
  assets : m.assetsWithin b = (b :: bs).flatMap (·.assetsInside)

/-- A run of looking up from an id, and what it lists. -/
structure LooksUp (m : Model) (id : String) (ids : List String) : Prop where
  ends : Climb m.index.parentBoundary [] (some id) ids
  once : ids.Nodup
  /-- Each id is followed by its parent. -/
  chain : ids.IsChain (StepsUp m.index.parentBoundary)
  all : ∀ x, x ∈ ids ↔ ReflTransGen (StepsUp m.index.parentBoundary) id x

theorem looksUp_ancestry (m : Model) (id : String) : m.LooksUp id (m.ancestry id) where
  ends := m.climb_ancestry id
  once := (m.climb_ancestry id).nodup .nil
  chain := (m.climb_ancestry id).isChain (.singleton _)
  all _ := mem_ancestry_iff

theorem looksDown_boundariesWithin (m : Model) (b : TrustBoundary) :
    ∃ bs, m.boundariesWithin b = b :: bs ∧ m.LooksDown b bs := by
  obtain ⟨bs, seen, hdescent⟩ := Descent.exists_run m.trustBoundaries [b.id] b.nested
  have hseen : (bs.reverse ++ [b]).map (·.id) = seen := by simp [hdescent.seen_eq]
  refine ⟨bs, hdescent.boundariesWithin_eq, ⟨seen, hdescent⟩, ?_, ?_, ?_, ?_⟩
  · have hnodup := hdescent.nodup (List.nodup_singleton _)
    rw [← hseen, ← List.reverse_cons, List.map_reverse] at hnodup
    exact List.nodup_reverse.1 hnodup
  · have hdepth : DepthFirst m.trustBoundaries ([] ++ b :: []) bs :=
      hdescent.depthFirst rfl (List.nil_append _).symm rfl (by simp)
    exact hdepth
  · rw [next?, hseen, List.findSome?_eq_none_iff]
    intro c hc
    rw [List.mem_append, List.mem_reverse, List.mem_singleton] at hc
    obtain hc | rfl := hc
    · exact hdescent.exhausted.2 c hc
    · exact hdescent.exhausted.1
  · rw [assetsWithin, hdescent.boundariesWithin_eq]

/-- Below a boundary that shares its id with no other one, all is found that is nested in it,
however deep, and nothing else. -/
theorem mem_boundariesWithin_iff (hown : ∀ id b, m.trustBoundaries.get? id = some b → b.id = id)
    (hb : ∀ c, m.trustBoundaries.get? b.id = some c → c = b) :
    c ∈ m.boundariesWithin b ↔ ReflTransGen (Nests m.trustBoundaries) b c := by
  obtain ⟨bs, seen, hdescent⟩ := Descent.exists_run m.trustBoundaries [b.id] b.nested
  rw [hdescent.boundariesWithin_eq]
  constructor
  · intro hc
    obtain rfl | hc := List.mem_cons.1 hc
    · exact .refl
    · obtain ⟨id, hid, c', hget, hreach⟩ := hdescent.reachable hc
      exact .head ⟨id, hid, hget⟩ hreach
  · intro hreach
    induction hreach with
    | refl => exact List.mem_cons_self
    | @tail u c _ hnests ih =>
      have hexhausted : firstNew? m.trustBoundaries seen u.nested = none := by
        obtain rfl | hu := List.mem_cons.1 ih
        · exact hdescent.exhausted.1
        · exact hdescent.exhausted.2 u hu
      obtain ⟨id, hid, hget⟩ := hnests
      have hc : m.trustBoundaries.get? c.id = some c := by rwa [hown id c hget]
      -- The id of `c` was seen, and what was seen under it is `c`.
      obtain ⟨c', hc', heq⟩ | hseen :=
        hdescent.mem_seen_iff.1 (firstNew?_eq_none_iff.1 hexhausted id hid c hget)
      · obtain ⟨id', hget'⟩ := Dict.mem_values_iff.1 (hdescent.mem_values hc')
        rw [← hown id' c' hget', heq] at hget'
        rw [Option.some.inj (hc.symm.trans hget')]
        exact List.mem_cons_of_mem _ hc'
      · rw [List.mem_singleton] at hseen
        rw [hb c (hseen ▸ hc)]
        exact List.mem_cons_self

/-! ## Checked models -/

namespace Accepted

theorem own_id (h : m.Accepted) (id : String) (b : TrustBoundary)
    (hget : m.trustBoundaries.get? id = some b) : b.id = id :=
  (h.coherent.trustBoundaries id b hget).1

theorem eq_of_get? (h : m.Accepted) (hb : b ∈ m.trustBoundaries.values) (c : TrustBoundary)
    (hc : m.trustBoundaries.get? b.id = some c) : c = b :=
  Option.some.inj (hc.symm.trans (h.coherent.trustBoundaries.get?_of_mem hb))

/-- In a checked model looking down finds what is nested. -/
theorem mem_boundariesWithin_iff (h : m.Accepted) (hb : b ∈ m.trustBoundaries.values) :
    c ∈ m.boundariesWithin b ↔ ReflTransGen (Nests m.trustBoundaries) b c :=
  Model.mem_boundariesWithin_iff h.own_id (h.eq_of_get? hb)

/-- No asset is in two places of a checked model, so none is listed twice below a boundary. -/
theorem nodup_assetsWithin (h : m.Accepted) (hb : b ∈ m.trustBoundaries.values) :
    (m.assetsWithin b).Nodup := by
  obtain ⟨bs, hbs, hdown⟩ := m.looksDown_boundariesWithin b
  have hsubset : m.boundariesWithin b ⊆ m.trustBoundaries.values :=
    fun c hc => mem_values_of_mem_boundariesWithin hb hc
  have hnodup : (m.boundariesWithin b).Nodup := hbs ▸ List.Nodup.of_map _ hdown.once
  obtain ⟨entered, hperm, hsublist⟩ := List.subperm_of_subset hnodup hsubset
  obtain ⟨heach, hdisjoint⟩ := List.nodup_flatMap.1 h.coherent.inside_nodup
  rw [assetsWithin, ← (hperm.flatMap_right _).nodup_iff, List.nodup_flatMap]
  exact ⟨fun c hc => heach c (hsublist.subset hc), hdisjoint.sublist hsublist⟩

end Accepted

/-- Looking up and looking down end in every model. Looking up lists the ids that the parents lead
to, each once. Looking down enters boundaries depth first, each once, and lists the assets inside
them; where every boundary stands under its own id, it enters just those that are nested in the
first one, however deep. In a checked model no asset is listed twice. -/
theorem nesting_walks_complete (m : Model) :
    (∀ id, m.LooksUp id (m.ancestry id)) ∧
      (∀ b, ∃ bs, m.LooksDown b bs ∧
        ((∀ id c, m.trustBoundaries.get? id = some c → c.id = id) →
          (∀ c, m.trustBoundaries.get? b.id = some c → c = b) →
            ∀ c, c ∈ b :: bs ↔ ReflTransGen (Nests m.trustBoundaries) b c)) ∧
      (m.Accepted → ∀ b ∈ m.trustBoundaries.values, (m.assetsWithin b).Nodup) := by
  refine ⟨m.looksUp_ancestry, fun b => ?_, fun h b hb => h.nodup_assetsWithin hb⟩
  obtain ⟨bs, hbs, hdown⟩ := m.looksDown_boundariesWithin b
  refine ⟨bs, hdown, fun hown hb c => ?_⟩
  rw [← hbs]
  exact mem_boundariesWithin_iff hown hb

end Model

/-- The shop with two boundaries that are nested in each other. -/
def ringedShop : ModelInput :=
  { Validation.bookshop with
    trustBoundaries := .ofList [("Cloud",
        { id := "cloud", kind := "network-cloud-provider", assetsInside := ["shop"],
          nested := ["vault"] }),
      ("Vault",
        { id := "vault", kind := "network-cloud-security-group", assetsInside := ["store"],
          nested := ["cloud"] })] }

theorem ringedShop_walks :
    ∃ m cloud, Validation.build ⟨2024, 3, 1⟩ ringedShop = .ok m ∧
      m.trustBoundaries.get? "cloud" = some cloud ∧ cloud.nested = ["vault"] ∧
      m.ancestry "vault" = ["vault", "cloud"] ∧ m.LooksUp "vault" (m.ancestry "vault") ∧
      (∃ bs, m.LooksDown cloud bs ∧
        ∀ c, c ∈ cloud :: bs ↔ Relation.ReflTransGen (Model.Nests m.trustBoundaries) cloud c) ∧
      (m.assetsWithin cloud).Nodup := by
  have hchecked : (Validation.build ⟨2024, 3, 1⟩ ringedShop).toOption.map (fun m =>
      ((m.trustBoundaries.get? "cloud").map (·.nested), m.ancestry "vault")) =
        some (some ["vault"], ["vault", "cloud"]) := by
    decide +kernel
  obtain ⟨m, hm, hchecked⟩ := Model.exists_of_build hchecked
  obtain ⟨hnested, hancestry⟩ := Prod.mk.inj hchecked
  obtain ⟨cloud, hcloud, hnested⟩ := Option.map_eq_some_iff.1 hnested
  have haccepted : m.Accepted := .of_build hm
  have hmem : cloud ∈ m.trustBoundaries.values := Dict.mem_values_of_get? hcloud
  obtain ⟨hup, hdown, hassets⟩ := Model.nesting_walks_complete m
  obtain ⟨bs, hbs, hall⟩ := hdown cloud
  exact ⟨m, cloud, hm, hcloud, hnested, hancestry, hup "vault",
    ⟨bs, hbs, hall haccepted.own_id (haccepted.eq_of_get? hmem)⟩, hassets haccepted cloud hmem⟩

end ThreatModel
