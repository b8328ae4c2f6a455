import ThreatModel.Model.Basic
import ThreatModel.Unseen

/-!
# Nesting of trust boundaries

Boundaries may be nested in each other, even in circles. Looking up, the ancestry of a boundary follows
the parents until one repeats; looking down, the boundaries inside one are listed depth first, each
once. Both walks end because every step visits something new.
-/

namespace ThreatModel

namespace Model

/-- An id and the ids above it, closest first, up to one that was seen already. -/
def ancestryFrom (parents : Dict String) (seen : List String) (id : String) : List String :=
  if _hseen : seen.contains id = true then []
  else match _h : parents.get? id with
    | none => [id]
    | some parent => id :: ancestryFrom parents (id :: seen) parent
termination_by (parents.keys.filter fun k => !seen.contains k).length
decreasing_by
  refine length_filter_unseen_lt (f := fun k => k) ?_ (by simpa using _hseen)
  exact Dict.mem_keys_iff.2 (by simp [Dict.contains, _h])

/-- A boundary id and the ids of all boundaries above it, closest first. -/
def ancestry (m : Model) (boundaryId : String) : List String :=
  ancestryFrom m.index.parentBoundary [] boundaryId

/-- The boundaries reached from pending ids, depth first, without those seen already. -/
def reach (boundaries : Dict TrustBoundary) (seen : List String) : List String → List TrustBoundary
  | [] => []
  | id :: pending =>
    match _h : boundaries.get? id with
    | none => reach boundaries seen pending
    | some b =>
      if _hseen : seen.contains b.id = true then reach boundaries seen pending
      else b :: reach boundaries (b.id :: seen) (b.nested ++ pending)
termination_by pending =>
  ((boundaries.values.filter fun b => !seen.contains b.id).length, pending.length)
decreasing_by
  · exact Prod.Lex.right _ (Nat.lt_succ_self _)
  · exact Prod.Lex.right _ (Nat.lt_succ_self _)
  · refine Prod.Lex.left _ _ (length_filter_unseen_lt (f := TrustBoundary.id) ?_ (by simpa using _hseen))
    exact Dict.mem_values_iff.2 ⟨id, _h⟩

/-- A boundary and all boundaries inside it, depth first. -/
def boundariesWithin (m : Model) (b : TrustBoundary) : List TrustBoundary :=
  b :: reach m.trustBoundaries [b.id] b.nested

/-- The assets inside a boundary or a boundary inside it. -/
def assetsWithin (m : Model) (b : TrustBoundary) : List String :=
  (m.boundariesWithin b).flatMap (·.assetsInside)

/-- Whether two assets lie in no boundary or in boundaries with a common ancestor. -/
def sharesAncestor (m : Model) (a b : String) : Bool :=
  match m.index.directBoundary.get? a, m.index.directBoundary.get? b with
  | none, none => true
  | some x, some y => x = y || (m.ancestry x).any (m.ancestry y).contains
  | _, _ => false

end Model

end ThreatModel
