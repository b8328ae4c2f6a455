import ThreatModel.Proofs.Model.Nesting

/-!
# Common ancestors

Whether the boundaries of two assets have a common ancestor is found out by comparing two lists, each
of which ends where an id repeats. What the lists hold is all that the parents lead to, and an id has
one parent at most, so two climbs that meet once go on together: that they meet at all is an
equivalence (`equivalence_join_stepsUp`), in circles as well. For assets it is taken along the
boundary that the index has for them; those without one are a class of their own.
-/

namespace ThreatModel

/-- An equivalence of values is one of optional values as well, with no value in a class of its own. -/
theorem equivalence_optionRel {α : Type} {r : α → α → Prop} (h : Equivalence r) :
    Equivalence (Option.Rel r) where
  refl
    | none => .none
    | some x => .some (h.refl x)
  symm
    | .none => .none
    | .some hxy => .some (h.symm hxy)
  trans
    | .none, .none => .none
    | .some hxy, .some hyz => .some (h.trans hxy hyz)

namespace Model

open Relation (ReflTransGen Join)

theorem equivalence_join_stepsUp (parents : Dict String) :
    Equivalence (Join (ReflTransGen (StepsUp parents))) := by
  refine Relation.equivalence_join_reflTransGen fun x y z hy hz => ?_
  -- Two steps from one id lead to the same one.
  obtain rfl : y = z := Option.some.inj (hy.symm.trans hz)
  exact ⟨y, .refl, .refl⟩

theorem any_ancestry_iff {m : Model} {x y : String} :
    (m.ancestry x).any (m.ancestry y).contains = true ↔
      Join (ReflTransGen (StepsUp m.index.parentBoundary)) x y := by
  simp only [List.any_eq_true, List.contains_iff_mem, mem_ancestry_iff]
  rfl

/-- Two assets share an ancestor if both have a boundary by the index and what these lead to meets,
or if none of them has one. -/
theorem sharesAncestor_iff {m : Model} {a b : String} :
    m.sharesAncestor a b = true ↔
      Option.Rel (Join (ReflTransGen (StepsUp m.index.parentBoundary)))
        (m.index.directBoundary.get? a) (m.index.directBoundary.get? b) := by
  rw [sharesAncestor]
  cases m.index.directBoundary.get? a with
  | none =>
    cases m.index.directBoundary.get? b with
    | none => exact iff_of_true rfl .none
    | some y => exact iff_of_false Bool.false_ne_true nofun
  | some x =>
    cases m.index.directBoundary.get? b with
    | none => exact iff_of_false Bool.false_ne_true nofun
    | some y =>
      rw [Option.rel_some_some, Bool.or_eq_true, any_ancestry_iff, decide_eq_true_eq]
      refine ⟨?_, .inr⟩
      rintro (rfl | hmeet)
      · exact (equivalence_join_stepsUp _).refl x
      · exact hmeet

/-- No boundary lists an asset. -/
def Outside (m : Model) (id : String) : Prop := ∀ b ∈ m.trustBoundaries.values, id ∉ b.assetsInside

theorem get?_directBoundary_eq_none_iff {m : Model} {id : String} :
    m.reindex.index.directBoundary.get? id = none ↔ m.Outside id := by
  show m.buildIndex.directBoundary.get? id = none ↔ _
  rw [get?_directBoundary_buildIndex, Option.map_eq_none_iff, List.find?_eq_none]
  simp [Outside]

/-- In every graph, once it is indexed, sharing an ancestor is an equivalence. What no boundary lists
is one class of it, and what has the same boundary is in the same class. -/
theorem sharesAncestor_equivalence (m : Model) :
    Equivalence (fun a b => m.reindex.sharesAncestor a b = true) ∧
      (∀ a, m.Outside a → ∀ b, m.reindex.sharesAncestor a b = true ↔ m.Outside b) ∧
      ∀ a b, m.reindex.index.directBoundary.get? a = m.reindex.index.directBoundary.get? b →
        m.reindex.sharesAncestor a b = true := by
  have hclasses := equivalence_optionRel (equivalence_join_stepsUp m.reindex.index.parentBoundary)
  simp only [sharesAncestor_iff]
  refine ⟨hclasses.comap _, fun a ha b => ?_, fun a b hab => ?_⟩
  · rw [get?_directBoundary_eq_none_iff.2 ha, ← get?_directBoundary_eq_none_iff]
    cases m.reindex.index.directBoundary.get? b with
    | none => exact iff_of_true .none rfl
    | some y => exact iff_of_false nofun nofun
  · rw [hab]
    exact hclasses.refl _

/-- Two boundaries are nested in each other, and a third one is nested in one of them and in one that
stands apart. -/
def knotted : Model where
  title := "Knotted"
  date := ⟨2024, 3, 1⟩
  businessCriticality := .important
  trustBoundaries := .ofList
    [("apart", { (default : TrustBoundary) with
        id := "apart", assetsInside := ["log"], nested := ["inner"] }),
      ("inner", { (default : TrustBoundary) with id := "inner", assetsInside := ["api"] }),
      ("left", { (default : TrustBoundary) with
        id := "left", assetsInside := ["db", "mirror"], nested := ["right"] }),
      ("right", { (default : TrustBoundary) with
        id := "right", assetsInside := ["cache"], nested := ["inner", "left"] })]

/-- The first boundary that lists the third one counts. So its asset goes with the one that stands
apart, those in the ring go together, and what is not listed goes with its like. -/
theorem knotted_classes :
    knotted.reindex.sharesAncestor "log" "api" = true ∧
      knotted.reindex.sharesAncestor "api" "db" = false ∧
      knotted.reindex.sharesAncestor "mirror" "cache" = true ∧
      (knotted.reindex.sharesAncestor "mail" "queue" = true ↔ knotted.Outside "queue") ∧
      knotted.Outside "queue" ∧ ¬ knotted.Outside "db" := by
  obtain ⟨hclasses, houtside, hsame⟩ := sharesAncestor_equivalence knotted
  have hmirror : knotted.reindex.sharesAncestor "mirror" "db" = true :=
    hsame "mirror" "db" (by decide +kernel)
  have hring : knotted.reindex.sharesAncestor "db" "cache" = true := by decide +kernel
  have hmail : knotted.Outside "mail" := by
    unfold Outside
    decide +kernel
  refine ⟨by decide +kernel, by decide +kernel, hclasses.trans hmirror hring,
    houtside "mail" hmail "queue", ?_, ?_⟩
  all_goals
    unfold Outside
    decide +kernel

end Model

end ThreatModel
