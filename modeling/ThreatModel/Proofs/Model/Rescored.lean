import Mathlib.Data.List.Forall2
import Mathlib.Data.Option.Basic
import ThreatModel.Model.Neighbourhood
import ThreatModel.Model.Protection
import ThreatModel.Proofs.Model.Accepted

/-!
# Questions that scores do not change

No question that a model answers about its elements reads a score. Two models that differ in the scores
of their assets only have the same graph and, if the index was kept, the same index, so they give the
same answers (`Model.AnswersAlike`); where an answer is an asset, it is the same one but for its score.
-/

namespace ThreatModel

namespace TechnicalAsset

variable {m : Model} {a a' : TechnicalAsset}

/-- Whether two assets differ in their scores only. -/
def SameButScore (a a' : TechnicalAsset) : Prop := a' = { a with raa := a'.raa }

theorem sameButScore_raa (a : TechnicalAsset) (score : Float) :
    a.SameButScore { a with raa := score } := rfl

/-- Whether an asset of one model answers all questions as an asset of another one does. -/
structure AnswersAlike (m m' : Model) (a a' : TechnicalAsset) : Prop where
  rating : a'.rating m' = a.rating m
  sensitivity : a'.sensitivity = a.sensitivity
  holds : ∀ dataId, a'.holds dataId = a.holds dataId
  accepts : ∀ format, a'.accepts format = a.accepts format
  sameBoundary : ∀ id, a'.sameBoundary m' id = a.sameBoundary m id
  sameExecutionEnvironment :
    ∀ id, a'.sameExecutionEnvironment m' id = a.sameExecutionEnvironment m id
  sameNetwork : ∀ id, a'.sameNetwork m' id = a.sameNetwork m id
  connectedTo : ∀ id, a'.connectedTo m' id = a.connectedTo m id
  tagged : ∀ candidates, taggedWithAny a'.tags candidates = taggedWithAny a.tags candidates
  taggedWithBase : ∀ base, taggedWithBase a'.tags base = taggedWithBase a.tags base
  inheritsAny : ∀ candidates, a'.inheritsAny m' candidates = a.inheritsAny m candidates

theorem SameButScore.answersAlike (h : a.SameButScore a') (raa : String → Float) :
    AnswersAlike m (m.rescored raa) a a' := by
  rw [SameButScore] at h
  rw [h]
  exact ⟨rfl, rfl, fun _ => rfl, fun _ => rfl, fun _ => rfl, fun _ => rfl, fun _ => rfl, fun _ => rfl,
    fun _ => rfl, fun _ => rfl, fun _ => rfl⟩

end TechnicalAsset

namespace Model

/-- Whether two models answer all questions alike, but for the scores of the assets in the answers. -/
structure AnswersAlike (m m' : Model) : Prop where
  /-- The same assets are found. -/
  technicalAsset : ∀ id, Option.Rel TechnicalAsset.SameButScore
    (m.technicalAssets.get? id) (m'.technicalAssets.get? id)
  /-- The same assets are in scope, in the same order. -/
  inScope : List.Forall₂ TechnicalAsset.SameButScore m.inScope m'.inScope
  /-- What is found answers alike. -/
  ofAsset : ∀ {a a'}, a.SameButScore a' → TechnicalAsset.AnswersAlike m m' a a'
  dataAsset : ∀ id, m'.dataAssets.get? id = m.dataAssets.get? id
  dataOf : ∀ ids, m'.dataOf ids = m.dataOf ids
  trustBoundary : ∀ id, m'.trustBoundaries.get? id = m.trustBoundaries.get? id
  links : m'.links = m.links
  link? : ∀ id, m'.link? id = m.link? id
  incomingLinks : ∀ id, m'.incomingLinks id = m.incomingLinks id
  directBoundary : ∀ id, m'.directBoundary id = m.directBoundary id
  parentBoundary : ∀ id, m'.parentBoundary id = m.parentBoundary id
  networkBoundary : ∀ id, m'.networkBoundary id = m.networkBoundary id
  network : ∀ id, m'.network id = m.network id
  ancestry : ∀ id, m'.ancestry id = m.ancestry id
  sharesAncestor : ∀ a b, m'.sharesAncestor a b = m.sharesAncestor a b
  runtimesOf : ∀ id, m'.runtimesOf id = m.runtimesOf id
  boundariesWithin : ∀ b, m'.boundariesWithin b = m.boundariesWithin b
  assetsWithin : ∀ b, m'.assetsWithin b = m.assetsWithin b
  ratingOf : ∀ ids, m'.ratingOf ids = m.ratingOf ids
  boundaryRating : ∀ b : TrustBoundary, b.rating m' = b.rating m
  boundaryInheritsAny :
    ∀ (b : TrustBoundary) candidates, b.inheritsAny m' candidates = b.inheritsAny m candidates
  runtimeRating : ∀ r : SharedRuntime, r.rating m' = r.rating m
  linkRating : ∀ l : Link, l.rating m' = l.rating m
  crossesBoundary : ∀ l : Link, l.crossesBoundary m' = l.crossesBoundary m
  crossesNetwork : ∀ l : Link, l.crossesNetwork m' = l.crossesNetwork m

variable {m : Model} {raa : String → Float}

theorem rel_get?_rescored (id : String) : Option.Rel TechnicalAsset.SameButScore
    (m.technicalAssets.get? id) ((m.rescored raa).technicalAssets.get? id) := by
  rw [rescored, Dict.get?_mapWithKey]
  cases m.technicalAssets.get? id with
  | none => exact .none
  | some a => exact .some (a.sameButScore_raa _)

theorem forall₂_values_rescored : List.Forall₂ TechnicalAsset.SameButScore
    m.technicalAssets.values (m.rescored raa).technicalAssets.values := by
  rw [Dict.values, Dict.values, rescored, Dict.mapWithKey, List.map_map, List.forall₂_map_left_iff,
    List.forall₂_map_right_iff, List.forall₂_same]
  exact fun e _ => e.2.sameButScore_raa _

/-- Whether an asset is in scope does not depend on its score. -/
theorem forall₂_inScope_rescored :
    List.Forall₂ TechnicalAsset.SameButScore m.inScope (m.rescored raa).inScope := by
  refine List.rel_filter (fun a a' h => ?_) forall₂_values_rescored
  rw [h]

theorem ratingOf_rescored (ids : List String) : (m.rescored raa).ratingOf ids = m.ratingOf ids := by
  have hratings : (ids.filterMap (m.rescored raa).technicalAssets.get?).map (·.rating (m.rescored raa)) =
      (ids.filterMap m.technicalAssets.get?).map (·.rating m) := by
    simp only [List.map_filterMap, rescored, Dict.get?_mapWithKey, Option.map_map]
    rfl
  rw [ratingOf, ratingOf, hratings]

/-- A model answers all questions as before when its assets are scored. -/
theorem answersAlike_rescored (m : Model) (raa : String → Float) :
    m.AnswersAlike (m.rescored raa) where
  technicalAsset := rel_get?_rescored
  inScope := forall₂_inScope_rescored
  ofAsset h := h.answersAlike raa
  dataAsset _ := rfl
  dataOf _ := rfl
  trustBoundary _ := rfl
  links := links_rescored
  link? _ := rfl
  incomingLinks _ := rfl
  directBoundary _ := rfl
  parentBoundary _ := rfl
  networkBoundary _ := rfl
  network _ := rfl
  ancestry _ := rfl
  sharesAncestor _ _ := rfl
  runtimesOf _ := rfl
  boundariesWithin _ := rfl
  assetsWithin _ := rfl
  ratingOf := ratingOf_rescored
  boundaryRating b := ratingOf_rescored (m.assetsWithin b)
  boundaryInheritsAny _ _ := rfl
  runtimeRating r := ratingOf_rescored r.assetsRunning
  linkRating _ := rfl
  crossesBoundary _ := rfl
  crossesNetwork _ := rfl

end Model

end ThreatModel
