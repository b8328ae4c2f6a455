import Mathlib.Data.List.MinMax
import Mathlib.Data.List.Sort
import Mathlib.Data.Prod.Lex
import Mathlib.Data.String.Basic
import ThreatModel.Catalogue.Hardening
import ThreatModel.Proofs.Risk.Presentation

/-!
# The order of presentation

A risk has a rank (`Risk.Rank`), and comparing two risks is comparing their ranks, which are ordered
linearly. So sorted risks have ranks in ascending order, the same ones at the same places whatever the
order was before, and risks of one rank stay in their order. A category is ranked by the highest
severity of its risks that are still at risk (`highestOpenSeverity_eq`); as its id is part of its rank,
categories with distinct ids are listed in one way only.
-/

namespace ThreatModel

/-! ## Ordered value sets -/

theorem Severity.ctorIdx_injective : Function.Injective Severity.ctorIdx := by
  intro a b
  cases a <;> cases b <;> decide

theorem RiskStatus.ctorIdx_injective : Function.Injective RiskStatus.ctorIdx := by
  intro a b
  cases a <;> cases b <;> decide

theorem Impact.ctorIdx_injective : Function.Injective Impact.ctorIdx := by
  intro a b
  cases a <;> cases b <;> decide

theorem Likelihood.ctorIdx_injective : Function.Injective Likelihood.ctorIdx := by
  intro a b
  cases a <;> cases b <;> decide

instance : LinearOrder Severity := .lift' _ Severity.ctorIdx_injective

instance : LinearOrder RiskStatus := .lift' _ RiskStatus.ctorIdx_injective

instance : LinearOrder Impact := .lift' _ Impact.ctorIdx_injective

instance : LinearOrder Likelihood := .lift' _ Likelihood.ctorIdx_injective

/-! ## Risks -/

namespace Risk

variable {a b : Risk} {risks risks' : List Risk}

/-- A place in the order of presentation: by severity from high to low, by status, by impact and by
likelihood from high to low, by title and by id. -/
abbrev Rank := Severityᵒᵈ ×ₗ RiskStatus ×ₗ Impactᵒᵈ ×ₗ Likelihoodᵒᵈ ×ₗ String ×ₗ String

/-- The place of a risk in the order of presentation. -/
def rank (r : Risk) : Rank :=
  toLex (.toDual r.severity, toLex (r.status, toLex (.toDual r.impact,
    toLex (.toDual r.likelihood, toLex (r.title, r.syntheticId)))))

theorem compare_eq (a b : Risk) : compare a b = Ord.compare a.rank b.rank := rfl

theorem compares_rank (a b : Risk) : (compare a b).Compares a.rank b.rank :=
  (compare_iff ..).1 (compare_eq a b).symm

theorem listedBefore_iff : listedBefore a b = true ↔ a.rank ≤ b.rank :=
  Ordering.isLE_iff_ne_gt.trans (compares_rank a b).ne_gt

theorem pairwise_rank_sort (risks : List Risk) : (sort risks).Pairwise (rank · ≤ rank ·) :=
  (pairwise_sort risks).imp listedBefore_iff.1

/-- Risks of one rank stay in their order. -/
theorem filter_rank_sort (k : Rank) (risks : List Risk) :
    (sort risks).filter (·.rank = k) = risks.filter (·.rank = k) := by
  rw [filter_sort]
  refine List.mergeSort_of_pairwise (List.pairwise_of_forall_mem_list fun a ha b hb => ?_)
  rw [List.mem_filter, decide_eq_true_eq] at ha hb
  exact listedBefore_iff.2 (ha.2.trans hb.2.symm).le

/-- The ranks of sorted risks do not depend on the order before. -/
theorem map_rank_sort (h : risks.Perm risks') : (sort risks).map rank = (sort risks').map rank := by
  have hperm : (sort risks).Perm (sort risks') :=
    (perm_sort risks).trans (h.trans (perm_sort risks').symm)
  exact (hperm.map rank).eq_of_pairwise' (List.pairwise_map.2 (pairwise_rank_sort risks))
    (List.pairwise_map.2 (pairwise_rank_sort risks'))

end Risk

/-! ## Categories -/

theorem Risk.highestOpenSeverity_eq (risks : List Risk) :
    highestOpenSeverity risks =
      ((risks.filter (·.status.isStillAtRisk)).map (·.severity)).maximum := by
  rw [highestOpenSeverity]
  generalize (risks.filter (·.status.isStillAtRisk)).map (·.severity) = severities
  induction severities using List.reverseRecOn with
  | nil => rfl
  | append_singleton severities s ih =>
    rw [List.foldl_append, ih, List.maximum_concat]
    cases h : severities.maximum with
    | bot => rfl
    | coe t => rfl

namespace Category

variable {risks : Dict (List Risk)} {a b : Category} {categories categories' : List Category}

/-- The severities of the risks of a category that are still at risk. -/
def openSeverities (risks : Dict (List Risk)) (c : Category) : List Severity :=
  (((risks.get? c.id).getD []).filter (·.status.isStillAtRisk)).map (·.severity)

/-- A place in the order of presentation: by the highest severity of what is still at risk from high to
low, with nothing at risk at the end, by title and by id. -/
abbrev Rank := (WithBot Severity)ᵒᵈ ×ₗ String ×ₗ String

/-- The place of a category in the order of presentation. -/
def rank (risks : Dict (List Risk)) (c : Category) : Rank :=
  toLex (.toDual (openSeverities risks c).maximum, toLex (c.title, c.id))

/-- The number for a severity ranks it among all of them, with no severity at all as the lowest. -/
theorem compare_openRank (s t : WithBot Severity) :
    Ord.compare (openRank s) (openRank t) = Ord.compare s t := by
  cases s with
  | bot => cases t with
    | bot => rfl
    | coe t => cases t <;> rfl
  | coe s => cases t with
    | bot => cases s <;> rfl
    | coe t => cases s <;> cases t <;> rfl

theorem compare_eq (a b : Category) :
    compare risks a b = Ord.compare (rank risks a) (rank risks b) := by
  have hopen (c : Category) : (risks.get? c.id).bind Risk.highestOpenSeverity =
      (openSeverities risks c).maximum := by
    rw [openSeverities]
    cases risks.get? c.id with
    | none => rfl
    | some found => exact Risk.highestOpenSeverity_eq found
  simp only [compare, hopen, compare_openRank]
  rfl

theorem isLE_compare_iff : (compare risks a b).isLE = true ↔ rank risks a ≤ rank risks b :=
  Ordering.isLE_iff_ne_gt.trans ((compare_iff ..).1 (compare_eq a b).symm).ne_gt

theorem pairwise_rank_sort (risks : Dict (List Risk)) (categories : List Category) :
    (sort risks categories).Pairwise (rank risks · ≤ rank risks ·) := by
  refine (List.pairwise_mergeSort (fun a b c hab hbc => ?_) (fun a b => ?_) categories).imp
    isLE_compare_iff.1
  · exact isLE_compare_iff.2 ((isLE_compare_iff.1 hab).trans (isLE_compare_iff.1 hbc))
  · rw [Bool.or_eq_true, isLE_compare_iff, isLE_compare_iff]
    exact le_total ..

/-- Categories with distinct ids are listed in one way only. -/
theorem sort_eq_of_perm (hids : (categories.map (·.id)).Nodup) (h : categories.Perm categories') :
    sort risks categories = sort risks categories' := by
  have hperm : (sort risks categories).Perm (sort risks categories') :=
    (perm_sort ..).trans (h.trans (perm_sort ..).symm)
  refine List.Perm.eq_of_pairwise (fun a b ha hb hab hba => ?_) (pairwise_rank_sort risks categories)
    (pairwise_rank_sort risks categories') hperm
  have hid : a.id = b.id := congrArg (fun r : Rank => (ofLex (ofLex r).2).2) (hab.antisymm hba)
  exact List.inj_on_of_nodup_map hids ((perm_sort ..).mem_iff.1 ha)
    ((perm_sort ..).mem_iff.1 (hperm.mem_iff.2 hb)) hid

/-- What has something at risk is not listed after what has nothing. -/
theorem openSeverities_ne_nil_of_le (h : rank risks a ≤ rank risks b)
    (hb : openSeverities risks b ≠ []) : openSeverities risks a ≠ [] := by
  have hmax : (openSeverities risks b).maximum ≤ (openSeverities risks a).maximum :=
    Prod.Lex.monotone_fst _ _ h
  intro ha
  rw [ha, List.maximum_nil, le_bot_iff, List.maximum_eq_bot] at hmax
  exact hb hmax

end Category

/-- How risks are listed. -/
structure Risk.Listed (risks : List Risk) : Prop where
  perm : (Risk.sort risks).Perm risks
  ranked : (Risk.sort risks).Pairwise (·.rank ≤ ·.rank)
  /-- Risks of one rank stay in the order that they had, -/
  stable : ∀ k, (Risk.sort risks).filter (·.rank = k) = risks.filter (·.rank = k)
  /-- and the ranks stand at the same places whatever that order was. -/
  sameRanks : ∀ risks', risks.Perm risks' →
    (Risk.sort risks).map (·.rank) = (Risk.sort risks').map (·.rank)

/-- How categories are listed, given what was found of each. -/
structure Category.Listed (risks : Dict (List Risk)) (categories : List Category) : Prop where
  perm : (Category.sort risks categories).Perm categories
  ranked : (Category.sort risks categories).Pairwise (·.rank risks ≤ ·.rank risks)
  /-- Those with something at risk come before those with nothing. -/
  openFirst : (Category.sort risks categories).Pairwise fun a b =>
    b.openSeverities risks ≠ [] → a.openSeverities risks ≠ []
  /-- If their ids are distinct, they are listed in one way only. -/
  unique : (categories.map (·.id)).Nodup → ∀ categories', categories.Perm categories' →
    Category.sort risks categories = Category.sort risks categories'

theorem Risk.listed (risks : List Risk) : Risk.Listed risks where
  perm := perm_sort risks
  ranked := pairwise_rank_sort risks
  stable k := filter_rank_sort k risks
  sameRanks _ h := map_rank_sort h

theorem Category.listed (risks : Dict (List Risk)) (categories : List Category) :
    Category.Listed risks categories where
  perm := perm_sort risks categories
  ranked := pairwise_rank_sort risks categories
  openFirst := (pairwise_rank_sort risks categories).imp openSeverities_ne_nil_of_le
  unique hids _ h := sort_eq_of_perm hids h

/-- Risks and categories are listed by their ranks, and comparing two risks is comparing their
ranks. -/
theorem presentation_canonical :
    (∀ risks : List Risk, Risk.Listed risks) ∧
      (∀ a b : Risk, (a.compare b).Compares a.rank b.rank) ∧
      ∀ (risks : Dict (List Risk)) (categories : List Category), Category.Listed risks categories :=
  ⟨Risk.listed, Risk.compares_rank, Category.listed⟩

/-- A finding about an asset. All of these have one rank. -/
def tied (asset : String) : Risk :=
  { Risk.new Category.missingVault.id .likely .medium "Missing vault" with
    technicalAsset := some asset }

/-- Two findings of one rank are listed as they come, which does not show in their ranks. Their category
is listed before one with a lower title that has nothing at risk, whichever comes first. -/
theorem tied_presented :
    Risk.sort [tied "bus", tied "api"] = [tied "bus", tied "api"] ∧
    (Risk.sort [tied "bus", tied "api"]).map (·.rank) =
      (Risk.sort [tied "api", tied "bus"]).map (·.rank) ∧
    let risks := Dict.ofList [(Category.missingVault.id, [tied "bus", tied "api"])]
    Category.sort risks [.missingHardening, .missingVault] = [.missingVault, .missingHardening] ∧
      Category.sort risks [.missingVault, .missingHardening] = [.missingVault, .missingHardening] := by
  obtain ⟨hrisks, -, hcategories⟩ := presentation_canonical
  refine ⟨List.mergeSort_of_pairwise (by decide +kernel), (hrisks _).sameRanks _ (.swap ..), ?_⟩
  intro risks
  have hsorted : Category.sort risks [.missingVault, .missingHardening] =
      [.missingVault, .missingHardening] :=
    List.mergeSort_of_pairwise (by decide +kernel)
  refine ⟨?_, hsorted⟩
  rw [← hsorted]
  exact (hcategories risks _).unique (by decide +kernel) _ (.swap ..)

end ThreatModel
