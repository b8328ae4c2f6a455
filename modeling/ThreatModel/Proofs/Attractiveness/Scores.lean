import ThreatModel.Command.Run
import ThreatModel.Proofs.Attractiveness.Entry
import ThreatModel.Proofs.Attractiveness.Scale
import ThreatModel.Proofs.Model.Neighbours

/-!
# Scores are percentages

A score is cut off at a hundred, and the place of a value in a scale is always above zero, so a score is
a percentage whatever the numbers are, also if they are rounded (`LawfulScalar`): the scores of a
checked model can always be entered. With rationals for numbers it can be said where scores come from.
Values by themselves are never negative, so what is out of scope has the least value that there can be,
and its score is one. Links only add to a value, so what has the greatest value has a hundred, unless
all values are the same.
-/

namespace ThreatModel

namespace Attractiveness

open Scalar

/-! ## Any numbers -/

/-- What is needed of numbers for scores to be percentages. -/
class LawfulScalar (ν : Type) [Scalar ν] : Prop where
  atMost_of_less : ∀ {a b : ν}, less a b = true → atMost a b = true
  zero_less_one : less (ofNat 0 : ν) (ofNat 1) = true
  zero_less_hundred : less (ofNat 0 : ν) (ofNat 100) = true
  hundred_atMost_hundred : atMost (ofNat 100 : ν) (ofNat 100) = true

instance : LawfulScalar Rat where
  atMost_of_less h := decide_eq_true (of_decide_eq_true h).le
  zero_less_one := by decide
  zero_less_hundred := by decide
  hundred_atMost_hundred := by decide

/-- Doubles that are less than others have an order, so they are no greater. -/
theorem float_le_of_lt {a b : Float} (h : a < b) : a ≤ b := by
  have hmodel : a.toModel < b.toModel := of_decide_eq_true h
  have hcompare : a.toModel.unpack.compare b.toModel.unpack = some .lt := eq_of_beq hmodel
  have hle : a.toModel.unpack.le b.toModel.unpack = true := by
    rw [Float.Model.UnpackedFloat.le, hcompare]
    rfl
  exact decide_eq_true hle

instance : LawfulScalar Float where
  atMost_of_less h := decide_eq_true (float_le_of_lt (of_decide_eq_true h))
  zero_less_one := by decide +kernel
  zero_less_hundred := by decide +kernel
  hundred_atMost_hundred := by decide +kernel

section Percentages

variable {ν : Type} [Scalar ν]

theorem exists_score_eq (owns : Dict ν) (s : Scale ν) (a : TechnicalAsset) :
    ∃ v, score owns s a = least (s.relative v) (ofNat 100) := ⟨_, rfl⟩

variable [LawfulScalar ν]

theorem zero_less_relative (s : Scale ν) (v : ν) : less (ofNat 0) (s.relative v) = true := by
  rw [Scale.relative]
  split
  · next hless => exact hless
  · exact LawfulScalar.zero_less_one

theorem score_bounds (owns : Dict ν) (s : Scale ν) (a : TechnicalAsset) :
    less (ofNat 0) (score owns s a) = true ∧ atMost (score owns s a) (ofNat 100) = true := by
  obtain ⟨v, hv⟩ := exists_score_eq owns s a
  rw [hv, least]
  split
  · next hless => exact ⟨zero_less_relative s v, LawfulScalar.atMost_of_less hless⟩
  · exact ⟨LawfulScalar.zero_less_hundred, LawfulScalar.hundred_atMost_hundred⟩

theorem isPercentage_score (owns : Dict ν) (s : Scale ν) (a : TechnicalAsset) :
    isPercentage (score owns s a) = true := by
  obtain ⟨hpositive, hmost⟩ := score_bounds owns s a
  rw [isPercentage, LawfulScalar.atMost_of_less hpositive, hmost]
  rfl

end Percentages

/-! ## The scores of a checked model -/

section Checked

variable {ν : Type} [Scalar ν] {m : Model} {a : TechnicalAsset}

theorem owns_eq (h : m.Accepted) : (owns m : Dict ν) = m.technicalAssets.map (own m) :=
  h.coherent.technicalAssets.ofList_map_values _

theorem scores_eq (h : m.Accepted) : (scores m : Dict ν) =
    m.technicalAssets.map (score (owns m) (Scale.spanning (owns m).values)) :=
  h.coherent.technicalAssets.ofList_map_values _

theorem get?_owns (h : m.Accepted) (ha : a ∈ m.technicalAssets.values) :
    (owns m : Dict ν).get? a.id = some (own m a) := by
  rw [owns_eq h, Dict.map, Dict.get?_mapWithKey, h.coherent.technicalAssets.get?_of_mem ha]
  rfl

theorem get?_scores (h : m.Accepted) (ha : a ∈ m.technicalAssets.values) :
    (scores m : Dict ν).get? a.id =
      some (score (owns m) (Scale.spanning (owns m).values) a) := by
  rw [scores_eq h, Dict.map, Dict.get?_mapWithKey, h.coherent.technicalAssets.get?_of_mem ha]
  rfl

theorem values_owns (h : m.Accepted) :
    (owns m : Dict ν).values = m.technicalAssets.values.map (own m) := by
  rw [owns_eq h, Dict.values_map]

/-- Each asset of a checked model has one score. -/
theorem keys_scores (h : m.Accepted) : (scores m : Dict ν).keys = m.technicalAssets.keys := by
  rw [scores_eq h, Dict.map, Dict.mapWithKey, Dict.keys, List.map_map]
  rfl

theorem refused?_scores [LawfulScalar ν] (h : m.Accepted) :
    Scores.refused? m (scores m : Dict ν) = none := by
  rw [Scores.refused?, List.find?_eq_none]
  intro e he
  have hkey : e.1 ∈ (scores m : Dict ν).keys := List.mem_map_of_mem he
  rw [keys_scores h] at hkey
  obtain ⟨a, -, hscore⟩ := List.mem_map.1 (Dict.mem_of_mem_ofList he)
  rw [Dict.mem_keys_iff.1 hkey, ← hscore, isPercentage_score]
  decide

/-- The built-in scores, which are doubles, can be entered. -/
theorem apply_builtin (h : m.Accepted) (plugin : String) :
    (Scores.builtin m).apply m plugin = .ok (Scores.enter m (scores m)) := by
  rw [Scores.apply_eq, Scores.builtin, refused?_scores h]

end Checked

/-! ## Rationals -/

section Rationals

variable {m : Model} {a : TechnicalAsset} {values : Dict Rat} {s : Scale Rat} {v : Rat}

theorem technologyFactor_pos (t : Technology) : 0 < (technologyFactor t : Rat) := by
  unfold technologyFactor
  split <;> decide +kernel

theorem factor_pos (a : TechnicalAsset) : 0 < (factor a : Rat) := by
  have htechnology := technologyFactor_pos a.technology
  have htwice : (0 : Rat) < ofNat 2 := by decide
  have htenants : (0 : Rat) < ofNat 3 / ofNat 2 := by decide +kernel
  simp only [factor]
  split <;> split
  · exact mul_pos (mul_pos htechnology htwice) htenants
  · exact mul_pos htechnology htenants
  · exact mul_pos htechnology htwice
  · exact htechnology

theorem own_nonneg (m : Model) (a : TechnicalAsset) : 0 ≤ (own m a : Rat) := by
  rw [own]
  split
  · exact le_refl 0
  · exact mul_nonneg (Nat.cast_nonneg _) (factor_pos a).le

theorem pivot_nonneg (values : Dict Rat) (s : Scale Rat) (a : TechnicalAsset) (v : Rat) :
    0 ≤ pivot values s a v := (foldl_greatest_spec _ _).2 0 List.mem_cons_self

theorem score_of_outOfScope (hs : 0 < s.spread) (hown : values.get? a.id = some v)
    (hout : a.outOfScope = true) (hv : v ≤ s.lowest) : score values s a = 1 := by
  have hscore : score values s a = least (s.relative (v + 0)) 100 := by
    rw [score, hown, hout]
    rfl
  rw [hscore, add_zero, Scale.relative_of_le hs hv, least_eq_min]
  norm_num

theorem score_of_top (hs : 0 < s.spread) (hown : values.get? a.id = some v)
    (hv : s.lowest + s.spread ≤ v) : score values s a = 100 := by
  have hscore : ∃ bonus, 0 ≤ bonus ∧ score values s a = least (s.relative (v + bonus)) 100 := by
    rw [score, hown]
    split
    · exact ⟨0, le_refl 0, rfl⟩
    · exact ⟨_, pivot_nonneg values s a v, rfl⟩
  obtain ⟨bonus, hbonus, hscore⟩ := hscore
  rw [hscore, least_eq_min]
  exact min_eq_right (Scale.hundred_le_relative hs (hv.trans (le_add_of_nonneg_right hbonus)))

/-- The scale of a checked model is the range of what its assets have by themselves. -/
theorem spans_owns (h : m.Accepted) :
    (Scale.spanning (owns m : Dict Rat).values).Spans
      (m.technicalAssets.values.map (own m)) := by
  rw [← values_owns h]
  exact Scale.spans_spanning _

theorem get?_scores_of_outOfScope (h : m.Accepted) (ha : a ∈ m.technicalAssets.values)
    (hout : a.outOfScope = true) : (scores m : Dict Rat).get? a.id = some 1 := by
  have hspans := spans_owns h
  -- No value is negative, so the scale starts at zero or above.
  obtain ⟨b, -, hb⟩ := List.mem_map.1
    (hspans.lowest_mem (List.ne_nil_of_mem (List.mem_map_of_mem ha)))
  have hlowest : own m a ≤ (Scale.spanning (owns m : Dict Rat).values).lowest := by
    rw [← hb, own, hout]
    exact own_nonneg m b
  rw [get?_scores h ha, score_of_outOfScope hspans.spread_pos (get?_owns h ha) hout hlowest]

theorem get?_scores_of_greatest (h : m.Accepted) (ha : a ∈ m.technicalAssets.values)
    (hdiffer : ∃ b ∈ m.technicalAssets.values, ∃ c ∈ m.technicalAssets.values,
      (own m b : Rat) ≠ own m c)
    (hgreatest : ∀ b ∈ m.technicalAssets.values, (own m b : Rat) ≤ own m a) :
    (scores m : Dict Rat).get? a.id = some 100 := by
  have hspans := spans_owns h
  obtain ⟨b, hb, c, hc, hne⟩ := hdiffer
  obtain ⟨top, htop, heq⟩ := List.mem_map.1
    (hspans.top_mem ⟨_, List.mem_map_of_mem hb, _, List.mem_map_of_mem hc, hne⟩)
  have hend := heq ▸ hgreatest top htop
  rw [get?_scores h ha, score_of_top hspans.spread_pos (get?_owns h ha) hend]

end Rationals

/-- What the score of an asset is like. -/
structure ScoreSpec (m : Model) (a : TechnicalAsset) (v : Rat) : Prop where
  positive : 0 < v
  le_hundred : v ≤ 100
  outOfScope : a.outOfScope = true → v = 1
  /-- Unless all assets are equally attractive, what is most attractive by itself has a hundred. -/
  greatest : (∃ b ∈ m.technicalAssets.values, ∃ c ∈ m.technicalAssets.values,
      (own m b : Rat) ≠ own m c) →
    (∀ b ∈ m.technicalAssets.values, (own m b : Rat) ≤ own m a) → v = 100

/-- What the scores of a model are like, the rational ones and, for entering them, the doubles. -/
structure ScoresSpec (m : Model) : Prop where
  keys : (scores m : Dict Rat).keys = m.technicalAssets.keys
  score : ∀ a ∈ m.technicalAssets.values,
    ∃ v, (scores m : Dict Rat).get? a.id = some v ∧ ScoreSpec m a v
  refused : Scores.refused? m (scores m : Dict Rat) = none
  applied : ∀ plugin, (Scores.builtin m).apply m plugin = .ok (Scores.enter m (scores m))
  scored : ∀ plugins, Command.scored plugins none m = .ok (Scores.enter m (scores m))

/-- In a checked model each asset has one score, which is above zero and at most a hundred. So the
scores can be entered, the rational ones as well as the doubles, and scoring without a plugin
succeeds. -/
theorem scores_are_percentages {m : Model} (h : m.Accepted) : ScoresSpec m where
  keys := keys_scores h
  score a ha := by
    have hscore : (scores m : Dict Rat).get? a.id = some _ := get?_scores h ha
    obtain ⟨hpositive, hmost⟩ :=
      score_bounds (owns m : Dict Rat) (Scale.spanning (owns m).values) a
    refine ⟨_, hscore, of_decide_eq_true hpositive, of_decide_eq_true hmost, fun hout => ?_,
      fun hdiffer hgreatest => ?_⟩
    · exact Option.some.inj (hscore.symm.trans (get?_scores_of_outOfScope h ha hout))
    · exact Option.some.inj (hscore.symm.trans (get?_scores_of_greatest h ha hdiffer hgreatest))
  refused := refused?_scores h
  applied := apply_builtin h
  scored plugins := by
    rw [Command.scored, apply_builtin h]
    rfl

/-- The shop with a mainframe that is out of scope. -/
def retiringShop : ModelInput :=
  { Validation.bookshop with
    technicalAssets := Validation.bookshop.technicalAssets.insert "Mainframe" {
      id := "mainframe", kind := "process", usage := "business", size := "system"
      technology := "mainframe", machine := "physical", encryption := "none"
      confidentiality := "strictly-confidential", integrity := "critical", availability := "critical"
      outOfScope := true } }

/-- The store is most attractive, and the mainframe counts for nothing whatever its ratings are. -/
theorem retiringShop_scores :
    ∃ m, Validation.build ⟨2024, 3, 1⟩ retiringShop = .ok m ∧
      ∃ store ∈ m.technicalAssets.get? "store", ∃ mainframe ∈ m.technicalAssets.get? "mainframe",
        (scores m : Dict Rat).get? store.id = some 100 ∧
          (scores m : Dict Rat).get? mainframe.id = some 1 ∧
          (scores m : Dict Rat).keys = ["mainframe", "shop", "store"] ∧
          Scores.refused? m (scores m : Dict Rat) = none ∧
          Command.scored [] none m = .ok (Scores.enter m (scores m)) := by
  have hchecked : (Validation.build ⟨2024, 3, 1⟩ retiringShop).toOption.map (fun m =>
      decide (m.technicalAssets.keys = ["mainframe", "shop", "store"] ∧
        ∃ store ∈ m.technicalAssets.get? "store",
          ∃ mainframe ∈ m.technicalAssets.get? "mainframe", mainframe.outOfScope = true ∧
            (own m store : Rat) ≠ own m mainframe ∧
            ∀ b ∈ m.technicalAssets.values, (own m b : Rat) ≤ own m store)) = some true := by
    decide +kernel
  obtain ⟨m, hm, hchecked⟩ := Model.exists_of_build hchecked
  obtain ⟨hkeys, store, hstore, mainframe, hmainframe, hout, hne, hgreatest⟩ :=
    of_decide_eq_true hchecked
  have hstore' := Dict.mem_values_of_get? hstore
  have hmainframe' := Dict.mem_values_of_get? hmainframe
  have hspec := scores_are_percentages (Model.Accepted.of_build hm)
  obtain ⟨top, htop, htopSpec⟩ := hspec.score store hstore'
  obtain ⟨one, hone, honeSpec⟩ := hspec.score mainframe hmainframe'
  rw [htopSpec.greatest ⟨store, hstore', mainframe, hmainframe', hne⟩ hgreatest] at htop
  rw [honeSpec.outOfScope hout] at hone
  exact ⟨m, hm, store, hstore, mainframe, hmainframe, htop, hone, hspec.keys.trans hkeys,
    hspec.refused, hspec.scored []⟩

end Attractiveness

end ThreatModel
