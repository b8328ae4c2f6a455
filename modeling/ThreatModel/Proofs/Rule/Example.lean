import Mathlib.Data.List.Induction
import ThreatModel.Rule.Example

/-!
# The choice of an example

The search for an example only ever takes what it was offered (`Example.Among`). The search by
sensitivity alone ends with the asset that is more sensitive than all before it and at least as
sensitive as all after it (`mostSensitive_eq_some_iff`).
-/

namespace ThreatModel.Example

variable {e : Example} {assets : List TechnicalAsset} {a b : TechnicalAsset} {m : Model}

/-- The asset of the example, if there is one yet, is among some assets. -/
def Among (assets : List TechnicalAsset) (e : Example) : Prop := ∀ a, e.asset = some a → a ∈ assets

theorem among_start : start.Among assets := by
  intro a ha
  cases ha

theorem Among.challenge (he : e.Among assets) (hb : b ∈ assets) : (e.challenge b).Among assets := by
  have hrival : (⟨some b, e.impact⟩ : Example).Among assets := by
    intro a ha
    exact Option.some.inj ha ▸ hb
  rw [Example.challenge]
  split
  · exact hrival
  · split
    · exact hrival
    · exact he

theorem Among.consider (he : e.Among assets) (ha : a ∈ assets) (hb : b ∈ assets) :
    (e.consider m a b).Among assets := by
  refine challenge ?_ hb
  have hfirst : (if e.impact = .low then
      { asset := some a, impact := if (a.rating m).isHigh then .medium else .low }
      else e : Example).Among assets := by
    split
    · intro c hc
      exact Option.some.inj hc ▸ ha
    · exact he
  split
  · exact hfirst
  · exact hfirst

/-- What is among the assets after every step is so after all of them. -/
theorem among_foldl {α : Type} {step : Example → α → Example} {candidates : List α}
    (hstep : ∀ e : Example, e.Among assets → ∀ x ∈ candidates, (step e x).Among assets) :
    (candidates.foldl step start).Among assets :=
  List.foldlRecOn (motive := (·.Among assets)) candidates step among_start hstep

theorem mem_of_mostSensitive (ha : mostSensitive assets = some a) : a ∈ assets :=
  among_foldl (fun _ he _ hb => he.challenge hb) a ha

/-! ## The most sensitive asset -/

theorem asset_challenge (e : Example) (b : TechnicalAsset) :
    (e.challenge b).asset =
      if e.asset.all (·.sensitivity < b.sensitivity) then some b else e.asset := by
  rw [Example.challenge]
  cases h : e.asset with
  | none => simp
  | some c =>
    by_cases hlt : c.sensitivity < b.sensitivity
    · simp [hlt]
    · simp [hlt, h]

theorem mostSensitive_concat (assets : List TechnicalAsset) (b : TechnicalAsset) :
    mostSensitive (assets ++ [b]) =
      if (mostSensitive assets).all (·.sensitivity < b.sensitivity) then some b
      else mostSensitive assets := by
  rw [mostSensitive, List.foldl_append]
  exact asset_challenge _ b

/-- An asset stands out in a list if it is the first of the most sensitive ones. -/
def StandsOut (a : TechnicalAsset) (assets : List TechnicalAsset) : Prop :=
  ∃ before after, assets = before ++ a :: after ∧ (∀ b ∈ before, b.sensitivity < a.sensitivity) ∧
    ∀ b ∈ after, b.sensitivity ≤ a.sensitivity

theorem StandsOut.le (h : StandsOut a assets) (hb : b ∈ assets) : b.sensitivity ≤ a.sensitivity := by
  obtain ⟨before, after, rfl, hbefore, hafter⟩ := h
  rcases List.mem_append.1 hb with hb | hb
  · exact Nat.le_of_lt (hbefore b hb)
  · rcases List.mem_cons.1 hb with rfl | hb
    · exact Nat.le_refl _
    · exact hafter b hb

theorem mostSensitive_eq_none (h : mostSensitive assets = none) : assets = [] := by
  induction assets using List.reverseRecOn with
  | nil => rfl
  | append_singleton assets b ih =>
    rw [mostSensitive_concat] at h
    split at h
    · cases h
    · next hnot =>
      rw [h] at hnot
      exact absurd rfl hnot

theorem standsOut_of_mostSensitive (h : mostSensitive assets = some a) : StandsOut a assets := by
  induction assets using List.reverseRecOn generalizing a with
  | nil => cases h
  | append_singleton assets b ih =>
    rw [mostSensitive_concat] at h
    cases hmost : mostSensitive assets with
    | none =>
      rw [mostSensitive_eq_none hmost]
      obtain rfl : b = a := by simpa [hmost] using h
      exact ⟨[], [], rfl, by simp, by simp⟩
    | some c =>
      have hc := ih hmost
      by_cases hlt : c.sensitivity < b.sensitivity
      · obtain rfl : b = a := by simpa [hmost, hlt] using h
        exact ⟨assets, [], rfl, fun d hd => Nat.lt_of_le_of_lt (hc.le hd) hlt, by simp⟩
      · obtain rfl : c = a := by simpa [hmost, hlt] using h
        obtain ⟨before, after, rfl, hbefore, hafter⟩ := hc
        refine ⟨before, after ++ [b], by simp, hbefore, ?_⟩
        intro d hd
        rcases List.mem_append.1 hd with hd | hd
        · exact hafter d hd
        · rw [List.mem_singleton.1 hd]
          exact Nat.le_of_not_lt hlt

theorem StandsOut.mostSensitive_eq (h : StandsOut a assets) : mostSensitive assets = some a := by
  obtain ⟨before, after, rfl, hbefore, hafter⟩ := h
  induction after using List.reverseRecOn with
  | nil =>
    rw [mostSensitive_concat]
    cases hmost : mostSensitive before with
    | none => simp
    | some c => simp [hbefore c (mem_of_mostSensitive hmost)]
  | append_singleton after b ih =>
    have hmost := ih fun c hc => hafter c (List.mem_append_left _ hc)
    have hnot : ¬a.sensitivity < b.sensitivity := Nat.not_lt.2 (hafter b (by simp))
    rw [← List.cons_append, ← List.append_assoc, mostSensitive_concat, hmost]
    simp [hnot]

theorem mostSensitive_eq_some_iff : mostSensitive assets = some a ↔ StandsOut a assets :=
  ⟨standsOut_of_mostSensitive, StandsOut.mostSensitive_eq⟩

/-- In the order of their ids the first of the most sensitive assets is the one with the lowest id. -/
theorem standsOut_iff (h : (assets.map (·.id)).Pairwise (· < ·)) : StandsOut a assets ↔ a ∈ assets ∧
      ∀ b ∈ assets, b.sensitivity < a.sensitivity ∨ b.sensitivity = a.sensitivity ∧ a.id ≤ b.id := by
  constructor
  · rintro ⟨before, after, rfl, hbefore, hafter⟩
    rw [List.map_append, List.map_cons, List.pairwise_append, List.pairwise_cons] at h
    refine ⟨by simp, fun b hb => ?_⟩
    rcases List.mem_append.1 hb with hb | hb
    · exact .inl (hbefore b hb)
    · rcases List.mem_cons.1 hb with rfl | hb
      · exact .inr ⟨rfl, String.le_refl _⟩
      · have hlt := h.2.1.1 b.id (List.mem_map_of_mem hb)
        rcases Nat.lt_or_eq_of_le (hafter b hb) with hless | heq
        · exact .inl hless
        · exact .inr ⟨heq, String.not_lt.1 (String.lt_asymm hlt)⟩
  · rintro ⟨ha, hmost⟩
    obtain ⟨before, after, rfl⟩ := List.append_of_mem ha
    rw [List.map_append, List.map_cons, List.pairwise_append] at h
    refine ⟨before, after, rfl, fun b hb => ?_, fun b hb => ?_⟩
    · have hlt := h.2.2 b.id (List.mem_map_of_mem hb) a.id List.mem_cons_self
      refine (hmost b (List.mem_append_left _ hb)).resolve_right fun ⟨_, hle⟩ => ?_
      exact String.not_lt.2 hle hlt
    · rcases hmost b (List.mem_append_right _ (List.mem_cons_of_mem _ hb)) with hless | ⟨heq, -⟩
      · exact Nat.le_of_lt hless
      · exact Nat.le_of_eq heq

/-- An asset that is less sensitive than another one changes nothing, wherever it stands. -/
theorem mostSensitive_insert {before after : List TechnicalAsset}
    (h : ∃ c ∈ before ++ after, b.sensitivity < c.sensitivity) :
    mostSensitive (before ++ b :: after) = mostSensitive (before ++ after) := by
  obtain ⟨c, hc, hlt⟩ := h
  cases hmost : mostSensitive (before ++ after) with
  | none =>
    rw [mostSensitive_eq_none hmost] at hc
    cases hc
  | some a =>
    have hout := standsOut_of_mostSensitive hmost
    have hba : b.sensitivity < a.sensitivity := Nat.lt_of_lt_of_le hlt (hout.le hc)
    obtain ⟨earlier, later, heq, hearlier, hlater⟩ := hout
    refine StandsOut.mostSensitive_eq ?_
    -- it stands before the asset that stands out, or behind it
    have hbefore (rest : List TechnicalAsset) (hrest : earlier = before ++ rest) :
        StandsOut a (before ++ b :: rest ++ a :: later) := by
      refine ⟨before ++ b :: rest, later, rfl, ?_, hlater⟩
      intro d hd
      rw [List.mem_append, List.mem_cons, or_left_comm, ← List.mem_append, ← hrest] at hd
      rcases hd with rfl | hd
      · exact hba
      · exact hearlier d hd
    rcases List.append_eq_append_iff.1 heq with ⟨rest, hrest, rfl⟩ | ⟨rest, rfl, hafter⟩
    · simpa using hbefore rest hrest
    · cases rest with
      | nil =>
        rw [List.nil_append] at hafter
        simpa [← hafter] using hbefore [] (by simp)
      | cons d rest =>
        obtain ⟨rfl, rfl⟩ := List.cons.inj hafter
        refine ⟨earlier, rest ++ b :: after, by simp, hearlier, ?_⟩
        intro d hd
        rw [List.mem_append, List.mem_cons, or_left_comm, ← List.mem_append] at hd
        rcases hd with rfl | hd
        · exact Nat.le_of_lt hba
        · exact hlater d hd

end ThreatModel.Example
