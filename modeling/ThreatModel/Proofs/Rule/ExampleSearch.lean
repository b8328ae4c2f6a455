import ThreatModel.Proofs.Model.Accepted
import ThreatModel.Proofs.Model.Rating
import ThreatModel.Proofs.Model.Sensitivity
import ThreatModel.Proofs.Rule.Example
import ThreatModel.Proofs.Validation.WellFormed
import ThreatModel.Rule.Builtin

/-!
# Which example a rule names

Three rules about the model as a whole name an example. One compares all assets and names a most
sensitive one. The other two keep an impact at the same time: up to the first candidate that is rated
high each candidate displaces what was found before, and only from there on the rivals are compared
(`Example.search_eq`). So a more sensitive candidate may be passed over, and where the rivals are not
the candidates themselves the example may be none of these.
-/

namespace ThreatModel

theorem TechnicalAsset.ownRating_le_rating (a : TechnicalAsset) (m : Model) :
    a.ownRating ≤ a.rating m := (Rating.highest_le_iff.1 le_rfl).1

namespace Example

variable {α : Type} {m : Model} {e : Example} {a b : TechnicalAsset}

/-! ## Rivals -/

theorem impact_challenge (e : Example) (b : TechnicalAsset) : (e.challenge b).impact = e.impact := by
  rw [challenge]
  split
  · rfl
  · split <;> rfl

theorem challenge_mostSensitive (assets : List TechnicalAsset) (i : Impact) (b : TechnicalAsset) :
    (⟨mostSensitive assets, i⟩ : Example).challenge b = ⟨mostSensitive (assets ++ [b]), i⟩ := by
  rw [mostSensitive_concat, ← asset_challenge ⟨mostSensitive assets, i⟩ b]
  exact congrArg (Example.mk _) (impact_challenge ..)

theorem foldl_challenge_mostSensitive (assets rivals : List TechnicalAsset) (i : Impact) :
    rivals.foldl challenge ⟨mostSensitive assets, i⟩ = ⟨mostSensitive (assets ++ rivals), i⟩ := by
  induction rivals generalizing assets with
  | nil => rw [List.append_nil, List.foldl_nil]
  | cons b rivals ih =>
    rw [List.foldl_cons, challenge_mostSensitive, ih, List.append_assoc, List.singleton_append]

/-- An asset is no rival to itself. -/
theorem mostSensitive_twice (a : TechnicalAsset) (assets : List TechnicalAsset) :
    mostSensitive (a :: a :: assets) = mostSensitive (a :: assets) := by
  have hself : (start.challenge a).challenge a = start.challenge a := by
    simp [start, challenge]
  rw [mostSensitive, mostSensitive, List.foldl_cons, List.foldl_cons, hself, List.foldl_cons]

/-! ## Candidates -/

/-- How bad it is if a candidate is at risk. -/
def gravity (m : Model) (a : TechnicalAsset) : Impact := if (a.rating m).isHigh then .medium else .low

/-- As long as the impact is low a candidate displaces the example. -/
theorem consider_of_low (h : e.impact = .low) :
    e.consider m a b = ⟨mostSensitive [a, b], gravity m a⟩ := by
  have hdisplaced : e.consider m a b = (⟨some a, gravity m a⟩ : Example).challenge b := by
    rw [consider, if_pos h]
    -- The own rating is asked for once more, but it is never above the one with data.
    by_cases hown : a.ownRating.isHigh = true
    · have hhigh := Rating.isHigh_mono (a.ownRating_le_rating m) hown
      simp [gravity, hown, hhigh]
    · simp [gravity, hown]
  rw [hdisplaced]
  exact challenge_mostSensitive [a] (gravity m a) b

/-- Later on only rivals are compared. -/
theorem consider_of_medium (h : e.impact = .medium) : e.consider m a b = e.challenge b := by
  obtain ⟨asset, impact⟩ := e
  obtain rfl : impact = .medium := h
  simp [consider]

/-! ## The whole search -/

/-- The search through offers, each with a candidate and a rival. -/
def search (m : Model) (candidate rival : α → TechnicalAsset) (offers : List α) : Example :=
  offers.foldl (fun e x => e.consider m (candidate x) (rival x)) start

/-- The offer at which a search settles: the first one that is decisive, or else the last one. -/
structure SettlesAt (decisive : α → Bool) (offers passed : List α) (x : α) (after : List α) :
    Prop where
  offered : offers = passed ++ x :: after
  passed : ∀ y ∈ passed, decisive y = false
  decisive : decisive x = true ∨ after = []

theorem exists_settlesAt (decisive : α → Bool) {offers : List α} (h : offers ≠ []) :
    ∃ passed x after, SettlesAt decisive offers passed x after := by
  induction offers with
  | nil => exact absurd rfl h
  | cons y offers ih =>
    cases hy : decisive y with
    | true => exact ⟨[], y, offers, rfl, by simp, .inl hy⟩
    | false =>
      by_cases hlast : offers = []
      · exact ⟨[], y, offers, rfl, by simp, .inr hlast⟩
      · obtain ⟨passed, x, after, hoffered, hpassed, hdecisive⟩ := ih hlast
        exact ⟨y :: passed, x, after, by rw [hoffered, List.cons_append],
          List.forall_mem_cons.2 ⟨hy, hpassed⟩, hdecisive⟩

variable {candidate rival : α → TechnicalAsset} {offers passed after : List α} {x : α}

theorem impact_search_of_low (h : ∀ y ∈ offers, ((candidate y).rating m).isHigh = false) :
    (search m candidate rival offers).impact = .low := by
  refine List.foldlRecOn (motive := fun e : Example => e.impact = .low) offers _ rfl ?_
  intro e he y hy
  rw [consider_of_low he, gravity, h y hy]
  rfl

theorem foldl_consider_of_medium (h : e.impact = .medium) :
    offers.foldl (fun e x => e.consider m (candidate x) (rival x)) e =
      (offers.map rival).foldl challenge e := by
  induction offers generalizing e with
  | nil => rfl
  | cons x offers ih =>
    rw [List.foldl_cons, List.map_cons, List.foldl_cons, consider_of_medium h,
      ih ((impact_challenge ..).trans h)]

/-- What was found before the search settles is lost, and from there on rivals are compared. -/
theorem search_eq (h : SettlesAt (fun y => ((candidate y).rating m).isHigh) offers passed x after) :
    search m candidate rival offers =
      ⟨mostSensitive (candidate x :: rival x :: after.map rival), gravity m (candidate x)⟩ := by
  obtain ⟨rfl, hpassed, hdecisive⟩ := h
  have hlow : (search m candidate rival passed).impact = .low := impact_search_of_low hpassed
  rw [search] at hlow ⊢
  rw [List.foldl_append, List.foldl_cons, consider_of_low hlow]
  -- Only a decisive candidate raises the impact; after another one nothing is offered any more.
  rcases hdecisive with hhigh | rfl
  · have hmedium : gravity m (candidate x) = .medium := by rw [gravity, if_pos hhigh]
    rw [hmedium, foldl_consider_of_medium rfl, foldl_challenge_mostSensitive]
    rfl
  · rfl

theorem exists_of_search (candidate rival : α → TechnicalAsset)
    (h : (search m candidate rival offers).asset = some a) : ∃ passed x after,
      SettlesAt (fun y => ((candidate y).rating m).isHigh) offers passed x after ∧
        StandsOut a (candidate x :: rival x :: after.map rival) := by
  have hoffers : offers ≠ [] := by
    rintro rfl
    cases h
  obtain ⟨passed, x, after, hsettles⟩ :=
    exists_settlesAt (fun y => ((candidate y).rating m).isHigh) hoffers
  rw [search_eq hsettles] at h
  exact ⟨passed, x, after, hsettles, standsOut_of_mostSensitive h⟩

theorem exists_of_mem_finding {c : Category} {what : String} {r : Risk}
    (hr : r ∈ e.finding c what) : ∃ a, e.asset = some a ∧ r.technicalAsset = some a.id := by
  rw [finding, Option.mem_toList, Option.map_eq_some_iff] at hr
  obtain ⟨a, ha, rfl⟩ := hr
  exact ⟨a, ha, rfl⟩

end Example

namespace BuiltinRule

open Example

variable {m : Model} {r : Risk} {a t : TechnicalAsset}

/-! ## The three rules -/

theorem missingVault_example (hr : r ∈ missingVault.findings m) :
    ∃ a, r.technicalAsset = some a.id ∧ StandsOut a m.technicalAssets.values := by
  simp only [missingVault] at hr
  split at hr
  · cases hr
  · obtain ⟨a, ha, hreferenced⟩ := exists_of_mem_finding hr
    exact ⟨a, hreferenced, standsOut_of_mostSensitive ha⟩

/-- The in-scope assets with custom parts. -/
def customBuilt (m : Model) : List TechnicalAsset := m.inScope.filter (·.customDevelopedParts)

theorem missingBuildInfrastructure_example (hr : r ∈ missingBuildInfrastructure.findings m) :
    ∃ passed b after a, SettlesAt (fun c => (c.rating m).isHigh) (customBuilt m) passed b after ∧
      r.technicalAsset = some a.id ∧ StandsOut a (b :: after) := by
  simp only [missingBuildInfrastructure] at hr
  split at hr
  · cases hr
  · obtain ⟨a, ha, hreferenced⟩ := exists_of_mem_finding hr
    obtain ⟨passed, b, after, hsettles, hout⟩ :=
      exists_of_search id id ha
    rw [List.map_id, id, ← mostSensitive_eq_some_iff, mostSensitive_twice] at hout
    exact ⟨passed, b, after, a, hsettles, hreferenced, mostSensitive_eq_some_iff.1 hout⟩

theorem missingIdentityStore_example (hr : r ∈ missingIdentityStore.findings m) :
    ∃ passed x after a,
      SettlesAt (fun y => (y.1.rating m).isHigh) (identityTargets m) passed x after ∧
        r.technicalAsset = some a.id ∧ StandsOut a (x.1 :: x.2 :: after.map (·.2)) := by
  simp only [missingIdentityStore] at hr
  split at hr
  · cases hr
  · obtain ⟨a, ha, hreferenced⟩ := exists_of_mem_finding hr
    obtain ⟨passed, x, after, hsettles, hout⟩ :=
      exists_of_search Prod.fst Prod.snd ha
    exact ⟨passed, x, after, a, hsettles, hreferenced, hout⟩

/-- An asset is called on behalf of an enduser. -/
def ReceivesIdentity (m : Model) (t : TechnicalAsset) : Prop :=
  ∃ l ∈ m.links, l.authorization = .enduserIdentityPropagation ∧ m.target? l = some t

theorem receivesIdentity_iff : ReceivesIdentity m t ↔ ∃ y ∈ identityTargets m, y.1 = t := by
  simp only [ReceivesIdentity, identityTargets, Model.links, List.mem_flatMap, List.mem_filterMap,
    List.mem_filter, decide_eq_true_eq, Option.map_eq_some_iff]
  constructor
  · rintro ⟨l, ⟨a, ha, hl⟩, hpasses, ht⟩
    exact ⟨(t, a), ⟨a, ha, l, ⟨hl, hpasses⟩, t, ht, rfl⟩, rfl⟩
  · rintro ⟨y, ⟨a, ha, l, ⟨hl, hpasses⟩, u, hu, rfl⟩, rfl⟩
    exact ⟨l, ⟨a, ha, hl⟩, hpasses, hu⟩

/-- The vault rule names a most sensitive asset. The one about build infrastructure names the first of
the most sensitive assets from where its search settles, so what it has passed may be more sensitive.
The one about identity stores compares callers from where its search settles, so the asset that it
names may be called by no one, and all other assets that are called may be more sensitive. -/
theorem examples_mostSensitive_iff (m : Model) :
    (∀ r ∈ missingVault.findings m, ∃ a ∈ m.technicalAssets.values, r.technicalAsset = some a.id ∧
      ∀ b ∈ m.technicalAssets.values, b.sensitivity ≤ a.sensitivity) ∧
    (∀ r ∈ missingBuildInfrastructure.findings m, ∃ a ∈ customBuilt m,
      r.technicalAsset = some a.id ∧ ∃ passed b after,
        SettlesAt (fun c => (c.rating m).isHigh) (customBuilt m) passed b after ∧
          StandsOut a (b :: after) ∧
          ((∀ c ∈ customBuilt m, c.sensitivity ≤ a.sensitivity) ↔
            ∀ c ∈ passed, c.sensitivity ≤ a.sensitivity)) ∧
    ∀ r ∈ missingIdentityStore.findings m, ∃ a, r.technicalAsset = some a.id ∧ ∃ passed x after,
      SettlesAt (fun y => (y.1.rating m).isHigh) (identityTargets m) passed x after ∧
        StandsOut a (x.1 :: x.2 :: after.map (·.2)) ∧
        ((∀ t, ReceivesIdentity m t → t.sensitivity ≤ a.sensitivity) ↔
          ∀ y ∈ passed ++ after, y.1.sensitivity ≤ a.sensitivity) := by
  refine ⟨fun r hr => ?_, fun r hr => ?_, fun r hr => ?_⟩
  · obtain ⟨a, hreferenced, hout⟩ := missingVault_example hr
    exact ⟨a, mem_of_mostSensitive hout.mostSensitive_eq, hreferenced, fun b hb => hout.le hb⟩
  · obtain ⟨passed, b, after, a, hsettles, hreferenced, hout⟩ := missingBuildInfrastructure_example hr
    have hoffered := hsettles.offered
    refine ⟨a, ?_, hreferenced, passed, b, after, hsettles, hout, ?_⟩
    · rw [hoffered]
      exact List.mem_append_right _ (mem_of_mostSensitive hout.mostSensitive_eq)
    · rw [hoffered, List.forall_mem_append, and_iff_left fun c hc => hout.le hc]
  · obtain ⟨passed, x, after, a, hsettles, hreferenced, hout⟩ := missingIdentityStore_example hr
    have hoffered := hsettles.offered
    have hx : x.1.sensitivity ≤ a.sensitivity := hout.le List.mem_cons_self
    refine ⟨a, hreferenced, passed, x, after, hsettles, hout, ?_⟩
    simp only [receivesIdentity_iff, forall_exists_index, and_imp, forall_apply_eq_imp_iff₂]
    rw [hoffered, List.forall_mem_append, List.forall_mem_cons, List.forall_mem_append,
      and_iff_right hx]

/-- A service for bills that calls a mailer on behalf of endusers. Nothing is rated high. -/
def billingShop : ModelInput :=
  let service (id confidentiality : String) : TechnicalAssetInput :=
    { id := id, kind := "process", usage := "business", size := "service"
      technology := "web-service-rest", machine := "container", encryption := "none"
      customDevelopedParts := true, confidentiality := confidentiality
      integrity := "operational", availability := "operational" }
  { title := "Billing shop"
    businessCriticality := "important"
    technicalAssets := .ofList [
      ("Billing", { service "billing" "restricted" with
        links := .ofList [("Notify", {
          target := "mailer", protocol := "https", authentication := "token"
          authorization := "enduser-identity-propagation", usage := "business" })] }),
      ("Mailer", service "mailer" "public")] }

/-- The rule about build infrastructure names the mailer, though the other service is more sensitive, and
the one about identity stores names that other service, which no one calls. -/
theorem billingShop_examples :
    ∃ m, Validation.build ⟨2024, 3, 1⟩ billingShop = .ok m ∧
      (∃ r ∈ missingBuildInfrastructure.findings m, ∀ a ∈ customBuilt m,
        r.technicalAsset = some a.id → ∃ b ∈ customBuilt m, a.sensitivity < b.sensitivity) ∧
      ∃ r ∈ missingIdentityStore.findings m, ∀ t, ReceivesIdentity m t → r.technicalAsset ≠ some t.id := by
  have hchecked : (Validation.build ⟨2024, 3, 1⟩ billingShop).toOption.map (fun m => decide (
      (∃ r ∈ missingBuildInfrastructure.findings m, ∀ a ∈ customBuilt m,
        r.technicalAsset = some a.id → ∃ b ∈ customBuilt m, a.sensitivity < b.sensitivity) ∧
      ∃ r ∈ missingIdentityStore.findings m, ∀ y ∈ identityTargets m,
        r.technicalAsset ≠ some y.1.id)) = some true := by
    decide +kernel
  obtain ⟨m, hm, hchecked⟩ := Model.exists_of_build hchecked
  obtain ⟨hbuild, r, hr, hne⟩ := of_decide_eq_true hchecked
  refine ⟨m, hm, hbuild, r, hr, fun t ht => ?_⟩
  obtain ⟨y, hy, rfl⟩ := receivesIdentity_iff.1 ht
  exact hne y hy

end BuiltinRule

end ThreatModel
