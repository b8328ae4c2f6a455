import ThreatModel.Proofs.Model.Accepted
import ThreatModel.Proofs.Model.Neighbours
import ThreatModel.Proofs.Model.Sensitivity
import ThreatModel.Proofs.Rule.Finding
import ThreatModel.Risk.Severity

/-!
# Findings are at least as severe when data is rated higher

If data is rated higher, a rule finds again what it found before, under the same ids and at least as
severe (`ModelRule.Rises`). Conditions on ratings ask whether they reach a bar, so they stay true,
and impacts step up with the bars that are reached. Findings are compared while they are made
(`Risk.Under`). Where a rule keeps the first of several findings with one id, these are equally severe.
Five rules are excepted: they grade content in steps that go down as well, or stop at the first data
asset or candidate that matters.
-/

namespace ThreatModel

namespace Risk

/-- One finding has the id of another one and is at least as severe. -/
def AtLeast (r s : Risk) : Prop := s.syntheticId = r.syntheticId ∧ r.severity ≤ s.severity

theorem AtLeast.refl (r : Risk) : r.AtLeast r := ⟨rfl, Nat.le_refl _⟩

/-! ## How findings are made -/

/-- Two findings of one category in the making, the second one at least as severe. -/
structure Under (r s : Risk) : Prop where
  category : s.category = r.category
  severity : r.severity ≤ s.severity

/-- Findings that are equally likely compare by their impacts. -/
theorem under_finding {c : Category} {likelihood : Likelihood} {x y : Impact}
    {title title' : String} (h : x ≤ y) : (c.finding likelihood x title).Under (c.finding likelihood y title') where
  category := rfl
  severity := Severity.of_mono_impact likelihood h

namespace Under

variable {r s : Risk} (h : r.Under s)

include h

theorem onAsset {a : TechnicalAsset} : (r.onAsset a).Under (s.onAsset a) :=
  ⟨h.category, h.severity⟩

theorem onLink {l : Link} : (r.onLink l).Under (s.onLink l) := ⟨h.category, h.severity⟩

theorem onData {d e : DataAsset} : (r.onData d).Under (s.onData e) := ⟨h.category, h.severity⟩

theorem onBoundary {b : TrustBoundary} : (r.onBoundary b).Under (s.onBoundary b) :=
  ⟨h.category, h.severity⟩

theorem onRuntime {t : SharedRuntime} : (r.onRuntime t).Under (s.onRuntime t) :=
  ⟨h.category, h.severity⟩

theorem withBreach {probability : BreachProbability} {breach breach' : List String} :
    (r.withBreach probability breach).Under (s.withBreach probability breach') :=
  ⟨h.category, h.severity⟩

theorem identifiedBy {ids ids' : List String} (hids : ids' = ids) :
    (r.identifiedBy ids).AtLeast (s.identifiedBy ids') := by
  refine ⟨?_, h.severity⟩
  rw [hids, Risk.identifiedBy, h.category]
  rfl

end Under

/-! ## Impacts -/

theorem ite_le_ite {P Q : Prop} [Decidable P] [Decidable Q] {x y x' y' : Impact} (h : P → Q)
    (hx : x ≤ x') (hy : y ≤ y') (hyx : ¬P → Q → y ≤ x') :
    (if P then x else y) ≤ if Q then x' else y' := by
  by_cases hp : P
  · rw [if_pos hp, if_pos (h hp)]
    exact hx
  · rw [if_neg hp]
    by_cases hq : Q
    · rw [if_pos hq]
      exact hyx hp hq
    · rw [if_neg hq]
      exact hy

/-- A step between two impacts. -/
theorem step_mono {P Q : Prop} [Decidable P] [Decidable Q] {x y : Impact} (h : P → Q)
    (hyx : y ≤ x) : (if P then x else y) ≤ if Q then x else y :=
  ite_le_ite h (Nat.le_refl _) (Nat.le_refl _) fun _ _ => hyx

/-- Two steps between three impacts. -/
theorem steps_mono {r s : Rating} (h : r ≤ s) {x y z : Impact} (hyx : y ≤ x) (hzy : z ≤ y) :
    (if r.isTop then x else if r.isHigh then y else z) ≤
      if s.isTop then x else if s.isHigh then y else z := by
  refine ite_le_ite (Rating.isTop_mono h) (Nat.le_refl _) (step_mono (Rating.isHigh_mono h) hzy)
    fun _ _ => ?_
  split
  · exact hyx
  · exact Nat.le_trans hzy hyx

/-! ## The first finding with an id -/

theorem covered_firstPerId {l l' : List Risk} (h : Covered AtLeast l l')
    (hsame : ∀ r ∈ l', ∀ s ∈ l', r.syntheticId = s.syntheticId → r.severity = s.severity) :
    Covered AtLeast (firstPerId l) (firstPerId l') := by
  intro r hr
  obtain ⟨s, hs, hid, hle⟩ := h r (List.mem_of_find?_eq_some (mem_firstPerId_iff.1 hr))
  obtain ⟨t, ht⟩ : ∃ t, l'.find? (·.syntheticId = s.syntheticId) = some t := by
    rw [← Option.isSome_iff_exists, List.find?_isSome]
    exact ⟨s, hs, by simp⟩
  have heq : t.syntheticId = s.syntheticId := by simpa using List.find?_some ht
  refine ⟨t, mem_firstPerId_iff.2 (heq ▸ ht), heq.trans hid, ?_⟩
  rw [hsame t (List.mem_of_find?_eq_some ht) s hs heq]
  exact hle

/-- Findings that correspond one by one are the first with their id in the same places. -/
theorem covered_firstPerId_of_forall₂ {l l' : List Risk} (h : List.Forall₂ AtLeast l l') :
    Covered AtLeast (firstPerId l) (firstPerId l') := by
  have hfirst (id : String) (r : Risk) (hr : l.find? (·.syntheticId = id) = some r) :
      ∃ s, l'.find? (·.syntheticId = id) = some s ∧ r.AtLeast s := by
    induction h with
    | nil => cases hr
    | cons hrs _ ih =>
      rw [List.find?_cons] at hr ⊢
      rw [hrs.1]
      split at hr
      · exact ⟨_, rfl, Option.some.inj hr ▸ hrs⟩
      · exact ih hr
  intro r hr
  obtain ⟨s, hs, hrs⟩ := hfirst _ r (mem_firstPerId_iff.1 hr)
  exact ⟨s, mem_firstPerId_iff.2 (hrs.1 ▸ hs), hrs⟩

end Risk

/-- Everything that a rule finds in a model has a counterpart in another one that is at least as
severe. -/
def ModelRule.Rises (rule : ModelRule) (m m' : Model) : Prop :=
  Covered Risk.AtLeast (rule.findings m) (rule.findings m')

namespace BuiltinRule

open Risk Rating

variable {m : Model} {data : Dict DataAsset} {α : Type}

/-! ## Going over elements -/

theorem rises_of_eq {rule : ModelRule} {m' : Model} (h : rule.findings m' = rule.findings m) :
    rule.Rises m m' := by
  rw [ModelRule.Rises, h]
  exact covered_refl fun r _ => .refl r

section

variable {elements others : List α} (h : elements ⊆ others)

include h

theorem raised_map {f g : α → Risk} (hfg : ∀ x, (f x).AtLeast (g x)) :
    Covered AtLeast (elements.map f) (others.map g) :=
  (covered_of_subset h).map fun x _ heq => heq ▸ hfg x

theorem raised_flatMap {f g : α → List Risk} (hfg : ∀ x, Covered AtLeast (f x) (g x)) :
    Covered AtLeast (elements.flatMap f) (others.flatMap g) :=
  (covered_of_subset h).flatMap fun x _ heq => heq ▸ hfg x

theorem raised_filterMap {f g : α → Option Risk}
    (hfg : ∀ x r, f x = some r → ∃ s, g x = some s ∧ r.AtLeast s) :
    Covered AtLeast (elements.filterMap f) (others.filterMap g) :=
  (covered_of_subset h).filterMap fun x _ heq => heq ▸ hfg x

end

/-- A finding about a thing that is there in both models. -/
theorem raised_option {o : Option α} {f g : α → Risk} (hfg : ∀ x, (f x).AtLeast (g x)) (r : Risk)
    (hr : o.map f = some r) : ∃ s, o.map g = some s ∧ r.AtLeast s := by
  obtain ⟨x, hx, rfl⟩ := Option.map_eq_some_iff.1 hr
  exact ⟨g x, Option.map_eq_some_iff.2 ⟨x, hx, rfl⟩, hfg x⟩

/-- Findings about the same example. -/
theorem raised_example {asset : Option TechnicalAsset} {c : Category} {what : String} {x y : Impact}
    (h : x ≤ y) : Covered AtLeast (Example.finding ⟨asset, x⟩ c what)
      (Example.finding ⟨asset, y⟩ c what) := by
  cases asset with
  | none => exact covered_refl fun r _ => .refl r
  | some a =>
    intro r hr
    rw [List.mem_singleton.1 hr]
    exact ⟨_, List.mem_singleton_self _, (under_finding h).onAsset.withBreach.identifiedBy rfl⟩

/-! ## Findings that are graded by other means -/

theorem mixedTargetsOnSharedRuntime_rises :
    mixedTargetsOnSharedRuntime.Rises m (m.withData data) := by
  refine raised_map (filter_subset_filter (List.Subset.refl _) ?_) fun _ => .refl _
  intro r _ hr
  have hboundary : (m.withData data).directBoundary = m.directBoundary := rfl
  rw [isMixedFrom_congr hboundary]
  exact hr

theorem forall₂_map_atLeast {elements : List α} {f g : α → Risk} (hfg : ∀ x, (f x).AtLeast (g x)) :
    List.Forall₂ AtLeast (elements.map f) (elements.map g) := by
  rw [List.forall₂_map_left_iff, List.forall₂_map_right_iff]
  exact List.forall₂_same.2 fun x _ => hfg x

theorem forall₂_flatMap_atLeast {elements : List α} {f g : α → List Risk}
    (hfg : ∀ x, List.Forall₂ AtLeast (f x) (g x)) :
    List.Forall₂ AtLeast (elements.flatMap f) (elements.flatMap g) := by
  induction elements with
  | nil => exact .nil
  | cons x elements ih => exact List.rel_append (hfg x) ih

theorem storageImpact_mono {r s : Rating} (hrs : r ≤ s) {a : TechnicalAsset} {x : Impact}
    (hx : storageImpact r a = some x) : ∃ y, storageImpact s a = some y ∧ x ≤ y := by
  have hkey (hr : requiresEnduserKey r a = true) : requiresEnduserKey s a = true := by
    rw [requiresEnduserKey, Bool.and_eq_true] at hr ⊢
    exact ⟨isTopContent_mono hrs hr.1, hr.2⟩
  rw [storageImpact] at hx ⊢
  cases hencryption : a.encryption with
  | none =>
    rw [hencryption] at hx
    refine ⟨_, rfl, ?_⟩
    rw [← Option.some.inj hx]
    exact step_mono (isTopContent_mono hrs) (by decide)
  | dataWithEnduserIndividualKey =>
    rw [hencryption] at hx
    cases hx
  | transparent | dataWithSymmetricSharedKey | dataWithAsymmetricSharedKey =>
    simp only [hencryption, Option.ite_none_right_eq_some, Option.some.injEq] at hx ⊢
    exact ⟨x, ⟨hkey hx.1, hx.2⟩, Nat.le_refl _⟩

/-- All findings about second factors are equally severe. -/
theorem severity_of_mem_secondFactorFindings {a : TechnicalAsset} {r : Risk}
    (hr : r ∈ secondFactorFindings m a) : r.severity = .of .unlikely .medium := by
  obtain ⟨x, -, hr⟩ := List.mem_flatMap.1 hr
  split at hr
  · split at hr
    · rw [List.mem_singleton.1 hr]
      rfl
    · cases hr
  · split at hr
    · obtain ⟨o, -, rfl⟩ := List.mem_map.1 hr
      rfl
    · cases hr

theorem raised_injections {c : Category} {what against : String} {service : TechnicalAsset}
    {x y : Impact} {likelihood : Link → Likelihood} {carries : Link → Bool} (hxy : x ≤ y) :
    Covered AtLeast (injections m c what against service x likelihood carries)
      (injections (m.withData data) c what against service y likelihood carries) :=
  raised_map (List.Subset.refl _) fun _ =>
    (under_finding hxy).onAsset.onLink.withBreach.identifiedBy rfl

/-- The id of a transfer shows the data, and thus how severe the transfer is. -/
theorem severity_eq_of_mem_transfers (hm : m.Coherent) {a b : TechnicalAsset} {r s : Risk}
    (ha : a ∈ m.inScope) (hb : b ∈ m.inScope) (hr : r ∈ transfers m a) (hs : s ∈ transfers m b)
    (hid : r.syntheticId = s.syntheticId) : r.severity = s.severity := by
  obtain ⟨partner, d, hpartner, hd, rfl⟩ := mem_transfers hr
  obtain ⟨other, e, hother, he, rfl⟩ := mem_transfers hs
  have hplain {a partner : TechnicalAsset} {d : DataAsset} (ha : a ∈ m.inScope)
      (hpartner : partner ∈ m.technicalAssets.values) (hd : d ∈ m.dataAssets.values) :
      ∀ id ∈ [d.id, a.id, partner.id], Plain id := by
    simp [hm.plain_asset (mem_values_of_inScope ha), hm.plain_asset hpartner,
      (hm.dataAssets.isId_of_mem hd).plain]
  have hids : [d.id, a.id, partner.id] = [e.id, b.id, other.id] :=
    joinIds_inj (hplain ha hpartner hd) (hplain hb hother he) hid
  have hdata := hm.dataAssets.get?_of_mem hd
  rw [(List.cons.inj hids).1, hm.dataAssets.get?_of_mem he] at hdata
  rw [Option.some.inj hdata]
  rfl

section

variable (h : m.RaisedBy data)

include h

/-! ## Impacts that are one step up if an asset and its data are rated high enough -/

theorem isTop_step (a : TechnicalAsset) {x y : Impact} (hyx : y ≤ x) :
    (if (a.rating m).isTop then x else y) ≤ if (a.rating (m.withData data)).isTop then x else y :=
  step_mono (isTop_mono (h.rating_asset a)) hyx

theorem isTopContent_step (a : TechnicalAsset) {x y : Impact} (hyx : y ≤ x) :
    (if (a.rating m).isTopContent then x else y) ≤
      if (a.rating (m.withData data)).isTopContent then x else y :=
  step_mono (isTopContent_mono (h.rating_asset a)) hyx

theorem isHigh_step (a : TechnicalAsset) {x y : Impact} (hyx : y ≤ x) :
    (if (a.rating m).isHigh then x else y) ≤
      if (a.rating (m.withData data)).isHigh then x else y :=
  step_mono (isHigh_mono (h.rating_asset a)) hyx

/-! ## Cloud hardening -/

theorem atLeast_ofBoundary (guide : Option HardeningGuide) (b : TrustBoundary) :
    (CloudHardening.ofBoundary m guide b).AtLeast
      (CloudHardening.ofBoundary (m.withData data) guide b) := by
  refine (under_finding ?_).onBoundary.withBreach.identifiedBy rfl
  exact steps_mono (h.rating_boundary b) (by decide) (by decide)

theorem atLeast_ofRuntime (guide : Option HardeningGuide) (r : SharedRuntime) :
    (CloudHardening.ofRuntime m guide r).AtLeast
      (CloudHardening.ofRuntime (m.withData data) guide r) := by
  refine (under_finding ?_).onRuntime.withBreach.identifiedBy rfl
  exact steps_mono (h.rating_runtime r) (by decide) (by decide)

theorem atLeast_ofAsset (guide : HardeningGuide) (a : TechnicalAsset) :
    (CloudHardening.ofAsset m guide a).AtLeast
      (CloudHardening.ofAsset (m.withData data) guide a) := by
  refine (under_finding ?_).onAsset.withBreach.identifiedBy rfl
  exact steps_mono (h.rating_asset a) (by decide) (by decide)

/-- The same elements are found in the same order, and an example does not depend on data. -/
theorem forall₂_candidates :
    List.Forall₂ AtLeast (CloudHardening.candidates m)
      (CloudHardening.candidates (m.withData data)) := by
  have hexamples : List.Forall₂ AtLeast
      (CloudHardening.providers.filterMap fun p =>
        (CloudHardening.example? m p).map (CloudHardening.ofAsset m p))
      (CloudHardening.providers.filterMap fun p =>
        (CloudHardening.example? m p).map (CloudHardening.ofAsset (m.withData data) p)) := by
    refine List.rel_filterMap (R := Eq) ?_ (List.forall₂_same.2 fun p _ => rfl)
    intro p q heq
    subst heq
    show Option.Rel AtLeast ((CloudHardening.example? m p).map _)
      ((CloudHardening.example? m p).map _)
    cases CloudHardening.example? m p with
    | none => exact .none
    | some a => exact .some (atLeast_ofAsset h p a)
  refine List.rel_append (List.rel_append (List.rel_append (List.rel_append ?_ ?_) ?_) hexamples) ?_
  · exact forall₂_flatMap_atLeast fun p => forall₂_map_atLeast fun r => atLeast_ofRuntime h _ r
  · exact forall₂_flatMap_atLeast fun p => forall₂_map_atLeast fun b => atLeast_ofBoundary h _ b
  · exact forall₂_map_atLeast fun b => atLeast_ofBoundary h _ b
  · exact forall₂_flatMap_atLeast fun a => forall₂_map_atLeast fun s => atLeast_ofAsset h s a

theorem missingCloudHardening_rises : missingCloudHardening.Rises m (m.withData data) :=
  covered_firstPerId_of_forall₂ (forall₂_candidates h)

/-! ## Content -/

theorem missingFileValidation_rises : missingFileValidation.Rises m (m.withData data) :=
  raised_map (List.Subset.refl _) fun a =>
    (under_finding (isTop_step h a (by decide))).onAsset.withBreach.identifiedBy rfl

theorem xmlExternalEntity_rises : xmlExternalEntity.Rises m (m.withData data) :=
  raised_map (List.Subset.refl _) fun a =>
    (under_finding (isTop_step h a (by decide))).onAsset.withBreach.identifiedBy rfl

theorem untrustedDeserialization_rises : untrustedDeserialization.Rises m (m.withData data) :=
  raised_map (List.Subset.refl _) fun a =>
    (under_finding (isTop_step h a (by decide))).onAsset.withBreach.identifiedBy rfl

/-! ## Encryption -/

theorem unencryptedAsset_rises : unencryptedAsset.Rises m (m.withData data) := by
  refine raised_filterMap (filter_subset_filter (List.Subset.refl _) ?_) ?_
  · intro a _ ha
    rw [Bool.and_eq_true] at ha ⊢
    exact ⟨ha.1, isHighContent_mono (h.rating_asset a) ha.2⟩
  · intro a r hr
    obtain ⟨x, hx, rfl⟩ := Option.map_eq_some_iff.1 hr
    obtain ⟨y, hy, hxy⟩ := storageImpact_mono (h.rating_asset a) hx
    exact ⟨_, Option.map_eq_some_iff.2 ⟨y, hy, rfl⟩,
      (under_finding hxy).onAsset.withBreach.identifiedBy rfl⟩

/-! ## Hardening -/

theorem containerPlatformEscape_rises : containerPlatformEscape.Rises m (m.withData data) :=
  raised_map (List.Subset.refl _) fun a =>
    (under_finding (isTop_step h a (by decide))).onAsset.withBreach.identifiedBy rfl

theorem missingHardening_rises : missingHardening.Rises m (m.withData data) :=
  raised_map (List.Subset.refl _) fun a =>
    (under_finding (isTopContent_step h a (by decide))).onAsset.withBreach.identifiedBy rfl

theorem missingVault_rises : missingVault.Rises m (m.withData data) := by
  by_cases hvault : m.technicalAssets.values.any (·.technology = .vault) = true
  · refine rises_of_eq ?_
    rw [missingVault, Model.withData]
    simp only [hvault, if_true]
  · rw [ModelRule.Rises, missingVault, Model.withData]
    simp only [hvault]
    refine raised_example (step_mono (any_of_subset (List.Subset.refl _) ?_) (by decide))
    intro a _ ha
    rw [Bool.or_eq_true] at ha ⊢
    exact ha.imp (isHigh_mono (h.rating_asset a)) id

theorem serviceRegistryPoisoning_rises : serviceRegistryPoisoning.Rises m (m.withData data) := by
  refine raised_map (List.Subset.refl _) fun registry =>
    (under_finding (step_mono ?_ (by decide))).onAsset.withBreach.identifiedBy rfl
  refine any_of_subset (List.Subset.refl _) fun l _ hl => ?_
  simp only [Bool.or_eq_true] at hl ⊢
  refine hl.imp (Or.imp (isTop_mono (h.rating_asset registry)) (isTop_mono (h.rating_link l))) ?_
  intro hcaller
  rw [Option.any_eq_true] at hcaller ⊢
  obtain ⟨caller, hcaller, htop⟩ := hcaller
  exact ⟨caller, hcaller, isTop_mono (h.rating_asset caller) htop⟩

/-! ## Identity -/

theorem lacksSecondFactor_mono (l : Link) (hl : lacksSecondFactor m l = true) :
    lacksSecondFactor (m.withData data) l = true := by
  rw [lacksSecondFactor, Bool.and_eq_true] at hl ⊢
  exact ⟨isHighContent_mono (h.rating_link l) hl.1, hl.2⟩

theorem secondFactorFindings_raised (a : TechnicalAsset) :
    Covered AtLeast (secondFactorFindings m a) (secondFactorFindings (m.withData data) a) := by
  refine raised_flatMap (List.Subset.refl _) fun x => ?_
  by_cases hhuman : x.caller.usedAsClientByHuman = true
  · rw [if_pos hhuman, if_pos hhuman]
    by_cases hlacks : lacksSecondFactor m x.link = true
    · rw [if_pos hlacks, if_pos (lacksSecondFactor_mono h x.link hlacks)]
      exact covered_refl fun r _ => .refl r
    · rw [if_neg hlacks]
      exact fun r hr => absurd hr List.not_mem_nil
  · rw [if_neg hhuman, if_neg hhuman]
    by_cases hforwards : x.caller.technology.isTrafficForwarding = true
    · rw [if_pos hforwards, if_pos hforwards]
      refine raised_map (filter_subset_filter (List.Subset.refl _) ?_) fun _ => .refl _
      intro o _ ho
      rw [Bool.and_eq_true] at ho ⊢
      exact ⟨ho.1, lacksSecondFactor_mono h o.link ho.2⟩
    · rw [if_neg hforwards, if_neg hforwards]
      exact covered_refl fun r _ => .refl r

theorem missingAuthenticationSecondFactor_rises :
    missingAuthenticationSecondFactor.Rises m (m.withData data) := by
  refine covered_firstPerId ?_ ?_
  · refine Covered.flatMap (covered_of_subset (filter_subset_filter (List.Subset.refl _) ?_)) ?_
    · intro a _ ha
      rw [Bool.and_eq_true, needsAuthentication, Bool.or_eq_true] at ha ⊢
      exact ⟨ha.1, ha.2.imp_left (isHigh_mono (h.rating_asset a))⟩
    · intro a b heq
      exact heq ▸ secondFactorFindings_raised h a
  · intro r hr s hs _
    obtain ⟨a, -, hr⟩ := List.mem_flatMap.1 hr
    obtain ⟨b, -, hs⟩ := List.mem_flatMap.1 hs
    rw [severity_of_mem_secondFactorFindings hr, severity_of_mem_secondFactorFindings hs]

/-! ## Injection -/

theorem ldapInjection_rises : ldapInjection.Rises m (m.withData data) :=
  raised_flatMap (List.Subset.refl _) fun a =>
    raised_injections (isTopContent_step h a (by decide))

theorem pathTraversal_rises : pathTraversal.Rises m (m.withData data) :=
  raised_flatMap (List.Subset.refl _) fun a =>
    raised_injections (isTopContent_step h a (by decide))

theorem sqlNosqlInjection_rises : sqlNosqlInjection.Rises m (m.withData data) :=
  raised_flatMap (List.Subset.refl _) fun a =>
    raised_injections (isTopContent_step h a (by decide))

/-! ## Necessity -/

theorem unnecessaryDataAsset_rises : unnecessaryDataAsset.Rises m (m.withData data) := by
  have hvalues : Covered DataAsset.Raised m.dataAssets.values data.values :=
    fun _ hd => h.exists_of_mem_values hd
  refine (hvalues.filter ?_).map ?_
  · intro d e hde hd
    rw [hde.id]
    exact hd
  · intro d e hde
    refine (under_finding (Nat.le_refl _)).onData.withBreach.identifiedBy ?_
    rw [hde.id]

theorem needlessTransfers_raised (a : TechnicalAsset) (l : Link) (partnerId : String) :
    Covered AtLeast (needlessTransfers m a l partnerId)
      (needlessTransfers (m.withData data) a l partnerId) := by
  have hknown : (m.withData data).technicalAssets = m.technicalAssets := rfl
  rw [needlessTransfers, needlessTransfers, hknown]
  cases m.technicalAssets.get? partnerId with
  | none => exact covered_refl fun r _ => .refl r
  | some partner =>
    by_cases htolerates : partner.technology.toleratesUnnecessaryData = true
    · simp only [htolerates, if_true]
      exact covered_refl fun r _ => .refl r
    · simp only [htolerates]
      refine ((covered_of_forall₂ (h.dataOf _)).filter ?_).map ?_
      · intro d e hde hd
        exact isHighContent_mono hde.rating hd
      · intro d e hde
        refine (under_finding ?_).onAsset.onData.withBreach.identifiedBy ?_
        · exact step_mono (isTopContent_mono hde.rating) (by decide)
        · rw [hde.id]

theorem transfers_raised (a : TechnicalAsset) :
    Covered AtLeast (transfers m a) (transfers (m.withData data) a) := by
  refine .append ?_ ?_
  · exact raised_flatMap (List.Subset.refl _) fun l => needlessTransfers_raised h a l _
  · exact raised_flatMap (List.Subset.refl _) fun l => needlessTransfers_raised h a l _

theorem unnecessaryDataTransfer_rises (hm : (m.withData data).Coherent) :
    unnecessaryDataTransfer.Rises m (m.withData data) := by
  rw [ModelRule.Rises, unnecessaryDataTransfer_findings, unnecessaryDataTransfer_findings]
  refine covered_firstPerId (raised_flatMap (List.Subset.refl _) (transfers_raised h)) ?_
  intro r hr s hs hid
  obtain ⟨a, ha, hr⟩ := List.mem_flatMap.1 hr
  obtain ⟨b, hb, hs⟩ := List.mem_flatMap.1 hs
  exact severity_eq_of_mem_transfers hm ha hb hr hs hid

/-! ## Supply chain -/

theorem accidentalSecretLeak_rises : accidentalSecretLeak.Rises m (m.withData data) := by
  refine raised_map (List.Subset.refl _) fun a =>
    (under_finding ?_).onAsset.withBreach.identifiedBy rfl
  exact steps_mono (h.rating_asset a) (by decide) (by decide)

theorem codeBackdooring_rises : codeBackdooring.Rises m (m.withData data) := by
  refine raised_map (List.Subset.refl _) fun a =>
    (under_finding ?_).onAsset.withBreach.identifiedBy rfl
  refine ite_le_ite id (Nat.le_refl _) ?_ fun hp hq => absurd hq hp
  exact step_mono (isHighContent_mono (h.rating_asset a)) (by decide)

theorem containerBaseimageBackdooring_rises :
    containerBaseimageBackdooring.Rises m (m.withData data) :=
  raised_map (List.Subset.refl _) fun a =>
    (under_finding (isTop_step h a (by decide))).onAsset.withBreach.identifiedBy rfl

theorem pushInsteadOfPullDeployment_rises :
    pushInsteadOfPullDeployment.Rises m (m.withData data) := by
  rw [ModelRule.Rises, pushInsteadOfPullDeployment_findings, pushInsteadOfPullDeployment_findings]
  refine raised_flatMap (List.Subset.refl _) fun pipeline => ?_
  refine raised_filterMap (List.Subset.refl _) fun l => raised_option fun target => ?_
  refine (under_finding ?_).onAsset.onLink.withBreach.identifiedBy rfl
  exact isHigh_step h target (by decide)

theorem deployments_subset (a : TechnicalAsset) :
    deployments m a ⊆ deployments (m.withData data) a := by
  refine filter_subset_filter (List.Subset.refl _) fun l _ hl => ?_
  rw [Bool.and_eq_true, shipsCode, List.any_eq_true] at hl ⊢
  obtain ⟨hdevOps, d, hd, himportant⟩ := hl
  obtain ⟨e, he, hde⟩ := covered_of_forall₂ (h.dataOf l.dataSent) d hd
  rw [decide_eq_true_eq] at himportant
  exact ⟨hdevOps, e, he, decide_eq_true (Nat.le_trans himportant hde.rating.2.1)⟩

theorem uncheckedDeployment_rises : uncheckedDeployment.Rises m (m.withData data) := by
  refine raised_map (List.Subset.refl _) fun a =>
    (under_finding ?_).onAsset.withBreach.identifiedBy rfl
  refine step_mono (any_of_subset (deployments_subset h a) fun l _ hl => ?_) (by decide)
  rw [Option.any_eq_true] at hl ⊢
  obtain ⟨target, htarget, hhigh⟩ := hl
  exact ⟨target, htarget, isHigh_mono (h.rating_asset target) hhigh⟩

/-! ## Web -/

theorem crossSiteRequestForgery_rises : crossSiteRequestForgery.Rises m (m.withData data) := by
  refine raised_flatMap (List.Subset.refl _) fun _ => raised_map (List.Subset.refl _) fun x =>
    (under_finding ?_).onAsset.onLink.withBreach.identifiedBy rfl
  exact step_mono (Criticality.eq_top (h.rating_link x.link).2.1) (by decide)

theorem crossSiteScripting_rises : crossSiteScripting.Rises m (m.withData data) :=
  raised_map (List.Subset.refl _) fun a =>
    (under_finding (isTopContent_step h a (by decide))).onAsset.withBreach.identifiedBy rfl

theorem missingWaf_rises : missingWaf.Rises m (m.withData data) :=
  raised_map (List.Subset.refl _) fun a =>
    (under_finding (isTop_step h a (by decide))).onAsset.withBreach.identifiedBy rfl

theorem serverSideRequestForgery_rises : serverSideRequestForgery.Rises m (m.withData data) := by
  have hsecret (a : TechnicalAsset)
      (ha : (a.rating m).confidentiality = .strictlyConfidential) :
      (a.rating (m.withData data)).confidentiality = .strictlyConfidential :=
    Confidentiality.eq_top (h.rating_asset a).1 ha
  refine raised_flatMap (List.Subset.refl _) fun a => ?_
  refine raised_filterMap (List.Subset.refl _) fun l => raised_option fun target => ?_
  refine (under_finding (step_mono ?_ (by decide))).onAsset.onLink.withBreach.identifiedBy rfl
  simp only [Bool.or_eq_true, decide_eq_true_eq]
  refine Or.imp_left (Or.imp (hsecret target) (any_of_subset (List.Subset.refl _) ?_))
  intro b _ hb
  rw [decide_eq_true_eq] at hb ⊢
  exact hsecret b hb

/-! ## All rules -/

/-- The rules whose findings may become less severe, or change places, when data is rated higher. -/
def mayFall : List String :=
  ["missing-authentication", "search-query-injection", "unencrypted-communication",
    "missing-build-infrastructure", "missing-identity-store"]

theorem rises_of_mem_all (hm : (m.withData data).Coherent) :
    ∀ rule ∈ all, rule.category.id ∉ mayFall → rule.Rises m (m.withData data) := by
  simp only [all, List.forall_mem_cons, List.not_mem_nil, false_implies, implies_true, and_true]
  exact ⟨fun _ => accidentalSecretLeak_rises h, fun _ => codeBackdooring_rises h,
    fun _ => containerBaseimageBackdooring_rises h, fun _ => containerPlatformEscape_rises h,
    fun _ => crossSiteRequestForgery_rises h, fun _ => crossSiteScripting_rises h,
    fun _ => rises_of_eq rfl, fun _ => rises_of_eq rfl, fun _ => ldapInjection_rises h,
    fun hother => absurd (by decide) hother, fun _ => missingAuthenticationSecondFactor_rises h,
    fun hother => absurd (by decide) hother, fun _ => missingCloudHardening_rises h,
    fun _ => missingFileValidation_rises h, fun _ => missingHardening_rises h,
    fun _ => rises_of_eq rfl, fun _ => rises_of_eq rfl, fun hother => absurd (by decide) hother,
    fun _ => rises_of_eq rfl, fun _ => missingVault_rises h, fun _ => rises_of_eq rfl,
    fun _ => missingWaf_rises h, fun _ => mixedTargetsOnSharedRuntime_rises,
    fun _ => pathTraversal_rises h, fun _ => pushInsteadOfPullDeployment_rises h,
    fun hother => absurd (by decide) hother, fun _ => serverSideRequestForgery_rises h,
    fun _ => serviceRegistryPoisoning_rises h, fun _ => sqlNosqlInjection_rises h,
    fun _ => uncheckedDeployment_rises h, fun _ => unencryptedAsset_rises h,
    fun hother => absurd (by decide) hother, fun _ => rises_of_eq rfl, fun _ => rises_of_eq rfl,
    fun _ => rises_of_eq rfl, fun _ => unnecessaryDataAsset_rises h,
    fun _ => unnecessaryDataTransfer_rises h hm, fun _ => rises_of_eq rfl,
    fun _ => untrustedDeserialization_rises h, fun _ => rises_of_eq rfl, fun _ => rises_of_eq rfl,
    fun _ => xmlExternalEntity_rises h⟩

end

end BuiltinRule

/-- If an accepted model differs from another one only in that data is rated higher, then all but five
of the built-in rules find in it whatever they find in the other one, under the same ids and at least
as severe. -/
theorem builtin_findings_rise {m m' : Model} (hm : m'.Accepted) (h : m.Raised m') :
    ∀ rule ∈ BuiltinRule.all,
      rule.category.id ∉ ["missing-authentication", "search-query-injection",
        "unencrypted-communication", "missing-build-infrastructure", "missing-identity-store"] →
      ∀ r ∈ rule.findings m, ∃ s ∈ rule.findings m',
        s.syntheticId = r.syntheticId ∧ r.severity ≤ s.severity := by
  obtain ⟨hsame, hraised⟩ := h
  have hcoherent := hm.coherent
  rw [hsame] at hcoherent ⊢
  intro rule hrule hid
  exact BuiltinRule.rises_of_mem_all hraised hcoherent rule hrule hid

/-- The shop with orders that are strictly confidential. -/
def secretShop : ModelInput :=
  { Validation.bookshop with
    dataAssets := .ofList [("Orders",
      { id := "orders", quantity := "many", confidentiality := "strictly-confidential",
        integrity := "critical", availability := "operational", tags := ["pci"] })] }

/-- The data of a model with the lowest ratings. -/
def Model.leveledData (m : Model) : Dict DataAsset :=
  m.dataAssets.mapWithKey fun _ d =>
    { d with confidentiality := .publicAccess, integrity := .archive, availability := .archive }

theorem raised_leveledData (m : Model) : (m.withData m.leveledData).Raised m := by
  refine ⟨rfl, fun id => ?_⟩
  rw [Model.withData, Model.leveledData, Dict.get?_mapWithKey]
  cases m.dataAssets.get? id with
  | none => exact .none
  | some d => exact .some ⟨rfl, Nat.zero_le _, Nat.zero_le _, Nat.zero_le _⟩

/-- Injected queries are worse for the shop than they would be if nobody cared about its data. -/
theorem secretShop_findings_rise :
    ∃ m, Validation.build ⟨2024, 3, 1⟩ secretShop = .ok m ∧
      (BuiltinRule.sqlNosqlInjection.findings (m.withData m.leveledData)).map (·.severity) =
        [.elevated] ∧
      (BuiltinRule.sqlNosqlInjection.findings m).map (·.severity) = [.high] ∧
      (m.withData m.leveledData).Raised m ∧
      ∀ r ∈ BuiltinRule.sqlNosqlInjection.findings (m.withData m.leveledData),
        ∃ s ∈ BuiltinRule.sqlNosqlInjection.findings m,
          s.syntheticId = r.syntheticId ∧ r.severity ≤ s.severity := by
  have hchecked : (Validation.build ⟨2024, 3, 1⟩ secretShop).toOption.map (fun m =>
      ((BuiltinRule.sqlNosqlInjection.findings (m.withData m.leveledData)).map (·.severity),
        (BuiltinRule.sqlNosqlInjection.findings m).map (·.severity))) =
      some ([.elevated], [.high]) := by decide +kernel
  obtain ⟨m, hm, hchecked⟩ := Model.exists_of_build hchecked
  obtain ⟨hbefore, hafter⟩ := Prod.mk.inj hchecked
  exact ⟨m, hm, hbefore, hafter, raised_leveledData m,
    builtin_findings_rise (.of_build hm) (raised_leveledData m)
      BuiltinRule.sqlNosqlInjection (by simp [BuiltinRule.all]) (by decide)⟩

end ThreatModel
