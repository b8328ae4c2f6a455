import ThreatModel.Proofs.Model.Growth
import ThreatModel.Proofs.Rule.Example
import ThreatModel.Proofs.Rule.Finding

/-!
# Findings stay when a model grows

An unrelated asset that joins a model adds findings and takes none away: what a rule found before is
found again, with the same id and in all other respects the same. Most rules look at one asset and its
neighbours, and these are as they were. The rules that look at all assets are those where the new
asset could get in the way: it must not become the example that a finding names, come between an asset
and its closest neighbour, or make a model look complete. Only the containers that a container
platform lays open may be one more.
-/

namespace ThreatModel

/-- What a rule finds in a model is still found when an asset has joined. -/
def ModelRule.Keeps (rule : ModelRule) (m : Model) (a : TechnicalAsset) : Prop :=
  rule.findings m ⊆ rule.findings (m.withAsset a)

namespace BuiltinRule

variable {m : Model} {a : TechnicalAsset}

section

variable (h : m.Joining a)

include h

/-! ## Going over assets -/

theorem subset_map_inScope {p : TechnicalAsset → Bool} {f : TechnicalAsset → Risk} :
    (m.inScope.filter p).map f ⊆ ((m.withAsset a).inScope.filter p).map f :=
  List.map_subset f (List.filter_subset p h.subset_inScope)

theorem subset_flatMap_inScope {p : TechnicalAsset → Bool} {f : TechnicalAsset → List Risk} :
    (m.inScope.filter p).flatMap f ⊆ ((m.withAsset a).inScope.filter p).flatMap f :=
  flatMap_subset_flatMap (List.filter_subset p h.subset_inScope) fun _ _ => List.Subset.refl _

theorem subset_flatMap_values {p : TechnicalAsset → Bool} {f g : TechnicalAsset → List Risk}
    (hfg : ∀ b ∈ m.technicalAssets.values, f b ⊆ g b) :
    (m.technicalAssets.values.filter p).flatMap f ⊆
      ((m.withAsset a).technicalAssets.values.filter p).flatMap g :=
  flatMap_subset_flatMap (List.filter_subset p h.subset_values) fun b hb =>
    hfg b (List.mem_of_mem_filter hb)

/-! ## Access -/

theorem dosRiskyAccessAcrossTrustBoundary_keeps : dosRiskyAccessAcrossTrustBoundary.Keeps m a := by
  have hsame (b : TechnicalAsset) : overloads (m.withAsset a) b = overloads m b := by
    simp only [overloads, h.accesses_withAsset]
    rfl
  simp only [ModelRule.Keeps, dosRiskyAccessAcrossTrustBoundary, funext hsame]
  exact subset_flatMap_inScope h

theorem unguardedAccessFromInternet_keeps : unguardedAccessFromInternet.Keeps m a := by
  simp only [ModelRule.Keeps, unguardedAccessFromInternet, accessesById, h.accesses_withAsset]
  exact subset_flatMap_inScope h

theorem unguardedDirectDatastoreAccess_keeps : unguardedDirectDatastoreAccess.Keeps m a := by
  simp only [ModelRule.Keeps, unguardedDirectDatastoreAccess, h.accesses_withAsset]
  exact subset_flatMap_inScope h

/-! ## Content -/

theorem missingFileValidation_keeps : missingFileValidation.Keeps m a := subset_map_inScope h

theorem xmlExternalEntity_keeps : xmlExternalEntity.Keeps m a := subset_map_inScope h

theorem untrustedDeserialization_keeps : untrustedDeserialization.Keeps m a := subset_map_inScope h

/-! ## Encryption -/

theorem unencryptedAsset_keeps : unencryptedAsset.Keeps m a :=
  List.filterMap_subset _ (List.filter_subset _ h.subset_inScope)

theorem unencryptedCommunication_keeps : unencryptedCommunication.Keeps m a := by
  rw [ModelRule.Keeps, unencryptedCommunication_findings, unencryptedCommunication_findings]
  refine flatMap_subset_flatMap h.subset_inScope fun b hb => subset_of_eq ?_
  refine List.filterMap_congr fun l hl => ?_
  have hl := Model.Coherent.mem_links (mem_values_of_inScope hb) (List.mem_of_mem_filter hl)
  rw [h.target?_withAsset hl]
  rfl

/-! ## Hardening -/

theorem missingHardening_keeps : missingHardening.Keeps m a := subset_map_inScope h

/-- The new asset is not the most sensitive one and calls for no vault. -/
theorem missingVault_keeps (hsensitive : ∃ b ∈ m.technicalAssets.values,
    a.sensitivity < b.sensitivity) : missingVault.Keeps m a := by
  have hvault : (m.withAsset a).technicalAssets.values.any (·.technology = .vault) =
      m.technicalAssets.values.any (·.technology = .vault) := by
    refine h.any_values (decide_eq_false ?_)
    intro htechnology
    exact h.unrelated.technology (by simp [htechnology])
  have hhigh : ((m.withAsset a).technicalAssets.values.any fun b =>
        (b.rating m).isHigh || b.ownRating.isHigh) =
      m.technicalAssets.values.any fun b => (b.rating m).isHigh || b.ownRating.isHigh := by
    refine h.any_values ?_
    rw [h.rating_self, h.unrelated.rating]
    rfl
  have hmost : Example.mostSensitive (m.withAsset a).technicalAssets.values =
      Example.mostSensitive m.technicalAssets.values := by
    obtain ⟨before, after, hold, hnew⟩ := h.exists_values
    rw [hold] at hsensitive
    rw [hnew, hold]
    exact Example.mostSensitive_insert hsensitive
  have hrating (b : TechnicalAsset) : b.rating (m.withAsset a) = b.rating m := rfl
  simp only [ModelRule.Keeps, missingVault, hrating, hvault, hhigh, hmost]
  exact List.Subset.refl _

theorem serviceRegistryPoisoning_keeps : serviceRegistryPoisoning.Keeps m a := by
  have hsame (b : TechnicalAsset) :
      hasSensitiveLookup (m.withAsset a) b = hasSensitiveLookup m b := by
    refine any_congr_mem fun l hl => ?_
    rw [h.get?_source_withAsset (h.mem_links_of_mem_incomingLinks hl)]
    rfl
  simp only [ModelRule.Keeps, serviceRegistryPoisoning, hsame]
  exact subset_map_inScope h

/-! ## Identity -/

theorem authenticationFinding_withAsset {c : Category} {factor : String} {likelihood : Likelihood}
    {impact : Impact} {b : TechnicalAsset} {l origin : Link} {forwarder : Option String}
    (horigin : origin ∈ m.links) :
    authenticationFinding (m.withAsset a) c factor likelihood impact b l origin forwarder =
      authenticationFinding m c factor likelihood impact b l origin forwarder := by
  rw [authenticationFinding, h.get?_source_withAsset horigin]
  rfl

theorem missingAuthentication_keeps : missingAuthentication.Keeps m a := by
  refine flatMap_subset_flatMap (List.filter_subset _ h.subset_inScope) fun b hb => ?_
  rw [h.accesses_withAsset]
  refine subset_of_eq (List.map_congr_left fun x hx => ?_)
  obtain ⟨hcaller, hl, -⟩ := h.coherent.mem_accesses (List.mem_of_mem_filter hx)
  exact (authenticationFinding_withAsset h (Model.Coherent.mem_links hcaller hl)).symm

theorem secondFactorFindings_withAsset (b : TechnicalAsset) :
    secondFactorFindings (m.withAsset a) b = secondFactorFindings m b := by
  have hfinding {x : Access} {id : String} (hx : x ∈ m.accesses id) (l : Link)
      (forwarder : Option String) : secondFactorFinding (m.withAsset a) b l x.link forwarder =
        secondFactorFinding m b l x.link forwarder := by
    obtain ⟨hcaller, hl, -⟩ := h.coherent.mem_accesses hx
    exact authenticationFinding_withAsset h (Model.Coherent.mem_links hcaller hl)
  simp only [secondFactorFindings, h.accesses_withAsset]
  refine List.flatMap_congr fun x hx => ?_
  rw [hfinding (List.mem_of_mem_filter hx)]
  split
  · rfl
  · split
    · exact List.map_congr_left fun o ho => hfinding (List.mem_of_mem_filter ho) _ _
    · rfl

/-- Nobody accesses the new asset. -/
theorem missingAuthenticationSecondFactor_keeps : missingAuthenticationSecondFactor.Keeps m a := by
  have hnone : secondFactorFindings m a = [] := by
    rw [secondFactorFindings, h.accesses_self]
    rfl
  simp only [ModelRule.Keeps, missingAuthenticationSecondFactor]
  rw [funext (secondFactorFindings_withAsset h)]
  exact subset_of_eq (congrArg _ (h.flatMap_inScope hnone).symm)

theorem missingIdentityPropagation_keeps : missingIdentityPropagation.Keeps m a := by
  simp only [ModelRule.Keeps, missingIdentityPropagation, h.accesses_withAsset]
  exact subset_flatMap_inScope h

/-- The new asset stores no identities and passes none on. -/
theorem missingIdentityStore_keeps : missingIdentityStore.Keeps m a := by
  have hstore : (m.withAsset a).inScope.any (·.technology.isIdentityStore) =
      m.inScope.any (·.technology.isIdentityStore) := by
    refine h.any_inScope (Bool.eq_false_iff.2 fun hstore => ?_)
    have htechnology := h.unrelated.technology
    simp_all [Technology.isIdentityStore]
  have htargets : identityTargets (m.withAsset a) = identityTargets m := by
    rw [identityTargets, h.flatMap_values (by rw [h.unrelated.links]; rfl)]
    refine List.flatMap_congr fun b hb => List.filterMap_congr fun l hl => ?_
    rw [h.target?_withAsset (Model.Coherent.mem_links hb (List.mem_of_mem_filter hl))]
  simp only [ModelRule.Keeps, missingIdentityStore, hstore, htargets]
  exact List.Subset.refl _

/-! ## Injection -/

theorem injections_withAsset {c : Category} {what against : String} {service : TechnicalAsset}
    {impact : Impact} {likelihood : Link → Likelihood} {carries : Link → Bool} :
    injections (m.withAsset a) c what against service impact likelihood carries =
      injections m c what against service impact likelihood carries := by
  rw [injections, h.accesses_withAsset]
  rfl

theorem ldapInjection_keeps : ldapInjection.Keeps m a := by
  simp only [ModelRule.Keeps, ldapInjection, injections_withAsset h]
  exact flatMap_subset_flatMap h.subset_values fun _ _ => List.Subset.refl _

theorem pathTraversal_keeps : pathTraversal.Keeps m a := by
  simp only [ModelRule.Keeps, pathTraversal, injections_withAsset h]
  exact subset_flatMap_values h fun _ _ => List.Subset.refl _

theorem searchQueryInjection_keeps : searchQueryInjection.Keeps m a := by
  simp only [ModelRule.Keeps, searchQueryInjection, injections_withAsset h]
  exact subset_flatMap_values h fun _ _ => List.Subset.refl _

theorem sqlNosqlInjection_keeps : sqlNosqlInjection.Keeps m a := by
  simp only [ModelRule.Keeps, sqlNosqlInjection, injections_withAsset h]
  exact flatMap_subset_flatMap h.subset_values fun _ _ => List.Subset.refl _

/-! ## Isolation -/

/-- The new asset lies in no execution environment, so it comes no closer than the closest one. -/
theorem ofOthers_withAsset {b : TechnicalAsset} {unrelated : TechnicalAsset → Bool}
    {closeness : Closeness} (hc : Closeness.ofOthers m b unrelated = some closeness) :
    Closeness.ofOthers (m.withAsset a) b unrelated = some closeness := by
  have hself : b.sameExecutionEnvironment m a.id = false := by
    rw [TechnicalAsset.sameExecutionEnvironment, h.directBoundary_self]
    cases m.directBoundary b.id <;> rfl
  have hexecution (id : String) : b.sameExecutionEnvironment (m.withAsset a) id =
      b.sameExecutionEnvironment m id := rfl
  have hnetwork (id : String) : b.sameNetwork (m.withAsset a) id = b.sameNetwork m id := rfl
  simp only [Closeness.ofOthers, List.any_filter, hexecution, hnetwork] at hc ⊢
  rw [h.any_values (by simp [hself])]
  split at hc
  · next hclosest =>
    rw [if_pos hclosest]
    exact hc
  · next hnone =>
    rw [if_neg hnone]
    split at hc
    · next hclose =>
      rw [if_pos (any_of_subset h.subset_values (fun _ _ hp => hp) hclose)]
      exact hc
    · cases hc

theorem isolation_keeps {c : Category} {what kind : String} {p : TechnicalAsset → Bool}
    {unrelated : TechnicalAsset → TechnicalAsset → Bool} {impact : TechnicalAsset → Impact} :
    ((m.inScope.filter p).filterMap fun b => (Closeness.ofOthers m b (unrelated b)).map
      (isolationFinding c what kind (impact b) b)) ⊆
    ((m.withAsset a).inScope.filter p).filterMap fun b =>
      (Closeness.ofOthers (m.withAsset a) b (unrelated b)).map
        (isolationFinding c what kind (impact b) b) := by
  intro r hr
  obtain ⟨b, hb, hr⟩ := List.mem_filterMap.1 hr
  obtain ⟨closeness, hc, rfl⟩ := Option.map_eq_some_iff.1 hr
  refine List.mem_filterMap.2 ⟨b, List.filter_subset p h.subset_inScope hb, ?_⟩
  rw [ofOthers_withAsset h hc]
  rfl

theorem missingIdentityProviderIsolation_keeps : missingIdentityProviderIsolation.Keeps m a :=
  isolation_keeps h

theorem missingVaultIsolation_keeps : missingVaultIsolation.Keeps m a := isolation_keeps h

theorem missingNetworkSegmentation_keeps : missingNetworkSegmentation.Keeps m a := by
  refine List.map_subset _ (filter_subset_filter h.subset_inScope fun b _ hb => ?_)
  rw [Bool.and_eq_true] at hb ⊢
  exact ⟨hb.1, any_of_subset h.subset_values (fun _ _ hp => hp) hb.2⟩

theorem mixedTargetsOnSharedRuntime_keeps : mixedTargetsOnSharedRuntime.Keeps m a := by
  have hrunning (s : SharedRuntime) (hs : s ∈ m.sharedRuntimes.values) :
      assetsRunning (m.withAsset a) s = assetsRunning m s :=
    h.filterMap_withAsset (h.coherent.running s hs)
  intro r hr
  obtain ⟨s, hs, rfl⟩ := List.mem_map.1 hr
  obtain ⟨hs, hmixed⟩ := List.mem_filter.1 hs
  refine List.mem_map.2 ⟨s, List.mem_filter.2 ⟨hs, ?_⟩, ?_⟩
  · have hboundary : (m.withAsset a).directBoundary = m.directBoundary := rfl
    rw [hrunning s hs, isMixedFrom_congr hboundary]
    exact hmixed
  · rw [hrunning s hs]

/-! ## Necessity -/

theorem unnecessaryCommunicationLink_keeps : unnecessaryCommunicationLink.Keeps m a := by
  refine flatMap_subset_flatMap h.subset_values fun b hb => ?_
  refine List.map_subset _ (subset_of_eq (List.filter_congr fun l hl => ?_))
  rw [h.target?_withAsset (Model.Coherent.mem_links hb hl)]

theorem unnecessaryDataAsset_keeps : unnecessaryDataAsset.Keeps m a := by
  have huse : dataInUse (m.withAsset a) = dataInUse m := by
    refine h.flatMap_values ?_
    rw [TechnicalAsset.heldData, h.unrelated.dataProcessed, h.unrelated.dataStored,
      h.unrelated.links]
    rfl
  simp only [ModelRule.Keeps, unnecessaryDataAsset, huse]
  exact List.Subset.refl _

theorem needlessTransfers_withAsset {b : TechnicalAsset} {l : Link} {partnerId : String}
    (hpartner : m.technicalAssets.contains partnerId = true) :
    needlessTransfers (m.withAsset a) b l partnerId = needlessTransfers m b l partnerId := by
  rw [needlessTransfers, h.get?_withAsset hpartner]
  rfl

theorem transfers_withAsset {b : TechnicalAsset} (hb : b ∈ m.inScope) :
    transfers (m.withAsset a) b = transfers m b := by
  have hsent (l : Link) (hl : l ∈ b.links) : needlessTransfers (m.withAsset a) b l l.targetId =
      needlessTransfers m b l l.targetId :=
    needlessTransfers_withAsset h
      (h.coherent.targets l (Model.Coherent.mem_links (mem_values_of_inScope hb) hl))
  have hreceived (l : Link) (hl : l ∈ (m.incomingLinks b.id).mergeSort fun x y => x.id ≤ y.id) :
      needlessTransfers (m.withAsset a) b l l.sourceId = needlessTransfers m b l l.sourceId :=
    needlessTransfers_withAsset h
      (h.contains_source (h.mem_links_of_mem_incomingLinks (List.mem_mergeSort.1 hl)))
  exact congrArg₂ (· ++ ·) (List.flatMap_congr hsent) (List.flatMap_congr hreceived)

/-- The new asset takes part in no transfer. -/
theorem unnecessaryDataTransfer_keeps : unnecessaryDataTransfer.Keeps m a := by
  have hnone : transfers (m.withAsset a) a = [] := by
    have hincoming : (m.withAsset a).incomingLinks a.id = [] := h.incomingLinks_self
    simp [transfers, h.unrelated.links, hincoming]
  have hnew := h.flatMap_inScope (p := fun _ => true) hnone
  rw [List.filter_true, List.filter_true,
    List.flatMap_congr fun b hb => transfers_withAsset h hb] at hnew
  rw [ModelRule.Keeps, unnecessaryDataTransfer_findings, unnecessaryDataTransfer_findings, hnew]
  exact List.Subset.refl _

theorem unnecessaryTechnicalAsset_keeps : unnecessaryTechnicalAsset.Keeps m a :=
  List.map_subset _ (List.filter_subset _ h.subset_values)

/-! ## Plausibility -/

theorem incompleteModel_keeps : incompleteModel.Keeps m a :=
  flatMap_subset_flatMap h.subset_inScope fun _ _ => List.Subset.refl _

theorem wrongCommunicationLinkContent_keeps : wrongCommunicationLinkContent.Keeps m a := by
  rw [ModelRule.Keeps, wrongCommunicationLinkContent_findings, wrongCommunicationLinkContent_findings]
  refine flatMap_subset_flatMap h.subset_values fun b hb => subset_of_eq ?_
  refine List.filterMap_congr fun l hl => ?_
  rw [h.target?_withAsset (Model.Coherent.mem_links hb hl)]

theorem wrongTrustBoundaryContent_keeps : wrongTrustBoundaryContent.Keeps m a := by
  refine subset_of_eq (List.flatMap_congr fun b hb => ?_)
  rw [h.filterMap_withAsset (h.coherent.inside b (List.mem_of_mem_filter hb))]

/-! ## Supply chain -/

theorem accidentalSecretLeak_keeps : accidentalSecretLeak.Keeps m a := subset_map_inScope h

theorem codeBackdooring_keeps : codeBackdooring.Keeps m a := by
  simp only [ModelRule.Keeps, codeBackdooring, isOpenToUntrusted, h.accesses_withAsset]
  exact subset_map_inScope h

theorem containerBaseimageBackdooring_keeps : containerBaseimageBackdooring.Keeps m a :=
  subset_map_inScope h

/-- The new asset is no part of a build infrastructure and has no custom parts. -/
theorem missingBuildInfrastructure_keeps : missingBuildInfrastructure.Keeps m a := by
  have hbuilt : hasBuildInfrastructure (m.withAsset a) = hasBuildInfrastructure m := by
    have hnot (t : Technology) (ht : t ∈ [.buildPipeline, .sourcecodeRepository, .devOpsClient]) :
        decide (a.technology = t) = false := by
      refine decide_eq_false fun htechnology => h.unrelated.technology ?_
      rw [htechnology]
      exact List.mem_cons_of_mem _ (List.mem_cons_of_mem _ (List.mem_cons_of_mem _ ht))
    simp only [hasBuildInfrastructure, List.all_cons, List.all_nil]
    rw [h.any_values (hnot _ (by simp)), h.any_values (hnot _ (by simp)),
      h.any_values (hnot _ (by simp))]
  simp only [ModelRule.Keeps, missingBuildInfrastructure, hbuilt,
    h.filter_inScope h.unrelated.customDevelopedParts]
  exact List.Subset.refl _

theorem pushInsteadOfPullDeployment_keeps : pushInsteadOfPullDeployment.Keeps m a := by
  rw [ModelRule.Keeps, pushInsteadOfPullDeployment_findings, pushInsteadOfPullDeployment_findings]
  refine subset_flatMap_values h fun pipeline hpipeline => subset_of_eq ?_
  refine List.filterMap_congr fun l hl => ?_
  rw [h.target?_withAsset (Model.Coherent.mem_links hpipeline hl)]
  rfl

theorem uncheckedDeployment_keeps : uncheckedDeployment.Keeps m a := by
  intro r hr
  obtain ⟨b, hb, rfl⟩ := List.mem_map.1 hr
  refine List.mem_map.2 ⟨b, List.filter_subset _ h.subset_values hb, ?_⟩
  have hsensitive : ((deployments m b).any fun l =>
      ((m.withAsset a).target? l).any fun target => (target.rating m).isHigh) =
      (deployments m b).any fun l => (m.target? l).any fun target => (target.rating m).isHigh := by
    refine any_congr_mem fun l hl => ?_
    rw [h.target?_withAsset
      (Model.Coherent.mem_links (List.mem_of_mem_filter hb) (List.mem_of_mem_filter hl))]
  rw [← hsensitive]
  rfl

/-! ## Web access -/

theorem crossSiteRequestForgery_keeps : crossSiteRequestForgery.Keeps m a := by
  simp only [ModelRule.Keeps, crossSiteRequestForgery, h.accesses_withAsset]
  exact subset_flatMap_inScope h

theorem crossSiteScripting_keeps : crossSiteScripting.Keeps m a := subset_map_inScope h

theorem missingWaf_keeps : missingWaf.Keeps m a := by
  simp only [ModelRule.Keeps, missingWaf, h.accesses_withAsset]
  exact subset_map_inScope h

/-- The new asset is reached over no protocol. -/
theorem serverSideRequestForgery_keeps : serverSideRequestForgery.Keeps m a := by
  have hneighbours (b : TechnicalAsset) : webNeighbours (m.withAsset a) b = webNeighbours m b := by
    refine h.filter_values ?_
    rw [show (m.withAsset a).incomingLinks a.id = [] from h.incomingLinks_self]
    simp
  refine flatMap_subset_flatMap (List.filter_subset _ h.subset_inScope) fun b hb => subset_of_eq ?_
  refine List.filterMap_congr fun l hl => ?_
  have hb := mem_values_of_inScope (List.mem_of_mem_filter hb)
  rw [h.target?_withAsset (Model.Coherent.mem_links hb (List.mem_of_mem_filter hl))]
  simp only [requestForgery, hneighbours]
  rfl

/-! ## Cloud hardening -/

theorem lookup_withAsset {ids : List String}
    (hids : ∀ id ∈ ids, m.technicalAssets.contains id = true) :
    CloudHardening.lookup (m.withAsset a).technicalAssets ids =
      CloudHardening.lookup m.technicalAssets ids :=
  h.filterMap_withAsset fun id hid => hids id (mem_sortedUnique.1 hid)

theorem contains_of_mem_map_id {assets : List TechnicalAsset}
    (hassets : ∀ b ∈ assets, b ∈ m.technicalAssets.values) :
    ∀ id ∈ assets.map (·.id), m.technicalAssets.contains id = true := by
  intro id hid
  obtain ⟨b, hb, rfl⟩ := List.mem_map.1 hid
  exact h.coherent.technicalAssets.contains_of_mem (hassets b hb)

omit h in
theorem mem_values_of_mem_assets {ids : List String} {b : TechnicalAsset}
    (hb : b ∈ CloudHardening.assets m ids) : b ∈ m.technicalAssets.values := by
  obtain ⟨id, -, hid⟩ := List.mem_filterMap.1 hb
  exact Dict.mem_values_of_get? hid

/-- The assets of a provider as they are found, possibly several times. -/
def membersOf (m : Model) (p : HardeningGuide) : List TechnicalAsset :=
  m.technicalAssets.values.filter (CloudHardening.isOf p ·.tags) ++
  ((m.trustBoundaries.values.filter (CloudHardening.isOf p ·.tags)).flatMap fun b =>
    (CloudHardening.assets m (m.assetsWithin b)).filter (!CloudHardening.isSupported ·.tags)) ++
  (m.sharedRuntimes.values.filter (CloudHardening.isOf p ·.tags)).flatMap fun s =>
    CloudHardening.assets m s.assetsRunning

omit h in
theorem mem_values_of_mem_membersOf {p : HardeningGuide} {b : TechnicalAsset}
    (hb : b ∈ membersOf m p) : b ∈ m.technicalAssets.values := by
  rcases List.mem_append.1 hb with hb | hb
  · rcases List.mem_append.1 hb with hb | hb
    · exact List.mem_of_mem_filter hb
    · obtain ⟨c, -, hb⟩ := List.mem_flatMap.1 hb
      exact mem_values_of_mem_assets (List.mem_of_mem_filter hb)
  · obtain ⟨s, -, hb⟩ := List.mem_flatMap.1 hb
    exact mem_values_of_mem_assets hb

/-- The new asset belongs to no provider. -/
theorem membersOf_withAsset (p : HardeningGuide) :
    membersOf (m.withAsset a) p = membersOf m p := by
  refine congrArg₂ (· ++ ·) (congrArg₂ (· ++ ·) ?_ ?_) ?_
  · exact h.filter_values (by rw [h.unrelated.tags]; rfl)
  · refine List.flatMap_congr fun b hb => congrArg (List.filter _) (h.filterMap_withAsset ?_)
    exact h.coherent.contains_of_mem_assetsWithin (List.mem_of_mem_filter hb)
  · refine List.flatMap_congr fun s hs => h.filterMap_withAsset ?_
    exact h.coherent.running s (List.mem_of_mem_filter hs)

theorem assetsOf_withAsset (p : HardeningGuide) :
    CloudHardening.assetsOf (m.withAsset a) p = CloudHardening.assetsOf m p := by
  show CloudHardening.lookup _ ((membersOf (m.withAsset a) p).map (·.id)) = _
  rw [membersOf_withAsset h]
  exact lookup_withAsset h (contains_of_mem_map_id h fun b hb => mem_values_of_mem_membersOf hb)

theorem serviceAssets_withAsset :
    CloudHardening.serviceAssets (m.withAsset a) = CloudHardening.serviceAssets m := by
  rw [CloudHardening.serviceAssets, h.filter_values (by rw [h.unrelated.tags]; rfl)]
  exact lookup_withAsset h (contains_of_mem_map_id h fun b hb => List.mem_of_mem_filter hb)

/-- Runtimes and boundaries are rated by what is in them, which the new asset is not. -/
theorem candidates_withAsset :
    CloudHardening.candidates (m.withAsset a) = CloudHardening.candidates m := by
  have hruntime (guide : Option HardeningGuide) (s : SharedRuntime)
      (hs : s ∈ m.sharedRuntimes.values) :
      CloudHardening.ofRuntime (m.withAsset a) guide s = CloudHardening.ofRuntime m guide s := by
    rw [CloudHardening.ofRuntime, SharedRuntime.rating, h.ratingOf_withAsset (h.coherent.running s hs)]
    rfl
  have hboundary (guide : Option HardeningGuide) (b : TrustBoundary)
      (hb : b ∈ m.trustBoundaries.values) :
      CloudHardening.ofBoundary (m.withAsset a) guide b = CloudHardening.ofBoundary m guide b := by
    have hrating : b.rating (m.withAsset a) = b.rating m :=
      h.ratingOf_withAsset (h.coherent.contains_of_mem_assetsWithin hb)
    rw [CloudHardening.ofBoundary, hrating]
    rfl
  have hexample (p : HardeningGuide) :
      CloudHardening.example? (m.withAsset a) p = CloudHardening.example? m p := by
    rw [CloudHardening.example?, assetsOf_withAsset h]
    rfl
  have hmem {α : Type} {d : Dict α} {ids : List String} :
      ∀ v ∈ CloudHardening.lookup d ids, v ∈ d.values :=
    fun _ => CloudHardening.mem_values_of_mem_lookup
  refine congrArg₂ (· ++ ·) (congrArg₂ (· ++ ·) (congrArg₂ (· ++ ·) (congrArg₂ (· ++ ·)
    ?_ ?_) ?_) ?_) ?_
  · exact List.flatMap_congr fun p _ => List.map_congr_left fun s hs => hruntime _ s (hmem s hs)
  · exact List.flatMap_congr fun p _ => List.map_congr_left fun b hb => hboundary _ b (hmem b hb)
  · exact List.map_congr_left fun b hb => hboundary _ b (hmem b hb)
  · refine List.filterMap_congr fun p _ => ?_
    rw [hexample]
    rfl
  · rw [serviceAssets_withAsset h]
    rfl

theorem missingCloudHardening_keeps : missingCloudHardening.Keeps m a :=
  subset_of_eq (congrArg Risk.firstPerId (candidates_withAsset h).symm)

/-! ## Container platforms -/

/-- Breaking out of a platform may lay open one container more. -/
theorem containerPlatformEscape_grows {r : Risk} (hr : r ∈ containerPlatformEscape.findings m) :
    ∃ before after, r.breachAssets = before ++ after ∧
      (r ∈ containerPlatformEscape.findings (m.withAsset a) ∨
        { r with breachAssets := before ++ a.id :: after } ∈
          containerPlatformEscape.findings (m.withAsset a)) := by
  obtain ⟨before, after, hold, hnew⟩ := h.exists_values
  obtain ⟨platform, hplatform, rfl⟩ := List.mem_map.1 hr
  have hplatform := List.filter_subset (·.technology = .containerPlatform) h.subset_inScope hplatform
  refine ⟨(before.filter (·.machine = .container)).map (·.id),
    (after.filter (·.machine = .container)).map (·.id), ?_, ?_⟩
  · simp [Risk.identifiedBy, Risk.withBreach, hold]
  · by_cases hcontainer : a.machine = .container
    · right
      refine List.mem_map.2 ⟨platform, hplatform, ?_⟩
      simp only [hnew, List.filter_append, List.filter_cons, hcontainer, decide_true, if_true,
        List.map_append, List.map_cons]
      rfl
    · left
      refine List.mem_map.2 ⟨platform, hplatform, ?_⟩
      rw [h.filter_values (by simpa using hcontainer)]
      rfl

/-! ## All rules -/

theorem keeps_of_mem_all
    (hsensitive : ∃ b ∈ m.technicalAssets.values, a.sensitivity < b.sensitivity) :
    ∀ rule ∈ all, rule.category ≠ .containerPlatformEscape → rule.Keeps m a := by
  simp only [all, List.forall_mem_cons, List.not_mem_nil, false_implies, implies_true, and_true]
  exact ⟨fun _ => accidentalSecretLeak_keeps h, fun _ => codeBackdooring_keeps h,
    fun _ => containerBaseimageBackdooring_keeps h, fun hother => absurd rfl hother,
    fun _ => crossSiteRequestForgery_keeps h, fun _ => crossSiteScripting_keeps h,
    fun _ => dosRiskyAccessAcrossTrustBoundary_keeps h, fun _ => incompleteModel_keeps h,
    fun _ => ldapInjection_keeps h, fun _ => missingAuthentication_keeps h,
    fun _ => missingAuthenticationSecondFactor_keeps h, fun _ => missingBuildInfrastructure_keeps h,
    fun _ => missingCloudHardening_keeps h, fun _ => missingFileValidation_keeps h,
    fun _ => missingHardening_keeps h, fun _ => missingIdentityPropagation_keeps h,
    fun _ => missingIdentityProviderIsolation_keeps h, fun _ => missingIdentityStore_keeps h,
    fun _ => missingNetworkSegmentation_keeps h, fun _ => missingVault_keeps h hsensitive,
    fun _ => missingVaultIsolation_keeps h, fun _ => missingWaf_keeps h,
    fun _ => mixedTargetsOnSharedRuntime_keeps h, fun _ => pathTraversal_keeps h,
    fun _ => pushInsteadOfPullDeployment_keeps h, fun _ => searchQueryInjection_keeps h,
    fun _ => serverSideRequestForgery_keeps h, fun _ => serviceRegistryPoisoning_keeps h,
    fun _ => sqlNosqlInjection_keeps h, fun _ => uncheckedDeployment_keeps h,
    fun _ => unencryptedAsset_keeps h, fun _ => unencryptedCommunication_keeps h,
    fun _ => unguardedAccessFromInternet_keeps h, fun _ => unguardedDirectDatastoreAccess_keeps h,
    fun _ => unnecessaryCommunicationLink_keeps h, fun _ => unnecessaryDataAsset_keeps h,
    fun _ => unnecessaryDataTransfer_keeps h, fun _ => unnecessaryTechnicalAsset_keeps h,
    fun _ => untrustedDeserialization_keeps h, fun _ => wrongCommunicationLinkContent_keeps h,
    fun _ => wrongTrustBoundaryContent_keeps h, fun _ => xmlExternalEntity_keeps h⟩

end

end BuiltinRule

/-- When an unrelated asset joins an accepted model in which some asset is more sensitive, everything
that was found before is found again. Only the breach list of an escape from a container platform may
list the new asset as well. -/
theorem builtin_findings_grow {m : Model} {a : TechnicalAsset} (hm : m.Accepted)
    (hfresh : m.technicalAssets.contains a.id = false) (ha : a.Unrelated)
    (hsensitive : ∃ b ∈ m.technicalAssets.values, a.sensitivity < b.sensitivity) :
    ∀ rule ∈ BuiltinRule.all, ∀ r ∈ rule.findings m,
      r ∈ rule.findings (m.addAsset a) ∨
        rule.category = .containerPlatformEscape ∧
          ∃ before after, r.breachAssets = before ++ after ∧
            { r with breachAssets := before ++ a.id :: after } ∈ rule.findings (m.addAsset a) := by
  have h : m.Joining a := ⟨hm.coherent, hfresh, ha⟩
  intro rule hrule r hr
  rw [h.addAsset_eq]
  by_cases hplatform : rule.category = .containerPlatformEscape
  · have hmem : BuiltinRule.containerPlatformEscape ∈ BuiltinRule.all := by
      simp [BuiltinRule.all]
    obtain rfl := BuiltinRule.eq_of_category_eq hrule hmem hplatform
    obtain ⟨before, after, hbreach, hfound⟩ := BuiltinRule.containerPlatformEscape_grows h hr
    rcases hfound with hfound | hfound
    · exact .inl hfound
    · exact .inr ⟨rfl, before, after, hbreach, hfound⟩
  · exact .inl (BuiltinRule.keeps_of_mem_all h hsensitive rule hrule hplatform hr)

/-- A container that nothing is known about. -/
def spare : TechnicalAsset where
  id := "spare"
  title := "Spare"
  description := "Spare"
  kind := .process
  usage := .business
  usedAsClientByHuman := false
  outOfScope := false
  justificationOutOfScope := ""
  size := .component
  technology := .unknownTechnology
  machine := .container
  internet := false
  multiTenant := false
  redundant := false
  customDevelopedParts := false
  encryption := .none
  owner := ""
  confidentiality := .publicAccess
  integrity := .archive
  availability := .archive
  justificationCiaRating := ""
  tags := []
  dataProcessed := []
  dataStored := []
  formatsAccepted := []
  links := []
  diagramOrder := 0
  raa := 0

/-- The risk of injected queries in the shop stays when a spare container joins. -/
theorem bookshop_findings_grow :
    ∃ m, Validation.build ⟨2024, 3, 1⟩ Validation.bookshop = .ok m ∧
      m.technicalAssets.contains spare.id = false ∧ spare.Unrelated ∧
      (∃ b ∈ m.technicalAssets.values, spare.sensitivity < b.sensitivity) ∧
      BuiltinRule.sqlNosqlInjection.findings m ≠ [] ∧
      ∀ rule ∈ BuiltinRule.all, ∀ r ∈ rule.findings m,
        r ∈ rule.findings (m.addAsset spare) ∨
          rule.category = .containerPlatformEscape ∧
            ∃ before after, r.breachAssets = before ++ after ∧
              { r with breachAssets := before ++ spare.id :: after } ∈
                rule.findings (m.addAsset spare) := by
  have hchecked : (Validation.build ⟨2024, 3, 1⟩ Validation.bookshop).toOption.map (fun m =>
      (m.technicalAssets.contains spare.id,
        m.technicalAssets.values.any fun b => spare.sensitivity < b.sensitivity,
        (BuiltinRule.sqlNosqlInjection.findings m).isEmpty)) = some (false, true, false) := by
    decide +kernel
  have hspare : spare.Unrelated := by
    constructor <;> first | rfl | decide
  obtain ⟨m, hm, hchecked⟩ := Model.exists_of_build hchecked
  obtain ⟨hfresh, hrest⟩ := Prod.mk.inj hchecked
  obtain ⟨hany, hfound⟩ := Prod.mk.inj hrest
  have hsensitive : ∃ b ∈ m.technicalAssets.values, spare.sensitivity < b.sensitivity := by
    simpa using hany
  exact ⟨m, hm, hfresh, hspare, hsensitive, by simpa using hfound,
    builtin_findings_grow (.of_build hm) hfresh hspare hsensitive⟩

end ThreatModel
