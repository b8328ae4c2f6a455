import ThreatModel.Proofs.Model.Neighbours
import ThreatModel.Proofs.Rule.Finding

/-!
# Which rules name a finding once

A finding is tracked under its synthetic id, so a rule should not give one id to two findings. Two
findings with one id name the same elements (`Risk.Names.eq`). Most rules go over elements that they
meet once, and name each in the id of what they find about it, which keeps the ids apart
(`distinct_filterMap`, `distinct_flatMap`); others drop repeated findings. Two rules do neither. They
give one id to two findings exactly if a pipeline pushes to an asset over two links, or if an access
counts against an asset twice.
-/

namespace ThreatModel

/-- A finding of a category is named after elements with plain ids. -/
structure Risk.Names (c : Category) (ids : List String) (r : Risk) : Prop where
  id : r.syntheticId = joinIds c.id ids
  plain : ∀ id ∈ ids, Plain id

theorem Risk.Names.eq {c : Category} {ids others : List String} {r s : Risk} (hr : r.Names c ids)
    (hs : s.Names c others) (h : r.syntheticId = s.syntheticId) : ids = others :=
  joinIds_inj hr.plain hs.plain (by rw [← hr.id, h, hs.id])

/-- No two findings of a rule in a model have the same id. -/
def ModelRule.Distinct (rule : ModelRule) (m : Model) : Prop :=
  ((rule.findings m).map (·.syntheticId)).Nodup

namespace BuiltinRule

variable {m : Model} {α β : Type}

/-! ## Going over elements -/

section Elements

variable (c : Category)

/-- At most one finding about each of some things, which is named after the key of the thing. -/
theorem distinct_filterMap {things : List α} {key : α → String} (k : Nat)
    (hkeys : (things.map key).Nodup) {f : α → Option Risk}
    (h : ∀ x ∈ things, ∀ r, f x = some r → ∃ ids, r.Names c ids ∧ ids[k]? = some (key x)) :
    ((things.filterMap f).map (·.syntheticId)).Nodup := by
  rw [List.Nodup, List.pairwise_map, List.pairwise_filterMap]
  refine (List.pairwise_map.1 hkeys).imp_of_mem ?_
  intro x y hx hy hne r hr s hs heq
  obtain ⟨ids, hids, hxkey⟩ := h x hx r hr
  obtain ⟨others, hothers, hykey⟩ := h y hy s hs
  rw [← hids.eq hothers heq, hxkey] at hykey
  exact hne (Option.some.inj hykey)

theorem distinct_map {things : List α} {key : α → String} (k : Nat) (hkeys : (things.map key).Nodup)
    {f : α → Risk} (h : ∀ x ∈ things, ∃ ids, (f x).Names c ids ∧ ids[k]? = some (key x)) :
    ((things.map f).map (·.syntheticId)).Nodup := by
  have hmap : things.map f = things.filterMap fun x => some (f x) := by simp
  rw [hmap]
  refine distinct_filterMap c k hkeys ?_
  intro x hx r hr
  exact Option.some.inj hr ▸ h x hx

/-- The same for things that are reached from others. -/
theorem distinct_flatMap {bases : List α} {things : α → List β} {key : β → String} (k : Nat)
    (hkeys : ((bases.flatMap things).map key).Nodup) {f : α → β → Option Risk}
    (h : ∀ a ∈ bases, ∀ x ∈ things a, ∀ r, f a x = some r →
      ∃ ids, r.Names c ids ∧ ids[k]? = some (key x)) :
    ((bases.flatMap fun a => (things a).filterMap (f a)).map (·.syntheticId)).Nodup := by
  -- each thing together with what it was reached from
  have hpairs : (bases.flatMap fun a => (things a).filterMap (f a)) =
      (bases.flatMap fun a => (things a).map (Prod.mk a)).filterMap fun p => f p.1 p.2 := by
    rw [List.filterMap_flatMap]
    simp only [List.filterMap_map]
    rfl
  have hpairKeys : ((bases.flatMap fun a => (things a).map (Prod.mk a)).map
      fun p => key p.2).Nodup := by
    rw [List.map_flatMap] at hkeys ⊢
    simpa only [List.map_map, Function.comp_def] using hkeys
  rw [hpairs]
  refine distinct_filterMap c k hpairKeys ?_
  intro p hp
  obtain ⟨a, ha, hp⟩ := List.mem_flatMap.1 hp
  obtain ⟨x, hx, rfl⟩ := List.mem_map.1 hp
  exact h a ha x hx

theorem distinct_flatMap_map {bases : List α} {things : α → List β} {key : β → String} (k : Nat)
    (hkeys : ((bases.flatMap things).map key).Nodup) {f : α → β → Risk}
    (h : ∀ a ∈ bases, ∀ x ∈ things a, ∃ ids, (f a x).Names c ids ∧ ids[k]? = some (key x)) :
    ((bases.flatMap fun a => (things a).map (f a)).map (·.syntheticId)).Nodup := by
  have hmap (a : α) : (things a).map (f a) = (things a).filterMap fun x => some (f a x) := by simp
  simp only [hmap]
  refine distinct_flatMap c k hkeys ?_
  intro a ha x hx r hr
  exact Option.some.inj hr ▸ h a ha x hx

/-! ## Going over assets, links and accesses -/

variable {assets : List TechnicalAsset}

theorem nodup_assetIds (hm : m.Coherent) (hassets : assets.Sublist m.technicalAssets.values) :
    (assets.map (·.id)).Nodup := hm.technicalAssets.nodup.sublist (hassets.map _)

theorem filter_inScope_sublist (p : TechnicalAsset → Bool) :
    (m.inScope.filter p).Sublist m.technicalAssets.values :=
  List.filter_sublist.trans (inScope_sublist m)

/-- Findings named after the asset that they are about. -/
theorem distinct_assets (hm : m.Coherent) (hassets : assets.Sublist m.technicalAssets.values)
    {f : TechnicalAsset → Risk} (hid : ∀ a, (f a).syntheticId = Risk.joinIds c.id [a.id]) :
    ((assets.map f).map (·.syntheticId)).Nodup := by
  refine distinct_map c 0 (nodup_assetIds hm hassets) ?_
  intro a ha
  exact ⟨[a.id], ⟨hid a, by simpa using hm.plain_asset (hassets.subset ha)⟩, rfl⟩

theorem distinct_filterMap_assets (hm : m.Coherent)
    (hassets : assets.Sublist m.technicalAssets.values) {α : Type} {o : TechnicalAsset → Option α}
    {f : TechnicalAsset → α → Risk} (hid : ∀ a v, (f a v).syntheticId = Risk.joinIds c.id [a.id]) :
    ((assets.filterMap fun a => (o a).map (f a)).map (·.syntheticId)).Nodup := by
  refine distinct_filterMap c 0 (nodup_assetIds hm hassets) ?_
  intro a ha r hr
  obtain ⟨v, -, rfl⟩ := Option.map_eq_some_iff.1 hr
  exact ⟨[a.id], ⟨hid a v, by simpa using hm.plain_asset (hassets.subset ha)⟩, rfl⟩

theorem ids_of_access (hm : m.Coherent) {a : TechnicalAsset} {x : Access}
    (ha : a ∈ m.technicalAssets.values) (hx : x ∈ m.accesses a.id) :
    ∀ id ∈ [a.id, x.caller.id, x.link.id, x.link.sourceId], Risk.Plain id := by
  obtain ⟨hcaller, hl, -⟩ := hm.mem_accesses hx
  rw [hm.link_source x.caller hcaller x.link hl]
  simp [hm.plain_asset ha, hm.plain_asset hcaller, hm.plain_link (Model.Coherent.mem_links hcaller hl)]

/-- Findings at accesses to assets, which name the link. -/
theorem distinct_accesses (hm : m.Coherent) (hassets : assets.Sublist m.technicalAssets.values)
    {p : TechnicalAsset → Access → Bool} {f : TechnicalAsset → Access → Risk}
    (ids : TechnicalAsset → Access → List String) (k : Nat)
    (hid : ∀ a x, (f a x).syntheticId = Risk.joinIds c.id (ids a x))
    (hids : ∀ a x, ids a x ⊆ [a.id, x.caller.id, x.link.id, x.link.sourceId])
    (hlink : ∀ a x, (ids a x)[k]? = some x.link.id) :
    ((assets.flatMap fun a => ((m.accesses a.id).filter (p a)).map (f a)).map
      (·.syntheticId)).Nodup := by
  refine distinct_flatMap_map c k (hm.nodup_linkIds_of_accesses hassets
    fun a _ => List.filter_sublist.subperm) ?_
  intro a ha x hx
  have hplain := ids_of_access hm (hassets.subset ha) (List.mem_of_mem_filter hx)
  exact ⟨ids a x, ⟨hid a x, fun id hid => hplain id (hids a x hid)⟩, hlink a x⟩

/-- Findings about links of assets, which name the link. -/
theorem distinct_links (hm : m.Coherent) (hassets : assets.Sublist m.technicalAssets.values)
    {links : TechnicalAsset → List Link} {f : TechnicalAsset → Link → Option Risk} (k : Nat)
    (hlinks : ∀ a, (links a).Sublist a.links)
    (h : ∀ a ∈ m.technicalAssets.values, ∀ l ∈ a.links, ∀ r, f a l = some r →
      ∃ ids, r.Names c ids ∧ ids[k]? = some l.id) :
    ((assets.flatMap fun a => (links a).filterMap (f a)).map (·.syntheticId)).Nodup := by
  refine distinct_flatMap c k (hm.nodup_linkIds_of_links hassets fun a _ => hlinks a) ?_
  intro a ha l hl
  exact h a (hassets.subset ha) l ((hlinks a).subset hl)

end Elements

/-- Naming one asset as an example gives at most one finding. -/
theorem distinct_example (e : Example) (c : Category) (what : String) :
    ((e.finding c what).map (·.syntheticId)).Nodup := by
  rw [Example.finding]
  cases e.asset with
  | none => simp
  | some a => simp

/-! ## Access -/

theorem unguardedAccessFromInternet_distinct (hm : m.Coherent) :
    unguardedAccessFromInternet.Distinct m := by
  refine distinct_flatMap_map .unguardedAccessFromInternet 2
    (hm.nodup_linkIds_of_accesses (filter_inScope_sublist _) ?_) ?_
  · intro a ha
    exact List.filter_sublist.subperm.trans (List.mergeSort_perm _ _).subperm
  · intro a ha x hx
    have hx : x ∈ m.accesses a.id := List.mem_mergeSort.1 (List.mem_of_mem_filter hx)
    have hplain := ids_of_access hm ((filter_inScope_sublist _).subset ha) hx
    have hids : [a.id, x.caller.id, x.link.id] ⊆ [a.id, x.caller.id, x.link.id, x.link.sourceId] := by
      simp
    exact ⟨[a.id, x.caller.id, x.link.id], ⟨rfl, fun id hid => hplain id (hids hid)⟩, rfl⟩

theorem unguardedDirectDatastoreAccess_distinct (hm : m.Coherent) :
    unguardedDirectDatastoreAccess.Distinct m :=
  distinct_accesses .unguardedDirectDatastoreAccess hm (filter_inScope_sublist _)
    (fun store x => [x.link.id, x.caller.id, store.id]) 0 (fun _ _ => rfl) (by simp) (by simp)

/-! ## Cloud hardening -/

theorem missingCloudHardening_distinct (m : Model) : missingCloudHardening.Distinct m :=
  Risk.nodup_firstPerId _

/-! ## Content -/

theorem missingFileValidation_distinct (hm : m.Coherent) : missingFileValidation.Distinct m :=
  distinct_assets .missingFileValidation hm (filter_inScope_sublist _) fun _ => rfl

theorem xmlExternalEntity_distinct (hm : m.Coherent) : xmlExternalEntity.Distinct m :=
  distinct_assets .xmlExternalEntity hm (filter_inScope_sublist _) fun _ => rfl

theorem untrustedDeserialization_distinct (hm : m.Coherent) : untrustedDeserialization.Distinct m :=
  distinct_assets .untrustedDeserialization hm (filter_inScope_sublist _) fun _ => rfl

/-! ## Encryption -/

theorem unencryptedAsset_distinct (hm : m.Coherent) : unencryptedAsset.Distinct m :=
  distinct_filterMap_assets .unencryptedAsset hm (filter_inScope_sublist _) fun _ _ => rfl

theorem unencryptedCommunication_distinct (hm : m.Coherent) :
    unencryptedCommunication.Distinct m := by
  rw [ModelRule.Distinct, unencryptedCommunication_findings]
  refine distinct_links .unencryptedCommunication hm (inScope_sublist m) 0
    (fun _ => List.filter_sublist) ?_
  intro a ha l hl r hr
  obtain ⟨target, htarget, hr⟩ := Option.bind_eq_some_iff.1 hr
  obtain ⟨impact, -, rfl⟩ := Option.map_eq_some_iff.1 hr
  have htarget := (hm.target_spec (Option.filter_eq_some_iff.1 htarget).1).1
  refine ⟨[l.id, a.id, target.id], ⟨rfl, ?_⟩, rfl⟩
  simp [hm.plain_asset ha, hm.plain_asset htarget, hm.plain_link (Model.Coherent.mem_links ha hl)]

/-! ## Hardening -/

theorem containerPlatformEscape_distinct (hm : m.Coherent) : containerPlatformEscape.Distinct m :=
  distinct_assets .containerPlatformEscape hm (filter_inScope_sublist _) fun _ => rfl

theorem missingHardening_distinct (hm : m.Coherent) : missingHardening.Distinct m :=
  distinct_assets .missingHardening hm (filter_inScope_sublist _) fun _ => rfl

theorem missingVault_distinct (m : Model) : missingVault.Distinct m := by
  simp only [ModelRule.Distinct, missingVault]
  split
  · simp
  · exact distinct_example _ _ _

theorem serviceRegistryPoisoning_distinct (hm : m.Coherent) : serviceRegistryPoisoning.Distinct m :=
  distinct_assets .serviceRegistryPoisoning hm (filter_inScope_sublist _) fun _ => rfl

/-! ## Identity -/

theorem missingAuthentication_distinct (hm : m.Coherent) : missingAuthentication.Distinct m :=
  distinct_accesses .missingAuthentication hm (filter_inScope_sublist _)
    (fun a x => [x.link.id, x.link.sourceId, a.id]) 0 (fun _ _ => rfl) (by simp) (by simp)

theorem missingAuthenticationSecondFactor_distinct (m : Model) :
    missingAuthenticationSecondFactor.Distinct m := Risk.nodup_firstPerId _

theorem missingIdentityPropagation_distinct (hm : m.Coherent) :
    missingIdentityPropagation.Distinct m :=
  distinct_accesses .missingIdentityPropagation hm (filter_inScope_sublist _)
    (fun a x => [x.link.id, x.link.sourceId, a.id]) 0 (fun _ _ => rfl) (by simp) (by simp)

theorem missingIdentityStore_distinct (m : Model) : missingIdentityStore.Distinct m := by
  simp only [ModelRule.Distinct, missingIdentityStore]
  split
  · simp
  · exact distinct_example _ _ _

/-! ## Injection -/

theorem injections_distinct (hm : m.Coherent) {c : Category} {what against : String}
    {services : List TechnicalAsset} {impact : TechnicalAsset → Impact}
    {likelihood : Link → Likelihood} {carries : TechnicalAsset → Link → Bool}
    (hservices : services.Sublist m.technicalAssets.values) :
    ((services.flatMap fun service =>
      injections m c what against service (impact service) likelihood (carries service)).map
        (·.syntheticId)).Nodup :=
  distinct_accesses c hm hservices (fun service x => [x.caller.id, service.id, x.link.id]) 2
    (fun _ _ => rfl) (by simp) (by simp)

theorem ldapInjection_distinct (hm : m.Coherent) : ldapInjection.Distinct m :=
  injections_distinct hm (List.Sublist.refl _)

theorem pathTraversal_distinct (hm : m.Coherent) : pathTraversal.Distinct m :=
  injections_distinct hm List.filter_sublist

theorem searchQueryInjection_distinct (hm : m.Coherent) : searchQueryInjection.Distinct m :=
  injections_distinct hm List.filter_sublist

theorem sqlNosqlInjection_distinct (hm : m.Coherent) : sqlNosqlInjection.Distinct m :=
  injections_distinct hm (List.Sublist.refl _)

/-! ## Isolation -/

theorem missingIdentityProviderIsolation_distinct (hm : m.Coherent) :
    missingIdentityProviderIsolation.Distinct m :=
  distinct_filterMap_assets .missingIdentityProviderIsolation hm (filter_inScope_sublist _)
    fun _ _ => rfl

theorem missingVaultIsolation_distinct (hm : m.Coherent) : missingVaultIsolation.Distinct m :=
  distinct_filterMap_assets .missingVaultIsolation hm (filter_inScope_sublist _) fun _ _ => rfl

theorem missingNetworkSegmentation_distinct (hm : m.Coherent) :
    missingNetworkSegmentation.Distinct m :=
  distinct_assets .missingNetworkSegmentation hm (filter_inScope_sublist _) fun _ => rfl

theorem mixedTargetsOnSharedRuntime_distinct (hm : m.Coherent) :
    mixedTargetsOnSharedRuntime.Distinct m := by
  refine distinct_map .mixedTargetsOnSharedRuntime 0
    (hm.sharedRuntimes.nodup.sublist (List.filter_sublist.map (·.id))) ?_
  intro s hs
  have hplain := (hm.sharedRuntimes.isId_of_mem (List.mem_of_mem_filter hs)).plain
  exact ⟨[s.id], ⟨rfl, by simpa using hplain⟩, rfl⟩

/-! ## Necessity -/

theorem unnecessaryCommunicationLink_distinct (hm : m.Coherent) :
    unnecessaryCommunicationLink.Distinct m := by
  refine distinct_flatMap_map .unnecessaryCommunicationLink 0
    (hm.nodup_linkIds_of_links (List.Sublist.refl _) fun _ _ => List.filter_sublist) ?_
  intro a ha l hl
  have hl := Model.Coherent.mem_links ha (List.mem_of_mem_filter hl)
  exact ⟨[l.id, a.id], ⟨rfl, by simp [hm.plain_asset ha, hm.plain_link hl]⟩, rfl⟩

theorem unnecessaryDataAsset_distinct (hm : m.Coherent) : unnecessaryDataAsset.Distinct m := by
  refine distinct_map .unnecessaryDataAsset 0
    (hm.dataAssets.nodup.sublist (List.filter_sublist.map (·.id))) ?_
  intro d hd
  have hplain := (hm.dataAssets.isId_of_mem (List.mem_of_mem_filter hd)).plain
  exact ⟨[d.id], ⟨rfl, by simpa using hplain⟩, rfl⟩

theorem unnecessaryDataTransfer_distinct (m : Model) : unnecessaryDataTransfer.Distinct m :=
  Risk.nodup_firstPerId _

theorem unnecessaryTechnicalAsset_distinct (hm : m.Coherent) :
    unnecessaryTechnicalAsset.Distinct m :=
  distinct_assets .unnecessaryTechnicalAsset hm List.filter_sublist fun _ => rfl

/-! ## Plausibility -/

/-- What is unknown at an asset. -/
def unknowns (a : TechnicalAsset) : List Risk :=
  (if a.technology = .unknownTechnology then
    [unknown a ("Unknown Technology specified at technical asset " ++ a.title)
      |>.identifiedBy [a.id]]
  else []) ++
  (a.links.filter (·.protocol = .unknownProtocol)).map fun l =>
    unknown a ("Unknown Protocol specified for communication link " ++ l.title
        ++ " at technical asset " ++ a.title)
      |>.onLink l |>.identifiedBy [l.id, a.id]

/-- The asset comes last in the id of what is unknown at it. -/
theorem names_unknowns (hm : m.Coherent) {a : TechnicalAsset} (ha : a ∈ m.technicalAssets.values)
    {r : Risk} (hr : r ∈ unknowns a) :
    ∃ ids, r.Names .incompleteModel ids ∧ ids.getLast? = some a.id := by
  rcases List.mem_append.1 hr with hr | hr
  · split at hr
    · rw [List.mem_singleton] at hr
      exact ⟨[a.id], ⟨hr ▸ rfl, by simpa using hm.plain_asset ha⟩, rfl⟩
    · cases hr
  · obtain ⟨l, hl, rfl⟩ := List.mem_map.1 hr
    have hl := Model.Coherent.mem_links ha (List.mem_of_mem_filter hl)
    exact ⟨[l.id, a.id], ⟨rfl, by simp [hm.plain_asset ha, hm.plain_link hl]⟩, rfl⟩

theorem nodup_unknowns (hm : m.Coherent) {a : TechnicalAsset} (ha : a ∈ m.technicalAssets.values) :
    ((unknowns a).map (·.syntheticId)).Nodup := by
  have hlinks : ((a.links.filter (·.protocol = .unknownProtocol)).map (·.id)).Nodup := by
    simpa using hm.nodup_linkIds_of_links (f := fun a => a.links.filter (·.protocol = .unknownProtocol))
      (List.singleton_sublist.2 ha) fun _ _ => List.filter_sublist
  have hplain (l : Link) (hl : l ∈ a.links.filter (·.protocol = .unknownProtocol)) :
      ∀ id ∈ [l.id, a.id], Risk.Plain id := by
    have hl := Model.Coherent.mem_links ha (List.mem_of_mem_filter hl)
    simp [hm.plain_asset ha, hm.plain_link hl]
  rw [unknowns, List.map_append, List.nodup_append]
  refine ⟨?_, distinct_map .incompleteModel 0 hlinks fun l hl => ?_, ?_⟩
  · split <;> simp
  · exact ⟨[l.id, a.id], ⟨rfl, hplain l hl⟩, rfl⟩
  · intro id hid other hother heq
    split at hid
    · obtain ⟨s, hs, rfl⟩ := List.mem_map.1 hother
      obtain ⟨l, hl, rfl⟩ := List.mem_map.1 hs
      have hsame := Risk.joinIds_inj (by simpa using hm.plain_asset ha) (hplain l hl)
        ((List.mem_singleton.1 hid).symm.trans heq)
      simp at hsame
    · cases hid

theorem incompleteModel_distinct (hm : m.Coherent) : incompleteModel.Distinct m := by
  rw [ModelRule.Distinct, incompleteModel, List.map_flatMap, List.nodup_flatMap]
  constructor
  · intro a ha
    exact nodup_unknowns hm (mem_values_of_inScope ha)
  · have hne : m.inScope.Pairwise fun a b => a.id ≠ b.id :=
      List.pairwise_map.1 (nodup_assetIds hm (inScope_sublist m))
    refine hne.imp_of_mem ?_
    intro a b ha hb hab id hida hidb
    obtain ⟨r, hr, rfl⟩ := List.mem_map.1 hida
    obtain ⟨s, hs, heq⟩ := List.mem_map.1 hidb
    obtain ⟨ids, hids, hlast⟩ := names_unknowns hm (mem_values_of_inScope ha) hr
    obtain ⟨others, hothers, hlast'⟩ := names_unknowns hm (mem_values_of_inScope hb) hs
    rw [hothers.eq hids heq, hlast] at hlast'
    exact hab (Option.some.inj hlast')

theorem wrongCommunicationLinkContent_distinct (hm : m.Coherent) :
    wrongCommunicationLinkContent.Distinct m := by
  rw [ModelRule.Distinct, wrongCommunicationLinkContent_findings]
  refine distinct_links .wrongCommunicationLinkContent hm (List.Sublist.refl _) 1
    (fun _ => List.Sublist.refl _) ?_
  intro a ha l hl r hr
  obtain ⟨remarks, -, rfl⟩ := Option.map_eq_some_iff.1 hr
  refine ⟨[a.id, l.id], ⟨rfl, ?_⟩, rfl⟩
  simp [hm.plain_asset ha, hm.plain_link (Model.Coherent.mem_links ha hl)]

theorem wrongTrustBoundaryContent_distinct (hm : m.Coherent) :
    wrongTrustBoundaryContent.Distinct m := by
  have hkeys : ((m.trustBoundaries.values.filter
      (·.kind = .networkPolicyNamespaceIsolation)).flatMap fun b =>
        ((b.assetsInside.filterMap m.technicalAssets.get?).filter fun a =>
          !([.container, .serverless].contains a.machine)).map (·.id)).Nodup := by
    refine hm.inside_nodup.sublist ?_
    refine (List.Sublist.flatMap_right _ fun b _ => ?_).trans (List.filter_sublist.flatMap _)
    exact (List.filter_sublist.map _).trans (hm.technicalAssets.map_filterMap_get?_sublist _)
  rw [← List.map_flatMap] at hkeys
  refine distinct_flatMap_map .wrongTrustBoundaryContent 0 hkeys ?_
  intro b hb a ha
  obtain ⟨id, -, ha⟩ := List.mem_filterMap.1 (List.mem_of_mem_filter ha)
  exact ⟨[a.id], ⟨rfl, by simpa using hm.plain_asset (Dict.mem_values_of_get? ha)⟩, rfl⟩

/-! ## Supply chain -/

theorem accidentalSecretLeak_distinct (hm : m.Coherent) : accidentalSecretLeak.Distinct m :=
  distinct_assets .accidentalSecretLeak hm (filter_inScope_sublist _) fun _ => rfl

theorem codeBackdooring_distinct (hm : m.Coherent) : codeBackdooring.Distinct m :=
  distinct_assets .codeBackdooring hm (filter_inScope_sublist _) fun _ => rfl

theorem containerBaseimageBackdooring_distinct (hm : m.Coherent) :
    containerBaseimageBackdooring.Distinct m :=
  distinct_assets .containerBaseimageBackdooring hm (filter_inScope_sublist _) fun _ => rfl

theorem missingBuildInfrastructure_distinct (m : Model) : missingBuildInfrastructure.Distinct m := by
  simp only [ModelRule.Distinct, missingBuildInfrastructure]
  split
  · simp
  · exact distinct_example _ _ _

theorem uncheckedDeployment_distinct (hm : m.Coherent) : uncheckedDeployment.Distinct m :=
  distinct_assets .uncheckedDeployment hm List.filter_sublist fun _ => rfl

/-! ## Web access -/

theorem crossSiteRequestForgery_distinct (hm : m.Coherent) : crossSiteRequestForgery.Distinct m :=
  distinct_accesses .crossSiteRequestForgery hm (filter_inScope_sublist _)
    (fun app x => [app.id, x.link.id]) 1 (fun _ _ => rfl) (by simp) (by simp)

theorem crossSiteScripting_distinct (hm : m.Coherent) : crossSiteScripting.Distinct m :=
  distinct_assets .crossSiteScripting hm (filter_inScope_sublist _) fun _ => rfl

theorem missingWaf_distinct (hm : m.Coherent) : missingWaf.Distinct m :=
  distinct_assets .missingWaf hm (filter_inScope_sublist _) fun _ => rfl

theorem serverSideRequestForgery_distinct (hm : m.Coherent) :
    serverSideRequestForgery.Distinct m := by
  refine distinct_links .serverSideRequestForgery hm (filter_inScope_sublist _) 2
    (fun _ => List.filter_sublist) ?_
  intro a ha l hl r hr
  obtain ⟨target, htarget, rfl⟩ := Option.map_eq_some_iff.1 hr
  have htarget := (hm.target_spec htarget).1
  refine ⟨[a.id, target.id, l.id], ⟨rfl, ?_⟩, rfl⟩
  simp [hm.plain_asset ha, hm.plain_asset htarget, hm.plain_link (Model.Coherent.mem_links ha hl)]

/-! ## Rules that may repeat an id -/

/-- If ids start with the asset that findings are about, the ids are distinct exactly if those of each
asset are. -/
theorem nodup_joinIds_iff (c : Category) {bases : List TechnicalAsset}
    (hbases : (bases.map (·.id)).Nodup) {things : TechnicalAsset → List α}
    (ids : TechnicalAsset → α → List String) (key : α → String)
    (hplain : ∀ a ∈ bases, ∀ x ∈ things a, ∀ id ∈ ids a x, Risk.Plain id)
    (hhead : ∀ a x, (ids a x).head? = some a.id)
    (hkey : ∀ a ∈ bases, ∀ x ∈ things a, ∀ y ∈ things a, ids a x = ids a y ↔ key x = key y) :
    (bases.flatMap fun a => (things a).map fun x => Risk.joinIds c.id (ids a x)).Nodup ↔
      ∀ a ∈ bases, ((things a).map key).Nodup := by
  have hbase (a : TechnicalAsset) (ha : a ∈ bases) :
      ((things a).map fun x => Risk.joinIds c.id (ids a x)).Nodup ↔ ((things a).map key).Nodup := by
    rw [List.nodup_iff_pairwise_ne, List.nodup_iff_pairwise_ne, List.pairwise_map, List.pairwise_map]
    refine List.Pairwise.iff_of_mem fun {x y} hx hy => not_congr ?_
    rw [← hkey a ha x hx y hy]
    exact ⟨Risk.joinIds_inj (hplain a ha x hx) (hplain a ha y hy), congrArg _⟩
  rw [List.nodup_flatMap]
  constructor
  · intro h a ha
    exact (hbase a ha).1 (h.1 a ha)
  · intro h
    refine ⟨fun a ha => (hbase a ha).2 (h a ha), ?_⟩
    refine (List.pairwise_map.1 hbases).imp_of_mem ?_
    intro a b ha hb hab id hida hidb
    obtain ⟨x, hx, rfl⟩ := List.mem_map.1 hida
    obtain ⟨y, hy, heq⟩ := List.mem_map.1 hidb
    have hids := Risk.joinIds_inj (hplain b hb y hy) (hplain a ha x hx) heq
    have hheads : some b.id = some a.id := by rw [← hhead b y, hids, hhead a x]
    exact hab (Option.some.inj hheads).symm

/-- The links over which a pipeline pushes. -/
def pushingLinks (m : Model) (pipeline : TechnicalAsset) : List Link :=
  pipeline.links.filter fun l => (m.target? l).any (pushesTo l)

/-- The id leaves out the link, so two links to one target make one id. -/
theorem pushInsteadOfPullDeployment_distinct_iff (hm : m.Coherent) :
    pushInsteadOfPullDeployment.Distinct m ↔
      ∀ pipeline ∈ m.technicalAssets.values, pipeline.technology = .buildPipeline →
        ((pushingLinks m pipeline).map (·.targetId)).Nodup := by
  have hids : (pushInsteadOfPullDeployment.findings m).map (·.syntheticId) =
      (m.technicalAssets.values.filter (·.technology = .buildPipeline)).flatMap fun pipeline =>
        (pushingLinks m pipeline).map fun l =>
          Risk.joinIds Category.pushInsteadOfPullDeployment.id [pipeline.id, l.targetId] := by
    rw [pushInsteadOfPullDeployment_findings, List.map_flatMap]
    refine List.flatMap_congr fun pipeline _ => ?_
    rw [pushingLinks, List.map_filterMap, ← List.filterMap_eq_map, List.filterMap_filter]
    refine List.filterMap_congr fun l _ => ?_
    cases htarget : m.target? l with
    | none => simp
    | some target =>
      have heq := (hm.target_spec htarget).2
      cases hpush : pushesTo l target
      · simp [hpush]
      · simp [hpush, pushOver, Risk.identifiedBy, heq]
        rfl
  rw [ModelRule.Distinct, hids]
  refine (nodup_joinIds_iff .pushInsteadOfPullDeployment (nodup_assetIds hm List.filter_sublist)
    (fun pipeline (l : Link) => [pipeline.id, l.targetId]) (fun l => l.targetId) ?_ ?_ ?_).trans ?_
  · intro pipeline hpipeline l hl
    have hpipeline := List.mem_of_mem_filter hpipeline
    have hl := Model.Coherent.mem_links hpipeline (List.mem_of_mem_filter hl)
    have htarget := (hm.technicalAssets.isId_of_contains (hm.targets l hl)).plain
    simp [hm.plain_asset hpipeline, htarget]
  · simp
  · simp
  · simp

/-- The accesses that count against an asset, those to its forwarders among them. -/
def countedAccesses (m : Model) (a : TechnicalAsset) : List Access :=
  (m.accesses a.id).flatMap fun x =>
    if x.caller.technology.isTrafficForwarding then
      (m.accesses x.caller.id).filter (isOverloading m ·.link)
    else if isOverloading m x.link then [x]
    else []

theorem exists_of_mem_countedAccesses {a : TechnicalAsset} {y : Access}
    (hy : y ∈ countedAccesses m a) : ∃ id, y ∈ m.accesses id := by
  obtain ⟨x, hx, hy⟩ := List.mem_flatMap.1 hy
  split at hy
  · exact ⟨_, List.mem_of_mem_filter hy⟩
  · split at hy
    · exact ⟨_, List.mem_singleton.1 hy ▸ hx⟩
    · cases hy

/-- The id names the asset and the access that counts, so an access that counts twice makes one id. -/
theorem dosRiskyAccessAcrossTrustBoundary_distinct_iff (hm : m.Coherent) :
    dosRiskyAccessAcrossTrustBoundary.Distinct m ↔
      ∀ a ∈ m.inScope, a.technology ≠ .loadBalancer → .critical ≤ a.availability →
        ((countedAccesses m a).map (·.link.id)).Nodup := by
  have hids : (dosRiskyAccessAcrossTrustBoundary.findings m).map (·.syntheticId) =
      (m.inScope.filter fun a =>
        a.technology ≠ .loadBalancer && .critical ≤ a.availability).flatMap fun a =>
          (countedAccesses m a).map fun x =>
            Risk.joinIds Category.dosRiskyAccessAcrossTrustBoundary.id
              [a.id, x.caller.id, x.link.id] := by
    rw [dosRiskyAccessAcrossTrustBoundary, List.map_flatMap]
    refine List.flatMap_congr fun a _ => ?_
    rw [overloads, countedAccesses, List.map_flatMap, List.map_flatMap]
    refine List.flatMap_congr fun x _ => ?_
    split
    · rw [List.map_map]
      rfl
    · split <;> rfl
  have hsource {a : TechnicalAsset} {x : Access} (hx : x ∈ countedAccesses m a) :
      x.caller ∈ m.technicalAssets.values ∧ x.link ∈ m.links ∧ x.link.sourceId = x.caller.id := by
    obtain ⟨id, hx⟩ := exists_of_mem_countedAccesses hx
    obtain ⟨hcaller, hl, -⟩ := hm.mem_accesses hx
    exact ⟨hcaller, Model.Coherent.mem_links hcaller hl, hm.link_source x.caller hcaller x.link hl⟩
  rw [ModelRule.Distinct, hids]
  refine (nodup_joinIds_iff .dosRiskyAccessAcrossTrustBoundary
    (nodup_assetIds hm (filter_inScope_sublist _))
    (fun a (x : Access) => [a.id, x.caller.id, x.link.id]) (fun x => x.link.id) ?_ ?_ ?_).trans ?_
  · intro a ha x hx
    obtain ⟨hcaller, hl, -⟩ := hsource hx
    simp [hm.plain_asset ((filter_inScope_sublist _).subset ha), hm.plain_asset hcaller,
      hm.plain_link hl]
  · simp
  · -- the link determines the caller
    intro a ha x hx y hy
    constructor
    · intro h
      simp_all
    · intro h
      have hlink : x.link = y.link := hm.link_eq_of_id (hsource hx).2.1 (hsource hy).2.1 h
      rw [← (hsource hx).2.2, ← (hsource hy).2.2, hlink]
  · simp only [List.mem_filter, Bool.and_eq_true, decide_eq_true_eq, and_imp]

/-! ## All rules -/

theorem distinct_of_mem_all (hm : m.Coherent) :
    ∀ rule ∈ all, rule.category ≠ .pushInsteadOfPullDeployment →
      rule.category ≠ .dosRiskyAccessAcrossTrustBoundary → rule.Distinct m := by
  simp only [all, List.forall_mem_cons, List.not_mem_nil, false_implies, implies_true, and_true]
  exact ⟨fun _ _ => accidentalSecretLeak_distinct hm, fun _ _ => codeBackdooring_distinct hm,
    fun _ _ => containerBaseimageBackdooring_distinct hm,
    fun _ _ => containerPlatformEscape_distinct hm, fun _ _ => crossSiteRequestForgery_distinct hm,
    fun _ _ => crossSiteScripting_distinct hm, fun _ h => absurd rfl h,
    fun _ _ => incompleteModel_distinct hm, fun _ _ => ldapInjection_distinct hm,
    fun _ _ => missingAuthentication_distinct hm,
    fun _ _ => missingAuthenticationSecondFactor_distinct m,
    fun _ _ => missingBuildInfrastructure_distinct m, fun _ _ => missingCloudHardening_distinct m,
    fun _ _ => missingFileValidation_distinct hm, fun _ _ => missingHardening_distinct hm,
    fun _ _ => missingIdentityPropagation_distinct hm,
    fun _ _ => missingIdentityProviderIsolation_distinct hm,
    fun _ _ => missingIdentityStore_distinct m, fun _ _ => missingNetworkSegmentation_distinct hm,
    fun _ _ => missingVault_distinct m, fun _ _ => missingVaultIsolation_distinct hm,
    fun _ _ => missingWaf_distinct hm, fun _ _ => mixedTargetsOnSharedRuntime_distinct hm,
    fun _ _ => pathTraversal_distinct hm, fun h _ => absurd rfl h,
    fun _ _ => searchQueryInjection_distinct hm, fun _ _ => serverSideRequestForgery_distinct hm,
    fun _ _ => serviceRegistryPoisoning_distinct hm, fun _ _ => sqlNosqlInjection_distinct hm,
    fun _ _ => uncheckedDeployment_distinct hm, fun _ _ => unencryptedAsset_distinct hm,
    fun _ _ => unencryptedCommunication_distinct hm,
    fun _ _ => unguardedAccessFromInternet_distinct hm,
    fun _ _ => unguardedDirectDatastoreAccess_distinct hm,
    fun _ _ => unnecessaryCommunicationLink_distinct hm,
    fun _ _ => unnecessaryDataAsset_distinct hm, fun _ _ => unnecessaryDataTransfer_distinct m,
    fun _ _ => unnecessaryTechnicalAsset_distinct hm,
    fun _ _ => untrustedDeserialization_distinct hm,
    fun _ _ => wrongCommunicationLinkContent_distinct hm,
    fun _ _ => wrongTrustBoundaryContent_distinct hm, fun _ _ => xmlExternalEntity_distinct hm⟩

end BuiltinRule

/-- On every accepted model the findings of a rule have distinct ids, with two exceptions: where a
pipeline pushes to one asset over several links, and where an access counts several times against an
asset. -/
theorem builtin_findings_distinct {m : Model} (hm : m.Accepted) :
    (∀ rule ∈ BuiltinRule.all, rule.category ≠ .pushInsteadOfPullDeployment →
      rule.category ≠ .dosRiskyAccessAcrossTrustBoundary → rule.Distinct m) ∧
    (BuiltinRule.pushInsteadOfPullDeployment.Distinct m ↔
      ∀ pipeline ∈ m.technicalAssets.values, pipeline.technology = .buildPipeline →
        ((BuiltinRule.pushingLinks m pipeline).map (·.targetId)).Nodup) ∧
    (BuiltinRule.dosRiskyAccessAcrossTrustBoundary.Distinct m ↔
      ∀ a ∈ m.inScope, a.technology ≠ .loadBalancer → .critical ≤ a.availability →
        ((BuiltinRule.countedAccesses m a).map (·.link.id)).Nodup) :=
  ⟨BuiltinRule.distinct_of_mem_all hm.coherent,
    BuiltinRule.pushInsteadOfPullDeployment_distinct_iff hm.coherent,
    BuiltinRule.dosRiskyAccessAcrossTrustBoundary_distinct_iff hm.coherent⟩

/-- Nothing in the shop is pushed to or reached twice. -/
theorem bookshop_findings_distinct :
    ∃ m, Validation.build ⟨2024, 3, 1⟩ Validation.bookshop = .ok m ∧
      ∀ rule ∈ BuiltinRule.all, rule.Distinct m := by
  have honce : (Validation.build ⟨2024, 3, 1⟩ Validation.bookshop).toOption.map (fun m => decide (
      (∀ pipeline ∈ m.technicalAssets.values, pipeline.technology = .buildPipeline →
        ((BuiltinRule.pushingLinks m pipeline).map (·.targetId)).Nodup) ∧
      ∀ a ∈ m.inScope, a.technology ≠ .loadBalancer → .critical ≤ a.availability →
        ((BuiltinRule.countedAccesses m a).map (·.link.id)).Nodup)) = some true := by
    decide +kernel
  obtain ⟨m, hm, honce⟩ := Model.exists_of_build honce
  obtain ⟨hpush, hcounted⟩ := of_decide_eq_true honce
  obtain ⟨hothers, hpushed, hreached⟩ := builtin_findings_distinct (.of_build hm)
  have hmem : BuiltinRule.pushInsteadOfPullDeployment ∈ BuiltinRule.all ∧
      BuiltinRule.dosRiskyAccessAcrossTrustBoundary ∈ BuiltinRule.all := by simp [BuiltinRule.all]
  refine ⟨m, hm, fun rule hrule => ?_⟩
  by_cases hpipeline : rule.category = .pushInsteadOfPullDeployment
  · rw [BuiltinRule.eq_of_category_eq hrule hmem.1 hpipeline]
    exact hpushed.2 hpush
  · by_cases hdos : rule.category = .dosRiskyAccessAcrossTrustBoundary
    · rw [BuiltinRule.eq_of_category_eq hrule hmem.2 hdos]
      exact hreached.2 hcounted
    · exact hothers rule hrule hpipeline hdos

/-- A client and a proxy that also forwards to itself. -/
def looped : ModelInput :=
  let asset (id technology : String) (links : List (String × LinkInput)) : TechnicalAssetInput :=
    { id := id, kind := "process", usage := "business", size := "service", technology := technology
      machine := "virtual", encryption := "none", confidentiality := "public", integrity := "archive"
      availability := "critical", links := .ofList links }
  let link : LinkInput :=
    { target := "proxy", protocol := "https", authentication := "none", authorization := "none"
      usage := "business" }
  { title := "Looped"
    businessCriticality := "important"
    technicalAssets := .ofList [("Client", asset "client" "browser" [("Call", link)]),
      ("Proxy", asset "proxy" "reverse-proxy" [("Retry", link)])]
    trustBoundaries := .ofList [("Inner",
      { id := "inner", kind := "network-cloud-security-group", assetsInside := ["proxy"] })] }

/-- The call counts as an access to the proxy and again as one that the proxy forwards to itself. The
two findings differ in their titles, but not in their ids. -/
theorem looped_not_distinct :
    ∃ m, Validation.build ⟨2024, 3, 1⟩ looped = .ok m ∧
      BuiltinRule.dosRiskyAccessAcrossTrustBoundary ∈ BuiltinRule.all ∧
      ¬BuiltinRule.dosRiskyAccessAcrossTrustBoundary.Distinct m := by
  have hids : (Validation.build ⟨2024, 3, 1⟩ looped).toOption.map (fun m =>
      (BuiltinRule.dosRiskyAccessAcrossTrustBoundary.findings m).map fun r =>
        (r.syntheticId, r.title)) = some [
      ("dos-risky-access-across-trust-boundary@proxy@client@client>call",
        "Denial-of-Service risky access of Proxy by Client via Call"),
      ("dos-risky-access-across-trust-boundary@proxy@client@client>call",
        "Denial-of-Service risky access of Proxy by Client via Call forwarded via Proxy")] := by
    decide +kernel
  obtain ⟨m, hm, hids⟩ := Model.exists_of_build hids
  refine ⟨m, hm, by simp [BuiltinRule.all], fun hdistinct => ?_⟩
  have hsame := congrArg (List.map Prod.fst) hids
  simp only [List.map_map, Function.comp_def] at hsame
  rw [ModelRule.Distinct, hsame] at hdistinct
  simp at hdistinct

end ThreatModel
