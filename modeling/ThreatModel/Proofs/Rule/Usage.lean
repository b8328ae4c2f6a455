import ThreatModel.Proofs.Model.Usage
import ThreatModel.Proofs.Rule.Soundness

/-!
# Data that is not in use has no influence

Each built-in rule finds the same when data is exchanged that is not in use (`ModelRule.SameWith`),
with the exception of the one that looks for such data. Rules go over assets and links of the model,
so whatever they ask about ratings is asked about an element whose data is in use.
-/

namespace ThreatModel

/-- A rule finds the same in a model with other data. -/
def ModelRule.SameWith (rule : ModelRule) (m : Model) (data : Dict DataAsset) : Prop :=
  rule.findings (m.withData data) = rule.findings m

namespace BuiltinRule

variable {m : Model} {data : Dict DataAsset} {α β : Type}

/-! ## Going over elements -/

theorem map_filter_congr {l : List α} {p q : α → Bool} {f g : α → β} (hpq : ∀ x ∈ l, p x = q x)
    (hfg : ∀ x ∈ l, f x = g x) : (l.filter p).map f = (l.filter q).map g := by
  rw [List.filter_congr hpq]
  exact List.map_congr_left fun x hx => hfg x (List.mem_of_mem_filter hx)

theorem flatMap_filter_congr {l : List α} {p q : α → Bool} {f g : α → List β}
    (hpq : ∀ x ∈ l, p x = q x) (hfg : ∀ x ∈ l, f x = g x) :
    (l.filter p).flatMap f = (l.filter q).flatMap g := by
  rw [List.filter_congr hpq]
  exact List.flatMap_congr fun x hx => hfg x (List.mem_of_mem_filter hx)

/-- Rules with one finding about each of some assets in scope. -/
theorem same_map_inScope {p : TechnicalAsset → Bool} {f g : TechnicalAsset → Risk}
    (hfg : ∀ a ∈ m.technicalAssets.values, f a = g a) :
    (m.inScope.filter p).map f = (m.inScope.filter p).map g :=
  map_filter_congr (fun _ _ => rfl) fun a ha => hfg a (mem_values_of_inScope ha)

section

variable (h : m.AgreesInUse data)

include h

/-! ## Content -/

theorem missingFileValidation_same : missingFileValidation.SameWith m data :=
  same_map_inScope fun a ha => by rw [h.rating_asset ha]

theorem xmlExternalEntity_same : xmlExternalEntity.SameWith m data :=
  same_map_inScope fun a ha => by rw [h.rating_asset ha]

theorem untrustedDeserialization_same : untrustedDeserialization.SameWith m data :=
  same_map_inScope fun a ha => by
    rw [h.rating_asset ha]
    rfl

/-! ## Hardening -/

theorem containerPlatformEscape_same : containerPlatformEscape.SameWith m data :=
  same_map_inScope fun a ha => by
    rw [h.rating_asset ha]
    rfl

theorem missingHardening_same : missingHardening.SameWith m data :=
  same_map_inScope fun a ha => by rw [h.rating_asset ha]

theorem missingVault_same : missingVault.SameWith m data := by
  have hsensitive : (m.technicalAssets.values.any fun a =>
        (a.rating (m.withData data)).isHigh || a.ownRating.isHigh) =
      m.technicalAssets.values.any fun a => (a.rating m).isHigh || a.ownRating.isHigh :=
    any_congr_mem fun a ha => by rw [h.rating_asset ha]
  have hassets : (m.withData data).technicalAssets = m.technicalAssets := rfl
  simp only [ModelRule.SameWith, missingVault, hassets, hsensitive]

theorem hasSensitiveLookup_eq (hm : m.Coherent) {a : TechnicalAsset}
    (ha : a ∈ m.technicalAssets.values) :
    hasSensitiveLookup (m.withData data) a = hasSensitiveLookup m a := by
  refine any_congr_mem fun l hl => ?_
  have hl : l ∈ m.incomingLinks a.id := hl
  rw [hm.incomingLinks_eq] at hl
  have hl : l ∈ m.links := List.mem_of_mem_filter hl
  have hassets : (m.withData data).technicalAssets = m.technicalAssets := rfl
  rw [h.rating_asset ha, h.rating_link hl, hassets]
  cases hsource : m.technicalAssets.get? l.sourceId with
  | none => rfl
  | some caller => rw [Option.any_some, Option.any_some,
      h.rating_asset (Dict.mem_values_of_get? hsource)]

theorem serviceRegistryPoisoning_same (hm : m.Coherent) :
    serviceRegistryPoisoning.SameWith m data :=
  same_map_inScope fun a ha => by rw [hasSensitiveLookup_eq h hm ha]

/-! ## Cloud hardening -/

theorem ofAsset_eq {guide : HardeningGuide} {a : TechnicalAsset}
    (ha : a ∈ m.technicalAssets.values) :
    CloudHardening.ofAsset (m.withData data) guide a = CloudHardening.ofAsset m guide a := by
  rw [CloudHardening.ofAsset, CloudHardening.ofAsset, h.rating_asset ha]

theorem missingCloudHardening_same : missingCloudHardening.SameWith m data := by
  have hruntime : CloudHardening.ofRuntime (m.withData data) = CloudHardening.ofRuntime m := by
    funext guide r
    rw [CloudHardening.ofRuntime, CloudHardening.ofRuntime, h.rating_runtime]
  have hboundary : CloudHardening.ofBoundary (m.withData data) = CloudHardening.ofBoundary m := by
    funext guide b
    rw [CloudHardening.ofBoundary, CloudHardening.ofBoundary, h.rating_boundary]
    rfl
  have hexample : (CloudHardening.providers.filterMap fun p =>
        (CloudHardening.example? m p).map (CloudHardening.ofAsset (m.withData data) p)) =
      CloudHardening.providers.filterMap fun p =>
        (CloudHardening.example? m p).map (CloudHardening.ofAsset m p) := by
    exact List.filterMap_congr fun p _ => Option.map_congr fun a ha =>
      ofAsset_eq h (mem_values_of_example? ha)
  have hservices : ((CloudHardening.serviceAssets m).flatMap fun a =>
        (CloudHardening.services.filter fun s => a.inheritsAny m [s.tag]).map
          (CloudHardening.ofAsset (m.withData data) · a)) =
      (CloudHardening.serviceAssets m).flatMap fun a =>
        (CloudHardening.services.filter fun s => a.inheritsAny m [s.tag]).map
          (CloudHardening.ofAsset m · a) :=
    List.flatMap_congr fun a ha => List.map_congr_left fun s _ =>
      ofAsset_eq h (CloudHardening.mem_values_of_mem_lookup ha)
  refine congrArg Risk.firstPerId ?_
  show (_ ++ _ ++ _ ++ _ ++ _ : List Risk) = CloudHardening.candidates m
  rw [hruntime, hboundary]
  exact congrArg₂ _ (congrArg₂ _ rfl hexample) hservices

/-! ## Identity -/

theorem needsAuthentication_eq {a : TechnicalAsset} (ha : a ∈ m.technicalAssets.values) :
    needsAuthentication (m.withData data) a = needsAuthentication m a := by
  rw [needsAuthentication, needsAuthentication, h.rating_asset ha]

theorem missingAuthentication_same (hm : m.Coherent) :
    missingAuthentication.SameWith m data := by
  refine flatMap_filter_congr (fun a ha => ?_) fun a _ => map_filter_congr (fun _ _ => rfl) ?_
  · rw [needsAuthentication_eq h (mem_values_of_inScope ha)]
  · intro x hx
    obtain ⟨hcaller, hlink, -⟩ := hm.mem_accesses hx
    rw [h.rating_link (Model.Coherent.mem_links hcaller hlink)]
    rfl

theorem lacksSecondFactor_eq {l : Link} (hl : l ∈ m.links) :
    lacksSecondFactor (m.withData data) l = lacksSecondFactor m l := by
  rw [lacksSecondFactor, lacksSecondFactor, h.rating_link hl]

theorem secondFactorFindings_eq (hm : m.Coherent) (a : TechnicalAsset) :
    secondFactorFindings (m.withData data) a = secondFactorFindings m a := by
  have hlacks {id : String} {x : Access} (hx : x ∈ m.accesses id) :
      lacksSecondFactor (m.withData data) x.link = lacksSecondFactor m x.link := by
    obtain ⟨hcaller, hlink, -⟩ := hm.mem_accesses hx
    exact lacksSecondFactor_eq h (Model.Coherent.mem_links hcaller hlink)
  refine flatMap_filter_congr (fun _ _ => rfl) fun x hx => ?_
  rw [hlacks hx]
  refine if_congr Iff.rfl rfl (if_congr Iff.rfl ?_ rfl)
  exact map_filter_congr (fun o ho => by rw [hlacks ho]) fun _ _ => rfl

theorem missingAuthenticationSecondFactor_same (hm : m.Coherent) :
    missingAuthenticationSecondFactor.SameWith m data :=
  congrArg Risk.firstPerId <| flatMap_filter_congr
    (fun a ha => by rw [needsAuthentication_eq h (mem_values_of_inScope ha)])
    fun a _ => secondFactorFindings_eq h hm a

/-- Only the rating of the candidate matters for the next step of a search for an example. -/
theorem consider_eq (e : Example) {candidate : TechnicalAsset}
    (ha : candidate ∈ m.technicalAssets.values) (rival : TechnicalAsset) :
    e.consider (m.withData data) candidate rival = e.consider m candidate rival := by
  rw [Example.consider, Example.consider, h.rating_asset ha]

theorem missingIdentityStore_same (hm : m.Coherent) : missingIdentityStore.SameWith m data := by
  refine if_congr Iff.rfl rfl ?_
  exact congrArg (Example.finding · _ _) (List.foldl_ext _ _ _ fun e p hp =>
    consider_eq h e (mem_values_of_identityTargets hm hp).1 _)

/-! ## Injection -/

theorem ldapInjection_same : ldapInjection.SameWith m data :=
  List.flatMap_congr fun a ha => by
    rw [h.rating_asset ha]
    rfl

theorem pathTraversal_same : pathTraversal.SameWith m data :=
  flatMap_filter_congr (fun _ _ => rfl) fun a ha => by
    rw [h.rating_asset ha]
    rfl

theorem searchQueryInjection_same : searchQueryInjection.SameWith m data :=
  flatMap_filter_congr (fun _ _ => rfl) fun a ha => by
    rw [h.rating_asset ha]
    rfl

theorem sqlNosqlInjection_same : sqlNosqlInjection.SameWith m data :=
  List.flatMap_congr fun a ha => by
    rw [h.rating_asset ha]
    rfl

/-! ## Encryption -/

theorem unencryptedAsset_same : unencryptedAsset.SameWith m data := by
  have hassets : (m.inScope.filter fun a =>
        !keepsNoData a && (a.rating (m.withData data)).isHighContent) =
      m.inScope.filter fun a => !keepsNoData a && (a.rating m).isHighContent :=
    List.filter_congr fun a ha => by rw [h.rating_asset (mem_values_of_inScope ha)]
  refine (congrArg (List.filterMap _) hassets).trans (List.filterMap_congr fun a ha => ?_)
  rw [h.rating_asset (mem_values_of_inScope (List.mem_of_mem_filter ha))]

theorem transferImpact_eq {l : Link} (hl : l ∈ m.links) :
    transferImpact (m.withData data) l = transferImpact m l := by
  rw [transferImpact, transferImpact, h.dataOf (Model.linkData_subset hl)]

theorem unencryptedCommunication_same : unencryptedCommunication.SameWith m data := by
  rw [ModelRule.SameWith, unencryptedCommunication_findings, unencryptedCommunication_findings]
  refine List.flatMap_congr fun a ha => List.filterMap_congr fun l hl => ?_
  have hl := Model.Coherent.mem_links (mem_values_of_inScope ha) (List.mem_of_mem_filter hl)
  rw [transferImpact_eq h hl]
  rfl

/-! ## Isolation -/

omit h in
theorem mixedTargetsOnSharedRuntime_same : mixedTargetsOnSharedRuntime.SameWith m data := by
  have hboundary : (m.withData data).directBoundary = m.directBoundary := rfl
  refine map_filter_congr (fun r _ => ?_) fun _ _ => rfl
  rw [isMixedFrom_congr hboundary]
  rfl

/-! ## Necessity -/

theorem needlessTransfers_eq {l : Link} (hl : l ∈ m.links) (a : TechnicalAsset)
    (partnerId : String) :
    needlessTransfers (m.withData data) a l partnerId = needlessTransfers m a l partnerId := by
  have hdata : l.data.filter (!a.holds ·) ⊆ dataInUse m :=
    List.Subset.trans (List.filter_subset_self _) (Model.linkData_subset hl)
  rw [needlessTransfers, needlessTransfers, h.dataOf hdata]
  rfl

theorem transfers_eq (hm : m.Coherent) {a : TechnicalAsset}
    (ha : a ∈ m.technicalAssets.values) : transfers (m.withData data) a = transfers m a := by
  refine congrArg₂ List.append ?_ ?_
  · exact List.flatMap_congr fun l hl =>
      needlessTransfers_eq h (Model.Coherent.mem_links ha hl) a l.targetId
  · refine List.flatMap_congr fun l hl => needlessTransfers_eq h ?_ a l.sourceId
    have hl : l ∈ m.incomingLinks a.id := List.mem_mergeSort.1 hl
    rw [hm.incomingLinks_eq] at hl
    exact List.mem_of_mem_filter hl

theorem unnecessaryDataTransfer_same (hm : m.Coherent) :
    unnecessaryDataTransfer.SameWith m data := by
  rw [ModelRule.SameWith, unnecessaryDataTransfer_findings, unnecessaryDataTransfer_findings]
  exact congrArg Risk.firstPerId <| List.flatMap_congr fun a ha =>
    transfers_eq h hm (mem_values_of_inScope ha)

/-! ## Supply chain -/

theorem accidentalSecretLeak_same : accidentalSecretLeak.SameWith m data :=
  same_map_inScope fun a ha => by rw [secretLeak, secretLeak, h.rating_asset ha]

theorem deployments_eq {a : TechnicalAsset} (ha : a ∈ m.technicalAssets.values) :
    deployments (m.withData data) a = deployments m a := by
  refine List.filter_congr fun l hl => ?_
  have hsent : l.dataSent ⊆ dataInUse m := fun id hid =>
    Model.linkData_subset (Model.Coherent.mem_links ha hl) (List.mem_append_left _ hid)
  rw [shipsCode, shipsCode, h.dataOf hsent]

theorem codeBackdooring_same : codeBackdooring.SameWith m data :=
  same_map_inScope fun a ha => by
    rw [h.rating_asset ha, deploymentReach, deploymentReach, deployments_eq h ha]

theorem containerBaseimageBackdooring_same : containerBaseimageBackdooring.SameWith m data :=
  same_map_inScope fun a ha => by rw [h.rating_asset ha]

theorem missingBuildInfrastructure_same : missingBuildInfrastructure.SameWith m data := by
  refine if_congr Iff.rfl rfl ?_
  exact congrArg (Example.finding · _ _) (List.foldl_ext _ _ _ fun e a ha =>
    consider_eq h e (mem_values_of_inScope (List.mem_of_mem_filter ha)) a)

theorem pushInsteadOfPullDeployment_same : pushInsteadOfPullDeployment.SameWith m data := by
  rw [ModelRule.SameWith, pushInsteadOfPullDeployment_findings, pushInsteadOfPullDeployment_findings]
  refine List.flatMap_congr fun pipeline _ => List.filterMap_congr fun l _ => ?_
  refine Option.map_congr fun target htarget => ?_
  have htarget : m.target? l = some target := (Option.filter_eq_some_iff.1 htarget).1
  rw [pushOver, pushOver, h.rating_asset (Dict.mem_values_of_get? htarget)]

theorem uncheckedDeployment_same : uncheckedDeployment.SameWith m data := by
  refine map_filter_congr (fun _ _ => rfl) fun a ha => ?_
  have hsensitive : ((deployments m a).any fun l =>
        (m.target? l).any fun target => (target.rating (m.withData data)).isHigh) =
      (deployments m a).any fun l => (m.target? l).any fun target => (target.rating m).isHigh := by
    refine any_congr_mem fun l _ => ?_
    cases htarget : m.target? l with
    | none => rfl
    | some target => rw [Option.any_some, Option.any_some,
        h.rating_asset (Dict.mem_values_of_get? htarget)]
  have htargets : (m.withData data).target? = m.target? := rfl
  simp only [deploymentReach, deployments_eq h ha, htargets, hsensitive]

/-! ## Web -/

theorem crossSiteRequestForgery_same (hm : m.Coherent) :
    crossSiteRequestForgery.SameWith m data := by
  refine flatMap_filter_congr (fun _ _ => rfl) fun app _ => map_filter_congr (fun _ _ => rfl) ?_
  intro x hx
  obtain ⟨hcaller, hlink, -⟩ := hm.mem_accesses hx
  rw [h.rating_link (Model.Coherent.mem_links hcaller hlink)]

theorem crossSiteScripting_same : crossSiteScripting.SameWith m data :=
  same_map_inScope fun a ha => by rw [h.rating_asset ha]

theorem missingWaf_same : missingWaf.SameWith m data :=
  same_map_inScope fun a ha => by rw [h.rating_asset ha]

theorem requestForgery_eq {a target : TechnicalAsset} (l : Link)
    (htarget : target ∈ m.technicalAssets.values) :
    requestForgery (m.withData data) a target l = requestForgery m a target l := by
  have hreachable : webNeighbours (m.withData data) a = webNeighbours m a := rfl
  have hsecret : ((webNeighbours m a).any fun x =>
        (x.rating (m.withData data)).confidentiality = .strictlyConfidential) =
      (webNeighbours m a).any fun x => (x.rating m).confidentiality = .strictlyConfidential :=
    any_congr_mem fun x hx => by rw [h.rating_asset (List.mem_of_mem_filter hx)]
  simp only [requestForgery, hreachable, hsecret, h.rating_asset htarget]
  rfl

theorem serverSideRequestForgery_same : serverSideRequestForgery.SameWith m data := by
  refine flatMap_filter_congr (fun _ _ => rfl) fun a _ => List.filterMap_congr fun l _ => ?_
  exact Option.map_congr fun target htarget =>
    requestForgery_eq h l (Dict.mem_values_of_get? htarget)

/-! ## All rules -/

theorem same_of_mem_all (hm : m.Coherent) :
    ∀ rule ∈ all, rule.category.id ≠ "unnecessary-data-asset" → rule.SameWith m data := by
  simp only [all, List.forall_mem_cons, List.not_mem_nil, false_implies, implies_true, and_true]
  exact ⟨fun _ => accidentalSecretLeak_same h, fun _ => codeBackdooring_same h,
    fun _ => containerBaseimageBackdooring_same h, fun _ => containerPlatformEscape_same h,
    fun _ => crossSiteRequestForgery_same h hm, fun _ => crossSiteScripting_same h,
    fun _ => rfl, fun _ => rfl, fun _ => ldapInjection_same h,
    fun _ => missingAuthentication_same h hm, fun _ => missingAuthenticationSecondFactor_same h hm,
    fun _ => missingBuildInfrastructure_same h, fun _ => missingCloudHardening_same h,
    fun _ => missingFileValidation_same h, fun _ => missingHardening_same h, fun _ => rfl,
    fun _ => rfl, fun _ => missingIdentityStore_same h hm, fun _ => rfl,
    fun _ => missingVault_same h, fun _ => rfl, fun _ => missingWaf_same h,
    fun _ => mixedTargetsOnSharedRuntime_same, fun _ => pathTraversal_same h,
    fun _ => pushInsteadOfPullDeployment_same h, fun _ => searchQueryInjection_same h,
    fun _ => serverSideRequestForgery_same h, fun _ => serviceRegistryPoisoning_same h hm,
    fun _ => sqlNosqlInjection_same h, fun _ => uncheckedDeployment_same h,
    fun _ => unencryptedAsset_same h, fun _ => unencryptedCommunication_same h, fun _ => rfl,
    fun _ => rfl, fun _ => rfl, fun hother => absurd rfl hother,
    fun _ => unnecessaryDataTransfer_same h hm, fun _ => rfl,
    fun _ => untrustedDeserialization_same h, fun _ => rfl, fun _ => rfl,
    fun _ => xmlExternalEntity_same h⟩

end

/-! ## The rule about data that is not in use -/

/-- The finding about a data asset. -/
def needlessData (d : DataAsset) : Risk :=
  Category.unnecessaryDataAsset.finding .unlikely .low ("Unnecessary Data Asset named " ++ d.title)
    |>.onData d |>.withBreach .improbable [] |>.identifiedBy [d.id]

theorem mem_unnecessaryDataAsset_iff {r : Risk} : r ∈ unnecessaryDataAsset.findings m ↔
    ∃ d ∈ m.dataAssets.values, d.id ∉ dataInUse m ∧ needlessData d = r := by
  have hfindings : unnecessaryDataAsset.findings m =
    (m.dataAssets.values.filter fun d => !(dataInUse m).contains d.id).map needlessData := rfl
  simp only [hfindings, List.mem_map, List.mem_filter, Bool.not_eq_true', List.contains_eq_mem,
    decide_eq_false_iff_not, and_assoc]

/-- Removing data that is not in use removes the one finding about it. -/
theorem exists_unnecessaryDataAsset_erase (hm : m.Coherent) {d : DataAsset}
    (hd : d ∈ m.dataAssets.values) (hunused : d.id ∉ dataInUse m) :
    ∃ before after, unnecessaryDataAsset.findings m = before ++ needlessData d :: after ∧
      unnecessaryDataAsset.findings (m.withoutData d.id) = before ++ after ∧
      ∀ r ∈ before ++ after, r.dataAsset ≠ some d.id := by
  obtain ⟨before, after, hvalues, herase⟩ :=
    Dict.exists_values_erase (hm.dataAssets.get?_of_mem hd)
  have hids := hm.dataAssets.nodup
  rw [hvalues, List.map_append, List.map_cons, List.nodup_middle, List.nodup_cons,
    ← List.map_append] at hids
  let unused (d : DataAsset) : Bool := !(dataInUse m).contains d.id
  refine ⟨(before.filter unused).map needlessData, (after.filter unused).map needlessData, ?_, ?_,
    fun r hr => ?_⟩
  · show (m.dataAssets.values.filter unused).map needlessData = _
    rw [hvalues, List.filter_append, List.filter_cons_of_pos (by simpa [unused] using hunused),
      List.map_append, List.map_cons]
  · show ((m.dataAssets.erase d.id).values.filter unused).map needlessData = _
    rw [herase, List.filter_append, List.map_append]
  · rw [← List.map_append, ← List.filter_append, List.mem_map] at hr
    obtain ⟨e, he, rfl⟩ := hr
    intro hsame
    have hid : e.id = d.id := Option.some.inj hsame
    exact hids.1 (hid ▸ List.mem_map_of_mem (List.mem_of_mem_filter he))

end BuiltinRule

open BuiltinRule

/-- Nothing but the finding about a data asset goes away with it. -/
structure Dispensable (m : Model) (id : String) (r : Risk) : Prop where
  rules : ∀ rule ∈ all, rule.category.id ≠ "unnecessary-data-asset" →
    rule.findings (m.withoutData id) = rule.findings m
  finding : ∃ before after, unnecessaryDataAsset.findings m = before ++ r :: after ∧
    unnecessaryDataAsset.findings (m.withoutData id) = before ++ after ∧
    ∀ s ∈ before ++ after, s.dataAsset ≠ some id
  assets : ∀ a ∈ m.technicalAssets.values, a.rating (m.withoutData id) = a.rating m
  links : ∀ l ∈ m.links, l.rating (m.withoutData id) = l.rating m
  boundaries : ∀ b ∈ m.trustBoundaries.values, b.rating (m.withoutData id) = b.rating m
  runtimes : ∀ s ∈ m.sharedRuntimes.values, s.rating (m.withoutData id) = s.rating m
  scores : Scores.builtin (m.withoutData id) = Scores.builtin m

/-- In an accepted model only data that no asset holds and no link transfers is reported as
unnecessary, and a model without it is the same to all other rules, to all ratings and to the
scores. -/
theorem unnecessaryData_dispensable {m : Model} (hm : m.Accepted) :
    (∀ r ∈ unnecessaryDataAsset.findings m, ∃ d ∈ m.dataAssets.values,
        r.dataAsset = some d.id ∧ Dispensable m d.id r) ∧
      ∀ a ∈ m.technicalAssets.values, ∀ id,
        (id ∈ a.dataProcessed ∨ id ∈ a.dataStored ∨
          ∃ l ∈ a.links, id ∈ l.dataSent ∨ id ∈ l.dataReceived) →
        ∀ r ∈ unnecessaryDataAsset.findings m, r.dataAsset ≠ some id := by
  refine ⟨fun r hr => ?_, fun a ha id hused r hr hid => ?_⟩
  · obtain ⟨d, hd, hunused, rfl⟩ := mem_unnecessaryDataAsset_iff.1 hr
    have hagrees := Model.agreesInUse_erase hunused
    exact ⟨d, hd, rfl, {
      rules := same_of_mem_all hagrees hm.coherent
      finding := exists_unnecessaryDataAsset_erase hm.coherent hd hunused
      assets := fun a ha => hagrees.rating_asset ha
      links := fun l hl => hagrees.rating_link hl
      boundaries := fun b _ => hagrees.rating_boundary b
      runtimes := fun s _ => hagrees.rating_runtime s
      scores := congrArg (Scores.mk _) hagrees.scores }⟩
  · obtain ⟨d, -, hunused, rfl⟩ := mem_unnecessaryDataAsset_iff.1 hr
    obtain rfl : d.id = id := Option.some.inj hid
    obtain ⟨hprocessed, hstored, hlinks⟩ := Model.not_mem_dataInUse_iff.1 hunused a ha
    rcases hused with hused | hused | ⟨l, hl, hused | hused⟩
    · exact hprocessed hused
    · exact hstored hused
    · exact (hlinks l hl).1 hused
    · exact (hlinks l hl).2 hused

/-- The shop with flyers that nobody uses. -/
def overstockedShop : ModelInput :=
  { Validation.bookshop with
    dataAssets := .ofList [("Flyers",
        { id := "flyers", quantity := "few", confidentiality := "public", integrity := "archive",
          availability := "archive" }),
      ("Orders",
        { id := "orders", quantity := "many", confidentiality := "confidential",
          integrity := "critical", availability := "operational", tags := ["pci"] })] }

theorem overstockedShop_flyers_dispensable :
    ∃ m, Validation.build ⟨2024, 3, 1⟩ overstockedShop = .ok m ∧
      ∃ r ∈ unnecessaryDataAsset.findings m, r.dataAsset = some "flyers" ∧
        Dispensable m "flyers" r := by
  have hchecked : (Validation.build ⟨2024, 3, 1⟩ overstockedShop).toOption.map (fun m =>
      (unnecessaryDataAsset.findings m).map (·.dataAsset)) = some [some "flyers"] := by
    decide +kernel
  obtain ⟨m, hm, hchecked⟩ := Model.exists_of_build hchecked
  obtain ⟨r, hfindings, hid⟩ := List.map_eq_singleton_iff.1 hchecked
  have hr : r ∈ unnecessaryDataAsset.findings m := hfindings ▸ List.mem_singleton_self r
  obtain ⟨d, -, hdata, hdispensable⟩ := (unnecessaryData_dispensable (.of_build hm)).1 r hr
  have hflyers : d.id = "flyers" := Option.some.inj (hdata.symm.trans hid)
  rw [hflyers] at hdispensable
  exact ⟨m, hm, r, hr, hid, hdispensable⟩

end ThreatModel
