import ThreatModel.Proofs.Model.Neighbours
import ThreatModel.Proofs.Rule.Example
import ThreatModel.Proofs.Rule.Finding

/-!
# The built-in rules are sound

Whatever a built-in rule finds in a coherent model belongs to the category of the rule, is as severe
as its likelihood and impact say, refers to elements of the model only, and has an id that joins the
category with the ids of one to three elements (`Risk.Sound`). A finding is made step by step, and so
is its soundness: `Risk.Draft` holds of a new finding and is kept by every step, and naming the
finding completes it. What a rule has to bring along is that the elements it names are there.
-/

namespace ThreatModel

/-- Some element of a model has an id. -/
def Model.HasElement (m : Model) (id : String) : Prop :=
  m.dataAssets.contains id = true ∨ m.technicalAssets.contains id = true ∨
    (m.link? id).isSome = true ∨ m.trustBoundaries.contains id = true ∨
      m.sharedRuntimes.contains id = true

namespace Risk

variable {m : Model} {c : Category} {r : Risk} {a : TechnicalAsset} {l : Link}
  {likelihood : Likelihood} {impact : Impact} {title : String} {probability : BreachProbability}
  {breach ids : List String}

/-- A finding of a category, not named yet, refers to elements of a model only. -/
structure Draft (m : Model) (c : Category) (r : Risk) : Prop where
  category : r.category = c.id
  status : r.status = .unchecked
  severity : r.severity = .of r.likelihood r.impact
  refers : r.Refers m

/-- A finding of a category is named after one to three elements of a model. -/
structure Sound (m : Model) (c : Category) (r : Risk) : Prop extends Draft m c r where
  identified : ∃ ids, r.syntheticId = joinIds c.id ids ∧ ids ≠ [] ∧ ids.length ≤ 3 ∧
    ∀ id ∈ ids, m.HasElement id

/-! ## How findings are made -/

theorem draft_finding : Draft m c (c.finding likelihood impact title) where
  category := rfl
  status := rfl
  severity := rfl
  refers := by constructor <;> simp [Category.finding, Risk.new]

namespace Draft

theorem onAsset (h : Draft m c r) (hm : m.Coherent) (ha : a ∈ m.technicalAssets.values) :
    Draft m c (r.onAsset a) :=
  { h with refers := { h.refers with
      technicalAsset := by simpa [Risk.onAsset] using hm.technicalAssets.contains_of_mem ha } }

theorem onLink (h : Draft m c r) (hm : m.Coherent) (hl : l ∈ m.links) :
    Draft m c (r.onLink l) :=
  { h with refers := { h.refers with
      link := by simp [Risk.onLink, hm.link?_of_mem l hl] } }

theorem onData (h : Draft m c r) (hm : m.Coherent) {d : DataAsset}
    (hd : d ∈ m.dataAssets.values) : Draft m c (r.onData d) :=
  { h with refers := { h.refers with
      dataAsset := by simpa [Risk.onData] using hm.dataAssets.contains_of_mem hd } }

theorem onBoundary (h : Draft m c r) (hm : m.Coherent) {b : TrustBoundary}
    (hb : b ∈ m.trustBoundaries.values) : Draft m c (r.onBoundary b) :=
  { h with refers := { h.refers with
      boundary := by simpa [Risk.onBoundary] using hm.trustBoundaries.contains_of_mem hb } }

theorem onRuntime (h : Draft m c r) (hm : m.Coherent) {s : SharedRuntime}
    (hs : s ∈ m.sharedRuntimes.values) : Draft m c (r.onRuntime s) :=
  { h with refers := { h.refers with
      runtime := by simpa [Risk.onRuntime] using hm.sharedRuntimes.contains_of_mem hs } }

theorem withBreach (h : Draft m c r)
    (hbreach : ∀ id ∈ breach, m.technicalAssets.contains id = true) :
    Draft m c (r.withBreach probability breach) :=
  { h with refers := { h.refers with breachAssets := hbreach } }

theorem identifiedBy (h : Draft m c r) (hids : ∀ id ∈ ids, m.HasElement id)
    (hlength : ids ≠ [] ∧ ids.length ≤ 3) : Sound m c (r.identifiedBy ids) :=
  { h with
    refers := { h.refers with }
    identified := ⟨ids, by rw [Risk.identifiedBy, h.category], hlength.1, hlength.2, hids⟩ }

end Draft

end Risk

/-! ## Elements that findings name -/

namespace Model.Coherent

variable {m : Model} {a : TechnicalAsset} {l : Link}

theorem hasElement_asset (h : m.Coherent) (ha : a ∈ m.technicalAssets.values) :
    m.HasElement a.id := .inr (.inl (h.technicalAssets.contains_of_mem ha))

theorem hasElement_link (h : m.Coherent) (hl : l ∈ m.links) : m.HasElement l.id := by
  refine .inr (.inr (.inl ?_))
  rw [h.link?_of_mem l hl]
  rfl

theorem hasElement_data (h : m.Coherent) {d : DataAsset} (hd : d ∈ m.dataAssets.values) :
    m.HasElement d.id := .inl (h.dataAssets.contains_of_mem hd)

theorem hasElement_boundary (h : m.Coherent) {b : TrustBoundary}
    (hb : b ∈ m.trustBoundaries.values) : m.HasElement b.id :=
  .inr (.inr (.inr (.inl (h.trustBoundaries.contains_of_mem hb))))

theorem hasElement_runtime (h : m.Coherent) {s : SharedRuntime}
    (hs : s ∈ m.sharedRuntimes.values) : m.HasElement s.id :=
  .inr (.inr (.inr (.inr (h.sharedRuntimes.contains_of_mem hs))))

theorem known_self (h : m.Coherent) (ha : a ∈ m.technicalAssets.values) :
    ∀ id ∈ [a.id], m.technicalAssets.contains id = true := by
  simpa using h.technicalAssets.contains_of_mem ha

/-- Elements have ids that are not empty and plain. -/
theorem ne_empty_and_plain (h : m.Coherent) {id : String} (hid : m.HasElement id) :
    id ≠ "" ∧ Risk.Plain id := by
  have hof {s : String} (hs : Validation.IsId s) : s ≠ "" ∧ Risk.Plain s := ⟨hs.1, hs.plain⟩
  rcases hid with hid | hid | hid | hid | hid
  · exact hof (h.dataAssets.isId_of_contains hid)
  · exact hof (h.technicalAssets.isId_of_contains hid)
  · have hmem : id ∈ m.links.map (·.id) := by
      rw [← Model.isSome_link?_reindex, h.index]
      exact hid
    obtain ⟨l, hl, rfl⟩ := List.mem_map.1 hmem
    exact h.plain_link hl
  · exact hof (h.trustBoundaries.isId_of_contains hid)
  · exact hof (h.sharedRuntimes.isId_of_contains hid)

end Model.Coherent

namespace Risk

variable {m : Model} {c : Category} {a : TechnicalAsset} {l : Link} {likelihood : Likelihood}
  {impact : Impact} {title : String} {probability : BreachProbability} {breach ids : List String}

/-- A finding about an asset as a whole. -/
theorem Sound.atAsset (hm : m.Coherent) (ha : a ∈ m.technicalAssets.values)
    (hbreach : ∀ id ∈ breach, m.technicalAssets.contains id = true) :
    Sound m c (c.finding likelihood impact title |>.onAsset a |>.withBreach probability breach
      |>.identifiedBy [a.id]) :=
  ((draft_finding.onAsset hm ha).withBreach hbreach).identifiedBy
    (by simpa using hm.hasElement_asset ha) (by simp)

/-- A finding about an asset at a link. -/
theorem Sound.atLink (hm : m.Coherent) (ha : a ∈ m.technicalAssets.values) (hl : l ∈ m.links)
    (hbreach : ∀ id ∈ breach, m.technicalAssets.contains id = true)
    (hids : ∀ id ∈ ids, m.HasElement id) (hlength : ids ≠ [] ∧ ids.length ≤ 3) :
    Sound m c (c.finding likelihood impact title |>.onAsset a |>.onLink l
      |>.withBreach probability breach |>.identifiedBy ids) :=
  (((draft_finding.onAsset hm ha).onLink hm hl).withBreach hbreach).identifiedBy hids hlength

/-- A finding about an access to an asset, which names no more than the ends and the link. -/
theorem Sound.atAccess (hm : m.Coherent) {about : TechnicalAsset} {x : Access}
    (habout : about ∈ m.technicalAssets.values) (ha : a ∈ m.technicalAssets.values)
    (hx : x ∈ m.accesses a.id) (hbreach : ∀ id ∈ breach, m.technicalAssets.contains id = true)
    (hids : ∀ id ∈ ids, id ∈ [a.id, x.caller.id, x.link.id, x.link.sourceId])
    (hlength : ids ≠ [] ∧ ids.length ≤ 3) :
    Sound m c (c.finding likelihood impact title |>.onAsset about |>.onLink x.link
      |>.withBreach probability breach |>.identifiedBy ids) := by
  obtain ⟨hcaller, hl, -⟩ := hm.mem_accesses hx
  have hlink := Model.Coherent.mem_links hcaller hl
  have hends : ∀ id ∈ [a.id, x.caller.id, x.link.id, x.link.sourceId], m.HasElement id := by
    rw [hm.link_source x.caller hcaller x.link hl]
    simp [hm.hasElement_asset ha, hm.hasElement_asset hcaller, hm.hasElement_link hlink]
  exact .atLink hm habout hlink hbreach (fun id hid => hends id (hids id hid)) hlength

end Risk

/-- Everything that a rule finds in a model is sound. -/
def ModelRule.Sound (rule : ModelRule) (m : Model) : Prop :=
  ∀ r ∈ rule.findings m, r.Sound m rule.category

namespace BuiltinRule

variable {m : Model}

/-- A rule that finds something about each in-scope asset with a property. -/
theorem sound_map_inScope {c : Category} {p : TechnicalAsset → Bool} {f : TechnicalAsset → Risk}
    (h : ∀ a ∈ m.technicalAssets.values, (f a).Sound m c) :
    ∀ r ∈ (m.inScope.filter p).map f, r.Sound m c :=
  List.forall_mem_map.2 fun a ha => h a (mem_values_of_inScope (List.mem_of_mem_filter ha))

/-- A rule that finds something about accesses to assets. -/
theorem sound_accesses {c : Category} {assets : List TechnicalAsset}
    {p : TechnicalAsset → Access → Bool} {f : TechnicalAsset → Access → Risk}
    (hassets : ∀ a ∈ assets, a ∈ m.technicalAssets.values)
    (h : ∀ a ∈ m.technicalAssets.values, ∀ x ∈ m.accesses a.id, (f a x).Sound m c) :
    ∀ r ∈ assets.flatMap fun a => ((m.accesses a.id).filter (p a)).map (f a), r.Sound m c := by
  intro r hr
  obtain ⟨a, ha, hr⟩ := List.mem_flatMap.1 hr
  obtain ⟨x, hx, rfl⟩ := List.mem_map.1 hr
  exact h a (hassets a ha) x (List.mem_of_mem_filter hx)

/-- A rule that may find something about links of assets. -/
theorem sound_links {c : Category} {assets : List TechnicalAsset} {links : TechnicalAsset → List Link}
    {f : TechnicalAsset → Link → Option Risk}
    (hassets : ∀ a ∈ assets, a ∈ m.technicalAssets.values) (hlinks : ∀ a, links a ⊆ a.links)
    (h : ∀ a ∈ m.technicalAssets.values, ∀ l ∈ a.links, ∀ r, f a l = some r → r.Sound m c) :
    ∀ r ∈ assets.flatMap fun a => (links a).filterMap (f a), r.Sound m c := by
  intro r hr
  obtain ⟨a, ha, hr⟩ := List.mem_flatMap.1 hr
  obtain ⟨l, hl, hr⟩ := List.mem_filterMap.1 hr
  exact h a (hassets a ha) l (hlinks a hl) r hr

/-- A rule that names one asset as an example. -/
theorem sound_example (hm : m.Coherent) {e : Example} {c : Category} {what : String}
    (he : e.Among m.technicalAssets.values) : ∀ r ∈ e.finding c what, r.Sound m c := by
  intro r hr
  obtain ⟨a, ha, rfl⟩ := Option.map_eq_some_iff.1 (Option.mem_toList.1 hr)
  exact .atAsset hm (he a ha) (by simp)

theorem mem_values_of_filter_inScope {p : TechnicalAsset → Bool} :
    ∀ a ∈ m.inScope.filter p, a ∈ m.technicalAssets.values :=
  fun _ ha => mem_values_of_inScope (List.mem_of_mem_filter ha)

theorem mem_values_of_filter {p : TechnicalAsset → Bool} :
    ∀ a ∈ m.technicalAssets.values.filter p, a ∈ m.technicalAssets.values :=
  fun _ ha => List.mem_of_mem_filter ha

/-! ## Access -/

theorem dosRiskyAccessAcrossTrustBoundary_sound (hm : m.Coherent) :
    dosRiskyAccessAcrossTrustBoundary.Sound m := by
  intro r hr
  obtain ⟨a, ha, hr⟩ := List.mem_flatMap.1 hr
  have ha := mem_values_of_filter_inScope a ha
  obtain ⟨x, hx, hr⟩ := List.mem_flatMap.1 hr
  -- An access that was forwarded leads to the forwarder and not to the asset itself.
  have hsound {id : String} {y : Access} (hy : y ∈ m.accesses id) (forwarder : Option String) :
      (overload a y forwarder).Sound m .dosRiskyAccessAcrossTrustBoundary := by
    obtain ⟨hcaller, hl, -⟩ := hm.mem_accesses hy
    have hl := Model.Coherent.mem_links hcaller hl
    refine .atLink hm ha hl (by simp) ?_ (by simp)
    simp [hm.hasElement_asset ha, hm.hasElement_asset hcaller, hm.hasElement_link hl]
  split at hr
  · obtain ⟨y, hy, rfl⟩ := List.mem_map.1 hr
    exact hsound (List.mem_of_mem_filter hy) _
  · split at hr
    · rw [List.mem_singleton] at hr
      exact hr ▸ hsound hx none
    · cases hr

theorem mem_accessesById {x : Access} {assetId : String} :
    x ∈ accessesById m assetId ↔ x ∈ m.accesses assetId := List.mem_mergeSort

theorem unguardedAccessFromInternet_sound (hm : m.Coherent) :
    unguardedAccessFromInternet.Sound m := by
  intro r hr
  obtain ⟨a, ha, hr⟩ := List.mem_flatMap.1 hr
  obtain ⟨x, hx, rfl⟩ := List.mem_map.1 hr
  have ha := mem_values_of_filter_inScope a ha
  have hx := mem_accessesById.1 (List.mem_of_mem_filter hx)
  exact .atAccess hm ha ha hx (hm.known_self ha) (by simp) (by simp)

theorem unguardedDirectDatastoreAccess_sound (hm : m.Coherent) :
    unguardedDirectDatastoreAccess.Sound m :=
  sound_accesses mem_values_of_filter_inScope fun _ ha _ hx =>
    .atAccess hm ha ha hx (hm.known_self ha) (by simp) (by simp)

/-! ## Cloud hardening -/

theorem sound_ofRuntime (hm : m.Coherent) {s : SharedRuntime} (hs : s ∈ m.sharedRuntimes.values)
    (guide : Option HardeningGuide) :
    (CloudHardening.ofRuntime m guide s).Sound m .missingCloudHardening :=
  ((Risk.draft_finding.onRuntime hm hs).withBreach (hm.running s hs)).identifiedBy
    (by simpa using hm.hasElement_runtime hs) (by simp)

theorem sound_ofBoundary (hm : m.Coherent) {b : TrustBoundary} (hb : b ∈ m.trustBoundaries.values)
    (guide : Option HardeningGuide) :
    (CloudHardening.ofBoundary m guide b).Sound m .missingCloudHardening :=
  ((Risk.draft_finding.onBoundary hm hb).withBreach (hm.contains_of_mem_assetsWithin hb)).identifiedBy
    (by simpa using hm.hasElement_boundary hb) (by simp)

theorem mem_values_of_example? {guide : HardeningGuide} {a : TechnicalAsset}
    (ha : CloudHardening.example? m guide = some a) : a ∈ m.technicalAssets.values := by
  rw [CloudHardening.example?] at ha
  split at ha
  · exact CloudHardening.mem_values_of_mem_lookup (Example.mem_of_mostSensitive ha)
  · cases ha

theorem missingCloudHardening_sound (hm : m.Coherent) : missingCloudHardening.Sound m := by
  intro r hr
  have hr : r ∈ CloudHardening.candidates m :=
    List.mem_of_find?_eq_some (Risk.mem_firstPerId_iff.1 hr)
  simp only [CloudHardening.candidates, List.mem_append, List.mem_flatMap, List.mem_map,
    List.mem_filterMap, Option.map_eq_some_iff] at hr
  rcases hr with (((⟨_, -, s, hs, rfl⟩ | ⟨_, -, b, hb, rfl⟩) | ⟨b, hb, rfl⟩) |
    ⟨_, -, a, ha, rfl⟩) | ⟨a, ha, _, -, rfl⟩
  · exact sound_ofRuntime hm (CloudHardening.mem_values_of_mem_lookup hs) _
  · exact sound_ofBoundary hm (CloudHardening.mem_values_of_mem_lookup hb) _
  · exact sound_ofBoundary hm (CloudHardening.mem_values_of_mem_lookup hb) _
  · have ha := mem_values_of_example? ha
    exact .atAsset hm ha (hm.known_self ha)
  · have ha := CloudHardening.mem_values_of_mem_lookup ha
    exact .atAsset hm ha (hm.known_self ha)

/-! ## Content -/

theorem missingFileValidation_sound (hm : m.Coherent) : missingFileValidation.Sound m :=
  sound_map_inScope fun _ ha => .atAsset hm ha (hm.known_self ha)

theorem xmlExternalEntity_sound (hm : m.Coherent) : xmlExternalEntity.Sound m :=
  sound_map_inScope fun _ ha => .atAsset hm ha (hm.known_self ha)

theorem untrustedDeserialization_sound (hm : m.Coherent) : untrustedDeserialization.Sound m :=
  sound_map_inScope fun _ ha => .atAsset hm ha (hm.known_self ha)

/-! ## Encryption -/

theorem unencryptedAsset_sound (hm : m.Coherent) : unencryptedAsset.Sound m := by
  intro r hr
  obtain ⟨a, ha, hr⟩ := List.mem_filterMap.1 hr
  obtain ⟨impact, -, rfl⟩ := Option.map_eq_some_iff.1 hr
  have ha := mem_values_of_filter_inScope a ha
  exact .atAsset hm ha (hm.known_self ha)

theorem unencryptedCommunication_sound (hm : m.Coherent) : unencryptedCommunication.Sound m := by
  rw [ModelRule.Sound, unencryptedCommunication_findings]
  refine sound_links (fun _ => mem_values_of_inScope) (fun _ => List.filter_sublist.subset) ?_
  intro a ha l hl r hr
  obtain ⟨target, htarget, hr⟩ := Option.bind_eq_some_iff.1 hr
  obtain ⟨impact, -, rfl⟩ := Option.map_eq_some_iff.1 hr
  have htarget := (hm.target_spec (Option.filter_eq_some_iff.1 htarget).1).1
  have hl := Model.Coherent.mem_links ha hl
  refine .atLink hm ha hl (hm.known_self htarget) ?_ (by simp)
  simp [hm.hasElement_asset ha, hm.hasElement_asset htarget, hm.hasElement_link hl]

/-! ## Hardening -/

theorem containerPlatformEscape_sound (hm : m.Coherent) : containerPlatformEscape.Sound m := by
  refine sound_map_inScope fun a ha => .atAsset hm ha fun id hid => ?_
  obtain ⟨b, hb, rfl⟩ := List.mem_map.1 hid
  exact hm.technicalAssets.contains_of_mem (List.mem_of_mem_filter hb)

theorem missingHardening_sound (hm : m.Coherent) : missingHardening.Sound m :=
  sound_map_inScope fun _ ha => .atAsset hm ha (hm.known_self ha)

theorem missingVault_sound (hm : m.Coherent) : missingVault.Sound m := by
  intro r hr
  simp only [missingVault] at hr
  split at hr
  · cases hr
  · refine sound_example hm ?_ r hr
    intro a ha
    exact Example.mem_of_mostSensitive ha

theorem serviceRegistryPoisoning_sound (hm : m.Coherent) : serviceRegistryPoisoning.Sound m :=
  sound_map_inScope fun _ ha => .atAsset hm ha (hm.known_self ha)

/-! ## Identity -/

/-- An access that came through a forwarder is reported at the link of the forwarder. -/
theorem sound_authenticationFinding (hm : m.Coherent) {c : Category} {factor : String}
    {likelihood : Likelihood} {impact : Impact} {a : TechnicalAsset} {x : Access} {origin : Link}
    {forwarder : Option String} (ha : a ∈ m.technicalAssets.values) (hx : x ∈ m.accesses a.id) :
    (authenticationFinding m c factor likelihood impact a x.link origin forwarder).Sound m c :=
  .atAccess hm ha ha hx (hm.known_self ha) (by simp) (by simp)

theorem missingAuthentication_sound (hm : m.Coherent) : missingAuthentication.Sound m :=
  sound_accesses mem_values_of_filter_inScope fun _ ha _ hx => sound_authenticationFinding hm ha hx

theorem missingAuthenticationSecondFactor_sound (hm : m.Coherent) :
    missingAuthenticationSecondFactor.Sound m := by
  intro r hr
  have hr := List.mem_of_find?_eq_some (Risk.mem_firstPerId_iff.1 hr)
  obtain ⟨a, ha, hr⟩ := List.mem_flatMap.1 hr
  obtain ⟨x, hx, hr⟩ := List.mem_flatMap.1 hr
  have hsound {origin : Link} {forwarder : Option String} :
      (secondFactorFinding m a x.link origin forwarder).Sound m .missingAuthenticationSecondFactor :=
    sound_authenticationFinding hm (mem_values_of_filter_inScope a ha) (List.mem_of_mem_filter hx)
  split at hr
  · split at hr
    · exact List.mem_singleton.1 hr ▸ hsound
    · cases hr
  · split at hr
    · obtain ⟨y, -, rfl⟩ := List.mem_map.1 hr
      exact hsound
    · cases hr

theorem missingIdentityPropagation_sound (hm : m.Coherent) : missingIdentityPropagation.Sound m :=
  sound_accesses mem_values_of_filter_inScope fun _ ha _ hx =>
    .atAccess hm ha ha hx (hm.known_self ha) (by simp) (by simp)

theorem mem_values_of_identityTargets (hm : m.Coherent) {p : TechnicalAsset × TechnicalAsset}
    (hp : p ∈ identityTargets m) :
    p.1 ∈ m.technicalAssets.values ∧ p.2 ∈ m.technicalAssets.values := by
  obtain ⟨a, ha, hp⟩ := List.mem_flatMap.1 hp
  obtain ⟨l, -, hp⟩ := List.mem_filterMap.1 hp
  obtain ⟨target, htarget, rfl⟩ := Option.map_eq_some_iff.1 hp
  exact ⟨(hm.target_spec htarget).1, ha⟩

theorem missingIdentityStore_sound (hm : m.Coherent) : missingIdentityStore.Sound m := by
  intro r hr
  simp only [missingIdentityStore] at hr
  split at hr
  · cases hr
  · refine sound_example hm ?_ r hr
    refine Example.among_foldl ?_
    intro e he p hp
    obtain ⟨hcandidate, hrival⟩ := mem_values_of_identityTargets hm hp
    exact he.consider hcandidate hrival

/-! ## Injection -/

theorem injections_sound (hm : m.Coherent) {c : Category} {what against : String}
    {services : List TechnicalAsset} {impact : TechnicalAsset → Impact}
    {likelihood : Link → Likelihood} {carries : TechnicalAsset → Link → Bool}
    (hservices : ∀ a ∈ services, a ∈ m.technicalAssets.values) :
    ∀ r ∈ services.flatMap fun service =>
      injections m c what against service (impact service) likelihood (carries service),
      r.Sound m c :=
  sound_accesses hservices fun _ ha _ hx =>
    .atAccess hm (hm.mem_accesses hx).1 ha hx (hm.known_self ha) (by simp) (by simp)

theorem ldapInjection_sound (hm : m.Coherent) : ldapInjection.Sound m :=
  injections_sound hm fun _ ha => ha

theorem pathTraversal_sound (hm : m.Coherent) : pathTraversal.Sound m :=
  injections_sound hm mem_values_of_filter

theorem searchQueryInjection_sound (hm : m.Coherent) : searchQueryInjection.Sound m :=
  injections_sound hm mem_values_of_filter

theorem sqlNosqlInjection_sound (hm : m.Coherent) : sqlNosqlInjection.Sound m :=
  injections_sound hm fun _ ha => ha

/-! ## Isolation -/

theorem isolation_sound (hm : m.Coherent) {c : Category} {what kind : String}
    {p : TechnicalAsset → Bool} {unrelated : TechnicalAsset → TechnicalAsset → Bool}
    {impact : TechnicalAsset → Impact} :
    ∀ r ∈ (m.inScope.filter p).filterMap fun a => (Closeness.ofOthers m a (unrelated a)).map
      (isolationFinding c what kind (impact a) a), r.Sound m c := by
  intro r hr
  obtain ⟨a, ha, hr⟩ := List.mem_filterMap.1 hr
  obtain ⟨closeness, -, rfl⟩ := Option.map_eq_some_iff.1 hr
  have ha := mem_values_of_filter_inScope a ha
  exact .atAsset hm ha (hm.known_self ha)

theorem missingIdentityProviderIsolation_sound (hm : m.Coherent) :
    missingIdentityProviderIsolation.Sound m := isolation_sound hm

theorem missingVaultIsolation_sound (hm : m.Coherent) : missingVaultIsolation.Sound m :=
  isolation_sound hm

theorem missingNetworkSegmentation_sound (hm : m.Coherent) : missingNetworkSegmentation.Sound m :=
  sound_map_inScope fun _ ha => .atAsset hm ha (hm.known_self ha)

theorem mixedTargetsOnSharedRuntime_sound (hm : m.Coherent) :
    mixedTargetsOnSharedRuntime.Sound m := by
  intro r hr
  obtain ⟨s, hs, rfl⟩ := List.mem_map.1 hr
  have hs := List.mem_of_mem_filter hs
  exact ((Risk.draft_finding.onRuntime hm hs).withBreach (hm.running s hs)).identifiedBy
    (by simpa using hm.hasElement_runtime hs) (by simp)

/-! ## Necessity -/

theorem unnecessaryCommunicationLink_sound (hm : m.Coherent) :
    unnecessaryCommunicationLink.Sound m := by
  intro r hr
  obtain ⟨a, ha, hr⟩ := List.mem_flatMap.1 hr
  obtain ⟨l, hl, rfl⟩ := List.mem_map.1 hr
  have hl := Model.Coherent.mem_links ha (List.mem_of_mem_filter hl)
  refine .atLink hm ha hl (hm.known_self ha) ?_ (by simp)
  simp [hm.hasElement_asset ha, hm.hasElement_link hl]

theorem unnecessaryDataAsset_sound (hm : m.Coherent) : unnecessaryDataAsset.Sound m := by
  intro r hr
  obtain ⟨d, hd, rfl⟩ := List.mem_map.1 hr
  have hd := List.mem_of_mem_filter hd
  exact ((Risk.draft_finding.onData hm hd).withBreach (by simp)).identifiedBy
    (by simpa using hm.hasElement_data hd) (by simp)

theorem unnecessaryDataTransfer_sound (hm : m.Coherent) : unnecessaryDataTransfer.Sound m := by
  intro r hr
  rw [unnecessaryDataTransfer_findings, Risk.mem_firstPerId_iff] at hr
  obtain ⟨a, ha, hr⟩ := List.mem_flatMap.1 (List.mem_of_find?_eq_some hr)
  have ha := mem_values_of_inScope ha
  obtain ⟨partner, d, hpartner, hd, rfl⟩ := mem_transfers hr
  refine (((Risk.draft_finding.onAsset hm ha).onData hm hd).withBreach
    (hm.known_self ha)).identifiedBy ?_ (by simp)
  simp [hm.hasElement_asset ha, hm.hasElement_asset hpartner, hm.hasElement_data hd]

theorem unnecessaryTechnicalAsset_sound (hm : m.Coherent) : unnecessaryTechnicalAsset.Sound m :=
  List.forall_mem_map.2 fun a ha =>
    have ha := mem_values_of_filter a ha
    .atAsset hm ha (hm.known_self ha)

/-! ## Plausibility -/

theorem incompleteModel_sound (hm : m.Coherent) : incompleteModel.Sound m := by
  intro r hr
  obtain ⟨a, ha, hr⟩ := List.mem_flatMap.1 hr
  have ha := mem_values_of_inScope ha
  have hunknown {title : String} : Risk.Draft m .incompleteModel (unknown a title) :=
    (Risk.draft_finding.onAsset hm ha).withBreach (hm.known_self ha)
  rcases List.mem_append.1 hr with hr | hr
  · split at hr
    · rw [List.mem_singleton] at hr
      exact hr ▸ hunknown.identifiedBy (by simpa using hm.hasElement_asset ha) (by simp)
    · cases hr
  · obtain ⟨l, hl, rfl⟩ := List.mem_map.1 hr
    have hl := Model.Coherent.mem_links ha (List.mem_of_mem_filter hl)
    refine (hunknown.onLink hm hl).identifiedBy ?_ (by simp)
    simp [hm.hasElement_asset ha, hm.hasElement_link hl]

theorem wrongCommunicationLinkContent_sound (hm : m.Coherent) :
    wrongCommunicationLinkContent.Sound m := by
  rw [ModelRule.Sound, wrongCommunicationLinkContent_findings]
  refine sound_links (fun _ ha => ha) (fun _ => List.Subset.refl _) ?_
  intro a ha l hl r hr
  obtain ⟨remarks, -, rfl⟩ := Option.map_eq_some_iff.1 hr
  have hl := Model.Coherent.mem_links ha hl
  refine .atLink hm ha hl (by simp) ?_ (by simp)
  simp [hm.hasElement_asset ha, hm.hasElement_link hl]

theorem wrongTrustBoundaryContent_sound (hm : m.Coherent) : wrongTrustBoundaryContent.Sound m := by
  intro r hr
  obtain ⟨b, hb, hr⟩ := List.mem_flatMap.1 hr
  obtain ⟨a, ha, rfl⟩ := List.mem_map.1 hr
  obtain ⟨id, -, ha⟩ := List.mem_filterMap.1 (List.mem_of_mem_filter ha)
  have ha := Dict.mem_values_of_get? ha
  exact .atAsset hm ha (hm.known_self ha)

/-! ## Supply chain -/

theorem accidentalSecretLeak_sound (hm : m.Coherent) : accidentalSecretLeak.Sound m :=
  sound_map_inScope fun _ ha => .atAsset hm ha (hm.known_self ha)

/-- Code can only be deployed to assets that are there. -/
theorem contains_of_mem_deploymentReach (hm : m.Coherent) {a : TechnicalAsset}
    (ha : a ∈ m.technicalAssets.values) :
    ∀ id ∈ deploymentReach m a, m.technicalAssets.contains id = true := by
  intro id hid
  rcases List.mem_cons.1 (mem_sortedUnique.1 hid) with rfl | hid
  · exact hm.technicalAssets.contains_of_mem ha
  · obtain ⟨l, hl, rfl⟩ := List.mem_map.1 hid
    exact hm.targets l (Model.Coherent.mem_links ha (List.mem_of_mem_filter hl))

theorem codeBackdooring_sound (hm : m.Coherent) : codeBackdooring.Sound m :=
  sound_map_inScope fun _ ha => .atAsset hm ha (contains_of_mem_deploymentReach hm ha)

theorem containerBaseimageBackdooring_sound (hm : m.Coherent) :
    containerBaseimageBackdooring.Sound m :=
  sound_map_inScope fun _ ha => .atAsset hm ha (hm.known_self ha)

theorem missingBuildInfrastructure_sound (hm : m.Coherent) : missingBuildInfrastructure.Sound m := by
  intro r hr
  simp only [missingBuildInfrastructure] at hr
  split at hr
  · cases hr
  · refine sound_example hm ?_ r hr
    refine Example.among_foldl ?_
    intro e he a ha
    have ha := mem_values_of_filter_inScope a ha
    exact he.consider ha ha

theorem pushInsteadOfPullDeployment_sound (hm : m.Coherent) :
    pushInsteadOfPullDeployment.Sound m := by
  rw [ModelRule.Sound, pushInsteadOfPullDeployment_findings]
  refine sound_links mem_values_of_filter (fun _ => List.Subset.refl _) ?_
  intro pipeline hpipeline l hl r hr
  obtain ⟨target, htarget, rfl⟩ := Option.map_eq_some_iff.1 hr
  have htarget := (hm.target_spec (Option.filter_eq_some_iff.1 htarget).1).1
  refine .atLink hm htarget (Model.Coherent.mem_links hpipeline hl) (hm.known_self htarget) ?_
    (by simp)
  simp [hm.hasElement_asset hpipeline, hm.hasElement_asset htarget]

theorem uncheckedDeployment_sound (hm : m.Coherent) : uncheckedDeployment.Sound m :=
  List.forall_mem_map.2 fun a ha =>
    have ha := mem_values_of_filter a ha
    .atAsset hm ha (contains_of_mem_deploymentReach hm ha)

/-! ## Web access -/

theorem crossSiteRequestForgery_sound (hm : m.Coherent) : crossSiteRequestForgery.Sound m :=
  sound_accesses mem_values_of_filter_inScope fun _ ha _ hx =>
    .atAccess hm ha ha hx (hm.known_self ha) (by simp) (by simp)

theorem crossSiteScripting_sound (hm : m.Coherent) : crossSiteScripting.Sound m :=
  sound_map_inScope fun _ ha => .atAsset hm ha (hm.known_self ha)

theorem missingWaf_sound (hm : m.Coherent) : missingWaf.Sound m :=
  sound_map_inScope fun _ ha => .atAsset hm ha (hm.known_self ha)

theorem serverSideRequestForgery_sound (hm : m.Coherent) : serverSideRequestForgery.Sound m := by
  refine sound_links mem_values_of_filter_inScope (fun _ => List.filter_sublist.subset) ?_
  intro a ha l hl r hr
  obtain ⟨target, htarget, rfl⟩ := Option.map_eq_some_iff.1 hr
  have htarget := (hm.target_spec htarget).1
  have hl := Model.Coherent.mem_links ha hl
  refine .atLink hm ha hl ?_ ?_ (by simp)
  · intro id hid
    rcases List.mem_cons.1 (mem_sortedUnique.1 hid) with rfl | hid
    · exact hm.technicalAssets.contains_of_mem ha
    · obtain ⟨b, hb, rfl⟩ := List.mem_map.1 hid
      exact hm.technicalAssets.contains_of_mem (List.mem_of_mem_filter hb)
  · simp [hm.hasElement_asset ha, hm.hasElement_asset htarget, hm.hasElement_link hl]

/-! ## All rules -/

theorem sound_of_mem_all (hm : m.Coherent) : ∀ rule ∈ all, rule.Sound m := by
  simp only [all, List.forall_mem_cons, List.not_mem_nil, false_implies, implies_true, and_true]
  exact ⟨accidentalSecretLeak_sound hm, codeBackdooring_sound hm,
    containerBaseimageBackdooring_sound hm, containerPlatformEscape_sound hm,
    crossSiteRequestForgery_sound hm, crossSiteScripting_sound hm,
    dosRiskyAccessAcrossTrustBoundary_sound hm, incompleteModel_sound hm, ldapInjection_sound hm,
    missingAuthentication_sound hm, missingAuthenticationSecondFactor_sound hm,
    missingBuildInfrastructure_sound hm, missingCloudHardening_sound hm,
    missingFileValidation_sound hm, missingHardening_sound hm, missingIdentityPropagation_sound hm,
    missingIdentityProviderIsolation_sound hm, missingIdentityStore_sound hm,
    missingNetworkSegmentation_sound hm, missingVault_sound hm, missingVaultIsolation_sound hm,
    missingWaf_sound hm, mixedTargetsOnSharedRuntime_sound hm, pathTraversal_sound hm,
    pushInsteadOfPullDeployment_sound hm, searchQueryInjection_sound hm,
    serverSideRequestForgery_sound hm, serviceRegistryPoisoning_sound hm, sqlNosqlInjection_sound hm,
    uncheckedDeployment_sound hm, unencryptedAsset_sound hm, unencryptedCommunication_sound hm,
    unguardedAccessFromInternet_sound hm, unguardedDirectDatastoreAccess_sound hm,
    unnecessaryCommunicationLink_sound hm, unnecessaryDataAsset_sound hm,
    unnecessaryDataTransfer_sound hm, unnecessaryTechnicalAsset_sound hm,
    untrustedDeserialization_sound hm, wrongCommunicationLinkContent_sound hm,
    wrongTrustBoundaryContent_sound hm, xmlExternalEntity_sound hm⟩

theorem plain_category : ∀ rule ∈ all, Risk.Plain rule.category.id := by decide +kernel

end BuiltinRule

/-- Splitting the id of a sound finding gives its category and the elements that it is named after. -/
theorem Risk.Sound.segments {m : Model} {c : Category} {r : Risk} (h : r.Sound m c)
    (hm : m.Coherent) (hc : Risk.Plain c.id) :
    ∃ ids, Risk.segments r.syntheticId = c.id :: ids ∧ 1 ≤ ids.length ∧ ids.length ≤ 3 ∧
      ∀ id ∈ ids, id ≠ "" ∧ m.HasElement id := by
  obtain ⟨ids, hid, hne, hlength, helements⟩ := h.identified
  refine ⟨ids, ?_, List.length_pos_iff.2 hne, hlength, fun id hid => ?_⟩
  · rw [hid]
    exact segments_joinIds hc fun id hid => (hm.ne_empty_and_plain (helements id hid)).2
  · exact ⟨(hm.ne_empty_and_plain (helements id hid)).1, helements id hid⟩

/-- On every accepted model each of the built-in rules succeeds. What it finds belongs to its category,
is as severe as likelihood and impact say, has not been looked at, refers to elements of the model
only, and is named after one to three of them. -/
theorem builtin_findings_sound {m : Model} (hm : m.Accepted) :
    BuiltinRule.all.length = 42 ∧
    ∀ rule ∈ BuiltinRule.all, ∀ c : AnalysisContext, c.model = m →
      ∃ risks, (Rule.ofModelRule rule).findings c = .ok risks ∧
        ∀ r ∈ risks, r.category = rule.category.id ∧ r.severity = .of r.likelihood r.impact ∧
          r.status = .unchecked ∧ r.Refers m ∧
          ∃ ids, Risk.segments r.syntheticId = rule.category.id :: ids ∧ 1 ≤ ids.length ∧
            ids.length ≤ 3 ∧ ∀ id ∈ ids, id ≠ "" ∧ m.HasElement id := by
  refine ⟨rfl, fun rule hrule c hc => ⟨rule.findings m, by rw [← hc]; rfl, fun r hr => ?_⟩⟩
  have hsound := BuiltinRule.sound_of_mem_all hm.coherent rule hrule r hr
  exact ⟨hsound.category, hsound.severity, hsound.status, hsound.refers,
    hsound.segments hm.coherent (BuiltinRule.plain_category rule hrule)⟩

/-- The shop may be attacked with injected queries to its store. -/
theorem bookshop_findings_sound :
    ∃ m, Validation.build ⟨2024, 3, 1⟩ Validation.bookshop = .ok m ∧
      ∃ risks, (Rule.ofModelRule BuiltinRule.sqlNosqlInjection).findings { model := m } = .ok risks ∧
        risks ≠ [] ∧
        ∀ r ∈ risks, r.category = BuiltinRule.sqlNosqlInjection.category.id ∧
          r.severity = .of r.likelihood r.impact ∧ r.status = .unchecked ∧ r.Refers m ∧
          ∃ ids, Risk.segments r.syntheticId = BuiltinRule.sqlNosqlInjection.category.id :: ids ∧
            1 ≤ ids.length ∧ ids.length ≤ 3 ∧ ∀ id ∈ ids, id ≠ "" ∧ m.HasElement id := by
  have hfound : (Validation.build ⟨2024, 3, 1⟩ Validation.bookshop).toOption.map
      (fun m => (BuiltinRule.sqlNosqlInjection.findings m).isEmpty) = some false := by decide +kernel
  obtain ⟨m, hm, hfound⟩ := Model.exists_of_build hfound
  obtain ⟨risks, hrisks, hsound⟩ := (builtin_findings_sound (.of_build hm)).2
    BuiltinRule.sqlNosqlInjection (by simp [BuiltinRule.all]) { model := m } rfl
  refine ⟨m, hm, risks, hrisks, ?_, hsound⟩
  have heq : BuiltinRule.sqlNosqlInjection.findings m = risks := Except.ok.inj hrisks
  simpa [heq] using hfound

end ThreatModel
