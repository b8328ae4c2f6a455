import ThreatModel.Proofs.Model.Accepted
import ThreatModel.Proofs.Model.Neighbours
import ThreatModel.Proofs.Rule.Example
import ThreatModel.Proofs.Rule.Finding

/-!
# What lacks hardening in a cloud

The rule about cloud hardening sorts elements into providers, hands the tags of boundaries and runtimes
on to the assets in them, and drops what was found before. What it flags can be said without all that
(`CloudHardening.Flagged`). The sets of ids that elements go through leave them as they are
(`lookup_filter`), a supported tag belongs to a provider (`exists_isOf`), and tags that are handed on
only ever count for providers that a boundary or a runtime stands for anyway.
-/

namespace ThreatModel

namespace CloudHardening

variable {α : Type} {m : Model} {p : HardeningGuide} {a : TechnicalAsset} {tags : List String}

/-! ## Tags -/

/-- A supported tag belongs to a provider. -/
theorem exists_isOf (h : isSupported tags = true) : ∃ p ∈ providers, isOf p tags = true := by
  -- Tags are compared folded, so what holds of a listed tag holds of each way to write it.
  have hbase : ∀ c ∈ supportedTags, ∃ p ∈ providers, taggedWithBase [c] p.tag = true := by
    decide +kernel
  obtain ⟨t, ht, hc⟩ := List.any_eq_true.1 h
  obtain ⟨c, hc, hsame⟩ := List.any_eq_true.1 hc
  obtain ⟨p, hp, hbased⟩ := hbase c hc
  refine ⟨p, hp, ?_⟩
  rw [isOf, h, Bool.true_and, taggedWithBase, List.any_eq_true]
  refine ⟨t, ht, ?_⟩
  rw [decide_eq_true_eq] at hsame
  rwa [taggedWithBase, List.any_cons, List.any_nil, Bool.or_false, hsame] at hbased

/-! ## Elements -/

/-- Elements are found again, in their order. -/
theorem lookup_filter {id : α → String} {d : Dict α} (h : d.KeyedBy id) (q : α → Bool) :
    lookup d ((d.values.filter q).map id) = d.values.filter q := by
  rw [lookup, sortedUnique_of_pairwise (h.pairwise_filter q)]
  exact h.filterMap_get?_map fun v hv => List.mem_of_mem_filter hv

theorem runtimesOf_eq (hm : m.Coherent) (p : HardeningGuide) :
    runtimesOf m p = m.sharedRuntimes.values.filter (isOf p ·.tags) :=
  lookup_filter hm.sharedRuntimes _

theorem boundariesOf_eq (hm : m.Coherent) (p : HardeningGuide) :
    boundariesOf m p = m.trustBoundaries.values.filter (isOf p ·.tags) :=
  lookup_filter hm.trustBoundaries _

theorem serviceAssets_eq (hm : m.Coherent) :
    serviceAssets m = m.technicalAssets.values.filter (taggedWithAny ·.tags serviceTags) :=
  lookup_filter hm.technicalAssets _

/-- A boundary without a supported tag is never one of a provider. -/
theorem unspecificBoundaries_eq (hm : m.Coherent) : unspecificBoundaries m =
    m.trustBoundaries.values.filter fun b => !isSupported b.tags && b.kind.isWithinCloud := by
  rw [unspecificBoundaries, List.filter_eq_self.2]
  · exact lookup_filter hm.trustBoundaries _
  · intro id hid
    obtain ⟨b, hb, rfl⟩ := List.mem_map.1 hid
    obtain ⟨hb, hunspecific⟩ := List.mem_filter.1 hb
    rw [Bool.and_eq_true, Bool.not_eq_true'] at hunspecific
    -- A boundary with the same id is the same one, so it would have a supported tag.
    have hspecific : b.id ∉ providers.flatMap (boundaryIds m) := by
      intro hmem
      obtain ⟨p, -, hid⟩ := List.mem_flatMap.1 hmem
      obtain ⟨c, hc, hid⟩ := List.mem_map.1 hid
      obtain ⟨hc, hof⟩ := List.mem_filter.1 hc
      rw [List.inj_on_of_nodup_map hm.trustBoundaries.nodup hc hb hid, isOf, hunspecific.1] at hof
      cases hof
    simpa using hspecific

/-! ## Representatives -/

/-- No runtime and no boundary stands for a provider. -/
structure Unclaimed (m : Model) (p : HardeningGuide) : Prop where
  runtimes : ∀ r ∈ m.sharedRuntimes.values, ¬(isSupported r.tags ∧ taggedWithBase r.tags p.tag)
  boundaries : ∀ b ∈ m.trustBoundaries.values, ¬(isSupported b.tags ∧ taggedWithBase b.tags p.tag)

/-- An asset is the most sensitive one of those with supported tags and the base tag of a provider, and
of these the one with the lowest id. -/
structure Represents (m : Model) (p : HardeningGuide) (a : TechnicalAsset) : Prop where
  known : a ∈ m.technicalAssets.values
  supported : isSupported a.tags
  provider : taggedWithBase a.tags p.tag
  most : ∀ b ∈ m.technicalAssets.values, isSupported b.tags → taggedWithBase b.tags p.tag →
    b.sensitivity < a.sensitivity ∨ b.sensitivity = a.sensitivity ∧ a.id ≤ b.id

theorem represents_iff (hm : m.Coherent) :
    Represents m p a ↔ Example.StandsOut a (m.technicalAssets.values.filter (isOf p ·.tags)) := by
  rw [Example.standsOut_iff (hm.technicalAssets.pairwise_filter _)]
  simp only [List.mem_filter, isOf, Bool.and_eq_true]
  constructor
  · rintro ⟨hknown, hsupported, hprovider, hmost⟩
    exact ⟨⟨hknown, hsupported, hprovider⟩, fun b ⟨hb, hs, hp⟩ => hmost b hb hs hp⟩
  · rintro ⟨⟨hknown, hsupported, hprovider⟩, hmost⟩
    exact ⟨hknown, hsupported, hprovider, fun b hb hs hp => hmost b ⟨hb, hs, hp⟩⟩

theorem unclaimed_iff : Unclaimed m p ↔
    m.sharedRuntimes.values.filter (isOf p ·.tags) = [] ∧
      m.trustBoundaries.values.filter (isOf p ·.tags) = [] := by
  simp only [List.filter_eq_nil_iff, isOf, Bool.and_eq_true]
  exact ⟨fun ⟨hr, hb⟩ => ⟨hr, hb⟩, fun ⟨hr, hb⟩ => ⟨hr, hb⟩⟩

/-- The assets of a provider that nothing stands for are the ones with its own tags. -/
theorem assetsOf_eq (hm : m.Coherent) (h : Unclaimed m p) :
    assetsOf m p = m.technicalAssets.values.filter (isOf p ·.tags) := by
  obtain ⟨hruntimes, hboundaries⟩ := unclaimed_iff.1 h
  rw [assetsOf, hruntimes, hboundaries, List.flatMap_nil, List.flatMap_nil, List.append_nil,
    List.append_nil]
  exact lookup_filter hm.technicalAssets _

theorem example?_eq_some_iff (hm : m.Coherent) :
    example? m p = some a ↔ Unclaimed m p ∧ Represents m p a := by
  rw [example?, runtimesOf_eq hm, boundariesOf_eq hm, Option.ite_none_right_eq_some,
    Bool.and_eq_true, List.isEmpty_iff, List.isEmpty_iff, ← unclaimed_iff]
  refine and_congr_right fun h => ?_
  rw [assetsOf_eq hm h, Example.mostSensitive_eq_some_iff, represents_iff hm]

/-! ## Findings -/

/-- What lacks hardening in a cloud: runtimes with supported tags, boundaries with supported tags or in
a cloud, an asset for each provider that no runtime and no boundary stands for, and services that carry
or inherit a tag which has a guide of its own. -/
inductive Flagged (m : Model) : String → Prop
  | runtime {r : SharedRuntime} (known : r ∈ m.sharedRuntimes.values)
      (supported : isSupported r.tags) : Flagged m r.id
  | boundary {b : TrustBoundary} (known : b ∈ m.trustBoundaries.values)
      (cloud : isSupported b.tags ∨ b.kind.isWithinCloud) : Flagged m b.id
  | representative {p : HardeningGuide} {a : TechnicalAsset} (known : p ∈ providers)
      (unclaimed : Unclaimed m p) (represents : Represents m p a) : Flagged m a.id
  | service {a : TechnicalAsset} {tag : String} (known : a ∈ m.technicalAssets.values)
      (own : taggedWithAny a.tags serviceTags) (guided : tag ∈ ["aws:ec2", "aws:s3"])
      (inherits : a.inheritsAny m [tag]) : Flagged m a.id

/-- A finding before repeated ones are dropped, with what it is about. -/
theorem mem_candidates_iff (hm : m.Coherent) {f : Risk} : f ∈ candidates m ↔
    (∃ p ∈ providers, ∃ r ∈ m.sharedRuntimes.values, isOf p r.tags = true ∧
      ofRuntime m (some p) r = f) ∨
    (∃ p ∈ providers, ∃ b ∈ m.trustBoundaries.values, isOf p b.tags = true ∧
      ofBoundary m (some p) b = f) ∨
    (∃ b ∈ m.trustBoundaries.values, isSupported b.tags = false ∧ b.kind.isWithinCloud = true ∧
      ofBoundary m none b = f) ∨
    (∃ p ∈ providers, ∃ a, (Unclaimed m p ∧ Represents m p a) ∧ ofAsset m p a = f) ∨
    ∃ a ∈ m.technicalAssets.values, taggedWithAny a.tags serviceTags = true ∧
      ∃ s ∈ services, a.inheritsAny m [s.tag] = true ∧ ofAsset m s a = f := by
  simp only [candidates, runtimesOf_eq hm, boundariesOf_eq hm, unspecificBoundaries_eq hm,
    serviceAssets_eq hm, ← example?_eq_some_iff hm, List.mem_append, List.mem_flatMap,
    List.mem_filterMap, List.mem_map, List.mem_filter, Option.map_eq_some_iff, Bool.and_eq_true,
    Bool.not_eq_true', or_assoc, and_assoc]

theorem flagged_of_mem_candidates (hm : m.Coherent) {f : Risk} (hf : f ∈ candidates m) :
    ∃ x, Flagged m x ∧ f.syntheticId = "missing-cloud-hardening@" ++ x := by
  have supported {p : HardeningGuide} {tags : List String} (h : isOf p tags = true) : isSupported tags :=
    (Bool.and_eq_true_iff.1 h).1
  rcases (mem_candidates_iff hm).1 hf with ⟨p, -, r, hr, hof, rfl⟩ | ⟨p, -, b, hb, hof, rfl⟩ |
    ⟨b, hb, -, hcloud, rfl⟩ | ⟨p, hp, a, ⟨hunclaimed, ha⟩, rfl⟩ | ⟨a, ha, hown, s, hs, hinherits, rfl⟩
  · exact ⟨r.id, .runtime hr (supported hof), rfl⟩
  · exact ⟨b.id, .boundary hb (.inl (supported hof)), rfl⟩
  · exact ⟨b.id, .boundary hb (.inr hcloud), rfl⟩
  · exact ⟨a.id, .representative hp hunclaimed ha, rfl⟩
  · exact ⟨a.id, .service ha hown (List.mem_map_of_mem (f := HardeningGuide.tag) hs) hinherits, rfl⟩

theorem exists_candidate (hm : m.Coherent) {x : String} (hx : Flagged m x) :
    ∃ f ∈ candidates m, f.syntheticId = "missing-cloud-hardening@" ++ x := by
  simp only [mem_candidates_iff hm]
  cases hx with
  | @runtime r hr hsupported =>
    obtain ⟨p, hp, hof⟩ := exists_isOf hsupported
    exact ⟨_, .inl ⟨p, hp, r, hr, hof, rfl⟩, rfl⟩
  | @boundary b hb hcloud =>
    cases hsupported : isSupported b.tags with
    | true =>
      obtain ⟨p, hp, hof⟩ := exists_isOf hsupported
      exact ⟨_, .inr (.inl ⟨p, hp, b, hb, hof, rfl⟩), rfl⟩
    | false =>
      have hkind : b.kind.isWithinCloud = true :=
        hcloud.resolve_left (ne_true_of_eq_false hsupported)
      exact ⟨_, .inr (.inr (.inl ⟨b, hb, hsupported, hkind, rfl⟩)), rfl⟩
  | @representative p a hp hunclaimed ha =>
    exact ⟨_, .inr (.inr (.inr (.inl ⟨p, hp, a, ⟨hunclaimed, ha⟩, rfl⟩))), rfl⟩
  | @service a tag ha hown hguided hinherits =>
    obtain ⟨s, hs, rfl⟩ : ∃ s ∈ services, s.tag = tag := List.mem_map.1 hguided
    exact ⟨_, .inr (.inr (.inr (.inr ⟨a, ha, hown, s, hs, hinherits, rfl⟩))), rfl⟩

theorem mem_map_candidates (hm : m.Coherent) {id : String} :
    id ∈ (candidates m).map (·.syntheticId) ↔
      ∃ x, Flagged m x ∧ id = "missing-cloud-hardening@" ++ x := by
  rw [List.mem_map]
  constructor
  · rintro ⟨f, hf, rfl⟩
    exact flagged_of_mem_candidates hm hf
  · rintro ⟨x, hx, rfl⟩
    exact exists_candidate hm hx

end CloudHardening

namespace BuiltinRule

open CloudHardening

/-- The rule flags exactly what lacks hardening in a cloud, each element once. -/
theorem missingCloudHardening_flags {m : Model} (h : m.Accepted) :
    ((missingCloudHardening.findings m).map (·.syntheticId)).Nodup ∧
      ∀ id, id ∈ (missingCloudHardening.findings m).map (·.syntheticId) ↔
        ∃ x, Flagged m x ∧ id = "missing-cloud-hardening@" ++ x :=
  ⟨Risk.nodup_firstPerId _, fun _ => Risk.mem_map_firstPerId.trans (mem_map_candidates h.coherent)⟩

/-- A shop on several clouds: a host of one provider, a zone of no particular one, and two assets that
name a provider for which there is nothing else. -/
def multiCloudShop : ModelInput :=
  let asset (id confidentiality : String) (tags : List String) : TechnicalAssetInput :=
    { id := id, kind := "process", usage := "business", size := "service"
      technology := "web-service-rest", machine := "virtual", encryption := "none"
      confidentiality := confidentiality, integrity := "operational", availability := "operational"
      tags := tags }
  { title := "Multi-cloud shop"
    businessCriticality := "important"
    tagsAvailable := ["aws", "aws:s3", "aws:lambda", "azure"]
    technicalAssets := .ofList [
      ("Backup", asset "backup" "internal" ["azure"]), ("Bucket", asset "bucket" "internal" ["aws:s3"]),
      ("Mailer", asset "mailer" "internal" ["aws:lambda"]),
      ("Orders", asset "orders" "restricted" ["azure"])]
    trustBoundaries := .ofList [
      ("Zone", { id := "zone", kind := "network-cloud-provider", assetsInside := ["orders"] })]
    sharedRuntimes := .ofList [
      ("Host", { id := "host", tags := ["aws"], assetsRunning := ["mailer"] })] }

/-- Of the assets only the bucket, which has a guide of its own, and the more sensitive one of the two
that stand for a provider are flagged. -/
theorem multiCloudShop_flagged :
    ∃ m, Validation.build ⟨2024, 3, 1⟩ multiCloudShop = .ok m ∧
      ∀ x, Flagged m x ↔ x ∈ ["host", "zone", "orders", "bucket"] := by
  have hchecked : (Validation.build ⟨2024, 3, 1⟩ multiCloudShop).toOption.map (fun m =>
      (missingCloudHardening.findings m).map (·.syntheticId)) =
        some (["host", "zone", "orders", "bucket"].map ("missing-cloud-hardening@" ++ ·)) := by
    decide +kernel
  obtain ⟨m, hm, hchecked⟩ := Model.exists_of_build hchecked
  obtain ⟨-, hflagged⟩ := missingCloudHardening_flags (.of_build hm)
  refine ⟨m, hm, fun x => ?_⟩
  have hx := hflagged ("missing-cloud-hardening@" ++ x)
  rw [hchecked, List.mem_map] at hx
  simp only [String.append_right_inj] at hx
  simpa using hx.symm

end BuiltinRule

end ThreatModel
