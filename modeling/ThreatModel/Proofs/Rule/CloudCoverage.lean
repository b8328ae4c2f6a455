import ThreatModel.Proofs.Rule.CloudFindings

/-!
# Which guides for cloud hardening are named

Of the findings about cloud hardening some are dropped (`Kept` are the others): a boundary with the id
of a runtime is passed over, and so is the guide of a provider that is only named where another one comes
first. The guides that are left are those of `Named` providers, for a title tells which provider is meant
(`namedIn_titleOf_iff`). In an `Unambiguous` model nothing is passed over.
-/

namespace ThreatModel

namespace CloudHardening

variable {m : Model} {p : HardeningGuide} {a : TechnicalAsset} {x : String}

/-! ## Guides in titles -/

/-- How the title of a finding begins. -/
def heading (guide : Option HardeningGuide) : String :=
  "Missing Cloud Hardening" ++ (guide.map fun g => " (" ++ g.label ++ ")").getD "" ++ " risk at "

/-- The title of a finding about an element. -/
def titleOf (element : String) (guide : Option HardeningGuide) : String :=
  heading guide ++ element ++ (guide.map fun g => ": " ++ g.title).getD ""

theorem title_ofRuntime (m : Model) (guide : Option HardeningGuide) (r : SharedRuntime) :
    (ofRuntime m guide r).title = titleOf r.title guide := rfl

theorem title_ofBoundary (m : Model) (guide : Option HardeningGuide) (b : TrustBoundary) :
    (ofBoundary m guide b).title = titleOf b.title guide := rfl

theorem title_ofAsset (m : Model) (guide : HardeningGuide) (a : TechnicalAsset) :
    (ofAsset m guide a).title = titleOf a.title (some guide) := rfl

/-- A title names a provider and its guide. -/
def NamedIn (title : String) (p : HardeningGuide) : Prop :=
  ∃ element, title =
    "Missing Cloud Hardening" ++ (" (" ++ p.label ++ ")") ++ " risk at " ++ element ++ (": " ++ p.title)

theorem namedIn_iff {title : String} : NamedIn title p ↔ ∃ element, title = titleOf element (some p) :=
  Iff.rfl

/-- No heading is the beginning of the heading for another provider. -/
theorem heading_prefix : ∀ p ∈ providers, ∀ guide ∈ none :: (providers ++ services).map some,
    (heading guide).toList <+: (heading (some p)).toList ∨
      (heading (some p)).toList <+: (heading guide).toList → guide = some p := by
  decide +kernel

theorem namedIn_titleOf_iff (hp : p ∈ providers) {guide : Option HardeningGuide}
    (hguide : guide ∈ none :: (providers ++ services).map some) (element : String) :
    NamedIn (titleOf element guide) p ↔ guide = some p := by
  rw [namedIn_iff]
  constructor
  · rintro ⟨other, h⟩
    have hlist := congrArg String.toList h
    rw [titleOf, titleOf, String.append_assoc, String.append_assoc, String.toList_append,
      String.toList_append (s := heading (some p))] at hlist
    exact heading_prefix p hp guide hguide
      (List.prefix_or_prefix_of_prefix (List.prefix_append ..) ⟨_, hlist.symm⟩)
  · rintro rfl
    exact ⟨element, rfl⟩

/-- A provider that is named: a runtime or a boundary is kept for it, or else an asset. -/
inductive Named (m : Model) (p : HardeningGuide) : Prop
  | runtime {r : SharedRuntime} (known : r ∈ m.sharedRuntimes.values)
      (first : IsFirst providers (isOf · r.tags) p)
  | boundary {b : TrustBoundary} (known : b ∈ m.trustBoundaries.values)
      (runtimes : RuntimeFree m b.id) (first : IsFirst providers (isOf · b.tags) p)
  | representative {a : TechnicalAsset} (runtimes : RuntimeFree m a.id)
      (boundaries : BoundaryFree m a.id)
      (first : IsFirst providers (fun q => Unclaimed m q ∧ Represents m q a) p)

theorem exists_namedIn_iff (hm : m.Coherent) (hp : p ∈ providers) :
    (∃ f ∈ BuiltinRule.missingCloudHardening.findings m, NamedIn f.title p) ↔ Named m p := by
  have hprovider {q : HardeningGuide} (hq : q ∈ providers) :
      some q ∈ none :: (providers ++ services).map some :=
    List.mem_cons_of_mem _ (List.mem_map_of_mem (List.mem_append_left _ hq))
  simp only [mem_findings_iff hm]
  constructor
  · rintro ⟨f, hf, hnamed⟩
    cases hf with
    | runtime hr hq =>
      rw [title_ofRuntime, namedIn_titleOf_iff hp (hprovider hq.mem), Option.some.injEq] at hnamed
      exact .runtime hr (hnamed ▸ hq)
    | boundary hb hruntimes hq =>
      rw [title_ofBoundary, namedIn_titleOf_iff hp (hprovider hq.mem), Option.some.injEq] at hnamed
      exact .boundary hb hruntimes (hnamed ▸ hq)
    | unspecific =>
      rw [title_ofBoundary, namedIn_titleOf_iff hp List.mem_cons_self] at hnamed
      cases hnamed
    | representative hruntimes hboundaries hq =>
      rw [title_ofAsset, namedIn_titleOf_iff hp (hprovider hq.mem), Option.some.injEq] at hnamed
      exact .representative hruntimes hboundaries (hnamed ▸ hq)
    | service ha hruntimes hboundaries hothers hown hs =>
      have hguide := List.mem_cons_of_mem none
        (List.mem_map_of_mem (f := some) (List.mem_append_right providers hs.mem))
      rw [title_ofAsset, namedIn_titleOf_iff hp hguide, Option.some.injEq] at hnamed
      have hservices : ∀ s ∈ services, s ∉ providers := by decide +kernel
      exact absurd (hnamed ▸ hp) (hservices _ hs.mem)
  · intro h
    cases h with
    | runtime hr hq => exact ⟨_, .runtime hr hq, (namedIn_titleOf_iff hp (hprovider hp) _).2 rfl⟩
    | boundary hb hruntimes hq =>
      exact ⟨_, .boundary hb hruntimes hq, (namedIn_titleOf_iff hp (hprovider hp) _).2 rfl⟩
    | representative hruntimes hboundaries hq =>
      exact ⟨_, .representative hruntimes hboundaries hq,
        (namedIn_titleOf_iff hp (hprovider hp) _).2 rfl⟩

/-! ## Elements that are reported -/

theorem exists_runtime (hm : m.Coherent) {r : SharedRuntime} (hr : r ∈ m.sharedRuntimes.values)
    (hsupported : isSupported r.tags) :
    ∃ f ∈ BuiltinRule.missingCloudHardening.findings m, f.runtime = some r.id := by
  obtain ⟨p, hp⟩ := exists_isFirst (exists_isOf hsupported)
  exact ⟨_, (mem_findings_iff hm).2 (.runtime hr hp), rfl⟩

theorem exists_boundary_iff (hm : m.Coherent) {b : TrustBoundary}
    (hb : b ∈ m.trustBoundaries.values) (hcloud : isSupported b.tags ∨ b.kind.isWithinCloud) :
    (∃ f ∈ BuiltinRule.missingCloudHardening.findings m, f.boundary = some b.id) ↔
      RuntimeFree m b.id := by
  simp only [mem_findings_iff hm]
  constructor
  · rintro ⟨f, hf, hid⟩
    cases hf with
    | runtime | representative | service => cases hid
    | boundary hc hruntimes | unspecific hc hruntimes => exact Option.some.inj hid ▸ hruntimes
  · intro hruntimes
    cases hsupported : isSupported b.tags with
    | true =>
      obtain ⟨p, hp⟩ := exists_isFirst (exists_isOf hsupported)
      exact ⟨_, .boundary hb hruntimes hp, rfl⟩
    | false =>
      have hkind : b.kind.isWithinCloud = true :=
        hcloud.resolve_left (ne_true_of_eq_false hsupported)
      exact ⟨_, .unspecific hb hruntimes hsupported hkind, rfl⟩

/-! ## Models without ambiguity -/

/-- The tags of what may be in a cloud. -/
def componentTags (m : Model) : List (List String) :=
  m.technicalAssets.values.map (·.tags) ++ m.trustBoundaries.values.map (·.tags) ++
    m.sharedRuntimes.values.map (·.tags)

/-- What may be in a cloud has distinct ids, and nothing names two providers. -/
structure Unambiguous (m : Model) : Prop where
  ids : (m.technicalAssets.values.map (·.id) ++ m.trustBoundaries.values.map (·.id) ++
    m.sharedRuntimes.values.map (·.id)).Nodup
  single : ∀ tags ∈ componentTags m, ∀ p ∈ providers, ∀ q ∈ providers,
    isOf p tags → isOf q tags → p = q

theorem isOf_of_mem {tags : List String} {t : String} (ht : t ∈ tags) (h : isOf p [t]) :
    isOf p tags := by
  rw [isOf, Bool.and_eq_true] at h ⊢
  refine ⟨List.any_eq_true.2 ⟨t, ht, ?_⟩, List.any_eq_true.2 ⟨t, ht, ?_⟩⟩
  · simpa [isSupported, taggedWithAny] using h.1
  · simpa [taggedWithBase] using h.2

theorem Represents.isOf (h : Represents m p a) : isOf p a.tags := by
  rw [CloudHardening.isOf, Bool.and_eq_true]
  exact ⟨h.supported, h.provider⟩

theorem exists_represents (hm : m.Coherent) (ha : a ∈ m.technicalAssets.values)
    (hof : isOf p a.tags) : ∃ b, Represents m p b := by
  simp only [represents_iff hm, ← Example.mostSensitive_eq_some_iff, ← Option.isSome_iff_exists]
  refine Option.isSome_iff_ne_none.2 fun hnone => ?_
  exact List.filter_eq_nil_iff.1 (Example.mostSensitive_eq_none hnone) a ha hof

namespace Unambiguous

theorem runtimeFree (h : Unambiguous m)
    (hx : x ∈ m.technicalAssets.values.map (·.id) ++ m.trustBoundaries.values.map (·.id)) :
    RuntimeFree m x := by
  intro r hr _ heq
  exact (List.nodup_append.1 h.ids).2.2 x hx r.id (List.mem_map_of_mem hr) heq.symm

theorem boundaryFree (h : Unambiguous m) (ha : a ∈ m.technicalAssets.values) :
    BoundaryFree m a.id := by
  intro b hb _ heq
  exact (List.nodup_append.1 (List.nodup_append.1 h.ids).1).2.2 a.id (List.mem_map_of_mem ha) b.id
    (List.mem_map_of_mem hb) heq.symm

theorem isFirst (h : Unambiguous m) (hp : p ∈ providers) {tags : List String}
    (htags : tags ∈ componentTags m) {P : HardeningGuide → Prop} (hP : P p)
    (himp : ∀ q, P q → isOf q tags) : IsFirst providers P p := by
  obtain ⟨q, hq⟩ := exists_isFirst ⟨p, hp, hP⟩
  rwa [h.single tags htags p hp q hq.mem (himp p hP) (himp q hq.holds)]

theorem named (h : Unambiguous m) (hm : m.Coherent) (hp : p ∈ providers)
    (htags : ∃ tags ∈ componentTags m, ∃ t ∈ tags, isOf p [t]) : Named m p := by
  obtain ⟨tags, htags, t, ht, hof⟩ := htags
  have hof := isOf_of_mem ht hof
  have hassets {a : TechnicalAsset} (ha : a ∈ m.technicalAssets.values) :
      a.tags ∈ componentTags m :=
    List.mem_append_left _ (List.mem_append_left _ (List.mem_map_of_mem ha))
  by_cases hruntime : ∃ r ∈ m.sharedRuntimes.values, isOf p r.tags
  · obtain ⟨r, hr, hof⟩ := hruntime
    have htags : r.tags ∈ componentTags m := List.mem_append_right _ (List.mem_map_of_mem hr)
    exact .runtime hr (h.isFirst hp htags hof fun _ => id)
  by_cases hboundary : ∃ b ∈ m.trustBoundaries.values, isOf p b.tags
  · obtain ⟨b, hb, hof⟩ := hboundary
    have htags : b.tags ∈ componentTags m :=
      List.mem_append_left _ (List.mem_append_right _ (List.mem_map_of_mem hb))
    exact .boundary hb (h.runtimeFree (List.mem_append_right _ (List.mem_map_of_mem hb)))
      (h.isFirst hp htags hof fun _ => id)
  -- Nothing but assets name the provider, and one of them stands for it.
  have hunclaimed : Unclaimed m p :=
    ⟨fun r hr hof => hruntime ⟨r, hr, Bool.and_eq_true_iff.2 hof⟩,
      fun b hb hof => hboundary ⟨b, hb, Bool.and_eq_true_iff.2 hof⟩⟩
  obtain ⟨a, ha, rfl⟩ : ∃ a ∈ m.technicalAssets.values, a.tags = tags := by
    simp only [componentTags, List.mem_append, List.mem_map] at htags
    rcases htags with (hasset | ⟨b, hb, rfl⟩) | ⟨r, hr, rfl⟩
    · exact hasset
    · exact absurd ⟨b, hb, hof⟩ hboundary
    · exact absurd ⟨r, hr, hof⟩ hruntime
  obtain ⟨b, hb⟩ := exists_represents hm ha hof
  exact .representative (h.runtimeFree (List.mem_append_left _ (List.mem_map_of_mem hb.known)))
    (h.boundaryFree hb.known)
    (h.isFirst hp (hassets hb.known) ⟨hunclaimed, hb⟩ fun _ hq => hq.2.isOf)

end Unambiguous

end CloudHardening

namespace BuiltinRule

open CloudHardening

/-- All runtimes with supported tags are reported. Boundaries with supported tags or in a cloud are
reported unless a runtime with supported tags has the same id, and the guides of providers are named
unless something else comes first. If no two elements share an id and none names two providers, nothing
is missed. -/
theorem missingCloudHardening_covers {m : Model} (h : m.Accepted) :
    (∀ r ∈ m.sharedRuntimes.values, isSupported r.tags →
      ∃ f ∈ missingCloudHardening.findings m, f.runtime = some r.id) ∧
    (∀ b ∈ m.trustBoundaries.values, isSupported b.tags ∨ b.kind.isWithinCloud →
      ((∃ f ∈ missingCloudHardening.findings m, f.boundary = some b.id) ↔ RuntimeFree m b.id)) ∧
    (∀ p ∈ providers,
      (∃ f ∈ missingCloudHardening.findings m, NamedIn f.title p) ↔ Named m p) ∧
    (Unambiguous m →
      (∀ b ∈ m.trustBoundaries.values, isSupported b.tags ∨ b.kind.isWithinCloud →
        ∃ f ∈ missingCloudHardening.findings m, f.boundary = some b.id) ∧
      ∀ p ∈ providers, (∃ tags ∈ componentTags m, ∃ t ∈ tags, isOf p [t]) →
        ∃ f ∈ missingCloudHardening.findings m, NamedIn f.title p) := by
  have hm := h.coherent
  refine ⟨fun r hr => exists_runtime hm hr, fun b hb => exists_boundary_iff hm hb,
    fun p hp => exists_namedIn_iff hm hp, fun hclear => ⟨fun b hb hcloud => ?_, fun p hp htags => ?_⟩⟩
  · exact (exists_boundary_iff hm hb hcloud).2
      (hclear.runtimeFree (List.mem_append_right _ (List.mem_map_of_mem hb)))
  · exact (exists_namedIn_iff hm hp).2 (hclear.named hm hp htags)

/-- Nothing in the shop shares an id or names two providers, so its zone is reported and both of its
providers are named. -/
theorem multiCloudShop_covered :
    ∃ m, Validation.build ⟨2024, 3, 1⟩ multiCloudShop = .ok m ∧ Unambiguous m ∧
      (∃ f ∈ missingCloudHardening.findings m, f.boundary = some "zone") ∧
      ∀ p ∈ providers, p.tag ∈ ["aws", "azure"] →
        ∃ f ∈ missingCloudHardening.findings m, NamedIn f.title p := by
  have hchecked : (Validation.build ⟨2024, 3, 1⟩ multiCloudShop).toOption.map (fun m => decide (
      (m.technicalAssets.values.map (·.id) ++ m.trustBoundaries.values.map (·.id) ++
        m.sharedRuntimes.values.map (·.id)).Nodup ∧
      (∀ tags ∈ componentTags m, ∀ p ∈ providers, ∀ q ∈ providers,
        isOf p tags → isOf q tags → p = q) ∧
      (∃ b ∈ m.trustBoundaries.values, b.id = "zone" ∧ b.kind.isWithinCloud) ∧
      ∀ p ∈ providers, p.tag ∈ ["aws", "azure"] →
        ∃ tags ∈ componentTags m, ∃ t ∈ tags, isOf p [t])) = some true := by
    decide +kernel
  obtain ⟨m, hm, hchecked⟩ := Model.exists_of_build hchecked
  obtain ⟨hids, hsingle, ⟨b, hb, hid, hcloud⟩, hcarried⟩ := of_decide_eq_true hchecked
  have hclear : Unambiguous m := ⟨hids, hsingle⟩
  obtain ⟨-, -, -, hcovers⟩ := missingCloudHardening_covers (.of_build hm)
  obtain ⟨hboundaries, hnamed⟩ := hcovers hclear
  refine ⟨m, hm, hclear, ?_, fun p hp htag => hnamed p hp (hcarried p hp htag)⟩
  rw [← hid]
  exact hboundaries b hb (.inr hcloud)

/-- A host for two providers, in a network of a third one that has the same id. -/
def crowdedEdge : ModelInput where
  title := "Crowded edge"
  businessCriticality := "important"
  tagsAvailable := ["aws", "azure", "gcp"]
  trustBoundaries := .ofList [
    ("Edge network", { id := "edge", kind := "network-cloud-provider", tags := ["gcp"] })]
  sharedRuntimes := .ofList [("Edge host", { id := "edge", tags := ["aws", "azure"] })]

/-- The network is not reported, and of the three providers only the first one is named. -/
theorem crowdedEdge_passed_over :
    ∃ m, Validation.build ⟨2024, 3, 1⟩ crowdedEdge = .ok m ∧
      (∃ b ∈ m.trustBoundaries.values, isSupported b.tags ∧
        ∀ f ∈ missingCloudHardening.findings m, f.boundary ≠ some b.id) ∧
      ∀ p ∈ providers, p.tag ∈ ["azure", "gcp"] →
        (∃ tags ∈ componentTags m, ∃ t ∈ tags, isOf p [t]) ∧
        ∀ f ∈ missingCloudHardening.findings m, ¬p.title.toList <:+: f.title.toList :=
  Model.exists_of_build_decide (by decide +kernel)

end BuiltinRule

end ThreatModel
