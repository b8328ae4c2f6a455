import ThreatModel.Proofs.Rule.CloudHardening

/-!
# Findings about cloud hardening

The rule about cloud hardening makes a finding for each provider that an element names, but keeps one
finding per id, and the id says neither which provider nor which kind of element is meant. What is kept
follows from the order in which the findings are made: runtimes come before boundaries, these before
assets that stand for a provider and these before services, and guides have an order, too (`IsFirst`).
Each of these parts is treated alone, with the ids that it takes; `mem_findings_iff` puts them together.
-/

namespace ThreatModel

namespace CloudHardening

variable {m : Model} {p : HardeningGuide} {a : TechnicalAsset} {f : Risk} {x : String}

/-! ## First guides -/

/-- A guide is the first one of some guides with a property. -/
def IsFirst (guides : List HardeningGuide) (P : HardeningGuide → Prop) (p : HardeningGuide) : Prop :=
  ∃ before after, guides = before ++ p :: after ∧ P p ∧ ∀ q ∈ before, ¬P q

section

variable {guides : List HardeningGuide} {P : HardeningGuide → Prop}

theorem isFirst_iff [DecidablePred P] : IsFirst guides P p ↔ guides.find? (P ·) = some p := by
  rw [List.find?_eq_some_iff_append]
  simp only [decide_eq_true_eq, Bool.not_eq_true', decide_eq_false_iff_not]
  constructor
  · rintro ⟨before, after, hsplit, hP, hbefore⟩
    exact ⟨hP, before, after, hsplit, hbefore⟩
  · rintro ⟨hP, before, after, hsplit, hbefore⟩
    exact ⟨before, after, hsplit, hP, hbefore⟩

theorem exists_isFirst (h : ∃ p ∈ guides, P p) : ∃ p, IsFirst guides P p := by
  classical
  simp only [isFirst_iff, ← Option.isSome_iff_exists, List.find?_isSome, decide_eq_true_eq]
  exact h

theorem IsFirst.mem (h : IsFirst guides P p) : p ∈ guides := by
  obtain ⟨before, after, rfl, -⟩ := h
  exact List.mem_append_right _ List.mem_cons_self

theorem IsFirst.holds (h : IsFirst guides P p) : P p := by
  obtain ⟨-, -, -, hP, -⟩ := h
  exact hP

end

/-! ## Ids -/

theorem syntheticId_ofBoundary (m : Model) (guide : Option HardeningGuide) (b : TrustBoundary) :
    (ofBoundary m guide b).syntheticId = "missing-cloud-hardening@" ++ b.id := rfl

theorem syntheticId_ofAsset (m : Model) (guide : HardeningGuide) (a : TechnicalAsset) :
    (ofAsset m guide a).syntheticId = "missing-cloud-hardening@" ++ a.id := rfl

/-! ## Elements of providers -/

section Elements

variable {α : Type} {d : Dict α} {id : α → String} {tags : α → List String} {v : α}
  {g : HardeningGuide → α → Risk} {about : α → Risk}

/-- Findings about different elements are all kept. -/
theorem mem_firstPerId_filter (h : d.KeyedBy id) (q : α → Bool)
    (habout : ∀ v, (about v).syntheticId = "missing-cloud-hardening@" ++ id v) :
    f ∈ Risk.firstPerId ((d.values.filter q).map about) ↔ f ∈ (d.values.filter q).map about := by
  refine Risk.mem_firstPerId_of_nodup ?_
  have hids : (·.syntheticId) ∘ about = ("missing-cloud-hardening@" ++ ·) ∘ id := funext habout
  rw [List.map_map, hids, ← List.map_map]
  exact (h.nodup.sublist (List.filter_sublist.map id)).map fun _ _ => (String.append_right_inj _).1

theorem mem_map_filter (h : d.KeyedBy id) (hv : v ∈ d.values) (q : α → Bool)
    (habout : ∀ v, (about v).syntheticId = "missing-cloud-hardening@" ++ id v) :
    "missing-cloud-hardening@" ++ id v ∈ ((d.values.filter q).map about).map (·.syntheticId) ↔
      q v = true := by
  simp only [List.map_map, List.mem_map, List.mem_filter, Function.comp_apply, habout,
    String.append_right_inj]
  constructor
  · rintro ⟨w, ⟨hw, hq⟩, heq⟩
    rwa [← h.eq_of_id hw hv heq]
  · intro hq
    exact ⟨v, ⟨hv, hq⟩, rfl⟩

/-- Of the findings about an element the one for its first provider is kept. -/
theorem mem_firstPerId_elements (h : d.KeyedBy id)
    (hg : ∀ p v, (g p v).syntheticId = "missing-cloud-hardening@" ++ id v) :
    f ∈ Risk.firstPerId
        (providers.flatMap fun p => (d.values.filter (isOf p <| tags ·)).map (g p)) ↔
      ∃ v ∈ d.values, ∃ p, IsFirst providers (isOf · (tags v)) p ∧ g p v = f := by
  rw [Risk.mem_firstPerId_flatMap]
  constructor
  · rintro ⟨before, p, after, hsplit, hf, hbefore⟩
    obtain ⟨v, hv, rfl⟩ := List.mem_map.1 ((mem_firstPerId_filter h _ (hg p)).1 hf)
    obtain ⟨hv, hof⟩ := List.mem_filter.1 hv
    refine ⟨v, hv, p, ⟨before, after, hsplit, hof, fun q hq hofq => hbefore q hq ?_⟩, rfl⟩
    rw [hg]
    exact (mem_map_filter h hv _ (hg q)).2 hofq
  · rintro ⟨v, hv, p, ⟨before, after, hsplit, hof, hbefore⟩, rfl⟩
    refine ⟨before, p, after, hsplit, ?_, fun q hq hid => hbefore q hq ?_⟩
    · exact (mem_firstPerId_filter h _ (hg p)).2 (List.mem_map_of_mem (List.mem_filter.2 ⟨hv, hof⟩))
    · rw [hg] at hid
      exact (mem_map_filter h hv _ (hg q)).1 hid

theorem mem_map_elements (hg : ∀ p v, (g p v).syntheticId = "missing-cloud-hardening@" ++ id v) :
    "missing-cloud-hardening@" ++ x ∈ (providers.flatMap fun p =>
        (d.values.filter (isOf p <| tags ·)).map (g p)).map (·.syntheticId) ↔
      ∃ v ∈ d.values, isSupported (tags v) ∧ id v = x := by
  simp only [List.mem_map, List.mem_flatMap, List.mem_filter]
  constructor
  · rintro ⟨f, ⟨p, -, v, ⟨hv, hof⟩, rfl⟩, hid⟩
    rw [hg, String.append_right_inj] at hid
    exact ⟨v, hv, (Bool.and_eq_true_iff.1 hof).1, hid⟩
  · rintro ⟨v, hv, hsupported, rfl⟩
    obtain ⟨p, hp, hof⟩ := exists_isOf hsupported
    exact ⟨_, ⟨p, hp, v, ⟨hv, hof⟩, rfl⟩, hg p v⟩

end Elements

/-! ## Runtimes -/

/-- The findings about runtimes. -/
def runtimeFindings (m : Model) : List Risk :=
  providers.flatMap fun p => (runtimesOf m p).map (ofRuntime m (some p))

theorem mem_firstPerId_runtimeFindings (hm : m.Coherent) :
    f ∈ Risk.firstPerId (runtimeFindings m) ↔ ∃ r ∈ m.sharedRuntimes.values, ∃ p,
      IsFirst providers (isOf · r.tags) p ∧ ofRuntime m (some p) r = f := by
  simp only [runtimeFindings, runtimesOf_eq hm]
  exact mem_firstPerId_elements hm.sharedRuntimes fun _ _ => rfl

/-- No runtime with a supported tag has an id. -/
def RuntimeFree (m : Model) (id : String) : Prop :=
  ∀ r ∈ m.sharedRuntimes.values, isSupported r.tags → r.id ≠ id

theorem notMem_map_runtimeFindings (hm : m.Coherent) :
    "missing-cloud-hardening@" ++ x ∉ (runtimeFindings m).map (·.syntheticId) ↔ RuntimeFree m x := by
  simp only [runtimeFindings, runtimesOf_eq hm]
  rw [mem_map_elements (g := fun p => ofRuntime m (some p)) fun _ _ => rfl]
  simp only [RuntimeFree, not_exists, not_and, ne_eq]

/-! ## Boundaries -/

/-- The findings about boundaries. -/
def boundaryFindings (m : Model) : List Risk :=
  providers.flatMap (fun p => (boundariesOf m p).map (ofBoundary m (some p))) ++
    (unspecificBoundaries m).map (ofBoundary m none)

/-- No boundary with a supported tag or in a cloud has an id. -/
def BoundaryFree (m : Model) (id : String) : Prop :=
  ∀ b ∈ m.trustBoundaries.values, isSupported b.tags ∨ b.kind.isWithinCloud → b.id ≠ id

theorem mem_firstPerId_boundaryFindings (hm : m.Coherent) :
    f ∈ Risk.firstPerId (boundaryFindings m) ↔ ∃ b ∈ m.trustBoundaries.values,
      (∃ p, IsFirst providers (isOf · b.tags) p ∧ ofBoundary m (some p) b = f) ∨
        isSupported b.tags = false ∧ b.kind.isWithinCloud ∧ ofBoundary m none b = f := by
  simp only [boundaryFindings, boundariesOf_eq hm, unspecificBoundaries_eq hm]
  rw [Risk.mem_firstPerId_append, mem_firstPerId_filter hm.trustBoundaries _ fun _ => rfl,
    mem_firstPerId_elements (g := fun p => ofBoundary m (some p)) hm.trustBoundaries fun _ _ => rfl]
  simp only [List.mem_map (f := ofBoundary m none), List.mem_filter, Bool.and_eq_true,
    Bool.not_eq_true']
  constructor
  · rintro (⟨b, hb, hp⟩ | ⟨-, b, ⟨hb, hunsupported, hcloud⟩, rfl⟩)
    · exact ⟨b, hb, .inl hp⟩
    · exact ⟨b, hb, .inr ⟨hunsupported, hcloud, rfl⟩⟩
  · rintro ⟨b, hb, hp | ⟨hunsupported, hcloud, rfl⟩⟩
    · exact .inl ⟨b, hb, hp⟩
    · refine .inr ⟨fun hid => ?_, b, ⟨hb, hunsupported, hcloud⟩, rfl⟩
      -- a boundary with the same id is this one, which has no supported tag
      obtain ⟨c, hc, hsupported, heq⟩ := (mem_map_elements (x := b.id)
        (g := fun p => ofBoundary m (some p)) fun _ _ => rfl).1 hid
      rw [hm.trustBoundaries.eq_of_id hc hb heq, hunsupported] at hsupported
      cases hsupported

theorem notMem_map_boundaryFindings (hm : m.Coherent) :
    "missing-cloud-hardening@" ++ x ∉ (boundaryFindings m).map (·.syntheticId) ↔
      BoundaryFree m x := by
  have hunspecific : "missing-cloud-hardening@" ++ x ∈
      ((unspecificBoundaries m).map (ofBoundary m none)).map (·.syntheticId) ↔
        ∃ b ∈ m.trustBoundaries.values,
          isSupported b.tags = false ∧ b.kind.isWithinCloud ∧ b.id = x := by
    simp only [unspecificBoundaries_eq hm, List.map_map, List.mem_map, List.mem_filter,
      Function.comp_apply, syntheticId_ofBoundary, String.append_right_inj, Bool.and_eq_true,
      Bool.not_eq_true', and_assoc]
  rw [boundaryFindings, List.map_append, List.mem_append, hunspecific]
  simp only [boundariesOf_eq hm]
  rw [mem_map_elements (g := fun p => ofBoundary m (some p)) fun _ _ => rfl]
  constructor
  · intro h b hb hcloud heq
    cases hsupported : isSupported b.tags with
    | true => exact h (.inl ⟨b, hb, hsupported, heq⟩)
    | false =>
      have hkind : b.kind.isWithinCloud = true :=
        hcloud.resolve_left (ne_true_of_eq_false hsupported)
      exact h (.inr ⟨b, hb, hsupported, hkind, heq⟩)
  · rintro h (⟨b, hb, hsupported, heq⟩ | ⟨b, hb, -, hcloud, heq⟩)
    · exact h b hb (.inl hsupported) heq
    · exact h b hb (.inr hcloud) heq

/-! ## Representatives -/

/-- The findings about assets that stand for a provider. -/
def exampleFindings (m : Model) : List Risk :=
  providers.flatMap fun p => ((example? m p).map (ofAsset m p)).toList

theorem mem_map_example (hm : m.Coherent) (ha : a ∈ m.technicalAssets.values) :
    "missing-cloud-hardening@" ++ a.id ∈
        ((example? m p).map (ofAsset m p)).toList.map (·.syntheticId) ↔
      Unclaimed m p ∧ Represents m p a := by
  simp only [← example?_eq_some_iff hm, List.mem_map, Option.mem_toList, Option.map_eq_some_iff]
  constructor
  · rintro ⟨f, ⟨b, hb, rfl⟩, hid⟩
    rw [syntheticId_ofAsset, String.append_right_inj] at hid
    have hknown := ((example?_eq_some_iff hm).1 hb).2.known
    rw [hb, hm.technicalAssets.eq_of_id hknown ha hid]
  · intro hexample
    exact ⟨_, ⟨a, hexample, rfl⟩, rfl⟩

theorem mem_firstPerId_exampleFindings (hm : m.Coherent) :
    f ∈ Risk.firstPerId (exampleFindings m) ↔ ∃ a p,
      IsFirst providers (fun q => Unclaimed m q ∧ Represents m q a) p ∧ ofAsset m p a = f := by
  have hone (q : HardeningGuide) : f ∈ Risk.firstPerId ((example? m q).map (ofAsset m q)).toList ↔
      ∃ a, (Unclaimed m q ∧ Represents m q a) ∧ ofAsset m q a = f := by
    rw [Risk.mem_firstPerId_of_nodup (by cases example? m q <;> simp), Option.mem_toList,
      Option.map_eq_some_iff]
    simp only [example?_eq_some_iff hm]
  rw [exampleFindings, Risk.mem_firstPerId_flatMap]
  constructor
  · rintro ⟨before, p, after, hsplit, hf, hbefore⟩
    obtain ⟨a, ha, rfl⟩ := (hone p).1 hf
    refine ⟨a, p, ⟨before, after, hsplit, ha, fun q hq hstands => hbefore q hq ?_⟩, rfl⟩
    exact (mem_map_example hm ha.2.known).2 hstands
  · rintro ⟨a, p, ⟨before, after, hsplit, ha, hbefore⟩, rfl⟩
    refine ⟨before, p, after, hsplit, (hone p).2 ⟨a, ha, rfl⟩, fun q hq hid => hbefore q hq ?_⟩
    exact (mem_map_example hm ha.2.known).1 hid

theorem notMem_map_exampleFindings (hm : m.Coherent) (ha : a ∈ m.technicalAssets.values) :
    "missing-cloud-hardening@" ++ a.id ∉ (exampleFindings m).map (·.syntheticId) ↔
      ∀ p ∈ providers, Unclaimed m p → ¬Represents m p a := by
  rw [exampleFindings, List.map_flatMap, List.mem_flatMap]
  simp only [mem_map_example hm ha, not_exists, not_and]

/-! ## Services -/

/-- The findings about services with guides of their own. -/
def serviceFindings (m : Model) : List Risk :=
  (serviceAssets m).flatMap fun a =>
    (services.filter fun s => a.inheritsAny m [s.tag]).map (ofAsset m · a)

theorem mem_firstPerId_serviceFindings (hm : m.Coherent) :
    f ∈ Risk.firstPerId (serviceFindings m) ↔ ∃ a ∈ m.technicalAssets.values,
      taggedWithAny a.tags serviceTags ∧ ∃ s,
        IsFirst services (fun s => a.inheritsAny m [s.tag]) s ∧ ofAsset m s a = f := by
  have hone (a : TechnicalAsset) : f ∈ Risk.firstPerId
      ((services.filter fun s => a.inheritsAny m [s.tag]).map (ofAsset m · a)) ↔
        ∃ s, IsFirst services (fun s => a.inheritsAny m [s.tag]) s ∧ ofAsset m s a = f := by
    have hsame : ∀ r ∈ (services.filter fun s => a.inheritsAny m [s.tag]).map (ofAsset m · a),
        r.syntheticId = "missing-cloud-hardening@" ++ a.id := by
      intro r hr
      obtain ⟨s, -, rfl⟩ := List.mem_map.1 hr
      rfl
    rw [Risk.mem_firstPerId_of_same hsame, List.head?_map, List.head?_filter, Option.map_eq_some_iff]
    simp only [isFirst_iff, Bool.decide_eq_true]
  rw [serviceFindings, serviceAssets_eq hm, Risk.mem_firstPerId_flatMap]
  simp only [hone]
  constructor
  · rintro ⟨before, a, after, hsplit, hf, -⟩
    have ha : a ∈ m.technicalAssets.values.filter (taggedWithAny ·.tags serviceTags) := by
      rw [hsplit]
      exact List.mem_append_right _ List.mem_cons_self
    obtain ⟨ha, hown⟩ := List.mem_filter.1 ha
    exact ⟨a, ha, hown, hf⟩
  · rintro ⟨a, ha, hown, s, hs, rfl⟩
    have hmem : a ∈ m.technicalAssets.values.filter (taggedWithAny ·.tags serviceTags) :=
      List.mem_filter.2 ⟨ha, hown⟩
    obtain ⟨before, after, hsplit⟩ := List.append_of_mem hmem
    refine ⟨before, a, after, hsplit, ⟨s, hs, rfl⟩, fun b hb hid => ?_⟩
    have hlt : b.id < a.id := by
      have hsorted := hm.technicalAssets.pairwise_filter (taggedWithAny ·.tags serviceTags)
      rw [hsplit, List.map_append, List.map_cons, List.pairwise_append] at hsorted
      exact hsorted.2.2 _ (List.mem_map_of_mem hb) _ List.mem_cons_self
    obtain ⟨r, hr, heq⟩ := List.mem_map.1 hid
    obtain ⟨t, -, rfl⟩ := List.mem_map.1 hr
    rw [syntheticId_ofAsset, syntheticId_ofAsset, String.append_right_inj] at heq
    rw [heq] at hlt
    exact String.lt_irrefl _ hlt

/-! ## All findings -/

theorem candidates_eq (m : Model) : candidates m =
    runtimeFindings m ++ (boundaryFindings m ++ (exampleFindings m ++ serviceFindings m)) := by
  simp only [candidates, runtimeFindings, boundaryFindings, exampleFindings, serviceFindings,
    List.append_assoc, List.filterMap_eq_flatMap_toList]

/-- The findings that are not dropped. -/
inductive Kept (m : Model) : Risk → Prop
  | runtime {r : SharedRuntime} {p : HardeningGuide} (known : r ∈ m.sharedRuntimes.values)
      (first : IsFirst providers (isOf · r.tags) p) : Kept m (ofRuntime m (some p) r)
  | boundary {b : TrustBoundary} {p : HardeningGuide} (known : b ∈ m.trustBoundaries.values)
      (runtimes : RuntimeFree m b.id) (first : IsFirst providers (isOf · b.tags) p) :
      Kept m (ofBoundary m (some p) b)
  | unspecific {b : TrustBoundary} (known : b ∈ m.trustBoundaries.values)
      (runtimes : RuntimeFree m b.id) (unsupported : isSupported b.tags = false)
      (cloud : b.kind.isWithinCloud) : Kept m (ofBoundary m none b)
  | representative {a : TechnicalAsset} {p : HardeningGuide} (runtimes : RuntimeFree m a.id)
      (boundaries : BoundaryFree m a.id)
      (first : IsFirst providers (fun q => Unclaimed m q ∧ Represents m q a) p) :
      Kept m (ofAsset m p a)
  | service {a : TechnicalAsset} {s : HardeningGuide} (known : a ∈ m.technicalAssets.values)
      (runtimes : RuntimeFree m a.id) (boundaries : BoundaryFree m a.id)
      (others : ∀ p ∈ providers, Unclaimed m p → ¬Represents m p a)
      (own : taggedWithAny a.tags serviceTags)
      (first : IsFirst services (fun s => a.inheritsAny m [s.tag]) s) : Kept m (ofAsset m s a)

theorem mem_findings_iff (hm : m.Coherent) :
    f ∈ BuiltinRule.missingCloudHardening.findings m ↔ Kept m f := by
  simp only [BuiltinRule.missingCloudHardening]
  rw [candidates_eq, Risk.mem_firstPerId_append, Risk.mem_firstPerId_append,
    Risk.mem_firstPerId_append, mem_firstPerId_runtimeFindings hm, mem_firstPerId_boundaryFindings hm,
    mem_firstPerId_exampleFindings hm, mem_firstPerId_serviceFindings hm]
  constructor
  · rintro (⟨r, hr, p, hp, rfl⟩ | ⟨hruntimes, ⟨b, hb, ⟨p, hp, rfl⟩ | ⟨hunsupported, hcloud, rfl⟩⟩ |
      ⟨hboundaries, ⟨a, p, hp, rfl⟩ | ⟨hothers, a, ha, hown, s, hs, rfl⟩⟩⟩)
    · exact .runtime hr hp
    · exact .boundary hb ((notMem_map_runtimeFindings hm).1 hruntimes) hp
    · exact .unspecific hb ((notMem_map_runtimeFindings hm).1 hruntimes) hunsupported hcloud
    · exact .representative ((notMem_map_runtimeFindings hm).1 hruntimes)
        ((notMem_map_boundaryFindings hm).1 hboundaries) hp
    · exact .service ha ((notMem_map_runtimeFindings hm).1 hruntimes)
        ((notMem_map_boundaryFindings hm).1 hboundaries)
        ((notMem_map_exampleFindings hm ha).1 hothers) hown hs
  · intro h
    cases h with
    | runtime hr hp => exact .inl ⟨_, hr, _, hp, rfl⟩
    | boundary hb hruntimes hp =>
      exact .inr ⟨(notMem_map_runtimeFindings hm).2 hruntimes, .inl ⟨_, hb, .inl ⟨_, hp, rfl⟩⟩⟩
    | unspecific hb hruntimes hunsupported hcloud =>
      exact .inr ⟨(notMem_map_runtimeFindings hm).2 hruntimes,
        .inl ⟨_, hb, .inr ⟨hunsupported, hcloud, rfl⟩⟩⟩
    | representative hruntimes hboundaries hp =>
      exact .inr ⟨(notMem_map_runtimeFindings hm).2 hruntimes,
        .inr ⟨(notMem_map_boundaryFindings hm).2 hboundaries, .inl ⟨_, _, hp, rfl⟩⟩⟩
    | service ha hruntimes hboundaries hothers hown hs =>
      exact .inr ⟨(notMem_map_runtimeFindings hm).2 hruntimes,
        .inr ⟨(notMem_map_boundaryFindings hm).2 hboundaries,
          .inr ⟨(notMem_map_exampleFindings hm ha).2 hothers, _, ha, hown, _, hs, rfl⟩⟩⟩

end CloudHardening

end ThreatModel
