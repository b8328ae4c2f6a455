import Mathlib.Data.List.Induction
import Mathlib.Data.List.Nodup
import Mathlib.Data.List.Sort
import ThreatModel.Proofs.Dict
import ThreatModel.Rule.Builtin

/-!
# Lists of findings

Some rules drop repeated findings: of those with one id the first one is kept, and none is kept twice
(`mem_firstPerId_iff`, `nodup_firstPerId`). Rules on two models are compared by `Covered`: every
finding in one list has a counterpart in the other. As rules are made of `filter`, `map`, `filterMap`
and `flatMap` over elements, so are the comparisons.
-/

namespace ThreatModel

theorem mem_sortedUnique {texts : List String} {s : String} :
    s ∈ sortedUnique texts ↔ s ∈ texts := by
  rw [sortedUnique, Dict.mem_keys_iff, Dict.contains_ofList, List.map_map]
  simp

theorem sortedUnique_of_pairwise {texts : List String} (h : texts.Pairwise (· < ·)) :
    sortedUnique texts = texts :=
  (Dict.pairwise_keys _).eq_of_mem_iff h fun _ => mem_sortedUnique

theorem CloudHardening.mem_values_of_mem_lookup {α : Type} {d : Dict α} {ids : List String} {v : α}
    (hv : v ∈ lookup d ids) : v ∈ d.values := by
  obtain ⟨id, -, hid⟩ := List.mem_filterMap.1 hv
  exact Dict.mem_values_of_get? hid

namespace Risk

/-! ## Repeated findings -/

theorem firstPerId_concat (risks : List Risk) (r : Risk) :
    firstPerId (risks ++ [r]) =
      if (firstPerId risks).any (·.syntheticId = r.syntheticId) then firstPerId risks
      else firstPerId risks ++ [r] := by
  rw [firstPerId, List.foldl_append]
  rfl

/-- What is kept is the first finding with its id. -/
theorem mem_firstPerId_iff {risks : List Risk} {r : Risk} :
    r ∈ firstPerId risks ↔ risks.find? (·.syntheticId = r.syntheticId) = some r := by
  induction risks using List.reverseRecOn generalizing r with
  | nil => simp [firstPerId]
  | append_singleton risks s ih =>
    have hkept : (firstPerId risks).any (·.syntheticId = s.syntheticId) = true ↔
        ∃ t, risks.find? (·.syntheticId = s.syntheticId) = some t := by
      rw [List.any_eq_true]
      constructor
      · intro ⟨t, ht, heq⟩
        rw [decide_eq_true_eq] at heq
        exact ⟨t, heq ▸ ih.1 ht⟩
      · intro ⟨t, ht⟩
        have heq : t.syntheticId = s.syntheticId := by simpa using List.find?_some ht
        exact ⟨t, ih.2 (heq ▸ ht), by simpa using heq⟩
    rw [firstPerId_concat, List.find?_append]
    by_cases hs : (firstPerId risks).any (·.syntheticId = s.syntheticId) = true
    · rw [if_pos hs, ih]
      obtain ⟨t, ht⟩ := hkept.1 hs
      by_cases heq : s.syntheticId = r.syntheticId
      · rw [heq] at ht
        simp [ht]
      · simp [heq]
    · rw [if_neg hs, List.mem_append, List.mem_singleton, ih]
      have hnone : risks.find? (·.syntheticId = s.syntheticId) = none :=
        Option.eq_none_iff_forall_ne_some.2 fun t ht => hs (hkept.2 ⟨t, ht⟩)
      by_cases heq : s.syntheticId = r.syntheticId
      · rw [heq] at hnone
        simp only [hnone, heq, reduceCtorEq, false_or, List.find?_singleton, decide_true, if_true,
          Option.none_or, Option.some.injEq]
        exact eq_comm
      · have hne : r ≠ s := fun h => heq (h ▸ rfl)
        simp [heq, hne]

theorem exists_find?_eq_some {risks : List Risk} {r : Risk} (hr : r ∈ risks) :
    ∃ s, risks.find? (·.syntheticId = r.syntheticId) = some s ∧ s.syntheticId = r.syntheticId := by
  obtain ⟨s, hs⟩ : ∃ s, risks.find? (·.syntheticId = r.syntheticId) = some s := by
    rw [← Option.isSome_iff_exists, List.find?_isSome]
    exact ⟨r, hr, by simp⟩
  exact ⟨s, hs, by simpa using List.find?_some hs⟩

theorem mem_map_firstPerId {risks : List Risk} {id : String} :
    id ∈ (firstPerId risks).map (·.syntheticId) ↔ id ∈ risks.map (·.syntheticId) := by
  constructor
  · intro hid
    obtain ⟨r, hr, rfl⟩ := List.mem_map.1 hid
    exact List.mem_map_of_mem (List.mem_of_find?_eq_some (mem_firstPerId_iff.1 hr))
  · intro hid
    obtain ⟨r, hr, rfl⟩ := List.mem_map.1 hid
    obtain ⟨s, hs, heq⟩ := exists_find?_eq_some hr
    rw [← heq] at hs ⊢
    exact List.mem_map_of_mem (mem_firstPerId_iff.2 hs)

theorem nodup_firstPerId (risks : List Risk) :
    ((firstPerId risks).map (·.syntheticId)).Nodup := by
  induction risks using List.reverseRecOn with
  | nil => simp [firstPerId]
  | append_singleton risks r ih =>
    rw [firstPerId_concat]
    split
    · exact ih
    · next hnew =>
      rw [List.map_append, List.map_singleton, ← List.concat_eq_append, List.nodup_concat]
      refine ⟨?_, ih⟩
      intro hmem
      obtain ⟨s, hs, heq⟩ := List.mem_map.1 hmem
      exact hnew (List.any_eq_true.2 ⟨s, hs, by simpa using heq⟩)

/-- Of two lists in a row, the second one loses what the first one has under the same id. -/
theorem mem_firstPerId_append {risks risks' : List Risk} {r : Risk} :
    r ∈ firstPerId (risks ++ risks') ↔
      r ∈ firstPerId risks ∨
        r.syntheticId ∉ risks.map (·.syntheticId) ∧ r ∈ firstPerId risks' := by
  have hnone : risks.find? (·.syntheticId = r.syntheticId) = none ↔
      r.syntheticId ∉ risks.map (·.syntheticId) := by
    rw [List.find?_eq_none, List.mem_map, not_exists]
    simp only [decide_eq_true_eq, not_and]
  rw [mem_firstPerId_iff, mem_firstPerId_iff, mem_firstPerId_iff, List.find?_append,
    Option.or_eq_some_iff, hnone]

/-- Of many lists in a row, each one loses what one before it has under the same id. -/
theorem mem_firstPerId_flatMap {α : Type} {l : List α} {f : α → List Risk} {r : Risk} :
    r ∈ firstPerId (l.flatMap f) ↔ ∃ before x after, l = before ++ x :: after ∧
      r ∈ firstPerId (f x) ∧ ∀ y ∈ before, r.syntheticId ∉ (f y).map (·.syntheticId) := by
  rw [mem_firstPerId_iff, List.find?_flatMap, List.findSome?_eq_some_iff]
  simp only [mem_firstPerId_iff, List.find?_eq_none, List.mem_map, decide_eq_true_eq, not_exists,
    not_and]

theorem mem_firstPerId_of_nodup {risks : List Risk} {r : Risk}
    (h : (risks.map (·.syntheticId)).Nodup) : r ∈ firstPerId risks ↔ r ∈ risks := by
  rw [mem_firstPerId_iff]
  refine ⟨List.mem_of_find?_eq_some, fun hr => ?_⟩
  obtain ⟨s, hs, heq⟩ := exists_find?_eq_some hr
  rw [hs, List.inj_on_of_nodup_map h (List.mem_of_find?_eq_some hs) hr heq]

/-- Of findings that all have one id the first one is kept. -/
theorem mem_firstPerId_of_same {risks : List Risk} {r : Risk} {id : String}
    (h : ∀ s ∈ risks, s.syntheticId = id) : r ∈ firstPerId risks ↔ risks.head? = some r := by
  cases risks with
  | nil => simp [firstPerId]
  | cons s risks =>
    have hfirst (hid : r.syntheticId = id) :
        (s :: risks).find? (·.syntheticId = r.syntheticId) = some s :=
      List.find?_cons_of_pos (by rw [h s List.mem_cons_self, hid, decide_eq_true rfl])
    rw [mem_firstPerId_iff, List.head?_cons]
    constructor
    · intro hr
      rwa [hfirst (h r (List.mem_of_find?_eq_some hr))] at hr
    · intro hr
      rwa [hfirst (Option.some.inj hr ▸ h s List.mem_cons_self)]

end Risk

/-! ## Comparing lists -/

/-- Every member of a list has a counterpart in another one. -/
def Covered {α β : Type} (R : α → β → Prop) (l : List α) (l' : List β) : Prop :=
  ∀ x ∈ l, ∃ y ∈ l', R x y

theorem covered_of_subset {α : Type} {l l' : List α} (h : l ⊆ l') : Covered Eq l l' :=
  fun x hx => ⟨x, h hx, rfl⟩

theorem covered_refl {α : Type} {R : α → α → Prop} {l : List α} (h : ∀ x ∈ l, R x x) :
    Covered R l l := fun x hx => ⟨x, hx, h x hx⟩

theorem covered_of_forall₂ {α β : Type} {R : α → β → Prop} {l : List α} {l' : List β}
    (h : List.Forall₂ R l l') : Covered R l l' := by
  induction h with
  | nil => exact fun x hx => absurd hx List.not_mem_nil
  | cons hxy _ ih =>
    intro z hz
    rcases List.mem_cons.1 hz with rfl | hz
    · exact ⟨_, List.mem_cons_self, hxy⟩
    · obtain ⟨y, hy, hzy⟩ := ih z hz
      exact ⟨y, List.mem_cons_of_mem _ hy, hzy⟩

namespace Covered

variable {α β γ δ : Type} {R : α → β → Prop} {S : γ → δ → Prop} {l : List α} {l' : List β}

theorem filter (h : Covered R l l') {p : α → Bool} {q : β → Bool}
    (hpq : ∀ x y, R x y → p x = true → q y = true) : Covered R (l.filter p) (l'.filter q) := by
  intro x hx
  obtain ⟨hx, hp⟩ := List.mem_filter.1 hx
  obtain ⟨y, hy, hxy⟩ := h x hx
  exact ⟨y, List.mem_filter.2 ⟨hy, hpq x y hxy hp⟩, hxy⟩

theorem map (h : Covered R l l') {f : α → γ} {g : β → δ} (hfg : ∀ x y, R x y → S (f x) (g y)) :
    Covered S (l.map f) (l'.map g) := by
  intro z hz
  obtain ⟨x, hx, rfl⟩ := List.mem_map.1 hz
  obtain ⟨y, hy, hxy⟩ := h x hx
  exact ⟨g y, List.mem_map_of_mem hy, hfg x y hxy⟩

theorem filterMap (h : Covered R l l') {f : α → Option γ} {g : β → Option δ}
    (hfg : ∀ x y, R x y → ∀ r, f x = some r → ∃ s, g y = some s ∧ S r s) :
    Covered S (l.filterMap f) (l'.filterMap g) := by
  intro r hr
  obtain ⟨x, hx, hr⟩ := List.mem_filterMap.1 hr
  obtain ⟨y, hy, hxy⟩ := h x hx
  obtain ⟨s, hs, hrs⟩ := hfg x y hxy r hr
  exact ⟨s, List.mem_filterMap.2 ⟨y, hy, hs⟩, hrs⟩

theorem flatMap (h : Covered R l l') {f : α → List γ} {g : β → List δ}
    (hfg : ∀ x y, R x y → Covered S (f x) (g y)) : Covered S (l.flatMap f) (l'.flatMap g) := by
  intro r hr
  obtain ⟨x, hx, hr⟩ := List.mem_flatMap.1 hr
  obtain ⟨y, hy, hxy⟩ := h x hx
  obtain ⟨s, hs, hrs⟩ := hfg x y hxy r hr
  exact ⟨s, List.mem_flatMap.2 ⟨y, hy, hs⟩, hrs⟩

theorem append {k : List α} {k' : List β} (h : Covered R l l') (hk : Covered R k k') :
    Covered R (l ++ k) (l' ++ k') := by
  intro x hx
  rcases List.mem_append.1 hx with hx | hx
  · obtain ⟨y, hy, hxy⟩ := h x hx
    exact ⟨y, List.mem_append_left _ hy, hxy⟩
  · obtain ⟨y, hy, hxy⟩ := hk x hx
    exact ⟨y, List.mem_append_right _ hy, hxy⟩

end Covered

theorem subset_of_eq {α : Type} {l l' : List α} (h : l = l') : l ⊆ l' := h ▸ List.Subset.refl l

theorem filter_subset_filter {α : Type} {l l' : List α} {p q : α → Bool} (h : l ⊆ l')
    (hpq : ∀ x ∈ l, p x = true → q x = true) : l.filter p ⊆ l'.filter q := by
  intro x hx
  obtain ⟨hx, hp⟩ := List.mem_filter.1 hx
  exact List.mem_filter.2 ⟨h hx, hpq x hx hp⟩

theorem any_of_subset {α : Type} {l l' : List α} {p q : α → Bool} (h : l ⊆ l')
    (hpq : ∀ x ∈ l, p x = true → q x = true) (hl : l.any p = true) : l'.any q = true := by
  obtain ⟨x, hx, hp⟩ := List.any_eq_true.1 hl
  exact List.any_eq_true.2 ⟨x, h hx, hpq x hx hp⟩

theorem any_congr_mem {α : Type} {l : List α} {p q : α → Bool} (h : ∀ x ∈ l, p x = q x) :
    l.any p = l.any q := by
  induction l with
  | nil => rfl
  | cons x l ih =>
    rw [List.any_cons, List.any_cons, h x List.mem_cons_self,
      ih fun y hy => h y (List.mem_cons_of_mem _ hy)]

theorem flatMap_subset_flatMap {α β : Type} {l l' : List α} {f g : α → List β} (h : l ⊆ l')
    (hfg : ∀ x ∈ l, f x ⊆ g x) : l.flatMap f ⊆ l'.flatMap g := by
  intro r hr
  obtain ⟨x, hx, hr⟩ := List.mem_flatMap.1 hr
  exact List.mem_flatMap.2 ⟨x, h hx, hfg x hx hr⟩

namespace BuiltinRule

/-! ## All rules -/

theorem nodup_categoryIds : (all.map (·.category.id)).Nodup := by decide +kernel

/-- A category belongs to one rule. -/
theorem eq_of_category_eq {rule other : ModelRule} (hrule : rule ∈ all) (hother : other ∈ all)
    (h : rule.category = other.category) : rule = other :=
  List.inj_on_of_nodup_map nodup_categoryIds hrule hother (congrArg Category.id h)

/-! ## Rules that may pass a link over -/

theorem unencryptedCommunication_findings (m : Model) :
    unencryptedCommunication.findings m = m.inScope.flatMap fun a =>
      (a.links.filter fun l => !l.protocol.isEncrypted && !l.protocol.isProcessLocal).filterMap
        fun l =>
          ((m.target? l).filter fun target =>
              !(a.technology.toleratesUnprotectedCommunication ||
                target.technology.toleratesUnprotectedCommunication)).bind fun target =>
            (transferImpact m l).map (clearTransfer m a target l) := by
  refine List.flatMap_congr fun a _ => List.filterMap_congr fun l _ => ?_
  cases m.target? l with
  | none => rfl
  | some target =>
    simp only [Option.filter_some, Option.bind_eq_bind, Option.bind_some]
    cases a.technology.toleratesUnprotectedCommunication ||
      target.technology.toleratesUnprotectedCommunication
    · cases transferImpact m l <;> rfl
    · rfl

/-- The finding about a link over which a pipeline pushes to a target. -/
def pushOver (m : Model) (pipeline : TechnicalAsset) (l : Link) (target : TechnicalAsset) : Risk :=
  Category.pushInsteadOfPullDeployment.finding .unlikely
      (if (target.rating m).isHigh then .medium else .low)
      ("Push instead of Pull Deployment at " ++ target.title
        ++ " via build pipeline asset " ++ pipeline.title)
    |>.onAsset target |>.onLink l |>.withBreach .improbable [target.id]
    |>.identifiedBy [pipeline.id, target.id]

theorem pushInsteadOfPullDeployment_findings (m : Model) :
    pushInsteadOfPullDeployment.findings m =
      (m.technicalAssets.values.filter (·.technology = .buildPipeline)).flatMap fun pipeline =>
        pipeline.links.filterMap fun l =>
          ((m.target? l).filter (pushesTo l)).map (pushOver m pipeline l) := by
  refine List.flatMap_congr fun pipeline _ => List.filterMap_congr fun l _ => ?_
  cases m.target? l with
  | none => rfl
  | some target =>
    rw [Option.filter_some, Option.bind_eq_bind, Option.bind_some]
    cases pushesTo l target <;> rfl

/-- The finding that remarks on a link. -/
def contradiction (a : TechnicalAsset) (l : Link) (remarks : List String) : Risk :=
  Category.wrongCommunicationLinkContent.finding .unlikely .low
      ("Wrong Communication Link Content " ++ " ".intercalate remarks ++ " at " ++ a.title
        ++ " regarding communication link " ++ l.title)
    |>.onAsset a |>.onLink l |>.withBreach .improbable [] |>.identifiedBy [a.id, l.id]

theorem wrongCommunicationLinkContent_findings (m : Model) :
    wrongCommunicationLinkContent.findings m = m.technicalAssets.values.flatMap fun a =>
      a.links.filterMap fun l =>
        (((m.target? l).map (contradictions l)).filter (!·.isEmpty)).map (contradiction a l) := by
  refine List.flatMap_congr fun a _ => List.filterMap_congr fun l _ => ?_
  cases m.target? l with
  | none => rfl
  | some target =>
    simp only [Option.map_some, Option.filter_some, Option.bind_eq_bind, Option.bind_some]
    cases (contradictions l target).isEmpty <;> rfl

/-- Whether targets are mixed is a question about the boundaries that they lie in. -/
theorem isMixedFrom_congr {m m' : Model} (h : m'.directBoundary = m.directBoundary)
    (boundary : String) (frontend backend : Bool) (assets : List TechnicalAsset) :
    isMixedFrom m' boundary frontend backend assets =
      isMixedFrom m boundary frontend backend assets := by
  induction assets generalizing boundary frontend backend with
  | nil => rfl
  | cons a assets ih => simp only [isMixedFrom, ih, h]

/-- The needless transfers at an asset, outgoing links first. -/
def transfers (m : Model) (a : TechnicalAsset) : List Risk :=
  a.links.flatMap (fun l => needlessTransfers m a l l.targetId) ++
    ((m.incomingLinks a.id).mergeSort fun x y => x.id ≤ y.id).flatMap fun l =>
      needlessTransfers m a l l.sourceId

theorem unnecessaryDataTransfer_findings (m : Model) :
    unnecessaryDataTransfer.findings m = Risk.firstPerId (m.inScope.flatMap (transfers m)) := rfl

/-- A needless transfer is one of known data with a known partner. -/
theorem mem_transfers {m : Model} {a : TechnicalAsset} {r : Risk} (hr : r ∈ transfers m a) :
    ∃ partner d, partner ∈ m.technicalAssets.values ∧ d ∈ m.dataAssets.values ∧
      needlessTransfer a partner d = r := by
  obtain ⟨l, partnerId, hr⟩ : ∃ l partnerId, r ∈ needlessTransfers m a l partnerId := by
    rcases List.mem_append.1 hr with hr | hr
    · obtain ⟨l, -, hr⟩ := List.mem_flatMap.1 hr
      exact ⟨l, _, hr⟩
    · obtain ⟨l, -, hr⟩ := List.mem_flatMap.1 hr
      exact ⟨l, _, hr⟩
  rw [needlessTransfers] at hr
  split at hr
  · cases hr
  · next partner hpartner =>
    split at hr
    · cases hr
    · obtain ⟨d, hd, hr⟩ := List.mem_map.1 hr
      obtain ⟨id, -, hd⟩ := List.mem_filterMap.1 (List.mem_of_mem_filter hd)
      exact ⟨partner, d, Dict.mem_values_of_get? hpartner, Dict.mem_values_of_get? hd, hr⟩

end BuiltinRule

end ThreatModel
