import ThreatModel.Proofs.Model.Neighbours
import ThreatModel.Proofs.Rule.Finding

/-!
# The order in which the assets in a runtime are listed

The assets in a runtime are read in order and each is compared with the one before it, unless that one
lies in no boundary. What passes such a comparison passes any with later assets as well
(`mayPrecede_trans`), so a runtime is reported if an asset inside a boundary is listed anywhere before
one that is not in this boundary, or if frontend and backend are mixed (`isMixed_iff`). Of two assets in
different boundaries one comes first in any order. What does depend on the order is whether an asset
without a boundary comes before those inside one or behind (`SharedRuntime.Straddles`).
-/

namespace ThreatModel

/-- The runtime, with other assets in it if it has an id. -/
def SharedRuntime.withRunning (r : SharedRuntime) (id : String) (running : List String) :
    SharedRuntime := if r.id = id then { r with assetsRunning := running } else r

/-- The model with other assets in the runtime with an id. -/
def Model.withRunning (m : Model) (id : String) (running : List String) : Model :=
  { m with sharedRuntimes := m.sharedRuntimes.map (·.withRunning id running) }

/-- The id of the boundary that an asset lies in directly. -/
def Model.home (m : Model) (a : TechnicalAsset) : Option String :=
  (m.directBoundary a.id).map (·.id)

/-- An asset with one home may be listed before one with another home: it lies in no boundary, or both
lie in the same one. -/
def MayPrecede (x y : Option String) : Prop := x = none ∨ y = x

instance (x y : Option String) : Decidable (MayPrecede x y) :=
  inferInstanceAs (Decidable (_ ∨ _))

theorem mayPrecede_trans {x y z : Option String} (hxy : MayPrecede x y) (hyz : MayPrecede y z) :
    MayPrecede x z := by
  rcases hxy with rfl | rfl
  · exact .inl rfl
  · exact hyz

instance : Trans MayPrecede MayPrecede MayPrecede := ⟨mayPrecede_trans⟩

namespace BuiltinRule

variable {m : Model} {assets : List TechnicalAsset}

/-! ## Reading the assets in order -/

/-- Homes are compared as texts, in which no boundary is the empty one. -/
theorem not_mayPrecede_iff {x y : Option String} (hx : x ≠ some "") (hy : y ≠ some "") :
    ¬MayPrecede x y ↔ x.getD "" ≠ "" ∧ x.getD "" ≠ y.getD "" := by
  rw [MayPrecede, not_or]
  cases x with
  | none => simp
  | some b =>
    have hb : b ≠ "" := fun h => hx (congrArg some h)
    cases y with
    | none => simp [hb]
    | some c => simp [hb, eq_comm]

theorem isMixedFrom_cons (boundary : String) (frontend backend : Bool) (a : TechnicalAsset) :
    isMixedFrom m boundary frontend backend (a :: assets) =
      if boundary ≠ "" && boundary ≠ (m.home a).getD "" then true
      else isMixedFrom m ((m.home a).getD "") (frontend || a.technology.isFrontendOnly)
        (backend || a.technology.isBackendOnly) assets := rfl

/-- Each comparison is one of neighbours; the first one is with what was read before. -/
theorem isMixedFrom_iff (hnamed : ∀ a ∈ assets, m.home a ≠ some "") {before : Option String}
    (hbefore : before ≠ some "") (frontend backend : Bool) :
    isMixedFrom m (before.getD "") frontend backend assets = true ↔
      ¬(before :: assets.map m.home).IsChain MayPrecede ∨
        (frontend = true ∨ ∃ a ∈ assets, a.technology.isFrontendOnly = true) ∧
          (backend = true ∨ ∃ a ∈ assets, a.technology.isBackendOnly = true) := by
  induction assets generalizing before frontend backend with
  | nil => simp [isMixedFrom]
  | cons a assets ih =>
    obtain ⟨hhome, hnamed⟩ := List.forall_mem_cons.1 hnamed
    have hcompared : (before.getD "" ≠ "" && before.getD "" ≠ (m.home a).getD "") = true ↔
        ¬MayPrecede before (m.home a) := by
      rw [not_mayPrecede_iff hbefore hhome, Bool.and_eq_true, decide_eq_true_eq, decide_eq_true_eq]
    rw [isMixedFrom_cons, List.map_cons, List.isChain_cons_cons]
    by_cases hmay : MayPrecede before (m.home a)
    · rw [if_neg (mt hcompared.1 (not_not.2 hmay)), ih hnamed hhome]
      simp [hmay, or_assoc]
    · rw [if_pos (hcompared.2 hmay)]
      simp [hmay]

/-! ## What is reported in any order -/

/-- An asset inside a boundary is listed before one that is not in this boundary. -/
def LeavesBoundary (m : Model) (assets : List TechnicalAsset) : Prop :=
  ∃ a b, [a, b].Sublist assets ∧ m.home a ≠ none ∧ m.home b ≠ m.home a

/-- Some assets belong to the front end only and some to the back end only. -/
def MixesTiers (assets : List TechnicalAsset) : Prop :=
  (∃ a ∈ assets, a.technology.isFrontendOnly = true) ∧
    ∃ a ∈ assets, a.technology.isBackendOnly = true

/-- Two assets lie in different boundaries. -/
def SpansBoundaries (m : Model) (assets : List TechnicalAsset) : Prop :=
  ∃ a ∈ assets, ∃ b ∈ assets, m.home a ≠ none ∧ m.home b ≠ none ∧ m.home a ≠ m.home b

instance (assets : List TechnicalAsset) : Decidable (MixesTiers assets) :=
  inferInstanceAs (Decidable (_ ∧ _))

instance (m : Model) (assets : List TechnicalAsset) : Decidable (SpansBoundaries m assets) :=
  inferInstanceAs (Decidable (∃ a ∈ assets, _))

/-- Some assets lie in a boundary, all of them in the same one, and others lie in none; and they are
not of front end and back end. -/
structure Straddles (m : Model) (assets : List TechnicalAsset) : Prop where
  inside : ∃ a ∈ assets, m.home a ≠ none
  outside : ∃ a ∈ assets, m.home a = none
  together : ¬SpansBoundaries m assets
  oneTier : ¬MixesTiers assets

variable {others : List TechnicalAsset}

theorem home_ne_empty (h : m.Coherent) (a : TechnicalAsset) : m.home a ≠ some "" := by
  intro hhome
  obtain ⟨b, hb, hid⟩ := Option.map_eq_some_iff.1 hhome
  obtain ⟨id, -, hget⟩ := Option.bind_eq_some_iff.1 hb
  exact (h.trustBoundaries.isId_of_mem (Dict.mem_values_of_get? hget)).1 hid

theorem leavesBoundary_iff : LeavesBoundary m assets ↔
    ¬assets.Pairwise fun a b => MayPrecede (m.home a) (m.home b) := by
  simp only [List.pairwise_iff_forall_sublist, LeavesBoundary, MayPrecede, not_forall, not_or,
    exists_prop]

theorem isMixed_iff (h : m.Coherent) :
    isMixedFrom m "" false false assets = true ↔ LeavesBoundary m assets ∨ MixesTiers assets := by
  have hnone : (none : Option String) ≠ some "" := by simp
  have hread := isMixedFrom_iff (fun a (_ : a ∈ assets) => home_ne_empty h a) hnone false false
  rw [Option.getD_none] at hread
  rw [hread, List.isChain_iff_pairwise, List.pairwise_cons, List.pairwise_map, leavesBoundary_iff]
  simp [MayPrecede, MixesTiers]

/-- Of two assets in different boundaries the one that is listed first is left for the other. -/
theorem leavesBoundary_of_spans (h : SpansBoundaries m assets) : LeavesBoundary m assets := by
  obtain ⟨a, ha, b, hb, hina, hinb, hne⟩ := h
  obtain ⟨before, after, rfl⟩ := List.append_of_mem ha
  rcases List.mem_append.1 hb with hbefore | hafter
  · refine ⟨b, a, ?_, hinb, hne⟩
    exact (List.singleton_sublist.2 hbefore).append (List.singleton_sublist.2 List.mem_cons_self)
  · have hafter : b ∈ after :=
      (List.mem_cons.1 hafter).resolve_left fun heq => hne (heq ▸ rfl)
    refine ⟨a, b, ?_, hina, hne.symm⟩
    exact ((List.singleton_sublist.2 hafter).cons_cons a).trans (List.sublist_append_right ..)

theorem spans_or_of_leavesBoundary (h : LeavesBoundary m assets) :
    SpansBoundaries m assets ∨ (∃ a ∈ assets, m.home a ≠ none) ∧ ∃ a ∈ assets, m.home a = none := by
  obtain ⟨a, b, hsub, hin, hne⟩ := h
  have ha : a ∈ assets := hsub.subset (by simp)
  have hb : b ∈ assets := hsub.subset (by simp)
  by_cases hout : m.home b = none
  · exact .inr ⟨⟨a, ha, hin⟩, b, hb, hout⟩
  · exact .inl ⟨a, ha, b, hb, hin, hout, hne.symm⟩

theorem isMixed_iff_of_not_straddles (h : m.Coherent) (hnot : ¬Straddles m assets) :
    isMixedFrom m "" false false assets = true ↔ SpansBoundaries m assets ∨ MixesTiers assets := by
  rw [isMixed_iff h]
  refine ⟨fun hmixed => ?_, Or.imp_left leavesBoundary_of_spans⟩
  by_contra hneither
  obtain ⟨htogether, htier⟩ := not_or.1 hneither
  have hleaves := hmixed.resolve_right htier
  obtain ⟨hin, hout⟩ := (spans_or_of_leavesBoundary hleaves).resolve_left htogether
  exact hnot ⟨hin, hout, htogether, htier⟩

section Perm

variable (hperm : others.Perm assets)

include hperm

theorem spansBoundaries_perm : SpansBoundaries m others ↔ SpansBoundaries m assets := by
  simp only [SpansBoundaries, hperm.mem_iff]

theorem mixesTiers_perm : MixesTiers others ↔ MixesTiers assets := by
  simp only [MixesTiers, hperm.mem_iff]

theorem Straddles.of_perm (h : Straddles m others) : Straddles m assets where
  inside := by simpa only [hperm.mem_iff] using h.inside
  outside := by simpa only [hperm.mem_iff] using h.outside
  together := mt (spansBoundaries_perm hperm).2 h.together
  oneTier := mt (mixesTiers_perm hperm).2 h.oneTier

theorem isMixed_perm (h : m.Coherent) (hnot : ¬Straddles m assets) :
    isMixedFrom m "" false false others = isMixedFrom m "" false false assets := by
  rw [Bool.eq_iff_iff, isMixed_iff_of_not_straddles h hnot,
    isMixed_iff_of_not_straddles h (mt (Straddles.of_perm hperm) hnot), spansBoundaries_perm hperm,
    mixesTiers_perm hperm]

end Perm

/-! ## Both orders of assets that straddle a boundary -/

/-- A boundary is left if the assets inside it come first. -/
theorem exists_leavesBoundary (h : Straddles m assets) :
    ∃ others : List TechnicalAsset, others.Perm assets ∧ LeavesBoundary m others := by
  obtain ⟨a, ha, hina⟩ := h.inside
  obtain ⟨b, hb, hout⟩ := h.outside
  refine ⟨_, List.filter_append_perm (fun a => (m.home a).isSome) assets, a, b, ?_, hina,
    fun heq => hina (heq.symm.trans hout)⟩
  refine List.Sublist.append (List.singleton_sublist.2 ?_) (List.singleton_sublist.2 ?_)
  · exact List.mem_filter.2 ⟨ha, Option.isSome_iff_ne_none.2 hina⟩
  · exact List.mem_filter.2 ⟨hb, by rw [hout]; rfl⟩

/-- None is left if the assets without a boundary come first. -/
theorem exists_not_leavesBoundary (h : Straddles m assets) :
    ∃ others : List TechnicalAsset, others.Perm assets ∧ ¬LeavesBoundary m others := by
  have hperm := List.filter_append_perm (fun a => (m.home a).isSome) assets
  refine ⟨_, List.perm_append_comm.trans hperm, ?_⟩
  have hout : ∀ a ∈ assets.filter (fun a => !(m.home a).isSome), m.home a = none := by simp
  rw [leavesBoundary_iff, not_not, List.pairwise_append]
  refine ⟨?_, ?_, fun a ha b _ => .inl (hout a ha)⟩
  · exact List.pairwise_of_forall_mem_list fun a ha b _ => .inl (hout a ha)
  · refine List.pairwise_of_forall_mem_list fun a ha b hb => .inr ?_
    rw [List.mem_filter, Option.isSome_iff_ne_none] at ha hb
    by_contra hne
    exact h.together ⟨a, ha.1, b, hb.1, ha.2, hb.2, Ne.symm hne⟩

/-! ## The reported runtimes -/

/-- The runtimes that are reported, each with the severity. -/
def reportedRuntimes (m : Model) : List (Option String × Severity) :=
  (mixedTargetsOnSharedRuntime.findings m).map fun f => (f.runtime, f.severity)

/-- How severe it is that assets are mixed. -/
def mixedSeverity (assets : List TechnicalAsset) : Severity :=
  .of .unlikely (if assets.any (·.ownRating.isTop) then .medium else .low)

/-- What is reported about a runtime, if anything. -/
def report? (m : Model) (r : SharedRuntime) : Option (Option String × Severity) :=
  if isMixedFrom m "" false false (assetsRunning m r) then
    some (some r.id, mixedSeverity (assetsRunning m r))
  else none

variable {r : SharedRuntime} {running : List String} {s : Severity}

theorem report?_eq_some_iff {id : Option String} : report? m r = some (id, s) ↔
    isMixedFrom m "" false false (assetsRunning m r) = true ∧ some r.id = id ∧
      mixedSeverity (assetsRunning m r) = s := by
  rw [report?, Option.ite_none_right_eq_some, Option.some.injEq, Prod.mk.injEq]

theorem reportedRuntimes_eq (m : Model) :
    reportedRuntimes m = m.sharedRuntimes.values.filterMap (report? m) := by
  rw [reportedRuntimes, mixedTargetsOnSharedRuntime, List.map_map, ← List.filterMap_eq_map,
    List.filterMap_filter]
  rfl

theorem reportedRuntimes_withRunning (m : Model) (id : String) (running : List String) :
    reportedRuntimes (m.withRunning id running) =
      m.sharedRuntimes.values.filterMap fun t => report? m (t.withRunning id running) := by
  have hboundary : (m.withRunning id running).directBoundary = m.directBoundary := rfl
  have hreport : report? (m.withRunning id running) = report? m := by
    funext t
    rw [report?, isMixedFrom_congr hboundary]
    rfl
  rw [reportedRuntimes_eq, hreport, Model.withRunning, Dict.values_map, List.filterMap_map]
  rfl

theorem id_withRunning (t : SharedRuntime) (id : String) (running : List String) :
    (t.withRunning id running).id = t.id := by
  rw [SharedRuntime.withRunning]
  split <;> rfl

/-- What is reported about a runtime does not depend on others, whatever is listed in them. -/
theorem mem_filterMap_report?_iff (h : m.Coherent) (hr : r ∈ m.sharedRuntimes.values)
    {f : SharedRuntime → SharedRuntime} (hf : ∀ t, (f t).id = t.id) :
    (some r.id, s) ∈ m.sharedRuntimes.values.filterMap (fun t => report? m (f t)) ↔
      report? m (f r) = some (some r.id, s) := by
  rw [List.mem_filterMap]
  refine ⟨?_, fun hreport => ⟨r, hr, hreport⟩⟩
  rintro ⟨t, ht, hreport⟩
  have hid : t.id = r.id := by
    rw [← hf t]
    exact Option.some.inj (report?_eq_some_iff.1 hreport).2.1
  obtain rfl := List.inj_on_of_nodup_map h.sharedRuntimes.nodup ht hr hid
  exact hreport

theorem mem_reportedRuntimes_iff (h : m.Coherent) (hr : r ∈ m.sharedRuntimes.values) :
    (some r.id, s) ∈ reportedRuntimes m ↔ report? m r = some (some r.id, s) := by
  rw [reportedRuntimes_eq]
  exact mem_filterMap_report?_iff h hr fun _ => rfl

theorem mem_reportedRuntimes_withRunning_iff (h : m.Coherent) (hr : r ∈ m.sharedRuntimes.values) :
    (some r.id, s) ∈ reportedRuntimes (m.withRunning r.id running) ↔
      report? m { r with assetsRunning := running } = some (some r.id, s) := by
  rw [reportedRuntimes_withRunning, mem_filterMap_report?_iff h hr fun t => id_withRunning t _ _,
    SharedRuntime.withRunning, if_pos rfl]

/-- Runtimes with another id are reported as before. -/
theorem mem_reportedRuntimes_withRunning_iff_of_ne {id : Option String} (hid : id ≠ some r.id) :
    (id, s) ∈ reportedRuntimes (m.withRunning r.id running) ↔ (id, s) ∈ reportedRuntimes m := by
  rw [reportedRuntimes_withRunning, reportedRuntimes_eq, List.mem_filterMap, List.mem_filterMap]
  refine exists_congr fun t => and_congr_right fun _ => ?_
  by_cases ht : t.id = r.id
  · have hnot (u : SharedRuntime) (hu : u.id = r.id) : report? m u ≠ some (id, s) := by
      intro hreport
      exact hid (hu ▸ (report?_eq_some_iff.1 hreport).2.1.symm)
    exact iff_of_false (hnot _ ((id_withRunning t ..).trans ht)) (hnot t ht)
  · rw [SharedRuntime.withRunning, if_neg ht]

section Perm

variable (h : m.Coherent) (hr : r ∈ m.sharedRuntimes.values)

theorem assetsRunning_perm (hperm : running.Perm r.assetsRunning) :
    (assetsRunning m { r with assetsRunning := running }).Perm (assetsRunning m r) :=
  hperm.filterMap _

theorem mixedSeverity_perm (hperm : others.Perm assets) :
    mixedSeverity others = mixedSeverity assets := by
  rw [mixedSeverity, mixedSeverity, hperm.any_eq]

include h hr

theorem reportedRuntimes_perm (hperm : running.Perm r.assetsRunning)
    (hnot : ¬Straddles m (assetsRunning m r)) :
    reportedRuntimes (m.withRunning r.id running) = reportedRuntimes m := by
  rw [reportedRuntimes_withRunning, reportedRuntimes_eq]
  refine List.filterMap_congr fun t ht => ?_
  by_cases hid : t.id = r.id
  · obtain rfl := List.inj_on_of_nodup_map h.sharedRuntimes.nodup ht hr hid
    have hassets := assetsRunning_perm (m := m) hperm
    rw [SharedRuntime.withRunning, if_pos rfl, report?, isMixed_perm hassets h hnot,
      mixedSeverity_perm hassets]
    rfl
  · rw [SharedRuntime.withRunning, if_neg hid]

/-- Every order of the assets is one of their ids. -/
theorem exists_running (hperm : others.Perm (assetsRunning m r)) :
    ∃ running : List String, running.Perm r.assetsRunning ∧
      assetsRunning m { r with assetsRunning := running } = others := by
  have hids : (assetsRunning m r).map (·.id) = r.assetsRunning :=
    h.technicalAssets.map_filterMap_get? (h.running r hr)
  refine ⟨others.map (·.id), hids ▸ hperm.map _, ?_⟩
  refine h.technicalAssets.filterMap_get?_map fun a ha => ?_
  exact (h.technicalAssets.mem_filterMap_get?_iff.1 (hperm.subset ha)).1

end Perm

/-- Which runtime is reported depends on the order of its assets only if these straddle a boundary: an
asset without a boundary counts behind those inside one, but starts no comparison before them. Then
either order can be had. The severity and the other runtimes never depend on it. -/
theorem mixedTargetsOnSharedRuntime_of_order {m : Model} (h : m.Accepted) {r : SharedRuntime}
    (hr : r ∈ m.sharedRuntimes.values) :
    ((∃ s, (some r.id, s) ∈ reportedRuntimes m) ↔
      LeavesBoundary m (assetsRunning m r) ∨ MixesTiers (assetsRunning m r)) ∧
    (∀ running, running.Perm r.assetsRunning →
      (∀ id s, id ≠ some r.id →
        ((id, s) ∈ reportedRuntimes (m.withRunning r.id running) ↔ (id, s) ∈ reportedRuntimes m)) ∧
      (∀ s t, (some r.id, s) ∈ reportedRuntimes m →
        (some r.id, t) ∈ reportedRuntimes (m.withRunning r.id running) → s = t) ∧
      (¬Straddles m (assetsRunning m r) →
        reportedRuntimes (m.withRunning r.id running) = reportedRuntimes m)) ∧
    (Straddles m (assetsRunning m r) →
      (∃ running, running.Perm r.assetsRunning ∧
        ∃ s, (some r.id, s) ∈ reportedRuntimes (m.withRunning r.id running)) ∧
      ∃ running, running.Perm r.assetsRunning ∧
        ∀ s, (some r.id, s) ∉ reportedRuntimes (m.withRunning r.id running)) := by
  have hm := h.coherent
  simp only [mem_reportedRuntimes_iff hm hr, mem_reportedRuntimes_withRunning_iff hm hr,
    report?_eq_some_iff, true_and]
  refine ⟨?_, fun running hperm => ⟨fun id s hid => ?_, ?_, ?_⟩, fun hstraddles => ⟨?_, ?_⟩⟩
  · rw [← isMixed_iff hm]
    exact ⟨fun ⟨_, hmixed, _⟩ => hmixed, fun hmixed => ⟨_, hmixed, rfl⟩⟩
  · exact mem_reportedRuntimes_withRunning_iff_of_ne hid
  · rintro s t ⟨-, rfl⟩ ⟨-, rfl⟩
    exact (mixedSeverity_perm (assetsRunning_perm hperm)).symm
  · exact reportedRuntimes_perm hm hr hperm
  · obtain ⟨others, hothers, hleaves⟩ := exists_leavesBoundary hstraddles
    obtain ⟨running, hperm, rfl⟩ := exists_running hm hr hothers
    exact ⟨running, hperm, _, (isMixed_iff hm).2 (.inl hleaves), rfl⟩
  · obtain ⟨others, hothers, hnot⟩ := exists_not_leavesBoundary hstraddles
    obtain ⟨running, hperm, rfl⟩ := exists_running hm hr hothers
    refine ⟨running, hperm, fun s hreport => ?_⟩
    exact ((isMixed_iff hm).1 hreport.1).elim hnot (mt (mixesTiers_perm hothers).1 hstraddles.oneTier)

/-- A shop in one zone with a mirror in another one and reports in none. Two of the runtimes run the
same assets in different orders. -/
def hostedShop : ModelInput :=
  let asset (id technology : String) : TechnicalAssetInput :=
    { id := id, kind := "process", usage := "business", size := "service", technology := technology
      machine := "virtual", encryption := "none", confidentiality := "internal"
      integrity := "operational", availability := "operational" }
  { title := "Hosted shop"
    businessCriticality := "important"
    technicalAssets := .ofList [("Shop", asset "shop" "web-server"),
      ("Mirror", asset "mirror" "web-server"), ("Reports", asset "reports" "report-engine")]
    trustBoundaries := .ofList [
      ("Inner", { id := "inner", kind := "network-on-prem", assetsInside := ["shop"] }),
      ("Outer", { id := "outer", kind := "network-on-prem", assetsInside := ["mirror"] })]
    sharedRuntimes := .ofList [
      ("Node", { id := "node", assetsRunning := ["shop", "reports"] }),
      ("Spare", { id := "spare", assetsRunning := ["reports", "shop"] }),
      ("Edge", { id := "edge", assetsRunning := ["shop", "mirror"] })] }

/-- The node is reported because its shop comes first, and would not be the other way round. The edge
is reported in both orders. -/
theorem hostedShop_runtimes :
    ∃ m, Validation.build ⟨2024, 3, 1⟩ hostedShop = .ok m ∧
      ∃ node ∈ m.sharedRuntimes.get? "node", ∃ edge ∈ m.sharedRuntimes.get? "edge",
        (∃ s, (some node.id, s) ∈ reportedRuntimes m) ∧
        (∃ running, running.Perm node.assetsRunning ∧
          ∀ s, (some node.id, s) ∉ reportedRuntimes (m.withRunning node.id running)) ∧
        (∃ s, (some edge.id, s) ∈ reportedRuntimes m) ∧
        reportedRuntimes (m.withRunning edge.id ["mirror", "shop"]) = reportedRuntimes m := by
  have hchecked : (Validation.build ⟨2024, 3, 1⟩ hostedShop).toOption.map (fun m => decide (
      ∃ node ∈ m.sharedRuntimes.get? "node", ∃ edge ∈ m.sharedRuntimes.get? "edge",
        ((∃ a ∈ assetsRunning m node, m.home a ≠ none) ∧
          (∃ a ∈ assetsRunning m node, m.home a = none) ∧
          ¬SpansBoundaries m (assetsRunning m node) ∧ ¬MixesTiers (assetsRunning m node)) ∧
        (¬(assetsRunning m node).Pairwise fun a b => MayPrecede (m.home a) (m.home b)) ∧
        SpansBoundaries m (assetsRunning m edge) ∧ edge.assetsRunning = ["shop", "mirror"])) =
      some true := by
    decide +kernel
  obtain ⟨m, hm, hchecked⟩ := Model.exists_of_build hchecked
  obtain ⟨node, hnode, edge, hedge, ⟨hinside, houtside, htogether, htier⟩, hleaves, hspans, hrunning⟩ :=
    of_decide_eq_true hchecked
  have hnode' := Dict.mem_values_of_get? hnode
  have hedge' := Dict.mem_values_of_get? hedge
  obtain ⟨hreported, -, horders⟩ := mixedTargetsOnSharedRuntime_of_order (.of_build hm) hnode'
  obtain ⟨hreported', hsame, -⟩ := mixedTargetsOnSharedRuntime_of_order (.of_build hm) hedge'
  have hperm : ["mirror", "shop"].Perm edge.assetsRunning := by
    rw [hrunning]
    exact .swap ..
  exact ⟨m, hm, node, hnode, edge, hedge, hreported.2 (.inl (leavesBoundary_iff.2 hleaves)),
    (horders ⟨hinside, houtside, htogether, htier⟩).2,
    hreported'.2 (.inl (leavesBoundary_of_spans hspans)),
    (hsame _ hperm).2.2 fun hstraddles => hstraddles.together hspans⟩

/-- Listing the assets in the node the other way round changes the set of reported runtimes. -/
theorem hostedShop_reordered :
    ∃ m, Validation.build ⟨2024, 3, 1⟩ hostedShop = .ok m ∧
      ∃ node ∈ m.sharedRuntimes.get? "node", ["reports", "shop"].Perm node.assetsRunning ∧
        (some node.id, .low) ∈ reportedRuntimes m ∧
        (some node.id, .low) ∉ reportedRuntimes (m.withRunning node.id ["reports", "shop"]) :=
  Model.exists_of_build_decide (by decide +kernel)

end BuiltinRule

end ThreatModel
