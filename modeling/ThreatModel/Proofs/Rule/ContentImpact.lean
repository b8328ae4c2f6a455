import ThreatModel.Proofs.Model.Accepted
import ThreatModel.Proofs.Model.Neighbours
import ThreatModel.Proofs.Model.Protection
import ThreatModel.Proofs.Validation.WellFormed
import ThreatModel.Rule.Builtin

/-!
# Content that is rated higher may count for less

Two rules grade content in three steps: callers that do not authenticate by what the link transfers,
search engines by what they hold. The lowest step asks for an integrity that is operational, not for one
that is operational at most, so content that nobody needs (`archive`) is on the step above. That is the
only place where content that is rated higher counts for less (`Rating.contentImpact_le_iff`), and so
the only way in which a finding of the two rules becomes less severe.
-/

namespace ThreatModel

namespace Rating

variable {r s : Rating}

/-- Between two ratings content turns from archived to operational and is internal at most. -/
structure Slips (r s : Rating) : Prop where
  archived : r.integrity = .archive
  operational : s.integrity = .operational
  internal : s.confidentiality ≤ .internal

instance (r s : Rating) : Decidable (r.Slips s) :=
  decidable_of_iff
    (r.integrity = .archive ∧ s.integrity = .operational ∧ s.confidentiality ≤ .internal)
    ⟨fun ⟨ha, ho, hi⟩ => ⟨ha, ho, hi⟩, fun ⟨ha, ho, hi⟩ => ⟨ha, ho, hi⟩⟩

/-! ## The three steps -/

theorem not_isTopContent (hinternal : r.confidentiality ≤ .internal)
    (hintegrity : r.integrity ≤ .operational) : ¬r.isTopContent = true := by
  rw [isTopContent, Bool.or_eq_true, decide_eq_true_eq, decide_eq_true_eq, not_or]
  constructor
  · intro heq
    rw [heq] at hinternal
    exact absurd hinternal (by decide)
  · intro heq
    rw [heq] at hintegrity
    exact absurd hintegrity (by decide)

theorem contentImpact_of_top (htop : r.isTopContent = true) : r.contentImpact = .high := if_pos htop

theorem contentImpact_of_internal (hinternal : r.confidentiality ≤ .internal)
    (hoperational : r.integrity = .operational) : r.contentImpact = .low := by
  rw [contentImpact, if_neg (not_isTopContent hinternal (hoperational ▸ Nat.le_refl _)),
    if_pos (by simp [hinternal, hoperational])]

theorem contentImpact_of_between (htop : ¬r.isTopContent = true)
    (hlow : ¬(r.confidentiality ≤ .internal ∧ r.integrity = .operational)) :
    r.contentImpact = .medium := by
  rw [contentImpact, if_neg htop, if_neg (by simpa using hlow)]

theorem contentImpact_le_high (r : Rating) : r.contentImpact ≤ .high := by
  rw [contentImpact]
  split_ifs <;> decide

/-! ## Two ratings of the same content -/

/-- Content that slips falls by a step. -/
theorem Slips.contentImpact (hslips : r.Slips s) (h : r ≤ s) :
    r.contentImpact = .medium ∧ s.contentImpact = .low := by
  have hinternal : r.confidentiality ≤ .internal := Nat.le_trans h.1 hslips.internal
  have hintegrity : r.integrity ≤ .operational := hslips.archived ▸ Nat.zero_le _
  refine ⟨contentImpact_of_between (not_isTopContent hinternal hintegrity) ?_,
    contentImpact_of_internal hslips.internal hslips.operational⟩
  rw [hslips.archived]
  simp

theorem eq_operational {c : Criticality} (hle : c ≤ .operational) (hne : c ≠ .archive) :
    c = .operational := by
  revert hle hne
  cases c <;> decide

theorem contentImpact_mono (h : r ≤ s) (hslips : ¬r.Slips s) : r.contentImpact ≤ s.contentImpact := by
  by_cases htop : s.isTopContent = true
  · rw [contentImpact_of_top htop]
    exact contentImpact_le_high r
  by_cases hlow : s.confidentiality ≤ .internal ∧ s.integrity = .operational
  · -- The first rating is on the lowest step already, as its integrity is not below operational.
    have hinternal : r.confidentiality ≤ .internal := Nat.le_trans h.1 hlow.1
    have hintegrity : r.integrity ≤ .operational := hlow.2 ▸ h.2.1
    have hoperational : r.integrity = .operational :=
      eq_operational hintegrity fun harchived => hslips ⟨harchived, hlow.2, hlow.1⟩
    rw [contentImpact_of_internal hinternal hoperational]
    exact Nat.zero_le _
  · rw [contentImpact_of_between htop hlow, Rating.contentImpact,
      if_neg (mt (isTopContent_mono h) htop)]
    split_ifs <;> decide

theorem contentImpact_le_iff (h : r ≤ s) : r.contentImpact ≤ s.contentImpact ↔ ¬r.Slips s := by
  refine ⟨fun hle hslips => ?_, contentImpact_mono h⟩
  obtain ⟨hbefore, hafter⟩ := hslips.contentImpact h
  rw [hbefore, hafter] at hle
  exact absurd hle (by decide)

end Rating

namespace Model

/-- The data of a model with an integrity that is operational at least. -/
def operationalData (m : Model) : Dict DataAsset :=
  m.dataAssets.mapWithKey fun _ d => { d with integrity := max d.integrity .operational }

theorem raised_operationalData (m : Model) : m.Raised (m.withData m.operationalData) := by
  refine ⟨rfl, fun id => ?_⟩
  rw [withData, operationalData, Dict.get?_mapWithKey]
  cases m.dataAssets.get? id with
  | none => exact .none
  | some d => exact .some ⟨rfl, le_rfl, le_max_left d.integrity .operational, le_rfl⟩

end Model

namespace BuiltinRule

variable {m : Model} {data : Dict DataAsset} {r : Risk}

/-! ## The two rules -/

theorem missingAuthentication_rises_iff (hm : m.Coherent) (h : m.RaisedBy data)
    (hr : r ∈ missingAuthentication.findings m) :
    ∃ l ∈ m.links, r.link = some l.id ∧
      ∃ s ∈ missingAuthentication.findings (m.withData data), s.syntheticId = r.syntheticId ∧
        (r.impact ≤ s.impact ↔ ¬(l.rating m).Slips (l.rating (m.withData data))) := by
  obtain ⟨a, ha, hr⟩ := List.mem_flatMap.1 hr
  obtain ⟨x, hx, rfl⟩ := List.mem_map.1 hr
  obtain ⟨hcaller, hlink, -⟩ := hm.mem_accesses (List.mem_of_mem_filter hx)
  have ha' : a ∈ (m.withData data).inScope.filter fun a =>
      !([.loadBalancer, .reverseProxy, .serviceRegistry, .waf, .ids, .ips].contains a.technology) &&
        needsAuthentication (m.withData data) a := by
    rw [List.mem_filter, Bool.and_eq_true, needsAuthentication, Bool.or_eq_true] at ha ⊢
    exact ⟨ha.1, ha.2.1, ha.2.2.imp_left (Rating.isHigh_mono (h.rating_asset a))⟩
  exact ⟨x.link, List.mem_flatMap.2 ⟨x.caller, hcaller, hlink⟩, rfl, _,
    List.mem_flatMap.2 ⟨a, ha', List.mem_map_of_mem hx⟩, rfl,
    Rating.contentImpact_le_iff (h.rating_link x.link)⟩

theorem searchQueryInjection_rises_iff (h : m.RaisedBy data)
    (hr : r ∈ searchQueryInjection.findings m) :
    ∃ engine ∈ m.technicalAssets.values, r.breachAssets = [engine.id] ∧
      ∃ s ∈ searchQueryInjection.findings (m.withData data), s.syntheticId = r.syntheticId ∧
        (r.impact ≤ s.impact ↔ ¬(engine.rating m).Slips (engine.rating (m.withData data))) := by
  obtain ⟨engine, hengine, hr⟩ := List.mem_flatMap.1 hr
  obtain ⟨x, hx, rfl⟩ := List.mem_map.1 hr
  exact ⟨engine, List.mem_of_mem_filter hengine, rfl, _,
    List.mem_flatMap.2 ⟨engine, hengine, List.mem_map_of_mem hx⟩, rfl,
    Rating.contentImpact_le_iff (h.rating_asset engine)⟩

/-- What the two rules find is found again when data is rated higher, and at least as bad unless the
transferred data, or the search engine with its data, slips from archived to operational. -/
theorem contentFindings_rise_iff {m m' : Model} (hm : m.Accepted) (h : m.Raised m') :
    (∀ r ∈ missingAuthentication.findings m, ∃ l ∈ m.links, r.link = some l.id ∧
      ∃ s ∈ missingAuthentication.findings m', s.syntheticId = r.syntheticId ∧
        (r.impact ≤ s.impact ↔ ¬(l.rating m).Slips (l.rating m'))) ∧
    ∀ r ∈ searchQueryInjection.findings m,
      ∃ engine ∈ m.technicalAssets.values, r.breachAssets = [engine.id] ∧
        ∃ s ∈ searchQueryInjection.findings m', s.syntheticId = r.syntheticId ∧
          (r.impact ≤ s.impact ↔ ¬(engine.rating m).Slips (engine.rating m')) := by
  obtain ⟨hsame, hraised⟩ := h
  rw [hsame]
  exact ⟨fun _ => missingAuthentication_rises_iff hm.coherent hraised,
    fun _ => searchQueryInjection_rises_iff hraised⟩

/-- A shop with a search engine, which is shared with others and asks no caller who it is, and an index
behind it. -/
def searchedShop (integrity : String) : ModelInput where
  title := "Searched shop"
  businessCriticality := "important"
  dataAssets := .ofList [("Terms", {
    id := "terms", quantity := "many", confidentiality := "public", integrity := integrity
    availability := "archive" })]
  technicalAssets := .ofList [
    ("Shop", {
      id := "shop", kind := "process", usage := "business", size := "application"
      technology := "web-application", machine := "container", encryption := "none"
      confidentiality := "internal", integrity := "archive", availability := "archive"
      links := .ofList [("Search", {
        target := "engine", protocol := "https", authentication := "none", authorization := "none"
        usage := "business", dataSent := ["terms"] })] }),
    ("Engine", {
      id := "engine", kind := "process", usage := "business", size := "service"
      technology := "search-engine", machine := "container", encryption := "none", multiTenant := true
      confidentiality := "internal", integrity := "archive", availability := "archive"
      dataProcessed := ["terms"]
      links := .ofList [("Lookup", {
        target := "index", protocol := "https", authentication := "none", authorization := "none"
        usage := "business", dataSent := ["terms"] })] }),
    ("Index", {
      id := "index", kind := "process", usage := "business", size := "service"
      technology := "search-index", machine := "container", encryption := "none"
      confidentiality := "internal", integrity := "operational", availability := "archive"
      dataProcessed := ["terms"] })]

/-- With terms that are operational in place of archived the call to the shared engine counts for less,
and the queries to the index, which is operational itself, for no less. -/
theorem searchedShop_findings :
    ∃ m, Validation.build ⟨2024, 3, 1⟩ (searchedShop "archive") = .ok m ∧
      (∃ r ∈ missingAuthentication.findings m, r.link = some "shop>search" ∧
        ∃ s ∈ missingAuthentication.findings (m.withData m.operationalData),
          s.syntheticId = r.syntheticId ∧ ¬r.impact ≤ s.impact) ∧
      ∃ r ∈ searchQueryInjection.findings m, r.breachAssets = ["index"] ∧
        ∃ s ∈ searchQueryInjection.findings (m.withData m.operationalData),
          s.syntheticId = r.syntheticId ∧ r.impact ≤ s.impact := by
  have hchecked : (Validation.build ⟨2024, 3, 1⟩ (searchedShop "archive")).toOption.map (fun m =>
      decide ((∃ r ∈ missingAuthentication.findings m, r.link = some "shop>search") ∧
        (∀ l ∈ m.links, l.id = "shop>search" →
          (l.rating m).Slips (l.rating (m.withData m.operationalData))) ∧
        (∃ r ∈ searchQueryInjection.findings m, r.breachAssets = ["index"]) ∧
        ∀ engine ∈ m.technicalAssets.values, engine.id = "index" →
          ¬(engine.rating m).Slips (engine.rating (m.withData m.operationalData)))) = some true := by
    decide +kernel
  obtain ⟨m, hm, hchecked⟩ := Model.exists_of_build hchecked
  obtain ⟨⟨r, hr, hlink⟩, hslips, ⟨q, hq, hbreach⟩, hkept⟩ := of_decide_eq_true hchecked
  obtain ⟨hcalls, hqueries⟩ := contentFindings_rise_iff (.of_build hm) m.raised_operationalData
  obtain ⟨l, hl, hid, s, hs, hsame, hiff⟩ := hcalls r hr
  obtain ⟨engine, hengine, hid', t, ht, hsame', hiff'⟩ := hqueries q hq
  have hl' : l.id = "shop>search" := Option.some.inj (hid.symm.trans hlink)
  have hengine' : engine.id = "index" := (List.cons.inj (hid'.symm.trans hbreach)).1
  exact ⟨m, hm,
    ⟨r, hr, hlink, s, hs, hsame, fun hle => hiff.1 hle (hslips l hl hl')⟩,
    q, hq, hbreach, t, ht, hsame', hiff'.2 (hkept engine hengine hengine')⟩

/-- Of two checked models that differ only in the integrity of the terms, the one that rates it higher
has findings of both rules that count for less. -/
theorem searchedShop_findings_fall :
    ∃ m m', Validation.build ⟨2024, 3, 1⟩ (searchedShop "archive") = .ok m ∧
      Validation.build ⟨2024, 3, 1⟩ (searchedShop "operational") = .ok m' ∧ m.Raised m' ∧
      (∃ r ∈ missingAuthentication.findings m, ∀ s ∈ missingAuthentication.findings m',
        s.syntheticId = r.syntheticId → ¬r.impact ≤ s.impact) ∧
      ∃ r ∈ searchQueryInjection.findings m, ∀ s ∈ searchQueryInjection.findings m',
        s.syntheticId = r.syntheticId → ¬r.impact ≤ s.impact := by
  have hchecked : (Validation.build ⟨2024, 3, 1⟩ (searchedShop "operational")).toOption.map (fun m' =>
      (Validation.build ⟨2024, 3, 1⟩ (searchedShop "archive")).toOption.map fun m => decide (
        m' = m.withData m.operationalData ∧
          (∃ r ∈ missingAuthentication.findings m, ∀ s ∈ missingAuthentication.findings m',
            s.syntheticId = r.syntheticId → ¬r.impact ≤ s.impact) ∧
          ∃ r ∈ searchQueryInjection.findings m, ∀ s ∈ searchQueryInjection.findings m',
            s.syntheticId = r.syntheticId → ¬r.impact ≤ s.impact)) = some (some true) := by
    decide +kernel
  obtain ⟨m', hm', hchecked⟩ := Model.exists_of_build hchecked
  obtain ⟨m, hm, hchecked⟩ := Model.exists_of_build hchecked
  obtain ⟨hsame, hfall⟩ := of_decide_eq_true hchecked
  exact ⟨m, m', hm, hm', hsame ▸ m.raised_operationalData, hfall⟩

end BuiltinRule

end ThreatModel
