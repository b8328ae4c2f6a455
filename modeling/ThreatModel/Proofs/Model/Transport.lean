import ThreatModel.Model.Change
import ThreatModel.Plugin.Served
import ThreatModel.Proofs.Model.Accepted
import ThreatModel.Proofs.Model.Written
import ThreatModel.Proofs.Risk.Written

/-!
# Models reach other processes unchanged

Executables are given a model as text. The index is not written, the reader computes it anew; so the
model that is read is the one that was sent if its index fits its graph, which holds of checked models
and after every `Model.reindex`. Of the numbers and dates that a model may hold in principle only those
are sent that the reader takes (`Model.Portable`); validation gives no others.
-/

namespace ThreatModel

open Json (Carried ReadsBack ExactField)

/-! ## Writing and reading a model -/

/-- The numbers and dates of a model are such as their texts are read as. -/
structure Model.Portable (m : Model) : Prop where
  date : m.date.exists? = true
  technicalAssets : ∀ a ∈ m.technicalAssets.values, a.Portable
  individualCategories : ∀ c ∈ m.individualCategories.values, c.category.Portable
  tracking : ∀ r ∈ m.tracking.values, r.Portable

namespace Model

variable {m : Model}

/-- The fields of a model. -/
def fields (m : Model) : List (String × Option Json) :=
  [("title", some (.string m.title)), ("author", some m.author.toJson),
    ("date", some (.string m.date.render)),
    ("business_criticality", some (.ofWord m.businessCriticality)),
    ("management_summary_comment", some (.string m.managementSummaryComment)),
    ("business_overview", some m.businessOverview.toJson),
    ("technical_overview", some m.technicalOverview.toJson),
    ("security_requirements", some (.ofDict .string m.securityRequirements)),
    ("questions", some (.ofDict .string m.questions)),
    ("abuse_cases", some (.ofDict .string m.abuseCases)),
    ("tags_available", some (.ofTexts m.tagsAvailable)),
    ("data_assets", some (.ofDict DataAsset.toJson m.dataAssets)),
    ("technical_assets", some (.ofDict TechnicalAsset.toJson m.technicalAssets)),
    ("trust_boundaries", some (.ofDict TrustBoundary.toJson m.trustBoundaries)),
    ("shared_runtimes", some (.ofDict SharedRuntime.toJson m.sharedRuntimes)),
    ("individual_risk_categories",
      some (.ofDict IndividualCategory.toJson m.individualCategories)),
    ("risk_tracking", some (.ofDict TrackingRecord.toJson m.tracking))]

/-- A model whose index fits its graph is carried by its form. -/
theorem carried (h : m.Portable) (hindex : m.reindex = m) : Carried toJson ofJson? m := by
  have hauthor := Author.carried m.author
  have hdate := Date.carried h.date
  have hoverview := Overview.carried
  have htags := Json.carried_texts m.tagsAvailable
  have htexts := Json.carried_textDict
  have hdata := Json.carried_dict fun d (_ : d ∈ m.dataAssets.values) => DataAsset.carried d
  have hassets := Json.carried_dict fun a ha => TechnicalAsset.carried (h.technicalAssets a ha)
  have hboundaries :=
    Json.carried_dict fun b (_ : b ∈ m.trustBoundaries.values) => TrustBoundary.carried b
  have hruntimes :=
    Json.carried_dict fun r (_ : r ∈ m.sharedRuntimes.values) => SharedRuntime.carried r
  have hcategories :=
    Json.carried_dict fun c hc => IndividualCategory.carried (h.individualCategories c hc)
  have htracking := Json.carried_dict fun r hr => TrackingRecord.carried (h.tracking r hr)
  refine Json.carried_record m.fields (fun _ => rfl) rfl rfl (by decide) ?_ fun slots hslots => ?_
  · simp [fields, hauthor.exact, (hoverview _).exact, htags.exact, (htexts _).exact, hdata.exact,
      hassets.exact, hboundaries.exact, hruntimes.exact, hcategories.exact, htracking.exact]
  · -- What is read is the graph with a new index.
    refine Eq.trans ?_ (congrArg some hindex)
    simp [hslots, fields, List.lookup_cons, Record.required, Json.optional_eq, Json.text?,
      hauthor.read, hdate.read, (hoverview _).read, htags.read, (htexts _).read, hdata.read,
      hassets.read, hboundaries.read, hruntimes.read, hcategories.read, htracking.read, reindex,
      buildIndex, links]

/-- The index has no part in what is sent. -/
theorem Portable.reindex (h : m.Portable) : m.reindex.Portable :=
  ⟨h.date, h.technicalAssets, h.individualCategories, h.tracking⟩

/-- Scores are sent if their texts read back. -/
theorem Portable.rescored (h : m.Portable) {raa : String → Float}
    (hraa : ∀ id, m.technicalAssets.contains id = true → ReadsBack (raa id)) :
    (m.rescored raa).Portable where
  date := h.date
  technicalAssets a ha := by
    obtain ⟨id, hid⟩ := Dict.mem_values_iff.1 ha
    rw [Model.rescored, Dict.get?_mapWithKey, Option.map_eq_some_iff] at hid
    obtain ⟨b, hb, rfl⟩ := hid
    have hportable := h.technicalAssets b (Dict.mem_values_of_get? hb)
    exact ⟨hportable.links, hportable.diagramOrder, hraa id (Dict.contains_eq_true_iff.2 ⟨b, hb⟩)⟩
  individualCategories := h.individualCategories
  tracking := h.tracking

end Model

/-! ## Checked models -/

/-- The numbers of a stated model have the sizes that model files allow. -/
structure ModelInput.Sized (x : ModelInput) : Prop where
  diagramWeight : ∀ a ∈ x.technicalAssets.values, ∀ l ∈ a.links.values,
    l.diagramWeight ≤ 0xFFFFFFFF
  diagramOrder : ∀ a ∈ x.technicalAssets.values,
    -0x80000000 ≤ a.diagramOrder ∧ a.diagramOrder ≤ 0x7FFFFFFF
  cwe : ∀ c ∈ x.individualCategories.values, c.cwe ≤ 0xFFFFFFFF

/-- A stated date is a day of the calendar. -/
theorem Validation.ReadsDate.exists {text : String} {date : Option Date}
    (h : Validation.ReadsDate text date) : ∀ d ∈ date, d.exists? = true := by
  intro d hd
  rw [Validation.ReadsDate] at h
  split at h
  · rw [h] at hd
    cases hd
  · rw [h.2] at hd
    exact Date.exists_of_parseWith hd

/-- A checked asset has the numbers that were stated, its links have at least the weight one. -/
theorem TechnicalAssetInput.States.portable {x : TechnicalAssetInput} {t : String}
    {a : TechnicalAsset} (h : x.States t a)
    (hweight : ∀ l ∈ x.links.values, l.diagramWeight ≤ 0xFFFFFFFF)
    (horder : -0x80000000 ≤ x.diagramOrder ∧ x.diagramOrder ≤ 0x7FFFFFFF) : a.Portable where
  links l hl := by
    obtain ⟨stated, hstated, hperm⟩ := h.links
    obtain ⟨e, he, hel⟩ := Validation.exists_left_of_mem hstated (hperm.mem_iff.2 hl)
    have hle := hweight e.2 (Dict.mem_values_of_mem_entries he)
    rw [Link.Portable, hel.diagramWeight]
    omega
  diagramOrder := h.diagramOrder ▸ horder
  raa := by
    rw [h.raa]
    decide +kernel

/-- Validation gives only numbers and dates that can be sent. -/
theorem ModelInput.StatesModel.portable {today : Date} {x : ModelInput} {m : Model}
    (h : x.StatesModel today m) (htoday : today.exists? = true) (hx : x.Sized) : m.Portable where
  date := by
    obtain ⟨date, hdate, heq⟩ := h.date
    rw [heq]
    cases date with
    | none => exact htoday
    | some d => exact hdate.exists d rfl
  technicalAssets a ha := by
    obtain ⟨e, he, hstates⟩ := h.technicalAssets.exists_of_mem ha
    have hmem := Dict.mem_values_of_mem_entries he
    exact hstates.portable (hx.diagramWeight e.2 hmem) (hx.diagramOrder e.2 hmem)
  individualCategories c hc := by
    obtain ⟨e, he, hstates⟩ := h.individualCategories.exists_of_mem hc
    rw [Category.Portable, hstates.cwe]
    exact hx.cwe e.2 (Dict.mem_values_of_mem_entries he)
  tracking r hr := by
    obtain ⟨e, -, hstates⟩ := h.tracking.exists_of_mem hr
    exact hstates.date.exists

/-! ## What other processes are given -/

namespace Plugin

/-- An executable is given the very model that is sent: a checked one with scores whose texts read
back, or one that was changed and indexed again. -/
theorem transport_lossless :
    (∀ (today : Date) (x : ModelInput) (m : Model) (raa : String → Float),
      today.exists? = true → x.Sized → Validation.build today x = .ok m →
      (∀ id, m.technicalAssets.contains id = true → ReadsBack (raa id)) →
        given? (m.rescored raa).toJson.render = some (m.rescored raa)) ∧
    ∀ m : Model, m.Portable → given? m.reindex.toJson.render = some m.reindex := by
  constructor
  · intro today x m raa htoday hx hbuild hraa
    obtain ⟨p, hp, rfl⟩ := Validation.build_eq_ok_iff.1 hbuild
    have hportable := (hp.statesModel.portable htoday hx).rescored hraa
    exact (Model.carried hportable hp.wellFormed.rescored.index).parse
  · intro m h
    exact (Model.carried h.reindex m.reindex_reindex).parse

/-- The shop is sent with scores, and again without its cloud. -/
theorem bookshop_transported :
    ∃ m, Validation.build ⟨2024, 3, 1⟩ Validation.bookshop = .ok m ∧
      given? (m.rescored fun _ => 50.5).toJson.render = some (m.rescored fun _ => 50.5) ∧
      given? (m.removeBoundary "cloud").toJson.render = some (m.removeBoundary "cloud") := by
  have hsized : Validation.bookshop.Sized :=
    ⟨by decide +kernel, by decide +kernel, by decide +kernel⟩
  have hbuild : (Validation.build ⟨2024, 3, 1⟩ Validation.bookshop).toOption.map (fun _ => ()) =
      some () := by
    decide +kernel
  obtain ⟨m, hm, -⟩ := Model.exists_of_build hbuild
  obtain ⟨p, hp, rfl⟩ := Validation.build_eq_ok_iff.1 hm
  have hportable := hp.statesModel.portable (by decide) hsized
  refine ⟨_, hm, ?_, ?_⟩
  · exact transport_lossless.1 _ _ _ _ (by decide) hsized hm fun _ _ => by decide +kernel
  · exact transport_lossless.2 _ ⟨hportable.date, hportable.technicalAssets,
      hportable.individualCategories, hportable.tracking⟩

end Plugin

end ThreatModel
