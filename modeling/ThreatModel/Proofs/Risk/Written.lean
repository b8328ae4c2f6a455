import ThreatModel.Proofs.Calendar
import ThreatModel.Proofs.Json.Record
import ThreatModel.Risk.Individual
import ThreatModel.Risk.TrackingRecord

/-!
# Written risks are read back

Risks, their categories and the decisions about them are written as records like the elements of a
model. An individual category is not a record of its own: its risks stand beside the fields of the
category, and the reader has to tell the two apart.
-/

namespace ThreatModel

open Json

attribute [local simp] text? bool? List.lookup_cons Record.required optional_eq

/-! ## Risks -/

/-- The fields of a risk. -/
def Risk.fields (r : Risk) : List (String × Option Json) :=
  [("category", some (.string r.category)), ("risk_status", some (ofWord r.status)),
    ("severity", some (ofWord r.severity)), ("exploitation_likelihood", some (ofWord r.likelihood)),
    ("exploitation_impact", some (ofWord r.impact)), ("title", some (.string r.title)),
    ("synthetic_id", some (.string r.syntheticId)),
    ("most_relevant_data_asset", r.dataAsset.map .string),
    ("most_relevant_technical_asset", r.technicalAsset.map .string),
    ("most_relevant_communication_link", r.link.map .string),
    ("most_relevant_trust_boundary", r.boundary.map .string),
    ("most_relevant_shared_runtime", r.runtime.map .string),
    ("data_breach_probability", some (ofWord r.breachProbability)),
    ("data_breach_technical_assets", some (ofTexts r.breachAssets))]

theorem Risk.carried (r : Risk) : Carried toJson ofJson? r := by
  have hexact (v : Option String) : ExactField (v.map .string) :=
    exactField_map fun s _ => carried_text s
  have hread (v : Option String) : (v.map Json.string).elim (some none) (nullable text?) = some v :=
    elim_map (fun _ => Json.noConfusion) fun s _ => carried_text s
  have hassets := carried_texts r.breachAssets
  refine carried_record r.fields (fun _ => rfl) ?_ rfl (by decide) ?_ fun slots hslots => ?_
  · simp [toJson, fields]
  · simp [fields, hexact, hassets.exact]
  · simp [hslots, fields, hread, hassets.read]

/-! ## Categories -/

/-- The number of a category's weakness is such as its text is read as. -/
def Category.Portable (c : Category) : Prop := c.cwe ≤ 0xFFFFFFFF

/-- The fields of a category, none of which is left out. -/
def Category.fields (c : Category) : List (String × Option Json) :=
  c.members.map fun m => (m.1, some m.2)

theorem Category.ofSlots_eq {c : Category} (h : c.Portable) {slots : List (String × Json)}
    (hslots : ∀ name, slots.lookup name = (c.fields.lookup name).join) :
    ofSlots slots = some c := by
  simp [ofSlots, hslots, fields, members, (carried_word32 h).read]

theorem Category.carried {c : Category} (h : c.Portable) : Carried toJson ofJson? c := by
  refine carried_record c.fields (fun _ => rfl) rfl rfl (by decide) ?_ fun slots hslots => ?_
  · simp [fields, members, (carried_word32 h).exact]
  · exact ofSlots_eq h hslots

/-- The risks stand beside the fields of the category and are kept apart from them by their name. -/
theorem IndividualCategory.carried {c : IndividualCategory} (h : c.category.Portable) :
    Carried toJson ofJson? c := by
  have hrisks : Carried (fun l => .array (l.map Risk.toJson)) (Record.list Risk.ofJson?) c.risks :=
    carried_list fun r _ => Risk.carried r
  have hcategory := Category.carried h
  constructor
  · refine exact_object_iff.2 (List.forall_mem_append.2 ⟨?_, ?_⟩)
    · exact exact_object_iff.1 hcategory.exact
    · simpa using hrisks.exact
  · have hothers (j : Json) :
        (c.category.members ++ [("risks_identified", j)]).filter (·.1 ≠ "risks_identified") =
          c.category.members := by
      simp [Category.members]
    have hslots (j : Json) :
        slots? ["risks_identified"] (.object (c.category.members ++ [("risks_identified", j)])) =
          some [("risks_identified", j)] := by
      simp [slots?, Category.members, distinctNames]
    -- The members of a category are scalars, which can be kept and are taken as they are.
    have hkeepable : keepableMembers nestingLimit c.category.members = true := rfl
    have htaken : c.category.members.map fieldMember = c.category.members := rfl
    have hread : (slots? Category.fieldNames (.object c.category.members)).bind Category.ofSlots =
        some c.category := hcategory.read
    simp only [ofJson?, toJson, members?, Option.bind_eq_bind, Option.bind_some, hothers, hslots,
      hkeepable, htaken, hread]
    simp [hrisks.read]

/-! ## Tracking records -/

/-- The date of a tracking record is a day of the calendar. -/
def TrackingRecord.Portable (r : TrackingRecord) : Prop := ∀ d ∈ r.date, d.exists? = true

theorem Date.carried {d : Date} (h : d.exists? = true) :
    Carried (fun d => .string d.render) TrackingRecord.dateOfJson? d where
  exact := .string _
  read := parseSpaced?_render h

/-- The fields of a tracking record. -/
def TrackingRecord.fields (r : TrackingRecord) : List (String × Option Json) :=
  [("synthetic_risk_id", some (.string r.syntheticRiskId)),
    ("justification", some (.string r.justification)), ("ticket", some (.string r.ticket)),
    ("checked_by", some (.string r.checkedBy)), ("status", some (ofWord r.status)),
    ("date", r.date.map fun d => .string d.render)]

theorem TrackingRecord.carried {r : TrackingRecord} (h : r.Portable) :
    Carried toJson ofJson? r := by
  have hdate : ∀ d ∈ r.date, Carried (fun d => .string d.render) dateOfJson? d :=
    fun d hd => Date.carried (h d hd)
  refine carried_record r.fields (fun _ => rfl) ?_ rfl (by decide) ?_ fun slots hslots => ?_
  · simp [toJson, fields]
  · simp [fields, exactField_map hdate]
  · simp [hslots, fields, elim_map (fun _ => Json.noConfusion) hdate]

end ThreatModel
