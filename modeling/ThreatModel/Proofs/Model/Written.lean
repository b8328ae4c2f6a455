import ThreatModel.Model.Basic
import ThreatModel.Proofs.Calendar
import ThreatModel.Proofs.Json.Record

/-!
# Written elements are read back

Each element of a model is written as a record. For each kind of record `fields` lists what is written
under which name; that the names are those that the reader knows, that every field is exact, and that
the reader puts the fields where they were taken from gives that the element is carried by its form.
Numbers and dates must lie where their texts are read, which is said of an element by `Portable`.
-/

namespace ThreatModel

open Json

attribute [local simp] text? bool? List.lookup_cons Record.required optional_eq

/-! ## Descriptions -/

/-- The fields of an author. -/
def Author.fields (a : Author) : List (String × Option Json) :=
  [("name", some (.string a.name)), ("homepage", textField a.homepage)]

theorem Author.carried (a : Author) : Carried toJson ofJson? a := by
  refine carried_record a.fields (fun _ => rfl) ?_ rfl (by decide) ?_ fun slots hslots => ?_
  · simp [toJson, fields]
  · simp [fields]
  · simp [hslots, fields]

/-- The fields of an overview. -/
def Overview.fields (o : Overview) : List (String × Option Json) :=
  [("description", some (.string o.description)),
    ("images", listField (ofDict .string) o.images)]

theorem Overview.carried (o : Overview) : Carried toJson ofJson? o := by
  have himages : ∀ d ∈ o.images, Carried (ofDict .string) Record.textDict d :=
    fun d _ => carried_textDict d
  refine carried_record o.fields (fun _ => rfl) ?_ rfl (by decide) ?_ fun slots hslots => ?_
  · simp [toJson, fields]
  · simp [fields, exactField_listField himages]
  · simp [hslots, fields, elim_listField himages]

/-! ## Elements -/

/-- The fields of a data asset. -/
def DataAsset.fields (d : DataAsset) : List (String × Option Json) :=
  [("id", some (.string d.id)), ("title", some (.string d.title)),
    ("description", some (.string d.description)), ("usage", some (ofWord d.usage)),
    ("tags", listField .string d.tags), ("origin", some (.string d.origin)),
    ("owner", some (.string d.owner)), ("quantity", some (ofWord d.quantity)),
    ("confidentiality", some (ofWord d.confidentiality)),
    ("integrity", some (ofWord d.integrity)), ("availability", some (ofWord d.availability)),
    ("justification_cia_rating", some (.string d.justificationCiaRating))]

theorem DataAsset.carried (d : DataAsset) : Carried toJson ofJson? d := by
  refine carried_record d.fields (fun _ => rfl) ?_ rfl (by decide) ?_ fun slots hslots => ?_
  · simp [toJson, fields]
  · simp [fields]
  · simp [hslots, fields]

/-- The weight of a link is one of the numbers that weights are. -/
def Link.Portable (l : Link) : Prop := l.diagramWeight ≤ 0xFFFFFFFF

/-- The fields of a communication link. -/
def Link.fields (l : Link) : List (String × Option Json) :=
  [("id", some (.string l.id)), ("source_id", some (.string l.sourceId)),
    ("target_id", some (.string l.targetId)), ("title", some (.string l.title)),
    ("description", some (.string l.description)), ("protocol", some (ofWord l.protocol)),
    ("tags", listField .string l.tags), ("vpn", some (.bool l.vpn)),
    ("ip_filtered", some (.bool l.ipFiltered)), ("readonly", some (.bool l.readonly)),
    ("authentication", some (ofWord l.authentication)),
    ("authorization", some (ofWord l.authorization)), ("usage", some (ofWord l.usage)),
    ("data_assets_sent", listField .string l.dataSent),
    ("data_assets_received", listField .string l.dataReceived),
    ("diagram_tweak_weight", some (ofNat l.diagramWeight)),
    ("diagram_tweak_constraint", some (.bool l.diagramConstraint))]

theorem Link.carried {l : Link} (h : l.Portable) : Carried toJson ofJson? l := by
  have hweight := carried_word32 h
  refine carried_record l.fields (fun _ => rfl) ?_ rfl (by decide) ?_ fun slots hslots => ?_
  · simp [toJson, fields]
  · simp [fields, hweight.exact]
  · simp [hslots, fields, hweight.read]

/-- The numbers of a technical asset and its links are such as their texts are read as. -/
structure TechnicalAsset.Portable (a : TechnicalAsset) : Prop where
  links : ∀ l ∈ a.links, l.Portable
  diagramOrder : -0x80000000 ≤ a.diagramOrder ∧ a.diagramOrder ≤ 0x7FFFFFFF
  raa : ReadsBack a.raa

/-- The fields of a technical asset. -/
def TechnicalAsset.fields (a : TechnicalAsset) : List (String × Option Json) :=
  [("id", some (.string a.id)), ("title", some (.string a.title)),
    ("description", some (.string a.description)), ("type", some (ofWord a.kind)),
    ("usage", some (ofWord a.usage)),
    ("used_as_client_by_human", some (.bool a.usedAsClientByHuman)),
    ("out_of_scope", some (.bool a.outOfScope)),
    ("justification_out_of_scope", textField a.justificationOutOfScope),
    ("size", some (ofWord a.size)), ("technology", some (ofWord a.technology)),
    ("machine", some (ofWord a.machine)), ("internet", some (.bool a.internet)),
    ("multi_tenant", some (.bool a.multiTenant)), ("redundant", some (.bool a.redundant)),
    ("custom_developed_parts", some (.bool a.customDevelopedParts)),
    ("encryption", some (ofWord a.encryption)), ("owner", some (.string a.owner)),
    ("confidentiality", some (ofWord a.confidentiality)),
    ("integrity", some (ofWord a.integrity)), ("availability", some (ofWord a.availability)),
    ("justification_cia_rating", some (.string a.justificationCiaRating)),
    ("tags", listField .string a.tags),
    ("data_assets_processed", listField .string a.dataProcessed),
    ("data_assets_stored", listField .string a.dataStored),
    ("data_formats_accepted", listField ofWord a.formatsAccepted),
    ("communication_links", listField Link.toJson a.links),
    ("diagram_tweak_order", some (.int a.diagramOrder)), ("raa", some (ofFloat a.raa))]

theorem TechnicalAsset.carried {a : TechnicalAsset} (h : a.Portable) :
    Carried toJson ofJson? a := by
  have hformats : ∀ f ∈ a.formatsAccepted, Carried ofWord word? f := fun f _ => carried_word f
  have hlinks : ∀ l ∈ a.links, Carried Link.toJson Link.ofJson? l :=
    fun l hl => Link.carried (h.links l hl)
  have horder := carried_int32 h.diagramOrder
  have hraa := carried_float h.raa
  refine carried_record a.fields (fun _ => rfl) ?_ rfl (by decide) ?_ fun slots hslots => ?_
  · simp [toJson, fields]
  · simp [fields, exactField_listField hformats, exactField_listField hlinks, horder.exact,
      hraa.exact]
  · simp [hslots, fields, elim_listField hformats, elim_listField hlinks, horder.read, hraa.read]

/-- The fields of a trust boundary. -/
def TrustBoundary.fields (b : TrustBoundary) : List (String × Option Json) :=
  [("id", some (.string b.id)), ("title", some (.string b.title)),
    ("description", some (.string b.description)), ("type", some (ofWord b.kind)),
    ("tags", listField .string b.tags),
    ("technical_assets_inside", listField .string b.assetsInside),
    ("trust_boundaries_nested", listField .string b.nested)]

theorem TrustBoundary.carried (b : TrustBoundary) : Carried toJson ofJson? b := by
  refine carried_record b.fields (fun _ => rfl) ?_ rfl (by decide) ?_ fun slots hslots => ?_
  · simp [toJson, fields]
  · simp [fields]
  · simp [hslots, fields]

/-- The fields of a shared runtime. -/
def SharedRuntime.fields (r : SharedRuntime) : List (String × Option Json) :=
  [("id", some (.string r.id)), ("title", some (.string r.title)),
    ("description", some (.string r.description)), ("tags", listField .string r.tags),
    ("technical_assets_running", listField .string r.assetsRunning)]

theorem SharedRuntime.carried (r : SharedRuntime) : Carried toJson ofJson? r := by
  refine carried_record r.fields (fun _ => rfl) ?_ rfl (by decide) ?_ fun slots hslots => ?_
  · simp [toJson, fields]
  · simp [fields]
  · simp [hslots, fields]

end ThreatModel
