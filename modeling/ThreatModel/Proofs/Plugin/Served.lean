import ThreatModel.Proofs.Model.Neighbours
import ThreatModel.Proofs.Model.Transport

/-!
# Rules find the same in a process of their own

A rule that is served by an executable answers twice: with its announcement when it is loaded, and
with its findings in the model that it is given. Each answer is a line of JSON that is carried to
the reader (`ask_answering`), and so is the model on its way there (`Model.Sendable.given`). What is
left of the exchange is that findings without an id get the one composed of their references
(`served_rule_finds_alike`).
-/

namespace ThreatModel

open Json (Carried ReadsBack)

/-! ## What is sent -/

/-- A model that validation has accepted, with scores whose texts read back. -/
def Model.Sendable (m : Model) : Prop :=
  ∃ (today : Date) (x : ModelInput) (accepted : Model) (raa : String → Float),
    today.exists? = true ∧ x.Sized ∧ Validation.build today x = .ok accepted ∧
      (∀ id, accepted.technicalAssets.contains id = true → ReadsBack (raa id)) ∧
        m = accepted.rescored raa

theorem Model.Sendable.accepted {m : Model} (h : m.Sendable) : m.Accepted := by
  obtain ⟨today, x, accepted, raa, -, -, hbuild, -, rfl⟩ := h
  exact ⟨today, x, accepted, raa, hbuild, rfl⟩

/-- The executable is given the model that is sent. -/
theorem Model.Sendable.given {m : Model} (h : m.Sendable) :
    Plugin.given? m.toJson.render = some m := by
  obtain ⟨today, x, accepted, raa, htoday, hsized, hbuild, hraa, rfl⟩ := h
  obtain ⟨p, hp, rfl⟩ := Validation.build_eq_ok_iff.1 hbuild
  have hportable := (hp.statesModel.portable htoday hsized).rescored hraa
  exact (Model.carried hportable hp.wellFormed.rescored.index).parse

/-- The fields of an announcement. -/
def PluginInfo.fields (i : PluginInfo) : List (String × Option Json) :=
  [("id", some (.string i.id)), ("category", some i.category.toJson),
    ("tags", some (.ofTexts i.tags))]

theorem PluginInfo.carried {i : PluginInfo} (h : i.category.Portable) :
    Carried toJson ofJson? i := by
  have hcategory := Category.carried h
  have htags := Json.carried_texts i.tags
  refine Json.carried_record i.fields (fun _ => rfl) rfl rfl (by decide) ?_ fun slots hslots => ?_
  · simp [fields, hcategory.exact, htags.exact]
  · simp [hslots, fields, List.lookup_cons, Record.required, Json.optional_eq, Json.text?,
      hcategory.read, htags.read]

namespace Plugin

variable {name : String} {r : ModelRule}

/-! ## One question and its answer -/

/-- What an executable answers in a line is read as what it has written. -/
theorem ask_answering {α : Type} {p : Plugin} {args : List String} {input : String}
    {write : α → Json} {read : Json → Option α} {x : α} (h : Carried write read x)
    (hrun : p.run args input = answering (write x)) : p.ask args input read = .ok x := by
  have hline : Json.parse? ((write x).render ++ "\n") = some (write x) :=
    Json.parse?_render_append h.exact (Json.stops_cons (by decide)) rfl
  simp [ask, hrun, answering, hline, h.read]

/-- The announcement names the category by its own id. -/
theorem info_serving (h : r.category.Portable) :
    (serving name r).info = .ok ⟨r.category.id, r.category, r.tags⟩ := by
  have hask : (serving name r).ask [getInfo] "" PluginInfo.ofJson? =
      .ok ⟨r.category.id, r.category, r.tags⟩ := ask_answering (PluginInfo.carried h) rfl
  rw [info, hask]
  simp [bind, Except.bind, pure, Except.pure]

theorem risks_serving {m : Model} (h : given? m.toJson.render = some m) :
    (serving name r).risks m = .ok ((r.findings m).map withId) := by
  have hfindings : Carried (fun l => .array (l.map Risk.toJson)) (Record.list Risk.ofJson?)
      (r.findings m) := Json.carried_list fun f _ => Risk.carried f
  have hrun : (serving name r).run [generateRisks] m.toJson.render =
      answering (.array ((r.findings m).map Risk.toJson)) := by
    simp [serving, getInfo, generateRisks, h]
  rw [risks, ask_answering hfindings hrun]
  rfl

/-- A served rule is loaded, and finds in a model what the rule finds in the model that arrives. -/
theorem rule_serving (h : r.category.Portable) :
    (serving name r).rule =
      .ok ⟨r.category, r.tags, fun c => (serving name r).risks c.model⟩ := by
  rw [rule, info_serving h]
  rfl

/-! ## The demonstration rule -/

/-- The assets in scope whose description is their title. -/
def undocumented (m : Model) : List TechnicalAsset :=
  m.technicalAssets.values.filter fun a => !a.outOfScope && a.description = a.title

/-- A finding of the demonstration rule has no id, and the one that it gets names its asset. -/
theorem withId_undocumented {a : TechnicalAsset} (h : a.id ≠ "") :
    withId (UndocumentedAsset.finding a) = (UndocumentedAsset.finding a).identifiedBy [a.id] := by
  have hreferences : (UndocumentedAsset.finding a).references = [a.id] := rfl
  have hkept : [a.id].filter (!·.isEmpty) = [a.id] := by simpa using h
  show (UndocumentedAsset.finding a).withComposedId = _
  rw [Risk.withComposedId, Risk.composedId, hreferences, hkept, Risk.identifiedBy]

theorem map_withId_undocumented {m : Model} (h : m.Accepted) :
    (ModelRule.undocumentedAsset.findings m).map withId =
      (undocumented m).map fun a => (UndocumentedAsset.finding a).identifiedBy [a.id] := by
  have hscope : m.inScope.filter UndocumentedAsset.isUndocumented = undocumented m := by
    rw [Model.inScope, List.filter_filter]
    exact List.filter_congr fun a _ => Bool.and_comm ..
  show ((m.inScope.filter UndocumentedAsset.isUndocumented).map UndocumentedAsset.finding).map
    withId = _
  rw [hscope, List.map_map]
  refine List.map_congr_left fun a ha => withId_undocumented ?_
  exact (h.coherent.technicalAssets.isId_of_mem (List.mem_of_mem_filter ha)).1

/-! ## The exchange as a whole -/

/-- A served rule is loaded with its category and its tags. In every model that is sent it finds
what the rule finds, up to the ids of findings that have none; the demonstration rule finds the
assets in scope without a description of their own, each once. -/
theorem served_rule_finds_alike :
    (∀ (name : String) (r : ModelRule), r.category.Portable →
      ∃ rule, (serving name r).rule = .ok rule ∧ rule.category = r.category ∧ rule.tags = r.tags ∧
        ∀ c : AnalysisContext, c.model.Sendable →
          rule.findings c = .ok ((r.findings c.model).map withId)) ∧
    ∃ p ∈ bundled, p.name = "threatscry-demo-rule" ∧ ∃ rule, p.rule = .ok rule ∧
      ∀ c : AnalysisContext, c.model.Sendable → ∃ found, rule.findings c = .ok found ∧
        found = (undocumented c.model).map
          (fun a => (UndocumentedAsset.finding a).identifiedBy [a.id]) ∧
        found.map (·.syntheticId) =
          (undocumented c.model).map fun a => "demo-undocumented-asset@" ++ a.id := by
  constructor
  · intro name r hr
    exact ⟨_, rule_serving hr, rfl, rfl, fun c hc => risks_serving hc.given⟩
  · have hportable : ModelRule.undocumentedAsset.category.Portable := by
      unfold Category.Portable
      decide
    refine ⟨serving "threatscry-demo-rule" .undocumentedAsset, List.mem_cons_self, rfl, _,
      rule_serving hportable, fun c hc => ⟨_, risks_serving hc.given, ?_, ?_⟩⟩
    · exact map_withId_undocumented hc.accepted
    · rw [map_withId_undocumented hc.accepted, List.map_map]
      rfl

/-- In the scored shop nothing is described. -/
theorem bookshop_undocumented :
    ∃ m rule, Validation.build ⟨2024, 3, 1⟩ Validation.bookshop = .ok m ∧
      (serving "demo" .undocumentedAsset).rule = .ok rule ∧
      (m.rescored fun _ => 50.5).Sendable ∧
      (rule.findings { model := m.rescored fun _ => 50.5 }).map (·.map (·.syntheticId)) =
        .ok ["demo-undocumented-asset@shop", "demo-undocumented-asset@store"] := by
  have hbuild : (Validation.build ⟨2024, 3, 1⟩ Validation.bookshop).toOption.map (fun m =>
      ((ModelRule.undocumentedAsset.findings (m.rescored fun _ => 50.5)).map withId).map
        (·.syntheticId)) =
      some ["demo-undocumented-asset@shop", "demo-undocumented-asset@store"] := by
    decide +kernel
  obtain ⟨m, hm, hids⟩ := Model.exists_of_build hbuild
  have hsent : (m.rescored fun _ => 50.5).Sendable :=
    ⟨_, _, m, _, by decide, ⟨by decide +kernel, by decide +kernel, by decide +kernel⟩, hm,
      fun _ _ => by decide +kernel, rfl⟩
  obtain ⟨rule, hrule, -, -, hfindings⟩ :=
    served_rule_finds_alike.1 "demo" .undocumentedAsset (by unfold Category.Portable; decide)
  refine ⟨m, rule, hm, hrule, hsent, ?_⟩
  rw [hfindings _ hsent, ← hids]
  rfl

end Plugin

end ThreatModel
