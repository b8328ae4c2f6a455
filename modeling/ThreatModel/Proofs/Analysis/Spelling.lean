import ThreatModel.Proofs.Analysis.Outcome

/-!
# Ids that differ in case only

Ids of elements and categories are compared as they are written, but a report finds its risks, and
reconciliation the risks of a record, by ids in lower case. So two elements whose ids differ in case
only may share a tracking record, and one risk hides the other one. It happens in no other way:
synthetic ids are made of names of a model, and where two of them are the same in lower case, two
names are (`Risk.Named.misspelt`). In a model that spells its names apart every record is about one
id, and every id finds risks of its own.
-/

namespace ThreatModel

/-! ## Texts of ASCII characters -/

namespace Text

variable {s t : String} {c : Char}

/-- A text has ASCII characters only. -/
def Ascii (s : String) : Prop := ∀ c ∈ s.toList, c.toNat < 0x80

-- The characters are gone through one by one, and not all characters that there are.
instance : DecidablePred Ascii := fun s =>
  decidable_of_iff (s.toList.all (·.toNat < 0x80) = true) (by simp [Ascii])

theorem ascii_append : Ascii (s ++ t) ↔ Ascii s ∧ Ascii t := by
  simp only [Ascii, String.toList_append, List.forall_mem_append]

theorem toList_lower_of_ascii (h : Ascii s) : (lower s).toList = s.toList.map Char.toLower := by
  rw [toList_lower, lowerChars_ascii h]

/-- An ASCII character that is no capital. -/
def isSmall (c : Char) : Bool := c.toNat < 0x80 && !(0x41 ≤ c.toNat && c.toNat ≤ 0x5A)

theorem isSmall_eq_true_iff :
    isSmall c = true ↔ c.toNat < 0x80 ∧ ¬(0x41 ≤ c.toNat ∧ c.toNat ≤ 0x5A) := by
  rw [isSmall, Bool.and_eq_true, Bool.not_eq_true', ← Bool.not_eq_true, Bool.and_eq_true]
  simp only [decide_eq_true_eq]

theorem ascii_of_isSmall (h : s.toList.all isSmall = true) : Ascii s :=
  fun c hc => (isSmall_eq_true_iff.1 (List.all_eq_true.1 h c hc)).1

/-- A text without capitals is in lower case. -/
theorem lower_eq_self (h : s.toList.all isSmall = true) : lower s = s := by
  rw [← String.toList_inj, toList_lower]
  refine lowerAfter_of_settled [] fun c hc => ?_
  obtain ⟨hascii, hcapital⟩ := isSmall_eq_true_iff.1 (List.all_eq_true.1 h c hc)
  exact settled_of_ascii hascii hcapital

theorem lower_append_of_ascii (hs : Ascii s) (ht : Ascii t) :
    lower (s ++ t) = lower s ++ lower t := by
  rw [← String.toList_inj, toList_lower_of_ascii (ascii_append.2 ⟨hs, ht⟩), String.toList_append,
    String.toList_append, List.map_append, toList_lower_of_ascii hs, toList_lower_of_ascii ht]

/-- No letter becomes a separator. -/
theorem toLower_ne_at (h : c ≠ '@') : c.toLower ≠ '@' := by
  by_cases hcapital : 0x41 ≤ c.toNat ∧ c.toNat ≤ 0x5A
  · intro hat
    have hnat := toNat_toLower hcapital
    rw [hat] at hnat
    have : ('@' : Char).toNat = 0x40 := rfl
    omega
  · rwa [toLower_eq_self hcapital]

theorem plain_lower_of_ascii (h : Ascii s) (hs : Risk.Plain s) : Risk.Plain (lower s) := by
  rw [Risk.Plain, toList_lower_of_ascii h, List.mem_map]
  rintro ⟨c, hc, hat⟩
  exact toLower_ne_at (fun heq => hs (heq ▸ hc)) hat

end Text

open Text (Ascii)

namespace Validation

theorem toNat_lt_of_isIdChar {c : Char} (h : isIdChar c = true) : c.toNat < 0x80 := by
  obtain hcase | hcase | hcase | rfl := isIdChar_eq_true_iff.1 h
  · have hle : c.toNat ≤ 0x5A := hcase.2
    omega
  · have hle : c.toNat ≤ 0x7A := hcase.2
    omega
  · have hle : c.toNat ≤ 0x39 := hcase.2
    omega
  · decide

theorem IsId.ascii {s : String} (h : IsId s) : Ascii s :=
  fun c hc => toNat_lt_of_isIdChar (isIdChar_eq_true_iff.2 (h.2 c hc))

end Validation

namespace Risk

variable {category : String} {ids : List String}

/-- Lower-casing an id lower-cases its parts. -/
theorem lower_joinIds (hcategory : Ascii category) (hids : ∀ id ∈ ids, Ascii id) :
    Text.lower (joinIds category ids) = joinIds (Text.lower category) (ids.map Text.lower) := by
  induction ids generalizing category with
  | nil => rfl
  | cons id ids ih =>
    rw [List.forall_mem_cons] at hids
    have hat : Ascii (category ++ "@") := Text.ascii_append.2 ⟨hcategory, by decide⟩
    have hjoined : Ascii (category ++ "@" ++ id) := Text.ascii_append.2 ⟨hat, hids.1⟩
    have hlower : Text.lower (category ++ "@" ++ id) =
        Text.lower category ++ "@" ++ Text.lower id := by
      rw [Text.lower_append_of_ascii hat hids.1, Text.lower_append_of_ascii hcategory (by decide)]
      rfl
    have hrest := ih hjoined hids.2
    rw [hlower] at hrest
    exact hrest

end Risk

/-! ## Names -/

namespace Model

/-- The ids that a model states: those of its categories and of its elements. -/
def statedNames (m : Model) : List String :=
  m.individualCategories.values.map (·.category.id) ++ m.dataAssets.keys ++
    m.technicalAssets.keys ++ m.index.linksById.keys ++ m.trustBoundaries.keys ++
      m.sharedRuntimes.keys

/-- All that synthetic ids are made of: the ids of the built-in rules and those that a model
states. -/
def names (m : Model) : List String := BuiltinRule.all.map (·.category.id) ++ m.statedNames

/-- No two names of a model differ in case only. -/
def SpelledApart (m : Model) : Prop :=
  ∀ s ∈ m.names, ∀ t ∈ m.names, Text.lower s = Text.lower t → s = t

variable {m : Model} {s : String}

theorem mem_names_iff :
    s ∈ m.names ↔ (∃ rule ∈ Analysis.rulesFor m .builtin, rule.id = s) ∨ m.HasElement s := by
  have hrules : (Analysis.rulesFor m .builtin).map Rule.id =
      BuiltinRule.all.map (·.category.id) ++ m.individualCategories.values.map (·.category.id) := by
    rw [Analysis.rulesFor, List.map_append, Registry.rules_builtin, List.map_map, List.map_map]
    rfl
  rw [← List.mem_map, hrules]
  simp only [names, statedNames, HasElement, List.mem_append, Dict.mem_keys_iff, or_assoc]
  rfl

/-- The ids of the built-in rules are in lower case. -/
theorem isSmall_builtin :
    ∀ rule ∈ BuiltinRule.all, rule.category.id.toList.all Text.isSmall = true := by
  decide +kernel

/-- A model that states names in lower case only spells its names apart. -/
theorem spelledApart_of_lower (h : ∀ s ∈ m.statedNames, Text.lower s = s) : m.SpelledApart := by
  have hlower : ∀ s ∈ m.names, Text.lower s = s := by
    refine List.forall_mem_append.2 ⟨List.forall_mem_map.2 fun rule hrule => ?_, h⟩
    exact Text.lower_eq_self (isSmall_builtin rule hrule)
  intro s hs t ht heq
  rwa [hlower s hs, hlower t ht] at heq

namespace Coherent

theorem ascii_link (h : m.Coherent) {l : Link} (hl : l ∈ m.links) : Ascii l.id := by
  obtain ⟨a, ha, hla⟩ := List.mem_flatMap.1 hl
  obtain ⟨title, hid⟩ := h.link_id l hl
  rw [hid, h.link_source a ha l hla]
  have hslug : Ascii (Text.slug title) := fun c hc =>
    Validation.toNat_lt_of_isIdChar (by simpa [Validation.isIdChar] using Text.mem_slug hc)
  have hsource : Ascii a.id := (h.technicalAssets.isId_of_mem ha).ascii
  exact Text.ascii_append.2 ⟨Text.ascii_append.2 ⟨hsource, by decide⟩, hslug⟩

theorem plain_and_ascii_of_hasElement (h : m.Coherent) (hs : m.HasElement s) :
    Risk.Plain s ∧ Ascii s := by
  refine ⟨(h.ne_empty_and_plain hs).2, ?_⟩
  obtain hs | hs | hs | hs | hs := hs
  · exact (h.dataAssets.isId_of_contains hs).ascii
  · exact (h.technicalAssets.isId_of_contains hs).ascii
  · have hmem : s ∈ m.links.map (·.id) := by
      rw [← Model.isSome_link?_reindex, h.index]
      exact hs
    obtain ⟨l, hl, rfl⟩ := List.mem_map.1 hmem
    exact h.ascii_link hl
  · exact (h.trustBoundaries.isId_of_contains hs).ascii
  · exact (h.sharedRuntimes.isId_of_contains hs).ascii

theorem plain_and_ascii_of_mem_names (h : m.Coherent) (hs : s ∈ m.names) :
    Risk.Plain s ∧ Ascii s := by
  obtain ⟨rule, hrule, rfl⟩ | hs := mem_names_iff.1 hs
  · obtain hrule | hrule := List.mem_append.1 hrule
    · obtain ⟨builtin, hbuiltin, rfl⟩ := Registry.mem_rules_builtin_iff.1 hrule
      exact ⟨BuiltinRule.plain_category builtin hbuiltin,
        Text.ascii_of_isSmall (isSmall_builtin builtin hbuiltin)⟩
    · obtain ⟨c, hc, rfl⟩ := List.mem_map.1 hrule
      have hid := h.individualCategories.isId_of_mem hc
      exact ⟨hid.plain, hid.ascii⟩
  · exact h.plain_and_ascii_of_hasElement hs

end Coherent

end Model

/-! ## Named risks -/

namespace Risk

variable {m : Model} {r s : Risk}

/-- The id of a risk is made of names of a model. -/
def Named (m : Model) (r : Risk) : Prop :=
  ∃ category ids, r.syntheticId = joinIds category ids ∧ ∀ s ∈ category :: ids, s ∈ m.names

/-- The id composed of a category and references is made of names if the references are. -/
theorem named_composed (hcategory : r.category ∈ m.names) (hrefers : r.Refers m)
    (hid : r.syntheticId = r.composedId) : r.Named m := by
  refine ⟨_, _, hid, List.forall_mem_cons.2 ⟨hcategory, fun s hs => ?_⟩⟩
  obtain ⟨reference, hreference, hs⟩ := List.mem_filterMap.1 (List.mem_of_mem_filter hs)
  obtain rfl : reference = some s := hs
  simp only [List.mem_cons, List.not_mem_nil, or_false] at hreference
  rw [Model.mem_names_iff]
  right
  obtain h | h | h | h | h := hreference
  · exact .inr (.inl (hrefers.technicalAsset s (by simp [← h])))
  · exact .inr (.inr (.inl (hrefers.link s (by simp [← h]))))
  · exact .inr (.inr (.inr (.inl (hrefers.boundary s (by simp [← h])))))
  · exact .inr (.inr (.inr (.inr (hrefers.runtime s (by simp [← h])))))
  · exact .inl (hrefers.dataAsset s (by simp [← h]))

/-- Two ids have, at the same place, two names that differ in case only. -/
def Misspelt (m : Model) (id id' : String) : Prop :=
  ∃ (i : Nat) (x y : String), (segments id)[i]? = some x ∧ (segments id')[i]? = some y ∧
    x ∈ m.names ∧ y ∈ m.names ∧ x ≠ y ∧ Text.lower x = Text.lower y

/-- Lists that become the same have different members at some place if they are different. -/
theorem exists_ne_of_map_eq {f : String → String} {parts parts' : List String}
    (hne : parts ≠ parts') (hmap : parts.map f = parts'.map f) :
    ∃ (i : Nat) (x y : String), parts[i]? = some x ∧ parts'[i]? = some y ∧ x ≠ y ∧ f x = f y := by
  obtain ⟨i, hi⟩ : ∃ i : Nat, parts[i]? ≠ parts'[i]? := by
    by_contra hsame
    exact hne (List.ext_getElem? fun i => not_not.1 fun hi => hsame ⟨i, hi⟩)
  have hplace : parts[i]?.map f = parts'[i]?.map f := by
    rw [← List.getElem?_map, hmap, List.getElem?_map]
  refine ⟨i, ?_⟩
  cases hx : parts[i]? with
  | none =>
    rw [hx, Option.map_none, eq_comm, Option.map_eq_none_iff] at hplace
    exact absurd (hx.trans hplace.symm) hi
  | some x =>
    rw [hx, Option.map_some, eq_comm, Option.map_eq_some_iff] at hplace
    obtain ⟨y, hy, heq⟩ := hplace
    rw [hx, hy] at hi
    exact ⟨x, y, rfl, hy, fun hxy => hi (congrArg some hxy), heq.symm⟩

/-- Splitting the id of a named risk gives names, and lower-casing it lower-cases these. -/
theorem Named.segments_spec (hm : m.Coherent) (h : r.Named m) :
    (∀ s ∈ segments r.syntheticId, s ∈ m.names) ∧
      segments (Text.lower r.syntheticId) = (segments r.syntheticId).map Text.lower := by
  obtain ⟨category, ids, hid, hnames⟩ := h
  have hparts := fun s hs => hm.plain_and_ascii_of_mem_names (hnames s hs)
  rw [List.forall_mem_cons] at hparts
  obtain ⟨hcategory, hids⟩ := hparts
  have hlower : ∀ s ∈ ids.map Text.lower, Plain s := by
    rw [List.forall_mem_map]
    exact fun s hs => Text.plain_lower_of_ascii (hids s hs).2 (hids s hs).1
  rw [hid, segments_joinIds hcategory.1 fun s hs => (hids s hs).1]
  refine ⟨hnames, ?_⟩
  rw [lower_joinIds hcategory.2 fun s hs => (hids s hs).2,
    segments_joinIds (Text.plain_lower_of_ascii hcategory.2 hcategory.1) hlower, List.map_cons]

theorem segments_injective {s t : String} (h : segments s = segments t) : s = t := by
  have hparts := congrArg (fun l => ['@'].intercalate (l.map String.toList)) h
  simpa [segments, List.intercalate_splitOn, String.toList_inj] using hparts

/-- Different ids of named risks that are the same in lower case have names that are. -/
theorem Named.misspelt (hm : m.Coherent) (hr : r.Named m) (hs : s.Named m)
    (hne : r.syntheticId ≠ s.syntheticId)
    (hlower : Text.lower r.syntheticId = Text.lower s.syntheticId) :
    Misspelt m r.syntheticId s.syntheticId := by
  obtain ⟨hnames, hfolded⟩ := hr.segments_spec hm
  obtain ⟨hnames', hfolded'⟩ := hs.segments_spec hm
  have hdiffer : segments r.syntheticId ≠ segments s.syntheticId := fun heq =>
    hne (segments_injective heq)
  have hmap :
      (segments r.syntheticId).map Text.lower = (segments s.syntheticId).map Text.lower := by
    rw [← hfolded, ← hfolded', hlower]
  obtain ⟨i, x, y, hx, hy, hxy, heq⟩ := exists_ne_of_map_eq hdiffer hmap
  exact ⟨i, x, y, hx, hy, hnames x (List.mem_of_getElem? hx), hnames' y (List.mem_of_getElem? hy),
    hxy, heq⟩

end Risk

/-! ## Reports -/

namespace Analysis

open Reconciliation (trackedId tracked entryFor statusOf Canonical)

variable {m : Model} {options : AnalysisOptions} {report : Report} {r : Risk}

/-- The built-in rules and those of individual categories name what they find. -/
theorem named_of_mem_risksIn (hm : m.Accepted) {rule : Rule} (hrule : rule ∈ rulesFor m .builtin)
    (hr : r ∈ rule.risksIn m) : r.Named m := by
  have hname : rule.id ∈ m.names := Model.mem_names_iff.2 (.inl ⟨rule, hrule, rfl⟩)
  obtain hregistered | hindividual := List.mem_append.1 hrule
  · obtain ⟨builtin, hbuiltin, rfl⟩ := Registry.mem_rules_builtin_iff.1 hregistered
    obtain ⟨ids, hid, -, -, helements⟩ :=
      (BuiltinRule.sound_of_mem_all hm.coherent builtin hbuiltin r hr).identified
    have hids : ∀ s ∈ ids, s ∈ m.names := fun s hs => Model.mem_names_iff.2 (.inr (helements s hs))
    exact ⟨_, ids, hid, List.forall_mem_cons.2 ⟨hname, hids⟩⟩
  · obtain ⟨c, hc, rfl⟩ := List.mem_map.1 hindividual
    obtain ⟨hcategory, hid⟩ := hm.coherent.risk_ids c hc r hr
    exact Risk.named_composed (hcategory ▸ hname) (hm.coherent.risks c hc r hr) hid

/-- With the built-in rules a report lists what was found, with the statuses that the records
give. -/
theorem risks_perm_risksFound (hm : m.Accepted) (h : analyze m .builtin options = .ok report) :
    report.risks.Perm ((risksFound m .builtin options).map (tracked m.tracking)) := by
  obtain ⟨results, c, hran, hpresents⟩ := analyze_presents h
  have hof : ∀ x ∈ results, x.1.OfModel := fun x hx =>
    (ofModel_and_succeeds_builtin hm x.1
      (List.mem_of_mem_filter (hpresents.executed ▸ List.mem_map_of_mem hx))).1
  rw [← hran.flatMap_eq_risksFound hof hpresents.executed, List.map_flatMap]
  exact hpresents.risks

theorem named_of_mem_risks (hm : m.Accepted) (h : analyze m .builtin options = .ok report)
    (hr : r ∈ report.risks) : r.Named m ∧ r.status = statusOf m.tracking r := by
  obtain ⟨found, hfound, rfl⟩ := List.mem_map.1 ((risks_perm_risksFound hm h).mem_iff.1 hr)
  obtain ⟨rule, hrule, hfound⟩ := List.mem_flatMap.1 hfound
  have hnamed : found.Named m := named_of_mem_risksIn hm (List.mem_of_mem_filter hrule) hfound
  exact ⟨hnamed, rfl⟩

/-- A key that was applied to an id is that of the entry which decides about the id. -/
theorem exists_entryFor_of_applied (h : analyze m .builtin options = .ok report) {id key : String}
    (hkey : report.applied.get? id = some key) :
    ∃ record, entryFor m.tracking id = some (key, record) := by
  obtain ⟨results, c, -, hpresents⟩ := analyze_presents h
  obtain ⟨found, reconciled, -, hreconcile, -, happlied, -⟩ := hpresents.reconciled
  rw [Reconciliation.reconcile] at hreconcile
  obtain ⟨-, o, os, -, hrun⟩ | ⟨-, d, hrun, -, hget⟩ :=
    Reconciliation.update_cases found m.tracking options.ignoreOrphans
  · rw [hrun] at hreconcile
    cases hreconcile
  · rw [hrun] at hreconcile
    obtain rfl := Except.ok.inj hreconcile
    rw [happlied, hget] at hkey
    split at hkey
    · obtain ⟨e, he, rfl⟩ := Option.map_eq_some_iff.1 hkey
      exact ⟨e.2, he⟩
    · cases hkey

/-- Ids tell the risks of a report apart, without regard to case: a record about a single id decides
about the risks of one id, and a risk is found by its id. -/
structure TellsApart (m : Model) (report : Report) : Prop where
  ids : ∀ r ∈ report.risks, ∀ s ∈ report.risks, r.syntheticId ≠ s.syntheticId →
    Text.lower r.syntheticId ≠ Text.lower s.syntheticId
  records : ∀ key record, m.tracking.get? key = some record → record.isWildcard = false →
    ∃ id, ∀ r ∈ report.risks, report.applied.get? (trackedId r) = some key →
      r.syntheticId = id ∧ r.status = record.status
  lookup : ∀ r ∈ report.risks, ∃ s, report.risk? r.syntheticId = some s ∧
    s.syntheticId = r.syntheticId

/-- A record about a single id decides about the risks that have the id in lower case. -/
theorem trackedId_eq_of_applied (hm : m.Accepted) (h : analyze m .builtin options = .ok report)
    {key : String} {record : TrackingRecord} (hget : m.tracking.get? key = some record)
    (hsingle : record.isWildcard = false) (hr : r ∈ report.risks)
    (hkey : report.applied.get? (trackedId r) = some key) :
    trackedId r = key ∧ r.status = record.status := by
  have hcanonical := canonical_of_accepted hm
  have hnoStar : Text.hasWildcard key = false :=
    (hcanonical.isWildcard (Dict.get?_eq_some_iff.1 hget)).symm.trans hsingle
  obtain ⟨record', hentry⟩ := exists_entryFor_of_applied h hkey
  have hstatus : r.status = record'.status := by
    rw [(named_of_mem_risks hm h hr).2, statusOf, hentry]
    rfl
  obtain ⟨hget', -⟩ | ⟨-, hstar, -⟩ := hcanonical.entryFor_eq_some_iff.1 hentry
  · obtain rfl := Option.some.inj (hget.symm.trans hget')
    exact ⟨rfl, hstatus⟩
  · rw [hnoStar] at hstar
    cases hstar

/-- In a report without two different ids that are the same in lower case all goes by one id. -/
theorem tellsApart_of_ids (hm : m.Accepted) (h : analyze m .builtin options = .ok report)
    (hids : ∀ r ∈ report.risks, ∀ s ∈ report.risks,
      Text.lower r.syntheticId = Text.lower s.syntheticId → r.syntheticId = s.syntheticId) :
    TellsApart m report where
  ids r hr s hs hne hlower := hne (hids r hr s hs hlower)
  records key record hget hsingle := by
    by_cases hsome : ∃ r ∈ report.risks, report.applied.get? (trackedId r) = some key
    · obtain ⟨r, hr, hkey⟩ := hsome
      have hid := (trackedId_eq_of_applied hm h hget hsingle hr hkey).1
      refine ⟨r.syntheticId, fun s hs hkey' => ?_⟩
      obtain ⟨hid', hstatus⟩ := trackedId_eq_of_applied hm h hget hsingle hs hkey'
      exact ⟨hids s hs r hr (hid'.trans hid.symm), hstatus⟩
    · exact ⟨"", fun r hr hkey => absurd ⟨r, hr, hkey⟩ hsome⟩
  lookup r hr := by
    obtain ⟨_, _, -, hpresents⟩ := analyze_presents h
    have hfound : (report.risks.reverse.find? fun s =>
        Text.lower s.syntheticId = Text.lower r.syntheticId).isSome = true := by
      rw [List.find?_isSome]
      exact ⟨r, List.mem_reverse.2 hr, by simp⟩
    obtain ⟨s, hs⟩ := Option.isSome_iff_exists.1 hfound
    have hmem := List.mem_reverse.1 (List.mem_of_find?_eq_some hs)
    have hlower : Text.lower s.syntheticId = Text.lower r.syntheticId := by
      simpa using List.find?_some hs
    exact ⟨s, (hpresents.lookup _).trans hs, hids s hmem r hr hlower⟩

/-- Two risks of a report can only be taken for each other because two names are: ids that are the
same in lower case have, at one place, names that differ in case only. In a model without such names
ids tell the risks apart. -/
theorem tellsApart_of_spelledApart (hm : m.Accepted)
    (h : analyze m .builtin options = .ok report) :
    (∀ r ∈ report.risks, ∀ s ∈ report.risks, r.syntheticId ≠ s.syntheticId →
        Text.lower r.syntheticId = Text.lower s.syntheticId →
          Risk.Misspelt m r.syntheticId s.syntheticId) ∧
      (m.SpelledApart → TellsApart m report) := by
  have hmisspelt : ∀ r ∈ report.risks, ∀ s ∈ report.risks, r.syntheticId ≠ s.syntheticId →
      Text.lower r.syntheticId = Text.lower s.syntheticId →
        Risk.Misspelt m r.syntheticId s.syntheticId := fun r hr s hs =>
    (named_of_mem_risks hm h hr).1.misspelt hm.coherent (named_of_mem_risks hm h hs).1
  refine ⟨hmisspelt, fun hspelled => tellsApart_of_ids hm h fun r hr s hs hlower => ?_⟩
  by_contra hne
  obtain ⟨_, x, y, -, -, hx, hy, hxy, heq⟩ := hmisspelt r hr s hs hne hlower
  exact hxy (hspelled x hx y hy heq)

/-- Two data assets, and a decision about one of them. -/
def flyers (second : String) : ModelInput :=
  let asset (id : String) : DataAssetInput :=
    { id := id, quantity := "few", confidentiality := "public", integrity := "archive",
      availability := "archive" }
  { title := "Flyers"
    businessCriticality := "important"
    dataAssets := .ofList [("Flyers", asset "flyers"), ("Old Flyers", asset second)]
    tracking := .ofList [("unnecessary-data-asset@flyers", { status := "accepted" })] }

theorem flyers_tellsApart :
    ∃ m report, Validation.build ⟨2024, 3, 1⟩ (flyers "old-flyers") = .ok m ∧ m.Accepted ∧
      m.SpelledApart ∧ analyze m .builtin {} = .ok report ∧ TellsApart m report := by
  have hchecked : (Validation.build ⟨2024, 3, 1⟩ (flyers "old-flyers")).toOption.map (fun m =>
      (decide (∀ s ∈ m.statedNames, Text.lower s = s),
        (analyze m .builtin {}).toOption.map fun _ => ())) = some (true, some ()) := by
    decide +kernel
  obtain ⟨m, hm, hchecked⟩ := Model.exists_of_build hchecked
  obtain ⟨hlower, hran⟩ := Prod.mk.inj hchecked
  obtain ⟨report, hreport, -⟩ := Validation.exists_eq_ok_of_map hran
  have hspelled : m.SpelledApart := Model.spelledApart_of_lower (of_decide_eq_true hlower)
  have hapart := (tellsApart_of_spelledApart (.of_build hm) hreport).2 hspelled
  exact ⟨m, report, hm, .of_build hm, hspelled, hreport, hapart⟩

/-- Where the ids differ in case only, the decision is carried over to both findings, and the ids of
both find the same one. -/
theorem flyers_not_tellsApart :
    ∃ m report, Validation.build ⟨2024, 3, 1⟩ (flyers "Flyers") = .ok m ∧ m.Accepted ∧
      analyze m .builtin {} = .ok report ∧
      (∃ r ∈ report.risks, ∃ s ∈ report.risks,
        (r.syntheticId, r.status) = ("unnecessary-data-asset@flyers", .accepted) ∧
          (s.syntheticId, s.status) = ("unnecessary-data-asset@Flyers", .accepted) ∧
            report.risk? r.syntheticId = report.risk? s.syntheticId) ∧
      ¬TellsApart m report := by
  have hchecked : (Validation.build ⟨2024, 3, 1⟩ (flyers "Flyers")).toOption.map (fun m =>
      ((analyze m .builtin {}).toOption.map fun _ => (), (risksFound m .builtin {}).map fun r =>
        ((tracked m.tracking r).syntheticId, (tracked m.tracking r).status))) =
      some (some (), [("unnecessary-data-asset@Flyers", .accepted),
        ("unnecessary-data-asset@flyers", .accepted)]) := by
    decide +kernel
  obtain ⟨m, hm, hchecked⟩ := Model.exists_of_build hchecked
  obtain ⟨hran, hfound⟩ := Prod.mk.inj hchecked
  obtain ⟨report, hreport, -⟩ := Validation.exists_eq_ok_of_map hran
  have haccepted : m.Accepted := .of_build hm
  -- Whatever is on the list of findings is in the report.
  have hmem {id : String} {status : RiskStatus}
      (h : (id, status) ∈ [("unnecessary-data-asset@Flyers", RiskStatus.accepted),
        ("unnecessary-data-asset@flyers", .accepted)]) :
      ∃ r ∈ report.risks, (r.syntheticId, r.status) = (id, status) := by
    rw [← hfound] at h
    obtain ⟨found, hmem, heq⟩ := List.mem_map.1 h
    exact ⟨_, (risks_perm_risksFound haccepted hreport).mem_iff.2 (List.mem_map_of_mem hmem), heq⟩
  obtain ⟨r, hr, hrid⟩ := hmem (List.mem_cons_of_mem _ List.mem_cons_self)
  obtain ⟨s, hs, hsid⟩ := hmem List.mem_cons_self
  have hlower : Text.lower r.syntheticId = Text.lower s.syntheticId := by
    rw [(Prod.mk.inj hrid).1, (Prod.mk.inj hsid).1]
    decide +kernel
  have hlookup : report.risk? r.syntheticId = report.risk? s.syntheticId := by
    rw [Report.risk?, hlower, Report.risk?]
  refine ⟨m, report, hm, haccepted, hreport, ⟨r, hr, s, hs, hrid, hsid, hlookup⟩, ?_⟩
  intro hapart
  refine hapart.ids r hr s hs ?_ hlower
  rw [(Prod.mk.inj hrid).1, (Prod.mk.inj hsid).1]
  decide

end Analysis

end ThreatModel
