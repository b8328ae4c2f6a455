import ThreatModel.Proofs.Inclusion.Run

/-!
# Includes are merged exactly

`load_exactMerge` says what reading a model file with its includes gives, for all file stores: when
it fails, and which model it is when it does not. A run that succeeds has gone through the preorder
of the files (`Visits.gathers`); conversely a run cannot fail if there is such a preorder in which
nothing is repeated (`Visits.succeeds`).
-/

namespace ThreatModel.Inclusion

variable {s : FileStore} {p : Progress} {path root : String} {pending rest : Steps}
  {result : Except InclusionFault Progress} {log : List String} {parts : List Part} {part : Part}

theorem add_eq_ok_iff {m n u : ModelInput} : add m n path = .ok u ↔ m.merge n = .ok u := by
  unfold add
  cases m.merge n <;> simp

/-- The steps of a file are the paths it includes, if all its patterns are matched. -/
theorem steps_eq_included_iff {reached paths : List String} (h : part? s path = some part) :
    Progress.steps s path ⟨part.input, reached⟩ = paths.map .ok ↔
      part.Matched s ∧ part.included s = paths := by
  rw [Progress.steps, steps_eq_map_ok_iff, Part.Matched, Part.included, Part.dir,
    (part?_eq_some_iff.1 h).1]

/-! ## Runs that succeed -/

/-- The files of some steps, in preorder, were added to a model. -/
structure Gathers (s : FileStore) (pending : Steps) (log : List String) (parts : List Part)
    (m u : ModelInput) : Prop where
  preorder : ∃ paths, pending = paths.map .ok ∧ Preorder s paths parts
  matched : ∀ part ∈ parts, part.Matched s
  log : log = parts.map (·.key)
  merged : ∀ root before, MergeOf root before m → MergeOf root (before ++ parts.map (·.input)) u

theorem Gathers.nil (m : ModelInput) : Gathers s [] [] [] m m where
  preorder := ⟨[], rfl, .nil⟩
  matched := by simp
  log := rfl
  merged root before h := by simpa using h

/-- What a file has gathered is a model of the file and all it includes. -/
theorem Gathers.mergeOf {reached : List String} {u : ModelInput}
    (h : Gathers s pending log parts (Progress.opened ⟨part.input, reached⟩).input u) :
    MergeOf part.input (parts.map (·.input)) u := h.merged _ [] (.self part.input)

theorem Gathers.cons {reached log' : List String} {after : List Part} {m u whole input : ModelInput}
    (hfile : part? s path = some part)
    (hpart : Gathers s (Progress.steps s path ⟨part.input, reached⟩) log parts
      (Progress.opened ⟨part.input, reached⟩).input whole)
    (hadd : m.merge whole = .ok input) (hrest : Gathers s rest log' after input u) :
    Gathers s (.ok path :: rest) (part.key :: (log ++ log')) (part :: (parts ++ after)) m u := by
  obtain ⟨paths, hpaths, hpreorder⟩ := hpart.preorder
  obtain ⟨paths', rfl, hpreorder'⟩ := hrest.preorder
  obtain ⟨hmatched, rfl⟩ := (steps_eq_included_iff hfile).1 hpaths
  refine ⟨⟨path :: paths', rfl, .cons hfile (hpreorder.append hpreorder')⟩, ?_, ?_, ?_⟩
  · rw [List.forall_mem_cons, List.forall_mem_append]
    exact ⟨hmatched, hpart.matched, hrest.matched⟩
  · rw [hpart.log, hrest.log, List.map_cons, List.map_append]
  · intro root before hm
    -- The file with all it includes is merged as a whole, before the rest.
    have := hrest.merged root _ (hm.merge hpart.mergeOf hadd)
    simpa using this

theorem Visits.gathers (h : Visits s p pending result log) :
    ∀ q, result = .ok q → ∃ parts, Gathers s pending log parts p.input q.input := by
  induction h with
  | done =>
    rintro q ⟨⟩
    exact ⟨[], .nil _⟩
  | noPath => rintro q ⟨⟩
  | unread => rintro q ⟨⟩
  | fails => rintro q ⟨⟩
  | clashes => rintro q ⟨⟩
  | next hreach _ hadd _ ihpart ihrest =>
    intro q hq
    obtain ⟨part, hfile, hnew, rfl⟩ := reach_eq_ok_iff.1 hreach
    obtain ⟨parts, hparts⟩ := ihpart _ rfl
    obtain ⟨after, hafter⟩ := ihrest q hq
    rw [readings_eq hfile hnew]
    exact ⟨_, .cons hfile hparts (add_eq_ok_iff.1 hadd) hafter⟩

/-! ## Runs that cannot fail -/

/-- Nothing keeps the files of some steps from being added to a model with some parts. -/
structure Addable (s : FileStore) (reached : List String) (stated : List ModelInput)
    (pending : Steps) (parts : List Part) : Prop where
  preorder : ∃ paths, pending = paths.map .ok ∧ Preorder s paths parts
  matched : ∀ part ∈ parts, part.Matched s
  nodup : (parts.map (·.key)).Nodup
  fresh : ∀ part ∈ parts, part.key ∉ reached
  titles : TitlesDiffer (stated ++ parts.map (·.input))

/-- First comes a file, which is reached, with all it includes, then the rest. -/
theorem Addable.cons_inv {reached : List String} {stated : List ModelInput}
    (h : Addable s reached stated (.ok path :: rest) parts) :
    ∃ (part : Part) (inner after : List Part),
      reach s reached path = .ok ⟨part.input, part.key :: reached⟩ ∧
      Addable s (part.key :: reached) [part.input]
        (Progress.steps s path ⟨part.input, part.key :: reached⟩) inner ∧
      TitlesDiffer (stated ++ part.input :: inner.map (·.input)) ∧
      Addable s ((inner.map (·.key)).reverse ++ part.key :: reached)
        (stated ++ part.input :: inner.map (·.input)) rest after := by
  obtain ⟨paths, hpaths, hpreorder⟩ := h.preorder
  cases hpreorder with
  | nil => cases hpaths
  | @cons path' paths part parts hfile hpreorder =>
    obtain ⟨⟨⟩, rfl⟩ := List.cons_eq_cons.1 hpaths
    obtain ⟨inner, after, rfl, hinner, hafter⟩ := hpreorder.split
    have hmatched := h.matched
    have hfresh := h.fresh
    rw [List.forall_mem_cons, List.forall_mem_append] at hmatched hfresh
    have hnodup := h.nodup
    rw [List.map_cons, List.map_append, List.nodup_cons, List.nodup_append, List.mem_append,
      not_or] at hnodup
    obtain ⟨⟨hnotInner, hnotAfter⟩, hnodupInner, hnodupAfter, hapart⟩ := hnodup
    have htitles := h.titles
    rw [List.map_cons, List.map_append, ← List.cons_append, ← List.append_assoc] at htitles
    have hdiffer := htitles.sublist (List.sublist_append_left _ _)
    have hreach := reach_eq_ok_iff.2 ⟨part, hfile, hfresh.1, rfl⟩
    refine ⟨part, inner, after, hreach, ?_, hdiffer, ?_⟩
    · refine ⟨⟨_, (steps_eq_included_iff hfile).2 ⟨hmatched.1, rfl⟩, hinner⟩, hmatched.2.1,
        hnodupInner, fun x hx hmem => ?_, hdiffer.sublist (List.sublist_append_right _ _)⟩
      rcases List.mem_cons.1 hmem with heq | hmem
      · exact hnotInner (heq ▸ List.mem_map_of_mem hx)
      · exact hfresh.2.1 x hx hmem
    · refine ⟨⟨_, rfl, hafter⟩, hmatched.2.2, hnodupAfter, fun x hx hmem => ?_, htitles⟩
      rw [List.mem_append, List.mem_reverse, List.mem_cons] at hmem
      have hkey : x.key ∈ after.map (·.key) := List.mem_map_of_mem hx
      rcases hmem with hmem | heq | hmem
      · exact hapart _ hmem _ hkey rfl
      · exact hnotAfter (heq ▸ hkey)
      · exact hfresh.2.2 x hx hmem

/-- The files of some steps are the same, whether they were added or can be. -/
theorem Gathers.parts_eq {reached : List String} {stated : List ModelInput} {m u : ModelInput}
    {inner : List Part} (h : Gathers s pending log parts m u)
    (h' : Addable s reached stated pending inner) : parts = inner := by
  obtain ⟨paths, rfl, hpreorder⟩ := h.preorder
  obtain ⟨paths', hpaths, hpreorder'⟩ := h'.preorder
  obtain rfl := List.map_injective_iff.2 (fun _ _ heq => Except.ok.inj heq) hpaths
  exact hpreorder.unique hpreorder'

/-- A run does not fail as long as nothing keeps the files of its steps from being added. -/
theorem Visits.succeeds (h : Visits s p pending result log) :
    ∀ root before parts, MergeOf root before p.input →
      Addable s p.reached (root :: before) pending parts → ∃ q, result = .ok q := by
  induction h with
  | @done p => exact fun _ _ _ _ _ => ⟨p, rfl⟩
  | noPath =>
    intro _ _ _ _ hadd
    obtain ⟨paths, hpaths, -⟩ := hadd.preorder
    cases paths <;> cases hpaths
  | unread hreach =>
    intro _ _ _ _ hadd
    obtain ⟨part, -, -, hfirst, -⟩ := hadd.cons_inv
    rw [hfirst] at hreach
    cases hreach
  | fails hreach _ ih =>
    intro _ _ _ _ hadd
    obtain ⟨part, inner, -, hfirst, hinner, -⟩ := hadd.cons_inv
    rw [hfirst] at hreach
    cases hreach
    obtain ⟨q, hq⟩ := ih part.input [] inner (.self _) hinner
    cases hq
  | clashes hreach hpart hclash _ =>
    intro root before _ hm hadd
    obtain ⟨part, inner, -, hfirst, hinner, htitles, -⟩ := hadd.cons_inv
    rw [hfirst] at hreach
    cases hreach
    -- A clash would be a title that the file or what it includes shares with the parts before.
    obtain ⟨parts, hparts⟩ := hpart.gathers _ rfl
    obtain rfl := hparts.parts_eq hinner
    obtain ⟨u, hu⟩ := hm.exists_merge hparts.mergeOf htitles
    rw [add_eq_ok_iff.2 hu] at hclash
    cases hclash
  | next hreach hpart hok _ _ ih =>
    intro root before _ hm hadd
    obtain ⟨part, inner, after, hfirst, hinner, -, hafter⟩ := hadd.cons_inv
    rw [hfirst] at hreach
    cases hreach
    obtain ⟨parts, hparts⟩ := hpart.gathers _ rfl
    obtain rfl := hparts.parts_eq hinner
    refine ih root _ after (hm.merge hparts.mergeOf (add_eq_ok_iff.1 hok)) ?_
    rw [hpart.reached_eq _ rfl, hparts.log]
    exact hafter

/-! ## Reading a model file -/

/-- The files that a model file is put together from, in preorder, the model file first. -/
structure Whole (s : FileStore) (root : String) (parts : List Part) : Prop where
  preorder : Preorder s [root] parts
  /-- Every pattern stands for something. -/
  matched : ∀ part ∈ parts, part.Matched s
  /-- No file is reached twice. -/
  nodup : (parts.map (·.key)).Nodup
  /-- No title is stated twice, in any collection. -/
  titles : TitlesDiffer (parts.map (·.input))

/-- A run that ends with a model has gone through such files, and the model is made of them. -/
theorem Loads.whole {result : Except InclusionFault ModelInput} (h : Loads s root result log)
    {m : ModelInput} (hm : result = .ok m) :
    ∃ first rest, Whole s root (first :: rest) ∧ log = (first :: rest).map (·.key) ∧
      MergeOf first.input (rest.map (·.input)) m := by
  have hnodup := h.nodup
  cases h with
  | unread => cases hm
  | @visits _ result log hreach hvisits =>
    cases result with
    | error fault => cases hm
    | ok q =>
      cases hm
      obtain ⟨part, hfile, hnew, rfl⟩ := reach_eq_ok_iff.1 hreach
      obtain ⟨parts, hparts⟩ := hvisits.gathers q rfl
      obtain ⟨paths, hpaths, hpreorder⟩ := hparts.preorder
      obtain ⟨hmatched, rfl⟩ := (steps_eq_included_iff hfile).1 hpaths
      have hlog : readings s [] root ++ log = (part :: parts).map (·.key) := by
        rw [readings_eq hfile hnew, hparts.log]
        rfl
      refine ⟨part, parts, ⟨.cons hfile ?_, ?_, ?_, ?_⟩, hlog, hparts.mergeOf⟩
      · rwa [List.append_nil]
      · exact List.forall_mem_cons.2 ⟨hmatched, hparts.matched⟩
      · exact hlog ▸ hnodup
      · exact hparts.mergeOf.titlesDiffer

/-- A run ends with a model if there are such files. -/
theorem Loads.succeeds {result : Except InclusionFault ModelInput} (h : Loads s root result log)
    (hwhole : Whole s root parts) : ∃ m, result = .ok m := by
  have haddable : Addable s [] [] [.ok root] parts :=
    ⟨⟨[root], rfl, hwhole.preorder⟩, hwhole.matched, hwhole.nodup, by simp, hwhole.titles⟩
  obtain ⟨part, inner, -, hfirst, hinner, -⟩ := haddable.cons_inv
  cases h with
  | unread hreach =>
    rw [hfirst] at hreach
    cases hreach
  | visits hreach hvisits =>
    rw [hfirst] at hreach
    cases hreach
    obtain ⟨q, rfl⟩ := hvisits.succeeds part.input [] inner (.self _) hinner
    exact ⟨q.input, rfl⟩

/-! ## Where there can be no model -/

namespace Whole

variable {route route' : List Nat} {path' : String} {part' : Part}

/-- A route leads to one of the files. -/
theorem mem_of_follow (h : Whole s root parts) (hroute : follow s root route = some path) :
    ∃ part ∈ parts, part? s path = some part :=
  h.preorder.mem_of_route (show [root][0]? = some root from rfl) hroute

/-- Only one route leads to a file. -/
theorem route_eq (h : Whole s root parts) (hroute : follow s root route = some path)
    (hroute' : follow s root route' = some path') (hpart : part? s path = some part)
    (hpart' : part? s path' = some part') (hkey : part.key = part'.key) : route = route' :=
  have hroot : [root][0]? = some root := rfl
  (h.preorder.route_unique h.nodup hroot hroute hroot hroute' hpart hpart' hkey).2

/-- Files at the ends of two routes have no title in common. -/
theorem disjoint (h : Whole s root parts) (hne : route ≠ route')
    (hroute : follow s root route = some path) (hroute' : follow s root route' = some path')
    (hpart : part? s path = some part) (hpart' : part? s path' = some part')
    (c : ModelInput.Collection) :
    (part.input.collection c).Disjoint (part'.input.collection c) := by
  obtain ⟨x, hx, hx'⟩ := h.mem_of_follow hroute
  obtain ⟨y, hy, hy'⟩ := h.mem_of_follow hroute'
  obtain rfl := Option.some.inj (hpart.symm.trans hx')
  obtain rfl := Option.some.inj (hpart'.symm.trans hy')
  have hsymm : Std.Symm fun a b : Part =>
      (a.input.collection c).Disjoint (b.input.collection c) := ⟨fun _ _ hab => hab.symm⟩
  refine (List.pairwise_map.1 (h.titles c)).forall hx hy ?_
  rintro rfl
  exact hne (h.route_eq hroute hroute' hpart hpart' rfl)

end Whole

/-- A model file is merged exactly with what it includes. -/
structure ExactMerge (s : FileStore) (root : String)
    (result : Except InclusionFault ModelInput) : Prop where
  /-- The result is reached, also if files include each other, and no file is read twice. -/
  ends : ∃ log, Loads s root result log ∧ log.Nodup
  /-- A pattern that stands for nothing is a fault, wherever it occurs. -/
  unmatched : ∀ route path part pattern, follow s root route = some path →
    part? s path = some part → pattern ∈ part.input.includes → found s part.dir pattern = [] →
      ∃ fault, result = .error fault
  /-- A file to which two routes lead is a fault. -/
  repeated : ∀ route route' path path' key, route ≠ route' → follow s root route = some path →
    follow s root route' = some path' → s.key? path = some key → s.key? path' = some key →
      ∃ fault, result = .error fault
  /-- A title that two files have in the same collection is a fault; which entry of one file stays
  when it gives a title twice is settled when its text is read. -/
  clash : ∀ route route' path path' part part' c title, route ≠ route' →
    follow s root route = some path → follow s root route' = some path' →
      part? s path = some part → part? s path' = some part' →
        (part.input.collection c).contains title = true →
          (part'.input.collection c).contains title = true → ∃ fault, result = .error fault
  /-- There are no other faults than these and that a file or a pattern cannot be read. -/
  succeeds : (∃ m, result = .ok m) ↔ ∃ parts, Whole s root parts
  /-- A model is made of the files that were read, in preorder. -/
  merged : ∀ m, result = .ok m → ∃ first rest, Whole s root (first :: rest) ∧
    Loads s root result ((first :: rest).map (·.key)) ∧
      MergeOf first.input (rest.map (·.input)) m

/-- A file store without such files gives a fault. -/
theorem Loads.fails {result : Except InclusionFault ModelInput} (h : Loads s root result log)
    (hnone : ∀ parts, ¬ Whole s root parts) : ∃ fault, result = .error fault := by
  cases hresult : result with
  | error fault => exact ⟨fault, rfl⟩
  | ok m =>
    obtain ⟨first, rest, hwhole, -⟩ := h.whole hresult
    exact absurd hwhole (hnone _)

/-- Reading a model file merges it with what it includes, exactly. -/
theorem load_exactMerge (s : FileStore) (root : String) :
    ExactMerge s root (ModelInput.load s root) := by
  obtain ⟨log, hlog⟩ := exists_loads s root
  exact {
    ends := ⟨log, hlog, hlog.nodup⟩
    unmatched := by
      intro route path part pattern hroute hpart hpattern hnone
      refine hlog.fails fun parts hwhole => ?_
      obtain ⟨found, hfound, hpart'⟩ := hwhole.mem_of_follow hroute
      obtain rfl := Option.some.inj (hpart.symm.trans hpart')
      exact hwhole.matched part hfound pattern hpattern hnone
    repeated := by
      intro route route' path path' key hne hroute hroute' hkey hkey'
      refine hlog.fails fun parts hwhole => hne ?_
      obtain ⟨part, -, hpart⟩ := hwhole.mem_of_follow hroute
      obtain ⟨part', -, hpart'⟩ := hwhole.mem_of_follow hroute'
      have hsame : part.key = part'.key := by
        rw [(part?_eq_some_iff.1 hpart).2.1, Option.some.injEq] at hkey
        rw [(part?_eq_some_iff.1 hpart').2.1, Option.some.injEq] at hkey'
        exact hkey.trans hkey'.symm
      exact hwhole.route_eq hroute hroute' hpart hpart' hsame
    clash := by
      intro route route' path path' part part' c title hne hroute hroute' hpart hpart' ht ht'
      refine hlog.fails fun parts hwhole => ?_
      have hfree := hwhole.disjoint hne hroute hroute' hpart hpart' c title ht
      rw [ht'] at hfree
      cases hfree
    succeeds := by
      constructor
      · rintro ⟨m, hm⟩
        obtain ⟨first, rest, hwhole, -⟩ := hlog.whole hm
        exact ⟨_, hwhole⟩
      · rintro ⟨parts, hwhole⟩
        exact hlog.succeeds hwhole
    merged := by
      intro m hm
      obtain ⟨first, rest, hwhole, rfl, hmerge⟩ := hlog.whole hm
      exact ⟨first, rest, hwhole, hlog, hmerge⟩ }

end ThreatModel.Inclusion
