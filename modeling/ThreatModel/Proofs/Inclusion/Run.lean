import ThreatModel.Proofs.Inclusion.Merge
import ThreatModel.Proofs.Inclusion.Tree
import ThreatModel.Unseen

/-!
# Runs of inclusion

`resolve` goes down to a given depth. `Visits` is the same process without a depth, as a relation
that also says which files were looked into. It comes to an end for every file store, as a file that
was reached is not looked into again (`exists_visits`); so what is computed is the end of such a
run.
-/

namespace ThreatModel.Inclusion

/-- What is to be done, one after the other: to follow a path, or to end with the fault of a
pattern. -/
abbrev Steps := List (Except InclusionFault String)

/-- What patterns ask for, seen from a directory. -/
def steps (s : FileStore) (dir : String) (patterns : List String) : Steps :=
  patterns.flatMap fun pattern => match matching s dir pattern with
    | .error fault => [.error fault]
    | .ok paths => paths.map .ok

/-- A model whose includes are being worked off. -/
def Progress.opened (p : Progress) : Progress := { p with input.includes := [] }

/-- What a model from a path asks to include. -/
def Progress.steps (s : FileStore) (path : String) (p : Progress) : Steps :=
  Inclusion.steps s (Path.parent path) p.input.includes

/-- The names of the files that are looked into on a path: one, unless it was reached before. -/
def readings (s : FileStore) (reached : List String) (path : String) : List String :=
  (s.key? path).toList.filter (· ∉ reached)

/-- Steps are worked off from some progress, which ends with a result. The list has the names of the
files that are looked into on the way. -/
inductive Visits (s : FileStore) :
    Progress → Steps → Except InclusionFault Progress → List String → Prop
  | done {p : Progress} : Visits s p [] (.ok p) []
  | noPath {p : Progress} {fault : InclusionFault} {rest : Steps} :
      Visits s p (.error fault :: rest) (.error fault) []
  | unread {p : Progress} {path : String} {fault : InclusionFault} {rest : Steps}
      (hreach : reach s p.reached path = .error fault) :
      Visits s p (.ok path :: rest) (.error fault) (readings s p.reached path)
  | fails {p part : Progress} {path : String} {fault : InclusionFault} {log : List String}
      {rest : Steps} (hreach : reach s p.reached path = .ok part)
      (hpart : Visits s part.opened (part.steps s path) (.error fault) log) :
      Visits s p (.ok path :: rest) (.error fault) (readings s p.reached path ++ log)
  | clashes {p part whole : Progress} {path : String} {fault : InclusionFault} {log : List String}
      {rest : Steps} (hreach : reach s p.reached path = .ok part)
      (hpart : Visits s part.opened (part.steps s path) (.ok whole) log)
      (hadd : add p.input whole.input path = .error fault) :
      Visits s p (.ok path :: rest) (.error fault) (readings s p.reached path ++ log)
  | next {p part whole : Progress} {path : String} {input : ModelInput}
      {result : Except InclusionFault Progress} {log log' : List String} {rest : Steps}
      (hreach : reach s p.reached path = .ok part)
      (hpart : Visits s part.opened (part.steps s path) (.ok whole) log)
      (hadd : add p.input whole.input path = .ok input)
      (hrest : Visits s ⟨input, whole.reached⟩ rest result log') :
      Visits s p (.ok path :: rest) result (readings s p.reached path ++ log ++ log')

/-- A model file is read with all that it includes; the list has the names of the files that are
looked into. -/
inductive Loads (s : FileStore) (root : String) :
    Except InclusionFault ModelInput → List String → Prop
  | unread {fault : InclusionFault} (hreach : reach s [] root = .error fault) :
      Loads s root (.error fault) (readings s [] root)
  | visits {p : Progress} {result : Except InclusionFault Progress} {log : List String}
      (hreach : reach s [] root = .ok p)
      (hvisits : Visits s p.opened (p.steps s root) result log) :
      Loads s root (result.map (·.input)) (readings s [] root ++ log)

variable {s : FileStore} {p : Progress} {path dir : String} {patterns : List String}
  {pending : Steps} {result : Except InclusionFault Progress}
  {log : List String}

/-! ## Single steps -/

/-- What is reached is a file that can be read and was not reached before. -/
theorem reach_eq_ok_iff {reached : List String} :
    reach s reached path = .ok p ↔ ∃ part, part? s path = some part ∧ part.key ∉ reached ∧
      p = ⟨part.input, part.key :: reached⟩ := by
  unfold reach part?
  cases hkey : s.key? path with
  | none => simp
  | some key =>
    by_cases hold : key ∈ reached
    · simp only [List.contains_eq_mem, hold, decide_true, if_true]
      simp +contextual [Option.bind_eq_some_iff, hold]
    · cases htext : s.files.get? key with
      | none => simp [hold, htext]
      | some text => cases hinput : ModelInput.parse? text <;> simp [hold, htext, hinput, eq_comm]

theorem readings_eq {reached : List String} {part : Part} (h : part? s path = some part)
    (hnew : part.key ∉ reached) : readings s reached path = [part.key] := by
  simp [readings, (part?_eq_some_iff.1 h).2.1, hnew]

theorem nodup_readings {reached : List String} :
    (readings s reached path).Nodup ∧ ∀ k ∈ readings s reached path, k ∉ reached := by
  unfold readings
  refine ⟨?_, fun k hk => by simpa using (List.mem_filter.1 hk).2⟩
  cases s.key? path with
  | none => exact .nil
  | some key => exact (List.nodup_singleton key).filter _

/-- A pattern is accepted if it stands for something. -/
theorem matching_eq_ok_iff {pattern : String} {paths : List String} :
    matching s dir pattern = .ok paths ↔
      found s dir pattern ≠ [] ∧ found s dir pattern = paths := by
  unfold matching found
  rcases hexpand : s.expand (Path.join dir pattern) with _ | _ | ⟨first, paths'⟩
  · simp
  · simp
  · have hne : ((first :: paths').mergeSort Path.le) ≠ [] := by
      rw [← List.length_pos_iff, List.length_mergeSort]
      exact Nat.succ_pos _
    simp [hne]

/-- There is no fault among the steps exactly when every pattern stands for something, and then the
steps are the paths found. -/
theorem steps_eq_map_ok_iff {paths : List String} :
    steps s dir patterns = paths.map .ok ↔
      (∀ pattern ∈ patterns, found s dir pattern ≠ []) ∧
        patterns.flatMap (found s dir) = paths := by
  have hmatched (h : ∀ pattern ∈ patterns, found s dir pattern ≠ []) :
      steps s dir patterns = (patterns.flatMap (found s dir)).map .ok := by
    rw [List.map_flatMap]
    refine List.flatMap_congr fun pattern hpattern => ?_
    rw [matching_eq_ok_iff.2 ⟨h pattern hpattern, rfl⟩]
  constructor
  · intro h
    have hall : ∀ pattern ∈ patterns, found s dir pattern ≠ [] := by
      intro pattern hpattern
      cases hmatch : matching s dir pattern with
      | ok paths => exact (matching_eq_ok_iff.1 hmatch).1
      | error fault =>
        have hmem : .error fault ∈ steps s dir patterns :=
          List.mem_flatMap.2 ⟨pattern, hpattern, by simp [hmatch]⟩
        simp [h] at hmem
    refine ⟨hall, ?_⟩
    rw [hmatched hall] at h
    exact List.map_injective_iff.2 (fun _ _ heq => Except.ok.inj heq) h
  · rintro ⟨hall, rfl⟩
    exact hmatched hall

/-! ## Going down to a depth -/

/-- One step of `resolve`, which may go on down to a depth. -/
def enter (s : FileStore) (depth : Nat) (p : Progress) (step : Except InclusionFault String) :
    Except InclusionFault Progress := do
  let path ← step
  let part ← reach s p.reached path
  let whole ← resolve s depth (Path.parent path) part
  return ⟨← add p.input whole.input path, whole.reached⟩

theorem enter_ok (depth : Nat) : enter s depth p (.ok path) = (do
    let part ← reach s p.reached path
    let whole ← resolve s depth (Path.parent path) part
    let input ← add p.input whole.input path
    return ⟨input, whole.reached⟩) := rfl

theorem resolve_succ (depth : Nat) : resolve s (depth + 1) dir p =
    (steps s dir p.input.includes).foldlM (enter s depth) p.opened := by
  unfold resolve
  show _ = List.foldlM _ ({ p with input.includes := [] } : Progress) _
  generalize ({ p with input.includes := [] } : Progress) = q
  generalize p.input.includes = patterns
  induction patterns generalizing q with
  | nil => rfl
  | cons pattern patterns ih =>
    rw [List.foldlM_cons, steps, List.flatMap_cons, List.foldlM_append]
    cases matching s dir pattern with
    | error fault => rfl
    | ok paths =>
      show (paths.foldlM _ q >>= _) = ((paths.map Except.ok).foldlM (enter s depth) q >>= _)
      rw [List.foldlM_map]
      exact bind_congr ih

/-- The files that were not reached yet. -/
def unreached (s : FileStore) (reached : List String) : List String :=
  s.files.keys.filter (!reached.contains ·)

theorem length_unreached_cons {reached : List String} {part : Part} (h : part? s path = some part)
    (hnew : part.key ∉ reached) :
    (unreached s (part.key :: reached)).length < (unreached s reached).length := by
  obtain ⟨-, -, text, htext, -⟩ := part?_eq_some_iff.1 h
  refine length_filter_unseen_lt (f := fun k => k) ?_ (by simpa using hnew)
  exact Dict.mem_keys_iff.2 (Dict.contains_eq_true_iff.2 ⟨text, htext⟩)

theorem length_unreached_append (reached more : List String) :
    (unreached s (more ++ reached)).length ≤ (unreached s reached).length := by
  refine List.Sublist.length_le ?_
  refine List.monotone_filter_right _ fun k hk => ?_
  simp only [List.contains_eq_mem, List.mem_append] at hk ⊢
  simp_all

/-! ## What is looked into -/

namespace Visits

/-- A file that is new, with others that are new after it. -/
theorem nodup_cons {reached : List String} {key : String} (hnew : key ∉ reached) (hlog : log.Nodup)
    (hfresh : ∀ k ∈ log, k ∉ key :: reached) :
    ([key] ++ log).Nodup ∧ ∀ k ∈ [key] ++ log, k ∉ reached := by
  rw [List.singleton_append]
  refine ⟨List.nodup_cons.2 ⟨fun hmem => hfresh key hmem (List.mem_cons_self ..), hlog⟩, ?_⟩
  rw [List.forall_mem_cons]
  exact ⟨hnew, fun k hk hold => hfresh k hk (List.mem_cons_of_mem _ hold)⟩

/-- What a run has reached at its end are the files it has looked into, last one first. -/
theorem reached_eq (h : Visits s p pending result log) :
    ∀ q, result = .ok q → q.reached = log.reverse ++ p.reached := by
  induction h with
  | done =>
    rintro q ⟨⟩
    rfl
  | noPath => rintro q ⟨⟩
  | unread => rintro q ⟨⟩
  | fails => rintro q ⟨⟩
  | clashes => rintro q ⟨⟩
  | next hreach _ _ _ ihpart ihrest =>
    intro q hq
    obtain ⟨part, hpart, hnew, rfl⟩ := reach_eq_ok_iff.1 hreach
    rw [ihrest q hq, ihpart _ rfl, readings_eq hpart hnew]
    simp [Progress.opened]

/-- No file is looked into twice, and none that was reached before. -/
theorem nodup (h : Visits s p pending result log) : log.Nodup ∧ ∀ k ∈ log, k ∉ p.reached := by
  induction h with
  | done => simp
  | noPath => simp
  | unread => exact nodup_readings
  | fails hreach _ ih | clashes hreach _ _ ih =>
    obtain ⟨part, hpart, hnew, rfl⟩ := reach_eq_ok_iff.1 hreach
    rw [readings_eq hpart hnew]
    exact nodup_cons hnew ih.1 ih.2
  | next hreach hvisits _ _ ihpart ihrest =>
    obtain ⟨part, hpart, hnew, rfl⟩ := reach_eq_ok_iff.1 hreach
    -- The steps behind start with all that was looked into so far, so that the two logs are apart.
    have hwhole := hvisits.reached_eq _ rfl
    rw [readings_eq hpart hnew]
    obtain ⟨hnodup, hfresh⟩ := nodup_cons hnew ihpart.1 ihpart.2
    refine ⟨List.nodup_append.2 ⟨hnodup, ihrest.1, ?_⟩, ?_⟩
    · rintro k hk _ hk' rfl
      refine ihrest.2 k hk' ?_
      rw [hwhole]
      rcases List.mem_append.1 hk with hk | hk
      · simp [Progress.opened, List.mem_singleton.1 hk]
      · simp [hk]
    · intro k hk
      rcases List.mem_append.1 hk with hk | hk
      · exact hfresh k hk
      · refine fun hold => ihrest.2 k hk ?_
        rw [hwhole]
        simp [Progress.opened, hold]

end Visits

/-! ## Runs come to an end -/

/-- A step has a run if what is included on its path has one and the steps behind have one. -/
theorem exists_visits_cons {depth : Nat}
    (hpart : ∀ part, reach s p.reached path = .ok part →
      ∃ log, Visits s part.opened (part.steps s path) (resolve s depth (Path.parent path) part) log)
    (hrest : ∀ q more, q.reached = more ++ p.reached →
      ∃ log, Visits s q pending (pending.foldlM (enter s depth) q) log) :
    ∃ log, Visits s p (.ok path :: pending)
      ((.ok path :: pending).foldlM (enter s depth) p) log := by
  rw [List.foldlM_cons, enter_ok]
  cases hreach : reach s p.reached path with
  | error fault => exact ⟨_, .unread hreach⟩
  | ok part =>
    obtain ⟨log, hlog⟩ := hpart part hreach
    show ∃ log, Visits s p _ ((resolve s depth _ part >>= _) >>= _) log
    cases hresolve : resolve s depth (Path.parent path) part with
    | error fault => exact ⟨_, .fails hreach (hresolve ▸ hlog)⟩
    | ok whole =>
      rw [hresolve] at hlog
      show ∃ log, Visits s p _ ((add p.input whole.input path >>= _) >>= _) log
      cases hadd : add p.input whole.input path with
      | error fault => exact ⟨_, .clashes hreach hlog hadd⟩
      | ok input =>
        obtain ⟨file, -, -, rfl⟩ := reach_eq_ok_iff.1 hreach
        have hreached : whole.reached = (log.reverse ++ [file.key]) ++ p.reached := by
          rw [hlog.reached_eq _ rfl, List.append_assoc]
          rfl
        obtain ⟨log', hlog'⟩ := hrest ⟨input, whole.reached⟩ _ hreached
        exact ⟨_, .next hreach hlog hadd hlog'⟩

/-- With a depth that is not less than the number of files that were not reached yet, there is a run
with the result that is computed. -/
theorem exists_visits {depth : Nat} (h : (unreached s p.reached).length ≤ depth)
    (pending : Steps) : ∃ log, Visits s p pending (pending.foldlM (enter s depth) p) log := by
  -- Going into a file takes one off the depth, going on to the next step leaves it as it is.
  induction depth using Nat.strongRecOn generalizing p pending with
  | _ depth ihdepth =>
  induction pending generalizing p with
  | nil => exact ⟨_, .done⟩
  | cons step rest ih =>
    cases step with
    | error fault => exact ⟨_, .noPath⟩
    | ok path =>
      refine exists_visits_cons (fun part hreach => ?_) fun q more hq => ih ?_
      · -- One file less is left for what is included here, so that the depth can be less, too.
        obtain ⟨file, hfile, hnew, rfl⟩ := reach_eq_ok_iff.1 hreach
        have hless := length_unreached_cons hfile hnew
        obtain ⟨depth, rfl⟩ := Nat.exists_eq_succ_of_ne_zero (show depth ≠ 0 by omega)
        have hle : (unreached s (file.key :: p.reached)).length ≤ depth := by omega
        rw [resolve_succ]
        exact ihdepth depth (Nat.lt_succ_self depth) hle _
      · rw [hq]
        exact Nat.le_trans (length_unreached_append _ _) h

/-- Reading a model file comes to an end. -/
theorem exists_loads (s : FileStore) (root : String) :
    ∃ log, Loads s root (ModelInput.load s root) log := by
  unfold ModelInput.load
  cases hreach : reach s [] root with
  | error fault => exact ⟨_, .unread hreach⟩
  | ok p =>
    have hle : (unreached s p.opened.reached).length ≤ s.files.size := by
      refine Nat.le_trans (List.length_filter_le _ _) ?_
      simp [Dict.keys, Dict.size]
    obtain ⟨log, hlog⟩ := exists_visits hle (p.steps s root)
    rw [Progress.steps, ← resolve_succ] at hlog
    have hload := Loads.visits hreach hlog
    exact ⟨_, hload⟩

/-- No file is looked into twice. -/
theorem Loads.nodup {root : String} {result : Except InclusionFault ModelInput}
    (h : Loads s root result log) : log.Nodup := by
  cases h with
  | unread => exact nodup_readings.1
  | visits hreach hvisits =>
    obtain ⟨part, hpart, hnew, rfl⟩ := reach_eq_ok_iff.1 hreach
    rw [readings_eq hpart hnew]
    exact (Visits.nodup_cons hnew hvisits.nodup.1 hvisits.nodup.2).1

end ThreatModel.Inclusion
