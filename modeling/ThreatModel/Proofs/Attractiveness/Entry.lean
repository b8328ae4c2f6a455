import ThreatModel.Attractiveness.Scores
import ThreatModel.Proofs.Model.Index
import ThreatModel.Proofs.Model.Rescored

/-!
# Entering scores

Scores come from outside, so they are checked before the first one is set. The loop of the checks stops
at the first score that does not fit the model (`run_update`), and at that time nothing is changed. The
loop that sets scores ends with the assets that the scores list scored anew and everything else as it
was (`foldl_set`). The index is computed anew at the end, but scores are no part of it.
-/

namespace ThreatModel.Scores

/-! ## What can be entered -/

/-- The first score that cannot be entered into a model, if there is one: its asset is unknown, or it is
no percentage. -/
def refused? {ν : Type} [Scalar ν] (m : Model) (scores : Dict ν) : Option (String × ν) :=
  scores.entries.find? fun e =>
    !(m.technicalAssets.contains e.1 && Attractiveness.isPercentage e.2)

/-- Sets the scores of the assets of a model. -/
def enter (m : Model) (scores : Dict Float) : Model :=
  Model.reindex { m with
    technicalAssets := m.technicalAssets.mapWithKey fun id a =>
      match scores.get? id with
      | some score => { a with raa := score }
      | none => a }

/-- Whether a score can be entered: its asset is known, and it is from 0 to 100. No comparison holds of
what is not a number, so that is refused as well. -/
def Fits (m : Model) (e : String × Float) : Prop :=
  m.technicalAssets.contains e.1 = true ∧ 0 ≤ e.2 ∧ e.2 ≤ 100

/-- Whether an entry is the first one, in the order of ids, that does not fit. -/
def FirstMisfit (m : Model) (scores : Dict Float) (e : String × Float) : Prop :=
  ¬Fits m e ∧ ∃ before after, scores.entries = before ++ e :: after ∧ ∀ x ∈ before, Fits m x

/-- What is said of an entry that does not fit: that its asset is unknown, whatever the score is, or
else that the score is out of range. -/
def fault (m : Model) (plugin : String) (e : String × Float) : PluginFault :=
  if m.technicalAssets.contains e.1 = true then .scoreOutOfRange plugin e.1 e.2
  else .unknownAsset plugin e.1

/-- What entering scores into a model leads to. -/
structure Entered (m : Model) (scores : Dict Float) (m' : Model) : Prop where
  /-- An asset with a score has that and is as before in all else. -/
  listed : ∀ {id score}, scores.get? id = some score →
    ∃ a, m.technicalAssets.get? id = some a ∧
      m'.technicalAssets.get? id = some { a with raa := score }
  unlisted : ∀ {id}, scores.get? id = none →
    m'.technicalAssets.get? id = m.technicalAssets.get? id
  /-- Nothing but assets changes, the index included. -/
  others : { m' with technicalAssets := m.technicalAssets } = m
  current : m'.reindex = m'
  answers : m.AnswersAlike m'

variable {m : Model} {e : String × Float} {scores : Dict Float} {plugin : String}

theorem fits_iff : Fits m e ↔
    (m.technicalAssets.contains e.1 && Attractiveness.isPercentage e.2) = true := by
  rw [Attractiveness.isPercentage, Bool.and_eq_true, Bool.and_eq_true]
  exact and_congr_right' (and_congr decide_eq_true_iff.symm decide_eq_true_iff.symm)

theorem not_fits_iff : ¬Fits m e ↔
    (!(m.technicalAssets.contains e.1 && Attractiveness.isPercentage e.2)) = true := by
  rw [fits_iff, Bool.not_eq_true, Bool.not_eq_true']

theorem refused?_eq_some_iff : refused? m scores = some e ↔ FirstMisfit m scores e := by
  simp only [refused?, List.find?_eq_some_iff_append, ← not_fits_iff, FirstMisfit, fits_iff,
    Bool.not_not]

theorem refused?_eq_none_iff : refused? m scores = none ↔ ∀ e ∈ scores.entries, Fits m e := by
  simp only [refused?, List.find?_eq_none, ← not_fits_iff, not_not]

/-- Where some entry does not fit, there is a first one. -/
theorem exists_not_fits_iff :
    (∃ e ∈ scores.entries, ¬Fits m e) ↔ ∃ e, FirstMisfit m scores e := by
  simp only [← refused?_eq_some_iff, ← Option.isSome_iff_exists, Option.isSome_iff_ne_none, Ne,
    refused?_eq_none_iff, not_forall, exists_prop]

/-! ## The loops -/

theorem check_eq_ok (h : Fits m e) : check m plugin e = .ok () := by
  obtain ⟨hknown, hscore⟩ := Bool.and_eq_true_iff.1 (fits_iff.1 h)
  simp [check, hknown, hscore]

theorem check_eq_error (h : ¬Fits m e) : check m plugin e = .error (fault m plugin e) := by
  rw [fits_iff, Bool.and_eq_true, not_and, Bool.not_eq_true] at h
  rw [check, fault]
  by_cases hknown : m.technicalAssets.contains e.1 = true
  · simp [hknown, h hknown]
  · simp [hknown]

/-- The loop of the checks ends at the first entry that does not fit. -/
theorem forM_check (m : Model) (plugin : String) (l : List (String × Float)) :
    l.forM (check m plugin) =
      match l.find? fun e => !(m.technicalAssets.contains e.1 && Attractiveness.isPercentage e.2) with
      | some e => .error (fault m plugin e)
      | none => .ok () := by
  induction l with
  | nil => rfl
  | cons e l ih =>
    show (check m plugin e >>= fun _ => l.forM (check m plugin)) = _
    by_cases hfits : Fits m e
    · rw [check_eq_ok hfits, List.find?_cons_of_neg (by simp [fits_iff.1 hfits]), ← ih]
      rfl
    · rw [check_eq_error hfits, List.find?_cons_of_pos (by exact not_fits_iff.1 hfits)]
      rfl

/-- What follows runs on the model that a step has left, unless the step has failed. -/
theorem run_bind {α β : Type} (x : ExceptT PluginFault (StateM Model) α)
    (f : α → ExceptT PluginFault (StateM Model) β) (m : Model) :
    (x >>= f).run.run m =
      match x.run.run m with
      | (.ok a, m') => (f a).run.run m'
      | (.error fault, m') => (.error fault, m') := by
  rw [ExceptT.run_bind, StateT.run_bind]
  rcases x.run.run m with ⟨a | a, m'⟩ <;> rfl

/-- A loop of changes cannot fail. -/
theorem run_forM_modify {α : Type} (f : Model → α → Model) (l : List α) (m : Model) :
    (l.forM fun x => modify (f · x) : ExceptT PluginFault (StateM Model) Unit).run.run m =
      (.ok (), l.foldl f m) := by
  induction l generalizing m with
  | nil => rfl
  | cons x l ih => exact ih (f m x)

theorem run_lift {α : Type} (x : Except PluginFault α) (m : Model) :
    (x : ExceptT PluginFault (StateM Model) α).run.run m = (x, m) := rfl

/-- Before the first change nothing has happened to the model. -/
theorem run_update (s : Scores) (plugin : String) (m : Model) :
    (s.update plugin).run.run m =
      match refused? m s.scores with
      | some e => (.error (fault m plugin e), m)
      | none => (.ok (), (s.scores.entries.foldl set m).reindex) := by
  have hcheck := forM_check m plugin s.scores.entries
  have hget : (get : ExceptT PluginFault (StateM Model) Model).run.run m = (.ok m, m) := rfl
  rw [← refused?] at hcheck
  simp only [update, run_bind, hget, run_lift, hcheck, run_forM_modify]
  cases refused? m s.scores with
  | some e => rfl
  | none => rfl

/-! ## The model afterwards -/

/-- Setting a score touches the asset with its key only. -/
theorem get?_foldl_set (m : Model) (l : List (String × Float)) (id : String) :
    (l.foldl set m).technicalAssets.get? id = (m.technicalAssets.get? id).map fun a =>
      match (l.reverse.find? (·.1 = id)).map (·.2) with
      | some score => { a with raa := score }
      | none => a := by
  induction l generalizing m with
  | nil => exact Option.map_id.symm ▸ rfl
  | cons e l ih =>
    rw [List.foldl_cons, ih, set, Dict.get?_modify, Option.map_map, List.reverse_cons,
      List.find?_append]
    refine congrArg (Option.map · _) (funext fun a => ?_)
    cases l.reverse.find? (·.1 = id) with
    | some x =>
      by_cases hid : id = e.1 <;> simp [hid]
    | none =>
      by_cases hid : id = e.1
      · simp [hid]
      · simp [hid, Ne.symm hid]

/-- After the loop the assets with scores have them, and everything else is as it was. -/
theorem foldl_set (m : Model) (scores : Dict Float) :
    scores.entries.foldl set m = { m with
      technicalAssets := m.technicalAssets.mapWithKey fun id a =>
        match scores.get? id with
        | some score => { a with raa := score }
        | none => a } := by
  have hothers := Model.foldl_unchanged (fun m : Model => { m with technicalAssets := .empty }) set
    (fun _ _ => rfl) m scores.entries
  have hassets : (scores.entries.foldl set m).technicalAssets =
      m.technicalAssets.mapWithKey fun id a =>
        match scores.get? id with
        | some score => { a with raa := score }
        | none => a := by
    refine Dict.ext_get? fun id => ?_
    rw [get?_foldl_set, ← Dict.get?_ofList, Dict.ofList_entries, Dict.get?_mapWithKey]
  rw [← hassets]
  exact congrArg (fun m' : Model =>
    { m' with technicalAssets := (scores.entries.foldl set m).technicalAssets }) hothers

theorem apply_eq (m : Model) (s : Scores) (plugin : String) :
    s.apply m plugin =
      match refused? m s.scores with
      | some e => .error (fault m plugin e)
      | none => .ok (enter m s.scores) := by
  rw [apply, run_update, foldl_set]
  cases refused? m s.scores with
  | some e => rfl
  | none => rfl

/-- Scores are entered by scoring the model anew, where assets without a score keep the one they have. -/
theorem enter_eq_rescored (h : m.reindex = m) : enter m scores = m.rescored fun id =>
    (scores.get? id).getD (((m.technicalAssets.get? id).map (·.raa)).getD 0) := by
  rw [← Model.reindex_rescored h, enter, Model.rescored]
  refine congrArg (fun assets => Model.reindex { m with technicalAssets := assets }) ?_
  refine Dict.ext_get? fun id => ?_
  rw [Dict.get?_mapWithKey, Dict.get?_mapWithKey]
  cases m.technicalAssets.get? id with
  | none => rfl
  | some a => cases scores.get? id <;> rfl

theorem entered_enter (h : m.reindex = m) (hfit : ∀ e ∈ scores.entries, Fits m e) :
    Entered m scores (enter m scores) where
  listed {id score} hscore := by
    obtain ⟨a, ha⟩ := Dict.contains_eq_true_iff.1 (hfit _ (Dict.get?_eq_some_iff.1 hscore)).1
    refine ⟨a, ha, ?_⟩
    show (m.technicalAssets.mapWithKey _).get? id = _
    rw [Dict.get?_mapWithKey, ha, hscore]
    rfl
  unlisted {id} hscore := by
    show (m.technicalAssets.mapWithKey _).get? id = _
    rw [Dict.get?_mapWithKey, hscore]
    exact congrFun Option.map_id_fun' _
  others := by
    rw [enter_eq_rescored h]
    rfl
  current := rfl
  answers := by
    rw [enter_eq_rescored h]
    exact m.answersAlike_rescored _

theorem apply_eq_error_iff {s : Scores} {f : PluginFault} :
    s.apply m plugin = .error f ↔ ∃ e, FirstMisfit m s.scores e ∧ f = fault m plugin e := by
  simp only [apply_eq, ← refused?_eq_some_iff]
  cases refused? m s.scores with
  | none => simp
  | some e => simp [eq_comm]

/-- Entering scores into a model with a current index is all or nothing. It fails if and only if some
entry does not fit; then the first such entry is named, and the model is as it was. If all entries fit,
the assets with a score have it, and all else is as before, with the answers to all questions. -/
theorem apply_all_or_nothing (h : m.reindex = m) (s : Scores) (plugin : String) :
    ((∃ f, s.apply m plugin = .error f) ↔ ∃ e ∈ s.scores.entries, ¬Fits m e) ∧
      (∀ f, s.apply m plugin = .error f ↔
        ∃ e, FirstMisfit m s.scores e ∧ f = fault m plugin e) ∧
      (∀ f, s.apply m plugin = .error f → (s.update plugin).run.run m = (.error f, m)) ∧
      ((∀ e ∈ s.scores.entries, Fits m e) →
        ∃ m', s.apply m plugin = .ok m' ∧ (s.update plugin).run.run m = (.ok (), m') ∧
          Entered m s.scores m') := by
  refine ⟨?_, fun f => apply_eq_error_iff, fun f hf => ?_, fun hfit => ?_⟩
  · simp only [apply_eq_error_iff, exists_not_fits_iff]
    exact ⟨fun ⟨_, e, he, _⟩ => ⟨e, he⟩, fun ⟨e, he⟩ => ⟨_, e, he, rfl⟩⟩
  · obtain ⟨e, he, rfl⟩ := apply_eq_error_iff.1 hf
    rw [run_update, refused?_eq_some_iff.2 he]
  · have hnone := refused?_eq_none_iff.2 hfit
    refine ⟨enter m s.scores, ?_, ?_, entered_enter h hfit⟩
    · rw [apply_eq, hnone]
    · rw [run_update, hnone, foldl_set]
      rfl

/-- What is not a number and what is infinite is no percentage. -/
example : ¬Fits m ("shop", 0 / 0) ∧ ¬Fits m ("shop", 1 / 0) := by
  refine ⟨fun h => ?_, fun h => ?_⟩
  · exact absurd h.2.1 (by decide +kernel)
  · exact absurd h.2.2 (by decide +kernel)

/-- Scores of the shop's assets, and of one that there is not. -/
def strayScores : Scores := ⟨"", .ofList [("store", 0 / 0), ("shop", 50), ("shore", 140)]⟩

/-- The first bad entry is named. Its asset is unknown, which is said although its score is out of range
as well, and the good entry before it is not set. Without the bad ones it is. -/
theorem bookshop_scored :
    ∃ m, Validation.build ⟨2024, 3, 1⟩ Validation.bookshop = .ok m ∧
      strayScores.apply m "custom" = .error (.unknownAsset "custom" "shore") ∧
      (strayScores.update "custom").run.run m = (.error (.unknownAsset "custom" "shore"), m) ∧
      ∃ m', Scores.apply m ⟨"", .ofList [("shop", 50)]⟩ "custom" = .ok m' ∧
        (∃ shop, m.technicalAssets.get? "shop" = some shop ∧
          m'.technicalAssets.get? "shop" = some { shop with raa := 50 }) ∧
        m'.technicalAssets.get? "store" = m.technicalAssets.get? "store" ∧
        m.AnswersAlike m' := by
  have hchecked : (Validation.build ⟨2024, 3, 1⟩ Validation.bookshop).toOption.map
      (·.technicalAssets.keys) = some ["shop", "store"] := by
    decide +kernel
  obtain ⟨m, hm, hkeys⟩ := Model.exists_of_build hchecked
  have hindex := (Model.Accepted.of_build hm).coherent.index
  have hshop : Fits m ("shop", 50) := by
    refine ⟨Dict.mem_keys_iff.1 ?_, by decide +kernel, by decide +kernel⟩
    rw [hkeys]
    exact List.mem_cons_self
  have hshore : m.technicalAssets.contains "shore" = false := by
    rw [← Bool.not_eq_true, ← Dict.mem_keys_iff, hkeys]
    decide
  have hfirst : FirstMisfit m strayScores.scores ("shore", 140) :=
    ⟨fun h => Bool.false_ne_true (hshore.symm.trans h.1), [("shop", 50)], [("store", 0 / 0)], rfl,
      List.forall_mem_singleton.2 hshop⟩
  have hfault : fault m "custom" ("shore", 140) = .unknownAsset "custom" "shore" := by
    rw [fault, hshore]
    rfl
  obtain ⟨-, hstray, hkept, -⟩ := apply_all_or_nothing hindex strayScores "custom"
  have herror := (hstray _).2 ⟨_, hfirst, hfault.symm⟩
  obtain ⟨-, -, -, hentered⟩ := apply_all_or_nothing hindex ⟨"", .ofList [("shop", 50)]⟩ "custom"
  obtain ⟨m', hm', -, hlisted, hunlisted, -, -, hanswers⟩ :=
    hentered (List.forall_mem_singleton.2 hshop)
  exact ⟨m, hm, herror, hkept _ herror, m', hm', hlisted rfl, hunlisted rfl, hanswers⟩

end ThreatModel.Scores
