import Mathlib.Data.List.Induction
import ThreatModel.Proofs.Dict
import ThreatModel.Risk.Presentation

/-!
# Sorted risks and their counts

The order of presentation is one comparison after another, each of them total and transitive, so
sorting gives a sorted permutation. The table of counts always has the same cells; counting one more
risk raises the number in one cell by one (`Tallies.add`), and by induction each cell counts the
risks that belong to it.
-/

namespace ThreatModel

/-! ## Stable sorting -/

section

variable {α : Type} {le : α → α → Bool}

/-- A member that is put in front of a list is sorted in before the first one that it may precede. -/
theorem mergeSort_cons_eq (htrans : ∀ a b c, le a b = true → le b c = true → le a c = true)
    (htotal : ∀ a b, (le a b || le b a) = true) (a : α) (l : List α) :
    (a :: l).mergeSort le =
      (l.mergeSort le).filter (!le a ·) ++ a :: (l.mergeSort le).filter (le a ·) := by
  obtain ⟨l₁, l₂, hcons, hsort, hbefore⟩ := List.mergeSort_cons htrans htotal a l
  have hafter : ∀ b ∈ l₂, le a b = true := by
    have hsorted := List.pairwise_mergeSort htrans htotal (a :: l)
    rw [hcons] at hsorted
    exact (List.pairwise_cons.1 (List.pairwise_append.1 hsorted).2.1).1
  rw [hcons, hsort, List.filter_append, List.filter_append, List.filter_eq_self.2 hbefore,
    List.filter_eq_self.2 hafter, List.filter_eq_nil_iff.2 (by simpa using hafter),
    List.filter_eq_nil_iff.2 (by simpa using hbefore), List.append_nil, List.nil_append]

/-- Sorting is stable, so members can be left out before or after it. -/
theorem filter_mergeSort (htrans : ∀ a b c, le a b = true → le b c = true → le a c = true)
    (htotal : ∀ a b, (le a b || le b a) = true) (p : α → Bool) (l : List α) :
    (l.mergeSort le).filter p = (l.filter p).mergeSort le := by
  induction l with
  | nil => simp
  | cons a l ih =>
    by_cases hp : p a = true
    · rw [mergeSort_cons_eq htrans htotal, List.filter_append, List.filter_cons_of_pos hp,
        List.filter_cons_of_pos hp, mergeSort_cons_eq htrans htotal, ← ih, List.filter_comm p,
        List.filter_comm p]
    · obtain ⟨l₁, l₂, hcons, hsort, -⟩ := List.mergeSort_cons htrans htotal a l
      rw [List.filter_cons_of_neg hp, hcons, List.filter_append, List.filter_cons_of_neg hp,
        ← List.filter_append, ← hsort, ih]

end

/-! ## The order of risks -/

namespace Risk

instance : Std.TransCmp Risk.compare :=
  inferInstanceAs <| Std.TransCmp <|
    compareLex (fun a b : Risk => compareOn (·.severity.ctorIdx) b a) <|
    compareLex (compareOn (·.status.ctorIdx)) <|
    compareLex (fun a b : Risk => compareOn (·.impact.ctorIdx) b a) <|
    compareLex (fun a b : Risk => compareOn (·.likelihood.ctorIdx) b a) <|
    compareLex (compareOn (·.title)) (compareOn (·.syntheticId))

theorem listedBefore_total (a b : Risk) : (listedBefore a b || listedBefore b a) = true := by
  unfold listedBefore
  rw [show compare b a = (compare a b).swap from Std.OrientedCmp.eq_swap]
  cases compare a b <;> rfl

theorem listedBefore_trans (a b c : Risk) (hab : listedBefore a b = true)
    (hbc : listedBefore b c = true) : listedBefore a c = true :=
  Std.TransCmp.isLE_trans hab hbc

theorem perm_sort (risks : List Risk) : (sort risks).Perm risks := List.mergeSort_perm ..

theorem pairwise_sort (risks : List Risk) : (sort risks).Pairwise (listedBefore · · = true) :=
  List.pairwise_mergeSort listedBefore_trans listedBefore_total risks

theorem filter_sort (p : Risk → Bool) (risks : List Risk) :
    (sort risks).filter p = sort (risks.filter p) :=
  filter_mergeSort listedBefore_trans listedBefore_total p risks

end Risk

/-! ## The order of categories -/

namespace Category

theorem perm_sort (risks : Dict (List Risk)) (categories : List Category) :
    (sort risks categories).Perm categories := List.mergeSort_perm ..

instance (risks : Dict (List Risk)) : Std.TransCmp (compare risks) :=
  inferInstanceAs <| Std.TransCmp <|
    compareLex (fun a b : Category => compareOn
      (fun c => openRank ((risks.get? c.id).bind Risk.highestOpenSeverity)) b a) <|
    compareLex (compareOn (·.title)) (compareOn (·.id))

/-- Categories are listed in the same order when others, and the risks of others, are left out. -/
theorem filter_sort {risks risks' : Dict (List Risk)} {p : Category → Bool}
    (h : ∀ c, p c = true → risks'.get? c.id = risks.get? c.id) (categories : List Category) :
    (sort risks categories).filter p = sort risks' (categories.filter p) := by
  have htrans (a b c : Category) (hab : (compare risks a b).isLE = true)
      (hbc : (compare risks b c).isLE = true) : (compare risks a c).isLE = true :=
    Std.TransCmp.isLE_trans hab hbc
  have htotal (a b : Category) : ((compare risks a b).isLE || (compare risks b a).isLE) = true := by
    rw [show compare risks b a = (compare risks a b).swap from Std.OrientedCmp.eq_swap]
    cases compare risks a b <;> rfl
  have hsame : (categories.filter p).mergeSort (fun a b => (compare risks a b).isLE) =
      sort risks' (categories.filter p) := by
    have hmap := List.map_mergeSort (f := fun c : Category => c) (l := categories.filter p)
      (r := fun a b => (compare risks a b).isLE) (s := fun a b => (compare risks' a b).isLE)
      fun a ha b hb => by
        simp only [compare, h a (List.mem_filter.1 ha).2, h b (List.mem_filter.1 hb).2]
    rwa [List.map_id', List.map_id'] at hmap
  rw [sort, filter_mergeSort htrans htotal, hsame]

end Category

/-! ## Counts -/

namespace Statistics

/-- A table counts risks: it has a cell for each severity and status and no others, the number in a
cell is that of the risks that belong to it, and all of them add up to the number of risks. -/
structure Tallies (s : Statistics) (risks : List Risk) : Prop where
  rows : s.counts.keys.Perm (Severity.all.map (·.word))
  cells : ∀ severity : Severity, ∃ row, s.counts.get? severity.word = some row ∧
    row.keys.Perm (RiskStatus.all.map (·.word)) ∧
    ∀ status : RiskStatus, row.get? status.word =
      some (risks.countP fun r => r.severity = severity ∧ r.status = status)
  total : (s.counts.values.map (·.values.sum)).sum = risks.length

theorem word_inj_severity {s t : Severity} (h : s.word = t.word) : s = t := by
  revert h
  cases s <;> cases t <;> decide

theorem word_inj_status {s t : RiskStatus} (h : s.word = t.word) : s = t := by
  revert h
  cases s <;> cases t <;> decide

theorem tallies_zero : Tallies zero [] where
  rows := by decide +kernel
  cells severity := by
    refine ⟨.ofList (RiskStatus.all.map fun t => (t.word, 0)), ?_, by decide +kernel, ?_⟩
    · cases severity <;> decide +kernel
    · intro status
      rw [List.countP_nil]
      cases status <;> decide +kernel
  total := by decide +kernel

theorem Tallies.add {s : Statistics} {risks : List Risk} (h : Tallies s risks) (r : Risk) :
    Tallies (s.add r) (risks ++ [r]) where
  rows := by
    rw [Statistics.add, Dict.keys_modify]
    exact h.rows
  cells severity := by
    obtain ⟨row, hrow, hkeys, hcells⟩ := h.cells severity
    by_cases hseverity : severity = r.severity
    · -- one cell of the row of the risk's severity goes up, all other rows stay
      subst hseverity
      refine ⟨row.modify r.status.word (· + 1), ?_, by rwa [Dict.keys_modify], fun status => ?_⟩
      · rw [Statistics.add, Dict.get?_modify, hrow]
        simp
      · rw [Dict.get?_modify, hcells]
        by_cases hstatus : status = r.status
        · simp [hstatus]
        · have hword : status.word ≠ r.status.word := fun heq => hstatus (word_inj_status heq)
          simp [hword, Ne.symm hstatus]
    · have hword : severity.word ≠ r.severity.word := fun heq => hseverity (word_inj_severity heq)
      refine ⟨row, ?_, hkeys, fun status => ?_⟩
      · rw [Statistics.add, Dict.get?_modify, hrow]
        simp [hword]
      · rw [hcells]
        simp [Ne.symm hseverity]
  total := by
    obtain ⟨row, hrow, -, hcells⟩ := h.cells r.severity
    rw [List.length_append, List.length_singleton, ← h.total, Statistics.add]
    refine Dict.sum_values_modify hrow ?_
    have hcell := Dict.sum_values_modify (f := (· + 1)) (g := id) (hcells r.status) rfl
    rw [List.map_id, List.map_id] at hcell
    exact hcell

/-- The counts of some risks are right. -/
theorem tallies_ofRisks (risks : List Risk) : Tallies (ofRisks risks) risks := by
  induction risks using List.reverseRecOn with
  | nil => exact tallies_zero
  | append_singleton risks r ih =>
    rw [ofRisks, List.foldl_append]
    exact ih.add r

/-- The number of cells. -/
example : Severity.all.length * RiskStatus.all.length = 30 := rfl

end Statistics

end ThreatModel
