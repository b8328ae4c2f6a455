import Mathlib.Data.List.Chain
import ThreatModel.Proofs.Text.Folding
import ThreatModel.Text.Slug

/-!
# What slugs look like

A slug is made of the runs of ASCII letters and digits of a text in lower case. That these are its
maximal runs, all of them and in their order, is said by `Parted`: a text is parted into runs with a
property and gaps without it, in one way only. There is another way to a slug: put one hyphen for
every gap, then take off what stands at the ends (`strip_collapse`). It leads to the same text, because
neither step changes the runs, and a text with hyphens that stand alone between other characters is
given by its runs (`intercalate_runs`).

Lower-casing may make letters of ASCII from others, but no capitals are left after it. So a slug stays
as it is when a slug is made of it, and slugs are just the texts of which that is true
(`slug_eq_self_iff`).
-/

namespace ThreatModel.Text

/-! ## Maximal runs -/

/-- A text is parted into its maximal runs of characters with a property. Gaps, which may be empty at
the ends of the text only, have no such character, and a run ends with the text or before a gap. -/
inductive Parted (p : Char → Bool) : List Char → List (List Char) → Prop
  | gap {gap} (hgap : ∀ c ∈ gap, p c = false) : Parted p gap []
  | run {gap run rest rs} (hgap : ∀ c ∈ gap, p c = false) (hne : run ≠ [])
      (hrun : ∀ c ∈ run, p c = true) (hend : ∀ c ∈ rest.head?, p c = false)
      (h : Parted p rest rs) : Parted p (gap ++ run ++ rest) (run :: rs)

variable {p : Char → Bool} {cs gap run rest : List Char} {rs : List (List Char)} {c : Char}

@[simp] theorem runs_nil (p : Char → Bool) : runs p [] = [] := rfl

theorem runs_cons_of_neg (hc : p c = false) : runs p (c :: cs) = runs p cs := by
  rw [runs, runsFrom, if_neg (by simp [hc])]
  rfl

theorem runs_gap_append (hgap : ∀ c ∈ gap, p c = false) : runs p (gap ++ cs) = runs p cs := by
  induction gap with
  | nil => rfl
  | cons c gap ih =>
    rw [List.cons_append, runs_cons_of_neg (hgap c (List.mem_cons_self ..)),
      ih fun x hx => hgap x (List.mem_cons_of_mem _ hx)]

theorem runsFrom_run_append (read : List Char) (hrun : ∀ c ∈ run, p c = true) :
    runsFrom p read (run ++ rest) = runsFrom p (read ++ run) rest := by
  induction run generalizing read with
  | nil => rw [List.nil_append, List.append_nil]
  | cons c run ih =>
    rw [List.cons_append, runsFrom, if_pos (hrun c (List.mem_cons_self ..)),
      ih _ fun x hx => hrun x (List.mem_cons_of_mem _ hx), List.append_assoc, List.singleton_append]

/-- A run that is not continued is complete. -/
theorem runsFrom_of_head (hne : run ≠ []) (hend : ∀ c ∈ rest.head?, p c = false) :
    runsFrom p run rest = run :: runs p rest := by
  cases rest with
  | nil => simp [runsFrom, hne]
  | cons c rest => simp [runsFrom, runs, hne, hend c rfl]

theorem runs_run_append (hne : run ≠ []) (hrun : ∀ c ∈ run, p c = true)
    (hend : ∀ c ∈ rest.head?, p c = false) : runs p (run ++ rest) = run :: runs p rest := by
  rw [runs, runsFrom_run_append [] hrun, List.nil_append, runsFrom_of_head hne hend]

theorem Parted.runs_eq (h : Parted p cs rs) : runs p cs = rs := by
  induction h with
  | @gap gap hgap =>
    rw [← List.append_nil gap, runs_gap_append hgap, runs_nil]
  | run hgap hne hrun hend _ ih =>
    rw [List.append_assoc, runs_gap_append hgap, runs_run_append hne hrun hend, ih]

/-- A gap before the text changes nothing about its runs. -/
theorem Parted.cons_gap (hc : p c = false) (h : Parted p cs rs) : Parted p (c :: cs) rs := by
  cases h with
  | gap hgap => exact .gap (List.forall_mem_cons.2 ⟨hc, hgap⟩)
  | run hgap hne hrun hend h => exact .run (List.forall_mem_cons.2 ⟨hc, hgap⟩) hne hrun hend h

theorem Parted.append_gap (hgap : ∀ c ∈ gap, p c = false) (h : Parted p cs rs) :
    Parted p (cs ++ gap) rs := by
  induction h with
  | gap hfirst => exact .gap (List.forall_mem_append.2 ⟨hfirst, hgap⟩)
  | @run first run rest rs hfirst hne hrun hend _ ih =>
    rw [List.append_assoc]
    refine .run hfirst hne hrun (fun c hc => ?_) ih
    cases rest with
    | nil => exact hgap c (List.mem_of_mem_head? hc)
    | cons d rest => exact hend c hc

theorem Parted.of_run (hne : run ≠ []) (hrun : ∀ c ∈ run, p c = true)
    (hend : ∀ c ∈ rest.head?, p c = false) (h : Parted p rest rs) :
    Parted p (run ++ rest) (run :: rs) := by
  have hparted : Parted p ([] ++ run ++ rest) (run :: rs) :=
    .run (List.forall_mem_nil _) hne hrun hend h
  rwa [List.nil_append] at hparted

theorem parted_runsFrom (hrun : ∀ c ∈ run, p c = true) :
    Parted p (run ++ cs) (runsFrom p run cs) := by
  induction cs generalizing run with
  | nil =>
    by_cases hne : run = []
    · subst hne
      exact .gap (by simp)
    · rw [runsFrom_of_head hne (by simp)]
      exact .of_run hne hrun (by simp) (.gap (List.forall_mem_nil _))
  | cons c cs ih =>
    cases hc : p c with
    | true =>
      rw [runsFrom, if_pos hc, List.append_cons]
      exact ih (List.forall_mem_append.2 ⟨hrun, List.forall_mem_singleton.2 hc⟩)
    | false =>
      have hrest : Parted p (c :: cs) (runs p (c :: cs)) := by
        rw [runs_cons_of_neg hc]
        exact (ih (List.forall_mem_nil _)).cons_gap hc
      by_cases hne : run = []
      · subst hne
        exact hrest
      · rw [runsFrom_of_head hne (by simpa using hc)]
        exact .of_run hne hrun (by simpa using hc) hrest

/-- There is one way to part a text. -/
theorem parted_iff : Parted p cs rs ↔ rs = runs p cs := by
  constructor
  · intro h
    exact h.runs_eq.symm
  · rintro rfl
    exact parted_runsFrom (List.forall_mem_nil _)

theorem runs_append_gap (hgap : ∀ c ∈ gap, p c = false) : runs p (cs ++ gap) = runs p cs :=
  ((parted_iff.2 rfl).append_gap hgap).runs_eq

theorem runs_dropWhile {q : Char → Bool} (hq : ∀ c, q c = true → p c = false) (cs : List Char) :
    runs p (cs.dropWhile q) = runs p cs := by
  have hgap : ∀ c ∈ cs.takeWhile q, p c = false := fun c hc => hq c (List.mem_takeWhile_imp hc)
  rw [← runs_gap_append hgap, List.takeWhile_append_dropWhile]

theorem runs_rdropWhile {q : Char → Bool} (hq : ∀ c, q c = true → p c = false) (cs : List Char) :
    runs p (cs.rdropWhile q) = runs p cs := by
  have hgap : ∀ c ∈ cs.rtakeWhile q, p c = false := fun c hc => hq c (List.mem_rtakeWhile_imp hc)
  rw [← runs_append_gap hgap, List.rdropWhile_append_rtakeWhile]

/-! ## Runs with hyphens between them -/

/-- Hyphens stand alone and between other characters only. -/
structure Hyphenated (cs : List Char) : Prop where
  front : '-' ∉ cs.head?
  back : '-' ∉ cs.getLast?
  single : cs.IsChain fun a b => ¬(a = '-' ∧ b = '-')

theorem ne_hyphen_of_isAlphanum (h : c.isAlphanum = true) : c ≠ '-' := by
  rintro rfl
  exact absurd h (by decide)

/-- Something stands on both sides of a hyphen, and what comes behind it is hyphenated too. -/
theorem Hyphenated.of_join (h : Hyphenated (run ++ '-' :: rest)) :
    run ≠ [] ∧ rest ≠ [] ∧ Hyphenated rest := by
  obtain ⟨hfront, hback, hsingle⟩ := h
  rw [List.isChain_append, List.isChain_cons] at hsingle
  rw [List.getLast?_append_of_ne_nil _ (List.cons_ne_nil '-' rest)] at hback
  have hne' : rest ≠ [] := by
    rintro rfl
    exact hback rfl
  rw [List.getLast?_cons_of_ne_nil hne'] at hback
  refine ⟨?_, hne', fun hc => hsingle.2.1.1 _ hc ⟨rfl, rfl⟩, hback, hsingle.2.1.2⟩
  rintro rfl
  exact hfront rfl

theorem intercalate_runsFrom (hrun : ∀ c ∈ run, c.isAlphanum = true)
    (hchars : ∀ c ∈ cs, c.isAlphanum = true ∨ c = '-') (h : Hyphenated (run ++ cs)) :
    ['-'].intercalate (runsFrom Char.isAlphanum run cs) = run ++ cs := by
  induction cs generalizing run with
  | nil =>
    by_cases hne : run = []
    · subst hne
      rfl
    · rw [runsFrom_of_head hne (by simp), runs_nil, List.intercalate_singleton, List.append_nil]
  | cons c cs ih =>
    obtain ⟨hc, hcs⟩ := List.forall_mem_cons.1 hchars
    rcases hc with hc | rfl
    · rw [runsFrom, if_pos hc, List.append_cons run c cs]
      rw [List.append_cons run c cs] at h
      exact ih (List.forall_mem_append.2 ⟨hrun, List.forall_mem_singleton.2 hc⟩) hcs h
    · -- the hyphen ends the run read so far, and another run begins behind it
      obtain ⟨hne, hne', hrest⟩ := h.of_join
      have hjoin : ['-'].intercalate (runs Char.isAlphanum cs) = cs :=
        ih (List.forall_mem_nil _) hcs hrest
      rw [runsFrom_of_head hne (by simp), runs_cons_of_neg (by decide)]
      cases hruns : runs Char.isAlphanum cs with
      | nil =>
        rw [hruns] at hjoin
        exact absurd hjoin.symm hne'
      | cons w words =>
        rw [List.intercalate_cons_cons, ← hruns, hjoin, List.append_assoc, List.singleton_append]

/-- A text of letters, digits and lone hyphens is its runs with hyphens between them. -/
theorem intercalate_runs (hchars : ∀ c ∈ cs, c.isAlphanum = true ∨ c = '-') (h : Hyphenated cs) :
    ['-'].intercalate (runs Char.isAlphanum cs) = cs :=
  intercalate_runsFrom (List.forall_mem_nil _) hchars h

/-! ## Hyphens for gaps -/

/-- A text with one hyphen for every run of characters that are no letters or digits. -/
def collapse : List Char → List Char
  | [] => []
  | c :: cs =>
    if c.isAlphanum then c :: collapse cs
    else '-' :: collapse (cs.dropWhile fun d => !d.isAlphanum)
termination_by cs => cs.length
decreasing_by
  · exact Nat.lt_succ_self _
  · exact Nat.lt_succ_of_le (List.dropWhile_sublist _).length_le

/-- Whether a character is taken off the ends of a slug. -/
def isPadding (c : Char) : Bool := c = '-' || c = ' '

/-- A text without hyphens and spaces at its ends. -/
def strip (cs : List Char) : List Char := (cs.dropWhile isPadding).rdropWhile isPadding

/-- A collapsed text begins with a hyphen only if the text begins with a gap. -/
theorem hyphen_notMem_head?_collapse (h : ∀ c ∈ cs.head?, c.isAlphanum = true) :
    '-' ∉ (collapse cs).head? := by
  cases cs with
  | nil => simp [collapse]
  | cons c cs =>
    rw [collapse, if_pos (h c rfl), List.head?_cons, Option.mem_some]
    exact ne_hyphen_of_isAlphanum (h c rfl)

theorem mem_collapse (h : c ∈ collapse cs) : (c.isAlphanum = true ∧ c ∈ cs) ∨ c = '-' := by
  fun_induction collapse cs with
  | case1 => cases h
  | case2 d cs hd ih =>
    rcases List.mem_cons.1 h with rfl | h
    · exact .inl ⟨hd, List.mem_cons_self ..⟩
    · exact (ih h).imp_left fun h => ⟨h.1, List.mem_cons_of_mem _ h.2⟩
  | case3 d cs hd ih =>
    rcases List.mem_cons.1 h with rfl | h
    · exact .inr rfl
    · exact (ih h).imp_left fun h =>
        ⟨h.1, List.mem_cons_of_mem _ ((List.dropWhile_sublist _).subset h.2)⟩

theorem isChain_collapse (cs : List Char) :
    (collapse cs).IsChain fun a b => ¬(a = '-' ∧ b = '-') := by
  fun_induction collapse cs with
  | case1 => exact List.isChain_nil
  | case2 c cs hc ih =>
    exact List.isChain_cons.2 ⟨fun _ _ h => ne_hyphen_of_isAlphanum hc h.1, ih⟩
  | case3 c cs hc ih =>
    -- the whole gap is gone, so what follows the hyphen is a letter or a digit
    have hhead : ∀ d ∈ (cs.dropWhile fun d => !d.isAlphanum).head?, d.isAlphanum = true := by
      intro d hd
      have hnot := List.head?_dropWhile_not (fun d => !Char.isAlphanum d) cs
      rw [Option.mem_def.1 hd] at hnot
      simpa using hnot
    exact List.isChain_cons.2
      ⟨fun d hd h => hyphen_notMem_head?_collapse hhead (h.2 ▸ hd), ih⟩

theorem runsFrom_collapse (run cs : List Char) :
    runsFrom Char.isAlphanum run (collapse cs) = runsFrom Char.isAlphanum run cs := by
  fun_induction collapse cs generalizing run with
  | case1 => rfl
  | case2 c cs hc ih => rw [runsFrom, runsFrom, if_pos hc, if_pos hc, ih]
  | case3 c cs hc ih =>
    have hdrop : runsFrom Char.isAlphanum [] (cs.dropWhile fun d => !d.isAlphanum) =
        runsFrom Char.isAlphanum [] cs := runs_dropWhile (by simp) cs
    rw [runsFrom, runsFrom, if_neg hc, if_neg (by decide), ih, hdrop]

theorem isAlphanum_of_isPadding (c : Char) (h : isPadding c = true) : c.isAlphanum = false := by
  have hc : c = '-' ∨ c = ' ' := by simpa [isPadding] using h
  rcases hc with rfl | rfl <;> decide

theorem runs_strip (cs : List Char) :
    runs Char.isAlphanum (strip cs) = runs Char.isAlphanum cs := by
  rw [strip, runs_rdropWhile isAlphanum_of_isPadding, runs_dropWhile isAlphanum_of_isPadding]

theorem isInfix_strip (cs : List Char) : strip cs <:+: cs :=
  have hback : strip cs <+: cs.dropWhile isPadding := List.rdropWhile_prefix _ _
  hback.isInfix.trans (List.dropWhile_suffix _).isInfix

theorem hyphenated_strip (h : cs.IsChain fun a b => ¬(a = '-' ∧ b = '-')) :
    Hyphenated (strip cs) where
  front hc := by
    -- the front of the text is the front of what the first pass left
    obtain ⟨rest, hrest⟩ : strip cs <+: cs.dropWhile isPadding := List.rdropWhile_prefix _ _
    have hhead : '-' ∈ (cs.dropWhile isPadding).head? :=
      hrest ▸ List.mem_head?_append_of_mem_head? hc
    have hnot := List.head?_dropWhile_not isPadding cs
    rw [Option.mem_def.1 hhead] at hnot
    exact absurd hnot (by decide)
  back hc := by
    obtain ⟨hne, hlast⟩ := List.mem_getLast?_eq_getLast hc
    exact List.rdropWhile_last_not isPadding _ hne (hlast ▸ by decide)
  single := List.IsChain.infix h (isInfix_strip cs)

theorem mem_strip_collapse (h : c ∈ strip (collapse cs)) :
    (c.isAlphanum = true ∧ c ∈ cs) ∨ c = '-' :=
  mem_collapse ((isInfix_strip _).subset h)

theorem runs_strip_collapse (cs : List Char) :
    runs Char.isAlphanum (strip (collapse cs)) = runs Char.isAlphanum cs :=
  (runs_strip _).trans (runsFrom_collapse [] cs)

/-- Hyphens put for the gaps and taken off the ends leave the runs with hyphens between them. -/
theorem strip_collapse (cs : List Char) :
    strip (collapse cs) = ['-'].intercalate (runs Char.isAlphanum cs) := by
  have hchars : ∀ c ∈ strip (collapse cs), c.isAlphanum = true ∨ c = '-' :=
    fun _ hc => (mem_strip_collapse hc).imp_left And.left
  rw [← runs_strip_collapse, intercalate_runs hchars (hyphenated_strip (isChain_collapse cs))]

/-! ## Slugs -/

/-- A text of lower-case letters, digits and hyphens that stand alone between them. -/
structure IsSlug (s : String) : Prop extends Hyphenated s.toList where
  chars : ∀ c ∈ s.toList, c.isLower = true ∨ c.isDigit = true ∨ c = '-'

theorem toNat_of_isLower (h : c.isLower = true) : 0x61 ≤ c.toNat ∧ c.toNat ≤ 0x7A := by
  delta Char.isLower at h
  rw [Bool.and_eq_true, decide_eq_true_eq, decide_eq_true_eq] at h
  exact h

theorem toNat_of_isDigit (h : c.isDigit = true) : 0x30 ≤ c.toNat ∧ c.toNat ≤ 0x39 := by
  delta Char.isDigit at h
  rw [Bool.and_eq_true, decide_eq_true_eq, decide_eq_true_eq] at h
  exact h

theorem toNat_of_isUpper (h : c.isUpper = true) : 0x41 ≤ c.toNat ∧ c.toNat ≤ 0x5A := by
  delta Char.isUpper at h
  exact of_decide_eq_true h

theorem isAlphanum_iff :
    c.isAlphanum = true ↔ c.isUpper = true ∨ c.isLower = true ∨ c.isDigit = true := by
  delta Char.isAlphanum Char.isAlpha
  rw [Bool.or_eq_true, Bool.or_eq_true, or_assoc]

/-- What lower-casing leaves alone is no capital. -/
theorem Settled.isLower_or_isDigit (h : Settled c) (hc : c.isAlphanum = true) :
    c.isLower = true ∨ c.isDigit = true := by
  refine (isAlphanum_iff.1 hc).resolve_left fun hupper => ?_
  have hrange := toNat_of_isUpper hupper
  have hlower := toNat_toLower hrange
  rw [← lowerChar_ascii (by omega), h.lowerChar_eq] at hlower
  omega

theorem IsSlug.settled {s : String} (h : IsSlug s) (hc : c ∈ s.toList) : Settled c := by
  rcases h.chars c hc with hc | hc | rfl
  · have := toNat_of_isLower hc
    exact settled_of_ascii (by omega) (by omega)
  · have := toNat_of_isDigit hc
    exact settled_of_ascii (by omega) (by omega)
  · exact settled_of_ascii (by decide) (by decide)

theorem IsSlug.isAlphanum_or {s : String} (h : IsSlug s) (hc : c ∈ s.toList) :
    c.isAlphanum = true ∨ c = '-' := by
  rcases h.chars c hc with hc | hc | hc
  · exact .inl (isAlphanum_iff.2 (.inr (.inl hc)))
  · exact .inl (isAlphanum_iff.2 (.inr (.inr hc)))
  · exact .inr hc

theorem slugRuns_eq (s : String) : slugRuns s = runs Char.isAlphanum (lower s).toList := by
  rw [toList_lower, slugRuns]

theorem toList_slug (s : String) : (slug s).toList = strip (collapse (lower s).toList) := by
  rw [strip_collapse, ← slugRuns_eq, slug, String.toList_ofList]

theorem runs_slug (s : String) : runs Char.isAlphanum (slug s).toList = slugRuns s := by
  rw [toList_slug, runs_strip_collapse, slugRuns_eq]

theorem isSlug_slug (s : String) : IsSlug (slug s) := by
  refine ⟨?_, fun c hc => ?_⟩
  · rw [toList_slug]
    exact hyphenated_strip (isChain_collapse _)
  · rw [toList_slug, toList_lower] at hc
    rcases mem_strip_collapse hc with ⟨hc, hmem⟩ | hc
    · exact or_assoc.1 (.inl ((settled_of_mem_lowerAfter hmem).isLower_or_isDigit hc))
    · exact .inr (.inr hc)

/-- A slug is its own slug: it has the runs that it was made of. -/
theorem IsSlug.slug_eq {s : String} (h : IsSlug s) : slug s = s := by
  have hlower : lowerChars s.toList = s.toList := lowerAfter_of_settled [] fun _ hc => h.settled hc
  rw [← String.toList_inj, slug, String.toList_ofList, slugRuns, hlower]
  exact intercalate_runs (fun _ hc => h.isAlphanum_or hc) h.toHyphenated

theorem slug_eq_self_iff {s : String} : slug s = s ↔ IsSlug s :=
  ⟨fun h => h ▸ isSlug_slug s, IsSlug.slug_eq⟩

theorem slug_eq_slug_iff {s t : String} : slug s = slug t ↔ slugRuns s = slugRuns t := by
  constructor
  · intro h
    rw [← runs_slug, h, runs_slug]
  · intro h
    rw [slug, h, slug]

/-- What the slug of a text is like. -/
structure SlugSpec (s : String) : Prop where
  /-- It is the text in lower case with hyphens put for the gaps between letters and digits and taken
  off the ends. -/
  stripped : (slug s).toList = strip (collapse (lower s).toList)
  joined : (slug s).toList = ['-'].intercalate (slugRuns s)
  /-- What is joined are the maximal runs of letters and digits, -/
  parted : ∀ words, Parted Char.isAlphanum (lower s).toList words ↔ words = slugRuns s
  /-- which can be read off the slug again, -/
  reread : ∀ words, Parted Char.isAlphanum (slug s).toList words ↔ words = slugRuns s
  /-- so slugs differ just when the runs do. -/
  eq_iff : ∀ t, slug s = slug t ↔ slugRuns s = slugRuns t
  isSlug : IsSlug (slug s)
  idempotent : slug (slug s) = slug s
  eq_self_iff : slug s = s ↔ IsSlug s

/-- Slugs are the maximal runs of letters and digits in lower case with hyphens between them. They have
no capitals and no hyphens but single ones between letters and digits, and the texts like that are their
own slugs. -/
theorem slug_canonical (s : String) : SlugSpec s where
  stripped := toList_slug s
  joined := String.toList_ofList
  parted words := by rw [parted_iff, slugRuns_eq]
  reread words := by rw [parted_iff, runs_slug]
  eq_iff _ := slug_eq_slug_iff
  isSlug := isSlug_slug s
  idempotent := (isSlug_slug s).slug_eq
  eq_self_iff := slug_eq_self_iff

/-- The dotted capital becomes a letter and a mark, which is a gap; the Kelvin sign becomes a letter. -/
example : slug "(İd — \u212A8s)" = "i-d-k8s" := by decide +kernel

end ThreatModel.Text
