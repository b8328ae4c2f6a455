import Mathlib.Data.List.DropRight
import ThreatModel.Text.LowerCase

/-!
# Folded texts

Tags and tracking keys are compared in the form `Text.fold`: trimmed, then lower-cased. Here it is
shown that this form is a normal form. Lower-casing reaches characters that have no lower-case
partner any more (`settled_lowerChar`), and it neither makes nor removes blank characters at the
ends of a text, so a folded text is trimmed, in lower case, and its own folded form (`fold_fold`).

The only fact that comes from the tables of letter case is `caseRuns_clear`: the partners of the
letters of a run lie outside all runs, all blank ranges and the capitals of ASCII. It is checked
for pairs of runs, not for single letters.
-/

namespace ThreatModel.Text

/-! ## What the tables say -/

/-- What the lower-case partner of a letter must not be: a letter with a partner of its own, a
capital of ASCII, a dotted capital I or a blank character. -/
def obstacles : List CaseRun :=
  caseRuns ++ [⟨0x41, 0x5A, 1, 32⟩, ⟨0x130, 0x130, 1, 0⟩] ++
    blankRanges.map fun r => ⟨r.1, r.2, 1, 0⟩

/-- Whether a run of code points from `first` to `last` stays clear of another run: they do not
overlap, or both have every other code point and are out of step. -/
def clearOf (step first last : Nat) (r : CaseRun) : Bool :=
  last.blt r.first || r.last.blt first ||
    (step == 2 && r.step == 2 && (first + r.first) % 2 == 1)

/-- `clearOf` for all obstacles. Code points are positive, and matching on that has the kernel
compute the two ends once and not for each obstacle. -/
def clearOfAll (step : Nat) : Nat → Nat → Bool
  | first + 1, last + 1 =>
    (last + 1 < 0xD800 || 0xDFFF < first + 1 && last + 1 < 0x110000) &&
      obstacles.all (clearOf step (first + 1) (last + 1))
  | _, _ => false

/-- The step of a run; a run of one letter may be taken to have any. -/
def CaseRun.stride (r : CaseRun) : Nat := if r.first = r.last then 2 else r.step

/-- Whether the lower-case partners of a run stay clear of all obstacles. -/
def CaseRun.isClear (r : CaseRun) : Bool :=
  clearOfAll r.stride (r.first + r.shift).toNat (r.last + r.shift).toNat

theorem caseRuns_clear : caseRuns.all CaseRun.isClear = true := by
  decide +kernel

/-- The members of a run of letters are clear of a run that `clearOf` keeps apart from it. -/
theorem covers_eq_false_of_clearOf {step first last n : Nat} {r : CaseRun}
    (h : clearOf step first last r = true) (hf : first ≤ n) (hl : n ≤ last)
    (hn : (n - first) % step = 0) : r.covers n = false := by
  rw [Bool.eq_false_iff]
  intro hc
  simp only [CaseRun.covers, Bool.and_eq_true, decide_eq_true_eq, beq_iff_eq] at hc
  simp only [clearOf, Bool.or_eq_true, Bool.and_eq_true, Nat.blt_eq, beq_iff_eq] at h
  obtain ⟨⟨hc1, hc2⟩, hc3⟩ := hc
  rcases h with (h | h) | ⟨⟨rfl, h2⟩, h3⟩
  · omega
  · omega
  · -- both runs have a step of two, and their first members differ in parity
    rw [h2] at hc3
    omega

theorem toNat_ofNat {n : Nat} (h : n.isValidChar) : (Char.ofNat n).toNat = n := by
  rw [Char.ofNat, dif_pos h]
  rfl

/-- The partner of a letter of a run lies outside all obstacles. -/
theorem partner_clear {r : CaseRun} (hr : r ∈ caseRuns) {n : Nat} (hn : r.covers n = true) :
    (n + r.shift).toNat.isValidChar ∧
      ∀ q ∈ obstacles, q.covers (n + r.shift).toNat = false := by
  have h := List.all_eq_true.1 caseRuns_clear r hr
  simp only [CaseRun.covers, Bool.and_eq_true, decide_eq_true_eq, beq_iff_eq] at hn
  obtain ⟨⟨h1, h2⟩, h3⟩ := hn
  have hstride : (n - r.first) % r.stride = 0 := by
    unfold CaseRun.stride
    split <;> omega
  simp only [CaseRun.isClear] at h
  -- the ends of the shifted run, positive as `clearOfAll` wants them
  generalize hfirst : ((r.first : Int) + r.shift).toNat = first at h
  generalize hlast : ((r.last : Int) + r.shift).toNat = last at h
  match first, last with
  | 0, _ => simp [clearOfAll] at h
  | _ + 1, 0 => simp [clearOfAll] at h
  | first + 1, last + 1 =>
    have hlo : first + 1 ≤ (n + r.shift).toNat := by omega
    have hhi : (n + r.shift).toNat ≤ last + 1 := by omega
    have hgap : (n + r.shift).toNat - (first + 1) = n - r.first := by omega
    simp only [clearOfAll, Bool.or_eq_true, Bool.and_eq_true, decide_eq_true_eq,
      List.all_eq_true] at h
    obtain ⟨hvalid, hclear⟩ := h
    refine ⟨?_, fun q hq => covers_eq_false_of_clearOf (hclear q hq) hlo hhi (hgap ▸ hstride)⟩
    rcases hvalid with hv | ⟨hv, hv'⟩
    · exact .inl (by omega)
    · exact .inr ⟨by omega, by omega⟩

/-! ## Settled characters -/

/-- A character that lower-casing leaves alone wherever it stands. -/
structure Settled (c : Char) : Prop where
  lowerChar_eq : lowerChar c = c
  ne_sigma : c ≠ 'Σ'
  ne_dotted : c ≠ 'İ'

theorem toLower_eq_self {c : Char} (h : ¬ (0x41 ≤ c.toNat ∧ c.toNat ≤ 0x5A)) :
    c.toLower = c := by
  have h' : ¬ (c.val ≥ 'A'.val ∧ c.val ≤ 'Z'.val) := h
  exact dif_neg h'

theorem toNat_toLower {c : Char} (h : 0x41 ≤ c.toNat ∧ c.toNat ≤ 0x5A) :
    c.toLower.toNat = c.toNat + 0x20 := by
  have h' : c.val ≥ 'A'.val ∧ c.val ≤ 'Z'.val := h
  rw [show c.toLower = ⟨c.val + ('a'.val - 'A'.val), _⟩ from dif_pos h']
  show (c.val + 32).toNat = c.val.toNat + 32
  have hc : c.val.toNat ≤ 0x5A := h.2
  rw [UInt32.toNat_add]
  show (c.val.toNat + 32) % 2 ^ 32 = _
  omega

/-- A character that no obstacle covers is settled. -/
theorem settled_of_clear {c : Char} (h : ∀ q ∈ obstacles, q.covers c.toNat = false) :
    Settled c := by
  have hruns : ∀ q ∈ caseRuns, q.covers c.toNat = false := fun q hq =>
    h q (by simp [obstacles, hq])
  have hcapital : ¬ (0x41 ≤ c.toNat ∧ c.toNat ≤ 0x5A) := by
    have := h ⟨0x41, 0x5A, 1, 32⟩ (by simp [obstacles])
    simp [CaseRun.covers, Nat.mod_one] at this
    omega
  refine ⟨?_, ?_, ?_⟩
  · rw [lowerChar]
    split
    · exact toLower_eq_self hcapital
    · rw [List.find?_eq_none.2 fun q hq => by simp [hruns q hq]]
  · rintro rfl
    have hcovered : caseRuns.any (·.covers 'Σ'.toNat) = true := by decide +kernel
    obtain ⟨q, hq, hc⟩ := List.any_eq_true.1 hcovered
    rw [hruns q hq] at hc
    cases hc
  · rintro rfl
    exact absurd (h ⟨0x130, 0x130, 1, 0⟩ (by simp [obstacles])) (by decide)

theorem settled_of_ascii {c : Char} (h : c.toNat < 0x80)
    (hcapital : ¬ (0x41 ≤ c.toNat ∧ c.toNat ≤ 0x5A)) : Settled c := by
  refine ⟨?_, ?_, ?_⟩
  · rw [lowerChar_ascii h]
    exact toLower_eq_self hcapital
  · rintro rfl
    exact absurd h (by decide)
  · rintro rfl
    exact absurd h (by decide)

theorem isBlank_of_clear {c : Char} (h : ∀ q ∈ obstacles, q.covers c.toNat = false) :
    isBlank c = false := by
  simp only [isBlank, inRanges, List.any_eq_false]
  intro r hr
  have hmem : ⟨r.1, r.2, 1, 0⟩ ∈ obstacles :=
    List.mem_append_right _ (List.mem_map.2 ⟨r, hr, rfl⟩)
  have := h _ hmem
  simpa [CaseRun.covers, Nat.mod_one] using this

/-- A lower-case partner is settled, and it is blank only if the character is. -/
theorem settled_lowerChar {c : Char} (hs : c ≠ 'Σ') (hd : c ≠ 'İ') :
    Settled (lowerChar c) ∧ (isBlank (lowerChar c) = true → isBlank c = true) := by
  rw [lowerChar]
  split
  · next hascii =>
    by_cases hcapital : 0x41 ≤ c.toNat ∧ c.toNat ≤ 0x5A
    · have hn := toNat_toLower hcapital
      refine ⟨settled_of_ascii (by omega) (by omega), fun hb => absurd hb ?_⟩
      intro hb
      simp only [isBlank, inRanges, blankRanges, List.any_cons, List.any_nil, Bool.or_eq_true,
        Bool.and_eq_true, decide_eq_true_eq, hn, Bool.false_eq_true, or_false] at hb
      omega
    · rw [toLower_eq_self hcapital]
      exact ⟨settled_of_ascii hascii hcapital, id⟩
  · next hascii =>
    split
    · next r hr =>
      -- the partner of a letter lies outside all obstacles, blank characters among them
      have hmem := List.mem_of_find?_eq_some hr
      obtain ⟨hv, hq⟩ := partner_clear hmem (by simpa using List.find?_some hr)
      rw [← toNat_ofNat hv] at hq
      exact ⟨settled_of_clear hq, fun hb => absurd hb (by simp [isBlank_of_clear hq])⟩
    · next hr =>
      -- a character without a partner stays as it is
      refine ⟨⟨?_, hs, hd⟩, id⟩
      rw [lowerChar, if_neg hascii, hr]

/-! ## Texts -/

theorem settled_sigma : Settled 'σ' := by
  refine ⟨?_, by decide, by decide⟩
  decide +kernel

theorem settled_finalSigma : Settled 'ς' := by
  refine ⟨?_, by decide, by decide⟩
  decide +kernel

theorem settled_dot : Settled '\u0307' := by
  refine ⟨?_, by decide, by decide⟩
  decide +kernel

/-- Every character of a lower-cased text is settled. -/
theorem settled_of_mem_lowerAfter {before cs : List Char} {c : Char}
    (h : c ∈ lowerAfter before cs) : Settled c := by
  induction cs generalizing before with
  | nil => cases h
  | cons d cs ih =>
    simp only [lowerAfter] at h
    split at h
    · rcases List.mem_cons.1 h with rfl | h
      · split
        · exact settled_finalSigma
        · exact settled_sigma
      · exact ih h
    · next hs =>
      split at h
      · rcases List.mem_cons.1 h with rfl | h
        · exact settled_of_ascii (by decide) (by decide)
        rcases List.mem_cons.1 h with rfl | h
        · exact settled_dot
        · exact ih h
      · next hd =>
        rcases List.mem_cons.1 h with rfl | h
        · exact (settled_lowerChar hs hd).1
        · exact ih h

/-- Lower-casing leaves a text of settled characters as it is. -/
theorem lowerAfter_of_settled {cs : List Char} (before : List Char) (h : ∀ c ∈ cs, Settled c) :
    lowerAfter before cs = cs := by
  induction cs generalizing before with
  | nil => rfl
  | cons c cs ih =>
    obtain ⟨heq, hs, hd⟩ := h c (List.mem_cons_self ..)
    rw [lowerAfter, if_neg hs, if_neg hd, heq,
      ih (c :: before) fun x hx => h x (List.mem_cons_of_mem _ hx)]

theorem lower_lower (s : String) : lower (lower s) = lower s := by
  rw [← String.toList_inj, toList_lower, toList_lower]
  exact lowerAfter_of_settled [] fun c hc => settled_of_mem_lowerAfter hc

/-! ## Trimming and lower-casing together -/

/-- Neither end of a text is blank. -/
structure Trimmed (cs : List Char) : Prop where
  front : cs.dropWhile isBlank = cs
  back : cs.rdropWhile isBlank = cs

theorem trimChars_of_trimmed {cs : List Char} (h : Trimmed cs) : trimChars cs = cs := by
  show (cs.dropWhile isBlank).rdropWhile isBlank = cs
  rw [h.front, h.back]

theorem trimmed_trimChars (cs : List Char) : Trimmed (trimChars cs) := by
  refine ⟨?_, List.rdropWhile_idempotent _ _⟩
  have hprefix : trimChars cs <+: cs.dropWhile isBlank := List.rdropWhile_prefix _ _
  obtain ⟨rest, hrest⟩ := hprefix
  cases htrim : trimChars cs with
  | nil => rfl
  | cons c l =>
    -- the front of the text is the front of what the first pass left
    have hc : isBlank c = false := by
      have := List.head_dropWhile_not isBlank (l := cs) (by rw [← hrest, htrim]; simp)
      simpa [← hrest, htrim] using this
    simp [hc]

/-- What a character becomes in lower case: at least one character, and none that is blank unless
it is blank itself. -/
theorem lowerAfter_cons (before cs : List Char) (c : Char) :
    ∃ x out, lowerAfter before (c :: cs) = x :: out ++ lowerAfter (c :: before) cs ∧
      (isBlank c = false → ∀ y ∈ x :: out, isBlank y = false) := by
  rw [lowerAfter]
  split
  · refine ⟨_, [], rfl, fun _ y hy => ?_⟩
    rw [List.mem_singleton.1 hy]
    split <;> decide
  · next hs =>
    split
    · refine ⟨'i', ['\u0307'], rfl, fun _ y hy => ?_⟩
      have hy : y = 'i' ∨ y = '\u0307' := by simpa using hy
      rcases hy with rfl | rfl <;> decide
    · next hd =>
      refine ⟨lowerChar c, [], rfl, fun hc y hy => ?_⟩
      rw [List.mem_singleton.1 hy, Bool.eq_false_iff]
      intro hb
      rw [(settled_lowerChar hs hd).2 hb] at hc
      cases hc

/-- The last character in lower case ends the text in lower case. -/
theorem lowerAfter_concat (before cs : List Char) {c : Char} (hc : isBlank c = false) :
    ∃ front x, lowerAfter before (cs ++ [c]) = front ++ [x] ∧ isBlank x = false := by
  induction cs generalizing before with
  | nil =>
    obtain ⟨x, out, heq, hout⟩ := lowerAfter_cons before [] c
    obtain ⟨front, y, hy⟩ := (x :: out).eq_nil_or_concat.resolve_left (by simp)
    refine ⟨front, y, ?_, hout hc y (by simp [hy])⟩
    rw [List.nil_append, heq, hy, lowerAfter, List.append_nil, List.concat_eq_append]
  | cons d cs ih =>
    obtain ⟨x, out, heq, -⟩ := lowerAfter_cons before (cs ++ [c]) d
    obtain ⟨front, y, hy, hb⟩ := ih (d :: before)
    refine ⟨x :: out ++ front, y, ?_, hb⟩
    rw [List.cons_append, heq, hy, List.append_assoc]

theorem trimmed_lowerChars {cs : List Char} (h : Trimmed cs) : Trimmed (lowerChars cs) := by
  constructor
  · cases cs with
    | nil => rfl
    | cons c cs =>
      have hc : isBlank c = false := by
        have := List.dropWhile_eq_self_iff.1 h.front (by simp)
        simpa using this
      obtain ⟨x, out, heq, hout⟩ := lowerAfter_cons [] cs c
      rw [lowerChars, heq, List.cons_append,
        List.dropWhile_cons_of_neg (by simp [hout hc x (List.mem_cons_self ..)])]
  · obtain rfl | ⟨cs', c, rfl⟩ := cs.eq_nil_or_concat
    · rfl
    · have hc : isBlank c = false := by
        have := List.rdropWhile_eq_self_iff.1 h.back (by simp)
        simpa using this
      obtain ⟨front, x, heq, hx⟩ := lowerAfter_concat [] cs' hc
      rw [lowerChars, List.concat_eq_append, heq]
      exact List.rdropWhile_concat_neg _ _ x (by simp [hx])

theorem trim_fold (s : String) : trim (fold s) = fold s := by
  rw [← String.toList_inj, toList_trim, fold, toList_lower, toList_trim]
  exact trimChars_of_trimmed (trimmed_lowerChars (trimmed_trimChars _))

theorem lower_fold (s : String) : lower (fold s) = fold s := lower_lower _

/-- A folded text is its own folded form. -/
theorem fold_fold (s : String) : fold (fold s) = fold s := by
  rw [fold, trim_fold, lower_fold]

end ThreatModel.Text
