import Mathlib.Data.List.TakeWhile
import ThreatModel.Json.Printer
import ThreatModel.Json.Reader
import ThreatModel.Proofs.Text.Digits

/-!
# Numbers of JSON texts

A number is read part by part: sign, whole part, fraction, exponent. What follows a number in a text
that this library writes is the end, a punctuation mark or a new line (`Stops`), and no part goes on
there; so a number is read the same wherever it stands (`numeral_append`). Whole numbers of 64 bits are read back
(`denotes_intChars`).
-/

namespace ThreatModel.Json

open Text (NoDigit)

/-- What may follow a value: nothing, the next punctuation mark or a new line. -/
def Stops (rest : List Char) : Prop := ∀ c ∈ rest.head?, c = ',' ∨ c = ']' ∨ c = '}' ∨ c = '\n'

theorem Stops.noDigit {rest : List Char} (h : Stops rest) : NoDigit rest := by
  intro c hc
  rcases h c hc with rfl | rfl | rfl | rfl <;> decide

theorem stops_nil : Stops [] := by simp [Stops]

theorem stops_cons {c : Char} {rest : List Char} (h : c = ',' ∨ c = ']' ∨ c = '}' ∨ c = '\n') :
    Stops (c :: rest) := by simpa [Stops] using h

/-! ## The parts of a number -/

/-- Whether a number has a minus sign, and what follows it. -/
def signPart : List Char → Bool × List Char
  | '-' :: cs => (true, cs)
  | cs => (false, cs)

/-- The fraction of a number, if one follows. -/
def fractionPart : List Char → Option (Option (List Char) × List Char)
  | '.' :: cs => (digits1 cs).map fun r => (some r.1, r.2)
  | cs => some (none, cs)

theorem signPart_of_head {cs : List Char} (h : cs.head? ≠ some '-') :
    signPart cs = (false, cs) := by
  rw [signPart]
  rintro cs' rfl
  exact h rfl

theorem fractionPart_of_head {cs : List Char} (h : cs.head? ≠ some '.') :
    fractionPart cs = some (none, cs) := by
  rw [fractionPart]
  rintro cs' rfl
  exact h rfl

theorem integralPart_of_head {cs : List Char} (h : cs.head? ≠ some '0') :
    integralPart cs = digits1 cs := by
  rw [integralPart]
  rintro cs' rfl
  exact h rfl

theorem numeral_eq (cs : List Char) :
    numeral cs = (integralPart (signPart cs).2).bind fun i =>
      (fractionPart i.2).bind fun f =>
        (exponentPart f.2).bind fun e => some (⟨(signPart cs).1, i.1, f.1, e.1⟩, e.2) := by
  unfold numeral
  split
  next negative unsigned hsign =>
    change signPart cs = (negative, unsigned) at hsign
    rw [hsign]
    refine Option.bind_congr fun i _ => ?_
    obtain ⟨ds, cs⟩ := i
    by_cases hpoint : cs.head? = some '.'
    · obtain ⟨cs, rfl⟩ := List.head?_eq_some_iff.1 hpoint
      rfl
    · rw [fractionPart_of_head hpoint]
      simp only
      split
      · exact absurd rfl hpoint
      · rfl

/-! ## A part goes on only with a character of its own -/

theorem head?_append_ne {cs rest : List Char} {c : Char}
    (hc : c ≠ ',' ∧ c ≠ ']' ∧ c ≠ '}' ∧ c ≠ '\n') (hrest : Stops rest) (h : cs.head? ≠ some c) :
    (cs ++ rest).head? ≠ some c := by
  cases cs with
  | nil =>
    intro heq
    rcases hrest c heq with rfl | rfl | rfl | rfl <;> simp at hc
  | cons c cs => exact h

theorem signPart_append {cs rest : List Char} (h : Stops rest) :
    signPart (cs ++ rest) = ((signPart cs).1, (signPart cs).2 ++ rest) := by
  by_cases hsign : cs.head? = some '-'
  · obtain ⟨cs, rfl⟩ := List.head?_eq_some_iff.1 hsign
    rfl
  · rw [signPart_of_head hsign, signPart_of_head (head?_append_ne (by decide) h hsign)]

theorem digits1_append {cs rest : List Char} (h : NoDigit rest) :
    digits1 (cs ++ rest) = (digits1 cs).map fun r => (r.1, r.2 ++ rest) := by
  simp only [digits1, Text.takeWhile_isDigit_append h, Text.dropWhile_isDigit_append h]
  split <;> rfl

theorem integralPart_append {cs rest : List Char} (h : Stops rest) :
    integralPart (cs ++ rest) = (integralPart cs).map fun r => (r.1, r.2 ++ rest) := by
  by_cases hzero : cs.head? = some '0'
  · obtain ⟨cs, rfl⟩ := List.head?_eq_some_iff.1 hzero
    cases cs with
    | nil =>
      cases rest with
      | nil => rfl
      | cons c rest => simp [integralPart, Text.noDigit_cons.1 h.noDigit]
    | cons c cs => cases hc : c.isDigit <;> simp [integralPart, hc]
  · rw [integralPart_of_head hzero, integralPart_of_head (head?_append_ne (by decide) h hzero),
      digits1_append h.noDigit]

theorem fractionPart_append {cs rest : List Char} (h : Stops rest) :
    fractionPart (cs ++ rest) = (fractionPart cs).map fun r => (r.1, r.2 ++ rest) := by
  by_cases hpoint : cs.head? = some '.'
  · obtain ⟨cs, rfl⟩ := List.head?_eq_some_iff.1 hpoint
    simp [fractionPart, digits1_append h.noDigit, Function.comp_def]
  · rw [fractionPart_of_head hpoint, fractionPart_of_head (head?_append_ne (by decide) h hpoint)]
    rfl

theorem exponentPart_append {cs rest : List Char} (h : Stops rest) :
    exponentPart (cs ++ rest) = (exponentPart cs).map fun r => (r.1, r.2 ++ rest) := by
  cases cs with
  | nil =>
    cases rest with
    | nil => rfl
    | cons c rest => rcases h c rfl with rfl | rfl | rfl | rfl <;> rfl
  | cons c cs =>
    by_cases hc : (c = 'e' || c = 'E') = true
    · cases cs with
      | nil =>
        cases rest with
        | nil => simp [exponentPart, hc, digits1]
        | cons c rest =>
          rcases h c rfl with rfl | rfl | rfl | rfl <;> simp [exponentPart, hc, digits1]
      | cons d cs =>
        by_cases hplus : d = '+'
        · simp [exponentPart, hc, hplus, digits1_append h.noDigit, Function.comp_def]
        · by_cases hminus : d = '-'
          · simp [exponentPart, hc, hminus, digits1_append h.noDigit, Function.comp_def]
          · have happend : digits1 (d :: (cs ++ rest)) = _ :=
              @digits1_append (d :: cs) rest h.noDigit
            simp_all [exponentPart, Function.comp_def]
    · simp [exponentPart, hc]

/-- A number is read the same wherever it stands. -/
theorem numeral_append {cs rest : List Char} (h : Stops rest) :
    numeral (cs ++ rest) = (numeral cs).map fun r => (r.1, r.2 ++ rest) := by
  simp only [numeral_eq, signPart_append h, integralPart_append h, fractionPart_append h,
    exponentPart_append h, Option.map_bind, Option.bind_map, Option.map_some, Function.comp_def]

/-! ## What a part takes -/

theorem digits1_spec {cs : List Char} {r : List Char × List Char} (h : digits1 cs = some r) :
    cs = r.1 ++ r.2 ∧ ∀ c ∈ r.1, c.isDigit = true := by
  simp only [digits1, Option.ite_none_left_eq_some, Option.some.injEq] at h
  obtain ⟨-, rfl⟩ := h
  exact ⟨List.takeWhile_append_dropWhile.symm,
    fun c hc => List.all_eq_true.1 List.all_takeWhile c hc⟩

theorem integralPart_spec {cs : List Char} {r : List Char × List Char}
    (h : integralPart cs = some r) : cs = r.1 ++ r.2 ∧ ∀ c ∈ r.1, c.isDigit = true := by
  by_cases hzero : cs.head? = some '0'
  · obtain ⟨cs, rfl⟩ := List.head?_eq_some_iff.1 hzero
    have hr : r = (['0'], cs) := by
      cases cs with
      | nil => exact (Option.some.inj h).symm
      | cons c cs =>
        simp only [integralPart, Option.ite_none_left_eq_some, Option.some.injEq] at h
        exact h.2.symm
    subst hr
    exact ⟨rfl, by simp⟩
  · rw [integralPart_of_head hzero] at h
    exact digits1_spec h

theorem signPart_spec (cs : List Char) :
    ∃ used, cs = used ++ (signPart cs).2 ∧ ∀ c ∈ used, c = '-' := by
  by_cases hsign : cs.head? = some '-'
  · obtain ⟨cs, rfl⟩ := List.head?_eq_some_iff.1 hsign
    exact ⟨['-'], rfl, by simp⟩
  · exact ⟨[], by rw [signPart_of_head hsign]; rfl, by simp⟩

theorem fractionPart_spec {cs : List Char} {r : Option (List Char) × List Char}
    (h : fractionPart cs = some r) : ∃ used, cs = used ++ r.2 ∧ (r.1 = none → used = []) := by
  by_cases hpoint : cs.head? = some '.'
  · obtain ⟨cs, rfl⟩ := List.head?_eq_some_iff.1 hpoint
    obtain ⟨d, hd, rfl⟩ := Option.map_eq_some_iff.1 h
    exact ⟨'.' :: d.1, congrArg _ (digits1_spec hd).1, by simp⟩
  · rw [fractionPart_of_head hpoint, Option.some.injEq] at h
    subst h
    exact ⟨[], rfl, fun _ => rfl⟩

theorem exponentPart_spec {cs : List Char} {r : Option (Bool × List Char) × List Char}
    (h : exponentPart cs = some r) : ∃ used, cs = used ++ r.2 ∧ (r.1 = none → used = []) := by
  -- With any sign an exponent ends in the digits that were read.
  have hdigits (down : Bool) (before cs : List Char)
      (h : ((digits1 cs).map fun r => (some (down, r.1), r.2)) = some r) :
      ∃ used, before ++ cs = used ++ r.2 ∧ (r.1 = none → used = []) := by
    obtain ⟨d, hd, rfl⟩ := Option.map_eq_some_iff.1 h
    exact ⟨before ++ d.1, by rw [List.append_assoc, ← (digits1_spec hd).1], by simp⟩
  unfold exponentPart at h
  split at h
  · next c cs =>
    split at h
    · split at h
      · exact hdigits false [c, '+'] _ h
      · exact hdigits true [c, '-'] _ h
      · exact hdigits false [c] _ h
    · obtain rfl := Option.some.inj h
      exact ⟨[], rfl, fun _ => rfl⟩
  · obtain rfl := Option.some.inj h
    exact ⟨[], rfl, fun _ => rfl⟩

/-- Without fraction and exponent a number is a sign and digits. -/
theorem numeral_spec {cs rest : List Char} {n : Numeral} (h : numeral cs = some (n, rest)) :
    ∃ used, cs = used ++ rest ∧
      (n.fraction = none → n.exponent = none → ∀ c ∈ used, c = '-' ∨ c.isDigit = true) := by
  rw [numeral_eq] at h
  simp only [Option.bind_eq_some_iff, Option.some.injEq, Prod.mk.injEq] at h
  obtain ⟨i, hi, f, hf, e, he, rfl, rfl⟩ := h
  obtain ⟨sign, hsign, hminus⟩ := signPart_spec cs
  obtain ⟨hwhole, hdigits⟩ := integralPart_spec hi
  obtain ⟨fraction, hfraction, hnoFraction⟩ := fractionPart_spec hf
  obtain ⟨exponent, hexponent, hnoExponent⟩ := exponentPart_spec he
  refine ⟨sign ++ i.1 ++ fraction ++ exponent, ?_, fun hf he c hc => ?_⟩
  · simp only [List.append_assoc]
    rw [← hexponent, ← hfraction, ← hwhole]
    exact hsign
  · rw [hnoFraction hf, hnoExponent he, List.append_nil, List.append_nil, List.mem_append] at hc
    exact hc.imp (hminus c) (hdigits c)

/-! ## Numbers as values -/

/-- A character of a number as it is written. -/
def NumberChar (c : Char) : Prop := c = '-' ∨ c = '.' ∨ c = 'e' ∨ c.isDigit = true

instance : DecidablePred NumberChar := fun c =>
  inferInstanceAs (Decidable (c = '-' ∨ c = '.' ∨ c = 'e' ∨ c.isDigit = true))

theorem NumberChar.isSpace {c : Char} (h : NumberChar c) : isSpace c = false := by
  rw [Bool.eq_false_iff]
  intro hspace
  simp only [Json.isSpace, Bool.or_eq_true, decide_eq_true_eq] at hspace
  rcases hspace with ((rfl | rfl) | rfl) | rfl <;> exact absurd h (by decide)

theorem skipSpace_cons {c : Char} {cs : List Char} (h : isSpace c = false) :
    skipSpace (c :: cs) = c :: cs := by simp [skipSpace, h]

/-- What starts like a number is read as one. -/
theorem value_number {c : Char} (hc : NumberChar c) (steps : Nat) (cs : List Char) :
    value (steps + 1) (c :: cs) = (numeral (c :: cs)).map fun r => (r.1.value, r.2) := by
  unfold value
  rw [skipSpace_cons hc.isSpace]
  split
  case h_7 => rfl
  all_goals
    next heq =>
    obtain ⟨rfl, -⟩ := List.cons.inj heq
    exact absurd hc (by decide)

/-- A text of number characters stands for a value: it is read as a number to its end. -/
def Denotes (cs : List Char) (j : Json) : Prop :=
  cs ≠ [] ∧ (∀ c ∈ cs, NumberChar c) ∧ ∃ n, numeral cs = some (n, []) ∧ n.value = j

/-- A written number is read in one step, wherever it stands. -/
theorem Denotes.value {cs rest : List Char} {j : Json} (h : Denotes cs j) (hrest : Stops rest)
    (steps : Nat) : value (steps + 1) (cs ++ rest) = some (j, rest) := by
  obtain ⟨hne, hchars, n, hn, rfl⟩ := h
  have hnumeral : numeral (cs ++ rest) = some (n, rest) := by
    rw [numeral_append hrest, hn]
    rfl
  obtain ⟨c, cs, rfl⟩ := List.exists_cons_of_ne_nil hne
  rw [List.cons_append, value_number (hchars c (List.mem_cons_self ..)), ← List.cons_append,
    hnumeral]
  rfl

/-! ## Whole numbers -/

theorem integralPart_toDigits (n : Nat) :
    integralPart (Nat.toDigits 10 n) = some (Nat.toDigits 10 n, []) := by
  have hdigits : ∀ c ∈ Nat.toDigits 10 n, c.isDigit = true :=
    fun c hc => Text.isDigit_of_mem_toDigits hc
  cases n with
  | zero => rfl
  | succ n =>
    rw [integralPart_of_head (Text.head?_toDigits_ne_zero (Nat.succ_pos n)), digits1,
      List.takeWhile_eq_self_iff.2 hdigits, List.dropWhile_eq_nil_iff.2 hdigits, if_neg]
    simp

theorem mem_intChars {i : Int} {c : Char} (h : c ∈ intChars i) : c = '-' ∨ c.isDigit = true := by
  rw [intChars] at h
  split at h
  · exact (List.mem_cons.1 h).imp id Text.isDigit_of_mem_toDigits
  · exact .inr (Text.isDigit_of_mem_toDigits h)

theorem intChars_ne_nil (i : Int) : intChars i ≠ [] := by
  rw [intChars]
  split
  · exact List.cons_ne_nil _ _
  · exact Nat.toDigits_ne_nil

theorem numeral_intChars (i : Int) :
    numeral (intChars i) = some (⟨decide (i < 0), Nat.toDigits 10 i.natAbs, none, none⟩, []) := by
  have hsign : signPart (intChars i) = (decide (i < 0), Nat.toDigits 10 i.natAbs) := by
    rw [intChars]
    split
    · next hneg => simp [signPart, hneg]
    · next hnonneg =>
      have hdigit : (Nat.toDigits 10 i.toNat).head? ≠ some '-' := by
        intro hhead
        exact absurd (Text.isDigit_of_mem_toDigits (List.mem_of_head? hhead)) (by decide)
      rw [signPart_of_head hdigit, decide_eq_false hnonneg, show i.toNat = i.natAbs by omega]
  rw [numeral_eq, hsign, integralPart_toDigits]
  rfl

/-- The whole numbers that have 64 bits, with or without a sign. -/
def IsWord64 (i : Int) : Prop := -0x8000000000000000 ≤ i ∧ i ≤ 0xFFFFFFFFFFFFFFFF

theorem value_wholeNumeral {i : Int} (h : IsWord64 i) :
    (⟨decide (i < 0), Nat.toDigits 10 i.natAbs, none, none⟩ : Numeral).value = .int i := by
  have hsum : (Nat.toDigits 10 i.natAbs).foldl (fun m c => m * 10 + digit c) 0 = i.natAbs :=
    Text.foldl_toDigits _
  obtain ⟨hlow, hhigh⟩ := h
  simp only [Numeral.value, hsum, Option.isSome_none, Bool.or_self, Bool.false_eq_true, if_false,
    decide_eq_true_eq, maxWord]
  by_cases hneg : i < 0
  · have hrange : (0 < i.natAbs && i.natAbs ≤ 0x8000000000000000) = true := by
      simp only [Bool.and_eq_true, decide_eq_true_eq]
      omega
    rw [if_pos hneg, if_pos hrange, show -(i.natAbs : Int) = i by omega]
  · have hrange : i.natAbs ≤ 0xFFFFFFFFFFFFFFFF := by omega
    rw [if_neg hneg, if_pos hrange, show (i.natAbs : Int) = i by omega]

/-- A whole number of 64 bits is read back. -/
theorem denotes_intChars {i : Int} (h : IsWord64 i) : Denotes (intChars i) (.int i) := by
  refine ⟨intChars_ne_nil i, fun c hc => ?_, _, numeral_intChars i, value_wholeNumeral h⟩
  exact (mem_intChars hc).imp id fun hdigit => .inr (.inr hdigit)

end ThreatModel.Json
