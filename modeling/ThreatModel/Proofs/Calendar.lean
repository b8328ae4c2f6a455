import Mathlib.Algebra.GroupWithZero.Nat
import Mathlib.Data.List.TakeWhile
import ThreatModel.Calendar
import ThreatModel.Proofs.Text.Digits

/-!
# Written dates are read back

A date is written with fixed widths, but for years beyond four digits, which have a sign. So each number
ends where the reader takes it to end: after its width, or at the next hyphen.
-/

namespace ThreatModel.Date

open Text (NoDigit)

/-! ## Numbers of a fixed width -/

theorem isDigit_of_mem_padded {width n : Nat} {c : Char} (h : c ∈ padded width n) :
    c.isDigit = true := by
  rcases List.mem_append.1 h with h | h
  · rw [List.eq_of_mem_replicate h]
    rfl
  · exact Text.isDigit_of_mem_toDigits h

theorem length_padded {width n : Nat} (hwidth : 0 < width) (h : n < 10 ^ width) :
    (padded width n).length = width := by
  have hlength := (Nat.length_toDigits_le_iff (by decide) hwidth).2 h
  simp only [padded, List.length_append, List.length_replicate]
  omega

theorem foldl_padded (width n : Nat) :
    (padded width n).foldl (fun m c => m * 10 + (c.toNat - '0'.toNat)) 0 = n :=
  Text.foldl_zeros_toDigits _ n

theorem padded_ne_nil (width n : Nat) : padded width n ≠ [] :=
  List.append_ne_nil_of_right_ne_nil _ Nat.toDigits_ne_nil

theorem takeWhile_padded (width n : Nat) :
    (padded width n).takeWhile Char.isDigit = padded width n :=
  List.takeWhile_eq_self_iff.2 fun _ => isDigit_of_mem_padded

/-- A number that fills its width is read, whatever follows. -/
theorem number_width {width n : Nat} (hwidth : 0 < width) (h : n < 10 ^ width) (rest : List Char) :
    number (some width) (padded width n ++ rest) = some (n, rest) := by
  have htake : (padded width n ++ rest).take width = padded width n :=
    List.take_left' (length_padded hwidth h)
  have hne : (padded width n).isEmpty = false := by
    simpa using padded_ne_nil width n
  simp only [number, htake, takeWhile_padded, hne, Bool.false_eq_true, if_false, foldl_padded,
    List.drop_left]

/-- A number without a limit is read up to the first character that is no digit. -/
theorem number_unlimited {width n : Nat} {rest : List Char} (h : NoDigit rest) :
    number none (padded width n ++ rest) = some (n, rest) := by
  have hne : (padded width n).isEmpty = false := by
    simpa using padded_ne_nil width n
  simp only [number, Text.takeWhile_isDigit_append h, takeWhile_padded, hne, Bool.false_eq_true,
    if_false, foldl_padded, List.drop_left]

/-! ## Dates -/

theorem isBlank_of_isDigit {c : Char} (h : c.isDigit = true) : Text.isBlank c = false := by
  have hdigits : ∀ n < 58, 48 ≤ n → Text.inRanges Text.blankRanges n = false := by decide
  simp only [Char.isDigit, Bool.and_eq_true, decide_eq_true_eq, ge_iff_le,
    UInt32.le_iff_toNat_le] at h
  exact hdigits c.toNat (Nat.lt_succ_of_le h.2) h.1

theorem isDigit_of_padded_eq {width n : Nat} {rest cs : List Char} {c : Char}
    (h : padded width n ++ rest = c :: cs) : c.isDigit = true := by
  obtain ⟨c', cs', hcs⟩ := List.exists_cons_of_ne_nil (padded_ne_nil width n)
  rw [hcs, List.cons_append, List.cons.injEq] at h
  have hmem : c' ∈ padded width n := by simp [hcs]
  exact h.1 ▸ isDigit_of_mem_padded hmem

/-- No blank is taken off in front of a digit. -/
theorem dropWhile_isBlank_padded (width n : Nat) (rest : List Char) :
    (padded width n ++ rest).dropWhile Text.isBlank = padded width n ++ rest := by
  cases h : padded width n ++ rest with
  | nil => rfl
  | cons c cs => simp [isBlank_of_isDigit (isDigit_of_padded_eq h)]

theorem shortPart_padded {n : Nat} (h : n < 100) (rest : List Char) :
    shortPart (padded 2 n ++ rest) = some (n, rest) := by
  rw [shortPart, dropWhile_isBlank_padded, number_width (by decide) h]

/-- The year of a date as it is written. -/
def yearChars (year : Int) : List Char :=
  let digits := padded 4 year.natAbs
  if year < 0 then '-' :: digits else if 9999 < year then '+' :: digits else digits

theorem yearPart_yearChars (year : Int) {rest : List Char} (h : NoDigit rest) :
    yearPart (yearChars year ++ rest) = some (year, rest) := by
  have hblank (c : Char) (cs : List Char) (hc : Text.isBlank c = false) :
      (c :: cs).dropWhile Text.isBlank = c :: cs := by simp [hc]
  simp only [yearChars]
  split
  · next hneg =>
    rw [List.cons_append, yearPart, hblank _ _ rfl]
    simp only [number_unlimited h, Option.map_some]
    rw [show -(year.natAbs : Int) = year by omega]
  · split
    · rw [List.cons_append, yearPart, hblank _ _ rfl]
      simp only [number_unlimited h, Option.map_some]
      rw [show (year.natAbs : Int) = year by omega]
    · have hwidth := number_width (show 0 < 4 by decide) (show year.natAbs < 10 ^ 4 by omega) rest
      rw [yearPart, dropWhile_isBlank_padded]
      split
      · next heq => exact absurd (isDigit_of_padded_eq heq) (by decide)
      · next heq => exact absurd (isDigit_of_padded_eq heq) (by decide)
      · rw [hwidth, Option.map_some]
        rw [show (year.natAbs : Int) = year by omega]

theorem daysIn_le (year : Int) (month : Nat) : daysIn year month ≤ 31 := by
  unfold daysIn
  split
  · split <;> decide
  · split <;> decide

/-- What is read as a date is a day of the calendar. -/
theorem exists_of_parseWith {gap : List Char → List Char} {s : String} {d : Date}
    (h : parseWith gap s = some d) : d.exists? = true := by
  simp only [parseWith, Option.bind_eq_bind, Option.bind_eq_some_iff, Option.ite_none_right_eq_some,
    Option.some.injEq, Bool.and_eq_true] at h
  obtain ⟨_, _, _, _, _, _, _, _, _, _, ⟨_, hexists⟩, rfl⟩ := h
  exact hexists

/-- A date of the calendar is read back. -/
theorem parseSpaced?_render {d : Date} (h : d.exists? = true) : parseSpaced? d.render = some d := by
  have hshort : d.month < 100 ∧ d.day < 100 := by
    simp only [exists?, Bool.and_eq_true, decide_eq_true_eq] at h
    have := daysIn_le d.year d.month
    omega
  have hhyphen (cs : List Char) : afterHyphen (('-' :: cs).dropWhile Text.isBlank) = some cs := rfl
  have hyear (rest : List Char) :
      yearPart (yearChars d.year ++ '-' :: rest) = some (d.year, '-' :: rest) :=
    yearPart_yearChars d.year (Text.noDigit_cons.2 rfl)
  have hday : shortPart (padded 2 d.day) = some (d.day, []) := by
    simpa using shortPart_padded hshort.2 []
  have hrender : d.render.toList =
      yearChars d.year ++ '-' :: (padded 2 d.month ++ '-' :: padded 2 d.day) := by
    rw [render, String.toList_ofList]
    rfl
  simp only [parseSpaced?, parseWith, hrender, hyear, hhyphen, shortPart_padded hshort.1, hday, h,
    Option.bind_eq_bind, Option.bind_some, List.dropWhile_nil, List.isEmpty_nil, Bool.and_self,
    if_true]

end ThreatModel.Date
