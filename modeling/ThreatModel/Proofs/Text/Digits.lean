import Mathlib.Data.List.Basic

/-!
# Decimal digits

Numbers are written by their decimal digits. Readers take the leading digits of a text and add them up
from the left; so a number is read back if what follows it does not go on with a digit (`NoDigit`).
-/

namespace ThreatModel.Text

/-! ## The leading digits of a text -/

/-- A text does not start with a digit. -/
def NoDigit (cs : List Char) : Prop := ∀ c ∈ cs.head?, c.isDigit = false

@[simp] theorem noDigit_cons {c : Char} {cs : List Char} :
    NoDigit (c :: cs) ↔ c.isDigit = false := by simp [NoDigit]

theorem takeWhile_isDigit_append {cs rest : List Char} (h : NoDigit rest) :
    (cs ++ rest).takeWhile Char.isDigit = cs.takeWhile Char.isDigit := by
  induction cs with
  | nil =>
    cases rest with
    | nil => rfl
    | cons c rest => simp [noDigit_cons.1 h]
  | cons c cs ih => simp [List.takeWhile_cons, ih]

theorem dropWhile_isDigit_append {cs rest : List Char} (h : NoDigit rest) :
    (cs ++ rest).dropWhile Char.isDigit = cs.dropWhile Char.isDigit ++ rest := by
  induction cs with
  | nil =>
    cases rest with
    | nil => rfl
    | cons c rest => simp [noDigit_cons.1 h]
  | cons c cs ih =>
    cases hc : c.isDigit with
    | true => simpa [hc] using ih
    | false => simp [hc]

/-! ## The digits of a number -/

theorem isDigit_of_mem_toDigits {n : Nat} {c : Char} (h : c ∈ Nat.toDigits 10 n) :
    c.isDigit = true :=
  Nat.isDigit_of_mem_toDigits (by decide) (by decide) h

/-- A number is the sum of its digits, each at its place, however many zeros stand in front. -/
theorem foldl_zeros_toDigits (zeros n : Nat) :
    (List.replicate zeros '0' ++ Nat.toDigits 10 n).foldl
      (fun m c => m * 10 + (c.toNat - '0'.toNat)) 0 = n := by
  have hflip : (fun m (c : Char) => m * 10 + (c.toNat - '0'.toNat)) =
      fun m c => 10 * m + (c.toNat - '0'.toNat) := by
    funext m c
    rw [Nat.mul_comm]
  rw [hflip, ← Nat.ofDigitChars_eq_foldl, Nat.ofDigitChars_append,
    Nat.ofDigitChars_replicate_zero, Nat.mul_zero, Nat.ofDigitChars_ten_toDigits]

theorem foldl_toDigits (n : Nat) :
    (Nat.toDigits 10 n).foldl (fun m c => m * 10 + (c.toNat - '0'.toNat)) 0 = n :=
  foldl_zeros_toDigits 0 n

/-- A positive number does not start with a zero. -/
theorem head?_toDigits_ne_zero {n : Nat} (h : 0 < n) : (Nat.toDigits 10 n).head? ≠ some '0' := by
  induction n using Nat.base_induction 10 (by decide) with
  | single n hn =>
    rw [Nat.toDigits_of_lt_base hn]
    have hdigit : ∀ n < 10, 0 < n → [Nat.digitChar n].head? ≠ some '0' := by decide
    exact hdigit n hn h
  | digit n d hd hn ih =>
    rw [← Nat.toDigits_append_toDigits (by decide) hn hd, List.head?_append_of_ne_nil _
      Nat.toDigits_ne_nil]
    exact ih hn

end ThreatModel.Text
