import Mathlib.Data.List.Basic
import ThreatModel.Json.Printer
import ThreatModel.Json.Reader

/-!
# Strings of JSON texts

A string is read in two passes: escapes become units, and units become characters. Each character is
written as one escape or as itself, in either case as one unit that stands for it (`WrittenAs`). So a
quoted string is read back, whatever characters it has (`stringBody_quoted`).
-/

namespace ThreatModel.Json

/-- The text of a character is read as one unit, which stands for the character. -/
structure WrittenAs (c : Char) (u : Unit16) : Prop where
  read : ∀ cs, stringUnits (quotedChar c ++ cs) = (stringUnits cs).map fun r => (u :: r.1, r.2)
  join : ∀ us, joinUnits (u :: us) = (joinUnits us).map (c :: ·)

/-- A short escape is read as the character that it stands for. -/
theorem writtenAs_shortEscape {c e : Char} (he : shortEscape e = some c)
    (hquoted : quotedChar c = ['\\', e]) : WrittenAs c (.char c) where
  read cs := by
    have hu : e ≠ 'u' := by
      rintro rfl
      cases he
    rw [hquoted, List.cons_append, List.cons_append, List.nil_append]
    cases h : stringUnits cs <;> simp [stringUnits, hu, he, h]
  join _ := rfl

/-- A character that needs no escape is read as itself. -/
theorem writtenAs_self {c : Char} (hquote : c ≠ '"') (hslash : c ≠ '\\') (h : ¬ c.toNat < 0x20)
    (hquoted : quotedChar c = [c]) : WrittenAs c (.char c) where
  read cs := by
    rw [hquoted, List.cons_append, List.nil_append]
    simp [stringUnits, hslash, h]
  join _ := rfl

/-- The number of a control character has four hexadecimal digits. -/
theorem hexWord_control : ∀ n < 0x20, hexWord '0' '0' (hexDigit (n / 16)) (hexDigit n) = some n := by
  decide

/-- Other control characters are read by their number. -/
theorem writtenAs_control {c : Char} (h : c.toNat < 0x20) (hquoted : quotedChar c =
      ['\\', 'u', '0', '0', hexDigit (c.toNat / 16), hexDigit c.toNat]) :
    WrittenAs c (.unit c.toNat) where
  read cs := by
    rw [hquoted]
    cases hcs : stringUnits cs <;> simp [stringUnits, hexWord_control _ h, hcs]
  join us := by
    have hsmall : c.toNat < 0xD800 := by omega
    rw [joinUnits.eq_def]
    simp [hsmall]

theorem exists_writtenAs (c : Char) : ∃ u, WrittenAs c u := by
  have hshort (c e : Char) (he : shortEscape e = some c) (hquoted : quotedChar c = ['\\', e]) :
      ∃ u, WrittenAs c u := ⟨_, writtenAs_shortEscape he hquoted⟩
  by_cases hescaped : c ∈ ['"', '\\', '\n', '\r', '\t', '\x08', '\x0c']
  · simp only [List.mem_cons, List.not_mem_nil, or_false] at hescaped
    rcases hescaped with rfl | rfl | rfl | rfl | rfl | rfl | rfl
    · exact hshort _ '"' rfl rfl
    · exact hshort _ '\\' rfl rfl
    · exact hshort _ 'n' rfl rfl
    · exact hshort _ 'r' rfl rfl
    · exact hshort _ 't' rfl rfl
    · exact hshort _ 'b' rfl rfl
    · exact hshort _ 'f' rfl rfl
  · simp only [List.mem_cons, List.not_mem_nil, or_false, not_or] at hescaped
    obtain ⟨hquote, hslash, hn, hr, ht, hb, hf⟩ := hescaped
    by_cases hcontrol : c.toNat < 0x20
    · refine ⟨_, writtenAs_control hcontrol ?_⟩
      simp [quotedChar, hquote, hslash, hn, hr, ht, hb, hf, hcontrol]
    · refine ⟨_, writtenAs_self hquote hslash hcontrol ?_⟩
      simp [quotedChar, hquote, hslash, hn, hr, ht, hb, hf, hcontrol]

/-- The units that written characters are read as stand for the characters. -/
theorem exists_stringUnits (cs rest : List Char) :
    ∃ us, stringUnits (cs.flatMap quotedChar ++ '"' :: rest) = some (us, rest) ∧
      joinUnits us = some cs := by
  induction cs with
  | nil => exact ⟨[], by simp [stringUnits], rfl⟩
  | cons c cs ih =>
    obtain ⟨us, hread, hjoin⟩ := ih
    obtain ⟨u, hu⟩ := exists_writtenAs c
    refine ⟨u :: us, ?_, ?_⟩
    · rw [List.flatMap_cons, List.append_assoc, hu.read, hread]
      rfl
    · rw [hu.join, hjoin]
      rfl

/-- A string is read back. -/
theorem stringBody_quoted (s : String) (rest : List Char) :
    stringBody (s.toList.flatMap quotedChar ++ '"' :: rest) = some (some s, rest) := by
  obtain ⟨us, hread, hjoin⟩ := exists_stringUnits s.toList rest
  simp [stringBody, hread, hjoin]

end ThreatModel.Json
