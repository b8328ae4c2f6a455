import ThreatModel.Text.Blank

/-!
# Closed value sets

Many attributes of a model take one of a few values, each with a word that stands for it in texts.
Model files are read leniently (`ValueSet.parse?` trims and ignores ASCII case), data exchanged with
other programs exactly (`ValueSet.ofWord?`).
-/

namespace ThreatModel

/-- A finite list of values with their words and descriptions. -/
class ValueSet (α : Type) where
  /-- The name of the set in messages. -/
  typeName : String
  /-- The values in their order. -/
  all : List α
  /-- The word that stands for a value. -/
  word : α → String
  /-- What a value means. -/
  description : α → String

namespace ValueSet

variable {α : Type} [ValueSet α]

/-- Whether two texts agree up to the case of ASCII letters. -/
def sameWord (s t : String) : Bool := s.toList.map Char.toLower == t.toList.map Char.toLower

/-- The value that a text stands for, without regard to blanks around it and to ASCII case. -/
def parse? (s : String) : Option α := all.find? fun v => sameWord (word v) (Text.trim s)

/-- The value with exactly this word. -/
def ofWord? (s : String) : Option α := all.find? fun v => word v = s

/-- A text that stands for no value of a set. -/
structure Unknown where
  typeName : String
  value : String

/-- What is said about a text that stands for no value. -/
def Unknown.message (e : Unknown) : String := "unknown " ++ e.typeName ++ " value: " ++ e.value

/-- Reads a text as a value or says what is wrong with it. -/
def parse (s : String) : Except Unknown α :=
  match parse? s with
  | some v => .ok v
  | none => .error ⟨typeName α, Text.trim s⟩

theorem word_of_ofWord? {s : String} {v : α} (h : ofWord? s = some v) : word v = s := by
  simpa using List.find?_some h

theorem ofWord?_isSome {v : α} (h : v ∈ (all : List α)) :
    (ofWord? (word v) : Option α).isSome = true := by
  rw [ofWord?, List.find?_isSome]
  exact ⟨v, h, by simp⟩

end ValueSet

end ThreatModel
