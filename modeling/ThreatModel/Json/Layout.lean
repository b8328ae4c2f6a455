import ThreatModel.Json.Printer

/-!
# JSON for readers

Values over several lines: every item and member stands on a line of its own, indented by two blanks for
each array and object around it.
-/

namespace ThreatModel.Json

/-- A new line with an indentation. -/
def newLine (depth : Nat) : List Char := '\n' :: List.replicate (2 * depth) ' '

mutual

/-- The text of a value at a depth. -/
def layout (depth : Nat) : Json → List Char
  | .array (item :: items) =>
    '[' :: (newLine (depth + 1) ++ layout (depth + 1) item ++ layoutItems depth items)
  | .object ((name, value) :: members) =>
    '{' :: (newLine (depth + 1) ++ quoted name ++ [':', ' '] ++ layout (depth + 1) value ++
      layoutMembers depth members)
  | j => j.chars

/-- The items after the first and the closing bracket. -/
def layoutItems (depth : Nat) : List Json → List Char
  | [] => newLine depth ++ [']']
  | item :: items =>
    ',' :: (newLine (depth + 1) ++ layout (depth + 1) item ++ layoutItems depth items)

/-- The members after the first and the closing brace. -/
def layoutMembers (depth : Nat) : List (String × Json) → List Char
  | [] => newLine depth ++ ['}']
  | (name, value) :: members =>
    ',' :: (newLine (depth + 1) ++ quoted name ++ [':', ' '] ++ layout (depth + 1) value ++
      layoutMembers depth members)

end

/-- The text of a value over several lines. -/
def pretty (j : Json) : String := String.ofList (j.layout 0)

end ThreatModel.Json
