import ThreatModel.Decimal.Shortest
import ThreatModel.Json.Tree

/-!
# Writing JSON

Values are written without blanks. A string escapes the quote, the backslash and the control
characters; a double is written with the fewest digits that read back.
-/

namespace ThreatModel.Json

/-- A digit below sixteen. -/
def hexDigit (n : Nat) : Char := (n % 16).digitChar

/-- A character inside a quoted string. -/
def quotedChar (c : Char) : List Char :=
  if c = '"' then ['\\', '"']
  else if c = '\\' then ['\\', '\\']
  else if c = '\n' then ['\\', 'n']
  else if c = '\r' then ['\\', 'r']
  else if c = '\t' then ['\\', 't']
  else if c = '\x08' then ['\\', 'b']
  else if c = '\x0c' then ['\\', 'f']
  else if c.toNat < 0x20 then ['\\', 'u', '0', '0', hexDigit (c.toNat / 16), hexDigit c.toNat]
  else [c]

/-- A quoted string. -/
def quoted (s : String) : List Char := '"' :: (s.toList.flatMap quotedChar ++ ['"'])

/-- A whole number. -/
def intChars (i : Int) : List Char :=
  if i < 0 then '-' :: Nat.toDigits 10 i.natAbs else Nat.toDigits 10 i.toNat

/-- A decimal with a point or an exponent: positional while the point lies less than six places
before the digits and at most sixteen after their start, else with one digit before the point. -/
def decimalChars (d : Decimal) : List Char :=
  let cs := d.digitChars
  let point := cs.length + d.exponent
  if d.digits = 0 then ['0', '.', '0']
  else if 0 ≤ d.exponent && point ≤ 16 then d.positional ++ ['.', '0']
  else if -5 < point && point ≤ 16 then d.positional
  else
    let exponent := 'e' :: intChars (point - 1)
    match cs with
    | [] => []
    | [c] => c :: exponent
    | c :: rest => c :: '.' :: (rest ++ exponent)

/-- A finite double. -/
def floatChars (x : Float) : List Char :=
  let body := decimalChars (Decimal.shortest false x)
  if Decimal.signed x then '-' :: body else body

mutual

/-- The text of a value. -/
def chars : Json → List Char
  | .null => ['n', 'u', 'l', 'l']
  | .bool true => ['t', 'r', 'u', 'e']
  | .bool false => ['f', 'a', 'l', 's', 'e']
  | .int i => intChars i
  | .float x => floatChars x
  | .string s => quoted s
  | .array [] => ['[', ']']
  | .array (item :: items) => '[' :: (chars item ++ itemsChars items)
  | .object [] => ['{', '}']
  | .object ((name, value) :: members) =>
    '{' :: (quoted name ++ ':' :: (chars value ++ membersChars members))
  | .unreadable => ['n', 'u', 'l', 'l']

/-- The items after the first and the closing bracket. -/
def itemsChars : List Json → List Char
  | [] => [']']
  | item :: items => ',' :: (chars item ++ itemsChars items)

/-- The members after the first and the closing brace. -/
def membersChars : List (String × Json) → List Char
  | [] => ['}']
  | (name, value) :: members => ',' :: (quoted name ++ ':' :: (chars value ++ membersChars members))

end

/-- The text of a value. -/
def render (j : Json) : String := String.ofList j.chars

end ThreatModel.Json
