import ThreatModel.Json.Tree
import ThreatModel.Text.Hexadecimal

/-!
# Reading JSON

A JSON text is read as a tree by recursive descent. Whole numbers are kept exactly up to 64 bits; other
numbers become doubles by one multiplication or division of their first digits with a power of ten,
which may be off by a unit in the last place. The number of steps is bounded by the length of the text.
-/

namespace ThreatModel.Json

/-- The characters that may stand between tokens. -/
def isSpace (c : Char) : Bool := c = ' ' || c = '\n' || c = '\t' || c = '\r'

/-- The text from the next token on. -/
def skipSpace (cs : List Char) : List Char := cs.dropWhile isSpace

/-! ## Numbers -/

/-- A number as it is written. -/
structure Numeral where
  negative : Bool
  integral : List Char
  /-- The digits after the point, if there is one. -/
  fraction : Option (List Char)
  /-- The sign and the digits of the exponent, if there is one. -/
  exponent : Option (Bool × List Char)

/-- The value of a digit. -/
def digit (c : Char) : Nat := c.toNat - '0'.toNat

/-- The largest number of 64 bits. -/
def maxWord : Nat := 0xFFFFFFFFFFFFFFFF

/-- Appends digits to a number while it stays within 64 bits. The result tells how many were taken. -/
def takeDigits (n : Nat) : List Char → Nat × Nat
  | [] => (n, 0)
  | c :: cs =>
    if n * 10 + digit c ≤ maxWord then
      let r := takeDigits (n * 10 + digit c) cs
      (r.1, r.2 + 1)
    else (n, 0)

/-- `10 ^ n` as a double, for exponents that have one. -/
def powerOfTen (n : Nat) : Float := Float.ofScientific 1 false n

/-- `f · 10 ^ -e`, in steps that divide by at most `10 ^ 308`. -/
def divideByPower (f : Float) (e : Nat) : Float :=
  if h : e ≤ 308 then f / powerOfTen e
  else if f == 0 then f
  else divideByPower (f / powerOfTen 308) (e - 308)
termination_by e

/-- `significand · 10 ^ e`, absent if it is beyond the doubles. -/
def scaled (significand : Nat) (e : Int) : Option Float :=
  let f := significand.toUInt64.toFloat
  if e < 0 then some (divideByPower f e.natAbs)
  else if e ≤ 308 then
    let g := f * powerOfTen e.toNat
    if g.isInf then none else some g
  else if f == 0 then some f
  else none

/-- The largest exponent that is read as a number. -/
def maxExponent : Nat := 0x7FFFFFFF

/-- The double that a numeral denotes, absent if it is beyond the doubles. -/
def Numeral.toFloat (n : Numeral) : Option Float :=
  let (whole, taken) := takeDigits 0 n.integral
  let dropped := n.integral.length - taken
  let (significand, places) := takeDigits whole (n.fraction.getD [])
  let e : Int := dropped - places
  let magnitude :=
    match n.exponent with
    | none => scaled significand e
    | some (down, ds) =>
      let shift := ds.foldl (fun m c => m * 10 + digit c) 0
      if maxExponent < shift then
        if significand ≠ 0 && !down then none else some 0
      else scaled significand (if down then e - shift else e + shift)
  magnitude.map fun f => if n.negative then -f else f

/-- The value of a numeral: exact if it is a whole number within 64 bits, else a double. -/
def Numeral.value (n : Numeral) : Json :=
  let exact : Option Int :=
    if n.fraction.isSome || n.exponent.isSome then none
    else
      let m := n.integral.foldl (fun m c => m * 10 + digit c) 0
      if n.negative then (if 0 < m && m ≤ 0x8000000000000000 then some (-m) else none)
      else if m ≤ maxWord then some m else none
  match exact with
  | some i => .int i
  | none => (n.toFloat.map Json.float).getD .unreadable

/-- One or more digits. -/
def digits1 (cs : List Char) : Option (List Char × List Char) :=
  let ds := cs.takeWhile Char.isDigit
  if ds.isEmpty then none else some (ds, cs.dropWhile Char.isDigit)

/-- The whole part of a number, which starts with a zero only if it is one. -/
def integralPart : List Char → Option (List Char × List Char)
  | '0' :: cs =>
    match cs with
    | c :: _ => if c.isDigit then none else some (['0'], cs)
    | [] => some (['0'], cs)
  | cs => digits1 cs

/-- The exponent of a number, if one follows. -/
def exponentPart : List Char → Option (Option (Bool × List Char) × List Char)
  | c :: cs =>
    if c = 'e' || c = 'E' then
      match cs with
      | '+' :: cs => (digits1 cs).map fun r => (some (false, r.1), r.2)
      | '-' :: cs => (digits1 cs).map fun r => (some (true, r.1), r.2)
      | cs => (digits1 cs).map fun r => (some (false, r.1), r.2)
    else some (none, c :: cs)
  | [] => some (none, [])

/-- A number. -/
def numeral (cs : List Char) : Option (Numeral × List Char) := do
  let (negative, cs) := match cs with
    | '-' :: cs => (true, cs)
    | cs => (false, cs)
  let (integral, cs) ← integralPart cs
  let (fraction, cs) ← match cs with
    | '.' :: cs => (digits1 cs).map fun r => (some r.1, r.2)
    | cs => some (none, cs)
  let (exponent, cs) ← exponentPart cs
  return (⟨negative, integral, fraction, exponent⟩, cs)

/-! ## Strings -/

/-- The number that four hexadecimal digits denote. -/
def hexWord (a b c d : Char) : Option Nat := Text.hexNumber? [a, b, c, d]

/-- The character of a short escape. -/
def shortEscape : Char → Option Char
  | '"' => some '"'
  | '\\' => some '\\'
  | '/' => some '/'
  | 'b' => some '\x08'
  | 'f' => some '\x0c'
  | 'n' => some '\n'
  | 'r' => some '\r'
  | 't' => some '\t'
  | _ => none

/-- A character of a string, or a 16-bit unit that was written by its number. -/
inductive Unit16 where
  | char (c : Char)
  | unit (n : Nat)

/-- The rest of a string up to its closing quote. -/
def stringUnits : List Char → Option (List Unit16 × List Char)
  | [] => none
  | '"' :: cs => some ([], cs)
  | '\\' :: 'u' :: a :: b :: c :: d :: cs =>
    match hexWord a b c d, stringUnits cs with
    | some n, some (us, rest) => some (.unit n :: us, rest)
    | _, _ => none
  | '\\' :: c :: cs =>
    match shortEscape c, stringUnits cs with
    | some c, some (us, rest) => some (.char c :: us, rest)
    | _, _ => none
  | c :: cs =>
    if c = '\\' || c.toNat < 0x20 then none
    else (stringUnits cs).map fun r => (.char c :: r.1, r.2)

/-- The characters that units stand for; absent if half of a surrogate pair stands alone. -/
def joinUnits : List Unit16 → Option (List Char)
  | [] => some []
  | .char c :: us => (joinUnits us).map (c :: ·)
  | .unit n :: us =>
    if n < 0xD800 || 0xE000 ≤ n then (joinUnits us).map (Char.ofNat n :: ·)
    else if n < 0xDC00 then
      match us with
      | .unit m :: us =>
        if 0xDC00 ≤ m && m < 0xE000 then
          (joinUnits us).map (Char.ofNat (0x10000 + (n - 0xD800) * 0x400 + (m - 0xDC00)) :: ·)
        else none
      | _ => none
    else none

/-- The string after an opening quote; its text is absent if it denotes none. -/
def stringBody (cs : List Char) : Option (Option String × List Char) :=
  (stringUnits cs).map fun r => ((joinUnits r.1).map String.ofList, r.2)

/-! ## Values -/

/-- Whether a text starts with a word; if so, what follows it. -/
def afterWord : List Char → List Char → Option (List Char)
  | [], cs => some cs
  | w :: ws, c :: cs => if w = c then afterWord ws cs else none
  | _ :: _, [] => none

mutual

/-- A value at the front of a text, in at most so many steps. -/
def value : Nat → List Char → Option (Json × List Char)
  | 0, _ => none
  | n + 1, cs =>
    match skipSpace cs with
    | '"' :: cs => (stringBody cs).map fun r => ((r.1.map Json.string).getD .unreadable, r.2)
    | '[' :: cs =>
      match skipSpace cs with
      | ']' :: cs => some (.array [], cs)
      | cs => (items n cs).map fun r => (.array r.1, r.2)
    | '{' :: cs =>
      match skipSpace cs with
      | '}' :: cs => some (.object [], cs)
      | cs => (members n cs).map fun r => ((r.1.map Json.object).getD .unreadable, r.2)
    | 'n' :: cs => (afterWord ['u', 'l', 'l'] cs).map fun cs => (.null, cs)
    | 't' :: cs => (afterWord ['r', 'u', 'e'] cs).map fun cs => (.bool true, cs)
    | 'f' :: cs => (afterWord ['a', 'l', 's', 'e'] cs).map fun cs => (.bool false, cs)
    | cs => (numeral cs).map fun r => (r.1.value, r.2)

/-- The items of an array up to its closing bracket. -/
def items : Nat → List Char → Option (List Json × List Char)
  | 0, _ => none
  | n + 1, cs =>
    match value n cs with
    | none => none
    | some (item, cs) =>
      match skipSpace cs with
      | ',' :: cs => (items n cs).map fun r => (item :: r.1, r.2)
      | ']' :: cs => some ([item], cs)
      | _ => none

/-- The members of an object up to its closing brace; absent if a name denotes no text. -/
def members : Nat → List Char → Option (Option (List (String × Json)) × List Char)
  | 0, _ => none
  | n + 1, cs =>
    match skipSpace cs with
    | '"' :: cs =>
      match stringBody cs with
      | none => none
      | some (name, cs) =>
        match skipSpace cs with
        | ':' :: cs =>
          match value n cs with
          | none => none
          | some (v, cs) =>
            let entry := name.map fun name => (name, v)
            match skipSpace cs with
            | ',' :: cs =>
              (members n cs).map fun r => (entry.bind fun e => r.1.map (e :: ·), r.2)
            | '}' :: cs => some (entry.map ([·]), cs)
            | _ => none
        | _ => none
    | _ => none

end

/-- The value that a whole text denotes, absent if the text is not JSON. -/
def parse? (s : String) : Option Json :=
  let cs := s.toList
  match value (2 * cs.length + 2) cs with
  | some (j, rest) => if skipSpace rest = [] then some j else none
  | none => none

end ThreatModel.Json
