import ThreatModel.Text.Blank

/-!
# Calendar dates

Dates of the proleptic Gregorian calendar. They are read as year, month and day with hyphens between
them; a number may have blanks before it and a year a sign, which it needs beyond four digits. In
exchanged data (`Date.parseSpaced?`) blanks may follow a number as well.
-/

namespace ThreatModel

/-- A day of the calendar. -/
structure Date where
  year : Int
  month : Nat
  day : Nat
  deriving DecidableEq, Repr, Inhabited

namespace Date

/-- Whether a year has a 29th of February. -/
def isLeap (year : Int) : Bool := year % 4 = 0 && (year % 100 ≠ 0 || year % 400 = 0)

/-- The number of days of a month. -/
def daysIn (year : Int) (month : Nat) : Nat :=
  if month = 2 then (if isLeap year then 29 else 28)
  else if month = 4 || month = 6 || month = 9 || month = 11 then 30
  else 31

/-- The first and the last year that dates are kept for. -/
def firstYear : Int := -262143

/-- The last year that dates are kept for. -/
def lastYear : Int := 262142

/-- Whether year, month and day name a day. -/
def exists? (d : Date) : Bool :=
  firstYear ≤ d.year && d.year ≤ lastYear && 1 ≤ d.month && d.month ≤ 12 && 1 ≤ d.day &&
    d.day ≤ daysIn d.year d.month

/-! ## Reading -/

/-- A number of at least one digit and at most so many, absent for no limit. -/
def number (limit : Option Nat) (cs : List Char) : Option (Nat × List Char) :=
  let ds := match limit with
    | some n => (cs.take n).takeWhile Char.isDigit
    | none => cs.takeWhile Char.isDigit
  if ds.isEmpty then none
  else some (ds.foldl (fun m c => m * 10 + (c.toNat - '0'.toNat)) 0, cs.drop ds.length)

/-- A year with an optional sign, without which it has at most four digits. -/
def yearPart (cs : List Char) : Option (Int × List Char) :=
  match cs.dropWhile Text.isBlank with
  | '-' :: cs => (number none cs).map fun r => (-(r.1 : Int), r.2)
  | '+' :: cs => (number none cs).map fun r => ((r.1 : Int), r.2)
  | cs => (number (some 4) cs).map fun r => ((r.1 : Int), r.2)

/-- A month or a day. -/
def shortPart (cs : List Char) : Option (Nat × List Char) :=
  number (some 2) (cs.dropWhile Text.isBlank)

/-- The rest of a text after a hyphen. -/
def afterHyphen : List Char → Option (List Char)
  | '-' :: cs => some cs
  | _ => none

/-- A date; `gap` takes off what may stand between a number and what follows it. -/
def parseWith (gap : List Char → List Char) (s : String) : Option Date := do
  let (year, cs) ← yearPart s.toList
  let cs ← afterHyphen (gap cs)
  let (month, cs) ← shortPart cs
  let cs ← afterHyphen (gap cs)
  let (day, cs) ← shortPart cs
  let date : Date := ⟨year, month, day⟩
  if (gap cs).isEmpty && date.exists? then some date else none

/-- A date as model files state it. -/
def parse? (s : String) : Option Date := parseWith id s

/-- A date with blanks around its numbers. -/
def parseSpaced? (s : String) : Option Date := parseWith (·.dropWhile Text.isBlank) s

/-! ## Writing -/

/-- The decimal digits of a number, with zeros in front up to a width. -/
def padded (width n : Nat) : List Char :=
  let cs := Nat.toDigits 10 n
  List.replicate (width - cs.length) '0' ++ cs

/-- The date as `YYYY-MM-DD`; a year that is negative or has more than four digits gets a sign. -/
def render (d : Date) : String :=
  let year := padded 4 d.year.natAbs
  let signed := if d.year < 0 then '-' :: year else if 9999 < d.year then '+' :: year else year
  String.ofList (signed ++ '-' :: (padded 2 d.month ++ '-' :: padded 2 d.day))

end Date

end ThreatModel
