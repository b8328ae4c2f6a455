/-!
# The shortest decimal that reads back

A double stands for all reals that round to it. Among the decimals in that interval the shortest ones
are those with the fewest digits, and of these the nearest is taken. The search runs over the number
of digits; for each, only the two neighbours of the value on the decimal grid can lie in the interval,
so it is enough to test these, in exact arithmetic on natural numbers.
-/

namespace ThreatModel

/-- The number `digits · 10 ^ exponent`. -/
structure Decimal where
  digits : Nat
  exponent : Int
  deriving DecidableEq, Repr

/-- A fraction of natural numbers. -/
structure Fraction where
  num : Nat
  den : Nat

/-- A finite double without its sign: `mantissa · 2 ^ exponent`. -/
structure Binary where
  mantissa : Nat
  exponent : Int
  /-- Whether the next smaller double is only half as far away as the next larger one. -/
  atPowerOfTwo : Bool

/-- The parts of the magnitude of a finite double. -/
def Binary.ofFloat (x : Float) : Binary :=
  let bits := x.toBits.toNat
  let fraction := bits % (1 <<< 52)
  let biased : Nat := (bits >>> 52) % (1 <<< 11)
  if biased = 0 then ⟨fraction, -1074, false⟩
  else ⟨fraction + (1 <<< 52), Int.ofNat biased - 1075, fraction = 0 && 1 < biased⟩

namespace Decimal

/-- Multiplies by a power of ten. -/
def scale (x : Fraction) (k : Int) : Fraction :=
  if 0 ≤ k then ⟨x.num * Nat.pow 10 k.toNat, x.den⟩ else ⟨x.num, x.den * Nat.pow 10 (-k).toNat⟩

/-- Where a value and the ends of its rounding interval lie, over a common denominator. -/
structure Interval where
  low : Nat
  value : Nat
  high : Nat
  den : Nat
  /-- Whether the ends themselves round to the value. -/
  closed : Bool

/-- The reals that round to a double. -/
def interval (b : Binary) : Interval :=
  let unit := 1 <<< b.exponent.toNat
  { low := 4 * b.mantissa * unit - (if b.atPowerOfTwo then 1 else 2) * unit
    value := 4 * b.mantissa * unit
    high := 4 * b.mantissa * unit + 2 * unit
    den := 4 <<< (-b.exponent).toNat
    closed := b.mantissa % 2 = 0 }

/-- Whether `c · 10 ^ k` lies in an interval. -/
def Interval.holds (i : Interval) (c : Nat) (k : Int) : Bool :=
  let x := scale ⟨c, 1⟩ k
  let place := x.num * i.den
  if i.closed then i.low * x.den ≤ place && place ≤ i.high * x.den
  else i.low * x.den < place && place < i.high * x.den

/-- The nearest grid point of `10 ^ k` in an interval, if there is one. A tie goes up if `tieUp`,
else to the even neighbour. -/
def onGrid (tieUp : Bool) (i : Interval) (k : Int) : Option Nat :=
  let x := scale ⟨i.value, i.den⟩ (-k)
  let below := x.num / x.den
  let twiceRest := 2 * (x.num % x.den)
  match i.holds below k, i.holds (below + 1) k with
  | true, true =>
    if twiceRest < x.den then some below
    else if x.den < twiceRest then some (below + 1)
    else if tieUp || below % 2 = 1 then some (below + 1) else some below
  | true, false => some below
  | false, true => some (below + 1)
  | false, false => none

/-- The first grid, from coarse to fine, with a point in the interval. -/
def search (tieUp : Bool) (i : Interval) (k : Int) : Nat → Option Decimal
  | 0 => none
  | n + 1 =>
    match onGrid tieUp i k with
    | some c => if c = 0 then search tieUp i (k - 1) n else some ⟨c, k⟩
    | none => search tieUp i (k - 1) n

/-- Takes zeros off the end of the digits. -/
def strip (d : Decimal) : Nat → Decimal
  | 0 => d
  | n + 1 =>
    if d.digits ≠ 0 && d.digits % 10 = 0 then strip ⟨d.digits / 10, d.exponent + 1⟩ n else d

/-- The number of decimal digits of the integral part of a fraction, zero for less than one. -/
def integralDigits (x : Fraction) : Nat :=
  if x.num / x.den = 0 then 0 else (Nat.toDigits 10 (x.num / x.den)).length

/-- A power of ten above the value of an interval, as small as is needed for the search. -/
def topExponent (i : Interval) : Int :=
  match integralDigits ⟨i.value, i.den⟩ with
  | 0 => 1 - ((integralDigits ⟨i.den, max i.value 1⟩ : Nat) : Int)
  | n + 1 => (n : Int) + 1

/-- The shortest decimal that reads back to the magnitude of a finite double. -/
def shortest (tieUp : Bool) (x : Float) : Decimal :=
  let b := Binary.ofFloat x
  if b.mantissa = 0 then ⟨0, 0⟩
  else
    let i := interval b
    ((search tieUp i (topExponent i) 20).map (strip · 20)).getD ⟨0, 0⟩

/-- The digits as characters. -/
def digitChars (d : Decimal) : List Char := Nat.toDigits 10 d.digits

/-- Written with a point if need be, never with an exponent. -/
def positional (d : Decimal) : List Char :=
  let cs := d.digitChars
  let point := cs.length + d.exponent
  if 0 ≤ d.exponent then cs ++ List.replicate d.exponent.toNat '0'
  else if 0 < point then cs.take point.toNat ++ '.' :: cs.drop point.toNat
  else '0' :: '.' :: (List.replicate (-point).toNat '0' ++ cs)

end Decimal

/-- Whether the sign bit of a double is set. -/
def Decimal.signed (x : Float) : Bool := x.toBits.toNat >>> 63 = 1

/-- A double as the shortest decimal that reads back, without an exponent and without a point in
whole numbers. -/
def Decimal.plainText (x : Float) : String :=
  if x.isNaN then "NaN"
  else
    let body := if x.isInf then ['i', 'n', 'f'] else (Decimal.shortest true x).positional
    String.ofList (if Decimal.signed x then '-' :: body else body)

end ThreatModel
