/-!
# JSON values

A JSON text as a tree. Members of an object stay in the order of the text, repeated names included,
because what a repetition means depends on what is read. A literal can be well formed and still denote
no value (a number beyond the doubles, half of a surrogate pair): it becomes `unreadable`, which is
refused where the value is looked at and passed over where it is not.
-/

namespace ThreatModel

/-- A JSON value. -/
inductive Json where
  | null
  | bool (b : Bool)
  /-- A number without fraction and exponent. -/
  | int (i : Int)
  | float (x : Float)
  | string (s : String)
  | array (items : List Json)
  | object (members : List (String × Json))
  /-- A well-formed literal that denotes no value. -/
  | unreadable
  deriving Inhabited

namespace Json

/-- A double as a number; only finite ones have a JSON form. -/
def ofFloat (x : Float) : Json := if x.isFinite then .float x else .null

/-- A natural number as a number. -/
def ofNat (n : Nat) : Json := .int n

/-- The text of a string value. -/
def text? : Json → Option String
  | .string s => some s
  | _ => none

/-- The truth value of a Boolean value. -/
def bool? : Json → Option Bool
  | .bool b => some b
  | _ => none

/-- The number of a whole number value. -/
def int? : Json → Option Int
  | .int i => some i
  | _ => none

/-- The double of any number value. -/
def float? : Json → Option Float
  | .int i => some (if i < 0 then -(i.natAbs.toUInt64.toFloat) else i.toNat.toUInt64.toFloat)
  | .float x => some x
  | _ => none

/-- The items of an array. -/
def items? : Json → Option (List Json)
  | .array items => some items
  | _ => none

/-- The members of an object in the order of the text. -/
def members? : Json → Option (List (String × Json))
  | .object members => some members
  | _ => none

end Json

end ThreatModel
