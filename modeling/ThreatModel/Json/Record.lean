import ThreatModel.Dict
import ThreatModel.Json.Tree
import ThreatModel.ValueSet.Basic

/-!
# Records

The elements of a model are records with named fields. They are read from trees of more than one
notation, so the operations that reading needs are a class, `RecordSource`. In JSON a record is an
object, whose unknown members are passed over and whose known ones may not repeat, or an array of its
fields in order.
-/

namespace ThreatModel

/-- A notation that records can be read from. -/
class RecordSource (ν : Type) where
  /-- The fields of a record with these names that a value gives, each at most once. -/
  slots? : List String → ν → Option (List (String × ν))
  /-- The entries of a map from texts, in the order of the notation. -/
  entries? : ν → Option (List (String × ν))
  items? : ν → Option (List ν)
  text? : ν → Option String
  bool? : ν → Option Bool
  /-- A whole number, if it lies between two bounds. -/
  int? : Int → Int → ν → Option Int

namespace Record

/-- The shape of what is read: as far as it reaches a value is looked at. -/
inductive Shape where
  /-- A value that is passed over. -/
  | ignored
  | scalar
  | list (items : Shape)
  /-- A map from texts. -/
  | dict (values : Shape)
  /-- A record with the shapes of its fields. -/
  | record (fields : String → Shape)

/-- The shape of a record of scalars, but for some fields. -/
def Shape.ofFields (names : List String) (others : List (String × Shape)) : Shape :=
  .record fun name =>
    if names.contains name then (others.lookup name).getD .scalar else .ignored

variable {ν α : Type} [RecordSource ν]

/-- A field that must be given. -/
def required (slots : List (String × ν)) (name : String) (read : ν → Option α) : Option α :=
  (slots.lookup name).bind read

/-- A field that has a default. -/
def optional (slots : List (String × ν)) (name : String) (read : ν → Option α) (default : α) :
    Option α :=
  match slots.lookup name with
  | none => some default
  | some v => read v

/-- A list of values. -/
def list (read : ν → Option α) (v : ν) : Option (List α) :=
  (RecordSource.items? v).bind fun items => items.mapM read

/-- A map from texts; of a repeated key the last value stays. -/
def dict (read : ν → Option α) (v : ν) : Option (Dict α) :=
  (RecordSource.entries? v).bind fun entries =>
    (entries.mapM fun e => (read e.2).map fun x => (e.1, x)).map Dict.ofList

/-- A list of texts. -/
def texts (v : ν) : Option (List String) := list RecordSource.text? v

/-- A map from texts to texts. -/
def textDict (v : ν) : Option (Dict String) := dict RecordSource.text? v

/-- A natural number of 32 bits. -/
def word32 (v : ν) : Option Nat := (RecordSource.int? 0 0xFFFFFFFF v).map Int.toNat

/-- An integer of 32 bits. -/
def int32 (v : ν) : Option Int := RecordSource.int? (-0x80000000) 0x7FFFFFFF v

end Record

namespace Json

/-- Whether no name occurs twice. -/
def distinctNames (members : List (String × Json)) : Bool :=
  decide (members.map (·.1)).Nodup

/-- The fields of a record. -/
def slots? (names : List String) : Json → Option (List (String × Json))
  | .object members =>
    let known := members.filter fun m => names.contains m.1
    if distinctNames known then some known else none
  | .array items => if items.length ≤ names.length then some (names.zip items) else none
  | _ => none

instance : RecordSource Json where
  slots? := slots?
  entries? := members?
  items? := items?
  text? := text?
  bool? := bool?
  int? lo hi v := v.int?.bind fun i => if lo ≤ i && i ≤ hi then some i else none

/-- A value of a value set: its word, or an object with the word as only name and null as value. -/
def word? {α : Type} [ValueSet α] : Json → Option α
  | .string s => ValueSet.ofWord? s
  | .object [(s, .null)] => ValueSet.ofWord? s
  | _ => none

/-- An optional value, which may be given as null. -/
def nullable {α : Type} (read : Json → Option α) : Json → Option (Option α)
  | .null => some none
  | v => (read v).map some

/-! ## Writing -/

/-- A list of texts as an array. -/
def ofTexts (l : List String) : Json := .array (l.map .string)

/-- A dictionary as an object. -/
def ofDict {α : Type} (f : α → Json) (d : Dict α) : Json :=
  .object (d.entries.map fun e => (e.1, f e.2))

/-- The word of a value as a string. -/
def ofWord {α : Type} [ValueSet α] (v : α) : Json := .string (ValueSet.word v)

/-- A member that is left out if its text is empty. -/
def textUnlessEmpty (name : String) (s : String) : List (String × Json) :=
  if s.isEmpty then [] else [(name, .string s)]

/-- A member that is left out if its list is empty. -/
def listUnlessEmpty {α : Type} (name : String) (f : α → Json) (l : List α) : List (String × Json) :=
  if l.isEmpty then [] else [(name, .array (l.map f))]

/-- A member that is left out if there is no value. -/
def ifPresent {α : Type} (name : String) (f : α → Json) : Option α → List (String × Json)
  | none => []
  | some v => [(name, f v)]

end Json

end ThreatModel
