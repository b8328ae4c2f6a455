import ThreatModel.Risk.Basic
import ThreatModel.Risk.Category

/-!
# Individual risk categories

A model may bring categories of its own together with the risks that were found for them.
-/

namespace ThreatModel

/-- A category of a model and its risks. -/
structure IndividualCategory where
  category : Category
  risks : List Risk
  deriving DecidableEq, Inhabited

namespace IndividualCategory

/-- How deeply the value of a member may be nested. -/
def nestingLimit : Nat := 126

mutual

/-- Whether a value can be kept for later: it is readable and nested at most so deeply. -/
def keepable : Nat → Json → Bool
  | _, .unreadable => false
  | 0, .array _ => false
  | 0, .object _ => false
  | n + 1, .array items => keepableItems n items
  | n + 1, .object members => keepableMembers n members
  | _, _ => true

/-- Whether all items can be kept. -/
def keepableItems : Nat → List Json → Bool
  | _, [] => true
  | n, item :: items => keepable n item && keepableItems n items

/-- Whether all members can be kept. -/
def keepableMembers : Nat → List (String × Json) → Bool
  | _, [] => true
  | n, (_, v) :: members => keepable n v && keepableMembers n members

end

/-- A member as a field of the category takes it: the object with a word as only name may have an empty
object as its value instead of null. -/
def fieldMember : String × Json → String × Json
  | (name, .object [(word, .object [])]) => (name, .object [(word, .null)])
  | m => m

/-- Reads a category with its risks: an object in which the category's fields stand beside the
risks, all of whose other members must be readable too. -/
def ofJson? (j : Json) : Option IndividualCategory := do
  let members ← j.members?
  let others := members.filter (·.1 ≠ "risks_identified")
  if !keepableMembers nestingLimit others then none
  let risks ← j.slots? ["risks_identified"]
  return {
    category := ← (Json.object (others.map fieldMember)).slots? Category.fieldNames |>.bind Category.ofSlots
    risks := ← Record.optional risks "risks_identified" (Record.list Risk.ofJson?) [] }

/-- A category with its risks as an object. -/
def toJson (c : IndividualCategory) : Json :=
  .object (c.category.members ++ [("risks_identified", .array (c.risks.map Risk.toJson))])

end IndividualCategory

end ThreatModel
