import ThreatModel.Calendar
import ThreatModel.Dict
import ThreatModel.Text.LowerCase
import ThreatModel.Validation.Fault
import ThreatModel.ValueSet.Basic

/-!
# Checks of single fields

How the fields of a stated element are read: values of closed sets, ids, dates, tags and references.
-/

namespace ThreatModel.Validation

/-- Fails with a fault unless a condition holds. -/
def require (ok : Bool) (fault : Fault) : Except Fault Unit := if ok then .ok () else .error fault

/-- The value that a field states. -/
def value {α : Type} [ValueSet α] (field element text : String) : Except Fault α :=
  match ValueSet.parse? text with
  | some v => .ok v
  | none => .error (.unknownValue field element text)

/-- The value that a field states, or a default if it is blank. -/
def valueOr {α : Type} [ValueSet α] (default : α) (field element text : String) : Except Fault α :=
  if Text.blank text then .ok default else value field element text

/-- Whether a character may occur in an id. -/
def isIdChar (c : Char) : Bool := c.isAlphanum || c = '-'

/-- Whether a text is an id. -/
def isId (s : String) : Bool := !s.toList.isEmpty && s.toList.all isIdChar

/-- Fails unless a text is an id. -/
def checkId (id : String) : Except Fault Unit := require (isId id) (.invalidId id)

/-- Fails if an id is taken already. -/
def checkNew {α : Type} (taken : Dict α) (id : String) : Except Fault Unit :=
  require (!taken.contains id) (.duplicateId id)

/-- Fails unless all ids have an element. -/
def checkReferences {α : Type} (elements : Dict α) (kind location : String) (ids : List String) :
    Except Fault Unit :=
  ids.forM fun id => require (elements.contains id) (.missingReference kind location id)

/-- The trimmed text, or a default if nothing is left. -/
def textOr (default text : String) : String :=
  if Text.blank text then default else Text.trim text

/-- The tags of an element, which must all be available. -/
def checkTags (available : List String) (location : String) (tags : List String) :
    Except Fault (List String) :=
  let tags := tags.map Text.fold
  match tags.find? fun t => !available.contains t with
  | some t => .error (.missingReference "tag in overall tag list" location t)
  | none => .ok tags

/-- The date that a text states, absent if it is blank. -/
def date? (fault : Fault) (text : String) : Except Fault (Option Date) :=
  if Text.blank text then .ok none
  else match Date.parse? (Text.trim text) with
    | some d => .ok (some d)
    | none => .error fault

end ThreatModel.Validation
