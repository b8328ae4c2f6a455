/-!
# Values of settings files

Settings are written in TOML as keys with values, one a line. Values are texts, whole numbers, truth
values and lists; tables, decimals and dates have no use in settings.
-/

namespace ThreatModel

/-- A value of a settings file. -/
inductive Toml where
  | text (s : String)
  | whole (i : Int)
  | truth (b : Bool)
  | list (items : List Toml)
  deriving Inhabited

namespace Toml

/-- The text of a text value. -/
def text? : Toml → Option String
  | .text s => some s
  | _ => none

/-- The number of a whole number value that is not negative. -/
def nat? : Toml → Option Nat
  | .whole (.ofNat n) => some n
  | _ => none

/-- The truth value of a value. -/
def truth? : Toml → Option Bool
  | .truth b => some b
  | _ => none

/-- The texts of a list of texts. -/
def texts? : Toml → Option (List String)
  | .list items => items.mapM text?
  | _ => none

end Toml

end ThreatModel
