import ThreatModel.Yaml.Value

/-!
# Records in YAML

How records are read from values without aliases. Every scalar is a text, whatever it looks like. Truth values and numbers
must be written plainly, or as a literal block with the tag of their type. A value that is left out is an
empty list or map where one is expected. The fields of a record must not repeat.
-/

namespace ThreatModel.Yaml

/-- The text of a scalar that is written plainly or as a literal block of a type. -/
def plainText? (type : String) : Yaml → Option String
  | .scalar s .plain _ => some s
  | .scalar s .literal (some tag) => if tag = ("tag:yaml.org,2002:" ++ type).toUTF8.toList then some s else none
  | _ => none

/-- Whether a value is left out. -/
def isMissing : Yaml → Bool
  | .scalar "" .plain _ => true
  | _ => false

/-- The truth value of a word. -/
def truthValue? (s : String) : Option Bool :=
  if ["true", "True", "TRUE"].contains s then some true
  else if ["false", "False", "FALSE"].contains s then some false
  else none

/-! ## Whole numbers -/

/-- The number with some digits in a base up to sixteen. -/
def digits? (base : Nat) (ds : List Char) : Option Nat :=
  if ds.isEmpty then none
  else ds.foldlM (fun n d => do
    let v ← Text.hexDigit? d
    if v < base then some (base * n + v) else none) 0

/-- The number that is written without a sign: in base sixteen, eight or two behind a mark, or with
decimal digits, of which only a single one may be a leading zero. -/
def magnitude? : List Char → Option Nat
  | '0' :: 'x' :: ds => digits? 16 ds
  | '0' :: 'o' :: ds => digits? 8 ds
  | '0' :: 'b' :: ds => digits? 2 ds
  | '0' :: _ :: _ => none
  | ds => digits? 10 ds

/-- The whole number that a text is written as. -/
def wholeNumber? (s : String) : Option Int :=
  match s.toList with
  | '+' :: ds => (magnitude? ds).map Int.ofNat
  | '-' :: ds => (magnitude? ds).map fun n => -(n : Int)
  | ds => (magnitude? ds).map Int.ofNat

/-- The whole number between two bounds that a text is written as; without negative numbers in between
there must not be a minus sign either. -/
def boundedNumber? (lo hi : Int) (s : String) : Option Int :=
  if 0 ≤ lo && s.toList.head? = some '-' then none
  else (wholeNumber? s).bind fun i => if lo ≤ i && i ≤ hi then some i else none

/-! ## Records -/

/-- The items of a sequence, none if it is left out. -/
def items? : Yaml → Option (List Yaml)
  | .sequence items => some items
  | v => if isMissing v then some [] else none

/-- The entries of a mapping from texts, none if it is left out. -/
def entries? : Yaml → Option (List (String × Yaml))
  | .mapping entries => entries.mapM fun e => (text? e.1).map fun k => (k, e.2)
  | v => if isMissing v then some [] else none

/-- The fields of a record. -/
def slots? (names : List String) (v : Yaml) : Option (List (String × Yaml)) := do
  let known := (← entries? v).filter fun e => names.contains e.1
  if (known.map (·.1)).Nodup then some known else none

instance : RecordSource Yaml where
  slots? := slots?
  entries? := entries?
  items? := items?
  text? := text?
  bool? v := (plainText? "bool" v).bind truthValue?
  int? lo hi v := (plainText? "int" v).bind (boundedNumber? lo hi)

end ThreatModel.Yaml
