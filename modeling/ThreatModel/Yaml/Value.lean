import ThreatModel.Json.Record
import ThreatModel.Yaml.Node

/-!
# Values of YAML

In a document anchors are numbers, and an alias gives the number of what it stands for. An anchor takes
as its number how many names there are before it. So a name that is given again shares its number with
the next new name, and an alias stands for the last node in the document that has the number, even for a
node that the alias lies in.

What an alias stands for is looked up only where a record is read, as far as the record reaches. A
document of `n` parts allows for `100 * n` look-ups, so that small texts cannot stand for huge records.
-/

namespace ThreatModel

/-- A YAML document as a value. -/
inductive Yaml where
  | scalar (text : String) (style : Yaml.ScalarStyle) (tag : Option (List UInt8))
  | sequence (items : List Yaml)
  | mapping (entries : List (Yaml × Yaml))
  /-- What stands for the node with an anchor. -/
  | alias (anchor : Nat)
  deriving Inhabited

namespace Yaml

/-! ## Numbering the anchors -/

/-- The numbers of the names so far, each name once. -/
abbrev AnchorNames := List (String × Nat)

/-- Sets the number of a name. -/
def AnchorNames.put (names : AnchorNames) (name : String) (number : Nat) : AnchorNames :=
  if names.any (·.1 = name) then names.map fun n => if n.1 = name then (name, number) else n
  else (name, number) :: names

/-- What comes of numbering anchors: a value, the names behind it, and the anchored values in it in the
order of their beginnings. -/
structure Numbered (α : Type) where
  value : α
  names : AnchorNames
  anchored : List (Nat × Yaml)

mutual

/-- Numbers the anchors of a node; an alias needs an anchor before it. -/
def ofNode (names : AnchorNames) : Node → Option (Numbered Yaml)
  | .scalar t s tag => some ⟨.scalar t s tag, names, []⟩
  | .sequence items => do
    let r ← ofNodes names items
    return ⟨.sequence r.value, r.names, r.anchored⟩
  | .mapping entries => do
    let r ← ofPairs names entries
    return ⟨.mapping r.value, r.names, r.anchored⟩
  | .anchored name n => do
    let r ← ofNode (names.put name names.length) n
    return ⟨r.value, r.names, (names.length, r.value) :: r.anchored⟩
  | .alias name => (names.lookup name).map fun number => ⟨.alias number, names, []⟩

/-- Numbers the anchors of some nodes. -/
def ofNodes (names : AnchorNames) : List Node → Option (Numbered (List Yaml))
  | [] => some ⟨[], names, []⟩
  | n :: ns => do
    let a ← ofNode names n
    let b ← ofNodes a.names ns
    return ⟨a.value :: b.value, b.names, a.anchored ++ b.anchored⟩

/-- Numbers the anchors of some pairs of nodes. -/
def ofPairs (names : AnchorNames) : List (Node × Node) → Option (Numbered (List (Yaml × Yaml)))
  | [] => some ⟨[], names, []⟩
  | (k, n) :: rest => do
    let a ← ofNode names k
    let b ← ofNode a.names n
    let c ← ofPairs b.names rest
    return ⟨(a.value, b.value) :: c.value, c.names, a.anchored ++ (b.anchored ++ c.anchored)⟩

end

mutual

/-- How many parts a value has: a scalar and an alias are one, and a collection has a beginning and an
end besides what is in it. -/
def parts : Yaml → Nat
  | .scalar .. | .alias _ => 1
  | .sequence items => 2 + partsOfAll items
  | .mapping entries => 2 + partsOfPairs entries

/-- How many parts some values have. -/
def partsOfAll : List Yaml → Nat
  | [] => 0
  | v :: vs => parts v + partsOfAll vs

/-- How many parts some pairs of values have. -/
def partsOfPairs : List (Yaml × Yaml) → Nat
  | [] => 0
  | (k, v) :: rest => parts k + parts v + partsOfPairs rest

end

/-! ## Documents -/

/-- A document: its value, and what each anchor stands for. -/
structure Document where
  root : Yaml
  anchored : Array Yaml

/-- The document of a text; a text without one has the empty scalar as its value. -/
def parse? (s : String) : Option Document := do
  match ← Node.ofTokens? (← tokens? s) with
  | none => return ⟨.scalar "" .plain none, #[]⟩
  | some n =>
    let r ← ofNode [] n
    return ⟨r.value, r.anchored.foldl (fun a x => a.setIfInBounds x.1 x.2)
      (.replicate r.anchored.length default)⟩

/-- The text of a scalar. -/
def text? : Yaml → Option String
  | .scalar s _ _ => some s
  | _ => none

namespace Document

/-- Reading with a number of look-ups left. -/
abbrev Lookup := StateT Nat Option

/-- The value itself, or what the alias stands for. -/
def follow (d : Document) : Yaml → Lookup Yaml
  | .alias anchor => fun left =>
    if left = 0 then none else d.anchored[anchor]?.map fun v => (v, left - 1)
  | v => pure v

/-- Puts what they stand for in the place of aliases, as far as a shape reaches. What does not have the
shape stays as it is. -/
def expand (d : Document) : Record.Shape → Yaml → Lookup Yaml
  | .ignored, v => pure v
  | .scalar, v => d.follow v
  | .list shape, v => do
    match ← d.follow v with
    | .sequence items => return .sequence (← items.mapM fun item => expand d shape item)
    | v => return v
  | .dict shape, v => do
    match ← d.follow v with
    | .mapping entries =>
      return .mapping (← entries.mapM fun e => do return (← d.follow e.1, ← expand d shape e.2))
    | v => return v
  | .record shapes, v => do
    match ← d.follow v with
    | .mapping entries =>
      return .mapping (← entries.mapM fun e => do
        let name ← d.follow e.1
        return (name, ← expand d (shapes ((text? name).getD "")) e.2))
    | v => return v

/-- The value of a document without aliases, as far as a shape reaches. -/
def value? (d : Document) (shape : Record.Shape) : Option Yaml :=
  ((d.expand shape d.root).run (100 * parts d.root)).map (·.1)

end Document

end Yaml

end ThreatModel
