/-!
# Patterns of file names

In a pattern `?` stands for a character, `*` for any characters and brackets for a character of a set.
A pattern of paths has such a pattern at each step; two stars as a whole step stand for any number of
directories.
-/

namespace ThreatModel

/-- A pattern of one name, piece by piece. -/
inductive NamePiece where
  | char (c : Char)
  | anyChar
  | anyChars
  /-- A character that lies, or does not lie, in one of some ranges. -/
  | charIn (inside : Bool) (ranges : List (Char × Char))
  deriving DecidableEq, Repr

namespace NamePiece

/-- Whether a piece stands for a single character. -/
def accepts (c : Char) : NamePiece → Bool
  | .char d => c = d
  | .anyChar => true
  | .anyChars => false
  | .charIn inside ranges => (ranges.any fun r => r.1 ≤ c && c ≤ r.2) == inside

/-- For each place in a list, whether one of the truth values from it on is true. -/
def someFrom : List Bool → List Bool
  | [] => []
  | b :: bs =>
    let rest := someFrom bs
    (b || rest.headD false) :: rest

/-- For each place in a name, its end included, whether pieces stand for what follows. -/
def acceptFrom (cs : List Char) : List NamePiece → List Bool
  | [] => cs.map (fun _ => false) ++ [true]
  | .anyChars :: ps => someFrom (acceptFrom cs ps)
  | p :: ps => cs.zipWith (fun c b => p.accepts c && b) (acceptFrom cs ps).tail ++ [false]

/-- Whether pieces stand for a whole name. -/
def accept (ps : List NamePiece) (cs : List Char) : Bool := (acceptFrom cs ps).headD false

/-- The name that pieces without wildcards stand for. -/
def literal? (ps : List NamePiece) : Option String :=
  (ps.mapM char?).map String.ofList
where
  char? : NamePiece → Option Char
    | .char c => some c
    | _ => none

/-- The ranges of a set: single characters, and pairs with a hyphen between them. -/
def ranges : List Char → List (Char × Char)
  | a :: '-' :: b :: cs => (a, b) :: ranges cs
  | a :: cs => (a, a) :: ranges cs
  | [] => []

/-- Splits the text behind an opening bracket into a set of at least one character and what follows
the closing bracket. -/
def set? : List Char → Option (List Char × List Char)
  | [] => none
  | c :: cs =>
    match cs.dropWhile (· ≠ ']') with
    | ']' :: rest => some (c :: cs.takeWhile (· ≠ ']'), rest)
    | _ => none

/-- The pieces of a pattern of one name, for as many pieces as the fuel allows; none if a set is not
closed or stars are doubled. -/
def parse? : Nat → List Char → Option (List NamePiece)
  | 0, _ => none
  | fuel + 1, cs =>
    match cs with
    | [] => some []
    | '?' :: cs => (parse? fuel cs).map (.anyChar :: ·)
    | '*' :: '*' :: _ => none
    | '*' :: cs => (parse? fuel cs).map (.anyChars :: ·)
    | '[' :: '!' :: cs => do
      let (s, rest) ← set? cs
      return .charIn false (ranges s) :: (← parse? fuel rest)
    | '[' :: cs => do
      let (s, rest) ← set? cs
      return .charIn true (ranges s) :: (← parse? fuel rest)
    | c :: cs => (parse? fuel cs).map (.char c :: ·)

end NamePiece

/-- One step of a pattern of paths. -/
inductive PatternStep where
  /-- Any number of directories. -/
  | descend
  | name (pieces : List NamePiece)
  deriving DecidableEq, Repr

namespace PatternStep

/-- The step that a part of a pattern stands for. -/
def parse? (part : String) : Option PatternStep :=
  if part = "**" then some .descend
  else (NamePiece.parse? (part.toList.length + 1) part.toList).map .name

/-- Whether a step stands for a name. -/
def accepts (name : String) : PatternStep → Bool
  | .descend => false
  | .name pieces => NamePiece.accept pieces name.toList

/-- Steps down one after the other are one step down. -/
def collapse : List PatternStep → List PatternStep
  | .descend :: .descend :: rest => collapse (.descend :: rest)
  | s :: rest => s :: collapse rest
  | [] => []

end PatternStep

end ThreatModel
