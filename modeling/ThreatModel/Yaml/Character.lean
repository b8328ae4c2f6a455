/-!
# Characters of YAML texts

Which characters a text may hold, where lines and words end, and how a place in a text is counted.
-/

namespace ThreatModel.Yaml

/-- Whether a text may hold a character. -/
def isPermitted (c : Char) : Bool :=
  c = '\t' || c = '\n' || c = '\r' || (' ' ≤ c && c ≤ '~') || c = '\x85' ||
    ('\xa0' ≤ c && c.toNat ≤ 0xD7FF) || (0xE000 ≤ c.toNat && c.toNat ≤ 0xFFFD) || 0x10000 ≤ c.toNat

/-- Whether a character is a blank inside a line. -/
def isSpacing (c : Char) : Bool := c = ' ' || c = '\t'

/-- Whether a character ends a line. -/
def isLineEnd (c : Char) : Bool :=
  c = '\n' || c = '\r' || c = '\x85' || c = '\u2028' || c = '\u2029'

/-- Whether a line or the text ends here. -/
def endsLine : List Char → Bool
  | [] => true
  | c :: _ => isLineEnd c

/-- Whether a word ends here: at a blank, a line end or the end of the text. -/
def endsWord : List Char → Bool
  | [] => true
  | c :: _ => isSpacing c || isLineEnd c

/-- Whether a character may stand in the name of an anchor or a directive. -/
def isNameChar (c : Char) : Bool := c.isAlphanum || c = '_' || c = '-'

/-- A marker between documents: three hyphens or dots as a word. -/
def isDocumentMarker : List Char → Bool
  | '-' :: '-' :: '-' :: cs => endsWord cs
  | '.' :: '.' :: '.' :: cs => endsWord cs
  | _ => false

/-- A place in a text, counted from zero. -/
structure Place where
  line : Nat
  column : Nat
  /-- The bytes before the place in its line. -/
  bytes : Nat

namespace Place

/-- The beginning of a text. -/
def start : Place := ⟨0, 0, 0⟩

/-- The place after a character of the same line. -/
def past (p : Place) (c : Char) : Place := ⟨p.line, p.column + 1, p.bytes + c.utf8Size⟩

/-- The place after some characters of the same line. -/
def through (p : Place) (cs : List Char) : Place := cs.foldl past p

/-- The place after some characters of one byte. -/
def advance (p : Place) (n : Nat) : Place := ⟨p.line, p.column + n, p.bytes + n⟩

/-- The beginning of the next line. -/
def nextLine (p : Place) : Place := ⟨p.line + 1, 0, 0⟩

end Place

/-- What a line end counts as in a scalar: a line feed, if it is not one of the separators of Unicode. -/
def lineEndText (c : Char) : Char := if c = '\u2028' || c = '\u2029' then c else '\n'

end ThreatModel.Yaml
