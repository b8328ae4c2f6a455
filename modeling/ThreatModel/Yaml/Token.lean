import ThreatModel.Yaml.Scalar

/-!
# Tokens of YAML

A text is cut into tokens from left to right. Indentation opens and closes block collections. Whether a
node is a key is known only at the colon behind it, so a slot is left open before every node that could
be one, and filled when the colon comes.
-/

namespace ThreatModel.Yaml

/-- How a scalar is written, as far as its meaning depends on it. -/
inductive ScalarStyle where
  | plain | quoted | literal | folded
  deriving DecidableEq, Repr

/-- A token. -/
inductive Token where
  | versionDirective (major minor : Nat)
  | tagDirective (handle : String) (expansion : List UInt8)
  | documentStart | documentEnd
  | blockSequenceStart | blockMappingStart | blockEnd
  | flowSequenceStart | flowSequenceEnd | flowMappingStart | flowMappingEnd
  | blockEntry | flowEntry | key | value
  | alias (name : String)
  | anchor (name : String)
  | tag (handle : String) (suffix : List UInt8)
  | scalar (text : String) (style : ScalarStyle)
  deriving DecidableEq, Repr

/-! ## Names and tags -/

/-- Reads the name of an anchor or an alias, which must not run into other text. -/
def name (p : Place) (cs : List Char) : Option (Reading String) :=
  let n := cs.takeWhile isNameChar
  let rest := cs.dropWhile isNameChar
  let ends := endsWord rest ||
    (rest.head?.map fun c => ['?', ':', ',', ']', '}', '%', '@', '\x60'].contains c).getD false
  if n.isEmpty || !ends then none else some ⟨String.ofList n, p.advance n.length, rest⟩

/-- Whether a character may stand in a tag. -/
def isTagChar (verbatim : Bool) (c : Char) : Bool :=
  isNameChar c || ";/?:@&=+$.!~*'()".toList.contains c || verbatim && [',', '[', ']'].contains c

/-- The byte that a percent sign and two digits stand for. -/
def escapedByte? : List Char → Option (UInt8 × List Char)
  | '%' :: a :: b :: cs => do
    let high ← Text.hexDigit? a
    let low ← Text.hexDigit? b
    return (.ofNat (16 * high + low), cs)
  | _ => none

/-- How many bytes follow the first byte of a character. -/
def followers? (b : UInt8) : Option Nat :=
  if b < 0x80 then some 0
  else if 0xC0 ≤ b && b < 0xE0 then some 1
  else if 0xE0 ≤ b && b < 0xF0 then some 2
  else if 0xF0 ≤ b && b < 0xF8 then some 3
  else none

/-- Reads escaped bytes that follow the first byte of a character. -/
def followingBytes : Nat → List Char → Option (List UInt8 × List Char)
  | 0, cs => some ([], cs)
  | n + 1, cs => do
    let (b, cs) ← escapedByte? cs
    if b < 0x80 || 0xC0 ≤ b then none
    let (bytes, cs) ← followingBytes n cs
    return (b :: bytes, cs)

/-- Reads the escaped bytes of a character. Their number is checked, but not which character they are. -/
def escapedBytes (cs : List Char) : Option (List UInt8 × List Char) := do
  let (b, cs) ← escapedByte? cs
  let (bytes, cs) ← followingBytes (← followers? b) cs
  return (b :: bytes, cs)

/-- Reads the bytes of a tag, for as many steps as the fuel allows; percent signs escape bytes. -/
def tagBytes (verbatim : Bool) : Nat → List Char → Option (List UInt8 × List Char)
  | 0, cs => some ([], cs)
  | fuel + 1, cs =>
    match cs with
    | [] => some ([], [])
    | c :: rest =>
      if c = '%' then do
        let (bytes, rest) ← escapedBytes cs
        let (tail, rest) ← tagBytes verbatim fuel rest
        return (bytes ++ tail, rest)
      else if isTagChar verbatim c then do
        let (tail, rest) ← tagBytes verbatim fuel rest
        return (.ofNat c.toNat :: tail, rest)
      else some ([], c :: rest)

/-- Reads the bytes of a tag behind a beginning that was read already; there must be some. A zero byte
ends the tag, but what follows it is read all the same. -/
def tagText (verbatim : Bool) (beginning cs : List Char) : Option (List UInt8 × List Char) := do
  let (bytes, rest) ← tagBytes verbatim (cs.length + 1) cs
  if beginning.isEmpty && bytes.isEmpty then none
  let all := (beginning.drop 1).map (.ofNat ·.toNat) ++ bytes
  return (all.takeWhile (· ≠ 0), rest)

/-- Reads a tag handle behind its exclamation mark: its name, and whether a second mark closes it. -/
def handle (cs : List Char) : List Char × Bool × List Char :=
  let n := cs.takeWhile isNameChar
  match cs.dropWhile isNameChar with
  | '!' :: rest => (n, true, rest)
  | rest => (n, false, rest)

/-- Reads a tag behind its exclamation mark. -/
def tagToken (inFlow : Bool) (p : Place) (cs : List Char) : Option (Reading Token) := do
  let (t, rest) ← match cs with
    | '<' :: body => do
      match ← tagText true [] body with
      | (suffix, '>' :: rest) => some (Token.tag "" suffix, rest)
      | _ => none
    | _ => match handle cs with
      | (n, true, rest) => do
        let (suffix, rest) ← tagText false [] rest
        some (Token.tag (String.ofList ('!' :: n ++ ['!'])) suffix, rest)
      | (n, false, rest) => do
        let (suffix, rest) ← tagText false ('!' :: n) rest
        some (if suffix.isEmpty then Token.tag "" ("!".toUTF8.toList) else .tag "!" suffix, rest)
  if endsWord rest || inFlow && rest.head? = some ',' then
    some ⟨t, p.advance (cs.length - rest.length), rest⟩
  else none

/-! ## Directives -/

/-- Reads a number of at most nine digits. -/
def versionNumber (cs : List Char) : Option (Nat × List Char) :=
  let digits := cs.takeWhile Char.isDigit
  if digits.isEmpty || digits.length > 9 then none
  else some (digits.foldl (fun n d => 10 * n + (d.toNat - '0'.toNat)) 0, cs.dropWhile Char.isDigit)

/-- Reads the version of a directive. -/
def version (cs : List Char) : Option (Token × List Char) := do
  let (major, rest) ← versionNumber (cs.dropWhile isSpacing)
  match rest with
  | '.' :: rest => do
    let (minor, rest) ← versionNumber rest
    return (.versionDirective major minor, rest)
  | _ => none

/-- Reads the handle and the expansion of a tag directive. -/
def tagDefinition (cs : List Char) : Option (Token × List Char) := do
  match cs.dropWhile isSpacing with
  | '!' :: cs =>
    let (n, closed, rest) := handle cs
    if !closed && !n.isEmpty then none
    let h := String.ofList ('!' :: n ++ if closed then ['!'] else [])
    if !(rest.head?.map isSpacing).getD false then none
    let (expansion, rest) ← tagText true [] (rest.dropWhile isSpacing)
    if !endsWord rest then none
    return (.tagDirective h expansion, rest)
  | _ => none

/-- Reads a directive behind its percent sign. -/
def directive (p : Place) (cs : List Char) : Option (Reading Token) := do
  let n := String.ofList (cs.takeWhile isNameChar)
  let rest := cs.dropWhile isNameChar
  if !endsWord rest then none
  let (t, rest) ← match n with
    | "YAML" => version rest
    | "TAG" => tagDefinition rest
    | _ => none
  let rest := afterComment rest
  if !endsLine rest then none
  let r := lineEnd (p.through (cs.take (cs.length - rest.length))) rest
  return ⟨t, r.place, r.rest⟩

/-! ## The state of reading -/

/-- A node that may turn out to be a key. -/
structure KeyCandidate where
  slot : Nat
  place : Place
  /-- Whether the node can be nothing but a key. -/
  required : Bool

/-- How far a text has been cut into tokens. -/
structure Lexer where
  place : Place
  rest : List Char
  /-- The column of the innermost block collection, with the outer ones; minus one outside of all. -/
  indentation : Int
  outer : List Int
  /-- The candidate of each open flow collection, innermost first, and of the text outside of them. -/
  candidates : List (Option KeyCandidate)
  /-- Whether a key may begin here. -/
  keyAllowed : Bool
  /-- The tokens so far; a slot of a candidate is empty until it is known to be a key. -/
  slots : Array (List Token)

namespace Lexer

/-- The beginning of a text. -/
def start (cs : List Char) : Lexer := ⟨.start, cs, -1, [], [none], true, #[]⟩

/-- Whether the place lies in a flow collection. -/
def inFlow (l : Lexer) : Bool :=
  match l.candidates with
  | _ :: _ :: _ => true
  | _ => false

/-- Adds a token. -/
def push (l : Lexer) (t : Token) : Lexer := { l with slots := l.slots.push [t] }

/-- Passes over some characters of the line. -/
def skip (l : Lexer) (n : Nat) : Lexer :=
  { l with place := l.place.through (l.rest.take n), rest := l.rest.drop n }

/-- Goes on behind a reading. -/
def behind {α : Type} (l : Lexer) (r : Reading α) : Lexer :=
  { l with place := r.place, rest := r.rest }

/-- Passes over blanks, comments and line ends. A tab counts as blank only where no key may begin, and a
byte order mark only at the beginning of a line, where it takes a column. -/
def toNextToken : Nat → Lexer → Lexer
  | 0, l => l
  | fuel + 1, l =>
    match l.rest with
    | [] => l
    | c :: cs =>
      if l.place.column = 0 && c = '\uFEFF' || c = ' ' ||
          c = '\t' && (l.inFlow || !l.keyAllowed) then
        toNextToken fuel (l.skip 1)
      else if c = '#' then
        toNextToken fuel (l.skip (1 + (cs.takeWhile (!isLineEnd ·)).length))
      else if isLineEnd c then
        toNextToken fuel { l.behind (lineEnd l.place l.rest) with keyAllowed := !l.inFlow || l.keyAllowed }
      else l

/-- Opens a block collection at a column, if it lies deeper than the innermost one. -/
def openBlock (l : Lexer) (column : Nat) : Option Lexer :=
  if !l.inFlow && l.indentation < column then
    some { l with outer := l.indentation :: l.outer, indentation := column }
  else none

/-- Closes the block collections that lie deeper than a column. -/
def closeBlocks (l : Lexer) (column : Int) : Lexer :=
  if l.inFlow then l
  else
    let closed := ((l.indentation :: l.outer).takeWhile (column < ·)).length
    match (l.indentation :: l.outer).drop closed with
    | [] => l
    | i :: outer =>
      { l with
        indentation := i
        outer := outer
        slots := l.slots ++ Array.replicate closed [Token.blockEnd] }

/-- Drops the candidate of the innermost collection, unless it had to be a key. -/
def dropCandidate (l : Lexer) : Option Lexer :=
  match l.candidates with
  | some c :: outer => if c.required then none else some { l with candidates := none :: outer }
  | _ => some l

/-- Opens a slot for a key before the node that begins here, if it may be a key. -/
def noteCandidate (l : Lexer) : Option Lexer :=
  if !l.keyAllowed then some l
  else do
    let l ← l.dropCandidate
    let c : KeyCandidate :=
      ⟨l.slots.size, l.place, !l.inFlow && l.indentation = l.place.column⟩
    return { l with candidates := some c :: l.candidates.drop 1, slots := l.slots.push [] }

/-- The candidate that a colon here belongs to: it must stand on the same line and begin at most 1024
bytes before. One that had to be a key must not be given up. -/
def candidate? (l : Lexer) : Option (Option KeyCandidate) :=
  match l.candidates with
  | some c :: _ =>
    if c.place.line < l.place.line || c.place.bytes + 1024 < l.place.bytes then
      if c.required then none else some none
    else some (some c)
  | _ => some none

/-! ## One token -/

/-- The end of the text: all blocks are closed. -/
def finish (l : Lexer) : Option Lexer := (l.closeBlocks (-1)).dropCandidate

/-- A directive or a marker between documents. -/
def outermost (l : Lexer) : Option Lexer := do
  let l ← (l.closeBlocks (-1)).dropCandidate
  return { l with keyAllowed := false }

/-- The beginning of a flow collection. -/
def openFlow (l : Lexer) (t : Token) : Option Lexer := do
  let l ← l.noteCandidate
  return ({ l with candidates := none :: l.candidates, keyAllowed := true }.skip 1).push t

/-- The end of a flow collection. -/
def closeFlow (l : Lexer) (t : Token) : Option Lexer := do
  let l ← l.dropCandidate
  let outer := if l.inFlow then l.candidates.drop 1 else l.candidates
  return ({ l with candidates := outer, keyAllowed := false }.skip 1).push t

/-- A comma between the entries of a flow collection. -/
def flowEntry (l : Lexer) : Option Lexer := do
  let l ← l.dropCandidate
  return ({ l with keyAllowed := true }.skip 1).push .flowEntry

/-- The place of a block indicator: it may open a block. -/
def blockIndicator (l : Lexer) (t : Token) : Option Lexer :=
  if l.inFlow then some l
  else if !l.keyAllowed then none
  else some (((l.openBlock l.place.column).map (·.push t)).getD l)

/-- A hyphen before an entry of a sequence. -/
def blockEntry (l : Lexer) : Option Lexer := do
  let l ← (← l.blockIndicator .blockSequenceStart).dropCandidate
  return ({ l with keyAllowed := true }.skip 1).push .blockEntry

/-- A question mark before a key. -/
def key (l : Lexer) : Option Lexer := do
  let l ← (← l.blockIndicator .blockMappingStart).dropCandidate
  return ({ l with keyAllowed := !l.inFlow }.skip 1).push .key

/-- A colon before a value, which turns the candidate before it into a key. -/
def value (l : Lexer) : Option Lexer := do
  let l ← match ← l.candidate? with
    | some c =>
      let l := { l with candidates := none :: l.candidates.drop 1, keyAllowed := false }
      match l.openBlock c.place.column with
      | some l => some { l with slots := l.slots.set! c.slot [.blockMappingStart, .key] }
      | none => some { l with slots := l.slots.set! c.slot [.key] }
    | none => do
      let l ← l.blockIndicator .blockMappingStart
      some { l with candidates := none :: l.candidates.drop 1, keyAllowed := !l.inFlow }
  return (l.skip 1).push .value

/-- An anchor, an alias or a tag. -/
def property (l : Lexer) (read : Place → List Char → Option (Reading Token)) : Option Lexer := do
  let l ← l.noteCandidate
  let r ← read (l.place.advance 1) (l.rest.drop 1)
  return ({ l with keyAllowed := false }.behind r).push r.value

/-- A block scalar. -/
def blockScalar (l : Lexer) (style : ScalarStyle) : Option Lexer := do
  let l ← l.dropCandidate
  let r ← block (style = .literal) (l.indentation + 1).toNat (l.place.advance 1) (l.rest.drop 1)
  return ({ l with keyAllowed := true }.behind r).push (.scalar (String.ofList r.value) style)

/-- A scalar between quotes. -/
def quotedScalar (l : Lexer) (read : Place → List Char → Option (Reading (List Char))) :
    Option Lexer := do
  let l ← l.noteCandidate
  let r ← read (l.place.advance 1) (l.rest.drop 1)
  return ({ l with keyAllowed := false }.behind r).push (.scalar (String.ofList r.value) .quoted)

/-- A plain scalar; a key may follow it if it ends behind a line end. -/
def plainScalar (l : Lexer) : Option Lexer := do
  let l ← l.noteCandidate
  let r ← plain l.inFlow (l.indentation + 1).toNat l.place l.rest
  return ({ l with keyAllowed := r.value.2 }.behind r).push (.scalar (String.ofList r.value.1) .plain)

/-- The characters that begin something other than a plain scalar. -/
def indicators : List Char := "-?:,[]{}#&*!|>'\"%@\x60".toList

/-- Reads the next token, given the character that it begins with and what follows. -/
def next (l : Lexer) (c : Char) (cs : List Char) : Option Lexer :=
  if l.place.column = 0 && c = '%' then do
    let l ← l.outermost
    let r ← directive (l.place.advance 1) cs
    return (l.behind r).push r.value
  else if l.place.column = 0 && isDocumentMarker (c :: cs) then do
    let l ← l.outermost
    return (l.skip 3).push (if c = '-' then .documentStart else .documentEnd)
  else if c = '[' then l.openFlow .flowSequenceStart
  else if c = '{' then l.openFlow .flowMappingStart
  else if c = ']' then l.closeFlow .flowSequenceEnd
  else if c = '}' then l.closeFlow .flowMappingEnd
  else if c = ',' then l.flowEntry
  else if c = '-' && endsWord cs then l.blockEntry
  else if c = '?' && (l.inFlow || endsWord cs) then l.key
  else if c = ':' && (l.inFlow || endsWord cs) then l.value
  else if c = '*' then l.property fun p cs => (name p cs).map fun r => ⟨.alias r.value, r.place, r.rest⟩
  else if c = '&' then l.property fun p cs => (name p cs).map fun r => ⟨.anchor r.value, r.place, r.rest⟩
  else if c = '!' then l.property (tagToken l.inFlow)
  else if c = '|' && !l.inFlow then l.blockScalar .literal
  else if c = '>' && !l.inFlow then l.blockScalar .folded
  else if c = '\'' then l.quotedScalar (singleQuotedFrom {})
  else if c = '"' then l.quotedScalar (doubleQuotedFrom {})
  else if !indicators.contains c && !isSpacing c || c = '-' && !(cs.head?.map isSpacing).getD false ||
      !l.inFlow && (c = '?' || c = ':') && !endsWord cs then l.plainScalar
  else none

/-- Reads tokens up to the end of the text, as long as the fuel, of which a character takes one, lasts. -/
def run : Nat → Lexer → Option Lexer
  | 0, _ => none
  | fuel + 1, l =>
    let l := l.toNextToken (fuel + 1)
    match l.rest with
    | [] => l.finish
    | c :: cs => ((l.closeBlocks l.place.column).next c cs).bind (run fuel)

end Lexer

/-- Cuts a text into tokens. -/
def tokens? (s : String) : Option (List Token) :=
  let cs := s.toList
  if cs.all isPermitted then
    (Lexer.run (cs.length + 1) (.start cs)).map fun l => l.slots.toList.flatten
  else none

end ThreatModel.Yaml
