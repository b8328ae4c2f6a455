import ThreatModel.Text.Hexadecimal
import ThreatModel.Yaml.Character

/-!
# Scalars

The three ways of writing a text: plain, between quotes, and as a block of lines. In plain and quoted
texts line ends are folded: a single one becomes a space, and of several in a row the first is dropped.
Every function gives the text with the place behind it and what is left to read.
-/

namespace ThreatModel.Yaml

/-- What has been read: a value, the place behind it and the rest of the text. -/
structure Reading (α : Type) where
  value : α
  place : Place
  rest : List Char

/-! ## Folding -/

/-- A folded text in the making, last character first. -/
structure Folding where
  text : List Char := []
  /-- The blanks after the last word, if no line has ended since. -/
  blanks : List Char := []
  /-- Whether a line has ended since the last word. -/
  broken : Bool := false
  /-- The first line end since the last word; an escaped one leaves nothing. -/
  first : List Char := []
  /-- The further line ends. -/
  further : List Char := []

namespace Folding

/-- Takes in a blank, which counts before a line end only. -/
def blank (f : Folding) (c : Char) : Folding :=
  if f.broken then f else { f with blanks := c :: f.blanks }

/-- Takes in a line end. -/
def lineEnd (f : Folding) (c : Char) : Folding :=
  if f.broken then { f with further := lineEndText c :: f.further }
  else { f with blanks := [], broken := true, first := [lineEndText c] }

/-- Settles what the blanks and line ends since the last word stand for. -/
def settle (f : Folding) : Folding :=
  let gap :=
    if !f.broken then f.blanks
    else if f.first = ['\n'] then (if f.further.isEmpty then [' '] else f.further)
    else f.further ++ f.first
  { text := gap ++ f.text }

/-- Takes in a character of a word. -/
def char (f : Folding) (c : Char) : Folding :=
  let f := f.settle
  { f with text := c :: f.text }

/-- The text without what follows its last word. -/
def result (f : Folding) : List Char := f.text.reverse

end Folding

/-! ## Plain scalars -/

/-- Where a plain scalar ends, apart from blanks: at a colon that ends a word, and between brackets at
the characters of flow collections. -/
def endsPlain (inFlow : Bool) : List Char → Bool
  | [] => true
  | ':' :: cs => endsWord cs
  | c :: _ => inFlow && [',', '[', ']', '{', '}'].contains c

/-- Whether a colon stands before a character of flow collections, which is refused there. -/
def isStrayColon (inFlow : Bool) : List Char → Bool
  | ':' :: c :: _ => inFlow && [',', '?', '[', ']', '{', '}'].contains c
  | _ => false

/-- Reads on in a plain scalar; outside of brackets all its lines must reach a column. The value says
too whether the scalar ended behind a line end. -/
def plainFrom (inFlow : Bool) (column : Nat) (f : Folding) (p : Place) :
    List Char → Option (Reading (List Char × Bool))
  | [] => some ⟨(f.result, f.broken), p, []⟩
  | '\r' :: '\n' :: cs => plainFrom inFlow column (f.lineEnd '\n') p.nextLine cs
  | c :: cs =>
    if isLineEnd c then plainFrom inFlow column (f.lineEnd c) p.nextLine cs
    else if isSpacing c then
      if f.broken && p.column < column && c = '\t' then none
      else plainFrom inFlow column (f.blank c) (p.advance 1) cs
    else
      let afterGap := f.broken || !f.blanks.isEmpty
      if f.broken && !inFlow && p.column < column || afterGap && c = '#' ||
          p.column = 0 && isDocumentMarker (c :: cs) then
        some ⟨(f.result, f.broken), p, c :: cs⟩
      else if isStrayColon inFlow (c :: cs) then none
      else if endsPlain inFlow (c :: cs) then some ⟨(f.result, f.broken), p, c :: cs⟩
      else plainFrom inFlow column (f.char c) (p.past c) cs

/-- Reads a plain scalar. -/
def plain (inFlow : Bool) (column : Nat) (p : Place) (cs : List Char) :
    Option (Reading (List Char × Bool)) := plainFrom inFlow column {} p cs

/-! ## Quoted scalars -/

/-- What an escape of one letter stands for. -/
def escaped : Char → Option Char
  | '0' => some '\x00'
  | 'a' => some '\x07'
  | 'b' => some '\x08'
  | 't' | '\t' => some '\t'
  | 'n' => some '\n'
  | 'v' => some '\x0b'
  | 'f' => some '\x0c'
  | 'r' => some '\r'
  | 'e' => some '\x1b'
  | ' ' => some ' '
  | '"' => some '"'
  | '/' => some '/'
  | '\\' => some '\\'
  | 'N' => some '\x85'
  | '_' => some '\xa0'
  | 'L' => some '\u2028'
  | 'P' => some '\u2029'
  | _ => none

/-- Reads on in a scalar between single quotes; two quotes stand for one. -/
def singleQuotedFrom (f : Folding) (p : Place) : List Char → Option (Reading (List Char))
  | [] => none
  | '\'' :: '\'' :: cs => singleQuotedFrom (f.char '\'') (p.advance 2) cs
  | '\'' :: cs => some ⟨f.settle.result, p.advance 1, cs⟩
  | '\r' :: '\n' :: cs => singleQuotedFrom (f.lineEnd '\n') p.nextLine cs
  | c :: cs =>
    if isLineEnd c then singleQuotedFrom (f.lineEnd c) p.nextLine cs
    else if isSpacing c then singleQuotedFrom (f.blank c) (p.advance 1) cs
    else if p.column = 0 && isDocumentMarker (c :: cs) then none
    else singleQuotedFrom (f.char c) (p.past c) cs

/-- Reads on in a scalar between double quotes, with escapes. -/
def doubleQuotedFrom (f : Folding) (p : Place) : List Char → Option (Reading (List Char))
  | [] => none
  | '"' :: cs => some ⟨f.settle.result, p.advance 1, cs⟩
  | '\\' :: '\r' :: '\n' :: cs =>
    doubleQuotedFrom { f.settle with broken := true } p.nextLine cs
  | '\\' :: 'x' :: a :: b :: cs =>
    match Text.hexChar? [a, b] with
    | some c => doubleQuotedFrom (f.char c) (p.advance 4) cs
    | none => none
  | '\\' :: 'u' :: a :: b :: c :: d :: cs =>
    match Text.hexChar? [a, b, c, d] with
    | some x => doubleQuotedFrom (f.char x) (p.advance 6) cs
    | none => none
  | '\\' :: 'U' :: a :: b :: c :: d :: a' :: b' :: c' :: d' :: cs =>
    match Text.hexChar? [a, b, c, d, a', b', c', d'] with
    | some x => doubleQuotedFrom (f.char x) (p.advance 10) cs
    | none => none
  | '\\' :: e :: cs =>
    if isLineEnd e then
      doubleQuotedFrom { f.settle with broken := true } p.nextLine cs
    else match escaped e with
      | some c => doubleQuotedFrom (f.char c) (p.advance 2) cs
      | none => none
  | '\r' :: '\n' :: cs => doubleQuotedFrom (f.lineEnd '\n') p.nextLine cs
  | c :: cs =>
    if isLineEnd c then doubleQuotedFrom (f.lineEnd c) p.nextLine cs
    else if isSpacing c then doubleQuotedFrom (f.blank c) (p.advance 1) cs
    else if p.column = 0 && isDocumentMarker (c :: cs) then none
    else doubleQuotedFrom (f.char c) (p.past c) cs

/-! ## Block scalars -/

/-- What becomes of the line ends at the end of a block. -/
inductive Chomping where
  | clip | strip | keep
  deriving DecidableEq

/-- The header of a block: chomping and the indentation that it gives. -/
structure BlockHeader where
  chomping : Chomping
  indentation : Option Nat

/-- Reads a chomping indicator. -/
def chomping? : List Char → Option (Chomping × List Char)
  | '+' :: cs => some (.keep, cs)
  | '-' :: cs => some (.strip, cs)
  | _ => none

/-- Reads an indentation indicator; the outer option fails on a zero. -/
def indentation? : List Char → Option (Option Nat × List Char)
  | c :: cs =>
    if c = '0' then none
    else if c.isDigit then some (some (c.toNat - '0'.toNat), cs)
    else some (none, c :: cs)
  | [] => some (none, [])

/-- Reads the two indicators in either order. -/
def indicators (cs : List Char) : Option (BlockHeader × List Char) :=
  match chomping? cs with
  | some (k, cs) => (indentation? cs).map fun r => (⟨k, r.1⟩, r.2)
  | none => do
    let (n, cs) ← indentation? cs
    match n, chomping? cs with
    | some _, some (k, cs) => return (⟨k, n⟩, cs)
    | _, _ => return (⟨.clip, n⟩, cs)

/-- What is left after blanks and a comment. -/
def afterComment (cs : List Char) : List Char :=
  match cs.dropWhile isSpacing with
  | '#' :: cs => cs.dropWhile (!isLineEnd ·)
  | cs => cs

/-- Reads the line end at the beginning of what is left, if there is one. -/
def lineEnd (p : Place) : List Char → Reading (List Char)
  | '\r' :: '\n' :: cs => ⟨['\n'], p.nextLine, cs⟩
  | c :: cs => if isLineEnd c then ⟨[lineEndText c], p.nextLine, cs⟩ else ⟨[], p, c :: cs⟩
  | [] => ⟨[], p, []⟩

/-- The empty lines before a line of a block and the greatest column reached in them. -/
structure EmptyLines where
  ends : List Char
  reached : Nat

/-- Reads empty lines; the indentation of the block may still be open. A tab must not take the place of
its blanks. The line ends are collected last first. -/
def emptyLines (indentation : Option Nat) (l : EmptyLines) (p : Place) :
    List Char → Option (Reading EmptyLines)
  | [] => some ⟨{ l with reached := max l.reached p.column }, p, []⟩
  | '\r' :: '\n' :: cs =>
    emptyLines indentation ⟨'\n' :: l.ends, max l.reached p.column⟩ p.nextLine cs
  | c :: cs =>
    let inside := indentation.all (p.column < ·)
    if inside && c = ' ' then emptyLines indentation l (p.advance 1) cs
    else if inside && c = '\t' then none
    else if isLineEnd c then
      emptyLines indentation ⟨lineEndText c :: l.ends, max l.reached p.column⟩ p.nextLine cs
    else some ⟨{ l with reached := max l.reached p.column }, p, c :: cs⟩

/-- A block in the making, last character first. -/
structure Block where
  text : List Char := []
  /-- The end of the last line. -/
  last : List Char := []
  /-- The ends of the empty lines since then. -/
  empties : List Char := []
  /-- Whether the last line began with a blank, after which line ends are not folded. -/
  blankBefore : Bool := false

/-- Adds a line to a block, folding the line end before it if the block is folded. -/
def Block.line (b : Block) (literal : Bool) (cs : List Char) : Block :=
  let blankHere := (cs.head?.map isSpacing).getD false
  let joint :=
    if !literal && b.last = ['\n'] && !b.blankBefore && !blankHere then
      if b.empties.isEmpty then [' '] else []
    else b.last
  { text := cs.reverse ++ (b.empties ++ (joint ++ b.text)), blankBefore := blankHere }

/-- Reads the lines of a block with a known indentation, for as many lines as the fuel allows. -/
def blockLines (literal : Bool) (indentation : Nat) :
    Nat → Block → Place → List Char → Option (Reading Block)
  | 0, b, p, cs => some ⟨b, p, cs⟩
  | fuel + 1, b, p, cs =>
    if p.column ≠ indentation || cs.isEmpty then some ⟨b, p, cs⟩
    else do
      let text := cs.takeWhile (!isLineEnd ·)
      let ending := lineEnd (p.through text) (cs.dropWhile (!isLineEnd ·))
      let l ← emptyLines (some indentation) ⟨[], 0⟩ ending.place ending.rest
      blockLines literal indentation fuel
        { b.line literal text with last := ending.value, empties := l.value.ends } l.place l.rest

/-- Reads a block behind its indicator; `outer` is the least indentation that it can have. -/
def block (literal : Bool) (outer : Nat) (p : Place) (cs : List Char) :
    Option (Reading (List Char)) := do
  let (header, afterIndicators) ← indicators cs
  let body := afterComment afterIndicators
  if !endsLine body then none
  let start := lineEnd (p.through (cs.take (cs.length - body.length))) body
  let given := header.indentation.map fun n => outer - 1 + n
  let l ← emptyLines given ⟨[], 0⟩ start.place start.rest
  let indentation := given.getD (max (max l.value.reached outer) 1)
  let r ← blockLines literal indentation (l.rest.length + 1) { empties := l.value.ends } l.place l.rest
  let ends := match header.chomping with
    | .strip => []
    | .clip => r.value.last
    | .keep => r.value.empties ++ r.value.last
  return ⟨(ends ++ r.value.text).reverse, r.place, r.rest⟩

end ThreatModel.Yaml
