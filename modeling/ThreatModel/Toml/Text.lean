import ThreatModel.Text.Hexadecimal
import ThreatModel.Toml.Value

/-!
# Texts in settings files

The four ways of writing a text: on one line or on several, and with escapes or literally.
-/

namespace ThreatModel.Toml

/-- Whether a character may stand in a comment or, with its own delimiters apart, in a text. -/
def isPrintable (c : Char) : Bool := c = '\t' || (' ' ≤ c && c ≠ '\x7f')

/-- Whether a character is a blank inside a line. -/
def isSpacing (c : Char) : Bool := c = ' ' || c = '\t'

/-- Whether a line ends here. -/
def endsLine : List Char → Bool
  | '\n' :: _ => true
  | '\r' :: '\n' :: _ => true
  | _ => false

/-! ## Reading -/

/-- What an escape of one letter stands for. -/
def escaped : Char → Option Char
  | 'b' => some '\x08'
  | 't' => some '\t'
  | 'n' => some '\n'
  | 'f' => some '\x0c'
  | 'r' => some '\r'
  | '"' => some '"'
  | '\\' => some '\\'
  | _ => none

/-- Puts a character before the text that was read. -/
def before (c : Char) (r : Option (List Char × List Char)) : Option (List Char × List Char) :=
  r.map fun x => (c :: x.1, x.2)

/-- Reads on in a text of one line with escapes, up to its quote. -/
def basicFrom : List Char → Option (List Char × List Char)
  | [] => none
  | '"' :: cs => some ([], cs)
  | '\\' :: 'u' :: a :: b :: c :: d :: cs =>
    match Text.hexChar? [a, b, c, d] with
    | some x => before x (basicFrom cs)
    | none => none
  | '\\' :: 'U' :: a :: b :: c :: d :: a' :: b' :: c' :: d' :: cs =>
    match Text.hexChar? [a, b, c, d, a', b', c', d'] with
    | some x => before x (basicFrom cs)
    | none => none
  | '\\' :: e :: cs =>
    match escaped e with
    | some x => before x (basicFrom cs)
    | none => none
  | c :: cs => if isPrintable c && c ≠ '\\' then before c (basicFrom cs) else none

/-- Reads on in a text of several lines with escapes, up to its three quotes, before which two more may
stand. A backslash at the end of a line takes it and all blanks after it out; `joining` says that this
is going on. -/
def longBasicFrom (joining : Bool) : List Char → Option (List Char × List Char)
  | [] => none
  | '"' :: '"' :: '"' :: '"' :: '"' :: cs => some (['"', '"'], cs)
  | '"' :: '"' :: '"' :: '"' :: cs => some (['"'], cs)
  | '"' :: '"' :: '"' :: cs => some ([], cs)
  | '\\' :: 'u' :: a :: b :: c :: d :: cs =>
    match Text.hexChar? [a, b, c, d] with
    | some x => before x (longBasicFrom false cs)
    | none => none
  | '\\' :: 'U' :: a :: b :: c :: d :: a' :: b' :: c' :: d' :: cs =>
    match Text.hexChar? [a, b, c, d, a', b', c', d'] with
    | some x => before x (longBasicFrom false cs)
    | none => none
  | '\\' :: e :: cs =>
    if endsLine ((e :: cs).dropWhile isSpacing) then longBasicFrom true (e :: cs)
    else match escaped e with
      | some x => before x (longBasicFrom false cs)
      | none => none
  | '\r' :: '\n' :: cs => if joining then longBasicFrom true cs else before '\n' (longBasicFrom false cs)
  | c :: cs =>
    if joining && (isSpacing c || c = '\n') then longBasicFrom true cs
    else if (isPrintable c && c ≠ '\\') || c = '\n' then before c (longBasicFrom false cs)
    else none

/-- Reads on in a literal text of one line. -/
def literalFrom : List Char → Option (List Char × List Char)
  | [] => none
  | '\'' :: cs => some ([], cs)
  | c :: cs => if isPrintable c then before c (literalFrom cs) else none

/-- Reads on in a literal text of several lines. -/
def longLiteralFrom : List Char → Option (List Char × List Char)
  | [] => none
  | '\'' :: '\'' :: '\'' :: '\'' :: '\'' :: cs => some (['\'', '\''], cs)
  | '\'' :: '\'' :: '\'' :: '\'' :: cs => some (['\''], cs)
  | '\'' :: '\'' :: '\'' :: cs => some ([], cs)
  | '\r' :: '\n' :: cs => before '\n' (longLiteralFrom cs)
  | c :: cs => if isPrintable c || c = '\n' then before c (longLiteralFrom cs) else none

/-- The text behind a line end at its beginning. -/
def afterLineEnd : List Char → List Char
  | '\n' :: cs => cs
  | '\r' :: '\n' :: cs => cs
  | cs => cs

/-- Reads a text of any kind. -/
def readText : List Char → Option (List Char × List Char)
  | '"' :: '"' :: '"' :: cs => longBasicFrom false (afterLineEnd cs)
  | '\'' :: '\'' :: '\'' :: cs => longLiteralFrom (afterLineEnd cs)
  | '"' :: cs => basicFrom cs
  | '\'' :: cs => literalFrom cs
  | _ => none

/-! ## Writing -/

/-- The length of the longest run of a character. -/
def longestRun (c : Char) (cs : List Char) : Nat :=
  (cs.foldl (fun (r : Nat × Nat) d => if d = c then (r.1 + 1, max r.2 (r.1 + 1)) else (0, r.2)) (0, 0)).2

/-- Whether a character can be written with an escape only. -/
def needsEscape (c : Char) : Bool := (c < ' ' && c ≠ '\t' && c ≠ '\n') || c = '\x7f'

/-- Four hexadecimal digits of a character. -/
def hexCode (c : Char) : List Char :=
  let ds := (Nat.toDigits 16 c.toNat).map Char.toUpper
  List.replicate (4 - ds.length) '0' ++ ds

/-- A character of a text with escapes, apart from quotes. -/
def escape (long : Bool) (c : Char) : List Char :=
  if c = '\\' then ['\\', '\\']
  else if c = '\t' then ['\\', 't']
  else if c = '\n' then (if long then ['\n'] else ['\\', 'n'])
  else if c = '\x08' then ['\\', 'b']
  else if c = '\x0c' then ['\\', 'f']
  else if c = '\r' then ['\\', 'r']
  else if needsEscape c then '\\' :: 'u' :: hexCode c
  else [c]

/-- The characters of a text with escapes; of a run of quotes as many stand alone as there may be. -/
def escapeAll (long : Bool) (quotes : Nat) : List Char → List Char
  | [] => []
  | '"' :: cs =>
    if quotes < (if long then 2 else 0) then '"' :: escapeAll long (quotes + 1) cs
    else '\\' :: '"' :: escapeAll long 0 cs
  | c :: cs => escape long c ++ escapeAll long 0 cs

/-- A text between delimiters; one with line ends begins on a line of its own. -/
def delimited (delimiter : String) (hasLineEnd : Bool) (body : List Char) : String :=
  delimiter ++ (if hasLineEnd then "\n" else "") ++ String.ofList body ++ delimiter

/-- A text as it is written: plainly with quotes if nothing in it has to be escaped, else literally if
that is possible, else on several lines or with escapes. -/
def quoted (s : String) : String :=
  let cs := s.toList
  let hasLineEnd := cs.contains '\n'
  let control := cs.any needsEscape
  let backslash := cs.contains '\\'
  let doubles := longestRun '"' cs
  let singles := longestRun '\'' cs
  if !control && !backslash && doubles = 0 && !hasLineEnd then
    delimited "\"" false (escapeAll false 0 cs)
  else if !control && singles = 0 && !hasLineEnd then delimited "'" false cs
  else if !control && !backslash && doubles ≤ 2 then
    delimited "\"\"\"" hasLineEnd (escapeAll true 0 cs)
  else if !control && singles ≤ 2 then delimited "'''" hasLineEnd cs
  else if hasLineEnd then delimited "\"\"\"" true (escapeAll true 0 cs)
  else delimited "\"" false (escapeAll false 0 cs)

end ThreatModel.Toml
