import ThreatModel.Toml.Text

/-!
# Reading settings files

A file is a list of keys with values. Comments reach to the end of a line; a list may go over lines.
No key may occur twice.
-/

namespace ThreatModel.Toml

/-- Passes over blanks, line ends and comments. -/
def gap (inComment : Bool) : List Char → Option (List Char)
  | [] => some []
  | '\n' :: cs => gap false cs
  | '\r' :: '\n' :: cs => gap false cs
  | c :: cs =>
    if inComment then (if isPrintable c then gap true cs else none)
    else if isSpacing c then gap false cs
    else if c = '#' then gap true cs
    else some (c :: cs)

/-- Passes over the end of a line with a comment. -/
def lineEnd? (cs : List Char) : Option (List Char) :=
  let rest := match cs.dropWhile isSpacing with
    | '#' :: cs => cs.dropWhile isPrintable
    | cs => cs
  match rest with
  | [] => some []
  | '\n' :: cs => some cs
  | '\r' :: '\n' :: cs => some cs
  | _ => none

/-! ## Numbers -/

/-- Whether a digit belongs to a base. -/
def isDigitOf (base : Nat) (c : Char) : Bool := ((Text.hexDigit? c).map (decide <| · < base)).getD false

/-- The digits at the beginning of a text, between which single underscores may stand. -/
def digits (base : Nat) : List Char → List Char × List Char
  | '_' :: d :: cs =>
    if isDigitOf base d then let (ds, rest) := digits base cs; (d :: ds, rest) else ([], '_' :: d :: cs)
  | d :: cs => if isDigitOf base d then let (ds, rest) := digits base cs; (d :: ds, rest) else ([], d :: cs)
  | [] => ([], [])

/-- The number with some digits. -/
def valueOf (base : Nat) (ds : List Char) : Nat :=
  ds.foldl (fun n d => base * n + (Text.hexDigit? d).getD 0) 0

/-- Reads digits, the first of which must not be an underscore. -/
def readDigits (base : Nat) (cs : List Char) : Option (Nat × List Char) :=
  match digits base cs with
  | ([], _) => none
  | (ds, rest) => if cs.head? = some '_' then none else some (valueOf base ds, rest)

/-- Reads a decimal number, which must not have a leading zero. -/
def readDecimal (cs : List Char) : Option (Nat × List Char) :=
  match cs with
  | '0' :: c :: rest => if c.isDigit || c = '_' then none else some (0, c :: rest)
  | _ => readDigits 10 cs

/-- Reads a whole number. -/
def readWhole : List Char → Option (Int × List Char)
  | '0' :: 'x' :: cs => (readDigits 16 cs).map fun r => (r.1, r.2)
  | '0' :: 'o' :: cs => (readDigits 8 cs).map fun r => (r.1, r.2)
  | '0' :: 'b' :: cs => (readDigits 2 cs).map fun r => (r.1, r.2)
  | '+' :: cs => (readDecimal cs).map fun r => (r.1, r.2)
  | '-' :: cs => (readDecimal cs).map fun r => (-(r.1 : Int), r.2)
  | cs => (readDecimal cs).map fun r => (r.1, r.2)

/-! ## Values -/

mutual

/-- Reads a value; lists may be nested as deep as the fuel allows. -/
def value : Nat → List Char → Option (Toml × List Char)
  | 0, _ => none
  | fuel + 1, cs =>
    match cs with
    | 't' :: 'r' :: 'u' :: 'e' :: rest => some (.truth true, rest)
    | 'f' :: 'a' :: 'l' :: 's' :: 'e' :: rest => some (.truth false, rest)
    | '[' :: rest => do
      let (items, rest) ← items fuel true rest
      return (.list items, rest)
    | '"' :: _ | '\'' :: _ => (readText cs).map fun r => (.text (String.ofList r.1), r.2)
    | _ => do
      let (i, rest) ← readWhole cs
      if -0x8000000000000000 ≤ i && i < 0x8000000000000000 then return (.whole i, rest) else none

/-- Reads the items of a list up to its end; all but the first need a comma. -/
def items : Nat → Bool → List Char → Option (List Toml × List Char)
  | 0, _, _ => none
  | fuel + 1, first, cs => do
    match ← gap false cs with
    | ']' :: rest => return ([], rest)
    | ',' :: cs =>
      if first then none
      else match ← gap false cs with
        | ']' :: rest => return ([], rest)
        | cs => item fuel cs
    | cs => if first then item fuel cs else none

/-- Reads an item of a list and those after it. -/
def item : Nat → List Char → Option (List Toml × List Char)
  | 0, _ => none
  | fuel + 1, cs => do
    let (v, rest) ← value fuel cs
    let (vs, rest) ← items fuel false rest
    return (v :: vs, rest)

end

/-! ## Files -/

/-- Whether a character may stand in a key without quotes. -/
def isKeyChar (c : Char) : Bool := c.isAlphanum || c = '_' || c = '-'

/-- Reads a key. -/
def readKey (cs : List Char) : Option (String × List Char) :=
  match cs with
  | '"' :: rest => (basicFrom rest).map fun r => (String.ofList r.1, r.2)
  | '\'' :: rest => (literalFrom rest).map fun r => (String.ofList r.1, r.2)
  | _ =>
    let k := cs.takeWhile isKeyChar
    if k.isEmpty then none else some (String.ofList k, cs.dropWhile isKeyChar)

/-- Reads a key with its value, which end with the line. -/
def entry (cs : List Char) : Option ((String × Toml) × List Char) := do
  let (k, rest) ← readKey cs
  match rest.dropWhile isSpacing with
  | '=' :: rest =>
    let rest := rest.dropWhile isSpacing
    let (v, rest) ← value (3 * rest.length + 3) rest
    return ((k, v), ← lineEnd? rest)
  | _ => none

/-- Reads keys with values up to the end of a text, as many as the fuel allows. -/
def entries : Nat → List Char → Option (List (String × Toml))
  | 0, _ => none
  | fuel + 1, cs => do
    match ← gap false cs with
    | [] => return []
    | cs =>
      let (e, rest) ← entry cs
      return e :: (← entries fuel rest)

/-- The keys and values of a text; a byte order mark at its beginning does not count. -/
def parse? (text : String) : Option (List (String × Toml)) := do
  let cs := match text.toList with
    | '\uFEFF' :: cs => cs
    | cs => cs
  let es ← entries (cs.length + 1) cs
  if (es.map (·.1)).Nodup then return es else none

end ThreatModel.Toml
