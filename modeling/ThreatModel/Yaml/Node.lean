import ThreatModel.Yaml.Token

/-!
# Nodes of YAML

The tokens of a text form a tree of nodes, in which anchors and aliases still stand. A text holds at most
one document.
-/

namespace ThreatModel.Yaml

/-- A node as it is written. -/
inductive Node where
  | scalar (text : String) (style : ScalarStyle) (tag : Option (List UInt8))
  | sequence (items : List Node)
  | mapping (entries : List (Node × Node))
  | anchored (name : String) (node : Node)
  | alias (name : String)
  deriving Inhabited

/-- A node that is left out. -/
def Node.missing : Node := .scalar "" .plain none

/-- The expansions of tag handles. -/
abbrev TagHandles := List (String × List UInt8)

/-- The handles that need no directive. -/
def standardHandles : TagHandles :=
  [("!", "!".toUTF8.toList), ("!!", "tag:yaml.org,2002:".toUTF8.toList)]

/-- The full form of a tag; its handle must be known. -/
def fullTag (handles : TagHandles) (handle : String) (suffix : List UInt8) : Option (List UInt8) :=
  if handle.isEmpty then some suffix else (handles.lookup handle).map (· ++ suffix)

/-! ## Properties -/

/-- The anchor and the tag before a node. -/
structure Properties where
  anchor : Option String := none
  tag : Option (String × List UInt8) := none

/-- Reads an anchor and a tag in either order. -/
def properties : List Token → Properties × List Token
  | .anchor a :: .tag h s :: ts | .tag h s :: .anchor a :: ts => (⟨some a, some (h, s)⟩, ts)
  | .anchor a :: ts => (⟨some a, none⟩, ts)
  | .tag h s :: ts => (⟨none, some (h, s)⟩, ts)
  | ts => ({}, ts)

/-- Puts an anchor before a node. -/
def withAnchor (anchor : Option String) (n : Node) : Node :=
  match anchor with
  | some a => .anchored a n
  | none => n

/-! ## Nodes -/

/-- Where a node may stand. -/
inductive Position where
  /-- Between brackets, where block collections are refused. -/
  | flow
  | block
  /-- At a key of a block mapping, where a sequence need not be indented. -/
  | blockKey
  deriving DecidableEq

/-- Whether the entry of a block sequence is left out before a token. -/
def endsBlockEntry : List Token → Bool
  | .blockEntry :: _ | .blockEnd :: _ => true
  | _ => false

/-- Whether the key or the value of a block mapping is left out before a token. -/
def endsBlockPair : List Token → Bool
  | .key :: _ | .value :: _ | .blockEnd :: _ => true
  | _ => false

/-- Whether the entry of a sequence without indentation is left out before a token. -/
def endsLooseEntry (ts : List Token) : Bool :=
  endsBlockPair ts || ts.head? = some .blockEntry

/-- Whether the value of a flow collection that is closed by a token is left out. -/
def endsFlowValue (closing : Token) (ts : List Token) : Bool :=
  ts.head? = some .flowEntry || ts.head? = some closing

mutual

/-- Reads a node. -/
def node (handles : TagHandles) : Nat → Position → List Token → Option (Node × List Token)
  | 0, _, _ => none
  | _ + 1, _, .alias a :: ts => some (.alias a, ts)
  | fuel + 1, position, ts => do
    let (p, ts) := properties ts
    let tag ← match p.tag with
      | some (h, s) => (fullTag handles h s).map some
      | none => some none
    let (n, ts) ← match ts with
      | .scalar t style :: ts => some (Node.scalar t style tag, ts)
      | .flowSequenceStart :: ts => do
        let (items, ts) ← flowSequence handles fuel true ts
        some (Node.sequence items, ts)
      | .flowMappingStart :: ts => do
        let (entries, ts) ← flowMapping handles fuel true ts
        some (Node.mapping entries, ts)
      | .blockEntry :: _ =>
        if position = .blockKey then do
          let (items, ts) ← looseSequence handles fuel ts
          some (Node.sequence items, ts)
        else if p.anchor.isSome || p.tag.isSome then some (.scalar "" .plain tag, ts)
        else none
      | .blockSequenceStart :: rest =>
        if position = .flow then
          if p.anchor.isSome || p.tag.isSome then some (.scalar "" .plain tag, ts) else none
        else do
          let (items, ts) ← blockSequence handles fuel rest
          some (Node.sequence items, ts)
      | .blockMappingStart :: rest =>
        if position = .flow then
          if p.anchor.isSome || p.tag.isSome then some (.scalar "" .plain tag, ts) else none
        else do
          let (entries, ts) ← blockMapping handles fuel rest
          some (Node.mapping entries, ts)
      | _ => if p.anchor.isSome || p.tag.isSome then some (.scalar "" .plain tag, ts) else none
    return (withAnchor p.anchor n, ts)

/-- Reads the entries of a block sequence up to its end. -/
def blockSequence (handles : TagHandles) : Nat → List Token → Option (List Node × List Token)
  | 0, _ => none
  | fuel + 1, ts =>
    match ts with
    | .blockEnd :: ts => some ([], ts)
    | .blockEntry :: ts => do
      let (n, ts) ← if endsBlockEntry ts then some (.missing, ts) else node handles fuel .block ts
      let (items, ts) ← blockSequence handles fuel ts
      return (n :: items, ts)
    | _ => none

/-- Reads the entries of a sequence without indentation. -/
def looseSequence (handles : TagHandles) : Nat → List Token → Option (List Node × List Token)
  | 0, _ => none
  | fuel + 1, ts =>
    match ts with
    | .blockEntry :: ts => do
      let (n, ts) ← if endsLooseEntry ts then some (.missing, ts) else node handles fuel .block ts
      let (items, ts) ← looseSequence handles fuel ts
      return (n :: items, ts)
    | ts => some ([], ts)

/-- Reads the pairs of a block mapping up to its end. -/
def blockMapping (handles : TagHandles) : Nat → List Token → Option (List (Node × Node) × List Token)
  | 0, _ => none
  | fuel + 1, ts =>
    match ts with
    | .blockEnd :: ts => some ([], ts)
    | .key :: ts => do
      let (k, ts) ← if endsBlockPair ts then some (.missing, ts) else node handles fuel .blockKey ts
      let (v, ts) ← match ts with
        | .value :: ts =>
          if endsBlockPair ts then some (.missing, ts) else node handles fuel .blockKey ts
        | ts => some (.missing, ts)
      let (entries, ts) ← blockMapping handles fuel ts
      return ((k, v) :: entries, ts)
    | _ => none

/-- Reads the entries of a flow sequence up to its end; all but the first need a comma. -/
def flowSequence (handles : TagHandles) :
    Nat → Bool → List Token → Option (List Node × List Token)
  | 0, _, _ => none
  | fuel + 1, first, ts =>
    match ts with
    | .flowSequenceEnd :: ts => some ([], ts)
    | ts => do
      let ts ← if first then some ts else match ts with
        | .flowEntry :: ts => some ts
        | _ => none
      match ts with
      | .flowSequenceEnd :: ts => return ([], ts)
      | .key :: ts => do
        let (k, ts) ← if ts.head? = some .value || endsFlowValue .flowSequenceEnd ts then
            some (.missing, ts.drop 1)
          else node handles fuel .flow ts
        let (v, ts) ← flowValue handles fuel .flowSequenceEnd ts
        let (items, ts) ← flowSequence handles fuel false ts
        return (.mapping [(k, v)] :: items, ts)
      | ts => do
        let (n, ts) ← node handles fuel .flow ts
        let (items, ts) ← flowSequence handles fuel false ts
        return (n :: items, ts)

/-- Reads the value of a pair in a flow collection, which may be left out. -/
def flowValue (handles : TagHandles) : Nat → Token → List Token → Option (Node × List Token)
  | 0, _, _ => none
  | fuel + 1, closing, ts =>
    match ts with
    | .value :: ts =>
      if endsFlowValue closing ts then some (.missing, ts) else node handles fuel .flow ts
    | ts => some (.missing, ts)

/-- Reads the pairs of a flow mapping up to its end; all but the first need a comma. -/
def flowMapping (handles : TagHandles) :
    Nat → Bool → List Token → Option (List (Node × Node) × List Token)
  | 0, _, _ => none
  | fuel + 1, first, ts =>
    match ts with
    | .flowMappingEnd :: ts => some ([], ts)
    | ts => do
      let ts ← if first then some ts else match ts with
        | .flowEntry :: ts => some ts
        | _ => none
      match ts with
      | .flowMappingEnd :: ts => return ([], ts)
      | .key :: ts => do
        let (k, ts) ← if ts.head? = some .value || endsFlowValue .flowMappingEnd ts then
            some (.missing, ts)
          else node handles fuel .flow ts
        let (v, ts) ← flowValue handles fuel .flowMappingEnd ts
        let (entries, ts) ← flowMapping handles fuel false ts
        return ((k, v) :: entries, ts)
      | ts => do
        let (k, ts) ← node handles fuel .flow ts
        let (entries, ts) ← flowMapping handles fuel false ts
        return ((k, .missing) :: entries, ts)

end

/-! ## Documents -/

/-- What the directives before a document settle. -/
structure Directives where
  versioned : Bool := false
  handles : TagHandles := []

/-- Reads directives; a version must be known and given once, a handle be defined once. -/
def directives (d : Directives) : List Token → Option (Directives × List Token)
  | .versionDirective major minor :: ts =>
    if d.versioned || major ≠ 1 || (minor ≠ 1 && minor ≠ 2) then none
    else directives { d with versioned := true } ts
  | .tagDirective h e :: ts =>
    if (d.handles.lookup h).isSome then none
    else directives { d with handles := d.handles ++ [(h, e)] } ts
  | ts => some (d, ts)

/-- Whether the content of a document is left out before a token. -/
def endsDocument : List Token → Bool
  | [] => true
  | .versionDirective .. :: _ | .tagDirective .. :: _ | .documentStart :: _ | .documentEnd :: _ => true
  | _ => false

/-- Whether a document begins with directives or a marker. -/
def beginsExplicitly : List Token → Bool
  | .versionDirective .. :: _ | .tagDirective .. :: _ | .documentStart :: _ => true
  | _ => false

/-- Reads a document. -/
def document (ts : List Token) : Option (Node × List Token) := do
  let fuel := 4 * ts.length + 4
  if beginsExplicitly ts then
    let (d, ts) ← directives {} ts
    match ts with
    | .documentStart :: ts =>
      if endsDocument ts then some (.missing, ts)
      else node (d.handles ++ standardHandles) fuel .block ts
    | _ => none
  else node standardHandles fuel .block ts

/-- The document of a text, if there is any; there must not be two. -/
def Node.ofTokens? (ts : List Token) : Option (Option Node) :=
  if ts.isEmpty then some none
  else do
    let (n, ts) ← document ts
    if (ts.dropWhile (· = .documentEnd)).isEmpty then return some n else none

end ThreatModel.Yaml
