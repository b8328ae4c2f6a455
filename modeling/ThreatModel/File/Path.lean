/-!
# Paths

A path is a text of names with slashes between them. Paths are shown as they were put together, so they
stay texts; what they have in common is seen from their steps.
-/

namespace ThreatModel.Path

/-- One step of a path. -/
inductive Step where
  | root | here | up
  | name (s : String)
  deriving DecidableEq, Repr

/-- Whether one step stands before another: the special ones first, then names by code points. -/
def Step.before : Step → Step → Bool
  | .name s, .name t => s < t
  | a, b => rank a < rank b
where
  rank : Step → Nat
    | .root => 0
    | .here => 1
    | .up => 2
    | .name _ => 3

/-- Whether a path begins at the root. -/
def isAbsolute (p : String) : Bool := p.toList.head? = some '/'

/-- Whether a part of a path leads nowhere. -/
def isIdle (part : String) : Bool := part = "" || part = "."

/-- The step that a part of a path stands for. -/
def stepOf (part : String) : Step := if part = ".." then .up else .name part

/-- The steps of a path. A dot counts at the beginning of a relative path only. -/
def steps (p : String) : List Step :=
  let parts := p.splitOn "/"
  let first := if isAbsolute p then [Step.root] else if parts.head? = some "." then [.here] else []
  first ++ (parts.filter (!isIdle ·)).map stepOf

/-- Whether a path stands before another or has the same steps. -/
def le (p q : String) : Bool := !leSteps (steps q) (steps p)
where
  leSteps : List Step → List Step → Bool
    | [], [] => false
    | [], _ :: _ => true
    | _ :: _, [] => false
    | a :: as, b :: bs => a.before b || a = b && leSteps as bs

/-- A path seen from a directory. -/
def join (dir p : String) : String :=
  if isAbsolute p || dir = "" then p
  else if dir.toList.getLast? = some '/' then dir ++ p
  else dir ++ "/" ++ p

/-- The parts of a relative path, last one first, without idle ones at its end; a dot at the very
beginning stays. -/
def dropIdle : List String → List String
  | [] => []
  | [part] => if part = "" then [] else [part]
  | part :: next :: rest => if isIdle part then dropIdle (next :: rest) else part :: next :: rest

/-- The path without its last name. -/
def parent (p : String) : String :=
  let absolute := isAbsolute p
  let parts := ((p.splitOn "/").drop (if absolute then 1 else 0)).reverse
  let trim (ps : List String) := if absolute then ps.dropWhile isIdle else dropIdle ps
  (if absolute then "/" else "") ++ "/".intercalate (trim ((trim parts).drop 1)).reverse

/-- The last name of a path. -/
def fileName? (p : String) : Option String :=
  match (steps p).getLast? with
  | some (.name s) => some s
  | _ => none

end ThreatModel.Path
