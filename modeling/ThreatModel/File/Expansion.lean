import ThreatModel.File.Pattern
import ThreatModel.File.Tree

/-!
# Expansion of patterns

The paths of a file tree that a pattern stands for. A step without wildcards is followed as it is
written, even a dot or two; other steps are compared with the names in a directory.
-/

namespace ThreatModel.FileTree

/-- The path of a name in a directory; names in the working directory are shown alone. -/
def entryPath (dir name : String) : String :=
  if Path.steps dir = [.here] then name else Path.join dir name

/-- The paths in the directory that a path leads to. -/
def entries (t : FileTree) (dir : String) : List String :=
  match t.resolve dir with
  | none => []
  | some place => if t.isDirectory place then (t.names place).map (entryPath dir) else []

/-- The paths below a directory, down to a depth. -/
def below (t : FileTree) : Nat → String → List String
  | 0, _ => []
  | depth + 1, dir => (t.entries dir).flatMap fun p => p :: below t depth p

/-- Whether a step stands for the last name of a path. -/
def stepAccepts (s : PatternStep) (p : String) : Bool :=
  ((Path.fileName? p).map s.accepts).getD false

/-- The dots that a step with wildcards stands for, which must begin with a dot itself. -/
def dots (pieces : List NamePiece) : List String :=
  if pieces.head? = some (.char '.') then
    ["..", "."].filter fun d => NamePiece.accept pieces d.toList
  else []

/-- The paths that a step without wildcards leads to. -/
def literalStep (t : FileTree) (dir name : String) : List String :=
  let found :=
    if name = "." || name = ".." then t.leadsToDirectory dir
    else (t.resolve (entryPath dir name)).isSome
  if found then [entryPath dir name] else []

/-- The paths that a step with wildcards stands for. -/
def wildStep (t : FileTree) (dir : String) (pieces : List NamePiece) : List String :=
  if t.leadsToDirectory dir then
    (dots pieces).map (Path.join dir) ++ (t.entries dir).filter (stepAccepts (.name pieces))
  else []

/-- The paths that some steps stand for, seen from a directory. -/
def walk (t : FileTree) : List PatternStep → String → List String
  | [], dir => [dir]
  | [.descend], dir => (t.below (t.depth + 1) dir).filter t.leadsToDirectory
  | .descend :: s :: rest, dir =>
    ((t.below (t.depth + 1) dir).filter (stepAccepts s)).flatMap (walk t rest)
  | .name pieces :: rest, dir =>
    (match NamePiece.literal? pieces with
      | some s => t.literalStep dir s
      | none => t.wildStep dir pieces).flatMap (walk t rest)

/-- The parts of a pattern behind its root; a slash at the end adds none. -/
def patternParts (body : String) : List String :=
  let parts := body.splitOn "/"
  if 1 < parts.length && parts.getLast? = some "" then parts.dropLast else parts

/-- The paths that a pattern stands for; nothing if the pattern is ill-formed. -/
def expand (t : FileTree) (pattern : String) : Option (List String) := do
  let absolute := Path.isAbsolute pattern
  let body := if absolute then String.ofList (pattern.toList.drop 1) else pattern
  let steps ← (patternParts body).mapM PatternStep.parse?
  let found := t.walk (PatternStep.collapse steps) (if absolute then "/" else ".")
  let directoriesOnly := pattern.toList.getLast? = some '/'
  return found.filter fun p => !directoriesOnly || t.leadsToDirectory p

end ThreatModel.FileTree
