import ThreatModel.File.Path
import ThreatModel.Input.Merge
import ThreatModel.Input.Record
import ThreatModel.Yaml.Record

/-!
# Inclusion

A model file may include others by patterns, which are read relative to its directory. The included
files are merged in the order of the patterns and, for one pattern, of the paths; what a file includes
itself is merged into it first. Every file may be reached once only.
-/

namespace ThreatModel

/-- A place where model files are kept. -/
structure FileStore where
  /-- The texts of the files, keyed by a name that all paths to a file share. -/
  files : Dict String
  /-- The name of what a path leads to, if it leads to something. -/
  key? : String → Option String
  /-- The paths that a pattern stands for, in any order; nothing if the pattern is ill-formed. -/
  expand : String → Option (List String)

/-- Why model files cannot be put together. -/
inductive InclusionFault where
  | unreadable (path : String)
  | unparsable (path : String)
  | invalidPattern (pattern : String)
  /-- A pattern stands for no path. -/
  | noMatch (pattern : String)
  /-- A file is reached a second time. -/
  | repeated (path : String)
  /-- An included file states an element that is stated already. -/
  | duplicateTitle (path title : String)
  deriving DecidableEq, Repr

/-- What is said about a fault; why a file or a pattern is refused is left open. -/
def InclusionFault.message : InclusionFault → String
  | .unreadable path => "unable to read model file " ++ path
  | .unparsable path => "unable to parse model file " ++ path
  | .invalidPattern pattern => "invalid include pattern '" ++ pattern ++ "'"
  | .noMatch pattern => "include pattern '" ++ pattern ++ "' does not match any file"
  | .repeated path => "model file included more than once: " ++ path
  | .duplicateTitle path title => "duplicate title in included model " ++ path ++ ": " ++ title

namespace ModelInput

/-- Reads a stated model. -/
def parse? (text : String) : Option ModelInput := do
  read? (← (← Yaml.parse? text).value? shape)

end ModelInput

namespace Inclusion

/-- A model in the making, with the names of the files that were reached. -/
structure Progress where
  input : ModelInput
  reached : List String

/-- Reads one file and notes that it was reached. -/
def reach (s : FileStore) (reached : List String) (path : String) :
    Except InclusionFault Progress :=
  match s.key? path with
  | none => .error (.unreadable path)
  | some key =>
    if reached.contains key then .error (.repeated path)
    else match s.files.get? key with
      | none => .error (.unreadable path)
      | some text => match ModelInput.parse? text with
        | none => .error (.unparsable path)
        | some input => .ok ⟨input, key :: reached⟩

/-- The paths that a pattern stands for, seen from a directory, in order; there must be some. -/
def matching (s : FileStore) (dir pattern : String) : Except InclusionFault (List String) :=
  match s.expand (Path.join dir pattern) with
  | none => .error (.invalidPattern pattern)
  | some [] => .error (.noMatch pattern)
  | some paths => .ok (paths.mergeSort Path.le)

/-- Adds a part to a model. -/
def add (m part : ModelInput) (path : String) : Except InclusionFault ModelInput :=
  match m.merge part with
  | .ok m => .ok m
  | .error title => .error (.duplicateTitle path title)

/-- Merges what a model includes into it, down to a depth. Deeper than there are files no file is new. -/
def resolve (s : FileStore) : Nat → String → Progress → Except InclusionFault Progress
  | 0, path, _ => .error (.repeated path)
  | depth + 1, dir, p =>
    p.input.includes.foldlM (fun p pattern => do
      (← matching s dir pattern).foldlM (fun p path => do
        let part ← reach s p.reached path
        let part ← resolve s depth (Path.parent path) part
        return ⟨← add p.input part.input path, part.reached⟩) p)
      { p with input.includes := [] }

/-- The depth that no inclusion exceeds. -/
def depth (s : FileStore) : Nat := s.files.size + 1

end Inclusion

namespace ModelInput

/-- Reads a model file with all that it includes. -/
def load (s : FileStore) (path : String) : Except InclusionFault ModelInput := do
  let p ← Inclusion.reach s [] path
  return (← Inclusion.resolve s (Inclusion.depth s) (Path.parent path) p).input

/-- Adds what a stated model includes, seen from the working directory. -/
def withIncludes (s : FileStore) (m : ModelInput) : Except InclusionFault ModelInput := do
  return (← Inclusion.resolve s (Inclusion.depth s) "." ⟨m, []⟩).input

end ModelInput

end ThreatModel
