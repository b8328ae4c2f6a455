import Std.Time.Format
import ThreatModel.Command.Run

/-!
# The program

The outer layer: it looks at the files around it, runs the command in its arguments and writes the files
that the command has changed.
-/

namespace ThreatModel.Program

/-- The day on which the program is run. -/
def today : IO Date := do
  let d ← Std.Time.PlainDate.now
  return ⟨d.year, d.month.toNat, d.day.toNat⟩

/-- The text of a file, if it is one. -/
def readText (path : String) : IO (Option String) := do
  try return some (← IO.FS.readFile path) catch _ => return none

/-- The names in a directory, if it is one. -/
def readNames (path : String) : IO (Option (List String)) := do
  try return some ((← ((← IO.currentDir) / path).readDir).toList.map (·.fileName))
  catch _ => return none

/-- Adds the text at a path to a tree, or all texts below it down to a depth. -/
def addFiles : Nat → FileTree → String → IO FileTree
  | 0, t, _ => return t
  | depth + 1, t, path => do
    match ← readNames path with
    | some names => names.foldlM (fun t name => addFiles depth t (Path.join path name)) t
    | none => match ← readText path with
      | some text =>
        return { t with files := t.files.insert (FileTree.plainPath (t.placeOf path)) text }
      | none => return t

/-- The paths outside of the working directory that a command may look at. -/
def outerPaths (home : String) : Command → List String
  | .analyze settings request =>
    (Path.parent request.model) :: Path.join home ".threatscry" :: settings.toList
  | _ => []

/-- What a command can look at: the files below the working directory and those that it names. -/
def surroundings (c : Command) : IO Surroundings := do
  let home := (← IO.getEnv "HOME").getD ""
  let directory := (((← IO.currentDir).toString).splitOn "/").filter (!·.isEmpty)
  let start : FileTree := ⟨directory, .empty⟩
  let t ← ("." :: (outerPaths home c).filter (!·.isEmpty)).foldlM (addFiles 16) start
  return ⟨← today, t, home, Plugin.bundled⟩

/-- Writes the files of a tree that differ from those of another. -/
def writeChanges (before after : FileTree) : IO Unit := do
  for (path, text) in after.files.entries do
    if before.files.get? path ≠ some text then
      IO.FS.createDirAll (Path.parent path)
      IO.FS.writeFile path text

/-- Runs the command in some arguments; the result is the exit status. -/
def run (args : List String) : IO UInt32 := do
  match Command.parse? args with
  | none =>
    IO.eprint Command.usage
    return 2
  | some c =>
    let s ← surroundings c
    match c.run s with
    | .ok effect =>
      writeChanges s.files effect.files
      IO.print effect.output
      return 0
    | .error fault =>
      IO.eprintln ("error: " ++ fault.message)
      return 1

end ThreatModel.Program

/-- Runs the program. -/
def main (args : List String) : IO UInt32 := ThreatModel.Program.run args
