import ThreatModel.Dict
import ThreatModel.File.Path

/-!
# File trees

Texts that are kept in directories. A place is given by the names that lead to it from the root. There
are no directories but those on the way to a file and to the working directory.
-/

namespace ThreatModel

/-- Files with the directory from which relative paths start. -/
structure FileTree where
  workingDirectory : List String
  /-- The texts of the files, keyed by the plain form of their places. -/
  files : Dict String

namespace FileTree

/-- The plain form of a place: an absolute path without detours. -/
def plainPath (place : List String) : String := "/" ++ "/".intercalate place

/-- The names that lead to the files. -/
def filePlaces (t : FileTree) : List (List String) :=
  t.files.keys.map fun k => (k.splitOn "/").drop 1

/-- Whether there is a file at a place. -/
def isFile (t : FileTree) (place : List String) : Bool := t.files.contains (plainPath place)

/-- Whether there is a directory at a place. -/
def isDirectory (t : FileTree) (place : List String) : Bool :=
  place.isPrefixOf t.workingDirectory ||
    t.filePlaces.any fun f => place.isPrefixOf f && place.length < f.length

/-- Follows the parts of a path from a place. Every part but the last has to lead to a directory. -/
def follow (t : FileTree) (place : List String) : List String → Option (List String)
  | [] => some place
  | part :: rest =>
    if !t.isDirectory place then none
    else if Path.isIdle part then follow t place rest
    else if part = ".." then follow t place.dropLast rest
    else
      let next := place ++ [part]
      if t.isFile next || t.isDirectory next then follow t next rest else none

/-- The place that a path leads to, if there is something. -/
def resolve (t : FileTree) (p : String) : Option (List String) :=
  if p.isEmpty then none
  else t.follow (if Path.isAbsolute p then [] else t.workingDirectory) (p.splitOn "/")

/-- Whether a path leads to a directory. -/
def leadsToDirectory (t : FileTree) (p : String) : Bool :=
  ((t.resolve p).map t.isDirectory).getD false

/-- The names in a directory. -/
def names (t : FileTree) (place : List String) : List String :=
  ((t.workingDirectory :: t.filePlaces).filterMap fun f =>
    if place.isPrefixOf f then f[place.length]? else none).eraseDups

/-- The text of the file that a path leads to. -/
def text? (t : FileTree) (p : String) : Option String :=
  (t.resolve p).bind fun place => t.files.get? (plainPath place)

/-- The place that a path names, whether there is something or not. -/
def placeOf (t : FileTree) (p : String) : List String :=
  (p.splitOn "/").foldl
    (fun place part =>
      if Path.isIdle part then place else if part = ".." then place.dropLast else place ++ [part])
    (if Path.isAbsolute p then [] else t.workingDirectory)

/-- Writes a file together with the directories on the way to it. There must be no directory in its
place, nor a file on the way. -/
def write? (t : FileTree) (p text : String) : Option FileTree :=
  let place := t.placeOf p
  if t.isDirectory place || (List.range place.length).any fun n => t.isFile (place.take n) then none
  else some { t with files := t.files.insert (plainPath place) text }

/-- The number of steps from the root to the deepest place. -/
def depth (t : FileTree) : Nat :=
  ((t.workingDirectory :: t.filePlaces).map List.length).foldl max 0

end FileTree

end ThreatModel
