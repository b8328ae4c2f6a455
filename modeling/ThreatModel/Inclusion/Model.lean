import ThreatModel.File.Expansion
import ThreatModel.Inclusion.Basic
import ThreatModel.Validation.Build

/-!
# Loading models

A model is loaded from a text or a file: it is read, what it includes is added, and the whole is
validated.
-/

namespace ThreatModel

/-- The files of a tree as model files. -/
def FileTree.store (t : FileTree) : FileStore where
  files := t.files
  key? p := (t.resolve p).map FileTree.plainPath
  expand := t.expand

/-- Why a model cannot be loaded. -/
inductive LoadFault where
  /-- The text is not a stated model. -/
  | unparsable
  | inclusion (fault : InclusionFault)
  | model (fault : Fault)
  deriving DecidableEq, Repr

/-- What is said about a fault; why a text is refused is left open. -/
def LoadFault.message : LoadFault → String
  | .unparsable => "unable to parse model"
  | .inclusion fault => fault.message
  | .model fault => fault.message

namespace Model

/-- Validates a stated model that was put together. -/
def validate (today : Date) (m : Except InclusionFault ModelInput) : Except LoadFault Model :=
  match m with
  | .error fault => .error (.inclusion fault)
  | .ok m => match Validation.build today m with
    | .error fault => .error (.model fault)
    | .ok m => .ok m

/-- Loads a model file. -/
def load (today : Date) (s : FileStore) (path : String) : Except LoadFault Model :=
  validate today (ModelInput.load s path)

/-- Loads a model from its text. -/
def parse (today : Date) (s : FileStore) (text : String) : Except LoadFault Model :=
  match ModelInput.parse? text with
  | none => .error .unparsable
  | some m => validate today (m.withIncludes s)

end Model

end ThreatModel
