import ThreatModel.Decimal.Shortest

/-!
# Faults of plugins

What can go wrong when a separate executable computes scores or finds risks.
-/

namespace ThreatModel

/-- Why the answer of a plugin cannot be used. -/
inductive PluginFault where
  | notFound (plugin : String)
  /-- There is no executable at a path. -/
  | notStarted (path : String)
  /-- The plugin gave up with an exit status and a text. -/
  | failed (plugin : String) (status : Nat) (errors : String)
  /-- The plugin's answer has the wrong form. -/
  | malformed (plugin : String) (errors : String)
  | idMismatch (plugin announced category : String)
  | unknownAsset (plugin asset : String)
  | scoreOutOfRange (plugin asset : String) (score : Float)

/-- Why a plugin is not found. -/
def PluginFault.notFoundReason : String := "cannot find binary path"

/-- What is said about a fault; why an answer has the wrong form is left open. -/
def PluginFault.message : PluginFault → String
  | .notFound p => "plugin '" ++ p ++ "' not found on PATH: " ++ notFoundReason
  | .notStarted path => "unable to start plugin " ++ path
  | .failed p status errors =>
    "plugin '" ++ p ++ "' exited with exit status: " ++ toString status ++ ": " ++ errors
  | .malformed p errors => "plugin '" ++ p ++ "' returned malformed output; stderr: " ++ errors
  | .idMismatch p announced category =>
    "plugin '" ++ p ++ "' announced id '" ++ announced ++ "' but its category id is '" ++ category
      ++ "'"
  | .unknownAsset p a => "plugin '" ++ p ++ "' scored unknown technical asset: " ++ a
  | .scoreOutOfRange p a score =>
    "plugin '" ++ p ++ "' scored technical asset '" ++ a ++ "' outside 0..100: "
      ++ Decimal.plainText score

end ThreatModel
