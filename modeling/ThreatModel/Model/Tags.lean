import ThreatModel.Text.LowerCase

/-!
# Tags

Tags are compared trimmed and in lower case. A tag may have a part before a colon, its base tag:
`aws:ec2` has the base tag `aws`.
-/

namespace ThreatModel

/-- Whether some tag is one of the candidates. -/
def taggedWithAny (tags candidates : List String) : Bool :=
  tags.any fun t => candidates.any fun c => Text.fold c = Text.fold t

/-- Whether some tag is a base tag or has it. -/
def taggedWithBase (tags : List String) (base : String) : Bool :=
  tags.any fun t =>
    Text.fold t = Text.fold base || ((Text.fold base).toList ++ [':']).isPrefixOf (Text.fold t).toList

end ThreatModel
