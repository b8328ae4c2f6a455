/-!
# Options of commands

Arguments are options, which begin with one or two hyphens, and plain arguments. An option is a flag or
has a value, in the same argument or in the next one. Two hyphens alone end the options.
-/

namespace ThreatModel

/-- How often an option may be given and what its values are. -/
inductive OptionKind where
  | flag
  /-- A flag behind which nothing more is read. -/
  | last
  | text
  /-- Any number of texts. -/
  | texts
  /-- A text that is not empty. -/
  | path
  /-- A number of 64 bits. -/
  | number
  deriving DecidableEq, Repr

/-- An option of a command. -/
structure OptionSpec where
  name : String
  letter : Option Char
  kind : OptionKind
  deriving DecidableEq, Repr

/-- Arguments sorted out: the options with their values, and the plain arguments. -/
structure Given where
  options : List (String × String) := []
  plain : List String := []

namespace Given

/-- Adds a plain argument. -/
def withPlain (g : Given) (arg : String) : Given := { g with plain := arg :: g.plain }

/-- Whether an option is given. -/
def has (g : Given) (name : String) : Bool := (g.options.lookup name).isSome

/-- The value of an option. -/
def value? (g : Given) (name : String) : Option String := g.options.lookup name

/-- All values of an option. -/
def values (g : Given) (name : String) : List String :=
  (g.options.filter (·.1 = name)).map (·.2)

end Given

namespace OptionSpec

/-- Whether an argument looks like an option. -/
def looksLikeOption (arg : String) : Bool :=
  match arg.toList with
  | '-' :: _ :: _ => true
  | _ => false

/-- The decimal number of 64 bits that a text is. -/
def number? (s : String) : Option Nat := do
  let ds := match s.toList with
    | '+' :: ds => ds
    | ds => ds
  if ds.isEmpty || !ds.all Char.isDigit then none
  let n := ds.foldl (fun n d => 10 * n + (d.toNat - '0'.toNat)) 0
  if n ≤ 0xFFFFFFFFFFFFFFFF then some n else none

/-- Whether an option may have a value. -/
def permits (s : OptionSpec) (value : String) : Bool :=
  match s.kind with
  | .flag | .last | .text | .texts => true
  | .path => !value.isEmpty
  | .number => (number? value).isSome

/-- What comes after the options of an argument. -/
inductive Next where
  | arguments
  /-- The value of an option. -/
  | value (s : OptionSpec)
  | nothing

/-- The options in an argument of letters: flags, and at the end one that may have a value, which is the
rest of the argument, behind an equals sign or not, or else the next argument. -/
def letters (specs : List OptionSpec) : List Char → Option (List (String × String) × Next)
  | [] => some ([], .arguments)
  | c :: cs => do
    let s ← specs.find? (·.letter = some c)
    match s.kind, cs with
    | .flag, cs =>
      let (options, next) ← letters specs cs
      return ((s.name, "") :: options, next)
    | .last, _ => return ([(s.name, "")], .nothing)
    | _, [] => return ([], .value s)
    | _, '=' :: value | _, value => return ([(s.name, String.ofList value)], .arguments)

/-- The option in an argument with a name, which may have its value behind an equals sign. -/
def named (specs : List OptionSpec) (cs : List Char) : Option (List (String × String) × Next) := do
  let name := String.ofList (cs.takeWhile (· ≠ '='))
  let s ← specs.find? (·.name = name)
  match cs.dropWhile (· ≠ '='), s.kind with
  | [], .flag => return ([(name, "")], .arguments)
  | [], .last => return ([(name, "")], .nothing)
  | _ :: _, .flag | _ :: _, .last => none
  | [], _ => return ([], .value s)
  | _ :: value, _ => return ([(name, String.ofList value)], .arguments)

/-- Sorts out arguments. With `stop` the first plain argument ends the options and begins the rest. -/
def sortOut (specs : List OptionSpec) (stop : Bool) : List String → Option Given
  | [] => some {}
  | arg :: rest =>
    if arg = "--" then if stop then none else some { plain := rest }
    else if looksLikeOption arg then do
      let (options, next) ← match arg.toList with
        | '-' :: '-' :: cs => named specs cs
        | cs => letters specs (cs.drop 1)
      match next, rest with
      | .nothing, _ => return { options := options }
      | .arguments, rest =>
        let g ← sortOut specs stop rest
        return { g with options := options ++ g.options }
      | .value _, [] => none
      | .value s, value :: rest =>
        if looksLikeOption value then none
        else
          let g ← sortOut specs stop rest
          return { g with options := options ++ (s.name, value) :: g.options }
    else if stop then some { plain := arg :: rest }
    else (sortOut specs stop rest).map (·.withPlain arg)

/-- Whether options may stand together: each once, unless it may be repeated, and with a value of its
kind. -/
def admissible (specs : List OptionSpec) (g : Given) : Bool :=
  specs.all fun s =>
    let values := g.values s.name
    (s.kind = .texts || values.length ≤ 1) && values.all s.permits

/-- The options and plain arguments in some arguments. -/
def parse? (specs : List OptionSpec) (stop : Bool) (args : List String) : Option Given := do
  let g ← sortOut specs stop args
  if admissible specs g then some g else none

end OptionSpec

end ThreatModel
