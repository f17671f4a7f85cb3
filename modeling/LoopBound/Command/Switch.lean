/-!
# Switches

The switches of the command line. The main command takes some before the name of a subcommand, and
every subcommand takes its own behind its name. A switch is named by a short spelling, one dash and
a letter, or by a long one, two dashes and a word.
-/

namespace LoopBound.Command

/-- What a switch is about. -/
inductive Topic where
  | help | version | verbose | errorFormat | max | loops | indent | strict | output | format
  deriving DecidableEq, Repr

/-- A switch: its spellings, and whether it takes a value. -/
structure Switch where
  topic : Topic
  spellings : List String
  takesValue : Bool
  deriving DecidableEq, Repr

/-- The name of a switch in messages. -/
def Switch.label (s : Switch) : String :=
  "/".intercalate s.spellings

/-- The subcommands. -/
inductive Subcommand where
  | guard | loops | parse
  deriving DecidableEq, Repr

namespace Subcommand

/-- The name of a subcommand. -/
def name : Subcommand → String
  | guard => "guard"
  | loops => "loops"
  | parse => "parse"

/-- All subcommands. -/
def all : List Subcommand :=
  [guard, loops, parse]

/-- The subcommand with this name. -/
def named? (s : String) : Option Subcommand :=
  all.find? fun c => c.name == s

end Subcommand

/-- A place where switches are given: before the name of a subcommand, or behind it. -/
inductive Scope where
  | main
  | sub (c : Subcommand)
  deriving DecidableEq, Repr

namespace Scope

def help : Switch := ⟨.help, ["-h", "--help"], false⟩
def loops : Switch := ⟨.loops, ["--loops"], true⟩
def indent : Switch := ⟨.indent, ["--indent"], true⟩
def output : Switch := ⟨.output, ["-o", "--output"], true⟩

/-- The switches of a scope. -/
def switches : Scope → List Switch
  | main => [
    help, ⟨.version, ["--version"], false⟩, ⟨.verbose, ["-v", "--verbose"], false⟩,
    ⟨.errorFormat, ["--error-format"], true⟩]
  | sub .guard => [
    help, ⟨.max, ["--max"], true⟩, loops, indent, ⟨.strict, ["--strict"], false⟩, output]
  | sub .loops => [help, loops, ⟨.format, ["--format"], true⟩]
  | sub .parse => [help, indent, output]

/-- The spellings of a scope with their switches. -/
def spellings (s : Scope) : List (String × Switch) :=
  s.switches.flatMap fun w => w.spellings.map fun spelling => (spelling, w)

/-- The switch with exactly this spelling. -/
def switch? (s : Scope) (spelling : String) : Option Switch :=
  s.spellings.lookup spelling

/-- The name of the program, and of the subcommand, in front of its messages. -/
def name : Scope → String
  | main => "loopguard"
  | sub c => "loopguard " ++ c.name

end Scope

end LoopBound.Command
