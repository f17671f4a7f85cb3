import LoopBound.Command.Word
import LoopBound.Text.Quoted

/-!
# Arguments

What the command line asks for. The words of the main command are read up to the name of a
subcommand, which reads the words behind it. Switches take effect one after another, so asking for
help wins against what is wrong behind it; of a repeated switch the last counts. What is missing is
reported before what is left over.
-/

namespace LoopBound.Command

open LoopBound.Text

/-- How errors of the source are written. -/
inductive ErrorFormat where
  | line | object
  deriving DecidableEq, Repr

/-- How loops are listed. -/
inductive ListFormat where
  | text | object
  deriving DecidableEq, Repr

/-- What a switch is given: a value, or nothing where the separator is attached in its place. -/
inductive Given (α : Type) where
  | value (a : α)
  | nothing
  deriving DecidableEq, Repr

/-- The text that is attached to a switch or follows it. -/
def Given.text (s : String) : Given String :=
  if s == separatorText then .nothing else .value s

/-- The whole number that a text spells. -/
def Given.whole? (s : String) : Option (Given Int) :=
  match Given.text s with
  | .value s => (integer? s).map .value
  | .nothing => some .nothing

/-- What the switches ask for. -/
structure Choices where
  verbosity : Nat := 0
  errorFormat : ErrorFormat := .line
  max : Option (Given Int) := none
  loops : Option (Given String) := none
  indent : Option (Given Int) := none
  strict : Bool := false
  output : Option (Given String) := none
  format : ListFormat := .text
  deriving DecidableEq, Repr

/-- What is wrong with a command line. -/
inductive UsageError where
  | ambiguous (word : String) (spellings : List String)
  | valueMissing (label : String)
  | valueIgnored (label value : String)
  | noNumber (label value : String)
  | noChoice (label value : String) (choices : List String)
  | required (names : List String)
  | unrecognized (words : List String)
  deriving DecidableEq, Repr

/-- The message of an error. -/
def UsageError.message : UsageError → String
  | ambiguous word spellings =>
    "ambiguous option: " ++ word ++ " could match " ++ ", ".intercalate spellings
  | valueMissing label => "argument " ++ label ++ ": expected one argument"
  | valueIgnored label value =>
    "argument " ++ label ++ ": ignored explicit argument " ++ quoted value
  | noNumber label value => "argument " ++ label ++ ": invalid int value: " ++ quoted value
  | noChoice label value choices =>
    "argument " ++ label ++ ": invalid choice: " ++ quoted value ++ " (choose from " ++
      ", ".intercalate (choices.map quoted) ++ ")"
  | required names => "the following arguments are required: " ++ ", ".intercalate names
  | unrecognized words => "unrecognized arguments: " ++ " ".intercalate words

/-- Why a command line asks for no work. -/
inductive Stop where
  | help
  | version
  | noSubcommand
  | refused (scope : Scope) (e : UsageError)
  deriving DecidableEq, Repr

/-- Lets a switch with its value take effect. -/
def Choices.apply (c : Choices) (scope : Scope) (s : Switch) (value : String) :
    Except Stop Choices :=
  let refuse (e : UsageError) : Except Stop Choices := .error (.refused scope e)
  match s.topic with
  | .help => .error .help
  | .version => .error .version
  | .verbose => .ok { c with verbosity := c.verbosity + 1 }
  | .strict => .ok { c with strict := true }
  | .loops => .ok { c with loops := some (.text value) }
  | .output => .ok { c with output := some (.text value) }
  | .max =>
    match Given.whole? value with
    | some n => .ok { c with max := some n }
    | none => refuse (.noNumber s.label value)
  | .indent =>
    match Given.whole? value with
    | some n => .ok { c with indent := some n }
    | none => refuse (.noNumber s.label value)
  | .errorFormat =>
    if value == "gcc" || value == separatorText then .ok { c with errorFormat := .line }
    else if value == "json" then .ok { c with errorFormat := .object }
    else refuse (.noChoice s.label value ["gcc", "json"])
  | .format =>
    if value == "text" || value == separatorText then .ok { c with format := .text }
    else if value == "json" then .ok { c with format := .object }
    else refuse (.noChoice s.label value ["text", "json"])

/-- The switches in one word: those that are given, each with its value, then perhaps one that takes
the next word. -/
structure Cluster where
  given : List (Switch × String)
  waiting : Option Switch := none

/-- A switch with nothing attached. -/
def Cluster.bare (s : Switch) : Cluster :=
  if s.takesValue then { given := [], waiting := some s } else { given := [(s, "")] }

/-- The switches in a word that begins with the short spelling of `s`, with letters behind it. A
switch that takes a value takes all of them; behind any other the letters are switches too. -/
def letterCluster (scope : Scope) (s : Switch) (letters : List Char) : Except UsageError Cluster :=
  if s.takesValue then .ok { given := [(s, String.ofList letters)] }
  else
    match letters with
    | [] => .error (.valueIgnored s.label "")
    | c :: rest =>
      match scope.switch? (String.ofList ['-', c]) with
      | none => .error (.valueIgnored s.label (String.ofList letters))
      | some t => do
        let more ← if rest.isEmpty then .ok (Cluster.bare t) else letterCluster scope t rest
        return { more with given := (s, "") :: more.given }

/-- The switches in a word. -/
def cluster (scope : Scope) (s : Switch) : Attached → Except UsageError Cluster
  | .nothing => .ok (.bare s)
  | .letters cs => letterCluster scope s cs
  | .value cs =>
    if s.takesValue then .ok { given := [(s, String.ofList cs)] }
    else .error (.valueIgnored s.label (String.ofList cs))

/-- How far the words of a scope have been read. -/
structure Progress where
  choices : Choices
  /-- The operand: the name of a subcommand, or the source. -/
  operand : Option String := none
  /-- The words behind the name of a subcommand. -/
  behind : List String := []
  /-- Words that nothing takes. -/
  extra : List String := []

/-- Lets all switches of a word take effect. -/
def Progress.applyAll (p : Progress) (scope : Scope) (given : List (Switch × String)) :
    Except Stop Progress := do
  let choices ← given.foldlM (fun c (s, value) => c.apply scope s value) p.choices
  return { p with choices }

/-- Sets a word aside. -/
def Progress.leave (p : Progress) (text : String) : Progress :=
  { p with extra := p.extra ++ [text] }

/-- Reads the words of a scope. The main command is done at the name of a subcommand; a subcommand
takes one operand and goes on. -/
def readWords (scope : Scope) (p : Progress) : List Word → Except Stop Progress
  | [] => .ok p
  | ⟨text, .unknown⟩ :: rest => readWords scope (p.leave text) rest
  | ⟨text, .operand⟩ :: rest =>
    if scope = .main then .ok { p with operand := some text, behind := rest.map (·.text) }
    else if p.operand.isSome then readWords scope (p.leave text) rest
    else
      match rest with
      | ⟨_, .separator⟩ :: rest => readWords scope { p with operand := some text } rest
      | rest => readWords scope { p with operand := some text } rest
  | ⟨text, .separator⟩ :: ⟨operand, .operand⟩ :: rest =>
    if scope = .main then
      .ok { p with operand := some text, behind := operand :: rest.map (·.text) }
    else if p.operand.isSome then readWords scope ((p.leave text).leave operand) rest
    else readWords scope { p with operand := some operand } rest
  | ⟨text, .separator⟩ :: rest => readWords scope (p.leave text) rest
  | ⟨_, .switch s attached⟩ :: rest =>
    match cluster scope s attached with
    | .error e => .error (.refused scope e)
    | .ok ⟨given, none⟩ =>
      match p.applyAll scope given with
      | .error stop => .error stop
      | .ok p => readWords scope p rest
    | .ok ⟨given, some t⟩ =>
      match rest with
      | ⟨value, .operand⟩ :: rest =>
        match p.applyAll scope (given ++ [(t, value)]) with
        | .error stop => .error stop
        | .ok p => readWords scope p rest
      | _ => .error (.refused scope (.valueMissing t.label))
termination_by words => words.length

/-- Sorts and reads the words of a scope. -/
def readScope (scope : Scope) (choices : Choices) (words : List String) : Except Stop Progress :=
  match sortWords scope words with
  | .error (word, spellings) => .error (.refused scope (.ambiguous word spellings))
  | .ok words => readWords scope ⟨choices, none, [], []⟩ words

/-- What a command line asks for. -/
structure Arguments where
  subcommand : Subcommand
  input : String
  choices : Choices
  deriving DecidableEq, Repr

/-- Refuses words that nothing took. -/
def nothingLeft (extra : List String) : Except Stop Unit :=
  if extra.isEmpty then .ok () else .error (.refused .main (.unrecognized extra))

/-- Reads a command line. -/
def Arguments.ofWords (words : List String) : Except Stop Arguments := do
  let main ← readScope .main {} words
  match main.operand with
  | none =>
    nothingLeft main.extra
    throw .noSubcommand
  | some name =>
    match Subcommand.named? name with
    | none =>
      throw (.refused .main (.noChoice "<command>" name (Subcommand.all.map (·.name))))
    | some sub =>
      let own ← readScope (.sub sub) main.choices main.behind
      match own.operand with
      | none => throw (.refused (.sub sub) (.required ["input"]))
      | some input =>
        nothingLeft (main.extra ++ own.extra)
        return ⟨sub, input, own.choices⟩

end LoopBound.Command
