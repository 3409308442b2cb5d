import AssetStore.Prelude
/-!
# Command-line grammars

A program's command line is a tree of commands. Each command has arguments: options named by a
long name (`--out`) and perhaps a short one (`-o`), flags, and positional arguments taken in
order. A command may have subcommands, one of which is named next on the command line.

An argument that takes a value takes exactly one; a positional argument that collects takes
every remaining one. An argument may be read from an environment variable when it is not
given, may be required, and may conflict with other arguments. A global argument belongs to
every subcommand as well. Help and version are arguments like the others: giving one shows the
page or the version instead of running the program.

Arguments are shown in two forms: `--out <OUT>` for an option (its long name when it has one),
`--no-mmap` for a flag, and `<PATH>` for a required positional argument or `[PATH]` for an
optional one, followed by `...` when it collects.

* `Arg`, `Command` — the grammar.
* `Arg.styled`, `Arg.display` — the forms of an argument.
* `Command.findLong`, `findShort`, `positional?`, `subcommand?` — what a word names.
-/

namespace AssetStore.CommandLine

/-- What giving an argument does. -/
inductive Action
  /-- Keeps the one value given. -/
  | keep
  /-- Keeps every value given. -/
  | collect
  /-- Raises a flag. -/
  | raise
  /-- Shows the help page. -/
  | help
  /-- Shows the version. -/
  | version
  deriving DecidableEq, Repr

/-- The values an argument accepts. -/
inductive ValueKind
  /-- Any text. -/
  | text
  /-- A path: any text but the empty one. -/
  | path
  deriving DecidableEq, Repr

/-- An argument of a command. -/
structure Arg where
  /-- The name the program knows the argument by. -/
  id : String
  long : Option String := none
  short : Option Char := none
  /-- The position among the positional arguments, from 1; `none` for options and flags. -/
  index : Option Nat := none
  /-- The placeholder of the value in usage lines. -/
  valueName : String := ""
  help : String := ""
  action : Action
  kind : ValueKind := .text
  /-- The environment variable read when the argument is not given, and its value if set. -/
  env : Option (String × Option String) := none
  global : Bool := false
  required : Bool := false
  /-- The arguments this one may not be given with. -/
  conflicts : List String := []
  /-- Where the argument stands in the help page, before its name is compared. -/
  order : Nat := 999
  deriving Repr

namespace Arg

def takesValue (a : Arg) : Bool := a.action == .keep || a.action == .collect

def isPositional (a : Arg) : Bool := a.index.isSome

/-- The value part of the argument's form; a positional argument is shown bracketed when it
is not `required`. -/
def suffix (a : Arg) (required : Bool) : String :=
  if a.isPositional then
    let name := if required then s!"<{a.valueName}>" else s!"[{a.valueName}]"
    if a.action == .collect then name ++ "..." else name
  else if a.takesValue then s!" <{a.valueName}>"
  else ""

/-- The form of the argument, shown as required or not as `required` says, or as the argument
itself is when it says nothing. -/
def styled (a : Arg) (required : Option Bool) : String :=
  let name := match a.long, a.short with
    | some l, _ => s!"--{l}"
    | none, some s => s!"-{s}"
    | none, none => ""
  name ++ a.suffix (required.getD a.required)

def display (a : Arg) : String := a.styled none

end Arg

/-- A command of a program's command line. -/
structure Command where
  name : String
  /-- The program's name followed by the names of the commands down to this one. -/
  usageName : String
  about : String
  version : Option String := none
  args : List Arg
  subcommands : List Command := []
  /-- Where the command stands among its siblings in the help page. -/
  order : Nat := 999
  subcommandRequired : Bool := false
  /-- Whether a command line with nothing on it shows the help page. -/
  helpWhenEmpty : Bool := false
  /-- Whether the command has a help flag. -/
  helpFlag : Bool := true
  /-- Whether the command has a `help` subcommand. -/
  helpCommand : Bool := false

namespace Command

def findLong (c : Command) (name : String) : Option Arg := c.args.find? (·.long == some name)

def findShort (c : Command) (ch : Char) : Option Arg := c.args.find? (·.short == some ch)

/-- The argument with a name the program knows it by. -/
def find? (c : Command) (id : String) : Option Arg := c.args.find? (·.id == id)

def positional? (c : Command) (n : Nat) : Option Arg := c.args.find? (·.index == some n)

def positionals (c : Command) : List Arg :=
  (c.args.filter Arg.isPositional).mergeSort fun x y => decide (x.index.getD 0 ≤ y.index.getD 0)

def hasPositionals (c : Command) : Bool := c.args.any Arg.isPositional

def subcommand? (c : Command) (name : String) : Option Command :=
  c.subcommands.find? (·.name == name)

def longs (c : Command) : List String := c.args.filterMap (·.long)

def requiredIds (c : Command) : List String := (c.args.filter (·.required)).map (·.id)

/-- What a usage error tells the user to try for more: the help flag, else the `help`
subcommand. -/
def hint (c : Command) : Option String :=
  if c.helpFlag then some "--help"
  else if c.helpCommand && !c.subcommands.isEmpty then some "help"
  else none

def versionText (c : Command) : String :=
  let version := c.version.getD ""
  s!"{c.name} {version}\n"

end Command

end AssetStore.CommandLine
