import AssetStore.CommandLine.Grammar
import AssetStore.Text.Blank
/-!
# Usage lines and help pages

A usage line names the command and the arguments it needs. The full line, shown in the help
page and after most usage errors, is the command's name, `[OPTIONS]` when it has an option or
flag that is neither required nor help or version, the required options, every positional
argument (bracketed unless required), and `<COMMAND>` (or `[COMMAND]`) when it has
subcommands. After an error that is about particular arguments, the line names instead the
required arguments and those the user gave, all as required, and the positional arguments.

A help page is the command's description, its usage line, and three sections: its
subcommands, its positional arguments and its options, each line holding an argument's form and
its help in two aligned columns. Options are ordered by their `order`, then by their short name
(lower case before upper case) or else their long name; an argument read from the environment
shows the variable and its current value. Nothing is wrapped.

* `Usage.line` — the usage line, full or about particular arguments.
* `Usage.page` — the help page.
-/

namespace AssetStore.CommandLine

namespace Usage

def spaces (n : Nat) : String := String.ofList (List.replicate n ' ')

def trimEnd (s : String) : String :=
  String.ofList (s.toList.reverse.dropWhile Text.Blank.isBlank).reverse

/-- The list without repeated items, each kept where it first stands. -/
def dedup (xs : List String) : List String :=
  xs.foldl (fun kept x => if kept.contains x then kept else kept ++ [x]) []

/-- The arguments part of a usage line: the options of `required ++ given` and every
positional argument, each followed by a blank. Those of `required ++ given` are shown as
required unless `optional`; the other positional arguments as they are. -/
def argumentsPart (c : Command) (required given : List String) (optional : Bool) : String :=
  let named := (required ++ given).filterMap c.find?
  let options := dedup ((named.filter (!·.isPositional)).map (·.styled (some !optional)))
  let positionals := c.positionals.map fun p =>
    if named.any (·.id == p.id) then p.styled (some !optional) else p.styled (some false)
  String.join ((options ++ positionals).map (· ++ " "))

/-- Whether the usage line shows `[OPTIONS]`. -/
def needsOptions (c : Command) : Bool :=
  c.args.any fun a =>
    !a.isPositional && !a.required && (a.action == .keep || a.action == .collect || a.action == .raise)

/-- The full usage line, with `required` the arguments it treats as required. -/
def full (c : Command) (required : List String) : String :=
  let options := if needsOptions c then "[OPTIONS] " else ""
  let commands :=
    if c.subcommands.isEmpty then ""
    else if c.subcommandRequired then "<COMMAND>" else "[COMMAND]"
  let arguments := argumentsPart c required [] false
  trimEnd s!"{c.usageName} {options}{arguments}{commands}"

/-- The usage line about the arguments `given`, with `required` those it treats as required;
the full line when `given` is empty. -/
def line (c : Command) (required given : List String) : String :=
  if given.isEmpty then full c required
  else
    let commands := if c.subcommandRequired then "<COMMAND>" else ""
    let arguments := argumentsPart c required given false
    trimEnd s!"{c.usageName} {arguments}{commands}"

def titled (c : Command) (required given : List String) : String :=
  "Usage: " ++ line c required given

/-- The text after an argument's help: its environment variable and that variable's value. -/
def extra (a : Arg) : String :=
  match a.env with
  | some (name, value) =>
    let value := value.getD ""
    s!"[env: {name}={value}]"
  | none => ""

/-- An argument's help with its extra text, continued lines indented by `indent` blanks. -/
def helpText (help extra : String) (indent : Nat) : String :=
  let joined := if extra.isEmpty then help else if help.isEmpty then extra else help ++ " " ++ extra
  joined.replace "\n" ("\n" ++ spaces indent)

/-- The width an option takes in the first column: its form and room for a short name. -/
def optionWidth (a : Arg) : Nat := a.display.length + 4

/-- The line of an option, with `longest` the widest first column. -/
def optionLine (longest : Nat) (a : Arg) : String :=
  let short := match a.short with
    | some s => s!"-{s}"
    | none => if a.long.isSome then "    " else ""
  let long := match a.long with
    | some l => (if a.short.isSome then ", " else "") ++ s!"--{l}"
    | none => ""
  let padding := longest + (if a.long.isSome then 2 else 6) - optionWidth a
  "  " ++ short ++ long ++ a.suffix a.required ++ spaces padding ++
    helpText a.help (extra a) (longest + 4)

/-- The line of a positional argument, with `longest` the widest first column. -/
def positionalLine (longest : Nat) (a : Arg) : String :=
  "  " ++ a.display ++ spaces (longest + 2 - a.display.length) ++
    helpText a.help (extra a) (longest + 4)

/-- The line of a subcommand, with `longest` the widest name. -/
def commandLine (longest : Nat) (c : Command) : String :=
  "  " ++ c.name ++ spaces (longest + 2 - c.name.length) ++ helpText c.about "" (longest + 4)

/-- The key that orders options: the short name in lower case with `0` for a lower-case
name and `1` for an upper-case one, else the long name. -/
def optionKey (a : Arg) : String :=
  match a.short, a.long with
  | some s, _ => String.singleton s.toLower ++ (if s.isLower then "0" else "1")
  | none, some l => l
  | none, none => "\x7b" ++ a.id

def orderedBy (x y : Nat × String) : Bool := x.1 < y.1 || (x.1 == y.1 && decide (x.2 ≤ y.2))

/-- The sections of a help page that have lines, as heading and lines. -/
def sections (c : Command) : List (String × List String) :=
  let commands := c.subcommands.mergeSort fun x y => orderedBy (x.order, x.name) (y.order, y.name)
  let commandWidth := commands.foldl (fun w s => max w s.name.length) 2
  let positionals := c.positionals
  let positionalWidth := positionals.foldl (fun w a => max w a.display.length) 2
  let options := (c.args.filter (!·.isPositional)).mergeSort fun x y =>
    orderedBy (x.order, optionKey x) (y.order, optionKey y)
  let optionWidth := options.foldl (fun w a => max w (Usage.optionWidth a)) 2
  [ ("Commands", commands.map (commandLine commandWidth)),
    ("Arguments", positionals.map (positionalLine positionalWidth)),
    ("Options", options.map (optionLine optionWidth)) ].filter (!·.2.isEmpty)

def page (c : Command) : String :=
  let about := if c.about.isEmpty then "" else c.about ++ "\n"
  let body := "\n\n".intercalate ((sections c).map fun (heading, lines) =>
    heading ++ ":\n" ++ "\n".intercalate lines)
  let text := about ++ "\nUsage: " ++ full c c.requiredIds ++ "\n\n" ++ body
  let text := if c.about.isEmpty then String.ofList (text.toList.drop 1) else text
  trimEnd text ++ "\n"

end Usage

end AssetStore.CommandLine
