import AssetStore.Prelude
/-!
# Usage errors

A command line the grammar does not accept is refused with a usage error: what is wrong, the
names close to a mistyped one, tips, the usage line, and where to look for more.

Its text is `error: ` and the problem; then, after a blank line, one line per suggestion
(`  tip: a similar subcommand exists: 'stats'`) and per tip (`  tip: to pass '-1' as a value,
use '-- -1'`); then, after a blank line, the usage line; then, after a blank line, `For more
information, try '--help'.` when the command has a help flag.

* `Problem.text`, `UsageFault.text` — the texts.
-/

namespace AssetStore.CommandLine

/-- What is wrong with a command line. -/
inductive Problem
  /-- A word that is no argument of the command, or one argument too many. -/
  | unexpectedArgument (word : String)
  /-- A word where a subcommand's name was expected. -/
  | unrecognizedSubcommand (word : String)
  /-- Required arguments that were not given, in their forms. -/
  | missingArguments (forms : List String)
  /-- No subcommand was given to a command that needs one; `names` are its subcommands. -/
  | missingSubcommand (command : String) (names : List String)
  /-- An argument given with others it conflicts with. -/
  | conflict (form : String) (others : List String)
  /-- An argument given twice. -/
  | repeated (form : String)
  /-- An argument that needs a value was given none, or the empty one where that is refused. -/
  | noValue (form : String)
  /-- A value attached to an argument that takes none. -/
  | extraValue (value form : String)
  deriving DecidableEq, Repr

def Problem.text : Problem → String
  | .unexpectedArgument word => s!"unexpected argument '{word}' found"
  | .unrecognizedSubcommand word => s!"unrecognized subcommand '{word}'"
  | .missingArguments forms =>
    "the following required arguments were not provided:" ++
      String.join (forms.map ("\n  " ++ ·))
  | .missingSubcommand command names =>
    let listed := ", ".intercalate names
    s!"'{command}' requires a subcommand but one was not provided\n  [subcommands: {listed}]"
  | .conflict form others =>
    match others with
    | [] => s!"the argument '{form}' cannot be used with one or more of the other specified arguments"
    | [other] => s!"the argument '{form}' cannot be used with '{other}'"
    | _ => s!"the argument '{form}' cannot be used with:" ++ String.join (others.map ("\n  " ++ ·))
  | .repeated form => s!"the argument '{form}' cannot be used multiple times"
  | .noValue form => s!"a value is required for '{form}' but none was supplied"
  | .extraValue value form => s!"unexpected value '{value}' for '{form}' found; no more were expected"

/-- A refused command line. -/
structure UsageFault where
  problem : Problem
  /-- Subcommands whose names are close to the word given. -/
  similarCommands : List String := []
  /-- An argument whose name is close to the word given. -/
  similarArgument : Option String := none
  tips : List String := []
  /-- The usage line, with its title. -/
  usage : Option String := none
  /-- What to try for more information. -/
  hint : Option String := none
  deriving DecidableEq, Repr

/-- The line offering similar names. -/
def similarLine (kind : String) : List String → String
  | [name] => s!"  tip: a similar {kind} exists: '{name}'"
  | names =>
    let quoted := ", ".intercalate (names.map fun n => s!"'{n}'")
    s!"  tip: some similar {kind}s exist: {quoted}"

/-- The text of a usage error, ending in a newline. -/
def UsageFault.text (f : UsageFault) : String :=
  let offers :=
    (if f.similarCommands.isEmpty then [] else [similarLine "subcommand" f.similarCommands]) ++
    (match f.similarArgument with
      | some name => [similarLine "argument" [name]]
      | none => [])
  let tips := f.tips.map ("  tip: " ++ ·)
  let advice := offers ++ tips
  let advice := if advice.isEmpty then "" else "\n\n" ++ "\n".intercalate advice
  let usage := match f.usage with
    | some u => "\n\n" ++ u
    | none => ""
  let hint := match f.hint with
    | some h => s!"\n\nFor more information, try '{h}'.\n"
    | none => "\n"
  "error: " ++ f.problem.text ++ advice ++ usage ++ hint

end AssetStore.CommandLine
