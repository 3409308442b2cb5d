import AssetStore.CommandLine.Fault
import AssetStore.CommandLine.Similarity
import AssetStore.CommandLine.Usage
/-!
# Reading a command line

The words of a command line are read left to right against a command's grammar.

* `--` ends the options: every later word is a positional value, and an option still waiting
  for its value gets none.
* A subcommand's name hands the rest of the line to the subcommand; `help` instead shows the
  help page of the commands named after it. Where an option waits for its value, the name is
  that value instead.
* `--name=value` and `--name value` give an option its value; `--name` alone raises a flag.
* `-abc` is a cluster of short names; an option among them takes the rest of the cluster,
  without a leading `=`, as its value, or else the next word.
* Any other word is the value of the option waiting for one, or the next positional argument.

A word that starts with `-` is never a value, even where an option waits for one. An option
waiting for a value is settled when the next argument is met, and refused if no value came. An
argument given twice is refused. After the words, the arguments not given are read from their
environment variables, and the command's rules are checked: a subcommand when one is required
(or the help page when nothing at all was given), no two conflicting arguments, every required
argument present. A subcommand's line is read and checked before its parent's rules.

* `Parse.command` — the arguments given to each command along the line, or why the line stops:
  a help page, the version, or a usage error.
-/

namespace AssetStore.CommandLine

/-- Where an argument's values came from; later sources rank higher. -/
inductive Source
  | environment
  | commandLine
  deriving DecidableEq, Repr

def Source.rank : Source → Nat
  | .environment => 0
  | .commandLine => 1

/-- An argument given to a command, with its values. -/
structure Given where
  id : String
  values : List String
  source : Source
  deriving DecidableEq, Repr

/-- Why reading a command line stops before the program runs. -/
inductive Stop
  /-- The help page of a command was asked for. -/
  | help (c : Command)
  /-- The version was asked for. -/
  | version (c : Command)
  /-- Nothing was given; the help page is shown as an error. -/
  | helpOnEmpty (c : Command)
  /-- The line is refused. -/
  | fault (f : UsageFault)

/-- An option or positional argument whose values are still being gathered. -/
structure Pending where
  id : String
  values : List String
  deriving DecidableEq, Repr

/-- How far a command's words have been read. -/
structure Progress where
  /-- The arguments given so far, in the order they were settled. -/
  given : List Given := []
  pending : Option Pending := none
  /-- The option waiting for its value, if any. -/
  awaiting : Option String := none
  /-- The position of the next positional argument, from 1. -/
  position : Nat := 1
  /-- Whether `--` was met. -/
  escaped : Bool := false
  deriving DecidableEq, Repr

namespace Parse

variable (c : Command)

def fault (problem : Problem) (usage : Option String) (tips : List String) : Stop :=
  .fault { problem, tips, usage, hint := c.hint }

def givenIds (p : Progress) : List String := p.given.map (·.id)

def isGiven (p : Progress) (id : String) : Bool := p.given.any (·.id == id)

/-- Records an argument with its values; a second one is refused, and so is an empty path. -/
def apply (a : Arg) (values : List String) (source : Source) (p : Progress) :
    Except Stop Progress := do
  if source == .commandLine && a.takesValue && values.isEmpty then
    throw (.fault { problem := .noValue a.display, hint := c.hint })
  match a.action with
  | .help => throw (.help c)
  | .version => throw (.version c)
  | .keep | .collect | .raise =>
    if isGiven p a.id then
      throw (fault c (.repeated a.display) (some (Usage.titled c c.requiredIds [])) [])
    if a.kind == .path && values.any (·.isEmpty) then
      throw (.fault { problem := .noValue a.display, hint := c.hint })
    let values := if a.action == .raise then ["true"] else values
    pure { p with given := p.given ++ [⟨a.id, values, source⟩] }

/-- Settles the pending argument with the values gathered for it. -/
def settle (p : Progress) : Except Stop Progress :=
  match p.pending with
  | none => pure p
  | some pending =>
    match c.find? pending.id with
    | some a => apply c a pending.values .commandLine { p with pending := none }
    | none => pure { p with pending := none }

/-- What is left after settling the pending argument when its refusal is ignored: a repeated
argument loses its first occurrence, a refused value leaves the argument present. -/
def settleQuietly (p : Progress) : Progress :=
  match p.pending with
  | none => p
  | some pending =>
    let p := { p with pending := none }
    match c.find? pending.id with
    | none => p
    | some a =>
      if a.takesValue && pending.values.isEmpty then p
      else if a.action == .help || a.action == .version then p
      else if isGiven p a.id then { p with given := p.given.filter (·.id != a.id) }
      else
        match apply c a pending.values .commandLine p with
        | .ok p => p
        | .error _ => { p with given := p.given ++ [⟨a.id, [], .commandLine⟩] }

/-- Settles the pending argument, then records an argument. -/
def react (a : Arg) (values : List String) (p : Progress) : Except Stop Progress := do
  let p ← settle c p
  apply c a values .commandLine p

/-- Starts gathering the value of an option. -/
def await (a : Arg) (p : Progress) : Except Stop Progress := do
  let p ← settle c p
  pure { p with pending := some ⟨a.id, []⟩, awaiting := some a.id }

def asValueTip (word : String) : String := s!"to pass '{word}' as a value, use '-- {word}'"

/-- The refusal of `--name`, which names no argument, with `rest` the words after it: the
closest long name is offered, else a long name of a subcommand named later on the line. -/
def unknownLong (name : String) (rest : List String) (p : Progress) : Stop :=
  let offer := (similar name c.longs).getLast?
  let elsewhere : Option (String × String) :=
    if offer.isSome then none
    else
      let found := c.subcommands.filterMap fun sub =>
        match (similar name sub.longs).getLast?, rest.idxOf? sub.name with
        | some long, some place => some (place, long, sub.name)
        | _, _ => none
      (found.foldl (fun (best : Option (Nat × String × String)) x =>
        match best with
        | some b => if x.1 < b.1 then some x else some b
        | none => some x) none).map fun x => x.2
  let p := match offer.bind c.findLong with
    | some a => if isGiven p a.id then p else { p with given := p.given ++ [⟨a.id, [], .commandLine⟩] }
    | none => p
  let word := "--" ++ name
  let tips :=
    (if offer.isNone && elsewhere.isNone && !p.escaped && c.hasPositionals then
      [asValueTip word] else []) ++
    (match elsewhere with
      | some (long, sub) => [s!"'{sub} --{long}' exists"]
      | none => [])
  .fault { problem := .unexpectedArgument word, similarArgument := offer.map ("--" ++ ·),
           tips, usage := some (Usage.titled c c.requiredIds (givenIds p)), hint := c.hint }

/-- The refusal of a word that is no value any argument takes. -/
def unplaced (word : String) (p : Progress) : Stop :=
  let usage := some (Usage.titled c c.requiredIds [])
  if p.escaped && (c.subcommand? word).isSome then
    fault c (.unexpectedArgument word) usage
      [s!"subcommand '{word}' exists; to use it, remove the '--' before it"]
  else
    let flagLike := word.startsWith "-" && word != "-" && word != "--"
    let tip := !p.escaped && c.hasPositionals && flagLike
    let names := c.subcommands.map (·.name)
    let offers := similar word names
    if !c.subcommands.isEmpty && !offers.isEmpty then
      .fault { problem := .unrecognizedSubcommand word, similarCommands := offers,
               tips := if tip then [s!"to pass '{word}' as a value, use '{c.name} -- {word}'"] else [],
               usage, hint := c.hint }
    else if !c.subcommands.isEmpty && !c.hasPositionals then
      fault c (.unrecognizedSubcommand word) usage []
    else fault c (.unexpectedArgument word) usage (if tip then [asValueTip word] else [])

/-- Reads a cluster of short names, the characters after the `-`. -/
def shorts : List Char → Progress → Except Stop Progress
  | [], p => pure { p with awaiting := none }
  | ch :: more, p =>
    match c.findShort ch with
    | some a =>
      if a.takesValue then
        if more.isEmpty then await c a p
        else
          let value := match more with
            | '=' :: v => String.ofList v
            | v => String.ofList v
          do
            let p ← react c a [value] p
            pure { p with awaiting := none }
      else do
        let p ← react c a [] p
        shorts more p
    | none =>
      let p := settleQuietly c p
      let word := s!"-{ch}"
      throw (fault c (.unexpectedArgument word) (some (Usage.titled c c.requiredIds []))
        (if !p.escaped && c.hasPositionals then [asValueTip word] else []))

/-- Reads `--name` with its attached value, if any; `rest` are the words after it. -/
def long (name : String) (attached : Option String) (rest : List String) (p : Progress) :
    Except Stop Progress :=
  match c.findLong name with
  | some a =>
    if a.takesValue then
      match attached with
      | some v => do
        let p ← react c a [v] p
        pure { p with awaiting := none }
      | none => await c a p
    else
      match attached with
      | some v =>
        let used := givenIds p ++ [a.id]
        throw (fault c (.extraValue v a.display) (some (Usage.titled c c.requiredIds used)) [])
      | none => do
        let p ← react c a [] p
        pure { p with awaiting := none }
  | none => throw (unknownLong c name rest (settleQuietly c p))

/-- Reads a value: the awaited option's, or the next positional argument. -/
def value (word : String) (p : Progress) : Except Stop Progress :=
  match p.awaiting, p.pending with
  | some id, some pending =>
    pure { p with pending := some ⟨id, pending.values ++ [word]⟩, awaiting := none }
  | some id, none => pure { p with pending := some ⟨id, [word]⟩, awaiting := none }
  | none, _ =>
    match c.positional? p.position with
    | some a => do
      let p ← settle c p
      if a.action == .collect then
        pure { p with pending := some ⟨a.id, [word]⟩ }
      else pure { p with pending := some ⟨a.id, [word]⟩, position := p.position + 1 }
    | none => throw (unplaced c word (settleQuietly c p))

/-- How reading a command's words ends. -/
inductive Ending
  /-- All words were read. -/
  | done (p : Progress)
  /-- A subcommand was named; the words after it are its own. -/
  | descend (p : Progress) (sub : Command) (rest : List String)
  /-- `help` was named, followed by the names of the commands whose page is asked for. -/
  | helpFor (topics : List String)

/-- The name and attached value of a word `--name=value`. -/
def splitLong (body : String) : String × Option String :=
  match body.toList.span (· != '=') with
  | (name, []) => (String.ofList name, none)
  | (name, _ :: v) => (String.ofList name, some (String.ofList v))

/-- Reads the words of the command. -/
def words : List String → Progress → Except Stop Ending
  | [], p => pure (.done p)
  | word :: rest, p =>
    if p.escaped then do words rest (← value c word p)
    else
      match (if p.awaiting.isSome then none else c.subcommand? word) with
      | some sub =>
        if sub.name == "help" && c.helpCommand then pure (.helpFor rest)
        else pure (.descend p sub rest)
      | none =>
        if word == "--" then words rest { p with escaped := true, awaiting := none }
        else if word.startsWith "--" then do
          let (name, attached) := splitLong (String.ofList (word.toList.drop 2))
          words rest (← long c name attached rest p)
        else if word.startsWith "-" && word != "-" then do
          words rest (← shorts c (word.toList.drop 1) p)
        else do words rest (← value c word p)

/-- Reads the environment variables of the arguments not given. -/
def fromEnvironment (p : Progress) : Except Stop Progress :=
  c.args.foldlM (fun p a =>
    match a.env with
    | some (_, some v) => if isGiven p a.id then pure p else apply c a [v] .environment p
    | _ => pure p) p

/-- The arguments given that conflict with `id`, in the order they were given. -/
def conflictsOf (p : Progress) (id : String) : List String :=
  let own := (c.find? id).map (·.conflicts) |>.getD []
  (p.given.filter fun g => g.id != id &&
    (own.contains g.id || ((c.find? g.id).map (·.conflicts.contains id)).getD false)).map (·.id)

def forms (ids : List String) : List String :=
  Usage.dedup (ids.filterMap fun id => (c.find? id).map Arg.display)

/-- Checks that no two arguments given conflict. -/
def checkConflicts (p : Progress) : Except Stop Unit :=
  match p.given.find? (fun g => !(conflictsOf c p g.id).isEmpty) with
  | none => pure ()
  | some g =>
    let others := conflictsOf c p g.id
    let kept := (givenIds p).filter (!others.contains ·)
    let form := ((c.find? g.id).map Arg.display).getD g.id
    throw (fault c (.conflict form (forms c others)) (some (Usage.titled c kept kept)) [])

/-- The forms of missing arguments: options first, then positional ones by position. -/
def missingForms (ids : List String) : List String :=
  let args := ids.filterMap c.find?
  let options := Usage.dedup ((args.filter (!·.isPositional)).map (·.styled (some true)))
  let positionals := c.positionals.filter fun a => args.any (·.id == a.id)
  options ++ positionals.map (·.styled (some true))

/-- Checks that every required argument was given, unless one given conflicts with it. -/
def checkRequired (p : Progress) : Except Stop Unit :=
  let missing := (c.args.filter fun a =>
    a.required && !isGiven p a.id && (conflictsOf c p a.id).isEmpty).map (·.id)
  let highest := (missing.filterMap fun id => (c.find? id).bind (·.index)).foldl max 0
  let before := (c.positionals.filter fun a =>
    !isGiven p a.id && a.index.getD 0 < highest && !missing.contains a.id).map (·.id)
  let missing := missing ++ before
  if missing.isEmpty then pure ()
  else
    let requiredLeft := c.requiredIds.filter (!isGiven p ·)
    let shown := missingForms c (requiredLeft ++ missing)
    throw (fault c (.missingArguments shown)
      (some (Usage.titled c c.requiredIds (givenIds p ++ missing))) [])

/-- Checks a command's rules once its words are read; `below` tells whether a subcommand was
named. -/
def check (p : Progress) (below : Bool) : Except Stop Unit := do
  if !below && c.helpWhenEmpty && p.given.isEmpty then throw (.helpOnEmpty c)
  if !below && c.subcommandRequired then
    throw (fault c (.missingSubcommand c.name (c.subcommands.map (·.name)))
      (some (Usage.titled c c.requiredIds [])) [])
  checkConflicts c p
  checkRequired c p

/-- The help page asked for by `help` followed by command names, or the refusal of a name
that is no subcommand. -/
def helpPage : Command → List String → Stop
  | c, [] => .help c
  | c, name :: rest =>
    match c.subcommand? name with
    | some sub => helpPage sub rest
    | none => fault c (.unrecognizedSubcommand name) (some (Usage.titled c c.requiredIds [])) []

end Parse

/-- The arguments given to each command along a command line, from the first command down. -/
abbrev Invocation := List (String × List Given)

namespace Parse

/-- Reads a command line for a command, descending at most `depth` subcommands. -/
def command : Nat → Command → List String → Except Stop Invocation
  | depth, c, args => do
    let ending ← words c args {}
    let (p, below) ← match ending, depth with
      | .helpFor topics, _ => throw (helpPage c topics)
      | .done p, _ => pure (p, [])
      | .descend p sub rest, d + 1 => pure (p, ← command d sub rest)
      | .descend p _ _, 0 => pure (p, [])
    let p ← settle c p
    let p ← fromEnvironment c p
    check c p !below.isEmpty
    pure ((c.name, p.given) :: below)

end Parse

/-- The value an argument ends with: among the commands along the line, the one given from the
higher-ranked source, the later command when both rank equal. -/
def Invocation.value? (r : Invocation) (id : String) : Option String :=
  let found := r.filterMap fun (_, given) => given.find? (·.id == id)
  (found.foldl (fun (best : Option Given) g =>
    match best with
    | some b => if g.source.rank < b.source.rank then some b else some g
    | none => some g) none).bind (·.values.head?)

/-- Whether a flag was raised by any command along the line. -/
def Invocation.flag (r : Invocation) (id : String) : Bool :=
  r.any fun (_, given) => given.any (·.id == id)

def Invocation.subcommand? (r : Invocation) : Option String := (r.drop 1).head?.map (·.1)

end AssetStore.CommandLine
