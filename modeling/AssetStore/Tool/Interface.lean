import AssetStore.CommandLine.Parse
/-!
# The resolving tool's command line

The tool opens an installation and resolves asset paths through it. Four options, each also
read from an environment variable, say which installation and tables to use, and a flag turns
memory maps off; all five are accepted before or after the command (`help` takes only command
names). The commands:

* `resolve PATH [-o FILE]` — the payload of a path: its size, or the payload written to `FILE`;
* `hash PATH` — the normalised path and its filename hash;
* `checksums [PATH] [--hash HEX]` — the root records of a path or of a filename hash;
* `stats` — the sizes of all tables once loaded.

`Tool.grammar` is the command line as a grammar, given the environment; `Settings.ofInvocation`
and `Request.ofInvocation` are what an invocation of it asks for.
-/

namespace AssetStore.Tool

open CommandLine

/-- The tool's name, as usage lines and the version show it. -/
def name : String := "cascette-resolve"

def version : String := "0.2.0"

/-- An option with a value, accepted by every command, read from the variable `envName` when not given. -/
def globalOption (env : String → Option String) (id long valueName help envName : String)
    (kind : ValueKind) (order : Nat) : Arg :=
  { id, long := some long, valueName, help, action := .keep, kind,
    env := some (envName, env envName), global := true, order }

/-- The options and the flag accepted by every command. -/
def globals (env : String → Option String) : List Arg :=
  [ globalOption env "config" "config" "CONFIG" "JSON configuration file"
      "CASCETTE_RESOLVE_CONFIG" .path 0,
    globalOption env "install" "install" "INSTALL" "Installation root (overrides the config file)"
      "CASCETTE_WOW_PATH" .path 1,
    globalOption env "encoding_key" "encoding-key" "ENCODING_KEY"
      "Encoding table file key, hex (overrides the config file)" "CASCETTE_ENCODING_KEY" .text 2,
    globalOption env "root_checksum" "root-checksum" "ROOT_CHECKSUM"
      "Root table content checksum, hex (overrides the config file)" "CASCETTE_ROOT_CHECKSUM" .text 3,
    { id := "no_mmap", long := some "no-mmap",
      help := "Read shards through file handles instead of memory maps", action := .raise,
      global := true, order := 4 } ]

def helpFlag : Arg :=
  { id := "help", long := some "help", short := some 'h', help := "Print help", action := .help }

def versionFlag : Arg :=
  { id := "version", long := some "version", short := some 'V', help := "Print version",
    action := .version }

/-- The asset path, the first positional argument. -/
def pathArg (required : Bool) : Arg :=
  { id := "path", index := some 1, valueName := "PATH", help := "Logical asset path",
    action := .keep, required }

/-- The tool's commands. -/
def commands (env : String → Option String) : List Command :=
  let common := globals env ++ [helpFlag]
  [ { name := "resolve", usageName := name ++ " resolve", order := 5,
      about := "Resolve a path and write its framed payload",
      args := [pathArg true,
        { id := "out", long := some "out", short := some 'o', valueName := "OUT",
          help := "Output file; prints the payload size when omitted", action := .keep,
          kind := .path, order := 0 }] ++ common },
    { name := "hash", usageName := name ++ " hash", order := 6,
      about := "Print the normalized path and filename hash",
      args := [pathArg true] ++ common },
    { name := "checksums", usageName := name ++ " checksums", order := 7,
      about := "List root entries for a path or filename hash",
      args := [pathArg false,
        { id := "hash", long := some "hash", valueName := "HASH", help := "Filename hash, hex",
          action := .keep, conflicts := ["path"], order := 0 }] ++ common },
    { name := "stats", usageName := name ++ " stats", order := 8,
      about := "Load every table and print their sizes", args := common },
    { name := "help", usageName := name ++ " help",
      about := "Print this message or the help of the given subcommand(s)",
      args :=
        [{ id := "subcommand", index := some 1, valueName := "COMMAND",
           help := "Print help for the subcommand(s)", action := .collect }],
      helpFlag := false } ]

/-- The tool's command line, with the environment's values for its variables. -/
def grammar (env : String → Option String) : Command :=
  { name, usageName := name, about := "Resolve asset paths in a local CASC installation",
    version := some version, args := globals env ++ [helpFlag, versionFlag],
    subcommands := commands env, subcommandRequired := true, helpWhenEmpty := true,
    helpCommand := true }

/-- How to open the installation. -/
structure Settings where
  config : Option String
  install : Option String
  encodingKey : Option String
  rootChecksum : Option String
  noMmap : Bool
  deriving DecidableEq, Repr

/-- The settings an invocation gives. -/
def Settings.ofInvocation (r : Invocation) : Settings :=
  { config := r.value? "config", install := r.value? "install",
    encodingKey := r.value? "encoding_key", rootChecksum := r.value? "root_checksum",
    noMmap := r.flag "no_mmap" }

/-- What the tool is asked to do. -/
inductive Request
  | resolve (path : String) (out : Option String)
  | hash (path : String)
  | checksums (path : Option String) (hash : Option String)
  | stats
  deriving DecidableEq, Repr

/-- The request an invocation makes, if it names a command. -/
def Request.ofInvocation (r : Invocation) : Option Request :=
  let arg (id : String) : Option String := r.value? id
  match r.subcommand? with
  | some "resolve" => (arg "path").map fun path => .resolve path (arg "out")
  | some "hash" => (arg "path").map .hash
  | some "checksums" => some (.checksums (arg "path") (arg "hash"))
  | some "stats" => some .stats
  | _ => none

end AssetStore.Tool
