import AssetStore.Storage
import AssetStore.Tool.Interface
/-!
# Running the resolving tool

A run reads the command line, then carries out the request. The settings start from the
configuration file when one is named (else from the defaults), the install path and the two keys
given replace the file's, `--no-mmap` turns memory maps off, and both keys are checked before
the installation is opened.

The outcome is a report: the exit status, what was written to standard output and what to
standard error. A help page or the version is written out with status 0; a refused command line
is written to standard error with status 2; a command that fails writes `Error: ` and its
message, then its causes, with status 1.

* `Tool.hashText`, `parseHash` — the two commands' own texts.
* `Tool.perform` — carries out a request.
* `Tool.main` — a whole run, from the environment and the arguments.
-/

namespace AssetStore.Tool

/-- Why a command failed: a message and the failures beneath it, outermost first. -/
structure Failure where
  message : String
  causes : List String
  deriving DecidableEq, Repr

def Failure.ofError (e : Error) : Failure := ⟨e.message, e.cause?.toList⟩

/-- The text of a failure, ending in a newline. A single cause is indented by four blanks;
several are numbered. -/
def Failure.text (f : Failure) : String :=
  let indent (s : String) (lead : String) := s.replace "\n" ("\n" ++ lead)
  let causes := match f.causes with
    | [] => ""
    | [cause] => "\n\nCaused by:\n    " ++ indent cause "    "
    | causes => "\n\nCaused by:" ++ String.join (causes.zipIdx.map fun (cause, i) =>
        let number := toString i
        let pad := String.ofList (List.replicate (5 - number.length) ' ')
        let shown := indent cause "       "
        s!"\n{pad}{number}: {shown}")
  "Error: " ++ f.message ++ causes ++ "\n"

/-- What a run writes, and how it ends. -/
structure Report where
  status : Nat
  stdout : String
  stderr : String
  deriving DecidableEq, Repr

/-- The report of a command line that stops before any command runs. -/
def Report.ofStop : CommandLine.Stop → Report
  | .help c => ⟨0, CommandLine.Usage.page c, ""⟩
  | .version c => ⟨0, c.versionText, ""⟩
  | .helpOnEmpty c => ⟨2, "", CommandLine.Usage.page c⟩
  | .fault f => ⟨2, "", f.text⟩

/-- The output of `hash`: the normalised path and the filename hash in sixteen hex digits. -/
def hashText (path : String) : String :=
  AssetPath.normalize path ++ "\n" ++ Text.Hex.padded 16 (AssetPath.filenameHash path).toNat ++ "\n"

/-- The text without every leading `0x`. -/
def dropHexMarks : List Char → List Char
  | '0' :: 'x' :: rest => dropHexMarks rest
  | cs => cs

/-- The value of hex digits, refused at the first character that is no digit or that makes the
value pass 64 bits. -/
def hexValue (acc : Nat) : List Char → Except String UInt64
  | [] => .ok acc.toUInt64
  | c :: rest =>
    let digit :=
      if '0' ≤ c && c ≤ '9' then some (c.toNat - '0'.toNat)
      else if 'a' ≤ c && c ≤ 'f' then some (c.toNat - 'a'.toNat + 10)
      else if 'A' ≤ c && c ≤ 'F' then some (c.toNat - 'A'.toNat + 10)
      else none
    match digit with
    | none => .error "invalid digit found in string"
    | some d =>
      if 2 ^ 64 ≤ acc * 16 + d then .error "number too large to fit in target type"
      else hexValue (acc * 16 + d) rest

/-- A filename hash from hex text: every leading `0x` is dropped, one leading `+` is allowed,
and the digits must fit in 64 bits. -/
def parseHash (text : String) : Except String UInt64 :=
  match dropHexMarks text.toList with
  | [] => .error "cannot parse integer from empty string"
  | ['+'] | ['-'] => .error "invalid digit found in string"
  | '+' :: digits => hexValue 0 digits
  | digits => hexValue 0 digits

/-- The statistics as a JSON object, one member per line. -/
def statsJson (s : StorageStats) : String :=
  let number : Option Nat → String
    | some n => toString n
    | none => "null"
  let members := [("index_entries", number s.indexEntries), ("index_files", number s.indexFiles),
    ("encoding_entries", number s.encodingEntries), ("root_entries", number s.rootEntries),
    ("root_hashes", number s.rootHashes), ("open_shards", toString s.openShards)]
  "\x7b\n" ++ ",\n".intercalate (members.map fun (k, v) => s!"  \"{k}\": {v}") ++ "\n\x7d\n"

variable {m : Type → Type} [Monad m] [DiskAccess m]

/-- A step of a command: a value, or the command's failure. -/
abbrev Attempt (m : Type → Type) := ExceptT Failure m

/-- The value of an outcome of the store, or its failure. -/
def ofStore {α : Type} (x : m (Except Error α)) : Attempt m α := do
  match ← (x : m _) with
  | .ok a => pure a
  | .error e => throw (Failure.ofError e)

/-- The configuration the settings give, checked. -/
def configure (s : Settings) : Attempt m StorageConfig := do
  let base ← match s.config with
    | none => pure StorageConfig.default
    | some path => ofStore (StorageConfig.load path)
  let c := match s.install with
    | some path => { base with installPath := path }
    | none => base
  let c := match s.encodingKey with
    | some key => { c with encodingKey := key }
    | none => c
  let c := match s.rootChecksum with
    | some key => { c with rootChecksum := key }
    | none => c
  let c := if s.noMmap then { c with enableMmap := false } else c
  match c.validate with
  | .ok () => pure c
  | .error e => throw (Failure.ofError e)

/-- The installation the settings name, opened with payloads read as stored. -/
def openStorage (s : Settings) : Attempt m (Storage m) := do
  ofStore (Storage.ofConfig (← configure s) PayloadDecoder.raw)

/-- Runs an operation on opened storage. -/
def within {α : Type} (storage : Storage m) (op : StorageOp m α) : Attempt m α := do
  let (result, _) ← ((ExceptT.run op).run storage : m _)
  match result with
  | .ok a => pure a
  | .error e => throw (Failure.ofError e)

/-- The line of a root record: its checksum, flags and first file key (`-` without one). -/
def checksumLine (encoding : EncodingTable) (e : RootEntry) : String :=
  let fileKey := ((encoding.fileKey? e.checksum).map Key.hex).getD "-"
  s!"{e.checksum.hex}  {e.flagsText}  {fileKey}\n"

/-- Carries out a request; the value is what goes to standard output. -/
def perform (s : Settings) : Request → Attempt m String
  | .hash path => pure (hashText path)
  | .resolve path out => do
    let storage ← openStorage s
    match ← within storage (Storage.resolve path) with
    | none => throw ⟨s!"{path} not found", []⟩
    | some block =>
      match out with
      | none => pure s!"{path}: {block.length} bytes\n"
      | some file =>
        match ← (DiskAccess.writeFile file block.toBytes : m _) with
        | .ok () => pure ""
        | .error e => throw ⟨s!"writing {file}", [e.message]⟩
  | .checksums path hash => do
    let nameHash ← match path, hash with
      | some p, _ => pure (AssetPath.filenameHash p)
      | none, some text =>
        match parseHash text with
        | .ok h => pure h
        | .error why => throw ⟨s!"invalid filename hash {text}", [why]⟩
      | none, none => throw ⟨"either a path or --hash is required", []⟩
    let storage ← openStorage s
    let (root, encoding) ← within storage do
      let root ← Storage.root
      let encoding ← Storage.encoding
      pure (root, encoding)
    pure (String.join ((root.entriesFor nameHash).map (checksumLine encoding)))
  | .stats => do
    let storage ← openStorage s
    let stats ← within storage do
      Storage.initialise
      return (← get).stats
    pure (statsJson stats)

/-- A whole run: the command line read against the tool's grammar, then the request carried
out. -/
def main (env : String → Option String) (args : List String) : m Report := do
  match CommandLine.Parse.command 1 (grammar env) args with
  | .error stop => pure (Report.ofStop stop)
  | .ok invocation =>
    match Request.ofInvocation invocation with
    | none => pure ⟨2, "", ""⟩
    | some request =>
      match ← (perform (Settings.ofInvocation invocation) request).run with
      | .ok out => pure ⟨0, out, ""⟩
      | .error f => pure ⟨1, "", f.text⟩

end AssetStore.Tool
