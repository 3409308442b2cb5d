import AssetStore.Text.Hex
/-!
# Errors of the store

Every failure of the store is one `Error`, a cause with its data; its text is given by
`Error.message` alone. A refusal of a file's bytes is reported with the file's path before its
detail (`Error.atPath`). Input and output failures carry an `IoError`, the failure of the file
system or of a byte stream, whose text is `IoError.message`.

The tables that can be refused are named by `Table`, and the three stages of a lookup by
`Stage`; both are written with their lower-case names.
-/

namespace AssetStore

/-- The formats whose bytes can be refused. -/
inductive Table
  | encoding
  | root
  | index
  | blockHeader
  deriving DecidableEq, Repr

def Table.name : Table → String
  | .encoding => "encoding"
  | .root => "root"
  | .index => "index"
  | .blockHeader => "block header"

/-- The stages of a lookup: filename hash to checksums, checksum to file key, key to place. -/
inductive Stage
  | root
  | encoding
  | index
  deriving DecidableEq, Repr

def Stage.name : Stage → String
  | .root => "root"
  | .encoding => "encoding"
  | .index => "index"

/-- Failures of the file system and of byte streams. -/
inductive IoError
  /-- A path names nothing. -/
  | notFound
  /-- A file was expected and a directory found. -/
  | isDirectory
  /-- A directory was expected and a file found. -/
  | notDirectory
  /-- A read needed more bytes than remained. -/
  | endOfInput
  /-- A file's bytes are not UTF-8 text. -/
  | notText
  /-- A skip of `count` bytes would pass the end of a stream. -/
  | skipPastEnd (count : Nat)
  /-- A seek aimed at `target`, outside a stream of `length` bytes. -/
  | seekOutside (target : Int) (length : Nat)
  /-- A read of the bytes from `start` to `stop` of a file of `length` bytes. -/
  | rangePastEnd (start stop length : Nat)
  /-- A shard's path names no file. -/
  | shardMissing
  /-- A failure described by its own text. -/
  | other (text : String)
  deriving DecidableEq, Repr

/-- The text of an input or output failure. -/
def IoError.message : IoError → String
  | .notFound => "No such file or directory (os error 2)"
  | .isDirectory => "Is a directory (os error 21)"
  | .notDirectory => "Not a directory (os error 20)"
  | .endOfInput => "failed to fill whole buffer"
  | .notText => "stream did not contain valid UTF-8"
  | .skipPastEnd count => s!"cannot skip {count} bytes past end of stream"
  | .seekOutside target length => s!"seek to {target} outside segmented stream of {length} bytes"
  | .rangePastEnd start stop length => s!"range {start}..{stop} past end of file ({length} bytes)"
  | .shardMissing => "shard file missing"
  | .other text => text

/-- The failures of the store. -/
inductive Error
  /-- A table's bytes are inconsistent; `detail` says how. -/
  | malformed (table : Table) (detail : String)
  /-- A table's bytes end inside a fixed-size header or record; `context` is the text written
  before the reader's own description of the short read. -/
  | truncated (table : Table) (context : String)
  /-- A lookup found nothing at `stage` for `key`. -/
  | entryNotFound (stage : Stage) (key : String)
  /-- Reading shard `shard` at byte `offset` failed. -/
  | ioFailure (shard : Nat) (path : String) (offset : Nat) (cause : IoError)
  /-- An argument is out of its domain. -/
  | invalidArgument (text : String)
  /-- The file system or a stream failed. -/
  | io (cause : IoError)
  /-- The configuration is incomplete or unreadable. -/
  | config (text : String)
  /-- The payload decoder refused a payload. -/
  | decode (text : String)
  deriving DecidableEq, Repr

def Error.message : Error → String
  | .malformed table detail => s!"Malformed {table.name}: {detail}"
  | .truncated table context =>
    s!"Malformed {table.name}: {context}input ends inside a fixed-size field"
  | .entryNotFound stage key => s!"Entry not found at {stage.name}: {key}"
  | .ioFailure shard path offset cause =>
    s!"I/O failure in shard {shard} ({path}) at offset 0x{Text.Hex.natural offset}: {cause.message}"
  | .invalidArgument text => s!"Invalid argument: {text}"
  | .io cause => s!"I/O error: {cause.message}"
  | .config text => s!"Configuration error: {text}"
  | .decode text => s!"Decode error: {text}"

/-- The error as reported for the file at `path`: a refusal of the file's bytes names the file
before its detail, and every other error is kept. -/
def Error.atPath (path : String) : Error → Error
  | .malformed table detail => .malformed table s!"{path}: {detail}"
  | .truncated table context => .truncated table s!"{path}: {context}"
  | e => e

/-- The text of the failure underneath an error, when it has one. -/
def Error.cause? : Error → Option String
  | .ioFailure _ _ _ cause => some cause.message
  | .io cause => some cause.message
  | _ => none

end AssetStore
