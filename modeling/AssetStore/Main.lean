import AssetStore.Tool.Run
/-!
# The resolving tool as a program

The outer layer of the tool: it reads the tool's environment variables and the arguments, runs
`Tool.main` over the machine's files, prints the report's two texts and exits with its status.

Files are read, written and told apart through the runtime's file handles: a path that opens and
reads is a file, one that opens and cannot be read is a directory. The runtime offers no way to
list a directory through them, so a listing fails with an input or output error.
-/

namespace AssetStore

/-- The error of the runtime as an input or output failure. -/
def ioFailureOf (e : IO.Error) : IoError :=
  match e with
  | .noFileOrDirectory .. => .notFound
  | _ => .other (toString e)

/-- What an opened path is: a file when a byte can be read from it, else a directory. -/
def kindOfHandle (handle : IO.FS.Handle) : IO EntryKind := do
  try
    let _ ← handle.read 1
    return .file
  catch _ =>
    return .directory

/-- The machine's files. -/
instance : DiskAccess IO where
  readFile path := do
    try
      return .ok (← IO.FS.readBinFile path).toList
    catch e =>
      return .error (ioFailureOf e)
  kindOf path := do
    try
      return some (← kindOfHandle (← IO.FS.Handle.mk path .read))
    catch _ =>
      return none
  listDir _ := return .error (.other "directory listing is not available")
  writeFile path bytes := do
    try
      IO.FS.writeBinFile path (ByteArray.mk bytes.toArray)
      return .ok ()
    catch e =>
      return .error (ioFailureOf e)

/-- The environment variables the tool reads. -/
def Tool.variables : List String :=
  (Tool.grammar fun _ => none).args.filterMap fun a => a.env.map (·.1)

end AssetStore

open AssetStore in
/-- Runs the tool on the process's arguments and environment. -/
def main (args : List String) : IO UInt32 := do
  let values ← Tool.variables.mapM fun name => do return (name, ← IO.getEnv name)
  let env := fun name => (values.lookup name).join
  let report ← (Tool.main env args : IO Tool.Report)
  IO.print report.stdout
  IO.eprint report.stderr
  return report.status.toUInt32
