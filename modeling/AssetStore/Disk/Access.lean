import AssetStore.Error
/-!
# What the store needs of a file system

The store reads files, asks whether a path is a file or a directory, lists directories and, on
the command line, writes one file. `DiskAccess m` provides these in a monad `m`: a pure model of
a file tree (`Disk.Tree`) for reasoning and testing, or the real file system for the program.
Failures are `IoError`s.
-/

namespace AssetStore

/-- What a path names. -/
inductive EntryKind
  | file
  | directory
  deriving DecidableEq, Repr

/-- File-system operations in a monad. -/
class DiskAccess (m : Type → Type) where
  /-- The bytes of a file. -/
  readFile : String → m (Except IoError (List UInt8))
  /-- What a path names, if anything. -/
  kindOf : String → m (Option EntryKind)
  /-- The names in a directory, in a fixed order. -/
  listDir : String → m (Except IoError (List String))
  /-- Creates or replaces a file. -/
  writeFile : String → List UInt8 → m (Except IoError Unit)

/-- Disk access carries through added state: the file system is the one underneath. -/
instance {m : Type → Type} {σ : Type} [Monad m] [DiskAccess m] : DiskAccess (StateT σ m) where
  readFile path := StateT.lift (DiskAccess.readFile path : m _)
  kindOf path := StateT.lift (DiskAccess.kindOf path : m _)
  listDir path := StateT.lift (DiskAccess.listDir path : m _)
  writeFile path bytes := StateT.lift (DiskAccess.writeFile path bytes : m _)

end AssetStore
