import AssetStore.Disk.Access
import AssetStore.Disk.Path
/-!
# A file tree

A pure model of the part of a file system that the store sees: files with their bytes and
directories, each at a list of names below the working directory. Path texts are resolved
component by component, each from a directory: empty and `.` components stay where they are,
`..` goes up one directory, and a name goes down to it. So a slash after a file's name refuses
the path: a file met where a directory is needed is "not a directory", and a missing one "not
found".

The directories that hold the working directory, up to the root, lie above the tree: an
absolute path starts there, and `..` from the working directory leads there. They are
directories whose contents the tree does not hold, so a name inside them is not found, and a
file written there is not kept.

Directory listings come in ascending order of name.
-/

namespace AssetStore.Disk

/-- A file with its bytes, or a directory. -/
inductive Node
  | file (bytes : List UInt8)
  | directory
  deriving DecidableEq, Repr

/-- A file tree: the nodes below the working directory, by their names. -/
structure Tree where
  nodes : List (List String × Node)
  deriving DecidableEq, Repr

namespace Tree

def empty : Tree := ⟨[]⟩

/-- The node at a location below the working directory; the working directory itself is a
directory. -/
def nodeAt? (t : Tree) (location : List String) : Option Node :=
  if location.isEmpty then some .directory
  else (t.nodes.find? (·.1 == location)).map (·.2)

end Tree

/-- Where a path leads. -/
inductive Place
  /-- A location below the working directory, by its names; `[]` is the working directory. -/
  | inside (location : List String)
  /-- A directory that holds the working directory: one of those above it, or the root. -/
  | above
  /-- A name inside a directory above the working directory. -/
  | outside
  deriving DecidableEq, Repr

namespace Place

/-- The directory one level up. -/
def up : Place → Place
  | .inside [] => .above
  | .inside location => .inside location.dropLast
  | .above => .above
  | .outside => .outside

/-- The entry `name` inside a place. -/
def down (name : String) : Place → Place
  | .inside location => .inside (location ++ [name])
  | .above => .outside
  | .outside => .outside

end Place

namespace Tree

/-- The node at a place: the directories above the working directory are directories, and
nothing inside them is known. -/
def nodeAtPlace? (t : Tree) : Place → Option Node
  | .inside location => t.nodeAt? location
  | .above => some .directory
  | .outside => none

/-- One component of a path walked from a place. Every component, an empty one or `.`
included, needs the place to be a directory. -/
def step (t : Tree) (place : Place) (part : String) : Except IoError Place :=
  match t.nodeAtPlace? place with
  | some .directory =>
    if part == "" || part == "." then .ok place
    else if part == ".." then .ok place.up
    else .ok (place.down part)
  | some (.file _) => .error .notDirectory
  | none => .error .notFound

/-- The place a path starts from: the root for an absolute path, else the working directory. -/
def origin (path : String) : Place :=
  if Path.isAbsolute path then .above else .inside []

/-- Resolves a path text to a place, walking its components. -/
def resolve (t : Tree) (path : String) : Except IoError Place :=
  (Path.parts path).foldlM t.step (origin path)

def lookup (t : Tree) (path : String) : Except IoError Node := do
  let place ← t.resolve path
  match t.nodeAtPlace? place with
  | some node => .ok node
  | none => .error .notFound

/-- What a path names, if anything. -/
def kindOf (t : Tree) (path : String) : Option EntryKind :=
  match t.lookup path with
  | .ok (.file _) => some .file
  | .ok .directory => some .directory
  | .error _ => none

/-- The bytes of the file a path names. -/
def readFile (t : Tree) (path : String) : Except IoError (List UInt8) :=
  match t.lookup path with
  | .ok (.file bytes) => .ok bytes
  | .ok .directory => .error .isDirectory
  | .error e => .error e

/-- The contents of the file a path names, if it names a file. -/
def contents? (t : Tree) (path : String) : Option (List UInt8) := (t.readFile path).toOption

/-- The names directly inside the directory a path names, in ascending order. -/
def listDir (t : Tree) (path : String) : Except IoError (List String) := do
  match ← t.resolve path with
  | .above => .ok []
  | .outside => .error .notFound
  | .inside location =>
    match t.nodeAt? location with
    | some .directory =>
      let names := t.nodes.filterMap fun (loc, _) =>
        if loc.dropLast == location && loc.length == location.length + 1 then loc.getLast? else none
      .ok (names.mergeSort fun a b => decide (a ≤ b))
    | some (.file _) => .error .notDirectory
    | none => .error .notFound

/-- The tree with a node set at a location, replacing what was there. -/
def setNode (t : Tree) (location : List String) (node : Node) : Tree :=
  ⟨(t.nodes.filter (·.1 != location)) ++ [(location, node)]⟩

/-- Creates or replaces a file; its directory must exist. The last name of the path is the
file's: a directory there, `.` or `..`, or a slash after a name that is no directory, refuses
the write. -/
def writeFile (t : Tree) (path : String) (bytes : List UInt8) : Except IoError Tree := do
  let parts := Path.parts path
  let named := (parts.reverse.dropWhile (· == "")).reverse
  let slashed := named.length < parts.length
  match named.getLast? with
  | none => if Path.isAbsolute path then throw .isDirectory else throw .notFound
  | some last =>
    let place ← named.dropLast.foldlM t.step (origin path)
    match t.nodeAtPlace? place with
    | some .directory => pure ()
    | some (.file _) => throw .notDirectory
    | none => throw .notFound
    if last == "." || last == ".." then throw .isDirectory
    match place with
    | .inside location =>
      let target := location ++ [last]
      match t.nodeAt? target with
      | some .directory => throw .isDirectory
      | some (.file _) =>
        if slashed then throw .notDirectory else pure (t.setNode target (.file bytes))
      | none => if slashed then throw .isDirectory else pure (t.setNode target (.file bytes))
    | _ => if slashed then throw .isDirectory else pure t

/-- Creates a directory and any missing directories above it; files in the way are kept. -/
def createDirAll (t : Tree) (path : String) : Tree :=
  let names := (Path.parts path).filter fun part => part != "" && part != "."
  (names.foldl (fun (acc : Tree × List String) name =>
    let (tree, location) := acc
    let next := location ++ [name]
    match tree.nodeAt? next with
    | some _ => (tree, next)
    | none => (tree.setNode next .directory, next)) (t, [])).1

/-- Writes a file, creating the directories above it first. -/
def putFile (t : Tree) (path : String) (bytes : List UInt8) : Tree :=
  let names := (Path.parts path).filter fun part => part != "" && part != "."
  let parent := String.intercalate "/" names.dropLast
  let t := if parent.isEmpty then t else t.createDirAll parent
  match t.writeFile path bytes with
  | .ok t' => t'
  | .error _ => t

def removeFile (t : Tree) (path : String) : Except IoError Tree := do
  match ← t.resolve path with
  | .above => .error .isDirectory
  | .outside => .error .notFound
  | .inside location =>
    match t.nodeAt? location with
    | some (.file _) => .ok ⟨t.nodes.filter (·.1 != location)⟩
    | some .directory => .error .isDirectory
    | none => .error .notFound

/-- Removes the directory a path names with everything inside it. -/
def removeDirAll (t : Tree) (path : String) : Except IoError Tree := do
  match ← t.resolve path with
  | .above => .ok t
  | .outside => .error .notFound
  | .inside location =>
    match t.nodeAt? location with
    | some .directory => .ok ⟨t.nodes.filter fun (loc, _) => !(location.isPrefixOf loc)⟩
    | some (.file _) => .error .notDirectory
    | none => .error .notFound

end Tree

/-- The pure file tree as a file system: reads see the current tree, writes change it. -/
instance : DiskAccess (StateM Tree) where
  readFile path := do return (← get).readFile path
  kindOf path := do return (← get).kindOf path
  listDir path := do return (← get).listDir path
  writeFile path bytes := do
    match (← get).writeFile path bytes with
    | .ok t => set t; return .ok ()
    | .error e => return .error e

end AssetStore.Disk
