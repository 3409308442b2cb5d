import AssetStore.Prelude
/-!
# Path texts

Paths are texts of components separated by `/`. A leading `/` makes a path absolute. Empty
components and `.` components after the first are not components at all, so `a//b/./c/` has
the components `a`, `b`, `c`.

* `fileName?` — the last component, unless the path ends in `..` or has no named component.
* `extension?` — the part of the file name after its last `.`, when a non-empty part stands
  before that dot.
* `join base p` — `p` when it is absolute, otherwise `base` and `p` with one `/` between them
  (none when `base` is empty or already ends with `/`).
-/

namespace AssetStore.Disk.Path

def isAbsolute (p : String) : Bool :=
  p.startsWith "/"

/-- The pieces of a text between occurrences of a character, empty ones included. -/
def splitAt (c : Char) (text : String) : List String :=
  (text.toList.splitOn c).map String.ofList

/-- The parts of a path between slashes, empty ones included. -/
def parts (p : String) : List String :=
  splitAt '/' p

/-- The components that name something: all parts but empty ones and `.`, except that a
leading `.` stands for the current directory. -/
def components (p : String) : List String :=
  match parts p with
  | [] => []
  | first :: rest =>
    let named := rest.filter fun part => part != "" && part != "."
    if first == "." then "." :: named
    else if first == "" then named
    else first :: named

/-- The last component when it names a file or directory: not `.`, not `..`, not the root. -/
def fileName? (p : String) : Option String :=
  match (components p).getLast? with
  | some last => if last == "." || last == ".." then none else some last
  | none => none

/-- The extension of a file name: what follows its last dot, when something precedes it. -/
def extensionOfName? (name : String) : Option String :=
  if name == ".." then none
  else
    match (splitAt '.' name).reverse with
    | after :: before :: earlier =>
      let stem := String.intercalate "." (before :: earlier).reverse
      if stem.isEmpty then none else some after
    | _ => none

def extension? (p : String) : Option String :=
  (fileName? p).bind extensionOfName?

/-- `p` after `base`: `p` itself when absolute, otherwise joined with one separator. -/
def join (base p : String) : String :=
  if isAbsolute p then p
  else if base.isEmpty || base.endsWith "/" then base ++ p
  else base ++ "/" ++ p

end AssetStore.Disk.Path
