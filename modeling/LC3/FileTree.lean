import LC3.ByteSource

/-!
# Files and directories

A tree of files and directories as a program finds it, without links. A name is a path: parts
between slashes, looked up one after the other from the current directory, or from the root if
the name begins with a slash.

- `FileTree.open?`: what a name leads to.
- `Node.source`: the bytes of a file; a directory opens but cannot be read.
- `FileTree.create`: a file with new contents.
- `FileTree.readText`: a file as text.
-/

namespace LC3

/-- What a path leads to. -/
inductive Node where
  /-- A directory. -/
  | directory
  /-- A file and its bytes. -/
  | file (bytes : List UInt8)
  deriving DecidableEq, Repr

/-- The bytes that come from an opened node. -/
def Node.source : Node → ByteSource
  | .file bytes => .ofBytes bytes
  | .directory => .unreadable .isDirectory

/-- Files and directories. Paths in the tree are lists of parts from the root on. -/
structure FileTree where
  /-- The current directory. -/
  current : List String
  /-- What there is, apart from the root. Of several nodes of one path the first counts. -/
  nodes : List (List String × Node)

namespace FileTree

/-- A path and all paths above it, from the root on. -/
def ancestry (path : List String) : List (List String) :=
  (List.range (path.length + 1)).map path.take

/-- A tree with nothing in it but the current directory and those above. -/
def ofCurrent (current : List String) : FileTree :=
  ⟨current, (ancestry current).map fun path => (path, .directory)⟩

/-- What is at a path. -/
def at? (t : FileTree) (path : List String) : Option Node :=
  if path = [] then some .directory else t.nodes.lookup path

/-- The tree with a node at a path. -/
def put (t : FileTree) (path : List String) (node : Node) : FileTree :=
  { t with nodes := (path, node) :: t.nodes.filter (·.1 != path) }

/-- The parts of a name. -/
def parts (name : String) : List String :=
  (name.splitToList (· == '/')).filter (· != "")

/-- The name of something in a directory. -/
def join (directory name : String) : String :=
  if directory = "" ∨ directory.endsWith "/" then directory ++ name else directory ++ "/" ++ name

/-- Where the lookup of a name begins. -/
def origin (t : FileTree) (name : String) : List String :=
  if name.startsWith "/" then [] else t.current

/-- Follow one part from a directory. The part may name nothing that exists yet. -/
def follow (path : List String) (part : String) : List String :=
  if part = "." then path else if part = ".." then path.dropLast else path ++ [part]

/-- The most bytes that a part of a name can have. -/
def partLimit : Nat := 255

/-- The most bytes that a name can have. -/
def nameLimit : Nat := 4095

/-- What looking up a path finds, when the directory that holds it has been found already. -/
def lookUp (t : FileTree) (path : List String) : Except IoError Node :=
  if path.getLast?.any (partLimit < ·.utf8ByteSize) then .error .nameTooLong
  else
    match t.at? path with
    | none => .error .notFound
    | some node => .ok node

/-- Follow parts through directories that exist. -/
def walk (t : FileTree) (path : List String) : List String → Except IoError (List String)
  | [] => .ok path
  | part :: rest =>
    match t.lookUp path with
    | .error cause => .error cause
    | .ok (.file _) => .error .notDirectory
    | .ok .directory => t.walk (follow path part) rest

/-- Why a name cannot lead anywhere in any tree. -/
def nameFault? (name : String) : Option IoError :=
  if '\x00' ∈ name.toList then some .zeroInName
  else if name = "" then some .notFound
  else if nameLimit < name.utf8ByteSize then some .nameTooLong
  else none

/-- The path that a name stands for. Everything on the way is a directory; the last part need
not exist. A name without any part but with a slash is the root. -/
def resolve (t : FileTree) (name : String) : Except IoError (List String) :=
  match nameFault? name with
  | some cause => .error cause
  | none => t.walk (t.origin name) (parts name)

/-- Whether a name can only be that of a directory. -/
def namesDirectory (name : String) : Bool := name.endsWith "/"

/-- What a name leads to. -/
def open? (t : FileTree) (name : String) : Except IoError Node :=
  match t.resolve name with
  | .error cause => .error cause
  | .ok path =>
    match t.lookUp path with
    | .ok (.file bytes) => if namesDirectory name then .error .notDirectory else .ok (.file bytes)
    | found => found

/-- Whether a name leads anywhere. -/
def contains (t : FileTree) (name : String) : Bool := (t.open? name).isOk

/-- All bytes of a file. -/
def readBytes (t : FileTree) (name : String) : Except IoError (List UInt8) :=
  match t.open? name with
  | .error cause => .error cause
  | .ok .directory => .error .isDirectory
  | .ok (.file bytes) => .ok bytes

/-- The text of a file. -/
def readText (t : FileTree) (name : String) : Except IoError String :=
  match t.readBytes name with
  | .error cause => .error cause
  | .ok bytes =>
    match String.fromUTF8? ⟨bytes.toArray⟩ with
    | some text => .ok text
    | none => .error .notText

/-- The tree after a file is created, or given new contents if there is one already. A name
that can only be that of a directory is refused before it is looked up. -/
def create (t : FileTree) (name : String) (bytes : List UInt8) : Except IoError FileTree :=
  match t.resolve name with
  | .error cause => .error cause
  | .ok path =>
    if namesDirectory name then .error .isDirectory
    else
      match t.lookUp path with
      | .ok .directory => .error .isDirectory
      | .ok (.file _) | .error .notFound => .ok (t.put path (.file bytes))
      | .error cause => .error cause

/-- The paths that following parts from a directory comes by. -/
def trail (path : List String) : List String → List (List String)
  | [] => []
  | part :: rest => follow path part :: trail (follow path part) rest

/-- The tree with a directory at a path, unless there is something already. -/
def ensure (t : FileTree) (path : List String) : FileTree :=
  if (t.at? path).isSome then t else t.put path .directory

/-- The tree with a directory of the given name and all directories that the name comes by. -/
def withDirectory (t : FileTree) (name : String) : FileTree :=
  (trail (t.origin name) (parts name)).foldl ensure t

/-- The tree with a file of the given name and all directories that the name comes by. -/
def withFile (t : FileTree) (name : String) (bytes : List UInt8) : FileTree :=
  let way := trail (t.origin name) (parts name)
  (way.dropLast.foldl ensure t).put (way.getLastD (t.origin name)) (.file bytes)

end FileTree

end LC3
