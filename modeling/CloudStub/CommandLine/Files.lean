import CloudStub.Data.Dict
import CloudStub.Text.Cut
import CloudStub.Text.Bytes

/-!
# Files

What the program does with files: it reads a rule file, writes a certificate, and makes log files.
These operations are a class, so that the program runs on real files and on a tree of files in
memory alike.

## Main Definitions

- `Files`: the operations
- `FileTree`: files and directories in memory
-/

namespace CloudStub.CommandLine

/-- Operations on files, each of which may fail. -/
class Files (m : Type → Type) where
  /-- The contents of a file. -/
  read : String → m (Option Bytes)
  /-- Replaces the contents of a file. -/
  write : String → Bytes → m Bool
  /-- Makes a directory with all directories above it. -/
  makeDirectory : String → m Bool
  /-- Makes sure that a file is there to be appended to. -/
  openLog : String → m Bool

/-- What stands at a place in a tree. -/
inductive Entry where
  /-- A directory. -/
  | directory
  /-- A file. -/
  | file (contents : Bytes)
  deriving DecidableEq, Repr

/-- Files and directories below a root. -/
structure FileTree where
  /-- The absolute path of the root, which is also the current directory. -/
  root : String
  /-- What stands at the places below the root. -/
  entries : Dict Entry

namespace FileTree

/-- The tree of a root without files. -/
def empty (root : String) : FileTree := ⟨root, .empty⟩

/-- The names on a path, without empty ones and with steps upwards taken. -/
def names (path : List Char) : List String :=
  (Cut.fields '/' path).foldl (fun above name =>
    if name = [] || name = ['.'] then above
    else if name = ['.', '.'] then above.dropLast
    else above ++ [String.ofList name]) []

/-- The names on a path below the root; none for a path that leads elsewhere. -/
def locate (t : FileTree) (path : String) : Option (List String) :=
  let root := t.root.toList
  let cs := path.toList
  if root.isPrefixOf cs && (cs.length = root.length || cs[root.length]? = some '/') then
    some (names (cs.drop root.length))
  else if cs.head? = some '/' then none
  else some (names cs)

/-- The place of some names. -/
def place (ns : List String) : String := "/".intercalate ns

/-- What stands at a place; the root is a directory. -/
def entry? (t : FileTree) (ns : List String) : Option Entry :=
  if ns.isEmpty then some .directory else t.entries.get? (place ns)

/-- Whether a path can only lead to a directory. -/
def endsInSlash (path : String) : Bool := path.toList.getLast? = some '/'

/-- The contents of a file. -/
def read (t : FileTree) (path : String) : Option Bytes :=
  match (t.locate path).bind t.entry? with
  | some (.file contents) => if endsInSlash path then none else some contents
  | _ => none

/-- The tree with an entry at a place. -/
def put (t : FileTree) (ns : List String) (e : Entry) : FileTree :=
  { t with entries := t.entries.insert (place ns) e }

/-- The tree with other contents of a file, whose directory must be there. -/
def write? (t : FileTree) (path : String) (contents : Bytes) : Option FileTree := do
  let ns ← t.locate path
  match ns, t.entry? ns.dropLast, t.entry? ns with
  | [], _, _ => none
  | _, some .directory, some .directory => none
  | _, some .directory, _ => if endsInSlash path then none else some (t.put ns (.file contents))
  | _, _, _ => none

/-- The tree with a directory and the directories above it, given those that are there. -/
def makeFrom (t : FileTree) (above : List String) : List String → Option FileTree
  | [] => some t
  | name :: rest =>
    let ns := above ++ [name]
    match t.entry? ns with
    | some (.file _) => none
    | some .directory => makeFrom t ns rest
    | none => makeFrom (t.put ns .directory) ns rest

/-- The tree with a directory and all directories above it. -/
def makeDirectory? (t : FileTree) (path : String) : Option FileTree := do
  t.makeFrom [] (← t.locate path)

/-- The tree in which a file is there. -/
def openLog? (t : FileTree) (path : String) : Option FileTree :=
  match t.read path with
  | some _ => some t
  | none => t.write? path []

/-- The tree with a file and the directories above it. -/
def add (t : FileTree) (path : String) (contents : Bytes) : FileTree :=
  let ns := names path.toList
  ((t.makeFrom [] ns.dropLast).getD t).put ns (.file contents)

/-- The places of the files, in order. -/
def files (t : FileTree) : List String :=
  t.entries.toList.filterMap fun e =>
    match e.2 with
    | .file _ => some e.1
    | .directory => none

/-- Applies a change that may fail. -/
def attempt (change : FileTree → Option FileTree) : StateM FileTree Bool := fun t =>
  match change t with
  | some t => (true, t)
  | none => (false, t)

instance : Files (StateM FileTree) where
  read path := fun t => (t.read path, t)
  write path contents := attempt fun t => t.write? path contents
  makeDirectory path := attempt fun t => t.makeDirectory? path
  openLog path := attempt fun t => t.openLog? path

end FileTree

end CloudStub.CommandLine
