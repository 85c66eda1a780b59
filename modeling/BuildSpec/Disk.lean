import BuildSpec.Error

/-!
# Disks

The library reads recipe directories, snapshots and preference files, and writes snapshots. A
`Disk` is the file tree those operations see: each existing path, as the list of its names
from the top directory, with whether it is a directory or a file and the file's bytes. The top
directory always exists and is not listed.

A written path is looked up as the system does it, name by name from the top directory (a
path starting with `/`) or from the working directory (any other). Empty names and `.` stay
where they are and `..` goes up one name, but every name before the last has to be a directory
that exists: `a/../b` fails with `notFound` when there is no `a`, and `f/b` with
`notADirectory` when `f` is a file. A path ending in `/`, `.` or `..` has to be a directory.

Operations fail as the system does on the same tree:

* a directory can be opened but not read (`isADirectory`), and a file cannot be created
  where a directory is or at a path that has to be a directory;
* `createDirAll` tries the path itself first and makes its parents only when that fails
  with `notFound`, so `nothere/..` makes `nothere`; a directory that exists is accepted and a
  file in the way is `alreadyExists`.

Files given to a run are placed by their names alone (`Disk.put`), `..` taking a name away.
-/

namespace BuildSpec

/-! ## Paths as written -/

namespace Path

/-- A path followed by a name, with one separator between them. -/
def join (p name : String) : String :=
  if p.isEmpty || p.endsWith "/" then p ++ name else p ++ "/" ++ name

/-- The last name of a path, unless it is `..` or there is none. -/
def fileName? (p : String) : Option String :=
  match ((p.splitOn "/").filter fun n => !n.isEmpty && n != ".").getLast? with
  | some ".." => none
  | other => other

/-- The part of a path's last name after its last dot, when something comes before the dot. -/
def extension? (p : String) : Option String :=
  (fileName? p).bind fun n =>
    match (n.splitOn ".").reverse with
    | ext :: before :: rest => if (before :: rest).reverse == [""] then none else some ext
    | _ => none

/-- The parts of a path the way a path is split into components: names and `..`, with empty
names and `.` left out except a `.` that starts a relative path. -/
def components (p : String) : List String :=
  let parts := (p.splitOn "/").filter (!·.isEmpty)
  match parts with
  | "." :: rest => if p.startsWith "/" then rest.filter (· != ".") else "." :: rest.filter (· != ".")
  | _ => parts.filter (· != ".")

/-- The path without its last component: `none` for the empty path and for `/`, the empty path
for a single relative component. -/
def parent? (p : String) : Option String :=
  match components p with
  | [] => none
  | cs => some ((if p.startsWith "/" then "/" else "") ++ "/".intercalate cs.dropLast)

end Path

/-- What a path of a disk is. -/
inductive Disk.Node where
  | dir
  | file (data : List UInt8)
  deriving DecidableEq, Repr

/-- A file tree: every existing path below the top directory, with what it is, and the
directory that paths not starting with `/` are read from. -/
structure Disk where
  entries : List (List String × Disk.Node) := []
  cwd : List String := []
  deriving Repr

namespace Disk

/-- The names of a written path, from a base directory, with `..` taken away by name alone.
Files given to a run are placed by these names. -/
def namesFrom (base : List String) (p : String) : List String :=
  (p.splitOn "/").foldl (fun acc n =>
    if n.isEmpty || n == "." then acc
    else if n == ".." then acc.dropLast
    else acc ++ [n]) (if p.startsWith "/" then [] else base)

/-- The names of a written path, from the top, with `..` taken away by name alone. -/
def locate (d : Disk) (p : String) : List String := namesFrom d.cwd p

/-- What a path is, if it exists. -/
def find? (d : Disk) (loc : List String) : Option Node :=
  if loc.isEmpty then some .dir else d.entries.lookup loc

/-- Whether a path is a directory. -/
def isDir (d : Disk) (loc : List String) : Bool := d.find? loc == some .dir

/-- The place a written path reaches: its names from the top, and whether it has to be a
directory because the path ends in `/`, `.` or `..`. -/
structure Target where
  loc : List String
  dirOnly : Bool
  deriving DecidableEq, Repr

/-- Follows names from an existing directory `cur`. Every name before the last has to lead to
a directory: a missing one is `notFound` and a file is `notADirectory`. A `.` stays and a `..`
goes up, so `a/..` needs `a` to be a directory even though it ends where it began. -/
def follow (d : Disk) (slash : Bool) : List String → List String → Except IoError Target
  | cur, [] => .ok ⟨cur, true⟩
  | cur, [n] =>
    if n == "." then .ok ⟨cur, true⟩
    else if n == ".." then .ok ⟨cur.dropLast, true⟩
    else .ok ⟨cur ++ [n], slash⟩
  | cur, n :: m :: rest =>
    if n == "." then follow d slash cur (m :: rest)
    else if n == ".." then follow d slash cur.dropLast (m :: rest)
    else match d.find? (cur ++ [n]) with
      | none => .error .notFound
      | some (.file _) => .error .notADirectory
      | some .dir => follow d slash (cur ++ [n]) (m :: rest)

/-- Looks a written path up as the system does, name by name from the top directory or the
working directory. The empty path is `notFound`. -/
def resolve (d : Disk) (p : String) : Except IoError Target :=
  if p.isEmpty then .error .notFound
  else
    let parts := p.splitOn "/"
    let slash := parts.length > 1 && parts.getLast? == some ""
    follow d slash (if p.startsWith "/" then [] else d.cwd) (parts.filter (!·.isEmpty))

/-- What a resolved path is, if it exists; a file where a directory is needed is
`notADirectory`. -/
def nodeAt (d : Disk) (t : Target) : Except IoError (Option Node) :=
  match d.find? t.loc with
  | some (.file _) => if t.dirOnly then .error .notADirectory else .ok (d.find? t.loc)
  | n => .ok n

/-- The names a lookup of a written path may visit, so that a file system can be sampled
along them. -/
def visited (d : Disk) (p : String) : List (List String) :=
  let step (acc : List String × List (List String)) (n : String) :=
    if n.isEmpty || n == "." then acc
    else if n == ".." then (acc.1.dropLast, acc.2)
    else (acc.1 ++ [n], acc.2 ++ [acc.1 ++ [n]])
  ((p.splitOn "/").foldl step (if p.startsWith "/" then [] else d.cwd, [])).2

/-- Whether a written path exists. -/
def pathExists (d : Disk) (p : String) : Bool :=
  match d.resolve p >>= d.nodeAt with
  | .ok (some _) => true
  | _ => false

/-- Whether a written path is a directory. -/
def isDirPath (d : Disk) (p : String) : Bool :=
  match d.resolve p >>= d.nodeAt with
  | .ok (some .dir) => true
  | _ => false

/-- Sets what a path is. -/
def set (d : Disk) (loc : List String) (n : Node) : Disk :=
  { d with entries := (d.entries.filter (·.1 != loc)) ++ [(loc, n)] }

/-- Makes one directory at a written path, whose parent must exist. -/
def mkdir (d : Disk) (p : String) : Except IoError Disk := do
  let t ← d.resolve p
  match d.find? t.loc with
  | some _ => throw .alreadyExists
  | none => pure (d.set t.loc .dir)

/-- Makes a directory and its missing parents, the parents found by `Path.parent?`; one that
exists is accepted, and the empty path is nothing to make. `fuel` bounds the parents. -/
def createDirAllN : Nat → Disk → String → Except IoError Disk
  | 0, d, _ => .ok d
  | n + 1, d, p =>
    if p.isEmpty then .ok d
    else match d.mkdir p with
      | .ok d' => .ok d'
      | .error .notFound =>
        match Path.parent? p with
        | none => .error .notFound
        | some q => do
          let d ← createDirAllN n d q
          match d.mkdir p with
          | .ok d' => pure d'
          | .error e => if d.isDirPath p then pure d else throw e
      | .error e => if d.isDirPath p then .ok d else .error e

/-- Makes a directory and its missing parents; one that exists is accepted. -/
def createDirAll (d : Disk) (p : String) : Except IoError Disk :=
  createDirAllN (p.length + 1) d p

/-- Creates or empties a file and writes bytes to it; a path that has to be a directory cannot
become a file. -/
def writeFile (d : Disk) (p : String) (data : List UInt8) : Except IoError Disk := do
  let t ← d.resolve p
  match ← d.nodeAt t with
  | some .dir => throw .isADirectory
  | none => if t.dirOnly then throw .isADirectory else pure (d.set t.loc (.file data))
  | some (.file _) => pure (d.set t.loc (.file data))

/-- The bytes of a file. -/
def readFile (d : Disk) (p : String) : Except IoError (List UInt8) := do
  match ← d.resolve p >>= d.nodeAt with
  | none => throw .notFound
  | some .dir => throw .isADirectory
  | some (.file data) => pure data

/-- Opens a path for reading: a file gives its bytes, a directory opens but fails to read. -/
def openRead (d : Disk) (p : String) : Except IoError (Except IoError (List UInt8)) := do
  match ← d.resolve p >>= d.nodeAt with
  | none => throw .notFound
  | some .dir => pure (.error .isADirectory)
  | some (.file data) => pure (.ok data)

/-- The entries of a directory, in name order. -/
def children (d : Disk) (loc : List String) : List (String × Node) :=
  let direct := d.entries.filterMap fun (p, n) =>
    if p.length == loc.length + 1 && p.take loc.length == loc then (p.getLast?.map (·, n)) else none
  direct.mergeSort (fun a b => a.1 ≤ b.1)

/-- Places a file at the names of a written path, with every directory above it. -/
def put (d : Disk) (p : String) (data : List UInt8) : Except IoError Disk := do
  let loc := d.locate p
  if loc.isEmpty then throw .isADirectory
  let dirs := (List.range (loc.length - 1)).map fun k => loc.take (k + 1)
  let d ← dirs.foldlM (fun d q => match d.find? q with
    | some .dir => .ok d
    | some (.file _) => .error .notADirectory
    | none => .ok (d.set q .dir)) d
  match d.find? loc with
  | some .dir => throw .isADirectory
  | _ => pure (d.set loc (.file data))

/-- Every file below the top directory, as paths written with `/`, in text order. -/
def files (d : Disk) : List String :=
  (d.entries.filterMap fun (p, n) => match n with
    | .file _ => some ("/".intercalate p)
    | .dir => none).mergeSort (· ≤ ·)

end Disk

/-- Text from bytes: UTF-8 when valid, else one character per byte. -/
def textOfBytes (bytes : List UInt8) : String :=
  match String.fromUTF8? ⟨bytes.toArray⟩ with
  | some s => s
  | none => String.ofList (bytes.map fun b => Char.ofNat b.toNat)


end BuildSpec
