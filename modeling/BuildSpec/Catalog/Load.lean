import BuildSpec.Catalog.Basic
import BuildSpec.Catalog.Recipe
import BuildSpec.Catalog.Schema
import BuildSpec.Disk
import BuildSpec.Json.Read
import BuildSpec.Log

/-!
# Loading a recipe directory

A recipe directory is walked depth first, the entries of each directory in name order, each
directory before what it holds. Every file whose name ends in `.json` (and has something
before the dot) is read as a recipe: the document is read, checked against the schema when
asked, turned into a package and added to the catalog. The first failure ends the load.

The paths in messages and log records are the directory as it was given followed by the
names below it.
-/

namespace BuildSpec

/-- One entry met by a walk: its path as shown, its names from the top, and what it is. -/
structure WalkEntry where
  shown : String
  loc : List String
  node : Disk.Node

namespace Disk

/-- The entries below a directory, depth first in name order; `fuel` bounds the depth. -/
def walkBelow (d : Disk) : Nat → String → List String → List WalkEntry
  | 0, _, _ => []
  | fuel + 1, shown, loc => (d.children loc).flatMap fun (n, node) =>
    let s := Path.join shown n
    ⟨s, loc ++ [n], node⟩ :: (match node with
      | .dir => walkBelow d fuel s (loc ++ [n])
      | .file _ => [])

/-- The entries of a walk from a path shown as `root` that reaches `t`: the path itself, then
what is below it. -/
def walkFrom (d : Disk) (root : String) (t : Target) : Except Error (List WalkEntry) :=
  match d.nodeAt t with
  | .error e => .error (.walk root e)
  | .ok none => .error (.walk root .notFound)
  | .ok (some node) => .ok (⟨root, t.loc, node⟩ :: match node with
    | .dir => d.walkBelow (d.entries.length + 1) root t.loc
    | .file _ => [])

/-- The entries of a walk from a written path. -/
def walk (d : Disk) (root : String) : Except Error (List WalkEntry) :=
  match d.resolve root with
  | .error e => .error (.walk root e)
  | .ok t => d.walkFrom root t

end Disk

namespace Catalog

/-- Reads one recipe file into a package. -/
def readRecipe (shown : String) (bytes : List UInt8) (validate : Bool) : Except Error Package := do
  let doc ← (Json.read .whole (textOfBytes bytes)).mapError Error.json
  if validate && !Schema.conforms doc then
    throw (.validation s!"{shown} does not match the recipe schema")
  Package.ofJson doc

/-- Adds the recipes of walk entries to a catalog, with a log record for each. -/
def loadEntries (validate : Bool) : List WalkEntry → Catalog → List Log.Entry × Except Error Catalog
  | [], c => ([], .ok c)
  | e :: rest, c =>
    match e.node, Path.extension? e.shown with
    | .file bytes, some "json" =>
      match readRecipe e.shown bytes validate with
      | .error err => ([], .error err)
      | .ok p =>
        let entry : Log.Entry := ⟨.debug, Log.catalogArea, s!"loaded recipe for {p.name} from {e.shown}"⟩
        match c.add p with
        | .error err => ([entry], .error err)
        | .ok c =>
          let (log, r) := loadEntries validate rest c
          (entry :: log, r)
    | _, _ => loadEntries validate rest c

/-- Loads the recipes of a walk from a directory shown as `root`, checking each against the
schema when asked. -/
def loadWalk (root : String) (validate : Bool) : Except Error (List WalkEntry) →
    List Log.Entry × Except Error Catalog
  | .error e => ([], .error e)
  | .ok entries =>
    match loadEntries validate entries {} with
    | (log, .ok c) =>
      if c.size == 0 then (log ++ [⟨.warn, Log.catalogArea, s!"no recipes found in {root}"⟩], .ok c)
      else (log, .ok c)
    | other => other

/-- Loads every recipe below the directory at `loc`, shown as `root`. -/
def loadDirAt (d : Disk) (root : String) (loc : List String) (validate : Bool) :
    List Log.Entry × Except Error Catalog :=
  loadWalk root validate (d.walkFrom root ⟨loc, false⟩)

/-- Loads every recipe below a written directory. -/
def loadDir (d : Disk) (root : String) (validate : Bool) : List Log.Entry × Except Error Catalog :=
  loadWalk root validate (d.walk root)

end Catalog

end BuildSpec
