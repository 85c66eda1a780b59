import BuildSpec.Command.Run

/-!
# The program

`main` gathers what the command reads — the working directory, the `RUST_LOG` setting, and the
parts of the file system below the paths named by `-r`, `-c` and `-p` — into a `Disk`, runs
`Command.run` on it, prints the two streams, writes back every file the run created or
changed, and exits with the run's code.
-/

namespace BuildSpec

namespace Program

/-- The names of a path from the file system's root, written as a path. -/
def realPath (loc : List String) : String := "/" ++ "/".intercalate loc

/-- The names in a directory of the file system, or none when it cannot be listed. -/
def listDir (path : String) : IO (Option (List String)) := do
  let dir := (← IO.currentDir) / path
  match ← dir.readDir.toBaseIO with
  | .ok es => pure (some (es.toList.map (·.fileName)))
  | .error _ => pure none

/-- What a path of the file system is, if it can be read. -/
def probe (path : String) : IO (Option Disk.Node) := do
  match ← listDir path with
  | some _ => pure (some .dir)
  | none =>
    match ← (IO.FS.readBinFile path).toBaseIO with
    | .ok bytes => pure (some (.file bytes.toList))
    | .error _ => pure none

/-- Adds a directory of the file system and everything below it. -/
partial def addTree (d : Disk) (loc : List String) : IO Disk := do
  let names := (← listDir (realPath loc)).getD []
  names.foldlM (fun d n => do
    let child := loc ++ [n]
    match ← probe (realPath child) with
    | some .dir => addTree (d.set child .dir) child
    | some node => pure (d.set child node)
    | none => pure d) d

/-- Adds the directories and files along a path, and with `deep` everything below it. -/
def addPath (d : Disk) (loc : List String) (deep : Bool) : IO Disk := do
  let mut d := d
  for n in List.range loc.length do
    let q := loc.take (n + 1)
    match ← probe (realPath q) with
    | none => return d
    | some .dir =>
      d := d.set q .dir
      if deep && n + 1 == loc.length then d ← addTree d q
    | some node => d := d.set q node
  return d

/-- Writes back the files a run created or changed. -/
def writeBack (before after : Disk) : IO Unit := do
  for (loc, node) in after.entries do
    if before.find? loc != some node then
      match node with
      | .dir => IO.FS.createDirAll (realPath loc)
      | .file data =>
        IO.FS.createDirAll (realPath loc.dropLast)
        IO.FS.writeBinFile (realPath loc) ⟨data.toArray⟩

end Program

end BuildSpec

open BuildSpec in
/-- Runs the command line on the real file system. -/
def main (args : List String) : IO UInt32 := do
  let cwd := Disk.namesFrom [] (← IO.currentDir).toString
  let logSetting ← IO.getEnv "RUST_LOG"
  let mut d : Disk := { cwd }
  d ← Program.addPath d cwd false
  if let .ok m := Command.parse args then
    for (key, deep) in [("r", true), ("c", false), ("p", false)] do
      if let some p := m.value? key then
        for loc in d.visited p do
          d ← Program.addPath d loc (deep && loc == d.locate p)
  let o := Command.run d logSetting args
  IO.print o.stdout
  IO.eprint o.stderr
  Program.writeBack d o.disk
  return o.code.toUInt32
