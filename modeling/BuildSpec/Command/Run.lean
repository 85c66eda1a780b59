import BuildSpec.Command.Options
import BuildSpec.Command.Filter
import BuildSpec.Catalog.Load
import BuildSpec.Catalog.Snapshot
import BuildSpec.Concretize.Select
import BuildSpec.Spec.Parse

/-!
# The command

`concretizer-terminal [options] concretize SPEC...` loads a catalog, concretizes the specs and
prints the report, and with `-s` the selection of every package.

The catalog comes from the snapshot named by `-c` when it can be read; a missing snapshot is
noted at debug level and any other failure is warned about. Otherwise the recipe directory of
`-r` is loaded (checked against the schema with `--validate`) and, with `-c`, a snapshot of it
is written. Preferences come from `-p`; a file that cannot be read is warned about and no
preferences are used.

A run is a function of the disk, the log setting and the words: it gives the exit code, what
was printed on each stream, and the disk afterwards. The exit code is 1 only when
concretization fails; an unreadable command line, a failed catalog load and an unknown
command end with 0.
-/

namespace BuildSpec

namespace Command

/-- The end of a run. -/
structure Outcome where
  code : Nat
  stdout : String
  stderr : String
  disk : Disk

/-- The first line of the usage text. -/
def brief : String := "Usage: concretizer-terminal [options] concretize SPEC..."

/-- A run in progress: the disk, the filter and the two streams. -/
structure Session where
  disk : Disk
  filter : LogFilter := {}
  stdout : String := ""
  stderr : String := ""

namespace Session

/-- Writes log records that the filter shows. -/
def log (s : Session) (entries : List Log.Entry) : Session :=
  { s with stderr := entries.foldl (fun acc e => if s.filter.shows e then acc ++ e.line ++ "\n" else acc) s.stderr }

/-- Writes one record of the command's own area. -/
def note (s : Session) (level : Log.Level) (msg : String) : Session :=
  s.log [⟨level, Log.commandArea, msg⟩]

/-- Ends the run. -/
def finish (s : Session) (code : Nat) : Outcome := ⟨code, s.stdout, s.stderr, s.disk⟩

end Session

/-- Why the catalog or the concretization failed. -/
inductive Failure where
  | library (e : Error)
  | missing (what : String)

/-- The sentence of a failure. -/
def Failure.message : Failure → String
  | .library e => "concretizer error: " ++ e.message
  | .missing w => "missing argument " ++ w

/-- Loads the catalog from the snapshot or the recipe directory, writing the snapshot after a
directory is loaded. -/
def loadCatalog (s : Session) (m : Matches) : Session × Except Failure Catalog :=
  let cache := m.value? "c"
  let fromCache : Session × Option Catalog := match cache with
    | none => (s, none)
    | some c => match Catalog.loadSnapshot s.disk c with
      | .ok cat => (s.note .debug s!"Loaded {cat.size} packages from {c}", some cat)
      | .error (.io .notFound) => (s.note .debug s!"No catalog snapshot at {c}", none)
      | .error e => (s.note .warn
          s!"Failed to read catalog snapshot, format likely changed. reloading... ({e.message})", none)
  match fromCache with
  | (s, some cat) => (s, .ok cat)
  | (s, none) =>
    match m.value? "r" with
    | none => (s, .error (.missing "--repo"))
    | some repo =>
      let (log, r) := Catalog.loadDir s.disk repo (m.present "validate")
      let s := s.log log
      match r with
      | .error e => (s, .error (.library e))
      | .ok cat =>
        let s := s.note .info s!"Loaded {cat.size} packages from {repo}"
        match cache with
        | none => (s, .ok cat)
        | some c => match cat.save s.disk c with
          | .ok d => ({ s with disk := d }, .ok cat)
          | .error e => (s, .error (.library e))

/-- Concretizes the specs and prints the report, then with `select` the selections. -/
def concretize (s : Session) (cat : Catalog) (prefs : Prefs) (texts : List String) (select : Bool) :
    Session × Except Failure Unit :=
  if texts.isEmpty then (s, .error (.missing "SPEC"))
  else match texts.mapM Spec.parse with
    | .error e => (s, .error (.library e))
    | .ok specs =>
      match Concretization.build cat prefs specs with
      | .error st => (s.log st.log.toList, .error (.library st.error))
      | .ok c =>
        let s := { s.log c.log.toList with stdout := s.stdout ++ c.report }
        if !select then (s, .ok ())
        else
          let s := { s with stdout := s.stdout ++ "Selected:\n" }
          let (log, r) := c.selectAll
          let s := s.log log
          match r with
          | .error e => (s, .error (.library e))
          | .ok sels => ({ s with stdout := s.stdout ++ String.join (sels.map fun (_, sel) => "  " ++ sel.text ++ "\n") }, .ok ())

/-- Runs the command on a disk with a log setting (none when unset) and the words after the
program name. -/
def run (disk : Disk) (logSetting : Option String) (words : List String) : Outcome :=
  let s : Session := { disk }
  match parse words with
  | .error e => { s with stdout := s!"Unable to parse options: {e.message}\n" }.finish 0
  | .ok m =>
    if m.present "h" then { s with stderr := usage brief ++ "\n" }.finish 0
    else
      let (filter, warnings) := LogFilter.parse (logSetting.getD "")
      let filter := if m.present "v" then filter.insert ⟨none, 4⟩ else filter
      let s := { s with filter, stderr := String.join (warnings.map (· ++ "\n")) }
      let (s, prefs) : Session × Prefs := match m.value? "p" with
        | none => (s, {})
        | some path => match Prefs.load s.disk path with
          | .ok p => (s, p)
          | .error e =>
            ((s.note .warn s!"Failed to read preferences file {path}: {e.message}").note .warn
              "Using default preferences.", {})
      match loadCatalog s m with
      | (s, .error f) => (s.note .error s!"Failed to load package catalog: {f.message}").finish 0
      | (s, .ok cat) =>
        match m.free with
        | "concretize" :: specs =>
          match concretize s cat prefs specs (m.present "s") with
          | (s, .ok ()) => s.finish 0
          | (s, .error f) => (s.note .error s!"Failed to concretize: {f.message}").finish 1
        | command :: _ => (s.note .error s!"Unknown command \"{command}\".").finish 0
        | [] => { s with stderr := s.stderr ++ usage brief ++ "\n" }.finish 0

end Command

end BuildSpec
