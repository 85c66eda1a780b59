import BuildSpec.Log
import BuildSpec.Pattern.Regex
import BuildSpec.Text.Blank

/-!
# Which log records are shown

The command line shows a log record when its level is within the level of the directive that
applies to its area, and, when a message pattern is set, the pattern finds a match in its
message.

Directives come from a setting such as `info,concretizer::catalog=debug/loaded`: before the
`/`, comma-separated items, each a level alone (the level for every area), an area alone (every
level there), or `area=level`; after the `/`, a regular expression for messages. A level is one
of `off`, `error`, `warn`, `info`, `debug`, `trace` in any case. The directive that applies to
an area is the one with the longest name the area starts with, a level alone counting as an
empty name; a later directive of the same name replaces an earlier one. Without any directive,
only errors are shown.

Reading the setting reports items it cannot use as warnings, which the command prints before
anything else.
-/

namespace BuildSpec

namespace Command

/-- One directive: an area prefix (none for every area) and the highest level shown there,
`0` showing nothing and `5` everything. -/
structure Directive where
  name : Option String
  level : Nat
  deriving DecidableEq, Repr

/-- The directives and message pattern that decide which records are shown. -/
structure LogFilter where
  directives : List Directive := []
  pattern : Option Pattern.Regex := none

/-- The level a word names. -/
def levelOf (w : String) : Option Nat :=
  ["off", "error", "warn", "info", "debug", "trace"].findIdx? fun n =>
    n.length == w.length && (n.toList.zip w.toList).all fun (a, b) => a == b.toLower

/-- Adds a directive, replacing one of the same name in its place. -/
def LogFilter.insert (f : LogFilter) (d : Directive) : LogFilter :=
  if f.directives.any (·.name == d.name) then
    { f with directives := f.directives.map fun e => if e.name == d.name then d else e }
  else { f with directives := f.directives ++ [d] }

/-- Reads a setting into a filter, with the warnings it gives. -/
def LogFilter.parse (spec : String) : LogFilter × List String :=
  match spec.splitOn "/" with
  | _ :: _ :: _ :: _ => ({}, [s!"warning: invalid logging spec '{spec}', ignoring it (too many '/'s)"])
  | parts =>
    let mods := parts.headD ""
    let (f, warnings) := (mods.splitOn ",").foldl (fun (f, ws) item =>
      let s := Text.trim item
      if s.isEmpty then (f, ws)
      else match s.splitOn "=" with
        | [p0] => match levelOf p0 with
          | some l => (f.insert ⟨none, l⟩, ws)
          | none => (f.insert ⟨some p0, 5⟩, ws)
        | [p0, p1] =>
          let p1 := Text.trim p1
          if p1.isEmpty then (f.insert ⟨some p0, 5⟩, ws)
          else match levelOf p1 with
            | some l => (f.insert ⟨some p0, l⟩, ws)
            | none => (f, ws ++ [s!"warning: invalid logging spec '{p1}', ignoring it"])
        | _ => (f, ws ++ [s!"warning: invalid logging spec '{s}', ignoring it"]))
      (({} : LogFilter), ([] : List String))
    match parts with
    | [_, re] => match Pattern.Regex.compile re with
      | .ok n => ({ f with pattern := some n }, warnings)
      | .error e => (f, warnings ++ [s!"warning: invalid regex filter - {e.message re}"])
    | _ => (f, warnings)

/-- Is a record of this level in this area shown by the directives. -/
def LogFilter.enabled (f : LogFilter) (level : Log.Level) (area : String) : Bool :=
  let directives := if f.directives.isEmpty then [⟨none, 1⟩] else f.directives
  let nameLength : Directive → Nat := fun d => (d.name.map (·.utf8ByteSize)).getD 0
  let applicable := directives.filter fun d => (d.name.map fun n => area.startsWith n).getD true
  -- the longest name wins; among equal lengths the later one
  match applicable.foldl (fun best d => match best with
    | some b => if nameLength b ≤ nameLength d then some d else some b
    | none => some d) none with
  | some d => level.rank ≤ d.level
  | none => false

/-- Is a record shown. -/
def LogFilter.shows (f : LogFilter) (e : Log.Entry) : Bool :=
  f.enabled e.level e.area && (f.pattern.map (·.isMatch e.message)).getD true

end Command

end BuildSpec
