import BuildSpec.Variant.Value

/-!
# Settings of a spec

`Variant.Settings` holds a spec's variant settings, one per variant name, in name order. Its
text lists the flags first, with nothing between them, then each set as ` name=a,b`.

`Settings.constrain` adds the settings of another map that this one lacks and constrains those
both have. When the other map is complete (concrete), every variant set here must also be set
there. A failed constrain leaves the map as it was.
-/

namespace BuildSpec.Variant

/-- Settings keyed by variant name, in name order. -/
structure Settings where
  entries : List Setting := []
  deriving DecidableEq, Repr

namespace Settings

/-- No settings. -/
def empty : Settings := {}

/-- The setting of a variant. -/
def get? (m : Settings) (name : String) : Option Setting := m.entries.find? (·.name == name)

/-- Is the variant set. -/
def contains (m : Settings) (name : String) : Bool := m.entries.any (·.name == name)

/-- The number of settings. -/
def size (m : Settings) : Nat := m.entries.length

/-- Are there no settings. -/
def isEmpty (m : Settings) : Bool := m.entries.isEmpty

/-- Puts a setting in name order, replacing one of the same name. -/
def put (s : Setting) : List Setting → List Setting
  | [] => [s]
  | t :: ts => if s.name < t.name then s :: t :: ts
    else if s.name == t.name then s :: ts else t :: put s ts

/-- Adds a setting for a variant not yet set. -/
def insert (m : Settings) (s : Setting) : Except Error Settings :=
  if m.contains s.name then .error (.duplicateVariant s.name none)
  else .ok ⟨put s m.entries⟩

/-- `m` is at least as constrained as `o`: each setting of `o` is satisfied here. When not
`strict`, the settings of `o` for variants not set here are ignored. -/
def satisfies (m o : Settings) (strict : Bool) : Bool :=
  o.entries.all fun v =>
    if strict || m.contains v.name then
      match m.get? v.name with
      | some s => s.satisfies v
      | none => false
    else true

/-- Merges one setting into the entries. -/
def mergeOne (acc : List Setting × Bool) (v : Setting) : Except Error (List Setting × Bool) :=
  let (es, changed) := acc
  match es.find? (·.name == v.name) with
  | some e =>
    if !e.compatible v then .error (.variantConflict v.text e.text)
    else do
      let (e', ch) ← e.constrain v
      pure (put e' es, changed || ch)
  | none => .ok (put v es, true)

/-- Adds the settings of `o` missing here and constrains those present; tells whether anything
changed. -/
def constrain (m o : Settings) (otherConcrete : Bool) : Except Error (Settings × Bool) := do
  if otherConcrete then
    match m.entries.find? (fun e => !o.contains e.name) with
    | some e => throw (.variantConflict "<absent>" e.text)
    | none => pure ()
  let (es, changed) ← o.entries.foldlM mergeOne (m.entries, false)
  pure (⟨es⟩, changed)

/-- The text of the settings: the flags, then ` name=a,b` for each set. -/
def text (m : Settings) : String :=
  String.join ((m.entries.filter (·.value.isFlag)).map (·.text)) ++
  String.join ((m.entries.filter (!·.value.isFlag)).map (" " ++ ·.text))

end Settings

end BuildSpec.Variant
