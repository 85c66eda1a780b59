import BuildSpec.Spec.Basic
import BuildSpec.Variant.Decl

/-!
# Packages

A package recipe: its name, an optional description, its versions (each possibly preferred),
its variant declarations, the dependencies it declares grouped by target package, and the
virtual packages it provides.

Versions are kept in version order; adding a version equal to one already present keeps the
first one's text and takes the new preferred mark. Variant declarations are kept in a table
keyed by name; a recipe keys each by its own name and may not declare a name twice, but a table
read back from a snapshot may key a declaration by another name, and lookups go by the key. A
dependency equal to one already declared for its target is not added again.
-/

namespace BuildSpec

/-- The phase of a build that needs a dependency. -/
inductive Dependency.Phase where
  | build
  | link
  | run
  deriving DecidableEq, Repr, Ord

namespace Dependency.Phase

/-- The name of a phase. -/
def text : Dependency.Phase → String
  | .build => "build"
  | .link => "link"
  | .run => "run"

/-- The phases a dependency has when a recipe does not say. -/
def defaults : List Dependency.Phase := [.build, .link]

/-- Reads a phase from its name. -/
def parse : String → Except Error Dependency.Phase
  | "build" => .ok .build
  | "link" => .ok .link
  | "run" => .ok .run
  | s => .error (.parse s!"unknown dependency type \"{s}\"")

/-- Adds a phase to a set kept in phase order. -/
def insert (p : Dependency.Phase) : List Dependency.Phase → List Dependency.Phase
  | [] => [p]
  | q :: qs => match compare p q with
    | .lt => p :: q :: qs
    | .eq => q :: qs
    | .gt => q :: insert p qs

end Dependency.Phase

/-- When a declaration applies: always, or when the package can satisfy an anonymous spec. -/
inductive Condition where
  | always
  | when (s : Spec)
  deriving Repr

namespace Condition

instance : BEq Condition := ⟨fun
  | .always, .always => true
  | .when a, .when b => a == b
  | _, _ => false⟩

/-- Can the condition still hold for a package constrained by `pkg`; what `pkg` leaves open
counts as possible. -/
def mayApply (c : Condition) (pkg : Spec) : Bool :=
  match c with
  | .always => true
  | .when s => pkg.satisfies s false

/-- The text `always` or `when <spec>`. -/
def text : Condition → String
  | .always => "always"
  | .when s => "when " ++ s.text

end Condition

/-- A dependency declared by a recipe; the spec's name is the target package. -/
structure Dependency where
  spec : Spec
  phases : List Dependency.Phase
  condition : Condition
  deriving Repr

namespace Dependency

instance : BEq Dependency := ⟨fun a b => a.spec == b.spec && a.phases == b.phases && a.condition == b.condition⟩

/-- The target package. -/
def target (d : Dependency) : String := d.spec.name.getD ""

/-- The text `<spec> (<phases>) <condition>`. -/
def text (d : Dependency) : String :=
  let phases := ",".intercalate (d.phases.map Dependency.Phase.text)
  d.spec.text ++ " (" ++ phases ++ ") " ++ d.condition.text

end Dependency

/-- A virtual package that a package can stand in for, and when. -/
structure Provision where
  spec : Spec
  condition : Condition
  deriving Repr

instance : BEq Provision := ⟨fun a b => a.spec == b.spec && a.condition == b.condition⟩

/-- A package recipe. -/
structure Package where
  name : String
  description : Option String := none
  /-- Versions in version order, each with its preferred mark. -/
  versions : List (Version × Bool) := []
  /-- Variant declarations by key, in key order. -/
  variants : List (String × Variant.Decl) := []
  /-- Declared dependencies by target, targets in name order. -/
  dependencies : List (String × List Dependency) := []
  provides : List Provision := []
  deriving Repr

namespace Package

instance : BEq Package := ⟨fun a b => a.name == b.name && a.description == b.description &&
  a.versions == b.versions && a.variants == b.variants && a.dependencies == b.dependencies &&
  a.provides == b.provides⟩

/-- A recipe with only a name. -/
def named (n : String) : Package := { name := n }

/-- Puts a version in order; an equal version keeps its text and takes the new mark. -/
def putVersion (v : Version) (preferred : Bool) : List (Version × Bool) → List (Version × Bool)
  | [] => [(v, preferred)]
  | (w, p) :: rest => match Version.compare v w with
    | .lt => (v, preferred) :: (w, p) :: rest
    | .eq => (w, preferred) :: rest
    | .gt => (w, p) :: putVersion v preferred rest

/-- Adds a version. -/
def withVersion (p : Package) (v : Version) (preferred : Bool) : Package :=
  { p with versions := putVersion v preferred p.versions }

/-- Puts a declaration under its key, in key order. -/
def putVariant (k : String) (d : Variant.Decl) : List (String × Variant.Decl) → List (String × Variant.Decl)
  | [] => [(k, d)]
  | (k', e) :: es => if k < k' then (k, d) :: (k', e) :: es else (k', e) :: putVariant k d es

/-- Adds a variant declaration under its name; a name may be declared once. -/
def withVariant (p : Package) (d : Variant.Decl) : Except Error Package :=
  if (p.variants.lookup d.name).isSome then .error (.duplicateVariant d.name (some p.name))
  else .ok { p with variants := putVariant d.name d p.variants }

/-- The declaration under a key. -/
def variant? (p : Package) (n : String) : Option Variant.Decl := p.variants.lookup n

/-- The variant declarations, in key order. -/
def decls (p : Package) : List Variant.Decl := p.variants.map (·.2)

/-- Adds a dependency to its target's group unless an equal one is there. -/
def putDependency (t : String) (d : Dependency) : List (String × List Dependency) → List (String × List Dependency)
  | [] => [(t, [d])]
  | (u, ds) :: rest =>
    if t < u then (t, [d]) :: (u, ds) :: rest
    else if t == u then (u, if ds.contains d then ds else ds ++ [d]) :: rest
    else (u, ds) :: putDependency t d rest

/-- Adds a dependency; it must name its target. -/
def withDependency (p : Package) (d : Dependency) : Except Error Package :=
  match d.spec.name with
  | none => .error (.anonymousRequested d.spec.text)
  | some t => .ok { p with dependencies := putDependency t d p.dependencies }

/-- Adds a provided virtual package; it must be named. -/
def withProvision (p : Package) (s : Spec) (c : Condition) : Except Error Package :=
  if s.isAnonymous then .error (.anonymousRequested s.text)
  else .ok { p with provides := p.provides ++ [⟨s, c⟩] }

/-- Does some provision name the virtual package. -/
def providesName (p : Package) (v : String) : Bool := p.provides.any (·.spec.name == some v)

end Package

end BuildSpec
