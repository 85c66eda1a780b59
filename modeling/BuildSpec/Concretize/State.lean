import BuildSpec.Concretize.Graph
import BuildSpec.Catalog.Basic
import BuildSpec.Prefs
import BuildSpec.Log

/-!
# The state of a concretization

Concretization starts from the specs a user requests and discovers every package and virtual
package that might end up in the build. For each package it keeps a `Candidate`: the spec
gathering all constraints the requests place on it, the declared dependencies whose conditions
may apply, and the package's variant declarations. For each virtual package it keeps the names
of the providers found.

`Concretization.report` is the text report of this state.
-/

namespace BuildSpec

/-- The sum of a list of counts. -/
def total (xs : List Nat) : Nat := xs.foldr Nat.add 0

/-- Everything known about a package that might be in the build. -/
structure Candidate where
  /-- Every constraint the requests place on the package. -/
  spec : Spec
  /-- Declared dependencies whose condition may apply, by target, targets in name order. -/
  dependencies : List (String × List Dependency) := []
  /-- The package's variant declarations, in name order. -/
  variants : List Variant.Decl := []
  deriving Repr

namespace Candidate

/-- Candidates are equal when their specs are equal under `==` and they hold equal records and
declarations. -/
instance : BEq Candidate := ⟨fun a b => a.spec == b.spec && a.dependencies == b.dependencies &&
  a.variants == b.variants⟩

/-- The package's name. -/
def name (c : Candidate) : String := c.spec.name.getD ""

/-- Records a dependency under its target, and tells whether it was new. -/
def addDependency (c : Candidate) (d : Dependency) : Candidate × Bool :=
  let t := d.target
  match c.dependencies.lookup t with
  | some ds => if ds.contains d then (c, false) else ({ c with dependencies := Package.putDependency t d c.dependencies }, true)
  | none => ({ c with dependencies := Package.putDependency t d c.dependencies }, true)

/-- Adds a declaration to a list kept in name order unless one of its name is there. -/
def addVariant (ds : List Variant.Decl) (d : Variant.Decl) : List Variant.Decl :=
  if ds.any (·.name == d.name) then ds
  else
    let (before, after) := ds.span (·.name < d.name)
    before ++ d :: after

/-- The number of dependencies recorded. -/
def dependencyCount (c : Candidate) : Nat := total (c.dependencies.map (·.2.length))

/-- The report of a candidate. -/
def report (c : Candidate) : String :=
  "Package: " ++ c.name ++ "\n  Constraint: " ++ c.spec.text ++ "\n  Dependencies:\n" ++
  String.join (c.dependencies.map fun (t, ds) =>
    "    " ++ t ++ ":\n" ++ String.join (ds.map fun d => "      " ++ d.text ++ "\n")) ++
  "  Variants:\n" ++ String.join (c.variants.map fun v => "    " ++ v.text ++ "\n")

end Candidate

/-- Puts a value under a key of a list kept in key order. -/
def putSorted {α : Type} (k : String) (v : α) : List (String × α) → List (String × α)
  | [] => [(k, v)]
  | (k', v') :: rest =>
    if k < k' then (k, v) :: (k', v') :: rest
    else if k == k' then (k, v) :: rest
    else (k', v') :: putSorted k v rest

/-- A concretization: the requests, what has been discovered, and how. -/
structure Concretization where
  catalog : Catalog
  prefs : Prefs := {}
  /-- The specs as requested. -/
  initial : List Spec := []
  /-- The requested specs, without their dependencies. -/
  leaf : List Spec := []
  /-- The specs given as `^dependency` of a request, without their own dependencies. -/
  needed : List Spec := []
  /-- Candidates by package name, in name order. -/
  packages : List (String × Candidate) := []
  /-- Providers found for each virtual package, both in name order. -/
  virtuals : List (String × List String) := []
  graph : Graph := {}
  /-- Expansion passes run, the last one finding nothing new. -/
  passes : Nat := 0
  /-- Log records, oldest first. -/
  log : Array Log.Entry := #[]

namespace Concretization

/-- The candidate of a package. -/
def candidate? (c : Concretization) (n : String) : Option Candidate := c.packages.lookup n

/-- The providers found for a virtual package. -/
def virtual? (c : Concretization) (n : String) : Option (List String) := c.virtuals.lookup n

/-- Adds a log record. -/
def note (c : Concretization) (level : Log.Level) (area msg : String) : Concretization :=
  { c with log := c.log.push ⟨level, area, msg⟩ }

/-- The text report: the leaf and needed specs, then each candidate and virtual package. -/
def report (c : Concretization) : String :=
  "Initial State:\nLeaf Packages:\n" ++ String.join (c.leaf.map fun s => "  " ++ s.text ++ "\n") ++
  "Needed dependencies:\n" ++ String.join (c.needed.map fun s => "  " ++ s.text ++ "\n") ++
  "Packages which might be in tree:\n" ++ String.join (c.packages.map (·.2.report)) ++
  "Virtual packages which might be in tree:\n" ++
  String.join (c.virtuals.map fun (n, ps) =>
    "Virtual Package: " ++ n ++ "\n  Possible Providers:\n" ++ String.join (ps.map fun p => "    " ++ p ++ "\n"))

end Concretization

end BuildSpec
