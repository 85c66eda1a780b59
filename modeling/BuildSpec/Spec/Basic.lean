import BuildSpec.Version.Constraint
import BuildSpec.Variant.Settings

/-!
# Specs

A spec describes a build, possibly partly: a package name, the allowed versions, a compiler with
its versions, variant settings, and specs of direct dependencies. A spec without a name is
anonymous; such specs serve as conditions (`~bluewaters`, `@2:`).

Its text is canonical: the name, `@versions` unless every version is allowed, `%compiler[@v]`,
the flags, ` key=v1,v2` for each set, then ` ^dep` for each dependency, with leading blanks
dropped.

`Spec.constrain` merges another spec into this one and tells whether anything changed; it fails
when a name, version range, compiler or variant cannot be met alongside this spec's, and then
leaves the spec as it was. `Spec.satisfies` asks whether a spec meets another's constraints:
strictly (its versions lie within the other's, everything the other sets is set here), or
loosely (overlapping versions, settings the other makes and this one leaves open allowed).
-/

namespace BuildSpec

/-- The compiler a spec is built with, written `%name[@versions]`. -/
structure Spec.Compiler where
  name : String
  versions : Version.Constraint
  deriving Repr

namespace Spec.Compiler

instance : BEq Spec.Compiler := ⟨fun a b => a.name == b.name && a.versions == b.versions⟩

/-- Same compiler with versions within (strict) or overlapping (loose) the other's. -/
def satisfies (c o : Spec.Compiler) (strict : Bool) : Bool :=
  c.name == o.name && (if strict then c.versions.isSubset o.versions else c.versions.overlaps o.versions)

/-- The text `%name` or `%name@versions`. -/
def text (c : Spec.Compiler) : String :=
  if c.versions.isAny then "%" ++ c.name else "%" ++ c.name ++ "@" ++ c.versions.text

/-- Narrows the versions to those of the same compiler `o` also allows. -/
def constrain (c o : Spec.Compiler) : Except Error (Spec.Compiler × Bool) :=
  if c.name != o.name then .error (.compilerConflict o.text c.text)
  else match c.versions.intersection o.versions with
    | some j => .ok ({ c with versions := j }, !(j == c.versions))
    | none => .error (.compilerConflict o.text c.text)

end Spec.Compiler

/-- A possibly partial description of a build. -/
structure Spec where
  name : Option String := none
  versions : Version.Constraint := .any
  variants : Variant.Settings := {}
  compiler : Option Spec.Compiler := none
  /-- Direct dependencies, given with `^`. -/
  dependencies : List Spec := []
  /-- Every axis is bound to one value. -/
  concrete : Bool := false
  deriving Repr

namespace Spec

mutual

/-- Specs are equal field by field, versions by their order. -/
def beq : Spec → Spec → Bool
  | ⟨n1, v1, s1, c1, d1, k1⟩, ⟨n2, v2, s2, c2, d2, k2⟩ =>
    n1 == n2 && v1 == v2 && s1 == s2 && c1 == c2 && k1 == k2 && beqList d1 d2

/-- Lists of specs are equal item by item. -/
def beqList : List Spec → List Spec → Bool
  | [], [] => true
  | a :: as, b :: bs => beq a b && beqList as bs
  | _, _ => false

end

instance : BEq Spec := ⟨beq⟩

/-- A spec with only a name. -/
def named (n : String) : Spec := { name := some n }

/-- Has the spec no name. -/
def isAnonymous (s : Spec) : Bool := s.name.isNone

/-- The first dependency with this name. -/
def dependency (s : Spec) (n : String) : Option Spec := s.dependencies.find? (·.name == some n)

/-- The spec without its dependencies. -/
def withoutDependencies (s : Spec) : Spec := { s with dependencies := [] }

mutual

/-- The canonical text of a spec, before leading blanks are dropped. -/
def rawText : Spec → String
  | ⟨name, versions, variants, compiler, deps, _⟩ =>
    name.getD "" ++ (if versions.isAny then "" else "@" ++ versions.text) ++
      ((compiler.map Spec.Compiler.text).getD "") ++ variants.text ++ depsText deps

/-- The ` ^dep` parts of a spec's text. -/
def depsText : List Spec → String
  | [] => ""
  | d :: ds => " ^" ++ Text.trimStart (rawText d) ++ depsText ds

end

/-- The canonical text of a spec. -/
def text (s : Spec) : String := Text.trimStart s.rawText

/-- Merges two optional names: a name given on both sides must be the same. Tells whether the
first changed. -/
def mergeName : Option String → Option String → Except Error (Option String × Bool)
  | some l, some r => if l != r then throw (Error.nameConflict r l) else pure (some l, false)
  | none, some r => pure (some r, true)
  | n, none => pure (n, false)

/-- Merges two optional compilers: a compiler given on both sides is narrowed. Tells whether the
first changed. -/
def mergeCompiler : Option Spec.Compiler → Option Spec.Compiler →
    Except Error (Option Spec.Compiler × Bool)
  | some l, some r => do
    let (c, ch) ← l.constrain r
    pure (some c, ch)
  | none, some r => pure (some r, true)
  | c, none => pure (c, false)

mutual

/-- Merges `o` into `s`: the name, versions, compiler and variants, then each dependency of `o`
into the first dependency of `s` with its name, or appended. Tells whether `s` changed. -/
def merge : Spec → Spec → Except Error (Spec × Bool)
  | s, ⟨oName, oVersions, oVariants, oCompiler, oDeps, oConcrete⟩ => do
    let (name, c1) ← mergeName s.name oName
    let (versions, c2) ← s.versions.constrain oVersions
    let (compiler, c3) ← mergeCompiler s.compiler oCompiler
    let (variants, c4) ← s.variants.constrain oVariants oConcrete
    let (deps, c5) ← mergeDeps s.dependencies oDeps
    pure ({ s with name, versions, compiler, variants, dependencies := deps }, c1 || c2 || c3 || c4 || c5)

/-- Merges each spec of the second list into the first list. -/
def mergeDeps : List Spec → List Spec → Except Error (List Spec × Bool)
  | ds, [] => .ok (ds, false)
  | ds, d :: rest =>
    match ds.findIdx? (fun e => e.name.isSome && e.name == d.name) with
    | some i =>
      match ds[i]? with
      | some e => do
        let (e', ch) ← merge e d
        let (r, ch') ← mergeDeps (ds.set i e') rest
        pure (r, ch || ch')
      | none => mergeDeps (ds ++ [d]) rest
    | none => do
      let (r, _) ← mergeDeps (ds ++ [d]) rest
      pure (r, true)

end

/-- Merges the constraints of `o` into `s`, telling whether `s` changed. -/
def constrain (s o : Spec) : Except Error (Spec × Bool) := merge s o

mutual

/-- Does `s` meet the constraints of `o`, strictly or loosely. -/
def satisfies : Spec → Spec → Bool → Bool
  | s, ⟨oName, oVersions, oVariants, oCompiler, oDeps, _⟩, strict =>
    (match oName with
      | some n => s.name == some n
      | none => true) &&
    (if strict then s.versions.isSubset oVersions else s.versions.overlaps oVersions) &&
    (match s.compiler, oCompiler with
      | _, none => true
      | none, some _ => !strict
      | some l, some r => l.satisfies r strict) &&
    s.variants.satisfies oVariants (strict || s.concrete) &&
    satisfiesDeps s oDeps strict

/-- Each of the specs is met by the dependency of `s` with its name; a missing one is allowed
only when loose. -/
def satisfiesDeps : Spec → List Spec → Bool → Bool
  | _, [], _ => true
  | s, d :: ds, strict =>
    (match d.name.bind s.dependency with
      | some e => satisfies e d strict
      | none => !strict) && satisfiesDeps s ds strict

end

end Spec

end BuildSpec
