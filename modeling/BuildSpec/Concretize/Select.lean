import BuildSpec.Concretize.Expand

/-!
# Selection

Selection picks a version and variant values for each package of an expanded concretization.

The versions a recipe declares that the package's constraint contains are ranked by
1. the preference order, versions it lists before the ones it does not,
2. the recipe's `preferred` mark,
3. anything but `develop`,
4. newest first;
and the first is chosen. Each declared variant takes the setting the constraint gives it or else
its default. The compiler is carried over from the constraint.
-/

namespace BuildSpec

/-- The choices made for one package. -/
structure Selection where
  name : String
  version : Version
  variants : Variant.Settings
  compiler : Option Spec.Compiler
  deriving Repr

namespace Selection

/-- Selections are equal when they name the same package and choose equal versions, the same
settings and equal compilers. -/
instance : BEq Selection := ⟨fun a b => a.name == b.name && a.version == b.version &&
  a.variants == b.variants && a.compiler == b.compiler⟩

/-- The selection as a spec: the package at exactly the chosen version with the chosen settings. -/
def toSpec (s : Selection) : Spec :=
  { name := some s.name, versions := .exact s.version, variants := s.variants, compiler := s.compiler }

/-- The selection written as a spec. -/
def text (s : Selection) : String := s.toSpec.text

end Selection

namespace Concretization

/-- The candidate of a package, which must have been discovered. -/
def found (c : Concretization) (n : String) : Except Error Candidate :=
  match c.candidate? n with
  | some cand => .ok cand
  | none => .error (.unknownPackage n)

/-- Orders two ranked versions, the better first. -/
def compareRanked (a b : Option Nat × Bool × Version) : Ordering :=
  let rankOf : Option Nat → Nat ⊕ Unit := fun r => match r with | some k => .inl k | none => .inr ()
  let byRank : Ordering := match rankOf a.1, rankOf b.1 with
    | .inl x, .inl y => compare x y
    | .inl _, .inr _ => .lt
    | .inr _, .inl _ => .gt
    | .inr _, .inr _ => .eq
  byRank.then ((compare b.2.1 a.2.1).then ((compare a.2.2.isDevelop b.2.2.isDevelop).then (compare b.2.2 a.2.2)))

/-- The declared versions of a package that its constraint contains, best first. -/
def candidateVersions (c : Concretization) (n : String) : Except Error (List Version) := do
  let cand ← c.found n
  let some p := c.catalog.get? n | throw (.unknownPackage n)
  let rank := c.prefs.ranker n
  let allowed := p.versions.filter fun (v, _) => cand.spec.versions.contains v
  let ranked := allowed.map fun (v, preferred) => (rank v, preferred, v)
  pure ((ranked.mergeSort fun a b => compareRanked a b != .gt).map (·.2.2))

/-- The best version of a package. -/
def selectVersion (c : Concretization) (n : String) : Except Error Version := do
  match ← c.candidateVersions n with
  | v :: _ => pure v
  | [] => throw (.noVersions n ((c.candidate? n).map (·.spec.versions.text) |>.getD ""))

/-- A setting for every declared variant: the one the constraint gives, or else the default. -/
def selectVariants (c : Concretization) (n : String) : Except Error Variant.Settings := do
  let cand ← c.found n
  cand.variants.foldlM (fun m d => m.insert ((cand.spec.variants.get? d.name).getD d.defaultSetting)) {}

/-- The choices for one package. -/
def select (c : Concretization) (n : String) : Except Error Selection := do
  let version ← c.selectVersion n
  let variants ← c.selectVariants n
  let cand ← c.found n
  pure ⟨n, version, variants, cand.spec.compiler⟩

/-- The log record of a selection. -/
def selectedEntry (s : Selection) : Log.Entry := ⟨.debug, Log.selectionArea, "selected " ++ s.text⟩

/-- The choices for every package in name order, with their log records; the first package
that cannot be selected fails the whole, after the records of those before it. -/
def selectAll (c : Concretization) : List Log.Entry × Except Error (List (String × Selection)) :=
  let rec go : List String → List Log.Entry × Except Error (List (String × Selection))
    | [] => ([], .ok [])
    | n :: rest => match c.select n with
      | .error e => ([], .error e)
      | .ok s =>
        let (log, r) := go rest
        (selectedEntry s :: log, r.map ((n, s) :: ·))
  go (c.packages.map (·.1))

end Concretization

end BuildSpec
