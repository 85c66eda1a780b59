import BuildSpec.Catalog.Package

/-!
# Catalogs

A catalog holds package recipes in a table keyed by name. Recipes loaded from a directory are
keyed by their own names; a table read back from a snapshot may key a recipe by another name,
and every lookup goes by the key. A name that is no key but that some recipe provides is
virtual; `Catalog.providersFor` lists, for each provision of a virtual package, the provider's
own name with the provision's condition as the rest of the spec.
-/

namespace BuildSpec

/-- Package recipes by key, in key order. -/
structure Catalog where
  packages : List (String × Package) := []
  deriving Repr

namespace Catalog

/-- The recipe under a key. -/
def get? (c : Catalog) (n : String) : Option Package := c.packages.lookup n

/-- Is a recipe under this key. -/
def contains (c : Catalog) (n : String) : Bool := (c.packages.lookup n).isSome

/-- The number of recipes. -/
def size (c : Catalog) : Nat := c.packages.length

/-- The recipes, in key order. -/
def recipes (c : Catalog) : List Package := c.packages.map (·.2)

/-- The recipes' own names, in key order. -/
def names (c : Catalog) : List String := c.recipes.map (·.name)

/-- Puts a recipe under a key, in key order. -/
def putPackage (k : String) (p : Package) : List (String × Package) → List (String × Package)
  | [] => [(k, p)]
  | (k', q) :: qs => if k < k' then (k, p) :: (k', q) :: qs else (k', q) :: putPackage k p qs

/-- Adds a recipe under its name; a name may be defined once. -/
def add (c : Catalog) (p : Package) : Except Error Catalog :=
  if c.contains p.name then .error (.parse s!"package \"{p.name}\" is defined twice")
  else .ok ⟨putPackage p.name p c.packages⟩

/-- A catalog of these recipes, added in order. -/
def ofPackages (ps : List Package) : Except Error Catalog := ps.foldlM add {}

/-- The specs of the providers of a virtual package, one per provision: the provider's name with
the provision's condition. -/
def providersFor (c : Catalog) (v : String) : List Spec :=
  c.recipes.flatMap fun p =>
    (p.provides.filter (·.spec.name == some v)).map fun pr =>
      match pr.condition with
      | .always => Spec.named p.name
      | .when s => { s with name := some p.name }

/-- A name no recipe defines but some recipe provides. -/
def isVirtual (c : Catalog) (n : String) : Bool := !c.contains n && c.recipes.any (·.providesName n)

/-- A name defined or provided. -/
def knows (c : Catalog) (n : String) : Bool := c.contains n || c.isVirtual n

end Catalog

end BuildSpec
