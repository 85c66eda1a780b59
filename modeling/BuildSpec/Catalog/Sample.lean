import BuildSpec.Catalog.Basic
import BuildSpec.Catalog.Recipe

/-!
# The sample repository

Sixteen recipes that exercise every part of concretization: virtual packages with conditional
providers (`mpi` from `openmpi`, and from `mpich` at version 3 and above), conditional
dependencies (`enzo` needs `python` only with `+bluewaters`), exclusive and listed variants, a
preferred version, a `develop` version, a chain found one link per pass, and a package that
depends on a name nothing defines.
-/

namespace BuildSpec.Sample

/-- A text value. -/
def t (s : String) : Json := .string s

/-- An array of texts. -/
def ts (xs : List String) : Json := Json.strings xs

/-- The recipes, in order. -/
def recipes : List Json := [
  Json.obj [("name", t "enzo"), ("description", t "Adaptive mesh refinement simulation code"),
    ("versions", ts ["2.4", "2.5"]),
    ("variants", .array [Json.obj [("name", t "bluewaters"), ("default", .bool false),
      ("description", t "Build for Blue Waters")]]),
    ("depends_on", .array [t "hdf5+mpi", t "mpi",
      Json.obj [("spec", t "python"), ("when", t "+bluewaters"), ("type", t "run")],
      Json.obj [("spec", t "makedepend"), ("type", t "build")]])],
  Json.obj [("name", t "hdf5"), ("versions", ts ["1.8.16", "1.10.1"]),
    ("variants", .array [
      Json.obj [("name", t "mpi"), ("default", .bool true), ("description", t "Enable MPI support")],
      Json.obj [("name", t "api"), ("default", t "default"), ("values", ts ["default", "v18", "v110"])]]),
    ("depends_on", .array [t "zlib@1.1.2:", Json.obj [("spec", t "mpi"), ("when", t "+mpi")]])],
  Json.obj [("name", t "zlib"), ("versions", ts ["1.2.8", "1.2.11"]),
    ("variants", .array [Json.obj [("name", t "shared"), ("default", .bool true)]])],
  Json.obj [("name", t "openmpi"), ("versions", ts ["3.1.6", "4.1.1"]), ("provides", ts ["mpi@:3"])],
  Json.obj [("name", t "mpich"), ("versions", ts ["3.2.1", "3.4.2"]),
    ("provides", .array [Json.obj [("spec", t "mpi@:3"), ("when", t "@3:")]])],
  Json.obj [("name", t "python"), ("versions", ts ["2.7.18", "3.9.7"]), ("depends_on", ts ["zlib"])],
  Json.obj [("name", t "makedepend"), ("versions", ts ["1.0.5"])],
  Json.obj [("name", t "A"), ("versions", ts ["1.0"]), ("depends_on", ts ["mpi"])],
  Json.obj [("name", t "B"), ("versions", ts ["1.0"]),
    ("variants", .array [Json.obj [("name", t "feature"), ("default", t "x"), ("values", ts ["x", "y", "z"])]])],
  Json.obj [("name", t "P"), ("versions", ts ["1.0", "1.2", "2.0", "develop"])],
  Json.obj [("name", t "Q"), ("versions", .array [t "1.0",
    Json.obj [("version", t "1.5"), ("preferred", .bool true)], t "2.0"])],
  Json.obj [("name", t "chain0"), ("versions", ts ["1.0"]), ("depends_on", ts ["chain1"])],
  Json.obj [("name", t "chain1"), ("versions", ts ["1.0"]), ("depends_on", ts ["chain2"])],
  Json.obj [("name", t "chain2"), ("versions", ts ["1.0"]), ("depends_on", ts ["chain3"])],
  Json.obj [("name", t "chain3"), ("versions", ts ["1.0"])],
  Json.obj [("name", t "broken"), ("versions", ts ["1.0"]), ("depends_on", ts ["missing"])]]

/-- The number of dependency declarations across the recipes. -/
def dependencyCount : Nat :=
  (recipes.filterMap fun r => (r.get? "depends_on").bind Json.asArray? |>.map List.length).foldr Nat.add 0

end BuildSpec.Sample

namespace BuildSpec.Catalog

/-- A catalog of recipe documents, read and added in order. -/
def ofRecipes (rs : List Json) : Except Error Catalog :=
  rs.foldlM (fun c r => do c.add (← Package.ofJson r)) {}

/-- The catalog of the sample repository. -/
def sample : Except Error Catalog := ofRecipes Sample.recipes

end BuildSpec.Catalog
