import BuildSpec.Disk
import BuildSpec.Json.Write

/-!
# Writing a recipe repository

A repository is written from a list of recipes so that loading it has to walk a tree: recipe
`i` goes to `<i>-<name>.json`, at the top when `i` is even and in the `more` directory when it
is odd, as pretty-printed text. A recipe without a text `name` is written as `unnamed`.
-/

namespace BuildSpec

namespace Repository

/-- The file name of recipe `i`. -/
def fileName (i : Nat) (recipe : Json) : String :=
  let name := match recipe.get? "name" with
    | some (.string n) => n
    | _ => "unnamed"
  s!"{i}-{name}.json"

/-- Where recipe `i` is written. -/
def pathOf (i : Nat) (recipe : Json) : String :=
  if i % 2 == 0 then fileName i recipe else Path.join "more" (fileName i recipe)

/-- Writes the recipes into an empty disk. -/
def write (recipes : List Json) : Except IoError Disk := do
  let d ← ({} : Disk).createDirAll "more"
  recipes.zipIdx.foldlM (fun d (r, i) =>
    d.writeFile (pathOf i r) (Json.pretty r).toUTF8.toList) d

end Repository

end BuildSpec
