import BuildSpec.Text.Blank

/-!
# Command-line options

The command line takes options anywhere among its words; the words that are not options are
kept in order as the free words. An option is written `-x` with its short name or `--name`
with its long name; a long option of one byte is the short one (`--v` is `-v`). Short flags
combine (`-sv`); an option that takes a value takes the rest of its word (`-rrepo`), the text
after `=` of a long word (`--repo=repo`), or else the next word. `--` ends the options and a
lone `-` is a free word.

Parsing stops at the first word that names no option, at an option missing its value, and at
a flag given a value with `=`; after all words are read, an option given twice fails, named by
its long name.

`usage` lays the options out in rows: four spaces, the short name, the long name and the value
hint, padded to 24 columns, then the description wrapped at 54 columns, continued under it.
-/

namespace BuildSpec

namespace Command

/-- An option the command line accepts. -/
structure OptionDecl where
  /-- One character, or empty when the option has only a long name. -/
  short : String
  long : String
  /-- The word shown for its value, when it takes one. -/
  hint : String
  description : String
  takesValue : Bool

/-- The options, in the order they are shown and checked. -/
def optionDecls : List OptionDecl := [
  ⟨"h", "help", "", "Show help", false⟩,
  ⟨"v", "verbose", "", "Increased verbosity", false⟩,
  ⟨"r", "repo", "DIR", "Directory of package recipes", true⟩,
  ⟨"c", "cache", "FILE",
    "Catalog snapshot, read instead of the repository when present and written after loading it", true⟩,
  ⟨"p", "prefs", "FILE", "Package preferences file", true⟩,
  ⟨"", "validate", "", "Validate recipes against the schema while loading", false⟩,
  ⟨"s", "select", "", "Also print the selected version and variants of every package", false⟩]

/-- Why a command line could not be read. -/
inductive OptionError where
  | missingArgument (name : String)
  | unrecognized (name : String)
  | duplicated (name : String)
  | unexpectedArgument (name : String)
  deriving DecidableEq, Repr

/-- The sentence of an option error. -/
def OptionError.message : OptionError → String
  | .missingArgument n => s!"Argument to option '{n}' missing"
  | .unrecognized n => s!"Unrecognized option: '{n}'"
  | .duplicated n => s!"Option '{n}' given more than once"
  | .unexpectedArgument n => s!"Option '{n}' does not take an argument"

/-- A read command line: each option given, by its position in `optionDecls`, with its value,
and the free words. -/
structure Matches where
  given : List (Nat × Option String) := []
  free : List String := []

/-- The position of the option a name written on the command line stands for. -/
def findOption (name : String) (isShort : Bool) : Option Nat :=
  optionDecls.findIdx? fun o => if isShort then o.short == name else o.long == name

/-- Is a word an option word: a dash followed by something. -/
def isOptionWord (w : String) : Bool := w.startsWith "-" && w.utf8ByteSize > 1

/-- The names of a short option word, stopping after the first option that takes a value, with
the rest of the word as that value when there is any. -/
def shortNames : List Char → Except OptionError (List (String × Nat) × Option String)
  | [] => .ok ([], none)
  | c :: rest =>
    match findOption c.toString true with
    | none => .error (.unrecognized c.toString)
    | some i =>
      if (optionDecls[i]?.map (·.takesValue)).getD false && !rest.isEmpty then
        .ok ([(c.toString, i)], some (String.ofList rest))
      else do
        let (names, value) ← shortNames rest
        pure ((c.toString, i) :: names, value)

/-- Records the names of one option word. An option taking a value with none in the word is
returned, with the name it was written as, to take the next word. -/
def record (names : List (String × Nat)) (value : Option String) (m : Matches) :
    Except OptionError (Matches × Option (String × Nat)) :=
  match names with
  | [] => .ok (m, none)
  | [(n, i)] =>
    if (optionDecls[i]?.map (·.takesValue)).getD false then
      match value with
      | some v => .ok ({ m with given := m.given ++ [(i, some v)] }, none)
      | none => .ok (m, some (n, i))
    else if value.isSome then .error (.unexpectedArgument n)
    else .ok ({ m with given := m.given ++ [(i, none)] }, none)
  | (_, i) :: more => record more value { m with given := m.given ++ [(i, none)] }

/-- The names of an option word and the value written in it. -/
def wordNames (w : String) : Except OptionError (List (String × Nat) × Option String) :=
  if w.startsWith "--" then
    let tail := (w.drop 2).toString
    let (name, value) := match tail.splitOn "=" with
      | n :: v :: vs => (n, some ("=".intercalate (v :: vs)))
      | _ => (tail, none)
    match findOption name (name.utf8ByteSize == 1) with
    | none => .error (.unrecognized name)
    | some i => .ok ([(name, i)], value)
  else shortNames (w.toList.drop 1)

/-- Reads the words, options anywhere among them. -/
def readWords : List String → Matches → Except OptionError Matches
  | [], m => .ok m
  | w :: rest, m =>
    if !isOptionWord w then readWords rest { m with free := m.free ++ [w] }
    else if w == "--" then .ok { m with free := m.free ++ rest }
    else
      match wordNames w with
      | .error e => .error e
      | .ok (names, value) =>
        match record names value m with
        | .error e => .error e
        | .ok (m, none) => readWords rest m
        | .ok (m, some (n, i)) =>
          match rest with
          | v :: rest2 => readWords rest2 { m with given := m.given ++ [(i, some v)] }
          | [] => .error (.missingArgument n)

/-- Reads a command line and checks that no option is given twice. -/
def parse (words : List String) : Except OptionError Matches := do
  let m ← readWords words {}
  for (o, i) in optionDecls.zipIdx do
    if (m.given.filter (·.1 == i)).length > 1 then
      throw (.duplicated (if o.long.isEmpty then o.short else o.long))
  pure m

/-- Was an option given, named by its short or long name. -/
def Matches.present (m : Matches) (name : String) : Bool :=
  match findOption name (name.utf8ByteSize == 1) with
  | some i => m.given.any (·.1 == i)
  | none => false

/-- The first value given to an option. -/
def Matches.value? (m : Matches) (name : String) : Option String :=
  match findOption name (name.utf8ByteSize == 1) with
  | some i => m.given.findSome? fun (j, v) => if j == i then v else none
  | none => none

/-! ## Usage -/

/-- Splits a description into rows of at most `limit` characters, breaking between words; a
longer word stands alone on its row. -/
def wrap (desc : String) (limit : Nat) : List String :=
  let lines := (Text.trim desc).splitOn "\n"
  lines.flatMap fun line =>
    let words := (line.split Char.isWhitespace).toList.map (·.toString) |>.filter (!·.isEmpty)
    let (rows, row) := words.foldl (fun (rows, row) w =>
      if row.isEmpty then (rows, w)
      else if row.length + 1 + w.length ≤ limit then (rows, row ++ " " ++ w)
      else (rows ++ [row], w)) (([] : List String), "")
    if row.isEmpty then rows else rows ++ [row]

/-- The row of one option. -/
def usageRow (anyShort : Bool) (o : OptionDecl) : String :=
  let short := if o.short.isEmpty then (if anyShort then "    " else "")
    else "-" ++ o.short ++ (if o.long.isEmpty then " " else ", ")
  let long := if o.long.isEmpty then "" else "--" ++ o.long ++ " "
  let row := "    " ++ short ++ long ++ o.hint
  let sep := "\n" ++ String.ofList (List.replicate 24 ' ')
  let row := if row.length < 24 then row ++ String.ofList (List.replicate (24 - row.length) ' ') else row ++ sep
  row ++ sep.intercalate (wrap o.description 54)

/-- The usage text: the brief line, then a row per option. -/
def usage (brief : String) : String :=
  let anyShort := optionDecls.any (!·.short.isEmpty)
  brief ++ "\n\nOptions:\n" ++ "\n".intercalate (optionDecls.map (usageRow anyShort)) ++ "\n"

end Command

end BuildSpec
