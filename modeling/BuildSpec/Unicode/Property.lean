import BuildSpec.Unicode.CharSet
import BuildSpec.Unicode.Names
import BuildSpec.Unicode.Data.Category
import BuildSpec.Unicode.Data.Script
import BuildSpec.Unicode.Data.Binary
import BuildSpec.Unicode.Data.Break

/-!
# Unicode properties as sets of characters

A class `\p{...}` of a pattern names a property, or a property and one of its values, and
stands for the characters that have it. `Query.resolve` finds the set or says why there is none:
the property is unknown (`PropertyFault.propertyNotFound`) or the value is
(`PropertyFault.valueNotFound`).

Names are compared loosely (`looseName`): case, blanks, `_` and `-` do not count, nor does a
leading `is`. A name alone is tried as a binary property, then as a general category, then as a
script; the short names `cf`, `sc` and `lc` skip the first step, since as properties they would
name case folding, the script and lower case mapping rather than the categories format,
currency symbol and cased letter. A property with a value knows the values of the general
category, the script, the script extensions, the age and the grapheme, word and sentence break
classes. An age stands for every character assigned by that version or an earlier one.

The sets `digitSet`, `spaceSet` and `wordSet` are the Unicode meanings of `\d`, `\s` and `\w`.
-/

namespace BuildSpec.Unicode

/-- A name with case, blanks, `_` and `-` removed, characters outside ASCII dropped, and a
leading `is` removed, except that `isc` stays as it is. -/
def looseName (s : String) : String :=
  let cs := s.toList
  let (strip, rest) := match cs with
    | a :: b :: more => if (a == 'i' || a == 'I') && (b == 's' || b == 'S') then (true, more) else (false, cs)
    | _ => (false, cs)
  let kept := rest.filterMap fun c =>
    if c == ' ' || c == '_' || c == '-' || c.toNat > 0x7F then none else some c.toLower
  if strip && kept == ['c'] then "isc" else String.ofList kept

/-- The long name (second alias) of the first entry with an alias that matches loosely. -/
def longNameIn (table : List (List String)) (loose : String) : Option String :=
  (table.find? fun names => names.any fun n => looseName n == loose).bind fun names => names[1]?

/-- Why a property class has no set. -/
inductive PropertyFault where
  | propertyNotFound
  | valueNotFound
  deriving DecidableEq, Repr

/-- What a class `\p{...}` asks for: one letter, a name, or a property with a value. -/
inductive Query where
  | oneLetter (c : Char)
  | named (name : String)
  | withValue (property value : String)
  deriving DecidableEq, Repr

/-- Intervals of code points without the gap U+D800 to U+DFFF, as a set of characters. -/
def charsOf (rs : List (Nat × Nat)) : CharSet :=
  normalize (rs.flatMap fun (lo, hi) =>
    if hi < 0xD800 || lo > 0xDFFF then [(lo, hi)]
    else (if lo < 0xD800 then [(lo, 0xD7FF)] else []) ++ (if hi > 0xDFFF then [(0xE000, hi)] else []))

/-- The category table. -/
def categoryRuns : Runs := Runs.ofText categoryRunsText

/-- The age table. -/
def ageRuns : Runs := Runs.ofText ageRunsText

/-- The script table. -/
def scriptRuns : Runs := Runs.ofText scriptRunsText

/-- The script extension table. -/
def extensionRuns : Runs := Runs.ofText extensionRunsText

/-- The sets of scripts of the script extension table. -/
def extensionSets : Array (List Nat) := (groupsOfNumerals (numerals extensionSetsText)).toArray

/-- The position of a leaf category, by short name. -/
def leafIndex (short : String) : Option Nat :=
  (leafCategories.toList.zipIdx.find? fun (names, _) => names.head? == some short).map (·.2)

/-- The characters of the leaf categories with the given short names. -/
def categorySet (shorts : List String) : CharSet :=
  let wanted := shorts.filterMap leafIndex
  charsOf (categoryRuns.rangesWhere wanted.contains)

/-- The characters of the general category with the given long name. -/
def generalCategorySet (long : String) : CharSet :=
  match leafCategories.toList.find? (fun names => names[1]? == some long) with
  | some names => categorySet (names.take 1)
  | none =>
    match groupCategories.find? (fun (names, _) => names[1]? == some long) with
    | some (_, leaves) => categorySet leaves
    | none => []

/-- The characters of a binary property, by long name. -/
def binarySet? (long : String) : Option CharSet :=
  (binaryProperties.lookup long).map fun text => charsOf (Ranges.ofText text).toList

/-- The characters of a binary property that is surely known. -/
def binarySet (long : String) : CharSet := (binarySet? long).getD []

/-- The decimal digits, general category `Nd`: the meaning of `\d`. -/
def digitSet : CharSet := categorySet ["Nd"]

/-- The white space characters: the meaning of `\s`. -/
def spaceSet : CharSet := binarySet "White_Space"

/-- The word characters: alphabetic characters, marks, decimal digits, connector punctuation
and the joiners. This is the meaning of `\w`. -/
def wordSet : CharSet :=
  normalize (binarySet "Alphabetic" ++ categorySet ["Mn", "Mc", "Me", "Nd", "Pc"] ++ binarySet "Join_Control")

/-- The long name of a general category, allowing also `any`, `assigned` and `ascii`. -/
def generalCategoryName (loose : String) : Option String :=
  if loose == "any" then some "Any"
  else if loose == "assigned" then some "Assigned"
  else if loose == "ascii" then some "ASCII"
  else longNameIn (leafCategories.toList ++ groupCategories.map (·.1)) loose

/-- The characters of a general category, by the long names `generalCategoryName` gives. -/
def categoryClass (long : String) : CharSet :=
  if long == "Decimal_Number" then digitSet
  else if long == "Any" then [(0, maxCode)]
  else if long == "Assigned" then (generalCategorySet "Unassigned").complement
  else if long == "ASCII" then [(0, 0x7F)]
  else generalCategorySet long

/-- The position of a script, by long name. -/
def scriptIndex (long : String) : Option Nat :=
  (scripts.toList.zipIdx.find? fun (names, _) => names[1]? == some long).map (·.2)

/-- The scripts without a table of their own: unknown, and Katakana or Hiragana. -/
def scriptWithoutTable (long : String) : Bool := long == "Unknown" || long == "Katakana_Or_Hiragana"

/-- The characters of a script, by long name. -/
def scriptClass (long : String) : Except PropertyFault CharSet :=
  match scriptIndex long with
  | some i => if scriptWithoutTable long then .error .valueNotFound else .ok (charsOf (scriptRuns.rangesWhere (· == i)))
  | none => .error .valueNotFound

/-- The characters used with a script, by long name. -/
def extensionClass (long : String) : Except PropertyFault CharSet :=
  match scriptIndex long with
  | some i =>
    if scriptWithoutTable long then .error .valueNotFound
    else .ok (charsOf (extensionRuns.rangesWhere fun k => (extensionSets[k]?.getD []).contains i))
  | none => .error .valueNotFound

/-- The characters assigned by a version or an earlier one, by the version's long name. -/
def ageClass (long : String) : Except PropertyFault CharSet :=
  match (ages.toList.zipIdx.find? fun (names, _) => names[1]? == some long) with
  | some (_, i) => .ok (charsOf (ageRuns.rangesWhere fun k => 1 ≤ k && k ≤ i + 1))
  | none => .error .valueNotFound

/-- The characters with a value of a break property; the value other has no table, nor has a
value no character takes. -/
def breakClass (values : Array (List String)) (runs : Runs) (long : String) : Except PropertyFault CharSet :=
  match (values.toList.zipIdx.find? fun (names, _) => names[1]? == some long) with
  | some (_, i) =>
    let set := charsOf (runs.rangesWhere (· == i))
    if long == "Other" || set.isEmpty then .error .valueNotFound else .ok set
  | none => .error .valueNotFound

/-- The values, with their aliases, of the properties that can be asked with a value. -/
def valuesOf : String → Option (List (List String))
  | "General_Category" => some (leafCategories.toList ++ groupCategories.map (·.1))
  | "Script" | "Script_Extensions" => some scripts.toList
  | "Age" => some (ages.toList ++ [["NA", "Unassigned"]])
  | "Grapheme_Cluster_Break" => some graphemeBreakValues.toList
  | "Word_Break" => some wordBreakValues.toList
  | "Sentence_Break" => some sentenceBreakValues.toList
  | _ => none

/-- The set of a name alone: a binary property, a general category or a script. -/
def namedClass (name : String) : Except PropertyFault CharSet :=
  let loose := looseName name
  let asProperty := if loose == "cf" || loose == "sc" || loose == "lc" then none else longNameIn propertyAliases loose
  match asProperty with
  | some long => match binarySet? long with
    | some s => .ok s
    | none => .error .propertyNotFound
  | none =>
    match generalCategoryName loose with
    | some long => .ok (categoryClass long)
    | none =>
      match longNameIn scripts.toList loose with
      | some long => scriptClass long
      | none => .error .propertyNotFound

/-- The set of a property with a value. -/
def valueClass (property value : String) : Except PropertyFault CharSet :=
  let loose := looseName value
  match longNameIn propertyAliases (looseName property) with
  | none => .error .propertyNotFound
  | some "General_Category" =>
    match generalCategoryName loose with
    | some long => .ok (categoryClass long)
    | none => .error .valueNotFound
  | some "Script" =>
    match longNameIn scripts.toList loose with
    | some long => scriptClass long
    | none => .error .valueNotFound
  | some prop =>
    match valuesOf prop with
    | none => .error .valueNotFound
    | some values =>
      match longNameIn values loose with
      | none => .error .valueNotFound
      | some long =>
        match prop with
        | "Age" => ageClass long
        | "Script_Extensions" => extensionClass long
        | "Grapheme_Cluster_Break" => breakClass graphemeBreakValues (Runs.ofText graphemeBreakRunsText) long
        | "Word_Break" => breakClass wordBreakValues (Runs.ofText wordBreakRunsText) long
        | "Sentence_Break" => breakClass sentenceBreakValues (Runs.ofText sentenceBreakRunsText) long
        | _ => .error .propertyNotFound

/-- The set a class asks for. -/
def Query.resolve : Query → Except PropertyFault CharSet
  | .oneLetter c => namedClass (String.singleton c)
  | .named name => namedClass name
  | .withValue property value => valueClass property value

/-- The alphabetic characters. -/
def alphabeticSet : CharSet := binarySet "Alphabetic"

/-- The numeric characters: those of the general categories `Nd`, `Nl` and `No`. -/
def numericSet : CharSet := categorySet ["Nd", "Nl", "No"]

end BuildSpec.Unicode
