import BuildSpec.Spec.Basic

/-!
# Reading specs

The text of a spec is split at `^` into the root and its dependencies. Each part is a sequence
of tokens separated by optional blanks:

* a name (letters, digits, `_`, `-`), allowed only as the first token;
* `@versions`, a version constraint running to the next blank or sigil (`@ % + ~ ^`);
* `%compiler` with optional `@versions`;
* `+name`, `~name`, `+name=value` or `name=value`, a variant setting.

A dependency must have a name. Repeated dependencies of one name are merged into the first.
-/

namespace BuildSpec.Spec

/-- Characters that start a new token. -/
def isSigil (c : Char) : Bool := c == '@' || c == '%' || c == '+' || c == '~' || c == '^'

/-- Characters of a name. -/
def isNameChar (c : Char) : Bool := c.isAlphanum || c == '_' || c == '-'

/-- Everything up to the next blank or sigil. -/
def word (cs : List Char) : String × List Char :=
  (String.ofList (cs.takeWhile fun c => !Text.isBlank c && !isSigil c),
   cs.dropWhile fun c => !Text.isBlank c && !isSigil c)

/-- A name and the rest. -/
def nameOf (cs : List Char) : String × List Char :=
  (String.ofList (cs.takeWhile isNameChar), cs.dropWhile isNameChar)

/-- The state of reading one part: the spec so far, whether versions were given, and whether
no token has been read yet. -/
structure NodeState where
  spec : Spec := {}
  hasVersions : Bool := false
  first : Bool := true

/-- Reads `@versions`, the sigil already read. -/
def readVersions (text : String) (st : NodeState) (rest : List Char) :
    Except Error (NodeState × List Char) :=
  if st.hasVersions then .error (.parse s!"versions given twice in \"{text}\"")
  else
    let (w, rest) := word rest
    match Version.Constraint.parse w with
    | .ok v => .ok ({ st with spec := { st.spec with versions := v }, hasVersions := true }, rest)
    | .error e => .error e

/-- Reads `%compiler` with optional `@versions`, the sigil already read. -/
def readCompiler (text : String) (st : NodeState) (rest : List Char) :
    Except Error (NodeState × List Char) :=
  if st.spec.compiler.isSome then .error (.parse s!"compiler given twice in \"{text}\"")
  else
    let (n, rest) := nameOf rest
    if n.isEmpty then .error (.parse s!"expected a compiler name after '%' in \"{text}\"")
    else
      let versions : Except Error (Version.Constraint × List Char) := match rest with
        | '@' :: more => let (w, more) := word more; (·, more) <$> Version.Constraint.parse w
        | _ => .ok (.any, rest)
      match versions with
      | .ok (v, rest) => .ok ({ st with spec := { st.spec with compiler := some ⟨n, v⟩ } }, rest)
      | .error e => .error e

/-- Adds a variant setting to the spec read so far; `rest` is the text after it. -/
def addSetting (st : NodeState) (setting : Variant.Setting) (rest : List Char) :
    Except Error (NodeState × List Char) :=
  match st.spec.variants.insert setting with
  | .ok vs => .ok ({ st with spec := { st.spec with variants := vs } }, rest)
  | .error e => .error e

/-- Reads `+name`, `~name` or `+name=value`, the sigil `c` already read. -/
def readFlag (text : String) (st : NodeState) (c : Char) (rest : List Char) :
    Except Error (NodeState × List Char) :=
  let (n, rest) := nameOf rest
  if n.isEmpty then .error (.parse s!"expected a variant name after '{c}' in \"{text}\"")
  else
    match c, rest with
    | '+', '=' :: more => let (w, more) := word more; addSetting st ⟨n, Variant.Value.parse w⟩ more
    | _, _ => addSetting st ⟨n, .flag (c == '+')⟩ rest

/-- Reads a token that starts with a name: `name=value`, or the spec's name as the first token. -/
def readNamed (text : String) (st : NodeState) (cs : List Char) :
    Except Error (NodeState × List Char) :=
  let (n, rest) := nameOf cs
  match rest with
  | '=' :: more => let (w, more) := word more; addSetting st ⟨n, Variant.Value.parse w⟩ more
  | _ =>
    if st.first then .ok ({ st with spec := { st.spec with name := some n } }, rest)
    else .error (.parse s!"unexpected name \"{n}\" in \"{text}\"")

/-- Reads the token that starts with `c`: the state after it and the text that follows. -/
def readToken (text : String) (st : NodeState) (c : Char) (rest : List Char) :
    Except Error (NodeState × List Char) :=
  if c == '@' then readVersions text st rest
  else if c == '%' then readCompiler text st rest
  else if c == '+' || c == '~' then readFlag text st c rest
  else if isNameChar c then readNamed text st (c :: rest)
  else .error (.parse s!"unexpected character '{c}' in \"{text}\"")

/-- Reads the tokens of one part; `text` is the whole spec's text for messages. -/
def readTokens (text : String) : Nat → NodeState → List Char → Except Error NodeState
  | 0, st, _ => .ok st
  | fuel + 1, st, cs =>
    match cs.dropWhile Text.isBlank with
    | [] => .ok st
    | c :: rest =>
      match readToken text st c rest with
      | .ok (st, rest) => readTokens text fuel { st with first := false } rest
      | .error e => .error e

/-- Reads one part of a spec; a dependency part must hold a name. -/
def readNode (part text : String) (isRoot : Bool) : Except Error Spec := do
  let cs := part.toList
  let st ← readTokens text (cs.length + 1) {} cs
  if st.first && !isRoot then throw (.parse s!"expected a dependency after '^' in \"{text}\"")
  if !isRoot && st.spec.name.isNone then throw (.parse s!"dependency in \"{text}\" needs a name")
  pure st.spec

/-- Reads a spec from its text. -/
def parse (text : String) : Except Error Spec := do
  if (Text.trim text).isEmpty then throw (.parse "spec can't be empty")
  match Text.split '^' text with
  | [] => throw (.parse "spec can't be empty")
  | rootPart :: depParts =>
    let root ← readNode rootPart text true
    depParts.foldlM (fun (root : Spec) part => do
      let dep ← readNode part text false
      match root.dependencies.findIdx? (·.name == dep.name) with
      | some i =>
        match root.dependencies[i]? with
        | some e =>
          let (e', _) ← e.constrain dep
          pure { root with dependencies := root.dependencies.set i e' }
        | none => pure root
      | none => pure { root with dependencies := root.dependencies ++ [dep] }) root

end BuildSpec.Spec
