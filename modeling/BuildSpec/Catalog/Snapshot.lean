import BuildSpec.Catalog.Basic
import BuildSpec.Disk

/-!
# Catalog snapshots

A snapshot stores a catalog as bytes so that it can be read back without walking a recipe
directory. The layout is fixed-width and little-endian:

* a count or a length is 8 bytes, a choice between alternatives is a 4-byte index, a flag and
  the presence mark of an optional value are 1 byte each;
* a text is its length in bytes followed by its UTF-8 bytes;
* a list or a keyed table is its count followed by its items, a table's items each being a
  key followed by a value;
* a record is its fields in order.

Reading refuses a flag other than 0 or 1, a presence mark other than 0 or 1, an index past
the alternatives, a text that is not UTF-8, and a pattern that does not compile; data that
ends early fails as a short read. Bytes after the catalog are ignored. A table read back keeps
the last value of a repeated key, and for versions the first text of equal versions.

`decode (encode c)` gives `c` back.
-/

namespace BuildSpec

namespace Snapshot

/-! ## Writing -/

/-- `width` bytes of `n`, least significant first. -/
def le : Nat → Nat → List UInt8
  | 0, _ => []
  | w + 1, n => (n % 256).toUInt8 :: le w (n / 256)

/-- A count, a length or a 64-bit number. -/
def u64 (n : Nat) : List UInt8 := le 8 n

/-- The index of an alternative. -/
def tag (n : Nat) : List UInt8 := le 4 n

/-- A flag. -/
def flag (b : Bool) : List UInt8 := [if b then 1 else 0]

/-- A text: its byte length, then its bytes. -/
def text (s : String) : List UInt8 := u64 s.utf8ByteSize ++ s.toUTF8.toList

/-- An optional value: a presence mark, then the value if present. -/
def option {α : Type} (f : α → List UInt8) : Option α → List UInt8
  | none => [0]
  | some a => 1 :: f a

/-- A list: its count, then its items. -/
def seq {α : Type} (f : α → List UInt8) (xs : List α) : List UInt8 :=
  u64 xs.length ++ xs.flatMap f

/-- A version: its text, then its parts. -/
def version (v : Version) : List UInt8 :=
  text v.text ++ seq (fun
    | .alpha s => tag 0 ++ text s
    | .num n => tag 1 ++ u64 n) v.parts

/-- A version range. -/
def range : Version.Range → List UInt8
  | .any => tag 0
  | .exact v => tag 1 ++ version v
  | .atLeast v => tag 2 ++ version v
  | .atMost v => tag 3 ++ version v
  | .between a b => tag 4 ++ version a ++ version b

/-- A version constraint. -/
def constraint (c : Version.Constraint) : List UInt8 := seq range c.ranges

/-- A variant value. -/
def value : Variant.Value → List UInt8
  | .flag b => tag 0 ++ flag b
  | .texts vs => tag 1 ++ seq text vs

/-- A setting: its name, then its value. -/
def setting (s : Variant.Setting) : List UInt8 := text s.name ++ value s.value

/-- Settings: a table from variant name to setting. -/
def settings (m : Variant.Settings) : List UInt8 := seq (fun s => text s.name ++ setting s) m.entries

mutual

/-- A spec. -/
def spec : Spec → List UInt8
  | ⟨name, versions, variants, compiler, deps, concrete⟩ =>
    option text name ++ constraint versions ++ settings variants ++
      option (fun (c : Spec.Compiler) => text c.name ++ constraint c.versions) compiler ++
      u64 deps.length ++ specs deps ++ flag concrete

/-- Specs one after another. -/
def specs : List Spec → List UInt8
  | [] => []
  | s :: ss => spec s ++ specs ss

end

/-- A condition. -/
def condition : Condition → List UInt8
  | .always => tag 0
  | .when s => tag 1 ++ spec s

/-- A dependency phase. -/
def phase : Dependency.Phase → List UInt8
  | .build => tag 0
  | .link => tag 1
  | .run => tag 2

/-- A dependency. -/
def dependency (d : Dependency) : List UInt8 := spec d.spec ++ seq phase d.phases ++ condition d.condition

/-- A provision. -/
def provision (p : Provision) : List UInt8 := spec p.spec ++ condition p.condition

/-- The values a variant allows. -/
def allowed : Variant.Allowed → List UInt8
  | .listed vs => tag 0 ++ seq text vs
  | .integer => tag 1 ++ tag 0
  | .matching src _ => tag 1 ++ tag 1 ++ text src

/-- A variant declaration. -/
def decl (d : Variant.Decl) : List UInt8 :=
  text d.name ++ value d.default ++ text d.description ++ allowed d.allowed ++ flag d.exclusive

/-- A package. -/
def package (p : Package) : List UInt8 :=
  text p.name ++ option text p.description ++
    seq (fun (v, preferred) => version v ++ flag preferred) p.versions ++
    seq (fun (k, d) => text k ++ decl d) p.variants ++
    seq (fun (t, ds) => text t ++ seq dependency ds) p.dependencies ++
    seq provision p.provides

/-- A catalog: a table from package name to package. -/
def encode (c : Catalog) : List UInt8 := seq (fun (k, p) => text k ++ package p) c.packages

/-! ## Reading -/

/-- A reader of values from the front of the bytes left. -/
abbrev Reader := StateT (List UInt8) (Except SnapshotError)

/-- The next `n` bytes. -/
def bytes (n : Nat) : Reader (List UInt8) := fun bs =>
  if bs.length < n then .error (.io .unexpectedEnd) else .ok (bs.take n, bs.drop n)

/-- The number whose `width` bytes, least significant first, are next. -/
def readLe (width : Nat) : Reader Nat := do
  let bs ← bytes width
  pure (bs.foldr (fun b acc => acc * 256 + b.toNat) 0)

/-- A count, a length or a 64-bit number. -/
def readU64 : Reader Nat := readLe 8

/-- A flag. -/
def readFlag : Reader Bool := do
  match ← readLe 1 with
  | 0 => pure false
  | 1 => pure true
  | b => throw (.invalidBool b)

/-- The index of one of `n` alternatives. -/
def readTag (n : Nat) : Reader Nat := do
  let t ← readLe 4
  if t < n then pure t
  else throw (.refused s!"invalid value: integer `{t}`, expected variant index 0 <= i < {n}")

/-- Is a byte a continuation byte of a UTF-8 sequence. -/
def isCont (b : Nat) : Bool := 0x80 ≤ b && b < 0xC0

/-- Checks UTF-8 from a position: the position of the first bad sequence, with its length
when it is wrong rather than cut short. -/
def utf8Error? (bs : List Nat) (pos : Nat) : Option (Nat × Option Nat) :=
  match bs with
  | [] => none
  | b :: rest =>
    if b < 0x80 then utf8Error? rest (pos + 1)
    else
      let secondOk (c : Nat) : Bool :=
        if b == 0xE0 then 0xA0 ≤ c && c < 0xC0
        else if b == 0xED then 0x80 ≤ c && c < 0xA0
        else if b == 0xF0 then 0x90 ≤ c && c < 0xC0
        else if b == 0xF4 then 0x80 ≤ c && c < 0x90
        else isCont c
      let width := if 0xC2 ≤ b && b < 0xE0 then 2 else if 0xE0 ≤ b && b < 0xF0 then 3
        else if 0xF0 ≤ b && b < 0xF5 then 4 else 0
      if width == 0 then some (pos, some 1)
      else match rest with
        | [] => some (pos, none)
        | c :: rest2 =>
          if !secondOk c then some (pos, some 1)
          else if width == 2 then utf8Error? rest2 (pos + 2)
          else match rest2 with
            | [] => some (pos, none)
            | d :: rest3 =>
              if !isCont d then some (pos, some 2)
              else if width == 3 then utf8Error? rest3 (pos + 3)
              else match rest3 with
                | [] => some (pos, none)
                | e :: rest4 =>
                  if !isCont e then some (pos, some 3)
                  else utf8Error? rest4 (pos + 4)

/-- A text: its byte length, then its bytes, which must be UTF-8. -/
def readText : Reader String := do
  let n ← readU64
  let bs ← bytes n
  match utf8Error? (bs.map (·.toNat)) 0 with
  | some (pos, some len) => throw (.invalidUtf8 s!"invalid utf-8 sequence of {len} bytes from index {pos}")
  | some (pos, none) => throw (.invalidUtf8 s!"incomplete utf-8 byte sequence from index {pos}")
  | none => pure ((String.fromUTF8? ⟨bs.toArray⟩).getD "")

/-- An optional value. -/
def readOption {α : Type} (r : Reader α) : Reader (Option α) := do
  match ← readLe 1 with
  | 0 => pure none
  | 1 => pure (some (← r))
  | t => throw (.invalidTag t)

/-- `n` items. -/
def readMany {α : Type} (r : Reader α) : Nat → Reader (List α)
  | 0 => pure []
  | n + 1 => do
    let a ← r
    let rest ← readMany r n
    pure (a :: rest)

/-- A list: its count, then its items. -/
def readSeq {α : Type} (r : Reader α) : Reader (List α) := do readMany r (← readU64)

/-- Puts a value under a key of a table kept in key order; a repeated key takes the value. -/
def putKeyed {α : Type} (k : String) (v : α) : List (String × α) → List (String × α)
  | [] => [(k, v)]
  | (k', v') :: rest =>
    if k < k' then (k, v) :: (k', v') :: rest
    else if k == k' then (k, v) :: rest
    else (k', v') :: putKeyed k v rest

/-- A table with text keys, in key order. -/
def readTable {α : Type} (r : Reader α) : Reader (List (String × α)) := do
  let items ← readSeq (do let k ← readText; let v ← r; pure (k, v))
  pure (items.foldl (fun t (k, v) => putKeyed k v t) [])

/-- A version. -/
def readVersion : Reader Version := do
  let t ← readText
  let parts ← readSeq (do
    match ← readTag 2 with
    | 0 => pure (Version.Part.alpha (← readText))
    | _ => pure (Version.Part.num (← readU64)))
  pure ⟨t, parts⟩

/-- A version range. -/
def readRange : Reader Version.Range := do
  match ← readTag 5 with
  | 0 => pure .any
  | 1 => pure (.exact (← readVersion))
  | 2 => pure (.atLeast (← readVersion))
  | 3 => pure (.atMost (← readVersion))
  | _ => do
    let a ← readVersion
    let b ← readVersion
    pure (.between a b)

/-- A version constraint. -/
def readConstraint : Reader Version.Constraint := do pure ⟨← readSeq readRange⟩

/-- A variant value. -/
def readValue : Reader Variant.Value := do
  match ← readTag 2 with
  | 0 => pure (.flag (← readFlag))
  | _ => pure (.texts (← readSeq readText))

/-- A setting. -/
def readSetting : Reader Variant.Setting := do
  let n ← readText
  let v ← readValue
  pure ⟨n, v⟩

/-- Settings, in name order. -/
def readSettings : Reader Variant.Settings := do
  pure ⟨(← readTable readSetting).map (·.2)⟩

/-- A compiler. -/
def readCompiler : Reader Spec.Compiler := do
  let n ← readText
  let v ← readConstraint
  pure ⟨n, v⟩

mutual

/-- A spec; `fuel` bounds the nesting of dependencies. -/
def readSpec : Nat → Reader Spec
  | 0 => throw (.io .unexpectedEnd)
  | fuel + 1 => do
    let name ← readOption readText
    let versions ← readConstraint
    let variants ← readSettings
    let compiler ← readOption readCompiler
    let n ← readU64
    let deps ← readSpecs fuel n
    let concrete ← readFlag
    pure ⟨name, versions, variants, compiler, deps, concrete⟩

/-- `n` specs. -/
def readSpecs : Nat → Nat → Reader (List Spec)
  | _, 0 => pure []
  | fuel, n + 1 => do
    let s ← readSpec fuel
    let rest ← readSpecs fuel n
    pure (s :: rest)

end

/-- A condition. -/
def readCondition (fuel : Nat) : Reader Condition := do
  match ← readTag 2 with
  | 0 => pure .always
  | _ => pure (.when (← readSpec fuel))

/-- A dependency phase. -/
def readPhase : Reader Dependency.Phase := do
  match ← readTag 3 with
  | 0 => pure .build
  | 1 => pure .link
  | _ => pure .run

/-- A dependency; its phases are a set. -/
def readDependency (fuel : Nat) : Reader Dependency := do
  let s ← readSpec fuel
  let phases ← readSeq readPhase
  let c ← readCondition fuel
  pure ⟨s, phases.foldl (fun acc p => Dependency.Phase.insert p acc) [], c⟩

/-- A provision. -/
def readProvision (fuel : Nat) : Reader Provision := do
  let s ← readSpec fuel
  let c ← readCondition fuel
  pure ⟨s, c⟩

/-- The values a variant allows; a pattern is compiled again. -/
def readAllowed : Reader Variant.Allowed := do
  match ← readTag 2 with
  | 0 => pure (.listed (← readSeq readText))
  | _ => do
    match ← readTag 2 with
    | 0 => pure .integer
    | _ => do
      let src ← readText
      match Variant.Allowed.ofPattern src with
      | .ok a => pure a
      | .error e => throw (.refused e.message)

/-- A variant declaration. -/
def readDecl : Reader Variant.Decl := do
  let name ← readText
  let default ← readValue
  let description ← readText
  let allowed ← readAllowed
  let exclusive ← readFlag
  pure ⟨name, default, description, allowed, exclusive⟩

/-- A package. -/
def readPackage (fuel : Nat) : Reader Package := do
  let name ← readText
  let description ← readOption readText
  let versions ← readSeq (do let v ← readVersion; let p ← readFlag; pure (v, p))
  let variants ← readTable readDecl
  let dependencies ← readTable (readSeq (readDependency fuel))
  let provides ← readSeq (readProvision fuel)
  let versions := versions.foldl (fun acc (v, p) => Package.putVersion v p acc) []
  pure ⟨name, description, versions, variants, dependencies, provides⟩

/-- Reads a catalog from the front of the bytes. -/
def decode (bs : List UInt8) : Except SnapshotError Catalog :=
  (readTable (readPackage (bs.length + 1))).run' bs |>.map fun t => ⟨t⟩

end Snapshot

namespace Catalog

/-- Writes a snapshot of the catalog, making the directories of the path's parent first. -/
def save (c : Catalog) (d : Disk) (path : String) : Except Error Disk := do
  let d ← match Path.parent? path with
    | some q => (d.createDirAll q).mapError Error.io
    | none => pure d
  (d.writeFile path (Snapshot.encode c)).mapError Error.io

/-- Reads a catalog back from a snapshot. -/
def loadSnapshot (d : Disk) (path : String) : Except Error Catalog := do
  match ← (d.openRead path).mapError Error.io with
  | .error e => throw (.snapshot (.io e))
  | .ok bs => (Snapshot.decode bs).mapError Error.snapshot

end Catalog

end BuildSpec
