import BuildSpec.Json.Error

/-!
# Errors

Every failure of the library is a value of `Error`, and `Error.message` is the one place where
its sentence is written. File, document and snapshot failures carry their own small cause types,
whose sentences are those of the operating system and of the formats.
-/

namespace BuildSpec

/-- Why a file operation failed. -/
inductive IoError where
  | notFound
  | notADirectory
  | isADirectory
  | alreadyExists
  /-- The data ended before a value was complete. -/
  | unexpectedEnd
  deriving DecidableEq, Repr

/-- The sentence of a file failure, with the system's error number where it has one. -/
def IoError.message : IoError → String
  | .notFound => "No such file or directory (os error 2)"
  | .notADirectory => "Not a directory (os error 20)"
  | .isADirectory => "Is a directory (os error 21)"
  | .alreadyExists => "File exists (os error 17)"
  | .unexpectedEnd => "failed to fill whole buffer"

/-- Why a catalog snapshot could not be decoded. -/
inductive SnapshotError where
  | io (e : IoError)
  /-- A text field is not valid UTF-8; the detail says where. -/
  | invalidUtf8 (detail : String)
  | invalidBool (byte : Nat)
  | invalidTag (tag : Nat)
  /-- A value that decodes but is refused, such as an unknown variant index. -/
  | refused (msg : String)
  deriving DecidableEq, Repr

/-- The sentence of a snapshot failure. -/
def SnapshotError.message : SnapshotError → String
  | .io e => "io error: " ++ e.message
  | .invalidUtf8 d => "string is not valid utf8: " ++ d
  | .invalidBool b => s!"invalid u8 while decoding bool, expected 0 or 1, found {b}"
  | .invalidTag t => s!"tag for enum is not valid, found {t}"
  | .refused m => m

/-- A failure of the library. -/
inductive Error where
  | io (e : IoError)
  | json (e : Json.Error)
  | snapshot (e : SnapshotError)
  /-- A directory walk failed at a path. -/
  | walk (path : String) (e : IoError)
  | parse (msg : String)
  | validation (msg : String)
  /-- A virtual package was requested directly. -/
  | virtualRequested (name : String)
  /-- A spec without a package name was requested. -/
  | anonymousRequested (spec : String)
  | unknownPackage (name : String)
  | variantConflict (provided required : String)
  | versionConflict (provided required : String)
  | compilerConflict (provided required : String)
  | nameConflict (provided required : String)
  | duplicateVariant (variant : String) (package : Option String)
  | unknownVariant (variant package : String)
  | invalidVariantValue (variant : String) (values : List String) (package : Option String)
  | multipleValues (variant : String) (package : Option String)
  /-- A variant setting was checked against the declaration of another variant. -/
  | mismatchedValidator (variant validator : String)
  | noVersions (package constraint : String)
  | expansionLimit (passes : Nat)
  deriving DecidableEq, Repr

namespace Error

/-- ` in package "p"` when the package is known. -/
def inPackage : Option String → String
  | some p => s!" in package \"{p}\""
  | none => ""

/-- The sentence of an error. -/
def message : Error → String
  | .io e => "IO error: " ++ e.message
  | .json e => "JSON error: " ++ e.message
  | .snapshot e => "bincode error: " ++ e.message
  | .walk path e => s!"error walking directory: IO error for operation on {path}: {e.message}"
  | .parse m => "parsing error: " ++ m
  | .validation m => "validation error: " ++ m
  | .virtualRequested n =>
    s!"virtual package \"{n}\" can't be concretized directly, request one of its providers instead."
  | .anonymousRequested s =>
    s!"anonymous spec \"{s}\" can't be concretized, a package name is required."
  | .unknownPackage n => s!"package \"{n}\" not found."
  | .variantConflict p r => s!"variant \"{p}\" is unsatisfiable, conflicts with \"{r}\""
  | .versionConflict p r => s!"version \"{p}\" is unsatisfiable, conflicts with \"{r}\""
  | .compilerConflict p r => s!"compiler \"{p}\" is unsatisfiable, conflicts with \"{r}\""
  | .nameConflict p r => s!"spec name \"{p}\" is unsatisfiable, conflicts with \"{r}\""
  | .duplicateVariant v p => s!"variant \"{v}\" specified twice" ++ inPackage p
  | .unknownVariant v p => s!"package {p} has no variant {v}"
  | .invalidVariantValue v vs p =>
    s!"invalid values for variant \"{v}\"" ++ inPackage p ++ ": " ++ Text.quoteList vs
  | .multipleValues v p => s!"multiple values are not allowed for variant \"{v}\"" ++ inPackage p
  | .mismatchedValidator v w =>
    s!"trying to validate variant \"{v}\" with the validator of \"{w}\""
  | .noVersions p c => s!"no versions of \"{p}\" available within \"{c}\""
  | .expansionLimit n => s!"expansion did not reach a fixed point after {n} passes"

end Error

end BuildSpec
