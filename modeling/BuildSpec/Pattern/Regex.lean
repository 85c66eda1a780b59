import BuildSpec.Pattern.Syntax
import BuildSpec.Pattern.Nest
import BuildSpec.Pattern.Lower
import BuildSpec.Pattern.Size
import BuildSpec.Pattern.Match
import BuildSpec.Pattern.Report

/-!
# Regular expressions

`Regex.compile` reads a pattern in four stages, each of which can refuse it: the syntax
(`Pattern.parse`), the nesting limit (`Ast.checkNesting`), the lowering (`Ast.toHir`) and
the size of the compiled automata (`Hir.fitsSizeLimit`). A refusal is written by
`CompileError.message`. `Regex.isMatch` says whether a pattern matches some stretch of a text.
-/

namespace BuildSpec.Pattern

/-- A compiled pattern: its text, its lowered expression and its matching machine. -/
structure Regex where
  source : String
  hir : Hir
  machine : Machine

instance : Repr Regex := ⟨fun r _ => repr r.source⟩

/-- Why a pattern does not compile: it is malformed, or its automaton is too large. -/
inductive CompileError where
  | malformed (f : Failure)
  | tooLarge

/-- The message of a refusal of `pattern`. -/
def CompileError.message (pattern : String) : CompileError → String
  | .malformed f => f.report pattern
  | .tooLarge => s!"Compiled regex exceeds size limit of {Size.sizeLimit} bytes."

/-- The lowered expression of a pattern, or the first failure of its syntax, nesting or lowering. -/
def lower (pattern : String) : Except Failure Hir := do
  let ast ← parse pattern
  ast.checkNesting
  ast.toHir

/-- Compiles a pattern. -/
def Regex.compile (pattern : String) : Except CompileError Regex :=
  match lower pattern with
  | .error f => .error (.malformed f)
  | .ok h => if h.fitsSizeLimit then .ok ⟨pattern, h, h.machine⟩ else .error .tooLarge

/-- Does the pattern match some stretch of the text. -/
def Regex.isMatch (r : Regex) (text : String) : Bool := r.machine.search text

end BuildSpec.Pattern
