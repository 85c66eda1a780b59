import BuildSpec.Pattern.Syntax

/-!
# Regular expressions: the nesting limit

An expression may nest at most 250 levels deep. The levels are counted on the syntax tree:
repetitions, groups, alternations and sequences each open a level, and so do classes in
brackets, unions of class items and class operations; characters, classes written as escapes
and other single items do not. `Ast.checkNesting` walks the tree in reading order, each node
before what it holds, and reports the first node found deeper than the limit.
-/

namespace BuildSpec.Pattern

/-- The deepest nesting allowed. -/
def nestLimit : Nat := 250

mutual

/-- The first class node deeper than the limit, for a node at depth `d` (the depth of the nodes
around it plus one). -/
def ClassTree.tooDeep (d : Nat) : ClassTree → Option Span
  | .bracketed s _ body => if d > nestLimit then some s else body.tooDeep (d + 1)
  | .union s items => if d > nestLimit then some s else ClassTree.tooDeepList (d + 1) items
  | .setOp s _ lhs rhs =>
    if d > nestLimit then some s
    else match lhs.tooDeep (d + 1) with
      | some s => some s
      | none => rhs.tooDeep (d + 1)
  | _ => none

/-- The first class node deeper than the limit among items at depth `d`. -/
def ClassTree.tooDeepList (d : Nat) : List ClassTree → Option Span
  | [] => none
  | t :: ts =>
    match t.tooDeep d with
    | some s => some s
    | none => ClassTree.tooDeepList d ts

end

mutual

/-- The first node deeper than the limit, for a node at depth `d`. -/
def Ast.tooDeep (d : Nat) : Ast → Option Span
  | .repetition s _ _ _ sub => if d > nestLimit then some s else sub.tooDeep (d + 1)
  | .group s _ sub => if d > nestLimit then some s else sub.tooDeep (d + 1)
  | .alternation s alts => if d > nestLimit then some s else Ast.tooDeepList (d + 1) alts
  | .concat s items => if d > nestLimit then some s else Ast.tooDeepList (d + 1) items
  | .cls tree _ => tree.tooDeep d
  | _ => none

/-- The first node deeper than the limit among nodes at depth `d`. -/
def Ast.tooDeepList (d : Nat) : List Ast → Option Span
  | [] => none
  | a :: as =>
    match a.tooDeep d with
    | some s => some s
    | none => Ast.tooDeepList d as

end

/-- Fails at the first node deeper than the limit. -/
def Ast.checkNesting (a : Ast) : Except Failure Unit :=
  match a.tooDeep 1 with
  | some s => .error ⟨.nestLimitExceeded, s, none⟩
  | none => .ok ()

end BuildSpec.Pattern
