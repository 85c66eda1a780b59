import BuildSpec.Pattern.Syntax

/-!
# Regular expressions: reports of failures

`Pattern.Failure.report` writes a failure as the pattern's text with carets under the faulty
characters, then the fault's sentence. A pattern of several lines is fenced above and below,
its lines are numbered, and a span running over several lines is written out in words.
-/

namespace BuildSpec.Pattern

/-- A position in a text: line from 1 and column from 1, counting characters. -/
def lineCol (text : List Char) (i : Nat) : Nat × Nat :=
  (text.take i).foldl (fun (l, c) ch => if ch == '\n' then (l + 1, 1) else (l, c + 1)) (1, 1)

/-- The carets of the spans on one line, in order, under a line of text. -/
def caretLine (spans : List (Nat × Nat)) : String :=
  let (out, _) := spans.foldl (fun (out, pos) (startCol, endCol) =>
    let pad := (startCol - 1) - pos
    let width := max 1 (endCol - startCol)
    (out ++ List.replicate pad ' ' ++ List.replicate width '^', pos + pad + width)) ([], 0)
  String.ofList out

/-- The lines of a text, split at line breaks, without an empty last line; a carriage return
ending a line is not part of it. -/
def textLines (s : String) : List String :=
  let ls := s.splitOn "\n"
  let ls := if ls.getLast? == some "" then ls.dropLast else ls
  ls.map fun l => if l.endsWith "\r" then String.ofList l.toList.dropLast else l

namespace Failure

/-- A failure written as the pattern with carets under the faulty characters, then the
sentence. A pattern of several lines is fenced and numbered. -/
def report (f : Failure) (pattern : String) : String :=
  let cs := pattern.toList
  let spans := (f.span :: f.aux.toList).mergeSort (fun a b => a.start ≤ b.start)
  let located := spans.map fun s =>
    let (l1, c1) := lineCol cs s.start
    let (l2, c2) := lineCol cs s.stop
    (l1, c1, l2, c2)
  let lines := textLines pattern
  -- a pattern ending in a line break has one more, empty, line where a span may stand
  let count := lines.length + (if pattern.endsWith "\n" then 1 else 0)
  let width := if count ≤ 1 then 0 else (toString count).length
  let pad := if width == 0 then 4 else 2 + width
  let notated := (lines.zipIdx).foldl (fun acc (line, k) =>
    let head := if width == 0 then "    "
      else String.ofList (List.replicate (width - (toString (k + 1)).length) ' ') ++ toString (k + 1) ++ ": "
    let onLine := located.filter (fun (l1, _, l2, _) => l1 == k + 1 && l2 == k + 1)
    let marks := if onLine.isEmpty then ""
      else String.ofList (List.replicate pad ' ') ++ caretLine (onLine.map fun (_, c1, _, c2) => (c1, c2)) ++ "\n"
    acc ++ head ++ line ++ "\n" ++ marks) ""
  if pattern.toList.contains '\n' then
    let fence := String.ofList (List.replicate 79 '~')
    let multi := located.filter (fun (l1, _, l2, _) => l1 != l2)
    let notes := "\n".intercalate (multi.map fun (l1, c1, l2, c2) =>
      s!"on line {l1} (column {c1}) through line {l2} (column {c2 - 1})")
    "regex parse error:\n" ++ fence ++ "\n" ++ notated ++ fence ++ "\n" ++
      (if multi.isEmpty then "" else notes ++ "\n") ++ "error: " ++ f.fault.message
  else "regex parse error:\n" ++ notated ++ "error: " ++ f.fault.message

end Failure

end BuildSpec.Pattern
