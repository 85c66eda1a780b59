/-!
# Blank characters and pieces of a text

The blank characters are those of the Unicode property `White_Space`. Version texts, spec texts
and variant values are trimmed by this class, so a no-break space counts as blank while a
zero-width space does not. Lists of values and of version ranges are cut at commas, and a spec
at `^`, by `split`.

The main statement, `isBlank_of_isWhitespace`, says that the class contains core's ASCII
whitespace, so trimming here never keeps a character that `String.trim` would drop.
-/

namespace BuildSpec.Text

/-- A character is blank when it has the Unicode property `White_Space`. -/
def isBlank (c : Char) : Bool :=
  let n := c.toNat
  (0x09 ≤ n && n ≤ 0x0D) || n == 0x20 || n == 0x85 || n == 0xA0 || n == 0x1680 ||
    (0x2000 ≤ n && n ≤ 0x200A) || n == 0x2028 || n == 0x2029 || n == 0x202F ||
    n == 0x205F || n == 0x3000

/-- Core's whitespace class is part of the blank class. -/
theorem isBlank_of_isWhitespace (c : Char) (h : c.isWhitespace = true) : isBlank c = true := by
  simp only [Char.isWhitespace, Bool.or_eq_true, decide_eq_true_eq] at h
  rcases h with ((h | h) | h) | h <;> subst h <;> decide

/-- Drops blank characters from both ends of a character list. -/
def trimChars (cs : List Char) : List Char :=
  ((cs.dropWhile isBlank).reverse.dropWhile isBlank).reverse

/-- Drops blank characters from both ends. -/
def trim (s : String) : String :=
  String.ofList (trimChars s.toList)

/-- Drops blank characters from the front. -/
def trimStart (s : String) : String :=
  String.ofList (s.toList.dropWhile isBlank)

/-- The pieces of a text between the occurrences of `c`, in order; a text without `c` is one
piece, and the empty text is one empty piece. -/
def split (c : Char) (s : String) : List String :=
  (s.toList.splitOn c).map String.ofList

end BuildSpec.Text
