import BuildSpec.Unicode.Property

/-!
# Characters hidden in quoted text

Quoted text in messages writes some characters as `\u{hex}` instead of themselves: those that
print nothing visible or may merge with the character before them. These are the characters of
the Unicode general categories space separator, line separator, paragraph separator, control,
format, surrogate, private use and unassigned (as of Unicode 16.0), except the plain space, and
the grapheme extenders (nonspacing and enclosing marks and the few other characters Unicode
lists as extending a grapheme).
-/

namespace BuildSpec.Text

open Unicode (CharSet Ranges)

/-- The hidden characters, as a set of characters. -/
def hiddenSet : CharSet :=
  let invisible := Unicode.categorySet ["Zs", "Zl", "Zp", "Cc", "Cf", "Cs", "Co", "Cn"]
  (invisible.diff [(0x20, 0x20)]).union (Unicode.binarySet "Grapheme_Extend")

/-- The hidden characters, as a table searched by halving. -/
def hiddenTable : Ranges := hiddenSet.toArray

/-- Is a code point one of the hidden characters. -/
def isHiddenCode (n : Nat) : Bool := hiddenTable.contains n

end BuildSpec.Text
