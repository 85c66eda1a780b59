import BuildSpec.Proofs.Variant.Merge

/-!
# Reading a value from its pieces

`Variant.Value.parse` trims its text, reads `true` and `false` in any ASCII case as flags, and
cuts any other text at commas into trimmed pieces whose sorted set is the value. The pieces of a
text are taken here as the text is written (`Value.pieces`): cut at commas, each trimmed. Reading
trims the whole text before cutting it, but blanks at either end of a text change none of its
trimmed pieces (`Text.map_trim_split_trim`), since a comma is no blank: the text is its trim
between two runs of blanks (`Text.eq_blanks_trimChars_blanks`), and a blank added at either end
joins the first or last piece, whose trim it leaves alone.

So a value depends only on the set of its text's pieces and on whether the whole text is a flag
word (`Value.parse_eq_of_pieces`). The flag word is checked on the whole text, before it is cut:
`true,true` has the pieces of `true`, yet it is read as the set holding the text `true`, not as
the flag (`Value.parse_not_determined_by_pieces`).
-/

namespace BuildSpec

namespace Text

/-! ## Trimmed pieces and blanks at the ends -/

section Pieces

variable {c b : Char} {cs : List Char}

/-- A text is its trim between the blanks it starts with and the blanks it ends with. -/
theorem eq_blanks_trimChars_blanks (cs : List Char) :
    ∃ pre suf, (∀ x ∈ pre, isBlank x = true) ∧ (∀ x ∈ suf, isBlank x = true) ∧
      cs = pre ++ trimChars cs ++ suf := by
  have htrim : trimChars cs = (cs.dropWhile isBlank).rdropWhile isBlank := rfl
  refine ⟨cs.takeWhile isBlank, (cs.dropWhile isBlank).rtakeWhile isBlank,
    fun x hx => List.mem_takeWhile_imp hx, fun x hx => List.mem_rtakeWhile_imp hx, ?_⟩
  rw [htrim, List.append_assoc, List.rdropWhile_append_rtakeWhile, List.takeWhile_append_dropWhile]

theorem trimChars_cons_blank (hb : isBlank b = true) : trimChars (b :: cs) = trimChars cs := by
  simp [trimChars, hb]

theorem trimChars_concat_blank (hb : isBlank b = true) : trimChars (cs ++ [b]) = trimChars cs := by
  have htrim (l : List Char) : trimChars l = (l.dropWhile isBlank).rdropWhile isBlank := rfl
  rw [htrim, htrim, List.dropWhile_append]
  split
  · -- the text was blanks only, and stays so
    next hnil =>
    rw [List.isEmpty_iff.1 hnil]
    simp [hb]
  · exact List.rdropWhile_concat_pos _ _ _ hb

/-- A character other than the separator added at the end joins the last piece. -/
theorem splitOn_concat_of_ne (hb : b ≠ c) (cs : List Char) :
    ∃ init h, cs.splitOn c = init ++ [h] ∧ (cs ++ [b]).splitOn c = init ++ [h ++ [b]] := by
  induction cs with
  | nil => exact ⟨[], [], rfl, List.splitOn_eq_singleton (by simpa using hb.symm)⟩
  | cons x xs ih =>
    obtain ⟨init, h, hxs, hxsb⟩ := ih
    rw [List.cons_append, List.splitOn_cons_eq_if_modifyHead,
      List.splitOn_cons_eq_if_modifyHead, hxs, hxsb]
    split
    · exact ⟨[] :: init, h, rfl, rfl⟩
    · -- `x` joins the first piece, which is the last one when there is only one
      cases init with
      | nil => exact ⟨[], x :: h, rfl, rfl⟩
      | cons g gs => exact ⟨(x :: g) :: gs, h, rfl, rfl⟩

variable (hc : isBlank c = false)
include hc

theorem ne_of_blank (hb : isBlank b = true) : b ≠ c := by
  rintro rfl
  rw [hb] at hc
  cases hc

theorem map_trimChars_splitOn_cons_blank (hb : isBlank b = true) :
    ((b :: cs).splitOn c).map trimChars = (cs.splitOn c).map trimChars := by
  rw [List.splitOn_cons_eq_if_modifyHead, beq_eq_false_iff_ne.2 (ne_of_blank hc hb),
    if_neg Bool.false_ne_true]
  cases hs : cs.splitOn c with
  | nil => exact absurd hs (List.splitOn_ne_nil c cs)
  | cons g gs => simp [trimChars_cons_blank hb]

theorem map_trimChars_splitOn_concat_blank (hb : isBlank b = true) :
    ((cs ++ [b]).splitOn c).map trimChars = (cs.splitOn c).map trimChars := by
  obtain ⟨init, h, hcs, hcsb⟩ := splitOn_concat_of_ne (ne_of_blank hc hb) cs
  simp [hcs, hcsb, trimChars_concat_blank hb]

/-- Blanks at either end of a text change none of its trimmed pieces. -/
theorem map_trimChars_splitOn_blanks {pre suf : List Char} (hpre : ∀ x ∈ pre, isBlank x = true)
    (hsuf : ∀ x ∈ suf, isBlank x = true) (m : List Char) :
    ((pre ++ m ++ suf).splitOn c).map trimChars = (m.splitOn c).map trimChars := by
  -- the blanks at the end are dropped last to first, then those at the front first to last
  have hback : ((m ++ suf).splitOn c).map trimChars = (m.splitOn c).map trimChars := by
    induction suf using List.reverseRecOn with
    | nil => simp
    | append_singleton suf x ih =>
      rw [← List.append_assoc, map_trimChars_splitOn_concat_blank hc (hsuf x (by simp))]
      exact ih fun y hy => hsuf y (by simp [hy])
  rw [List.append_assoc]
  induction pre with
  | nil => exact hback
  | cons x pre ih =>
    rw [List.cons_append, map_trimChars_splitOn_cons_blank hc (hpre x List.mem_cons_self)]
    exact ih fun y hy => hpre y (List.mem_cons_of_mem _ hy)

/-- Trimming a text before cutting it at a character that is not blank changes none of its
trimmed pieces. -/
theorem map_trim_split_trim (s : String) : (split c (trim s)).map trim = (split c s).map trim := by
  have hchars (cs : List Char) : ((trimChars cs).splitOn c).map trimChars =
      (cs.splitOn c).map trimChars := by
    obtain ⟨pre, suf, hpre, hsuf, hcs⟩ := eq_blanks_trimChars_blanks cs
    conv_rhs => rw [hcs]
    exact (map_trimChars_splitOn_blanks hc hpre hsuf _).symm
  have hpiece (l : List (List Char)) :
      (l.map String.ofList).map trim = (l.map trimChars).map String.ofList := by
    simp [trim]
  simp only [split, trim, String.toList_ofList]
  rw [hpiece, hpiece, hchars]

end Pieces

end Text

namespace Variant.Value

/-! ## Values and pieces -/

/-- The pieces of a value's text: the text cut at commas, each piece trimmed. -/
def pieces (s : String) : List String := (Text.split ',' s).map Text.trim

/-- Is the text, trimmed, `true` or `false` in some ASCII case, so that it is read as a flag. -/
def spellsFlag (s : String) : Bool := spells (Text.trim s) "true" || spells (Text.trim s) "false"

theorem pieces_trim (s : String) : pieces (Text.trim s) = pieces s :=
  Text.map_trim_split_trim (by decide) s

/-- A text that is no flag word is read as the set of its pieces. -/
theorem parse_eq_ofTexts {s : String} (h : spellsFlag s = false) : parse s = ofTexts (pieces s) := by
  simp only [spellsFlag, Bool.or_eq_false_iff] at h
  rw [← pieces_trim]
  simp [parse, h.1, h.2, pieces]

/-- A flag word holds no comma, so it is its own single piece. -/
theorem pieces_of_spellsFlag {s : String} (h : spellsFlag s = true) : pieces s = [Text.trim s] := by
  have hcomma : ',' ∉ (Text.trim s).toList := by
    intro hmem
    simp [spellsFlag, spells_eq_false_of_comma "true" hmem (by decide),
      spells_eq_false_of_comma "false" hmem (by decide)] at h
  rw [← pieces_trim, pieces, Text.split, List.splitOn_eq_singleton hcomma]
  simp [Text.trim_trim]

/-- Reading a value depends only on the set of its text's pieces and on whether the text is a
flag word: two texts whose pieces form the same set, both flag words or neither, are read as the
same value. -/
theorem parse_eq_of_pieces {s t : String} (hp : ∀ x, x ∈ pieces s ↔ x ∈ pieces t)
    (hf : spellsFlag s = spellsFlag t) : parse s = parse t := by
  cases hs : spellsFlag s with
  | false =>
    rw [hs] at hf
    rw [parse_eq_ofTexts hs, parse_eq_ofTexts hf.symm, ofTexts, ofTexts, sortedSet_congr hp]
  | true =>
    -- each text is one piece, its trim, so the two trims are equal
    rw [hs] at hf
    have htrim : Text.trim s = Text.trim t := by
      simpa [pieces_of_spellsFlag hs, pieces_of_spellsFlag hf.symm] using hp (Text.trim s)
    simp only [parse, htrim]

theorem parse_eq_of_pieces_reordered : (∀ x, x ∈ pieces "a,b,a" ↔ x ∈ pieces " b , a") ∧
    spellsFlag "a,b,a" = spellsFlag " b , a" ∧ parse "a,b,a" = parse " b , a" := by
  have hp : ∀ x, x ∈ pieces "a,b,a" ↔ x ∈ pieces " b , a" := by
    intro x
    rw [show pieces "a,b,a" = ["a", "b", "a"] by decide +kernel,
      show pieces " b , a" = ["b", "a"] by decide +kernel]
    simp only [List.mem_cons, List.not_mem_nil, or_false]
    tauto
  have hf : spellsFlag "a,b,a" = spellsFlag " b , a" := by decide +kernel
  exact ⟨hp, hf, parse_eq_of_pieces hp hf⟩

/-- The set of pieces alone does not decide the value: `true,true` has the pieces of `true` but
is read as a set, where `true` is read as a flag. -/
theorem parse_not_determined_by_pieces :
    ¬ ∀ s t : String, (∀ x, x ∈ pieces s ↔ x ∈ pieces t) → parse s = parse t := by
  intro h
  have hp : ∀ x, x ∈ pieces "true,true" ↔ x ∈ pieces "true" := by
    intro x
    rw [show pieces "true,true" = ["true", "true"] by decide +kernel,
      show pieces "true" = ["true"] by decide +kernel]
    simp
  exact absurd (h _ _ hp) (by decide +kernel)

end Variant.Value

end BuildSpec
