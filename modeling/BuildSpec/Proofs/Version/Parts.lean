import Mathlib
import BuildSpec.Proofs.Version.Normal

/-!
# The parts of a version

Reading a version trims its text and walks it once. Letters or digits are gathered into the part
being read, and that part is closed at a separator (`.`, `-`, `_`), where a digit meets a letter,
and at the end; a closed part of digits is a number, which must be below 2^64. Any other
character stops the reading.

So the parts are the maximal runs of letters and of digits of the text, separators belonging to
none (`Version.runs`, cut by `List.splitBy`). Main statement (`Version.parse_eq_ok_iff`): reading
succeeds exactly when the trimmed text is not empty, holds only letters, digits and separators,
holds at least one letter or digit, and each of its runs of digits denotes a number below 2^64;
the version read is then the trimmed text with one part per run, in order.

The walk is proved one step at a time (`splitParts_separator`, `splitParts_switch`,
`splitParts_extend`, `splitParts_start`), and the whole walk by induction on the characters
left (`splitParts_eq_ok_iff`): the part being gathered stays a run of one kind (`Gathered`), and
each closed part is the run it ends (`Closes`).
-/

namespace BuildSpec

namespace Version

/-! ## Runs of letters and of digits -/

/-- Neighbouring characters of one part: both letters or both digits. -/
def samePart (a b : Char) : Bool := a.isAlphanum && b.isAlphanum && a.isDigit == b.isDigit

/-- The maximal runs of letters and of digits of a version text, in order. A separator splits
off on its own, and is then dropped with the other runs that hold no letter or digit. -/
def runs (cs : List Char) : List (List Char) :=
  (cs.splitBy samePart).filter (·.any Char.isAlphanum)

example : runs "1.2rc3".toList = [['1'], ['2'], ['r', 'c'], ['3']] := by decide

/-- The number a run of decimal digits denotes. -/
def digitsValue (cs : List Char) : Nat :=
  Nat.ofDigits 10 (cs.reverse.map fun c => c.toNat - '0'.toNat)

/-- The part a run stands for: the number a run of digits denotes, or the letters of a run of
letters. -/
def Part.ofRun (g : List Char) : Part :=
  if g.all Char.isDigit then .num (digitsValue g) else .alpha (String.ofList g)

theorem samePart_eq_false_of_right {a c : Char} (hc : c.isAlphanum = false) :
    samePart a c = false := by
  simp [samePart, hc]

theorem runs_append {l m : List Char}
    (h : ∀ x ∈ l.getLast?, ∀ y ∈ m.head?, samePart x y = false) :
    runs (l ++ m) = runs l ++ runs m := by
  rw [runs, List.splitBy_append h, List.filter_append]
  rfl

/-- A character that is neither letter nor digit starts no run. -/
theorem runs_cons_of_not_alphanum {c : Char} (hc : c.isAlphanum = false) (cs : List Char) :
    runs (c :: cs) = runs cs := by
  have h := runs_append (l := [c]) (m := cs) (by simp [hc, samePart])
  rw [List.singleton_append] at h
  rw [h]
  simp [runs, List.splitBy, List.splitBy.loop, hc]

/-- A text with no letter or digit has no runs, and one with a letter or digit has one. -/
theorem runs_eq_nil_iff {cs : List Char} : runs cs = [] ↔ ∀ c ∈ cs, c.isAlphanum = false := by
  rw [runs, List.filter_eq_nil_iff]
  constructor
  · intro h c hc
    -- the character lies in one of the pieces, which then holds a letter or digit
    rw [← List.flatten_splitBy samePart cs, List.mem_flatten] at hc
    obtain ⟨g, hg, hcg⟩ := hc
    have := h g hg
    simp only [List.any_eq_true, not_exists, not_and, Bool.not_eq_true] at this
    exact this c hcg
  · intro h g hg
    simp only [List.any_eq_true, not_exists, not_and, Bool.not_eq_true]
    intro c hcg
    exact h c (List.flatten_splitBy samePart cs ▸ List.mem_flatten.2 ⟨g, hg, hcg⟩)

/-! ## Closing parts -/

/-- The part being gathered, kept reversed: letters or digits, all of one kind. -/
def Gathered (buf : List Char) : Prop :=
  ∀ a ∈ buf, a.isAlphanum = true ∧ ∀ b ∈ buf, a.isDigit = b.isDigit

theorem gathered_nil : Gathered [] := nofun

theorem gathered_singleton {c : Char} (hc : c.isAlphanum = true) : Gathered [c] := by
  simp [Gathered, hc]

/-- A letter after letters, or a digit after digits, keeps the part of one kind. -/
theorem Gathered.cons {c last : Char} {buf : List Char} (hb : Gathered (last :: buf))
    (hc : c.isAlphanum = true) (hd : last.isDigit = c.isDigit) : Gathered (c :: last :: buf) := by
  -- every character gathered is of the kind of `last`
  have hdig : ∀ x ∈ c :: last :: buf, x.isDigit = last.isDigit := by
    intro x hx
    rcases List.mem_cons.1 hx with rfl | hx
    · exact hd.symm
    · exact (hb x hx).2 last List.mem_cons_self
  intro a ha
  refine ⟨?_, fun b hb' => by rw [hdig a ha, hdig b hb']⟩
  rcases List.mem_cons.1 ha with rfl | ha
  · exact hc
  · exact (hb a ha).1

/-- A gathered part is one run. -/
theorem runs_of_gathered {buf : List Char} (hb : Gathered buf) (hne : buf ≠ []) :
    runs buf.reverse = [buf.reverse] := by
  have hchain : buf.reverse.IsChain fun x y => samePart x y = true :=
    (List.isChain_isInfix _).imp_of_mem_imp fun a b ha hb' _ => by
      rw [List.mem_reverse] at ha hb'
      simp [samePart, (hb a ha).1, (hb b hb').1, (hb a ha).2 b hb']
  obtain ⟨a, ha⟩ := List.exists_mem_of_ne_nil buf hne
  rw [runs, List.splitBy_of_isChain (by simpa using hne) hchain]
  simp only [List.filter_cons, List.filter_nil, List.any_eq_true, List.mem_reverse]
  rw [if_pos ⟨a, ha, (hb a ha).1⟩]

/-- Ending a gathered part at a character that cannot continue it splits the runs there. -/
theorem runs_close {buf : List Char} {c : Char} (hc : ∀ x ∈ buf, samePart x c = false)
    (cs : List Char) : runs (buf.reverse ++ c :: cs) = runs buf.reverse ++ runs (c :: cs) := by
  refine runs_append fun x hx y hy => ?_
  rw [List.getLast?_reverse] at hx
  simp only [List.head?_cons, Option.mem_def, Option.some.injEq] at hy
  subst hy
  exact hc x (List.mem_of_mem_head? hx)

/-- The parts `r` are those already closed, `parts`, followed by one for each run of `gs`, every
run of digits denoting a number below 2^64; both lists of parts are kept reversed. -/
def Closes (gs : List (List Char)) (parts r : List Part) : Prop :=
  (∀ g ∈ gs, g.all Char.isDigit = true → digitsValue g < 2 ^ 64) ∧
    r = (gs.map Part.ofRun).reverse ++ parts

theorem closes_append {gs hs : List (List Char)} {parts r : List Part} :
    Closes (gs ++ hs) parts r ↔ ∃ ps, Closes gs parts ps ∧ Closes hs ps r := by
  simp only [Closes, List.mem_append, List.map_append, List.reverse_append, List.append_assoc]
  constructor
  · rintro ⟨hfit, rfl⟩
    exact ⟨_, ⟨fun g hg => hfit g (.inl hg), rfl⟩, fun g hg => hfit g (.inr hg), rfl⟩
  · rintro ⟨ps, ⟨hfit, rfl⟩, hfit', rfl⟩
    exact ⟨fun g hg => hg.elim (hfit g) (hfit' g), rfl⟩

/-- Reading digits from the left shifts the value read so far one place for each. -/
theorem foldl_digits (cs : List Char) (a : Nat) :
    cs.foldl (fun acc c => acc * 10 + (c.toNat - '0'.toNat)) a =
      a * 10 ^ cs.length + digitsValue cs := by
  induction cs generalizing a with
  | nil => simp [digitsValue]
  | cons c cs ih =>
    rw [List.foldl_cons, ih]
    simp only [digitsValue, List.reverse_cons, List.map_append, List.map_cons, List.map_nil,
      Nat.ofDigits_append, Nat.ofDigits_singleton, List.length_map, List.length_reverse,
      List.length_cons]
    ring

theorem partLimit_eq : partLimit = 2 ^ 64 := rfl

/-- Closing the gathered part adds the part of its run, when it has one. -/
theorem flushPart_eq_ok_iff {buf : List Char} (hb : Gathered buf) {parts r : List Part} :
    flushPart buf parts = .ok r ↔ Closes (runs buf.reverse) parts r := by
  by_cases hne : buf = []
  · subst hne
    have hnil : runs ([] : List Char) = [] := rfl
    simp only [flushPart, List.isEmpty_nil, if_true, Except.ok.injEq, List.reverse_nil, Closes,
      hnil, List.not_mem_nil, IsEmpty.forall_iff, implies_true, List.map_nil, List.nil_append,
      true_and]
    exact eq_comm
  rw [runs_of_gathered hb hne]
  have hempty : buf.isEmpty = false := List.isEmpty_eq_false_iff.2 hne
  simp only [flushPart, hempty, Bool.false_eq_true, if_false, foldl_digits, zero_mul, zero_add,
    partLimit_eq, Closes, List.mem_singleton, forall_eq, List.map_cons, List.map_nil,
    List.reverse_singleton, List.singleton_append, Part.ofRun]
  split_ifs with hdig hlt
  · rw [Except.ok.injEq]
    exact ⟨fun h => ⟨fun _ => hlt, h.symm⟩, fun h => h.2.symm⟩
  · -- a run of digits too large for 64 bits stops the reading
    exact ⟨nofun, fun h => absurd (h.1 hdig) hlt⟩
  · rw [Except.ok.injEq]
    exact ⟨fun h => ⟨fun h' => absurd h' hdig, h.symm⟩, fun h => h.2.symm⟩

/-! ## The walk, one character at a time -/

theorem not_separator_of_isAlphanum {c : Char} (hc : c.isAlphanum = true) :
    (c == '.' || c == '-' || c == '_') = false := by
  simp only [Bool.or_eq_false_iff, beq_eq_false_iff_ne, ne_eq]
  refine ⟨⟨?_, ?_⟩, ?_⟩ <;> (rintro rfl; exact absurd hc (by decide))

/-- At a separator the gathered part is closed and a new one begins. -/
theorem splitParts_separator {text : String} {c : Char} {cs buf : List Char} {parts r : List Part}
    (hc : (c == '.' || c == '-' || c == '_') = true) :
    splitParts text (c :: cs) buf parts = .ok r ↔
      ∃ ps, flushPart buf parts = .ok ps ∧ splitParts text cs [] ps = .ok r := by
  simp only [splitParts, hc, if_true]
  cases flushPart buf parts <;> simp

/-- Where a letter meets a digit, or a digit a letter, the gathered part is closed and the new
character begins the next. -/
theorem splitParts_switch {text : String} {c last : Char} {cs buf : List Char}
    {parts r : List Part} (hc : c.isAlphanum = true) (hd : last.isDigit ≠ c.isDigit) :
    splitParts text (c :: cs) (last :: buf) parts = .ok r ↔
      ∃ ps, flushPart (last :: buf) parts = .ok ps ∧ splitParts text cs [c] ps = .ok r := by
  simp only [splitParts, not_separator_of_isAlphanum hc, hc, bne_iff_ne, ne_eq, hd,
    not_false_eq_true, if_true, Bool.false_eq_true, if_false]
  cases flushPart (last :: buf) parts <;> simp

/-- A letter after letters, or a digit after digits, joins the gathered part. -/
theorem splitParts_extend {text : String} {c last : Char} {cs buf : List Char} {parts : List Part}
    (hc : c.isAlphanum = true) (hd : last.isDigit = c.isDigit) :
    splitParts text (c :: cs) (last :: buf) parts = splitParts text cs (c :: last :: buf) parts := by
  simp [splitParts, not_separator_of_isAlphanum hc, hc, hd]

/-- A letter or digit with nothing gathered begins a part. -/
theorem splitParts_start {text : String} {c : Char} {cs : List Char} {parts : List Part}
    (hc : c.isAlphanum = true) :
    splitParts text (c :: cs) [] parts = splitParts text cs [c] parts := by
  simp [splitParts, not_separator_of_isAlphanum hc, hc]

/-- Any other character stops the walk. -/
theorem splitParts_invalid {text : String} {c : Char} {cs buf : List Char} {parts r : List Part}
    (hc : isTextChar c = false) : splitParts text (c :: cs) buf parts ≠ .ok r := by
  simp only [isTextChar, Bool.or_eq_false_iff] at hc
  simp [splitParts, hc.1.1.1, hc.1.1.2, hc.1.2, hc.2]

/-- Closing the gathered part and walking on from a new one reads the runs of both. -/
theorem flush_continue {text : String} {cs buf b' : List Char} {parts r : List Part} {V : Prop}
    (hb : Gathered buf)
    (hrest : ∀ ps, splitParts text cs b' ps = .ok r ↔ V ∧ Closes (runs (b'.reverse ++ cs)) ps r) :
    (∃ ps, flushPart buf parts = .ok ps ∧ splitParts text cs b' ps = .ok r) ↔
      V ∧ Closes (runs buf.reverse ++ runs (b'.reverse ++ cs)) parts r := by
  simp only [flushPart_eq_ok_iff hb, hrest, closes_append]
  constructor
  · rintro ⟨ps, h₁, hv, h₂⟩
    exact ⟨hv, ps, h₁, h₂⟩
  · rintro ⟨hv, ps, h₁, h₂⟩
    exact ⟨ps, h₁, hv, h₂⟩

/-- The walk from a gathered part succeeds exactly when the characters left are letters, digits
and separators and every run of digits it closes denotes a number below 2^64; it then adds one
part for each run of what is gathered followed by what is left. -/
theorem splitParts_eq_ok_iff {text : String} {cs : List Char} :
    ∀ {buf : List Char} {parts r : List Part}, Gathered buf →
      (splitParts text cs buf parts = .ok r ↔
        (∀ c ∈ cs, isTextChar c = true) ∧ Closes (runs (buf.reverse ++ cs)) parts r) := by
  induction cs with
  | nil =>
    intro buf parts r hb
    simp only [List.append_nil, List.not_mem_nil, IsEmpty.forall_iff, implies_true, true_and]
    exact flushPart_eq_ok_iff hb
  | cons c cs ih =>
    intro buf parts r hb
    simp only [List.mem_cons, forall_eq_or_imp]
    by_cases hsep : (c == '.' || c == '-' || c == '_') = true
    · -- a separator closes the gathered part and starts no run of its own
      have hna : c.isAlphanum = false := by
        cases h : c.isAlphanum
        · rfl
        · simp [not_separator_of_isAlphanum h] at hsep
      have htext : isTextChar c = true := by
        simp only [Bool.or_eq_true, beq_iff_eq] at hsep
        simp only [isTextChar, Bool.or_eq_true, beq_iff_eq]
        tauto
      rw [splitParts_separator hsep, flush_continue hb fun ps => ih gathered_nil,
        runs_close (fun x _ => samePart_eq_false_of_right hna), runs_cons_of_not_alphanum hna]
      simp [htext]
    · by_cases hc : c.isAlphanum = true
      · have htext : isTextChar c = true := by simp [isTextChar, hc]
        simp only [htext, true_and]
        cases buf with
        | nil =>
          rw [splitParts_start hc, ih (gathered_singleton hc)]
          simp
        | cons last buf =>
          by_cases hd : last.isDigit = c.isDigit
          · -- the character continues the run being gathered
            rw [splitParts_extend hc hd, ih (hb.cons hc hd)]
            simp
          · -- a letter after digits or a digit after letters closes the run
            have hclose : ∀ x ∈ last :: buf, samePart x c = false := by
              intro x hx
              have hx' := (hb x hx).2 last List.mem_cons_self
              simp [samePart, hx', hd]
            rw [splitParts_switch hc hd, flush_continue hb fun ps => ih (gathered_singleton hc),
              runs_close hclose]
            simp
      · have htext : isTextChar c = false := by simp_all [isTextChar]
        simp only [htext, Bool.false_eq_true, false_and, iff_false]
        exact splitParts_invalid htext

/-! ## Reading a version -/

/-- Reading a version succeeds exactly when its trimmed text is not empty, holds only letters,
digits and separators, holds at least one letter or digit, and each of its runs of digits
denotes a number below 2^64. The version read is then the trimmed text with the part of each of
its maximal runs of letters or digits, in order. -/
theorem parse_eq_ok_iff (s : String) (v : Version) :
    Version.parse s = .ok v ↔
      Text.trim s ≠ "" ∧ (∀ c ∈ (Text.trim s).toList, isTextChar c = true) ∧
        (∃ c ∈ (Text.trim s).toList, c.isAlphanum = true) ∧
        (∀ g ∈ runs (Text.trim s).toList, g.all Char.isDigit = true → digitsValue g < 2 ^ 64) ∧
        v = ⟨Text.trim s, (runs (Text.trim s).toList).map Part.ofRun⟩ := by
  have hwalk : ∀ r, splitParts (Text.trim s) (Text.trim s).toList [] [] = .ok r ↔
      (∀ c ∈ (Text.trim s).toList, isTextChar c = true) ∧
        Closes (runs (([] : List Char).reverse ++ (Text.trim s).toList)) [] r :=
    fun r => splitParts_eq_ok_iff gathered_nil
  simp only [List.reverse_nil, List.nil_append, Closes, List.append_nil] at hwalk
  -- a letter or digit is there exactly when some run is
  have hsome : (∃ c ∈ (Text.trim s).toList, c.isAlphanum = true) ↔
      runs (Text.trim s).toList ≠ [] := by
    rw [ne_eq, runs_eq_nil_iff]
    simp
  rw [hsome]
  unfold Version.parse
  dsimp only
  by_cases hempty : (Text.trim s).isEmpty = true
  · simp only [hempty, if_true, reduceCtorEq, false_iff]
    exact fun h => h.1 (String.isEmpty_iff.1 hempty)
  simp only [hempty, Bool.false_eq_true, if_false]
  have hne : Text.trim s ≠ "" := fun h => hempty (String.isEmpty_iff.2 h)
  by_cases hread : (∀ c ∈ (Text.trim s).toList, isTextChar c = true) ∧
      ∀ g ∈ runs (Text.trim s).toList, g.all Char.isDigit = true → digitsValue g < 2 ^ 64
  · rw [(hwalk _).2 ⟨hread.1, hread.2, rfl⟩]
    cases hl : (List.map Part.ofRun (runs (Text.trim s).toList)).reverse with
    | nil =>
      simp only [reduceCtorEq, false_iff, not_and]
      intro _ _ hruns _ _
      exact hruns (by simpa using hl)
    | cons p ps =>
      have hv : (p :: ps).reverse = (runs (Text.trim s).toList).map Part.ofRun := by
        rw [← hl, List.reverse_reverse]
      have hruns : runs (Text.trim s).toList ≠ [] := by
        intro h
        rw [h] at hl
        cases hl
      rw [Except.ok.injEq, hv]
      constructor
      · rintro rfl
        exact ⟨hne, hread.1, hruns, hread.2, rfl⟩
      · rintro ⟨-, -, -, -, rfl⟩
        rfl
  · -- the walk fails, on a character or on a number too large
    have hfail : ∀ r, splitParts (Text.trim s) (Text.trim s).toList [] [] ≠ .ok r :=
      fun r h => hread ⟨((hwalk r).1 h).1, ((hwalk r).1 h).2.1⟩
    refine iff_of_false ?_ fun h => hread ⟨h.2.1, h.2.2.2.1⟩
    cases hr : splitParts (Text.trim s) (Text.trim s).toList [] [] with
    | error e => simp
    | ok r => exact absurd hr (hfail r)

end Version

end BuildSpec
