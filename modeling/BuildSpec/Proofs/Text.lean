import Mathlib
import BuildSpec.Text.Blank

/-!
# Trimming and splitting texts

Trimming drops blank characters from both ends, so a trimmed text trims to itself and a text
without blanks is its own trim. Splitting at a character undoes joining with it, provided no
piece holds that character (`split_intercalate`).
-/

namespace BuildSpec.Text

theorem dropWhile_blank_of_head {cs : List Char} (h : ∀ c ∈ cs.head?, isBlank c = false) :
    cs.dropWhile isBlank = cs := by
  cases cs with
  | nil => rfl
  | cons c cs => simp [h c rfl]

theorem head?_dropWhile_blank (cs : List Char) :
    ∀ c ∈ (cs.dropWhile isBlank).head?, isBlank c = false := by
  induction cs with
  | nil => simp
  | cons c cs ih =>
    by_cases hc : isBlank c
    · simpa [List.dropWhile_cons, hc] using ih
    · simp [hc]

theorem trimChars_trimChars (cs : List Char) : trimChars (trimChars cs) = trimChars cs := by
  -- with `x` the list less its leading blanks and `y` the reverse of `x` less its leading
  -- blanks, the trim is `y.reverse`, a prefix of `x`: it starts where `x` does
  set x := cs.dropWhile isBlank
  set y := x.reverse.dropWhile isBlank
  have hx : x = y.reverse ++ (x.reverse.takeWhile isBlank).reverse := by
    rw [← List.reverse_append, List.takeWhile_append_dropWhile, List.reverse_reverse]
  have hfront : y.reverse.dropWhile isBlank = y.reverse := by
    refine dropWhile_blank_of_head fun c hc => head?_dropWhile_blank cs c ?_
    rw [show cs.dropWhile isBlank = x from rfl, hx, List.head?_append, hc]
    rfl
  have hback : y.dropWhile isBlank = y := dropWhile_blank_of_head (head?_dropWhile_blank _)
  show ((y.reverse.dropWhile isBlank).reverse.dropWhile isBlank).reverse = y.reverse
  rw [hfront, List.reverse_reverse, hback]

theorem mem_of_mem_trim {s : String} {c : Char} (h : c ∈ (trim s).toList) : c ∈ s.toList := by
  simp only [trim, String.toList_ofList, trimChars, List.mem_reverse] at h
  exact (List.dropWhile_sublist _).subset
    (List.mem_reverse.1 ((List.dropWhile_sublist _).subset h))

theorem trim_trim (s : String) : trim (trim s) = trim s := by
  simp [trim, trimChars_trimChars]

theorem trimChars_of_not_blank {cs : List Char} (h : ∀ c ∈ cs, isBlank c = false) :
    trimChars cs = cs := by
  have hall : ∀ l : List Char, (∀ c ∈ l, isBlank c = false) → l.dropWhile isBlank = l :=
    fun l hl => dropWhile_blank_of_head fun c hc => hl c (List.mem_of_mem_head? hc)
  rw [trimChars, hall cs h, hall cs.reverse (by simpa using h), List.reverse_reverse]

theorem trim_of_not_blank {s : String} (h : ∀ c ∈ s.toList, isBlank c = false) : trim s = s := by
  simp [trim, trimChars_of_not_blank h]

/-- A text trims to nothing exactly when all its characters are blank. -/
theorem trimChars_eq_nil_iff {cs : List Char} : trimChars cs = [] ↔ ∀ c ∈ cs, isBlank c = true := by
  simp only [trimChars, List.reverse_eq_nil_iff, List.dropWhile_eq_nil_iff, List.mem_reverse]
  constructor
  · intro h c hc
    -- the first character left after the leading blanks would be a blank that is not one
    cases hx : cs.dropWhile isBlank with
    | nil => exact List.dropWhile_eq_nil_iff.1 hx c hc
    | cons x xs =>
      have hx' := head?_dropWhile_blank cs x (by simp [hx])
      rw [h x (by simp [hx])] at hx'
      cases hx'
  · exact fun h c hc => h c ((List.dropWhile_sublist _).subset hc)

theorem trim_eq_empty_iff {s : String} : trim s = "" ↔ ∀ c ∈ s.toList, isBlank c = true := by
  rw [← trimChars_eq_nil_iff, trim, ← String.toList_inj, String.toList_ofList]
  rfl

/-- Splitting at `c` undoes joining with `c`, when no piece holds `c`. -/
theorem split_intercalate {c : Char} {sep : String} (hsep : sep.toList = [c]) {l : List String}
    (hl : ∀ s ∈ l, c ∉ s.toList) (hne : l ≠ []) : split c (sep.intercalate l) = l := by
  rw [split, String.toList_intercalate, hsep, List.splitOn_intercalate]
  · simp
  · simpa using hl
  · simp [hne]

/-- A character of a joined text belongs to the separator or to one of the pieces. -/
theorem mem_intercalate {sep : String} {l : List String} {c : Char}
    (h : c ∈ (sep.intercalate l).toList) : c ∈ sep.toList ∨ ∃ s ∈ l, c ∈ s.toList := by
  rw [String.toList_intercalate] at h
  induction l with
  | nil => simp at h
  | cons s l ih =>
    cases l with
    | nil => exact Or.inr ⟨s, by simp, by simpa using h⟩
    | cons s' l =>
      rw [List.map_cons, List.map_cons, List.intercalate_cons_cons] at h
      rcases List.mem_append.1 h with h | h
      · rcases List.mem_append.1 h with h | h
        · exact Or.inr ⟨s, by simp, h⟩
        · exact Or.inl h
      · rcases ih (by simpa using h) with h | ⟨t, ht, hc⟩
        · exact Or.inl h
        · exact Or.inr ⟨t, List.mem_cons_of_mem _ ht, hc⟩

/-- Each piece of a split is made of characters of the text other than the separator. -/
theorem mem_of_mem_split {c ch : Char} {s p : String} (hp : p ∈ split c s)
    (hch : ch ∈ p.toList) : ch ∈ s.toList ∧ ch ≠ c := by
  obtain ⟨l, hl, rfl⟩ := List.mem_map.1 hp
  rw [String.toList_ofList] at hch
  suffices ∀ xs : List Char, ∀ l ∈ xs.splitOn c, ∀ ch ∈ l, ch ∈ xs ∧ ch ≠ c from
    this _ l hl ch hch
  intro xs
  induction xs with
  | nil => simp [List.splitOn_nil]
  | cons x xs ih =>
    intro l hl ch hch
    rw [List.splitOn_cons_eq_if_modifyHead] at hl
    split at hl
    · rcases List.mem_cons.1 hl with rfl | hl
      · simp at hch
      · obtain ⟨h₁, h₂⟩ := ih l hl ch hch
        exact ⟨List.mem_cons_of_mem _ h₁, h₂⟩
    · -- `x` joins the first piece of the rest
      rename_i hx
      cases hs : xs.splitOn c with
      | nil => exact absurd hs (List.splitOn_ne_nil c xs)
      | cons l₀ ls =>
        rw [hs, List.modifyHead_cons] at hl
        rcases List.mem_cons.1 hl with rfl | hl
        · rcases List.mem_cons.1 hch with rfl | hch
          · exact ⟨List.mem_cons_self, fun he => hx (by simp [he])⟩
          · obtain ⟨h₁, h₂⟩ := ih l₀ (by simp [hs]) ch hch
            exact ⟨List.mem_cons_of_mem _ h₁, h₂⟩
        · obtain ⟨h₁, h₂⟩ := ih l (by simp [hs, hl]) ch hch
          exact ⟨List.mem_cons_of_mem _ h₁, h₂⟩

theorem split_ne_nil (c : Char) (s : String) : split c s ≠ [] := by
  simp [split, List.splitOn_ne_nil]

end BuildSpec.Text
