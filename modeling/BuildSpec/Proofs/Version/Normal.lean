import Mathlib
import BuildSpec.Proofs.Version.Order
import BuildSpec.Proofs.Text
import BuildSpec.Proofs.Table

/-!
# Well-formed version constraints and their text

Reading makes versions that read back from their own text (`Version.Readable`) and ranges whose
limits are such versions, a range with two limits having them in order (`Version.Range.Proper`).
A constraint is kept normal: its ranges sorted and free of adjacent repeats, or the single range
holding every version.

`Version.Constraint.WellFormed` collects this: reading (`parse_wellFormed`) and narrowing
(`intersection_wellFormed`, `constrain_wellFormed`) make well-formed constraints, and a
well-formed constraint is read back from its text (`parse_text`).
-/

namespace BuildSpec

namespace Version

/-- A version that its own text reads as, as every version `Version.parse` makes is. -/
structure Readable (v : Version) : Prop where
  parse_text : Version.parse v.text = .ok v

/-- The characters a version's text is made of: letters, digits and the separators. -/
def isTextChar (c : Char) : Bool := c.isAlphanum || c == '.' || c == '-' || c == '_'

/-- Version characters are printable ASCII, from `-` to `z`. -/
theorem isTextChar_range {c : Char} (h : isTextChar c = true) : 45 ≤ c.toNat ∧ c.toNat ≤ 122 := by
  simp only [isTextChar, Char.isAlphanum, Char.isAlpha, Char.isUpper, Char.isLower, Char.isDigit,
    Bool.or_eq_true, Bool.and_eq_true, decide_eq_true_eq, beq_iff_eq, ge_iff_le,
    UInt32.le_iff_toNat_le] at h
  have hc : c.toNat = c.val.toNat := rfl
  rcases h with (((h | h) | h) | h) | h
  · rcases h with h | h <;> simp at h <;> omega
  · simp at h; omega
  all_goals subst h; decide

theorem isTextChar_not_blank {c : Char} (h : isTextChar c = true) : Text.isBlank c = false := by
  have := isTextChar_range h
  simp only [Text.isBlank, Bool.or_eq_false_iff, Bool.and_eq_false_iff, decide_eq_false_iff_not,
    beq_eq_false_iff_ne, ne_eq]
  omega

theorem splitParts_chars {text : String} {cs buf : List Char} {parts r : List Part}
    (h : splitParts text cs buf parts = .ok r) : ∀ c ∈ cs, isTextChar c = true := by
  induction cs generalizing buf parts with
  | nil => simp
  | cons c cs ih =>
    -- a character that is neither a separator nor a letter or digit stops the reading
    have hhead : isTextChar c = true := by
      by_contra hc
      simp only [isTextChar, Bool.or_eq_true, not_or, Bool.not_eq_true] at hc
      simp only [splitParts] at h
      simp [hc] at h
    have htail : ∃ buf' parts', splitParts text cs buf' parts' = .ok r := by
      simp only [splitParts] at h
      split at h
      · split at h
        · exact ⟨_, _, h⟩
        · cases h
      · split at h
        · split at h
          · split at h
            · split at h
              · exact ⟨_, _, h⟩
              · cases h
            · exact ⟨_, _, h⟩
          · exact ⟨_, _, h⟩
        · cases h
    obtain ⟨buf', parts', h'⟩ := htail
    intro x hx
    rcases List.mem_cons.1 hx with rfl | hx
    · exact hhead
    · exact ih h' x hx

theorem parse_text_eq {s : String} {v : Version} (h : Version.parse s = .ok v) :
    v.text = Text.trim s := by
  unfold Version.parse at h
  dsimp only at h
  split at h
  · cases h
  · split at h
    · cases h
    · cases h
    · cases h
      rfl

theorem parse_trim (s : String) : Version.parse (Text.trim s) = Version.parse s := by
  simp only [Version.parse, Text.trim_trim]

theorem readable_of_parse {s : String} {v : Version} (h : Version.parse s = .ok v) :
    v.Readable := by
  constructor
  rw [parse_text_eq h, parse_trim, h]

theorem Readable.chars {v : Version} (hv : v.Readable) :
    ∀ c ∈ v.text.toList, isTextChar c = true := by
  have h := hv.parse_text
  have htext := parse_text_eq h
  unfold Version.parse at h
  dsimp only at h
  rw [← htext] at h
  split at h
  · cases h
  · split at h
    · cases h
    · cases h
    · exact splitParts_chars ‹_›

theorem Readable.text_ne {v : Version} (hv : v.Readable) : v.text ≠ "" := by
  intro he
  have h := hv.parse_text
  rw [he] at h
  simp [Version.parse, Text.trim, Text.trimChars] at h

end Version

namespace Version.Range

/-- A range as reading and narrowing make it: its limits are readable versions, and the two
limits of a range between them are in increasing order. -/
def Proper : Version.Range → Prop
  | .any => True
  | .exact v => v.Readable
  | .atLeast lo => lo.Readable
  | .atMost hi => hi.Readable
  | .between lo hi => lo.Readable ∧ hi.Readable ∧ Version.compare lo hi = .lt

theorem Proper.limits_readable {r : Version.Range} (h : r.Proper) :
    (∀ v ∈ r.limits.1, v.Readable) ∧ (∀ v ∈ r.limits.2, v.Readable) := by
  cases r <;> simp_all [Proper, Version.Range.limits]

theorem ofLimits_proper {lo hi : Option Version} {r : Version.Range}
    (hlo : ∀ v ∈ lo, v.Readable) (hhi : ∀ v ∈ hi, v.Readable) (h : ofLimits lo hi = some r) :
    r.Proper := by
  cases lo with
  | none => cases hi <;> simp only [ofLimits, Option.some.injEq] at h <;> subst h <;> simp_all [Proper]
  | some lo =>
    cases hi with
    | none => simp only [ofLimits, Option.some.injEq] at h; subst h; simp_all [Proper]
    | some hi =>
      simp only [ofLimits] at h
      split at h
      · cases h
      · cases h; simp_all [Proper]
      · cases h; simp_all [Proper]

theorem maxRight_eq_or (a b : Version) : maxRight a b = a ∨ maxRight a b = b := by
  unfold maxRight; split <;> simp

theorem minLeft_eq_or (a b : Version) : minLeft a b = a ∨ minLeft a b = b := by
  unfold minLeft; split <;> simp

theorem maxRight_readable {a b : Version} (ha : a.Readable) (hb : b.Readable) :
    (maxRight a b).Readable := by
  rcases maxRight_eq_or a b with h | h <;> rw [h] <;> assumption

theorem minLeft_readable {a b : Version} (ha : a.Readable) (hb : b.Readable) :
    (minLeft a b).Readable := by
  rcases minLeft_eq_or a b with h | h <;> rw [h] <;> assumption

theorem join_proper {a b r : Version.Range} (ha : a.Proper) (hb : b.Proper)
    (h : a.join b = some r) : r.Proper := by
  -- the limits of the join are limits of the two ranges, or the greater lower and the lesser
  -- upper of two
  cases a <;> cases b <;> simp only [join, Version.Range.limits, Option.or] at h <;>
    refine ofLimits_proper ?_ ?_ h <;>
    simp_all [Proper, maxRight_readable, minLeft_readable]

theorem isTextChar_ne_colon {c : Char} (h : isTextChar c = true) : c ≠ ':' := by
  rintro rfl; revert h; decide

theorem isTextChar_ne_comma {c : Char} (h : isTextChar c = true) : c ≠ ',' := by
  rintro rfl; revert h; decide

/-- The text of a proper range: its limits' texts and colons. -/
theorem text_chars {r : Version.Range} (h : r.Proper) :
    ∀ c ∈ r.text.toList, c = ':' ∨ isTextChar c = true := by
  have hv : ∀ {v : Version}, v.Readable → ∀ c ∈ v.text.toList, c = ':' ∨ isTextChar c = true :=
    fun hv c hc => Or.inr (hv.chars c hc)
  intro c hc
  cases r with
  | any => simp_all [Version.Range.text]
  | exact v => exact hv h c hc
  | atLeast lo =>
    simp only [Version.Range.text, String.toList_append, List.mem_append] at hc
    rcases hc with hc | hc
    · exact hv h c hc
    · simp_all
  | atMost hi =>
    simp only [Version.Range.text, String.toList_append, List.mem_append] at hc
    rcases hc with hc | hc
    · simp_all
    · exact hv h c hc
  | between lo hi =>
    simp only [Version.Range.text, String.toList_append, List.mem_append] at hc
    rcases hc with (hc | hc) | hc
    · exact hv h.1 c hc
    · simp_all
    · exact hv h.2.1 c hc

theorem text_ne_empty {r : Version.Range} (h : r.Proper) : r.text ≠ "" := by
  cases r <;> simp_all [Proper, Version.Range.text, Readable.text_ne]

end Version.Range

namespace Version.Constraint

theorem splitColon_of_not_mem {s : String} (h : ':' ∉ s.toList) : splitColon s = none := by
  simp [splitColon, h]

theorem splitColon_of_eq (lo hi : String) {s : String} (hs : s.toList = lo.toList ++ ':' :: hi.toList)
    (hlo : ':' ∉ lo.toList) : splitColon s = some (lo, hi) := by
  have hne : ∀ c ∈ lo.toList, (c != ':') = true := by
    intro c hc
    simp only [bne_iff_ne, ne_eq]
    rintro rfl
    exact hlo hc
  simp [splitColon, hs, List.takeWhile_append_of_pos hne, List.dropWhile_append_of_pos hne]

theorem not_mem_colon_of_readable {v : Version} (h : v.Readable) : ':' ∉ v.text.toList :=
  fun hc => Version.Range.isTextChar_ne_colon (h.chars ':' hc) rfl

theorem isEmpty_eq_false_of_readable {v : Version} (h : v.Readable) : v.text.isEmpty = false := by
  simpa using h.text_ne

/-- A proper range is read back from its text. -/
theorem parseRange_text {r : Version.Range} (h : r.Proper) : parseRange r.text = .ok r := by
  cases r with
  | any => simp [Version.Range.text, parseRange, splitColon, Version.Range.ofBounds, pure,
      Except.pure, bind, Except.bind]
  | exact v =>
    simp [Version.Range.text, parseRange, splitColon_of_not_mem (not_mem_colon_of_readable h),
      h.parse_text, Functor.map, Except.map]
  | atLeast lo =>
    rw [Version.Range.text, parseRange, splitColon_of_eq lo.text "" (by simp)
      (not_mem_colon_of_readable h)]
    simp [isEmpty_eq_false_of_readable h, h.parse_text, Version.Range.ofBounds, pure,
      Except.pure, bind, Except.bind, Functor.map, Except.map]
  | atMost hi =>
    rw [Version.Range.text, parseRange, splitColon_of_eq "" hi.text (by simp) (by simp)]
    simp [isEmpty_eq_false_of_readable h, h.parse_text, Version.Range.ofBounds, pure,
      Except.pure, bind, Except.bind, Functor.map, Except.map]
  | between lo hi =>
    obtain ⟨hlo, hhi, hlt⟩ := h
    rw [Version.Range.text, parseRange, splitColon_of_eq lo.text hi.text (by simp)
      (not_mem_colon_of_readable hlo)]
    simp [isEmpty_eq_false_of_readable hlo, isEmpty_eq_false_of_readable hhi, hlo.parse_text,
      hhi.parse_text, Version.Range.ofBounds, Version.Range.ofLimits, hlt, bind, Except.bind,
      Functor.map, Except.map]

theorem ofBounds_proper {lo hi : Option Version} {r : Version.Range}
    (hlo : ∀ v ∈ lo, v.Readable) (hhi : ∀ v ∈ hi, v.Readable)
    (h : Version.Range.ofBounds none lo hi = .ok r) : r.Proper := by
  cases lo <;> cases hi <;> simp only [Version.Range.ofBounds, Except.ok.injEq] at h
  · subst h; trivial
  · subst h; simp_all [Version.Range.Proper]
  · subst h; simp_all [Version.Range.Proper]
  · split at h
    · cases h
      exact Version.Range.ofLimits_proper hlo hhi ‹_›
    · cases h

/-- A limit's text is no limit when empty and is read as a version otherwise. -/
theorem readLimit_ok {s : String} {k : Option Version → Except Error Version.Range}
    {r : Version.Range}
    (h : (if s.isEmpty = true then pure none >>= k else some <$> Version.parse s >>= k) = .ok r) :
    ∃ o, (∀ v ∈ o, v.Readable) ∧ k o = .ok r := by
  split at h
  · exact ⟨none, by simp, by simpa [pure, Except.pure, bind, Except.bind] using h⟩
  · obtain ⟨o, ho, h⟩ := except_bind_eq_ok.1 h
    refine ⟨o, ?_, h⟩
    cases hp : Version.parse s <;> simp [hp, Functor.map, Except.map] at ho
    subst ho
    simpa using readable_of_parse hp

/-- Every range read from a text is proper. -/
theorem parseRange_proper {item : String} {r : Version.Range} (h : parseRange item = .ok r) :
    r.Proper := by
  unfold parseRange at h
  split at h
  · dsimp only at h
    obtain ⟨lo, hlo, h⟩ := readLimit_ok h
    obtain ⟨hi, hhi, h⟩ := readLimit_ok h
    exact ofBounds_proper hlo hhi h
  · cases hp : Version.parse item <;> simp [hp, Functor.map, Except.map] at h
    subst h
    exact readable_of_parse hp

/-! ## Normal form -/

theorem dedup_sublist (l : List Version.Range) : (dedup l).Sublist l := by
  fun_induction dedup l with
  | case1 a b rest _ ih => exact ih.trans ((List.sublist_cons_self b rest).cons_cons a)
  | case2 a b rest _ ih => exact ih.cons_cons a
  | case3 => exact List.Sublist.refl _

theorem head?_dedup (l : List Version.Range) : (dedup l).head? = l.head? := by
  fun_induction dedup l with
  | case1 a b rest _ ih => simp [*]
  | case2 => simp [*]
  | case3 => rfl

/-- No two neighbours of a deduplicated list are equal. -/
theorem isChain_dedup (l : List Version.Range) :
    (dedup l).IsChain (fun a b => (a == b) = false) := by
  fun_induction dedup l with
  | case1 a b rest _ ih => exact ih
  | case2 a b rest hab ih =>
    refine List.isChain_cons.2 ⟨?_, ih⟩
    intro y hy
    rw [head?_dedup, List.head?_cons, Option.mem_some_iff] at hy
    subst hy
    simpa using hab
  | case3 rs hrs =>
    match rs, hrs with
    | [], _ => exact List.IsChain.nil
    | [a], _ => exact List.IsChain.singleton a
    | a :: b :: rest, h => exact (h a b rest rfl).elim

theorem dedup_of_isChain {l : List Version.Range} (h : l.IsChain (fun a b => (a == b) = false)) :
    dedup l = l := by
  fun_induction dedup l with
  | case1 a b rest hab _ => simp [List.isChain_cons_cons, hab] at h
  | case2 a b rest _ ih => rw [ih (List.isChain_cons_cons.1 h).2]
  | case3 => rfl

theorem mem_normalize {rs : List Version.Range} {r : Version.Range}
    (h : r ∈ (normalize rs).ranges) : r = .any ∨ r ∈ rs := by
  unfold normalize at h
  split at h
  · simp_all [any]
  · exact Or.inr (List.mem_mergeSort.1 ((dedup_sublist _).subset h))

theorem normalize_ne_nil {rs : List Version.Range} (h : rs ≠ []) : (normalize rs).ranges ≠ [] := by
  unfold normalize
  split
  · simp [any]
  · -- sorting keeps every range, and deduplicating keeps the first
    intro he
    have hhead := head?_dedup (rs.mergeSort fun a b => compareRanges a b != .gt)
    simp only at he
    rw [he, List.head?_nil, eq_comm, List.head?_eq_none_iff] at hhead
    exact h (List.length_eq_zero_iff.1 (by rw [← List.length_mergeSort, hhead]; rfl))

/-- Normalizing is idempotent: the sorted, deduplicated ranges are in order and have no equal
neighbours, so sorting and deduplicating them again changes nothing. -/
theorem normalize_normalize (rs : List Version.Range) :
    normalize (normalize rs).ranges = normalize rs := by
  by_cases hany : rs.any (fun r => r == .any) = true
  · simp [normalize, hany, any]
  · let ds := dedup (rs.mergeSort fun a b => compareRanges a b != .gt)
    have hnorm : normalize rs = ⟨ds⟩ := if_neg hany
    have hds : ds.Pairwise (fun a b => compareRanges a b != .gt) :=
      (List.pairwise_mergeSort rangeLE_trans rangeLE_total rs).sublist (dedup_sublist _)
    have hnone : ¬ ds.any (fun r => r == .any) = true := by
      simp only [List.any_eq_true, not_exists, not_and] at hany ⊢
      exact fun r hr => hany r (List.mem_mergeSort.1 ((dedup_sublist _).subset hr))
    rw [hnorm]
    show normalize ds = ⟨ds⟩
    rw [normalize, if_neg hnone, List.mergeSort_of_pairwise hds, dedup_of_isChain (isChain_dedup _)]

/-! ## Well-formed constraints -/

/-- A constraint as reading and narrowing make it: it has a range, each range is proper, and it
is normal. -/
structure WellFormed (c : Version.Constraint) : Prop where
  ranges_ne_nil : c.ranges ≠ []
  proper : ∀ r ∈ c.ranges, r.Proper
  normal : normalize c.ranges = c

theorem wellFormed_normalize {rs : List Version.Range} (hne : rs ≠ [])
    (hp : ∀ r ∈ rs, r.Proper) : (normalize rs).WellFormed where
  ranges_ne_nil := normalize_ne_nil hne
  proper r hr := (mem_normalize hr).elim (fun h => h ▸ trivial) (hp r)
  normal := normalize_normalize rs

theorem wellFormed_any : any.WellFormed :=
  have h : (normalize [.any]).WellFormed :=
    wellFormed_normalize (by simp) (by simp [Version.Range.Proper])
  h

/-- Reading a constraint makes a well-formed one. -/
theorem parse_wellFormed {s : String} {c : Version.Constraint} (h : parse s = .ok c) :
    c.WellFormed := by
  unfold parse at h
  obtain ⟨rs, hrs, h⟩ := except_bind_eq_ok.1 h
  obtain rfl := except_pure_eq_ok.1 h
  have hall := mapM_eq_ok_iff.1 hrs
  refine wellFormed_normalize ?_ ?_
  · intro hnil
    subst hnil
    exact Text.split_ne_nil ',' s (List.forall₂_nil_right_iff.1 hall)
  · intro r hr
    obtain ⟨item, -, hitem⟩ := mapM_ok_mem hrs hr
    dsimp only at hitem
    split at hitem
    · cases hitem
    · exact parseRange_proper hitem

/-- Narrowing two well-formed constraints makes a well-formed one. -/
theorem intersection_wellFormed {a b c : Version.Constraint} (ha : a.WellFormed)
    (hb : b.WellFormed) (h : intersection a b = some c) : c.WellFormed := by
  unfold intersection ofRanges? at h
  split at h
  · cases h
  · next hne =>
    cases h
    refine wellFormed_normalize (fun he => hne (List.isEmpty_iff.2 he)) ?_
    intro r hr
    simp only [List.mem_flatMap, List.mem_filterMap] at hr
    obtain ⟨x, hx, y, hy, hj⟩ := hr
    exact Version.Range.join_proper (ha.proper x hx) (hb.proper y hy) hj

/-- Narrowing well-formed constraints makes a well-formed one. -/
theorem constrain_wellFormed {a b c : Version.Constraint} {ch : Bool} (ha : a.WellFormed)
    (hb : b.WellFormed) (h : a.constrain b = .ok (c, ch)) : c.WellFormed := by
  unfold constrain at h
  split at h
  · next j hj =>
    cases h
    exact intersection_wellFormed ha hb hj
  · cases h

theorem isAny_iff {c : Version.Constraint} : c.isAny = true ↔ c = any := by
  obtain ⟨rs⟩ := c
  unfold isAny
  split <;> simp_all [any]

/-! ## Reading a constraint's text -/

/-- The characters of a well-formed constraint's text: its versions' characters, colons and
commas. -/
theorem WellFormed.text_chars {c : Version.Constraint} (h : c.WellFormed) :
    ∀ ch ∈ c.text.toList, ch = ':' ∨ ch = ',' ∨ Version.isTextChar ch = true := by
  intro ch hch
  rcases Text.mem_intercalate hch with hsep | ⟨t, ht, hch⟩
  · rw [show ",".toList = [','] from rfl, List.mem_singleton] at hsep
    exact Or.inr (Or.inl hsep)
  · obtain ⟨r, hr, rfl⟩ := List.mem_map.1 ht
    rcases Version.Range.text_chars (h.proper r hr) ch hch with h | h
    · exact Or.inl h
    · exact Or.inr (Or.inr h)

/-- A well-formed constraint is read back from its text. -/
theorem parse_text {c : Version.Constraint} (h : c.WellFormed) : parse c.text = .ok c := by
  -- the text splits at commas into the ranges' texts, which hold no comma
  have hpieces : Text.split ',' c.text = c.ranges.map (·.text) := by
    refine Text.split_intercalate rfl ?_ (by simpa using h.ranges_ne_nil)
    intro t ht hc
    obtain ⟨r, hr, rfl⟩ := List.mem_map.1 ht
    rcases Version.Range.text_chars (h.proper r hr) ',' hc with h | h
    · exact absurd h (by decide)
    · exact Version.Range.isTextChar_ne_comma h rfl
  -- each piece has no blank to trim, is not empty, and reads back as its range
  have hitem : ∀ r ∈ c.ranges, Text.trim r.text = r.text ∧ r.text.isEmpty = false := by
    intro r hr
    have hne := Version.Range.text_ne_empty (h.proper r hr)
    refine ⟨Text.trim_of_not_blank fun ch hch => ?_, by simpa using hne⟩
    rcases Version.Range.text_chars (h.proper r hr) ch hch with rfl | h
    · decide
    · exact Version.isTextChar_not_blank h
  unfold parse
  rw [hpieces]
  have hmap : (c.ranges.map (·.text)).mapM (fun item =>
      let item := Text.trim item
      if item.isEmpty = true then
        Except.error (Error.parse s!"empty version range in \"{c.text}\"")
      else parseRange item) = .ok c.ranges := by
    refine mapM_eq_ok_iff.2 (List.forall₂_map_left_iff.2 (List.forall₂_same.2 fun r hr => ?_))
    simp [(hitem r hr).1, (hitem r hr).2, parseRange_text (h.proper r hr)]
  rw [hmap]
  simp [bind, Except.bind, pure, Except.pure, h.normal]

end Version.Constraint

end BuildSpec
