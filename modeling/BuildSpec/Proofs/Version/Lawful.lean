import BuildSpec.Proofs.Version.Normal

/-!
# The order of versions is lawful

`Version.compare` puts `develop` above every other version and orders the others by their parts,
one part after another: letters below numbers, numbers by value, letters by their characters,
and a list of parts below every list it is a proper prefix of (`compare_lt_of_prefix`). The
equality `==` of versions is being equal in this order, and a version hashes its parts alone.

The order is a total preorder (`Std.TransCmp`, proved with the order), so swapping two versions
swaps the answer and each answer is transitive (`compare_trans`). It overrides the order of
parts by a test on the text, and the parts of `develop` are those of other texts, such as
`develop-`; but reading gives `develop` only for the text `develop` itself
(`Readable.eq_develop`). So two versions that reading makes and that are equal in the order have
the same parts (`parts_eq_of_beq`), and hash alike. `compare_lawful` gathers these laws.
-/

namespace BuildSpec.Version

/-! ## A total preorder -/

theorem compare_swap (a b : Version) : Version.compare a b = (Version.compare b a).swap :=
  Std.OrientedCmp.eq_swap

/-- Each answer of the order is transitive. -/
theorem compare_trans {a b c : Version} {o : Ordering} (hab : Version.compare a b = o)
    (hbc : Version.compare b c = o) : Version.compare a c = o := by
  cases o with
  | lt => exact Std.TransCmp.lt_trans hab hbc
  | eq => exact Std.TransCmp.eq_trans hab hbc
  | gt => exact Std.TransCmp.gt_trans hab hbc

theorem beq_iff_compare_eq (a b : Version) : (a == b) = true ↔ Version.compare a b = .eq := by
  simp [beq_def]

/-! ## `develop` and prefixes -/

theorem isDevelop_develop : develop.isDevelop = true := rfl

theorem beq_develop_iff (v : Version) : (v == develop) = true ↔ v.isDevelop = true := by
  rw [beq_iff_compare_eq]
  unfold Version.compare
  cases v.isDevelop <;> simp [isDevelop_develop]

/-- `develop` is above every version not equal to it. -/
theorem compare_develop_left {v : Version} (hv : (v == develop) = false) :
    Version.compare develop v = .gt := by
  have hd : v.isDevelop = false := by
    simpa [← Bool.not_eq_true, beq_develop_iff] using hv
  simp [Version.compare, isDevelop_develop, hd]

/-- A list of parts is below each list it is a proper prefix of. -/
theorem compare_append_cons (l : List Part) (p : Part) (ps : List Part) :
    Ord.compare l (l ++ p :: ps) = .lt := by
  induction l with
  | nil => rfl
  | cons x xs ih => simp [ih, Std.compare_self]

/-- Below `develop`, a version whose parts are a proper prefix of another's is the smaller. -/
theorem compare_lt_of_prefix {a b : Version} (ha : a.isDevelop = false) (hb : b.isDevelop = false)
    (hpre : a.parts <+: b.parts) (hne : a.parts ≠ b.parts) : Version.compare a b = .lt := by
  obtain ⟨t, ht⟩ := hpre
  cases t with
  | nil => exact absurd (by simpa using ht) hne
  | cons p ps =>
    simp only [Version.compare, ha, hb, ← ht]
    exact compare_append_cons a.parts p ps

/-! ## Equality and hashing -/

/-- `develop` is read from its own name alone, as one run of letters. -/
theorem Readable.eq_develop {v : Version} (hv : v.Readable) (hd : v.isDevelop = true) :
    v = develop := by
  have htext : v.text = developName := by simpa [isDevelop] using hd
  have h := hv.parse_text
  rw [htext, show Version.parse developName = .ok develop from rfl] at h
  exact (Except.ok.inj h).symm

/-- Versions that reading makes are equal in the order only when their parts are equal. -/
theorem parts_eq_of_beq {a b : Version} (ha : a.Readable) (hb : b.Readable) (h : (a == b) = true) :
    a.parts = b.parts := by
  rw [beq_iff_compare_eq] at h
  unfold Version.compare at h
  -- below `develop` the parts decide; `develop` against another is never equal
  cases hda : a.isDevelop <;> cases hdb : b.isDevelop <;> simp only [hda, hdb] at h
  · exact Std.LawfulEqOrd.eq_of_compare h
  · cases h
  · cases h
  · rw [ha.eq_develop hda, hb.eq_develop hdb]

theorem hash_eq_of_beq {a b : Version} (ha : a.Readable) (hb : b.Readable) (h : (a == b) = true) :
    hash a = hash b := by
  show hash a.parts = hash b.parts
  rw [parts_eq_of_beq ha hb h]

/-- The order of versions that reading makes is lawful: swapping two versions swaps the answer,
each answer is transitive, `==` is the answer of equality, equal versions hash alike, `develop`
is above every version not equal to it, and below `develop` a version whose parts are a proper
prefix of another's is the smaller. -/
theorem compare_lawful {a b c : Version} (ha : a.Readable) (hb : b.Readable) :
    Version.compare a b = (Version.compare b a).swap ∧
      (∀ o, Version.compare a b = o → Version.compare b c = o → Version.compare a c = o) ∧
      ((a == b) = true ↔ Version.compare a b = .eq) ∧
      ((a == b) = true → hash a = hash b) ∧
      ((a == develop) = false → Version.compare develop a = .gt) ∧
      (a.isDevelop = false → b.isDevelop = false → a.parts <+: b.parts → a.parts ≠ b.parts →
        Version.compare a b = .lt) :=
  ⟨compare_swap a b, fun _ => compare_trans, beq_iff_compare_eq a b, hash_eq_of_beq ha hb,
    compare_develop_left, compare_lt_of_prefix⟩

/-- `1.0` and `1.00`, read from their texts, are equal and hash alike, though spelled apart. -/
theorem compare_lawful_respelled : ∃ a b : Version, Version.parse "1.0" = .ok a ∧
    Version.parse "1.00" = .ok b ∧ a.text ≠ b.text ∧
    Version.compare a b = (Version.compare b a).swap ∧
      (∀ o, Version.compare a b = o → Version.compare b develop = o →
        Version.compare a develop = o) ∧
      ((a == b) = true ↔ Version.compare a b = .eq) ∧
      ((a == b) = true → hash a = hash b) ∧
      ((a == develop) = false → Version.compare develop a = .gt) ∧
      (a.isDevelop = false → b.isDevelop = false → a.parts <+: b.parts → a.parts ≠ b.parts →
        Version.compare a b = .lt) := by
  have ha : Version.parse "1.0" = .ok ⟨"1.0", [.num 1, .num 0]⟩ := rfl
  have hb : Version.parse "1.00" = .ok ⟨"1.00", [.num 1, .num 0]⟩ := rfl
  exact ⟨_, _, ha, hb, by decide,
    compare_lawful (c := develop) (readable_of_parse ha) (readable_of_parse hb)⟩

end BuildSpec.Version
