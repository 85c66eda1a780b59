import BuildSpec.Proofs.Spec.Satisfies

/-!
# Strict satisfaction is a preorder

A spec strictly satisfies another when it settles everything the other asks at least as tightly:
the same name, versions within the other's, the same compiler with versions within its, each
variant setting of the other held here, and each dependency of the other met by the dependency
of that name here. On the specs that reading and narrowing make, strict satisfaction is
reflexive and transitive, and it implies loose satisfaction (`satisfies_strict_preorder`).

Transitivity is checked part by part. Names and variant settings compose directly
(`nameMeets_trans`, `Variant.Settings.satisfies_trans`). Versions are compared range by range by
`isSubset`, which compares limits and not the versions held (a range unbounded above is not
within one that stops at `develop`); limits are ordered by a total preorder, so the test
composes all the same (`Version.Range.isSubset_trans`), and so does the test on constraints: a
range of the first lies within one of the second, which lies within one of the third
(`Version.Constraint.isSubset_trans`). A dependency of the third spec is met by the dependency of
its name in the second, which is met by the dependency of that name in the first; dependencies
have none of their own, so on them the whole check is the check of parts
(`WellFormed.satisfies_trans`).
-/

namespace BuildSpec

namespace Version.Range

/-- Lying within another range, as `isSubset` tests it on limits, is transitive. -/
theorem isSubset_trans {r s t : Version.Range} (hr : r.Ordered) (hs : s.Ordered)
    (hrs : r.isSubset s = true) (hst : s.isSubset t = true) : r.isSubset t = true := by
  rw [isSubset_iff hr] at hrs ⊢
  rw [isSubset_iff hs] at hst
  exact ⟨Std.TransCmp.isLE_trans hst.1 hrs.1, Std.TransCmp.isLE_trans hst.2 hrs.2⟩

end Version.Range

namespace Version.Constraint

/-- Lying within another constraint range by range is transitive. -/
theorem isSubset_trans {a b c : Version.Constraint} (ha : a.WellFormed) (hb : b.WellFormed)
    (hab : a.isSubset b = true) (hbc : b.isSubset c = true) : a.isSubset c = true := by
  refine List.all_eq_true.2 fun r hr => ?_
  obtain ⟨o, ho, hro⟩ := List.any_eq_true.1 (List.all_eq_true.1 hab r hr)
  obtain ⟨p, hp, hop⟩ := List.any_eq_true.1 (List.all_eq_true.1 hbc o ho)
  exact List.any_eq_true.2
    ⟨p, hp, Version.Range.isSubset_trans (ha.proper r hr).ordered (hb.proper o ho).ordered hro hop⟩

end Version.Constraint

namespace Spec

/-! ## Parts -/

theorem nameMeets_trans {a b c : Option String} (hab : nameMeets a b = true)
    (hbc : nameMeets b c = true) : nameMeets a c = true := by
  cases c with
  | none => rfl
  | some k =>
    -- `b` has the name `c` asks for, and `a` has the name of `b`
    simp only [nameMeets, beq_iff_eq] at hbc
    subst hbc
    exact hab

theorem compilerMeets_trans {a b c : Option Compiler} (ha : CompilerWellFormed a)
    (hb : CompilerWellFormed b) (hab : compilerMeets a b true = true)
    (hbc : compilerMeets b c true = true) : compilerMeets a c true = true := by
  rcases c with _ | r
  · cases a <;> rfl
  -- strictly, a compiler asked for must be given: `b` gives one, so `a` gives one too
  rcases b with _ | m
  · simp [compilerMeets] at hbc
  rcases a with _ | l
  · simp [compilerMeets] at hab
  simp only [compilerMeets, Compiler.satisfies, if_true, Bool.and_eq_true, beq_iff_eq] at hab hbc ⊢
  exact ⟨hab.1.trans hbc.1, Version.Constraint.isSubset_trans (ha l rfl).2 (hb m rfl).2 hab.2 hbc.2⟩

/-- Strict satisfaction of parts is transitive. -/
theorem satisfiesPart_trans {s o p : Spec} (hs : s.PartWellFormed) (ho : o.PartWellFormed)
    (h₁ : s.satisfiesPart o true = true) (h₂ : o.satisfiesPart p true = true) :
    s.satisfiesPart p true = true := by
  simp only [satisfiesPart, if_true, Bool.true_or, Bool.and_eq_true] at h₁ h₂ ⊢
  obtain ⟨⟨⟨hn₁, hv₁⟩, hc₁⟩, hm₁⟩ := h₁
  obtain ⟨⟨⟨hn₂, hv₂⟩, hc₂⟩, hm₂⟩ := h₂
  refine ⟨⟨⟨nameMeets_trans hn₁ hn₂, ?_⟩, compilerMeets_trans hs.compiler ho.compiler hc₁ hc₂⟩,
    Variant.Settings.satisfies_trans hm₁ hm₂⟩
  exact Version.Constraint.isSubset_trans hs.versions ho.versions hv₁ hv₂

/-! ## Whole specs -/

namespace WellFormed

variable {a b c : Spec}

/-- A well-formed spec strictly satisfies itself: each of its dependencies is the first of its
name, and satisfies itself. -/
theorem satisfies_self (ha : a.WellFormed) : a.satisfies a true = true := by
  rw [satisfies_eq, satisfiesPart_refl ha.part, Bool.true_and, satisfiesDeps_true_iff]
  intro d hd
  have hdw := ha.deps.deps d hd
  obtain ⟨n, hn⟩ := Option.isSome_iff_exists.1 hdw.named
  rw [hn, Option.bind_some]
  exact ⟨d, depOf_of_mem ha.deps.distinct hd hn, hdw.satisfies_refl⟩

/-- Strict satisfaction of well-formed specs is transitive. -/
theorem satisfies_trans (ha : a.WellFormed) (hb : b.WellFormed) (hc : c.WellFormed)
    (hab : a.satisfies b true = true) (hbc : b.satisfies c true = true) :
    a.satisfies c true = true := by
  rw [satisfies_eq, Bool.and_eq_true, satisfiesDeps_true_iff] at hab hbc ⊢
  refine ⟨satisfiesPart_trans ha.part hb.part hab.1 hbc.1, fun d hd => ?_⟩
  -- `d` is met by the dependency `e` of its name in `b`, and `e` by the one `e'` of `a`
  obtain ⟨e, hde, hed⟩ := hbc.2 d hd
  obtain ⟨n, hn, hbn⟩ := Option.bind_eq_some_iff.1 hde
  obtain ⟨he, hen⟩ := depOf_mem hbn
  obtain ⟨e', hee', he'e⟩ := hab.2 e he
  rw [hen, Option.bind_some] at hee'
  have hew := hb.deps.deps e he
  have hdw := hc.deps.deps d hd
  refine ⟨e', by rw [hn, Option.bind_some]; exact hee', ?_⟩
  rw [satisfies_of_flat hdw.flat] at hed ⊢
  rw [satisfies_of_flat hew.flat] at he'e
  exact satisfiesPart_trans (ha.deps.deps e' (depOf_mem hee').1).part hew.part he'e hed

end WellFormed

/-- On the specs that reading and narrowing make, strict satisfaction is a preorder that implies
loose satisfaction: every spec strictly satisfies itself, strict satisfaction is transitive, and
a spec that strictly satisfies another satisfies it loosely. -/
theorem satisfies_strict_preorder {a b c : Spec} (ha : a.Reachable) (hb : b.Reachable)
    (hc : c.Reachable) :
    a.satisfies a true = true ∧
      (a.satisfies b true = true → b.satisfies c true = true → a.satisfies c true = true) ∧
      (a.satisfies b true = true → a.satisfies b false = true) :=
  ⟨ha.wellFormed.satisfies_self, ha.wellFormed.satisfies_trans hb.wellFormed hc.wellFormed,
    satisfies_loose ha.wellFormed hb.wellFormed⟩

theorem parsed_satisfies_strict_preorder : ∃ a b c, parse "x@1:5+mpi ^y@2" = .ok a ∧
    parse "x@1:8 ^y@2:" = .ok b ∧ parse "x ^y" = .ok c ∧
    a.satisfies a true = true ∧
      (a.satisfies b true = true → b.satisfies c true = true → a.satisfies c true = true) ∧
      (a.satisfies b true = true → a.satisfies b false = true) := by
  obtain ⟨a, ha⟩ := exists_eq_ok_of_isOk (show (parse "x@1:5+mpi ^y@2").isOk = true by decide +kernel)
  obtain ⟨b, hb⟩ := exists_eq_ok_of_isOk (show (parse "x@1:8 ^y@2:").isOk = true by decide +kernel)
  obtain ⟨c, hc⟩ := exists_eq_ok_of_isOk (show (parse "x ^y").isOk = true by decide +kernel)
  exact ⟨a, b, c, ha, hb, hc, satisfies_strict_preorder (.parsed ha) (.parsed hb) (.parsed hc)⟩

end Spec

end BuildSpec
