import Mathlib
import BuildSpec.Proofs.Equality

/-!
# The order of versions and of ranges

Parts compare letters below numbers, numbers by value and letters by their characters; versions
compare their parts one by one, with `develop` above every other; the ranges of a normal
constraint are ordered by lower limit, unbounded first, then by upper limit, unbounded last.

Each of these comparisons is a total preorder: swapping the arguments swaps the answer, and
being at most is transitive (`Std.TransCmp`). Parts are moreover equal when they compare equal.
These are the laws sorting needs: `Version.Constraint.normalize` sorts ranges with
`compareRanges`, and a list it has sorted is already in order (`rangeLE_trans`,
`rangeLE_total`).
-/

namespace BuildSpec

namespace Version.Part

theorem ord_compare (a b : Version.Part) : Ord.compare a b = Version.Part.compare a b := rfl

instance : Std.TransOrd Version.Part where
  eq_swap {a b} := by
    cases a <;> cases b <;> simp only [ord_compare, Version.Part.compare, Ordering.swap_lt,
      Ordering.swap_gt] <;> exact Std.OrientedOrd.eq_swap
  isLE_trans {a b c} hab hbc := by
    cases a <;> cases b <;> cases c <;>
      simp only [ord_compare, Version.Part.compare, Ordering.isLE_lt, Ordering.isLE_gt,
        Bool.false_eq_true] at hab hbc ⊢
    all_goals exact Std.TransOrd.isLE_trans hab hbc

instance : Std.LawfulEqOrd Version.Part where
  eq_of_compare {a b} h := by
    cases a <;> cases b <;> simp only [ord_compare, Version.Part.compare, reduceCtorEq] at h
    · exact congrArg _ (Std.LawfulEqOrd.eq_of_compare h)
    · exact congrArg _ (Std.LawfulEqOrd.eq_of_compare h)

end Version.Part

namespace Version

-- `develop` forms a class of its own above every other version; below it the parts decide
instance : Std.TransCmp Version.compare where
  eq_swap {a b} := by
    unfold Version.compare
    cases a.isDevelop <;> cases b.isDevelop <;> simp only [Ordering.swap_eq, Ordering.swap_lt,
      Ordering.swap_gt]
    exact Std.OrientedOrd.eq_swap
  isLE_trans {a b c} hab hbc := by
    unfold Version.compare at *
    cases ha : a.isDevelop <;> cases hb : b.isDevelop <;> cases hc : c.isDevelop <;>
      simp only [ha, hb, hc, Ordering.isLE_lt, Ordering.isLE_gt, Ordering.isLE_eq,
        Bool.false_eq_true] at hab hbc ⊢
    all_goals exact Std.TransOrd.isLE_trans hab hbc

theorem ord_compare (a b : Version) : Ord.compare a b = Version.compare a b := rfl

instance : Std.TransOrd Version := inferInstanceAs (Std.TransCmp Version.compare)

end Version

namespace Version.Constraint

/-- Lower limits are ordered as optional versions are, `none` first. -/
theorem compareLower_eq_compare (a b : Option Version) : compareLower a b = Ord.compare a b := by
  cases a <;> cases b <;> rfl

instance : Std.TransCmp compareLower := by
  rw [show compareLower = Ord.compare from funext₂ compareLower_eq_compare]
  infer_instance

instance : Std.TransCmp compareUpper where
  eq_swap {a b} := by
    cases a <;> cases b <;> simp only [compareUpper, Ordering.swap_eq, Ordering.swap_lt,
      Ordering.swap_gt]
    exact Std.OrientedCmp.eq_swap
  isLE_trans {a b c} hab hbc := by
    cases a <;> cases b <;> cases c <;>
      simp only [compareUpper, Ordering.isLE_lt, Ordering.isLE_gt, Ordering.isLE_eq,
        Bool.false_eq_true] at hab hbc ⊢
    exact Std.TransCmp.isLE_trans hab hbc

-- the lexicographic combination of the two limit orders, as `Std.compareLex` is proved lawful
instance : Std.TransCmp compareRanges where
  eq_swap {a b} := by
    simp only [compareRanges, Ordering.swap_then, ← Std.OrientedCmp.eq_swap]
  isLE_trans {a b c} hab hbc := by
    simp only [compareRanges, Ordering.isLE_then_iff_and] at *
    refine ⟨Std.TransCmp.isLE_trans hab.1 hbc.1, ?_⟩
    rcases hab.2 with hab' | hab'
    · exact Or.inl (Std.TransCmp.lt_of_lt_of_isLE hab' hbc.1)
    · rcases hbc.2 with hbc' | hbc'
      · exact Or.inl (Std.TransCmp.lt_of_isLE_of_lt hab.1 hbc')
      · exact Or.inr (Std.TransCmp.isLE_trans hab' hbc')

theorem ne_gt_eq_isLE (o : Ordering) : (o != .gt) = o.isLE := by
  cases o <;> rfl

/-- The test `normalize` sorts with is transitive. -/
theorem rangeLE_trans (a b c : Version.Range) (hab : (compareRanges a b != .gt) = true)
    (hbc : (compareRanges b c != .gt) = true) : (compareRanges a c != .gt) = true := by
  rw [ne_gt_eq_isLE] at *
  exact Std.TransCmp.isLE_trans hab hbc

/-- The test `normalize` sorts with is total. -/
theorem rangeLE_total (a b : Version.Range) :
    ((compareRanges a b != .gt) || (compareRanges b a != .gt)) = true := by
  have hswap : compareRanges b a = (compareRanges a b).swap := Std.OrientedCmp.eq_swap
  rw [ne_gt_eq_isLE, ne_gt_eq_isLE, hswap]
  cases compareRanges a b <;> rfl

end Version.Constraint

end BuildSpec
