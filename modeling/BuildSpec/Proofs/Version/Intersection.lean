import BuildSpec.Proofs.Version.Normal

/-!
# Intersecting version constraints

A range holds a version exactly when the version is on or above the range's lower limit and on
or below its upper limit, a missing limit bounding nothing (`Version.Range.contains_iff`).
`Version.Range.join` takes the greater of the two lower limits and the lesser of the two upper
limits and rebuilds a range from them, refusing an empty one. So the join of two ranges holds
exactly the versions both hold, and there is no join exactly when they share no version
(`join_contains`, `join_eq_none_iff`).

A constraint holds what one of its ranges holds, and normalizing a union of ranges (collapsing
it to `:`, or sorting it and dropping repeats) keeps what it holds (`contains_normalize`). The
intersection of two constraints is the normal union of the joins of their ranges. Main
statement (`Version.Constraint.intersection_exact`): the intersection is missing exactly when
the constraints share no version, and otherwise holds exactly the versions both hold; two
constraints overlap exactly when they share a version; and a constraint each of whose ranges
lies within a range of another holds no version the other lacks.

Only comparisons with the limits decide, so none of this needs the order of versions to be dense
or to lack a greatest element (`develop` is one): a total preorder is enough
(`BuildSpec.Proofs.Version.Order`).
-/

namespace BuildSpec

namespace Version

/-- Being at most is seen from either side. -/
theorem compare_ne_gt_iff (a b : Version) : Version.compare a b ≠ .gt ↔ Version.compare b a ≠ .lt :=
  not_congr Std.OrientedCmp.gt_iff_lt

/-- Versions equal in the order compare alike with every other, on the left. -/
theorem compare_congr_left {a b : Version} (h : Version.compare a b = .eq) (c : Version) :
    Version.compare a c = Version.compare b c :=
  Std.TransCmp.congr_left h

/-- Versions equal in the order compare alike with every other, on the right. -/
theorem compare_congr_right {a b : Version} (h : Version.compare a b = .eq) (c : Version) :
    Version.compare c a = Version.compare c b :=
  Std.TransCmp.congr_right h

end Version

namespace Version.Range

/-- The version is not below the lower limit, if there is one. -/
def AboveLower (lo : Option Version) (v : Version) : Prop := ∀ x ∈ lo, Version.compare v x ≠ .lt

/-- The version is not above the upper limit, if there is one. -/
def BelowUpper (hi : Option Version) (v : Version) : Prop := ∀ x ∈ hi, Version.compare v x ≠ .gt

@[simp] theorem aboveLower_none (v : Version) : AboveLower none v := nofun

@[simp] theorem belowUpper_none (v : Version) : BelowUpper none v := nofun

@[simp] theorem aboveLower_some (x v : Version) : AboveLower (some x) v ↔ Version.compare v x ≠ .lt := by
  simp [AboveLower]

@[simp] theorem belowUpper_some (x v : Version) : BelowUpper (some x) v ↔ Version.compare v x ≠ .gt := by
  simp [BelowUpper]

/-- A range holds exactly the versions between its limits. -/
theorem contains_iff (r : Version.Range) (v : Version) :
    r.contains v = true ↔ AboveLower r.limits.1 v ∧ BelowUpper r.limits.2 v := by
  cases r with
  | any => simp [contains, limits]
  | exact e =>
    -- one version: neither below nor above it is being equal to it
    simp only [contains, limits, aboveLower_some, belowUpper_some, Version.beq_def, beq_iff_eq]
    cases Version.compare v e <;> simp
  | atLeast lo => simp [contains, limits]
  | atMost hi => simp [contains, limits]
  | between lo hi => simp [contains, limits, Version.compare_ne_gt_iff lo v]

/-- Ranges equal in the order of versions hold the same versions. -/
theorem contains_congr {a b : Version.Range} (h : (a == b) = true) (v : Version) :
    a.contains v = b.contains v := by
  cases a <;> cases b <;> simp only [BEq.beq, beq, Bool.false_eq_true, Bool.and_eq_true,
    decide_eq_true_eq] at h <;> simp only [contains, Version.beq_def]
  case exact.exact a b => rw [Version.compare_congr_right h]
  case atLeast.atLeast a b => rw [Version.compare_congr_right h]
  case atMost.atMost a b => rw [Version.compare_congr_right h]
  case between.between a b c d =>
    rw [Version.compare_congr_left h.1,
      Version.compare_congr_right h.2]

/-! ## Ranges rebuilt from limits -/

/-- The range rebuilt from two limits holds exactly the versions between them. -/
theorem contains_ofLimits {lo hi : Option Version} {r : Version.Range} (h : ofLimits lo hi = some r)
    (v : Version) : r.contains v = true ↔ AboveLower lo v ∧ BelowUpper hi v := by
  rw [contains_iff]
  cases lo with
  | none => cases hi <;> (simp only [ofLimits, Option.some.injEq] at h; subst h; rfl)
  | some lo =>
    cases hi with
    | none => simp only [ofLimits, Option.some.injEq] at h; subst h; rfl
    | some hi =>
      cases hc : Version.compare lo hi with
      | gt => simp [ofLimits, hc] at h
      | eq =>
        -- equal limits make the one-version range of the lower one
        simp only [ofLimits, hc, Option.some.injEq] at h
        subst h
        simp only [limits, aboveLower_some, belowUpper_some, and_congr_right_iff]
        intro _
        rw [Version.compare_congr_right hc]
      | lt =>
        simp only [ofLimits, hc, Option.some.injEq] at h
        subst h
        rfl

/-- No version lies between two limits that cross, which is when no range is rebuilt. -/
theorem not_between_of_ofLimits_eq_none {lo hi : Option Version} (h : ofLimits lo hi = none)
    (v : Version) : ¬(AboveLower lo v ∧ BelowUpper hi v) := by
  cases lo with
  | none => cases hi <;> simp [ofLimits] at h
  | some lo =>
    cases hi with
    | none => simp [ofLimits] at h
    | some hi =>
      cases hc : Version.compare lo hi with
      | gt =>
        simp only [aboveLower_some, belowUpper_some, not_and, not_not]
        intro hlo
        -- `hi < lo ≤ v`
        have hlt : Version.compare hi v = .lt := Std.TransCmp.lt_of_lt_of_isLE
          (Std.OrientedCmp.lt_of_gt hc) (Ordering.isLE_iff_ne_gt.2 ((Version.compare_ne_gt_iff lo v).2 hlo))
        exact Std.OrientedCmp.gt_iff_lt.2 hlt
      | eq => simp [ofLimits, hc] at h
      | lt => simp [ofLimits, hc] at h

/-- A range rebuilt from limits holds some version: it is never empty. -/
theorem exists_contains_of_ofLimits {lo hi : Option Version} {r : Version.Range}
    (h : ofLimits lo hi = some r) : ∃ v, r.contains v = true := by
  have hself (x : Version) : Version.compare x x = .eq := Std.ReflCmp.compare_self
  cases lo with
  | none =>
    cases hi with
    | none => exact ⟨Version.develop, (contains_ofLimits h _).2 (by simp)⟩
    | some hi => exact ⟨hi, (contains_ofLimits h hi).2 (by simp [hself])⟩
  | some lo =>
    refine ⟨lo, (contains_ofLimits h lo).2 ⟨by simp [hself], ?_⟩⟩
    cases hi with
    | none => simp
    | some hi =>
      -- the limits do not cross, so the lower one is below the upper one
      cases hc : Version.compare lo hi with
      | gt => simp [ofLimits, hc] at h
      | eq => simp [hc]
      | lt => simp [hc]

/-! ## Joins -/

/-- The greater of two optional lower limits, a missing one bounding nothing. -/
def lowerJoin : Option Version → Option Version → Option Version
  | some x, some y => some (maxRight x y)
  | x, y => x.or y

/-- The lesser of two optional upper limits, a missing one bounding nothing. -/
def upperJoin : Option Version → Option Version → Option Version
  | some x, some y => some (minLeft x y)
  | x, y => x.or y

theorem join_eq (a b : Version.Range) :
    a.join b = ofLimits (lowerJoin a.limits.1 b.limits.1) (upperJoin a.limits.2 b.limits.2) := by
  cases a <;> cases b <;> rfl

theorem aboveLower_lowerJoin (x y : Option Version) (v : Version) :
    AboveLower (lowerJoin x y) v ↔ AboveLower x v ∧ AboveLower y v := by
  match x, y with
  | some a, some b =>
    simp only [lowerJoin, maxRight, aboveLower_some, beq_iff_eq]
    split_ifs with hab
    · -- `b < a`, so being above `a` is being above both
      refine ⟨fun hv => ⟨hv, fun hvb => hv ?_⟩, fun h => h.1⟩
      exact Std.TransCmp.lt_trans hvb (Std.OrientedCmp.lt_of_gt hab)
    · refine ⟨fun hv => ⟨fun hva => hv ?_, hv⟩, fun h => h.2⟩
      exact Std.TransCmp.lt_of_lt_of_isLE hva (Ordering.isLE_iff_ne_gt.2 hab)
  | some _, none => simp [lowerJoin]
  | none, some _ => simp [lowerJoin]
  | none, none => simp [lowerJoin]

theorem belowUpper_upperJoin (x y : Option Version) (v : Version) :
    BelowUpper (upperJoin x y) v ↔ BelowUpper x v ∧ BelowUpper y v := by
  match x, y with
  | some a, some b =>
    simp only [upperJoin, minLeft, belowUpper_some, beq_iff_eq]
    split_ifs with hab
    · -- `b < a`, so being below `b` is being below both
      refine ⟨fun hv => ⟨fun hva => hv ?_, hv⟩, fun h => h.2⟩
      exact Std.OrientedCmp.gt_iff_lt.2 (Std.TransCmp.lt_trans (Std.OrientedCmp.lt_of_gt hab)
        (Std.OrientedCmp.lt_of_gt hva))
    · refine ⟨fun hv => ⟨hv, fun hvb => hv ?_⟩, fun h => h.1⟩
      exact Std.OrientedCmp.gt_iff_lt.2 (Std.TransCmp.lt_of_isLE_of_lt
        (Ordering.isLE_iff_ne_gt.2 hab) (Std.OrientedCmp.lt_of_gt hvb))
  | some _, none => simp [upperJoin]
  | none, some _ => simp [upperJoin]
  | none, none => simp [upperJoin]

/-- The join of two ranges holds exactly the versions both hold. -/
theorem join_contains {a b r : Version.Range} (h : a.join b = some r) (v : Version) :
    r.contains v = (a.contains v && b.contains v) := by
  rw [join_eq] at h
  rw [Bool.eq_iff_iff, contains_ofLimits h, Bool.and_eq_true, contains_iff a, contains_iff b,
    aboveLower_lowerJoin, belowUpper_upperJoin]
  tauto

/-- Two ranges have no join exactly when they share no version. -/
theorem join_eq_none_iff {a b : Version.Range} :
    a.join b = none ↔ ∀ v, ¬(a.contains v = true ∧ b.contains v = true) := by
  constructor
  · intro h v hv
    rw [join_eq] at h
    rw [contains_iff, contains_iff] at hv
    exact not_between_of_ofLimits_eq_none h v
      ⟨(aboveLower_lowerJoin _ _ v).2 ⟨hv.1.1, hv.2.1⟩, (belowUpper_upperJoin _ _ v).2 ⟨hv.1.2, hv.2.2⟩⟩
  · intro h
    cases hj : a.join b with
    | none => rfl
    | some r =>
      -- the join holds a version, which both ranges then hold
      obtain ⟨v, hv⟩ := exists_contains_of_ofLimits (join_eq a b ▸ hj)
      rw [join_contains hj, Bool.and_eq_true] at hv
      exact absurd hv (h v)

/-- A range within another, as `isSubset` tests it, holds no version the other lacks. -/
theorem contains_of_isSubset {a b : Version.Range} (h : a.isSubset b = true) {v : Version}
    (hv : a.contains v = true) : b.contains v = true := by
  unfold isSubset at h
  cases hj : a.join b with
  | none => simp [hj] at h
  | some r =>
    rw [hj, Option.some_beq_some] at h
    have hr : r.contains v = true := by rw [contains_congr h, hv]
    rw [join_contains hj, Bool.and_eq_true] at hr
    exact hr.2

end Version.Range

namespace Version.Constraint

/-- Dropping ranges equal to the one before keeps the versions a union holds. -/
theorem any_contains_dedup (l : List Version.Range) (v : Version) :
    (dedup l).any (·.contains v) = l.any (·.contains v) := by
  fun_induction dedup l with
  | case1 a b rest hab ih =>
    rw [ih, List.any_cons, List.any_cons, List.any_cons, ← Version.Range.contains_congr hab v]
    cases a.contains v <;> simp
  | case2 a b rest _ ih =>
    simp only [List.any_cons] at ih ⊢
    rw [ih]
  | case3 => rfl

/-- Normalizing a union of ranges keeps the versions it holds. -/
theorem contains_normalize (rs : List Version.Range) (v : Version) :
    (normalize rs).contains v = rs.any (·.contains v) := by
  unfold normalize
  split
  · -- a range holding every version is among them
    rename_i hany
    obtain ⟨r, hr, hr'⟩ := List.any_eq_true.1 hany
    have hrany : r = .any := by cases r <;> simp_all [BEq.beq, Version.Range.beq]
    subst hrany
    exact (List.any_eq_true.2 ⟨.any, hr, rfl⟩).symm
  · simp only [contains, any_contains_dedup]
    exact (List.mergeSort_perm rs _).any_eq

/-- The joins of the ranges of two constraints hold exactly the versions both hold. -/
theorem any_contains_joins (a b : Version.Constraint) (v : Version) :
    (a.ranges.flatMap fun x => b.ranges.filterMap fun y => x.join y).any (·.contains v) =
      (a.contains v && b.contains v) := by
  rw [Bool.eq_iff_iff, Bool.and_eq_true]
  simp only [contains, List.any_eq_true, List.mem_flatMap, List.mem_filterMap]
  constructor
  · rintro ⟨r, ⟨x, hx, y, hy, hj⟩, hr⟩
    rw [Version.Range.join_contains hj, Bool.and_eq_true] at hr
    exact ⟨⟨x, hx, hr.1⟩, ⟨y, hy, hr.2⟩⟩
  · rintro ⟨⟨x, hx, hxv⟩, ⟨y, hy, hyv⟩⟩
    -- two ranges sharing `v` have a join, and it holds `v`
    cases hj : x.join y with
    | none => exact absurd ⟨hxv, hyv⟩ (Version.Range.join_eq_none_iff.1 hj v)
    | some r => exact ⟨r, ⟨x, hx, y, hy, hj⟩, by rw [Version.Range.join_contains hj, hxv, hyv]; rfl⟩

theorem intersection_eq_none_iff {a b : Version.Constraint} :
    a.intersection b = none ↔ ∀ v, ¬(a.contains v = true ∧ b.contains v = true) := by
  unfold intersection ofRanges?
  constructor
  · intro h v hv
    split_ifs at h with hnil
    rw [List.isEmpty_iff] at hnil
    have := any_contains_joins a b v
    rw [hnil, hv.1, hv.2] at this
    cases this
  · intro h
    split_ifs with hnil
    · rfl
    · -- some join is there, and it holds a version both constraints hold
      rw [List.isEmpty_iff] at hnil
      obtain ⟨r, hr⟩ := List.exists_mem_of_ne_nil _ hnil
      obtain ⟨x, -, y, -, hj⟩ := by simpa only [List.mem_flatMap, List.mem_filterMap] using hr
      obtain ⟨v, hv⟩ := Version.Range.exists_contains_of_ofLimits (Version.Range.join_eq x y ▸ hj)
      have hany := any_contains_joins a b v
      rw [List.any_eq_true.2 ⟨r, hr, hv⟩, eq_comm, Bool.and_eq_true] at hany
      exact absurd hany (h v)

theorem contains_intersection {a b c : Version.Constraint} (h : a.intersection b = some c)
    (v : Version) : c.contains v = (a.contains v && b.contains v) := by
  unfold intersection ofRanges? at h
  split_ifs at h
  cases h
  rw [contains_normalize, any_contains_joins]

/-- A constraint each of whose ranges lies within a range of another holds no version the other
lacks. -/
theorem contains_of_isSubset {a b : Version.Constraint} (h : a.isSubset b = true) {v : Version}
    (hv : a.contains v = true) : b.contains v = true := by
  obtain ⟨r, hr, hrv⟩ := List.any_eq_true.1 hv
  obtain ⟨o, ho, hro⟩ := List.any_eq_true.1 (List.all_eq_true.1 h r hr)
  exact List.any_eq_true.2 ⟨o, ho, Version.Range.contains_of_isSubset hro hrv⟩

/-- The intersection of two constraints is exact: it is missing exactly when they share no
version, and otherwise holds exactly the versions both hold; the constraints overlap exactly
when they share a version; and a constraint within another holds no version the other lacks. -/
theorem intersection_exact (a b : Version.Constraint) :
    (a.intersection b = none ↔ ∀ v, ¬(a.contains v = true ∧ b.contains v = true)) ∧
    (∀ c, a.intersection b = some c → ∀ v, c.contains v = (a.contains v && b.contains v)) ∧
    (a.overlaps b = true ↔ ∃ v, a.contains v = true ∧ b.contains v = true) ∧
    (a.isSubset b = true → ∀ v, a.contains v = true → b.contains v = true) := by
  refine ⟨intersection_eq_none_iff, fun c h => contains_intersection h,
    ?_, fun h v => contains_of_isSubset h⟩
  rw [overlaps, Option.isSome_iff_ne_none, Ne, intersection_eq_none_iff, not_forall]
  simp only [not_not]

end Version.Constraint

end BuildSpec
