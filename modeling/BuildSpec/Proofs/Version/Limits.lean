import BuildSpec.Proofs.Version.Intersection

/-!
# Ranges compared by their limits

`Version.Range.join` takes the greater of two lower limits and the lesser of two upper limits,
keeping one of two versions that the order finds equal, so two joins of the same interval may be
written with different versions (`1.0` and `1.00`). Such ranges are equal as `==` sees them and
as the order of a normal constraint sees them (`Version.Range.Equiv`): their lower limits compare
equal, unbounded first, and so do their upper limits, unbounded last.

Seen up to `Equiv`, the join is an operation on limits: its lower limit is the least one at or
above both lower limits (`lowerJoin_isLeastUpper`) and its upper limit the greatest one at or
below both upper limits. A least upper bound is commutative, associative and idempotent up to
equality in the order (`IsLeastUpper`), and so is the join of ranges (`join_comm`, `join_assoc`,
`join_self`). A join of three ranges is moreover the join of two of them, the one with the
greatest lower limit and the one with the least upper limit (`exists_join_eq_bind_join`). Last,
a range lies within another exactly when its limits lie within the other's (`isSubset_iff`).

Until the last section none of this looks at which versions a range holds: `:develop` and `:`
hold the same versions but differ in their upper limits, and `==` tells them apart. Because the
order of versions has such a greatest element, lying within another range is not the same as
holding no version it lacks: it is that, together with each open side staying open
(`isSubset_iff_contains`, `isSubset_misses_upToDevelop`).
-/

namespace BuildSpec

/-! ## Least upper bounds in a total preorder -/

section Preorder

variable {α : Type} {cmp : α → α → Ordering} [Std.TransCmp cmp]

theorem isLE_compare_self (a : α) : (cmp a a).isLE = true := by
  have h : cmp a a = .eq := Std.ReflCmp.compare_self
  rw [h]
  rfl

/-- Each at most the other: equal in a total preorder. -/
theorem compare_eq_of_isLE_of_isLE {a b : α} (hab : (cmp a b).isLE = true)
    (hba : (cmp b a).isLE = true) : cmp a b = .eq := by
  rw [← Std.OrientedCmp.isGE_iff_isLE] at hba
  cases hc : cmp a b <;> simp_all

/-- Two elements with the same elements above them are equal in a total preorder. -/
theorem compare_eq_of_forall_isLE {a b : α}
    (h : ∀ z, (cmp a z).isLE = true ↔ (cmp b z).isLE = true) : cmp a b = .eq :=
  compare_eq_of_isLE_of_isLE ((h b).2 (isLE_compare_self b)) ((h a).1 (isLE_compare_self a))

/-- `op` gives the least element at or above both its arguments. -/
def IsLeastUpper (cmp : α → α → Ordering) (op : α → α → α) : Prop :=
  ∀ x y z, (cmp (op x y) z).isLE = true ↔ (cmp x z).isLE = true ∧ (cmp y z).isLE = true

namespace IsLeastUpper

variable {op : α → α → α}

theorem isLE_left (h : IsLeastUpper cmp op) (x y : α) : (cmp x (op x y)).isLE = true :=
  ((h x y (op x y)).1 (isLE_compare_self _)).1

theorem isLE_right (h : IsLeastUpper cmp op) (x y : α) : (cmp y (op x y)).isLE = true :=
  ((h x y (op x y)).1 (isLE_compare_self _)).2

theorem comm (h : IsLeastUpper cmp op) (x y : α) : cmp (op x y) (op y x) = .eq :=
  compare_eq_of_forall_isLE fun z => by rw [h, h, and_comm]

theorem assoc (h : IsLeastUpper cmp op) (x y w : α) : cmp (op (op x y) w) (op x (op y w)) = .eq :=
  compare_eq_of_forall_isLE fun z => by rw [h, h, h, h, and_assoc]

theorem congr (h : IsLeastUpper cmp op) {x x' y y' : α} (hx : cmp x x' = .eq)
    (hy : cmp y y' = .eq) : cmp (op x y) (op x' y') = .eq :=
  compare_eq_of_forall_isLE fun z => by
    rw [h, h, Std.TransCmp.congr_left hx, Std.TransCmp.congr_left hy]

/-- The bound of `x` and `y` is `x` exactly when `y` is at most `x`. -/
theorem eq_left_iff (h : IsLeastUpper cmp op) (x y : α) :
    cmp (op x y) x = .eq ↔ (cmp y x).isLE = true := by
  constructor
  · intro he
    exact Std.TransCmp.isLE_trans (h.isLE_right x y) (by rw [he]; rfl)
  · intro hyx
    exact compare_eq_of_isLE_of_isLE ((h x y x).2 ⟨isLE_compare_self x, hyx⟩) (h.isLE_left x y)

end IsLeastUpper

end Preorder

namespace Version.Range

open Version.Constraint (compareLower compareUpper compareRanges)

/-! ## Limits -/

/-- Upper limits the other way round: the lesser is the more constraining. -/
def upperRev (a b : Option Version) : Ordering := compareUpper b a

instance : Std.TransCmp upperRev where
  eq_swap {a b} := by
    simp only [upperRev]
    exact Std.OrientedCmp.eq_swap
  isLE_trans {a b c} hab hbc := by
    simp only [upperRev] at *
    exact Std.TransCmp.isLE_trans hbc hab

theorem upperRev_eq_eq {a b : Option Version} : upperRev a b = .eq ↔ compareUpper a b = .eq :=
  Std.OrientedCmp.eq_comm

/-- The lower limit of a join is the least limit at or above both, unbounded being least. -/
theorem lowerJoin_isLeastUpper : IsLeastUpper compareLower lowerJoin := by
  intro x y z
  match x, y with
  | some a, some b =>
    cases z with
    | none => simp [lowerJoin, compareLower]
    | some c =>
      simp only [lowerJoin, compareLower, maxRight, beq_iff_eq]
      split_ifs with hab
      · -- `b < a`, so being at most `c` takes `a` along with `b`
        have hba : (Version.compare b a).isLE = true := by
          rw [Std.OrientedCmp.gt_iff_lt.1 hab]; rfl
        exact ⟨fun hac => ⟨hac, Std.TransCmp.isLE_trans hba hac⟩, fun h => h.1⟩
      · have hab' : (Version.compare a b).isLE = true := Ordering.isLE_iff_ne_gt.2 hab
        exact ⟨fun hbc => ⟨Std.TransCmp.isLE_trans hab' hbc, hbc⟩, fun h => h.2⟩
  | some a, none => cases z <;> simp [lowerJoin, compareLower]
  | none, some b => cases z <;> simp [lowerJoin, compareLower]
  | none, none => cases z <;> simp [lowerJoin, compareLower]

/-- The upper limit of a join is the greatest limit at or below both, unbounded being greatest. -/
theorem upperJoin_isLeastUpper : IsLeastUpper upperRev upperJoin := by
  intro x y z
  simp only [upperRev]
  match x, y with
  | some a, some b =>
    cases z with
    | none => simp [upperJoin, compareUpper]
    | some c =>
      simp only [upperJoin, compareUpper, minLeft, beq_iff_eq]
      split_ifs with hab
      · -- `b < a`, so being at least `c` takes `b` along with `a`
        have hba : (Version.compare b a).isLE = true := by
          rw [Std.OrientedCmp.gt_iff_lt.1 hab]; rfl
        exact ⟨fun hcb => ⟨Std.TransCmp.isLE_trans hcb hba, hcb⟩, fun h => h.2⟩
      · have hab' : (Version.compare a b).isLE = true := Ordering.isLE_iff_ne_gt.2 hab
        exact ⟨fun hca => ⟨hca, Std.TransCmp.isLE_trans hca hab'⟩, fun h => h.1⟩
  | some a, none => cases z <;> simp [upperJoin, compareUpper]
  | none, some b => cases z <;> simp [upperJoin, compareUpper]
  | none, none => cases z <;> simp [upperJoin, compareUpper]

/-- The join of two limits is one of them. -/
theorem lowerJoin_eq_or (x y : Option Version) : lowerJoin x y = x ∨ lowerJoin x y = y := by
  match x, y with
  | some a, some b => rcases maxRight_eq_or a b with h | h <;> simp [lowerJoin, h]
  | some _, none => simp [lowerJoin]
  | none, _ => simp [lowerJoin]

theorem upperJoin_eq_or (x y : Option Version) : upperJoin x y = x ∨ upperJoin x y = y := by
  match x, y with
  | some a, some b => rcases minLeft_eq_or a b with h | h <;> simp [upperJoin, h]
  | some _, none => simp [upperJoin]
  | none, _ => simp [upperJoin]

@[simp] theorem lowerJoin_self (x : Option Version) : lowerJoin x x = x := by
  rcases lowerJoin_eq_or x x with h | h <;> exact h

@[simp] theorem upperJoin_self (x : Option Version) : upperJoin x x = x := by
  rcases upperJoin_eq_or x x with h | h <;> exact h

/-! ## Rebuilding a range from limits -/

/-- A lower limit above an upper limit: nothing lies between them. -/
def Crossed (lo hi : Option Version) : Prop :=
  ∃ a b, lo = some a ∧ hi = some b ∧ Version.compare a b = .gt

theorem ofLimits_eq_none_iff {lo hi : Option Version} : ofLimits lo hi = none ↔ Crossed lo hi := by
  match lo, hi with
  | some a, some b =>
    simp only [ofLimits, Crossed, Option.some.injEq, exists_and_left, exists_eq_left']
    cases Version.compare a b <;> simp
  | some _, none => simp [ofLimits, Crossed]
  | none, some _ => simp [ofLimits, Crossed]
  | none, none => simp [ofLimits, Crossed]

/-- Crossed limits stay crossed when the lower one rises and the upper one falls. -/
theorem Crossed.mono {lo hi lo' hi' : Option Version} (h : Crossed lo hi)
    (hlo : (compareLower lo lo').isLE = true) (hhi : (upperRev hi hi').isLE = true) :
    Crossed lo' hi' := by
  obtain ⟨a, b, rfl, rfl, hab⟩ := h
  match lo', hi' with
  | some a', some b' =>
    simp only [compareLower, upperRev, compareUpper] at hlo hhi
    -- `b' ≤ b < a ≤ a'`
    have hba : Version.compare b a = .lt := Std.OrientedCmp.gt_iff_lt.1 hab
    have hba' : Version.compare b' a' = .lt :=
      Std.TransCmp.lt_of_isLE_of_lt hhi (Std.TransCmp.lt_of_lt_of_isLE hba hlo)
    exact ⟨a', b', rfl, rfl, Std.OrientedCmp.gt_iff_lt.2 hba'⟩
  | none, _ => simp [compareLower] at hlo
  | some _, none => simp [upperRev, compareUpper] at hhi

theorem Crossed.congr {lo hi lo' hi' : Option Version} (h : Crossed lo hi)
    (hlo : compareLower lo lo' = .eq) (hhi : compareUpper hi hi' = .eq) : Crossed lo' hi' :=
  h.mono (by rw [hlo]; rfl) (by rw [upperRev_eq_eq.2 hhi]; rfl)

/-- A range rebuilt from limits has those limits, up to equality in the order. -/
theorem limits_ofLimits {lo hi : Option Version} {r : Version.Range} (h : ofLimits lo hi = some r) :
    compareLower r.limits.1 lo = .eq ∧ compareUpper r.limits.2 hi = .eq := by
  have hself (x : Option Version) : compareLower x x = .eq := Std.ReflCmp.compare_self
  have hself' (x : Option Version) : compareUpper x x = .eq := Std.ReflCmp.compare_self
  match lo, hi with
  | some a, some b =>
    simp only [ofLimits] at h
    split at h
    · cases h
    · next hab =>
      -- one version: the upper limit is the lower one, equal to it in the order
      cases h
      exact ⟨hself _, hab⟩
    · cases h
      exact ⟨hself _, hself' _⟩
  | some _, none => cases h; exact ⟨hself _, hself' _⟩
  | none, some _ => cases h; exact ⟨hself _, hself' _⟩
  | none, none => cases h; exact ⟨hself _, hself' _⟩

/-- A range between two versions has them in increasing order, as every range rebuilt from
limits has. -/
def Ordered (r : Version.Range) : Prop := ∀ lo hi, r = .between lo hi → Version.compare lo hi = .lt

theorem Proper.ordered {r : Version.Range} (h : r.Proper) : r.Ordered := by
  rintro lo hi rfl
  exact h.2.2

theorem ofLimits_ordered {lo hi : Option Version} {r : Version.Range} (h : ofLimits lo hi = some r) :
    r.Ordered := by
  rintro a b rfl
  match lo, hi with
  | some x, some y =>
    simp only [ofLimits] at h
    split at h <;> cases h
    assumption
  | some _, none => cases h
  | none, some _ => cases h
  | none, none => cases h

theorem join_ordered {r s j : Version.Range} (h : r.join s = some j) : j.Ordered :=
  ofLimits_ordered (join_eq r s ▸ h)

/-- An ordered range is rebuilt from its own limits. -/
theorem ofLimits_limits {r : Version.Range} (h : r.Ordered) : ofLimits r.limits.1 r.limits.2 = some r := by
  cases r with
  | exact v => simp [ofLimits, limits, Std.ReflCmp.compare_self]
  | between lo hi => simp [ofLimits, limits, h lo hi rfl]
  | _ => rfl

/-! ## Ranges up to their limits -/

/-- Ranges with equal limits, as the order of a normal constraint compares them. -/
def Equiv (r s : Version.Range) : Prop := compareRanges r s = .eq

theorem equiv_iff {r s : Version.Range} :
    Equiv r s ↔ compareLower r.limits.1 s.limits.1 = .eq ∧ compareUpper r.limits.2 s.limits.2 = .eq :=
  Ordering.then_eq_eq

@[refl] theorem Equiv.refl (r : Version.Range) : Equiv r r := Std.ReflCmp.compare_self

theorem Equiv.symm {r s : Version.Range} (h : Equiv r s) : Equiv s r := Std.OrientedCmp.eq_comm.1 h

theorem Equiv.trans {r s t : Version.Range} (h : Equiv r s) (h' : Equiv s t) : Equiv r t :=
  Std.TransCmp.eq_trans h h'

theorem rel_equiv_symm {x y : Option Version.Range} (h : Option.Rel Equiv x y) :
    Option.Rel Equiv y x := by
  cases h with
  | some h => exact .some h.symm
  | none => exact .none

theorem rel_equiv_trans {x y z : Option Version.Range} (h : Option.Rel Equiv x y)
    (h' : Option.Rel Equiv y z) : Option.Rel Equiv x z := by
  cases h with
  | some h =>
    cases h' with
    | some h' => exact .some (h.trans h')
  | none => exact h'

/-- Rebuilding ranges from limits equal in the order gives equal ranges, or none twice. -/
theorem ofLimits_congr {lo hi lo' hi' : Option Version} (hlo : compareLower lo lo' = .eq)
    (hhi : compareUpper hi hi' = .eq) : Option.Rel Equiv (ofLimits lo hi) (ofLimits lo' hi') := by
  cases h : ofLimits lo hi with
  | none =>
    rw [ofLimits_eq_none_iff.2 ((ofLimits_eq_none_iff.1 h).congr hlo hhi)]
    exact .none
  | some r =>
    cases h' : ofLimits lo' hi' with
    | none =>
      have hc := (ofLimits_eq_none_iff.1 h').congr (Std.OrientedCmp.eq_comm.1 hlo)
        (Std.OrientedCmp.eq_comm.1 hhi)
      rw [ofLimits_eq_none_iff.2 hc] at h
      cases h
    | some r' =>
      obtain ⟨hl, hu⟩ := limits_ofLimits h
      obtain ⟨hl', hu'⟩ := limits_ofLimits h'
      refine .some (equiv_iff.2 ⟨?_, ?_⟩)
      · exact Std.TransCmp.eq_trans hl (Std.TransCmp.eq_trans hlo (Std.OrientedCmp.eq_comm.1 hl'))
      · exact Std.TransCmp.eq_trans hu (Std.TransCmp.eq_trans hhi (Std.OrientedCmp.eq_comm.1 hu'))

/-- `==` on ordered ranges is equality of limits. -/
theorem beq_iff_equiv {r s : Version.Range} (hr : r.Ordered) (hs : s.Ordered) :
    (r == s) = true ↔ Equiv r s := by
  rw [equiv_iff]
  -- an ordered range is rebuilt from its limits, so its shape follows from them
  cases r <;> cases s <;> simp only [BEq.beq, beq, limits, compareLower, compareUpper,
    Bool.and_eq_true, reduceCtorEq, and_false, false_and, and_self, true_and, and_true,
    Bool.false_eq_true, decide_eq_true_eq]
  case exact.between a c d =>
    -- `a = c` and `a = d` would put `c` equal to `d`, below it as they are
    refine iff_of_false (by simp) fun h => ?_
    obtain ⟨hac, had⟩ := h
    have hcd := Std.TransCmp.eq_trans (Std.OrientedCmp.eq_comm.1 hac) had
    rw [hs c d rfl] at hcd
    cases hcd
  case between.exact a b c =>
    refine iff_of_false (by simp) fun h => ?_
    obtain ⟨hac, hbc⟩ := h
    have hab := Std.TransCmp.eq_trans hac (Std.OrientedCmp.eq_comm.1 hbc)
    rw [hr a b rfl] at hab
    cases hab

/-! ## Joins up to their limits -/

theorem join_congr {r r' s s' : Version.Range} (hr : Equiv r r') (hs : Equiv s s') :
    Option.Rel Equiv (r.join s) (r'.join s') := by
  rw [join_eq, join_eq]
  obtain ⟨hrl, hru⟩ := equiv_iff.1 hr
  obtain ⟨hsl, hsu⟩ := equiv_iff.1 hs
  refine ofLimits_congr (lowerJoin_isLeastUpper.congr hrl hsl) ?_
  exact upperRev_eq_eq.1 (upperJoin_isLeastUpper.congr (upperRev_eq_eq.2 hru) (upperRev_eq_eq.2 hsu))

theorem join_comm (r s : Version.Range) : Option.Rel Equiv (r.join s) (s.join r) := by
  rw [join_eq, join_eq]
  exact ofLimits_congr (lowerJoin_isLeastUpper.comm _ _)
    (upperRev_eq_eq.1 (upperJoin_isLeastUpper.comm _ _))

/-- An ordered range joined with itself is itself. -/
theorem join_self {r : Version.Range} (h : r.Ordered) : r.join r = some r := by
  rw [join_eq, lowerJoin_self, upperJoin_self, ofLimits_limits h]

/-- Joining a third range after two is rebuilding from the three lower limits' join and the three
upper limits' join: a join that is empty stays empty. -/
theorem bind_join (r s t : Version.Range) :
    Option.Rel Equiv ((r.join s).bind (·.join t))
      (ofLimits (lowerJoin (lowerJoin r.limits.1 s.limits.1) t.limits.1)
        (upperJoin (upperJoin r.limits.2 s.limits.2) t.limits.2)) := by
  cases h : r.join s with
  | none =>
    rw [join_eq, ofLimits_eq_none_iff] at h
    rw [Option.bind_none, ofLimits_eq_none_iff.2 (h.mono (lowerJoin_isLeastUpper.isLE_left _ _)
      (upperJoin_isLeastUpper.isLE_left _ _))]
    exact .none
  | some u =>
    rw [join_eq] at h
    obtain ⟨hl, hu⟩ := limits_ofLimits h
    rw [Option.bind_some, join_eq]
    refine ofLimits_congr (lowerJoin_isLeastUpper.congr hl Std.ReflCmp.compare_self) ?_
    exact upperRev_eq_eq.1 (upperJoin_isLeastUpper.congr (upperRev_eq_eq.2 hu)
      Std.ReflCmp.compare_self)

/-- Joining is associative up to the limits, an empty join on either side on both. -/
theorem join_assoc (r s t : Version.Range) :
    Option.Rel Equiv ((r.join s).bind (·.join t)) ((s.join t).bind (r.join ·)) := by
  -- the right side, with `r` joined last, is the three limits joined in another order
  have hright : Option.Rel Equiv ((s.join t).bind (r.join ·)) ((s.join t).bind (·.join r)) := by
    cases s.join t with
    | none => exact .none
    | some u => exact join_comm r u
  refine rel_equiv_trans (bind_join r s t) (rel_equiv_trans ?_
    (rel_equiv_symm (rel_equiv_trans hright (bind_join s t r))))
  refine ofLimits_congr ?_ ?_
  · -- `(r ⊔ s) ⊔ t` against `(s ⊔ t) ⊔ r`
    exact Std.TransCmp.eq_trans (lowerJoin_isLeastUpper.assoc _ _ _)
      (lowerJoin_isLeastUpper.comm _ _)
  · exact upperRev_eq_eq.1 (Std.TransCmp.eq_trans (upperJoin_isLeastUpper.assoc _ _ _)
      (upperJoin_isLeastUpper.comm _ _))

/-- The join of three ranges is the join of two of them: of the one whose lower limit is the
greatest with the one whose upper limit is the least. -/
theorem exists_join_eq_bind_join (r s t : Version.Range) :
    ∃ u ∈ [r, s, t], ∃ v ∈ [r, s, t], Option.Rel Equiv ((r.join s).bind (·.join t)) (u.join v) := by
  let L := lowerJoin (lowerJoin r.limits.1 s.limits.1) t.limits.1
  let U := upperJoin (upperJoin r.limits.2 s.limits.2) t.limits.2
  -- both joined limits are limits of one of the three
  have hL : ∃ u ∈ [r, s, t], u.limits.1 = L := by
    rcases lowerJoin_eq_or (lowerJoin r.limits.1 s.limits.1) t.limits.1 with h | h
    · rcases lowerJoin_eq_or r.limits.1 s.limits.1 with h' | h'
      · exact ⟨r, by simp, by simp only [L, h, h']⟩
      · exact ⟨s, by simp, by simp only [L, h, h']⟩
    · exact ⟨t, by simp, by simp only [L, h]⟩
  have hU : ∃ v ∈ [r, s, t], v.limits.2 = U := by
    rcases upperJoin_eq_or (upperJoin r.limits.2 s.limits.2) t.limits.2 with h | h
    · rcases upperJoin_eq_or r.limits.2 s.limits.2 with h' | h'
      · exact ⟨r, by simp, by simp only [U, h, h']⟩
      · exact ⟨s, by simp, by simp only [U, h, h']⟩
    · exact ⟨t, by simp, by simp only [U, h]⟩
  obtain ⟨u, hu, huL⟩ := hL
  obtain ⟨v, hv, hvU⟩ := hU
  -- every lower limit of the three is at most `L`, every upper limit at least `U`
  have hlow : ∀ w ∈ [r, s, t], (compareLower w.limits.1 L).isLE = true := by
    have h := (lowerJoin_isLeastUpper _ _ L).1 (isLE_compare_self L)
    have h' := (lowerJoin_isLeastUpper _ _ _).1 h.1
    simp only [List.mem_cons, List.not_mem_nil, or_false]
    rintro w (rfl | rfl | rfl)
    exacts [h'.1, h'.2, h.2]
  have hupp : ∀ w ∈ [r, s, t], (upperRev w.limits.2 U).isLE = true := by
    have h := (upperJoin_isLeastUpper _ _ U).1 (isLE_compare_self U)
    have h' := (upperJoin_isLeastUpper _ _ _).1 h.1
    simp only [List.mem_cons, List.not_mem_nil, or_false]
    rintro w (rfl | rfl | rfl)
    exacts [h'.1, h'.2, h.2]
  refine ⟨u, hu, v, hv, rel_equiv_trans (bind_join r s t) ?_⟩
  rw [join_eq]
  refine ofLimits_congr ?_ ?_
  · show compareLower L (lowerJoin u.limits.1 v.limits.1) = .eq
    rw [← huL]
    exact Std.OrientedCmp.eq_comm.1 ((lowerJoin_isLeastUpper.eq_left_iff _ _).2 (huL ▸ hlow v hv))
  · show compareUpper U (upperJoin u.limits.2 v.limits.2) = .eq
    rw [← hvU]
    refine upperRev_eq_eq.1 (Std.OrientedCmp.eq_comm.1 ?_)
    exact Std.TransCmp.eq_trans (upperJoin_isLeastUpper.comm _ _)
      ((upperJoin_isLeastUpper.eq_left_iff _ _).2 (hvU ▸ hupp u hu))

/-! ## Ranges within ranges -/

/-- An ordered range lies within another exactly when its lower limit is not below the other's
and its upper limit not above it. -/
theorem isSubset_iff {r o : Version.Range} (hr : r.Ordered) :
    r.isSubset o = true ↔
      (compareLower o.limits.1 r.limits.1).isLE = true ∧ (upperRev o.limits.2 r.limits.2).isLE = true := by
  have hlow := lowerJoin_isLeastUpper.eq_left_iff r.limits.1 o.limits.1
  have hupp := upperJoin_isLeastUpper.eq_left_iff r.limits.2 o.limits.2
  rw [upperRev_eq_eq] at hupp
  rw [isSubset, ← hlow, ← hupp]
  cases hj : r.join o with
  | none =>
    -- an empty join: the limits of `r` would have to cross
    refine iff_of_false (by simp) fun ⟨hl, hu⟩ => ?_
    rw [join_eq, ofLimits_eq_none_iff] at hj
    have hc := hj.congr hl hu
    rw [← ofLimits_eq_none_iff, ofLimits_limits hr] at hc
    cases hc
  | some j =>
    rw [Option.some_beq_some, beq_iff_equiv (join_ordered hj) hr, equiv_iff]
    rw [join_eq] at hj
    obtain ⟨hl, hu⟩ := limits_ofLimits hj
    constructor
    · rintro ⟨hl', hu'⟩
      exact ⟨Std.TransCmp.eq_trans (Std.OrientedCmp.eq_comm.1 hl) hl',
        Std.TransCmp.eq_trans (Std.OrientedCmp.eq_comm.1 hu) hu'⟩
    · rintro ⟨hl', hu'⟩
      exact ⟨Std.TransCmp.eq_trans hl hl', Std.TransCmp.eq_trans hu hu'⟩

theorem isSubset_self {r : Version.Range} (h : r.Ordered) : r.isSubset r = true :=
  (isSubset_iff h).2 ⟨isLE_compare_self _, isLE_compare_self _⟩

/-- A join lies within the first range joined. -/
theorem join_isSubset_left {r s j : Version.Range} (h : r.join s = some j) : j.isSubset r = true := by
  rw [isSubset_iff (join_ordered h)]
  rw [join_eq] at h
  obtain ⟨hl, hu⟩ := limits_ofLimits h
  refine ⟨Std.TransCmp.isLE_trans (lowerJoin_isLeastUpper.isLE_left r.limits.1 s.limits.1) ?_,
    Std.TransCmp.isLE_trans (upperJoin_isLeastUpper.isLE_left r.limits.2 s.limits.2) ?_⟩
  · rw [Std.OrientedCmp.eq_comm.1 hl]; rfl
  · rw [upperRev_eq_eq.2 (Std.OrientedCmp.eq_comm.1 hu)]; rfl

theorem join_isSubset_right {r s j : Version.Range} (h : r.join s = some j) : j.isSubset s = true := by
  obtain ⟨j', hj', hjj'⟩ : ∃ j', s.join r = some j' ∧ Equiv j j' := by
    have hc := join_comm r s
    rw [h] at hc
    cases hj : s.join r with
    | none => rw [hj] at hc; cases hc
    | some j' => rw [hj, Option.rel_some_some] at hc; exact ⟨j', rfl, hc⟩
  have hsub := join_isSubset_left hj'
  rw [isSubset_iff (join_ordered hj')] at hsub
  rw [isSubset_iff (join_ordered h)]
  obtain ⟨hl, hu⟩ := equiv_iff.1 hjj'
  refine ⟨Std.TransCmp.isLE_trans hsub.1 ?_, Std.TransCmp.isLE_trans hsub.2 ?_⟩
  · rw [Std.OrientedCmp.eq_comm.1 hl]; rfl
  · rw [upperRev_eq_eq.2 (Std.OrientedCmp.eq_comm.1 hu)]; rfl

/-- One version lies within a range exactly when the range holds it. -/
theorem exact_isSubset_iff (v : Version) (o : Version.Range) :
    (exact v).isSubset o = true ↔ o.contains v = true := by
  rw [isSubset_iff (by intro _ _ h; cases h), contains_iff]
  refine and_congr ?_ ?_
  · cases o.limits.1 <;> simp [compareLower, limits, Ordering.isLE_iff_ne_gt,
      ← Std.OrientedCmp.gt_iff_lt]
  · cases o.limits.2 <;> simp [upperRev, compareUpper, limits, Ordering.isLE_iff_ne_gt]

/-! ## Ranges within ranges, by the versions they hold

`isSubset` compares limits, not versions, and the order of versions has a greatest element,
`develop`. A side of `b` bounded at `develop`, or at a least version, closes a side `a` leaves
open without leaving out any version: `1.0:` and `1.0:develop` hold the same versions, yet `1.0:`
is not within `1.0:develop` (`isSubset_misses_upToDevelop`). What holds instead
(`isSubset_iff_contains`): a range built from bounds lies within another exactly when every
version it holds the other holds too, and each side it leaves open the other leaves open. The
second half rests on a range holding its own limits (`contains_lower`, `contains_upper`).
-/

/-- Every range built from bounds is ordered. -/
theorem ofBounds_ordered {e lo hi : Option Version} {r : Version.Range}
    (h : ofBounds e lo hi = .ok r) : r.Ordered := by
  rintro a b rfl
  match e, lo, hi, h with
  | none, some x, some y, h =>
    simp only [ofBounds] at h
    split at h
    · cases h
      exact ofLimits_ordered ‹_› a b rfl
    · cases h

/-- An ordered range holds its lower limit. -/
theorem contains_lower {r : Version.Range} (hr : r.Ordered) {x : Version}
    (hx : r.limits.1 = some x) : r.contains x = true := by
  cases r with
  | exact v => cases hx; simp [contains]
  | atLeast lo => cases hx; simp [contains, Version.compare_self]
  | between lo hi => cases hx; simp [contains, Version.compare_self, hr x hi rfl]
  | any => cases hx
  | atMost hi => cases hx

/-- An ordered range holds its upper limit. -/
theorem contains_upper {r : Version.Range} (hr : r.Ordered) {x : Version}
    (hx : r.limits.2 = some x) : r.contains x = true := by
  cases r with
  | exact v => cases hx; simp [contains]
  | atMost hi => cases hx; simp [contains, Version.compare_self]
  | between lo hi =>
    cases hx
    have hgt : Version.compare lo x ≠ .gt := by simp [hr lo x rfl]
    simp [contains, Version.compare_self, hgt]
  | any => cases hx
  | atLeast lo => cases hx

/-- A lower limit at or below another's, in the order with unbounded first, is read off the
versions they let through: none is unbounded only when the other is, and a limit `x` is at or
above `y` when `x` is not below `y`. -/
theorem compareLower_isLE_iff {y x : Option Version} :
    (compareLower y x).isLE = true ↔ (x = none → y = none) ∧ ∀ a ∈ x, AboveLower y a := by
  cases x <;> cases y <;>
    simp [compareLower, Ordering.isLE_iff_ne_gt, ← Std.OrientedCmp.gt_iff_lt]

/-- An upper limit at or above another's, in the order with unbounded last. -/
theorem compareUpper_isLE_iff {x y : Option Version} :
    (compareUpper x y).isLE = true ↔ (x = none → y = none) ∧ ∀ a ∈ x, BelowUpper y a := by
  cases x <;> cases y <;> simp [compareUpper, Ordering.isLE_iff_ne_gt]

/-- A range built from bounds lies within another, as `isSubset` tests it, exactly when every
version it holds the other holds too and each side it leaves unbounded the other leaves
unbounded. -/
theorem isSubset_iff_contains {e lo hi : Option Version} {a : Version.Range}
    (ha : ofBounds e lo hi = .ok a) (b : Version.Range) :
    a.isSubset b = true ↔ (∀ v, a.contains v = true → b.contains v = true) ∧
      (a.limits.1 = none → b.limits.1 = none) ∧ (a.limits.2 = none → b.limits.2 = none) := by
  have hord := ofBounds_ordered ha
  have hlimits := isSubset_iff (o := b) hord
  rw [upperRev, compareLower_isLE_iff, compareUpper_isLE_iff] at hlimits
  constructor
  · intro h
    exact ⟨fun v hv => contains_of_isSubset h hv, (hlimits.1 h).1.1, (hlimits.1 h).2.1⟩
  · rintro ⟨hsub, hlo, hhi⟩
    -- `b` holds the limits of `a`, so its own limits are no tighter
    refine hlimits.2 ⟨⟨hlo, fun x hx => ?_⟩, ⟨hhi, fun x hx => ?_⟩⟩
    · exact ((contains_iff b x).1 (hsub x (contains_lower hord hx))).1
    · exact ((contains_iff b x).1 (hsub x (contains_upper hord hx))).2

/-- At `1.0:` against `1.0:develop` the test fails on the upper side alone: `1.0:` leaves it
open and `1.0:develop` bounds it. -/
theorem atLeast_isSubset_upToDevelop_iff :
    ofBounds none (some ⟨"1.0", [.num 1, .num 0]⟩) none = .ok (.atLeast ⟨"1.0", [.num 1, .num 0]⟩) ∧
    ((atLeast ⟨"1.0", [.num 1, .num 0]⟩).isSubset (between ⟨"1.0", [.num 1, .num 0]⟩ .develop) = true ↔
      (∀ v, (atLeast ⟨"1.0", [.num 1, .num 0]⟩).contains v = true →
        (between ⟨"1.0", [.num 1, .num 0]⟩ .develop).contains v = true) ∧
      ((atLeast ⟨"1.0", [.num 1, .num 0]⟩).limits.1 = none →
        (between ⟨"1.0", [.num 1, .num 0]⟩ .develop).limits.1 = none) ∧
      ((atLeast ⟨"1.0", [.num 1, .num 0]⟩).limits.2 = none →
        (between ⟨"1.0", [.num 1, .num 0]⟩ .develop).limits.2 = none)) :=
  ⟨rfl, isSubset_iff_contains (show ofBounds none (some ⟨"1.0", [.num 1, .num 0]⟩) none =
    .ok (.atLeast ⟨"1.0", [.num 1, .num 0]⟩) from rfl) _⟩

/-- The version `1.0` as it is read. -/
theorem parse_one_zero : Version.parse "1.0" = .ok ⟨"1.0", [.num 1, .num 0]⟩ := by
  rfl

/-- Every version is at or below `develop`, so `1.0:` and `1.0:develop`, both built from bounds,
hold the same versions; yet `1.0:` is not within `1.0:develop` as `isSubset` tests it. -/
theorem isSubset_misses_upToDevelop :
    Version.parse "1.0" = .ok ⟨"1.0", [.num 1, .num 0]⟩ ∧
    ofBounds none (some ⟨"1.0", [.num 1, .num 0]⟩) none = .ok (.atLeast ⟨"1.0", [.num 1, .num 0]⟩) ∧
    ofBounds none (some ⟨"1.0", [.num 1, .num 0]⟩) (some .develop) =
      .ok (.between ⟨"1.0", [.num 1, .num 0]⟩ .develop) ∧
    (∀ v, (atLeast ⟨"1.0", [.num 1, .num 0]⟩).contains v = true →
      (between ⟨"1.0", [.num 1, .num 0]⟩ .develop).contains v = true) ∧
    (atLeast ⟨"1.0", [.num 1, .num 0]⟩).isSubset (between ⟨"1.0", [.num 1, .num 0]⟩ .develop) = false := by
  refine ⟨parse_one_zero, rfl, rfl, fun v hv => ?_, rfl⟩
  -- `develop` is above every other version, and equal to itself
  have htop : Version.compare v .develop ≠ .gt := by
    unfold Version.compare
    cases v.isDevelop <;> simp [Version.isDevelop, Version.develop]
  simp only [contains, bne_iff_ne, ne_eq, Bool.and_eq_true] at hv ⊢
  exact ⟨(Version.compare_ne_gt_iff _ _).2 hv, htop⟩

end Version.Range

end BuildSpec
