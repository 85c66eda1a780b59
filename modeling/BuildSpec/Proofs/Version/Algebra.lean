import BuildSpec.Proofs.Version.Limits

/-!
# Intersecting constraints, up to `==`

The intersection of two constraints joins every range of the one with every range of the other
(`joins`) and normalizes the union: it sorts the ranges by their limits and drops a range equal
to the one before it. So a normal constraint strictly increases in the order of its ranges, and
two unions naming the same ranges up to equal limits (`SameRanges`) normalize to constraints
equal under `==` (`normalize_congr`): the normal form depends only on the ranges named.

What intersecting does is then read off the joins of ranges (`BuildSpec.Proofs.Version.Limits`):

* `intersection_comm`, `intersection_assoc`: the intersection is commutative and associative up
  to `==`, a missing intersection on one side being missing on the other;
* `intersection_settles`: narrowing a constraint by the same one twice leaves it where a third
  narrowing finds nothing to change (`intersection_self_settles` for a constraint narrowed by
  itself), though the second narrowing may still change it: joins do not merge overlapping
  ranges, and the join of `1:5` and `3:8` is a new range `3:5`;
* `intersection_isSubset_left`, `intersection_isSubset_right`: the intersection lies range by
  range within each constraint.
-/

namespace BuildSpec

/-! ## Strictly increasing lists -/

section Sorted

variable {α : Type} {cmp : α → α → Ordering} [Std.TransCmp cmp]

/-- A list sorted by a total preorder with no two neighbours equal in it strictly increases. -/
theorem pairwise_lt_of_sorted : ∀ {l : List α}, l.Pairwise (fun a b => (cmp a b).isLE = true) →
    l.IsChain (fun a b => cmp a b ≠ .eq) → l.Pairwise (fun a b => cmp a b = .lt)
  | [], _, _ => .nil
  | [_], _, _ => List.pairwise_singleton _ _
  | a :: b :: l, hs, hc => by
    rw [List.isChain_cons_cons] at hc
    rw [List.pairwise_cons] at hs ⊢
    have hab : cmp a b = .lt := by
      have hle := hs.1 b List.mem_cons_self
      cases h : cmp a b <;> simp_all
    -- `a` is below its neighbour, which is at most every later element
    refine ⟨fun x hx => ?_, pairwise_lt_of_sorted hs.2 hc.2⟩
    rcases List.mem_cons.1 hx with rfl | hx
    · exact hab
    · exact Std.TransCmp.lt_of_lt_of_isLE hab ((List.pairwise_cons.1 hs.2).1 x hx)

/-- Strictly increasing lists holding the same elements up to equality in the order are equal
element by element. -/
theorem forall₂_of_pairwise_lt : ∀ {l l' : List α}, l.Pairwise (fun a b => cmp a b = .lt) →
    l'.Pairwise (fun a b => cmp a b = .lt) → (∀ x ∈ l, ∃ y ∈ l', cmp x y = .eq) →
    (∀ y ∈ l', ∃ x ∈ l, cmp x y = .eq) → List.Forall₂ (fun a b => cmp a b = .eq) l l'
  | [], [], _, _, _, _ => .nil
  | [], b :: _, _, _, _, h' => by
    obtain ⟨x, hx, -⟩ := h' b List.mem_cons_self
    cases hx
  | a :: _, [], _, _, h, _ => by
    obtain ⟨y, hy, -⟩ := h a List.mem_cons_self
    cases hy
  | a :: as, b :: bs, hl, hl', h, h' => by
    rw [List.pairwise_cons] at hl hl'
    -- each least element is at most the element equal to it in the other list, so at most the
    -- other least element
    have hba : (cmp b a).isLE = true := by
      obtain ⟨y, hy, hay⟩ := h a List.mem_cons_self
      rcases List.mem_cons.1 hy with rfl | hy
      · rw [Std.OrientedCmp.eq_comm.1 hay]; rfl
      · rw [Std.TransCmp.congr_right hay, hl'.1 y hy]; rfl
    have hab : (cmp a b).isLE = true := by
      obtain ⟨x, hx, hxb⟩ := h' b List.mem_cons_self
      rcases List.mem_cons.1 hx with rfl | hx
      · rw [hxb]; rfl
      · rw [← Std.TransCmp.congr_right hxb, hl.1 x hx]; rfl
    have he := compare_eq_of_isLE_of_isLE hab hba
    -- the rest of each list misses the other's least element, being above it
    refine .cons he (forall₂_of_pairwise_lt hl.2 hl'.2 (fun x hx => ?_) (fun y hy => ?_))
    · obtain ⟨y, hy, hxy⟩ := h x (List.mem_cons_of_mem _ hx)
      rcases List.mem_cons.1 hy with rfl | hy
      · have hax := hl.1 x hx
        rw [Std.TransCmp.congr_right hxy, he] at hax
        cases hax
      · exact ⟨y, hy, hxy⟩
    · obtain ⟨x, hx, hxy⟩ := h' y (List.mem_cons_of_mem _ hy)
      rcases List.mem_cons.1 hx with rfl | hx
      · have hby := hl'.1 y hy
        rw [← Std.TransCmp.congr_left he, hxy] at hby
        cases hby
      · exact ⟨x, hx, hxy⟩

end Sorted

namespace Version.Range

open Version.Constraint (compareLower compareUpper compareRanges)

/-- Ranges equal under `==` have equal limits. -/
theorem equiv_of_beq {r s : Version.Range} (h : (r == s) = true) : Equiv r s := by
  rw [equiv_iff]
  cases r <;> cases s <;> simp_all [BEq.beq, beq, limits, compareLower, compareUpper]

/-- The range of every version is the one range with no limit. -/
theorem eq_any_of_equiv {r : Version.Range} (h : Equiv .any r) : r = .any := by
  rw [equiv_iff] at h
  cases r <;> simp_all [limits, compareLower, compareUpper]

theorem beq_any_iff {r : Version.Range} : (r == .any) = true ↔ r = .any := by
  cases r <;> simp [BEq.beq, beq]

/-- A join is the range of every version only when both ranges are. -/
theorem eq_any_of_join {r s : Version.Range} (h : r.join s = some .any) : r = .any ∧ s = .any := by
  rw [join_eq] at h
  have hlim : lowerJoin r.limits.1 s.limits.1 = none ∧ upperJoin r.limits.2 s.limits.2 = none := by
    revert h
    cases lowerJoin r.limits.1 s.limits.1 <;> cases upperJoin r.limits.2 s.limits.2 <;>
      simp only [ofLimits, Option.some.injEq, reduceCtorEq, imp_false, and_self] <;> (try split) <;>
      simp
  obtain ⟨hl, hu⟩ := hlim
  cases r <;> cases s <;> simp_all [lowerJoin, upperJoin, limits, Option.or]

/-- The join of a range with the second of two ranges it was joined with changes nothing. -/
theorem join_join_right {r s j : Version.Range} (h : r.join s = some j) (hs : s.Ordered) :
    ∃ j', j.join s = some j' ∧ Equiv j j' := by
  have ha := join_assoc r s s
  rw [h, Option.bind_some, join_self hs, Option.bind_some, h] at ha
  cases hj : j.join s with
  | none => rw [hj] at ha; cases ha
  | some j' => rw [hj, Option.rel_some_some] at ha; exact ⟨j', rfl, ha.symm⟩

end Version.Range

namespace Version.Constraint

open Version.Range (Equiv Ordered)

/-! ## Unions naming the same ranges -/

/-- Two unions name the same ranges, up to equal limits. -/
def SameRanges (L L' : List Version.Range) : Prop :=
  (∀ x ∈ L, ∃ y ∈ L', Equiv x y) ∧ ∀ y ∈ L', ∃ x ∈ L, Equiv x y

namespace SameRanges

variable {L L' L'' : List Version.Range}

@[refl] theorem refl (L : List Version.Range) : SameRanges L L :=
  ⟨fun x hx => ⟨x, hx, .refl x⟩, fun y hy => ⟨y, hy, .refl y⟩⟩

theorem symm (h : SameRanges L L') : SameRanges L' L :=
  ⟨fun y hy => (h.2 y hy).imp fun _ ⟨hx, e⟩ => ⟨hx, e.symm⟩,
    fun x hx => (h.1 x hx).imp fun _ ⟨hy, e⟩ => ⟨hy, e.symm⟩⟩

theorem trans (h : SameRanges L L') (h' : SameRanges L' L'') : SameRanges L L'' := by
  refine ⟨fun x hx => ?_, fun z hz => ?_⟩
  · obtain ⟨y, hy, hxy⟩ := h.1 x hx
    obtain ⟨z, hz, hyz⟩ := h'.1 y hy
    exact ⟨z, hz, hxy.trans hyz⟩
  · obtain ⟨y, hy, hyz⟩ := h'.2 z hz
    obtain ⟨x, hx, hxy⟩ := h.2 y hy
    exact ⟨x, hx, hxy.trans hyz⟩

instance : Trans SameRanges SameRanges SameRanges := ⟨trans⟩

theorem of_perm (h : L.Perm L') : SameRanges L L' :=
  ⟨fun x hx => ⟨x, h.mem_iff.1 hx, .refl x⟩, fun y hy => ⟨y, h.mem_iff.2 hy, .refl y⟩⟩

theorem nil_iff (h : SameRanges L L') : L = [] ↔ L' = [] := by
  constructor
  · rintro rfl
    exact List.eq_nil_iff_forall_not_mem.2 fun y hy => by simpa using h.2 y hy
  · rintro rfl
    exact List.eq_nil_iff_forall_not_mem.2 fun x hx => by simpa using h.1 x hx

end SameRanges

/-! ## Normal forms -/

/-- Deduplicating drops only ranges equal to one kept. -/
theorem sameRanges_dedup (l : List Version.Range) : SameRanges (dedup l) l := by
  refine ⟨fun x hx => ⟨x, (dedup_sublist l).subset hx, .refl x⟩, fun y hy => ?_⟩
  fun_induction dedup l with
  | case1 a b rest hab ih =>
    -- `b` was dropped as equal to `a`, which heads what is kept
    rcases List.mem_cons.1 hy with rfl | hy
    · exact ih List.mem_cons_self
    rcases List.mem_cons.1 hy with rfl | hy
    · exact ⟨a, List.mem_of_mem_head? (by rw [head?_dedup]; rfl), Version.Range.equiv_of_beq hab⟩
    · exact ih (List.mem_cons_of_mem _ hy)
  | case2 a b rest _ ih =>
    rcases List.mem_cons.1 hy with rfl | hy
    · exact ⟨y, List.mem_cons_self, .refl y⟩
    · obtain ⟨x, hx, e⟩ := ih hy
      exact ⟨x, List.mem_cons_of_mem _ hx, e⟩
  | case3 => exact ⟨y, hy, .refl y⟩

theorem any_beq_any_iff {rs : List Version.Range} :
    rs.any (fun r => r == .any) = true ↔ .any ∈ rs := by
  simp [Version.Range.beq_any_iff]

theorem normalize_of_any {rs : List Version.Range} (h : .any ∈ rs) : normalize rs = any := by
  rw [normalize, if_pos (any_beq_any_iff.2 h)]

theorem normalize_of_not_any {rs : List Version.Range} (h : .any ∉ rs) :
    normalize rs = ⟨dedup (rs.mergeSort fun a b => compareRanges a b != .gt)⟩ := by
  rw [normalize, if_neg (mt any_beq_any_iff.1 h)]

/-- A normal constraint holds only ranges of the union it normalizes. -/
theorem mem_of_mem_normalize {rs : List Version.Range} {r : Version.Range}
    (h : r ∈ (normalize rs).ranges) : r ∈ rs := by
  by_cases hany : .any ∈ rs
  · rw [normalize_of_any hany] at h
    rw [List.mem_singleton.1 h]
    exact hany
  · rw [normalize_of_not_any hany] at h
    exact List.mem_mergeSort.1 ((dedup_sublist _).subset h)

/-- The range of every version comes alone, as in a normal constraint. -/
def AnyAlone (L : List Version.Range) : Prop := .any ∈ L → L = [.any]

theorem WellFormed.anyAlone {c : Version.Constraint} (h : c.WellFormed) : AnyAlone c.ranges := by
  intro hany
  rw [← h.normal, normalize_of_any hany]
  rfl

theorem sameRanges_normalize {rs : List Version.Range} (h : AnyAlone rs) :
    SameRanges (normalize rs).ranges rs := by
  by_cases hany : .any ∈ rs
  · rw [normalize_of_any hany, h hany]
    rfl
  · rw [normalize_of_not_any hany]
    exact (sameRanges_dedup _).trans (.of_perm (List.mergeSort_perm _ _))

/-- Normalizing a union of ordered ranges without the range of every version gives strictly
increasing ranges. -/
theorem pairwise_lt_normalize {rs : List Version.Range} (hany : .any ∉ rs)
    (hrs : ∀ r ∈ rs, r.Ordered) :
    (normalize rs).ranges.Pairwise fun a b => compareRanges a b = .lt := by
  rw [normalize_of_not_any hany]
  have hsub := (dedup_sublist (rs.mergeSort fun a b => compareRanges a b != .gt))
  have hmem : ∀ r ∈ dedup (rs.mergeSort fun a b => compareRanges a b != .gt), r.Ordered :=
    fun r hr => hrs r (List.mem_mergeSort.1 (hsub.subset hr))
  refine pairwise_lt_of_sorted ?_ ?_
  · refine ((List.pairwise_mergeSort rangeLE_trans rangeLE_total rs).sublist hsub).imp ?_
    intro a b hab
    rwa [ne_gt_eq_isLE] at hab
  · -- neighbours differ under `==`, which for ordered ranges is equality of limits
    refine (List.IsChain.imp_of_mem_imp ?_ (isChain_dedup _))
    intro a b ha hb hab he
    rw [← Version.Range.Equiv, ← Version.Range.beq_iff_equiv (hmem a ha) (hmem b hb)] at he
    rw [he] at hab
    cases hab

/-- Lists of ordered ranges with equal limits item by item are equal under `==`. -/
theorem list_beq_of_forall₂ {l l' : List Version.Range} (hl : ∀ r ∈ l, r.Ordered)
    (hl' : ∀ r ∈ l', r.Ordered) (h : List.Forall₂ Equiv l l') : (l == l') = true := by
  induction h with
  | nil => rfl
  | @cons a b l l' hab _ ih =>
    show List.beq _ _ = true
    rw [List.beq_cons_cons, (Version.Range.beq_iff_equiv (hl a List.mem_cons_self)
      (hl' b List.mem_cons_self)).2 hab, Bool.true_and]
    exact ih (fun r hr => hl r (List.mem_cons_of_mem _ hr))
      (fun r hr => hl' r (List.mem_cons_of_mem _ hr))

/-- Unions of ordered ranges naming the same ranges normalize to equal constraints. -/
theorem normalize_congr {L L' : List Version.Range} (hL : ∀ r ∈ L, r.Ordered)
    (hL' : ∀ r ∈ L', r.Ordered) (h : SameRanges L L') : (normalize L == normalize L') = true := by
  by_cases hany : .any ∈ L
  · -- the range of every version on one side is equal to one on the other
    obtain ⟨y, hy, e⟩ := h.1 _ hany
    rw [Version.Range.eq_any_of_equiv e] at hy
    rw [normalize_of_any hany, normalize_of_any hy]
    exact BEq.rfl
  have hany' : .any ∉ L' := fun hy => by
    obtain ⟨x, hx, e⟩ := h.2 _ hy
    exact hany (Version.Range.eq_any_of_equiv e.symm ▸ hx)
  have hmem (rs : List Version.Range) (hrs : ∀ r ∈ rs, r.Ordered) :
      ∀ r ∈ (normalize rs).ranges, r.Ordered := fun r hr => hrs r (mem_of_mem_normalize hr)
  have hsame : SameRanges (normalize L).ranges (normalize L').ranges :=
    ((sameRanges_normalize fun h => absurd h hany).trans h).trans
      (sameRanges_normalize fun h => absurd h hany').symm
  have hall := forall₂_of_pairwise_lt (pairwise_lt_normalize hany hL)
    (pairwise_lt_normalize hany' hL') hsame.1 hsame.2
  rw [beq_def]
  exact list_beq_of_forall₂ (hmem L hL) (hmem L' hL') hall

/-- Normalizing a union of ordered ranges gives strictly increasing ranges, also when the union
holds the range of every version, which then stands alone. -/
theorem pairwise_lt_normalize_of_ordered {rs : List Version.Range} (hrs : ∀ r ∈ rs, r.Ordered) :
    (normalize rs).ranges.Pairwise fun a b => compareRanges a b = .lt := by
  by_cases hany : .any ∈ rs
  · rw [normalize_of_any hany]
    exact List.pairwise_singleton _ _
  · exact pairwise_lt_normalize hany hrs

/-- A range before another in the order of a normal constraint is not equal to it. -/
theorem beq_eq_false_of_compareRanges_lt {a b : Version.Range} (h : compareRanges a b = .lt) :
    (a == b) = false := by
  cases hab : a == b with
  | false => rfl
  | true =>
    have he : compareRanges a b = .eq := Version.Range.equiv_of_beq hab
    rw [h] at he
    cases he

/-- Unions whose ranges are equal under `==`, one by one, name the same ranges. -/
theorem sameRanges_of_covers {L L' : List Version.Range} (h : ∀ x ∈ L, ∃ y ∈ L', (x == y) = true)
    (h' : ∀ y ∈ L', ∃ x ∈ L, (x == y) = true) : SameRanges L L' := by
  refine ⟨fun x hx => ?_, fun y hy => ?_⟩
  · obtain ⟨y, hy, e⟩ := h x hx
    exact ⟨y, hy, Version.Range.equiv_of_beq e⟩
  · obtain ⟨x, hx, e⟩ := h' y hy
    exact ⟨x, hx, Version.Range.equiv_of_beq e⟩

/-- The normal form of a nonempty union of ordered ranges has a range, its ranges strictly
increase by lower limit (unbounded first) and then by upper limit (unbounded last), so that no
two of them are equal, and it depends only on the ranges the union names up to `==`, in
whatever order and however often. -/
theorem normalize_canonical {L L' : List Version.Range} (hne : L ≠ []) (hL : ∀ r ∈ L, r.Ordered)
    (hL' : ∀ r ∈ L', r.Ordered)
    (hsame : (∀ x ∈ L, ∃ y ∈ L', (x == y) = true) ∧ ∀ y ∈ L', ∃ x ∈ L, (x == y) = true) :
    (normalize L).ranges ≠ [] ∧
      (normalize L).ranges.Pairwise (fun a b => compareRanges a b = .lt ∧ (a == b) = false) ∧
      (normalize L == normalize L') = true :=
  ⟨normalize_ne_nil hne,
    (pairwise_lt_normalize_of_ordered hL).imp fun h => ⟨h, beq_eq_false_of_compareRanges_lt h⟩,
    normalize_congr hL hL' (sameRanges_of_covers hsame.1 hsame.2)⟩

/-- `1.0,1.4:1.6` and `1.4:1.6,1.00,1.0` name the same ranges, `1.00` being equal to `1.0`. -/
theorem normalize_canonical_respelled : ∃ L L' : List Version.Range,
    L = [.exact ⟨"1.0", [.num 1, .num 0]⟩,
      .between ⟨"1.4", [.num 1, .num 4]⟩ ⟨"1.6", [.num 1, .num 6]⟩] ∧
    L' = [.between ⟨"1.4", [.num 1, .num 4]⟩ ⟨"1.6", [.num 1, .num 6]⟩,
      .exact ⟨"1.00", [.num 1, .num 0]⟩, .exact ⟨"1.0", [.num 1, .num 0]⟩] ∧
    L ≠ [] ∧ (∀ r ∈ L, r.Ordered) ∧ (∀ r ∈ L', r.Ordered) ∧
    ((∀ x ∈ L, ∃ y ∈ L', (x == y) = true) ∧ ∀ y ∈ L', ∃ x ∈ L, (x == y) = true) ∧
    (normalize L).ranges ≠ [] ∧
      (normalize L).ranges.Pairwise (fun a b => compareRanges a b = .lt ∧ (a == b) = false) ∧
      (normalize L == normalize L') = true := by
  refine ⟨_, _, rfl, rfl, by simp, ?hL, ?hL', ?hsame, normalize_canonical (by simp) ?hL ?hL' ?hsame⟩
  case hsame => decide +kernel
  -- the one range with two limits has them in order
  all_goals
    intro r hr lo hi hr'
    simp only [List.mem_cons, List.not_mem_nil, or_false] at hr
    rcases hr with rfl | rfl | rfl <;> cases hr'
    rfl

/-! ## Joins -/

/-- The joins of each range of `A` with each range of `B` that are not empty: the union the
intersection of two constraints normalizes. -/
def joins (A B : List Version.Range) : List Version.Range :=
  A.flatMap fun x => B.filterMap fun y => x.join y

theorem intersection_eq_ofRanges (a b : Version.Constraint) :
    a.intersection b = ofRanges? (joins a.ranges b.ranges) := rfl

theorem mem_joins {A B : List Version.Range} {z : Version.Range} :
    z ∈ joins A B ↔ ∃ x ∈ A, ∃ y ∈ B, x.join y = some z := by
  simp [joins]

@[simp] theorem joins_nil_left (B : List Version.Range) : joins [] B = [] := rfl

@[simp] theorem joins_nil_right (A : List Version.Range) : joins A [] = [] := by
  simp [joins]

theorem rel_some {o : Option Version.Range} {z : Version.Range} (h : Option.Rel Equiv (some z) o) :
    ∃ z', o = some z' ∧ Equiv z z' := by
  cases h with
  | some e => exact ⟨_, rfl, e⟩

section Joins

variable {A A' B B' C M : List Version.Range}

theorem covers_joins (hA : ∀ x ∈ A, ∃ x' ∈ A', Equiv x x') (hB : ∀ y ∈ B, ∃ y' ∈ B', Equiv y y') :
    ∀ z ∈ joins A B, ∃ z' ∈ joins A' B', Equiv z z' := by
  intro z hz
  obtain ⟨x, hx, y, hy, hj⟩ := mem_joins.1 hz
  obtain ⟨x', hx', ex⟩ := hA x hx
  obtain ⟨y', hy', ey⟩ := hB y hy
  have hc := Version.Range.join_congr ex ey
  rw [hj] at hc
  obtain ⟨z', hz', e⟩ := rel_some hc
  exact ⟨z', mem_joins.2 ⟨x', hx', y', hy', hz'⟩, e⟩

/-- Joining unions that name the same ranges gives unions that name the same ranges. -/
theorem SameRanges.joins (hA : SameRanges A A') (hB : SameRanges B B') :
    SameRanges (joins A B) (joins A' B') := by
  refine ⟨covers_joins hA.1 hB.1, fun z' hz' => ?_⟩
  obtain ⟨z, hz, e⟩ := covers_joins hA.symm.1 hB.symm.1 z' hz'
  exact ⟨z, hz, e.symm⟩

theorem covers_joins_comm : ∀ z ∈ joins A B, ∃ z' ∈ joins B A, Equiv z z' := by
  intro z hz
  obtain ⟨x, hx, y, hy, hj⟩ := mem_joins.1 hz
  have hc := Version.Range.join_comm x y
  rw [hj] at hc
  obtain ⟨z', hz', e⟩ := rel_some hc
  exact ⟨z', mem_joins.2 ⟨y, hy, x, hx, hz'⟩, e⟩

theorem joins_comm : SameRanges (joins A B) (joins B A) := by
  refine ⟨covers_joins_comm, fun z' hz' => ?_⟩
  obtain ⟨z, hz, e⟩ := covers_joins_comm z' hz'
  exact ⟨z, hz, e.symm⟩

theorem joins_assoc : SameRanges (joins (joins A B) C) (joins A (joins B C)) := by
  refine ⟨fun z hz => ?_, fun z hz => ?_⟩
  · obtain ⟨w, hw, c, hc, hwc⟩ := mem_joins.1 hz
    obtain ⟨x, hx, y, hy, hxy⟩ := mem_joins.1 hw
    have ha := Version.Range.join_assoc x y c
    rw [hxy, Option.bind_some, hwc] at ha
    obtain ⟨z', hz', e⟩ := rel_some ha
    obtain ⟨v, hv, hxv⟩ := Option.bind_eq_some_iff.1 hz'
    exact ⟨z', mem_joins.2 ⟨x, hx, v, mem_joins.2 ⟨y, hy, c, hc, hv⟩, hxv⟩, e⟩
  · obtain ⟨x, hx, v, hv, hxv⟩ := mem_joins.1 hz
    obtain ⟨y, hy, c, hc, hyc⟩ := mem_joins.1 hv
    have ha := Version.Range.rel_equiv_symm (Version.Range.join_assoc x y c)
    rw [hyc, Option.bind_some, hxv] at ha
    obtain ⟨z', hz', e⟩ := rel_some ha
    obtain ⟨w, hw, hwc⟩ := Option.bind_eq_some_iff.1 hz'
    exact ⟨z', mem_joins.2 ⟨w, mem_joins.2 ⟨x, hx, y, hy, hw⟩, c, hc, hwc⟩, e.symm⟩

/-- Joining the joins of a union with itself with it once more names no new range: a join of
three ranges is a join of two of them. -/
theorem joins_joins_self (hM : ∀ r ∈ M, r.Ordered) :
    SameRanges (joins (joins M M) M) (joins M M) := by
  refine ⟨fun z hz => ?_, fun z hz => ?_⟩
  · obtain ⟨w, hw, y₃, hy₃, hwy⟩ := mem_joins.1 hz
    obtain ⟨y₁, hy₁, y₂, hy₂, hy⟩ := mem_joins.1 hw
    obtain ⟨u, hu, v, hv, hr⟩ := Version.Range.exists_join_eq_bind_join y₁ y₂ y₃
    rw [hy, Option.bind_some, hwy] at hr
    obtain ⟨z', hz', e⟩ := rel_some hr
    have hsub : ∀ t ∈ [y₁, y₂, y₃], t ∈ M := by
      simp only [List.mem_cons, List.not_mem_nil, or_false]
      rintro t (rfl | rfl | rfl) <;> assumption
    exact ⟨z', mem_joins.2 ⟨u, hsub u hu, v, hsub v hv, hz'⟩, e⟩
  · -- joining a join once more with its second range changes nothing
    obtain ⟨y₁, hy₁, y₂, hy₂, hy⟩ := mem_joins.1 hz
    obtain ⟨z', hz', e⟩ := Version.Range.join_join_right hy (hM y₂ hy₂)
    exact ⟨z', mem_joins.2 ⟨z, hz, y₂, hy₂, hz'⟩, e.symm⟩

theorem anyAlone_joins (hA : AnyAlone A) (hB : AnyAlone B) : AnyAlone (joins A B) := by
  intro hany
  obtain ⟨x, hx, y, hy, hj⟩ := mem_joins.1 hany
  obtain ⟨rfl, rfl⟩ := Version.Range.eq_any_of_join hj
  rw [hA hx, hB hy]
  rfl

end Joins

/-! ## Intersections -/

/-- The ranges of a constraint that may be missing, none for a missing one. -/
def rangesOf : Option Version.Constraint → List Version.Range
  | some c => c.ranges
  | none => []

variable {a b c d : Version.Constraint}

theorem intersection_eq_none_iff_joins :
    a.intersection b = none ↔ joins a.ranges b.ranges = [] := by
  rw [intersection_eq_ofRanges, ofRanges?]
  split <;> simp_all

/-- An intersection holds only joins of the constraints' ranges. -/
theorem mem_joins_of_intersection (h : a.intersection b = some c) {r : Version.Range}
    (hr : r ∈ c.ranges) : r ∈ joins a.ranges b.ranges := by
  rw [intersection_eq_ofRanges, ofRanges?] at h
  split at h
  · cases h
  · cases h
    exact mem_of_mem_normalize hr

theorem rangesOf_intersection (ha : a.WellFormed) (hb : b.WellFormed) :
    SameRanges (rangesOf (a.intersection b)) (joins a.ranges b.ranges) := by
  rw [intersection_eq_ofRanges, ofRanges?]
  split
  · rename_i hnil
    rw [List.isEmpty_iff.1 hnil]
    rfl
  · exact sameRanges_normalize (anyAlone_joins ha.anyAlone hb.anyAlone)

theorem rangesOf_bind_left {o : Option Version.Constraint} (ho : ∀ c ∈ o, c.WellFormed)
    (hb : b.WellFormed) :
    SameRanges (rangesOf (o.bind (·.intersection b))) (joins (rangesOf o) b.ranges) := by
  cases o with
  | none => rfl
  | some c => exact rangesOf_intersection (ho c rfl) hb

theorem rangesOf_bind_right {o : Option Version.Constraint} (ha : a.WellFormed)
    (ho : ∀ c ∈ o, c.WellFormed) :
    SameRanges (rangesOf (o.bind (a.intersection ·))) (joins a.ranges (rangesOf o)) := by
  cases o with
  | none => simp only [Option.bind_none, rangesOf, joins_nil_right]; rfl
  | some c => exact rangesOf_intersection ha (ho c rfl)

/-- Well-formed constraints, each possibly missing, whose ranges name the same ranges are both
missing or equal under `==`. -/
theorem rel_of_sameRanges {o o' : Option Version.Constraint} (ho : ∀ c ∈ o, c.WellFormed)
    (ho' : ∀ c ∈ o', c.WellFormed) (h : SameRanges (rangesOf o) (rangesOf o')) :
    Option.Rel (fun c c' => (c == c') = true) o o' := by
  match o, o' with
  | none, none => exact .none
  | none, some c' => exact absurd (h.nil_iff.1 rfl) (ho' c' rfl).ranges_ne_nil
  | some c, none => exact absurd (h.nil_iff.2 rfl) (ho c rfl).ranges_ne_nil
  | some c, some c' =>
    have hc := ho c rfl
    have hc' := ho' c' rfl
    refine .some ?_
    rw [← hc.normal, ← hc'.normal]
    exact normalize_congr (fun r hr => (hc.proper r hr).ordered)
      (fun r hr => (hc'.proper r hr).ordered) h

theorem sameRanges_of_intersection (ha : a.WellFormed) (hb : b.WellFormed)
    (h : a.intersection b = some c) : SameRanges c.ranges (joins a.ranges b.ranges) := by
  have hs := rangesOf_intersection ha hb
  rwa [h] at hs

theorem exists_of_rel_some {R : Version.Constraint → Version.Constraint → Prop}
    {o : Option Version.Constraint} (h : Option.Rel R o (some c)) : ∃ c', o = some c' ∧ R c' c := by
  cases h with
  | some hr => exact ⟨_, rfl, hr⟩

theorem intersection_wellFormed' (ha : a.WellFormed) (hb : b.WellFormed) :
    ∀ c ∈ a.intersection b, c.WellFormed := fun _ hc => intersection_wellFormed ha hb hc

/-- Intersecting is commutative up to `==`. -/
theorem intersection_comm (ha : a.WellFormed) (hb : b.WellFormed) :
    Option.Rel (fun c c' => (c == c') = true) (a.intersection b) (b.intersection a) :=
  rel_of_sameRanges (intersection_wellFormed' ha hb) (intersection_wellFormed' hb ha)
    (((rangesOf_intersection ha hb).trans joins_comm).trans (rangesOf_intersection hb ha).symm)

/-- Intersecting is associative up to `==`. -/
theorem intersection_assoc (ha : a.WellFormed) (hb : b.WellFormed) (hc : c.WellFormed) :
    Option.Rel (fun c c' => (c == c') = true) ((a.intersection b).bind (·.intersection c))
      ((b.intersection c).bind (a.intersection ·)) := by
  have hab := intersection_wellFormed' ha hb
  have hbc := intersection_wellFormed' hb hc
  refine rel_of_sameRanges (fun d hd => ?_) (fun d hd => ?_) ?_
  · obtain ⟨e, he, hd⟩ := Option.bind_eq_some_iff.1 hd
    exact intersection_wellFormed (hab e he) hc hd
  · obtain ⟨e, he, hd⟩ := Option.bind_eq_some_iff.1 hd
    exact intersection_wellFormed ha (hbc e he) hd
  calc SameRanges (rangesOf ((a.intersection b).bind (·.intersection c)))
        (joins (rangesOf (a.intersection b)) c.ranges) := rangesOf_bind_left hab hc
    SameRanges _ (joins (joins a.ranges b.ranges) c.ranges) :=
      (rangesOf_intersection ha hb).joins (.refl _)
    SameRanges _ (joins a.ranges (joins b.ranges c.ranges)) := joins_assoc
    SameRanges _ (joins a.ranges (rangesOf (b.intersection c))) :=
      (SameRanges.refl _).joins (rangesOf_intersection hb hc).symm
    SameRanges _ (rangesOf ((b.intersection c).bind (a.intersection ·))) :=
      (rangesOf_bind_right ha hbc).symm

/-- A constraint narrowed once by another is narrowed by it again: a range left by the first
narrowing is a join with a range of the other, and joining it with that range again changes
nothing. -/
theorem intersection_again (ha : a.WellFormed) (hb : b.WellFormed) {a₁ : Version.Constraint}
    (h₁ : a.intersection b = some a₁) : ∃ a₂, a₁.intersection b = some a₂ := by
  obtain ⟨r, hr⟩ := List.exists_mem_of_ne_nil _ (intersection_wellFormed ha hb h₁).ranges_ne_nil
  obtain ⟨x, -, y, hy, hj⟩ := mem_joins.1 (mem_joins_of_intersection h₁ hr)
  obtain ⟨r', hr', -⟩ := Version.Range.join_join_right hj (hb.proper y hy).ordered
  refine Option.ne_none_iff_exists'.1 fun hnone => ?_
  exact List.ne_nil_of_mem (mem_joins.2 ⟨r, hr, y, hy, hr'⟩) (intersection_eq_none_iff_joins.1 hnone)

/-- Narrowing a constraint twice by the same one leaves it settled: a third narrowing changes it
no more. Its ranges are then joins of its first ranges with joins of two ranges of the other, and
a join with one more range of the other is again such a join. -/
theorem intersection_settles (ha : a.WellFormed) (hb : b.WellFormed) {a₁ a₂ : Version.Constraint}
    (h₁ : a.intersection b = some a₁) (h₂ : a₁.intersection b = some a₂) :
    ∃ a₃, a₂.intersection b = some a₃ ∧ (a₃ == a₂) = true := by
  have ha₁ := intersection_wellFormed ha hb h₁
  have ha₂ := intersection_wellFormed ha₁ hb h₂
  have hs₁ := sameRanges_of_intersection ha hb h₁
  have hs₂ := sameRanges_of_intersection ha₁ hb h₂
  have hM : ∀ r ∈ b.ranges, r.Ordered := fun r hr => (hb.proper r hr).ordered
  have hsame : SameRanges (rangesOf (a₂.intersection b)) (rangesOf (some a₂)) :=
    calc SameRanges (rangesOf (a₂.intersection b)) (joins a₂.ranges b.ranges) :=
          rangesOf_intersection ha₂ hb
      SameRanges _ (joins (joins (joins a.ranges b.ranges) b.ranges) b.ranges) :=
          (hs₂.joins (.refl _)).trans ((hs₁.joins (.refl _)).joins (.refl _))
      SameRanges _ (joins a.ranges (joins (joins b.ranges b.ranges) b.ranges)) :=
          (joins_assoc.joins (.refl _)).trans joins_assoc
      SameRanges _ (joins a.ranges (joins b.ranges b.ranges)) :=
          (SameRanges.refl _).joins (joins_joins_self hM)
      SameRanges _ (rangesOf (some a₂)) :=
          joins_assoc.symm.trans ((hs₁.symm.joins (.refl _)).trans hs₂.symm)
  exact exists_of_rel_some (rel_of_sameRanges (intersection_wellFormed' ha₂ hb)
    (fun c hc => Option.some_inj.1 hc ▸ ha₂) hsame)

/-- A constraint narrowed by itself is settled: narrowing it by the constraint again changes it
no more. -/
theorem intersection_self_settles (hd : d.WellFormed) {d₁ : Version.Constraint}
    (h₁ : d.intersection d = some d₁) : ∃ d₂, d₁.intersection d = some d₂ ∧ (d₂ == d₁) = true := by
  have hd₁ := intersection_wellFormed hd hd h₁
  have hs₁ := sameRanges_of_intersection hd hd h₁
  have hM : ∀ r ∈ d.ranges, r.Ordered := fun r hr => (hd.proper r hr).ordered
  have hsame : SameRanges (rangesOf (d₁.intersection d)) (rangesOf (some d₁)) :=
    calc SameRanges (rangesOf (d₁.intersection d)) (joins d₁.ranges d.ranges) :=
          rangesOf_intersection hd₁ hd
      SameRanges _ (joins (joins d.ranges d.ranges) d.ranges) := hs₁.joins (.refl _)
      SameRanges _ (joins d.ranges d.ranges) := joins_joins_self hM
      SameRanges _ (rangesOf (some d₁)) := hs₁.symm
  exact exists_of_rel_some (rel_of_sameRanges (intersection_wellFormed' hd₁ hd)
    (fun c hc => Option.some_inj.1 hc ▸ hd₁) hsame)

/-! ## Constraints within constraints -/

/-- An intersection lies range by range within the first constraint. -/
theorem intersection_isSubset_left (h : a.intersection b = some c) : c.isSubset a = true := by
  refine List.all_eq_true.2 fun r hr => ?_
  obtain ⟨x, hx, y, -, hj⟩ := mem_joins.1 (mem_joins_of_intersection h hr)
  exact List.any_eq_true.2 ⟨x, hx, Version.Range.join_isSubset_left hj⟩

/-- An intersection lies range by range within the second constraint. -/
theorem intersection_isSubset_right (h : a.intersection b = some c) : c.isSubset b = true := by
  refine List.all_eq_true.2 fun r hr => ?_
  obtain ⟨x, -, y, hy, hj⟩ := mem_joins.1 (mem_joins_of_intersection h hr)
  exact List.any_eq_true.2 ⟨y, hy, Version.Range.join_isSubset_right hj⟩

theorem isSubset_self (h : c.WellFormed) : c.isSubset c = true :=
  List.all_eq_true.2 fun r hr =>
    List.any_eq_true.2 ⟨r, hr, Version.Range.isSubset_self (h.proper r hr).ordered⟩

/-- One version lies within a constraint exactly when the constraint holds it. -/
theorem exact_isSubset_iff (v : Version) (c : Version.Constraint) :
    (exact v).isSubset c = true ↔ c.contains v = true := by
  simp [isSubset, exact, contains, Version.Range.exact_isSubset_iff]

end Version.Constraint

end BuildSpec
