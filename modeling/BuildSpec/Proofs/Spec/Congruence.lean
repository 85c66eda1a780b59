import BuildSpec.Proofs.Discovery.Rules
import BuildSpec.Proofs.Spec.Settle

/-!
# Equal specs behave alike

Specs compare under `==` field by field, versions by their order, so two specs equal under `==`
may be written differently: `x@1.0` and `x@1.00`. Narrowing a spec by several specs in turn may
end with either spelling, depending on the order, since of two equal limits a join keeps one
side's. This file shows that nothing else depends on the order.

`==` is an equivalence: reflexive and transitive (`Spec.beq_self`, `Spec.beq_trans`), and
symmetric (`Spec.beq_symm`). Intersecting equal constraints and narrowing equal specs give equal
results, a failure on one side being a failure on the other (`intersection_congr`,
`merge_congr`); equal constraints hold the same versions (`contains_congr`); and equal specs
loosely satisfy the same specs (`satisfies_loose_congr`).

With the laws of narrowing, narrowing by two specs in either order gives equal results
(`merge_right_comm`). A partial step that respects an equivalence and takes two items in either
order alike folds over two orderings of one list to related results (`FoldLaws.foldlM_perm`),
so the spec seeding gives a package is the same up to `==` for every ordering of the seeds
(`seedSpec_perm`).
-/

namespace BuildSpec

/-! ## Relating partial results -/

section OptionRel

variable {α β γ δ : Type} {R : α → α → Prop}

theorem rel_symm_of (hs : ∀ {a b}, R a b → R b a) {x y : Option α} (h : Option.Rel R x y) :
    Option.Rel R y x := by
  cases h with
  | none => exact .none
  | some hab => exact .some (hs hab)

theorem rel_trans_of (ht : ∀ {a b c}, R a b → R b c → R a c) {x y z : Option α}
    (hxy : Option.Rel R x y) (hyz : Option.Rel R y z) : Option.Rel R x z := by
  cases hxy with
  | none => exact hyz
  | some hab =>
    cases hyz with
    | some hbc => exact .some (ht hab hbc)

/-- Related partial results stay related through related continuations. -/
theorem rel_bind {S : γ → δ → Prop} {T : α → β → Prop} {x : Option α} {y : Option β}
    {f : α → Option γ} {g : β → Option δ} (h : Option.Rel T x y)
    (hfg : ∀ a ∈ x, ∀ b ∈ y, T a b → Option.Rel S (f a) (g b)) :
    Option.Rel S (x.bind f) (y.bind g) := by
  cases h with
  | none => exact .none
  | @some a b hab => exact hfg a rfl b rfl hab

/-- A relation between partial results holds of a larger relation, given on what they hold. -/
theorem rel_mono {S T : α → β → Prop} {x : Option α} {y : Option β} (h : Option.Rel T x y)
    (hST : ∀ a ∈ x, ∀ b ∈ y, T a b → S a b) : Option.Rel S x y := by
  cases h with
  | none => exact .none
  | @some a b hab => exact .some (hST a rfl b rfl hab)

end OptionRel

/-! ## Equality is symmetric -/

theorem Version.beq_symm {a b : Version} (h : (a == b) = true) : (b == a) = true := by
  rw [Version.beq_def, beq_iff_eq] at h ⊢
  exact Std.OrientedCmp.eq_comm.1 h

theorem Version.Range.beq_symm {r s : Version.Range} (h : (r == s) = true) : (s == r) = true := by
  change r.beq s = true at h
  change s.beq r = true
  cases r <;> cases s <;>
    simp only [Version.Range.beq, Bool.and_eq_true, Bool.false_eq_true] at h ⊢
  case exact.exact => exact Version.beq_symm h
  case atLeast.atLeast => exact Version.beq_symm h
  case atMost.atMost => exact Version.beq_symm h
  case between.between => exact ⟨Version.beq_symm h.1, Version.beq_symm h.2⟩

theorem list_beq_symm {α : Type} [BEq α] (hsymm : ∀ {a b : α}, (a == b) = true → (b == a) = true)
    {l l' : List α} (h : (l == l') = true) : (l' == l) = true := by
  induction l generalizing l' with
  | nil =>
    cases l' with
    | nil => rfl
    | cons => simp at h
  | cons x xs ih =>
    cases l' with
    | nil => simp at h
    | cons y ys =>
      simp only [List.cons_beq_cons, Bool.and_eq_true] at h ⊢
      exact ⟨hsymm h.1, ih h.2⟩

/-- Options equal under `==` are both missing or both given, with equal values. -/
theorem option_beq_cases {α : Type} [BEq α] {x y : Option α} (h : (x == y) = true) :
    (x = none ∧ y = none) ∨ ∃ a b, x = some a ∧ y = some b ∧ (a == b) = true := by
  rcases x with _ | a <;> rcases y with _ | b
  · exact .inl ⟨rfl, rfl⟩
  · simp only [Option.none_beq_some, Bool.false_eq_true] at h
  · simp only [Option.beq_none, Option.isNone_some, Bool.false_eq_true] at h
  · exact .inr ⟨a, b, rfl, rfl, h⟩

/-- Lists equal under `==` are equal item by item. -/
theorem forall₂_of_list_beq {α : Type} [BEq α] {l l' : List α} (h : (l == l') = true) :
    List.Forall₂ (fun x y => (x == y) = true) l l' := by
  induction l generalizing l' with
  | nil =>
    cases l' with
    | nil => exact .nil
    | cons => simp at h
  | cons x xs ih =>
    cases l' with
    | nil => simp at h
    | cons y ys =>
      simp only [List.cons_beq_cons, Bool.and_eq_true] at h
      exact .cons h.1 (ih h.2)

theorem Version.Constraint.beq_symm {a b : Version.Constraint} (h : (a == b) = true) :
    (b == a) = true := by
  rw [Version.Constraint.beq_def] at h ⊢
  exact list_beq_symm Version.Range.beq_symm h

theorem Spec.Compiler.beq_symm {a b : Spec.Compiler} (h : (a == b) = true) : (b == a) = true := by
  simp only [Spec.Compiler.beq_def, Bool.and_eq_true, beq_iff_eq] at h ⊢
  exact ⟨h.1.symm, Version.Constraint.beq_symm h.2⟩

theorem Spec.option_compiler_beq_symm {a b : Option Spec.Compiler} (h : (a == b) = true) :
    (b == a) = true := by
  rcases a with _ | a <;> rcases b with _ | b <;> simp_all
  exact Spec.Compiler.beq_symm h

namespace Spec

mutual

theorem beq_symm : {a b : Spec} → a.beq b = true → b.beq a = true
  | ⟨_, _, _, _, _, _⟩, ⟨_, _, _, _, _, _⟩, h => by
    simp only [Spec.beq, Bool.and_eq_true, beq_iff_eq] at h ⊢
    obtain ⟨⟨⟨⟨⟨hn, hv⟩, hm⟩, hc⟩, hk⟩, hd⟩ := h
    exact ⟨⟨⟨⟨⟨hn.symm, Version.Constraint.beq_symm hv⟩, hm.symm⟩, option_compiler_beq_symm hc⟩,
      hk.symm⟩, beqList_symm hd⟩

theorem beqList_symm : {l l' : List Spec} → beqList l l' = true → beqList l' l = true
  | [], [], _ => rfl
  | _ :: _, _ :: _, h => by
    simp only [beqList, Bool.and_eq_true] at h ⊢
    exact ⟨beq_symm h.1, beqList_symm h.2⟩
  | [], _ :: _, h => by simp [beqList] at h
  | _ :: _, [], h => by simp [beqList] at h

end

/-- Equal specs have equal fields: the same name, settings and mark, equal versions and
compilers, and equal dependencies. -/
theorem fields_of_beq {a b : Spec} (h : (a == b) = true) :
    a.name = b.name ∧ (a.versions == b.versions) = true ∧ (a.compiler == b.compiler) = true ∧
      a.variants = b.variants ∧ a.concrete = b.concrete ∧
      beqList a.dependencies b.dependencies = true := by
  obtain ⟨n, v, m, c, d, k⟩ := a
  obtain ⟨n', v', m', c', d', k'⟩ := b
  change Spec.beq _ _ = true at h
  simp only [Spec.beq, Bool.and_eq_true, beq_iff_eq] at h
  obtain ⟨⟨⟨⟨⟨hn, hv⟩, hm⟩, hc⟩, hk⟩, hd⟩ := h
  exact ⟨hn, hv, hc, hm, hk, hd⟩

/-- A spec equal to one without dependencies has none. -/
theorem flat_of_beq {a b : Spec} (h : (a == b) = true) (hd : a.dependencies = []) :
    b.dependencies = [] := by
  have hl := (fields_of_beq h).2.2.2.2.2
  rw [hd] at hl
  cases hb : b.dependencies with
  | nil => rfl
  | cons => simp [hb, beqList] at hl

end Spec

/-! ## Equal constraints -/

namespace Version.Constraint

open Version.Range (Equiv)

theorem SameRanges.cons {x y : Version.Range} {L L' : List Version.Range} (e : Equiv x y)
    (h : SameRanges L L') : SameRanges (x :: L) (y :: L') := by
  refine ⟨fun z hz => ?_, fun z hz => ?_⟩
  · rcases List.mem_cons.1 hz with rfl | hz
    · exact ⟨y, List.mem_cons_self, e⟩
    · obtain ⟨w, hw, e'⟩ := h.1 z hz
      exact ⟨w, List.mem_cons_of_mem _ hw, e'⟩
  · rcases List.mem_cons.1 hz with rfl | hz
    · exact ⟨x, List.mem_cons_self, e⟩
    · obtain ⟨w, hw, e'⟩ := h.2 z hz
      exact ⟨w, List.mem_cons_of_mem _ hw, e'⟩

variable {a a' b b' : Version.Constraint}

theorem sameRanges_of_forall₂ {L L' : List Version.Range}
    (h : List.Forall₂ (fun x y => (x == y) = true) L L') : SameRanges L L' := by
  induction h with
  | nil => rfl
  | cons hxy _ ih => exact ih.cons (Version.Range.equiv_of_beq hxy)

/-- Equal constraints name the same ranges. -/
theorem sameRanges_of_beq (h : (a == a') = true) : SameRanges a.ranges a'.ranges :=
  sameRanges_of_forall₂ (forall₂_of_list_beq (by rwa [beq_def] at h))

/-- Intersecting equal constraints gives equal constraints, or none on both sides. -/
theorem intersection_congr (ha : a.WellFormed) (ha' : a'.WellFormed) (hb : b.WellFormed)
    (hb' : b'.WellFormed) (h : (a == a') = true) (h' : (b == b') = true) :
    Option.Rel (fun c c' => (c == c') = true) (a.intersection b) (a'.intersection b') :=
  rel_of_sameRanges (intersection_wellFormed' ha hb) (intersection_wellFormed' ha' hb')
    ((rangesOf_intersection ha hb).trans
      (((sameRanges_of_beq h).joins (sameRanges_of_beq h')).trans
        (rangesOf_intersection ha' hb').symm))

/-- Equal constraints overlap the same constraints. -/
theorem overlaps_congr (h : (a == a') = true) (b : Version.Constraint) :
    a.overlaps b = a'.overlaps b := by
  -- an intersection is missing exactly when the ranges have no join
  have hnone : a.intersection b = none ↔ a'.intersection b = none := by
    rw [intersection_eq_none_iff_joins, intersection_eq_none_iff_joins]
    exact ((sameRanges_of_beq h).joins (SameRanges.refl b.ranges)).nil_iff
  unfold overlaps
  cases h₁ : a.intersection b <;> cases h₂ : a'.intersection b <;> simp_all

theorem any_contains_congr {L L' : List Version.Range}
    (h : List.Forall₂ (fun x y => (x == y) = true) L L') (v : Version) :
    L.any (·.contains v) = L'.any (·.contains v) := by
  induction h with
  | nil => rfl
  | cons hxy _ ih => simp only [List.any_cons, Version.Range.contains_congr hxy v, ih]

/-- Equal constraints hold the same versions. -/
theorem contains_congr (h : (a == a') = true) (v : Version) : a.contains v = a'.contains v :=
  any_contains_congr (forall₂_of_list_beq (by rwa [beq_def] at h)) v

end Version.Constraint

namespace Spec

/-! ## Equal compilers -/

section Compilers

variable {a a' b b' : Option Compiler}

theorem compilerMeets_loose_congr (h : (a == a') = true) (b : Option Compiler) :
    compilerMeets a b false = compilerMeets a' b false := by
  obtain ⟨rfl, rfl⟩ | ⟨l, l', rfl, rfl, hl⟩ := option_beq_cases h
  · rfl
  · simp only [Compiler.beq_def, Bool.and_eq_true, beq_iff_eq] at hl
    rcases b with _ | r
    · rfl
    · simp only [compilerMeets, Compiler.satisfies, Bool.false_eq_true, if_false, hl.1,
        Version.Constraint.overlaps_congr hl.2]

/-- Narrowing equal compilers by equal compilers gives equal compilers, or fails on both sides. -/
theorem mergeCompiler_congr (ha : CompilerWellFormed a) (ha' : CompilerWellFormed a')
    (hb : CompilerWellFormed b) (hb' : CompilerWellFormed b') (h : (a == a') = true)
    (h' : (b == b') = true) :
    Option.Rel (fun c c' => (c == c') = true) ((mergeCompiler a b).toOption.map Prod.fst)
      ((mergeCompiler a' b').toOption.map Prod.fst) := by
  obtain ⟨rfl, rfl⟩ | ⟨l, l', rfl, rfl, hl⟩ := option_beq_cases h <;>
  obtain ⟨rfl, rfl⟩ | ⟨r, r', rfl, rfl, hr⟩ := option_beq_cases h'
  · exact .some rfl
  · simpa using hr
  · simpa using hl
  · -- two compilers on each side: the same one, with equal versions intersected
    rw [mergeCompiler_some_some, mergeCompiler_some_some, Compiler.constrain_toOption,
      Compiler.constrain_toOption]
    simp only [Compiler.beq_def, Bool.and_eq_true, beq_iff_eq] at hl hr
    rw [hl.1, hr.1]
    split_ifs
    · refine rel_map (R := fun c c' : Compiler => (c == c') = true)
        (rel_map (Version.Constraint.intersection_congr (ha l rfl).2 (ha' l' rfl).2
          (hb r rfl).2 (hb' r' rfl).2 hl.2 hr.2) fun j j' hj => ?_) fun c c' hc => ?_
      · simp [Compiler.beq_def, hj]
      · simpa using hc
    · exact .none

end Compilers

/-! ## Equal specs -/

section Specs

variable {a a' b b' : Spec}

/-- Equal specs without dependencies loosely satisfy the same specs. -/
theorem satisfies_loose_congr (hd : a.dependencies = []) (h : (a == a') = true) (o : Spec) :
    a.satisfies o false = a'.satisfies o false := by
  obtain ⟨hn, hv, hc, hm, hk, -⟩ := fields_of_beq h
  have hd' := flat_of_beq h hd
  -- neither has dependencies, so neither is asked anything of them
  have hdeps : ∀ s : Spec, s.dependencies = [] → s.satisfiesDeps o.dependencies false = true :=
    fun s hs => satisfiesDeps_false_iff.2 fun d _ e he => by
      cases hn : d.name <;> simp [hn, hs, depOf] at he
  rw [satisfies_eq, satisfies_eq, hdeps a hd, hdeps a' hd']
  simp only [satisfiesPart, Bool.false_eq_true, if_false, hn, hm, hk,
    Version.Constraint.overlaps_congr hv, compilerMeets_loose_congr hc]

/-- Narrowing equal specs by equal specs, all without dependencies, gives equal specs, or fails
on both sides. -/
theorem merge_congr (ha : a.DepWellFormed) (ha' : a'.DepWellFormed) (hb : b.DepWellFormed)
    (hb' : b'.DepWellFormed) (h : (a == a') = true) (h' : (b == b') = true) :
    Option.Rel (fun x y => (x == y) = true) ((a.merge b).toOption.map Prod.fst)
      ((a'.merge b').toOption.map Prod.fst) := by
  obtain ⟨hn, hv, hc, hm, hk, -⟩ := fields_of_beq h
  obtain ⟨hn', hv', hc', hm', -, -⟩ := fields_of_beq h'
  refine rel_of_fields (fun _ => merge_eq_some_iff ha.flat hb.flat hb.part.not_concrete)
    (fun _ => merge_eq_some_iff ha'.flat hb'.flat hb'.part.not_concrete) (by rw [hn, hn'])
    (Version.Constraint.intersection_congr ha.part.versions ha'.part.versions hb.part.versions
      hb'.part.versions hv hv')
    (mergeCompiler_congr ha.part.compiler ha'.part.compiler hb.part.compiler hb'.part.compiler hc hc')
    (by rw [hm, hm']) ?_
  intro n v v' k k' m hvv hkk
  exact beq_of_fields ha.flat ha'.flat rfl hvv hkk rfl hk

/-- Narrowing specs without dependencies is commutative up to `==`. -/
theorem merge_comm (ha : a.DepWellFormed) (hb : b.DepWellFormed) :
    Option.Rel (fun x y => (x == y) = true) ((a.merge b).toOption.map Prod.fst)
      ((b.merge a).toOption.map Prod.fst) := by
  refine rel_of_fields (fun _ => merge_eq_some_iff ha.flat hb.flat hb.part.not_concrete)
    (fun _ => merge_eq_some_iff hb.flat ha.flat ha.part.not_concrete) (mergeName_comm a.name b.name)
    (Version.Constraint.intersection_comm ha.part.versions hb.part.versions)
    (mergeCompiler_comm ha.part.compiler hb.part.compiler)
    (Variant.Settings.constrain_comm ha.part.variants.ascend hb.part.variants.ascend) ?_
  intro n v v' k k' m hv hk
  exact beq_of_fields ha.flat hb.flat rfl hv hk rfl
    (ha.part.not_concrete.trans hb.part.not_concrete.symm)

/-- Narrowing specs without dependencies is associative up to `==`. -/
theorem merge_assoc {c : Spec} (ha : a.DepWellFormed) (hb : b.DepWellFormed) (hc : c.DepWellFormed) :
    Option.Rel (fun x y => (x == y) = true)
      (((a.merge b).toOption.map Prod.fst).bind fun ab => (ab.merge c).toOption.map Prod.fst)
      (((b.merge c).toOption.map Prod.fst).bind fun bc => (a.merge bc).toOption.map Prod.fst) := by
  refine rel_of_fields
    (fun _ => merge_merge_eq_some_iff ha.flat hb.flat hc.flat hb.part.not_concrete
      hc.part.not_concrete)
    (fun _ => merge_merge_right_eq_some_iff ha.flat hb.flat hc.flat hb.part.not_concrete
      hc.part.not_concrete)
    (mergeName_assoc a.name b.name c.name)
    (Version.Constraint.intersection_assoc ha.part.versions hb.part.versions hc.part.versions)
    (mergeCompiler_assoc ha.part.compiler hb.part.compiler hc.part.compiler)
    (Variant.Settings.constrain_assoc ha.part.variants.ascend hb.part.variants.ascend
      hc.part.variants.ascend) ?_
  intro n v v' k k' m hv hk
  exact beq_of_fields ha.flat ha.flat rfl hv hk rfl rfl

/-- Narrowing by two specs in turn gives equal results in either order. -/
theorem merge_right_comm {x : Spec} (hx : x.DepWellFormed) (ha : a.DepWellFormed)
    (hb : b.DepWellFormed) :
    Option.Rel (fun x y => (x == y) = true)
      (((x.merge a).toOption.map Prod.fst).bind fun xa => (xa.merge b).toOption.map Prod.fst)
      (((x.merge b).toOption.map Prod.fst).bind fun xb => (xb.merge a).toOption.map Prod.fst) := by
  -- narrowing `x` by the merge of `a` and `b` does not depend on the order of that merge
  have hmid : Option.Rel (fun x y => (x == y) = true)
      (((a.merge b).toOption.map Prod.fst).bind fun ab => (x.merge ab).toOption.map Prod.fst)
      (((b.merge a).toOption.map Prod.fst).bind fun ba => (x.merge ba).toOption.map Prod.fst) := by
    refine rel_bind (merge_comm ha hb) fun ab hab ba hba he => ?_
    obtain ⟨_, hab⟩ := map_fst_toOption_eq_some.1 hab
    obtain ⟨_, hba⟩ := map_fst_toOption_eq_some.1 hba
    exact merge_congr hx hx (merge_depWellFormed ha hb hab).1 (merge_depWellFormed hb ha hba).1
      (beq_self x) he
  exact rel_trans_of (R := fun x y : Spec => (x == y) = true) beq_trans (merge_assoc hx ha hb)
    (rel_trans_of (R := fun x y : Spec => (x == y) = true) beq_trans hmid
      (rel_symm_of (R := fun x y : Spec => (x == y) = true) beq_symm (merge_assoc hx hb ha)))

end Specs

end Spec

/-! ## Folding over permutations -/

section PermutedFolds

variable {α σ : Type}

/-- Folding related steps from related states gives related results. -/
theorem rel_foldlM {σ' : Type} {R : σ → σ' → Prop} {f : σ → α → Option σ} {g : σ' → α → Option σ'}
    {l : List α} (hfg : ∀ b ∈ l, ∀ x y, R x y → Option.Rel R (f x b) (g y b)) {x : σ} {y : σ'}
    (hxy : R x y) : Option.Rel R (l.foldlM f x) (l.foldlM g y) := by
  induction l generalizing x y with
  | nil => exact .some hxy
  | cons b l ih =>
    simp only [List.foldlM_cons, Option.bind_eq_bind]
    exact rel_bind (hfg b List.mem_cons_self x y hxy) fun x' _ y' _ h' =>
      ih (fun b' hb' => hfg b' (List.mem_cons_of_mem _ hb')) h'

/-- What a partial step over items satisfying `Q` must do for its folds over two orderings of the
items to give results related by `R`: `R` is symmetric and transitive, the step respects it, and
two items may be taken in either order from a state related to itself. -/
structure SwapLaws (R : σ → σ → Prop) (Q : α → Prop) (op : σ → α → Option σ) : Prop where
  symm : ∀ {x y}, R x y → R y x
  trans : ∀ {x y z}, R x y → R y z → R x z
  step : ∀ {x x'} a, Q a → R x x' → Option.Rel R (op x a) (op x' a)
  swap : ∀ {x} a b, Q a → Q b → R x x →
    Option.Rel R ((op x a).bind (op · b)) ((op x b).bind (op · a))

namespace SwapLaws

variable {R : σ → σ → Prop} {Q : α → Prop} {op : σ → α → Option σ}

theorem rel_trans (h : SwapLaws R Q op) {x y z : Option σ} (hxy : Option.Rel R x y)
    (hyz : Option.Rel R y z) : Option.Rel R x z :=
  rel_trans_of (R := R) h.trans hxy hyz

/-- Folding from related states gives related results. -/
theorem foldlM_rel (h : SwapLaws R Q op) {l : List α} (hl : ∀ a ∈ l, Q a) {x x' : σ}
    (hx : R x x') : Option.Rel R (l.foldlM op x) (l.foldlM op x') :=
  rel_foldlM (fun a ha _ _ hy => h.step a (hl a ha) hy) hx

/-- Folding over two orderings of one list from the same state gives related results. -/
theorem foldlM_perm (h : SwapLaws R Q op) {l l' : List α} (hp : l.Perm l') (hl : ∀ a ∈ l, Q a)
    {x : σ} (hx : R x x) : Option.Rel R (l.foldlM op x) (l'.foldlM op x) := by
  induction hp generalizing x with
  | nil => exact .some hx
  | @cons a l l' hp ih =>
    -- the same first step, then the two orderings of the rest
    simp only [List.foldlM_cons, Option.bind_eq_bind]
    refine rel_bind (h.step a (hl a List.mem_cons_self) hx) fun y _ y' _ hy => ?_
    have hl₁ : ∀ b ∈ l, Q b := fun b hb => hl b (List.mem_cons_of_mem _ hb)
    exact h.rel_trans (ih hl₁ (h.trans hy (h.symm hy)))
      (h.foldlM_rel (fun b hb => hl₁ b (hp.mem_iff.2 hb)) hy)
  | swap a b l =>
    -- the two first steps in either order, then the same rest
    have ha : Q a := hl a (by simp)
    have hb : Q b := hl b (by simp)
    simp only [List.foldlM_cons, Option.bind_eq_bind, ← Option.bind_assoc]
    exact rel_bind (h.swap b a hb ha hx) fun y _ y' _ hy =>
      h.foldlM_rel (l := l) (fun c hc => hl c (by simp [hc])) hy
  | trans h₁ _ ih₁ ih₂ =>
    exact h.rel_trans (ih₁ hl hx) (ih₂ (fun a ha => hl a (h₁.mem_iff.2 ha)) hx)

/-- Folding over two orderings of one list from related states gives related results. -/
theorem foldlM_perm_rel (h : SwapLaws R Q op) {l l' : List α} (hp : l.Perm l')
    (hl : ∀ a ∈ l, Q a) {x x' : σ} (hx : R x x') : Option.Rel R (l.foldlM op x) (l'.foldlM op x') :=
  h.rel_trans (h.foldlM_rel hl hx) (h.foldlM_perm hp (fun a ha => hl a ha) (h.trans (h.symm hx) hx))

end SwapLaws

/-- What a partial step must do for its folds over items satisfying `Q` to give results related
by `R` in every order of the items: `R` is an equivalence on what the folds reach, the step
respects it, and two items, or a first item and a second, may be taken in either order. -/
structure FoldLaws (R : α → α → Prop) (Q : α → Prop) (op : α → α → Option α) : Prop where
  refl : ∀ x, Q x → R x x
  symm : ∀ {x y}, R x y → R y x
  trans : ∀ {x y z}, R x y → R y z → R x z
  step : ∀ {x x'} a, Q a → R x x' → Option.Rel R (op x a) (op x' a)
  swap : ∀ {x} a b, Q a → Q b → R x x →
    Option.Rel R ((op x a).bind (op · b)) ((op x b).bind (op · a))
  comm : ∀ a b, Q a → Q b → Option.Rel R (op a b) (op b a)

namespace FoldLaws

variable {R : α → α → Prop} {Q : α → Prop} {op : α → α → Option α}

theorem swapLaws (h : FoldLaws R Q op) : SwapLaws R Q op :=
  ⟨h.symm, h.trans, h.step, h.swap⟩

/-- Folding over two orderings of one nonempty list, each from its first item, gives related
results. -/
theorem foldlM_perm_cons (h : FoldLaws R Q op) {a b : α} {l l' : List α}
    (hp : (a :: l).Perm (b :: l')) (hl : ∀ c ∈ a :: l, Q c) :
    Option.Rel R (l.foldlM op a) (l'.foldlM op b) := by
  have ha : Q a := hl a List.mem_cons_self
  by_cases hab : a = b
  · subst hab
    exact h.swapLaws.foldlM_perm hp.cons_inv (fun c hc => hl c (List.mem_cons_of_mem _ hc))
      (h.refl a ha)
  · -- `b` stands somewhere in `l`: fold it first after `a`, then take the two in the other order
    have hbl : b ∈ l := by
      rcases List.mem_cons.1 (hp.mem_iff.2 List.mem_cons_self) with hba | hbl
      · exact absurd hba.symm hab
      · exact hbl
    obtain ⟨s, t, rfl⟩ := List.append_of_mem hbl
    have hb : Q b := hl b (by simp)
    have hrest : ∀ c ∈ s ++ t, Q c := fun c hc => hl c (by simp at hc ⊢; tauto)
    have hl' : l'.Perm (a :: (s ++ t)) :=
      (hp.symm.trans ((List.perm_middle.cons a).trans (.swap b a _))).cons_inv
    have h₁ : Option.Rel R ((s ++ b :: t).foldlM op a) ((b :: (s ++ t)).foldlM op a) :=
      h.swapLaws.foldlM_perm List.perm_middle (fun c hc => hl c (List.mem_cons_of_mem _ hc))
        (h.refl a ha)
    have h₂ : Option.Rel R ((b :: (s ++ t)).foldlM op a) ((a :: (s ++ t)).foldlM op b) := by
      simp only [List.foldlM_cons, Option.bind_eq_bind]
      exact rel_bind (h.comm a b ha hb) fun y _ y' _ hy => h.swapLaws.foldlM_rel hrest hy
    have h₃ : Option.Rel R ((a :: (s ++ t)).foldlM op b) (l'.foldlM op b) :=
      h.swapLaws.foldlM_perm hl'.symm
        (fun c hc => by simp at hc; rcases hc with rfl | hc <;> simp_all) (h.refl b hb)
    exact h.swapLaws.rel_trans h₁ (h.swapLaws.rel_trans h₂ h₃)

end FoldLaws

end PermutedFolds

theorem toOption_foldlM {ε α β : Type} (f : α → β → Except ε α) (l : List β) (x : α) :
    (l.foldlM f x).toOption = l.foldlM (fun a b => (f a b).toOption) x := by
  induction l generalizing x with
  | nil => rfl
  | cons b l ih =>
    simp only [List.foldlM_cons]
    cases f x b with
    | error e => rfl
    | ok y => exact ih y

/-! ## Seeding in any order -/

namespace Spec

section Seeding

variable {s o r : Spec}

theorem depWellFormed_of_mem_merge (hs : s.DepWellFormed) (ho : o.DepWellFormed)
    (h : r ∈ (s.merge o).toOption.map Prod.fst) : r.DepWellFormed := by
  obtain ⟨_, h⟩ := map_fst_toOption_eq_some.1 h
  exact (merge_depWellFormed hs ho h).1

theorem depWellFormed_of_mem_merge_merge {c : Spec} (hs : s.DepWellFormed) (ho : o.DepWellFormed)
    (hc : c.DepWellFormed)
    (h : r ∈ ((s.merge o).toOption.map Prod.fst).bind fun so => (so.merge c).toOption.map Prod.fst) :
    r.DepWellFormed := by
  obtain ⟨so, hso, hr⟩ := Option.bind_eq_some_iff.1 h
  exact depWellFormed_of_mem_merge (depWellFormed_of_mem_merge hs ho hso) hc hr

/-- Narrowing specs without dependencies obeys the laws of folding, up to `==`. -/
theorem foldLaws_merge :
    FoldLaws (fun x y => (x == y) = true ∧ x.DepWellFormed ∧ y.DepWellFormed) DepWellFormed
      (fun x y => (x.merge y).toOption.map Prod.fst) where
  refl x hx := ⟨beq_self x, hx, hx⟩
  symm h := ⟨beq_symm h.1, h.2.2, h.2.1⟩
  trans h h' := ⟨beq_trans h.1 h'.1, h.2.1, h'.2.2⟩
  step a ha h := rel_mono (merge_congr h.2.1 h.2.2 ha ha h.1 (beq_self a)) fun _ hr _ hr' hrr =>
    ⟨hrr, depWellFormed_of_mem_merge h.2.1 ha hr, depWellFormed_of_mem_merge h.2.2 ha hr'⟩
  swap _ _ ha hb hx := rel_mono (merge_right_comm hx.2.1 ha hb) fun _ hr _ hr' hrr =>
    ⟨hrr, depWellFormed_of_mem_merge_merge hx.2.1 ha hb hr,
      depWellFormed_of_mem_merge_merge hx.2.1 hb ha hr'⟩
  comm _ _ ha hb := rel_mono (merge_comm ha hb) fun _ hr _ hr' hrr =>
    ⟨hrr, depWellFormed_of_mem_merge ha hb hr, depWellFormed_of_mem_merge hb ha hr'⟩

end Seeding

end Spec

theorem seedSpec_of_filter_nil {seeds : List Spec} {n : String}
    (h : seeds.filter (·.name == some n) = []) : seedSpec seeds n = .ok (Spec.named n) := by
  simp [seedSpec, h]

/-- Seeding a package named by some seeds narrows the first of them by the others in turn. -/
theorem toOption_seedSpec_of_filter_cons {seeds rest : List Spec} {n : String} {s : Spec}
    (h : seeds.filter (·.name == some n) = s :: rest) :
    (seedSpec seeds n).toOption = rest.foldlM (fun acc t => (acc.merge t).toOption.map Prod.fst) s := by
  simp only [seedSpec, h, toOption_foldlM]
  congr
  funext acc t
  unfold Spec.constrain
  cases acc.merge t <;> rfl

/-- The spec seeding gives a package does not depend on the order of the seeds, up to `==`: for
two orderings of seeds without dependencies, both seed the package or both fail, with equal
specs. -/
theorem seedSpec_perm {seeds seeds' : List Spec} (hp : seeds.Perm seeds')
    (hw : ∀ s ∈ seeds, s.WellFormed ∧ s.dependencies = []) (n : String) :
    Option.Rel (fun x y => (x == y) = true) (seedSpec seeds n).toOption
      (seedSpec seeds' n).toOption := by
  have hf := hp.filter (·.name == some n)
  -- the seeds naming `n` are well-formed named specs without dependencies
  have hq : ∀ s ∈ seeds.filter (·.name == some n), s.DepWellFormed := by
    intro s hs
    obtain ⟨hs, hsn⟩ := List.mem_filter.1 hs
    exact ⟨(hw s hs).1.part, by simp only [beq_iff_eq] at hsn; simp [hsn], (hw s hs).2⟩
  cases hF : seeds.filter (·.name == some n) with
  | nil =>
    rw [hF] at hf
    rw [seedSpec_of_filter_nil hF, seedSpec_of_filter_nil hf.nil_eq.symm]
    exact .some (Spec.beq_self _)
  | cons s rest =>
    rw [hF] at hf hq
    cases hF' : seeds'.filter (·.name == some n) with
    | nil => rw [hF'] at hf; cases hf.length_eq
    | cons s' rest' =>
      rw [hF'] at hf
      rw [toOption_seedSpec_of_filter_cons hF, toOption_seedSpec_of_filter_cons hF']
      exact rel_mono (Spec.foldLaws_merge.foldlM_perm_cons hf hq) fun _ _ _ _ h => h.1

end BuildSpec
