import BuildSpec.Proofs.Spec.Satisfies

/-!
# Narrowing settles after two rounds

Narrowing a spec by the same spec again and again does not settle after one round. Intersecting
versions joins every range of one side with every range of the other and keeps the joins apart,
so `x` narrowed by `x@1:5,3:8` is `x@1:5,3:8`, and narrowing that again adds `3:5`, the join of
the two ranges, and reports a change (`constrain_again_changes`). What holds is that the second
round succeeds and the third changes nothing (`constrain_settles`).

## Why the third round changes nothing

A part narrowed by `o` (`NarrowedBy`) has a name that meets the one `o` asks for, versions that
are those of `o` or well-formed versions intersected with them, and, when `o` asks for a
compiler, that compiler with versions of the same kind. Narrowing such a part by `o` once more
leaves versions that a further narrowing only rewrites into equal ones
(`Version.Constraint.intersection_settles`, `Version.Constraint.intersection_self_settles`);
settings absorb what narrowed them, and a name that meets another is kept
(`NarrowedBy.settles`). The dependency of each name is narrowed by the dependency of that name
in the same way, so merging the dependencies a third time changes none of them
(`mergeDeps_settles`).

Equality of specs compares versions by their order, so it is not structural; the argument uses
that it is transitive (`beq_trans`).
-/

namespace BuildSpec

/-! ## Equality is transitive -/

theorem Version.beq_trans {a b c : Version} (h₁ : (a == b) = true) (h₂ : (b == c) = true) :
    (a == c) = true := by
  rw [Version.beq_def, beq_iff_eq] at h₁ h₂ ⊢
  exact Std.TransCmp.eq_trans h₁ h₂

theorem Version.Range.beq_trans {r s t : Version.Range} (h₁ : (r == s) = true)
    (h₂ : (s == t) = true) : (r == t) = true := by
  change r.beq s = true at h₁
  change s.beq t = true at h₂
  change r.beq t = true
  -- ranges of different kinds are never equal
  cases r <;> cases s <;> cases t <;>
    simp only [Version.Range.beq, Bool.and_eq_true, Bool.false_eq_true] at h₁ h₂ ⊢
  case exact.exact.exact => exact Version.beq_trans h₁ h₂
  case atLeast.atLeast.atLeast => exact Version.beq_trans h₁ h₂
  case atMost.atMost.atMost => exact Version.beq_trans h₁ h₂
  case between.between.between =>
    exact ⟨Version.beq_trans h₁.1 h₂.1, Version.beq_trans h₁.2 h₂.2⟩

theorem list_beq_trans {α : Type} [BEq α]
    (htrans : ∀ {a b c : α}, (a == b) = true → (b == c) = true → (a == c) = true) :
    ∀ {l₁ l₂ l₃ : List α}, (l₁ == l₂) = true → (l₂ == l₃) = true → (l₁ == l₃) = true
  | [], [], [], _, _ => rfl
  | _ :: _, _ :: _, _ :: _, h₁, h₂ => by
    simp only [List.cons_beq_cons, Bool.and_eq_true] at h₁ h₂ ⊢
    exact ⟨htrans h₁.1 h₂.1, list_beq_trans htrans h₁.2 h₂.2⟩
  | [], _ :: _, _, h₁, _ => by simp at h₁
  | _ :: _, [], _, h₁, _ => by simp at h₁
  | [], [], _ :: _, _, h₂ => by simp at h₂
  | _ :: _, _ :: _, [], _, h₂ => by simp at h₂

theorem Version.Constraint.beq_trans {a b c : Version.Constraint} (h₁ : (a == b) = true)
    (h₂ : (b == c) = true) : (a == c) = true := by
  rw [Version.Constraint.beq_def] at h₁ h₂ ⊢
  exact list_beq_trans Version.Range.beq_trans h₁ h₂

theorem Spec.Compiler.beq_trans {a b c : Spec.Compiler} (h₁ : (a == b) = true)
    (h₂ : (b == c) = true) : (a == c) = true := by
  simp only [Spec.Compiler.beq_def, Bool.and_eq_true, beq_iff_eq] at h₁ h₂ ⊢
  exact ⟨h₁.1.trans h₂.1, Version.Constraint.beq_trans h₁.2 h₂.2⟩

theorem Spec.option_compiler_beq_trans {a b c : Option Spec.Compiler} (h₁ : (a == b) = true)
    (h₂ : (b == c) = true) : (a == c) = true := by
  rcases a with _ | a <;> rcases b with _ | b <;> rcases c with _ | c <;> simp_all
  exact Spec.Compiler.beq_trans h₁ h₂

namespace Spec

mutual

theorem beq_trans : {a b c : Spec} → a.beq b = true → b.beq c = true → a.beq c = true
  | ⟨_, _, _, _, _, _⟩, ⟨_, _, _, _, _, _⟩, ⟨_, _, _, _, _, _⟩, h₁, h₂ => by
    simp only [Spec.beq, Bool.and_eq_true, beq_iff_eq] at h₁ h₂ ⊢
    obtain ⟨⟨⟨⟨⟨hn₁, hv₁⟩, hm₁⟩, hc₁⟩, hk₁⟩, hd₁⟩ := h₁
    obtain ⟨⟨⟨⟨⟨hn₂, hv₂⟩, hm₂⟩, hc₂⟩, hk₂⟩, hd₂⟩ := h₂
    exact ⟨⟨⟨⟨⟨hn₁.trans hn₂, Version.Constraint.beq_trans hv₁ hv₂⟩, hm₁.trans hm₂⟩,
      option_compiler_beq_trans hc₁ hc₂⟩, hk₁.trans hk₂⟩, beqList_trans hd₁ hd₂⟩

theorem beqList_trans :
    {l₁ l₂ l₃ : List Spec} → beqList l₁ l₂ = true → beqList l₂ l₃ = true → beqList l₁ l₃ = true
  | [], [], [], _, _ => rfl
  | _ :: _, _ :: _, _ :: _, h₁, h₂ => by
    simp only [beqList, Bool.and_eq_true] at h₁ h₂ ⊢
    exact ⟨beq_trans h₁.1 h₂.1, beqList_trans h₁.2 h₂.2⟩
  | [], _ :: _, _, h₁, _ => by simp [beqList] at h₁
  | _ :: _, [], _, h₁, _ => by simp [beqList] at h₁
  | [], [], _ :: _, _, h₂ => by simp [beqList] at h₂
  | _ :: _, _ :: _, [], _, h₂ => by simp [beqList] at h₂

end

/-- Replacing one dependency by an equal one leaves equal dependencies. -/
theorem beqList_set : ∀ {l : List Spec} {i : Nat} {x : Spec} (hi : i < l.length),
    (x == l[i]) = true → beqList (l.set i x) l = true
  | _ :: l, 0, _, _, hx => by
    simp only [List.set_cons_zero, beqList, Bool.and_eq_true]
    exact ⟨hx, beqList_self l⟩
  | a :: _, k + 1, _, hi, hx => by
    simp only [List.set_cons_succ, beqList, Bool.and_eq_true]
    exact ⟨beq_self a, beqList_set (by simpa using hi) hx⟩

/-- Specs are equal when their parts are equal and their dependencies are. -/
theorem beq_of_parts {a b : Spec} (hn : a.name = b.name) (hv : (a.versions == b.versions) = true)
    (hc : (a.compiler == b.compiler) = true) (hm : a.variants = b.variants)
    (hk : a.concrete = b.concrete) (hd : beqList a.dependencies b.dependencies = true) :
    (a == b) = true := by
  obtain ⟨n, v, m, c, d, k⟩ := a
  obtain ⟨n', v', m', c', d', k'⟩ := b
  simp only at hn hv hc hm hk hd
  subst hn hm hk
  show Spec.beq _ _ = true
  simp [Spec.beq, hv, hc, hd]

end Spec

/-! ## Narrowed versions and compilers -/

namespace Version.Constraint

/-- Narrowed by `o`: the constraint `o` itself, or a well-formed constraint intersected with it. -/
def NarrowedBy (v o : Version.Constraint) : Prop :=
  v = o ∨ ∃ x : Version.Constraint, x.WellFormed ∧ x.intersection o = some v

/-- A constraint narrowed by a well-formed `o`, once intersected with `o` again, is settled: a
further intersection only gives an equal constraint. -/
theorem NarrowedBy.settles {v₁ v₂ o : Version.Constraint} (ho : o.WellFormed)
    (h : v₁.NarrowedBy o) (h₂ : v₁.intersection o = some v₂) :
    ∃ v₃, v₂.intersection o = some v₃ ∧ (v₃ == v₂) = true := by
  rcases h with rfl | ⟨x, hx, h₁⟩
  · exact intersection_self_settles ho h₂
  · exact intersection_settles hx ho h₁ h₂

end Version.Constraint

namespace Spec

/-- Narrowed by `o`, compiler by compiler: when `o` asks for a compiler, the same compiler with
versions narrowed by its versions. -/
def CompilerNarrowedBy (c o : Option Compiler) : Prop :=
  ∀ r ∈ o, ∃ l ∈ c, l.name = r.name ∧ l.versions.NarrowedBy r.versions

theorem compilerNarrowedBy_mergeCompiler {a o c : Option Compiler} {ch : Bool}
    (ha : CompilerWellFormed a) (h : mergeCompiler a o = .ok (c, ch)) : CompilerNarrowedBy c o := by
  rintro r rfl
  rcases a with _ | l
  · -- none was there: the one asked for is taken
    cases h
    exact ⟨r, rfl, rfl, Or.inl rfl⟩
  · obtain ⟨⟨k, ch'⟩, hk, h⟩ := except_bind_eq_ok.1 h
    cases except_pure_eq_ok.1 h
    obtain ⟨hname, hj⟩ := Compiler.constrain_eq_ok hk
    exact ⟨k, rfl, hname.trans (Compiler.name_eq_of_constrain hk),
      Or.inr ⟨l.versions, (ha l rfl).2, hj⟩⟩

/-- A compiler narrowed by `o` and merged with `o` once more is settled. -/
theorem CompilerNarrowedBy.settles {c₁ c₂ o : Option Compiler} {ch : Bool}
    (ho : CompilerWellFormed o) (h : CompilerNarrowedBy c₁ o)
    (h₂ : mergeCompiler c₁ o = .ok (c₂, ch)) :
    ∃ c₃, mergeCompiler c₂ o = .ok (c₃, false) ∧ (c₃ == c₂) = true := by
  rcases o with _ | r
  · -- no compiler asked for: merging keeps the one there
    obtain rfl : c₂ = c₁ := by cases c₁ <;> cases h₂ <;> rfl
    exact ⟨c₂, by cases c₂ <;> rfl, beq_self_eq_true _⟩
  obtain ⟨l, rfl, hname, hv⟩ := h r rfl
  obtain ⟨⟨k, ch'⟩, hk, h⟩ := except_bind_eq_ok.1 h₂
  cases except_pure_eq_ok.1 h
  obtain ⟨hk₁, hj⟩ := Compiler.constrain_eq_ok hk
  obtain ⟨v₃, hv₃, hvb⟩ := hv.settles (ho r rfl).2 hj
  refine ⟨some { k with versions := v₃ }, ?_, ?_⟩
  · simp [mergeCompiler, Compiler.constrain, hk₁.trans hname, hv₃, hvb, bind, Except.bind, pure,
      Except.pure]
  · simp [Compiler.beq_def, hvb]

/-! ## Narrowed parts -/

theorem mergeName_of_nameMeets {n o : Option String} (h : nameMeets n o = true) :
    mergeName n o = .ok (n, false) := by
  rcases o with _ | k
  · cases n <;> rfl
  · obtain rfl : n = some k := by simpa [nameMeets] using h
    simp only [mergeName, bne_self_eq_false, Bool.false_eq_true, if_false]
    rfl

/-- A part narrowed by `o`: its name meets the one `o` asks for, its versions are narrowed by
those of `o`, and so is its compiler. -/
structure NarrowedBy (s o : Spec) : Prop where
  name : nameMeets s.name o.name = true
  versions : s.versions.NarrowedBy o.versions
  compiler : CompilerNarrowedBy s.compiler o.compiler

section Narrowed

variable {s o r s₁ s₂ : Spec} {ch : Bool}

theorem NarrowedBy.self (o : Spec) : o.NarrowedBy o :=
  ⟨nameMeets_refl _, Or.inl rfl, fun r hr => ⟨r, hr, rfl, Or.inl rfl⟩⟩

theorem NarrowedBy.of_merge (hs : s.PartWellFormed) (h : s.merge o = .ok (r, ch)) :
    r.NarrowedBy o := by
  obtain ⟨n, v, c, m, deps, rfl, ⟨_, hn⟩, ⟨_, hv⟩, ⟨_, hc⟩, -⟩ := merge_eq_ok h
  exact ⟨(nameMeets_mergeName hn).2,
    Or.inr ⟨s.versions, hs.versions, (Version.Constraint.constrain_eq_ok_iff.1 hv).1⟩,
    compilerNarrowedBy_mergeCompiler hs.compiler hc⟩

/-- A part narrowed by `o` and merged with `o` once more is settled once its dependencies are:
merging it with `o` again reports no change and gives an equal spec. -/
theorem NarrowedBy.settles (hs : s₁.PartWellFormed) (ho : o.PartWellFormed)
    (hn : s₁.NarrowedBy o) (h₂ : s₁.merge o = .ok (s₂, ch))
    (hd : ∃ ds, mergeDeps s₂.dependencies o.dependencies = .ok (ds, false) ∧
      beqList ds s₂.dependencies = true) :
    ∃ s₃, s₂.merge o = .ok (s₃, false) ∧ (s₃ == s₂) = true := by
  have hs₂ := (merge_partWellFormed hs ho h₂).1
  obtain ⟨n, v, c, m, deps, rfl, ⟨_, hn'⟩, ⟨_, hv⟩, ⟨_, hc⟩, ⟨_, hm⟩, -⟩ := merge_eq_ok h₂
  obtain ⟨ds, hds, hdb⟩ := hd
  have hname := mergeName_of_nameMeets (nameMeets_mergeName hn').2
  obtain ⟨v₃, hv₃, hvb⟩ :=
    hn.versions.settles ho.versions (Version.Constraint.constrain_eq_ok_iff.1 hv).1
  obtain ⟨c₃, hc₃, hcb⟩ := hn.compiler.settles ho.compiler hc
  -- the merged settings absorb those of `o`
  have hm₃ : m.constrain o.variants o.concrete = .ok (m, false) := by
    rw [ho.not_concrete] at hm ⊢
    exact Variant.Settings.constrain_of_absorbs hs₂.variants.ascend ho.variants.ascend
      (Variant.Settings.absorbs_constrain hs.variants.ascend ho.variants hm)
  have hv₃' : v.constrain o.versions = .ok (v₃, false) :=
    Version.Constraint.constrain_eq_ok_iff.2 ⟨hv₃, by rw [hvb]; rfl⟩
  refine ⟨_, merge_of_fields hname hv₃' hc₃ hm₃ hds, ?_⟩
  exact beq_of_parts rfl hvb hcb rfl rfl hdb

/-- A dependency narrowed by `d` and merged with `d` once more is settled. -/
theorem DepWellFormed.merge_settles (hs : s₁.DepWellFormed) (hd : o.DepWellFormed)
    (hn : s₁.NarrowedBy o) (h₂ : s₁.merge o = .ok (s₂, ch)) :
    ∃ s₃, s₂.merge o = .ok (s₃, false) ∧ (s₃ == s₂) = true := by
  have hflat := (merge_depWellFormed hs hd h₂).1.flat
  exact hn.settles hs.part hd.part h₂
    ⟨[], by rw [hflat, hd.flat, mergeDeps_nil], by rw [hflat]; rfl⟩

end Narrowed

/-! ## Dependencies -/

section Deps

variable {ds ds₁ ds₂ os : List Spec} {c₁ c₂ : Bool}

/-- Merging dependencies of distinct names, each of which merges into the dependency of its name
with no change and an equal result, changes nothing and gives equal dependencies. -/
theorem mergeDeps_settled (hos : ∀ d ∈ os, d.name.isSome) (hnd : (os.map (·.name)).Nodup)
    (hset : ∀ d ∈ os, ∀ n, d.name = some n → ∃ e e', depOf ds n = some e ∧
      merge e d = .ok (e', false) ∧ (e' == e) = true) :
    ∃ r, mergeDeps ds os = .ok (r, false) ∧ beqList r ds = true := by
  induction os generalizing ds with
  | nil => exact ⟨ds, mergeDeps_nil ds, beqList_self ds⟩
  | cons d rest ih =>
    obtain ⟨k, hk⟩ := Option.isSome_iff_exists.1 (hos d List.mem_cons_self)
    rw [List.map_cons, List.nodup_cons] at hnd
    obtain ⟨e, e', he, hm, hb⟩ := hset d List.mem_cons_self k hk
    -- the dependency of its name sits at the first index of that name
    obtain ⟨i, hi⟩ : ∃ i, ds.findIdx? (·.name == some k) = some i := by
      refine Option.ne_none_iff_exists'.1 fun hnone => ?_
      have hfalse := List.findIdx?_eq_none_iff.1 hnone e (depOf_mem he).1
      simp [(depOf_mem he).2] at hfalse
    obtain ⟨hlt, hfind⟩ := find?_of_findIdx? hi
    obtain rfl : ds[i] = e := Option.some.inj (hfind.symm.trans he)
    have hstep := depStep_set hk hi hlt hm
    -- the dependencies after `d` have other names, so their counterparts are unchanged
    have hset' : ∀ x ∈ rest, ∀ n, x.name = some n → ∃ y y', depOf (ds.set i e') n = some y ∧
        merge y x = .ok (y', false) ∧ (y' == y) = true := fun x hx n hx' => by
      have hdn : d.name ≠ some n := fun hd => hnd.1 (hd.trans hx'.symm ▸ List.mem_map_of_mem hx)
      rw [hstep.other n hdn]
      exact hset x (List.mem_cons_of_mem _ hx) n hx'
    obtain ⟨r, hr, hrb⟩ := ih (fun x hx => hos x (List.mem_cons_of_mem _ hx)) hnd.2 hset'
    refine ⟨r, ?_, beqList_trans hrb (beqList_set hlt hb)⟩
    unfold mergeDeps
    simp only [findIdx?_named hk, hi, List.getElem?_eq_getElem hlt, hm, hr, bind, Except.bind,
      pure, Except.pure, Bool.false_or]

/-- Merging the same well-formed dependencies twice leaves them settled: a third merge changes
nothing and gives equal dependencies. -/
theorem mergeDeps_settles (hds : DepsWellFormed ds) (hos : DepsWellFormed os)
    (h₁ : mergeDeps ds os = .ok (ds₁, c₁)) (h₂ : mergeDeps ds₁ os = .ok (ds₂, c₂)) :
    ∃ r, mergeDeps ds₂ os = .ok (r, false) ∧ beqList r ds₂ = true := by
  have hnamed : ∀ d ∈ os, d.name.isSome := fun d hd => (hos.deps d hd).named
  have hds₁ := mergeDeps_wellFormed hds hos.deps h₁
  refine mergeDeps_settled hnamed hos.distinct fun d hd n hn => ?_
  have hdw := hos.deps d hd
  -- after the first merge the dependency of its name is narrowed by it
  obtain ⟨e₁, he₁, hn₁⟩ : ∃ e₁, depOf ds₁ n = some e₁ ∧ e₁.NarrowedBy d := by
    rcases (mergeDeps_depOf hnamed hos.distinct h₁ n).2 d hd hn with
      ⟨e, e', c, he, hm, he'⟩ | ⟨-, hd'⟩
    · exact ⟨e', he', .of_merge (hds.deps e (depOf_mem he).1).part hm⟩
    · exact ⟨d, hd', .self d⟩
  -- and the second merge merged it with `d` once more
  rcases (mergeDeps_depOf hnamed hos.distinct h₂ n).2 d hd hn with
    ⟨e, e₂, c, he, hm, he₂⟩ | ⟨hnone, -⟩
  · cases he₁.symm.trans he
    obtain ⟨e₃, hm₃, hb⟩ := (hds₁.deps e₁ (depOf_mem he₁).1).merge_settles hdw hn₁ hm
    exact ⟨e₂, e₃, he₂, hm₃, hb⟩
  · cases he₁.symm.trans hnone

end Deps

/-! ## Narrowing settles -/

/-- Narrowing a spec by another settles after two rounds: once narrowing by `b` has succeeded,
narrowing by `b` again succeeds, and a third narrowing reports no change and gives a spec equal
to the one the second left. -/
theorem constrain_settles {a b a₁ : Spec} {ch₁ : Bool} (ha : a.Reachable) (hb : b.Reachable)
    (h₁ : a.constrain b = .ok (a₁, ch₁)) :
    ∃ a₂ ch₂, a₁.constrain b = .ok (a₂, ch₂) ∧
      ∃ a₃, a₂.constrain b = .ok (a₃, false) ∧ (a₃ == a₂) = true := by
  have ha' := ha.wellFormed
  have hb' := hb.wellFormed
  have ha₁ := constrain_wellFormed ha' hb' h₁
  -- the narrowed spec satisfies `b` strictly, so loosely, so narrowing again succeeds
  have hsat := satisfies_loose ha₁ hb' (satisfies_of_constrain ha' hb' h₁).2
  obtain ⟨⟨a₂, ch₂⟩, h₂⟩ := constrain_isOk_of_satisfies ha₁ hb' hsat
  obtain ⟨-, -, c₁, hd₁⟩ := merge_partWellFormed ha'.part hb'.part h₁
  obtain ⟨-, -, c₂, hd₂⟩ := merge_partWellFormed ha₁.part hb'.part h₂
  exact ⟨a₂, ch₂, h₂, (NarrowedBy.of_merge ha'.part h₁).settles ha₁.part hb'.part h₂
    (mergeDeps_settles ha'.deps hb'.deps hd₁ hd₂)⟩

end Spec

/-! ## Narrowing given specs

Reading and narrowing sort ranges with a merge sort and drop repeated ones with a recursion on
two elements; neither reduces by evaluation. On ranges already in order the sort does nothing,
and dropping repeated ranges is `List.destutter`, which does reduce. -/

theorem Version.Range.any_join {r : Version.Range} (h : r.Ordered) :
    Version.Range.any.join r = some r := by
  have hlo : ∀ x, Version.Range.lowerJoin none x = x := fun x => by cases x <;> rfl
  have hhi : ∀ x, Version.Range.upperJoin none x = x := fun x => by cases x <;> rfl
  rw [Version.Range.join_eq]
  show Version.Range.ofLimits (Version.Range.lowerJoin none _) (Version.Range.upperJoin none _) = _
  rw [hlo, hhi, Version.Range.ofLimits_limits h]

namespace Version.Constraint

theorem dedup_eq_destutter (l : List Version.Range) :
    dedup l = l.destutter fun a b => (a == b) = false := by
  fun_induction dedup l with
  | case1 a b rest hab ih => simp [ih, List.destutter, hab]
  | case2 a b rest hab ih => simp [ih, List.destutter, hab]
  | case3 rs h =>
    -- fewer than two ranges
    rcases rs with _ | ⟨_, _ | ⟨_, _⟩⟩
    · rfl
    · rfl
    · exact absurd rfl (h _ _ _)

theorem normalize_of_sorted {rs : List Version.Range} (hany : (rs.any fun r => r == .any) = false)
    (hs : rs.Pairwise fun a b => compareRanges a b != .gt) :
    normalize rs = ⟨rs.destutter fun a b => (a == b) = false⟩ := by
  rw [normalize, if_neg (by rw [hany]; decide), List.mergeSort_of_pairwise hs, dedup_eq_destutter]

theorem intersection_of_sorted {a b : Version.Constraint} (hne : joins a.ranges b.ranges ≠ [])
    (hany : ((joins a.ranges b.ranges).any fun r => r == .any) = false)
    (hs : (joins a.ranges b.ranges).Pairwise fun a b => compareRanges a b != .gt) :
    a.intersection b = some ⟨(joins a.ranges b.ranges).destutter fun a b => (a == b) = false⟩ := by
  rw [intersection_eq_ofRanges, ofRanges?, if_neg (by simpa using hne), normalize_of_sorted hany hs]

/-- Every version is the identity of narrowing. -/
theorem any_intersection {c : Version.Constraint} (hc : c.WellFormed) :
    any.intersection c = some c := by
  have hj : joins any.ranges c.ranges = c.ranges := by
    simp only [joins, any, List.flatMap_cons, List.flatMap_nil, List.append_nil]
    rw [List.filterMap_congr fun y hy => Version.Range.any_join (hc.proper y hy).ordered,
      List.filterMap_some]
  rw [intersection_eq_ofRanges, hj, ofRanges?, if_neg (by simpa using hc.ranges_ne_nil), hc.normal]

end Version.Constraint

namespace Spec

/-- Narrowing a spec that gives only a name and versions by another of the same name narrows
the versions. -/
theorem constrain_named_versions {n : String} {c d j : Version.Constraint}
    (h : c.intersection d = some j) :
    ({ name := some n, versions := c } : Spec).constrain { name := some n, versions := d } =
      .ok ({ name := some n, versions := j }, !(j == c)) := by
  have hm := @merge_of_fields { name := some n, versions := c } { name := some n, versions := d }
    _ _ _ _ _ _ _ _ _ _ (mergeName_of_nameMeets (nameMeets_refl _))
    (Version.Constraint.constrain_eq_ok_iff.2 ⟨h, rfl⟩) rfl rfl (mergeDeps_nil [])
  simpa [constrain] using hm

theorem parsed_constrain_settles : ∃ a b a₁ ch₁, parse "x" = .ok a ∧
    parse "x@1:5,3:8" = .ok b ∧ a.constrain b = .ok (a₁, ch₁) ∧
    ∃ a₂ ch₂, a₁.constrain b = .ok (a₂, ch₂) ∧
      ∃ a₃, a₂.constrain b = .ok (a₃, false) ∧ (a₃ == a₂) = true := by
  have ha : parse "x" = .ok { name := some "x" } := rfl
  have hb : parse "x@1:5,3:8" = .ok { name := some "x", versions := (Version.Constraint.normalize
      [.between ⟨"1", [.num 1]⟩ ⟨"5", [.num 5]⟩, .between ⟨"3", [.num 3]⟩ ⟨"8", [.num 8]⟩]) } := rfl
  have h₁ : Spec.constrain { name := some "x" } _ = _ :=
    constrain_named_versions (Version.Constraint.any_intersection (parse_wellFormed hb).part.versions)
  exact ⟨_, _, _, _, ha, hb, h₁, constrain_settles (.parsed ha) (.parsed hb) h₁⟩

/-- One round is not enough: narrowing `x` by `x@1:5,3:8` changes it, and narrowing the result
by `x@1:5,3:8` changes it again, adding `3:5`, the join of the two ranges. -/
theorem constrain_again_changes : ∃ a b a₁ a₂, parse "x" = .ok a ∧ parse "x@1:5,3:8" = .ok b ∧
    a.constrain b = .ok (a₁, true) ∧ a₁.constrain b = .ok (a₂, true) ∧ (a₂ == a₁) = false := by
  have ha : parse "x" = .ok { name := some "x" } := rfl
  have hb : parse "x@1:5,3:8" = .ok { name := some "x", versions := (Version.Constraint.normalize
      [.between ⟨"1", [.num 1]⟩ ⟨"5", [.num 5]⟩, .between ⟨"3", [.num 3]⟩ ⟨"8", [.num 8]⟩]) } := rfl
  -- the two ranges are in order, so they are the versions read
  rw [Version.Constraint.normalize_of_sorted (by decide +kernel) (by decide +kernel)] at hb
  exact ⟨_, _, _, _, ha, hb,
    constrain_named_versions (Version.Constraint.any_intersection (parse_wellFormed hb).part.versions),
    constrain_named_versions (Version.Constraint.intersection_of_sorted (by decide +kernel)
      (by decide +kernel) (by decide +kernel)), by decide +kernel⟩

end Spec

end BuildSpec
