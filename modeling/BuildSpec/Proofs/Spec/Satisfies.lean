import BuildSpec.Proofs.Spec.Merge

/-!
# Narrowing and satisfaction

`Spec.satisfies` asks of a spec's own part (`satisfiesPart`: its name, versions, compiler and
settings) and of its dependencies, each met by the dependency of its name (`satisfies_eq`). A
well-formed part satisfies itself strictly (`satisfiesPart_refl`), a merge of two parts
satisfies both strictly (`satisfiesPart_merge`), and a part that loosely satisfies another
merges with it (`merge_isOk_of_satisfiesPart`).

Dependencies are read by name (`depOf`). Merging one named dependency merges it into the first
of its name, or appends it, and leaves every other name alone (`DepStep`). So merging
dependencies of distinct names holds, for each of their names, a merge or the dependency itself,
and for every other name what was there (`mergeDeps_depOf`), and it succeeds when each merges
into the dependency of its name (`mergeDeps_isOk`). Together: narrowing a spec by one it loosely
satisfies succeeds, and a narrowed spec strictly satisfies both specs it was made from
(`constrain_satisfies`).
-/

namespace BuildSpec

namespace Version.Constraint

/-- A well-formed constraint holds some version. -/
theorem WellFormed.exists_contains {c : Version.Constraint} (h : c.WellFormed) :
    ∃ v, c.contains v = true := by
  obtain ⟨r, hr⟩ := List.exists_mem_of_ne_nil _ h.ranges_ne_nil
  obtain ⟨v, hv⟩ := Version.Range.exists_contains_of_ofLimits
    (Version.Range.ofLimits_limits (h.proper r hr).ordered)
  exact ⟨v, List.any_eq_true.2 ⟨r, hr, hv⟩⟩

/-- A well-formed constraint within another overlaps it. -/
theorem overlaps_of_isSubset {a b : Version.Constraint} (ha : a.WellFormed)
    (h : a.isSubset b = true) : a.overlaps b = true := by
  obtain ⟨v, hv⟩ := ha.exists_contains
  rw [overlaps, Option.isSome_iff_ne_none]
  intro hnone
  exact intersection_eq_none_iff.1 hnone v ⟨hv, contains_of_isSubset h hv⟩

end Version.Constraint

namespace Spec

/-! ## The parts a spec is checked on -/

/-- Does the name `n` meet the name `o` asks for. -/
def nameMeets (n o : Option String) : Bool :=
  match o with
  | some k => n == some k
  | none => true

/-- Does the compiler `c` meet the compiler `o` asks for; a missing one only loosely. -/
def compilerMeets (c o : Option Compiler) (strict : Bool) : Bool :=
  match c, o with
  | _, none => true
  | none, some _ => !strict
  | some l, some r => l.satisfies r strict

/-- Does `s` meet the constraints `o` places on its own part: the name, the versions, the
compiler and the variant settings. -/
def satisfiesPart (s o : Spec) (strict : Bool) : Bool :=
  nameMeets s.name o.name &&
  (if strict then s.versions.isSubset o.versions else s.versions.overlaps o.versions) &&
  compilerMeets s.compiler o.compiler strict &&
  s.variants.satisfies o.variants (strict || s.concrete)

theorem satisfies_eq (s o : Spec) (strict : Bool) :
    s.satisfies o strict = (s.satisfiesPart o strict && s.satisfiesDeps o.dependencies strict) := by
  obtain ⟨n, v, m, c, d, k⟩ := o
  rfl

theorem satisfies_of_flat {s o : Spec} {strict : Bool} (hd : o.dependencies = []) :
    s.satisfies o strict = s.satisfiesPart o strict := by
  rw [satisfies_eq, hd]
  simp [satisfiesDeps]

/-! ## Names -/

section Names

variable {a b c n : Option String} {ch : Bool}

theorem nameMeets_refl (n : Option String) : nameMeets n n = true := by
  cases n <;> simp [nameMeets]

theorem nameMeets_mergeName (h : mergeName a b = .ok (n, ch)) :
    nameMeets n a = true ∧ nameMeets n b = true := by
  obtain ⟨hagree, rfl⟩ := mergeName_eq_some_iff.1 (map_fst_toOption_eq_some.2 ⟨ch, h⟩)
  cases a <;> cases b <;> simp_all [nameMeets]

theorem mergeName_isOk (h : nameMeets a b = true) : ∃ r, mergeName a b = .ok r := by
  have hagree : ∀ x ∈ a, ∀ y ∈ b, x = y := by
    cases b <;> simp_all [nameMeets]
  obtain ⟨ch, h'⟩ := map_fst_toOption_eq_some.1 (mergeName_eq_some_iff.2 ⟨hagree, rfl⟩)
  exact ⟨_, h'⟩

end Names

/-! ## Compilers -/

section Compilers

variable {a b c : Option Compiler} {ch : Bool}

theorem compilerMeets_refl (hc : CompilerWellFormed c) : compilerMeets c c true = true := by
  rcases c with _ | l
  · rfl
  · simp [compilerMeets, Compiler.satisfies, Version.Constraint.isSubset_self (hc l rfl).2]

/-- Narrowing a compiler succeeds only for the same compiler. -/
theorem Compiler.name_eq_of_constrain {l r k : Compiler} (h : l.constrain r = .ok (k, ch)) :
    l.name = r.name := by
  by_contra hne
  have h' := Compiler.constrain_toOption l r
  simp [h, Except.toOption, hne] at h'

theorem compilerMeets_mergeCompiler (ha : CompilerWellFormed a) (hb : CompilerWellFormed b)
    (h : mergeCompiler a b = .ok (c, ch)) :
    compilerMeets c a true = true ∧ compilerMeets c b true = true := by
  rcases a with _ | l <;> rcases b with _ | r
  · cases h
    exact ⟨rfl, rfl⟩
  · cases h
    exact ⟨rfl, compilerMeets_refl hb⟩
  · cases h
    exact ⟨compilerMeets_refl ha, rfl⟩
  · obtain ⟨⟨k, ch'⟩, hk, h⟩ := except_bind_eq_ok.1 h
    cases except_pure_eq_ok.1 h
    obtain ⟨hname, hj⟩ := Compiler.constrain_eq_ok hk
    have hlr := Compiler.name_eq_of_constrain hk
    simp only [compilerMeets, Compiler.satisfies, if_true, Bool.and_eq_true, beq_iff_eq]
    exact ⟨⟨hname, Version.Constraint.intersection_isSubset_left hj⟩,
      ⟨hname.trans hlr, Version.Constraint.intersection_isSubset_right hj⟩⟩

theorem mergeCompiler_isOk (h : compilerMeets a b false = true) : ∃ r, mergeCompiler a b = .ok r := by
  rcases a with _ | l <;> rcases b with _ | r
  · exact ⟨_, rfl⟩
  · exact ⟨_, rfl⟩
  · exact ⟨_, rfl⟩
  · simp only [compilerMeets, Compiler.satisfies, Bool.false_eq_true, if_false, Bool.and_eq_true,
      beq_iff_eq, Version.Constraint.overlaps, Option.isSome_iff_exists] at h
    obtain ⟨hname, j, hj⟩ := h
    refine ⟨(some { l with versions := j }, !(j == l.versions)), ?_⟩
    simp [mergeCompiler, Compiler.constrain, hname, hj, bind, Except.bind, pure, Except.pure]

end Compilers

/-! ## Parts -/

section Parts

variable {r s o : Spec} {ch : Bool}

/-- A well-formed part satisfies itself strictly. -/
theorem satisfiesPart_refl (hs : s.PartWellFormed) : s.satisfiesPart s true = true := by
  simp [satisfiesPart, nameMeets_refl, Version.Constraint.isSubset_self hs.versions,
    compilerMeets_refl hs.compiler, Variant.Settings.satisfies_self hs.variants.ascend]

/-- A merge of two parts satisfies both strictly. -/
theorem satisfiesPart_merge (hs : s.PartWellFormed) (ho : o.PartWellFormed)
    (h : s.merge o = .ok (r, ch)) : r.satisfiesPart s true = true ∧ r.satisfiesPart o true = true := by
  obtain ⟨n, v, c, m, deps, rfl, ⟨_, hn⟩, ⟨_, hv⟩, ⟨_, hc⟩, ⟨_, hm⟩, -⟩ := merge_eq_ok h
  obtain ⟨hns, hno⟩ := nameMeets_mergeName hn
  have hj := (Version.Constraint.constrain_eq_ok_iff.1 hv).1
  obtain ⟨hcs, hco⟩ := compilerMeets_mergeCompiler hs.compiler ho.compiler hc
  rw [ho.not_concrete] at hm
  simp only [satisfiesPart, if_true, Bool.true_or, Bool.and_eq_true]
  exact ⟨⟨⟨⟨hns, Version.Constraint.intersection_isSubset_left hj⟩, hcs⟩,
      Variant.Settings.satisfies_constrain_left hs.variants.ascend ho.variants.ascend hm⟩,
    ⟨⟨⟨hno, Version.Constraint.intersection_isSubset_right hj⟩, hco⟩,
      Variant.Settings.satisfies_constrain_right hs.variants.ascend ho.variants.ascend hm⟩⟩

/-- A merge is made of its fields' merges. -/
theorem merge_of_fields {n : Option String} {v : Version.Constraint} {c : Option Compiler}
    {m : Variant.Settings} {d : List Spec} {c₁ c₂ c₃ c₄ c₅ : Bool}
    (hn : mergeName s.name o.name = .ok (n, c₁)) (hv : s.versions.constrain o.versions = .ok (v, c₂))
    (hc : mergeCompiler s.compiler o.compiler = .ok (c, c₃))
    (hm : s.variants.constrain o.variants o.concrete = .ok (m, c₄))
    (hd : mergeDeps s.dependencies o.dependencies = .ok (d, c₅)) :
    s.merge o = .ok
      ({ s with name := n, versions := v, compiler := c, variants := m, dependencies := d },
        c₁ || c₂ || c₃ || c₄ || c₅) := by
  obtain ⟨oName, oVersions, oVariants, oCompiler, oDeps, oConcrete⟩ := o
  simp only [merge, hn, hv, hc, hm, hd, bind, Except.bind, pure, Except.pure]

/-- A merge succeeds when each of its fields does. -/
theorem merge_isOk_of_fields (hn : ∃ x, mergeName s.name o.name = .ok x)
    (hv : ∃ x, s.versions.constrain o.versions = .ok x)
    (hc : ∃ x, mergeCompiler s.compiler o.compiler = .ok x)
    (hm : ∃ x, s.variants.constrain o.variants o.concrete = .ok x)
    (hd : ∃ x, mergeDeps s.dependencies o.dependencies = .ok x) : ∃ x, s.merge o = .ok x := by
  obtain ⟨⟨n, c₁⟩, hn⟩ := hn
  obtain ⟨⟨v, c₂⟩, hv⟩ := hv
  obtain ⟨⟨c, c₃⟩, hc⟩ := hc
  obtain ⟨⟨m, c₄⟩, hm⟩ := hm
  obtain ⟨⟨d, c₅⟩, hd⟩ := hd
  exact ⟨_, merge_of_fields hn hv hc hm hd⟩

/-- A part that loosely satisfies another merges with it, once their dependencies do. -/
theorem merge_isOk_of_satisfiesPart (hs : s.PartWellFormed) (ho : o.PartWellFormed)
    (h : s.satisfiesPart o false = true)
    (hd : ∃ x, mergeDeps s.dependencies o.dependencies = .ok x) : ∃ x, s.merge o = .ok x := by
  simp only [satisfiesPart, Bool.false_eq_true, if_false, Bool.false_or, hs.not_concrete,
    Bool.and_eq_true, Version.Constraint.overlaps, Option.isSome_iff_exists] at h
  obtain ⟨⟨⟨hn, j, hj⟩, hc⟩, hm⟩ := h
  refine merge_isOk_of_fields (mergeName_isOk hn)
    ⟨_, Version.Constraint.constrain_eq_ok_iff.2 ⟨hj, rfl⟩⟩ (mergeCompiler_isOk hc) ?_ hd
  rw [ho.not_concrete]
  exact Variant.Settings.constrain_isOk_of_satisfies ho.variants.ascend hm

end Parts

/-! ## Dependencies by name -/

/-- The first dependency of a name. -/
def depOf (ds : List Spec) (n : String) : Option Spec := ds.find? (·.name == some n)

theorem dependency_eq_depOf (s : Spec) : s.dependency = depOf s.dependencies :=
  rfl

theorem depOf_mem {ds : List Spec} {n : String} {e : Spec} (h : depOf ds n = some e) :
    e ∈ ds ∧ e.name = some n :=
  ⟨List.mem_of_find?_eq_some h, by simpa using List.find?_some h⟩

section Lists

variable {α : Type} {p q : α → Bool} {l : List α} {i : Nat} {x e : α}

theorem find?_of_findIdx? (h : l.findIdx? p = some i) :
    ∃ hi : i < l.length, l.find? p = some l[i] := by
  induction l generalizing i with
  | nil => simp at h
  | cons a l ih =>
    rw [List.findIdx?_cons] at h
    by_cases hp : p a = true
    · simp only [hp, if_true, Option.some.injEq] at h
      subst h
      exact ⟨by simp, by simp [hp]⟩
    · simp only [hp, Bool.false_eq_true, if_false, Option.map_eq_some_iff] at h
      obtain ⟨k, hk, rfl⟩ := h
      obtain ⟨hlt, hf⟩ := ih hk
      exact ⟨by simpa using hlt, by simp [hp, hf]⟩

/-- Setting the first element a predicate holds of to another it holds of. -/
theorem find?_set_of_findIdx? (h : l.findIdx? p = some i) (hx : p x = true) :
    (l.set i x).find? p = some x := by
  induction l generalizing i with
  | nil => simp at h
  | cons a l ih =>
    rw [List.findIdx?_cons] at h
    by_cases hp : p a = true
    · simp only [hp, if_true, Option.some.injEq] at h
      subst h
      simp [hx]
    · simp only [hp, Bool.false_eq_true, if_false, Option.map_eq_some_iff] at h
      obtain ⟨k, hk, rfl⟩ := h
      simp [hp, ih hk]

/-- Setting an element another predicate fails on to one it fails on too. -/
theorem find?_set_of_not (he : l[i]? = some e) (hqe : q e = false) (hqx : q x = false) :
    (l.set i x).find? q = l.find? q := by
  induction l generalizing i with
  | nil => simp at he
  | cons a l ih =>
    cases i with
    | zero =>
      simp only [List.getElem?_cons_zero, Option.some.injEq] at he
      subst he
      simp [hqe, hqx]
    | succ k =>
      simp only [List.getElem?_cons_succ] at he
      simp [List.find?_cons, ih he]

end Lists

/-- A dependency of a list whose names are distinct is the dependency of its name. -/
theorem depOf_of_mem {ds : List Spec} {d : Spec} {n : String} (hnd : (ds.map (·.name)).Nodup)
    (hd : d ∈ ds) (hn : d.name = some n) : depOf ds n = some d := by
  induction ds with
  | nil => cases hd
  | cons a rest ih =>
    rw [List.map_cons, List.nodup_cons] at hnd
    rcases List.mem_cons.1 hd with rfl | hrest
    · simp [depOf, hn]
    · have hne : a.name ≠ some n := fun h =>
        hnd.1 (List.mem_map.2 ⟨d, hrest, hn.trans h.symm⟩)
      have hb : (a.name == some n) = false := by simpa using hne
      simp only [depOf, List.find?_cons, hb] at ih ⊢
      exact ih hnd.2 hrest

/-- Merging finds the dependency of a named spec's name. -/
theorem findIdx?_named {ds : List Spec} {d : Spec} {n : String} (hn : d.name = some n) :
    ds.findIdx? (fun e => e.name.isSome && e.name == d.name) = ds.findIdx? (·.name == some n) := by
  rw [hn]
  congr 1
  funext e
  cases e.name <;> simp

/-- A merge keeps the name of the spec merged into when it has one. -/
theorem merge_name {s o r : Spec} {ch : Bool} {n : String} (hn : s.name = some n)
    (h : s.merge o = .ok (r, ch)) : r.name = some n := by
  obtain ⟨_, _, _, _, _, rfl, ⟨_, hname⟩, -⟩ := merge_eq_ok h
  rw [mergeName_eq_ok hname, hn]
  rfl

/-- What merging one named dependency does, read by name: the dependency of its name is merged
with it, or is it when there was none, and every other name keeps its dependency. -/
structure DepStep (ds : List Spec) (d : Spec) (ds' : List Spec) : Prop where
  other : ∀ m, d.name ≠ some m → depOf ds' m = depOf ds m
  own : ∀ n, d.name = some n →
    (∃ e e' c, depOf ds n = some e ∧ merge e d = .ok (e', c) ∧ depOf ds' n = some e') ∨
      (depOf ds n = none ∧ depOf ds' n = some d)

section Step

variable {ds : List Spec} {d : Spec} {n : String}

theorem depStep_set {i : Nat} {e' : Spec} {c : Bool} (hn : d.name = some n)
    (hi : ds.findIdx? (·.name == some n) = some i) (hlt : i < ds.length)
    (hm : merge ds[i] d = .ok (e', c)) : DepStep ds d (ds.set i e') := by
  obtain ⟨_, hfind⟩ := find?_of_findIdx? hi
  have hname : ds[i].name = some n := by
    simpa using List.find?_some hfind
  have hname' : e'.name = some n := merge_name hname hm
  refine ⟨fun m hm' => ?_, fun n' hn' => ?_⟩
  · -- the set dependency and its merge both have the name `n`, not `m`
    have hnm : n ≠ m := fun h => hm' (hn.trans (congrArg some h))
    exact find?_set_of_not (List.getElem?_eq_getElem hlt) (by simp [hname, hnm])
      (by simp [hname', hnm])
  · obtain rfl : n = n' := Option.some.inj (hn.symm.trans hn')
    exact .inl ⟨ds[i], e', c, hfind, hm, find?_set_of_findIdx? hi (by simp [hname'])⟩

theorem depStep_append (hn : d.name = some n) (hi : ds.findIdx? (·.name == some n) = none) :
    DepStep ds d (ds ++ [d]) := by
  have hnone : depOf ds n = none := by
    rw [depOf, List.find?_eq_none]
    simpa using List.findIdx?_eq_none_iff.1 hi
  refine ⟨fun m hm => ?_, fun n' hn' => ?_⟩
  · simp [depOf, List.find?_append, hm]
  · obtain rfl : n = n' := Option.some.inj (hn.symm.trans hn')
    refine .inr ⟨hnone, ?_⟩
    rw [depOf, List.find?_append, ← depOf, hnone]
    simp [hn]

/-- Merging a named dependency ahead of others makes one step, then merges the others. -/
theorem mergeDeps_cons_eq_ok {rest r : List Spec} {ch : Bool} (hn : d.name = some n)
    (h : mergeDeps ds (d :: rest) = .ok (r, ch)) :
    ∃ ds', DepStep ds d ds' ∧ ∃ ch', mergeDeps ds' rest = .ok (r, ch') := by
  unfold mergeDeps at h
  rw [findIdx?_named hn] at h
  split at h
  · next i hi =>
    obtain ⟨hlt, -⟩ := find?_of_findIdx? hi
    rw [List.getElem?_eq_getElem hlt] at h
    obtain ⟨⟨e', c⟩, hm, h⟩ := except_bind_eq_ok.1 h
    obtain ⟨⟨r', c'⟩, hr, h⟩ := except_bind_eq_ok.1 h
    cases except_pure_eq_ok.1 h
    exact ⟨_, depStep_set hn hi hlt hm, _, hr⟩
  · next hi =>
    obtain ⟨⟨r', c'⟩, hr, h⟩ := except_bind_eq_ok.1 h
    cases except_pure_eq_ok.1 h
    exact ⟨_, depStep_append hn hi, _, hr⟩

/-- Merging a named dependency ahead of others succeeds when it merges into the dependency of
its name and the others merge after it. -/
theorem mergeDeps_cons_isOk (rest : List Spec) (hn : d.name = some n)
    (hm : ∀ e, depOf ds n = some e → ∃ x, merge e d = .ok x) :
    ∃ ds', DepStep ds d ds' ∧
      ((∃ x, mergeDeps ds' rest = .ok x) → ∃ x, mergeDeps ds (d :: rest) = .ok x) := by
  cases hi : ds.findIdx? (·.name == some n) with
  | some i =>
    obtain ⟨hlt, hfind⟩ := find?_of_findIdx? hi
    obtain ⟨⟨e', c⟩, he'⟩ := hm _ hfind
    refine ⟨_, depStep_set hn hi hlt he', fun hx => ?_⟩
    obtain ⟨⟨r, c'⟩, hr⟩ := hx
    unfold mergeDeps
    simp only [findIdx?_named hn, hi, List.getElem?_eq_getElem hlt, he', hr, bind, Except.bind,
      pure, Except.pure]
    exact ⟨_, rfl⟩
  | none =>
    refine ⟨_, depStep_append hn hi, fun hx => ?_⟩
    obtain ⟨⟨r, c'⟩, hr⟩ := hx
    unfold mergeDeps
    simp only [findIdx?_named hn, hi, hr, bind, Except.bind, pure, Except.pure]
    exact ⟨_, rfl⟩

end Step

/-! ## Merging dependencies -/

section Run

variable {ds os r : List Spec} {ch : Bool}

@[simp] theorem mergeDeps_nil (ds : List Spec) : mergeDeps ds [] = .ok (ds, false) := by
  simp [mergeDeps]

/-- Merging named dependencies of distinct names, read by name: a name none of them has keeps
its dependency, and the name of each holds its merge into the dependency of that name, or it
itself when there was none. -/
theorem mergeDeps_depOf (hos : ∀ d ∈ os, d.name.isSome) (hnd : (os.map (·.name)).Nodup)
    (h : mergeDeps ds os = .ok (r, ch)) (n : String) :
    ((∀ d ∈ os, d.name ≠ some n) → depOf r n = depOf ds n) ∧
      ∀ d ∈ os, d.name = some n →
        (∃ e e' c, depOf ds n = some e ∧ merge e d = .ok (e', c) ∧ depOf r n = some e') ∨
          (depOf ds n = none ∧ depOf r n = some d) := by
  induction os generalizing ds ch with
  | nil =>
    obtain ⟨rfl, -⟩ := Prod.mk.inj (Except.ok.inj ((mergeDeps_nil ds).symm.trans h))
    exact ⟨fun _ => rfl, nofun⟩
  | cons d rest ih =>
    obtain ⟨k, hk⟩ := Option.isSome_iff_exists.1 (hos d List.mem_cons_self)
    rw [List.map_cons, List.nodup_cons] at hnd
    obtain ⟨ds', hstep, ch', hr⟩ := mergeDeps_cons_eq_ok hk h
    obtain ⟨hkeep, hmerged⟩ := ih (fun x hx => hos x (List.mem_cons_of_mem _ hx)) hnd.2 hr
    -- a name of `rest` is not the name of `d`
    have hne : ∀ x ∈ rest, x.name = some n → d.name ≠ some n := fun x hx hx' hd =>
      hnd.1 (hd.trans hx'.symm ▸ List.mem_map_of_mem hx)
    refine ⟨fun hall => ?_, fun x hx hx' => ?_⟩
    · rw [hkeep fun x hx => hall x (List.mem_cons_of_mem _ hx)]
      exact hstep.other n (hall d List.mem_cons_self)
    rcases List.mem_cons.1 hx with rfl | hx
    · -- the step merged `x`, and nothing after it has its name
      have hrest : ∀ y ∈ rest, y.name ≠ some n := fun y hy hy' => hne y hy hy' hx'
      rw [hkeep hrest]
      exact hstep.own n hx'
    · rw [← hstep.other n (hne x hx hx')]
      exact hmerged x hx hx'

/-- Merging named dependencies of distinct names succeeds when each merges into the dependency
of its name. -/
theorem mergeDeps_isOk (hos : ∀ d ∈ os, d.name.isSome) (hnd : (os.map (·.name)).Nodup)
    (hm : ∀ d ∈ os, ∀ n e, d.name = some n → depOf ds n = some e → ∃ x, merge e d = .ok x) :
    ∃ x, mergeDeps ds os = .ok x := by
  induction os generalizing ds with
  | nil => exact ⟨_, mergeDeps_nil ds⟩
  | cons d rest ih =>
    obtain ⟨k, hk⟩ := Option.isSome_iff_exists.1 (hos d List.mem_cons_self)
    rw [List.map_cons, List.nodup_cons] at hnd
    obtain ⟨ds', hstep, hok⟩ :=
      mergeDeps_cons_isOk rest hk (fun e he => hm d List.mem_cons_self k e hk he)
    refine hok (ih (fun x hx => hos x (List.mem_cons_of_mem _ hx)) hnd.2 fun x hx n e hx' he => ?_)
    -- `x` comes after `d`, so the step left the dependency of its name alone
    have hdn : d.name ≠ some n := fun hd => hnd.1 (hd.trans hx'.symm ▸ List.mem_map_of_mem hx)
    rw [hstep.other n hdn] at he
    exact hm x (List.mem_cons_of_mem _ hx) n e hx' he

end Run

/-! ## Satisfying dependencies -/

theorem satisfiesDeps_false_iff {s : Spec} {os : List Spec} :
    s.satisfiesDeps os false = true ↔
      ∀ d ∈ os, ∀ e, d.name.bind (depOf s.dependencies) = some e → e.satisfies d false = true := by
  induction os with
  | nil => simp [satisfiesDeps]
  | cons d ds ih =>
    rw [satisfiesDeps, dependency_eq_depOf]
    cases hb : d.name.bind (depOf s.dependencies) <;> simp [hb, ih]

theorem satisfiesDeps_true_iff {s : Spec} {os : List Spec} :
    s.satisfiesDeps os true = true ↔
      ∀ d ∈ os, ∃ e, d.name.bind (depOf s.dependencies) = some e ∧ e.satisfies d true = true := by
  induction os with
  | nil => simp [satisfiesDeps]
  | cons d ds ih =>
    rw [satisfiesDeps, dependency_eq_depOf]
    cases hb : d.name.bind (depOf s.dependencies) <;> simp [hb, ih]

namespace DepWellFormed

variable {e d r : Spec} {ch : Bool}

theorem satisfies_refl (hd : d.DepWellFormed) : d.satisfies d true = true := by
  rw [satisfies_of_flat hd.flat]
  exact satisfiesPart_refl hd.part

/-- A merge of two dependencies satisfies both strictly. -/
theorem satisfies_merge (he : e.DepWellFormed) (hd : d.DepWellFormed)
    (h : e.merge d = .ok (r, ch)) : r.satisfies e true = true ∧ r.satisfies d true = true := by
  rw [satisfies_of_flat he.flat, satisfies_of_flat hd.flat]
  exact satisfiesPart_merge he.part hd.part h

/-- A dependency merges with one it loosely satisfies. -/
theorem merge_isOk (he : e.DepWellFormed) (hd : d.DepWellFormed)
    (h : e.satisfies d false = true) : ∃ x, e.merge d = .ok x := by
  rw [satisfies_of_flat hd.flat] at h
  refine merge_isOk_of_satisfiesPart he.part hd.part h ⟨([], false), ?_⟩
  rw [he.flat, hd.flat, mergeDeps_nil]

end DepWellFormed

/-! ## Strict satisfaction is loose satisfaction -/

theorem compilerMeets_loose {c o : Option Compiler} (hc : CompilerWellFormed c)
    (h : compilerMeets c o true = true) : compilerMeets c o false = true := by
  rcases o with _ | r
  · cases c <;> rfl
  rcases c with _ | l
  · simp [compilerMeets] at h
  simp only [compilerMeets, Compiler.satisfies, if_true, Bool.false_eq_true, if_false,
    Bool.and_eq_true] at h ⊢
  exact ⟨h.1, Version.Constraint.overlaps_of_isSubset (hc l rfl).2 h.2⟩

theorem satisfiesPart_loose {s o : Spec} (hs : s.PartWellFormed)
    (h : s.satisfiesPart o true = true) : s.satisfiesPart o false = true := by
  simp only [satisfiesPart, if_true, Bool.true_or, Bool.false_eq_true, if_false, Bool.false_or,
    hs.not_concrete, Bool.and_eq_true] at h ⊢
  obtain ⟨⟨⟨hn, hv⟩, hc⟩, hm⟩ := h
  refine ⟨⟨⟨hn, Version.Constraint.overlaps_of_isSubset hs.versions hv⟩,
    compilerMeets_loose hs.compiler hc⟩, ?_⟩
  exact Variant.Settings.satisfies_false_iff.2 fun v hv _ =>
    Variant.Settings.satisfies_true_iff.1 hm v hv

/-- A spec that strictly satisfies a well-formed one also satisfies it loosely. -/
theorem satisfies_loose {s o : Spec} (hs : s.WellFormed) (ho : o.WellFormed)
    (h : s.satisfies o true = true) : s.satisfies o false = true := by
  rw [satisfies_eq, Bool.and_eq_true, satisfiesDeps_true_iff] at h
  rw [satisfies_eq, Bool.and_eq_true, satisfiesDeps_false_iff]
  refine ⟨satisfiesPart_loose hs.part h.1, fun d hd e he => ?_⟩
  obtain ⟨e', he', hsat⟩ := h.2 d hd
  cases he.symm.trans he'
  obtain ⟨n, -, hn⟩ := Option.bind_eq_some_iff.1 he
  have hew := hs.deps.deps e (depOf_mem hn).1
  rw [satisfies_of_flat (ho.deps.deps d hd).flat] at hsat ⊢
  exact satisfiesPart_loose hew.part hsat

/-! ## Narrowing satisfies both sides -/

/-- Narrowing a spec by one it loosely satisfies succeeds. -/
theorem constrain_isOk_of_satisfies {a b : Spec} (ha : a.WellFormed) (hb : b.WellFormed)
    (h : a.satisfies b false = true) : ∃ r, a.constrain b = .ok r := by
  have hbn : ∀ d ∈ b.dependencies, d.name.isSome := fun d hd => (hb.deps.deps d hd).named
  rw [satisfies_eq, Bool.and_eq_true, satisfiesDeps_false_iff] at h
  refine merge_isOk_of_satisfiesPart ha.part hb.part h.1
    (mergeDeps_isOk hbn hb.deps.distinct fun d hd n e hn he => ?_)
  -- `e` is the dependency of `a` that `d` is checked against
  have hsat : e.satisfies d false = true := h.2 d hd e (by rw [hn]; exact he)
  exact (ha.deps.deps e (depOf_mem he).1).merge_isOk (hb.deps.deps d hd) hsat

/-- A narrowed spec strictly satisfies both specs it was made from. -/
theorem satisfies_of_constrain {a b r : Spec} {ch : Bool} (ha : a.WellFormed)
    (hb : b.WellFormed) (h : a.constrain b = .ok (r, ch)) :
    r.satisfies a true = true ∧ r.satisfies b true = true := by
  have hbn : ∀ d ∈ b.dependencies, d.name.isSome := fun d hd => (hb.deps.deps d hd).named
  obtain ⟨hpa, hpb⟩ := satisfiesPart_merge ha.part hb.part h
  obtain ⟨-, -, c, hdeps⟩ := merge_partWellFormed ha.part hb.part h
  have hr := mergeDeps_depOf hbn hb.deps.distinct hdeps
  rw [satisfies_eq, satisfies_eq, hpa, hpb, Bool.true_and, Bool.true_and, satisfiesDeps_true_iff,
    satisfiesDeps_true_iff]
  constructor
  · -- a dependency of `a` is kept, or merged with the one of its name in `b`
    intro d hd
    have hdw := ha.deps.deps d hd
    obtain ⟨n, hn⟩ := Option.isSome_iff_exists.1 hdw.named
    have hdn := depOf_of_mem ha.deps.distinct hd hn
    rw [hn, Option.bind_some]
    by_cases hin : ∃ d' ∈ b.dependencies, d'.name = some n
    · obtain ⟨d', hd', hn'⟩ := hin
      rcases (hr n).2 d' hd' hn' with ⟨e, e', c', he, hm, he'⟩ | ⟨hnone, -⟩
      · cases hdn.symm.trans he
        exact ⟨e', he', (hdw.satisfies_merge (hb.deps.deps d' hd') hm).1⟩
      · cases hdn.symm.trans hnone
    · simp only [not_exists, not_and] at hin
      rw [(hr n).1 hin]
      exact ⟨d, hdn, hdw.satisfies_refl⟩
  · -- a dependency of `b` was merged into the one of its name in `a`, or appended
    intro d hd
    have hdw := hb.deps.deps d hd
    obtain ⟨n, hn⟩ := Option.isSome_iff_exists.1 hdw.named
    rw [hn, Option.bind_some]
    rcases (hr n).2 d hd hn with ⟨e, e', c', he, hm, he'⟩ | ⟨-, hd'⟩
    · exact ⟨e', he', ((ha.deps.deps e (depOf_mem he).1).satisfies_merge hdw hm).2⟩
    · exact ⟨d, hd', hdw.satisfies_refl⟩

/-- Narrowing a spec by one it loosely satisfies succeeds, and a narrowed spec strictly
satisfies both specs it was made from. -/
theorem constrain_satisfies {a b : Spec} (ha : a.Reachable) (hb : b.Reachable) :
    (a.satisfies b false = true → ∃ r, a.constrain b = .ok r) ∧
      ∀ r ch, a.constrain b = .ok (r, ch) →
        r.satisfies a true = true ∧ r.satisfies b true = true :=
  ⟨constrain_isOk_of_satisfies ha.wellFormed hb.wellFormed,
    fun _ _ => satisfies_of_constrain ha.wellFormed hb.wellFormed⟩

theorem parsed_constrain_satisfies : ∃ a b, parse "x@1:5 ^y@2:" = .ok a ∧
    parse "x@3: ^y@:4 ^z" = .ok b ∧
    (a.satisfies b false = true → ∃ r, a.constrain b = .ok r) ∧
      ∀ r ch, a.constrain b = .ok (r, ch) →
        r.satisfies a true = true ∧ r.satisfies b true = true := by
  obtain ⟨a, ha⟩ := exists_eq_ok_of_isOk (show (parse "x@1:5 ^y@2:").isOk = true by decide +kernel)
  obtain ⟨b, hb⟩ := exists_eq_ok_of_isOk (show (parse "x@3: ^y@:4 ^z").isOk = true by decide +kernel)
  exact ⟨a, b, ha, hb, constrain_satisfies (.parsed ha) (.parsed hb)⟩

end Spec

end BuildSpec
