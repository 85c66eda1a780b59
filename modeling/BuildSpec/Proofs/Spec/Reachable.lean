import Mathlib
import BuildSpec.Proofs.Spec.WellFormed

/-!
# Specs reachable by reading and narrowing

A spec is reachable when reading some text makes it, or when narrowing one reachable spec by
another succeeds with it (`Spec.Reachable`). Every reachable spec is well formed
(`Reachable.wellFormed`): reading makes well-formed parts and merges each dependency into the
first of its name, and a merge narrows each part of a spec with lemmas already proved for
constraints and settings, keeps the first name given, and merges dependencies by name, so that
their names stay distinct.
-/

namespace BuildSpec.Spec

/-! ## Merging two specs -/

/-- What a successful merge is made of: a merged name, narrowed versions, a merged compiler,
merged settings and merged dependencies. -/
theorem merge_eq_ok {s o r : Spec} {ch : Bool} (h : merge s o = .ok (r, ch)) :
    ∃ name versions compiler variants deps,
      r = { s with name, versions, compiler, variants, dependencies := deps } ∧
      (∃ c, mergeName s.name o.name = .ok (name, c)) ∧
      (∃ c, s.versions.constrain o.versions = .ok (versions, c)) ∧
      (∃ c, mergeCompiler s.compiler o.compiler = .ok (compiler, c)) ∧
      (∃ c, s.variants.constrain o.variants o.concrete = .ok (variants, c)) ∧
      (∃ c, mergeDeps s.dependencies o.dependencies = .ok (deps, c)) := by
  obtain ⟨oName, oVersions, oVariants, oCompiler, oDeps, oConcrete⟩ := o
  unfold merge at h
  obtain ⟨⟨name, c1⟩, hname, h⟩ := except_bind_eq_ok.1 h
  obtain ⟨⟨versions, c2⟩, hversions, h⟩ := except_bind_eq_ok.1 h
  obtain ⟨⟨compiler, c3⟩, hcompiler, h⟩ := except_bind_eq_ok.1 h
  obtain ⟨⟨variants, c4⟩, hvariants, h⟩ := except_bind_eq_ok.1 h
  obtain ⟨⟨deps, c5⟩, hdeps, h⟩ := except_bind_eq_ok.1 h
  cases except_pure_eq_ok.1 h
  exact ⟨name, versions, compiler, variants, deps, rfl, ⟨_, hname⟩, ⟨_, hversions⟩,
    ⟨_, hcompiler⟩, ⟨_, hvariants⟩, ⟨_, hdeps⟩⟩

theorem mergeName_eq_ok {a b n : Option String} {ch : Bool} (h : mergeName a b = .ok (n, ch)) :
    n = a.or b := by
  unfold mergeName at h
  split at h
  · split at h
    · cases h
    · cases h
      rfl
  · cases h
    rfl
  · cases h
    simp

theorem Compiler.constrain_eq_ok {l r c : Compiler} {ch : Bool} (h : l.constrain r = .ok (c, ch)) :
    c.name = l.name ∧ l.versions.intersection r.versions = some c.versions := by
  unfold Compiler.constrain at h
  split at h
  · cases h
  · split at h
    · next j hj =>
      cases h
      exact ⟨rfl, hj⟩
    · cases h

/-- A merged compiler is one of the two, or the first narrowed by the second. -/
theorem mergeCompiler_wellFormed {a b c : Option Compiler} {ch : Bool}
    (ha : ∀ x ∈ a, IsName x.name ∧ x.versions.WellFormed)
    (hb : ∀ x ∈ b, IsName x.name ∧ x.versions.WellFormed) (h : mergeCompiler a b = .ok (c, ch)) :
    ∀ x ∈ c, IsName x.name ∧ x.versions.WellFormed := by
  unfold mergeCompiler at h
  split at h
  · next l r =>
    obtain ⟨⟨x, ch'⟩, hx, h⟩ := except_bind_eq_ok.1 h
    cases except_pure_eq_ok.1 h
    obtain ⟨hname, hj⟩ := Compiler.constrain_eq_ok hx
    obtain ⟨hl, hlv⟩ := ha l rfl
    intro y hy
    cases hy
    exact ⟨hname ▸ hl, Version.Constraint.intersection_wellFormed hlv (hb r rfl).2 hj⟩
  · cases h
    exact hb
  · cases h
    exact ha

/-- Merging well-formed parts makes a well-formed part whose name is the first one given. -/
theorem merge_partWellFormed {s o r : Spec} {ch : Bool} (hs : s.PartWellFormed)
    (ho : o.PartWellFormed) (h : merge s o = .ok (r, ch)) :
    r.PartWellFormed ∧ r.name = s.name.or o.name ∧
      ∃ c, mergeDeps s.dependencies o.dependencies = .ok (r.dependencies, c) := by
  obtain ⟨name, versions, compiler, variants, deps, rfl, ⟨_, hn⟩, ⟨_, hv⟩, ⟨_, hc⟩, ⟨_, hvar⟩,
    hdeps⟩ := merge_eq_ok h
  have hname := mergeName_eq_ok hn
  refine ⟨⟨fun n hmem => ?_, ?_, ?_, ?_, hs.not_concrete⟩, hname, hdeps⟩
  · -- the name is the first one's, or the second's when the first has none
    cases hsn : s.name with
    | some m =>
      rw [hname, hsn] at hmem
      exact hs.name n (hsn ▸ hmem)
    | none =>
      rw [hname, hsn] at hmem
      exact ho.name n hmem
  · exact Version.Constraint.constrain_wellFormed hs.versions ho.versions hv
  · exact mergeCompiler_wellFormed hs.compiler ho.compiler hc
  · exact Variant.Settings.constrain_wellFormed hs.variants ho.variants hvar

/-- Merging well-formed dependencies makes a well-formed dependency of the same name. -/
theorem merge_depWellFormed {e d r : Spec} {ch : Bool} (he : e.DepWellFormed)
    (hd : d.DepWellFormed) (h : merge e d = .ok (r, ch)) : r.DepWellFormed ∧ r.name = e.name := by
  obtain ⟨hpart, hname, c, hdeps⟩ := merge_partWellFormed he.part hd.part h
  obtain ⟨n, hn⟩ := Option.isSome_iff_exists.1 he.named
  rw [he.flat, hd.flat] at hdeps
  -- neither has dependencies, so the merge has none
  have hflat : r.dependencies = [] := by
    simp only [mergeDeps, Except.ok.injEq, Prod.mk.injEq] at hdeps
    exact hdeps.1.symm
  have hr : r.name = e.name := by rw [hname, hn]; rfl
  exact ⟨⟨hpart, by rw [hr]; exact he.named, hflat⟩, hr⟩

namespace DepsWellFormed

variable {ds : List Spec}

theorem nil : DepsWellFormed [] := ⟨nofun, List.nodup_nil⟩

/-- A dependency may take the place of one of the same name. -/
theorem set (hds : DepsWellFormed ds) {i : Nat} (hi : i < ds.length) {e : Spec}
    (he : e.DepWellFormed) (hname : e.name = ds[i].name) : DepsWellFormed (ds.set i e) := by
  refine ⟨fun x hx => ?_, ?_⟩
  · rcases List.mem_or_eq_of_mem_set hx with hx | rfl
    · exact hds.deps x hx
    · exact he
  · rw [List.map_set, hname, ← List.getElem_map (f := fun x : Spec => x.name),
      List.set_getElem_self]
    · exact hds.distinct
    · simpa using hi

/-- A dependency of a new name may be appended. -/
theorem append (hds : DepsWellFormed ds) {d : Spec} (hd : d.DepWellFormed)
    (hne : ∀ x ∈ ds, x.name ≠ d.name) : DepsWellFormed (ds ++ [d]) := by
  refine ⟨fun x hx => ?_, ?_⟩
  · rcases List.mem_append.1 hx with hx | hx
    · exact hds.deps x hx
    · rw [List.mem_singleton.1 hx]
      exact hd
  · rw [List.map_append, List.nodup_append]
    refine ⟨hds.distinct, List.nodup_singleton _, fun a ha b hb => ?_⟩
    obtain ⟨x, hx, rfl⟩ := List.mem_map.1 ha
    rw [List.map_singleton, List.mem_singleton] at hb
    exact hb ▸ hne x hx

end DepsWellFormed

/-- Merging well-formed dependencies into well-formed ones keeps them well formed: a dependency
is merged into the one of its name, or appended when none has it. -/
theorem mergeDeps_wellFormed {ds os r : List Spec} {ch : Bool} (hds : DepsWellFormed ds)
    (hos : ∀ d ∈ os, d.DepWellFormed) (h : mergeDeps ds os = .ok (r, ch)) : DepsWellFormed r := by
  induction os generalizing ds ch with
  | nil =>
    simp only [mergeDeps, Except.ok.injEq, Prod.mk.injEq] at h
    obtain ⟨rfl, -⟩ := h
    exact hds
  | cons d rest ih =>
    have hd := hos d List.mem_cons_self
    have hrest : ∀ x ∈ rest, x.DepWellFormed := fun x hx => hos x (List.mem_cons_of_mem _ hx)
    unfold mergeDeps at h
    split at h
    · next i hi =>
      obtain ⟨hlt, -, -⟩ := List.findIdx?_eq_some_iff_getElem.1 hi
      split at h
      · next e he =>
        obtain ⟨⟨e', ch₁⟩, hm, h⟩ := except_bind_eq_ok.1 h
        obtain ⟨⟨r', ch₂⟩, hr', h⟩ := except_bind_eq_ok.1 h
        cases except_pure_eq_ok.1 h
        obtain ⟨hlt', rfl⟩ := List.getElem?_eq_some_iff.1 he
        obtain ⟨he', hname⟩ := merge_depWellFormed (hds.deps _ (List.getElem_mem hlt')) hd hm
        exact ih (hds.set hlt' he' hname) hrest hr'
      · next hnone =>
        exact absurd hnone (by simp [hlt])
    · next hnone =>
      -- no dependency has its name
      have hne : ∀ x ∈ ds, x.name ≠ d.name := by
        intro x hx hxd
        have := List.findIdx?_eq_none_iff.1 hnone x hx
        simp [hxd, hd.named] at this
      obtain ⟨⟨r', ch'⟩, hr', h⟩ := except_bind_eq_ok.1 h
      cases except_pure_eq_ok.1 h
      exact ih (hds.append hd hne) hrest hr'

/-- Narrowing well-formed specs makes a well-formed spec. -/
theorem constrain_wellFormed {s o r : Spec} {ch : Bool} (hs : s.WellFormed) (ho : o.WellFormed)
    (h : s.constrain o = .ok (r, ch)) : r.WellFormed := by
  obtain ⟨hpart, -, c, hdeps⟩ := merge_partWellFormed hs.part ho.part h
  exact ⟨hpart, mergeDeps_wellFormed hs.deps ho.deps.deps hdeps⟩

/-! ## Reading and narrowing -/

/-- Reading a spec makes a well-formed spec. -/
theorem parse_wellFormed {t : String} {s : Spec} (h : parse t = .ok s) : s.WellFormed := by
  unfold parse at h
  simp only [throw, throwThe, MonadExceptOf.throw, bind, Except.bind, pure, Except.pure] at h
  split at h
  · cases h
  · split at h
    · cases h
    · split at h
      · cases h
      · next root hroot =>
        obtain ⟨hpart, hflat⟩ := readNode_flat hroot
        -- each dependency part read is merged into the one of its name, or appended
        refine foldlM_ok_induct (fun _ acc => acc.WellFormed) ⟨hpart, hflat ▸ .nil⟩ ?_ h
        intro pre part acc acc' _ hacc hstep
        split at hstep
        · cases hstep
        · next dep hdep =>
          have hd := readNode_dep hdep
          split at hstep
          · split at hstep
            · next e he =>
              split at hstep
              · cases hstep
              · next m hm =>
                cases hstep
                obtain ⟨hlt, rfl⟩ := List.getElem?_eq_some_iff.1 he
                obtain ⟨he', hname⟩ :=
                  merge_depWellFormed (hacc.deps.deps _ (List.getElem_mem hlt)) hd hm
                exact ⟨hacc.part.withDependencies _, hacc.deps.set hlt he' hname⟩
            · cases hstep
              exact hacc
          · next hnone =>
            cases hstep
            have hne : ∀ x ∈ acc.dependencies, x.name ≠ dep.name := fun x hx hxd => by
              simpa [hxd] using List.findIdx?_eq_none_iff.1 hnone x hx
            exact ⟨hacc.part.withDependencies _, hacc.deps.append hd hne⟩

/-- The specs that reading makes, and that narrowing one of them by another makes. -/
inductive Reachable : Spec → Prop
  | parsed {t : String} {s : Spec} : parse t = .ok s → Reachable s
  | constrained {a b s : Spec} {ch : Bool} : Reachable a → Reachable b →
      a.constrain b = .ok (s, ch) → Reachable s

theorem Reachable.wellFormed {s : Spec} (h : s.Reachable) : s.WellFormed := by
  induction h with
  | parsed hp => exact parse_wellFormed hp
  | constrained _ _ hc iha ihb => exact constrain_wellFormed iha ihb hc

end BuildSpec.Spec
