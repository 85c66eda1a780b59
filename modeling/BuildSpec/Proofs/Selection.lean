import BuildSpec.Concretize.Select
import BuildSpec.Proofs.Expansion.Variants
import BuildSpec.Proofs.Spec.Satisfies

/-!
# Selection after a build

Selection reads three things of a package: the versions its recipe declares, cut down to those
its constraint holds; the variants the recipe declares; and the constraint itself. After a
successful build from well-formed requests (as reading text makes them), over a catalog of
recipes built one declaration at a time, the three are in the shape selection relies on (`Concretization.Selectable`,
`build_selectable`): the candidate holds its recipe's declarations, whose names ascend; the
recipe admits each setting of the constraint; and the constraint is of the package, with no
dependencies, and with a well-formed compiler and settings (`Spec.SeededAs`).

In that shape choosing the settings never meets a variant twice, so it never fails
(`selectVariants_eq_ok`), and it gives each declared variant one setting, the constraint's or
else the declaration's default (`get?_of_selectVariants`). The chosen version is declared and
held by the constraint (`selectVersion_mem`). So the selection, read as a spec of one version,
satisfies the constraint strictly (`satisfies_of_select`).
-/

namespace BuildSpec

namespace Variant.Settings

/-- Inserting settings of distinct new names one after another succeeds, keeps the names in
order, and adds exactly those settings. -/
theorem foldlM_insert {α : Type} (f : α → Setting) :
    ∀ {xs : List α} {m : Settings}, NamesAscend m.entries → (xs.map fun x => (f x).name).Nodup →
      (∀ x ∈ xs, m.contains (f x).name = false) →
      ∃ m', xs.foldlM (fun m x => m.insert (f x)) m = .ok m' ∧ NamesAscend m'.entries ∧
        m'.entries.Perm (m.entries ++ xs.map f)
  | [], m, hm, _, _ => ⟨m, rfl, hm, by simp⟩
  | x :: xs, m, hm, hnd, hfresh => by
    rw [List.map_cons, List.nodup_cons] at hnd
    have hx := hfresh x List.mem_cons_self
    have hins : m.insert (f x) = .ok ⟨put (f x) m.entries⟩ := by simp [insert, hx]
    -- the later settings are still new once `f x` is in
    have hfresh' : ∀ y ∈ xs, (⟨put (f x) m.entries⟩ : Settings).contains (f y).name = false := by
      intro y hy
      simp only [contains, List.any_eq_false, beq_iff_eq]
      intro t ht hty
      rcases mem_put ht with rfl | ht
      · exact hnd.1 (List.mem_map.2 ⟨y, hy, hty.symm⟩)
      · exact contains_eq_false (hfresh y (List.mem_cons_of_mem _ hy)) t ht hty
    obtain ⟨m', hm', hasc, hp⟩ := foldlM_insert f (namesAscend_put _ hm) hnd.2 hfresh'
    refine ⟨m', ?_, hasc, ?_⟩
    · simp only [List.foldlM_cons, hins, bind, Except.bind]
      exact hm'
    · calc List.Perm m'.entries (put (f x) m.entries ++ xs.map f) := hp
        List.Perm _ ((f x :: m.entries) ++ xs.map f) :=
          (put_perm (contains_eq_false hx)).append_right _
        List.Perm _ (m.entries ++ (x :: xs).map f) := by simpa using List.perm_middle.symm

end Variant.Settings

namespace Spec

/-! ## The constraint seeding leaves -/

/-- A package's constraint as seeding leaves it: of the package, with no dependencies, and with
a well-formed compiler and settings. -/
structure SeededAs (n : String) (s : Spec) : Prop where
  name : s.name = some n
  flat : s.dependencies = []
  compiler : CompilerWellFormed s.compiler
  variants : s.variants.WellFormed

theorem seededAs_named (n : String) : (named n).SeededAs n :=
  ⟨rfl, rfl, (fun _ h => nomatch h), Variant.Settings.wellFormed_empty⟩

/-- Narrowing a well-formed spec of package `n` with no dependencies by another such spec gives
one more. -/
theorem constrain_flat {s o r : Spec} {ch : Bool} {n : String}
    (hs : s.WellFormed ∧ s.dependencies = []) (ho : o.WellFormed ∧ o.dependencies = [])
    (hn : s.name = some n) (h : s.constrain o = .ok (r, ch)) :
    (r.WellFormed ∧ r.dependencies = []) ∧ r.name = some n := by
  obtain ⟨-, -, c, hdeps⟩ := merge_partWellFormed hs.1.part ho.1.part h
  rw [hs.2, ho.2, mergeDeps_nil, Except.ok.injEq, Prod.mk.injEq] at hdeps
  exact ⟨⟨constrain_wellFormed hs.1 ho.1 h, hdeps.1.symm⟩, merge_name hn h⟩

/-- Seeding from well-formed seeds with no dependencies leaves each package's constraint of that
package, with no dependencies, and with a well-formed compiler and settings. -/
theorem seedSpec_seededAs {seeds : List Spec} {n : String} {sp : Spec}
    (hseeds : ∀ s ∈ seeds, s.WellFormed ∧ s.dependencies = []) (h : seedSpec seeds n = .ok sp) :
    sp.SeededAs n := by
  unfold seedSpec at h
  split at h
  case h_1 =>
    cases h
    exact seededAs_named n
  case h_2 first rest hf =>
    have hmem : ∀ t ∈ first :: rest, (t.WellFormed ∧ t.dependencies = []) ∧ t.name = some n := by
      intro t ht
      rw [← hf, List.mem_filter, beq_iff_eq] at ht
      exact ⟨hseeds t ht.1, ht.2⟩
    -- each spec the narrowing passes through is well formed, flat and of the package
    have hfold := foldlM_ok_induct
      (fun _ acc => (acc.WellFormed ∧ acc.dependencies = []) ∧ acc.name = some n)
      (hmem first List.mem_cons_self)
      (fun pre t acc acc' hpre hacc hstep => by
        cases hc : acc.constrain t with
        | error e => simp [hc, Functor.map, Except.map] at hstep
        | ok r =>
          simp only [hc, Functor.map, Except.map, Except.ok.injEq] at hstep
          subst hstep
          have ht : t ∈ rest := hpre.subset (List.mem_append_right _ (List.mem_singleton_self t))
          exact constrain_flat hacc.1 (hmem t (List.mem_cons_of_mem _ ht)).1 hacc.2 hc) h
    exact ⟨hfold.2, hfold.1.2, hfold.1.1.part.compiler, hfold.1.1.part.variants⟩

end Spec

namespace Concretization

/-! ## What a build leaves for selection -/

/-- What selection reads of the candidate `cand` of package `n` with recipe `p`, in the shape a
build leaves it. -/
structure Selectable (c : Concretization) (n : String) (cand : Candidate) (p : Package) : Prop where
  candidate : c.candidate? n = some cand
  recipe : c.catalog.get? n = some p
  wellFormed : p.WellFormed
  decls : cand.variants = p.decls
  admits : p.AdmitsSpec cand.spec
  seeded : cand.spec.SeededAs n

section Build

variable {cat : Catalog} {prefs : Prefs} {specs : List Spec} {c : Concretization}

/-- A successful build over a well-formed catalog is sound for the seeds of its requests. -/
theorem build_sound (hw : cat.WellFormed) (h : build cat prefs specs = .ok c) :
    Sound (Spec.requestSeeds specs) c ∧ c.catalog = cat := by
  simp only [build, except_bind_eq_ok] at h
  obtain ⟨c₀, hprep, hexp⟩ := h
  obtain ⟨hs₀, hcat₀⟩ := prepare_sound hw hprep
  obtain ⟨hc₀, hset₀, -⟩ := prepare_facts hprep
  obtain ⟨hs, -, hcatc⟩ := expandWith_finished _ c₀ c (hcat₀ ▸ hw) hc₀ hset₀ hs₀ hexp
  exact ⟨hs, hcatc.trans hcat₀⟩

/-- A successful build from requests that name each variant once leaves only legal settings. -/
theorem build_legal (hw : cat.WellFormed) (hk : ∀ s ∈ Spec.requestSeeds specs, s.Keyed)
    (h : build cat prefs specs = .ok c) : c.VariantsLegal := by
  obtain ⟨c₁, c₂, m, hchk, hpass, rfl⟩ := build_last_pass h
  obtain ⟨hl₁, hcat₁⟩ := hchk.variantsLegal hw hk
  have hk := hchk.checkable
  exact (pass_legal (hcat₁ ▸ hw) hk.coherent hk.settled hl₁ hpass).1.of_tables rfl rfl

/-- A build from well-formed requests (as reading text, or narrowing what it reads, makes
them), over a catalog of recipes built one declaration at a time, leaves every candidate
selectable against its recipe. -/
theorem build_selectable (hcat : ∀ p ∈ cat.recipes, p.Built) (hwf : ∀ s ∈ specs, s.WellFormed)
    (h : build cat prefs specs = .ok c) {n : String} {cand : Candidate}
    (hcand : c.candidate? n = some cand) : c.catalog = cat ∧ ∃ p, c.Selectable n cand p := by
  have hw : cat.WellFormed := fun p hp => (hcat p hp).wellFormed
  obtain ⟨hs, hcatc⟩ := build_sound hw h
  have hf := hs.candidates n cand hcand
  obtain ⟨p, hp, hdecls, -⟩ := hf.recipe
  obtain ⟨⟨p', hp', hadm⟩, -⟩ := (build_legal hw (Spec.requestSeeds_keyed hwf) h).candidate hcand
  rw [hp, Option.some.injEq] at hp'
  subst hp'
  refine ⟨hcatc, p, hcand, hp, (hcatc ▸ hw).get hp, hdecls, hadm, ?_⟩
  exact Spec.seedSpec_seededAs (Spec.requestSeeds_flat hwf) hf.spec

end Build

/-! ## Selecting a selectable package -/

section Select

variable {c : Concretization} {n : String} {cand : Candidate} {p : Package}

theorem Selectable.found_eq (hs : c.Selectable n cand p) : c.found n = .ok cand := by
  unfold found
  rw [hs.candidate]

/-- The setting chosen for a declared variant is of that variant. -/
theorem name_getD_defaultSetting (m : Variant.Settings) (d : Variant.Decl) :
    ((m.get? d.name).getD d.defaultSetting).name = d.name := by
  cases h : m.get? d.name with
  | none => rfl
  | some s => exact Variant.Settings.name_of_find? h

/-- The chosen version is one the recipe declares and the constraint holds. -/
theorem selectVersion_mem (hs : c.Selectable n cand p) {v : Version}
    (h : c.selectVersion n = .ok v) :
    (∃ pref, (v, pref) ∈ p.versions) ∧ cand.spec.versions.contains v = true := by
  obtain ⟨vs, hvs, h⟩ := except_bind_eq_ok.1 h
  -- the chosen version heads the ranked list
  have hv : v ∈ vs := by
    split at h
    · cases h
      exact List.mem_cons_self
    · cases h
  simp only [candidateVersions, hs.found_eq, hs.recipe, bind, Except.bind, pure, Except.pure,
    Except.ok.injEq] at hvs
  subst hvs
  obtain ⟨x, hx, rfl⟩ := List.mem_map.1 hv
  obtain ⟨y, hy, rfl⟩ := List.mem_map.1 (List.mem_mergeSort.1 hx)
  obtain ⟨hyp, hyc⟩ := List.mem_filter.1 hy
  exact ⟨⟨y.2, hyp⟩, hyc⟩

/-- Choosing the settings never fails: the declared variants have distinct names, so no setting
is inserted twice. The chosen settings ascend by name, one for each declaration. -/
theorem selectVariants_eq_ok (hs : c.Selectable n cand p) :
    ∃ m, c.selectVariants n = .ok m ∧ Variant.Settings.NamesAscend m.entries ∧
      m.entries.Perm (p.decls.map fun d => (cand.spec.variants.get? d.name).getD d.defaultSetting) := by
  have hnd : (p.decls.map fun d =>
      ((cand.spec.variants.get? d.name).getD d.defaultSetting).name).Nodup := by
    simpa only [name_getD_defaultSetting, List.Nodup, List.pairwise_map] using
      hs.wellFormed.decls_ascend.imp ne_of_lt
  obtain ⟨m, hm, hasc, hperm⟩ := Variant.Settings.foldlM_insert
    (fun d : Variant.Decl => (cand.spec.variants.get? d.name).getD d.defaultSetting) List.Pairwise.nil hnd
    (fun _ _ => rfl)
  refine ⟨m, ?_, hasc, by simpa using hperm⟩
  simp only [selectVariants, hs.found_eq, hs.decls, bind, Except.bind]
  exact hm

/-- Each declared variant gets its chosen setting. -/
theorem get?_of_selectVariants (hs : c.Selectable n cand p) {m : Variant.Settings}
    (h : c.selectVariants n = .ok m) {d : Variant.Decl} (hd : d ∈ p.decls) :
    m.get? d.name = some ((cand.spec.variants.get? d.name).getD d.defaultSetting) := by
  obtain ⟨m', hm', hasc, hperm⟩ := selectVariants_eq_ok hs
  rw [hm', Except.ok.injEq] at h
  subst h
  have hmem := hperm.mem_iff.2 (List.mem_map_of_mem hd)
  have := Variant.Settings.find?_of_mem hasc hmem
  rwa [name_getD_defaultSetting] at this

/-- Each setting of the constraint is the one chosen for the variant it names. -/
theorem Selectable.chosen (hs : c.Selectable n cand p) {st : Variant.Setting}
    (hst : st ∈ cand.spec.variants.entries) :
    ∃ d ∈ p.decls, d.name = st.name ∧ (cand.spec.variants.get? d.name).getD d.defaultSetting = st := by
  obtain ⟨d, hd, -⟩ := hs.admits st hst
  obtain ⟨hmem, hname⟩ := hs.wellFormed.decl_of_variant? hd
  refine ⟨d, hmem, hname, ?_⟩
  have : cand.spec.variants.get? st.name = some st :=
    Variant.Settings.find?_of_mem hs.seeded.variants.ascend hst
  rw [hname, this]
  rfl

/-- A successful selection is the chosen version and settings with the constraint's compiler. -/
theorem select_eq_ok (hs : c.Selectable n cand p) {s : Selection} (h : c.select n = .ok s) :
    ∃ v m, c.selectVersion n = .ok v ∧ c.selectVariants n = .ok m ∧
      s = ⟨n, v, m, cand.spec.compiler⟩ := by
  simp only [select, except_bind_eq_ok] at h
  obtain ⟨v, hv, m, hm, cand', hc, hpure⟩ := h
  rw [hs.found_eq, Except.ok.injEq] at hc
  subst hc
  exact ⟨v, m, hv, hm, (except_pure_eq_ok.1 hpure).symm⟩

/-- The selection, read as a spec of one version, satisfies the constraint strictly: its version
is one the constraint holds, its compiler is the constraint's, and it sets every variant the
constraint sets, to the same setting. -/
theorem satisfies_of_select (hs : c.Selectable n cand p) {s : Selection}
    (h : c.select n = .ok s) : s.toSpec.satisfies cand.spec true = true := by
  obtain ⟨v, m, hv, hm, rfl⟩ := select_eq_ok hs h
  have hname : Spec.nameMeets (some n) cand.spec.name = true := by
    rw [hs.seeded.name]
    exact Spec.nameMeets_refl _
  have hver : (Version.Constraint.exact v).isSubset cand.spec.versions = true :=
    (Version.Constraint.exact_isSubset_iff v _).2 (selectVersion_mem hs hv).2
  have hvar : m.satisfies cand.spec.variants true = true := by
    refine Variant.Settings.satisfies_true_iff.2 fun st hst => ⟨st, ?_, Variant.Setting.satisfies_refl st⟩
    obtain ⟨d, hd, hname, hchosen⟩ := hs.chosen hst
    rw [← hname, get?_of_selectVariants hs hm hd, hchosen]
  rw [Spec.satisfies_of_flat hs.seeded.flat]
  simp [Spec.satisfiesPart, Selection.toSpec, hname, hver, Spec.compilerMeets_refl hs.seeded.compiler,
    hvar]

end Select

/-! ## Selection after a build -/

/-- After a successful build from well-formed requests (as reading text, or narrowing what it
reads, makes them), over a catalog of recipes built one declaration at a time, every discovered package can have its
settings chosen, and a selection of it picks a version its recipe declares and its constraint
holds, one setting for each declared variant (the constraint's, or else the declaration's
default), and the constraint's compiler; read as a spec, the selection satisfies the
constraint strictly. -/
theorem build_select_sound {cat : Catalog} {prefs : Prefs} {specs : List Spec} {c : Concretization}
    (hcat : ∀ p ∈ cat.recipes, p.Built) (hspecs : ∀ s ∈ specs, s.WellFormed)
    (h : build cat prefs specs = .ok c) :
    ∀ n cand, c.candidate? n = some cand → ∃ p, cat.get? n = some p ∧
      (∃ m, c.selectVariants n = .ok m) ∧
      ∀ s, c.select n = .ok s →
        ((∃ pref, (s.version, pref) ∈ p.versions) ∧ cand.spec.versions.contains s.version = true) ∧
        (s.variants.entries.Perm
            (p.decls.map fun d => (cand.spec.variants.get? d.name).getD d.defaultSetting) ∧
          ∀ d ∈ p.decls,
            s.variants.get? d.name = some ((cand.spec.variants.get? d.name).getD d.defaultSetting)) ∧
        s.compiler = cand.spec.compiler ∧ s.toSpec.satisfies cand.spec true = true := by
  intro n cand hcand
  obtain ⟨hcatc, p, hsel⟩ := build_selectable hcat hspecs h hcand
  obtain ⟨m, hm, -, -⟩ := selectVariants_eq_ok hsel
  refine ⟨p, hcatc ▸ hsel.recipe, ⟨m, hm⟩, fun s hs => ?_⟩
  obtain ⟨v, m', hv, hm', rfl⟩ := select_eq_ok hsel hs
  obtain ⟨m'', hm'', -, hperm⟩ := selectVariants_eq_ok hsel
  rw [hm', Except.ok.injEq] at hm''
  subst hm''
  exact ⟨selectVersion_mem hsel hv, ⟨hperm, fun d hd => get?_of_selectVariants hsel hm' hd⟩, rfl,
    satisfies_of_select hsel hs⟩

/-- The catalog of one recipe `zlib`, at version `1.2`, with the on/off variant `shared`, off by
default. -/
def sharedZlib : Catalog :=
  ⟨[("zlib",
      { name := "zlib", versions := [(⟨"1.2", [.num 1, .num 2]⟩, false)]
        variants := [("shared", Variant.Decl.flag "shared" false "")] })]⟩

/-- The recipe of `sharedZlib` is built one declaration at a time. -/
theorem sharedZlib_built : ∀ p ∈ sharedZlib.recipes, p.Built := by
  intro p hp
  simp only [sharedZlib, Catalog.recipes, List.map_cons, List.map_nil, List.mem_cons,
    List.not_mem_nil, or_false] at hp
  subst hp
  exact .variant (d := Variant.Decl.flag "shared" false "")
    (.version ⟨"1.2", [.num 1, .num 2]⟩ false (.named "zlib" none)) rfl

/-- The recipe of `sharedZlib` is built one declaration at a time, the request `zlib +shared`
reads and builds, `zlib` is discovered and selected, and the selection is of a declared version
held by its constraint and satisfies the constraint strictly. -/
theorem sharedZlib_select_sound : (∀ p ∈ sharedZlib.recipes, p.Built) ∧
    ∃ s, Spec.parse "zlib +shared" = .ok s ∧ ∃ c, build sharedZlib {} [s] = .ok c ∧
      ∃ cand, c.candidate? "zlib" = some cand ∧ ∃ p, sharedZlib.get? "zlib" = some p ∧
        ∃ sel, c.select "zlib" = .ok sel ∧ (∃ pref, (sel.version, pref) ∈ p.versions) ∧
          sel.toSpec.satisfies cand.spec true = true := by
  -- the reading, the build, the candidate and the selection are computed
  have hok : ((Spec.parse "zlib +shared").toOption.bind fun s =>
      (build sharedZlib {} [s]).toOption.bind fun c =>
        (c.candidate? "zlib").bind fun _ => (c.select "zlib").toOption.bind fun _ => some ()) =
      some () := by
    decide +kernel
  obtain ⟨s, hs, hb⟩ := exists_eq_ok_of_toOption_bind hok
  obtain ⟨c, hc, hcs⟩ := exists_eq_ok_of_toOption_bind hb
  obtain ⟨cand, hcand, hsel⟩ := Option.bind_eq_some_iff.1 hcs
  obtain ⟨sel, hsel, -⟩ := exists_eq_ok_of_toOption_bind hsel
  obtain ⟨p, hp, -, hfacts⟩ := build_select_sound sharedZlib_built
    (List.forall_mem_singleton.2 (Spec.parse_wellFormed hs)) hc "zlib" cand hcand
  obtain ⟨⟨hver, -⟩, -, -, hsat⟩ := hfacts sel hsel
  exact ⟨sharedZlib_built, s, hs, c, hc, cand, hcand, p, hp, sel, hsel, hver, hsat⟩

end Concretization

end BuildSpec
