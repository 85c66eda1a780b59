import BuildSpec.Proofs.Variant.Legal
import BuildSpec.Proofs.Discovery.Least
import BuildSpec.Proofs.Expansion.Limit
import BuildSpec.Proofs.Spec.Reachable

/-!
# Legal variant settings in a build

A recipe admits a spec (`Package.AdmitsSpec`) when it admits each of the spec's settings. A
build checks settings twice. Seeding checks each seed against its package's recipe before
merging it into the package's candidate, and refuses a setting of an exclusive variant that
differs from the one held. Expansion checks the settings of each applicable dependency against
its target's recipe before recording it.

`VariantsLegal` is the invariant these checks keep: every candidate's spec is admitted by its
recipe, and every dependency it records is admitted by the recipe of the group it is filed
under, when that group names a package with a recipe. A merge of admitted settings is admitted
as long as the seed names each variant once (`Variant.Settings.constrain_admitted`), which every
seed of well-formed requests, such as reading text makes, does (`Spec.requestSeeds_keyed`). Seeding keeps the invariant
(`seed_legal`), and so does each step of a pass: discovering a target (`reachTarget_legal`),
recording dependencies (`expandTarget_legal`) and adding providers (`expandVirtual_legal`). So
every state the loop checks is legal (`Checked.variantsLegal`), and so is the result of a build,
one pass after such a state (`build_variants_legal`).
-/

namespace BuildSpec

/-- The recipe admits every setting of the spec. -/
def Package.AdmitsSpec (p : Package) (s : Spec) : Prop := ∀ v ∈ s.variants.entries, p.Admits v

theorem Package.admitsSpec_named (p : Package) (n : String) : p.AdmitsSpec (Spec.named n) :=
  fun _ hv => by simp [Spec.named] at hv

/-- The settings of a spec name each variant once, as a spec read from text always does. -/
def Spec.Keyed (s : Spec) : Prop := (s.variants.entries.map (·.name)).Nodup

theorem Variant.Settings.WellFormed.keyed {m : Variant.Settings} (h : m.WellFormed) :
    (m.entries.map (·.name)).Nodup :=
  List.pairwise_map.2 (h.ascend.imp ne_of_lt)

/-- The needed seeds of dependencies that have none of their own are those dependencies. -/
theorem Spec.mem_neededSeedsOf_of_flat :
    ∀ {ds : List Spec}, (∀ d ∈ ds, d.dependencies = []) →
      ∀ x ∈ Spec.neededSeedsOf ds, ∃ d ∈ ds, x = d.withoutDependencies
  | [], _ => by simp [Spec.neededSeedsOf]
  | d :: ds, h => by
    intro x hx
    have hd : d.neededSeeds = [] := by
      obtain ⟨n, v, va, c, deps, cc⟩ := d
      cases h _ List.mem_cons_self
      simp [Spec.neededSeeds, Spec.neededSeedsOf]
    simp only [Spec.neededSeedsOf, hd, List.nil_append, List.mem_cons] at hx
    rcases hx with rfl | hx
    · exact ⟨d, List.mem_cons_self, rfl⟩
    · obtain ⟨d', hd', rfl⟩ :=
        mem_neededSeedsOf_of_flat (fun d' hd' => h d' (List.mem_cons_of_mem _ hd')) x hx
      exact ⟨d', List.mem_cons_of_mem _ hd', rfl⟩

/-- Every seed of well-formed requests is well formed and has no dependencies. -/
theorem Spec.requestSeeds_flat {specs : List Spec} (h : ∀ s ∈ specs, s.WellFormed) :
    ∀ seed ∈ Spec.requestSeeds specs, seed.WellFormed ∧ seed.dependencies = [] := by
  intro seed hseed
  simp only [Spec.requestSeeds, List.mem_append, List.mem_map, List.mem_flatMap] at hseed
  rcases hseed with ⟨s, hs, rfl⟩ | ⟨s, hs, hseed⟩
  · exact ⟨⟨(h s hs).part.withDependencies [], Spec.DepsWellFormed.nil⟩, rfl⟩
  · -- a needed seed is a dependency of a request, and such a dependency has none of its own
    have hds := (h s hs).deps
    have hneeded : s.neededSeeds = Spec.neededSeedsOf s.dependencies := by
      obtain ⟨n, v, va, c, deps, cc⟩ := s
      rfl
    rw [hneeded] at hseed
    obtain ⟨d, hd, rfl⟩ :=
      mem_neededSeedsOf_of_flat (fun d hd => (hds.deps d hd).flat) seed hseed
    exact ⟨⟨(hds.deps d hd).part.withDependencies [], Spec.DepsWellFormed.nil⟩, rfl⟩

/-- Every seed of well-formed requests names each variant once. -/
theorem Spec.requestSeeds_keyed {specs : List Spec} (h : ∀ s ∈ specs, s.WellFormed) :
    ∀ seed ∈ Spec.requestSeeds specs, seed.Keyed :=
  fun seed hseed => (requestSeeds_flat h seed hseed).1.part.variants.keyed

/-- Constraining a spec constrains its settings by the other's. -/
theorem Spec.constrain_variants {s o m : Spec} {ch : Bool} (h : s.constrain o = .ok (m, ch)) :
    ∃ ch', s.variants.constrain o.variants o.concrete = .ok (m.variants, ch') := by
  obtain ⟨oName, oVersions, oVariants, oCompiler, oDeps, oConcrete⟩ := o
  unfold Spec.constrain Spec.merge at h
  obtain ⟨_, -, h⟩ := except_bind_eq_ok.1 h
  obtain ⟨_, -, h⟩ := except_bind_eq_ok.1 h
  obtain ⟨_, -, h⟩ := except_bind_eq_ok.1 h
  obtain ⟨⟨vs, ch₄⟩, hvs, h⟩ := except_bind_eq_ok.1 h
  obtain ⟨_, -, h⟩ := except_bind_eq_ok.1 h
  cases except_pure_eq_ok.1 h
  exact ⟨ch₄, hvs⟩

/-- A loop whose body only ever continues succeeds only if its body succeeds on every element. -/
theorem forIn_ok_each {α ε : Type} {f : α → Unit → Except ε (ForInStep Unit)}
    (hf : ∀ x r, f x () = .ok r → r = .yield ()) :
    ∀ l : List α, forIn l () f = .ok () → ∀ x ∈ l, ∃ r, f x () = .ok r
  | [], _ => by simp
  | y :: ys, h => by
    rw [List.forIn_cons] at h
    obtain ⟨r, hr, h⟩ := except_bind_eq_ok.1 h
    obtain rfl := hf y r hr
    intro x hx
    rcases List.mem_cons.1 hx with rfl | hx
    · exact ⟨_, hr⟩
    · exact forIn_ok_each hf ys h x hx

theorem forM_ok_each {α ε : Type} {f : α → Except ε Unit} :
    ∀ l : List α, l.forM f = .ok () → ∀ x ∈ l, f x = .ok ()
  | [], _ => by simp
  | y :: ys, h => by
    unfold List.forM at h
    obtain ⟨⟨⟩, hy, h⟩ := except_bind_eq_ok.1 h
    intro x hx
    rcases List.mem_cons.1 hx with rfl | hx
    · exact hy
    · exact forM_ok_each ys h x hx

namespace Concretization

variable {c c' : Concretization}

/-- Checking the settings of a spec against a package succeeds only when the package has a
recipe that admits them all. -/
theorem validateVariants_admits {cat : Catalog} {pkg : String} {s : Spec}
    (h : validateVariants cat pkg s = .ok ()) : ∃ p, cat.get? pkg = some p ∧ p.AdmitsSpec s := by
  unfold validateVariants at h
  split at h
  · rename_i p hp
    obtain ⟨⟨⟩, hloop, -⟩ := except_bind_eq_ok.1 h
    refine ⟨p, hp, fun v hv => ?_⟩
    -- the body continues whenever it succeeds
    obtain ⟨r, hr⟩ := forIn_ok_each (fun x r hr => by
      split at hr
      · obtain ⟨_, -, hr⟩ := except_bind_eq_ok.1 hr
        cases hr
        rfl
      · cases hr) _ hloop v hv
    split at hr
    · rename_i d hd
      obtain ⟨⟨⟩, hval, -⟩ := except_bind_eq_ok.1 hr
      exact ⟨d, hd, Variant.Decl.validate_eq_ok_iff.1 hval⟩
    · cases hr
  · cases h

/-- What merging a seed checks: the seed names a package with a recipe that admits the seed's
settings, and on an exclusive variant the package's candidate already holds, the seed agrees
with it exactly. -/
theorem mergeSpec_checks {s : Spec} (h : c.mergeSpec s = .ok c') :
    ∃ name p, s.name = some name ∧ c.catalog.get? name = some p ∧ p.AdmitsSpec s ∧
      ∀ existing, c.candidate? name = some existing → ∀ v ∈ s.variants.entries, ∀ d,
        p.variant? v.name = some d → d.exclusive = true →
        ∀ cur, existing.spec.variants.get? v.name = some cur → cur = v := by
  unfold mergeSpec at h
  split at h
  case h_2 => cases h
  rename_i name hname
  obtain ⟨⟨⟩, hval, h⟩ := except_bind_eq_ok.1 h
  obtain ⟨p, hp, hadm⟩ := validateVariants_admits (lift_eq_ok hval)
  split at h
  case h_2 => cases h
  rename_i p' hp'
  rw [hp, Option.some.injEq] at hp'
  subst hp'
  refine ⟨name, p, hname, hp, hadm, ?_⟩
  intro existing hex v hv d hd hexc cur hcur
  rw [hex] at h
  obtain ⟨⟨⟩, hloop, -⟩ := except_bind_eq_ok.1 h
  obtain ⟨r, hr⟩ := forIn_ok_each (fun x r hr => by
    split at hr
    · dsimp only at hr
      split at hr
      · obtain ⟨_, h, -⟩ := except_bind_eq_ok.1 hr
        cases h
      · cases hr
        rfl
    · cases hr
      rfl) _ hloop v hv
  dsimp only at hr
  simp only [hcur, hd, Option.any_some, hexc, Bool.true_and, bne_iff_ne, ne_eq] at hr
  split_ifs at hr with heq
  · exact heq
  · -- a differing setting of an exclusive variant stops the merge
    obtain ⟨_, h, -⟩ := except_bind_eq_ok.1 hr
    cases h

/-- A dependency filed under `t` is legal when the recipe of `t`, if there is one, admits its
settings. -/
def DependencyLegal (cat : Catalog) (t : String) (d : Dependency) : Prop :=
  ∀ q, cat.get? t = some q → q.AdmitsSpec d.spec

/-- Every candidate's spec is admitted by its recipe, and so is every dependency it records by
the recipe of the group it is filed under. -/
def VariantsLegal (c : Concretization) : Prop :=
  ∀ e ∈ c.packages, (∃ p, c.catalog.get? e.1 = some p ∧ p.AdmitsSpec e.2.spec) ∧
    ∀ g ∈ e.2.dependencies, ∀ d ∈ g.2, DependencyLegal c.catalog g.1 d

/-- Legality reads only the catalog and the candidates. -/
theorem VariantsLegal.of_tables (hl : c.VariantsLegal) (hcat : c'.catalog = c.catalog)
    (hp : c'.packages = c.packages) : c'.VariantsLegal := by
  intro e he
  rw [hcat]
  exact hl e (hp ▸ he)

theorem VariantsLegal.sameFinds (hl : c.VariantsLegal) (h : SameFinds c c') : c'.VariantsLegal :=
  hl.of_tables h.catalog_eq h.packages_eq

/-- Putting a candidate whose spec and records are legal keeps the tables legal. -/
theorem VariantsLegal.put (hl : c.VariantsLegal) {n : String} {cand : Candidate} {p : Package}
    (hcat : c'.catalog = c.catalog) (hpk : c'.packages = putSorted n cand c.packages)
    (hp : c.catalog.get? n = some p) (hs : p.AdmitsSpec cand.spec)
    (hd : ∀ g ∈ cand.dependencies, ∀ d ∈ g.2, DependencyLegal c.catalog g.1 d) :
    c'.VariantsLegal := by
  intro e he
  rw [hpk] at he
  rw [hcat]
  rcases mem_putSorted he with rfl | he
  · exact ⟨⟨p, hp, hs⟩, hd⟩
  · exact hl e he

/-- A fresh candidate holds only its package's name, so putting it keeps the tables legal. -/
theorem VariantsLegal.putNew (hl : c.VariantsLegal) {t : String} {cand : Candidate}
    (hcat : c'.catalog = c.catalog) (hpk : c'.packages = putSorted t cand c.packages)
    (hnew : newCandidate c.catalog t (Spec.named t) = .ok cand) : c'.VariantsLegal := by
  obtain ⟨p, hp, rfl⟩ := newCandidate_eq_ok hnew
  exact hl.put hcat hpk hp (p.admitsSpec_named t) (by simp)

/-- The recipe a legal state's candidate is admitted by. -/
theorem VariantsLegal.candidate (hl : c.VariantsLegal) {n : String} {cand : Candidate}
    (hcand : c.candidate? n = some cand) :
    (∃ p, c.catalog.get? n = some p ∧ p.AdmitsSpec cand.spec) ∧
      ∀ g ∈ cand.dependencies, ∀ d ∈ g.2, DependencyLegal c.catalog g.1 d :=
  hl (n, cand) (mem_of_lookup hcand)

/-! ## Seeding -/

/-- Merging a seed that names each variant once keeps the tables legal. -/
theorem mergeSpec_legal {s : Spec} (hl : c.VariantsLegal) (hk : s.Keyed)
    (h : c.mergeSpec s = .ok c') : c'.VariantsLegal := by
  obtain ⟨name, p, hname, hp, hadm, hagree⟩ := mergeSpec_checks h
  obtain ⟨name', hname', -, -, -, -, hcases⟩ := mergeSpec_cases h
  obtain rfl : name' = name := Option.some.inj (hname'.symm.trans hname)
  rcases hcases with ⟨existing, merged, ch, hex, hmerge, hsame⟩ | ⟨-, cand, hnew, hsame⟩
  · -- the merged settings are those held, constrained by the seed's
    obtain ⟨⟨p', hp', hold⟩, hdeps⟩ := hl.candidate hex
    rw [hp, Option.some.injEq] at hp'
    subst hp'
    obtain ⟨ch', hvs⟩ := Spec.constrain_variants hmerge
    have hmerged : p.AdmitsSpec merged := Variant.Settings.constrain_admitted hold hadm hk
      (hagree existing hex) hvs
    exact hl.put hsame.catalog_eq hsame.packages_eq hp hmerged hdeps
  · obtain ⟨p', hp', rfl⟩ := newCandidate_eq_ok hnew
    rw [hp, Option.some.injEq] at hp'
    subst hp'
    exact hl.put hsame.catalog_eq hsame.packages_eq hp hadm (by simp)

/-- Seeding keeps the tables legal when every seed names each variant once. -/
theorem seed_legal (hl : c.VariantsLegal) (hk : ∀ s ∈ c.leaf ++ c.needed, s.Keyed)
    (h : c.seed = .ok c') : c'.VariantsLegal := by
  simp only [seed, except_bind_eq_ok] at h
  obtain ⟨c₁, hleaf, hneeded⟩ := h
  have h₁ := foldlM_ok_induct (fun _ r => r.VariantsLegal ∧ r.needed = c.needed) ⟨hl, rfl⟩
    (by
      rintro pre s acc r hpre ⟨hl', hn⟩ hstep
      simp only [except_bind_eq_ok, except_pure_eq_ok] at hstep
      obtain ⟨c₂, hmerge, rfl⟩ := hstep
      have hs : s ∈ c.leaf := hpre.subset (by simp)
      obtain ⟨-, -, -, -, -, hn₂, -⟩ := mergeSpec_cases hmerge
      exact ⟨(mergeSpec_legal hl' (hk s (List.mem_append_left _ hs)) hmerge).of_tables rfl rfl,
        hn₂.trans hn⟩) hleaf
  rw [h₁.2] at hneeded
  refine foldlM_ok_induct (fun _ r => r.VariantsLegal) h₁.1 ?_ hneeded
  rintro pre s acc r hpre hl' hstep
  exact mergeSpec_legal hl' (hk s (List.mem_append_right _ (hpre.subset (by simp)))) hstep

/-! ## Recording dependencies -/

/-- A group after adding a dependency holds what the group of its target held before, and the
dependency itself under its target. -/
theorem mem_putDependency {t : String} {d d' : Dependency} :
    ∀ {l : List (String × List Dependency)} {g : String × List Dependency},
      g ∈ Package.putDependency t d l → d' ∈ g.2 →
        (∃ g₀ ∈ l, g₀.1 = g.1 ∧ d' ∈ g₀.2) ∨ (g.1 = t ∧ d' = d)
  | [], g, hg, hd' => by
    simp only [Package.putDependency, List.mem_singleton] at hg
    subst hg
    exact .inr ⟨rfl, List.mem_singleton.1 hd'⟩
  | (u, ds) :: rest, g, hg, hd' => by
    unfold Package.putDependency at hg
    split_ifs at hg with hlt heq hc
    · -- a new group for `t`, before `u`
      rcases List.mem_cons.1 hg with rfl | hg
      · exact .inr ⟨rfl, List.mem_singleton.1 hd'⟩
      · exact .inl ⟨g, hg, rfl, hd'⟩
    · -- the dependency is in `t`'s group already
      rcases List.mem_cons.1 hg with rfl | hg
      · exact .inl ⟨(u, ds), List.mem_cons_self, rfl, hd'⟩
      · exact .inl ⟨g, List.mem_cons_of_mem _ hg, rfl, hd'⟩
    · -- the dependency is appended to `t`'s group
      rcases List.mem_cons.1 hg with rfl | hg
      · rcases List.mem_append.1 hd' with hd' | hd'
        · exact .inl ⟨(u, ds), List.mem_cons_self, rfl, hd'⟩
        · exact .inr ⟨(beq_iff_eq.1 heq).symm, List.mem_singleton.1 hd'⟩
      · exact .inl ⟨g, List.mem_cons_of_mem _ hg, rfl, hd'⟩
    · rcases List.mem_cons.1 hg with rfl | hg
      · exact .inl ⟨_, List.mem_cons_self, rfl, hd'⟩
      · rcases mem_putDependency hg hd' with ⟨g₀, hg₀, h⟩ | h
        · exact .inl ⟨g₀, List.mem_cons_of_mem _ hg₀, h⟩
        · exact .inr h

/-- Recording dependencies keeps the candidate's spec, and each dependency in a group afterwards
was in that group before, or is one of those recorded, under its target. -/
theorem foldl_recordDependency_mem {name t : String} :
    ∀ (app : List Dependency) (cand cand' : Candidate) (g g' : Graph) (ch ch' : Bool),
      app.foldl (recordDependency name t) (cand, g, ch) = (cand', g', ch') →
      cand'.spec = cand.spec ∧ ∀ e ∈ cand'.dependencies, ∀ d ∈ e.2,
        (∃ e₀ ∈ cand.dependencies, e₀.1 = e.1 ∧ d ∈ e₀.2) ∨ (d ∈ app ∧ e.1 = d.target)
  | [], cand, cand', g, g', ch, ch', h => by
    simp only [List.foldl_nil, Prod.mk.injEq] at h
    obtain ⟨rfl, rfl, rfl⟩ := h
    exact ⟨rfl, fun e he d hd => .inl ⟨e, he, rfl, hd⟩⟩
  | d :: app, cand, cand', g, g', ch, ch', h => by
    rw [List.foldl_cons, recordDependency_eq] at h
    obtain ⟨hspec, hmem⟩ := foldl_recordDependency_mem app _ cand' _ g' _ ch' h
    refine ⟨by simp [hspec], fun e he d' hd' => ?_⟩
    rcases hmem e he d' hd' with ⟨e₁, he₁, hk, hd₁⟩ | ⟨happ, ht⟩
    · -- the group before this step held it, or this step added it
      have hadd : e₁ ∈ cand.dependencies ∨ e₁ ∈ Package.putDependency d.target d cand.dependencies := by
        unfold Candidate.addDependency at he₁
        dsimp only at he₁
        split at he₁
        · split_ifs at he₁
          · exact .inl he₁
          · exact .inr he₁
        · exact .inr he₁
      rcases hadd with he₁ | he₁
      · exact .inl ⟨e₁, he₁, hk, hd₁⟩
      · rcases mem_putDependency he₁ hd₁ with ⟨e₀, he₀, hk₀, hd₀⟩ | ⟨ht, rfl⟩
        · exact .inl ⟨e₀, he₀, hk₀.trans hk, hd₀⟩
        · exact .inr ⟨List.mem_cons_self, hk ▸ ht⟩
    · exact .inr ⟨List.mem_cons_of_mem _ happ, ht⟩

/-! ## The steps of a pass -/

/-- Discovering a target checks the settings of the applicable dependencies against the
target's recipe, and keeps the tables legal. -/
theorem reachTarget_legal {name t : String} {app : List Dependency} {new : Bool}
    (hl : c.VariantsLegal) (h : c.reachTarget name t app = .ok (c', new)) :
    c'.VariantsLegal ∧ c'.catalog = c.catalog ∧ ∀ d ∈ app, DependencyLegal c.catalog t d := by
  obtain ⟨-, hcases⟩ := reachTarget_cases h
  have htables : c'.VariantsLegal ∧ c'.catalog = c.catalog := by
    rcases hcases with ⟨-, -, hsame⟩ | ⟨-, -, -, hsame⟩ | ⟨-, -, -, cand, hnew, hsame⟩
    · exact ⟨hl.sameFinds hsame, hsame.catalog_eq⟩
    · exact ⟨hl.of_tables hsame.catalog_eq hsame.packages_eq, hsame.catalog_eq⟩
    · exact ⟨hl.putNew hsame.catalog_eq hsame.packages_eq hnew, hsame.catalog_eq⟩
  refine ⟨htables.1, htables.2, ?_⟩
  · intro d hd q hq
    by_cases hv : c.catalog.isVirtual t = true
    · rw [Catalog.get?_eq_none_of_isVirtual hv] at hq
      cases hq
    · unfold reachTarget at h
      rw [if_neg hv] at h
      obtain ⟨⟨⟩, hval, -⟩ := except_bind_eq_ok.1 h
      obtain ⟨p, hp, hadm⟩ := validateVariants_admits (lift_eq_ok (forM_ok_each app hval d hd))
      rw [hp, Option.some.injEq] at hq
      exact hq ▸ hadm

/-- Expanding one declared target of a package keeps the tables legal: what it records was
checked against the target's recipe. -/
theorem expandTarget_legal {name t : String} {s : Spec} {deps : List Dependency} {ch ch' : Bool}
    (htarget : ∀ d ∈ deps, d.target = t) (hl : c.VariantsLegal)
    (h : expandTarget name s (c, ch) (t, deps) = .ok (c', ch')) :
    c'.VariantsLegal ∧ c'.catalog = c.catalog := by
  rcases expandTarget_cases h with ⟨-, rfl, -⟩ | ⟨-, c₁, new, hreach, hrest⟩
  · exact ⟨hl, rfl⟩
  obtain ⟨hl₁, hcat₁, happ⟩ := reachTarget_legal hl hreach
  rcases hrest with ⟨-, rfl, -⟩ | ⟨cand, cand', g', hcand, hfold, rfl⟩
  · exact ⟨hl₁, hcat₁⟩
  obtain ⟨⟨p, hp, hadm⟩, hdeps⟩ := hl₁.candidate hcand
  obtain ⟨hspec, hmem⟩ := foldl_recordDependency_mem _ cand cand' _ g' _ ch' hfold
  refine ⟨hl₁.put rfl rfl hp (hspec ▸ hadm) fun e he d hd => ?_, hcat₁⟩
  rcases hmem e he d hd with ⟨e₀, he₀, hk, hd₀⟩ | ⟨happd, hkey⟩
  · exact hk ▸ hdeps e₀ he₀ d hd₀
  · -- a dependency recorded now was checked against the target it is filed under
    have hdt : d.target = t := htarget d (List.mem_filter.1 happd).1
    rw [hkey, hdt, hcat₁]
    exact happ d happd

/-- Expanding a package keeps the tables legal. -/
theorem expandPackage_legal {name : String} {ch : Bool} (hw : c.catalog.WellFormed)
    (hl : c.VariantsLegal) (h : c.expandPackage name = .ok (c', ch)) :
    c'.VariantsLegal ∧ c'.catalog = c.catalog := by
  unfold expandPackage at h
  split at h
  case h_2 => cases h
  rename_i p hp
  split at h
  case h_2 =>
    cases h
    exact ⟨hl, rfl⟩
  -- each declared target in turn, its dependencies filed under it
  refine foldlM_ok_induct (fun _ r => r.1.VariantsLegal ∧ r.1.catalog = c.catalog)
    ⟨hl.of_tables rfl rfl, rfl⟩ ?_ h
  rintro pre ⟨t, deps⟩ ⟨c₁, ch₁⟩ ⟨c₂, ch₂⟩ hpre ⟨hl₁, hcat₁⟩ hstep
  have he : (t, deps) ∈ p.dependencies := hpre.subset (by simp)
  obtain ⟨hl₂, hcat₂⟩ :=
    expandTarget_legal ((hw.get hp).dependencies_target _ he) hl₁ hstep
  exact ⟨hl₂, hcat₂.trans hcat₁⟩

/-- Expanding a virtual package keeps the tables legal: a provider's fresh candidate holds only
its name. -/
theorem expandVirtual_legal {name : String} {ch : Bool} (hv : (c.virtual? name).isSome)
    (hl : c.VariantsLegal) (h : c.expandVirtual name = .ok (c', ch)) :
    c'.VariantsLegal ∧ c'.catalog = c.catalog := by
  unfold expandVirtual at h
  -- the virtual package stays known, which is what each provider's visit needs
  refine (foldlM_ok_induct (fun _ r => (r.1.VariantsLegal ∧ r.1.catalog = c.catalog) ∧
    (r.1.virtual? name).isSome) ⟨⟨hl.of_tables rfl rfl, rfl⟩, hv⟩ ?_ h).1
  rintro - provider ⟨c₁, ch₁⟩ ⟨c₂, ch₂⟩ - ⟨⟨hl₁, hcat₁⟩, hv₁⟩ hstep
  obtain ⟨hcat, hvirt, hpk, -⟩ := addProvider_cases hv₁ hstep
  refine ⟨⟨?_, hcat.trans hcat₁⟩, (hvirt name).trans hv₁⟩
  rcases hpk with hpk | ⟨pn, cand, -, hnew, -, hpk⟩
  · exact hl₁.of_tables hcat hpk
  · exact hl₁.putNew hcat hpk hnew

/-- A pass keeps the tables legal. -/
theorem pass_legal {ch : Bool} (hw : c.catalog.WellFormed) (hc : c.Coherent) (hs : c.Settled)
    (hl : c.VariantsLegal) (h : c.pass = .ok (c', ch)) :
    c'.VariantsLegal ∧ c'.catalog = c.catalog := by
  refine pass_keeps (fun c₁ => c₁.VariantsLegal ∧ c₁.catalog = c.catalog) hc hs
    (fun _ hsame _ hl => ⟨hl.1.sameFinds hsame, hsame.catalog_eq⟩) ?_ ?_ ⟨hl, rfl⟩ h
  · rintro c₁ c₂ n ch - - - ⟨hl₁, hcat₁⟩ hexp
    obtain ⟨hl₂, hcat₂⟩ := expandPackage_legal (hcat₁ ▸ hw) hl₁ hexp
    exact ⟨hl₂, hcat₂.trans hcat₁⟩
  · rintro c₁ c₂ n ch - - - hv ⟨hl₁, hcat₁⟩ hexp
    obtain ⟨hl₂, hcat₂⟩ := expandVirtual_legal hv hl₁ hexp
    exact ⟨hl₂, hcat₂.trans hcat₁⟩

/-! ## A build -/

/-- The state a build prepares is legal when every seed names each variant once. -/
theorem prepare_legal {cat : Catalog} {prefs : Prefs} {specs : List Spec}
    (hk : ∀ s ∈ Spec.requestSeeds specs, s.Keyed) (h : prepare cat prefs specs = .ok c) :
    c.VariantsLegal := by
  simp only [prepare, except_bind_eq_ok] at h
  obtain ⟨c₁, hfile, hseed⟩ := h
  obtain ⟨hleaf, hneeded, hsame⟩ := fileRequests_seeds hfile
  -- filing the requests discovers nothing, and what seeding merges are the request seeds
  have hl₁ : c₁.VariantsLegal := fun e he => by
    rw [hsame.packages_eq] at he
    cases he
  refine seed_legal hl₁ ?_ hseed
  rw [hleaf, hneeded]
  simpa [Spec.requestSeeds] using hk

/-- Every state the loop of a build checks is legal. -/
theorem Checked.variantsLegal {cat : Catalog} {prefs : Prefs} {specs : List Spec}
    (hw : cat.WellFormed) (hk : ∀ s ∈ Spec.requestSeeds specs, s.Keyed)
    (h : Checked cat prefs specs c) : c.VariantsLegal ∧ c.catalog = cat := by
  induction h with
  | prepared hp => exact ⟨prepare_legal hk hp, (prepare_sound hw hp).2⟩
  | passed hchk hp ih =>
    obtain ⟨hl, hcat⟩ := ih
    have hk := hchk.checkable
    obtain ⟨hl', hcat'⟩ := pass_legal (hcat ▸ hw) hk.coherent hk.settled hl hp
    exact ⟨hl', hcat'.trans hcat⟩

/-- A successful build over recipes built one declaration at a time, from well-formed requests
(as reading text, or narrowing what it reads, makes them), holds only legal variant settings: every setting of a candidate's
spec names a variant its recipe declares and passes that declaration's check, and so does every
setting of each dependency it records on a package with a recipe, against that recipe. -/
theorem build_variants_legal {cat : Catalog} {prefs : Prefs} {specs : List Spec}
    (hcat : ∀ p ∈ cat.recipes, p.Built) (hspecs : ∀ s ∈ specs, s.WellFormed)
    (h : build cat prefs specs = .ok c) :
    ∀ n cand, c.candidate? n = some cand → ∃ p, cat.get? n = some p ∧
      (∀ v ∈ cand.spec.variants.entries,
        ∃ d, p.variant? v.name = some d ∧ d.validate v (some n) = .ok ()) ∧
      ∀ e ∈ cand.dependencies, ∀ q, cat.get? e.1 = some q → ∀ dep ∈ e.2,
        ∀ v ∈ dep.spec.variants.entries,
          ∃ d, q.variant? v.name = some d ∧ d.validate v (some e.1) = .ok () := by
  have hw : cat.WellFormed := fun p hp => (hcat p hp).wellFormed
  have hkeyed := Spec.requestSeeds_keyed hspecs
  obtain ⟨c₁, c₂, m, hchk, hpass, rfl⟩ := build_last_pass h
  obtain ⟨hl₁, hcat₁⟩ := hchk.variantsLegal hw hkeyed
  have hk := hchk.checkable
  obtain ⟨hl₂, hcat₂⟩ := pass_legal (hcat₁ ▸ hw) hk.coherent hk.settled hl₁ hpass
  intro n cand hcand
  rw [note_candidate?] at hcand
  obtain ⟨⟨p, hp, hadm⟩, hdeps⟩ := hl₂.candidate hcand
  rw [hcat₂, hcat₁] at hp hdeps
  refine ⟨p, hp, fun v hv => ?_, fun e he q hq dep hdep v hv => ?_⟩
  · obtain ⟨d, hd, hdv⟩ := hadm v hv
    exact ⟨d, hd, Variant.Decl.validate_eq_ok_iff.2 hdv⟩
  · obtain ⟨d, hd, hdv⟩ := hdeps e he dep hdep q hq v hv
    exact ⟨d, hd, Variant.Decl.validate_eq_ok_iff.2 hdv⟩

/-- The catalog of one recipe `lib` with the on/off variant `shared`, off by default. -/
def sharedLib : Catalog :=
  ⟨[("lib", { name := "lib", variants := [("shared", Variant.Decl.flag "shared" false "")] })]⟩

/-- The recipe of `sharedLib` is built one declaration at a time. -/
theorem sharedLib_built : ∀ p ∈ sharedLib.recipes, p.Built := by
  intro p hp
  simp only [sharedLib, Catalog.recipes, List.map_cons, List.map_nil, List.mem_cons,
    List.not_mem_nil, or_false] at hp
  subst hp
  exact .variant (d := Variant.Decl.flag "shared" false "") (.named "lib" none) rfl

/-- The recipe of `sharedLib` is built one declaration at a time, the request `lib +shared` reads
and builds, and the candidate of `lib` holds settings its recipe admits. -/
theorem sharedLib_variants_legal : (∀ p ∈ sharedLib.recipes, p.Built) ∧
    ∃ s, Spec.parse "lib +shared" = .ok s ∧ ∃ c, build sharedLib {} [s] = .ok c ∧
      ∀ cand, c.candidate? "lib" = some cand → ∃ p, sharedLib.get? "lib" = some p ∧
        ∀ v ∈ cand.spec.variants.entries,
          ∃ d, p.variant? v.name = some d ∧ d.validate v (some "lib") = .ok () := by
  -- the reading and the build are computed
  have hok : ((Spec.parse "lib +shared").toOption.bind fun s =>
      (build sharedLib {} [s]).toOption.bind fun _ => some ()) = some () := by
    decide +kernel
  obtain ⟨s, hs, hb⟩ := exists_eq_ok_of_toOption_bind hok
  obtain ⟨c, hc, -⟩ := exists_eq_ok_of_toOption_bind hb
  refine ⟨sharedLib_built, s, hs, c, hc, fun cand hcand => ?_⟩
  obtain ⟨p, hp, hvars, -⟩ := build_variants_legal sharedLib_built
    (List.forall_mem_singleton.2 (Spec.parse_wellFormed hs)) hc "lib" cand hcand
  exact ⟨p, hp, hvars⟩

end Concretization

end BuildSpec
