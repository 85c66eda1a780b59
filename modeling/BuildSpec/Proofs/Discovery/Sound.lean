import BuildSpec.Proofs.Discovery.Rules
import BuildSpec.Proofs.Expansion.Pass

/-!
# Every discovery is reached

The invariant the passes of a build keep towards `Reached` is `Sound`: every seeded package has
its candidate; every candidate is `Faithful`, that is, its package is reached and it holds its
seeded spec, its recipe's declarations and a prefix of the recipe's dependencies that may apply
to it; and every virtual package is reached.

A pass adds a virtual package or a candidate only as the target of a dependency that may apply
to a candidate's spec (`reachTarget_sound`), or as a provider of a virtual package
(`addProvider_cases`); a new candidate is never seeded, since every seeded package has one, so
its spec is its name alone. A candidate records its dependencies target by target in the
recipe's order (`Recording`), so what it has recorded stays a prefix of what applies to it. Each
step of a pass keeps `Sound` (`expandPackage_sound`, `expandVirtual_sound`), and so does a pass
(`pass_sound`).
-/

namespace BuildSpec

namespace Concretization

variable {seeds : List Spec} {c c' : Concretization}

/-- A candidate of package `n` as discovery from `seeds` makes it: `n` is reached, and the
candidate holds its seeded spec, its recipe's declarations, and a prefix of the recipe's
dependencies that may apply to it. -/
structure Faithful (cat : Catalog) (seeds : List Spec) (n : String) (cand : Candidate) : Prop where
  reached : Reached cat seeds false n
  spec : seedSpec seeds n = .ok cand.spec
  recipe : ∃ p, cat.get? n = some p ∧ cand.variants = p.decls ∧
    cand.dependencies <+: p.applicable cand.spec

/-- What the states of a build from `seeds` answer to once it is seeded: every seeded package
has its candidate, every candidate is faithful, and every virtual package is reached. -/
structure Sound (seeds : List Spec) (c : Concretization) : Prop where
  seeded : ∀ s ∈ seeds, ∀ n, s.name = some n → (c.candidate? n).isSome
  candidates : ∀ n cand, c.candidate? n = some cand → Faithful c.catalog seeds n cand
  virtuals : ∀ v, (c.virtual? v).isSome → Reached c.catalog seeds true v

/-! ## Changes that keep a state sound -/

/-- Soundness reads only the catalog, the candidates and which virtual packages there are. -/
theorem Sound.of_tables (hs : Sound seeds c) (hcat : c'.catalog = c.catalog)
    (hp : c'.packages = c.packages) (hv : ∀ v, (c'.virtual? v).isSome = (c.virtual? v).isSome) :
    Sound seeds c' where
  seeded s hs' n hn := by
    simpa [candidate?, hp] using hs.seeded s hs' n hn
  candidates n cand hcand := by
    rw [hcat]
    exact hs.candidates n cand (by simpa [candidate?, hp] using hcand)
  virtuals v hv' := by
    rw [hcat]
    exact hs.virtuals v (by rwa [← hv])

theorem Sound.sameFinds (hs : Sound seeds c) (h : SameFinds c c') : Sound seeds c' :=
  hs.of_tables h.catalog_eq h.packages_eq fun v => by simp [virtual?, h.virtuals_eq]

theorem Sound.withGraph (hs : Sound seeds c) (g : Graph) : Sound seeds { c with graph := g } :=
  hs.of_tables rfl rfl fun _ => rfl

/-- A package without a candidate in a sound state is not seeded. -/
theorem Sound.unseeded (hs : Sound seeds c) {t : String} (hnone : c.candidate? t = none) :
    ∀ s ∈ seeds, s.name ≠ some t := by
  intro s hs' hn
  have := hs.seeded s hs' t hn
  rw [hnone] at this
  cases this

/-- Putting a faithful candidate in a sound state keeps it sound. -/
theorem Sound.addCandidate (hs : Sound seeds c) {t : String} {cand : Candidate}
    (hf : Faithful c.catalog seeds t cand) :
    Sound seeds { c with packages := putSorted t cand c.packages } where
  seeded s hs' n hn := by
    simp only [candidate?, lookup_putSorted]
    split_ifs
    · rfl
    · exact hs.seeded s hs' n hn
  candidates n cand' hcand := by
    simp only [candidate?, lookup_putSorted] at hcand
    split_ifs at hcand with hn
    · cases hcand
      subst hn
      exact hf
    · exact hs.candidates n cand' hcand
  virtuals := hs.virtuals

theorem Sound.addVirtual (hs : Sound seeds c) {t : String} (hr : Reached c.catalog seeds true t) :
    Sound seeds { c with virtuals := putSorted t [] c.virtuals } where
  seeded := hs.seeded
  candidates := hs.candidates
  virtuals v hv := by
    by_cases hvt : v = t
    · subst hvt
      exact hr
    · exact hs.virtuals v (by simpa [virtual?, lookup_putSorted_of_ne hvt] using hv)

/-- A fresh candidate for a reached package that no seed names is faithful. -/
theorem Faithful.ofNew {cat : Catalog} (hw : cat.WellFormed) {t : String} {cand : Candidate}
    (hr : Reached cat seeds false t) (hun : ∀ s ∈ seeds, s.name ≠ some t)
    (hnew : newCandidate cat t (Spec.named t) = .ok cand) : Faithful cat seeds t cand := by
  obtain ⟨p, hp, rfl⟩ := newCandidate_eq_ok hnew
  exact ⟨hr, seedSpec_of_unseeded hun, p, hp, (hw.get hp).foldl_addVariant, List.nil_prefix⟩

/-- Replacing a candidate by one with the same spec and declarations that has recorded a prefix
of what applies keeps the state sound. -/
theorem Sound.replaceCandidate (hs : Sound seeds c) {n : String} {cand cand' : Candidate}
    {p : Package} (hcand : c.candidate? n = some cand) (hp : c.catalog.get? n = some p)
    (hspec : cand'.spec = cand.spec) (hvar : cand'.variants = cand.variants)
    (hpre : cand'.dependencies <+: p.applicable cand'.spec) (g : Graph) :
    Sound seeds { c with packages := putSorted n cand' c.packages, graph := g } := by
  obtain ⟨hr, hsp, p', hp', hv, -⟩ := hs.candidates n cand hcand
  rw [hp, Option.some.injEq] at hp'
  subst hp'
  exact (hs.addCandidate ⟨hr, hspec ▸ hsp, p, hp, hvar.trans hv, hpre⟩).withGraph g

/-! ## The package half of a pass -/

/-- Discovering the target of dependencies that may apply to a candidate of a sound state keeps
it sound: the target is reached through any one of them. -/
theorem reachTarget_sound (hw : c.catalog.WellFormed) (hs : Sound seeds c) {name t : String}
    {cand : Candidate} {p : Package} {deps : List Dependency} {new : Bool}
    (hcand : c.candidate? name = some cand) (hp : c.catalog.get? name = some p)
    (he : (t, deps) ∈ p.dependencies) (happ : deps.filter (·.condition.mayApply cand.spec) ≠ [])
    (h : c.reachTarget name t (deps.filter (·.condition.mayApply cand.spec)) = .ok (c', new)) :
    Sound seeds c' := by
  obtain ⟨hr, hsp, -⟩ := hs.candidates name cand hcand
  obtain ⟨d, hd⟩ := List.exists_mem_of_ne_nil _ happ
  rw [List.mem_filter] at hd
  have hreach : Reached c.catalog seeds (c.catalog.isVirtual t) t :=
    .dependency hr hp hsp he hd.1 hd.2
  rcases (reachTarget_cases h).2 with ⟨-, -, hsame⟩ | ⟨-, hv, -, hsame⟩ |
    ⟨-, hv, hnone, cand', hnew, hsame⟩
  · exact hs.sameFinds hsame
  · rw [hv] at hreach
    exact (hs.addVirtual hreach).sameFinds hsame
  · rw [hv] at hreach
    exact (hs.addCandidate (Faithful.ofNew hw hreach (hs.unseeded hnone) hnew)).sameFinds hsame

/-- The candidate a fold of `recordDependency` ends with is the one `addDependency` builds. -/
theorem foldl_recordDependency_fst {name t : String} :
    ∀ (app : List Dependency) (cand : Candidate) (g : Graph) (ch : Bool),
      (app.foldl (recordDependency name t) (cand, g, ch)).1 =
        app.foldl (fun c d => (c.addDependency d).1) cand
  | [], _, _, _ => rfl
  | d :: app, cand, g, ch => by
    rw [List.foldl_cons, recordDependency_eq, List.foldl_cons]
    exact foldl_recordDependency_fst app _ _ _

/-- The state after recording the targets `pre` of package `n`, whose candidate had recorded
nothing: sound, with `n`'s candidate, of spec `s`, holding what applies of `pre`. -/
def Recording (seeds : List Spec) (n : String) (s : Spec) (pre : List (String × List Dependency))
    (c : Concretization) : Prop :=
  Sound seeds c ∧ ∃ cand, c.candidate? n = some cand ∧ cand.spec = s ∧
    cand.dependencies = pre.filterMap (Package.applicableGroup s)

/-- One more target: its group of what applies, if any, is appended. -/
theorem Recording.step (hw : c.catalog.WellFormed) {n t : String} {s : Spec} {p : Package}
    {pre : List (String × List Dependency)} {deps : List Dependency} {ch ch' : Bool}
    (hR : Recording seeds n s pre c) (hc : c.Coherent) (hp : c.catalog.get? n = some p)
    (hpre : pre ++ [(t, deps)] <+: p.dependencies)
    (h : expandTarget n s (c, ch) (t, deps) = .ok (c', ch')) :
    Recording seeds n s (pre ++ [(t, deps)]) c' := by
  obtain ⟨hs, cand, hcand, rfl, hdeps⟩ := hR
  have he : (t, deps) ∈ p.dependencies := hpre.subset (by simp)
  have hwp := hw.get hp
  rcases expandTarget_cases h with ⟨hnil, rfl, -⟩ | ⟨hne, c₁, new, hreach, hnext⟩
  · -- nothing applies on `t`: its group is left out
    refine ⟨hs, cand, hcand, rfl, ?_⟩
    rw [List.filterMap_append, hdeps, List.filterMap_cons,
      Package.applicableGroup_of_filter_nil hnil]
    simp
  have hs₁ := reachTarget_sound hw hs hcand hp he hne hreach
  obtain ⟨hc₁, hg₁, hkeep₁, -⟩ := reachTarget_facts hc hreach
  have hcand₁ := hkeep₁ n cand hcand
  rcases hnext with ⟨hnone, -, -⟩ | ⟨cand₁, cand', g', hcand', hfold, rfl⟩
  · rw [hcand₁] at hnone
    cases hnone
  rw [hcand₁, Option.some.injEq] at hcand'
  subst hcand'
  obtain ⟨hspec', hvar', -⟩ := foldl_recordDependency _ cand cand' c₁.graph g' _ ch'
    (hc₁.dependencies_ascend _ (mem_of_lookup hcand₁)) hfold
  -- the targets recorded so far come before `t` in the recipe
  have hkeys : ∀ e ∈ cand.dependencies, e.1 < t := by
    intro e he'
    rw [hdeps] at he'
    obtain ⟨e₀, he₀, hg⟩ := List.mem_filterMap.1 he'
    rw [(Package.applicableGroup_eq_some hg).1]
    have hasc : KeysAscend (pre ++ [(t, deps)]) := hwp.dependencies_ascend.sublist hpre.sublist
    exact (List.pairwise_append.1 hasc).2.2 e₀ he₀ (t, deps) (List.mem_singleton_self _)
  have hrec : cand'.dependencies =
      cand.dependencies ++ [(t, deps.filter (·.condition.mayApply cand.spec))] := by
    have hfst : (deps.filter (·.condition.mayApply cand.spec)).foldl
        (fun c d => (c.addDependency d).1) cand = cand' := by
      rw [← foldl_recordDependency_fst _ cand c₁.graph (ch || new), hfold]
    rw [← hfst]
    exact Package.foldl_addDependency_fresh hkeys hne ((hwp.dependencies_distinct _ he).filter _)
      fun d hd => hwp.dependencies_target _ he d (List.mem_filter.1 hd).1
  have hdeps' : cand'.dependencies =
      (pre ++ [(t, deps)]).filterMap (Package.applicableGroup cand.spec) := by
    rw [hrec, hdeps, List.filterMap_append, List.filterMap_cons,
      Package.applicableGroup_of_filter hne]
    simp
  have hp₁ : c₁.catalog.get? n = some p := by rw [hg₁.catalog_eq, hp]
  refine ⟨hs₁.replaceCandidate hcand₁ hp₁ hspec' hvar' ?_ g', cand', by simp [candidate?], hspec',
    hdeps'⟩
  rw [hdeps', hspec']
  exact Package.applicable_prefix hpre

/-- Expanding a candidate that has recorded nothing keeps a state sound. -/
theorem expandPackage_sound_of_fresh (hw : c.catalog.WellFormed) (hc : c.Coherent)
    (hset : c.Settled) (hs : Sound seeds c) {name : String} {cand : Candidate} {ch : Bool}
    (hcand : c.candidate? name = some cand) (hfresh : cand.dependencies = [])
    (h : c.expandPackage name = .ok (c', ch)) : Sound seeds c' := by
  unfold expandPackage at h
  split at h
  · rename_i p hp
    rw [hcand] at h
    dsimp only at h
    have hsame : SameFinds c { c with graph := c.graph.touch name false } :=
      ⟨rfl, rfl, rfl, by simp⟩
    -- the targets are recorded in order, the candidate holding what applies of those done
    have hR := foldlM_ok_induct (fun pre r =>
        Expanding { c with graph := c.graph.touch name false } name cand pre r.1 r.2 ∧
          Recording seeds name cand.spec pre r.1)
      ⟨Expanding.start (hsame.coherent hc) (hsame.settledExcept (hset.except name))
        (by rw [hsame.candidate?_eq, hcand]) hfresh,
        hs.sameFinds hsame, cand, by rw [hsame.candidate?_eq, hcand], rfl, by simp [hfresh]⟩
      (by
        rintro pre ⟨t, deps⟩ ⟨c₁, ch₁⟩ ⟨c₂, ch₂⟩ hpre ⟨hE, hR⟩ hstep
        have hcat : c₁.catalog = c.catalog := hE.grows.catalog_eq
        exact ⟨hE.step hp hpre hstep,
          hR.step (hcat ▸ hw) hE.coherent (by rw [hcat]; exact hp) hpre hstep⟩) h
    exact hR.2.1
  · cases h

/-- Expanding a package keeps a state sound. -/
theorem expandPackage_sound (hw : c.catalog.WellFormed) (hc : c.Coherent) (hset : c.Settled)
    (hs : Sound seeds c) {name : String} {ch : Bool} (h : c.expandPackage name = .ok (c', ch)) :
    Sound seeds c' := by
  cases hcand : c.candidate? name with
  | none =>
    unfold expandPackage at h
    split at h
    · rw [hcand] at h
      cases h
      exact hs
    · cases h
  | some cand =>
    rcases hset (name, cand) (mem_of_lookup hcand) with hfresh | hclosed
    · exact expandPackage_sound_of_fresh hw hc hset hs hcand hfresh h
    · exact hs.sameFinds (expandPackage_of_closed hc hcand hclosed h).1

/-! ## The virtual half of a pass -/

@[simp] theorem linkProvider_packages (c : Concretization) (name pn : String) :
    (c.linkProvider name pn).1.packages = c.packages := by
  unfold linkProvider
  dsimp only
  split
  · split_ifs <;> rfl
  · rfl

@[simp] theorem linkProvider_catalog (c : Concretization) (name pn : String) :
    (c.linkProvider name pn).1.catalog = c.catalog := by
  unfold linkProvider
  dsimp only
  split
  · split_ifs <;> rfl
  · rfl

/-- Filing a provider under a virtual package keeps which virtual packages there are. -/
theorem linkProvider_virtual?_isSome {name pn : String} (hv : (c.virtual? name).isSome)
    (v : String) : ((c.linkProvider name pn).1.virtual? v).isSome = (c.virtual? v).isSome := by
  obtain ⟨ps, hps⟩ := Option.isSome_iff_exists.1 hv
  have hl : c.virtuals.lookup name = some ps := hps
  by_cases hmem : pn ∈ ps
  · simp [linkProvider, virtual?, hl, hmem]
  · by_cases hvn : v = name
    · subst hvn
      simp [linkProvider, virtual?, hl, hmem]
    · simp [linkProvider, virtual?, hl, hmem, lookup_putSorted_of_ne hvn]

/-- What adding a provider of a virtual package can do to the tables: keep the candidates, or
add a fresh candidate for a provider that had none; either way the provider has a candidate
afterwards. -/
theorem addProvider_cases {name : String} {provider : Spec} {ch ch' : Bool}
    (hv : (c.virtual? name).isSome) (h : addProvider name (c, ch) provider = .ok (c', ch')) :
    c'.catalog = c.catalog ∧ (∀ v, (c'.virtual? v).isSome = (c.virtual? v).isSome) ∧
    (c'.packages = c.packages ∨ ∃ pn cand, c.candidate? pn = none ∧
      newCandidate c.catalog pn (Spec.named pn) = .ok cand ∧ provider.name = some pn ∧
      c'.packages = putSorted pn cand c.packages) ∧
    ∀ pn, provider.name = some pn → (c'.candidate? pn).isSome := by
  rcases addProvider_eq_ok h with ⟨hname, rfl, rfl⟩ | ⟨pn, existing, m, hname, hex, -, rfl, rfl⟩ |
    ⟨pn, existing, hname, hex, -, rfl, rfl⟩ | ⟨pn, cand, m, hname, hnone, hnew, rfl, rfl⟩
  · -- a provision without a name is skipped
    exact ⟨rfl, fun _ => rfl, .inl rfl, fun q hq => by simp [hname] at hq⟩
  · -- the candidate's spec excludes the provision
    refine ⟨rfl, fun _ => rfl, .inl rfl, fun q hq => ?_⟩
    rw [hname, Option.some.injEq] at hq
    simp [← hq, hex]
  · refine ⟨by simp, linkProvider_virtual?_isSome hv, .inl (by simp), fun q hq => ?_⟩
    rw [hname, Option.some.injEq] at hq
    simp only [candidate?] at hex ⊢
    simp [← hq, hex]
  · -- a fresh candidate, then the provider filed
    refine ⟨by simp, linkProvider_virtual?_isSome hv,
      .inr ⟨pn, cand, hnone, hnew, hname, by simp⟩, fun q hq => ?_⟩
    rw [hname, Option.some.injEq] at hq
    simp [candidate?, ← hq]

/-- Adding a provider keeps a state sound: a fresh candidate for it is reached as a provider of
the virtual package. -/
theorem addProvider_sound (hw : c.catalog.WellFormed) (hs : Sound seeds c) {name : String}
    {provider : Spec} {ch ch' : Bool} (hv : (c.virtual? name).isSome)
    (hprov : provider ∈ c.catalog.providersFor name)
    (h : addProvider name (c, ch) provider = .ok (c', ch')) : Sound seeds c' := by
  obtain ⟨hcat, hvirt, hpk, -⟩ := addProvider_cases hv h
  rcases hpk with hpk | ⟨pn, cand, hnone, hnew, hname, hpk⟩
  · exact hs.of_tables hcat hpk hvirt
  · have hr : Reached c.catalog seeds false pn := .provider (hs.virtuals name hv) hprov hname
    exact (hs.addCandidate (Faithful.ofNew hw hr (hs.unseeded hnone) hnew)).of_tables hcat hpk
      hvirt

/-- Expanding a virtual package keeps a state sound. -/
theorem expandVirtual_sound (hw : c.catalog.WellFormed) (hs : Sound seeds c) {name : String}
    {ch : Bool} (hv : (c.virtual? name).isSome) (h : c.expandVirtual name = .ok (c', ch)) :
    Sound seeds c' := by
  unfold expandVirtual at h
  have hsame : SameFinds c { c with graph := c.graph.touch name true } := ⟨rfl, rfl, rfl, by simp⟩
  refine (foldlM_ok_induct (fun _ r => Sound seeds r.1 ∧ r.1.catalog = c.catalog ∧
      (r.1.virtual? name).isSome) ⟨hs.sameFinds hsame, rfl, hv⟩ ?_ h).1
  rintro pre provider ⟨c₁, ch₁⟩ ⟨c₂, ch₂⟩ hpre ⟨hs₁, hcat₁, hv₁⟩ hstep
  have hprov : provider ∈ c₁.catalog.providersFor name := by
    rw [hcat₁]
    exact hpre.subset (by simp)
  obtain ⟨hcat, hvirt, -⟩ := addProvider_cases hv₁ hstep
  exact ⟨addProvider_sound (hcat₁ ▸ hw) hs₁ hv₁ hprov hstep, hcat.trans hcat₁,
    by rw [hvirt]; exact hv₁⟩

/-- After expanding a virtual package, each of its providers has a candidate. -/
theorem expandVirtual_provides {name : String} {ch : Bool} (hv : (c.virtual? name).isSome)
    (h : c.expandVirtual name = .ok (c', ch)) :
    ∀ s ∈ c.catalog.providersFor name, ∀ pn, s.name = some pn → (c'.candidate? pn).isSome := by
  unfold expandVirtual at h
  -- the providers visited so far have candidates, and candidates stay
  refine (foldlM_ok_induct (fun pre r => r.1.catalog = c.catalog ∧ (r.1.virtual? name).isSome ∧
      ∀ s ∈ pre, ∀ pn, s.name = some pn → (r.1.candidate? pn).isSome) ⟨rfl, hv, by simp⟩ ?_
    h).2.2
  rintro pre provider ⟨c₁, ch₁⟩ ⟨c₂, ch₂⟩ - ⟨hcat₁, hv₁, hdone⟩ hstep
  obtain ⟨hcat, hvirt, hpk, hnew⟩ := addProvider_cases hv₁ hstep
  refine ⟨hcat.trans hcat₁, by rw [hvirt]; exact hv₁, fun s hs pn hn => ?_⟩
  rcases List.mem_append.1 hs with hs | hs
  · have hold := hdone s hs pn hn
    rcases hpk with hpk | ⟨q, cand, -, -, -, hpk⟩
    · simpa [candidate?, hpk] using hold
    · simp only [candidate?, hpk, lookup_putSorted]
      split_ifs
      · rfl
      · exact hold
  · rw [List.mem_singleton.1 hs] at hn
    exact hnew pn hn

/-! ## A pass -/

/-- A pass keeps a coherent, settled and sound state sound. -/
theorem pass_sound (hw : c.catalog.WellFormed) (hc : c.Coherent) (hset : c.Settled)
    (hs : Sound seeds c) {ch : Bool} (h : c.pass = .ok (c', ch)) : Sound seeds c' := by
  refine pass_keeps (Sound seeds) hc hset (fun _ hsame _ hs => hs.sameFinds hsame) ?_ ?_ hs h
  · intro c₁ c₂ n ch hg hc₁ hs₁ hsound hexp
    exact expandPackage_sound (hg.catalog_eq ▸ hw) hc₁ hs₁ hsound hexp
  · intro c₁ c₂ n ch hg _ _ hv hsound hexp
    exact expandVirtual_sound (hg.catalog_eq ▸ hw) hsound hv hexp

end Concretization

end BuildSpec
