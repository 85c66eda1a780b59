import BuildSpec.Proofs.Discovery.Seeds

/-!
# A build discovers exactly the closure of its seeds

Main statement: a build over recipes built one declaration at a time that succeeds ends with
exactly the packages and virtual packages the discovery rules reach from its seeds, the least
sets closed under them; and each candidate holds the spec seeding gives it, its recipe's
declarations, and exactly the recipe's dependencies that may apply to that spec
(`build_discovers_exactly`).

The passes find this closure incrementally. Soundness (`Sound`, kept by every pass) gives the
upper half: everything discovered is reached, so it lies in every closed pair of sets. The loop
stops after a pass that reports nothing new; in such a pass every step changed nothing, so each
package expanded in it is closed and each virtual package's providers have candidates
(`pass_finished`). That makes the tables closed under the rules, the lower half.
-/

namespace BuildSpec

namespace Concretization

variable {seeds : List Spec} {c c' : Concretization}

/-- Nothing is left to discover: every candidate is closed, and every provider of a virtual
package has a candidate. -/
structure Finished (c : Concretization) : Prop where
  closed : ∀ n cand, c.candidate? n = some cand → c.Closed n cand
  provided : ∀ v, (c.virtual? v).isSome → ∀ s ∈ c.catalog.providersFor v, ∀ pn,
    s.name = some pn → (c.candidate? pn).isSome

theorem Finished.sameFinds (hf : c.Finished) (h : SameFinds c c') : c'.Finished where
  closed n cand hcand :=
    h.closed_iff.2 (hf.closed n cand (by rwa [h.candidate?_eq] at hcand))
  provided v hv s hs pn hpn := by
    rw [h.candidate?_eq]
    exact hf.provided v (by simpa [virtual?, h.virtuals_eq] using hv) s
      (by rwa [h.catalog_eq] at hs) pn hpn

/-! ## A pass that reports nothing new -/

/-- A flag once set stays set through the virtual half of a pass. -/
theorem foldlM_visitVirtual_flag {l : List String} {r : Concretization × Bool}
    (h : l.foldlM visitVirtual (c, true) = .ok r) : r.2 = true := by
  refine foldlM_ok_induct (fun _ r => r.2 = true) rfl ?_ h
  rintro _ n acc r' _ hacc hstep
  simp only [visitVirtual, except_bind_eq_ok, except_pure_eq_ok] at hstep
  obtain ⟨⟨c₁, ch₁⟩, -, rfl⟩ := hstep
  simp [hacc]

/-- A pass that reports nothing new has left nothing to discover: every package it expanded is
closed, every virtual package it expanded has its providers, and nothing changed meanwhile. -/
theorem pass_finished (hc : c.Coherent) (hset : c.Settled) (h : c.pass = .ok (c', false)) :
    c'.Finished := by
  obtain ⟨c₀, c₂, ch₂, hsame, -, -, hpkg, hvirt⟩ := pass_eq_ok h
  -- the virtual half reported nothing, so neither did the package half
  have hch₂ : ch₂ = false := by
    cases ch₂
    · rfl
    · exact absurd (foldlM_visitVirtual_flag hvirt) (by simp)
  subst hch₂
  -- the package half: each package expanded without news is closed, and stays closed
  have h₂ := foldlM_ok_induct (fun pre r => Advances c₀ r.1 r.2 ∧
      (r.2 = false → ∀ n ∈ pre, ∀ cand, r.1.candidate? n = some cand → r.1.Closed n cand))
    ⟨.refl (hsame.coherent hc) (hsame.settled hset), by simp⟩
    (by
      rintro pre n acc r _ ⟨hA, hdone⟩ hstep
      simp only [visitPackage, except_bind_eq_ok, except_pure_eq_ok] at hstep
      obtain ⟨⟨c₁, ch₁⟩, hexp, rfl⟩ := hstep
      obtain ⟨hA', hclosed⟩ := expandPackage_facts hA.coherent hA.settled hexp
      refine ⟨hA.trans hA', fun hch n' hn' cand hcand => ?_⟩
      obtain ⟨hacc, hch₁⟩ := Bool.or_eq_false_iff.1 hch
      have hsame₁ := hA'.unchanged hch₁
      rcases List.mem_append.1 hn' with hn' | hn'
      · exact hsame₁.closed_iff.2
          (hdone hacc n' hn' cand (by rwa [hsame₁.candidate?_eq] at hcand))
      · rw [List.mem_singleton.1 hn'] at hcand ⊢
        exact hclosed cand hcand) hpkg
  -- the virtual half: each virtual package expanded has its providers, and they stay
  have h₃ := foldlM_ok_induct (fun pre r => Advances c₂ r.1 r.2 ∧ Grows c₂ r.1 ∧
      ∀ v ∈ pre, ∀ s ∈ c₂.catalog.providersFor v, ∀ pn, s.name = some pn →
        (r.1.candidate? pn).isSome)
    ⟨.refl h₂.1.coherent h₂.1.settled, .refl c₂, by simp⟩
    (by
      rintro pre n acc r hpre ⟨hA, hg, hdone⟩ hstep
      have hv : (acc.1.virtual? n).isSome := hg.virtual?_isSome (hpre.subset (by simp))
      simp only [visitVirtual, except_bind_eq_ok, except_pure_eq_ok] at hstep
      obtain ⟨⟨c₃, ch₃⟩, hexp, rfl⟩ := hstep
      have hA' := expandVirtual_facts hA.coherent hA.settled hv hexp
      refine ⟨hA.trans hA', hg.trans hA'.grows, fun v hv' s hs pn hpn => ?_⟩
      rcases List.mem_append.1 hv' with hv' | hv'
      · exact hA'.grows.candidates pn (hdone v hv' s hs pn hpn)
      · rw [List.mem_singleton.1 hv'] at hs
        exact expandVirtual_provides hv hexp s (by rw [hg.catalog_eq]; exact hs) pn hpn) hvirt
  -- nothing changed in either half
  have hsame₂ : SameFinds c₀ c₂ := h₂.1.unchanged rfl
  have hsame₃ : SameFinds c₂ c' := h₃.1.unchanged rfl
  refine ⟨fun n cand hcand => ?_, fun v hv s hs pn hpn => ?_⟩
  · have hcand₂ : c₂.candidate? n = some cand := by rwa [hsame₃.candidate?_eq] at hcand
    have hn : n ∈ keysOf c₀.packages := by
      rw [← hsame₂.packages_eq]
      exact mem_keys_of_lookup hcand₂
    exact hsame₃.closed_iff.2 (h₂.2 rfl n hn cand hcand₂)
  · have hv₂ : v ∈ keysOf c₂.virtuals := by
      rw [← lookup_isSome_iff_mem_keys, ← hsame₃.virtuals_eq]
      exact hv
    exact h₃.2.2 v hv₂ s (by rwa [hsame₃.catalog_eq] at hs) pn hpn

/-! ## The loop -/

/-- The run lemma of the loop: from a coherent, settled and sound state over well-formed
recipes, the loop ends with a sound state where nothing is left to discover. -/
theorem expandWith_finished : ∀ (fuel : Nat) (c c' : Concretization), c.catalog.WellFormed →
    c.Coherent → c.Settled → Sound seeds c → c.expandWith fuel = .ok c' →
      Sound seeds c' ∧ c'.Finished ∧ c'.catalog = c.catalog
  | 0, c, c', _, _, _, _, h => by
    simp [expandWith, stop] at h
  | fuel + 1, c, c', hw, hc, hset, hs, h => by
    unfold expandWith at h
    split_ifs at h with hlim
    · simp only [stop, except_bind_eq_ok] at h
      obtain ⟨_, h, -⟩ := h
      cases h
    simp only [except_bind_eq_ok] at h
    obtain ⟨⟨c₁, ch⟩, hp, h⟩ := h
    have hs₁ := pass_sound hw hc hset hs hp
    obtain ⟨hc₁, hset₁, hg₁, -⟩ := pass_facts hc hset hp
    cases ch with
    | true =>
      -- something new: another round
      simp only [if_true] at h
      obtain ⟨hs', hf', hcat'⟩ :=
        expandWith_finished fuel c₁ c' (hg₁.catalog_eq ▸ hw) hc₁ hset₁ hs₁ h
      exact ⟨hs', hf', hcat'.trans hg₁.catalog_eq⟩
    | false =>
      -- nothing new: the loop stops with a log record
      simp only [Bool.false_eq_true, if_false, except_pure_eq_ok] at h
      subst h
      exact ⟨hs₁.sameFinds (SameFinds.note _ _ _ _),
        (pass_finished hc hset hp).sameFinds (SameFinds.note _ _ _ _), hg₁.catalog_eq⟩

/-! ## The main statement -/

/-- The tables of `c` are what discovery from `seeds` over `cat` makes: its packages and virtual
packages are the least sets closed under discovery, and each candidate holds the spec seeding
gives it, its recipe's declarations and exactly the recipe's dependencies that may apply to
that spec. -/
structure DiscoveredExactly (cat : Catalog) (seeds : List Spec) (c : Concretization) : Prop where
  closed : DiscoveryClosed cat seeds (· ∈ keysOf c.packages) (· ∈ keysOf c.virtuals)
  least : ∀ K V, DiscoveryClosed cat seeds K V →
    (∀ n ∈ keysOf c.packages, K n) ∧ ∀ v ∈ keysOf c.virtuals, V v
  candidates : ∀ n cand, c.candidate? n = some cand →
    seedSpec seeds n = .ok cand.spec ∧
    ∃ p, cat.get? n = some p ∧ cand.variants = p.decls ∧ cand.dependencies = p.applicable cand.spec

/-- A sound state with nothing left to discover holds exactly what discovery makes. -/
theorem Sound.discoveredExactly (hw : c.catalog.WellFormed) (hs : Sound seeds c)
    (hf : c.Finished) : DiscoveredExactly c.catalog seeds c := by
  refine ⟨⟨?_, ?_, ?_⟩, fun K V hKV => ⟨?_, ?_⟩, ?_⟩
  · -- every seeded package has a candidate
    intro s hs' n hn
    exact lookup_isSome_iff_mem_keys.1 (hs.seeded s hs' n hn)
  · -- a closed candidate has discovered the targets of what may apply to its spec
    intro n p s hn hp hsp e he d hd happ
    obtain ⟨cand, hcand⟩ := Option.isSome_iff_exists.1 (lookup_isSome_iff_mem_keys.2 hn)
    obtain ⟨-, hspec, -⟩ := hs.candidates n cand hcand
    rw [hsp, Except.ok.injEq] at hspec
    subst hspec
    have hdisc := (hf.closed n cand hcand p hp e he d hd happ).2.2
    unfold Discovers at hdisc
    split_ifs at hdisc ⊢ <;> exact lookup_isSome_iff_mem_keys.1 hdisc
  · -- every provider of a virtual package has a candidate
    intro v hv s hs' pn hpn
    exact lookup_isSome_iff_mem_keys.1
      (hf.provided v (lookup_isSome_iff_mem_keys.2 hv) s hs' pn hpn)
  · -- every candidate is reached, and what is reached lies in every closed pair
    intro n hn
    obtain ⟨cand, hcand⟩ := Option.isSome_iff_exists.1 (lookup_isSome_iff_mem_keys.2 hn)
    simpa using (hs.candidates n cand hcand).reached.least hKV
  · intro v hv
    simpa using (hs.virtuals v (lookup_isSome_iff_mem_keys.2 hv)).least hKV
  · -- a closed candidate has recorded all that may apply, and only a prefix of it
    intro n cand hcand
    obtain ⟨-, hspec, p, hp, hvar, hpre⟩ := hs.candidates n cand hcand
    refine ⟨hspec, p, hp, hvar, (hw.get hp).eq_applicable_of_records hpre ?_⟩
    intro e he d hd happ
    exact (hf.closed n cand hcand p hp e he d hd happ).1

/-- A build over recipes built one declaration at a time that succeeds discovers exactly the
closure of its seeds under the discovery rules: its packages and virtual packages are the least
sets holding the seeded packages, the targets of the declared dependencies that may apply to a
package's seeded spec, and the providers of each virtual package; each candidate holds its
seeded spec, its recipe's declarations, and exactly the recipe's dependencies that may apply to
that spec, target by target in declaration order. -/
theorem build_discovers_exactly {cat : Catalog} {prefs : Prefs} {specs : List Spec}
    {c : Concretization} (hcat : ∀ p ∈ cat.recipes, p.Built)
    (h : build cat prefs specs = .ok c) :
    DiscoveredExactly cat (Spec.requestSeeds specs) c := by
  have hw : cat.WellFormed := fun p hp => (hcat p hp).wellFormed
  simp only [build, except_bind_eq_ok] at h
  obtain ⟨c₀, hprep, hexp⟩ := h
  obtain ⟨hs₀, hcat₀⟩ := prepare_sound hw hprep
  obtain ⟨hc₀, hset₀, -⟩ := prepare_facts hprep
  obtain ⟨hs, hf, hcatc⟩ :=
    expandWith_finished _ c₀ c (hcat₀ ▸ hw) hc₀ hset₀ hs₀ hexp
  have hcatc' : c.catalog = cat := hcatc.trans hcat₀
  have := hs.discoveredExactly (hcatc' ▸ hw) hf
  rwa [hcatc'] at this

/-- A dependency on package `n` that always applies, with the default phases. -/
def alwaysOn (n : String) : Dependency := ⟨Spec.named n, Dependency.Phase.defaults, .always⟩

/-- The catalog where `app` needs `lib` and the virtual package `mpi`, which `openmpi`
provides. -/
def appWithMpi : Catalog :=
  ⟨[("app",
      { name := "app"
        dependencies := [("lib", [alwaysOn "lib"]), ("mpi", [alwaysOn "mpi"])] }),
    ("lib", Package.named "lib"),
    ("openmpi", { name := "openmpi", provides := [⟨Spec.named "mpi", .always⟩] })]⟩

/-- The recipes of `appWithMpi` are built one declaration at a time. -/
theorem appWithMpi_built : ∀ p ∈ appWithMpi.recipes, p.Built := by
  intro p hp
  simp only [appWithMpi, Catalog.recipes, List.map_cons, List.map_nil, List.mem_cons,
    List.not_mem_nil, or_false] at hp
  rcases hp with rfl | rfl | rfl
  · exact .dependency (d := alwaysOn "mpi")
      (.dependency (d := alwaysOn "lib") (.named "app" none) rfl) rfl
  · exact .named "lib" none
  · exact .provision (s := Spec.named "mpi") (c := .always) (.named "openmpi" none) rfl

/-- Requesting `app` from `appWithMpi` builds. -/
theorem appWithMpi_builds : ∃ c, build appWithMpi {} [Spec.named "app"] = .ok c :=
  exists_eq_ok_of_isOk (by decide +kernel)

/-- The recipes of `appWithMpi` are built one declaration at a time, requesting `app` from it
succeeds, and the build discovers exactly the closure of its seeds. -/
theorem appWithMpi_discovered_exactly : (∀ p ∈ appWithMpi.recipes, p.Built) ∧
    ∃ c, build appWithMpi {} [Spec.named "app"] = .ok c ∧
      DiscoveredExactly appWithMpi (Spec.requestSeeds [Spec.named "app"]) c := by
  obtain ⟨c, hc⟩ := appWithMpi_builds
  exact ⟨appWithMpi_built, c, hc, build_discovers_exactly appWithMpi_built hc⟩

end Concretization

end BuildSpec
