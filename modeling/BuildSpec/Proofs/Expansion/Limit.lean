import BuildSpec.Proofs.Expansion.Failure

/-!
# The expansion loop never reaches its pass bound

The expansion loop (`expandWith`) stops with `Error.expansionLimit` when the passes run reach
the pass bound of what has been found (`passCeiling`), or when its fuel (`passFuel`) runs out.
Neither happens:

* a pass that reports something new has grown the measure `discovered` (`pass_facts`), so the
  passes never outnumber it, and it stays below the bound built from it
  (`discovered_lt_passCeiling`);
* coherent tables hold no more than the catalog allows (`discovered_le_discoveryBound`), which
  is less than the fuel (`discoveryBound_lt_passFuel`).

No other step of a build stops with that error (`BuildSpec.Proofs.Expansion.Failure`), so
`build_within_pass_bound` holds for every catalog, preferences and list of requested specs.
-/

namespace BuildSpec

/-- What a catalog allows the tables to hold: each recipe's dependencies and declarations, with
its candidate, and each provision, with a provider list as long as the catalog. -/
def Catalog.discoveryBound (cat : Catalog) : Nat :=
  (cat.packages.map fun e => e.2.dependencyCount + e.2.decls.length + 1).sum +
    (cat.recipes.map (·.provides.length)).sum * (cat.size + 1)

/-- The fuel of the expansion loop exceeds what its catalog allows to be discovered. -/
theorem discoveryBound_lt_passFuel (cat : Catalog) :
    cat.discoveryBound < Concretization.passFuel cat := by
  simp only [Catalog.discoveryBound, Concretization.passFuel, Catalog.recipes, Catalog.size,
    Package.dependencyCount, Package.decls, total_eq_sum, List.map_map, List.length_map]
  rw [List.sum_map_add, List.sum_map_add]
  simp only [Function.comp_def, List.sum_map_add, List.map_const', List.sum_replicate, smul_eq_mul]
  generalize (cat.packages.map fun e => (e.2.dependencies.map (·.2.length)).sum).sum = d
  generalize (cat.packages.map fun e => e.2.variants.length).sum = w
  generalize (cat.packages.map fun e => e.2.provides.length).sum = v
  generalize cat.packages.length = n
  nlinarith

namespace Concretization

variable {c : Concretization}

/-- The candidates are keyed by packages of the catalog, so there are no more of them than
recipes. -/
theorem length_packages_le (hc : c.Coherent) : c.packages.length ≤ c.catalog.size := by
  have hsub : keysOf c.packages ⊆ keysOf c.catalog.packages := by
    intro k hk
    obtain ⟨cand, hcand⟩ := Option.isSome_iff_exists.1 (lookup_isSome_iff_mem_keys.2 hk)
    obtain ⟨p, hp, -⟩ := hc.candidates_known _ (mem_of_lookup hcand)
    exact mem_keys_of_lookup hp
  simpa [keysOf, Catalog.size] using (nodup_keys hc.packages_ascend).length_le_of_subset hsub

/-- The virtual packages are names the recipes provide, so there are no more of them than
provisions. -/
theorem length_virtuals_le (hc : c.Coherent) :
    c.virtuals.length ≤ (c.catalog.recipes.map (·.provides.length)).sum := by
  have hsub : (keysOf c.virtuals).map some ⊆
      c.catalog.recipes.flatMap fun p => p.provides.map (·.spec.name) := by
    intro o ho
    obtain ⟨v, hv, rfl⟩ := List.mem_map.1 ho
    obtain ⟨ps, hps⟩ := Option.isSome_iff_exists.1 (lookup_isSome_iff_mem_keys.2 hv)
    have hvirt := hc.virtuals_provided _ (mem_of_lookup hps)
    simp only [Catalog.isVirtual, Bool.and_eq_true, List.any_eq_true, Package.providesName,
      beq_iff_eq] at hvirt
    obtain ⟨-, p, hp, pr, hpr, hname⟩ := hvirt
    exact List.mem_flatMap.2 ⟨p, hp, List.mem_map.2 ⟨pr, hpr, hname⟩⟩
  have := (List.Nodup.map (Option.some_injective _) (nodup_keys hc.virtuals_ascend)).length_le_of_subset hsub
  simpa [keysOf, List.length_flatMap] using this

/-- A virtual package's providers are distinct candidates. -/
theorem length_providers_le (hc : c.Coherent) {e : String × List String} (he : e ∈ c.virtuals) :
    e.2.length ≤ c.catalog.size := by
  have := (hc.providers_nodup e he).length_le_of_subset (hc.providers_known e he)
  simp only [keysOf, List.length_map] at this
  exact this.trans (length_packages_le hc)

/-- Coherent tables hold no more than their catalog allows. -/
theorem discovered_le_discoveryBound (hc : c.Coherent) :
    c.discovered ≤ c.catalog.discoveryBound := by
  -- each candidate weighs at most its recipe, and the candidates have distinct keys
  have hpkg : (c.packages.map fun e => e.2.dependencyCount + e.2.variants.length + 1).sum ≤
      (c.catalog.packages.map fun e => e.2.dependencyCount + e.2.decls.length + 1).sum := by
    calc (c.packages.map fun e => e.2.dependencyCount + e.2.variants.length + 1).sum
        ≤ ((keysOf c.packages).map fun k => ((c.catalog.packages.lookup k).map
            fun p => p.dependencyCount + p.decls.length + 1).getD 0).sum := by
          rw [keysOf, List.map_map]
          refine List.sum_le_sum fun e he => ?_
          obtain ⟨p, hp, hcount, hvar⟩ := hc.candidates_known e he
          simp only [Catalog.get?] at hp
          simp only [Function.comp_apply, hp, Option.map_some, Option.getD_some]
          omega
      _ ≤ _ := sum_lookup_le _ _ _ (nodup_keys hc.packages_ascend) fun k hk => by
          obtain ⟨cand, hcand⟩ := Option.isSome_iff_exists.1 (lookup_isSome_iff_mem_keys.2 hk)
          obtain ⟨p, hp, -⟩ := hc.candidates_known _ (mem_of_lookup hcand)
          simp only [Catalog.get?] at hp
          simp [hp]
  -- each virtual package holds at most every candidate
  have hvirt : (c.virtuals.map fun e => e.2.length + 1).sum ≤
      c.virtuals.length * (c.catalog.size + 1) := by
    calc (c.virtuals.map fun e => e.2.length + 1).sum
        ≤ (c.virtuals.map fun _ => c.catalog.size + 1).sum :=
          List.sum_le_sum fun e he => Nat.succ_le_succ (length_providers_le hc he)
      _ = c.virtuals.length * (c.catalog.size + 1) := by simp
  have hnum := Nat.mul_le_mul_right (c.catalog.size + 1) (length_virtuals_le hc)
  unfold discovered Catalog.discoveryBound
  omega

/-! ## The loop -/

/-- What the expansion loop keeps at every check: coherent and settled tables, and no more
passes than discoveries. -/
structure Checkable (c : Concretization) : Prop where
  coherent : c.Coherent
  settled : c.Settled
  passes_le : c.passes ≤ c.discovered

theorem Checkable.passes_lt_passCeiling (h : c.Checkable) : c.passes < c.passCeiling :=
  lt_of_le_of_lt h.passes_le (discovered_lt_passCeiling c)

/-- A pass that reports something new leads to a state the loop can check again, from the
same catalog. -/
theorem Checkable.pass {c' : Concretization} (h : c.Checkable) (hp : c.pass = .ok (c', true)) :
    c'.Checkable ∧ c'.catalog = c.catalog := by
  obtain ⟨hc', hs', hg, hpass, -, hlt⟩ := pass_facts h.coherent h.settled hp
  have := h.passes_le
  have := hlt rfl
  exact ⟨⟨hc', hs', by omega⟩, hg.catalog_eq⟩

theorem prepare_checkable {cat : Catalog} {prefs : Prefs} {specs : List Spec}
    (h : prepare cat prefs specs = .ok c) : c.Checkable := by
  obtain ⟨hc, hs, hpass⟩ := prepare_facts h
  exact ⟨hc, hs, by omega⟩

/-- The run lemma of the loop: from a checkable state with more fuel left than the catalog
allows discoveries, the loop never stops at the expansion limit. -/
theorem expandWith_noLimit : ∀ (fuel : Nat) (c : Concretization), c.Checkable →
    c.catalog.discoveryBound < fuel + c.passes → NoLimitStop (expandWith fuel c)
  | 0, c, h, hfuel => by
    -- out of fuel: then the passes would outnumber what the catalog allows
    have := discovered_le_discoveryBound h.coherent
    have := h.passes_le
    omega
  | fuel + 1, c, h, hfuel => by
    unfold expandWith
    rw [if_neg (Nat.not_le.2 h.passes_lt_passCeiling)]
    refine FailsOnly.bind (pass_noLimit c) fun ⟨c', ch⟩ hp => ?_
    cases ch with
    | false => exact FailsOnly.of_pure _
    | true =>
      obtain ⟨h', hcat⟩ := h.pass hp
      have hpass : c'.passes = c.passes + 1 := (pass_facts h.coherent h.settled hp).2.2.2.1
      exact expandWith_noLimit fuel c' h' (by rw [hcat, hpass]; omega)

/-- The states the expansion loop of a build checks against the pass bound: the state the
requests and seeding prepare, and the result of every pass that reports something new. -/
inductive Checked (cat : Catalog) (prefs : Prefs) (specs : List Spec) : Concretization → Prop
  | prepared {c : Concretization} : prepare cat prefs specs = .ok c → Checked cat prefs specs c
  | passed {c c' : Concretization} : Checked cat prefs specs c → c.pass = .ok (c', true) →
      Checked cat prefs specs c'

theorem Checked.checkable {cat : Catalog} {prefs : Prefs} {specs : List Spec}
    (h : Checked cat prefs specs c) : c.Checkable := by
  induction h with
  | prepared hp => exact prepare_checkable hp
  | passed _ hp ih => exact (ih.pass hp).1

/-- The run lemma of the loop, by its last pass: when every pass that reports something new
leads from a state `P` holds of to another, a loop that succeeds from such a state ends one pass
after one, with the pass that reports nothing new and a log record. -/
theorem expandWith_last_pass (P : Concretization → Prop)
    (hpass : ∀ c c', P c → c.pass = .ok (c', true) → P c') :
    ∀ (fuel : Nat) (c r : Concretization), P c → c.expandWith fuel = .ok r →
      ∃ c₁ c₂ m, P c₁ ∧ c₁.pass = .ok (c₂, false) ∧ r = c₂.note .info Log.expansionArea m
  | 0, c, r, _, h => by simp [expandWith, stop] at h
  | fuel + 1, c, r, hP, h => by
    unfold expandWith at h
    split_ifs at h with hlim
    · simp only [stop, except_bind_eq_ok] at h
      obtain ⟨_, h, -⟩ := h
      cases h
    simp only [except_bind_eq_ok] at h
    obtain ⟨⟨c₁, ch⟩, hp, h⟩ := h
    cases ch with
    | true =>
      simp only [if_true] at h
      exact expandWith_last_pass P hpass fuel c₁ r (hpass c c₁ hP hp) h
    | false =>
      simp only [Bool.false_eq_true, if_false, except_pure_eq_ok] at h
      exact ⟨c, c₁, _, hP, hp, h.symm⟩

/-- A successful build ends one pass after a state its loop checks, with the pass that reports
nothing new and a log record. -/
theorem build_last_pass {cat : Catalog} {prefs : Prefs} {specs : List Spec} {r : Concretization}
    (h : build cat prefs specs = .ok r) : ∃ c c' m, Checked cat prefs specs c ∧
      c.pass = .ok (c', false) ∧ r = c'.note .info Log.expansionArea m := by
  simp only [build, except_bind_eq_ok] at h
  obtain ⟨c₀, hprep, hexp⟩ := h
  exact expandWith_last_pass (Checked cat prefs specs) (fun _ _ hc hp => .passed hc hp) _ c₀ r
    (.prepared hprep) hexp

/-- A build never stops with the expansion limit: at every check of the expansion loop the
passes run are below the pass bound, and the fuel never runs out. -/
theorem build_within_pass_bound (cat : Catalog) (prefs : Prefs) (specs : List Spec) :
    (∀ c, Checked cat prefs specs c → c.passes < c.passCeiling) ∧
    ∀ s, build cat prefs specs = .error s → ∀ n, s.error ≠ .expansionLimit n := by
  refine ⟨fun c h => h.checkable.passes_lt_passCeiling, fun s hs n hn => ?_⟩
  have hbuild : NoLimitStop (build cat prefs specs) :=
    FailsOnly.bind (prepare_noLimit cat prefs specs) fun c hc =>
      expandWith_noLimit _ c (prepare_checkable hc) (by
        have := discoveryBound_lt_passFuel c.catalog
        omega)
  have hlimit : s.error.isLimit = false := hbuild s hs
  rw [hn] at hlimit
  cases hlimit

/-- The catalog of one recipe `a` that declares nothing. -/
def singleRecipe : Catalog := ⟨[("a", { name := "a" })]⟩

/-- Requesting `a` from `singleRecipe` prepares a state the loop checks, within the bound, and
requesting `b` stops with an error other than the expansion limit. -/
theorem singleRecipe_within_pass_bound :
    (∃ c, Checked singleRecipe {} [Spec.named "a"] c ∧ c.passes < c.passCeiling) ∧
    ∀ n, (⟨.unknownPackage "b", #[]⟩ : Stop).error ≠ .expansionLimit n :=
  ⟨⟨_, .prepared rfl,
      (build_within_pass_bound singleRecipe {} [Spec.named "a"]).1 _ (.prepared rfl)⟩,
    (build_within_pass_bound singleRecipe {} [Spec.named "b"]).2 _ rfl⟩

end Concretization

end BuildSpec
