import BuildSpec.Proofs.Table
import BuildSpec.Proofs.Equality

/-!
# What the expansion keeps

The expansion grows a concretization pass after pass. This file names what stays true of every
state it goes through, and measures what has been discovered.

* `Concretization.discovered` counts candidates and virtual packages, recorded dependencies and
  providers, and held variant declarations: the three quantities the pass bound
  `passCeiling` is built from.
* A candidate is *closed* (`Concretization.Closed`) once its expansion has run: every dependency
  its recipe declares that may apply to its spec is recorded, linked in the graph, and has its
  target discovered. Until then it has recorded nothing, so a candidate's first expansion is the
  only one that can find anything (`Settled`).
* `Concretization.Coherent` collects the shape of the tables (keys in order, providers without
  repeats and each linked in the graph) and ties every discovery to the catalog.

The operations the expansion is built from (`putSorted`, `Graph.addEdgeOnce`,
`Candidate.addDependency`, `newCandidate`) get their small lemmas here.
-/

namespace BuildSpec

/-- The dependencies a recipe declares, counted over all its targets. -/
def Package.dependencyCount (p : Package) : Nat := (p.dependencies.map (·.2.length)).sum

namespace Candidate

/-- Has the candidate recorded a dependency equal to `d`, under `d`'s target. -/
def records (cand : Candidate) (d : Dependency) : Bool :=
  match cand.dependencies.lookup d.target with
  | some ds => ds.contains d
  | none => false

theorem dependencyCount_eq (cand : Candidate) :
    cand.dependencyCount = (cand.dependencies.map (·.2.length)).sum := by
  simp [dependencyCount, total_eq_sum]

theorem pos_dependencyCount_of_records {cand : Candidate} {d : Dependency}
    (h : cand.records d = true) : 0 < cand.dependencyCount := by
  unfold records at h
  split at h
  · rename_i ds hds
    rw [dependencyCount_eq]
    have hmem := mem_of_lookup hds
    have hlen : 0 < ds.length := List.length_pos_of_ne_nil (by rintro rfl; simp at h)
    have hle := List.le_sum_of_mem (List.mem_map_of_mem (f := fun e => e.2.length) hmem)
    simp only at hle
    omega
  · simp at h

/-- With dependency groups in key order, adding a dependency to its target's group is an update
of that group. -/
theorem putDependency_eq {l : List (String × List Dependency)} (h : KeysAscend l) (t : String)
    (d : Dependency) : Package.putDependency t d l =
      putSorted t (match l.lookup t with
        | some ds => if ds.contains d then ds else ds ++ [d]
        | none => [d]) l := by
  induction l with
  | nil => rfl
  | cons e l ih =>
    obtain ⟨u, ds⟩ := e
    unfold Package.putDependency putSorted
    by_cases h1 : t < u
    · have hnone : l.lookup t = none :=
        lookup_eq_none_of_lt fun e he => h1.trans (h.lt_of_mem he)
      simp [h1, lookup_cons_of_ne h1.ne, hnone]
    · by_cases h2 : t = u
      · subst h2
        simp
      · simp only [h1, if_false, beq_iff_eq, h2, lookup_cons_of_ne h2]
        rw [ih h.tail]

theorem addDependency_of_records {cand : Candidate} {d : Dependency} (h : cand.records d = true) :
    cand.addDependency d = (cand, false) := by
  unfold records at h
  cases hl : cand.dependencies.lookup d.target with
  | none => simp [hl] at h
  | some ds =>
    simp only [hl] at h
    simp [addDependency, hl, h]

theorem addDependency_of_not_records {cand : Candidate} {d : Dependency}
    (h : cand.records d = false) : cand.addDependency d =
      ({ cand with dependencies := Package.putDependency d.target d cand.dependencies }, true) := by
  unfold records at h
  cases hl : cand.dependencies.lookup d.target with
  | none => simp [addDependency, hl]
  | some ds =>
    simp only [hl] at h
    simp [addDependency, hl, h]

/-- A dependency reported as not new leaves the candidate as it was. -/
theorem addDependency_of_snd_false {cand : Candidate} {d : Dependency}
    (h : (cand.addDependency d).2 = false) : (cand.addDependency d).1 = cand := by
  cases hr : cand.records d
  · rw [addDependency_of_not_records hr] at h
    cases h
  · rw [addDependency_of_records hr]

@[simp] theorem addDependency_spec (cand : Candidate) (d : Dependency) :
    (cand.addDependency d).1.spec = cand.spec := by
  cases h : cand.records d
  · rw [addDependency_of_not_records h]
  · rw [addDependency_of_records h]

@[simp] theorem addDependency_variants (cand : Candidate) (d : Dependency) :
    (cand.addDependency d).1.variants = cand.variants := by
  cases h : cand.records d
  · rw [addDependency_of_not_records h]
  · rw [addDependency_of_records h]

/-- Facts about adding a dependency to a candidate whose groups are in key order: the groups
stay in order, the dependency is recorded afterwards and so is everything recorded before, and
the count grows by one exactly when the candidate reports something new. -/
theorem addDependency_facts {cand : Candidate} (h : KeysAscend cand.dependencies) (d : Dependency) :
    KeysAscend (cand.addDependency d).1.dependencies ∧
    (cand.addDependency d).1.records d = true ∧
    (∀ d', cand.records d' = true → (cand.addDependency d).1.records d' = true) ∧
    (cand.addDependency d).1.dependencyCount =
      cand.dependencyCount + (if (cand.addDependency d).2 then 1 else 0) := by
  cases hr : cand.records d
  · rw [addDependency_of_not_records hr, putDependency_eq h]
    refine ⟨h.putSorted _ _, ?_, ?_, ?_⟩
    · unfold records
      simp only [lookup_putSorted_self]
      split
      · split_ifs with hc
        · exact hc
        · simp
      · simp
    · intro d' hd'
      unfold records at hd' ⊢
      rw [lookup_putSorted]
      split_ifs with ht
      · rw [← ht]
        split at hd'
        · dsimp only
          split_ifs <;> simp_all
        · simp at hd'
      · exact hd'
    · simp only [dependencyCount_eq, if_true]
      have hs := sum_putSorted h List.length d.target
        (match cand.dependencies.lookup d.target with
          | some ds => if ds.contains d then ds else ds ++ [d]
          | none => [d])
      unfold records at hr
      split at hr
      · rename_i ds hds
        simp only [hds, hr, Bool.false_eq_true, ite_false, List.length_append,
          List.length_singleton, Option.map_some, Option.getD_some] at hs ⊢
        omega
      · rename_i hds
        simp only [hds, Option.map_none, Option.getD_none, List.length_singleton] at hs ⊢
        omega
  · rw [addDependency_of_records hr]
    exact ⟨h, hr, fun _ h => h, by simp⟩

end Candidate

namespace Graph

@[simp] theorem touch_edges (g : Graph) (n : String) (b : Bool) : (g.touch n b).edges = g.edges := by
  unfold touch; split <;> rfl

theorem addEdgeOnce_fst_edges (g : Graph) (e : Graph.Edge) :
    (g.addEdgeOnce e).1.edges = if e ∈ g.edges then g.edges else g.edges ++ [e] := by
  unfold addEdgeOnce
  by_cases h : e ∈ g.edges <;> simp [h]

theorem addEdgeOnce_snd (g : Graph) (e : Graph.Edge) : (g.addEdgeOnce e).2 = !decide (e ∈ g.edges) := by
  unfold addEdgeOnce
  by_cases h : e ∈ g.edges <;> simp [h]

theorem mem_addEdgeOnce (g : Graph) (e : Graph.Edge) : e ∈ (g.addEdgeOnce e).1.edges := by
  rw [addEdgeOnce_fst_edges]; split_ifs with h <;> simp [h]

theorem edges_subset_addEdgeOnce (g : Graph) (e : Graph.Edge) : g.edges ⊆ (g.addEdgeOnce e).1.edges := by
  rw [addEdgeOnce_fst_edges]; split_ifs <;> simp

theorem addEdgeOnce_of_mem {g : Graph} {e : Graph.Edge} (h : e ∈ g.edges) :
    g.addEdgeOnce e = (g, false) := by
  simp [addEdgeOnce, h]

/-- An edge reported as not new leaves the graph as it was. -/
theorem addEdgeOnce_of_snd_false {g : Graph} {e : Graph.Edge} (h : (g.addEdgeOnce e).2 = false) :
    (g.addEdgeOnce e).1 = g := by
  rw [addEdgeOnce_snd, Bool.not_eq_false', decide_eq_true_iff] at h
  rw [addEdgeOnce_of_mem h]

end Graph

namespace Concretization

section Note

variable (c : Concretization) (l : Log.Level) (a m : String)

@[simp] theorem note_catalog : (c.note l a m).catalog = c.catalog := rfl
@[simp] theorem note_packages : (c.note l a m).packages = c.packages := rfl
@[simp] theorem note_virtuals : (c.note l a m).virtuals = c.virtuals := rfl
@[simp] theorem note_graph : (c.note l a m).graph = c.graph := rfl
@[simp] theorem note_passes : (c.note l a m).passes = c.passes := rfl
@[simp] theorem note_leaf : (c.note l a m).leaf = c.leaf := rfl
@[simp] theorem note_needed : (c.note l a m).needed = c.needed := rfl
@[simp] theorem note_candidate? (n : String) : (c.note l a m).candidate? n = c.candidate? n := rfl
@[simp] theorem note_virtual? (n : String) : (c.note l a m).virtual? n = c.virtual? n := rfl

end Note

/-- Everything discovered so far, as the pass bound counts it: each candidate and virtual
package, each recorded dependency and provider, and each variant declaration held. -/
def discovered (c : Concretization) : Nat :=
  (c.packages.map fun e => e.2.dependencyCount + e.2.variants.length + 1).sum +
    (c.virtuals.map fun e => e.2.length + 1).sum

/-- The target `t` of a dependency has been discovered: as a virtual package when the catalog
calls it virtual, as a candidate otherwise. -/
def Discovers (c : Concretization) (t : String) : Prop :=
  if c.catalog.isVirtual t then (c.virtual? t).isSome else (c.candidate? t).isSome

/-- Package `n` with candidate `cand` has been expanded: every dependency its recipe declares
that may apply to the candidate's spec is recorded, has its edge from `n`, and has its target
discovered. -/
def Closed (c : Concretization) (n : String) (cand : Candidate) : Prop :=
  ∀ p, c.catalog.get? n = some p → ∀ e ∈ p.dependencies, ∀ d ∈ e.2,
    d.condition.mayApply cand.spec = true →
      cand.records d = true ∧ ⟨some n, e.1, .depends d.phases⟩ ∈ c.graph.edges ∧ c.Discovers e.1

/-- The shape of the tables and how every discovery is tied to the catalog. -/
structure Coherent (c : Concretization) : Prop where
  packages_ascend : KeysAscend c.packages
  virtuals_ascend : KeysAscend c.virtuals
  dependencies_ascend : ∀ e ∈ c.packages, KeysAscend e.2.dependencies
  providers_nodup : ∀ e ∈ c.virtuals, e.2.Nodup
  providers_linked : ∀ e ∈ c.virtuals, ∀ pn ∈ e.2, ⟨some e.1, pn, .providedBy⟩ ∈ c.graph.edges
  providers_known : ∀ e ∈ c.virtuals, ∀ pn ∈ e.2, pn ∈ keysOf c.packages
  candidates_known : ∀ e ∈ c.packages, ∃ p, c.catalog.get? e.1 = some p ∧
    e.2.dependencyCount ≤ p.dependencyCount ∧ e.2.variants.length ≤ p.decls.length
  virtuals_provided : ∀ e ∈ c.virtuals, c.catalog.isVirtual e.1 = true

/-- Every candidate but `n`'s has recorded nothing yet or is closed. -/
def SettledExcept (c : Concretization) (n : String) : Prop :=
  ∀ e ∈ c.packages, e.1 ≠ n → e.2.dependencies = [] ∨ c.Closed e.1 e.2

/-- Every candidate has recorded nothing yet or is closed. -/
def Settled (c : Concretization) : Prop :=
  ∀ e ∈ c.packages, e.2.dependencies = [] ∨ c.Closed e.1 e.2

theorem Settled.except {c : Concretization} (h : c.Settled) (n : String) : c.SettledExcept n :=
  fun e he _ => h e he

/-- `c'` has at least what `c` has discovered: the same catalog, every candidate and virtual
package (virtual packages with at least their providers), and every edge. -/
structure Grows (c c' : Concretization) : Prop where
  catalog_eq : c'.catalog = c.catalog
  candidates : ∀ n, (c.candidate? n).isSome → (c'.candidate? n).isSome
  virtuals : ∀ v ps, c.virtual? v = some ps → ∃ ps', c'.virtual? v = some ps' ∧ ps ⊆ ps'
  edges : c.graph.edges ⊆ c'.graph.edges

theorem Grows.refl (c : Concretization) : Grows c c :=
  ⟨rfl, fun _ h => h, fun _ ps h => ⟨ps, h, List.Subset.refl _⟩, List.Subset.refl _⟩

theorem Grows.trans {c₁ c₂ c₃ : Concretization} (h₁ : Grows c₁ c₂) (h₂ : Grows c₂ c₃) :
    Grows c₁ c₃ where
  catalog_eq := h₂.catalog_eq.trans h₁.catalog_eq
  candidates n h := h₂.candidates n (h₁.candidates n h)
  virtuals v ps h := by
    obtain ⟨ps₂, h₂', hs₂⟩ := h₁.virtuals v ps h
    obtain ⟨ps₃, h₃, hs₃⟩ := h₂.virtuals v ps₂ h₂'
    exact ⟨ps₃, h₃, List.Subset.trans hs₂ hs₃⟩
  edges := List.Subset.trans h₁.edges h₂.edges

theorem Discovers.grows {c c' : Concretization} (hg : Grows c c') {t : String}
    (h : c.Discovers t) : c'.Discovers t := by
  unfold Discovers at h ⊢
  rw [hg.catalog_eq]
  split_ifs at h ⊢
  · obtain ⟨ps, hps⟩ := Option.isSome_iff_exists.1 h
    obtain ⟨ps', hps', -⟩ := hg.virtuals t ps hps
    simp [hps']
  · exact hg.candidates t h

/-- Closedness survives growth, also when the candidate itself gains records under the same
spec. -/
theorem Closed.grows {c c' : Concretization} (hg : Grows c c') {n : String} {cand cand' : Candidate}
    (hs : cand'.spec = cand.spec) (hr : ∀ d, cand.records d = true → cand'.records d = true)
    (h : c.Closed n cand) : c'.Closed n cand' := by
  intro p hp e he d hd happ
  rw [hg.catalog_eq] at hp
  rw [hs] at happ
  obtain ⟨hrec, hedge, hdisc⟩ := h p hp e he d hd happ
  exact ⟨hr d hrec, hg.edges hedge, hdisc.grows hg⟩

theorem candidate?_eq_some_iff {c : Concretization} (hc : KeysAscend c.packages) {n : String}
    {cand : Candidate} : c.candidate? n = some cand ↔ (n, cand) ∈ c.packages :=
  ⟨mem_of_lookup, lookup_of_mem hc⟩

theorem virtual?_eq_some_iff {c : Concretization} (hc : KeysAscend c.virtuals) {n : String}
    {ps : List String} : c.virtual? n = some ps ↔ (n, ps) ∈ c.virtuals :=
  ⟨mem_of_lookup, lookup_of_mem hc⟩

/-- Two states that have discovered the same: catalog, candidates, virtual packages and edges
agree. They may differ in graph nodes, log records and pass count. -/
structure SameFinds (c c' : Concretization) : Prop where
  catalog_eq : c'.catalog = c.catalog
  packages_eq : c'.packages = c.packages
  virtuals_eq : c'.virtuals = c.virtuals
  edges_eq : c'.graph.edges = c.graph.edges

theorem SameFinds.refl (c : Concretization) : SameFinds c c := ⟨rfl, rfl, rfl, rfl⟩

theorem SameFinds.trans {c₁ c₂ c₃ : Concretization} (h₁ : SameFinds c₁ c₂) (h₂ : SameFinds c₂ c₃) :
    SameFinds c₁ c₃ :=
  ⟨h₂.catalog_eq.trans h₁.catalog_eq, h₂.packages_eq.trans h₁.packages_eq,
    h₂.virtuals_eq.trans h₁.virtuals_eq, h₂.edges_eq.trans h₁.edges_eq⟩

theorem SameFinds.grows {c c' : Concretization} (h : SameFinds c c') : Grows c c' where
  catalog_eq := h.catalog_eq
  candidates n hn := by simpa [candidate?, h.packages_eq] using hn
  virtuals v ps hv := ⟨ps, by simpa [virtual?, h.virtuals_eq] using hv, List.Subset.refl _⟩
  edges := by rw [h.edges_eq]; exact List.Subset.refl _

theorem SameFinds.candidate?_eq {c c' : Concretization} (h : SameFinds c c') (n : String) :
    c'.candidate? n = c.candidate? n := by
  simp [candidate?, h.packages_eq]

theorem SameFinds.discovered_eq {c c' : Concretization} (h : SameFinds c c') :
    c'.discovered = c.discovered := by
  simp [discovered, h.packages_eq, h.virtuals_eq]

theorem SameFinds.closed_iff {c c' : Concretization} (h : SameFinds c c') {n : String}
    {cand : Candidate} : c'.Closed n cand ↔ c.Closed n cand := by
  unfold Closed Discovers
  simp only [h.catalog_eq, h.edges_eq, virtual?, candidate?, h.virtuals_eq, h.packages_eq]

theorem SameFinds.coherent {c c' : Concretization} (h : SameFinds c c') (hc : c.Coherent) :
    c'.Coherent := by
  obtain ⟨hcat, hp, hv, he⟩ := h
  refine ⟨?_, ?_, ?_, ?_, ?_, ?_, ?_, ?_⟩
  · rw [hp]; exact hc.packages_ascend
  · rw [hv]; exact hc.virtuals_ascend
  · rw [hp]; exact hc.dependencies_ascend
  · rw [hv]; exact hc.providers_nodup
  · rw [hv, he]; exact hc.providers_linked
  · rw [hv, hp]; exact hc.providers_known
  · rw [hp, hcat]; exact hc.candidates_known
  · rw [hv, hcat]; exact hc.virtuals_provided

theorem SameFinds.settled {c c' : Concretization} (h : SameFinds c c') (hs : c.Settled) :
    c'.Settled := by
  intro e he
  rw [h.packages_eq] at he
  exact (hs e he).imp_right h.closed_iff.2

theorem SameFinds.settledExcept {c c' : Concretization} (h : SameFinds c c') {n : String}
    (hs : c.SettledExcept n) : c'.SettledExcept n := by
  intro e he hne
  rw [h.packages_eq] at he
  exact (hs e he hne).imp_right h.closed_iff.2

theorem SameFinds.note (c : Concretization) (l : Log.Level) (a m : String) :
    SameFinds c (c.note l a m) := ⟨rfl, rfl, rfl, rfl⟩

/-- Growth keeps a state settled when the candidates are the same. -/
theorem Settled.grows {c c' : Concretization} (hs : c.Settled) (hg : Grows c c')
    (hp : c'.packages = c.packages) : c'.Settled := by
  intro e he
  rw [hp] at he
  exact (hs e he).imp_right (Closed.grows hg rfl fun _ h => h)

/-- `c'` follows `c` in an expansion: the tables stay coherent and settled, nothing discovered
is lost, the pass count is kept, and the measure grows, strictly when something new was
reported; when nothing new was reported, nothing was discovered. -/
structure Advances (c c' : Concretization) (ch : Bool) : Prop where
  coherent : c'.Coherent
  settled : c'.Settled
  grows : Grows c c'
  passes_eq : c'.passes = c.passes
  discovered_le : c.discovered ≤ c'.discovered
  discovered_lt : ch = true → c.discovered < c'.discovered
  unchanged : ch = false → SameFinds c c'

theorem Advances.trans {c₁ c₂ c₃ : Concretization} {ch₁ ch₂ : Bool} (h₁ : Advances c₁ c₂ ch₁)
    (h₂ : Advances c₂ c₃ ch₂) : Advances c₁ c₃ (ch₁ || ch₂) where
  coherent := h₂.coherent
  settled := h₂.settled
  grows := h₁.grows.trans h₂.grows
  passes_eq := h₂.passes_eq.trans h₁.passes_eq
  discovered_le := h₁.discovered_le.trans h₂.discovered_le
  discovered_lt h := by
    have := h₁.discovered_le
    have := h₂.discovered_le
    rcases Bool.or_eq_true_iff.1 h with h | h
    · have := h₁.discovered_lt h
      omega
    · have := h₂.discovered_lt h
      omega
  unchanged h := by
    obtain ⟨h₁', h₂'⟩ := Bool.or_eq_false_iff.1 h
    exact (h₁.unchanged h₁').trans (h₂.unchanged h₂')

/-- A state that discovered the same, with the same pass count, follows without news. -/
theorem SameFinds.advances {c c' : Concretization} (h : SameFinds c c') (hc : c.Coherent)
    (hs : c.Settled) (hp : c'.passes = c.passes) : Advances c c' false where
  coherent := h.coherent hc
  settled := h.settled hs
  grows := h.grows
  passes_eq := hp
  discovered_le := h.discovered_eq.ge
  discovered_lt := nofun
  unchanged _ := h

theorem Advances.refl {c : Concretization} (hc : c.Coherent) (hs : c.Settled) : Advances c c false :=
  (SameFinds.refl c).advances hc hs rfl

/-- A state settled but for `n` is settled once `n`'s candidate is closed. -/
theorem SettledExcept.settled {c : Concretization} {n : String} {cand : Candidate}
    (hs : c.SettledExcept n) (hc : KeysAscend c.packages) (hcand : c.candidate? n = some cand)
    (hcl : c.Closed n cand) : c.Settled := by
  intro e he
  by_cases hn : e.1 = n
  · have : c.candidate? n = some e.2 := by rw [← hn]; exact lookup_of_mem hc he
    rw [hcand, Option.some.injEq] at this
    rw [hn, ← this]
    exact .inr hcl
  · exact hs e he hn

/-! ## The measure of what has been discovered -/

theorem discovered_eq (c : Concretization) : c.discovered =
    (c.packages.length + c.virtuals.length) +
    ((c.packages.map (·.2.dependencyCount)).sum + (c.virtuals.map (·.2.length)).sum) +
    (c.packages.map (·.2.variants.length)).sum := by
  simp only [discovered, List.sum_map_add, List.map_const', List.sum_replicate, smul_eq_mul,
    mul_one]
  omega

/-- What has been discovered stays below the pass bound built from it. -/
theorem discovered_lt_passCeiling (c : Concretization) : c.discovered < c.passCeiling := by
  rw [discovered_eq]
  simp only [passCeiling, total_eq_sum]
  generalize c.packages.length + c.virtuals.length = n
  generalize (c.packages.map (·.2.dependencyCount)).sum + (c.virtuals.map (·.2.length)).sum = e
  generalize (c.packages.map (·.2.variants.length)).sum = v
  have : n + (e + v) ≤ (n + 1) * (e + v + 1) := by nlinarith
  omega

/-- Replacing or adding a candidate changes the measure by the difference of their weights. -/
theorem discovered_putSorted_packages {c : Concretization} (h : KeysAscend c.packages) (n : String)
    (cand : Candidate) :
    { c with packages := putSorted n cand c.packages }.discovered +
      ((c.candidate? n).map fun o => o.dependencyCount + o.variants.length + 1).getD 0 =
    c.discovered + (cand.dependencyCount + cand.variants.length + 1) := by
  have hs := sum_putSorted h (fun o => o.dependencyCount + o.variants.length + 1) n cand
  simp only [discovered, candidate?] at hs ⊢
  omega

/-- Replacing or adding a virtual package changes the measure by the difference of their
provider counts. -/
theorem discovered_putSorted_virtuals {c : Concretization} (h : KeysAscend c.virtuals) (n : String)
    (ps : List String) :
    { c with virtuals := putSorted n ps c.virtuals }.discovered +
      ((c.virtual? n).map fun o => o.length + 1).getD 0 = c.discovered + (ps.length + 1) := by
  have hs := sum_putSorted h (fun o => o.length + 1) n ps
  simp only [discovered, virtual?] at hs ⊢
  omega

end Concretization

/-- A virtual package has no recipe. -/
theorem Catalog.get?_eq_none_of_isVirtual {cat : Catalog} {n : String} (h : cat.isVirtual n = true) :
    cat.get? n = none := by
  simp only [Catalog.isVirtual, Catalog.contains, Bool.and_eq_true, Bool.not_eq_true',
    Option.isSome_eq_false_iff, Option.isNone_iff_eq_none] at h
  exact h.1

/-- A new candidate holds the spec it was made for, no dependencies, and the declarations of
the recipe it was made from. -/
theorem newCandidate_eq_ok {cat : Catalog} {n : String} {s : Spec} {cand : Candidate}
    (h : Concretization.newCandidate cat n s = .ok cand) :
    ∃ p, cat.get? n = some p ∧ cand = { spec := s, variants := p.decls.foldl Candidate.addVariant [] } := by
  unfold Concretization.newCandidate at h
  split at h
  · rename_i p hp
    cases h
    exact ⟨p, hp, rfl⟩
  · cases h

theorem length_addVariant_le (ds : List Variant.Decl) (d : Variant.Decl) :
    (Candidate.addVariant ds d).length ≤ ds.length + 1 := by
  unfold Candidate.addVariant
  split
  · omega
  · simp only [List.length_append, List.length_cons]
    have := List.span_eq_takeWhile_dropWhile (p := fun x => decide (x.name < d.name)) (l := ds)
    rw [this]
    simp only
    have := List.takeWhile_append_dropWhile (p := fun x => decide (x.name < d.name)) (l := ds)
    have hl := congrArg List.length this
    simp only [List.length_append] at hl
    omega

theorem length_foldl_addVariant_le (ds : List Variant.Decl) :
    ∀ acc : List Variant.Decl, (ds.foldl Candidate.addVariant acc).length ≤ acc.length + ds.length := by
  induction ds with
  | nil => intro acc; simp
  | cons d ds ih =>
    intro acc
    have := ih (Candidate.addVariant acc d)
    have := length_addVariant_le acc d
    simp only [List.foldl_cons, List.length_cons]
    omega

end BuildSpec
