import BuildSpec.Proofs.Expansion.Basic

/-!
# Expanding one package

A package is expanded one declared target at a time (`expandTarget`): its target is discovered
(`reachTarget`), then each applicable dependency is recorded in the candidate and linked in the
graph (`recordDependency`).

The main statements are about the whole expansion of one package (`expandPackage`):

* `expandPackage_of_closed`: expanding a closed candidate again changes nothing that was
  discovered and reports nothing new;
* `expandPackage_of_fresh`: expanding a candidate that has recorded nothing closes it; if it
  reports something new, the measure `discovered` has grown, because the first dependency it
  records is new.

Together they give `expandPackage_facts`, the step lemma the pass is built from.
-/

namespace BuildSpec

namespace Concretization

variable {c c' : Concretization}

/-! ## Recording dependencies -/

theorem recordDependency_eq (name t : String) (cand : Candidate) (g : Graph) (ch : Bool)
    (d : Dependency) : recordDependency name t (cand, g, ch) d =
      ((cand.addDependency d).1, (g.addEdgeOnce ⟨some name, t, .depends d.phases⟩).1,
        ch || (cand.addDependency d).2 || (g.addEdgeOnce ⟨some name, t, .depends d.phases⟩).2) :=
  rfl

/-- Recording the applicable dependencies of `name` on `t`: the candidate keeps its spec, its
declarations and its groups in order, keeps what it had recorded and records each of them with
its edge; the count grows by at most one a dependency, something is reported new only if there
was something to record, and when nothing new is reported nothing changed. -/
theorem foldl_recordDependency {name t : String} :
    ∀ (app : List Dependency) (cand cand' : Candidate) (g g' : Graph) (ch ch' : Bool),
      KeysAscend cand.dependencies →
      app.foldl (recordDependency name t) (cand, g, ch) = (cand', g', ch') →
      cand'.spec = cand.spec ∧ cand'.variants = cand.variants ∧ KeysAscend cand'.dependencies ∧
      (∀ d, cand.records d = true → cand'.records d = true) ∧
      (∀ d ∈ app, cand'.records d = true ∧ ⟨some name, t, .depends d.phases⟩ ∈ g'.edges) ∧
      g.edges ⊆ g'.edges ∧
      cand.dependencyCount ≤ cand'.dependencyCount ∧
      cand'.dependencyCount ≤ cand.dependencyCount + app.length ∧
      (ch' = true → ch = true ∨ app ≠ []) ∧
      (ch' = false → ch = false ∧ cand' = cand ∧ g' = g)
  | [], cand, cand', g, g', ch, ch', hasc, h => by
    simp only [List.foldl_nil, Prod.mk.injEq] at h
    obtain ⟨rfl, rfl, rfl⟩ := h
    exact ⟨rfl, rfl, hasc, fun _ h => h, by simp, List.Subset.refl _, le_refl _, by simp,
      fun h => .inl h, fun h => ⟨h, rfl, rfl⟩⟩
  | d :: app, cand, cand', g, g', ch, ch', hasc, h => by
    rw [List.foldl_cons, recordDependency_eq] at h
    obtain ⟨hasc₁, hrec₁, hmono₁, hcount₁⟩ := cand.addDependency_facts hasc d
    obtain ⟨hspec, hvar, hasc', hmono, hall, hedges, hle, hge, -, hsame⟩ :=
      foldl_recordDependency app _ cand' _ g' _ ch' hasc₁ h
    refine ⟨by simp [hspec], by simp [hvar], hasc', fun d' hd' => hmono d' (hmono₁ d' hd'), ?_,
      List.Subset.trans (Graph.edges_subset_addEdgeOnce _ _) hedges, ?_, ?_, fun _ => by simp,
      fun hch => ?_⟩
    · intro d' hd'
      rcases List.mem_cons.1 hd' with rfl | hd'
      · exact ⟨hmono _ hrec₁, hedges (Graph.mem_addEdgeOnce _ _)⟩
      · exact hall d' hd'
    · rw [hcount₁] at hle
      omega
    · rw [hcount₁] at hge
      simp only [List.length_cons]
      split_ifs at hge <;> omega
    · -- neither the dependency nor its edge was new
      obtain ⟨hflags, rfl, rfl⟩ := hsame hch
      simp only [Bool.or_eq_false_iff] at hflags
      obtain ⟨⟨hch₀, hnew⟩, hadded⟩ := hflags
      exact ⟨hch₀, Candidate.addDependency_of_snd_false hnew, Graph.addEdgeOnce_of_snd_false hadded⟩

/-- Recording dependencies that are all recorded and linked already changes nothing. -/
theorem foldl_recordDependency_of_recorded {name t : String} {cand : Candidate} {g : Graph}
    {ch : Bool} : ∀ app : List Dependency,
      (∀ d ∈ app, cand.records d = true ∧ ⟨some name, t, .depends d.phases⟩ ∈ g.edges) →
      app.foldl (recordDependency name t) (cand, g, ch) = (cand, g, ch)
  | [], _ => rfl
  | d :: app, h => by
    obtain ⟨hrec, hedge⟩ := h d List.mem_cons_self
    rw [List.foldl_cons, recordDependency_eq, Candidate.addDependency_of_records hrec,
      Graph.addEdgeOnce_of_mem hedge]
    simpa using foldl_recordDependency_of_recorded app fun d' hd' => h d' (List.mem_cons_of_mem _ hd')

/-! ## Discovering a target -/

/-- Adding a virtual package the catalog calls virtual keeps the tables coherent. -/
theorem Coherent.addVirtual (hc : c.Coherent) {t : String} (hv : c.catalog.isVirtual t = true) :
    ({ c with virtuals := putSorted t [] c.virtuals } : Concretization).Coherent where
  packages_ascend := hc.packages_ascend
  virtuals_ascend := hc.virtuals_ascend.putSorted t []
  dependencies_ascend := hc.dependencies_ascend
  providers_nodup e he := by
    rcases mem_putSorted he with rfl | he
    · exact List.nodup_nil
    · exact hc.providers_nodup e he
  providers_linked e he pn hpn := by
    rcases mem_putSorted he with rfl | he
    · simp at hpn
    · exact hc.providers_linked e he pn hpn
  providers_known e he pn hpn := by
    rcases mem_putSorted he with rfl | he
    · simp at hpn
    · exact hc.providers_known e he pn hpn
  candidates_known := hc.candidates_known
  virtuals_provided e he := by
    rcases mem_putSorted he with rfl | he
    · exact hv
    · exact hc.virtuals_provided e he

/-- Adding a candidate that has recorded nothing, for a package of the catalog and with no more
declarations than its recipe, keeps the tables coherent. -/
theorem Coherent.addCandidate (hc : c.Coherent) {t : String} {cand : Candidate} {p : Package}
    (hp : c.catalog.get? t = some p) (hd : cand.dependencies = [])
    (hvar : cand.variants.length ≤ p.decls.length) :
    ({ c with packages := putSorted t cand c.packages } : Concretization).Coherent where
  packages_ascend := hc.packages_ascend.putSorted t cand
  virtuals_ascend := hc.virtuals_ascend
  dependencies_ascend e he := by
    rcases mem_putSorted he with rfl | he
    · simp [hd, keysAscend_nil]
    · exact hc.dependencies_ascend e he
  providers_nodup := hc.providers_nodup
  providers_linked := hc.providers_linked
  providers_known e he pn hpn := mem_keys_putSorted.2 (.inr (hc.providers_known e he pn hpn))
  candidates_known e he := by
    rcases mem_putSorted he with rfl | he
    · refine ⟨p, hp, ?_, hvar⟩
      simp [Candidate.dependencyCount, hd, total]
    · exact hc.candidates_known e he
  virtuals_provided := hc.virtuals_provided

theorem Grows.addVirtual {t : String} (hnone : c.virtual? t = none) :
    Grows c { c with virtuals := putSorted t [] c.virtuals } where
  catalog_eq := rfl
  candidates _ h := h
  virtuals v ps hv := by
    refine ⟨ps, ?_, List.Subset.refl _⟩
    have hne : v ≠ t := by rintro rfl; simp [hnone] at hv
    simpa [virtual?, lookup_putSorted_of_ne hne] using hv
  edges := List.Subset.refl _

theorem Grows.addCandidate {t : String} {cand : Candidate} (hnone : c.candidate? t = none) :
    Grows c { c with packages := putSorted t cand c.packages } where
  catalog_eq := rfl
  candidates n h := by
    have hne : n ≠ t := by rintro rfl; simp [hnone] at h
    simpa [candidate?, lookup_putSorted_of_ne hne] using h
  virtuals v ps hv := ⟨ps, hv, List.Subset.refl _⟩
  edges := List.Subset.refl _

/-- The candidates other than a new one are kept as they were. -/
theorem candidate?_addCandidate_of_ne {t n : String} {cand : Candidate} (h : n ≠ t) :
    ({ c with packages := putSorted t cand c.packages } : Concretization).candidate? n =
      c.candidate? n := by
  simp [candidate?, lookup_putSorted_of_ne h]

theorem SettledExcept.addVirtual {n t : String} (hnone : c.virtual? t = none)
    (hs : c.SettledExcept n) : ({ c with virtuals := putSorted t [] c.virtuals } :
      Concretization).SettledExcept n := fun e he hne =>
  (hs e he hne).imp_right (Closed.grows (Grows.addVirtual hnone) rfl fun _ h => h)

theorem SettledExcept.addCandidate {n t : String} {cand : Candidate} (hnone : c.candidate? t = none)
    (hd : cand.dependencies = []) (hs : c.SettledExcept n) :
    ({ c with packages := putSorted t cand c.packages } : Concretization).SettledExcept n := by
  intro e he hne
  rcases mem_putSorted he with rfl | he
  · exact .inl hd
  · exact (hs e he hne).imp_right (Closed.grows (Grows.addCandidate hnone) rfl fun _ h => h)

theorem Settled.addCandidate {t : String} {cand : Candidate} (hnone : c.candidate? t = none)
    (hd : cand.dependencies = []) (hs : c.Settled) :
    ({ c with packages := putSorted t cand c.packages } : Concretization).Settled := by
  intro e he
  rcases mem_putSorted he with rfl | he
  · exact .inl hd
  · exact (hs e he).imp_right (Closed.grows (Grows.addCandidate hnone) rfl fun _ h => h)

/-- What discovering a target can do: nothing, when it is discovered already; otherwise add a
virtual package with no providers, or a candidate for the target holding only its name and its
recipe's declarations. -/
theorem reachTarget_cases {name t : String} {app : List Dependency} {new : Bool}
    (h : c.reachTarget name t app = .ok (c', new)) : c'.passes = c.passes ∧
    ((c.Discovers t ∧ new = false ∧ SameFinds c c') ∨
     (new = true ∧ c.catalog.isVirtual t = true ∧ c.virtual? t = none ∧
        SameFinds { c with virtuals := putSorted t [] c.virtuals } c') ∨
     (new = true ∧ c.catalog.isVirtual t = false ∧ c.candidate? t = none ∧
        ∃ cand, newCandidate c.catalog t (Spec.named t) = .ok cand ∧
          SameFinds { c with packages := putSorted t cand c.packages } c')) := by
  unfold reachTarget at h
  split_ifs at h with hv hnone hnone'
  · simp only [except_pure_eq_ok, Prod.mk.injEq] at h
    obtain ⟨rfl, rfl⟩ := h
    refine ⟨rfl, .inr (.inl ⟨rfl, hv, by simpa using hnone, ?_⟩)⟩
    exact ⟨rfl, rfl, rfl, by simp [note]⟩
  · simp only [except_pure_eq_ok, Prod.mk.injEq] at h
    obtain ⟨rfl, rfl⟩ := h
    refine ⟨rfl, .inl ⟨?_, rfl, ⟨rfl, rfl, rfl, by simp⟩⟩⟩
    unfold Discovers
    rw [if_pos hv]
    cases hx : c.virtual? t <;> simp_all
  · simp only [except_bind_eq_ok] at h
    obtain ⟨_, -, h⟩ := h
    simp only [lift, except_pure_eq_ok, Prod.mk.injEq, note_catalog] at h
    obtain ⟨cand, hcand, rfl, rfl⟩ := h
    cases hnew : newCandidate c.catalog t (Spec.named t) with
    | error e => simp [hnew, Except.mapError] at hcand
    | ok cand₀ =>
      simp only [hnew, Except.mapError, Except.ok.injEq] at hcand
      subst hcand
      refine ⟨rfl, .inr (.inr ⟨rfl, by simpa using hv, by simpa using hnone', cand₀, rfl, ?_⟩)⟩
      exact ⟨rfl, rfl, rfl, by simp [note]⟩
  · simp only [except_bind_eq_ok] at h
    obtain ⟨_, -, h⟩ := h
    simp only [except_pure_eq_ok, Prod.mk.injEq] at h
    obtain ⟨rfl, rfl⟩ := h
    refine ⟨rfl, .inl ⟨?_, rfl, ⟨rfl, rfl, rfl, by simp⟩⟩⟩
    unfold Discovers
    rw [if_neg hv]
    cases hx : c.candidate? t <;> simp_all

/-- Discovering a target keeps the tables coherent and every candidate as it was. It adds at
most one virtual package or fresh candidate, which the measure counts when it is reported new,
and afterwards the target is discovered. -/
theorem reachTarget_facts {name t : String} {app : List Dependency} {new : Bool}
    (hc : c.Coherent) (h : c.reachTarget name t app = .ok (c', new)) :
    c'.Coherent ∧ Grows c c' ∧
    (∀ n cand, c.candidate? n = some cand → c'.candidate? n = some cand) ∧
    (∀ n, c.SettledExcept n → c'.SettledExcept n) ∧
    c.discovered + (if new then 1 else 0) ≤ c'.discovered ∧
    c'.Discovers t ∧ c'.passes = c.passes ∧
    (c.Discovers t → new = false) ∧ (new = false → SameFinds c c') := by
  obtain ⟨hpass, hcases⟩ := reachTarget_cases h
  rcases hcases with ⟨hd, rfl, hsame⟩ | ⟨rfl, hv, hnone, hsame⟩ | ⟨rfl, hv, hnone, cand, hnew, hsame⟩
  · refine ⟨hsame.coherent hc, hsame.grows, fun n _ h => (hsame.candidate?_eq n).trans h,
      fun _ h => hsame.settledExcept h, by simp [hsame.discovered_eq], hd.grows hsame.grows, hpass,
      fun _ => rfl, fun _ => hsame⟩
  · -- a new virtual package with no providers yet
    have hdisc := discovered_putSorted_virtuals hc.virtuals_ascend t []
    simp only [hnone, Option.map_none, Option.getD_none, List.length_nil] at hdisc
    have hgrow := (Grows.addVirtual hnone).trans hsame.grows
    refine ⟨hsame.coherent (hc.addVirtual hv), hgrow,
      fun n cand h => (hsame.candidate?_eq n).trans h,
      fun _ h => hsame.settledExcept (h.addVirtual hnone), by simp [hsame.discovered_eq]; omega,
      ?_, hpass, ?_, nofun⟩
    · refine Discovers.grows hsame.grows ?_
      simp [Discovers, hv, virtual?]
    · intro hd
      simp [Discovers, hv, hnone] at hd
  · -- a fresh candidate for the target
    obtain ⟨p, hp, rfl⟩ := newCandidate_eq_ok hnew
    have hdisc := discovered_putSorted_packages hc.packages_ascend t
      { spec := Spec.named t, variants := p.decls.foldl Candidate.addVariant [] }
    simp only [hnone, Option.map_none, Option.getD_none] at hdisc
    have hgrow := (Grows.addCandidate hnone).trans hsame.grows
    refine ⟨hsame.coherent (hc.addCandidate hp rfl ?_), hgrow, ?_,
      fun _ h => hsame.settledExcept (h.addCandidate hnone rfl), by
        simp [hsame.discovered_eq]; omega, ?_, hpass, ?_, nofun⟩
    · simpa using length_foldl_addVariant_le p.decls []
    · intro n cand hn
      have hne : n ≠ t := by rintro rfl; simp [hnone] at hn
      rw [hsame.candidate?_eq, candidate?_addCandidate_of_ne hne, hn]
    · refine Discovers.grows hsame.grows ?_
      simp [Discovers, hv, candidate?]
    · intro hd
      simp [Discovers, hv, hnone] at hd

/-! ## Expanding one target -/

/-- What expanding one declared target of `name` can do: nothing, when no dependency on it may
apply; otherwise discover the target, then record the applicable dependencies in the candidate
of `name`, when there is one. -/
theorem expandTarget_cases {name : String} {s : Spec} {ch ch' : Bool} {t : String}
    {deps : List Dependency} (h : expandTarget name s (c, ch) (t, deps) = .ok (c', ch')) :
    (deps.filter (·.condition.mayApply s) = [] ∧ c' = c ∧ ch' = ch) ∨
    (deps.filter (·.condition.mayApply s) ≠ [] ∧
     ∃ c₁ new, c.reachTarget name t (deps.filter (·.condition.mayApply s)) = .ok (c₁, new) ∧
      ((c₁.candidate? name = none ∧ c' = c₁ ∧ ch' = (ch || new)) ∨
       (∃ cand cand' g', c₁.candidate? name = some cand ∧
          (deps.filter (·.condition.mayApply s)).foldl (recordDependency name t)
            (cand, c₁.graph, ch || new) = (cand', g', ch') ∧
          c' = { c₁ with packages := putSorted name cand' c₁.packages, graph := g' }))) := by
  unfold expandTarget at h
  dsimp only at h
  split_ifs at h with hk happ happ
  · cases h
  · cases h
  · simp only [except_pure_eq_ok, Prod.mk.injEq] at h
    exact .inl ⟨List.isEmpty_iff.1 happ, h.1.symm, h.2.symm⟩
  · simp only [except_bind_eq_ok] at h
    obtain ⟨⟨c₁, new⟩, hreach, h⟩ := h
    refine .inr ⟨fun h => happ (List.isEmpty_iff.2 h), c₁, new, hreach, ?_⟩
    split at h
    · rename_i cand hcand
      simp only [except_pure_eq_ok, Prod.mk.injEq] at h
      obtain ⟨rfl, rfl⟩ := h
      refine .inr ⟨cand, _, _, hcand, rfl, rfl⟩
    · rename_i hnone
      simp only [except_pure_eq_ok, Prod.mk.injEq] at h
      exact .inl ⟨Option.eq_none_iff_forall_ne_some.2 hnone, h.1.symm, h.2.symm⟩

/-! ## Replacing the candidate being expanded -/

section Replace

variable {n : String} {cand cand' : Candidate} {p : Package} {g : Graph}

theorem Coherent.replaceCandidate (hc : c.Coherent) (hp : c.catalog.get? n = some p)
    (hasc : KeysAscend cand'.dependencies) (hcount : cand'.dependencyCount ≤ p.dependencyCount)
    (hvar : cand'.variants.length ≤ p.decls.length) (hg : c.graph.edges ⊆ g.edges) :
    ({ c with packages := putSorted n cand' c.packages, graph := g } : Concretization).Coherent where
  packages_ascend := hc.packages_ascend.putSorted n cand'
  virtuals_ascend := hc.virtuals_ascend
  dependencies_ascend e he := by
    rcases mem_putSorted he with rfl | he
    · exact hasc
    · exact hc.dependencies_ascend e he
  providers_nodup := hc.providers_nodup
  providers_linked e he pn hpn := hg (hc.providers_linked e he pn hpn)
  providers_known e he pn hpn := mem_keys_putSorted.2 (.inr (hc.providers_known e he pn hpn))
  candidates_known e he := by
    rcases mem_putSorted he with rfl | he
    · exact ⟨p, hp, hcount, hvar⟩
    · exact hc.candidates_known e he
  virtuals_provided := hc.virtuals_provided

theorem Grows.replaceCandidate (hg : c.graph.edges ⊆ g.edges) :
    Grows c { c with packages := putSorted n cand' c.packages, graph := g } where
  catalog_eq := rfl
  candidates n' h := by
    simp only [candidate?, lookup_putSorted]
    split_ifs with hn
    · rfl
    · exact h
  virtuals v ps hv := ⟨ps, hv, List.Subset.refl _⟩
  edges := hg

theorem SettledExcept.replaceCandidate (hg : c.graph.edges ⊆ g.edges) (hs : c.SettledExcept n) :
    ({ c with packages := putSorted n cand' c.packages, graph := g } : Concretization).SettledExcept
      n := by
  intro e he hne
  rcases mem_putSorted he with rfl | he
  · exact absurd rfl hne
  · exact (hs e he hne).imp_right (Closed.grows (Grows.replaceCandidate hg) rfl fun _ h => h)

/-- Replacing the candidate of `n` by one with the same declarations changes the measure by the
difference of their dependency counts. -/
theorem discovered_replaceCandidate (hc : c.Coherent) (hcand : c.candidate? n = some cand)
    (hvar : cand'.variants = cand.variants) :
    ({ c with packages := putSorted n cand' c.packages, graph := g } : Concretization).discovered +
      cand.dependencyCount = c.discovered + cand'.dependencyCount := by
  have h := discovered_putSorted_packages hc.packages_ascend n cand'
  simp only [hcand, Option.map_some, Option.getD_some, hvar] at h
  change ({ c with packages := putSorted n cand' c.packages } : Concretization).discovered +
    cand.dependencyCount = _
  omega

end Replace

/-! ## Expanding a closed candidate again -/

/-- A target of a closed candidate is expanded again without effect: its applicable
dependencies are recorded and linked, and the target is discovered. -/
theorem expandTarget_of_closed (hc : c.Coherent) {name t : String} {cand : Candidate} {p : Package}
    {deps : List Dependency} {ch ch' : Bool} (hcand : c.candidate? name = some cand)
    (hp : c.catalog.get? name = some p) (he : (t, deps) ∈ p.dependencies)
    (hclosed : c.Closed name cand)
    (h : expandTarget name cand.spec (c, ch) (t, deps) = .ok (c', ch')) :
    SameFinds c c' ∧ ch' = ch := by
  have happ : ∀ d ∈ deps.filter (·.condition.mayApply cand.spec), cand.records d = true ∧
      ⟨some name, t, .depends d.phases⟩ ∈ c.graph.edges ∧ c.Discovers t := by
    intro d hd
    rw [List.mem_filter] at hd
    exact hclosed p hp (t, deps) he d hd.1 hd.2
  rcases expandTarget_cases h with ⟨-, rfl, rfl⟩ | ⟨hne, c₁, new, hreach, hnext⟩
  · exact ⟨.refl _, rfl⟩
  obtain ⟨d, hd⟩ := List.exists_mem_of_ne_nil _ hne
  obtain ⟨-, -, -, -, -, -, -, hnew, hsame⟩ := reachTarget_facts hc hreach
  obtain rfl := hnew (happ d hd).2.2
  have hsame := hsame rfl
  have hcand₁ : c₁.candidate? name = some cand := by rw [hsame.candidate?_eq, hcand]
  rcases hnext with ⟨hnone, -, -⟩ | ⟨cand₁, cand', g', hcand', hfold, rfl⟩
  · rw [hcand₁] at hnone
    cases hnone
  rw [hcand₁, Option.some.injEq] at hcand'
  subst hcand'
  rw [foldl_recordDependency_of_recorded _
    fun d hd => ⟨(happ d hd).1, hsame.edges_eq ▸ (happ d hd).2.1⟩] at hfold
  simp only [Prod.mk.injEq] at hfold
  obtain ⟨rfl, rfl, rfl⟩ := hfold
  refine ⟨hsame.trans ⟨rfl, ?_, rfl, rfl⟩, Bool.or_false _⟩
  exact putSorted_eq_self (hsame.coherent hc).packages_ascend hcand₁

/-- Expanding a closed candidate again changes nothing that was discovered and reports nothing
new. -/
theorem expandPackage_of_closed (hc : c.Coherent) {name : String} {cand : Candidate} {ch : Bool}
    (hcand : c.candidate? name = some cand) (hclosed : c.Closed name cand)
    (h : c.expandPackage name = .ok (c', ch)) : SameFinds c c' ∧ ch = false := by
  unfold expandPackage at h
  split at h
  · rename_i p hp
    rw [hcand] at h
    dsimp only at h
    -- every target keeps what was discovered, so the candidate stays closed throughout
    refine foldlM_ok_induct (fun _ r => SameFinds c r.1 ∧ r.2 = false) ⟨⟨rfl, rfl, rfl, by simp⟩, rfl⟩
      ?_ h
    rintro pre ⟨t, deps⟩ ⟨c₁, ch₁⟩ ⟨c₂, ch₂⟩ hpre ⟨hsame, rfl⟩ hstep
    have he : (t, deps) ∈ p.dependencies := hpre.subset (by simp)
    obtain ⟨hsame₂, rfl⟩ := expandTarget_of_closed (hsame.coherent hc)
      (by rw [hsame.candidate?_eq, hcand]) (by rw [hsame.catalog_eq, hp]) he
      (hsame.closed_iff.2 hclosed) hstep
    exact ⟨hsame.trans hsame₂, rfl⟩
  · cases h

/-! ## Expanding a candidate that has recorded nothing -/

/-- The state after expanding the targets `pre` of package `name`, from `c₀` where its
candidate `cand₀` had recorded nothing: the dependencies of `pre` that may apply are recorded
and linked and their targets discovered, and the measure has grown as soon as anything was
reported or recorded. -/
structure Expanding (c₀ : Concretization) (name : String) (cand₀ : Candidate)
    (pre : List (String × List Dependency)) (c : Concretization) (ch : Bool) : Prop where
  coherent : c.Coherent
  grows : Grows c₀ c
  settled : c.SettledExcept name
  passes_eq : c.passes = c₀.passes
  discovered_le : c₀.discovered ≤ c.discovered
  candidate : ∃ cand, c.candidate? name = some cand ∧ cand.spec = cand₀.spec ∧
    cand.variants = cand₀.variants ∧ cand.dependencyCount ≤ (pre.map (·.2.length)).sum ∧
    (∀ e ∈ pre, ∀ d ∈ e.2, d.condition.mayApply cand₀.spec = true →
      cand.records d = true ∧ ⟨some name, e.1, .depends d.phases⟩ ∈ c.graph.edges ∧
        c.Discovers e.1) ∧
    (ch = true ∨ 0 < cand.dependencyCount → c₀.discovered < c.discovered)
  unchanged : ch = false → SameFinds c₀ c

theorem Expanding.start {name : String} {cand₀ : Candidate} (hc : c.Coherent)
    (hs : c.SettledExcept name) (hcand : c.candidate? name = some cand₀)
    (hfresh : cand₀.dependencies = []) : Expanding c name cand₀ [] c false where
  coherent := hc
  grows := .refl c
  settled := hs
  passes_eq := rfl
  discovered_le := le_refl _
  candidate := ⟨cand₀, hcand, rfl, rfl, by simp [Candidate.dependencyCount, hfresh, total],
    by simp, fun h => by simp [Candidate.dependencyCount, hfresh, total] at h⟩
  unchanged _ := .refl c

/-- The dependencies of a prefix of the targets fit in the recipe's count. -/
theorem sum_prefix_le {pre : List (String × List Dependency)} {p : Package} {t : String}
    {deps : List Dependency} (hpre : pre ++ [(t, deps)] <+: p.dependencies) :
    (pre.map (·.2.length)).sum + deps.length ≤ p.dependencyCount := by
  obtain ⟨rest, hrest⟩ := hpre
  simp only [Package.dependencyCount, ← hrest, List.map_append, List.sum_append, List.map_cons,
    List.map_nil, List.sum_cons, List.sum_nil]
  omega

/-- One more target of a candidate that had recorded nothing. -/
theorem Expanding.step {c₀ : Concretization} {name t : String} {cand₀ : Candidate} {p : Package}
    {pre : List (String × List Dependency)} {deps : List Dependency} {ch ch' : Bool}
    (hE : Expanding c₀ name cand₀ pre c ch) (hp : c₀.catalog.get? name = some p)
    (hpre : pre ++ [(t, deps)] <+: p.dependencies)
    (h : expandTarget name cand₀.spec (c, ch) (t, deps) = .ok (c', ch')) :
    Expanding c₀ name cand₀ (pre ++ [(t, deps)]) c' ch' := by
  obtain ⟨cand, hcand, hspec, hvar, hcount, hdone, hgrew⟩ := hE.candidate
  have hsum := sum_prefix_le hpre
  rcases expandTarget_cases h with ⟨hnil, rfl, rfl⟩ | ⟨hne, c₁, new, hreach, hnext⟩
  · -- no dependency on `t` may apply: nothing changes
    refine { hE with candidate := ⟨cand, hcand, hspec, hvar, ?_, ?_, hgrew⟩ }
    · simp only [List.map_append, List.sum_append, List.map_cons, List.map_nil, List.sum_cons,
        List.sum_nil]
      omega
    · intro e he d hd happ
      rcases List.mem_append.1 he with he | he
      · exact hdone e he d hd happ
      · rw [List.mem_singleton] at he
        subst he
        have : d ∈ deps.filter (·.condition.mayApply cand₀.spec) := List.mem_filter.2 ⟨hd, happ⟩
        simp [hnil] at this
  obtain ⟨hc₁, hg₁, hkeep₁, hset₁, hdisc₁, hdt₁, hpass₁, -, hsame₁⟩ :=
    reachTarget_facts hE.coherent hreach
  have hcand₁ := hkeep₁ name cand hcand
  rcases hnext with ⟨hnone, -, -⟩ | ⟨cand₁, cand', g', hcand', hfold, rfl⟩
  · rw [hcand₁] at hnone
    cases hnone
  rw [hcand₁, Option.some.injEq] at hcand'
  subst hcand'
  obtain ⟨hspec', hvar', hasc', hmono, hall, hedges, hle, hge, -, hfix⟩ := foldl_recordDependency _
    cand cand' c₁.graph g' _ ch' (hc₁.dependencies_ascend _ (mem_of_lookup hcand₁)) hfold
  -- the recipe bounds the recorded dependencies and the declarations
  have hp₁ : c₁.catalog.get? name = some p := by rw [hg₁.catalog_eq, hE.grows.catalog_eq, hp]
  obtain ⟨p', hp', -, hvarp⟩ := hc₁.candidates_known _ (mem_of_lookup hcand₁)
  rw [hp₁, Option.some.injEq] at hp'
  subst hp'
  have hlen : (deps.filter (·.condition.mayApply cand₀.spec)).length ≤ deps.length :=
    List.length_filter_le _ _
  have hg' : Grows c₁ { c₁ with packages := putSorted name cand' c₁.packages, graph := g' } :=
    Grows.replaceCandidate hedges
  have hdisc' := discovered_replaceCandidate hc₁ hcand₁ hvar' (g := g')
  have hreach_le : c.discovered ≤ c₁.discovered := by split_ifs at hdisc₁ <;> omega
  have hpos : 0 < cand'.dependencyCount := by
    obtain ⟨d, hd⟩ := List.exists_mem_of_ne_nil _ hne
    exact Candidate.pos_dependencyCount_of_records (hall d hd).1
  have hE₀ := hE.discovered_le
  refine ⟨hc₁.replaceCandidate hp₁ hasc' (by omega) (by rw [hvar']; exact hvarp) hedges,
    hE.grows.trans (hg₁.trans hg'), (hset₁ name hE.settled).replaceCandidate hedges,
    by rw [← hE.passes_eq, ← hpass₁], by omega,
    ⟨cand', by simp [candidate?], hspec'.trans hspec, hvar'.trans hvar, ?_, ?_, ?_⟩, ?_⟩
  · simp only [List.map_append, List.sum_append, List.map_cons, List.map_nil, List.sum_cons,
      List.sum_nil]
    omega
  · intro e he d hd happ
    rcases List.mem_append.1 he with he | he
    · obtain ⟨hr, hedge, hdis⟩ := hdone e he d hd happ
      exact ⟨hmono d hr, hedges (hg₁.edges hedge), hdis.grows (hg₁.trans hg')⟩
    · rw [List.mem_singleton] at he
      subst he
      obtain ⟨hr, hedge⟩ := hall d (List.mem_filter.2 ⟨hd, happ⟩)
      exact ⟨hr, hedge, hdt₁.grows hg'⟩
  · -- the first dependency recorded is new, and counts
    intro _
    by_cases h0 : cand.dependencyCount = 0
    · omega
    · have := hgrew (.inr (Nat.pos_of_ne_zero h0))
      omega
  · -- a target that reports nothing new recorded nothing new
    intro hch
    obtain ⟨hor, rfl, rfl⟩ := hfix hch
    obtain ⟨hch₀, hnew⟩ := Bool.or_eq_false_iff.1 hor
    refine (hE.unchanged hch₀).trans ((hsame₁ hnew).trans ⟨rfl, ?_, rfl, rfl⟩)
    exact putSorted_eq_self hc₁.packages_ascend hcand₁

/-! ## Expanding one package -/

theorem expandTarget_passes {name t : String} {s : Spec} {deps : List Dependency} {ch ch' : Bool}
    (h : expandTarget name s (c, ch) (t, deps) = .ok (c', ch')) : c'.passes = c.passes := by
  rcases expandTarget_cases h with ⟨-, rfl, -⟩ | ⟨-, c₁, new, hreach, hnext⟩
  · rfl
  · have := (reachTarget_cases hreach).1
    rcases hnext with ⟨-, rfl, -⟩ | ⟨-, -, -, -, -, rfl⟩ <;> exact this

theorem expandPackage_passes {name : String} {ch : Bool} (h : c.expandPackage name = .ok (c', ch)) :
    c'.passes = c.passes := by
  unfold expandPackage at h
  split at h
  · split at h
    · refine foldlM_ok_induct (fun _ r => r.1.passes = c.passes) rfl ?_ h
      rintro pre ⟨t, deps⟩ ⟨c₁, ch₁⟩ ⟨c₂, ch₂⟩ - hpass hstep
      exact (expandTarget_passes hstep).trans hpass
    · cases h
      rfl
  · cases h

/-- Expanding a candidate that has recorded nothing closes it; if it reports something new, the
measure has grown, and if not, nothing changed. -/
theorem expandPackage_of_fresh {name : String} {cand : Candidate} {ch : Bool} (hc : c.Coherent)
    (hs : c.SettledExcept name) (hcand : c.candidate? name = some cand)
    (hfresh : cand.dependencies = []) (h : c.expandPackage name = .ok (c', ch)) :
    Advances c c' ch ∧ ∃ cand', c'.candidate? name = some cand' ∧ c'.Closed name cand' := by
  have hpass := expandPackage_passes h
  unfold expandPackage at h
  split at h
  · rename_i p hp
    rw [hcand] at h
    dsimp only at h
    have hsame : SameFinds c { c with graph := c.graph.touch name false } :=
      ⟨rfl, rfl, rfl, by simp⟩
    -- the targets are expanded in order, each closing its own dependencies
    have hE := foldlM_ok_induct (fun pre r => Expanding { c with graph := c.graph.touch name false }
        name cand pre r.1 r.2)
      (Expanding.start (hsame.coherent hc) (hsame.settledExcept hs)
        (by rw [hsame.candidate?_eq, hcand]) hfresh)
      (by
        rintro pre ⟨t, deps⟩ ⟨c₁, ch₁⟩ ⟨c₂, ch₂⟩ hpre hE hstep
        exact hE.step hp hpre hstep) h
    obtain ⟨cand', hcand', hspec', -, -, hdone, hgrew⟩ := hE.candidate
    have hclosed : c'.Closed name cand' := by
      intro p' hp' e he d hd happ
      rw [hE.grows.catalog_eq, hp, Option.some.injEq] at hp'
      subst hp'
      exact hdone e he d hd (hspec' ▸ happ)
    refine ⟨⟨hE.coherent, hE.settled.settled hE.coherent.packages_ascend hcand' hclosed,
      hsame.grows.trans hE.grows, hpass, ?_, fun hch => ?_, fun hch => hsame.trans (hE.unchanged hch)⟩,
      cand', hcand', hclosed⟩
    · rw [← hsame.discovered_eq]
      exact hE.discovered_le
    · rw [← hsame.discovered_eq]
      exact hgrew (.inl hch)
  · cases h

/-- The step the package half of a pass is made of: expanding one package keeps the tables
coherent and settled, reports something new only when the measure grows, and leaves the
package's candidate closed. -/
theorem expandPackage_facts {name : String} {ch : Bool} (hc : c.Coherent) (hs : c.Settled)
    (h : c.expandPackage name = .ok (c', ch)) :
    Advances c c' ch ∧ ∀ cand, c'.candidate? name = some cand → c'.Closed name cand := by
  cases hcand : c.candidate? name with
  | none =>
    unfold expandPackage at h
    split at h
    · rw [hcand] at h
      cases h
      exact ⟨.refl hc hs, by simp [hcand]⟩
    · cases h
  | some cand =>
    rcases hs (name, cand) (mem_of_lookup hcand) with hfresh | hclosed
    · obtain ⟨hadv, cand', hcand', hclosed⟩ := expandPackage_of_fresh hc (hs.except name) hcand hfresh h
      refine ⟨hadv, fun cand'' hcand'' => ?_⟩
      rw [hcand', Option.some.injEq] at hcand''
      exact hcand'' ▸ hclosed
    · obtain ⟨hsame, rfl⟩ := expandPackage_of_closed hc hcand hclosed h
      refine ⟨hsame.advances hc hs (expandPackage_passes h), fun cand' hcand' => ?_⟩
      rw [hsame.candidate?_eq, hcand, Option.some.injEq] at hcand'
      exact hcand' ▸ hsame.closed_iff.2 hclosed

end Concretization

end BuildSpec
