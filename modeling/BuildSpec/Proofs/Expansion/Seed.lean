import BuildSpec.Proofs.Expansion.Pass

/-!
# Requests and seeding

Before the first pass the requested specs are filed (`fileRequest`, through `addRequest`), which
touches nothing that is discovered, and then merged into candidates (`seed`, through
`mergeSpec`), each new candidate holding its spec and its recipe's declarations and nothing
recorded yet. So the first pass starts from coherent tables where every candidate is fresh
(`prepare_facts`).
-/

namespace BuildSpec

namespace Concretization

variable {c c' : Concretization}

/-! ## Filing requests -/

/-- Filing a request and its dependencies changes only the lists of requested specs. -/
theorem addRequest_eq (c : Concretization) (s : Spec) (b : Bool) :
    ∀ c', c.addRequest s b = .ok c' → ∃ leaf needed, c' = { c with leaf, needed } := by
  -- a request and the list of its dependencies are filed by mutual recursion
  refine addRequest.induct
    (fun c s b => ∀ c', c.addRequest s b = .ok c' → ∃ leaf needed, c' = { c with leaf, needed })
    (fun c l => ∀ c', c.addRequests l = .ok c' → ∃ leaf needed, c' = { c with leaf, needed })
    ?_ ?_ ?_ ?_ ?_ c s b
  · intro c versions variants compiler deps concrete explicit n hv s _ c' h
    simp [addRequest, hv, stop, bind, Except.bind] at h
  · intro c versions variants compiler deps concrete explicit n hv s ih c' h
    simp only [addRequest, hv] at h
    by_cases hk : c.catalog.contains n
    · simp only [hk, Bool.not_true, Bool.false_eq_true, ↓reduceIte] at h
      obtain ⟨leaf, needed, rfl⟩ := ih c' h
      split_ifs <;> exact ⟨leaf, needed, rfl⟩
    · simp [hk, stop, bind, Except.bind] at h
  · intro c name versions variants compiler deps concrete explicit hname c' h
    cases name with
    | none => simp [addRequest, stop] at h
    | some n => exact absurd rfl (hname n)
  · intro c c' h
    simp only [addRequests, Except.ok.injEq] at h
    exact ⟨c.leaf, c.needed, h.symm⟩
  · intro c d ds ih₁ ih₂ c' h
    simp only [addRequests, except_bind_eq_ok] at h
    obtain ⟨c₁, h₁, h₂⟩ := h
    obtain ⟨leaf₁, needed₁, rfl⟩ := ih₁ c₁ h₁
    obtain ⟨leaf, needed, rfl⟩ := ih₂ _ c' h₂
    exact ⟨leaf, needed, rfl⟩

theorem addRequest_keeps (c : Concretization) (s : Spec) (b : Bool) :
    ∀ c', c.addRequest s b = .ok c' → SameFinds c c' ∧ c'.passes = c.passes := by
  intro c' h
  obtain ⟨leaf, needed, rfl⟩ := addRequest_eq c s b c' h
  exact ⟨⟨rfl, rfl, rfl, rfl⟩, rfl⟩

theorem fileRequest_keeps {s : Spec} (h : c.fileRequest s = .ok c') :
    SameFinds c c' ∧ c'.passes = c.passes := by
  simp only [fileRequest, except_bind_eq_ok, except_pure_eq_ok] at h
  obtain ⟨c₁, h₁, rfl⟩ := h
  obtain ⟨hsame, hp⟩ := addRequest_keeps c s false c₁ h₁
  exact ⟨⟨hsame.catalog_eq, hsame.packages_eq, hsame.virtuals_eq, hsame.edges_eq⟩, hp⟩

/-! ## Seeding candidates -/

/-- What merging a seed spec can do: constrain the spec of its package's candidate, or make
the package's first candidate from it. -/
theorem mergeSpec_cases {s : Spec} (h : c.mergeSpec s = .ok c') :
    ∃ name, s.name = some name ∧ (c.catalog.get? name).isSome ∧
      c'.passes = c.passes ∧ c'.leaf = c.leaf ∧ c'.needed = c.needed ∧
      ((∃ existing merged ch, c.candidate? name = some existing ∧
          existing.spec.constrain s = .ok (merged, ch) ∧
          SameFinds { c with packages := putSorted name { existing with spec := merged } c.packages } c') ∨
       (c.candidate? name = none ∧ ∃ cand, newCandidate c.catalog name s = .ok cand ∧
          SameFinds { c with packages := putSorted name cand c.packages } c')) := by
  unfold mergeSpec at h
  split at h
  case h_2 => cases h
  rename_i name hname
  simp only [except_bind_eq_ok] at h
  obtain ⟨_, -, h⟩ := h
  split at h
  case h_2 => cases h
  rename_i p hp
  refine ⟨name, hname, by simp [hp], ?_⟩
  split at h
  · rename_i existing hexisting
    simp only [except_bind_eq_ok, except_pure_eq_ok] at h
    obtain ⟨_, -, ⟨merged, ch⟩, hmerge, _, rfl, rfl⟩ := h
    cases hcon : existing.spec.constrain s with
    | error e => simp [lift, hcon, Except.mapError] at hmerge
    | ok r =>
      simp only [lift, hcon, Except.mapError, Except.ok.injEq] at hmerge
      subst hmerge
      refine ⟨?_, ?_, ?_, .inl ⟨existing, merged, ch, hexisting, hcon, ?_⟩⟩ <;>
        split_ifs <;> first | rfl | exact ⟨rfl, rfl, rfl, by simp⟩
  · rename_i hnone
    simp only [except_bind_eq_ok, except_pure_eq_ok] at h
    obtain ⟨cand, hcand, _, rfl, rfl⟩ := h
    cases hnew : newCandidate c.catalog name s with
    | error e => simp [lift, hnew, Except.mapError] at hcand
    | ok cand₀ =>
      simp only [lift, note_catalog, hnew, Except.mapError, Except.ok.injEq] at hcand
      subst hcand
      exact ⟨rfl, rfl, rfl, .inr ⟨hnone, cand₀, rfl,
        ⟨rfl, rfl, rfl, by simp⟩⟩⟩

/-- Every candidate is fresh: none has recorded a dependency. -/
def Fresh (c : Concretization) : Prop := ∀ e ∈ c.packages, e.2.dependencies = []

theorem Fresh.settled (hf : c.Fresh) : c.Settled := fun e he => .inl (hf e he)

/-- Tables with nothing discovered are coherent. -/
theorem coherent_of_empty (hp : c.packages = []) (hv : c.virtuals = []) : c.Coherent where
  packages_ascend := hp ▸ keysAscend_nil
  virtuals_ascend := hv ▸ keysAscend_nil
  dependencies_ascend e he := by simp [hp] at he
  providers_nodup e he := by simp [hv] at he
  providers_linked e he := by simp [hv] at he
  providers_known e he := by simp [hv] at he
  candidates_known e he := by simp [hp] at he
  virtuals_provided e he := by simp [hv] at he

/-- More edges keep the tables coherent. -/
theorem Coherent.withGraph {g : Graph} (hc : c.Coherent) (hg : c.graph.edges ⊆ g.edges) :
    ({ c with graph := g } : Concretization).Coherent :=
  { hc with providers_linked := fun e he pn hpn => hg (hc.providers_linked e he pn hpn) }

/-- Merging a seed spec keeps the tables coherent and the candidates fresh. -/
theorem mergeSpec_facts {s : Spec} (hc : c.Coherent) (hf : c.Fresh)
    (h : c.mergeSpec s = .ok c') : c'.Coherent ∧ c'.Fresh ∧ c'.passes = c.passes := by
  obtain ⟨name, -, -, hpass, -, -, hcases⟩ := mergeSpec_cases h
  refine ⟨?_, ?_, hpass⟩ <;> rcases hcases with ⟨existing, merged, ch, hex, -, hsame⟩ | ⟨hnone, cand, hnew, hsame⟩
  · -- the candidate keeps its records and declarations, under the merged spec
    have hmem := mem_of_lookup hex
    obtain ⟨p, hp, hcount, hvar⟩ := hc.candidates_known _ hmem
    exact hsame.coherent (hc.replaceCandidate (g := c.graph) hp (hc.dependencies_ascend _ hmem)
      hcount hvar (List.Subset.refl _))
  · obtain ⟨p, hp, rfl⟩ := newCandidate_eq_ok hnew
    exact hsame.coherent (hc.addCandidate hp rfl (by simpa using length_foldl_addVariant_le p.decls []))
  · intro e he
    rw [hsame.packages_eq] at he
    rcases mem_putSorted he with rfl | he
    · exact hf (name, existing) (mem_of_lookup hex)
    · exact hf e he
  · intro e he
    rw [hsame.packages_eq] at he
    rcases mem_putSorted he with rfl | he
    · obtain ⟨p, -, rfl⟩ := newCandidate_eq_ok hnew
      rfl
    · exact hf e he

/-- Seeding keeps the tables coherent and the candidates fresh. -/
theorem seed_facts (hc : c.Coherent) (hf : c.Fresh) (h : c.seed = .ok c') :
    c'.Coherent ∧ c'.Fresh ∧ c'.passes = c.passes := by
  simp only [seed, except_bind_eq_ok] at h
  obtain ⟨c₁, hleaf, hneeded⟩ := h
  have h₁ := foldlM_ok_induct (fun _ r => r.Coherent ∧ r.Fresh ∧ r.passes = c.passes) ⟨hc, hf, rfl⟩
    (by
      rintro _ s acc r _ ⟨hc', hf', hp'⟩ hstep
      simp only [except_bind_eq_ok, except_pure_eq_ok] at hstep
      obtain ⟨c₂, hmerge, rfl⟩ := hstep
      obtain ⟨hc₂, hf₂, hp₂⟩ := mergeSpec_facts hc' hf' hmerge
      exact ⟨hc₂.withGraph (Graph.edges_subset_addEdgeOnce _ _), hf₂, hp₂.trans hp'⟩) hleaf
  refine foldlM_ok_induct (fun _ r => r.Coherent ∧ r.Fresh ∧ r.passes = c.passes) h₁ ?_ hneeded
  rintro _ s acc r _ ⟨hc', hf', hp'⟩ hstep
  obtain ⟨hc₂, hf₂, hp₂⟩ := mergeSpec_facts hc' hf' hstep
  exact ⟨hc₂, hf₂, hp₂.trans hp'⟩

/-- The first pass starts from coherent tables, every candidate fresh, and no pass counted. -/
theorem prepare_facts {cat : Catalog} {prefs : Prefs} {specs : List Spec}
    (h : prepare cat prefs specs = .ok c) : c.Coherent ∧ c.Settled ∧ c.passes = 0 := by
  simp only [prepare, except_bind_eq_ok] at h
  obtain ⟨c₁, hfile, hseed⟩ := h
  -- filing the requests discovers nothing
  have h₁ := foldlM_ok_induct (fun _ r => r.packages = [] ∧ r.virtuals = [] ∧ r.passes = 0)
    ⟨rfl, rfl, rfl⟩
    (by
      rintro _ s acc r _ ⟨hp, hv, hn⟩ hstep
      obtain ⟨hsame, hpass⟩ := fileRequest_keeps hstep
      exact ⟨hsame.packages_eq.trans hp, hsame.virtuals_eq.trans hv, hpass.trans hn⟩) hfile
  obtain ⟨hp, hv, hn⟩ := h₁
  obtain ⟨hc, hf, hpass⟩ := seed_facts (coherent_of_empty hp hv) (by simp [Fresh, hp]) hseed
  exact ⟨hc, hf.settled, hpass.trans hn⟩

end Concretization

end BuildSpec
