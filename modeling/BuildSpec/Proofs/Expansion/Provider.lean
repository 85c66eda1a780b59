import BuildSpec.Proofs.Expansion.Target

/-!
# Expanding one virtual package

A virtual package is expanded by visiting the providers the catalog lists for it
(`addProvider`): a provider whose candidate's spec excludes the provision is skipped, one with no
candidate yet gets a fresh one, and each provider visited is filed under the virtual package and
linked to it in the graph (`linkProvider`).

`expandVirtual_facts` is the step the virtual half of a pass is made of: the tables stay
coherent and settled, and something new is reported only with a new provider or candidate.
-/

namespace BuildSpec

namespace Concretization

variable {c c' : Concretization}

/-! ## Filing a provider -/

section File

variable {name pn : String} {ps : List String} {g : Graph}

theorem Coherent.addProvider (hc : c.Coherent) (hv : c.virtual? name = some ps)
    (hpn : pn ∈ keysOf c.packages) (hg : c.graph.edges ⊆ g.edges)
    (hedge : ⟨some name, pn, .providedBy⟩ ∈ g.edges) :
    ({ c with
      virtuals := putSorted name (Graph.sortedNames (ps ++ [pn])) c.virtuals, graph := g } :
        Concretization).Coherent where
  packages_ascend := hc.packages_ascend
  virtuals_ascend := hc.virtuals_ascend.putSorted _ _
  dependencies_ascend := hc.dependencies_ascend
  providers_nodup e he := by
    rcases mem_putSorted he with rfl | he
    · exact nodup_sortedNames _
    · exact hc.providers_nodup e he
  providers_linked e he q hq := by
    rcases mem_putSorted he with rfl | he
    · rw [mem_sortedNames, List.mem_append, List.mem_singleton] at hq
      rcases hq with hq | rfl
      · exact hg (hc.providers_linked (name, ps) (mem_of_lookup hv) q hq)
      · exact hedge
    · exact hg (hc.providers_linked e he q hq)
  providers_known e he q hq := by
    rcases mem_putSorted he with rfl | he
    · rw [mem_sortedNames, List.mem_append, List.mem_singleton] at hq
      rcases hq with hq | rfl
      · exact hc.providers_known (name, ps) (mem_of_lookup hv) q hq
      · exact hpn
    · exact hc.providers_known e he q hq
  candidates_known := hc.candidates_known
  virtuals_provided e he := by
    rcases mem_putSorted he with rfl | he
    · exact hc.virtuals_provided (name, ps) (mem_of_lookup hv)
    · exact hc.virtuals_provided e he

theorem Grows.addProvider (pn : String) (hv : c.virtual? name = some ps) (hg : c.graph.edges ⊆ g.edges) :
    Grows c { c with
      virtuals := putSorted name (Graph.sortedNames (ps ++ [pn])) c.virtuals, graph := g } where
  catalog_eq := rfl
  candidates _ h := h
  virtuals v ps' hv' := by
    by_cases hn : v = name
    · subst hn
      rw [hv, Option.some.injEq] at hv'
      subst hv'
      exact ⟨Graph.sortedNames (ps ++ [pn]), by simp [virtual?], fun q hq => by simp [hq]⟩
    · exact ⟨ps', by simpa [virtual?, lookup_putSorted_of_ne hn] using hv', List.Subset.refl _⟩
  edges := hg

/-- Filing a provider filed and linked already adds only its node. -/
theorem linkProvider_of_mem (hv : c.virtual? name = some ps) (hmem : pn ∈ ps)
    (hedge : ⟨some name, pn, .providedBy⟩ ∈ c.graph.edges) :
    c.linkProvider name pn = ({ c with graph := c.graph.touch pn false }, false) := by
  have hv' : ({ c with graph := c.graph.touch pn false } : Concretization).virtual? name = some ps :=
    hv
  simp [linkProvider, hv', hmem, Graph.addEdgeOnce_of_mem (g := c.graph.touch pn false) (by simpa using hedge)]

/-- Filing a provider of a virtual package: nothing new when it was filed already (its edge is
there too), else one provider more. -/
theorem linkProvider_facts (name pn : String) (hc : c.Coherent) (hs : c.Settled) (hv : c.virtual? name = some ps)
    (hpn : pn ∈ keysOf c.packages) :
    Advances c (c.linkProvider name pn).1 (c.linkProvider name pn).2 := by
  have hsame : SameFinds c { c with graph := c.graph.touch pn false } := ⟨rfl, rfl, rfl, by simp⟩
  have hv' : ({ c with graph := c.graph.touch pn false } : Concretization).virtual? name = some ps :=
    hv
  by_cases hmem : pn ∈ ps
  · -- filed and linked already
    rw [linkProvider_of_mem hv hmem (hc.providers_linked (name, ps) (mem_of_lookup hv) pn hmem)]
    exact hsame.advances hc hs rfl
  · -- a new provider
    have hlink : c.linkProvider name pn =
        ({ c with
            virtuals := putSorted name (Graph.sortedNames (ps ++ [pn])) c.virtuals,
            graph := ((c.graph.touch pn false).addEdgeOnce ⟨some name, pn, .providedBy⟩).1 },
          true) := by
      simp [linkProvider, hv', hmem]
    rw [hlink]
    have hg : c.graph.edges ⊆ ((c.graph.touch pn false).addEdgeOnce ⟨some name, pn, .providedBy⟩).1.edges := by
      simpa using Graph.edges_subset_addEdgeOnce (c.graph.touch pn false) _
    have hgrow := Grows.addProvider pn hv hg
    have hdisc := discovered_putSorted_virtuals hc.virtuals_ascend name (Graph.sortedNames (ps ++ [pn]))
    have hnodup : (ps ++ [pn]).Nodup :=
      List.nodup_append.2 ⟨hc.providers_nodup (name, ps) (mem_of_lookup hv), List.nodup_singleton pn,
        fun a ha b hb => by rintro rfl; simp_all⟩
    rw [length_sortedNames hnodup, hv] at hdisc
    simp only [Option.map_some, Option.getD_some, List.length_append, List.length_singleton] at hdisc
    refine ⟨hc.addProvider hv hpn hg (Graph.mem_addEdgeOnce _ _), hs.grows hgrow rfl, hgrow, rfl,
      ?_, fun _ => ?_, nofun⟩
    · change c.discovered ≤ ({ c with virtuals := putSorted name _ c.virtuals } : Concretization).discovered
      omega
    · change c.discovered < ({ c with virtuals := putSorted name _ c.virtuals } : Concretization).discovered
      omega

end File

/-! ## Visiting a provider -/

theorem lift_eq_ok {α : Type} {r : Except Error α} {a : α} (h : c.lift r = .ok a) : r = .ok a := by
  cases r <;> simp_all [lift, Except.mapError]

/-- Visiting a provider, by its cases: a provision without a name is skipped; so is a provider
whose candidate's spec excludes the provision, with a log record; a provider with a candidate is
filed; one without gets a fresh candidate first, which is something new. -/
theorem addProvider_eq_ok {name : String} {provider : Spec} {ch ch' : Bool}
    (h : addProvider name (c, ch) provider = .ok (c', ch')) :
    (provider.name = none ∧ c' = c ∧ ch' = ch) ∨
    (∃ pn existing m, provider.name = some pn ∧ c.candidate? pn = some existing ∧
      existing.spec.satisfies provider false = false ∧
      c' = c.note .debug Log.expansionArea m ∧ ch' = ch) ∨
    (∃ pn existing, provider.name = some pn ∧ c.candidate? pn = some existing ∧
      existing.spec.satisfies provider false = true ∧
      c' = (c.linkProvider name pn).1 ∧ ch' = (ch || (c.linkProvider name pn).2)) ∨
    (∃ pn cand m, provider.name = some pn ∧ c.candidate? pn = none ∧
      newCandidate c.catalog pn (Spec.named pn) = .ok cand ∧
      c' = (({ c.note .debug Log.expansionArea m with packages := putSorted pn cand c.packages } :
        Concretization).linkProvider name pn).1 ∧ ch' = true) := by
  unfold addProvider at h
  dsimp only at h
  split at h
  case h_2 hname =>
    simp only [except_pure_eq_ok, Prod.mk.injEq] at h
    exact .inl ⟨Option.eq_none_iff_forall_ne_some.2 hname, h.1.symm, h.2.symm⟩
  rename_i pn hname
  split at h
  · rename_i existing hex
    split_ifs at h with hsat
    · simp only [except_pure_eq_ok, Prod.mk.injEq] at h
      exact .inr (.inl ⟨pn, existing, _, hname, hex, by simpa using hsat, h.1.symm, h.2.symm⟩)
    · simp only [except_pure_eq_ok, Prod.mk.injEq] at h
      exact .inr (.inr (.inl ⟨pn, existing, hname, hex, by simpa using hsat, h.1.symm, h.2.symm⟩))
  · rename_i hnone
    simp only [except_bind_eq_ok, except_pure_eq_ok, Prod.mk.injEq] at h
    obtain ⟨cand, hcand, h⟩ := h
    exact .inr (.inr (.inr ⟨pn, cand, _, hname, hnone, by simpa using lift_eq_ok hcand,
      h.1.symm, h.2.symm⟩))

/-- A fresh candidate for a package of the catalog is something new. -/
theorem Advances.addCandidate {t : String} {s : Spec} {cand : Candidate} (hc : c.Coherent)
    (hs : c.Settled) (hnone : c.candidate? t = none)
    (hnew : newCandidate c.catalog t s = .ok cand) :
    Advances c { c with packages := putSorted t cand c.packages } true := by
  obtain ⟨p, hp, rfl⟩ := newCandidate_eq_ok hnew
  have hdisc := discovered_putSorted_packages hc.packages_ascend t
    { spec := s, variants := p.decls.foldl Candidate.addVariant [] }
  simp only [hnone, Option.map_none, Option.getD_none] at hdisc
  refine ⟨hc.addCandidate hp rfl ?_, hs.addCandidate hnone rfl, Grows.addCandidate hnone, rfl,
    by omega, fun _ => by omega, nofun⟩
  simpa using length_foldl_addVariant_le p.decls []

theorem addProvider_facts {name : String} {ps : List String} {provider : Spec} {ch ch' : Bool}
    (hc : c.Coherent) (hs : c.Settled) (hv : c.virtual? name = some ps)
    (h : addProvider name (c, ch) provider = .ok (c', ch')) :
    ∃ new, ch' = (ch || new) ∧ Advances c c' new := by
  rcases addProvider_eq_ok h with ⟨-, rfl, rfl⟩ | ⟨pn, existing, m, -, -, -, rfl, rfl⟩ |
    ⟨pn, existing, -, hex, -, rfl, rfl⟩ | ⟨pn, cand, m, -, hnone, hnew, rfl, rfl⟩
  · -- a provision without a name is skipped
    exact ⟨false, by simp, .refl hc hs⟩
  · -- the candidate's spec excludes the provision
    exact ⟨false, by simp, (SameFinds.note c _ _ _).advances hc hs rfl⟩
  · exact ⟨_, rfl, linkProvider_facts name pn hc hs hv (mem_keys_of_lookup hex)⟩
  · -- a fresh candidate, then the provider filed
    have h₁ := (SameFinds.note c .debug Log.expansionArea m).advances hc hs rfl
    have h₂ := Advances.addCandidate h₁.coherent h₁.settled (by simpa using hnone) (by simpa using hnew)
    have h₃ := linkProvider_facts name pn h₂.coherent h₂.settled
      (by simpa [virtual?] using hv) (mem_keys_putSorted.2 (.inl rfl))
    exact ⟨true, by simp, by simpa using h₁.trans (h₂.trans h₃)⟩

/-- The step the virtual half of a pass is made of: expanding a virtual package keeps the tables
coherent and settled, and reports something new only when the measure grows. -/
theorem expandVirtual_facts {name : String} {ch : Bool} (hc : c.Coherent) (hs : c.Settled)
    (hv : (c.virtual? name).isSome) (h : c.expandVirtual name = .ok (c', ch)) :
    Advances c c' ch := by
  unfold expandVirtual at h
  have hsame : SameFinds c { c with graph := c.graph.touch name true } := ⟨rfl, rfl, rfl, by simp⟩
  obtain ⟨ps, hps⟩ := Option.isSome_iff_exists.1 hv
  refine foldlM_ok_induct (fun _ r => Advances c r.1 r.2) (hsame.advances hc hs rfl) ?_ h
  rintro pre provider ⟨c₁, ch₁⟩ ⟨c₂, ch₂⟩ - hA hstep
  obtain ⟨ps₁, hps₁, -⟩ := hA.grows.virtuals name ps hps
  obtain ⟨new, rfl, hA'⟩ := addProvider_facts hA.coherent hA.settled hps₁ hstep
  exact hA.trans hA'

end Concretization

end BuildSpec
