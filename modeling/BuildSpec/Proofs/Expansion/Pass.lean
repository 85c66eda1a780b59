import BuildSpec.Proofs.Expansion.Provider

/-!
# One expansion pass

A pass expands the packages known at its start, then every virtual package known after them.
Each expansion is a step that keeps the tables coherent and settled and grows the measure
`discovered`, strictly when it reports something new (`expandPackage_facts`,
`expandVirtual_facts`); a pass chains them (`pass_facts`). So a pass that reports something new
has discovered something, and the passes of a run never outnumber what was discovered.
-/

namespace BuildSpec

namespace Concretization

variable {c c' : Concretization}

theorem visitPackage_facts {n : String} {acc r : Concretization × Bool} (hc : acc.1.Coherent)
    (hs : acc.1.Settled) (h : visitPackage acc n = .ok r) :
    ∃ ch, r.2 = (acc.2 || ch) ∧ Advances acc.1 r.1 ch := by
  simp only [visitPackage, except_bind_eq_ok, except_pure_eq_ok] at h
  obtain ⟨⟨c₁, ch₁⟩, hexp, rfl⟩ := h
  exact ⟨ch₁, rfl, (expandPackage_facts hc hs hexp).1⟩

theorem visitVirtual_facts {n : String} {acc r : Concretization × Bool} (hc : acc.1.Coherent)
    (hs : acc.1.Settled) (hv : (acc.1.virtual? n).isSome) (h : visitVirtual acc n = .ok r) :
    ∃ ch, r.2 = (acc.2 || ch) ∧ Advances acc.1 r.1 ch := by
  simp only [visitVirtual, except_bind_eq_ok, except_pure_eq_ok] at h
  obtain ⟨⟨c₁, ch₁⟩, hexp, rfl⟩ := h
  exact ⟨ch₁, rfl, expandVirtual_facts hc hs hv hexp⟩

/-- A pass taken apart: it counts itself and notes that it starts, changing neither the tables
nor the graph, then visits the candidates known then, then the virtual packages known after them. -/
theorem pass_eq_ok {ch : Bool} (h : c.pass = .ok (c', ch)) :
    ∃ c₀ c₂ ch₂, SameFinds c c₀ ∧ c₀.graph = c.graph ∧ c₀.passes = c.passes + 1 ∧
      (c₀.packages.map (·.1)).foldlM visitPackage (c₀, false) = .ok (c₂, ch₂) ∧
      (c₂.virtuals.map (·.1)).foldlM visitVirtual (c₂, ch₂) = .ok (c', ch) := by
  unfold pass at h
  simp only [except_bind_eq_ok] at h
  obtain ⟨⟨c₂, ch₂⟩, hpkg, hvirt⟩ := h
  refine ⟨_, c₂, ch₂, ?_, ?_, ?_, hpkg, hvirt⟩
  exacts [⟨rfl, rfl, rfl, rfl⟩, rfl, rfl]

/-- The virtual half of a pass visits the virtual packages known when it starts, and every
state it passes through has grown from that one, so each is known when it is visited. -/
theorem Grows.virtual?_isSome {c₂ : Concretization} {n : String} (hg : Grows c₂ c)
    (hn : n ∈ keysOf c₂.virtuals) : (c.virtual? n).isSome := by
  obtain ⟨ps, hps⟩ := Option.isSome_iff_exists.1 (lookup_isSome_iff_mem_keys.2 hn)
  obtain ⟨ps', hps', -⟩ := hg.virtuals n ps hps
  simp [hps']

/-- The two halves of a pass, from the state `c₀` it starts in. -/
theorem visitAll_facts {c₀ c₂ : Concretization} {ch₂ ch : Bool} (hc : c₀.Coherent)
    (hs : c₀.Settled)
    (hpkg : (c₀.packages.map (·.1)).foldlM visitPackage (c₀, false) = .ok (c₂, ch₂))
    (hvirt : (c₂.virtuals.map (·.1)).foldlM visitVirtual (c₂, ch₂) = .ok (c', ch)) :
    Advances c₀ c' ch := by
  have h₂ := foldlM_ok_induct (fun _ r => Advances c₀ r.1 r.2) (.refl hc hs)
    (by
      rintro _ _ acc r _ hA hstep
      obtain ⟨ch, hr, hA'⟩ := visitPackage_facts hA.coherent hA.settled hstep
      rw [hr]
      exact hA.trans hA') hpkg
  -- the virtual packages visited are those known after the packages, and they stay known
  refine (foldlM_ok_induct (fun _ r => Advances c₀ r.1 r.2 ∧ Grows c₂ r.1) ⟨h₂, .refl c₂⟩ ?_
    hvirt).1
  rintro pre n acc r hpre ⟨hA, hg⟩ hstep
  obtain ⟨ch, hr, hA'⟩ :=
    visitVirtual_facts hA.coherent hA.settled (hg.virtual?_isSome (hpre.subset (by simp))) hstep
  rw [hr]
  exact ⟨hA.trans hA', hg.trans hA'.grows⟩

/-- The run lemma of a pass for a property of its states: when the property survives the start
of the pass, and expanding a package or a virtual package from a coherent and settled state that
has grown from `c` keeps it, the pass keeps it. -/
theorem pass_keeps (Q : Concretization → Prop) (hc : c.Coherent) (hs : c.Settled)
    (hstart : ∀ c₀, SameFinds c c₀ → c₀.graph = c.graph → Q c → Q c₀)
    (hpkg : ∀ c₁ c₂ n ch, Grows c c₁ → c₁.Coherent → c₁.Settled → Q c₁ →
      c₁.expandPackage n = .ok (c₂, ch) → Q c₂)
    (hvirt : ∀ c₁ c₂ n ch, Grows c c₁ → c₁.Coherent → c₁.Settled → (c₁.virtual? n).isSome →
      Q c₁ → c₁.expandVirtual n = .ok (c₂, ch) → Q c₂)
    (hQ : Q c) {ch : Bool} (h : c.pass = .ok (c', ch)) : Q c' := by
  obtain ⟨c₀, c₂, ch₂, hsame, hgraph, -, hpkg', hvirt'⟩ := pass_eq_ok h
  -- the package half, each step from a coherent and settled state
  have h₂ := foldlM_ok_induct (fun _ r => Advances c₀ r.1 r.2 ∧ Q r.1)
    ⟨.refl (hsame.coherent hc) (hsame.settled hs), hstart c₀ hsame hgraph hQ⟩
    (by
      rintro _ n acc r _ ⟨hA, hQ₁⟩ hstep
      simp only [visitPackage, except_bind_eq_ok, except_pure_eq_ok] at hstep
      obtain ⟨⟨c₁, ch₁⟩, hexp, rfl⟩ := hstep
      exact ⟨hA.trans (expandPackage_facts hA.coherent hA.settled hexp).1,
        hpkg _ _ _ _ (hsame.grows.trans hA.grows) hA.coherent hA.settled hQ₁ hexp⟩) hpkg'
  -- the virtual half, over the virtual packages known after the package half, which stay
  refine (foldlM_ok_induct (fun _ r => Advances c₀ r.1 r.2 ∧ Grows c₂ r.1 ∧ Q r.1)
    ⟨h₂.1, .refl c₂, h₂.2⟩ ?_ hvirt').2.2
  rintro pre n acc r hpre ⟨hA, hg, hQ₁⟩ hstep
  have hv : (acc.1.virtual? n).isSome := hg.virtual?_isSome (hpre.subset (by simp))
  simp only [visitVirtual, except_bind_eq_ok, except_pure_eq_ok] at hstep
  obtain ⟨⟨c₃, ch₃⟩, hexp, rfl⟩ := hstep
  have hA' := expandVirtual_facts hA.coherent hA.settled hv hexp
  exact ⟨hA.trans hA', hg.trans hA'.grows,
    hvirt _ _ _ _ (hsame.grows.trans hA.grows) hA.coherent hA.settled hv hQ₁ hexp⟩

/-- A pass keeps the tables coherent and settled, counts itself, and reports something new only
when the measure has grown. -/
theorem pass_facts {ch : Bool} (hc : c.Coherent) (hs : c.Settled) (h : c.pass = .ok (c', ch)) :
    c'.Coherent ∧ c'.Settled ∧ Grows c c' ∧ c'.passes = c.passes + 1 ∧
      c.discovered ≤ c'.discovered ∧ (ch = true → c.discovered < c'.discovered) := by
  obtain ⟨c₀, c₂, ch₂, hsame, -, hpass, hpkg, hvirt⟩ := pass_eq_ok h
  have hA := visitAll_facts (hsame.coherent hc) (hsame.settled hs) hpkg hvirt
  exact ⟨hA.coherent, hA.settled, hsame.grows.trans hA.grows, hA.passes_eq.trans hpass,
    hsame.discovered_eq ▸ hA.discovered_le, fun hch => hsame.discovered_eq ▸ hA.discovered_lt hch⟩

end Concretization

end BuildSpec
