import BuildSpec.Proofs.Discovery.Sound
import BuildSpec.Proofs.Expansion.Seed

/-!
# Seeding is sound

Filing the requests lists, as leaf specs, each request without its dependencies and, as needed
specs, its `^` dependencies in order (`fileRequests_seeds`): together the seeds
`Spec.requestSeeds`. Seeding then merges them in that order (`Seeding`): after a prefix of the
seeds, the candidates are exactly the packages the prefix names, each holding the spec the
prefix seeds it with (`seedSpec`), its recipe's declarations, and nothing recorded. So the first
pass starts from a sound state (`prepare_sound`).
-/

namespace BuildSpec

namespace Concretization

variable {c c' : Concretization}

/-! ## Filing the requests -/

/-- Filing a request lists it without its dependencies, as leaf or needed, then its needed
seeds. -/
theorem addRequest_files (c : Concretization) (s : Spec) (b : Bool) :
    ∀ c', c.addRequest s b = .ok c' →
      c'.leaf = c.leaf ++ (if b then [] else [s.withoutDependencies]) ∧
      c'.needed = c.needed ++ (if b then [s.withoutDependencies] else []) ++ s.neededSeeds := by
  -- a request and the list of its dependencies are filed by mutual recursion
  refine addRequest.induct
    (fun c s b => ∀ c', c.addRequest s b = .ok c' →
      c'.leaf = c.leaf ++ (if b then [] else [s.withoutDependencies]) ∧
      c'.needed = c.needed ++ (if b then [s.withoutDependencies] else []) ++ s.neededSeeds)
    (fun c l => ∀ c', c.addRequests l = .ok c' →
      c'.leaf = c.leaf ∧ c'.needed = c.needed ++ Spec.neededSeedsOf l)
    ?_ ?_ ?_ ?_ ?_ c s b
  · intro c versions variants compiler deps concrete explicit n hv s _ c' h
    simp [addRequest, hv, stop, bind, Except.bind] at h
  · intro c versions variants compiler deps concrete explicit n hv s ih c' h
    simp only [addRequest, hv] at h
    by_cases hk : c.catalog.contains n
    · simp only [hk, Bool.not_true, Bool.false_eq_true, ↓reduceIte] at h
      obtain ⟨hleaf, hneeded⟩ := ih c' h
      cases explicit <;> exact ⟨by simp [hleaf, s], by simp [hneeded, s, Spec.neededSeeds]⟩
    · simp [hk, stop, bind, Except.bind] at h
  · intro c name versions variants compiler deps concrete explicit hname c' h
    cases name with
    | none => simp [addRequest, stop] at h
    | some n => exact absurd rfl (hname n)
  · intro c c' h
    simp only [addRequests, Except.ok.injEq] at h
    subst h
    simp [Spec.neededSeedsOf]
  · intro c d ds ih₁ ih₂ c' h
    simp only [addRequests, except_bind_eq_ok] at h
    obtain ⟨c₁, h₁, h₂⟩ := h
    obtain ⟨hl₁, hn₁⟩ := ih₁ c₁ h₁
    obtain ⟨hl₂, hn₂⟩ := ih₂ c₁ c' h₂
    simp [hl₂, hl₁, hn₂, hn₁, Spec.neededSeedsOf]

/-- Filing the requests lists the seeds of each, leaf specs apart from needed ones. -/
theorem fileRequests_seeds {specs : List Spec} {c₀ : Concretization}
    (h : specs.foldlM fileRequest c₀ = .ok c) :
    c.leaf = c₀.leaf ++ specs.map Spec.withoutDependencies ∧
    c.needed = c₀.needed ++ specs.flatMap Spec.neededSeeds ∧ SameFinds c₀ c := by
  refine foldlM_ok_induct (fun pre r => r.leaf = c₀.leaf ++ pre.map Spec.withoutDependencies ∧
      r.needed = c₀.needed ++ pre.flatMap Spec.neededSeeds ∧ SameFinds c₀ r)
    ⟨by simp, by simp, .refl _⟩ ?_ h
  rintro pre s acc r - ⟨hl, hn, hsame⟩ hstep
  have hsame' := (fileRequest_keeps hstep).1
  simp only [fileRequest, except_bind_eq_ok, except_pure_eq_ok] at hstep
  obtain ⟨c₁, h₁, rfl⟩ := hstep
  obtain ⟨hl₁, hn₁⟩ := addRequest_files acc s false c₁ h₁
  refine ⟨?_, ?_, hsame.trans hsame'⟩
  · simp [hl₁, hl]
  · simp [hn₁, hn]

/-! ## Merging the seeds -/

/-- The state after seeding the specs `pre`: its catalog is `cat`, no virtual package is known,
and the candidates are those of the packages `pre` names, each holding the spec `pre` seeds it
with, its recipe's declarations and nothing recorded. -/
structure Seeding (cat : Catalog) (pre : List Spec) (c : Concretization) : Prop where
  catalog_eq : c.catalog = cat
  virtuals_eq : c.virtuals = []
  candidates : ∀ n, (c.candidate? n).isSome ↔ ∃ s ∈ pre, s.name = some n
  faithful : ∀ n cand, c.candidate? n = some cand → seedSpec pre n = .ok cand.spec ∧
    (∃ p, cat.get? n = some p ∧ cand.variants = p.decls) ∧ cand.dependencies = []

theorem Seeding.sameFinds {cat : Catalog} {pre : List Spec} (hI : Seeding cat pre c)
    (h : SameFinds c c') : Seeding cat pre c' where
  catalog_eq := h.catalog_eq.trans hI.catalog_eq
  virtuals_eq := h.virtuals_eq.trans hI.virtuals_eq
  candidates n := by rw [h.candidate?_eq]; exact hI.candidates n
  faithful n cand hcand := hI.faithful n cand (by rwa [h.candidate?_eq] at hcand)

/-- Merging one more seed: its package's spec is constrained by it, or made from it. -/
theorem Seeding.mergeSpec {cat : Catalog} (hw : cat.WellFormed) {pre : List Spec} {s : Spec}
    (hI : Seeding cat pre c) (h : c.mergeSpec s = .ok c') : Seeding cat (pre ++ [s]) c' := by
  obtain ⟨name, hname, -, -, -, -, hcases⟩ := mergeSpec_cases h
  -- what the other packages are seeded with is untouched
  have hother : ∀ n, n ≠ name → seedSpec (pre ++ [s]) n = seedSpec pre n := fun n hn =>
    seedSpec_append_of_ne (by rw [hname]; simpa using Ne.symm hn)
  have hnamed : ∀ n,
      (∃ t ∈ pre ++ [s], t.name = some n) ↔ n = name ∨ ∃ t ∈ pre, t.name = some n := by
    intro n
    simp only [List.mem_append, List.mem_singleton]
    constructor
    · rintro ⟨t, ht | rfl, htn⟩
      · exact .inr ⟨t, ht, htn⟩
      · rw [hname, Option.some.injEq] at htn
        exact .inl htn.symm
    · rintro (rfl | ⟨t, ht, htn⟩)
      · exact ⟨s, .inr rfl, hname⟩
      · exact ⟨t, .inl ht, htn⟩
  -- the tables after putting the new candidate of `name`
  have hput : ∀ cand, (∀ n cand', n = name → cand' = cand →
      seedSpec (pre ++ [s]) n = .ok cand'.spec ∧
        (∃ p, cat.get? n = some p ∧ cand'.variants = p.decls) ∧ cand'.dependencies = []) →
      Seeding cat (pre ++ [s]) { c with packages := putSorted name cand c.packages } := by
    intro cand hnew
    refine ⟨hI.catalog_eq, hI.virtuals_eq, fun n => ?_, fun n cand' hcand' => ?_⟩
    · simp only [candidate?, lookup_putSorted, hnamed]
      split_ifs with hn
      · simp [hn]
      · simp [hn, ← hI.candidates n, candidate?]
    · simp only [candidate?, lookup_putSorted] at hcand'
      split_ifs at hcand' with hn
      · exact hnew n cand' hn (Option.some.inj hcand').symm
      · rw [hother n hn]
        exact hI.faithful n cand' hcand'
  rcases hcases with ⟨existing, merged, ch, hex, hcon, hsame⟩ | ⟨hnone, cand, hnew, hsame⟩
  · -- a later seed of `name` constrains its spec
    obtain ⟨hsp, hvar, hdeps⟩ := hI.faithful name existing hex
    have hsome : ∃ t ∈ pre, t.name = some name := (hI.candidates name).1 (by simp [hex])
    refine (hput _ ?_).sameFinds hsame
    rintro n cand' rfl rfl
    exact ⟨seedSpec_append_constrain hsome hsp hname hcon, hvar, hdeps⟩
  · -- the first seed of `name` makes its candidate
    have hfirst : ∀ t ∈ pre, t.name ≠ some name := by
      intro t ht htn
      have := (hI.candidates name).2 ⟨t, ht, htn⟩
      rw [hnone] at this
      cases this
    obtain ⟨p, hp, rfl⟩ := newCandidate_eq_ok hnew
    refine (hput _ ?_).sameFinds hsame
    rintro n cand' rfl rfl
    have hp' : cat.get? n = some p := by rw [← hI.catalog_eq]; exact hp
    exact ⟨seedSpec_append_first hfirst hname, ⟨p, hp', (hw.get hp').foldl_addVariant⟩, rfl⟩

/-- Seeding merges the leaf specs, then the needed ones. -/
theorem seed_seeding {cat : Catalog} (hw : cat.WellFormed) (hI : Seeding cat [] c)
    (h : c.seed = .ok c') : Seeding cat (c.leaf ++ c.needed) c' := by
  simp only [seed, except_bind_eq_ok] at h
  obtain ⟨c₁, hleaf, hneeded⟩ := h
  have h₁ := foldlM_ok_induct (fun pre r => Seeding cat pre r ∧ r.needed = c.needed) ⟨hI, rfl⟩
    (by
      rintro pre s acc r - ⟨hI', hn⟩ hstep
      simp only [except_bind_eq_ok, except_pure_eq_ok] at hstep
      obtain ⟨c₂, hmerge, rfl⟩ := hstep
      obtain ⟨-, -, -, -, -, hn₂, -⟩ := mergeSpec_cases hmerge
      -- the requested edge is no part of what seeding holds
      have hI₂ := hI'.mergeSpec hw hmerge
      exact ⟨⟨hI₂.catalog_eq, hI₂.virtuals_eq, hI₂.candidates, hI₂.faithful⟩, hn₂.trans hn⟩) hleaf
  rw [h₁.2] at hneeded
  refine foldlM_ok_induct (fun pre r => Seeding cat (c.leaf ++ pre) r) (by simpa using h₁.1) ?_
    hneeded
  rintro pre s acc r - hI' hstep
  simpa using hI'.mergeSpec hw hstep

/-- The state a build prepares holds the seeds of its requests and nothing else. -/
theorem prepare_seeding {cat : Catalog} {prefs : Prefs} {specs : List Spec} (hw : cat.WellFormed)
    (h : prepare cat prefs specs = .ok c) : Seeding cat (Spec.requestSeeds specs) c := by
  simp only [prepare, except_bind_eq_ok] at h
  obtain ⟨c₁, hfile, hseed⟩ := h
  obtain ⟨hleaf, hneeded, hsame⟩ := fileRequests_seeds hfile
  have h₀ : Seeding cat [] c₁ := by
    refine (Seeding.sameFinds ⟨rfl, rfl, fun n => ?_, fun n cand h => ?_⟩ hsame)
    · simp [candidate?]
    · simp [candidate?] at h
  have hI := seed_seeding hw h₀ hseed
  rw [hleaf, hneeded] at hI
  simp only [List.nil_append] at hI
  exact hI

/-- The first pass of a build starts from a sound state over its catalog. -/
theorem prepare_sound {cat : Catalog} {prefs : Prefs} {specs : List Spec} (hw : cat.WellFormed)
    (h : prepare cat prefs specs = .ok c) :
    Sound (Spec.requestSeeds specs) c ∧ c.catalog = cat := by
  have hI := prepare_seeding hw h
  refine ⟨⟨fun s hs n hn => (hI.candidates n).2 ⟨s, hs, hn⟩, fun n cand hcand => ?_,
    fun v hv => ?_⟩, hI.catalog_eq⟩
  · obtain ⟨hsp, ⟨p, hp, hvar⟩, hdeps⟩ := hI.faithful n cand hcand
    obtain ⟨s, hs, hn⟩ := (hI.candidates n).1 (by simp [hcand])
    rw [hI.catalog_eq]
    exact ⟨.seeded hs hn, hsp, p, hp, hvar, by simp [hdeps]⟩
  · simp [virtual?, hI.virtuals_eq] at hv

end Concretization

end BuildSpec
