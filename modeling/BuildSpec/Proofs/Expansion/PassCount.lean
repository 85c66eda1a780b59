import BuildSpec.Proofs.Expansion.Graph

/-!
# How many passes a build runs

A pass visits the candidates known at its start, then every virtual package. It changes a
candidate only while visiting it, and leaves it closed (`expandPackage_facts`); it leaves every
virtual package saturated: each provider has a candidate, filed under the virtual package unless
the candidate's spec excludes the provision (`expandVirtual_saturated`). So a pass that makes no
new candidate leaves nothing to do (`Quiet`, `pass_quiet`), and the pass after it reports nothing
new (`pass_of_quiet`).

Hence each pass after the first that reports something new follows a pass that made a
candidate. Main statement (`build_passes_le`): with `s` distinct package names among the seeds
of the requests, a build runs at most `packages - s + 2` passes, exactly one when nothing is
requested, and at most `N + E` for a catalog of `N ≥ 1` recipes declaring `E` dependencies.
-/

namespace BuildSpec

namespace Concretization

variable {c c' : Concretization}

/-! ## What a step leaves alone -/

/-- Discovering a target leaves every candidate as it was. -/
theorem reachTarget_candidate? {name t : String} {app : List Dependency} {new : Bool}
    (h : c.reachTarget name t app = .ok (c', new)) {n : String} {cand : Candidate}
    (hn : c.candidate? n = some cand) : c'.candidate? n = some cand := by
  rcases (reachTarget_cases h).2 with ⟨-, -, hsame⟩ | ⟨-, -, -, hsame⟩ |
    ⟨-, -, hnone, _, -, hsame⟩
  · rwa [hsame.candidate?_eq]
  · rwa [hsame.candidate?_eq]
  · have hne : n ≠ t := by
      rintro rfl
      rw [hnone] at hn
      cases hn
    rw [hsame.candidate?_eq, candidate?_addCandidate_of_ne hne, hn]

/-- Expanding one target of `name` leaves every other candidate as it was. -/
theorem expandTarget_candidate? {name : String} {s : Spec} {ch ch' : Bool} {t : String}
    {deps : List Dependency} (h : expandTarget name s (c, ch) (t, deps) = .ok (c', ch'))
    {n : String} {cand : Candidate} (hne : n ≠ name) (hn : c.candidate? n = some cand) :
    c'.candidate? n = some cand := by
  rcases expandTarget_cases h with ⟨-, rfl, -⟩ | ⟨-, c₁, new, hreach, hrest⟩
  · exact hn
  have hn₁ := reachTarget_candidate? hreach hn
  rcases hrest with ⟨-, rfl, -⟩ | ⟨-, cand', g', -, -, rfl⟩
  · exact hn₁
  · simpa [candidate?, lookup_putSorted_of_ne hne] using hn₁

/-- Expanding a package leaves every other candidate as it was. -/
theorem expandPackage_candidate? {name : String} {ch : Bool}
    (h : c.expandPackage name = .ok (c', ch)) {n : String} {cand : Candidate} (hne : n ≠ name)
    (hn : c.candidate? n = some cand) : c'.candidate? n = some cand := by
  unfold expandPackage at h
  split at h
  case h_2 => cases h
  split at h
  case h_2 =>
    cases h
    exact hn
  refine foldlM_ok_induct (fun _ r => r.1.candidate? n = some cand) hn ?_ h
  rintro - ⟨t, deps⟩ ⟨c₁, ch₁⟩ ⟨c₂, ch₂⟩ - hn₁ hstep
  exact expandTarget_candidate? hstep hne hn₁

/-- Adding a provider leaves every candidate as it was. -/
theorem addProvider_candidate? {name : String} {provider : Spec} {ch ch' : Bool}
    (hv : (c.virtual? name).isSome) (h : addProvider name (c, ch) provider = .ok (c', ch'))
    {n : String} {cand : Candidate} (hn : c.candidate? n = some cand) :
    c'.candidate? n = some cand := by
  obtain ⟨-, -, hpk, -⟩ := addProvider_cases hv h
  rcases hpk with hpk | ⟨pn, cand', hnone, -, -, hpk⟩
  · simpa [candidate?, hpk] using hn
  · have hne : n ≠ pn := by
      rintro rfl
      rw [hnone] at hn
      cases hn
    simpa [candidate?, hpk, lookup_putSorted_of_ne hne] using hn

/-- Expanding a virtual package leaves every candidate as it was. -/
theorem expandVirtual_candidate? {name : String} {ch : Bool} (hv : (c.virtual? name).isSome)
    (h : c.expandVirtual name = .ok (c', ch)) {n : String} {cand : Candidate}
    (hn : c.candidate? n = some cand) : c'.candidate? n = some cand := by
  unfold expandVirtual at h
  refine (foldlM_ok_induct (fun _ r => r.1.candidate? n = some cand ∧ (r.1.virtual? name).isSome)
    ⟨hn, hv⟩ ?_ h).1
  rintro - provider ⟨c₁, ch₁⟩ ⟨c₂, ch₂⟩ - ⟨hn₁, hv₁⟩ hstep
  obtain ⟨-, hvirt, -⟩ := addProvider_cases hv₁ hstep
  exact ⟨addProvider_candidate? hv₁ hstep hn₁, by rw [hvirt]; exact hv₁⟩

/-- Growth keeps the candidates of `c`; with keys that ascend, there are no fewer of them. -/
theorem Grows.keys_subset (hg : Grows c c') : keysOf c.packages ⊆ keysOf c'.packages :=
  fun n hn => lookup_isSome_iff_mem_keys.1 (hg.candidates n (lookup_isSome_iff_mem_keys.2 hn))

theorem Grows.length_le (hc : c.Coherent) (hg : Grows c c') :
    c.packages.length ≤ c'.packages.length := by
  have hle := ((nodup_keys hc.packages_ascend).subperm hg.keys_subset).length_le
  simpa [keysOf] using hle

/-- Growth that makes no new candidate keeps exactly the candidates there were. -/
theorem Grows.keys_eq (hc : c.Coherent) (hg : Grows c c')
    (hlen : c'.packages.length ≤ c.packages.length) {n : String}
    (hn : n ∈ keysOf c'.packages) : n ∈ keysOf c.packages := by
  have hperm := ((nodup_keys hc.packages_ascend).subperm hg.keys_subset).perm_of_length_le
    (by simpa [keysOf] using hlen)
  exact hperm.mem_iff.2 hn

/-- A step that grows the state and leaves a known candidate as it was keeps it closed. -/
theorem Closed.of_kept {c₁ : Concretization} {n : String} (hg : Grows c₁ c')
    (hn : n ∈ keysOf c₁.packages)
    (hkeep : ∀ cand, c₁.candidate? n = some cand → c'.candidate? n = some cand)
    (hclosed : ∀ cand, c₁.candidate? n = some cand → c₁.Closed n cand) {cand : Candidate}
    (hcand : c'.candidate? n = some cand) : c'.Closed n cand := by
  obtain ⟨cand₁, hcand₁⟩ : ∃ cand₁, c₁.candidate? n = some cand₁ :=
    Option.isSome_iff_exists.1 (lookup_isSome_iff_mem_keys.2 hn)
  rw [hkeep cand₁ hcand₁, Option.some.injEq] at hcand
  subst hcand
  exact Closed.grows hg rfl (fun _ h => h) (hclosed cand₁ hcand₁)

/-! ## Saturated virtual packages -/

/-- Every provider of virtual package `v` has a candidate, filed under `v` unless the
candidate's spec excludes the provision. -/
def Saturated (c : Concretization) (v : String) : Prop :=
  ∀ s ∈ c.catalog.providersFor v, ∀ pn, s.name = some pn → ∃ cand, c.candidate? pn = some cand ∧
    (cand.spec.satisfies s false = true → ∃ ps, c.virtual? v = some ps ∧ pn ∈ ps)

/-- Saturation survives growth that leaves the candidates alone. -/
theorem Saturated.grows {v : String} (hsat : c.Saturated v) (hg : Grows c c')
    (hk : ∀ n cand, c.candidate? n = some cand → c'.candidate? n = some cand) : c'.Saturated v := by
  intro s hs pn hpn
  rw [hg.catalog_eq] at hs
  obtain ⟨cand, hcand, hfile⟩ := hsat s hs pn hpn
  refine ⟨cand, hk pn cand hcand, fun hsat' => ?_⟩
  obtain ⟨ps, hps, hmem⟩ := hfile hsat'
  obtain ⟨ps', hps', hsub⟩ := hg.virtuals v ps hps
  exact ⟨ps', hps', hsub hmem⟩

/-- Filing a provider files it. -/
theorem linkProvider_files {name pn : String} {ps : List String} (hv : c.virtual? name = some ps) :
    ∃ ps', (c.linkProvider name pn).1.virtual? name = some ps' ∧ pn ∈ ps' := by
  rw [linkProvider_virtual? hv, if_pos rfl]
  refine ⟨_, rfl, ?_⟩
  split_ifs with hmem
  · exact hmem
  · simp

/-- After adding a provider, it has a candidate, filed under the virtual package unless the
candidate's spec excludes the provision. -/
theorem addProvider_files {name pn : String} {provider : Spec} {ch ch' : Bool}
    (hv : (c.virtual? name).isSome) (h : addProvider name (c, ch) provider = .ok (c', ch'))
    (hpn : provider.name = some pn) : ∃ cand, c'.candidate? pn = some cand ∧
      (cand.spec.satisfies provider false = true → ∃ ps, c'.virtual? name = some ps ∧ pn ∈ ps) := by
  obtain ⟨ps, hps⟩ := Option.isSome_iff_exists.1 hv
  rcases addProvider_eq_ok h with ⟨hname, -, -⟩ | ⟨pn', existing, m, hname, hex, hsat, rfl, rfl⟩ |
    ⟨pn', existing, hname, hex, -, rfl, rfl⟩ | ⟨pn', cand, m, hname, -, -, rfl, rfl⟩
  · rw [hname] at hpn
    cases hpn
  · -- the candidate's spec excludes the provision
    obtain rfl : pn' = pn := Option.some.inj (hname.symm.trans hpn)
    exact ⟨existing, by simpa using hex, fun h' => absurd h' (by simp [hsat])⟩
  · obtain rfl : pn' = pn := Option.some.inj (hname.symm.trans hpn)
    exact ⟨existing, by simpa [candidate?] using hex, fun _ => linkProvider_files hps⟩
  · -- a fresh candidate, filed whatever its spec
    obtain rfl : pn' = pn := Option.some.inj (hname.symm.trans hpn)
    exact ⟨cand, by simp [candidate?], fun _ => linkProvider_files hps⟩

/-- Expanding a virtual package saturates it. -/
theorem expandVirtual_saturated {name : String} {ch : Bool} (hc : c.Coherent) (hs : c.Settled)
    (hv : (c.virtual? name).isSome) (h : c.expandVirtual name = .ok (c', ch)) :
    c'.Saturated name := by
  unfold expandVirtual at h
  obtain ⟨ps, hps⟩ := Option.isSome_iff_exists.1 hv
  have hsame : SameFinds c { c with graph := c.graph.touch name true } := ⟨rfl, rfl, rfl, by simp⟩
  -- the providers added so far have their candidates, filed unless excluded
  have hF := foldlM_ok_induct (fun pre r => Advances c r.1 r.2 ∧ ∀ s ∈ pre, ∀ pn,
      s.name = some pn → ∃ cand, r.1.candidate? pn = some cand ∧
        (cand.spec.satisfies s false = true → ∃ ps, r.1.virtual? name = some ps ∧ pn ∈ ps))
    ⟨hsame.advances hc hs rfl, by simp⟩
    (by
      rintro pre provider ⟨c₁, ch₁⟩ ⟨c₂, ch₂⟩ - ⟨hA, hdone⟩ hstep
      obtain ⟨ps₁, hps₁, -⟩ := hA.grows.virtuals name ps hps
      have hv₁ : (c₁.virtual? name).isSome := by simp [hps₁]
      obtain ⟨new, rfl, hA'⟩ := addProvider_facts hA.coherent hA.settled hps₁ hstep
      refine ⟨hA.trans hA', fun s hs' pn hpn => ?_⟩
      rcases List.mem_append.1 hs' with hs' | hs'
      · obtain ⟨cand, hcand, hfile⟩ := hdone s hs' pn hpn
        refine ⟨cand, addProvider_candidate? hv₁ hstep hcand, fun hsat => ?_⟩
        obtain ⟨qs, hqs, hmem⟩ := hfile hsat
        obtain ⟨qs', hqs', hsub⟩ := hA'.grows.virtuals name qs hqs
        exact ⟨qs', hqs', hsub hmem⟩
      · rw [List.mem_singleton.1 hs'] at hpn ⊢
        exact addProvider_files hv₁ hstep hpn) h
  intro s hs' pn hpn
  exact hF.2 s (by rwa [hF.1.grows.catalog_eq] at hs') pn hpn

/-- Expanding a saturated virtual package finds nothing new. -/
theorem expandVirtual_of_saturated {name : String} {ch : Bool} (hc : c.Coherent)
    (hsat : c.Saturated name) (h : c.expandVirtual name = .ok (c', ch)) :
    ch = false ∧ SameFinds c c' := by
  unfold expandVirtual at h
  refine foldlM_ok_induct (fun _ r => r.2 = false ∧ SameFinds c r.1)
    ⟨rfl, rfl, rfl, rfl, by simp⟩ ?_ h
  rintro pre provider ⟨c₁, ch₁⟩ ⟨c₂, ch₂⟩ hpre ⟨rfl, hsame₁⟩ hstep
  have hprov : provider ∈ c.catalog.providersFor name := hpre.subset (by simp)
  rcases addProvider_eq_ok hstep with ⟨-, rfl, rfl⟩ | ⟨pn, existing, m, -, -, -, rfl, rfl⟩ |
    ⟨pn, existing, hpn, hex, hsat', rfl, rfl⟩ | ⟨pn, cand, m, hpn, hnone, -, rfl, rfl⟩
  · exact ⟨rfl, hsame₁⟩
  · exact ⟨rfl, hsame₁.trans (SameFinds.note _ _ _ _)⟩
  · -- the provider is filed already, and linked
    obtain ⟨cand, hcand, hfile⟩ := hsat provider hprov pn hpn
    rw [← hsame₁.candidate?_eq, hex, Option.some.injEq] at hcand
    subst hcand
    obtain ⟨qs, hqs, hmem⟩ := hfile hsat'
    have hqs₁ : c₁.virtual? name = some qs := by
      unfold virtual?
      rw [hsame₁.virtuals_eq]
      exact hqs
    have hedge := (hsame₁.coherent hc).providers_linked (name, qs) (mem_of_lookup hqs₁) pn hmem
    rw [linkProvider_of_mem hqs₁ hmem hedge]
    exact ⟨rfl, hsame₁.trans ⟨rfl, rfl, rfl, by simp⟩⟩
  · -- the provider has a candidate already
    obtain ⟨cand, hcand, -⟩ := hsat provider hprov pn hpn
    rw [← hsame₁.candidate?_eq, hnone] at hcand
    cases hcand

/-! ## Quiet states -/

/-- Nothing is left to do: every candidate is closed and every virtual package saturated. -/
structure Quiet (c : Concretization) : Prop where
  closed : ∀ n cand, c.candidate? n = some cand → c.Closed n cand
  saturated : ∀ v, (c.virtual? v).isSome → c.Saturated v

theorem Quiet.sameFinds (hq : c.Quiet) (h : SameFinds c c') : c'.Quiet where
  closed n cand hcand := h.closed_iff.2 (hq.closed n cand (by rwa [h.candidate?_eq] at hcand))
  saturated v hv := (hq.saturated v (by simpa [virtual?, h.virtuals_eq] using hv)).grows h.grows
    fun n cand hcand => by rwa [h.candidate?_eq]

/-- A pass from a quiet state reports nothing new. -/
theorem pass_of_quiet (hc : c.Coherent) (hq : c.Quiet) {ch : Bool} (h : c.pass = .ok (c', ch)) :
    ch = false := by
  obtain ⟨c₀, c₂, ch₂, hsame, -, -, hpkg, hvirt⟩ := pass_eq_ok h
  have hc₀ := hsame.coherent hc
  have hq₀ := hq.sameFinds hsame
  -- every candidate is closed, so the package half changes nothing
  have h₂ := foldlM_ok_induct (fun _ r => r.2 = false ∧ SameFinds c₀ r.1) ⟨rfl, .refl c₀⟩
    (by
      rintro - n ⟨c₁, ch₁⟩ r - ⟨rfl, hsame₁⟩ hstep
      simp only [visitPackage, except_bind_eq_ok, except_pure_eq_ok] at hstep
      obtain ⟨⟨c₃, ch₃⟩, hexp, rfl⟩ := hstep
      cases hcand : c₁.candidate? n with
      | none =>
        unfold expandPackage at hexp
        split at hexp
        · rw [hcand] at hexp
          cases hexp
          exact ⟨rfl, hsame₁⟩
        · cases hexp
      | some cand =>
        have hcl := (hq₀.sameFinds hsame₁).closed n cand hcand
        obtain ⟨hsame₃, rfl⟩ := expandPackage_of_closed (hsame₁.coherent hc₀) hcand hcl hexp
        exact ⟨rfl, hsame₁.trans hsame₃⟩) hpkg
  obtain ⟨rfl, hsame₂⟩ := h₂
  -- every virtual package is saturated, so the virtual half changes nothing either
  refine (foldlM_ok_induct (fun _ r => r.2 = false ∧ SameFinds c₂ r.1) ⟨rfl, .refl c₂⟩ ?_ hvirt).1
  rintro pre v ⟨c₁, ch₁⟩ r hpre ⟨rfl, hsame₁⟩ hstep
  simp only [visitVirtual, except_bind_eq_ok, except_pure_eq_ok] at hstep
  obtain ⟨⟨c₃, ch₃⟩, hexp, rfl⟩ := hstep
  have hq₁ := (hq₀.sameFinds hsame₂).sameFinds hsame₁
  have hv : (c₁.virtual? v).isSome := hsame₁.grows.virtual?_isSome (hpre.subset (by simp))
  obtain ⟨rfl, hsame₃⟩ :=
    expandVirtual_of_saturated ((hsame₂.trans hsame₁).coherent hc₀) (hq₁.saturated v hv) hexp
  exact ⟨rfl, hsame₁.trans hsame₃⟩

/-- A pass that makes no new candidate leaves a quiet state: it closed every candidate it
visited, which are all there are, and saturated every virtual package. -/
theorem pass_quiet (hc : c.Coherent) (hs : c.Settled) {ch : Bool} (h : c.pass = .ok (c', ch))
    (hlen : c'.packages.length ≤ c.packages.length) : c'.Quiet := by
  obtain ⟨c₀, c₂, ch₂, hsame, -, -, hpkg, hvirt⟩ := pass_eq_ok h
  -- the package half closes each candidate it visits and leaves the others alone
  have h₂ := foldlM_ok_induct (fun pre r => Advances c₀ r.1 r.2 ∧
      ∀ n ∈ pre, ∀ cand, r.1.candidate? n = some cand → r.1.Closed n cand)
    ⟨.refl (hsame.coherent hc) (hsame.settled hs), by simp⟩
    (by
      rintro pre m ⟨c₁, ch₁⟩ r hpre ⟨hA, hdone⟩ hstep
      simp only [visitPackage, except_bind_eq_ok, except_pure_eq_ok] at hstep
      obtain ⟨⟨c₃, ch₃⟩, hexp, rfl⟩ := hstep
      obtain ⟨hA', hclosed⟩ := expandPackage_facts hA.coherent hA.settled hexp
      refine ⟨hA.trans hA', fun n hn cand hcand => ?_⟩
      by_cases hnm : n = m
      · subst hnm
        exact hclosed cand hcand
      have hn' : n ∈ pre := by
        rcases List.mem_append.1 hn with hn | hn
        · exact hn
        · exact absurd (List.mem_singleton.1 hn) hnm
      -- `n` had a candidate, closed already, which expanding `m` left alone
      have hkey : n ∈ keysOf c₀.packages := hpre.subset (List.mem_append_left _ hn')
      exact Closed.of_kept hA'.grows (hA.grows.keys_subset hkey)
        (fun _ h => expandPackage_candidate? hexp hnm h) (hdone n hn') hcand) hpkg
  -- the virtual half saturates each virtual package and leaves the candidates alone
  have h₃ := foldlM_ok_induct (fun pre (r : Concretization × Bool) => Advances c₀ r.1 r.2 ∧
      (∀ n ∈ keysOf c₀.packages, ∀ cand, r.1.candidate? n = some cand → r.1.Closed n cand) ∧
      (∀ v ∈ pre, r.1.Saturated v) ∧ ∀ v, (r.1.virtual? v).isSome = (c₂.virtual? v).isSome)
    ⟨h₂.1, h₂.2, by simp, fun _ => rfl⟩
    (by
      rintro pre v ⟨c₁, ch₁⟩ r hpre ⟨hA, hdone, hsat, hvirt⟩ hstep
      simp only [visitVirtual, except_bind_eq_ok, except_pure_eq_ok] at hstep
      obtain ⟨⟨c₃, ch₃⟩, hexp, rfl⟩ := hstep
      have hv : (c₁.virtual? v).isSome := by
        rw [hvirt]
        exact lookup_isSome_iff_mem_keys.2 (hpre.subset (by simp))
      have hA' := expandVirtual_facts hA.coherent hA.settled hv hexp
      have hkeep : ∀ n cand, c₁.candidate? n = some cand → c₃.candidate? n = some cand :=
        fun n cand hn => expandVirtual_candidate? hv hexp hn
      refine ⟨hA.trans hA', fun n hn cand hcand => ?_, fun u hu => ?_,
        fun u => (expandVirtual_virtual?_isSome hv hexp u).trans (hvirt u)⟩
      · exact Closed.of_kept hA'.grows (hA.grows.keys_subset hn) (hkeep n) (hdone n hn) hcand
      · rcases List.mem_append.1 hu with hu | hu
        · exact (hsat u hu).grows hA'.grows hkeep
        · rw [List.mem_singleton.1 hu]
          exact expandVirtual_saturated hA.coherent hA.settled hv hexp) hvirt
  obtain ⟨hA₃, hclosed, hsat, hvirt'⟩ := h₃
  -- no new candidate: every candidate at the end was one at the start
  have hg : Grows c₀ c' := hA₃.grows
  have hlen₀ : c'.packages.length ≤ c₀.packages.length := by rw [hsame.packages_eq]; exact hlen
  refine ⟨fun n cand hcand => hclosed n (hg.keys_eq (hsame.coherent hc) hlen₀
    (mem_keys_of_lookup hcand)) cand hcand, fun v hv => hsat v ?_⟩
  rw [hvirt'] at hv
  exact lookup_isSome_iff_mem_keys.1 hv

/-! ## Counting the passes -/

/-- The number of distinct package names among the seeds of the requests: the leaf specs and,
recursively, the specs they need. -/
def seedCount (specs : List Spec) : Nat :=
  (Graph.sortedNames ((Spec.requestSeeds specs).filterMap (·.name))).length

/-- A request that files names its package. -/
theorem addRequest_named {s : Spec} {b : Bool} (h : c.addRequest s b = .ok c') : s.name.isSome := by
  obtain ⟨name, versions, variants, compiler, deps, concrete⟩ := s
  cases name with
  | none => simp [addRequest, stop] at h
  | some n => rfl

/-- Every request of a build that prepares names its package, so there is a seed name as soon
as there is a request. -/
theorem seedCount_pos {cat : Catalog} {prefs : Prefs} {specs : List Spec}
    (h : prepare cat prefs specs = .ok c) (hne : specs ≠ []) : 1 ≤ seedCount specs := by
  simp only [prepare, except_bind_eq_ok] at h
  obtain ⟨c₁, hfile, -⟩ := h
  have hnamed := foldlM_ok_induct (fun pre _ => ∀ s ∈ pre, s.name.isSome) (by simp)
    (by
      rintro pre s acc r - hpre hstep
      simp only [fileRequest, except_bind_eq_ok, except_pure_eq_ok] at hstep
      obtain ⟨c₂, h₂, -⟩ := hstep
      intro s' hs'
      rcases List.mem_append.1 hs' with hs' | hs'
      · exact hpre s' hs'
      · rw [List.mem_singleton.1 hs']
        exact addRequest_named h₂) hfile
  obtain ⟨s, hs⟩ := List.exists_mem_of_ne_nil specs hne
  obtain ⟨n, hn⟩ := Option.isSome_iff_exists.1 (hnamed s hs)
  have hmem : n ∈ Graph.sortedNames ((Spec.requestSeeds specs).filterMap (·.name)) :=
    mem_sortedNames.2 (List.mem_filterMap.2 ⟨s.withoutDependencies,
      List.mem_append_left _ (List.mem_map_of_mem hs), hn⟩)
  exact List.length_pos_of_mem hmem

/-- The state a build prepares has a candidate for each seed name. -/
theorem seedCount_le_prepare {cat : Catalog} {prefs : Prefs} {specs : List Spec}
    (hw : cat.WellFormed) (h : prepare cat prefs specs = .ok c) :
    seedCount specs ≤ c.packages.length := by
  have hI := prepare_seeding hw h
  have hsub : Graph.sortedNames ((Spec.requestSeeds specs).filterMap (·.name)) ⊆
      keysOf c.packages := by
    intro n hn
    rw [mem_sortedNames, List.mem_filterMap] at hn
    exact lookup_isSome_iff_mem_keys.1 ((hI.candidates n).2 hn)
  simpa [seedCount, keysOf] using (nodup_sortedNames _).length_le_of_subset hsub

/-- A state holding seeds only, each closed, leaves nothing to do. -/
theorem Seeding.quiet {cat : Catalog} {seeds : List Spec} (hI : Seeding cat seeds c)
    (hclosed : ∀ n cand, c.candidate? n = some cand → c.Closed n cand) : c.Quiet where
  closed := hclosed
  saturated v hv := by simp [virtual?, hI.virtuals_eq] at hv

/-- Without seed names, the state a build prepares has no candidate and leaves nothing to do. -/
theorem prepare_quiet_of_seedCount {cat : Catalog} {prefs : Prefs} {specs : List Spec}
    (hw : cat.WellFormed) (hs : seedCount specs = 0) (h : prepare cat prefs specs = .ok c) :
    c.Quiet := by
  have hI := prepare_seeding hw h
  refine hI.quiet fun n cand hcand => absurd hs ?_
  obtain ⟨s, hs', hn⟩ := (hI.candidates n).1 (by simp [hcand])
  have hmem : n ∈ Graph.sortedNames ((Spec.requestSeeds specs).filterMap (·.name)) :=
    mem_sortedNames.2 (List.mem_filterMap.2 ⟨s, hs', hn⟩)
  exact (List.length_pos_of_mem hmem).ne'

/-- Over recipes that declare no dependency, the state a build prepares leaves nothing to do. -/
theorem prepare_quiet_of_no_dependencies {cat : Catalog} {prefs : Prefs} {specs : List Spec}
    (hw : cat.WellFormed) (hE : (cat.recipes.map (·.dependencyCount)).sum = 0)
    (h : prepare cat prefs specs = .ok c) : c.Quiet := by
  have hI := prepare_seeding hw h
  refine hI.quiet fun n cand _ p hp e he d hd _ => ?_
  rw [hI.catalog_eq] at hp
  have hzero : p.dependencyCount = 0 :=
    List.sum_eq_zero_iff.1 hE _ (List.mem_map_of_mem (List.mem_map.2 ⟨(n, p), mem_of_lookup hp, rfl⟩))
  have hlen : e.2.length = 0 := List.sum_eq_zero_iff.1 hzero _ (List.mem_map_of_mem he)
  rw [List.length_eq_zero_iff] at hlen
  rw [hlen] at hd
  cases hd

/-- When the state a build prepares leaves nothing to do, the loop checks that state only. -/
theorem Checked.eq_prepared {cat : Catalog} {prefs : Prefs} {specs : List Spec}
    (hq : ∀ c₀, prepare cat prefs specs = .ok c₀ → c₀.Quiet) (h : Checked cat prefs specs c) :
    prepare cat prefs specs = .ok c := by
  induction h with
  | prepared hp => exact hp
  | passed hchk hp ih => exact absurd (pass_of_quiet hchk.checkable.coherent (hq _ ih) hp) (by simp)

/-- Along the loop of a build, the seed names and the passes run fit in the candidates: each
pass after the first that reported something new followed one that made a candidate, and a
state reached by a pass that made none is quiet. -/
theorem Checked.passes_le {cat : Catalog} {prefs : Prefs} {specs : List Spec}
    (hw : cat.WellFormed) (h : Checked cat prefs specs c) :
    seedCount specs ≤ c.packages.length ∧ (seedCount specs + c.passes ≤ c.packages.length ∨
      c.Quiet ∧ seedCount specs + c.passes ≤ c.packages.length + 1) := by
  induction h with
  | prepared hp =>
    have hs := seedCount_le_prepare hw hp
    rw [(prepare_facts hp).2.2]
    exact ⟨hs, .inl hs⟩
  | @passed c₁ c₂ hchk hp ih =>
    obtain ⟨hs, hle⟩ := ih
    have hk := hchk.checkable
    obtain ⟨-, -, hg, hpasses, -⟩ := pass_facts hk.coherent hk.settled hp
    have hlen := hg.length_le hk.coherent
    refine ⟨hs.trans hlen, ?_⟩
    rw [hpasses]
    rcases hle with hle | ⟨hq, -⟩
    · by_cases hnew : c₁.packages.length < c₂.packages.length
      · exact .inl (by omega)
      · exact .inr ⟨pass_quiet hk.coherent hk.settled hp (by omega), by omega⟩
    · -- a pass from a quiet state reports nothing new, unlike this one
      exact absurd (pass_of_quiet hk.coherent hq hp) (by simp)

/-- A successful build over recipes built one declaration at a time runs at most
`packages - s + 2` passes, `s` the number of distinct package names among the seeds of the
requests (at least one when something is requested, and at most the number of packages); it runs
exactly one pass when nothing is requested, and at most `N + E` for a catalog of `N ≥ 1` recipes
declaring `E` dependencies. -/
theorem build_passes_le {cat : Catalog} {prefs : Prefs} {specs : List Spec}
    (hcat : ∀ p ∈ cat.recipes, p.Built) (h : build cat prefs specs = .ok c) :
    (specs ≠ [] → 1 ≤ seedCount specs) ∧ seedCount specs ≤ c.packages.length ∧
    c.passes ≤ c.packages.length - seedCount specs + 2 ∧ (specs = [] → c.passes = 1) ∧
    (1 ≤ cat.size → c.passes ≤ cat.size + (cat.recipes.map (·.dependencyCount)).sum) := by
  have hw : cat.WellFormed := fun p hp => (hcat p hp).wellFormed
  have hprep : ∃ c₀, prepare cat prefs specs = .ok c₀ := by
    simp only [build, except_bind_eq_ok] at h
    obtain ⟨c₀, hc₀, -⟩ := h
    exact ⟨c₀, hc₀⟩
  obtain ⟨c₀, hc₀⟩ := hprep
  obtain ⟨c₁, c₂, m, hchk, hpass, rfl⟩ := build_last_pass h
  have hk := hchk.checkable
  obtain ⟨hc₂, -, hg, hpasses, -⟩ := pass_facts hk.coherent hk.settled hpass
  have hlen := hg.length_le hk.coherent
  obtain ⟨hs, hle⟩ := hchk.passes_le hw
  have hbound : c₂.passes + seedCount specs ≤ c₂.packages.length + 2 := by
    rcases hle with hle | ⟨-, hle⟩ <;> omega
  -- when the prepared state leaves nothing to do, the first pass is the last
  have hone : (∀ c₀, prepare cat prefs specs = .ok c₀ → c₀.Quiet) → c₂.passes = 1 := fun hq => by
    rw [hpasses, (prepare_facts (hchk.eq_prepared hq)).2.2]
  have hcat₂ : c₂.catalog = cat := hg.catalog_eq.trans (hchk.mirrors hw).2
  have hsub : c₂.passes ≤ c₂.packages.length - seedCount specs + 2 := by omega
  refine ⟨fun hne => seedCount_pos hc₀ hne, hs.trans hlen, hsub,
    fun hnil => hone fun c₀ hp => ?_, fun hN => ?_⟩
  · subst hnil
    have hnone : seedCount [] = 0 := List.length_eq_zero_iff.2
      (List.eq_nil_iff_forall_not_mem.2 fun n hn => by simp [Spec.requestSeeds] at hn)
    exact prepare_quiet_of_seedCount hw hnone hp
  · simp only [note_passes]
    by_cases hs0 : seedCount specs = 0
    · rw [hone fun c₀ hp => prepare_quiet_of_seedCount hw hs0 hp]
      omega
    by_cases hE : (cat.recipes.map (·.dependencyCount)).sum = 0
    · rw [hone fun c₀ hp => prepare_quiet_of_no_dependencies hw hE hp]
      omega
    -- otherwise the bound on passes is within one of the recipes
    have hN' : c₂.packages.length ≤ cat.size := hcat₂ ▸ length_packages_le hc₂
    omega

/-- Requesting `app` from `appWithMpi` builds, within the bounds on its passes. -/
theorem appWithMpi_passes_le : (∀ p ∈ appWithMpi.recipes, p.Built) ∧
    ∃ c, build appWithMpi {} [Spec.named "app"] = .ok c ∧
      ([Spec.named "app"] ≠ [] → 1 ≤ seedCount [Spec.named "app"]) ∧
      seedCount [Spec.named "app"] ≤ c.packages.length ∧
      c.passes ≤ c.packages.length - seedCount [Spec.named "app"] + 2 ∧
      ([Spec.named "app"] = [] → c.passes = 1) ∧
      (1 ≤ appWithMpi.size →
        c.passes ≤ appWithMpi.size + (appWithMpi.recipes.map (·.dependencyCount)).sum) := by
  obtain ⟨c, hc⟩ := appWithMpi_builds
  exact ⟨appWithMpi_built, c, hc, build_passes_le appWithMpi_built hc⟩

end Concretization

end BuildSpec
