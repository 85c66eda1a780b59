import BuildSpec.Proofs.RequestOrder.Seeding

/-!
# Expansion from alike states

Expansion reads of a state only what alike states share: the catalog, the names in the tables,
visited in name order, the candidates' specs up to `==`, their records and declarations, the
virtual packages and the pass count. Whether a dependency's condition may apply, and whether a
provider's spec excludes it, are loose satisfaction, which `==` keeps
(`Spec.satisfies_loose_congr`). So each step taken from alike states fails on both or gives
alike states and the same report of news (`AlikeResult`): one lemma per function of the
expansion, each citing the lemmas of the functions it calls. By induction on the passes the
whole expansion does too (`Alike.expand`).
-/

namespace BuildSpec

namespace Concretization

variable {c c' : Concretization}

/-- Two results of a step alike: alike states, and the same report of news. -/
def AlikeResult (r r' : Concretization × Bool) : Prop := Alike r.1 r'.1 ∧ r.2 = r'.2

/-- Whether checks lifted into a build succeed does not depend on the state lifting them. -/
theorem toOption_forM_lift {α : Type} (c : Concretization) (f : α → Except Error Unit)
    (l : List α) : (l.forM fun a => c.lift (f a)).toOption = (l.forM f).toOption := by
  induction l with
  | nil => rfl
  | cons a l ih => simp only [List.forM, toOption_bind, toOption_lift, ih]

/-- Alike states make alike new candidates: the catalog is the same, and the candidate holds a
spec with no dependencies. -/
theorem Alike.newCandidate (h : Alike c c') (n : String) :
    Option.Rel Candidate.Alike (newCandidate c.catalog n (Spec.named n)).toOption
      (newCandidate c'.catalog n (Spec.named n)).toOption := by
  rw [← h.catalog]
  refine rel_refl_of fun cand hc => ?_
  obtain ⟨p, -, rfl⟩ := newCandidate_eq_ok (eq_ok_of_toOption hc)
  exact Candidate.Alike.refl rfl

/-- Alike states discover a target alike. -/
theorem Alike.reachTarget (h : Alike c c') (name t : String) (app : List Dependency) :
    Option.Rel AlikeResult (c.reachTarget name t app).toOption
      (c'.reachTarget name t app).toOption := by
  have hvirt : c'.catalog.isVirtual t = c.catalog.isVirtual t := by rw [h.catalog]
  unfold Concretization.reachTarget
  rw [hvirt]
  split
  · -- a virtual package: both states hold the same virtual packages
    have hV : c'.virtual? t = c.virtual? t := by simp only [virtual?, h.virtuals]
    rw [hV]
    split
    · exact .some ⟨((h.note _ _ _ _ _ _).putVirtual t []).touch t true, rfl⟩
    · exact .some ⟨h.touch t true, rfl⟩
  · -- a package: the checks read the catalog only, and the candidate tables have the same names
    have hval : (app.forM fun d => c'.lift (validateVariants c'.catalog t d.spec)).toOption =
        (app.forM fun d => c.lift (validateVariants c.catalog t d.spec)).toOption := by
      rw [toOption_forM_lift, toOption_forM_lift, h.catalog]
    have hN : (c'.candidate? t).isNone = (c.candidate? t).isNone := by
      simp only [← Option.not_isSome, isSome_eq_of_rel (h.candidates t)]
    simp only [toOption_bind, hval, hN]
    cases (app.forM fun d => c.lift (validateVariants c.catalog t d.spec)).toOption with
    | none => exact .none
    | some u =>
      simp only [Option.bind_some]
      by_cases hn : (c.candidate? t).isNone = true
      · simp only [hn, if_true, toOption_bind, toOption_lift, note_catalog]
        refine rel_bind (h.newCandidate t) fun cand _ cand' _ hcc => ?_
        exact .some ⟨((h.note _ _ _ _ _ _).putCandidate t hcc).touch t false, rfl⟩
      · simp only [hn]
        exact .some ⟨h.touch t false, rfl⟩

/-- Two accumulators of recorded dependencies alike: alike candidates and graphs, the same
news. -/
def RecordsAlike (r r' : Candidate × Graph × Bool) : Prop :=
  r.1.Alike r'.1 ∧ r.2.1.Alike r'.2.1 ∧ r.2.2 = r'.2.2

theorem RecordsAlike.foldl (name t : String) (app : List Dependency)
    {r r' : Candidate × Graph × Bool} (h : RecordsAlike r r') :
    RecordsAlike (app.foldl (recordDependency name t) r)
      (app.foldl (recordDependency name t) r') := by
  induction app generalizing r r' with
  | nil => exact h
  | cons d app ih =>
    obtain ⟨cand, g, ch⟩ := r
    obtain ⟨cand', g', ch'⟩ := r'
    obtain ⟨hc, hg, hch⟩ := h
    dsimp only at hc hg hch
    subst hch
    rw [List.foldl_cons, List.foldl_cons, recordDependency_eq, recordDependency_eq]
    have hd := hc.addDependency d
    have he := hg.addEdgeOnce ⟨some name, t, .depends d.phases⟩
    exact ih ⟨hd.1, he.1, by simp only [hd.2, he.2]⟩

/-- A condition may apply to specs equal under `==` alike, when they have no dependencies. -/
theorem mayApply_congr {s s' : Spec} (hs : (s == s') = true) (hflat : s.dependencies = [])
    (k : Condition) : k.mayApply s = k.mayApply s' := by
  cases k with
  | always => rfl
  | when o => exact Spec.satisfies_loose_congr hflat hs o

/-- Alike states expand one target alike, for specs of the package equal under `==`. -/
theorem Alike.expandTarget {s s' : Spec} (hs : (s == s') = true) (hflat : s.dependencies = [])
    (name : String) {acc acc' : Concretization × Bool} (h : AlikeResult acc acc')
    (entry : String × List Dependency) :
    Option.Rel AlikeResult (expandTarget name s acc entry).toOption
      (expandTarget name s' acc' entry).toOption := by
  obtain ⟨c, ch⟩ := acc
  obtain ⟨c', ch'⟩ := acc'
  obtain ⟨h, rfl⟩ := h
  obtain ⟨t, deps⟩ := entry
  have hk : c'.catalog.knows t = c.catalog.knows t := by rw [h.catalog]
  -- the same dependencies apply to either spec
  have happ : deps.filter (·.condition.mayApply s') = deps.filter (·.condition.mayApply s) :=
    List.filter_congr fun d _ => (mayApply_congr hs hflat d.condition).symm
  unfold Concretization.expandTarget
  simp only [hk, happ]
  cases c.catalog.knows t
  · exact .none
  by_cases he : (deps.filter (·.condition.mayApply s)).isEmpty = true
  · simp only [Bool.not_true, Bool.false_eq_true, ↓reduceIte, he]
    exact .some ⟨h, rfl⟩
  simp only [Bool.not_true, Bool.false_eq_true, ↓reduceIte, he, toOption_bind]
  refine rel_bind (h.reachTarget name t _) ?_
  rintro ⟨c₁, new⟩ - ⟨c₁', new'⟩ - ⟨h₁, hnew⟩
  dsimp only at h₁ hnew
  subst hnew
  rcases rel_cases (h₁.candidates name) with ⟨hn, hn'⟩ | ⟨cand, cand', hc, hc', hcc⟩
  · simp only [hn, hn']
    exact .some ⟨h₁, rfl⟩
  · simp only [hc, hc']
    have hr₀ : RecordsAlike (cand, c₁.graph, ch || new) (cand', c₁'.graph, ch || new) :=
      ⟨hcc, h₁.graph, rfl⟩
    have hr := RecordsAlike.foldl name t (deps.filter (·.condition.mayApply s)) hr₀
    exact .some ⟨(h₁.putCandidate name hr.1).withGraph hr.2.1, hr.2.2⟩

/-- Alike states expand a package alike: its targets in the recipe's order, each from the
package's spec on either side. -/
theorem Alike.expandPackage (h : Alike c c') (name : String) :
    Option.Rel AlikeResult (c.expandPackage name).toOption (c'.expandPackage name).toOption := by
  have hget : c'.catalog.get? name = c.catalog.get? name := by rw [h.catalog]
  unfold Concretization.expandPackage
  rw [hget]
  cases c.catalog.get? name with
  | none => exact .none
  | some p =>
    rcases rel_cases (h.candidates name) with ⟨hn, hn'⟩ | ⟨cand, cand', hc, hc', hcc⟩
    · simp only [hn, hn']
      exact .some ⟨h, rfl⟩
    · simp only [hc, hc', toOption_foldlM]
      exact rel_foldlM (R := AlikeResult)
        (fun e _ _ _ hxy => Alike.expandTarget hcc.spec hcc.flat name hxy e)
        ⟨h.touch name false, rfl⟩

/-- Alike states adding one edge stay alike and report the same news. -/
theorem Alike.addEdge (h : Alike c c') (e : Graph.Edge) (b : Bool) :
    AlikeResult ({ c with graph := (c.graph.addEdgeOnce e).1 }, b || (c.graph.addEdgeOnce e).2)
      ({ c' with graph := (c'.graph.addEdgeOnce e).1 }, b || (c'.graph.addEdgeOnce e).2) :=
  ⟨h.withGraph (h.graph.addEdgeOnce e).1, by rw [(h.graph.addEdgeOnce e).2]⟩

theorem Alike.linkProvider (h : Alike c c') (name pn : String) :
    AlikeResult (c.linkProvider name pn) (c'.linkProvider name pn) := by
  have hV : c'.virtuals.lookup name = c.virtuals.lookup name := by rw [h.virtuals]
  have h₁ := h.touch pn false
  unfold Concretization.linkProvider
  simp only [virtual?, hV]
  cases c.virtuals.lookup name with
  | none => exact h₁.addEdge _ false
  | some ps =>
    by_cases hp : ps.contains pn = true
    · simp only [hp, ↓reduceIte]
      exact h₁.addEdge _ false
    · simp only [hp, Bool.false_eq_true, ↓reduceIte]
      exact (h₁.putVirtual name _).addEdge _ true

/-- Alike states add a provider alike: an existing candidate excludes it on both sides or on
neither. -/
theorem Alike.addProvider (name : String) {acc acc' : Concretization × Bool}
    (h : AlikeResult acc acc') (provider : Spec) :
    Option.Rel AlikeResult (addProvider name acc provider).toOption
      (addProvider name acc' provider).toOption := by
  obtain ⟨c, ch⟩ := acc
  obtain ⟨c', ch'⟩ := acc'
  obtain ⟨h, rfl⟩ := h
  unfold Concretization.addProvider
  cases provider.name with
  | none => exact .some ⟨h, rfl⟩
  | some pn =>
    rcases rel_cases (h.candidates pn) with ⟨hn, hn'⟩ | ⟨e, e', he, he', hee⟩
    · simp only [hn, hn', toOption_bind, toOption_lift, note_catalog]
      refine rel_bind (h.newCandidate pn) fun cand _ cand' _ hcc => ?_
      exact .some ⟨(((h.note _ _ _ _ _ _).putCandidate pn hcc).linkProvider name pn).1, rfl⟩
    · have hsat := Spec.satisfies_loose_congr hee.flat hee.spec provider
      simp only [he, he', ← hsat]
      by_cases hs : e.spec.satisfies provider false = true
      · have hl := h.linkProvider name pn
        simp only [hs, Bool.not_true, Bool.false_eq_true, ↓reduceIte]
        exact .some ⟨hl.1, by rw [hl.2]⟩
      · simp only [hs, Bool.not_false, ↓reduceIte]
        exact .some ⟨h.note _ _ _ _ _ _, rfl⟩

theorem Alike.expandVirtual (h : Alike c c') (name : String) :
    Option.Rel AlikeResult (c.expandVirtual name).toOption (c'.expandVirtual name).toOption := by
  have hprov : c'.catalog.providersFor name = c.catalog.providersFor name := by rw [h.catalog]
  unfold Concretization.expandVirtual
  simp only [hprov, toOption_foldlM]
  exact rel_foldlM (R := AlikeResult) (fun p _ _ _ hxy => Alike.addProvider name hxy p)
    ⟨h.touch name true, rfl⟩

theorem AlikeResult.visitPackage {acc acc' : Concretization × Bool} (h : AlikeResult acc acc')
    (n : String) :
    Option.Rel AlikeResult (visitPackage acc n).toOption (visitPackage acc' n).toOption := by
  unfold Concretization.visitPackage
  simp only [toOption_bind, toOption_pure]
  refine rel_bind (h.1.expandPackage n) ?_
  rintro ⟨d, ch⟩ - ⟨d', ch'⟩ - ⟨hd, hch⟩
  exact .some ⟨hd, by rw [h.2, show ch = ch' from hch]⟩

theorem AlikeResult.visitVirtual {acc acc' : Concretization × Bool} (h : AlikeResult acc acc')
    (n : String) :
    Option.Rel AlikeResult (visitVirtual acc n).toOption (visitVirtual acc' n).toOption := by
  unfold Concretization.visitVirtual
  simp only [toOption_bind, toOption_pure]
  refine rel_bind (h.1.expandVirtual n) ?_
  rintro ⟨d, ch⟩ - ⟨d', ch'⟩ - ⟨hd, hch⟩
  exact .some ⟨hd, by rw [h.2, show ch = ch' from hch]⟩

/-- Alike states counting one more pass stay alike. -/
theorem Alike.nextPass (h : Alike c c') :
    Alike { c with passes := c.passes + 1 } { c' with passes := c'.passes + 1 } :=
  ⟨⟨h.catalog, h.prefs, h.ascend, h.ascend', h.candidates, h.virtuals, h.names,
    by rw [h.passes]⟩, h.edges⟩

/-- Alike states run a pass alike: they visit the same packages in the same order, and after
them the same virtual packages. -/
theorem Alike.pass (h : Alike c c') : Option.Rel AlikeResult c.pass.toOption c'.pass.toOption := by
  have hkeys : c'.packages.map (·.1) = c.packages.map (·.1) := h.keys_eq.symm
  unfold Concretization.pass
  simp only [toOption_bind, toOption_foldlM, note_packages, hkeys]
  refine rel_bind (rel_foldlM (R := AlikeResult) (fun n _ _ _ hxy => hxy.visitPackage n)
    ⟨h.nextPass.note _ _ _ _ _ _, rfl⟩) ?_
  rintro ⟨d, ch⟩ - ⟨d', ch'⟩ - ⟨hd, hch⟩
  dsimp only at hd hch ⊢
  rw [← hd.virtuals]
  exact rel_foldlM (R := AlikeResult) (fun n _ _ _ hxy => hxy.visitVirtual n) ⟨hd, hch⟩

/-- Alike states expand alike, pass by pass: the pass bound is the same, and so is the news that
decides whether another pass runs. -/
theorem Alike.expandWith (fuel : Nat) (h : Alike c c') :
    Option.Rel Alike (c.expandWith fuel).toOption (c'.expandWith fuel).toOption := by
  -- induction on the passes left, from any two alike states
  induction fuel generalizing c c' with
  | zero => exact .none
  | succ fuel ih =>
    rw [Concretization.expandWith, Concretization.expandWith, ← h.passes, ← h.passCeiling_eq]
    by_cases hge : c.passes ≥ c.passCeiling
    · simp only [hge, ↓reduceIte]
      exact .none
    · simp only [hge, ↓reduceIte, toOption_bind]
      refine rel_bind h.pass ?_
      rintro ⟨d, ch⟩ - ⟨d', ch'⟩ - ⟨hd, hch⟩
      dsimp only at hd hch ⊢
      subst hch
      cases ch
      · exact .some (hd.note _ _ _ _ _ _)
      · exact ih hd

theorem Alike.expand (h : Alike c c') : Option.Rel Alike c.expand.toOption c'.expand.toOption := by
  unfold Concretization.expand
  rw [← h.catalog]
  exact h.expandWith _

end Concretization

end BuildSpec
