import BuildSpec.Proofs.RequestOrder.Passes
import BuildSpec.Proofs.Discovery.Least
import BuildSpec.Concretize.Select

/-!
# Requests in any order

Main statement: the same well-formed requests, as reading text makes them, given in any order
build alike. Both builds fail, or both succeed and a caller reads the same of them: candidate
tables equal under `==`, the same virtual packages and pass count, the same requested packages,
successors, node and edge counts in the graph, and selections that both fail or give tables
equal under `==` (`Concretization.build_perm`).

Seeding from the requests in another order gives alike states (`prepare_perm`), expansion keeps
states alike (`Alike.expand`), and alike states show the same (`Alike.indistinguishable`):
selection reads of a candidate its versions up to `==`, which contain the same versions, its
variant settings, which are equal, and its compiler up to `==`.
-/

namespace BuildSpec

/-- Alike candidates compare equal. -/
theorem Candidate.Alike.beq {a b : Candidate} (h : a.Alike b) : (a == b) = true := by
  show (a.spec == b.spec && a.dependencies == b.dependencies && a.variants == b.variants) = true
  simp only [h.spec, h.dependencies, h.variants, beq_self_eq_true, Bool.and_self]

theorem beq_of_forall₂_beq {α : Type} [BEq α] {l l' : List α}
    (h : List.Forall₂ (fun a b => (a == b) = true) l l') : (l == l') = true := by
  induction h with
  | nil => rfl
  | cons hab _ ih => simp only [List.cons_beq_cons, hab, ih, Bool.and_self]

@[simp] theorem toOption_map {ε α β : Type} (f : α → β) (x : Except ε α) :
    (x.map f).toOption = x.toOption.map f := by
  cases x <;> rfl

namespace Concretization

variable {c c' : Concretization}

/-! ## What alike states show -/

theorem Alike.packages_beq (h : Alike c c') : (c.packages == c'.packages) = true :=
  beq_of_forall₂_beq (h.packages_forall₂.imp fun e e' he => by
    show (e.1 == e'.1 && e.2 == e'.2) = true
    simp only [he.1, beq_self_eq_true, he.2.beq, Bool.true_and])

/-- Alike states rank the same versions of a package: the constraints equal under `==` contain
the same ones. -/
theorem Alike.candidateVersions_eq (h : Alike c c') (n : String) :
    c'.candidateVersions n = c.candidateVersions n := by
  unfold candidateVersions found
  rcases rel_cases (h.candidates n) with ⟨hn, hn'⟩ | ⟨cand, cand', hc, hc', hcc⟩
  · simp only [hn, hn']
    rfl
  · have hv : ∀ v, cand'.spec.versions.contains v = cand.spec.versions.contains v := fun v =>
      (Version.Constraint.contains_congr (Spec.fields_of_beq hcc.spec).2.1 v).symm
    simp only [hc, hc', bind, Except.bind, hv, h.catalog, h.prefs]

theorem Alike.selectVariants_eq (h : Alike c c') (n : String) :
    c'.selectVariants n = c.selectVariants n := by
  unfold selectVariants found
  rcases rel_cases (h.candidates n) with ⟨hn, hn'⟩ | ⟨cand, cand', hc, hc', hcc⟩
  · simp only [hn, hn']
  · simp only [hc, hc', bind, Except.bind, hcc.variants, (Spec.fields_of_beq hcc.spec).2.2.2.1]

/-- Alike states choose the same version; only the text of the failure may differ, since it
writes the constraint. -/
theorem Alike.toOption_selectVersion (h : Alike c c') (n : String) :
    (c'.selectVersion n).toOption = (c.selectVersion n).toOption := by
  unfold selectVersion
  rw [h.candidateVersions_eq n]
  cases c.candidateVersions n with
  | error e => rfl
  | ok vs =>
    cases vs with
    | nil => rfl
    | cons v _ => rfl

theorem Alike.select (h : Alike c c') (n : String) :
    Option.Rel (fun s s' => (s == s') = true) (c.select n).toOption (c'.select n).toOption := by
  unfold Concretization.select
  simp only [toOption_bind, h.toOption_selectVersion, h.selectVariants_eq]
  cases (c.selectVersion n).toOption with
  | none => exact .none
  | some v =>
    cases (c.selectVariants n).toOption with
    | none => exact .none
    | some vars =>
      rcases rel_cases (h.candidates n) with ⟨hn, hn'⟩ | ⟨cand, cand', hc, hc', hcc⟩
      · simp only [Option.bind_some, found, hn, hn']
        exact .none
      · simp only [Option.bind_some, found, hc, hc']
        refine .some ?_
        -- the same name, version and settings, and compilers equal under `==`
        show (n == n && v == v && vars == vars && cand.spec.compiler == cand'.spec.compiler) = true
        simp only [beq_self_eq_true, (Spec.fields_of_beq hcc.spec).2.2.1, Bool.and_self]

theorem Alike.selectAll_go (h : Alike c c') (l : List String) :
    Option.Rel (fun m m' => (m == m') = true) (selectAll.go c l).2.toOption
      (selectAll.go c' l).2.toOption := by
  induction l with
  | nil => exact .some rfl
  | cons n rest ih =>
    have hs := h.select n
    unfold selectAll.go
    cases hx : c.select n <;> cases hx' : c'.select n <;> rw [hx, hx'] at hs
    · exact .none
    · cases hs
    · cases hs
    · rename_i s s'
      have hss : (s == s') = true := by
        cases hs with
        | some h => exact h
      generalize selectAll.go c rest = p at ih ⊢
      generalize selectAll.go c' rest = p' at ih ⊢
      obtain ⟨log, r⟩ := p
      obtain ⟨log', r'⟩ := p'
      simp only [toOption_map]
      refine rel_map_mem ih fun m _ m' _ hm => ?_
      show ((n == n && s == s') && (m == m')) = true
      simp only [beq_self_eq_true, hss, hm, Bool.and_self]

/-! ## Builds from requests in any order -/

/-- What a caller reads of two concretizations is the same: candidate tables equal under `==`,
the same virtual packages and pass count, the same requested packages, successors of every
name, node and edge counts in the graph, and selections that both fail or give tables equal
under `==`. -/
structure Indistinguishable (c c' : Concretization) : Prop where
  packages : (c.packages == c'.packages) = true
  virtuals : c.virtuals = c'.virtuals
  passes : c.passes = c'.passes
  requested : c.graph.requested = c'.graph.requested
  successors : ∀ n, c.graph.successors n = c'.graph.successors n
  nodeCount : c.graph.nodeCount = c'.graph.nodeCount
  edgeCount : c.graph.edgeCount = c'.graph.edgeCount
  selectAll : Option.Rel (fun m m' => (m == m') = true) c.selectAll.2.toOption
    c'.selectAll.2.toOption

theorem Alike.indistinguishable (h : Alike c c') : Indistinguishable c c' := by
  -- selection visits the same names in the same order
  have hsel : Option.Rel (fun m m' => (m == m') = true) c.selectAll.2.toOption
      c'.selectAll.2.toOption := by
    have hkeys : c'.packages.map (·.1) = c.packages.map (·.1) := h.keys_eq.symm
    unfold selectAll
    rw [hkeys]
    exact h.selectAll_go _
  exact ⟨h.packages_beq, h.virtuals, h.passes, h.requested_eq, h.successors_eq, h.nodeCount_eq,
    h.edgeCount_eq, hsel⟩

/-- The same well-formed requests (as reading text, or narrowing what it reads, makes them) in
any order build alike: both builds fail, or both succeed and a caller reads the same of them. -/
theorem build_perm {cat : Catalog} {prefs : Prefs} {L L' : List Spec} (hp : L.Perm L')
    (hw : ∀ s ∈ L, s.WellFormed) :
    Option.Rel Indistinguishable (build cat prefs L).toOption (build cat prefs L').toOption := by
  unfold build
  simp only [toOption_bind]
  refine rel_bind (prepare_perm hp hw) fun d _ d' _ hd => ?_
  exact rel_mono hd.alike.expand fun e _ e' _ he => he.indistinguishable

/-- Requesting `app` and `lib` from `appWithMpi` builds in either order, and alike. -/
theorem appWithMpi_request_order :
    [Spec.named "app", Spec.named "lib"].Perm [Spec.named "lib", Spec.named "app"] ∧
      (∀ s ∈ [Spec.named "app", Spec.named "lib"], s.WellFormed) ∧
      (build appWithMpi {} [Spec.named "app", Spec.named "lib"]).isOk = true ∧
      Option.Rel Indistinguishable (build appWithMpi {} [Spec.named "app", Spec.named "lib"]).toOption
        (build appWithMpi {} [Spec.named "lib", Spec.named "app"]).toOption := by
  have hp : [Spec.named "app", Spec.named "lib"].Perm [Spec.named "lib", Spec.named "app"] :=
    .swap _ _ _
  have hw : ∀ s ∈ [Spec.named "app", Spec.named "lib"], s.WellFormed := by
    intro s hs
    simp only [List.mem_cons, List.not_mem_nil, or_false] at hs
    rcases hs with rfl | rfl
    · exact Spec.parse_wellFormed (t := "app") rfl
    · exact Spec.parse_wellFormed (t := "lib") rfl
  exact ⟨hp, hw, by decide +kernel, build_perm hp hw⟩

end Concretization

end BuildSpec
