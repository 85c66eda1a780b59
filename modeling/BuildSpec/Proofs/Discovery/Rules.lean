import BuildSpec.Proofs.Recipe

/-!
# What a build discovers

The rules a build's discoveries follow, said without the passes that find them.

A build seeds each requested spec and each of its `^` dependencies, all without their own
dependencies (`Spec.requestSeeds`). A package is seeded with the first seed naming it,
constrained by each later one in turn, and a package no seed names is known by its name alone
(`seedSpec`). From the seeded packages discovery follows two rules: a package discovers the
target of each dependency its recipe declares whose condition may apply to its seeded spec, as
a virtual package when the catalog calls it virtual; and a virtual package discovers each of its
providers. `Reached` is what these rules reach from the seeds, and it lies in every pair of sets
closed under them (`Reached.least`, with `DiscoveryClosed` saying what closed means).
-/

namespace BuildSpec

namespace Spec

mutual

/-- The `^` dependencies of a spec, each without its own dependencies and followed by the ones
it needs in turn. -/
def neededSeeds : Spec → List Spec
  | ⟨_, _, _, _, deps, _⟩ => neededSeedsOf deps

/-- The needed seeds of each spec of a list, in order. -/
def neededSeedsOf : List Spec → List Spec
  | [] => []
  | d :: ds => d.withoutDependencies :: (neededSeeds d ++ neededSeedsOf ds)

end

/-- The specs a build seeds from its requests: each request without its dependencies, then the
needed seeds of each request. -/
def requestSeeds (specs : List Spec) : List Spec :=
  specs.map withoutDependencies ++ specs.flatMap neededSeeds

end Spec

/-- The spec seeding gives package `n`: the first seed naming it, constrained by each later one
in turn; a package no seed names is known by its name alone. Fails when a constraint does. -/
def seedSpec (seeds : List Spec) (n : String) : Except Error Spec :=
  match seeds.filter (·.name == some n) with
  | [] => .ok (Spec.named n)
  | s :: rest => rest.foldlM (fun acc t => (·.1) <$> acc.constrain t) s

section SeedSpec

variable {seeds : List Spec} {n : String} {s : Spec}

theorem seedSpec_of_unseeded (h : ∀ s ∈ seeds, s.name ≠ some n) :
    seedSpec seeds n = .ok (Spec.named n) := by
  have : seeds.filter (·.name == some n) = [] := by simpa using h
  simp [seedSpec, this]

/-- A seed not naming `n` leaves its seeded spec alone. -/
theorem seedSpec_append_of_ne (h : s.name ≠ some n) :
    seedSpec (seeds ++ [s]) n = seedSpec seeds n := by
  simp [seedSpec, List.filter_append, h]

/-- The first seed naming `n` gives its spec. -/
theorem seedSpec_append_first (hnone : ∀ t ∈ seeds, t.name ≠ some n) (h : s.name = some n) :
    seedSpec (seeds ++ [s]) n = .ok s := by
  have : seeds.filter (·.name == some n) = [] := by simpa using hnone
  simp [seedSpec, List.filter_append, this, h, pure, Except.pure]

/-- A later seed naming `n` constrains its spec. -/
theorem seedSpec_append_constrain {acc merged : Spec} {ch : Bool}
    (hsome : ∃ t ∈ seeds, t.name = some n) (hacc : seedSpec seeds n = .ok acc) (h : s.name = some n)
    (hc : acc.constrain s = .ok (merged, ch)) : seedSpec (seeds ++ [s]) n = .ok merged := by
  obtain ⟨t₀, ht₀, hn₀⟩ := hsome
  unfold seedSpec at hacc ⊢
  rw [List.filter_append]
  cases hf : seeds.filter (·.name == some n) with
  | nil =>
    have : t₀ ∈ seeds.filter (·.name == some n) := List.mem_filter.2 ⟨ht₀, by simp [hn₀]⟩
    simp [hf] at this
  | cons first rest =>
    rw [hf] at hacc
    simp only [List.cons_append, List.filter_cons, h, beq_self_eq_true, if_true, List.filter_nil,
      List.foldlM_append, hacc, List.foldlM_cons, List.foldlM_nil]
    simp [hc, bind, Except.bind, Functor.map, Except.map, pure, Except.pure]

end SeedSpec

/-- What discovery from `seeds` reaches over the catalog `cat`; the flag marks a virtual
package. -/
inductive Reached (cat : Catalog) (seeds : List Spec) : Bool → String → Prop
  /-- Every seeded package. -/
  | seeded {s : Spec} {n : String} : s ∈ seeds → s.name = some n → Reached cat seeds false n
  /-- The target of a declared dependency that may apply to the package's seeded spec. -/
  | dependency {n : String} {p : Package} {s : Spec} {e : String × List Dependency}
      {d : Dependency} : Reached cat seeds false n → cat.get? n = some p →
      seedSpec seeds n = .ok s → e ∈ p.dependencies → d ∈ e.2 →
      d.condition.mayApply s = true → Reached cat seeds (cat.isVirtual e.1) e.1
  /-- Every provider of a virtual package. -/
  | provider {v pn : String} {s : Spec} : Reached cat seeds true v → s ∈ cat.providersFor v →
      s.name = some pn → Reached cat seeds false pn

/-- Sets of packages `K` and virtual packages `V` closed under discovery from `seeds`: they hold
every seeded package, the target of each declared dependency that may apply to the seeded spec
of a package of `K` (in `V` when the catalog calls it virtual, in `K` otherwise), and every
provider of a virtual package of `V`. -/
structure DiscoveryClosed (cat : Catalog) (seeds : List Spec) (K V : String → Prop) : Prop where
  seeded : ∀ s ∈ seeds, ∀ n, s.name = some n → K n
  dependency : ∀ n p s, K n → cat.get? n = some p → seedSpec seeds n = .ok s →
    ∀ e ∈ p.dependencies, ∀ d ∈ e.2, d.condition.mayApply s = true →
      if cat.isVirtual e.1 then V e.1 else K e.1
  provider : ∀ v, V v → ∀ s ∈ cat.providersFor v, ∀ pn, s.name = some pn → K pn

/-- What discovery reaches lies in every pair of sets closed under it. -/
theorem Reached.least {cat : Catalog} {seeds : List Spec} {K V : String → Prop}
    (hc : DiscoveryClosed cat seeds K V) {virtual : Bool} {n : String}
    (h : Reached cat seeds virtual n) : if virtual then V n else K n := by
  induction h with
  | seeded hs hn => exact hc.seeded _ hs _ hn
  | dependency _ hp hs he hd happ ih =>
    exact hc.dependency _ _ _ (by simpa using ih) hp hs _ he _ hd happ
  | provider _ hs hpn ih => exact hc.provider _ (by simpa using ih) _ hs _ hpn

end BuildSpec
