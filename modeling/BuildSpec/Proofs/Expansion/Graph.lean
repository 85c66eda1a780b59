import BuildSpec.Proofs.Discovery.Least
import BuildSpec.Proofs.Expansion.Limit

/-!
# The discovery graph mirrors the tables

A build writes what it discovers twice: in its tables (the candidates, each with the dependencies
it has recorded, and the virtual packages with their providers) and in the discovery graph. This
file proves that the two agree after every step (`Concretization.Mirrors`): each node is named
once, after a candidate or a virtual package; the edges from a candidate go to the targets of its
recorded dependencies, those from a virtual package to its providers, and those from the request
to the packages the requested specs name.

Every step that writes the tables writes the graph alongside it: a target found is added as a
node (`reachTarget_graph`), recording dependencies links each one to its target
(`foldl_recordDependency_graph`), and filing a provider links it (`linkProvider_graph`). A package
and a virtual package never share a name, since the one has a recipe and the other has none, so
the edges of the one are never read as the other's. Main statement: `build_graph_mirrors`.
-/

namespace BuildSpec

namespace Graph

/-- The names of the nodes, in the order they were added. -/
def names (g : Graph) : List String := g.nodes.map (·.1)

/-- The targets of the edges from a source, in the order the edges were added. -/
def targets (g : Graph) (src : Option String) : List String :=
  (g.edges.filter (·.source == src)).map (·.target)

variable {g g' : Graph}

theorem nodeCount_eq_length_names (g : Graph) : g.nodeCount = g.names.length := by
  simp [nodeCount, names]

theorem mem_targets {src : Option String} {t : String} :
    t ∈ g.targets src ↔ ∃ e ∈ g.edges, e.source = src ∧ e.target = t := by
  simp [targets, and_assoc]

@[simp] theorem targets_touch (n : String) (k : Bool) : (g.touch n k).targets = g.targets := by
  funext src
  simp [targets]

theorem touch_of_mem {n : String} (h : n ∈ g.names) (k : Bool) : g.touch n k = g := by
  have hany : g.nodes.any (·.1 == n) = true := by simpa [names] using h
  simp [touch, hany]

theorem touch_of_not_mem {n : String} (h : n ∉ g.names) (k : Bool) :
    g.touch n k = { g with nodes := g.nodes ++ [(n, k)] } := by
  have hany : g.nodes.any (·.1 == n) = false := by
    simp only [List.any_eq_false, beq_iff_eq]
    exact fun x hx hxn => h (List.mem_map.2 ⟨x, hx, hxn⟩)
  simp [touch, hany]

theorem mem_names_touch {n x : String} {k : Bool} : x ∈ (g.touch n k).names ↔ x ∈ g.names ∨ x = n := by
  by_cases h : n ∈ g.names
  · rw [touch_of_mem h]
    exact ⟨.inl, by rintro (hx | rfl) <;> assumption⟩
  · rw [touch_of_not_mem h]
    simp [names]

theorem nodup_names_touch (hg : g.names.Nodup) (n : String) (k : Bool) : (g.touch n k).names.Nodup := by
  by_cases h : n ∈ g.names
  · rwa [touch_of_mem h]
  · rw [touch_of_not_mem h]
    simp only [names, List.map_append, List.map_cons, List.map_nil] at hg h ⊢
    exact List.nodup_append.2 ⟨hg, List.nodup_singleton n, fun a ha b hb => by
      rw [List.mem_singleton] at hb
      rintro rfl
      exact h (hb ▸ ha)⟩

theorem touch_touch (n : String) (k k' : Bool) : (g.touch n k).touch n k' = g.touch n k :=
  touch_of_mem (mem_names_touch.2 (.inr rfl)) k'

@[simp] theorem addEdgeOnce_nodes (e : Edge) : (g.addEdgeOnce e).1.nodes = g.nodes := by
  unfold addEdgeOnce
  split <;> rfl

theorem mem_edges_addEdgeOnce {e x : Edge} : x ∈ (g.addEdgeOnce e).1.edges ↔ x ∈ g.edges ∨ x = e := by
  rw [addEdgeOnce_fst_edges]
  split_ifs with h
  · exact ⟨.inl, by rintro (hx | rfl) <;> assumption⟩
  · simp

/-- Edges added from one source to one target add that target to that source's targets, and to
no other source's. -/
theorem mem_targets_of_edges {src₀ : Option String} {t : String} {new : List Edge}
    (hnew : ∀ e ∈ new, e.source = src₀ ∧ e.target = t) (hne : new ≠ [])
    (h : ∀ e, e ∈ g'.edges ↔ e ∈ g.edges ∨ e ∈ new) (src : Option String) (x : String) :
    x ∈ g'.targets src ↔ x ∈ g.targets src ∨ (src = src₀ ∧ x = t) := by
  simp only [mem_targets, h]
  constructor
  · rintro ⟨e, he | he, hs, hx⟩
    · exact .inl ⟨e, he, hs, hx⟩
    · obtain ⟨hsn, het⟩ := hnew e he
      exact .inr ⟨hs ▸ hsn, hx ▸ het⟩
  · rintro (⟨e, he, hs, hx⟩ | ⟨rfl, rfl⟩)
    · exact ⟨e, .inl he, hs, hx⟩
    · obtain ⟨e, he⟩ := List.exists_mem_of_ne_nil new hne
      exact ⟨e, .inr he, (hnew e he).1, (hnew e he).2⟩

/-- Adding one edge, seen from the sources. -/
theorem mem_targets_addEdgeOnce (e : Edge) (src : Option String) (x : String) :
    x ∈ (g.addEdgeOnce e).1.targets src ↔ x ∈ g.targets src ∨ (src = e.source ∧ x = e.target) :=
  mem_targets_of_edges (fun e' he' => by rw [List.mem_singleton.1 he']; exact ⟨rfl, rfl⟩)
    (List.cons_ne_nil e []) (fun _ => by rw [mem_edges_addEdgeOnce, List.mem_singleton]) src x

end Graph

/-! ## Recording dependencies, seen in the graph -/

theorem Package.mem_keys_putDependency {t x : String} {d : Dependency} :
    ∀ {l : List (String × List Dependency)}, x ∈ keysOf (putDependency t d l) ↔ x = t ∨ x ∈ keysOf l
  | [] => by simp [putDependency, keysOf]
  | (u, ds) :: rest => by
    have ih := @mem_keys_putDependency t x d rest
    simp only [keysOf] at ih ⊢
    unfold putDependency
    split_ifs with hlt heq hc
    · simp
    · rw [beq_iff_eq] at heq
      subst heq
      simp
    · rw [beq_iff_eq] at heq
      subst heq
      simp
    · simp only [List.map_cons, List.mem_cons, ih]
      tauto

/-- Adding a dependency files it under its target, which becomes a key if it was not one. -/
theorem Candidate.mem_keys_addDependency {cand : Candidate} {d : Dependency} {x : String} :
    x ∈ keysOf (cand.addDependency d).1.dependencies ↔ x ∈ keysOf cand.dependencies ∨ x = d.target := by
  cases hr : cand.records d
  · rw [addDependency_of_not_records hr]
    exact Package.mem_keys_putDependency.trans or_comm
  · rw [addDependency_of_records hr]
    -- a recorded dependency sits under its target already
    have ht : d.target ∈ keysOf cand.dependencies := by
      unfold records at hr
      split at hr
      · exact mem_keys_of_lookup ‹_›
      · cases hr
    exact ⟨.inl, by rintro (h | rfl); exacts [h, ht]⟩

namespace Concretization

variable {L : List Spec} {c c' : Concretization}

/-- Recording dependencies of `name` on `t` keeps the nodes, adds the target of each to the
candidate's keys, and adds one edge from `name` to `t` per dependency. -/
theorem foldl_recordDependency_graph {name t : String} :
    ∀ (app : List Dependency) (cand cand' : Candidate) (g g' : Graph) (ch ch' : Bool),
      app.foldl (recordDependency name t) (cand, g, ch) = (cand', g', ch') →
      g'.nodes = g.nodes ∧
      (∀ x, x ∈ keysOf cand'.dependencies ↔ x ∈ keysOf cand.dependencies ∨ ∃ d ∈ app, x = d.target) ∧
      ∀ e, e ∈ g'.edges ↔ e ∈ g.edges ∨ e ∈ app.map fun d => ⟨some name, t, .depends d.phases⟩
  | [], cand, cand', g, g', ch, ch', h => by
    simp only [List.foldl_nil, Prod.mk.injEq] at h
    obtain ⟨rfl, rfl, rfl⟩ := h
    simp
  | d :: app, cand, cand', g, g', ch, ch', h => by
    rw [List.foldl_cons, recordDependency_eq] at h
    obtain ⟨hnodes, hkeys, hedges⟩ := foldl_recordDependency_graph app _ cand' _ g' _ ch' h
    refine ⟨by simp [hnodes], fun x => ?_, fun e => ?_⟩
    · rw [hkeys, Candidate.mem_keys_addDependency]
      simp only [List.mem_cons, or_and_right, exists_or, exists_eq_left]
      tauto
    · rw [hedges, Graph.mem_edges_addEdgeOnce, List.map_cons, List.mem_cons]
      tauto

/-! ## The invariant -/

/-- The discovery graph mirrors the tables, the request pointing at the packages the specs `L`
name. The last two fields tie the tables to the catalog: a candidate has a recipe and a virtual
package has none, so no name is both. -/
structure Mirrors (L : List Spec) (c : Concretization) : Prop where
  names_nodup : c.graph.names.Nodup
  mem_names : ∀ n, n ∈ c.graph.names ↔ n ∈ keysOf c.packages ∨ n ∈ keysOf c.virtuals
  sources : ∀ e ∈ c.graph.edges, ∀ n, e.source = some n → n ∈ c.graph.names
  requested : ∀ t, t ∈ c.graph.targets none ↔ ∃ s ∈ L, s.name = some t
  package_targets : ∀ n cand, c.candidate? n = some cand →
    ∀ t, t ∈ c.graph.targets (some n) ↔ t ∈ keysOf cand.dependencies
  virtual_targets : ∀ v ps, c.virtual? v = some ps → ∀ t, t ∈ c.graph.targets (some v) ↔ t ∈ ps
  providers_ascend : ∀ e ∈ c.virtuals, e.2.Pairwise (· < ·)
  recipes : ∀ n ∈ keysOf c.packages, (c.catalog.get? n).isSome
  virtuals_virtual : ∀ v ∈ keysOf c.virtuals, c.catalog.isVirtual v = true

theorem candidate?_eq_none_iff {n : String} : c.candidate? n = none ↔ n ∉ keysOf c.packages := by
  rw [← lookup_isSome_iff_mem_keys, Option.not_isSome_iff_eq_none]
  rfl

theorem virtual?_eq_none_iff {n : String} : c.virtual? n = none ↔ n ∉ keysOf c.virtuals := by
  rw [← lookup_isSome_iff_mem_keys, Option.not_isSome_iff_eq_none]
  rfl

namespace Mirrors

variable {n : String}

/-- The invariant reads only the catalog, the tables and the graph. -/
theorem of_tables (hM : Mirrors L c) (hcat : c'.catalog = c.catalog) (hp : c'.packages = c.packages)
    (hv : c'.virtuals = c.virtuals) (hg : c'.graph = c.graph) : Mirrors L c' := by
  have hcand : c'.candidate? = c.candidate? := by
    funext n
    simp [candidate?, hp]
  have hvirt : c'.virtual? = c.virtual? := by
    funext n
    simp [virtual?, hv]
  obtain ⟨h₁, h₂, h₃, h₄, h₅, h₆, h₇, h₈, h₉⟩ := hM
  constructor <;> simp only [hcat, hp, hv, hg, hcand, hvirt] <;> assumption

theorem not_virtual (hM : Mirrors L c) {p : Package} (hp : c.catalog.get? n = some p) :
    n ∉ keysOf c.virtuals := fun hv => by
  rw [Catalog.get?_eq_none_of_isVirtual (hM.virtuals_virtual n hv)] at hp
  cases hp

theorem not_package (hM : Mirrors L c) (hv : c.catalog.isVirtual n = true) :
    n ∉ keysOf c.packages := fun hn => by
  have hsome := hM.recipes n hn
  rw [Catalog.get?_eq_none_of_isVirtual hv] at hsome
  cases hsome

/-- No name is both a candidate and a virtual package. -/
theorem disjoint (hM : Mirrors L c) (hn : n ∈ keysOf c.packages) : n ∉ keysOf c.virtuals := by
  obtain ⟨p, hp⟩ := Option.isSome_iff_exists.1 (hM.recipes n hn)
  exact hM.not_virtual hp

/-- A name that is no node has no edges out. -/
theorem targets_eq_nil (hM : Mirrors L c) (hn : n ∉ c.graph.names) : c.graph.targets (some n) = [] := by
  rw [List.eq_nil_iff_forall_not_mem]
  intro t ht
  obtain ⟨e, he, hs, -⟩ := Graph.mem_targets.1 ht
  exact hn (hM.sources e he n hs)

/-- Adding a node that is there already changes nothing. -/
theorem touch (hM : Mirrors L c) (hn : n ∈ keysOf c.packages ∨ n ∈ keysOf c.virtuals) (k : Bool) :
    Mirrors L { c with graph := c.graph.touch n k } :=
  hM.of_tables rfl rfl rfl (Graph.touch_of_mem ((hM.mem_names n).2 hn) k)

/-- A fresh candidate for a package with a recipe, added with its node. -/
theorem addCandidate (hM : Mirrors L c) {t : String} {cand : Candidate} {p : Package}
    (hp : c.catalog.get? t = some p) (hnone : c.candidate? t = none) (hd : cand.dependencies = []) :
    Mirrors L { c with packages := putSorted t cand c.packages, graph := c.graph.touch t false } where
  names_nodup := Graph.nodup_names_touch hM.names_nodup t false
  mem_names n := by
    simp only [Graph.mem_names_touch, hM.mem_names, mem_keys_putSorted]
    tauto
  sources e he n hs := Graph.mem_names_touch.2 (.inl (hM.sources e (by simpa using he) n hs))
  requested := by simpa using hM.requested
  package_targets n cand' hc x := by
    simp only [Graph.targets_touch]
    simp only [candidate?, lookup_putSorted] at hc
    split_ifs at hc with hnt
    · cases hc
      subst hnt
      -- the new candidate's package was no node, so it has no edges yet
      have hnode : n ∉ c.graph.names := by
        rw [hM.mem_names]
        rintro (h | h)
        · exact candidate?_eq_none_iff.1 hnone h
        · exact hM.not_virtual hp h
      simp [hM.targets_eq_nil hnode, hd, keysOf]
    · exact hM.package_targets n cand' hc x
  virtual_targets v ps hv x := by simpa using hM.virtual_targets v ps hv x
  providers_ascend := hM.providers_ascend
  recipes n hn := by
    rcases mem_keys_putSorted.1 hn with rfl | hn
    · simp [hp]
    · exact hM.recipes n hn
  virtuals_virtual := hM.virtuals_virtual

/-- A new virtual package with no providers, added with its node. -/
theorem addVirtual (hM : Mirrors L c) {t : String} (hv : c.catalog.isVirtual t = true)
    (hnone : c.virtual? t = none) :
    Mirrors L { c with virtuals := putSorted t [] c.virtuals, graph := c.graph.touch t true } where
  names_nodup := Graph.nodup_names_touch hM.names_nodup t true
  mem_names n := by
    simp only [Graph.mem_names_touch, hM.mem_names, mem_keys_putSorted]
    tauto
  sources e he n hs := Graph.mem_names_touch.2 (.inl (hM.sources e (by simpa using he) n hs))
  requested := by simpa using hM.requested
  package_targets n cand hc x := by simpa using hM.package_targets n cand hc x
  virtual_targets v ps hv' x := by
    simp only [Graph.targets_touch]
    simp only [virtual?, lookup_putSorted] at hv'
    split_ifs at hv' with hvt
    · cases hv'
      subst hvt
      -- the new virtual package was no node, so it has no edges yet
      have hnode : v ∉ c.graph.names := by
        rw [hM.mem_names]
        rintro (h | h)
        · exact hM.not_package hv h
        · exact virtual?_eq_none_iff.1 hnone h
      simp [hM.targets_eq_nil hnode]
    · exact hM.virtual_targets v ps hv' x
  providers_ascend e he := by
    rcases mem_putSorted he with rfl | he
    · exact List.Pairwise.nil
    · exact hM.providers_ascend e he
  recipes := hM.recipes
  virtuals_virtual v hv' := by
    rcases mem_keys_putSorted.1 hv' with rfl | hv'
    · exact hv
    · exact hM.virtuals_virtual v hv'

/-- Replacing the candidate of `n` and changing only the edges from `n`, to the keys of the new
candidate's dependencies. -/
theorem replaceCandidate (hM : Mirrors L c) {cand cand' : Candidate} {g : Graph}
    (hcand : c.candidate? n = some cand) (hnames : g.names = c.graph.names)
    (hsrc : ∀ e ∈ g.edges, e ∈ c.graph.edges ∨ e.source = some n)
    (hother : ∀ src, src ≠ some n → ∀ x, x ∈ g.targets src ↔ x ∈ c.graph.targets src)
    (hown : ∀ x, x ∈ g.targets (some n) ↔ x ∈ keysOf cand'.dependencies) :
    Mirrors L { c with packages := putSorted n cand' c.packages, graph := g } := by
  have hn : n ∈ keysOf c.packages := mem_keys_of_lookup hcand
  have hkeys : ∀ x, x ∈ keysOf (putSorted n cand' c.packages) ↔ x ∈ keysOf c.packages := by
    intro x
    rw [mem_keys_putSorted]
    exact ⟨by rintro (rfl | h); exacts [hn, h], .inr⟩
  refine ⟨hnames ▸ hM.names_nodup, fun x => ?_, fun e he m hs => ?_, fun x => ?_,
    fun m cm hcm x => ?_, fun v ps hv x => ?_, hM.providers_ascend, fun m hm => ?_,
    hM.virtuals_virtual⟩
  · rw [hnames, hM.mem_names, hkeys]
  · rw [hnames]
    rcases hsrc e he with he | hs'
    · exact hM.sources e he m hs
    · rw [hs, Option.some.injEq] at hs'
      exact (hM.mem_names m).2 (.inl (hs' ▸ hn))
  · rw [hother none (by simp)]
    exact hM.requested x
  · simp only [candidate?, lookup_putSorted] at hcm
    split_ifs at hcm with hmn
    · cases hcm
      subst hmn
      exact hown x
    · rw [hother (some m) (by simpa using hmn)]
      exact hM.package_targets m cm hcm x
  · -- a virtual package is not the candidate replaced
    have hvn : v ≠ n := by
      rintro rfl
      exact hM.disjoint hn (mem_keys_of_lookup hv)
    rw [hother (some v) (by simpa using hvn)]
    exact hM.virtual_targets v ps hv x
  · exact hM.recipes m ((hkeys m).1 hm)

/-- A requested package linked from the request. -/
theorem request (hM : Mirrors L c) {s : Spec} (hs : s.name = some n) :
    Mirrors (L ++ [s]) { c with graph := (c.graph.addEdgeOnce ⟨none, n, .requested⟩).1 } := by
  have hnames : (c.graph.addEdgeOnce ⟨none, n, .requested⟩).1.names = c.graph.names := by
    simp [Graph.names]
  have htargets := Graph.mem_targets_addEdgeOnce (g := c.graph) ⟨none, n, .requested⟩
  refine ⟨hnames ▸ hM.names_nodup, fun x => hnames ▸ hM.mem_names x, fun e he m hm => ?_,
    fun x => ?_, fun m cm hcm x => ?_, fun v ps hv x => ?_, hM.providers_ascend, hM.recipes,
    hM.virtuals_virtual⟩
  · rw [Graph.mem_edges_addEdgeOnce] at he
    rcases he with he | rfl
    · exact hnames ▸ hM.sources e he m hm
    · cases hm
  · rw [htargets, hM.requested]
    simp only [List.mem_append, List.mem_singleton, true_and]
    constructor
    · rintro (⟨s', hs', hx⟩ | rfl)
      · exact ⟨s', .inl hs', hx⟩
      · exact ⟨s, .inr rfl, hs⟩
    · rintro ⟨s', hs' | rfl, hx⟩
      · exact .inl ⟨s', hs', hx⟩
      · rw [hs, Option.some.injEq] at hx
        exact .inr hx.symm
  · rw [htargets]
    simpa using hM.package_targets m cm hcm x
  · rw [htargets]
    simpa using hM.virtual_targets v ps hv x

/-- Recording dependencies of a candidate on one target. -/
theorem record (hM : Mirrors L c) {t : String} {cand cand' : Candidate} {app : List Dependency}
    {g' : Graph} {ch ch' : Bool} (hcand : c.candidate? n = some cand)
    (htarget : ∀ d ∈ app, d.target = t) (happ : app ≠ [])
    (h : app.foldl (recordDependency n t) (cand, c.graph, ch) = (cand', g', ch')) :
    Mirrors L { c with packages := putSorted n cand' c.packages, graph := g' } := by
  obtain ⟨hnodes, hkeys, hedges⟩ := foldl_recordDependency_graph app cand cand' c.graph g' ch ch' h
  have htargets := Graph.mem_targets_of_edges
    (fun e he => by obtain ⟨d, -, rfl⟩ := List.mem_map.1 he; exact ⟨rfl, rfl⟩)
    (by simpa using happ) hedges
  -- every dependency recorded is on `t`
  have hon : ∀ x, (∃ d ∈ app, x = d.target) ↔ x = t := fun x => by
    constructor
    · rintro ⟨d, hd, rfl⟩
      exact htarget d hd
    · rintro rfl
      obtain ⟨d, hd⟩ := List.exists_mem_of_ne_nil app happ
      exact ⟨d, hd, (htarget d hd).symm⟩
  refine hM.replaceCandidate hcand (by simp [Graph.names, hnodes]) (fun e he => ?_)
    (fun src hsrc x => ?_) (fun x => ?_)
  · rcases (hedges e).1 he with he | he
    · exact .inl he
    · obtain ⟨d, -, rfl⟩ := List.mem_map.1 he
      exact .inr rfl
  · rw [htargets]
    simp [hsrc]
  · rw [htargets, hM.package_targets n cand hcand, hkeys, hon]
    simp

end Mirrors

/-! ## Discovering a target -/

/-- Discovering a target adds its node, marked virtual when the catalog calls it so. -/
theorem reachTarget_graph {name t : String} {app : List Dependency} {new : Bool}
    (h : c.reachTarget name t app = .ok (c', new)) :
    c'.graph = c.graph.touch t (c.catalog.isVirtual t) := by
  unfold reachTarget at h
  split_ifs at h with hv hnone hnone'
  · simp only [except_pure_eq_ok, Prod.mk.injEq] at h
    rw [← h.1, hv]
    rfl
  · simp only [except_pure_eq_ok, Prod.mk.injEq] at h
    rw [← h.1, hv]
  · simp only [except_bind_eq_ok] at h
    obtain ⟨_, -, h⟩ := h
    simp only [lift, except_pure_eq_ok, Prod.mk.injEq, note_catalog] at h
    obtain ⟨cand, -, rfl, rfl⟩ := h
    simp [hv]
  · simp only [except_bind_eq_ok] at h
    obtain ⟨_, -, h⟩ := h
    simp only [except_pure_eq_ok, Prod.mk.injEq] at h
    obtain ⟨rfl, rfl⟩ := h
    simp [hv]

theorem Mirrors.reachTarget (hM : Mirrors L c) {name t : String} {app : List Dependency}
    {new : Bool} (h : c.reachTarget name t app = .ok (c', new)) :
    Mirrors L c' ∧ c'.catalog = c.catalog := by
  have hg := reachTarget_graph h
  rcases (reachTarget_cases h).2 with ⟨hd, -, hsame⟩ | ⟨-, hv, hnone, hsame⟩ |
    ⟨-, hv, hnone, cand, hnew, hsame⟩
  · -- the target is a candidate or a virtual package already
    have hkey : t ∈ keysOf c.packages ∨ t ∈ keysOf c.virtuals := by
      unfold Discovers at hd
      split_ifs at hd
      · exact .inr (lookup_isSome_iff_mem_keys.1 hd)
      · exact .inl (lookup_isSome_iff_mem_keys.1 hd)
    exact ⟨(hM.touch hkey _).of_tables hsame.catalog_eq hsame.packages_eq hsame.virtuals_eq hg,
      hsame.catalog_eq⟩
  · rw [hv] at hg
    exact ⟨(hM.addVirtual hv hnone).of_tables hsame.catalog_eq hsame.packages_eq
      hsame.virtuals_eq hg, hsame.catalog_eq⟩
  · obtain ⟨p, hp, rfl⟩ := newCandidate_eq_ok hnew
    rw [hv] at hg
    exact ⟨(hM.addCandidate hp hnone rfl).of_tables hsame.catalog_eq hsame.packages_eq
      hsame.virtuals_eq hg, hsame.catalog_eq⟩

/-! ## The package half of a pass -/

theorem Mirrors.expandTarget (hM : Mirrors L c) {name t : String} {s : Spec}
    {deps : List Dependency} {ch ch' : Bool} (htarget : ∀ d ∈ deps, d.target = t)
    (h : expandTarget name s (c, ch) (t, deps) = .ok (c', ch')) :
    Mirrors L c' ∧ c'.catalog = c.catalog := by
  rcases expandTarget_cases h with ⟨-, rfl, -⟩ | ⟨happ, c₁, new, hreach, hrest⟩
  · exact ⟨hM, rfl⟩
  obtain ⟨hM₁, hcat₁⟩ := hM.reachTarget hreach
  rcases hrest with ⟨-, rfl, -⟩ | ⟨cand, cand', g', hcand, hfold, rfl⟩
  · exact ⟨hM₁, hcat₁⟩
  exact ⟨hM₁.record hcand (fun d hd => htarget d (List.mem_filter.1 hd).1) happ hfold, hcat₁⟩

theorem Mirrors.expandPackage (hw : c.catalog.WellFormed) (hM : Mirrors L c) {name : String}
    {ch : Bool} (h : c.expandPackage name = .ok (c', ch)) : Mirrors L c' ∧ c'.catalog = c.catalog := by
  unfold Concretization.expandPackage at h
  split at h
  case h_2 => cases h
  rename_i p hp
  split at h
  case h_2 =>
    cases h
    exact ⟨hM, rfl⟩
  rename_i cand hcand
  -- each declared target in turn, its dependencies all on it
  refine foldlM_ok_induct (fun _ r => Mirrors L r.1 ∧ r.1.catalog = c.catalog)
    ⟨hM.touch (.inl (mem_keys_of_lookup hcand)) false, rfl⟩ ?_ h
  rintro pre ⟨t, deps⟩ ⟨c₁, ch₁⟩ ⟨c₂, ch₂⟩ hpre ⟨hM₁, hcat₁⟩ hstep
  have he : (t, deps) ∈ p.dependencies := hpre.subset (by simp)
  obtain ⟨hM₂, hcat₂⟩ := hM₁.expandTarget ((hw.get hp).dependencies_target _ he) hstep
  exact ⟨hM₂, hcat₂.trans hcat₁⟩

/-! ## The virtual half of a pass -/

@[simp] theorem linkProvider_graph (c : Concretization) (name pn : String) :
    (c.linkProvider name pn).1.graph =
      ((c.graph.touch pn false).addEdgeOnce ⟨some name, pn, .providedBy⟩).1 := by
  unfold linkProvider
  dsimp only
  split
  · split_ifs <;> rfl
  · rfl

theorem linkProvider_virtuals {name pn : String} {ps : List String} (hv : c.virtual? name = some ps) :
    (c.linkProvider name pn).1.virtuals =
      if pn ∈ ps then c.virtuals else putSorted name (Graph.sortedNames (ps ++ [pn])) c.virtuals := by
  have hv' : ({ c with graph := c.graph.touch pn false } : Concretization).virtual? name = some ps :=
    hv
  by_cases hmem : pn ∈ ps <;> simp [linkProvider, hv', hmem]

/-- Filing a provider: its providers gain it, once. -/
theorem linkProvider_virtual? {name pn : String} {ps : List String} (hv : c.virtual? name = some ps)
    (v : String) : (c.linkProvider name pn).1.virtual? v =
      if v = name then some (if pn ∈ ps then ps else Graph.sortedNames (ps ++ [pn])) else c.virtual? v := by
  unfold virtual?
  rw [linkProvider_virtuals hv]
  split_ifs with hmem hvn hvn
  · subst hvn
    exact hv
  · rfl
  · subst hvn
    exact lookup_putSorted_self _ _ _
  · exact lookup_putSorted_of_ne hvn _ _

/-- Filing a provider adds the provider's node first, so a node added before changes nothing. -/
theorem linkProvider_touch (c : Concretization) (name pn : String) :
    ({ c with graph := c.graph.touch pn false } : Concretization).linkProvider name pn =
      c.linkProvider name pn := by
  simp only [linkProvider, Graph.touch_touch]

/-- Filing a candidate as a provider of a virtual package. -/
theorem Mirrors.linkProvider (hM : Mirrors L c) {name pn : String} {ps : List String}
    (hv : c.virtual? name = some ps) (hpn : pn ∈ keysOf c.packages) :
    Mirrors L (c.linkProvider name pn).1 := by
  have hname : name ∈ keysOf c.virtuals := mem_keys_of_lookup hv
  have hg : (c.linkProvider name pn).1.graph = (c.graph.addEdgeOnce ⟨some name, pn, .providedBy⟩).1 := by
    rw [linkProvider_graph, Graph.touch_of_mem ((hM.mem_names pn).2 (.inl hpn))]
  have hnames : (c.linkProvider name pn).1.graph.names = c.graph.names := by
    simp only [hg, Graph.names, Graph.addEdgeOnce_nodes]
  have htargets : ∀ src x, x ∈ (c.linkProvider name pn).1.graph.targets src ↔
      x ∈ c.graph.targets src ∨ (src = some name ∧ x = pn) := by
    rw [hg]
    exact Graph.mem_targets_addEdgeOnce _
  have hvkeys : ∀ x, x ∈ keysOf (c.linkProvider name pn).1.virtuals ↔ x ∈ keysOf c.virtuals := by
    intro x
    rw [← lookup_isSome_iff_mem_keys, ← lookup_isSome_iff_mem_keys]
    show ((c.linkProvider name pn).1.virtual? x).isSome = true ↔ (c.virtual? x).isSome = true
    rw [linkProvider_virtual?_isSome (by simp [hv])]
  refine ⟨hnames ▸ hM.names_nodup, fun x => ?_, fun e he m hm => ?_, fun x => ?_,
    fun m cm hcm x => ?_, fun v qs hqs x => ?_, fun e he => ?_, fun m hm => ?_, fun v hv' => ?_⟩
  · rw [hnames, hM.mem_names, linkProvider_packages, hvkeys]
  · rw [hg, Graph.mem_edges_addEdgeOnce] at he
    rw [hnames]
    rcases he with he | rfl
    · exact hM.sources e he m hm
    · rw [Option.some.injEq] at hm
      exact (hM.mem_names m).2 (.inr (hm ▸ hname))
  · rw [htargets]
    simpa using hM.requested x
  · have hcm' : c.candidate? m = some cm := by simpa [candidate?] using hcm
    -- a candidate is not the virtual package filed under
    have hmn : m ≠ name := by
      rintro rfl
      exact hM.disjoint (mem_keys_of_lookup hcm') hname
    rw [htargets]
    simpa [hmn] using hM.package_targets m cm hcm' x
  · rw [linkProvider_virtual? hv] at hqs
    rw [htargets]
    split_ifs at hqs with hvn hmem
    · cases hqs
      subst hvn
      rw [hM.virtual_targets v ps hv x]
      simp only [true_and]
      exact ⟨by rintro (h | rfl); exacts [h, hmem], .inl⟩
    · cases hqs
      subst hvn
      rw [hM.virtual_targets v ps hv x]
      simp
    · simpa [hvn] using hM.virtual_targets v qs hqs x
  · rw [linkProvider_virtuals hv] at he
    split_ifs at he
    · exact hM.providers_ascend e he
    · rcases mem_putSorted he with rfl | he
      · exact pairwise_sortedNames _
      · exact hM.providers_ascend e he
  · rw [linkProvider_packages] at hm
    rw [linkProvider_catalog]
    exact hM.recipes m hm
  · rw [linkProvider_catalog]
    exact hM.virtuals_virtual v ((hvkeys v).1 hv')

theorem Mirrors.addProvider (hM : Mirrors L c) {name : String} {provider : Spec} {ch ch' : Bool}
    (hv : (c.virtual? name).isSome) (h : addProvider name (c, ch) provider = .ok (c', ch')) :
    Mirrors L c' := by
  obtain ⟨ps, hps⟩ := Option.isSome_iff_exists.1 hv
  rcases addProvider_eq_ok h with ⟨-, rfl, rfl⟩ | ⟨pn, existing, m, -, -, -, rfl, rfl⟩ |
    ⟨pn, existing, -, hex, -, rfl, rfl⟩ | ⟨pn, cand, m, -, hnone, hnew, rfl, rfl⟩
  · exact hM
  · exact hM.of_tables rfl rfl rfl rfl
  · exact hM.linkProvider hps (mem_keys_of_lookup hex)
  · obtain ⟨p, hp, rfl⟩ := newCandidate_eq_ok hnew
    -- the fresh candidate is added with its node, then filed under the virtual package
    rw [← linkProvider_touch]
    refine Mirrors.linkProvider ?_ hps (mem_keys_putSorted.2 (.inl rfl))
    exact (hM.addCandidate hp hnone rfl).of_tables rfl rfl rfl rfl

/-- Expanding a virtual package keeps which virtual packages there are. -/
theorem expandVirtual_virtual?_isSome {name : String} {ch : Bool} (hv : (c.virtual? name).isSome)
    (h : c.expandVirtual name = .ok (c', ch)) (v : String) :
    (c'.virtual? v).isSome = (c.virtual? v).isSome := by
  unfold Concretization.expandVirtual at h
  refine foldlM_ok_induct (fun _ r => ∀ v, (r.1.virtual? v).isSome = (c.virtual? v).isSome)
    (fun _ => rfl) ?_ h v
  rintro - provider ⟨c₁, ch₁⟩ ⟨c₂, ch₂⟩ - hv₁ hstep
  obtain ⟨-, hvirt, -⟩ := addProvider_cases (by rw [hv₁]; exact hv) hstep
  exact fun v => (hvirt v).trans (hv₁ v)

theorem Mirrors.expandVirtual (hM : Mirrors L c) {name : String} {ch : Bool}
    (hv : (c.virtual? name).isSome) (h : c.expandVirtual name = .ok (c', ch)) :
    Mirrors L c' ∧ c'.catalog = c.catalog := by
  unfold Concretization.expandVirtual at h
  -- the virtual packages stay, so `name` is one at every provider
  have hF := foldlM_ok_induct (fun _ r => Mirrors L r.1 ∧ r.1.catalog = c.catalog ∧
      (r.1.virtual? name).isSome)
    ⟨hM.touch (.inr (lookup_isSome_iff_mem_keys.1 hv)) true, rfl, hv⟩
    (by
      rintro - provider ⟨c₁, ch₁⟩ ⟨c₂, ch₂⟩ - ⟨hM₁, hcat₁, hv₁⟩ hstep
      obtain ⟨hcat, hvirt, -⟩ := addProvider_cases hv₁ hstep
      exact ⟨hM₁.addProvider hv₁ hstep, hcat.trans hcat₁, by rw [hvirt]; exact hv₁⟩) h
  exact ⟨hF.1, hF.2.1⟩

/-! ## Passes and the build -/

theorem Mirrors.pass (hw : c.catalog.WellFormed) (hc : c.Coherent) (hs : c.Settled)
    (hM : Mirrors L c) {ch : Bool} (h : c.pass = .ok (c', ch)) : Mirrors L c' := by
  refine pass_keeps (Mirrors L) hc hs
    (fun _ hsame hg hM => hM.of_tables hsame.catalog_eq hsame.packages_eq hsame.virtuals_eq hg)
    ?_ ?_ hM h
  · intro c₁ c₂ n ch hg _ _ hM₁ hexp
    exact (hM₁.expandPackage (hg.catalog_eq ▸ hw) hexp).1
  · intro c₁ c₂ n ch _ _ _ hv hM₁ hexp
    exact (hM₁.expandVirtual hv hexp).1

/-- What merging a seed spec does to the graph: its package's node is added. -/
theorem mergeSpec_graph {s : Spec} (h : c.mergeSpec s = .ok c') :
    ∃ name, s.name = some name ∧ c'.graph = c.graph.touch name false := by
  unfold mergeSpec at h
  split at h
  case h_2 => cases h
  rename_i name hname
  simp only [except_bind_eq_ok] at h
  obtain ⟨_, -, h⟩ := h
  split at h
  case h_2 => cases h
  refine ⟨name, hname, ?_⟩
  split at h
  · simp only [except_bind_eq_ok, except_pure_eq_ok] at h
    obtain ⟨_, -, ⟨merged, ch⟩, -, _, rfl, rfl⟩ := h
    split_ifs <;> rfl
  · simp only [except_bind_eq_ok, except_pure_eq_ok] at h
    obtain ⟨cand, -, _, rfl, rfl⟩ := h
    rfl

theorem Mirrors.mergeSpec (hM : Mirrors L c) {s : Spec} (h : c.mergeSpec s = .ok c') :
    Mirrors L c' ∧ c'.catalog = c.catalog := by
  obtain ⟨name, hname, hg⟩ := mergeSpec_graph h
  obtain ⟨name', hname', -, -, -, -, hcases⟩ := mergeSpec_cases h
  rw [hname, Option.some.injEq] at hname'
  subst hname'
  rcases hcases with ⟨existing, merged, ch, hex, -, hsame⟩ | ⟨hnone, cand, hnew, hsame⟩
  · -- the candidate's spec is constrained, and what it has recorded stays
    rw [Graph.touch_of_mem ((hM.mem_names name).2 (.inl (mem_keys_of_lookup hex)))] at hg
    have hown : ∀ x, x ∈ c.graph.targets (some name) ↔
        x ∈ keysOf ({ existing with spec := merged } : Candidate).dependencies :=
      hM.package_targets name existing hex
    exact ⟨(hM.replaceCandidate hex rfl (fun e he => .inl he) (fun _ _ _ => Iff.rfl) hown).of_tables
      hsame.catalog_eq hsame.packages_eq hsame.virtuals_eq hg, hsame.catalog_eq⟩
  · obtain ⟨p, hp, rfl⟩ := newCandidate_eq_ok hnew
    exact ⟨(hM.addCandidate hp hnone rfl).of_tables hsame.catalog_eq hsame.packages_eq
      hsame.virtuals_eq hg, hsame.catalog_eq⟩

/-- Seeding: each leaf spec is merged and requested, then each needed spec is merged. -/
theorem Mirrors.seed (hM : Mirrors [] c) (h : c.seed = .ok c') :
    Mirrors c.leaf c' ∧ c'.catalog = c.catalog := by
  simp only [Concretization.seed, except_bind_eq_ok] at h
  obtain ⟨c₁, hleaf, hneeded⟩ := h
  have h₁ := foldlM_ok_induct (fun pre r => Mirrors pre r ∧ r.catalog = c.catalog) ⟨hM, rfl⟩
    (by
      rintro pre s acc r - ⟨hM', hcat'⟩ hstep
      simp only [except_bind_eq_ok, except_pure_eq_ok] at hstep
      obtain ⟨c₂, hmerge, rfl⟩ := hstep
      obtain ⟨name, hname, -⟩ := mergeSpec_graph hmerge
      obtain ⟨hM₂, hcat₂⟩ := hM'.mergeSpec hmerge
      rw [hname, Option.getD_some]
      exact ⟨hM₂.request hname, hcat₂.trans hcat'⟩) hleaf
  refine foldlM_ok_induct (fun _ r => Mirrors c.leaf r ∧ r.catalog = c.catalog) h₁ ?_ hneeded
  rintro - s acc r - ⟨hM', hcat'⟩ hstep
  obtain ⟨hM₂, hcat₂⟩ := hM'.mergeSpec hstep
  exact ⟨hM₂, hcat₂.trans hcat'⟩

/-- Nothing discovered, nothing requested, and an empty graph. -/
theorem Mirrors.empty (hp : c.packages = []) (hv : c.virtuals = []) (hg : c.graph = {}) :
    Mirrors [] c where
  names_nodup := by simp [hg, Graph.names]
  mem_names n := by simp [hg, hp, hv, Graph.names, keysOf]
  sources e he := by simp [hg] at he
  requested t := by simp [hg, Graph.targets]
  package_targets n cand hc := by simp [candidate?, hp] at hc
  virtual_targets v ps hv' := by simp [virtual?, hv] at hv'
  providers_ascend e he := by simp [hv] at he
  recipes n hn := by simp [hp, keysOf] at hn
  virtuals_virtual v hv' := by simp [hv, keysOf] at hv'

theorem prepare_mirrors {cat : Catalog} {prefs : Prefs} {specs : List Spec}
    (h : prepare cat prefs specs = .ok c) :
    Mirrors (specs.map Spec.withoutDependencies) c ∧ c.catalog = cat := by
  simp only [prepare, except_bind_eq_ok] at h
  obtain ⟨c₁, hfile, hseed⟩ := h
  obtain ⟨hleaf, -, hsame⟩ := fileRequests_seeds hfile
  -- filing the requests leaves the graph empty
  have hg : c₁.graph = {} := foldlM_ok_induct (fun _ r => r.graph = {}) rfl
    (by
      rintro - s acc r - hacc hstep
      simp only [fileRequest, except_bind_eq_ok, except_pure_eq_ok] at hstep
      obtain ⟨c₂, h₂, rfl⟩ := hstep
      obtain ⟨leaf, needed, rfl⟩ := addRequest_eq acc s false c₂ h₂
      exact hacc) hfile
  obtain ⟨hM, hcat⟩ := (Mirrors.empty hsame.packages_eq hsame.virtuals_eq hg).seed hseed
  have hleaf' : c₁.leaf = specs.map Spec.withoutDependencies := by
    rw [hleaf]
    rfl
  rw [hleaf'] at hM
  exact ⟨hM, hcat.trans hsame.catalog_eq⟩

/-- Every state the loop of a build checks mirrors its tables in its graph. -/
theorem Checked.mirrors {cat : Catalog} {prefs : Prefs} {specs : List Spec} (hw : cat.WellFormed)
    (h : Checked cat prefs specs c) : Mirrors (specs.map Spec.withoutDependencies) c ∧ c.catalog = cat := by
  induction h with
  | prepared hp => exact prepare_mirrors hp
  | passed hchk hp ih =>
    obtain ⟨hM, hcat⟩ := ih
    have hk := hchk.checkable
    exact ⟨hM.pass (hcat ▸ hw) hk.coherent hk.settled hp,
      (pass_facts hk.coherent hk.settled hp).2.2.1.catalog_eq.trans hcat⟩

/-! ## Reading the graph -/

namespace Mirrors

variable {n : String}

/-- One node per candidate and per virtual package. -/
theorem nodeCount_eq (hM : Mirrors L c) (hc : c.Coherent) :
    c.graph.nodeCount = c.packages.length + c.virtuals.length := by
  have hnodup : (keysOf c.packages ++ keysOf c.virtuals).Nodup :=
    List.nodup_append.2 ⟨nodup_keys hc.packages_ascend, nodup_keys hc.virtuals_ascend,
      fun a ha b hb hab => hM.disjoint ha (hab ▸ hb)⟩
  have hperm : c.graph.names.Perm (keysOf c.packages ++ keysOf c.virtuals) :=
    (List.perm_ext_iff_of_nodup hM.names_nodup hnodup).2 fun x => by
      rw [hM.mem_names, List.mem_append]
  rw [Graph.nodeCount_eq_length_names, hperm.length_eq, List.length_append]
  simp [keysOf]

/-- A candidate's successors are the targets it has recorded dependencies on, in name order. -/
theorem successors_of_candidate (hM : Mirrors L c) (hc : c.Coherent) {cand : Candidate}
    (hcand : c.candidate? n = some cand) : c.graph.successors n = keysOf cand.dependencies :=
  sortedNames_eq (List.pairwise_map.2 (hc.dependencies_ascend _ (mem_of_lookup hcand)))
    (hM.package_targets n cand hcand)

/-- A virtual package's successors are its providers, in the order filed. -/
theorem successors_of_virtual (hM : Mirrors L c) {ps : List String} (hv : c.virtual? n = some ps) :
    c.graph.successors n = ps :=
  sortedNames_eq (hM.providers_ascend _ (mem_of_lookup hv)) (hM.virtual_targets n ps hv)

/-- The request's successors are the names of the requested specs, in name order. -/
theorem requested_eq (hM : Mirrors L c) : c.graph.requested = Graph.sortedNames (L.filterMap (·.name)) :=
  sortedNames_eq (pairwise_sortedNames _) fun t => by
    show t ∈ c.graph.targets none ↔ _
    rw [hM.requested, mem_sortedNames, List.mem_filterMap]

end Mirrors

/-- The discovery graph of a successful build over recipes built one declaration at a time
mirrors what it discovered: one node per candidate and per virtual package, the successors of a
candidate are the targets of its recorded dependencies and those of a virtual package its
providers, both in name order, and the request points at the names of the requested specs, in
name order and each once (not at those only given as a dependency with `^`). -/
theorem build_graph_mirrors {cat : Catalog} {prefs : Prefs} {specs : List Spec}
    (hcat : ∀ p ∈ cat.recipes, p.Built) (h : build cat prefs specs = .ok c) :
    c.graph.nodeCount = c.packages.length + c.virtuals.length ∧
    (∀ n cand, c.candidate? n = some cand → c.graph.successors n = keysOf cand.dependencies) ∧
    (∀ v ps, c.virtual? v = some ps → c.graph.successors v = ps) ∧
    c.graph.requested = Graph.sortedNames (specs.filterMap (·.name)) := by
  have hw : cat.WellFormed := fun p hp => (hcat p hp).wellFormed
  obtain ⟨c₁, c₂, m, hchk, hpass, rfl⟩ := build_last_pass h
  obtain ⟨hM₁, hcat₁⟩ := hchk.mirrors hw
  have hk := hchk.checkable
  have hM := hM₁.pass (hcat₁ ▸ hw) hk.coherent hk.settled hpass
  have hc : c₂.Coherent := (pass_facts hk.coherent hk.settled hpass).1
  -- the last log record leaves the tables and the graph as the last pass left them
  refine ⟨hM.nodeCount_eq hc, fun n cand hcand => hM.successors_of_candidate hc hcand,
    fun v ps hv => hM.successors_of_virtual hv, ?_⟩
  rw [note_graph, hM.requested_eq, List.filterMap_map]
  rfl

/-- Requesting `app` from `appWithMpi` builds, and the graph of the build mirrors its tables. -/
theorem appWithMpi_graph_mirrors : (∀ p ∈ appWithMpi.recipes, p.Built) ∧
    ∃ c, build appWithMpi {} [Spec.named "app"] = .ok c ∧
      c.graph.nodeCount = c.packages.length + c.virtuals.length ∧
      (∀ n cand, c.candidate? n = some cand → c.graph.successors n = keysOf cand.dependencies) ∧
      (∀ v ps, c.virtual? v = some ps → c.graph.successors v = ps) ∧
      c.graph.requested = Graph.sortedNames ([Spec.named "app"].filterMap (·.name)) := by
  obtain ⟨c, hc⟩ := appWithMpi_builds
  exact ⟨appWithMpi_built, c, hc, build_graph_mirrors appWithMpi_built hc⟩

end Concretization

end BuildSpec
