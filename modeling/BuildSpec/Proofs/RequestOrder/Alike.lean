import BuildSpec.Proofs.Spec.Congruence
import BuildSpec.Proofs.Expansion.Graph

/-!
# Alike concretizations

The same requests given in another order go through states that differ only in spelling and in
order: a candidate's spec may be written differently while equal under `==` (`x@1.0` against
`x@1.00`), the graph may have gained the same nodes and edges in another order, and the log may
say other things. `Concretization.Similar` relates such states with the graph's edges left
aside, and `Concretization.Alike` relates them edges included.

What a caller reads of alike states is the same: the candidates compare equal under `==`
(`Alike.packages_beq`), the pass bound is the same (`Alike.passCeiling_eq`), and so are the
packages the graph says were requested, the successors of every node and the node and edge
counts (`Alike.requested_eq`, `Alike.successors_eq`, `Alike.nodeCount_eq`,
`Alike.edgeCount_eq`). The updates the build makes (putting a candidate or a virtual package,
adding a node or an edge) keep states alike when made alike on both sides; the steps built from
them are taken up in the next files.
-/

namespace BuildSpec

/-! ## Partial results -/

section Partial

variable {ε α β : Type}

@[simp] theorem toOption_bind (x : Except ε α) (f : α → Except ε β) :
    (x >>= f).toOption = x.toOption.bind fun a => (f a).toOption := by
  cases x <;> rfl

@[simp] theorem toOption_pure (a : α) : (pure a : Except ε α).toOption = some a := rfl

@[simp] theorem toOption_ok (a : α) : (Except.ok a : Except ε α).toOption = some a := rfl

@[simp] theorem toOption_error (e : ε) : (Except.error e : Except ε α).toOption = none := rfl

@[simp] theorem Concretization.toOption_lift (c : Concretization) (r : Except Error α) :
    (c.lift r).toOption = r.toOption := by
  cases r <;> rfl

@[simp] theorem Concretization.toOption_stop (c : Concretization) (e : Error) :
    (c.stop e : Except Stop α).toOption = none := rfl

/-- Related partial results are both missing, or both given and related. -/
theorem rel_cases {R : α → β → Prop} {x : Option α} {y : Option β} (h : Option.Rel R x y) :
    (x = none ∧ y = none) ∨ ∃ a b, x = some a ∧ y = some b ∧ R a b := by
  cases h with
  | none => exact .inl ⟨rfl, rfl⟩
  | some hab => exact .inr ⟨_, _, rfl, rfl, hab⟩

/-- Mapping related partial results, given what the maps do on them. -/
theorem rel_map_mem {γ δ : Type} {R : α → β → Prop} {S : γ → δ → Prop} {x : Option α} {y : Option β}
    {f : α → γ} {g : β → δ} (h : Option.Rel R x y) (hfg : ∀ a ∈ x, ∀ b ∈ y, R a b → S (f a) (g b)) :
    Option.Rel S (x.map f) (y.map g) := by
  cases h with
  | none => exact .none
  | @some a b hab => exact .some (hfg a rfl b rfl hab)

theorem rel_refl_of {R : α → α → Prop} {x : Option α} (h : ∀ a ∈ x, R a a) : Option.Rel R x x := by
  cases x with
  | none => exact .none
  | some a => exact .some (h a rfl)

/-- Related results of two-step computations stay related when a map finishes both. -/
theorem rel_bind_map {γ δ α' β' : Type} {S : γ → δ → Prop} {T : α' → β' → Prop} {x : Option α}
    {y : Option β} {f : α → Option γ} {f' : β → Option δ} {g : γ → α'} {g' : δ → β'}
    (h : Option.Rel S (x.bind f) (y.bind f')) (hg : ∀ a b, S a b → T (g a) (g' b)) :
    Option.Rel T (x.bind fun a => (f a).map g) (y.bind fun b => (f' b).map g') := by
  have hx : (x.bind fun a => (f a).map g) = (x.bind f).map g := by cases x <;> rfl
  have hy : (y.bind fun b => (f' b).map g') = (y.bind f').map g' := by cases y <;> rfl
  rw [hx, hy]
  exact rel_map h hg

/-- Two independent partial steps taken in either order give related results. -/
theorem rel_bind_map_comm {γ δ : Type} {T : γ → δ → Prop} {x : Option α} {y : Option β}
    {f : α → β → γ} {g : α → β → δ} (h : ∀ a ∈ x, ∀ b ∈ y, T (f a b) (g a b)) :
    Option.Rel T (x.bind fun a => y.map (f a)) (y.bind fun b => x.map fun a => g a b) := by
  cases x with
  | none => cases y <;> exact .none
  | some a =>
    cases y with
    | none => exact .none
    | some b => exact .some (h a rfl b rfl)

/-- Partial results given or missing together are related when what is given is. -/
theorem rel_of_isSome_eq {R : α → β → Prop} {x : Option α} {y : Option β}
    (h : x.isSome = y.isSome) (hxy : ∀ a ∈ x, ∀ b ∈ y, R a b) : Option.Rel R x y := by
  cases x with
  | none =>
    cases y with
    | none => exact .none
    | some b => cases h
  | some a =>
    cases y with
    | none => cases h
    | some b => exact .some (hxy a rfl b rfl)

theorem eq_ok_of_toOption {x : Except ε α} {a : α} (h : a ∈ x.toOption) : x = .ok a := by
  cases x with
  | error e => cases h
  | ok b =>
    cases h
    rfl

/-- A fold whose steps succeed on an item whatever state they reach succeeds exactly when each
step does. -/
theorem isSome_foldlM_iff {σ : Type} (I : σ → Prop) {P : α → Prop} {f : σ → α → Option σ}
    (hf : ∀ x a, I x → ((f x a).isSome ↔ P a)) (hI : ∀ x a y, I x → y ∈ f x a → I y)
    {l : List α} {x : σ} (hx : I x) : (l.foldlM f x).isSome ↔ ∀ a ∈ l, P a := by
  induction l generalizing x with
  | nil => simp
  | cons a l ih =>
    simp only [List.foldlM_cons, Option.bind_eq_bind, List.forall_mem_cons]
    cases ha : f x a with
    | none =>
      have := (hf x a hx).not.1 (by simp [ha])
      simp [this]
    | some y =>
      rw [Option.bind_some, ih (hI x a y hx ha)]
      have := (hf x a hx).1 (by simp [ha])
      simp [this]

/-- What each step keeps, a fold keeps. -/
theorem foldlM_invariant {σ : Type} (P : σ → Prop) {f : σ → α → Option σ}
    (hf : ∀ x a y, P x → y ∈ f x a → P y) {l : List α} {x y : σ} (hx : P x)
    (hy : y ∈ l.foldlM f x) : P y := by
  induction l generalizing x with
  | nil =>
    cases hy
    exact hx
  | cons a l ih =>
    simp only [List.foldlM_cons, Option.bind_eq_bind] at hy
    obtain ⟨z, hz, hy⟩ := Option.bind_eq_some_iff.1 hy
    exact ih (hf x a z hx hz) hy

end Partial

/-! ## Candidates -/

namespace Candidate

/-- Two candidates alike: their specs are equal under `==` and have no dependencies, and they
hold the same records and declarations. -/
structure Alike (a b : Candidate) : Prop where
  spec : (a.spec == b.spec) = true
  flat : a.spec.dependencies = []
  dependencies : a.dependencies = b.dependencies
  variants : a.variants = b.variants

namespace Alike

variable {a b c : Candidate}

theorem refl (h : a.spec.dependencies = []) : a.Alike a :=
  ⟨Spec.beq_self a.spec, h, rfl, rfl⟩

theorem symm (h : a.Alike b) : b.Alike a :=
  ⟨Spec.beq_symm h.spec, Spec.flat_of_beq h.spec h.flat, h.dependencies.symm, h.variants.symm⟩

theorem trans (h : a.Alike b) (h' : b.Alike c) : a.Alike c :=
  ⟨Spec.beq_trans h.spec h'.spec, h.flat, h.dependencies.trans h'.dependencies,
    h.variants.trans h'.variants⟩

/-- Alike candidates record a dependency alike and report the same news. -/
theorem addDependency (h : a.Alike b) (d : Dependency) :
    (a.addDependency d).1.Alike (b.addDependency d).1 ∧
      (a.addDependency d).2 = (b.addDependency d).2 := by
  -- whether the dependency is recorded reads the records only, and those are equal
  have hr : b.records d = a.records d := by
    unfold Candidate.records
    rw [h.dependencies]
  cases har : a.records d
  · rw [addDependency_of_not_records har, addDependency_of_not_records (hr.trans har)]
    exact ⟨⟨h.spec, h.flat, by rw [h.dependencies], h.variants⟩, rfl⟩
  · rw [addDependency_of_records har, addDependency_of_records (hr.trans har)]
    exact ⟨h, rfl⟩

end Alike

end Candidate

/-! ## Tables and graphs -/

section Tables

variable {α β : Type} {R : α → β → Prop}

theorem isSome_eq_of_rel {x : Option α} {y : Option β} (h : Option.Rel R x y) :
    x.isSome = y.isSome := by
  cases h <;> rfl

/-- Tables whose lookups are related stay so when a key is given related values. -/
theorem lookup_rel_putSorted {l : List (String × α)} {l' : List (String × β)}
    (h : ∀ n, Option.Rel R (l.lookup n) (l'.lookup n)) (k : String) {v : α} {v' : β}
    (hv : R v v') (n : String) :
    Option.Rel R ((putSorted k v l).lookup n) ((putSorted k v' l').lookup n) := by
  rw [lookup_putSorted, lookup_putSorted]
  split_ifs
  · exact .some hv
  · exact h n

/-- Values put under two keys in either order are found alike. -/
theorem lookup_putSorted_comm {a b : String} (hab : a ≠ b) (x y : α) (l : List (String × α))
    (n : String) :
    (putSorted b y (putSorted a x l)).lookup n = (putSorted a x (putSorted b y l)).lookup n := by
  simp only [lookup_putSorted]
  by_cases hb : n = b
  · subst hb
    simp [Ne.symm hab]
  · by_cases ha : n = a <;> simp [ha, hb, hab]

/-- A second value under a key replaces the first. -/
@[simp] theorem putSorted_putSorted_self (k : String) (v w : α) (l : List (String × α)) :
    putSorted k v (putSorted k w l) = putSorted k v l := by
  induction l with
  | nil => simp [putSorted]
  | cons e l ih =>
    obtain ⟨k', v'⟩ := e
    by_cases h1 : k < k'
    · simp [putSorted, h1]
    · by_cases h2 : k = k'
      · subst h2
        simp [putSorted]
      · simp [putSorted, h1, h2, ih]

/-- Two tables in key order whose lookups are related pair their entries one by one: the same
keys in the same order, with related values. -/
theorem forall₂_of_lookup_rel {l : List (String × α)} {l' : List (String × β)} (hl : KeysAscend l)
    (hl' : KeysAscend l') (h : ∀ n, Option.Rel R (l.lookup n) (l'.lookup n)) :
    List.Forall₂ (fun e e' => e.1 = e'.1 ∧ R e.2 e'.2) l l' := by
  induction l generalizing l' with
  | nil =>
    cases l' with
    | nil => exact .nil
    | cons e' t' =>
      obtain ⟨k', v'⟩ := e'
      have := h k'
      rw [List.lookup_nil, List.lookup_cons_self] at this
      cases this
  | cons e t ih =>
    obtain ⟨k, v⟩ := e
    cases l' with
    | nil =>
      have := h k
      simp only [List.lookup_cons_self, List.lookup_nil] at this
      cases this
    | cons e' t' =>
      obtain ⟨k', v'⟩ := e'
      -- each table starts with its least key, so both start with the same key
      have hk : k = k' := by
        have h₁ := h k
        have h₂ := h k'
        rw [List.lookup_cons_self] at h₁
        rw [List.lookup_cons_self] at h₂
        by_contra hne
        rw [lookup_cons_of_ne hne] at h₁
        rw [lookup_cons_of_ne (Ne.symm hne)] at h₂
        obtain ⟨_, hb, -⟩ := exists_of_rel_some_left h₁
        obtain ⟨_, ha, -⟩ := exists_of_rel_some_right h₂
        have hlt : k < k' := hl.lt_of_mem (mem_of_lookup ha)
        have hlt' : k' < k := hl'.lt_of_mem (mem_of_lookup hb)
        exact lt_asymm hlt hlt'
      subst hk
      have hv : R v v' := by
        have := h k
        rw [List.lookup_cons_self, List.lookup_cons_self] at this
        cases this with
        | some hr => exact hr
      refine .cons ⟨rfl, hv⟩ (ih hl.tail hl'.tail fun n => ?_)
      by_cases hn : n = k
      · subst hn
        rw [lookup_eq_none_of_lt fun e he => hl.lt_of_mem he,
          lookup_eq_none_of_lt fun e he => hl'.lt_of_mem he]
        exact .none
      · have := h n
        rwa [lookup_cons_of_ne hn, lookup_cons_of_ne hn] at this

theorem map_eq_of_forall₂ {γ : Type} {f : α → γ} {g : β → γ} {l : List α} {l' : List β}
    (h : List.Forall₂ R l l') (hfg : ∀ a b, R a b → f a = g b) : l.map f = l'.map g := by
  induction h with
  | nil => rfl
  | cons hab _ ih => rw [List.map_cons, List.map_cons, hfg _ _ hab, ih]

end Tables

namespace Graph

variable {g g' : Graph}

/-- Graphs alike: the same node names and the same edges, each in any order. -/
structure Alike (g g' : Graph) : Prop where
  names : g.names.Perm g'.names
  edges : g.edges.Perm g'.edges

@[simp] theorem names_addEdgeOnce (e : Edge) : (g.addEdgeOnce e).1.names = g.names := by
  simp [names]

theorem names_touch_of_not_mem {n : String} (h : n ∉ g.names) (k : Bool) :
    (g.touch n k).names = g.names ++ [n] := by
  rw [touch_of_not_mem h]
  simp [names]

theorem edges_addEdgeOnce_of_not_mem {e : Edge} (h : e ∉ g.edges) :
    (g.addEdgeOnce e).1.edges = g.edges ++ [e] := by
  rw [addEdgeOnce_fst_edges, if_neg h]

theorem names_touch_perm (h : g.names.Perm g'.names) (n : String) (k : Bool) :
    (g.touch n k).names.Perm (g'.touch n k).names := by
  by_cases hn : n ∈ g.names
  · rw [touch_of_mem hn, touch_of_mem (h.mem_iff.1 hn)]
    exact h
  · rw [names_touch_of_not_mem hn, names_touch_of_not_mem (fun h' => hn (h.mem_iff.2 h'))]
    exact h.append_right [n]

/-- Adding two nodes gives the same names in either order. -/
theorem names_touch_swap (g : Graph) (n m : String) (k k' : Bool) :
    ((g.touch n k).touch m k').names.Perm ((g.touch m k').touch n k).names := by
  by_cases hn : n ∈ g.names
  · rw [touch_of_mem hn, touch_of_mem (mem_names_touch.2 (.inl hn))]
  · by_cases hm : m ∈ g.names
    · rw [touch_of_mem hm, touch_of_mem (mem_names_touch.2 (.inl hm))]
    · by_cases hnm : n = m
      · subst hnm
        rw [touch_touch, touch_touch, names_touch_of_not_mem hn, names_touch_of_not_mem hn]
      · have hm' : m ∉ (g.touch n k).names := by
          rw [mem_names_touch]
          exact fun h => h.elim hm (Ne.symm hnm)
        have hn' : n ∉ (g.touch m k').names := by
          rw [mem_names_touch]
          exact fun h => h.elim hn hnm
        rw [names_touch_of_not_mem hm', names_touch_of_not_mem hn', names_touch_of_not_mem hn,
          names_touch_of_not_mem hm, List.append_assoc, List.append_assoc]
        exact List.perm_append_comm.append_left g.names

theorem edges_addEdgeOnce_perm (h : g.edges.Perm g'.edges) (e : Edge) :
    (g.addEdgeOnce e).1.edges.Perm (g'.addEdgeOnce e).1.edges ∧
      (g.addEdgeOnce e).2 = (g'.addEdgeOnce e).2 := by
  by_cases he : e ∈ g.edges
  · rw [addEdgeOnce_of_mem he, addEdgeOnce_of_mem (h.mem_iff.1 he)]
    exact ⟨h, rfl⟩
  · have he' : e ∉ g'.edges := fun h' => he (h.mem_iff.2 h')
    rw [edges_addEdgeOnce_of_not_mem he, edges_addEdgeOnce_of_not_mem he', addEdgeOnce_snd,
      addEdgeOnce_snd, decide_eq_false he, decide_eq_false he']
    exact ⟨h.append_right [e], rfl⟩

/-- Adding two edges gives the same edges in either order. -/
theorem edges_addEdgeOnce_swap (g : Graph) (e e' : Edge) :
    ((g.addEdgeOnce e).1.addEdgeOnce e').1.edges.Perm
      ((g.addEdgeOnce e').1.addEdgeOnce e).1.edges := by
  by_cases he : e ∈ g.edges
  · rw [addEdgeOnce_of_mem he, addEdgeOnce_of_mem (mem_edges_addEdgeOnce.2 (.inl he))]
  · by_cases he' : e' ∈ g.edges
    · rw [addEdgeOnce_of_mem he', addEdgeOnce_of_mem (mem_edges_addEdgeOnce.2 (.inl he'))]
    · by_cases hee : e = e'
      · subst hee
        rfl
      · have h₁ : e' ∉ (g.addEdgeOnce e).1.edges := by
          rw [mem_edges_addEdgeOnce]
          exact fun h => h.elim he' (Ne.symm hee)
        have h₂ : e ∉ (g.addEdgeOnce e').1.edges := by
          rw [mem_edges_addEdgeOnce]
          exact fun h => h.elim he hee
        rw [edges_addEdgeOnce_of_not_mem h₁, edges_addEdgeOnce_of_not_mem h₂,
          edges_addEdgeOnce_of_not_mem he, edges_addEdgeOnce_of_not_mem he', List.append_assoc,
          List.append_assoc]
        exact List.perm_append_comm.append_left g.edges

/-- Adding a node and adding an edge commute. -/
theorem touch_addEdgeOnce (g : Graph) (e : Edge) (n : String) (k : Bool) :
    (g.addEdgeOnce e).1.touch n k = ((g.touch n k).addEdgeOnce e).1 := by
  by_cases hn : n ∈ g.names
  · rw [touch_of_mem (by simpa using hn), touch_of_mem hn]
  · rw [touch_of_not_mem (by simpa using hn), touch_of_not_mem hn]
    by_cases he : e ∈ g.edges
    · rw [addEdgeOnce_of_mem he, addEdgeOnce_of_mem (g := { g with nodes := g.nodes ++ [(n, k)] }) he]
    · simp [addEdgeOnce, he]

namespace Alike

theorem touch (h : g.Alike g') (n : String) (k : Bool) : (g.touch n k).Alike (g'.touch n k) :=
  ⟨names_touch_perm h.names n k, by simpa using h.edges⟩

theorem addEdgeOnce (h : g.Alike g') (e : Edge) :
    (g.addEdgeOnce e).1.Alike (g'.addEdgeOnce e).1 ∧ (g.addEdgeOnce e).2 = (g'.addEdgeOnce e).2 :=
  ⟨⟨by simpa using h.names, (edges_addEdgeOnce_perm h.edges e).1⟩,
    (edges_addEdgeOnce_perm h.edges e).2⟩

/-- Alike graphs adding two edges in either order stay alike. -/
theorem addEdgeOnce_swap (h : g.Alike g') (e e' : Edge) :
    ((g.addEdgeOnce e).1.addEdgeOnce e').1.Alike ((g'.addEdgeOnce e').1.addEdgeOnce e).1 :=
  ⟨by simpa using h.names,
    (edges_addEdgeOnce_swap g e e').trans ((h.addEdgeOnce e').1.addEdgeOnce e).1.edges⟩

end Alike

/-- Sorting and thinning two orderings of the same names gives one list. -/
theorem sortedNames_perm {l l' : List String} (h : l.Perm l') : sortedNames l = sortedNames l' :=
  sortedNames_eq (pairwise_sortedNames l') fun a => by rw [mem_sortedNames, h.mem_iff]

theorem Alike.requested_eq (h : g.Alike g') : g.requested = g'.requested :=
  sortedNames_perm ((h.edges.filter _).map _)

theorem Alike.successors_eq (h : g.Alike g') (n : String) : g.successors n = g'.successors n :=
  sortedNames_perm ((h.edges.filter _).map _)

theorem Alike.nodeCount_eq (h : g.Alike g') : g.nodeCount = g'.nodeCount := by
  rw [nodeCount_eq_length_names, nodeCount_eq_length_names, h.names.length_eq]

theorem Alike.edgeCount_eq (h : g.Alike g') : g.edgeCount = g'.edgeCount := h.edges.length_eq

end Graph

/-! ## States -/

namespace Concretization

/-- Two states similar: the same catalog, preferences, pass count and virtual packages,
alike candidates under the same names in tables whose keys ascend, and graphs with the same
node names in any order. Requests, logs and the graph's edges are not compared. -/
structure Similar (c c' : Concretization) : Prop where
  catalog : c.catalog = c'.catalog
  prefs : c.prefs = c'.prefs
  ascend : KeysAscend c.packages
  ascend' : KeysAscend c'.packages
  candidates : ∀ n, Option.Rel Candidate.Alike (c.candidate? n) (c'.candidate? n)
  virtuals : c.virtuals = c'.virtuals
  names : c.graph.names.Perm c'.graph.names
  passes : c.passes = c'.passes

/-- Two states alike: similar, with graphs of the same edges in any order. -/
structure Alike (c c' : Concretization) : Prop extends Similar c c' where
  edges : c.graph.edges.Perm c'.graph.edges

variable {c c' c'' : Concretization}

namespace Similar

theorem symm (h : Similar c c') : Similar c' c :=
  ⟨h.catalog.symm, h.prefs.symm, h.ascend', h.ascend,
    fun n => rel_symm_of (R := Candidate.Alike) Candidate.Alike.symm (h.candidates n),
    h.virtuals.symm, h.names.symm, h.passes.symm⟩

theorem trans (h : Similar c c') (h' : Similar c' c'') : Similar c c'' :=
  ⟨h.catalog.trans h'.catalog, h.prefs.trans h'.prefs, h.ascend, h'.ascend',
    fun n => rel_trans_of (R := Candidate.Alike) Candidate.Alike.trans (h.candidates n)
      (h'.candidates n),
    h.virtuals.trans h'.virtuals, h.names.trans h'.names, h.passes.trans h'.passes⟩

/-- Similar states keep the same names in their tables, in the same order. -/
theorem keys_eq (h : Similar c c') : keysOf c.packages = keysOf c'.packages := by
  refine eq_of_pairwise_lt (List.pairwise_map.2 h.ascend) (List.pairwise_map.2 h.ascend')
    fun n => ?_
  rw [← lookup_isSome_iff_mem_keys, ← lookup_isSome_iff_mem_keys]
  exact Bool.eq_iff_iff.1 (isSome_eq_of_rel (h.candidates n))

theorem forall₂ (h : Similar c c') :
    List.Forall₂ (fun e e' => e.1 = e'.1 ∧ e.2.Alike e'.2) c.packages c'.packages :=
  forall₂_of_lookup_rel h.ascend h.ascend' h.candidates

end Similar

namespace Alike

theorem symm (h : Alike c c') : Alike c' c := ⟨h.toSimilar.symm, h.edges.symm⟩

theorem trans (h : Alike c c') (h' : Alike c' c'') : Alike c c'' :=
  ⟨h.toSimilar.trans h'.toSimilar, h.edges.trans h'.edges⟩

theorem graph (h : Alike c c') : c.graph.Alike c'.graph := ⟨h.names, h.edges⟩

/-- Alike states are alike with new graphs that are alike. -/
theorem withGraph (h : Alike c c') {g g' : Graph} (hg : g.Alike g') :
    Alike { c with graph := g } { c' with graph := g' } :=
  ⟨⟨h.catalog, h.prefs, h.ascend, h.ascend', h.candidates, h.virtuals, hg.names, h.passes⟩, hg.edges⟩

/-- Alike states stay alike when both add a node. -/
theorem touch (h : Alike c c') (n : String) (k : Bool) :
    Alike { c with graph := c.graph.touch n k } { c' with graph := c'.graph.touch n k } :=
  h.withGraph (h.graph.touch n k)

/-- Alike states are alike with new tables of candidates in name order whose lookups are
alike. -/
theorem withPackages (h : Alike c c') {P P' : List (String × Candidate)} (hP : KeysAscend P)
    (hP' : KeysAscend P') (hl : ∀ n, Option.Rel Candidate.Alike (P.lookup n) (P'.lookup n)) :
    Alike { c with packages := P } { c' with packages := P' } :=
  ⟨⟨h.catalog, h.prefs, hP, hP', hl, h.virtuals, h.names, h.passes⟩, h.edges⟩

/-- Alike states stay alike when both put alike candidates under one name. -/
theorem putCandidate (h : Alike c c') (n : String) {v v' : Candidate} (hv : v.Alike v') :
    Alike { c with packages := putSorted n v c.packages }
      { c' with packages := putSorted n v' c'.packages } :=
  h.withPackages (h.ascend.putSorted n v) (h.ascend'.putSorted n v')
    (lookup_rel_putSorted h.candidates n hv)

/-- Alike states stay alike when both put the same providers under a virtual package. -/
theorem putVirtual (h : Alike c c') (n : String) (ps : List String) :
    Alike { c with virtuals := putSorted n ps c.virtuals }
      { c' with virtuals := putSorted n ps c'.virtuals } :=
  ⟨⟨h.catalog, h.prefs, h.ascend, h.ascend', h.candidates, by rw [h.virtuals], h.names, h.passes⟩,
    h.edges⟩

/-- The requests as filed are not compared. -/
theorem withRequests (h : Alike c c') (l n i l' n' i' : List Spec) :
    Alike { c with leaf := l, needed := n, initial := i } { c' with leaf := l', needed := n', initial := i' } :=
  ⟨⟨h.catalog, h.prefs, h.ascend, h.ascend', h.candidates, h.virtuals, h.names, h.passes⟩, h.edges⟩

/-- The logs are not compared. -/
theorem withLog (h : Alike c c') (l l' : Array Log.Entry) :
    Alike { c with log := l } { c' with log := l' } :=
  ⟨⟨h.catalog, h.prefs, h.ascend, h.ascend', h.candidates, h.virtuals, h.names, h.passes⟩, h.edges⟩

theorem note (h : Alike c c') (l l' : Log.Level) (a a' m m' : String) :
    Alike (c.note l a m) (c'.note l' a' m') :=
  h.withLog _ _

theorem packages_forall₂ (h : Alike c c') :
    List.Forall₂ (fun e e' => e.1 = e'.1 ∧ e.2.Alike e'.2) c.packages c'.packages :=
  h.toSimilar.forall₂

theorem passCeiling_eq (h : Alike c c') : c.passCeiling = c'.passCeiling := by
  have hf := h.packages_forall₂
  have hlen : c.packages.length = c'.packages.length := hf.length_eq
  have hdeps : c.packages.map (·.2.dependencyCount) = c'.packages.map (·.2.dependencyCount) :=
    map_eq_of_forall₂ hf fun a b hab => by simp [Candidate.dependencyCount, hab.2.dependencies]
  have hvars : c.packages.map (·.2.variants.length) = c'.packages.map (·.2.variants.length) :=
    map_eq_of_forall₂ hf fun a b hab => by rw [hab.2.variants]
  simp only [passCeiling, hlen, hdeps, hvars, h.virtuals]

theorem requested_eq (h : Alike c c') : c.graph.requested = c'.graph.requested :=
  h.graph.requested_eq

theorem successors_eq (h : Alike c c') (n : String) : c.graph.successors n = c'.graph.successors n :=
  h.graph.successors_eq n

theorem nodeCount_eq (h : Alike c c') : c.graph.nodeCount = c'.graph.nodeCount :=
  h.graph.nodeCount_eq

theorem edgeCount_eq (h : Alike c c') : c.graph.edgeCount = c'.graph.edgeCount :=
  h.graph.edgeCount_eq

end Alike

end Concretization

end BuildSpec
