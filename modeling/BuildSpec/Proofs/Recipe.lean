import BuildSpec.Proofs.Expansion.Basic
import BuildSpec.Catalog.Recipe

/-!
# Well-formed recipes

A recipe is read one declaration at a time (`Package.Built`): a name and a description, then
versions, variant declarations, dependencies and provisions, each added by its own operation.
Every recipe built so is well formed (`Package.Built.wellFormed`): its variant declarations are
keyed by their own names in strictly ascending order, and its dependencies are grouped under
their targets, targets in strictly ascending order, with no two equal dependencies in a group.
Reading a recipe builds it (`Package.ofJson_built`).

Two consequences are what the expansion needs. A fresh candidate holds exactly the recipe's
declarations (`Package.WellFormed.foldl_addVariant`). And a candidate records the dependencies
that may apply to its spec group by group, so what it has recorded is always a prefix of
`Package.applicable`, the recipe's dependencies cut down to those that may apply; once every
one of them is recorded, the records are exactly `Package.applicable`
(`Package.WellFormed.eq_applicable_of_records`).
-/

namespace BuildSpec

namespace Candidate

/-- Adding a declaration named after every one held appends it. -/
theorem addVariant_of_lt {ds : List Variant.Decl} {d : Variant.Decl}
    (h : ∀ a ∈ ds, a.name < d.name) : addVariant ds d = ds ++ [d] := by
  have hany : ds.any (·.name == d.name) = false := by
    simpa using fun a ha => (h a ha).ne
  have htake : ds.takeWhile (·.name < d.name) = ds :=
    List.takeWhile_eq_self_iff.2 fun a ha => by simpa using h a ha
  have hdrop : ds.dropWhile (·.name < d.name) = [] :=
    List.dropWhile_eq_nil_iff.2 fun a ha => by simpa using h a ha
  simp only [addVariant, hany, Bool.false_eq_true, if_false, List.span_eq_takeWhile_dropWhile,
    htake, hdrop]

end Candidate

namespace Package

/-- A recipe as reading one builds it: a name and a description, then versions, variant
declarations, dependencies and provisions added one at a time. -/
inductive Built : Package → Prop
  | named (n : String) (description : Option String) : Built { name := n, description }
  | version {p : Package} (v : Version) (preferred : Bool) : Built p →
      Built (p.withVersion v preferred)
  | variant {p p' : Package} {d : Variant.Decl} : Built p → p.withVariant d = .ok p' → Built p'
  | dependency {p p' : Package} {d : Dependency} : Built p → p.withDependency d = .ok p' →
      Built p'
  | provision {p p' : Package} {s : Spec} {c : Condition} : Built p →
      p.withProvision s c = .ok p' → Built p'

/-- The shape of a recipe's tables: declarations under their own names and dependency groups
under their targets, both in strictly ascending key order, and no dependency twice in a group. -/
structure WellFormed (p : Package) : Prop where
  variants_ascend : KeysAscend p.variants
  variants_named : ∀ e ∈ p.variants, e.2.name = e.1
  dependencies_ascend : KeysAscend p.dependencies
  dependencies_target : ∀ e ∈ p.dependencies, ∀ d ∈ e.2, d.target = e.1
  dependencies_distinct : ∀ e ∈ p.dependencies, e.2.Pairwise fun a b => (b == a) = false

/-! ## Building keeps a recipe well formed -/

theorem mem_putVariant {k : String} {d : Variant.Decl} {e : String × Variant.Decl} :
    ∀ {l : List (String × Variant.Decl)}, e ∈ putVariant k d l → e = (k, d) ∨ e ∈ l
  | [], h => by simpa [putVariant] using h
  | (k', d') :: l, h => by
    unfold putVariant at h
    split_ifs at h
    · simpa using h
    · rcases List.mem_cons.1 h with rfl | h
      · exact .inr List.mem_cons_self
      · exact (mem_putVariant h).imp_right (List.mem_cons_of_mem _)

theorem KeysAscend.putVariant {k : String} {d : Variant.Decl} :
    ∀ {l : List (String × Variant.Decl)}, KeysAscend l → l.lookup k = none →
      KeysAscend (putVariant k d l)
  | [], _, _ => List.pairwise_singleton _ _
  | (k', d') :: l, h, hk => by
    have hne : k ≠ k' := by
      rintro rfl
      simp at hk
    unfold Package.putVariant
    split_ifs with hlt
    · refine List.Pairwise.cons (fun e he => ?_) h
      rcases List.mem_cons.1 he with rfl | he
      · exact hlt
      · exact hlt.trans (h.lt_of_mem he)
    · have hgt : k' < k := lt_of_le_of_ne (not_lt.1 hlt) (Ne.symm hne)
      refine List.Pairwise.cons (fun e he => ?_) (KeysAscend.putVariant h.tail
        (by rwa [lookup_cons_of_ne hne] at hk))
      rcases mem_putVariant he with rfl | he
      · exact hgt
      · exact h.lt_of_mem he

theorem withVariant_wellFormed {p p' : Package} {d : Variant.Decl} (hw : p.WellFormed)
    (h : p.withVariant d = .ok p') : p'.WellFormed := by
  unfold withVariant at h
  split_ifs at h with hk
  cases h
  refine { hw with variants_ascend := ?_, variants_named := ?_ }
  · exact KeysAscend.putVariant hw.variants_ascend (Option.not_isSome_iff_eq_none.1 hk)
  · intro e he
    rcases mem_putVariant he with rfl | he
    · rfl
    · exact hw.variants_named e he

theorem withDependency_wellFormed {p p' : Package} {d : Dependency} (hw : p.WellFormed)
    (h : p.withDependency d = .ok p') : p'.WellFormed := by
  unfold withDependency at h
  split at h
  · cases h
  rename_i t ht
  cases h
  have hd : d.target = t := by simp [Dependency.target, ht]
  -- the dependency lands in its target's group, appended unless an equal one is there
  rw [Candidate.putDependency_eq hw.dependencies_ascend]
  refine { hw with
    dependencies_ascend := hw.dependencies_ascend.putSorted _ _
    dependencies_target := ?_
    dependencies_distinct := ?_ }
  · intro e he d' hd'
    rcases mem_putSorted he with rfl | he
    · split at hd'
      · rename_i ds hds
        have hold := hw.dependencies_target _ (mem_of_lookup hds)
        split_ifs at hd'
        · exact hold d' hd'
        · rcases List.mem_append.1 hd' with hd' | hd'
          · exact hold d' hd'
          · rw [List.mem_singleton.1 hd', hd]
      · rw [List.mem_singleton.1 hd', hd]
    · exact hw.dependencies_target e he d' hd'
  · intro e he
    rcases mem_putSorted he with rfl | he
    · split
      · rename_i ds hds
        have hold := hw.dependencies_distinct _ (mem_of_lookup hds)
        split_ifs with hc
        · exact hold
        · refine List.pairwise_append.2 ⟨hold, List.pairwise_singleton _ _, ?_⟩
          intro a ha b hb
          rw [List.mem_singleton.1 hb]
          by_contra hab
          exact hc (List.contains_iff_exists_mem_beq.2 ⟨a, ha, by simpa using hab⟩)
      · exact List.pairwise_singleton _ _
    · exact hw.dependencies_distinct e he

theorem WellFormed.of_tables {p p' : Package} (hw : p.WellFormed) (hv : p'.variants = p.variants)
    (hd : p'.dependencies = p.dependencies) : p'.WellFormed := by
  obtain ⟨h₁, h₂, h₃, h₄, h₅⟩ := hw
  exact ⟨hv ▸ h₁, hv ▸ h₂, hd ▸ h₃, hd ▸ h₄, hd ▸ h₅⟩

/-- Every recipe built one declaration at a time is well formed. -/
theorem Built.wellFormed {p : Package} (h : p.Built) : p.WellFormed := by
  induction h with
  | named n description =>
    exact ⟨keysAscend_nil, by simp, keysAscend_nil, by simp, by simp⟩
  | version v preferred _ ih => exact ih.of_tables rfl rfl
  | variant _ hd ih => exact withVariant_wellFormed ih hd
  | dependency _ hd ih => exact withDependency_wellFormed ih hd
  | provision _ hp ih =>
    unfold withProvision at hp
    split_ifs at hp
    cases hp
    exact ih.of_tables rfl rfl

/-! ## Reading a recipe builds it -/

theorem addVersionJson_built {p p' : Package} {j : Json} (hp : p.Built)
    (h : p.addVersionJson j = .ok p') : p'.Built := by
  unfold addVersionJson at h
  simp only [bind, Except.bind, pure, Except.pure] at h
  -- every way of reading the entry fails or ends in `withVersion`
  repeat' split at h
  all_goals cases h
  all_goals exact .version _ _ hp

theorem addProvisionJson_built {p p' : Package} {j : Json} (hp : p.Built)
    (h : p.addProvisionJson j = .ok p') : p'.Built := by
  unfold addProvisionJson at h
  simp only [bind, Except.bind, pure, Except.pure] at h
  -- every way of reading the entry fails or ends in `withProvision`
  repeat' split at h
  any_goals cases h
  all_goals exact .provision hp h

/-- Reading the entries of a field, each by a step that keeps a recipe built, keeps it built. -/
theorem readEntries_built {fs : Json.Fields} {field msg : String}
    {add : Package → Json → Except Error Package} {p p' : Package}
    (hadd : ∀ q q' j, q.Built → add q j = .ok q' → q'.Built) (hp : p.Built)
    (h : readEntries fs field msg add p = .ok p') : p'.Built := by
  unfold readEntries at h
  split at h
  · simp only [except_bind_eq_ok] at h
    obtain ⟨js, -, h⟩ := h
    exact foldlM_ok_induct (fun _ q => q.Built) hp (fun _ j q q' _ hq hs => hadd q q' j hq hs) h
  · cases h
    exact hp

/-- Reading a recipe builds it one declaration at a time. -/
theorem ofJson_built {v : Json} {p : Package} (h : Package.ofJson v = .ok p) : p.Built := by
  unfold Package.ofJson at h
  split at h
  case h_2 =>
    simp only [except_bind_eq_ok] at h
    obtain ⟨_, h, -⟩ := h
    cases h
  simp only [pure_bind, except_bind_eq_ok] at h
  obtain ⟨name?, -, h⟩ := h
  split at h
  case h_2 =>
    simp only [except_bind_eq_ok] at h
    obtain ⟨_, h, -⟩ := h
    cases h
  simp only [except_bind_eq_ok] at h
  obtain ⟨description, -, p₁, h₁, p₂, h₂, p₃, h₃, h⟩ := h
  -- the recipe starts from its name and description, then each field adds its entries
  have hb₁ := readEntries_built (fun _ _ _ hq hs => addVersionJson_built hq hs) (.named _ _) h₁
  have hb₂ := readEntries_built (fun q q' j hq hs => by
    simp only [addVariantJson, except_bind_eq_ok] at hs
    obtain ⟨d, -, hs⟩ := hs
    exact .variant hq hs) hb₁ h₂
  have hb₃ := readEntries_built (fun q q' j hq hs => by
    simp only [addDependencyJson, except_bind_eq_ok] at hs
    obtain ⟨d, -, hs⟩ := hs
    exact .dependency hq hs) hb₂ h₃
  exact readEntries_built (fun _ _ _ hq hs => addProvisionJson_built hq hs) hb₃ h

/-! ## A fresh candidate's declarations -/

theorem foldl_addVariant_of_ascending :
    ∀ (ds acc : List Variant.Decl), (acc ++ ds).Pairwise (·.name < ·.name) →
      ds.foldl Candidate.addVariant acc = acc ++ ds
  | [], acc, _ => by simp
  | d :: ds, acc, h => by
    have hlt : ∀ a ∈ acc, a.name < d.name :=
      fun a ha => List.pairwise_append.1 h |>.2.2 a ha d List.mem_cons_self
    rw [List.foldl_cons, Candidate.addVariant_of_lt hlt,
      foldl_addVariant_of_ascending ds (acc ++ [d]) (by simpa using h)]
    simp

/-- The declarations of a well-formed recipe ascend by name, as their keys do. -/
theorem WellFormed.decls_ascend {p : Package} (hw : p.WellFormed) :
    p.decls.Pairwise (·.name < ·.name) := by
  have hnamed : p.variants.Pairwise fun e e' => e.2.name < e'.2.name :=
    hw.variants_ascend.imp_of_mem fun he he' hlt => by
      rw [hw.variants_named _ he, hw.variants_named _ he']
      exact hlt
  simpa [decls, List.pairwise_map] using hnamed

/-- A variant the recipe has under a name is declared, by that name. -/
theorem WellFormed.decl_of_variant? {p : Package} (hw : p.WellFormed) {n : String}
    {d : Variant.Decl} (h : p.variant? n = some d) : d ∈ p.decls ∧ d.name = n :=
  ⟨List.mem_map.2 ⟨(n, d), mem_of_lookup h, rfl⟩, hw.variants_named _ (mem_of_lookup h)⟩

/-- A fresh candidate of a well-formed recipe holds exactly its declarations. -/
theorem WellFormed.foldl_addVariant {p : Package} (hw : p.WellFormed) :
    p.decls.foldl Candidate.addVariant [] = p.decls :=
  foldl_addVariant_of_ascending p.decls [] (by simpa using hw.decls_ascend)

/-! ## The dependencies that may apply -/

/-- The group of target `e.1` cut down to the dependencies that may apply to a package
constrained by `s`, if any does. -/
def applicableGroup (s : Spec) (e : String × List Dependency) :
    Option (String × List Dependency) :=
  let a := e.2.filter (·.condition.mayApply s)
  if a.isEmpty then none else some (e.1, a)

/-- The recipe's dependencies that may apply to a package constrained by `s`, by target in key
order, each group in declaration order; a target none of whose dependencies may apply is left
out. -/
def applicable (p : Package) (s : Spec) : List (String × List Dependency) :=
  p.dependencies.filterMap (applicableGroup s)

theorem applicableGroup_eq_some {s : Spec} {e g : String × List Dependency}
    (h : applicableGroup s e = some g) :
    g.1 = e.1 ∧ g.2 = e.2.filter (·.condition.mayApply s) ∧ g.2 ≠ [] := by
  unfold applicableGroup at h
  dsimp only at h
  split_ifs at h with hne
  cases h
  exact ⟨rfl, rfl, by simpa using hne⟩

theorem applicableGroup_of_filter {s : Spec} {t : String} {deps : List Dependency}
    (h : deps.filter (·.condition.mayApply s) ≠ []) :
    applicableGroup s (t, deps) = some (t, deps.filter (·.condition.mayApply s)) := by
  simp [applicableGroup, List.isEmpty_iff, h]

theorem applicableGroup_of_filter_nil {s : Spec} {t : String} {deps : List Dependency}
    (h : deps.filter (·.condition.mayApply s) = []) : applicableGroup s (t, deps) = none := by
  simp [applicableGroup, h]

/-- The groups kept for a prefix of the targets are a prefix of what applies. -/
theorem applicable_prefix {p : Package} {s : Spec} {pre : List (String × List Dependency)}
    (h : pre <+: p.dependencies) : pre.filterMap (applicableGroup s) <+: p.applicable s :=
  h.filterMap _

theorem WellFormed.applicable_ascend {p : Package} (hw : p.WellFormed) (s : Spec) :
    KeysAscend (p.applicable s) :=
  hw.dependencies_ascend.filterMap _ fun e e' hlt g hg g' hg' => by
    rw [(applicableGroup_eq_some hg).1, (applicableGroup_eq_some hg').1]
    exact hlt

/-- Records that are a prefix of what applies, and that hold every dependency that may apply,
are all of it: a group left out would hold a dependency not recorded. -/
theorem WellFormed.eq_applicable_of_records {p : Package} {cand : Candidate} (hw : p.WellFormed)
    (hpre : cand.dependencies <+: p.applicable cand.spec)
    (hrec : ∀ e ∈ p.dependencies, ∀ d ∈ e.2, d.condition.mayApply cand.spec = true →
      cand.records d = true) :
    cand.dependencies = p.applicable cand.spec := by
  obtain ⟨rest, hrest⟩ := hpre
  cases rest with
  | nil => simpa using hrest
  | cons g rest =>
    exfalso
    -- the first group left out holds a dependency that may apply
    have hg : g ∈ p.applicable cand.spec := by rw [← hrest]; simp
    obtain ⟨e, he, hge⟩ := List.mem_filterMap.1 hg
    obtain ⟨hkey, hfilter, hne⟩ := applicableGroup_eq_some hge
    obtain ⟨d, hd⟩ := List.exists_mem_of_ne_nil _ hne
    rw [hfilter, List.mem_filter] at hd
    have hr := hrec e he d hd.1 hd.2
    -- so its target is recorded, before the group in a table with distinct keys
    unfold Candidate.records at hr
    rw [hw.dependencies_target e he d hd.1, ← hkey] at hr
    obtain ⟨ds, hds⟩ : ∃ ds, cand.dependencies.lookup g.1 = some ds := by
      cases h : cand.dependencies.lookup g.1 with
      | none => simp [h] at hr
      | some ds => exact ⟨ds, rfl⟩
    have hasc := hw.applicable_ascend cand.spec
    rw [← hrest, KeysAscend, List.pairwise_append] at hasc
    have := hasc.2.2 _ (mem_of_lookup hds) g List.mem_cons_self
    exact lt_irrefl _ this

/-! ## Recording a group -/

/-- Adding a dependency to a table whose keys all come before its target, or that ends with its
target's group, appends to that group. -/
theorem putDependency_append {t : String} {d : Dependency} :
    ∀ (L : List (String × List Dependency)) (b : List Dependency), (∀ e ∈ L, e.1 < t) →
      putDependency t d (L ++ [(t, b)]) =
        L ++ [(t, if b.contains d then b else b ++ [d])]
  | [], b, _ => by simp [putDependency]
  | (u, ds) :: L, b, h => by
    have hu : u < t := h (u, ds) List.mem_cons_self
    have h₁ : ¬t < u := not_lt.2 hu.le
    have h₂ : (t == u) = false := by simpa using hu.ne'
    simp only [List.cons_append, putDependency, h₁, h₂, if_false, Bool.false_eq_true]
    rw [putDependency_append L b fun e he => h e (List.mem_cons_of_mem _ he)]

theorem putDependency_of_lt {t : String} {d : Dependency} :
    ∀ (L : List (String × List Dependency)), (∀ e ∈ L, e.1 < t) →
      putDependency t d L = L ++ [(t, [d])]
  | [], _ => rfl
  | (u, ds) :: L, h => by
    have hu : u < t := h (u, ds) List.mem_cons_self
    have h₁ : ¬t < u := not_lt.2 hu.le
    have h₂ : (t == u) = false := by simpa using hu.ne'
    simp only [List.cons_append, putDependency, h₁, h₂, if_false, Bool.false_eq_true]
    rw [putDependency_of_lt L fun e he => h e (List.mem_cons_of_mem _ he)]

theorem lookup_append_self {t : String} {b : List Dependency} :
    ∀ (L : List (String × List Dependency)), (∀ e ∈ L, e.1 < t) →
      (L ++ [(t, b)]).lookup t = some b
  | [], _ => by simp
  | (u, ds) :: L, h => by
    have hu : u < t := h (u, ds) List.mem_cons_self
    rw [List.cons_append, lookup_cons_of_ne hu.ne',
      lookup_append_self L fun e he => h e (List.mem_cons_of_mem _ he)]

/-- Recording a group of distinct dependencies of one target `t`, after groups whose targets all
come before it, appends the group. -/
theorem foldl_addDependency_group {t : String} {L : List (String × List Dependency)}
    (hL : ∀ e ∈ L, e.1 < t) :
    ∀ (a b : List Dependency) (cand : Candidate), cand.dependencies = L ++ [(t, b)] →
      (b ++ a).Pairwise (fun x y => (y == x) = false) → (∀ d ∈ a, d.target = t) →
      (a.foldl (fun c d => (c.addDependency d).1) cand).dependencies = L ++ [(t, b ++ a)]
  | [], b, cand, h, _, _ => by simpa using h
  | d :: a, b, cand, h, hdist, ht => by
    have hnew : b.contains d = false := by
      rw [Bool.eq_false_iff]
      intro hc
      obtain ⟨x, hx, hdx⟩ := List.contains_iff_exists_mem_beq.1 hc
      have := List.pairwise_append.1 hdist |>.2.2 x hx d List.mem_cons_self
      rw [hdx] at this
      cases this
    have hstep : (cand.addDependency d).1.dependencies = L ++ [(t, b ++ [d])] := by
      simp [Candidate.addDependency, lookup_append_self L hL, hnew, h, ht d List.mem_cons_self,
        putDependency_append L b hL]
    rw [List.foldl_cons, foldl_addDependency_group hL a (b ++ [d]) _ hstep (by simpa using hdist)
      fun x hx => ht x (List.mem_cons_of_mem _ hx)]
    simp

/-- Recording a non-empty group of distinct dependencies of one target `t` on a candidate whose
recorded targets all come before it appends the group. -/
theorem foldl_addDependency_fresh {t : String} {cand : Candidate} {a : List Dependency}
    (hL : ∀ e ∈ cand.dependencies, e.1 < t) (ha : a ≠ [])
    (hdist : a.Pairwise (fun x y => (y == x) = false)) (ht : ∀ d ∈ a, d.target = t) :
    (a.foldl (fun c d => (c.addDependency d).1) cand).dependencies =
      cand.dependencies ++ [(t, a)] := by
  obtain ⟨d, a, rfl⟩ := List.exists_cons_of_ne_nil ha
  have hnone : cand.dependencies.lookup t = none := by
    rw [← Option.not_isSome_iff_eq_none, lookup_isSome_iff_mem_keys]
    intro hk
    obtain ⟨e, he, rfl⟩ := List.mem_map.1 hk
    exact lt_irrefl _ (hL e he)
  have hstep : (cand.addDependency d).1.dependencies = cand.dependencies ++ [(t, [d])] := by
    simp [Candidate.addDependency, hnone, ht d List.mem_cons_self, putDependency_of_lt _ hL]
  rw [List.foldl_cons, foldl_addDependency_group hL a [d] _ hstep (by simpa using hdist)
    fun x hx => ht x (List.mem_cons_of_mem _ hx)]
  simp

end Package

/-- Every recipe of the catalog is well formed. -/
def Catalog.WellFormed (cat : Catalog) : Prop := ∀ p ∈ cat.recipes, p.WellFormed

theorem Catalog.WellFormed.get {cat : Catalog} (h : cat.WellFormed) {n : String} {p : Package}
    (hp : cat.get? n = some p) : p.WellFormed :=
  h p (List.mem_map.2 ⟨(n, p), mem_of_lookup hp, rfl⟩)

end BuildSpec
