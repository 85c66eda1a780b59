import BuildSpec.Proofs.RequestOrder.Alike
import BuildSpec.Proofs.Discovery.Seeds
import BuildSpec.Proofs.Expansion.Variants

/-!
# Seeding in any order

Filing the requests and seeding the candidates give alike states for any order of the
requests, or fail for every order (`prepare_perm`).

Filing a request succeeds or fails whatever was filed before, and lists the same seeds, so the
order of the requests only reorders the leaf and needed lists (`isSome_fileRequests_perm`,
`foldlM_fileRequest_eq`).

Merging a seed does to the compared parts of a state what `seedState` says, the log aside
(`toOption_mergeSpec`): the seed must name a package whose recipe admits its settings
(`seedTarget`), and the package's candidate becomes the one `seededCandidate` gives, either a
new candidate holding the seed, or the one there with its spec narrowed by the seed, which must
first keep to the settings its exclusive variants hold (`Package.keepsExclusive`). Two seeds
merge in either order alike: seeds of two packages touch two candidates, and for one package
the checks on exclusive variants amount to the seeds and the candidate agreeing pairwise on
them (`keepsExclusive_of_merge`), and narrowing is commutative up to `==`
(`Spec.merge_right_comm`). So folding the seeds over two orderings gives alike states
(`SwapLaws.foldlM_perm`).
-/

namespace BuildSpec

/-! ## The check on exclusive variants -/

namespace Package

/-- Whether settings `o` keep to the settings `held` on the exclusive variants of the package:
the check merging a seed into a candidate makes before narrowing the candidate's spec. -/
def keepsExclusive (p : Package) (held o : Variant.Settings) : Bool :=
  o.entries.all fun v => (held.get? v.name).all fun current =>
    !((p.variant? v.name).any (·.exclusive) && current != v)

variable {p : Package} {held o : Variant.Settings}

/-- Two settings agree on the exclusive variants of the package: wherever both give one of
them a value, the values are equal. -/
def AgreeExclusive (p : Package) (a b : Variant.Settings) : Prop :=
  ∀ k, (p.variant? k).any (·.exclusive) = true → ∀ x ∈ a.value? k, ∀ y ∈ b.value? k, x = y

theorem AgreeExclusive.symm {a b : Variant.Settings} (h : p.AgreeExclusive a b) :
    p.AgreeExclusive b a :=
  fun k hk y hy x hx => (h k hk x hx y hy).symm

/-- The check passes exactly when the two settings agree on the exclusive variants. -/
theorem keepsExclusive_iff (ho : Variant.Settings.NamesAscend o.entries) :
    p.keepsExclusive held o = true ↔ p.AgreeExclusive held o := by
  simp only [keepsExclusive, AgreeExclusive, List.all_eq_true, Option.all_eq_true]
  constructor
  · intro h k hk x hx y hy
    obtain ⟨cur, hcur, rfl⟩ := Option.map_eq_some_iff.1 hx
    have hc := h ⟨k, y⟩ (Variant.Settings.mem_of_value? hy) cur hcur
    simp only [hk, Bool.true_and, Bool.not_eq_true', bne_eq_false_iff_eq] at hc
    rw [hc]
  · intro h v hv cur hcur
    have hname : cur.name = v.name := Variant.Settings.name_of_find? hcur
    cases hk : (p.variant? v.name).any (·.exclusive)
    · rfl
    · have hval : cur.value = v.value :=
        h v.name hk cur.value (by simp [Variant.Settings.value?, hcur]) v.value
          (Variant.Settings.value?_of_mem ho hv)
      have hcv : cur = v := by
        cases cur
        cases v
        simp_all
      simp [hcv]

/-- The check does not depend on which side holds which settings. -/
theorem keepsExclusive_comm {a b : Variant.Settings} (ha : Variant.Settings.NamesAscend a.entries)
    (hb : Variant.Settings.NamesAscend b.entries) : p.keepsExclusive a b = p.keepsExclusive b a := by
  rw [Bool.eq_iff_iff, keepsExclusive_iff hb, keepsExclusive_iff ha]
  exact ⟨AgreeExclusive.symm, AgreeExclusive.symm⟩

/-- Two values that are equal wherever both are given merge into one of them. -/
theorem mem_merge_union_iff {a b : Option Variant.Value} (hab : ∀ x ∈ a, ∀ y ∈ b, x = y)
    (ha : ∀ x ∈ a, x.WellFormed) (z : Variant.Value) :
    z ∈ a.merge Variant.Value.union b ↔ z ∈ a ∨ z ∈ b := by
  cases a with
  | none => cases b <;> simp
  | some x =>
    cases b with
    | none => simp
    | some y =>
      obtain rfl := hab x rfl y rfl
      simp [Variant.Value.union_self (ha x rfl)]

/-- Settings merged from two that agree on the exclusive variants agree with others exactly when
both of the two do. -/
theorem agreeExclusive_merge {a b m t : Variant.Settings} (ha : a.WellFormed)
    (hab : p.AgreeExclusive a b) (hm : ∀ k, m.value? k = (a.value? k).merge Variant.Value.union (b.value? k)) :
    p.AgreeExclusive m t ↔ p.AgreeExclusive a t ∧ p.AgreeExclusive b t := by
  have hmem : ∀ k, (p.variant? k).any (·.exclusive) = true → ∀ z, z ∈ m.value? k ↔ z ∈ a.value? k ∨ z ∈ b.value? k :=
    fun k hk z => by
      rw [hm k]
      exact mem_merge_union_iff (hab k hk)
        (fun x hx => (ha.settings _ (Variant.Settings.mem_of_value? hx)).value) z
  constructor
  · intro h
    exact ⟨fun k hk x hx => h k hk x ((hmem k hk x).2 (.inl hx)),
      fun k hk y hy => h k hk y ((hmem k hk y).2 (.inr hy))⟩
  · rintro ⟨h₁, h₂⟩ k hk z hz
    rcases (hmem k hk z).1 hz with hz | hz
    · exact h₁ k hk z hz
    · exact h₂ k hk z hz

/-- Once a seed keeping to the exclusive settings of a spec narrows it, a second seed keeps to
those of the result exactly when it agrees with the spec and with the first seed. -/
theorem keepsExclusive_of_merge {a s t m : Spec} {ch : Bool} (ha : a.DepWellFormed)
    (hs : s.DepWellFormed) (ht : t.DepWellFormed) (has : p.AgreeExclusive a.variants s.variants)
    (hm : a.merge s = .ok (m, ch)) :
    p.keepsExclusive m.variants t.variants = true ↔
      p.AgreeExclusive a.variants t.variants ∧ p.AgreeExclusive s.variants t.variants := by
  obtain ⟨ch', hv⟩ := Spec.constrain_variants hm
  rw [hs.part.not_concrete] at hv
  obtain ⟨-, hval⟩ :=
    Variant.Settings.value?_constrain ha.part.variants.ascend hs.part.variants.ascend hv
  rw [keepsExclusive_iff ht.part.variants.ascend]
  exact agreeExclusive_merge ha.part.variants has hval

end Package

/-! ## What merging a seed does -/

/-- A loop whose body continues or stops, and continues on the items passing a test, runs to its
end exactly when every item passes. -/
theorem toOption_forIn_yield {ε α : Type} (l : List α) (ok : α → Bool)
    (f : α → Unit → Except ε (ForInStep Unit))
    (hf : ∀ a u, (f a u).toOption = if ok a then some (.yield ()) else none) :
    (forIn l () f).toOption = if l.all ok then some () else none := by
  induction l with
  | nil => rfl
  | cons a l ih =>
    rw [List.forIn_cons, toOption_bind, hf, List.all_cons]
    cases ok a
    · rfl
    · simpa using ih

namespace Concretization

/-- The candidate a seed leaves for a package with recipe `p`, given the candidate there before:
a new candidate holding the seed and the recipe's declarations, or the one there with its spec
narrowed by the seed, which must first keep to the settings of the exclusive variants. -/
def seededCandidate (p : Package) (s : Spec) : Option Candidate → Option Candidate
  | some e => if p.keepsExclusive e.spec.variants s.variants then
      ((e.spec.constrain s).toOption.map Prod.fst).map fun m => { e with spec := m }
    else none
  | none => some { spec := s, variants := p.decls.foldl Candidate.addVariant [] }

/-- The package a seed is merged into, with its recipe: the seed names it, and the recipe admits
the seed's settings. -/
def seedTarget (cat : Catalog) (s : Spec) : Option (String × Package) :=
  s.name.bind fun n => (validateVariants cat n s).toOption.bind fun _ =>
    (cat.get? n).map fun p => (n, p)

/-- What merging a seed does to a state, the log aside: the seed's package gets the candidate
`seededCandidate` gives, and a node. -/
def seedState (c : Concretization) (s : Spec) : Option Concretization :=
  (seedTarget c.catalog s).bind fun t => (seededCandidate t.2 s (c.candidate? t.1)).map fun cand =>
    { c with packages := putSorted t.1 cand c.packages, graph := c.graph.touch t.1 false }

/-- Two states equal but for their logs. -/
def SameButLog (c c' : Concretization) : Prop := ∃ log, c = { c' with log }

/-- Merging a seed does what `seedState` says, the log aside. -/
theorem toOption_mergeSpec (c : Concretization) (s : Spec) :
    Option.Rel SameButLog (c.mergeSpec s).toOption (c.seedState s) := by
  unfold mergeSpec seedState seedTarget
  cases hn : s.name with
  | none => exact .none
  | some n =>
    simp only [Option.bind_some, toOption_bind, toOption_lift]
    cases hv : validateVariants c.catalog n s with
    | error e => exact .none
    | ok u =>
      simp only [toOption_ok, Option.bind_some]
      cases hp : c.catalog.get? n with
      | none => exact .none
      | some p =>
        simp only [Option.map_some, Option.bind_some]
        cases he : c.candidate? n with
        | none =>
          have hnew : newCandidate c.catalog n s =
              .ok { spec := s, variants := p.decls.foldl Candidate.addVariant [] } := by
            simp [newCandidate, hp]
          simp only [seededCandidate, toOption_bind, toOption_lift, note_catalog, hnew, toOption_ok,
            Option.bind_some, toOption_pure, Option.map_some]
          exact .some ⟨_, rfl⟩
        | some e =>
          simp only [seededCandidate, toOption_bind, toOption_lift]
          rw [toOption_forIn_yield _ (fun v => (e.spec.variants.get? v.name).all fun current =>
            !((p.variant? v.name).any (·.exclusive) && current != v)) _ (fun v u => ?_)]
          · change Option.Rel SameButLog ((if p.keepsExclusive e.spec.variants s.variants then some ()
              else none).bind _) _
            cases p.keepsExclusive e.spec.variants s.variants
            · exact .none
            · cases hcon : e.spec.constrain s with
              | error e => exact .none
              | ok r =>
                obtain ⟨m, ch⟩ := r
                cases ch
                · exact .some ⟨_, rfl⟩
                · exact .some ⟨_, rfl⟩
          · -- the body stops exactly on a differing setting of an exclusive variant
            cases e.spec.variants.get? v.name with
            | none => rfl
            | some current =>
              dsimp only [Option.all_some]
              split
              · rename_i hx
                simp only [hx, Bool.not_true, Bool.false_eq_true, ↓reduceIte]
                rfl
              · rename_i hx
                rw [Bool.not_eq_true] at hx
                simp only [hx, Bool.not_false, ↓reduceIte]
                rfl

section Candidates

variable {p : Package} {s t : Spec}

theorem depWellFormed_of_seededCandidate {e : Option Candidate} {x : Candidate}
    (he : ∀ y ∈ e, y.spec.DepWellFormed) (hs : s.DepWellFormed) (hx : x ∈ seededCandidate p s e) :
    x.spec.DepWellFormed := by
  cases e with
  | none =>
    simp only [seededCandidate, Option.mem_def, Option.some.injEq] at hx
    subst hx
    exact hs
  | some e =>
    simp only [seededCandidate] at hx
    split_ifs at hx
    · obtain ⟨m, hm, rfl⟩ := Option.mem_map.1 hx
      exact Spec.depWellFormed_of_mem_merge (he e rfl) hs hm
    · cases hx

/-- Alike candidates before a seed give alike candidates after it. -/
theorem seededCandidate_congr {e e' : Option Candidate} (h : Option.Rel Candidate.Alike e e')
    (he : ∀ y ∈ e, y.spec.DepWellFormed) (he' : ∀ y ∈ e', y.spec.DepWellFormed)
    (hs : s.DepWellFormed) :
    Option.Rel Candidate.Alike (seededCandidate p s e) (seededCandidate p s e') := by
  rcases rel_cases h with ⟨rfl, rfl⟩ | ⟨a, b, rfl, rfl, hab⟩
  · exact .some (Candidate.Alike.refl hs.flat)
  · -- equal specs hold the same settings, so the checks agree
    have hv : a.spec.variants = b.spec.variants := (Spec.fields_of_beq hab.spec).2.2.2.1
    simp only [seededCandidate, hv]
    split_ifs
    · exact rel_map_mem (Spec.merge_congr (he a rfl) (he' b rfl) hs hs hab.spec (Spec.beq_self s))
        fun m hm m' _ hmm' => ⟨hmm', (Spec.depWellFormed_of_mem_merge (he a rfl) hs hm).flat,
          hab.dependencies, hab.variants⟩
    · exact .none

/-- Two seeds narrowing a candidate in turn pass their checks exactly when the candidate and the
two seeds agree pairwise on the exclusive variants, and then narrow it by both. -/
theorem seededCandidate_twice {e : Candidate} (he : e.spec.DepWellFormed) (hs : s.DepWellFormed)
    (ht : t.DepWellFormed) :
    ((seededCandidate p s (some e)).bind fun x => seededCandidate p t (some x)) =
      if (p.keepsExclusive e.spec.variants s.variants && p.keepsExclusive e.spec.variants t.variants &&
          p.keepsExclusive s.variants t.variants) then
        (((e.spec.merge s).toOption.map Prod.fst).bind fun m => (m.merge t).toOption.map Prod.fst).map
          fun m => { e with spec := m }
      else none := by
  cases hes : p.keepsExclusive e.spec.variants s.variants
  · simp [seededCandidate, hes]
  · cases hm : e.spec.merge s with
    | error err => simp [seededCandidate, hes, Spec.constrain, hm]
    | ok r =>
      obtain ⟨m, ch⟩ := r
      have hk := Package.keepsExclusive_of_merge he hs ht
        ((Package.keepsExclusive_iff hs.part.variants.ascend).1 hes) hm
      have hk' : p.keepsExclusive m.variants t.variants =
          (p.keepsExclusive e.spec.variants t.variants && p.keepsExclusive s.variants t.variants) := by
        rw [Bool.eq_iff_iff, hk, Bool.and_eq_true, Package.keepsExclusive_iff ht.part.variants.ascend,
          Package.keepsExclusive_iff ht.part.variants.ascend]
      simp only [seededCandidate, hes, ↓reduceIte, Spec.constrain, hm, toOption_ok, Option.map_some,
        Option.bind_some, hk', Bool.true_and]

/-- Two seeds of one package leave alike candidates in either order. -/
theorem seededCandidate_swap {e : Option Candidate} (he : ∀ y ∈ e, y.spec.DepWellFormed)
    (hs : s.DepWellFormed) (ht : t.DepWellFormed) :
    Option.Rel Candidate.Alike ((seededCandidate p s e).bind fun x => seededCandidate p t (some x))
      ((seededCandidate p t e).bind fun x => seededCandidate p s (some x)) := by
  have hst := Package.keepsExclusive_comm (p := p) hs.part.variants.ascend ht.part.variants.ascend
  cases e with
  | none =>
    -- the first seed makes the candidate and the second narrows it
    simp only [seededCandidate, Option.bind_some, hst]
    cases p.keepsExclusive t.variants s.variants
    · exact .none
    · exact rel_map_mem (Spec.merge_comm hs ht) fun m hm _ _ hmm' =>
        ⟨hmm', (Spec.depWellFormed_of_mem_merge hs ht hm).flat, rfl, rfl⟩
  | some e =>
    have he₁ := he e rfl
    rw [seededCandidate_twice he₁ hs ht, seededCandidate_twice he₁ ht hs, hst,
      Bool.and_comm (p.keepsExclusive e.spec.variants t.variants)]
    cases p.keepsExclusive e.spec.variants s.variants && p.keepsExclusive e.spec.variants t.variants &&
      p.keepsExclusive t.variants s.variants
    · exact .none
    · exact rel_map_mem (Spec.merge_right_comm he₁ hs ht) fun m hm _ _ hmm' =>
        ⟨hmm', (Spec.depWellFormed_of_mem_merge_merge he₁ hs ht hm).flat, rfl, rfl⟩

end Candidates

/-! ## Seeding states -/

/-- A state seeding passes through: candidates in name order, each holding a well-formed spec of
a package without dependencies of its own. -/
structure Seedable (c : Concretization) : Prop where
  ascend : KeysAscend c.packages
  specs : ∀ n cand, c.candidate? n = some cand → cand.spec.DepWellFormed

/-- A seed as filing lists it: well formed, without dependencies. -/
def Seed (s : Spec) : Prop := s.WellFormed ∧ s.dependencies = []

variable {c c' d : Concretization} {s t : Spec}

theorem Seedable.alike (hc : c.Seedable) : Alike c c :=
  ⟨⟨rfl, rfl, hc.ascend, hc.ascend, fun n => rel_refl_of fun x hx => Candidate.Alike.refl
    (hc.specs n x hx).flat, rfl, .refl _, rfl⟩, .refl _⟩

theorem seedTarget_eq_some {cat : Catalog} {n : String} {p : Package}
    (h : seedTarget cat s = some (n, p)) : s.name = some n ∧ cat.get? n = some p := by
  unfold seedTarget at h
  obtain ⟨n', hn', h⟩ := Option.bind_eq_some_iff.1 h
  obtain ⟨_, -, h⟩ := Option.bind_eq_some_iff.1 h
  obtain ⟨p', hp', hnp⟩ := Option.map_eq_some_iff.1 h
  cases hnp
  exact ⟨hn', hp'⟩

/-- A seed that is merged names a package, so it is a well-formed dependency. -/
theorem Seed.depWellFormed (hs : Seed s) {cat : Catalog} {n : String} {p : Package}
    (h : seedTarget cat s = some (n, p)) : s.DepWellFormed :=
  ⟨hs.1.part, by simp [(seedTarget_eq_some h).1], hs.2⟩

theorem seedState_eq_some (h : c.seedState s = some d) :
    ∃ n p cand, seedTarget c.catalog s = some (n, p) ∧
      seededCandidate p s (c.candidate? n) = some cand ∧
      d = { c with packages := putSorted n cand c.packages, graph := c.graph.touch n false } := by
  unfold seedState at h
  obtain ⟨⟨n, p⟩, ht, h⟩ := Option.bind_eq_some_iff.1 h
  obtain ⟨cand, hc, rfl⟩ := Option.map_eq_some_iff.1 h
  exact ⟨n, p, cand, ht, hc, rfl⟩

theorem Seedable.put (hc : c.Seedable) {n : String} {cand : Candidate}
    (hd : d.packages = putSorted n cand c.packages) (h : cand.spec.DepWellFormed) : d.Seedable := by
  refine ⟨hd ▸ hc.ascend.putSorted n cand, fun k x hx => ?_⟩
  rw [candidate?, hd, lookup_putSorted] at hx
  split_ifs at hx
  · cases hx
    exact h
  · exact hc.specs k x hx

theorem Seedable.seedState (hc : c.Seedable) (hs : Seed s) (h : c.seedState s = some d) :
    d.Seedable := by
  obtain ⟨n, p, cand, ht, hcand, rfl⟩ := seedState_eq_some h
  exact hc.put rfl
    (depWellFormed_of_seededCandidate (fun y hy => hc.specs n y hy) (hs.depWellFormed ht) hcand)

/-- Merging a seed into alike states gives alike states. -/
theorem seedState_congr (h : Alike c c') (hc : c.Seedable) (hc' : c'.Seedable) (hs : Seed s) :
    Option.Rel Alike (c.seedState s) (c'.seedState s) := by
  have hT : seedTarget c'.catalog s = seedTarget c.catalog s := by rw [h.catalog]
  unfold seedState
  rw [hT]
  cases ht : seedTarget c.catalog s with
  | none => exact .none
  | some np =>
    obtain ⟨n, p⟩ := np
    simp only [Option.bind_some]
    exact rel_map_mem (seededCandidate_congr (h.candidates n) (fun y hy => hc.specs n y hy)
      (fun y hy => hc'.specs n y hy) (hs.depWellFormed ht))
      fun x _ x' _ hx => (h.putCandidate n hx).touch n false

/-- Two seeds merge into a state alike in either order. -/
theorem seedState_swap (hc : c.Seedable) (hs : Seed s) (ht : Seed t) :
    Option.Rel Alike ((c.seedState s).bind fun d => d.seedState t)
      ((c.seedState t).bind fun d => d.seedState s) := by
  unfold seedState
  cases hs' : seedTarget c.catalog s with
  | none => simp [hs', Option.bind_assoc, Option.bind_map]
  | some np =>
    cases ht' : seedTarget c.catalog t with
    | none => simp [ht', Option.bind_map]
    | some nq =>
      obtain ⟨a, p⟩ := np
      obtain ⟨b, q⟩ := nq
      have hsd := hs.depWellFormed hs'
      have htd := ht.depWellFormed ht'
      have hspecs : ∀ k, ∀ y ∈ c.packages.lookup k, y.spec.DepWellFormed := fun k y hy => hc.specs k y hy
      simp only [Option.bind_some, Option.bind_map, Function.comp_def, hs', ht', candidate?,
        lookup_putSorted]
      by_cases hab : a = b
      · -- one package: the two seeds narrow its candidate in turn
        subst hab
        obtain rfl : p = q := Option.some.inj ((seedTarget_eq_some hs').2.symm.trans
          (seedTarget_eq_some ht').2)
        simp only [↓reduceIte, putSorted_putSorted_self, Graph.touch_touch]
        exact rel_bind_map (seededCandidate_swap (hspecs a) hsd htd) fun x x' hxx' =>
          (hc.alike.putCandidate a hxx').touch a false
      · -- two packages: each seed fills its own
        simp only [if_neg (Ne.symm hab), if_neg hab]
        refine rel_bind_map_comm fun x hx y hy => ?_
        have hx' := depWellFormed_of_seededCandidate (hspecs a) hsd hx
        have hy' := depWellFormed_of_seededCandidate (hspecs b) htd hy
        have hd : Seedable { c with packages := putSorted a x (putSorted b y c.packages) } :=
          (hc.put (d := { c with packages := putSorted b y c.packages }) rfl hy').put rfl hx'
        refine (hc.alike.withPackages ((hc.ascend.putSorted a x).putSorted b y)
          ((hc.ascend.putSorted b y).putSorted a x) fun n => ?_).withGraph
          ⟨Graph.names_touch_swap c.graph a b false false, by simp⟩
        rw [lookup_putSorted_comm hab]
        exact hd.alike.candidates n

/-! ## Folding the seeds -/

/-- Two states seeding may reach from two orderings of the seeds: alike, and each seedable. -/
structure SeedAlike (c c' : Concretization) : Prop where
  alike : Alike c c'
  left : c.Seedable
  right : c'.Seedable

/-- A seed that is requested is marked so in the graph, by an edge from the request. -/
def markRequested (s : Spec) (c : Concretization) : Concretization :=
  { c with graph := (c.graph.addEdgeOnce ⟨none, s.name.getD "", .requested⟩).1 }

/-- What merging a requested seed does to a state, the log aside. -/
def leafState (c : Concretization) (s : Spec) : Option Concretization :=
  (c.seedState s).map (markRequested s)

/-- What seeding does to a state, the log aside: the leaf specs, each requested, then the needed
ones. -/
def seedStates (c : Concretization) : Option Concretization :=
  (c.leaf.foldlM leafState c).bind fun d => d.needed.foldlM seedState d

theorem SeedAlike.markRequested (h : SeedAlike c c') (s : Spec) :
    SeedAlike (c.markRequested s) (c'.markRequested s) :=
  ⟨h.alike.withGraph (h.alike.graph.addEdgeOnce _).1, ⟨h.left.ascend, h.left.specs⟩,
    ⟨h.right.ascend, h.right.specs⟩⟩

/-- Merging seeds keeps states seedable and alike, and takes two seeds in either order alike. -/
theorem seedLaws : SwapLaws SeedAlike Seed seedState where
  symm h := ⟨h.alike.symm, h.right, h.left⟩
  trans h h' := ⟨h.alike.trans h'.alike, h.left, h'.right⟩
  step a ha h := rel_mono (seedState_congr h.alike h.left h.right ha) fun _ hd _ hd' hdd' =>
    ⟨hdd', h.left.seedState ha hd, h.right.seedState ha hd'⟩
  swap a b ha hb h := by
    refine rel_mono (seedState_swap h.left ha hb) fun d hd d' hd' hdd' => ⟨hdd', ?_, ?_⟩
    · obtain ⟨d₁, h₁, h₂⟩ := Option.bind_eq_some_iff.1 hd
      exact (h.left.seedState ha h₁).seedState hb h₂
    · obtain ⟨d₁, h₁, h₂⟩ := Option.bind_eq_some_iff.1 hd'
      exact (h.left.seedState hb h₁).seedState ha h₂

/-- Marking a seed requested and merging another commute. -/
theorem seedState_markRequested (c : Concretization) (s t : Spec) :
    (c.markRequested s).seedState t = (c.seedState t).map (markRequested s) := by
  unfold seedState markRequested
  dsimp only
  cases seedTarget c.catalog t with
  | none => rfl
  | some np =>
    simp only [Option.bind_some, Option.map_map, Function.comp_def, candidate?,
      Graph.touch_addEdgeOnce]

/-- Two requested seeds merge as the two seeds do, each then marked requested. -/
theorem leafState_bind (c : Concretization) (s t : Spec) :
    ((c.leafState s).bind fun d => d.leafState t) =
      ((c.seedState s).bind fun d => d.seedState t).map
        fun d => (d.markRequested s).markRequested t := by
  unfold leafState
  cases c.seedState s with
  | none => rfl
  | some d => simp [seedState_markRequested, Option.map_map, Function.comp_def]

/-- Merging requested seeds keeps states seedable and alike, and takes two seeds in either order
alike. -/
theorem leafLaws : SwapLaws SeedAlike Seed leafState where
  symm := seedLaws.symm
  trans := seedLaws.trans
  step a ha h := rel_map_mem (seedLaws.step a ha h) fun _ _ _ _ hdd' => hdd'.markRequested a
  swap a b ha hb h := by
    rw [leafState_bind, leafState_bind]
    refine rel_map_mem (seedLaws.swap a b ha hb h) fun d _ d' _ hdd' => ?_
    exact ⟨hdd'.alike.withGraph (hdd'.alike.graph.addEdgeOnce_swap _ _), ⟨hdd'.left.ascend,
      hdd'.left.specs⟩, ⟨hdd'.right.ascend, hdd'.right.specs⟩⟩

theorem needed_of_foldlM_leafState {l : List Spec} (h : d ∈ l.foldlM leafState c) :
    d.needed = c.needed := by
  refine foldlM_invariant (fun x => x.needed = c.needed) (fun x a y hx hy => ?_) rfl h
  obtain ⟨y₁, hy₁, rfl⟩ := Option.map_eq_some_iff.1 hy
  obtain ⟨n, p, cand, -, -, rfl⟩ := seedState_eq_some hy₁
  exact hx

/-- Seeding alike states whose requested and needed seeds are the same, each list in any order,
gives alike states. -/
theorem seedStates_congr (h : SeedAlike c c') (hleaf : c.leaf.Perm c'.leaf)
    (hneeded : c.needed.Perm c'.needed) (hseeds : ∀ s ∈ c.leaf ++ c.needed, Seed s) :
    Option.Rel SeedAlike c.seedStates c'.seedStates := by
  unfold seedStates
  refine rel_bind (leafLaws.foldlM_perm_rel hleaf
    (fun s hs => hseeds s (List.mem_append_left _ hs)) h) fun d hd d' hd' hdd' => ?_
  rw [needed_of_foldlM_leafState hd, needed_of_foldlM_leafState hd']
  exact seedLaws.foldlM_perm_rel hneeded (fun s hs => hseeds s (List.mem_append_right _ hs)) hdd'

/-! ## Logs aside -/

theorem SameButLog.trans (h : SameButLog c c') (h' : SameButLog c' d) : SameButLog c d := by
  obtain ⟨l, rfl⟩ := h
  obtain ⟨l', rfl⟩ := h'
  exact ⟨l, rfl⟩

theorem SameButLog.markRequested (h : SameButLog c c') (s : Spec) :
    SameButLog (c.markRequested s) (c'.markRequested s) := by
  obtain ⟨l, rfl⟩ := h
  exact ⟨l, rfl⟩

/-- States equal but for their logs are compared alike. -/
theorem SameButLog.seedAlike {e' : Concretization} (h : SameButLog c d) (h' : SameButLog c' e')
    (hd : SeedAlike d e') : SeedAlike c c' := by
  obtain ⟨l, rfl⟩ := h
  obtain ⟨l', rfl⟩ := h'
  exact ⟨hd.alike.withLog l l', ⟨hd.left.ascend, hd.left.specs⟩, ⟨hd.right.ascend, hd.right.specs⟩⟩

theorem seedState_withLog (c : Concretization) (l : Array Log.Entry) (s : Spec) :
    ({ c with log := l } : Concretization).seedState s =
      (c.seedState s).map fun d => { d with log := l } := by
  unfold seedState
  dsimp only
  cases seedTarget c.catalog s with
  | none => rfl
  | some np => simp only [Option.bind_some, Option.map_map, Function.comp_def, candidate?]

/-- Merging a seed into a state equal to another but for the log does what `seedState` does to
the other, the log aside. -/
theorem mergeSpec_sameButLog (h : SameButLog c c') (s : Spec) :
    Option.Rel SameButLog (c.mergeSpec s).toOption (c'.seedState s) := by
  obtain ⟨l, rfl⟩ := h
  refine rel_trans_of (R := SameButLog) SameButLog.trans (toOption_mergeSpec _ s) ?_
  rw [seedState_withLog]
  cases c'.seedState s with
  | none => exact .none
  | some d => exact .some ⟨l, rfl⟩

/-- Seeding does what `seedStates` says, the log aside. -/
theorem toOption_seed (c : Concretization) : Option.Rel SameButLog c.seed.toOption c.seedStates := by
  unfold seed seedStates
  simp only [toOption_bind, toOption_foldlM, toOption_pure]
  refine rel_bind (rel_foldlM (R := SameButLog) (fun s _ x y hxy => ?_) ⟨c.log, rfl⟩)
    fun d _ e _ hde => ?_
  · unfold leafState
    rcases rel_cases (mergeSpec_sameButLog hxy s) with ⟨h₁, h₂⟩ | ⟨d, e, h₁, h₂, hde⟩
    · rw [h₁, h₂]
      exact .none
    · rw [h₁, h₂]
      exact .some (hde.markRequested s)
  · obtain ⟨l, rfl⟩ := hde
    exact rel_foldlM (R := SameButLog) (fun s _ x y hxy => mergeSpec_sameButLog hxy s) ⟨l, rfl⟩

/-! ## Filing the requests -/

/-- Whether a request can be filed depends on the catalog alone. -/
theorem addRequest_isSome (s : Spec) (b : Bool) (c : Concretization) :
    ∀ d : Concretization, c.catalog = d.catalog →
      (c.addRequest s b).toOption.isSome = (d.addRequest s b).toOption.isSome := by
  -- a request and the list of its dependencies are filed by mutual recursion
  refine addRequest.induct
    (fun c s b => ∀ d : Concretization, c.catalog = d.catalog →
      (c.addRequest s b).toOption.isSome = (d.addRequest s b).toOption.isSome)
    (fun c l => ∀ d : Concretization, c.catalog = d.catalog →
      (c.addRequests l).toOption.isSome = (d.addRequests l).toOption.isSome)
    ?_ ?_ ?_ ?_ ?_ c s b
  · intro c versions variants compiler deps concrete explicit n hv s _ d hcd
    simp [addRequest, hv, ← hcd, stop]
  · intro c versions variants compiler deps concrete explicit n hv s ih d hcd
    by_cases hk : c.catalog.contains n
    · simp only [addRequest, hv, ← hcd, hk, Bool.not_true, Bool.false_eq_true, ↓reduceIte]
      cases explicit
      · exact ih _ (by simp [hcd])
      · exact ih _ (by simp [hcd])
    · simp [addRequest, hv, ← hcd, hk, stop]
  · intro c name versions variants compiler deps concrete explicit hname d hcd
    cases name with
    | none => simp [addRequest, stop]
    | some n => exact absurd rfl (hname n)
  · intro c d hcd
    rfl
  · intro c r rs ih₁ ih₂ d hcd
    have h₁ := ih₁ d hcd
    simp only [addRequests, toOption_bind]
    cases hc : c.addRequest r true with
    | error e =>
      cases hd : d.addRequest r true with
      | error e' => rfl
      | ok d₁ => simp [hc, hd] at h₁
    | ok c₁ =>
      cases hd : d.addRequest r true with
      | error e' => simp [hc, hd] at h₁
      | ok d₁ =>
        -- filing changes only the lists of requested specs
        obtain ⟨l, n, rfl⟩ := addRequest_eq c r true c₁ hc
        obtain ⟨l', n', rfl⟩ := addRequest_eq d r true d₁ hd
        exact ih₂ _ _ hcd

theorem isSome_fileRequest (c : Concretization) (s : Spec) :
    (c.fileRequest s).toOption.isSome = (c.addRequest s false).toOption.isSome := by
  unfold fileRequest
  simp only [toOption_bind, toOption_pure]
  cases (c.addRequest s false).toOption <;> rfl

/-- Filing requests succeeds in one order exactly when it does in any other. -/
theorem isSome_fileRequests_perm {L L' : List Spec} (hp : L.Perm L') (c₀ : Concretization) :
    (L.foldlM fileRequest c₀).toOption.isSome = (L'.foldlM fileRequest c₀).toOption.isSome := by
  -- each request is filed or refused whatever was filed before it
  have hfiled : ∀ M : List Spec, (M.foldlM fileRequest c₀).toOption.isSome ↔
      ∀ s ∈ M, (c₀.addRequest s false).toOption.isSome := fun M => by
    rw [toOption_foldlM]
    refine isSome_foldlM_iff (fun x => x.catalog = c₀.catalog) (fun x s hx => ?_)
      (fun x s y hx hy => ?_) rfl
    · rw [isSome_fileRequest, addRequest_isSome s false x c₀ hx]
    · exact ((fileRequest_keeps (eq_ok_of_toOption hy)).1.catalog_eq).trans hx
  rw [Bool.eq_iff_iff, hfiled, hfiled]
  exact ⟨fun h s hs => h s (hp.mem_iff.2 hs), fun h s hs => h s (hp.mem_iff.1 hs)⟩

/-- Filing requests changes only the lists of requests. -/
theorem foldlM_fileRequest_eq {L : List Spec} {c₀ : Concretization} (h : L.foldlM fileRequest c₀ = .ok c) :
    ∃ leaf needed initial, c = { c₀ with leaf, needed, initial } := by
  refine foldlM_ok_induct (fun _ r => ∃ leaf needed initial, r = { c₀ with leaf, needed, initial })
    ⟨c₀.leaf, c₀.needed, c₀.initial, rfl⟩ ?_ h
  rintro pre s acc r - ⟨leaf, needed, initial, rfl⟩ hstep
  simp only [fileRequest, except_bind_eq_ok, except_pure_eq_ok] at hstep
  obtain ⟨c₁, h₁, rfl⟩ := hstep
  obtain ⟨leaf', needed', rfl⟩ := addRequest_eq _ s false c₁ h₁
  exact ⟨leaf', needed', initial ++ [s], rfl⟩

/-! ## Preparing in any order -/

/-- States equal to seedable alike states but for their logs are seedable and alike. -/
theorem rel_seedAlike {x x' y y' : Option Concretization} (h : Option.Rel SameButLog x y)
    (h' : Option.Rel SameButLog x' y') (hy : Option.Rel SeedAlike y y') : Option.Rel SeedAlike x x' := by
  rcases rel_cases hy with ⟨rfl, rfl⟩ | ⟨d, d', rfl, rfl, hdd'⟩
  · rcases rel_cases h with ⟨rfl, -⟩ | ⟨_, _, -, h₁, -⟩
    · rcases rel_cases h' with ⟨rfl, -⟩ | ⟨_, _, -, h₂, -⟩
      · exact .none
      · cases h₂
    · cases h₁
  · rcases rel_cases h with ⟨-, h₁⟩ | ⟨c, _, rfl, h₁, hc⟩
    · cases h₁
    · rcases rel_cases h' with ⟨-, h₂⟩ | ⟨c', _, rfl, h₂, hc'⟩
      · cases h₂
      · cases h₁
        cases h₂
        exact .some (hc.seedAlike hc' hdd')

/-- Filing and seeding the same requests in two orders gives seedable alike states, or fails both
times. -/
theorem prepare_perm {cat : Catalog} {prefs : Prefs} {L L' : List Spec} (hp : L.Perm L')
    (hw : ∀ s ∈ L, s.WellFormed) :
    Option.Rel SeedAlike (prepare cat prefs L).toOption (prepare cat prefs L').toOption := by
  unfold prepare
  simp only [toOption_bind]
  have hinit : Seedable ({ catalog := cat, prefs } : Concretization) :=
    ⟨List.Pairwise.nil, fun n x hx => by simp [candidate?] at hx⟩
  refine rel_bind (T := fun c c' => SeedAlike c c' ∧ c.leaf.Perm c'.leaf ∧ c.needed.Perm c'.needed ∧
      ∀ s ∈ c.leaf ++ c.needed, Seed s)
    (rel_of_isSome_eq (isSome_fileRequests_perm hp _) fun c hc c' hc' => ?_) fun c _ c' _ h => ?_
  · obtain ⟨hleaf, hneeded, -⟩ := fileRequests_seeds (eq_ok_of_toOption hc)
    obtain ⟨hleaf', hneeded', -⟩ := fileRequests_seeds (eq_ok_of_toOption hc')
    obtain ⟨l, n, i, rfl⟩ := foldlM_fileRequest_eq (eq_ok_of_toOption hc)
    obtain ⟨l', n', i', rfl⟩ := foldlM_fileRequest_eq (eq_ok_of_toOption hc')
    simp only [List.nil_append] at hleaf hneeded hleaf' hneeded'
    refine ⟨⟨hinit.alike.withRequests l n i l' n' i', ⟨hinit.ascend, hinit.specs⟩,
      ⟨hinit.ascend, hinit.specs⟩⟩, ?_, ?_, fun s hs => ?_⟩
    · rw [hleaf, hleaf']
      exact hp.map _
    · rw [hneeded, hneeded']
      exact hp.flatMap_right _
    · rw [hleaf, hneeded] at hs
      exact Spec.requestSeeds_flat hw s hs
  · exact rel_seedAlike (toOption_seed c) (toOption_seed c')
      (seedStates_congr h.1 h.2.1 h.2.2.1 h.2.2.2)

end Concretization

end BuildSpec
