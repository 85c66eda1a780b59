import BuildSpec.Proofs.Spec.Reachable
import BuildSpec.Proofs.Version.Algebra
import BuildSpec.Proofs.Variant.Merge

/-!
# Merging specs, field by field

A merge of specs is read here as a partial operation: `(s.merge o).toOption.map Prod.fst` is the
merged spec, or nothing when the merge fails. A spec without dependencies merges into another
without dependencies field by field (`merge_eq_some_iff`): a name given on both sides must be
the same, the versions are intersected, a compiler given on both sides must be the same compiler
and its versions are intersected, and the variant settings are merged variant by variant.

Each field's merge is commutative and associative: names and settings exactly
(`mergeName_comm`, `mergeName_assoc`, and the laws of settings), versions and compilers up to
`==` (`mergeCompiler_comm`, `mergeCompiler_assoc`, and the laws of intersections), a merge that
fails on one side failing on the other. Fields related this way make specs related by `==`
(`rel_of_fields`), so merging specs without dependencies is commutative and associative up to
`==`: `constrain_comm_assoc`.
-/

namespace BuildSpec

section OptionRel

variable {α β : Type} {R : α → β → Prop}

theorem exists_of_rel_some_left {a : α} {y : Option β} (h : Option.Rel R (some a) y) :
    ∃ b, y = some b ∧ R a b := by
  cases h with
  | some h => exact ⟨_, rfl, h⟩

theorem exists_of_rel_some_right {x : Option α} {b : β} (h : Option.Rel R x (some b)) :
    ∃ a, x = some a ∧ R a b := by
  cases h with
  | some h => exact ⟨_, rfl, h⟩

theorem rel_map {γ δ : Type} {S : γ → δ → Prop} {f : α → γ} {g : β → δ} {x : Option α}
    {y : Option β} (h : Option.Rel R x y) (hfg : ∀ a b, R a b → S (f a) (g b)) :
    Option.Rel S (x.map f) (y.map g) := by
  cases h with
  | none => exact .none
  | some h => exact .some (hfg _ _ h)

end OptionRel

/-! ## Versions -/

namespace Version.Constraint

variable {a b j : Version.Constraint}

/-- Narrowing versions, read as a partial operation, is intersecting them. -/
theorem constrain_toOption (a b : Version.Constraint) :
    (a.constrain b).toOption.map Prod.fst = a.intersection b := by
  unfold constrain
  split <;> simp_all [Except.toOption]

theorem constrain_eq_ok_iff {ch : Bool} :
    a.constrain b = .ok (j, ch) ↔ a.intersection b = some j ∧ ch = !(j == a) := by
  unfold constrain
  cases a.intersection b with
  | none => simp
  | some k =>
    simp only [Except.ok.injEq, Prod.mk.injEq, Option.some.injEq]
    constructor
    · rintro ⟨rfl, rfl⟩
      exact ⟨rfl, rfl⟩
    · rintro ⟨rfl, rfl⟩
      exact ⟨rfl, rfl⟩

end Version.Constraint

namespace Spec

/-! ## Names -/

/-- Merging names, read as a partial operation: names given on both sides must be equal, and
the merge takes the name given. -/
theorem mergeName_eq_some_iff {a b n : Option String} :
    (mergeName a b).toOption.map Prod.fst = some n ↔ (∀ x ∈ a, ∀ y ∈ b, x = y) ∧ n = a.or b := by
  rw [map_fst_toOption_eq_some]
  cases a with
  | none => cases b <;> simp [mergeName, pure, Except.pure, eq_comm]
  | some x =>
    cases b with
    | none => simp [mergeName, pure, Except.pure, eq_comm]
    | some y =>
      by_cases h : x = y
      · subst h
        simp [mergeName, pure, Except.pure, eq_comm]
      · simp [mergeName, h, throw, throwThe, MonadExceptOf.throw]

/-- Merging names is commutative. -/
theorem mergeName_comm (a b : Option String) :
    (mergeName a b).toOption.map Prod.fst = (mergeName b a).toOption.map Prod.fst := by
  refine Option.ext fun n => ?_
  rw [mergeName_eq_some_iff, mergeName_eq_some_iff]
  cases a <;> cases b <;> simp [eq_comm]
  rintro rfl
  exact Iff.rfl

/-- Merging names is associative. -/
theorem mergeName_assoc (a b c : Option String) :
    ((mergeName a b).toOption.map Prod.fst).bind (fun n => (mergeName n c).toOption.map Prod.fst) =
      ((mergeName b c).toOption.map Prod.fst).bind
        (fun n => (mergeName a n).toOption.map Prod.fst) := by
  refine Option.ext fun n => ?_
  simp only [Option.bind_eq_some_iff, mergeName_eq_some_iff]
  cases a <;> cases b <;> cases c <;> simp [eq_comm]
  -- three names: each side asks that all three be equal
  constructor
  · rintro ⟨rfl, rfl, rfl⟩
    exact ⟨rfl, rfl, rfl⟩
  · rintro ⟨rfl, rfl, rfl⟩
    exact ⟨rfl, rfl, rfl⟩

/-! ## Compilers -/

namespace Compiler

/-- Narrowing a compiler, read as a partial operation: the same compiler, with the versions both
allow. -/
theorem constrain_toOption (l r : Compiler) :
    (l.constrain r).toOption.map Prod.fst = if l.name = r.name then
      (l.versions.intersection r.versions).map fun j => { l with versions := j } else none := by
  unfold constrain
  by_cases h : l.name = r.name
  · simp only [h, bne_self_eq_false, Bool.false_eq_true, if_false, if_true]
    cases l.versions.intersection r.versions <;> simp [Except.toOption]
  · simp [h, Except.toOption]

end Compiler

/-- Compilers as reading and narrowing make them. -/
def CompilerWellFormed (c : Option Compiler) : Prop := ∀ x ∈ c, IsName x.name ∧ x.versions.WellFormed

section Compilers

variable {a b c : Option Compiler}

@[simp] theorem mergeCompiler_none_left (b : Option Compiler) :
    (mergeCompiler none b).toOption.map Prod.fst = some b := by
  cases b <;> rfl

@[simp] theorem mergeCompiler_none_right (a : Option Compiler) :
    (mergeCompiler a none).toOption.map Prod.fst = some a := by
  cases a <;> rfl

theorem mergeCompiler_some_some (l r : Compiler) :
    (mergeCompiler (some l) (some r)).toOption.map Prod.fst =
      ((l.constrain r).toOption.map Prod.fst).map some := by
  simp only [mergeCompiler]
  cases l.constrain r with
  | error e => rfl
  | ok x => rfl

theorem rel_beq_refl {α : Type} [BEq α] [ReflBEq α] (x : Option α) :
    Option.Rel (fun c c' => (c == c') = true) x x := by
  cases x
  · exact .none
  · exact .some (beq_self_eq_true _)

/-- Merging compilers is commutative up to `==`. -/
theorem mergeCompiler_comm (ha : CompilerWellFormed a) (hb : CompilerWellFormed b) :
    Option.Rel (fun c c' => (c == c') = true) ((mergeCompiler a b).toOption.map Prod.fst)
      ((mergeCompiler b a).toOption.map Prod.fst) := by
  rcases a with _ | l <;> rcases b with _ | r
  · exact .some rfl
  · simp
  · simp
  · rw [mergeCompiler_some_some, mergeCompiler_some_some, Compiler.constrain_toOption,
      Compiler.constrain_toOption]
    by_cases h : l.name = r.name
    · -- the same compiler: its versions are intersected either way
      rw [if_pos h, if_pos h.symm, Option.map_map, Option.map_map]
      refine rel_map (Version.Constraint.intersection_comm (ha l rfl).2 (hb r rfl).2) fun j j' hj => ?_
      simp [Compiler.beq_def, h, hj]
    · rw [if_neg h, if_neg (Ne.symm h)]
      exact .none

/-- Merging compilers is associative up to `==`. -/
theorem mergeCompiler_assoc (ha : CompilerWellFormed a) (hb : CompilerWellFormed b)
    (hc : CompilerWellFormed c) :
    Option.Rel (fun c c' => (c == c') = true)
      (((mergeCompiler a b).toOption.map Prod.fst).bind
        fun x => (mergeCompiler x c).toOption.map Prod.fst)
      (((mergeCompiler b c).toOption.map Prod.fst).bind
        fun x => (mergeCompiler a x).toOption.map Prod.fst) := by
  -- a missing compiler leaves the merge of the other two on both sides
  rcases a with _ | l
  · simpa using rel_beq_refl ((mergeCompiler b c).toOption.map Prod.fst)
  rcases b with _ | r
  · simpa using rel_beq_refl ((mergeCompiler (some l) c).toOption.map Prod.fst)
  rcases c with _ | s
  · simpa using rel_beq_refl ((mergeCompiler (some l) (some r)).toOption.map Prod.fst)
  -- three compilers: they must be one compiler, whose versions are intersected
  simp only [mergeCompiler_some_some, Compiler.constrain_toOption, Option.bind_map,
    Function.comp_def]
  by_cases h₁ : l.name = r.name
  · by_cases h₂ : r.name = s.name
    · simp only [if_pos h₁, if_pos h₂, if_pos (h₁.trans h₂), Option.bind_map, Function.comp_def]
      have key : Option.Rel (fun c c' => (c == c') = true)
          (((l.versions.intersection r.versions).bind (·.intersection s.versions)).map
            fun j => some { l with versions := j })
          (((r.versions.intersection s.versions).bind (l.versions.intersection ·)).map
            fun j => some { l with versions := j }) :=
        rel_map (Version.Constraint.intersection_assoc (ha l rfl).2 (hb r rfl).2 (hc s rfl).2)
          fun j j' hj => by simp [Compiler.beq_def, hj]
      simpa [Option.map_bind, Function.comp_def] using key
    · simp [h₁, h₂, Option.bind_map]
  · by_cases h₂ : r.name = s.name
    · have h₃ : l.name ≠ s.name := h₂ ▸ h₁
      simp [h₂, h₃, Option.bind_map]
    · simp [h₁, h₂]

end Compilers

/-! ## Specs without dependencies -/

section Flat

variable {s o r : Spec}

/-- A spec without dependencies merges into another without dependencies field by field. -/
theorem merge_eq_some_iff (hs : s.dependencies = []) (ho : o.dependencies = [])
    (hoc : o.concrete = false) :
    (s.merge o).toOption.map Prod.fst = some r ↔
      ∃ n v c m, (mergeName s.name o.name).toOption.map Prod.fst = some n ∧
        s.versions.intersection o.versions = some v ∧
        (mergeCompiler s.compiler o.compiler).toOption.map Prod.fst = some c ∧
        (s.variants.constrain o.variants false).toOption.map Prod.fst = some m ∧
        r = { s with name := n, versions := v, compiler := c, variants := m } := by
  rw [map_fst_toOption_eq_some]
  constructor
  · rintro ⟨ch, h⟩
    obtain ⟨n, v, c, m, deps, rfl, ⟨_, hn⟩, ⟨_, hv⟩, ⟨_, hc⟩, ⟨_, hm⟩, ⟨_, hd⟩⟩ := merge_eq_ok h
    rw [hs, ho] at hd
    obtain ⟨rfl, -⟩ := Prod.mk.inj (Except.ok.inj hd).symm
    refine ⟨n, v, c, m, map_fst_toOption_eq_some.2 ⟨_, hn⟩,
      (Version.Constraint.constrain_eq_ok_iff.1 hv).1, map_fst_toOption_eq_some.2 ⟨_, hc⟩,
      map_fst_toOption_eq_some.2 ⟨_, hoc ▸ hm⟩, ?_⟩
    rw [← hs]
  · rintro ⟨n, v, c, m, hn, hv, hc, hm, rfl⟩
    obtain ⟨c₁, hn₁⟩ := map_fst_toOption_eq_some.1 hn
    obtain ⟨c₃, hc₁⟩ := map_fst_toOption_eq_some.1 hc
    obtain ⟨c₄, hm₁⟩ := map_fst_toOption_eq_some.1 hm
    have hv₁ : s.versions.constrain o.versions = .ok (v, !(v == s.versions)) :=
      Version.Constraint.constrain_eq_ok_iff.2 ⟨hv, rfl⟩
    obtain ⟨oName, oVersions, oVariants, oCompiler, oDeps, oConcrete⟩ := o
    simp only at hn₁ hv₁ hc₁ hm₁ ho hoc
    subst ho hoc
    refine ⟨c₁ || !(v == s.versions) || c₃ || c₄ || false, ?_⟩
    simp only [merge, hn₁, hv₁, hc₁, hm₁, hs, mergeDeps, bind, Except.bind, pure, Except.pure]

/-- Merging two specs without dependencies into a third in turn, field by field. -/
theorem merge_merge_eq_some_iff {a b c : Spec} (ha : a.dependencies = [])
    (hb : b.dependencies = []) (hc : c.dependencies = []) (hbk : b.concrete = false)
    (hck : c.concrete = false) :
    ((a.merge b).toOption.map Prod.fst).bind (fun ab => (ab.merge c).toOption.map Prod.fst) =
        some r ↔
      ∃ n v k m, ((mergeName a.name b.name).toOption.map Prod.fst).bind
            (fun x => (mergeName x c.name).toOption.map Prod.fst) = some n ∧
        (a.versions.intersection b.versions).bind (·.intersection c.versions) = some v ∧
        ((mergeCompiler a.compiler b.compiler).toOption.map Prod.fst).bind
            (fun x => (mergeCompiler x c.compiler).toOption.map Prod.fst) = some k ∧
        ((a.variants.constrain b.variants false).toOption.map Prod.fst).bind
            (fun x => (x.constrain c.variants false).toOption.map Prod.fst) = some m ∧
        r = { a with name := n, versions := v, compiler := k, variants := m } := by
  simp only [Option.bind_eq_some_iff]
  constructor
  · rintro ⟨ab, hab, hr⟩
    obtain ⟨n₁, v₁, k₁, m₁, hn₁, hv₁, hk₁, hm₁, rfl⟩ := (merge_eq_some_iff ha hb hbk).1 hab
    obtain ⟨n₂, v₂, k₂, m₂, hn₂, hv₂, hk₂, hm₂, rfl⟩ := (merge_eq_some_iff (by exact ha) hc hck).1 hr
    exact ⟨n₂, v₂, k₂, m₂, ⟨n₁, hn₁, hn₂⟩, ⟨v₁, hv₁, hv₂⟩, ⟨k₁, hk₁, hk₂⟩, ⟨m₁, hm₁, hm₂⟩, rfl⟩
  · rintro ⟨n₂, v₂, k₂, m₂, ⟨n₁, hn₁, hn₂⟩, ⟨v₁, hv₁, hv₂⟩, ⟨k₁, hk₁, hk₂⟩, ⟨m₁, hm₁, hm₂⟩, rfl⟩
    exact ⟨_, (merge_eq_some_iff ha hb hbk).2 ⟨n₁, v₁, k₁, m₁, hn₁, hv₁, hk₁, hm₁, rfl⟩,
      (merge_eq_some_iff (by exact ha) hc hck).2 ⟨n₂, v₂, k₂, m₂, hn₂, hv₂, hk₂, hm₂, rfl⟩⟩

/-- Merging into a spec without dependencies the merge of two others, field by field. -/
theorem merge_merge_right_eq_some_iff {a b c : Spec} (ha : a.dependencies = [])
    (hb : b.dependencies = []) (hc : c.dependencies = []) (hbk : b.concrete = false)
    (hck : c.concrete = false) :
    ((b.merge c).toOption.map Prod.fst).bind (fun bc => (a.merge bc).toOption.map Prod.fst) =
        some r ↔
      ∃ n v k m, ((mergeName b.name c.name).toOption.map Prod.fst).bind
            (fun x => (mergeName a.name x).toOption.map Prod.fst) = some n ∧
        (b.versions.intersection c.versions).bind (a.versions.intersection ·) = some v ∧
        ((mergeCompiler b.compiler c.compiler).toOption.map Prod.fst).bind
            (fun x => (mergeCompiler a.compiler x).toOption.map Prod.fst) = some k ∧
        ((b.variants.constrain c.variants false).toOption.map Prod.fst).bind
            (fun x => (a.variants.constrain x false).toOption.map Prod.fst) = some m ∧
        r = { a with name := n, versions := v, compiler := k, variants := m } := by
  simp only [Option.bind_eq_some_iff]
  constructor
  · rintro ⟨bc, hbc, hr⟩
    obtain ⟨n₁, v₁, k₁, m₁, hn₁, hv₁, hk₁, hm₁, rfl⟩ := (merge_eq_some_iff hb hc hck).1 hbc
    obtain ⟨n₂, v₂, k₂, m₂, hn₂, hv₂, hk₂, hm₂, rfl⟩ :=
      (merge_eq_some_iff ha (by exact hb) (by exact hbk)).1 hr
    exact ⟨n₂, v₂, k₂, m₂, ⟨n₁, hn₁, hn₂⟩, ⟨v₁, hv₁, hv₂⟩, ⟨k₁, hk₁, hk₂⟩, ⟨m₁, hm₁, hm₂⟩, rfl⟩
  · rintro ⟨n₂, v₂, k₂, m₂, ⟨n₁, hn₁, hn₂⟩, ⟨v₁, hv₁, hv₂⟩, ⟨k₁, hk₁, hk₂⟩, ⟨m₁, hm₁, hm₂⟩, rfl⟩
    exact ⟨_, (merge_eq_some_iff hb hc hck).2 ⟨n₁, v₁, k₁, m₁, hn₁, hv₁, hk₁, hm₁, rfl⟩,
      (merge_eq_some_iff ha (by exact hb) (by exact hbk)).2 ⟨n₂, v₂, k₂, m₂, hn₂, hv₂, hk₂, hm₂, rfl⟩⟩

end Flat

/-! ## Merging specs is commutative and associative -/

/-- Specs without dependencies that agree field by field, names and settings exactly and versions
and compilers up to `==`, are equal under `==`. -/
theorem beq_of_fields {a b : Spec} (ha : a.dependencies = []) (hb : b.dependencies = [])
    (hn : a.name = b.name) (hv : (a.versions == b.versions) = true)
    (hc : (a.compiler == b.compiler) = true) (hm : a.variants = b.variants)
    (hk : a.concrete = b.concrete) : (a == b) = true := by
  obtain ⟨n, v, m, c, d, k⟩ := a
  obtain ⟨n', v', m', c', d', k'⟩ := b
  simp only at ha hb hn hv hc hm hk
  subst ha hb hn hm hk
  show Spec.beq _ _ = true
  simp [Spec.beq, Spec.beqList, hv, hc]

/-- Two partial results built from fields, each pair of fields related by its own law, are
related by `==`: a field missing on one side is missing on the other. -/
theorem rel_of_fields {X Y : Option Spec} {N N' : Option (Option String)}
    {V V' : Option Version.Constraint} {C C' : Option (Option Compiler)}
    {M M' : Option Variant.Settings}
    {f g : Option String → Version.Constraint → Option Compiler → Variant.Settings → Spec}
    (hX : ∀ r, X = some r ↔
      ∃ n v c m, N = some n ∧ V = some v ∧ C = some c ∧ M = some m ∧ r = f n v c m)
    (hY : ∀ r, Y = some r ↔
      ∃ n v c m, N' = some n ∧ V' = some v ∧ C' = some c ∧ M' = some m ∧ r = g n v c m)
    (hN : N = N') (hV : Option.Rel (fun x y => (x == y) = true) V V')
    (hC : Option.Rel (fun x y => (x == y) = true) C C') (hM : M = M')
    (hfg : ∀ n v v' c c' m, (v == v') = true → (c == c') = true → (f n v c m == g n v' c' m) = true) :
    Option.Rel (fun x y => (x == y) = true) X Y := by
  subst hN hM
  by_cases hall : ∃ n v c m, N = some n ∧ V = some v ∧ C = some c ∧ M = some m
  · obtain ⟨n, v, c, m, hn, hv, hc, hm⟩ := hall
    obtain ⟨v', hv', hvv⟩ := exists_of_rel_some_left (hv ▸ hV)
    obtain ⟨c', hc', hcc⟩ := exists_of_rel_some_left (hc ▸ hC)
    rw [(hX _).2 ⟨n, v, c, m, hn, hv, hc, hm, rfl⟩, (hY _).2 ⟨n, v', c', m, hn, hv', hc', hm, rfl⟩]
    exact .some (hfg n v v' c c' m hvv hcc)
  · -- some field is missing on both sides, and so is the spec
    have hXn : X = none := Option.eq_none_iff_forall_ne_some.2 fun r hr => by
      obtain ⟨n, v, c, m, hn, hv, hc, hm, -⟩ := (hX r).1 hr
      exact hall ⟨n, v, c, m, hn, hv, hc, hm⟩
    have hYn : Y = none := Option.eq_none_iff_forall_ne_some.2 fun r hr => by
      obtain ⟨n, v', c', m, hn, hv', hc', hm, -⟩ := (hY r).1 hr
      obtain ⟨v, hv, -⟩ := exists_of_rel_some_right (hv' ▸ hV)
      obtain ⟨c, hc, -⟩ := exists_of_rel_some_right (hc' ▸ hC)
      exact hall ⟨n, v, c, m, hn, hv, hc, hm⟩
    rw [hXn, hYn]
    exact .none

/-- A text that reads as a spec without dependencies, as a computation can tell. -/
theorem exists_parse_flat {t : String}
    (h : (parse t).toOption.map (·.dependencies.isEmpty) = some true) :
    ∃ s, parse t = .ok s ∧ s.dependencies = [] := by
  cases hp : parse t with
  | error e => simp [hp, Except.toOption] at h
  | ok s =>
    rw [hp] at h
    exact ⟨s, rfl, List.isEmpty_iff.1 (by simpa [Except.toOption] using h)⟩

/-- Narrowing specs without dependencies is a partial commutative and associative operation up
to `==`: narrowing `a` by `b` succeeds exactly when narrowing `b` by `a` does, with results
equal under `==`, and narrowing by `b` then `c` fails exactly when narrowing by `b` narrowed by
`c` does, and otherwise gives a result equal under `==`. -/
theorem constrain_comm_assoc {a b c : Spec} (ha : a.Reachable) (hb : b.Reachable)
    (hc : c.Reachable) (hda : a.dependencies = []) (hdb : b.dependencies = [])
    (hdc : c.dependencies = []) :
    Option.Rel (fun x y => (x == y) = true) ((a.constrain b).toOption.map Prod.fst)
        ((b.constrain a).toOption.map Prod.fst) ∧
      Option.Rel (fun x y => (x == y) = true)
        (((a.constrain b).toOption.map Prod.fst).bind fun ab => (ab.constrain c).toOption.map Prod.fst)
        (((b.constrain c).toOption.map Prod.fst).bind fun bc => (a.constrain bc).toOption.map Prod.fst) := by
  have pa := ha.wellFormed.part
  have pb := hb.wellFormed.part
  have pc := hc.wellFormed.part
  simp only [constrain]
  constructor
  · refine rel_of_fields (fun _ => merge_eq_some_iff hda hdb pb.not_concrete)
      (fun _ => merge_eq_some_iff hdb hda pa.not_concrete) (mergeName_comm a.name b.name)
      (Version.Constraint.intersection_comm pa.versions pb.versions)
      (mergeCompiler_comm pa.compiler pb.compiler)
      (Variant.Settings.constrain_comm pa.variants.ascend pb.variants.ascend) ?_
    intro n v v' k k' m hv hk
    exact beq_of_fields hda hdb rfl hv hk rfl (pa.not_concrete.trans pb.not_concrete.symm)
  · refine rel_of_fields (fun _ => merge_merge_eq_some_iff hda hdb hdc pb.not_concrete pc.not_concrete)
      (fun _ => merge_merge_right_eq_some_iff hda hdb hdc pb.not_concrete pc.not_concrete)
      (mergeName_assoc a.name b.name c.name)
      (Version.Constraint.intersection_assoc pa.versions pb.versions pc.versions)
      (mergeCompiler_assoc pa.compiler pb.compiler pc.compiler)
      (Variant.Settings.constrain_assoc pa.variants.ascend pb.variants.ascend pc.variants.ascend) ?_
    intro n v v' k k' m hv hk
    exact beq_of_fields hda hda rfl hv hk rfl rfl

/-- `x@1:5`, `@3: +debug` and `%gcc@4:` narrow one another alike in either order and either
grouping. -/
theorem parsed_constrain_comm_assoc : ∃ a b c, parse "x@1:5" = .ok a ∧ parse "@3: +debug" = .ok b ∧
    parse "%gcc@4:" = .ok c ∧
    (Option.Rel (fun x y => (x == y) = true) ((a.constrain b).toOption.map Prod.fst)
        ((b.constrain a).toOption.map Prod.fst) ∧
      Option.Rel (fun x y => (x == y) = true)
        (((a.constrain b).toOption.map Prod.fst).bind fun ab => (ab.constrain c).toOption.map Prod.fst)
        (((b.constrain c).toOption.map Prod.fst).bind fun bc =>
          (a.constrain bc).toOption.map Prod.fst)) := by
  obtain ⟨a, ha, hda⟩ := exists_parse_flat
    (show (parse "x@1:5").toOption.map (·.dependencies.isEmpty) = some true by decide +kernel)
  obtain ⟨b, hb, hdb⟩ := exists_parse_flat
    (show (parse "@3: +debug").toOption.map (·.dependencies.isEmpty) = some true by decide +kernel)
  obtain ⟨c, hc, hdc⟩ := exists_parse_flat
    (show (parse "%gcc@4:").toOption.map (·.dependencies.isEmpty) = some true by decide +kernel)
  exact ⟨a, b, c, ha, hb, hc, constrain_comm_assoc (.parsed ha) (.parsed hb) (.parsed hc) hda hdb hdc⟩

end Spec

end BuildSpec
