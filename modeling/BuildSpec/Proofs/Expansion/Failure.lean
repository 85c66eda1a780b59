import BuildSpec.Proofs.Expansion.Seed

/-!
# The errors a build can stop with

`FailsOnly P r` says that every error `r` can end with satisfies `P`. The lemmas of its namespace
carry it through `do` blocks, folds and loops. With them every step of a build, from filing the
requests to one expansion pass, is shown never to stop with the expansion limit: only the
expansion loop raises that error (`expandWith`), and whether it does is the subject of
`BuildSpec.Proofs.Expansion.Limit`.
-/

namespace BuildSpec

/-- Every error `r` can end with satisfies `P`. -/
def FailsOnly {ε α : Type} (P : ε → Prop) (r : Except ε α) : Prop := ∀ e, r = .error e → P e

namespace FailsOnly

variable {ε ε' α β : Type} {P : ε → Prop}

@[simp] theorem of_ok (a : α) : FailsOnly P (.ok a : Except ε α) := fun _ h => by cases h

@[simp] theorem of_pure (a : α) : FailsOnly P (pure a : Except ε α) := of_ok a

@[simp] theorem error_iff {e : ε} : FailsOnly P (.error e : Except ε α) ↔ P e :=
  ⟨fun h => h e rfl, fun h _ he => by cases he; exact h⟩

theorem bind {x : Except ε α} {f : α → Except ε β} (hx : FailsOnly P x)
    (hf : ∀ a, x = .ok a → FailsOnly P (f a)) : FailsOnly P (x >>= f) := by
  intro e he
  cases hxa : x with
  | error e₀ =>
    rw [hxa] at he
    cases he
    exact hx _ hxa
  | ok a =>
    rw [hxa] at he
    exact hf a hxa e he

theorem bind_iff {x : Except ε α} {f : α → Except ε β} :
    FailsOnly P (x >>= f) ↔ FailsOnly P x ∧ ∀ a, x = .ok a → FailsOnly P (f a) := by
  refine ⟨fun h => ⟨fun e he => h e (by rw [he]; rfl), fun a ha e he => h e (by rw [ha]; exact he)⟩,
    fun h => bind h.1 h.2⟩

@[simp] theorem map_iff {x : Except ε α} {f : α → β} : FailsOnly P (f <$> x) ↔ FailsOnly P x := by
  cases x <;> simp [Functor.map, Except.map]

theorem mapError {Q : ε' → Prop} {g : ε → ε'} {r : Except ε α} (hr : FailsOnly P r)
    (hg : ∀ e, P e → Q (g e)) : FailsOnly Q (r.mapError g) := by
  intro e he
  cases hra : r with
  | error e₀ =>
    rw [hra] at he
    cases he
    exact hg _ (hr _ hra)
  | ok a =>
    rw [hra] at he
    cases he

theorem foldlM {f : β → α → Except ε β} {l : List α} {init : β}
    (hf : ∀ b x, x ∈ l → FailsOnly P (f b x)) : FailsOnly P (l.foldlM f init) := by
  induction l generalizing init with
  | nil => exact of_pure init
  | cons x l ih =>
    rw [List.foldlM_cons]
    exact bind (hf init x List.mem_cons_self) fun b _ =>
      ih fun b' y hy => hf b' y (List.mem_cons_of_mem _ hy)

theorem forIn {f : α → β → Except ε (ForInStep β)} {l : List α} {init : β}
    (hf : ∀ x ∈ l, ∀ b, FailsOnly P (f x b)) : FailsOnly P (forIn l init f) := by
  induction l generalizing init with
  | nil => exact of_pure init
  | cons x l ih =>
    rw [List.forIn_cons]
    refine bind (hf x List.mem_cons_self init) fun step _ => ?_
    cases step with
    | done b => exact of_pure b
    | yield b => exact ih fun y hy b' => hf y (List.mem_cons_of_mem _ hy) b'

theorem forM {f : α → Except ε PUnit} {l : List α} (hf : ∀ x ∈ l, FailsOnly P (f x)) :
    FailsOnly P (l.forM f) := by
  induction l with
  | nil => exact of_pure _
  | cons x l ih =>
    show FailsOnly P (f x >>= fun _ => l.forM f)
    exact bind (hf x List.mem_cons_self) fun _ _ =>
      ih fun y hy => hf y (List.mem_cons_of_mem _ hy)

end FailsOnly

/-- The error of the expansion loop reaching its pass bound. -/
def Error.isLimit : Error → Bool
  | .expansionLimit _ => true
  | _ => false

/-- `r` never fails with the expansion limit. -/
abbrev NoLimit {α : Type} (r : Except Error α) : Prop := FailsOnly (fun e => e.isLimit = false) r

/-- A step of a build never stops with the expansion limit. -/
abbrev NoLimitStop {α : Type} (r : Except Stop α) : Prop :=
  FailsOnly (fun s => s.error.isLimit = false) r

/-! ## Checks and merges -/

theorem Variant.Decl.validate_noLimit (d : Variant.Decl) (s : Variant.Setting) (pkg : Option String) :
    NoLimit (d.validate s pkg) := by
  unfold Variant.Decl.validate
  split_ifs
  · simp [Error.isLimit]
  · simp [Error.isLimit]
  · split <;> simp [Error.isLimit]

theorem Version.Constraint.constrain_noLimit (a b : Version.Constraint) : NoLimit (a.constrain b) := by
  unfold Version.Constraint.constrain
  split <;> simp [Error.isLimit]

theorem Spec.Compiler.constrain_noLimit (a b : Spec.Compiler) : NoLimit (a.constrain b) := by
  unfold Spec.Compiler.constrain
  split_ifs
  · simp [Error.isLimit]
  · split <;> simp [Error.isLimit]

theorem Variant.Setting.constrain_noLimit (a b : Variant.Setting) : NoLimit (a.constrain b) := by
  unfold Variant.Setting.constrain
  split
  · split_ifs <;> simp [Error.isLimit]
  · simp
  · simp [Error.isLimit]

theorem Variant.Settings.mergeOne_noLimit (acc : List Variant.Setting × Bool) (v : Variant.Setting) :
    NoLimit (Variant.Settings.mergeOne acc v) := by
  obtain ⟨es, ch⟩ := acc
  unfold Variant.Settings.mergeOne
  dsimp only
  split
  · split_ifs
    · simp [Error.isLimit]
    · exact FailsOnly.bind (Variant.Setting.constrain_noLimit _ _) fun _ _ => FailsOnly.of_pure _
  · simp

theorem Variant.Settings.constrain_noLimit (m o : Variant.Settings) (concrete : Bool) :
    NoLimit (m.constrain o concrete) := by
  unfold Variant.Settings.constrain
  dsimp only
  have hfold : NoLimit (o.entries.foldlM Variant.Settings.mergeOne (m.entries, false)) :=
    FailsOnly.foldlM fun _ _ _ => Variant.Settings.mergeOne_noLimit _ _
  split_ifs
  · split
    · simp only [throw, throwThe, MonadExceptOf.throw, FailsOnly.bind_iff, FailsOnly.error_iff]
      exact ⟨rfl, nofun⟩
    · simp [hfold]
  · simp [hfold]

theorem Spec.mergeName_noLimit (a b : Option String) : NoLimit (Spec.mergeName a b) := by
  unfold Spec.mergeName
  split
  · split_ifs <;> simp [throw, throwThe, MonadExceptOf.throw, Error.isLimit]
  · simp
  · simp

theorem Spec.mergeCompiler_noLimit (a b : Option Spec.Compiler) :
    NoLimit (Spec.mergeCompiler a b) := by
  unfold Spec.mergeCompiler
  split
  · exact FailsOnly.bind (Spec.Compiler.constrain_noLimit _ _) fun _ _ => FailsOnly.of_pure _
  · simp
  · simp

theorem Spec.merge_noLimit_of_deps (s o : Spec)
    (h : NoLimit (Spec.mergeDeps s.dependencies o.dependencies)) : NoLimit (s.merge o) := by
  obtain ⟨oName, oVersions, oVariants, oCompiler, oDeps, oConcrete⟩ := o
  unfold Spec.merge
  -- each merge of a part is followed by the next, and the dependencies come last
  refine FailsOnly.bind (Spec.mergeName_noLimit _ _) fun _ _ => ?_
  refine FailsOnly.bind (Version.Constraint.constrain_noLimit _ _) fun _ _ => ?_
  refine FailsOnly.bind (Spec.mergeCompiler_noLimit _ _) fun _ _ => ?_
  refine FailsOnly.bind (Variant.Settings.constrain_noLimit _ _ _) fun _ _ => ?_
  exact FailsOnly.bind h fun _ _ => FailsOnly.of_pure _

theorem Spec.merge_noLimit (s o : Spec) : NoLimit (s.merge o) := by
  refine Spec.merge.induct (fun s o => NoLimit (s.merge o))
    (fun ds os => NoLimit (Spec.mergeDeps ds os)) ?_ ?_ ?_ ?_ ?_ s o
  · intro s _ _ _ _ _ _ ih
    exact Spec.merge_noLimit_of_deps _ _ ih
  · intro ds
    simp [Spec.mergeDeps]
  · intro ds d rest i hi e he ih₁ ih₂
    rw [Spec.mergeDeps, hi]
    simp only [he]
    exact FailsOnly.bind ih₁ fun ⟨e', _⟩ _ => FailsOnly.bind (ih₂ e') fun _ _ => FailsOnly.of_pure _
  · intro ds d rest i hi he ih
    rw [Spec.mergeDeps, hi]
    simpa only [he] using ih
  · intro ds d rest hi ih
    rw [Spec.mergeDeps, hi]
    exact FailsOnly.bind ih fun _ _ => FailsOnly.of_pure _

/-! ## The steps of a build -/

namespace Concretization

variable {c : Concretization}

theorem lift_noLimit {α : Type} {r : Except Error α} (h : NoLimit r) : NoLimitStop (c.lift r) :=
  FailsOnly.mapError h fun _ he => he

theorem stop_noLimit {α : Type} {e : Error} (h : e.isLimit = false) :
    NoLimitStop (c.stop e : Except Stop α) :=
  FailsOnly.error_iff.2 h

theorem validateVariants_noLimit (cat : Catalog) (pkg : String) (s : Spec) :
    NoLimit (validateVariants cat pkg s) := by
  unfold validateVariants
  split
  · refine FailsOnly.bind (FailsOnly.forIn fun v _ _ => ?_) fun _ _ => FailsOnly.of_pure _
    split
    · exact FailsOnly.bind (Variant.Decl.validate_noLimit _ _ _) fun _ _ => FailsOnly.of_pure _
    · exact FailsOnly.bind (FailsOnly.error_iff.2 rfl) fun _ h => by cases h
  · exact FailsOnly.error_iff.2 rfl

theorem newCandidate_noLimit (cat : Catalog) (n : String) (s : Spec) :
    NoLimit (newCandidate cat n s) := by
  unfold newCandidate
  split
  · exact FailsOnly.of_ok _
  · exact FailsOnly.error_iff.2 rfl

theorem addRequest_noLimit (c : Concretization) (s : Spec) (b : Bool) :
    NoLimitStop (c.addRequest s b) := by
  refine addRequest.induct (fun c s b => NoLimitStop (c.addRequest s b))
    (fun c l => NoLimitStop (c.addRequests l)) ?_ ?_ ?_ ?_ ?_ c s b
  · intro c _ _ _ _ _ _ n hv _ _
    simp only [addRequest, hv]
    exact FailsOnly.bind (stop_noLimit rfl) fun _ h => by cases h
  · intro c _ _ _ _ _ _ n hv _ ih
    simp only [addRequest, hv, Bool.false_eq_true, ↓reduceIte]
    by_cases hk : c.catalog.contains n
    · simp only [hk, Bool.not_true, Bool.false_eq_true, ↓reduceIte]
      exact ih
    · simp only [hk, Bool.not_false, ↓reduceIte]
      exact FailsOnly.bind (stop_noLimit rfl) fun _ h => by cases h
  · intro c name _ _ _ _ _ _ hname
    cases name with
    | none => exact stop_noLimit rfl
    | some n => exact absurd rfl (hname n)
  · intro c
    exact FailsOnly.of_ok c
  · intro c d ds ih₁ ih₂
    exact FailsOnly.bind ih₁ fun c' _ => ih₂ c'

theorem fileRequest_noLimit (c : Concretization) (s : Spec) : NoLimitStop (c.fileRequest s) :=
  FailsOnly.bind (addRequest_noLimit c s false) fun _ _ => FailsOnly.of_pure _

theorem mergeSpec_noLimit (c : Concretization) (s : Spec) : NoLimitStop (c.mergeSpec s) := by
  unfold mergeSpec
  split
  · refine FailsOnly.bind (lift_noLimit (validateVariants_noLimit _ _ _)) fun _ _ => ?_
    split
    · split
      · -- an exclusive setting must agree with the one already there
        refine FailsOnly.bind (FailsOnly.forIn fun v _ _ => ?_) fun _ _ =>
          FailsOnly.bind (lift_noLimit (Spec.merge_noLimit _ _)) fun _ _ => ?_
        · split
          · dsimp only
            split_ifs
            · exact FailsOnly.bind (stop_noLimit rfl) fun _ h => by cases h
            · exact FailsOnly.of_pure _
          · exact FailsOnly.of_pure _
        · exact FailsOnly.bind (FailsOnly.of_pure _) fun _ _ => FailsOnly.of_pure _
      · exact FailsOnly.bind (lift_noLimit (newCandidate_noLimit _ _ _)) fun _ _ =>
          FailsOnly.bind (FailsOnly.of_pure _) fun _ _ => FailsOnly.of_pure _
    · exact stop_noLimit rfl
  · exact stop_noLimit rfl

theorem seed_noLimit (c : Concretization) : NoLimitStop c.seed :=
  FailsOnly.bind (FailsOnly.foldlM fun _ _ _ =>
      FailsOnly.bind (mergeSpec_noLimit _ _) fun _ _ => FailsOnly.of_pure _) fun _ _ =>
    FailsOnly.foldlM fun _ _ _ => mergeSpec_noLimit _ _

/-- Filing the requests and seeding the candidates never stops at the expansion limit. -/
theorem prepare_noLimit (cat : Catalog) (prefs : Prefs) (specs : List Spec) :
    NoLimitStop (prepare cat prefs specs) :=
  FailsOnly.bind (FailsOnly.foldlM fun _ _ _ => fileRequest_noLimit _ _) fun _ _ => seed_noLimit _

theorem reachTarget_noLimit (c : Concretization) (name t : String) (app : List Dependency) :
    NoLimitStop (c.reachTarget name t app) := by
  unfold reachTarget
  have hcheck : NoLimitStop (app.forM fun d => c.lift (validateVariants c.catalog t d.spec)) :=
    FailsOnly.forM fun _ _ => lift_noLimit (validateVariants_noLimit _ _ _)
  split_ifs
  · exact FailsOnly.of_pure _
  · exact FailsOnly.of_pure _
  · exact FailsOnly.bind hcheck fun _ _ =>
      FailsOnly.bind (lift_noLimit (newCandidate_noLimit _ _ _)) fun _ _ => FailsOnly.of_pure _
  · exact FailsOnly.bind hcheck fun _ _ => FailsOnly.of_pure _

theorem expandTarget_noLimit (name : String) (s : Spec) (acc : Concretization × Bool)
    (entry : String × List Dependency) : NoLimitStop (expandTarget name s acc entry) := by
  obtain ⟨c, ch⟩ := acc
  obtain ⟨t, deps⟩ := entry
  unfold expandTarget
  dsimp only
  split_ifs
  · exact FailsOnly.bind (stop_noLimit rfl) fun _ h => by cases h
  · exact FailsOnly.bind (stop_noLimit rfl) fun _ h => by cases h
  · exact FailsOnly.of_pure _
  · refine FailsOnly.bind (reachTarget_noLimit _ _ _ _) fun _ _ => ?_
    split <;> exact FailsOnly.of_pure _

theorem expandPackage_noLimit (c : Concretization) (name : String) :
    NoLimitStop (c.expandPackage name) := by
  unfold expandPackage
  split
  · split
    · exact FailsOnly.foldlM fun _ _ _ => expandTarget_noLimit _ _ _ _
    · exact FailsOnly.of_pure _
  · exact stop_noLimit rfl

theorem addProvider_noLimit (name : String) (acc : Concretization × Bool) (provider : Spec) :
    NoLimitStop (addProvider name acc provider) := by
  obtain ⟨c, ch⟩ := acc
  unfold addProvider
  dsimp only
  split
  · split
    · split_ifs
      · exact FailsOnly.of_pure _
      · exact FailsOnly.of_pure _
    · exact FailsOnly.bind (lift_noLimit (newCandidate_noLimit _ _ _)) fun _ _ => FailsOnly.of_pure _
  · exact FailsOnly.of_pure _

theorem expandVirtual_noLimit (c : Concretization) (name : String) :
    NoLimitStop (c.expandVirtual name) :=
  FailsOnly.foldlM fun _ _ _ => addProvider_noLimit _ _ _

/-- A pass never stops at the expansion limit. -/
theorem pass_noLimit (c : Concretization) : NoLimitStop c.pass :=
  FailsOnly.bind (FailsOnly.foldlM fun _ _ _ =>
      FailsOnly.bind (expandPackage_noLimit _ _) fun _ _ => FailsOnly.of_pure _) fun _ _ =>
    FailsOnly.foldlM fun _ _ _ => FailsOnly.bind (expandVirtual_noLimit _ _) fun _ _ => FailsOnly.of_pure _

end Concretization

end BuildSpec
