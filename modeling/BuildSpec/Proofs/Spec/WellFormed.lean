import Mathlib
import BuildSpec.Proofs.Version.Normal
import BuildSpec.Proofs.Variant.Normal

/-!
# Well-formed specs

What reading leaves in a spec. Each token of a part does one of four things to the spec read so
far (`TokenStep`): it sets the versions to a constraint read from a word, sets the compiler to a
name with such a constraint or with every version, adds a variant setting whose name is a name
and whose value is a flag or is read from a word, or gives the spec a name. Reading a part is a
run of such steps from the empty spec (`readTokens_steps`), and each step keeps a part well
formed (`TokenStep.partWellFormed`): names are names, constraints and settings are well formed,
and nothing is marked concrete. A dependency part holds a name as well (`readNode_dep`).
-/

namespace BuildSpec.Spec

/-- A package, compiler or variant name as reading makes it: not empty, of name characters. -/
def IsName (n : String) : Prop := n ≠ "" ∧ ∀ c ∈ n.toList, isNameChar c = true

/-- A word: a text with no blank and no character that starts a token. -/
def IsWord (w : String) : Prop := ∀ c ∈ w.toList, Text.isBlank c = false ∧ isSigil c = false

theorem isName_nameOf {c : Char} {rest : List Char} (hc : isNameChar c = true) :
    IsName (nameOf (c :: rest)).1 := by
  refine ⟨?_, fun x hx => ?_⟩
  · simp [nameOf, hc]
  · simp only [nameOf, String.toList_ofList] at hx
    exact List.mem_takeWhile_imp hx

theorem nameOf_chars (cs : List Char) : ∀ c ∈ (nameOf cs).1.toList, isNameChar c = true := by
  intro c hc
  simp only [nameOf, String.toList_ofList] at hc
  exact List.mem_takeWhile_imp hc

theorem isWord_word (cs : List Char) : IsWord (word cs).1 := by
  intro c hc
  simp only [word, String.toList_ofList] at hc
  simpa using List.mem_takeWhile_imp hc

/-- One part of a spec as reading and narrowing make it: its name and its compiler's name are
names, its constraints and settings are well formed, and it is not marked concrete. -/
structure PartWellFormed (s : Spec) : Prop where
  name : ∀ n ∈ s.name, IsName n
  versions : s.versions.WellFormed
  compiler : ∀ c ∈ s.compiler, IsName c.name ∧ c.versions.WellFormed
  variants : s.variants.WellFormed
  not_concrete : s.concrete = false

/-- A dependency as reading and narrowing make it: a well-formed part with a name and with no
dependencies of its own. -/
structure DepWellFormed (d : Spec) : Prop where
  part : d.PartWellFormed
  named : d.name.isSome
  flat : d.dependencies = []

/-- Dependencies as reading and narrowing make them: each well formed, and of distinct names. -/
structure DepsWellFormed (ds : List Spec) : Prop where
  deps : ∀ d ∈ ds, d.DepWellFormed
  distinct : (ds.map (·.name)).Nodup

/-- A spec as reading and narrowing make it: a well-formed part with well-formed
dependencies. -/
structure WellFormed (s : Spec) : Prop where
  part : s.PartWellFormed
  deps : DepsWellFormed s.dependencies

theorem partWellFormed_empty : ({} : Spec).PartWellFormed where
  name _ h := nomatch h
  versions := Version.Constraint.wellFormed_any
  compiler _ h := nomatch h
  variants := Variant.Settings.wellFormed_empty
  not_concrete := rfl

/-- A part's well-formedness does not look at its dependencies. -/
theorem PartWellFormed.withDependencies {s : Spec} (hs : s.PartWellFormed) (ds : List Spec) :
    ({ s with dependencies := ds } : Spec).PartWellFormed :=
  ⟨hs.name, hs.versions, hs.compiler, hs.variants, hs.not_concrete⟩

theorem IsName.setting_wellFormed {st : Variant.Setting} (hn : IsName st.name)
    (hv : st.value.WellFormed) : st.WellFormed :=
  ⟨hn.1, hn.2, hv⟩

/-- What one token can do to the spec being read: set its versions, set its compiler, add a
variant setting, or name it. -/
inductive TokenStep : Spec → Spec → Prop
  | versions {s : Spec} {w : String} {v : Version.Constraint} :
      Version.Constraint.parse w = .ok v → TokenStep s { s with versions := v }
  | compiler {s : Spec} {n : String} {v : Version.Constraint} : IsName n →
      (v = .any ∨ ∃ w, Version.Constraint.parse w = .ok v) →
      TokenStep s { s with compiler := some ⟨n, v⟩ }
  | setting {s : Spec} {st : Variant.Setting} {vs : Variant.Settings} : IsName st.name →
      ((∃ b, st.value = .flag b) ∨ ∃ w, IsWord w ∧ st.value = Variant.Value.parse w) →
      s.variants.insert st = .ok vs → TokenStep s { s with variants := vs }
  | name {s : Spec} {n : String} : IsName n → TokenStep s { s with name := some n }

section Steps

variable {text : String} {st : NodeState} {c : Char} {rest : List Char} {r : NodeState × List Char}

theorem readVersions_step (h : readVersions text st rest = .ok r) : TokenStep st.spec r.1.spec := by
  unfold readVersions at h
  dsimp only at h
  split at h
  · cases h
  · split at h
    · cases h
      exact .versions ‹_›
    · cases h

theorem readCompiler_step (h : readCompiler text st rest = .ok r) : TokenStep st.spec r.1.spec := by
  unfold readCompiler at h
  dsimp only at h
  split at h
  · cases h
  · split at h
    · cases h
    · next hempty =>
      split at h
      · next v rest' hvers =>
        cases h
        refine .compiler ⟨by simpa using hempty, nameOf_chars rest⟩ ?_
        -- the versions after the name are read from a word, or are all versions
        split at hvers
        · cases hp : Version.Constraint.parse (word ‹_›).1 <;>
            simp [hp, Functor.map, Except.map] at hvers
          exact Or.inr ⟨_, hvers.1 ▸ hp⟩
        · cases hvers
          exact Or.inl rfl
      · cases h

theorem addSetting_step {setting : Variant.Setting} (hname : IsName setting.name)
    (hval : (∃ b, setting.value = .flag b) ∨ ∃ w, IsWord w ∧ setting.value = Variant.Value.parse w)
    (h : addSetting st setting rest = .ok r) : TokenStep st.spec r.1.spec := by
  unfold addSetting at h
  split at h
  · next vs hins =>
    cases h
    exact .setting hname hval hins
  · cases h

theorem readFlag_step (h : readFlag text st c rest = .ok r) : TokenStep st.spec r.1.spec := by
  unfold readFlag at h
  dsimp only at h
  split at h
  · cases h
  · next hempty =>
    have hname : IsName (nameOf rest).1 := ⟨by simpa using hempty, nameOf_chars rest⟩
    split at h
    · next _ _ more _ =>
      refine addSetting_step hname (.inr ⟨(word more).1, isWord_word more, ?_⟩) h
      dsimp only
    · exact addSetting_step hname (.inl ⟨_, rfl⟩) h

theorem readNamed_step (hc : isNameChar c = true) (h : readNamed text st (c :: rest) = .ok r) :
    TokenStep st.spec r.1.spec := by
  have hname : IsName (nameOf (c :: rest)).1 := isName_nameOf hc
  unfold readNamed at h
  dsimp only at h
  split at h
  · next more _ =>
    refine addSetting_step hname (.inr ⟨(word more).1, isWord_word more, ?_⟩) h
    dsimp only
  · split at h
    · cases h
      exact .name hname
    · cases h

/-- Reading one token is one token step. -/
theorem readToken_step (h : readToken text st c rest = .ok r) : TokenStep st.spec r.1.spec := by
  unfold readToken at h
  split at h
  · exact readVersions_step h
  split at h
  · exact readCompiler_step h
  split at h
  · exact readFlag_step h
  split at h
  · exact readNamed_step ‹_› h
  · cases h

/-- Reading the tokens of a part takes the spec read so far through token steps. -/
theorem readTokens_steps {fuel : Nat} {st' : NodeState} {cs : List Char}
    (h : readTokens text fuel st cs = .ok st') : Relation.ReflTransGen TokenStep st.spec st'.spec := by
  induction fuel generalizing st cs with
  | zero =>
    cases h
    exact .refl
  | succ fuel ih =>
    unfold readTokens at h
    split at h
    · cases h
      exact .refl
    · split at h
      · next hr =>
        have hrest := ih h
        exact .head (readToken_step hr) hrest
      · cases h

end Steps

/-! ## What a token step keeps -/

theorem TokenStep.dependencies_eq {s s' : Spec} (h : TokenStep s s') :
    s'.dependencies = s.dependencies := by
  cases h <;> rfl

/-- A token step keeps a part well formed. -/
theorem TokenStep.partWellFormed {s s' : Spec} (h : TokenStep s s') (hs : s.PartWellFormed) :
    s'.PartWellFormed := by
  cases h with
  | versions hp => exact { hs with versions := Version.Constraint.parse_wellFormed hp }
  | compiler hn hv =>
    refine { hs with compiler := fun c hc => ?_ }
    cases hc
    refine ⟨hn, ?_⟩
    rcases hv with rfl | ⟨w, hw⟩
    · exact Version.Constraint.wellFormed_any
    · exact Version.Constraint.parse_wellFormed hw
  | @setting st _ hn hv hins =>
    -- the value is a flag, or is read from a word
    have hval : st.value.WellFormed := by
      rcases hv with ⟨b, hb⟩ | ⟨w, hw, hb⟩
      · rw [hb]
        exact .flag b
      · rw [hb]
        exact Variant.Value.parse_wellFormed w hw
    refine { hs with variants := ?_ }
    exact Variant.Settings.insert_wellFormed hs.variants (hn.setting_wellFormed hval) hins
  | name hn =>
    refine { hs with name := fun n hn' => ?_ }
    cases hn'
    exact hn

theorem partWellFormed_of_steps {s s' : Spec} (h : Relation.ReflTransGen TokenStep s s')
    (hs : s.PartWellFormed) : s'.PartWellFormed ∧ s'.dependencies = s.dependencies := by
  induction h with
  | refl => exact ⟨hs, rfl⟩
  | tail _ hstep ih => exact ⟨hstep.partWellFormed ih.1, hstep.dependencies_eq.trans ih.2⟩

/-- A part is read as a well-formed part without dependencies. -/
theorem readNode_flat {part text : String} {isRoot : Bool} {sp : Spec}
    (h : readNode part text isRoot = .ok sp) : sp.PartWellFormed ∧ sp.dependencies = [] := by
  unfold readNode at h
  obtain ⟨st, hst, h⟩ := except_bind_eq_ok.1 h
  have hsp : sp = st.spec := by
    simp only [throw, throwThe, MonadExceptOf.throw, bind, Except.bind, pure, Except.pure] at h
    split at h
    · cases h
    · split at h
      · cases h
      · exact (Except.ok.inj h).symm
  subst hsp
  exact partWellFormed_of_steps (readTokens_steps hst) partWellFormed_empty

/-- A dependency part is read as a well-formed dependency. -/
theorem readNode_dep {part text : String} {sp : Spec} (h : readNode part text false = .ok sp) :
    sp.DepWellFormed := by
  obtain ⟨hpart, hflat⟩ := readNode_flat h
  refine ⟨hpart, ?_, hflat⟩
  unfold readNode at h
  obtain ⟨st, -, h⟩ := except_bind_eq_ok.1 h
  simp only [throw, throwThe, MonadExceptOf.throw, bind, Except.bind, pure, Except.pure] at h
  split at h
  · cases h
  · split at h
    · cases h
    · next hname =>
      cases h
      exact Option.ne_none_iff_isSome.1 (by simpa using hname)

end BuildSpec.Spec
