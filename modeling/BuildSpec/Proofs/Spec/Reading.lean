import Mathlib
import BuildSpec.Proofs.Spec.WellFormed

/-!
# Reading a spec's text back

What reading the text of a spec gives back is the spec itself with each setting's value read
back from its own text (`Spec.readBack`). Reading the text token by token rests on where a token
ends: a name or a word stops at a blank, a sigil or the end of the text (`nameOf_append`,
`word_append`), and a text built from tokens reads as the spec they build (`ReadsTo`,
`readNode_of_readsTo`).
-/

namespace BuildSpec

namespace Variant

/-- A setting with its value read back from its text. -/
def Setting.readBack (s : Setting) : Setting := { s with value := Value.parse s.value.text }

/-- The settings with their values read back from their texts. -/
def Settings.readBack (m : Settings) : Settings := ⟨m.entries.map Setting.readBack⟩

/-- A flag is read back as itself. -/
theorem Setting.readBack_flag (n : String) (b : Bool) :
    (⟨n, .flag b⟩ : Setting).readBack = ⟨n, .flag b⟩ := by
  simp only [Setting.readBack, (Value.parse_text_eq_self_iff (.flag b)).2 nofun]

end Variant

namespace Spec

/-- A part of a spec with its settings read back from their texts. -/
def readBackPart (s : Spec) : Spec := { s with variants := s.variants.readBack }

/-- What reading a spec's text gives: the spec with the settings of it and of each dependency
read back from their texts. -/
def readBack (s : Spec) : Spec :=
  { s with variants := s.variants.readBack, dependencies := s.dependencies.map readBackPart }

/-! ## Where a token ends -/

theorem isTextChar_of_isNameChar {c : Char} (h : isNameChar c = true) :
    Version.isTextChar c = true := by
  simp only [isNameChar, Version.isTextChar, Bool.or_eq_true] at h ⊢
  tauto

theorem isTextChar_not_sigil {c : Char} (h : Version.isTextChar c = true) : isSigil c = false := by
  cases hs : isSigil c
  · rfl
  · simp only [isSigil, Bool.or_eq_true, beq_iff_eq] at hs
    rcases hs with (((rfl | rfl) | rfl) | rfl) | rfl <;> revert h <;> decide

theorem isNameChar_not_blank {c : Char} (h : isNameChar c = true) : Text.isBlank c = false :=
  Version.isTextChar_not_blank (isTextChar_of_isNameChar h)

theorem isNameChar_not_sigil {c : Char} (h : isNameChar c = true) : isSigil c = false :=
  isTextChar_not_sigil (isTextChar_of_isNameChar h)

/-- What may follow a token without running into it: nothing, a blank or a sigil. -/
def Boundary (rest : List Char) : Prop :=
  ∀ c ∈ rest.head?, Text.isBlank c = true ∨ isSigil c = true

theorem Boundary.not_isNameChar {rest : List Char} (h : Boundary rest) :
    ∀ c ∈ rest.head?, isNameChar c = false := by
  intro c hc
  cases hn : isNameChar c
  · rfl
  · rcases h c hc with hb | hs
    · simp [isNameChar_not_blank hn] at hb
    · simp [isNameChar_not_sigil hn] at hs

theorem nameOf_append {n : String} {rest : List Char} (hn : ∀ c ∈ n.toList, isNameChar c = true)
    (hb : ∀ c ∈ rest.head?, isNameChar c = false) : nameOf (n.toList ++ rest) = (n, rest) := by
  have hstop : rest.takeWhile isNameChar = [] ∧ rest.dropWhile isNameChar = rest := by
    cases rest with
    | nil => exact ⟨rfl, rfl⟩
    | cons c rest => simp [hb c rfl]
  simp [nameOf, List.takeWhile_append_of_pos hn, List.dropWhile_append_of_pos hn, hstop.1,
    hstop.2]

theorem word_append {w : String} {rest : List Char} (hw : IsWord w) (hb : Boundary rest) :
    word (w.toList ++ rest) = (w, rest) := by
  have hin : ∀ c ∈ w.toList, (!Text.isBlank c && !isSigil c) = true := by
    intro c hc
    simp [(hw c hc).1, (hw c hc).2]
  have hstop : rest.takeWhile (fun c => !Text.isBlank c && !isSigil c) = [] ∧
      rest.dropWhile (fun c => !Text.isBlank c && !isSigil c) = rest := by
    cases rest with
    | nil => exact ⟨rfl, rfl⟩
    | cons c rest =>
      rcases hb c rfl with h | h <;> simp [h]
  simp [word, List.takeWhile_append_of_pos hin, List.dropWhile_append_of_pos hin, hstop.1,
    hstop.2]

/-! ## Reading with enough fuel -/

/-- Reading the tokens of `cs` from the state `st` ends with the spec `t`, with any fuel above
the number of characters of `cs` that are not blank. -/
def ReadsTo (text : String) (st : NodeState) (cs : List Char) (t : Spec) : Prop :=
  ∀ fuel, cs.countP (fun c => !Text.isBlank c) < fuel →
    ∃ st', readTokens text fuel st cs = .ok st' ∧ st'.spec = t

section ReadsTo

variable {text : String} {st : NodeState} {cs : List Char} {t : Spec}

theorem readTokens_dropWhile (fuel : Nat) :
    readTokens text (fuel + 1) st (cs.dropWhile Text.isBlank) = readTokens text (fuel + 1) st cs := by
  unfold readTokens
  rw [List.dropWhile_idempotent]

theorem countP_dropWhile_blank (cs : List Char) :
    (cs.dropWhile Text.isBlank).countP (fun c => !Text.isBlank c) =
      cs.countP (fun c => !Text.isBlank c) := by
  induction cs with
  | nil => rfl
  | cons c cs ih => by_cases hc : Text.isBlank c <;> simp [hc, ih]

/-- Leading blanks do not change what is read. -/
theorem readsTo_dropWhile_iff :
    ReadsTo text st (cs.dropWhile Text.isBlank) t ↔ ReadsTo text st cs t := by
  unfold ReadsTo
  rw [countP_dropWhile_blank]
  refine forall_congr' fun fuel => imp_congr_right fun hfuel => ?_
  cases fuel with
  | zero => exact absurd hfuel (Nat.not_lt_zero _)
  | succ fuel => rw [readTokens_dropWhile]

/-- Blanks alone read nothing. -/
theorem ReadsTo.blanks (h : ∀ c ∈ cs, Text.isBlank c = true) : ReadsTo text st cs st.spec := by
  intro fuel _
  refine ⟨st, ?_, rfl⟩
  cases fuel with
  | zero => rfl
  | succ fuel =>
    unfold readTokens
    rw [List.dropWhile_eq_nil_iff.2 h]

/-- A token is read, then what follows it. -/
theorem ReadsTo.token {c : Char} {rest rest' : List Char} {st₁ : NodeState}
    (hc : Text.isBlank c = false) (h : readToken text st c rest = .ok (st₁, rest'))
    (hsuf : rest' <:+ rest) (hnext : ReadsTo text { st₁ with first := false } rest' t) :
    ReadsTo text st (c :: rest) t := by
  intro fuel hfuel
  have hle := hsuf.sublist.countP_le (p := fun c => !Text.isBlank c)
  simp only [List.countP_cons, hc, Bool.not_false, if_true] at hfuel
  cases fuel with
  | zero => omega
  | succ fuel =>
    obtain ⟨st', hst', hspec⟩ := hnext fuel (by omega)
    refine ⟨st', ?_, hspec⟩
    unfold readTokens
    simp only [List.dropWhile_cons, hc, Bool.false_eq_true, if_false, h]
    exact hst'

/-- A state reading ends in without having read a token is the one it started from. -/
theorem readTokens_first {fuel : Nat} {st' : NodeState} (h : readTokens text fuel st cs = .ok st')
    (hfirst : st'.first = true) : st' = st := by
  induction fuel generalizing st cs with
  | zero =>
    cases h
    rfl
  | succ fuel ih =>
    unfold readTokens at h
    split at h
    · cases h
      rfl
    · split at h
      · have hst' := ih h
        rw [hst'] at hfirst
        cases hfirst
      · cases h

/-- A part that reads to a spec, named when it is a dependency, is read as that spec. -/
theorem readNode_of_readsTo {part : String} {isRoot : Bool} (h : ReadsTo text {} part.toList t)
    (hnamed : isRoot = false → t.name.isSome) : readNode part text isRoot = .ok t := by
  obtain ⟨st', hst', rfl⟩ := h (part.toList.length + 1) (Nat.lt_succ_of_le List.countP_le_length)
  unfold readNode
  cases isRoot with
  | true => simp [hst', bind, Except.bind, pure, Except.pure]
  | false =>
    have hname := hnamed rfl
    -- a dependency has a name, so some token was read
    have hfirst : st'.first = false := by
      cases hf : st'.first
      · rfl
      · rw [readTokens_first hst' hf] at hname
        cases hname
    simp [hst', hfirst, Option.ne_none_iff_isSome.2 hname, bind, Except.bind, pure, Except.pure]

/-- A blank before the tokens changes nothing. -/
theorem ReadsTo.blank {c : Char} (hc : Text.isBlank c = true) (h : ReadsTo text st cs t) :
    ReadsTo text st (c :: cs) t := by
  rw [← readsTo_dropWhile_iff, List.dropWhile_cons, if_pos hc, readsTo_dropWhile_iff]
  exact h

end ReadsTo

/-! ## Reading one token

Each token of a spec's text is read back as what it writes, when what follows it cannot run
into it. After the first token nothing depends on which token came first, so the tokens after
it are read from a state of either kind (`ReadsAll`).
-/

/-- Reading the tokens of `cs` ends with the spec `t`, from a state holding the spec `sp` and
having read versions or not (`hv`), whichever token the state takes for the first. -/
def ReadsAll (text : String) (sp : Spec) (hv : Bool) (cs : List Char) (t : Spec) : Prop :=
  ∀ first, ReadsTo text ⟨sp, hv, first⟩ cs t

section Token

variable {text : String} {sp t : Spec} {hv : Bool} {rest : List Char}

theorem Boundary.ne_eq (h : Boundary rest) : rest.head? ≠ some '=' := fun he => by
  rcases h '=' he with h | h <;> revert h <;> decide

theorem Boundary.append {xs : List Char} (hxs : ∀ c ∈ xs.head?, Text.isBlank c = true ∨ isSigil c = true)
    (h : Boundary rest) : Boundary (xs ++ rest) := by
  cases xs with
  | nil => exact h
  | cons x xs => exact hxs

/-- What a word made of `:`, `,` and version characters cannot run into. -/
theorem isWord_of_chars {w : String}
    (h : ∀ c ∈ w.toList, c = ':' ∨ c = ',' ∨ Version.isTextChar c = true) : IsWord w := by
  intro c hc
  rcases h c hc with rfl | rfl | h
  · decide
  · decide
  · exact ⟨Version.isTextChar_not_blank h, isTextChar_not_sigil h⟩

theorem readToken_of_isNameChar {st : NodeState} {c : Char} (hc : isNameChar c = true) :
    readToken text st c rest = readNamed text st (c :: rest) := by
  have hs := isNameChar_not_sigil hc
  simp only [isSigil, Bool.or_eq_false_iff, beq_eq_false_iff_ne] at hs
  obtain ⟨⟨⟨⟨h₁, h₂⟩, h₃⟩, h₄⟩, -⟩ := hs
  simp [readToken, h₁, h₂, h₃, h₄, hc]

/-- The spec's name, read as the first token. -/
theorem ReadsTo.name {n : String} (hn : IsName n) (hb : Boundary rest)
    (h : ReadsAll text { sp with name := some n } hv rest t) :
    ReadsTo text ⟨sp, hv, true⟩ (n.toList ++ rest) t := by
  obtain ⟨c, cs, hcs⟩ : ∃ c cs, n.toList = c :: cs :=
    List.exists_cons_of_ne_nil (by simpa using hn.1)
  have hc : isNameChar c = true := hn.2 c (by simp [hcs])
  have hread : readToken text ⟨sp, hv, true⟩ c (cs ++ rest) =
      .ok (⟨{ sp with name := some n }, hv, true⟩, rest) := by
    rw [readToken_of_isNameChar hc, ← List.cons_append, ← hcs]
    unfold readNamed
    rw [nameOf_append hn.2 hb.not_isNameChar]
    -- no `=` follows the name
    rcases rest with _ | ⟨x, r⟩
    · rfl
    · have hx : x ≠ '=' := fun he => hb.ne_eq (by simp [he])
      simp [hx]
  rw [hcs, List.cons_append]
  exact ReadsTo.token (isNameChar_not_blank hc) hread (List.suffix_append _ _) (h false)

/-- Versions, read as `@` and the constraint's text. -/
theorem ReadsAll.versions {v : Version.Constraint} (hwf : v.WellFormed) (hb : Boundary rest)
    (h : ReadsAll text { sp with versions := v } true rest t) :
    ReadsAll text sp false ('@' :: (v.text.toList ++ rest)) t := by
  intro first
  have hread : readToken text ⟨sp, false, first⟩ '@' (v.text.toList ++ rest) =
      .ok (⟨{ sp with versions := v }, true, first⟩, rest) := by
    simp [readToken, readVersions, word_append (isWord_of_chars hwf.text_chars) hb,
      Version.Constraint.parse_text hwf]
  exact ReadsTo.token (by decide) hread (List.suffix_append _ _) (h false)

/-- The compiler, read as `%name` or `%name@versions`, when no `@` follows it. -/
theorem ReadsAll.compiler {c : Compiler} (hn : IsName c.name) (hwf : c.versions.WellFormed)
    (hnone : sp.compiler = none) (hb : Boundary rest) (hat : rest.head? ≠ some '@')
    (h : ReadsAll text { sp with compiler := some c } hv rest t) :
    ReadsAll text sp hv (c.text.toList ++ rest) t := by
  intro first
  obtain ⟨n, v⟩ := c
  have hname : n.isEmpty = false := by simpa using hn.1
  by_cases hany : v.isAny = true
  · -- `%name`, and what follows is not `@`
    have hv : v = .any := Version.Constraint.isAny_iff.1 hany
    subst hv
    have hread : readToken text ⟨sp, hv, first⟩ '%' (n.toList ++ rest) =
        .ok (⟨{ sp with compiler := some ⟨n, .any⟩ }, hv, first⟩, rest) := by
      simp only [readToken, readCompiler, hnone, nameOf_append hn.2 hb.not_isNameChar, hname]
      rcases rest with _ | ⟨x, r⟩
      · rfl
      · have hx : x ≠ '@' := fun he => hat (by simp [he])
        simp [hx]
    simp only [Compiler.text, hany, if_true, String.toList_append, List.append_assoc]
    exact ReadsTo.token (by decide) hread (List.suffix_append _ _) (h false)
  · -- `%name@versions`
    have hat : ∀ x ∈ ('@' :: (v.text.toList ++ rest)).head?, isNameChar x = false := by
      intro x hx
      rw [List.head?_cons, Option.mem_some_iff] at hx
      subst hx
      decide
    have hread : readToken text ⟨sp, hv, first⟩ '%' (n.toList ++ '@' :: (v.text.toList ++ rest)) =
        .ok (⟨{ sp with compiler := some ⟨n, v⟩ }, hv, first⟩, rest) := by
      simp [readToken, readCompiler, hnone, nameOf_append hn.2 hat, hname,
        word_append (isWord_of_chars hwf.text_chars) hb, Version.Constraint.parse_text hwf]
    have htext : (Compiler.text ⟨n, v⟩).toList = '%' :: (n.toList ++ '@' :: v.text.toList) := by
      simp [Compiler.text, hany]
    rw [htext, List.cons_append, List.append_assoc, List.cons_append]
    exact ReadsTo.token (by decide) hread ⟨n.toList ++ '@' :: v.text.toList, by simp⟩ (h false)

/-- A flag, read as `+name` or `~name`, when the variant is not set yet. -/
theorem ReadsAll.flag {s : Variant.Setting} {es : List Variant.Setting} (hn : IsName s.name)
    (hflag : s.value.isFlag = true) (hnew : ∀ e ∈ es, e.name ≠ s.name) (hb : Boundary rest)
    (h : ReadsAll text { sp with variants := ⟨Variant.Settings.put s.readBack es⟩ } hv rest t) :
    ReadsAll text { sp with variants := ⟨es⟩ } hv (s.text.toList ++ rest) t := by
  intro first
  obtain ⟨n, value⟩ := s
  cases value with
  | texts vs => cases hflag
  | flag b =>
    rw [Variant.Setting.readBack_flag] at h
    have hcontains : (⟨es⟩ : Variant.Settings).contains n = false := by
      simpa [Variant.Settings.contains] using hnew
    have hne : n.isEmpty = false := by simpa using hn.1
    -- `+` sets the flag and `~` clears it; no `=` follows the name
    have hread (c : Char) (hc : c = '+' ∧ b = true ∨ c = '~' ∧ b = false) :
        readToken text ⟨{ sp with variants := ⟨es⟩ }, hv, first⟩ c (n.toList ++ rest) =
          .ok (⟨{ sp with variants := ⟨Variant.Settings.put ⟨n, .flag b⟩ es⟩ }, hv, first⟩, rest) := by
      have hflag : readToken text ⟨{ sp with variants := ⟨es⟩ }, hv, first⟩ c (n.toList ++ rest) =
          readFlag text ⟨{ sp with variants := ⟨es⟩ }, hv, first⟩ c (n.toList ++ rest) := by
        rcases hc with ⟨rfl, -⟩ | ⟨rfl, -⟩ <;> rfl
      rw [hflag]
      unfold readFlag
      rw [nameOf_append hn.2 hb.not_isNameChar]
      rcases rest with _ | ⟨x, r⟩
      · rcases hc with ⟨rfl, rfl⟩ | ⟨rfl, rfl⟩ <;>
          simp [hne, addSetting, Variant.Settings.insert, hcontains]
      · have hx : x ≠ '=' := fun he => hb.ne_eq (by simp [he])
        rcases hc with ⟨rfl, rfl⟩ | ⟨rfl, rfl⟩ <;>
          simp [hne, hx, addSetting, Variant.Settings.insert, hcontains]
    cases b with
    | true =>
      have htext : (Variant.Setting.text ⟨n, .flag true⟩).toList = '+' :: n.toList := by
        simp [Variant.Setting.text]
      rw [htext, List.cons_append]
      exact ReadsTo.token (by decide) (hread '+' (.inl ⟨rfl, rfl⟩)) (List.suffix_append _ _) (h false)
    | false =>
      have htext : (Variant.Setting.text ⟨n, .flag false⟩).toList = '~' :: n.toList := by
        simp [Variant.Setting.text]
      rw [htext, List.cons_append]
      exact ReadsTo.token (by decide) (hread '~' (.inr ⟨rfl, rfl⟩)) (List.suffix_append _ _) (h false)

/-- A set of texts, read as a blank then `name=a,b`, when the variant is not set yet. -/
theorem ReadsAll.texts {s : Variant.Setting} {es : List Variant.Setting} (hn : IsName s.name)
    (hset : s.value.isFlag = false) (hw : IsWord s.value.text) (hnew : ∀ e ∈ es, e.name ≠ s.name)
    (hb : Boundary rest)
    (h : ReadsAll text { sp with variants := ⟨Variant.Settings.put s.readBack es⟩ } hv rest t) :
    ReadsAll text { sp with variants := ⟨es⟩ } hv (' ' :: (s.text.toList ++ rest)) t := by
  intro first
  obtain ⟨n, value⟩ := s
  cases value with
  | flag b => cases hset
  | texts vs =>
    obtain ⟨c, cs, hcs⟩ : ∃ c cs, n.toList = c :: cs :=
      List.exists_cons_of_ne_nil (by simpa using hn.1)
    have hc : isNameChar c = true := hn.2 c (by simp [hcs])
    have hcontains : (⟨es⟩ : Variant.Settings).contains n = false := by
      simpa [Variant.Settings.contains] using hnew
    have heq : ∀ x ∈ ('=' :: ((Variant.Value.texts vs).text.toList ++ rest)).head?,
        isNameChar x = false := by
      intro x hx
      rw [List.head?_cons, Option.mem_some_iff] at hx
      subst hx
      decide
    have hread : readToken text ⟨{ sp with variants := ⟨es⟩ }, hv, first⟩ c
        (cs ++ '=' :: ((Variant.Value.texts vs).text.toList ++ rest)) =
          .ok (⟨{ sp with variants := ⟨Variant.Settings.put
            ⟨n, Variant.Value.parse (Variant.Value.texts vs).text⟩ es⟩ }, hv, first⟩, rest) := by
      rw [readToken_of_isNameChar hc, ← List.cons_append, ← hcs]
      simp [readNamed, nameOf_append hn.2 heq, word_append hw hb, addSetting,
        Variant.Settings.insert, hcontains]
    have htext : (Variant.Setting.text ⟨n, .texts vs⟩).toList =
        c :: (cs ++ '=' :: (Variant.Value.texts vs).text.toList) := by
      simp [Variant.Setting.text, Variant.Value.text, hcs]
    rw [htext]
    refine ReadsTo.blank (by decide) ?_
    rw [List.cons_append, List.append_assoc, List.cons_append]
    exact ReadsTo.token (isNameChar_not_blank hc) hread
      ⟨cs ++ '=' :: (Variant.Value.texts vs).text.toList, by simp⟩ (h false)

end Token

end Spec

end BuildSpec
