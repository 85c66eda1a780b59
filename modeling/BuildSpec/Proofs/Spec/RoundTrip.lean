import Mathlib
import BuildSpec.Proofs.Spec.Reading
import BuildSpec.Proofs.Spec.Reachable

/-!
# Reading the text of a spec back

The text of a spec lists its name, `@versions`, `%compiler`, the flags, each set of texts as
` name=a,b`, then ` ^dep` for each dependency. Reading it goes token by token, each token read
as what it writes (`Spec.Reading`), and inserts the settings in name order whatever the order
of the text; the parts between the `^` are read one by one and the dependencies appended in
order, since their names differ.

Main statements:

* `parse_text_eq_readBack`: a well-formed spec whose text is not empty reads back from its text
  as itself with each setting's value read back from its own text;
* `beq_readBack_iff_not_hasFlagWord`: that compares equal to the spec exactly when no set holds
  a single text that spells `true` or `false` (in any case), which reads back as a flag;
* `text_eq_empty_iff`: only the empty spec has the empty text, and the empty text does not read;
* `parse_text_beq_iff`: for every spec that reading and narrowing make, reading its text gives
  a spec equal to it exactly when the spec is not empty and no such set is held
  (`parse_text_flag_word` is the set `{true}` of `a key=true,true`).
-/

namespace BuildSpec

namespace Variant

@[simp] theorem Setting.readBack_name (s : Setting) : s.readBack.name = s.name := by
  simp [Setting.readBack]

/-! ## Settings put one after another -/

namespace Settings

/-- The entries `es` with the settings of `L` put among them in turn, each read back from its
text: what reading the tokens of `L` does to the settings read so far. -/
def putReadBack (L es : List Setting) : List Setting :=
  L.foldl (fun acc s => put s.readBack acc) es

@[simp] theorem putReadBack_nil (es : List Setting) : putReadBack [] es = es := rfl

@[simp] theorem putReadBack_cons (s : Setting) (L es : List Setting) :
    putReadBack (s :: L) es = putReadBack L (put s.readBack es) := rfl

@[simp] theorem putReadBack_append (L₁ L₂ es : List Setting) :
    putReadBack (L₁ ++ L₂) es = putReadBack L₂ (putReadBack L₁ es) := by
  simp [putReadBack, List.foldl_append]

/-- A setting put among `es` leaves out the names of the settings still to come, when neither
it nor `es` holds them. -/
theorem names_put_readBack {s : Setting} {L es : List Setting} (hs : s.name ∉ L.map (·.name))
    (hnew : ∀ s' ∈ L, ∀ e ∈ es, e.name ≠ s'.name) :
    ∀ s' ∈ L, ∀ e ∈ put s.readBack es, e.name ≠ s'.name := by
  intro s' hs' e he
  rcases mem_put he with rfl | he
  · rw [Setting.readBack_name]
    exact fun h => hs (h ▸ List.mem_map_of_mem hs')
  · exact hnew s' hs' e he

theorem namesAscend_putReadBack (L : List Setting) {es : List Setting} (h : NamesAscend es) :
    NamesAscend (putReadBack L es) := by
  induction L generalizing es with
  | nil => exact h
  | cons s L ih => exact ih (namesAscend_put _ h)

open List in
/-- Settings of new and distinct names are inserted, and none is replaced. -/
theorem putReadBack_perm {L es : List Setting} (hnd : (L.map (·.name)).Nodup)
    (hnew : ∀ s ∈ L, ∀ e ∈ es, e.name ≠ s.name) :
    (putReadBack L es).Perm (es ++ L.map Setting.readBack) := by
  induction L generalizing es with
  | nil => simp
  | cons s L ih =>
    rw [List.map_cons, List.nodup_cons] at hnd
    have hput : (put s.readBack es).Perm (s.readBack :: es) := put_perm fun e he => by
      rw [Setting.readBack_name]
      exact hnew s List.mem_cons_self e he
    have hnew' := names_put_readBack hnd.1 fun s' hs' => hnew s' (List.mem_cons_of_mem _ hs')
    calc putReadBack (s :: L) es
        _ = putReadBack L (put s.readBack es) := rfl
        _ ~ put s.readBack es ++ L.map Setting.readBack := ih hnd.2 hnew'
        _ ~ (s.readBack :: es) ++ L.map Setting.readBack := hput.append_right _
        _ ~ es ++ (s :: L).map Setting.readBack := by
          rw [List.map_cons, List.cons_append]
          exact List.perm_middle.symm

/-- The names of settings in name order are distinct. -/
theorem NamesAscend.nodup {es : List Setting} (h : NamesAscend es) : (es.map (·.name)).Nodup :=
  List.pairwise_map.2 (h.imp ne_of_lt)

/-- Reading puts the flags, then the sets, and the settings come out in name order whatever
the order they were put in. -/
theorem putReadBack_flags_sets {m : Settings} (hm : m.WellFormed) :
    putReadBack (m.entries.filter (!·.value.isFlag))
      (putReadBack (m.entries.filter (·.value.isFlag)) []) = m.readBack.entries := by
  have hperm : (m.entries.filter (·.value.isFlag) ++ m.entries.filter (!·.value.isFlag)).Perm
      m.entries := List.filter_append_perm _ _
  have hnd := (hperm.map (·.name)).nodup_iff.2 hm.ascend.nodup
  have hsorted : NamesAscend m.readBack.entries := by
    simpa [Settings.readBack, NamesAscend, List.pairwise_map] using hm.ascend
  rw [← putReadBack_append]
  refine List.Perm.eq_of_pairwise (fun a b _ _ hab hba => absurd (lt_trans hab hba) (lt_irrefl _))
    (namesAscend_putReadBack _ List.Pairwise.nil) hsorted ?_
  refine (putReadBack_perm hnd (by simp)).trans ?_
  simpa [Settings.readBack] using hperm.map Setting.readBack

end Settings

end Variant

namespace Spec

open Variant

/-! ## Reading the settings

The flags are written first, glued together, each starting with its sigil; the sets follow,
each after a blank. Each is read as a token that puts its setting, read back, among those read
so far (`ReadsAll.flag`, `ReadsAll.texts`).
-/

section Settings

variable {text : String} {sp t : Spec} {hv : Bool} {rest : List Char}

/-- A flag's text is its sigil and its name. -/
theorem text_of_isFlag {s : Setting} (hs : s.value.isFlag = true) :
    ∃ c, (c = '+' ∨ c = '~') ∧ s.text.toList = c :: s.name.toList := by
  obtain ⟨n, value⟩ := s
  cases value with
  | texts vs => cases hs
  | flag b =>
    cases b
    · exact ⟨'~', .inr rfl, by simp [Setting.text]⟩
    · exact ⟨'+', .inl rfl, by simp [Setting.text]⟩

theorem head?_append_of {P : Char → Prop} {xs ys : List Char} (hx : ∀ c ∈ xs.head?, P c)
    (hy : ∀ c ∈ ys.head?, P c) : ∀ c ∈ (xs ++ ys).head?, P c := by
  cases xs with
  | nil => exact hy
  | cons x xs => exact hx

theorem head_join_flags {L : List Setting} (hL : ∀ s ∈ L, s.value.isFlag = true) :
    ∀ c ∈ (String.join (L.map (·.text))).toList.head?, c = '+' ∨ c = '~' := by
  cases L with
  | nil => simp
  | cons s L =>
    obtain ⟨c, hc, hs⟩ := text_of_isFlag (hL s List.mem_cons_self)
    simpa [hs] using hc

theorem head_join_texts (L : List Setting) :
    ∀ c ∈ (String.join (L.map (" " ++ ·.text))).toList.head?, c = ' ' := by
  cases L with
  | nil => simp
  | cons s L => simp

/-- The text of the settings starts with a flag's sigil or with the blank before a set. -/
theorem head_settings_text (m : Settings) :
    ∀ c ∈ m.text.toList.head?, c = '+' ∨ c = '~' ∨ c = ' ' := by
  rw [Settings.text, String.toList_append]
  refine head?_append_of (fun c hc => ?_) (fun c hc => .inr (.inr (head_join_texts _ c hc)))
  rcases head_join_flags (fun s hs => (List.mem_filter.1 hs).2) c hc with h | h
  · exact .inl h
  · exact .inr (.inl h)

/-- The text of a set holds no blank and no sigil. -/
theorem isWord_texts {vs : List String} (h : (Value.texts vs).WellFormed) :
    IsWord (Value.texts vs).text := by
  cases h with | texts _ _ hchars => ?_
  intro c hc
  rcases Text.mem_intercalate hc with hsep | ⟨w, hw, hcw⟩
  · rw [show ",".toList = [','] from rfl, List.mem_singleton] at hsep
    subst hsep
    decide
  · have hp := hchars w hw c hcw
    simp only [Value.isPieceChar, Bool.and_eq_true, Bool.not_eq_true'] at hp
    exact ⟨hp.1.1, hp.1.2⟩

/-- What may follow the flags: the first flag's sigil, or what follows them. -/
theorem Boundary.join_flags {L : List Setting} (hL : ∀ s ∈ L, s.value.isFlag = true)
    (hb : Boundary rest) : Boundary ((String.join (L.map (·.text))).toList ++ rest) := by
  refine Boundary.append (fun c hc => .inr ?_) hb
  rcases head_join_flags hL c hc with rfl | rfl <;> rfl

/-- What may follow the sets: the blank before the first, or what follows them. -/
theorem Boundary.join_texts (L : List Setting) (hb : Boundary rest) :
    Boundary ((String.join (L.map (" " ++ ·.text))).toList ++ rest) := by
  refine Boundary.append (fun c hc => .inl ?_) hb
  rw [head_join_texts L c hc]
  rfl

/-- The flags, read one after another. -/
theorem ReadsAll.flags {L es : List Setting}
    (hL : ∀ s ∈ L, IsName s.name ∧ s.value.isFlag = true) (hnd : (L.map (·.name)).Nodup)
    (hnew : ∀ s ∈ L, ∀ e ∈ es, e.name ≠ s.name) (hb : Boundary rest)
    (h : ReadsAll text { sp with variants := ⟨Settings.putReadBack L es⟩ } hv rest t) :
    ReadsAll text { sp with variants := ⟨es⟩ } hv
      ((String.join (L.map (·.text))).toList ++ rest) t := by
  induction L generalizing es with
  | nil => simpa using h
  | cons s L ih =>
    rw [List.map_cons, List.nodup_cons] at hnd
    obtain ⟨hname, hflag⟩ := hL s List.mem_cons_self
    have hb' := Boundary.join_flags (fun s' hs' => (hL s' (List.mem_cons_of_mem _ hs')).2) hb
    rw [List.map_cons, String.join_cons, String.toList_append, List.append_assoc]
    exact ReadsAll.flag hname hflag (hnew s List.mem_cons_self) hb'
      (ih (fun s' hs' => hL s' (List.mem_cons_of_mem _ hs')) hnd.2
        (Settings.names_put_readBack hnd.1 fun s' hs' => hnew s' (List.mem_cons_of_mem _ hs')) h)

/-- The sets, read one after another, each after its blank. -/
theorem ReadsAll.textsList {L es : List Setting}
    (hL : ∀ s ∈ L, IsName s.name ∧ s.value.isFlag = false ∧ IsWord s.value.text)
    (hnd : (L.map (·.name)).Nodup) (hnew : ∀ s ∈ L, ∀ e ∈ es, e.name ≠ s.name)
    (hb : Boundary rest)
    (h : ReadsAll text { sp with variants := ⟨Settings.putReadBack L es⟩ } hv rest t) :
    ReadsAll text { sp with variants := ⟨es⟩ } hv
      ((String.join (L.map (" " ++ ·.text))).toList ++ rest) t := by
  induction L generalizing es with
  | nil => simpa using h
  | cons s L ih =>
    rw [List.map_cons, List.nodup_cons] at hnd
    obtain ⟨hname, hset, hw⟩ := hL s List.mem_cons_self
    have hb' := Boundary.join_texts L hb
    rw [List.map_cons, String.join_cons, String.toList_append, String.toList_append,
      List.append_assoc, List.append_assoc, show " ".toList = [' '] from rfl, List.singleton_append]
    exact ReadsAll.texts hname hset hw (hnew s List.mem_cons_self) hb'
      (ih (fun s' hs' => hL s' (List.mem_cons_of_mem _ hs')) hnd.2
        (Settings.names_put_readBack hnd.1 fun s' hs' => hnew s' (List.mem_cons_of_mem _ hs')) h)

/-- The settings: the flags, then the sets, put in name order. -/
theorem ReadsAll.settings {m : Settings} (hm : m.WellFormed) (hb : Boundary rest)
    (hsp : sp.variants = ⟨[]⟩) (h : ReadsAll text { sp with variants := m.readBack } hv rest t) :
    ReadsAll text sp hv (m.text.toList ++ rest) t := by
  have hsp' : sp = { sp with variants := ⟨[]⟩ } := by
    cases sp
    cases hsp
    rfl
  rw [hsp']
  set F := m.entries.filter (·.value.isFlag)
  set S := m.entries.filter (!·.value.isFlag)
  have hnd : ((F ++ S).map (·.name)).Nodup :=
    ((List.filter_append_perm _ _).map _).nodup_iff.2 hm.ascend.nodup
  rw [List.map_append, List.nodup_append] at hnd
  have hflags : ∀ s ∈ F, IsName s.name ∧ s.value.isFlag = true := fun s hs => by
    obtain ⟨hsm, hfl⟩ := List.mem_filter.1 hs
    exact ⟨⟨(hm.settings s hsm).name_ne, (hm.settings s hsm).name_chars⟩, hfl⟩
  have hsets : ∀ s ∈ S, IsName s.name ∧ s.value.isFlag = false ∧ IsWord s.value.text := by
    intro s hs
    obtain ⟨hsm, hfl⟩ := List.mem_filter.1 hs
    have hws := hm.settings s hsm
    obtain ⟨n, value⟩ := s
    cases value with
    | flag b => simp [Value.isFlag] at hfl
    | texts vs => exact ⟨⟨hws.name_ne, hws.name_chars⟩, rfl, isWord_texts hws.value⟩
  -- the flags put before the sets have names of flags, which no set has
  have hnewS : ∀ s ∈ S, ∀ e ∈ Settings.putReadBack F [], e.name ≠ s.name := by
    intro s hs e he
    have he' := (Settings.putReadBack_perm hnd.1 (by simp)).mem_iff.1 he
    rw [List.nil_append, List.mem_map] at he'
    obtain ⟨f, hf, rfl⟩ := he'
    rw [Setting.readBack_name]
    exact hnd.2.2 _ (List.mem_map_of_mem hf) _ (List.mem_map_of_mem hs)
  have h' : ReadsAll text { sp with variants := ⟨Settings.putReadBack S
      (Settings.putReadBack F [])⟩ } hv rest t := by
    rw [Settings.putReadBack_flags_sets hm]
    exact h
  rw [Settings.text, String.toList_append, List.append_assoc]
  exact ReadsAll.flags hflags hnd.1 (by simp) (Boundary.join_texts S hb)
    (ReadsAll.textsList hsets hnd.2.1 hnewS hb h')

end Settings

/-! ## Reading one part

A part is read from the empty state: the name as the first token if there is one, the versions
unless every version is allowed, the compiler if there is one, then the settings. Each token is
followed by the next one's sigil or blank, or by the blanks after the part.
-/

section Part

variable {text : String} {sp t : Spec} {hv : Bool} {rest : List Char}

/-- The name if there is one. -/
theorem ReadsTo.optName {name : Option String} (hn : ∀ n ∈ name, IsName n)
    (hnone : sp.name = none) (hb : Boundary rest)
    (h : ReadsAll text { sp with name := name } false rest t) :
    ReadsTo text ⟨sp, false, true⟩ ((name.getD "").toList ++ rest) t := by
  cases name with
  | none =>
    have hsp : { sp with name := none } = sp := by
      cases sp
      cases hnone
      rfl
    rw [hsp] at h
    exact h true
  | some n => exact ReadsTo.name (hn n rfl) hb h

/-- The versions unless every version is allowed. -/
theorem ReadsAll.optVersions {v : Version.Constraint} (hwf : v.WellFormed)
    (hany : sp.versions = .any) (hb : Boundary rest)
    (h : ReadsAll text { sp with versions := v } (!v.isAny) rest t) :
    ReadsAll text sp false ((if v.isAny then "" else "@" ++ v.text).toList ++ rest) t := by
  by_cases hv : v.isAny = true
  · have hsp : { sp with versions := v } = sp := by
      rw [Version.Constraint.isAny_iff.1 hv]
      cases sp
      cases hany
      rfl
    rw [hsp, hv] at h
    simpa [hv] using h
  · rw [Bool.not_eq_true] at hv
    rw [hv] at h
    simpa [hv] using ReadsAll.versions hwf hb h

/-- The compiler if there is one. -/
theorem ReadsAll.optCompiler {compiler : Option Compiler}
    (hc : ∀ c ∈ compiler, IsName c.name ∧ c.versions.WellFormed) (hnone : sp.compiler = none)
    (hb : Boundary rest) (hat : rest.head? ≠ some '@')
    (h : ReadsAll text { sp with compiler := compiler } hv rest t) :
    ReadsAll text sp hv (((compiler.map Compiler.text).getD "").toList ++ rest) t := by
  cases compiler with
  | none =>
    have hsp : { sp with compiler := none } = sp := by
      cases sp
      cases hnone
      rfl
    rw [hsp] at h
    exact h
  | some c => exact ReadsAll.compiler (hc c rfl).1 (hc c rfl).2 hnone hb hat h

/-- The compiler's text starts with its sigil. -/
theorem head_compiler_text (compiler : Option Compiler) :
    ∀ c ∈ ((compiler.map Compiler.text).getD "").toList.head?, c = '%' := by
  cases compiler with
  | none => simp
  | some c =>
    simp only [Option.map_some, Option.getD_some, Compiler.text]
    split <;> simp

/-- A part without dependencies, followed by blanks, reads back as itself with its settings
read back. -/
theorem readsTo_rawText {p : Spec} (hp : p.PartWellFormed) (hflat : p.dependencies = [])
    (hrest : ∀ c ∈ rest, Text.isBlank c = true) :
    ReadsTo text {} ((rawText p).toList ++ rest) p.readBackPart := by
  obtain ⟨name, versions, variants, compiler, deps, concrete⟩ := p
  obtain rfl : deps = [] := hflat
  obtain rfl : concrete = false := hp.not_concrete
  -- what follows each token: the next one's sigil or blank, or the blanks after the part
  have hb : Boundary rest := fun c hc => .inl (hrest c (List.mem_of_mem_head? hc))
  have hS : Boundary (variants.text.toList ++ rest) := by
    refine Boundary.append (fun c hc => ?_) hb
    rcases head_settings_text variants c hc with rfl | rfl | rfl
    exacts [.inr rfl, .inr rfl, .inl rfl]
  have hatS : (variants.text.toList ++ rest).head? ≠ some '@' := by
    intro h
    refine head?_append_of (P := fun c => c ≠ '@') (fun c hc => ?_) (fun c hc => ?_) '@' h rfl
    · rcases head_settings_text variants c hc with rfl | rfl | rfl <;> decide
    · rintro rfl
      exact absurd (hrest '@' (List.mem_of_mem_head? hc)) (by decide)
  have hC : Boundary (((compiler.map Compiler.text).getD "").toList ++
      (variants.text.toList ++ rest)) := by
    refine Boundary.append (fun c hc => .inr ?_) hS
    rw [head_compiler_text compiler c hc]
    rfl
  have hV : Boundary ((if versions.isAny then "" else "@" ++ versions.text).toList ++
      (((compiler.map Compiler.text).getD "").toList ++ (variants.text.toList ++ rest))) := by
    refine Boundary.append (fun c hc => .inr ?_) hC
    split at hc
    · simp at hc
    · have hat : c = '@' := by simpa [eq_comm] using hc
      rw [hat]
      rfl
  -- the tokens, read from the last
  have h₄ : ReadsAll text ⟨name, versions, variants.readBack, compiler, [], false⟩
      (!versions.isAny) rest ⟨name, versions, variants.readBack, compiler, [], false⟩ :=
    fun _ => ReadsTo.blanks hrest
  have h₃ : ReadsAll text ⟨name, versions, ⟨[]⟩, compiler, [], false⟩ (!versions.isAny)
      (variants.text.toList ++ rest) ⟨name, versions, variants.readBack, compiler, [], false⟩ :=
    ReadsAll.settings hp.variants hb rfl h₄
  have h₂ : ReadsAll text ⟨name, versions, ⟨[]⟩, none, [], false⟩ (!versions.isAny)
      (((compiler.map Compiler.text).getD "").toList ++ (variants.text.toList ++ rest))
      ⟨name, versions, variants.readBack, compiler, [], false⟩ :=
    ReadsAll.optCompiler hp.compiler rfl hS hatS h₃
  have h₁ : ReadsAll text ⟨name, .any, ⟨[]⟩, none, [], false⟩ false
      ((if versions.isAny then "" else "@" ++ versions.text).toList ++
        (((compiler.map Compiler.text).getD "").toList ++ (variants.text.toList ++ rest)))
      ⟨name, versions, variants.readBack, compiler, [], false⟩ :=
    ReadsAll.optVersions hp.versions rfl hC h₂
  have h₀ : ReadsTo text {} ((name.getD "").toList ++
      ((if versions.isAny then "" else "@" ++ versions.text).toList ++
        (((compiler.map Compiler.text).getD "").toList ++ (variants.text.toList ++ rest))))
      ⟨name, versions, variants.readBack, compiler, [], false⟩ :=
    ReadsTo.optName hp.name rfl hV h₁
  have htext : (rawText ⟨name, versions, variants, compiler, [], false⟩).toList ++ rest =
      (name.getD "").toList ++ ((if versions.isAny then "" else "@" ++ versions.text).toList ++
        (((compiler.map Compiler.text).getD "").toList ++ (variants.text.toList ++ rest))) := by
    simp [rawText, depsText]
  rw [htext]
  exact h₀

end Part

/-! ## No `^` within a part

A part's text holds no `^`: names and words hold no sigil, and neither do the versions' texts.
So cutting a spec's text at `^` gives back the texts of its parts.
-/

section Caret

theorem ne_caret_of_not_sigil {c : Char} (h : isSigil c = false) : c ≠ '^' := by
  rintro rfl
  exact absurd h (by decide)

theorem ne_caret_of_blank {c : Char} (h : Text.isBlank c = true) : c ≠ '^' := by
  rintro rfl
  exact absurd h (by decide)

theorem IsWord.caret_not_mem {w : String} (h : IsWord w) : '^' ∉ w.toList :=
  fun hc => ne_caret_of_not_sigil (h _ hc).2 rfl

theorem IsName.caret_not_mem {n : String} (h : IsName n) : '^' ∉ n.toList :=
  fun hc => ne_caret_of_not_sigil (isNameChar_not_sigil (h.2 _ hc)) rfl

theorem Compiler.caret_not_mem_text {c : Compiler} (hn : IsName c.name)
    (hv : c.versions.WellFormed) : '^' ∉ c.text.toList := by
  have hw := (isWord_of_chars hv.text_chars).caret_not_mem
  unfold Compiler.text
  split <;> simp [hn.caret_not_mem, hw]

theorem Setting.caret_not_mem_text {s : Setting} (h : s.WellFormed) : '^' ∉ s.text.toList := by
  have hn : IsName s.name := ⟨h.name_ne, h.name_chars⟩
  obtain ⟨n, value⟩ := s
  cases value with
  | flag b => cases b <;> simp [Setting.text, hn.caret_not_mem]
  | texts vs =>
    have hw := (isWord_texts h.value).caret_not_mem
    simp only [Value.text, String.toList_intercalate, show ",".toList = [','] from rfl] at hw
    simp [Setting.text, hn.caret_not_mem, hw]

theorem Settings.caret_not_mem_text {m : Settings} (hm : m.WellFormed) : '^' ∉ m.text.toList := by
  intro hc
  simp only [Settings.text, String.toList_append, String.toList_join, List.mem_append,
    List.mem_flatMap, List.mem_map, List.mem_filter] at hc
  rcases hc with ⟨x, ⟨s, ⟨hs, -⟩, hx⟩, hc⟩ | ⟨x, ⟨s, ⟨hs, -⟩, hx⟩, hc⟩
  · subst hx
    exact Setting.caret_not_mem_text (hm.settings s hs) hc
  · subst hx
    rw [String.toList_append, List.mem_append] at hc
    rcases hc with hc | hc
    · exact absurd hc (by decide)
    · exact Setting.caret_not_mem_text (hm.settings s hs) hc

/-- The text of a part with no dependencies holds no `^`. -/
theorem caret_not_mem_rawText {p : Spec} (hp : p.PartWellFormed) (hflat : p.dependencies = []) :
    '^' ∉ (rawText p).toList := by
  obtain ⟨name, versions, variants, compiler, deps, concrete⟩ := p
  obtain rfl : deps = [] := hflat
  have hname : '^' ∉ (name.getD "").toList := by
    cases name with
    | none => simp
    | some n => exact (hp.name n rfl).caret_not_mem
  have hversions : '^' ∉ (if versions.isAny then "" else "@" ++ versions.text).toList := by
    split
    · simp
    · simp [(isWord_of_chars hp.versions.text_chars).caret_not_mem]
  have hcompiler : '^' ∉ ((compiler.map Compiler.text).getD "").toList := by
    cases compiler with
    | none => simp
    | some c => exact Compiler.caret_not_mem_text (hp.compiler c rfl).1 (hp.compiler c rfl).2
  simp only [rawText, depsText, String.toList_append, List.mem_append, not_or]
  exact ⟨⟨⟨⟨hname, hversions⟩, hcompiler⟩, Settings.caret_not_mem_text hp.variants⟩, by simp⟩

end Caret

/-! ## Cutting a spec's text at `^`

The text of a spec is its own part's text, then ` ^` and the text of each dependency. Cut at `^`
it gives its own part's text, then each dependency's, every piece but the last followed by the
blank written before the next `^`.
-/

section Pieces

theorem dropWhile_blank_append {xs ys : List Char} (h : ∀ c ∈ ys.head?, Text.isBlank c = false) :
    (xs ++ ys).dropWhile Text.isBlank = xs.dropWhile Text.isBlank ++ ys := by
  rw [List.dropWhile_append]
  split
  · rename_i he
    rw [List.isEmpty_iff.1 he, Text.dropWhile_blank_of_head h, List.nil_append]
  · rfl

theorem dropWhile_blank_dropWhile_append (xs ys : List Char) :
    (xs.dropWhile Text.isBlank ++ ys).dropWhile Text.isBlank =
      (xs ++ ys).dropWhile Text.isBlank := by
  rw [List.dropWhile_append, List.dropWhile_append, List.dropWhile_idempotent]

theorem rawText_eq_append (s : Spec) :
    rawText s = rawText { s with dependencies := [] } ++ depsText s.dependencies := by
  obtain ⟨name, versions, variants, compiler, deps, concrete⟩ := s
  simp [rawText, depsText]

/-- A piece of a spec's text for the dependency `d`: its text trimmed at the front, and blanks. -/
def PieceOf (d : Spec) (piece : String) : Prop :=
  ∃ r, (∀ c ∈ r.toList, Text.isBlank c = true) ∧ piece = Text.trimStart (rawText d) ++ r

/-- A text followed by the texts of dependencies, as the pieces between `^`. -/
theorem append_depsText_eq (a : String) (ds : List Spec) : ∃ r₀ pieces,
    (∀ c ∈ r₀.toList, Text.isBlank c = true) ∧
      a ++ depsText ds = "^".intercalate ((a ++ r₀) :: pieces) ∧
      List.Forall₂ (fun piece d => PieceOf d piece) pieces ds := by
  induction ds generalizing a with
  | nil => exact ⟨"", [], by simp, by simp [depsText], .nil⟩
  | cons d ds ih =>
    obtain ⟨r₁, pieces, hr₁, heq, hF⟩ := ih (Text.trimStart (rawText d))
    have hblank : ∀ c ∈ " ".toList, Text.isBlank c = true := fun c hc => by
      rw [show " ".toList = [' '] from rfl, List.mem_singleton] at hc
      subst hc
      rfl
    refine ⟨" ", (Text.trimStart (rawText d) ++ r₁) :: pieces, hblank, ?_,
      .cons ⟨r₁, hr₁, rfl⟩ hF⟩
    rw [String.intercalate_cons_cons, ← heq, depsText]
    apply String.toList_injective
    simp [show " ^".toList = [' ', '^'] from rfl]

/-- Trimming a text cut at `^` trims its first piece. -/
theorem trimStart_intercalate (p : String) (ps : List String) :
    Text.trimStart ("^".intercalate (p :: ps)) = "^".intercalate (Text.trimStart p :: ps) := by
  cases ps with
  | nil => simp
  | cons q ps =>
    rw [String.intercalate_cons_cons, String.intercalate_cons_cons]
    apply String.toList_injective
    simp only [Text.trimStart, String.toList_append, String.toList_ofList, List.append_assoc]
    exact dropWhile_blank_append (by simp [show "^".toList = ['^'] from rfl]; decide)

/-- A spec's text, as the pieces between `^`: its own part's text trimmed at the front, then the
piece of each dependency. -/
theorem text_eq_intercalate (s : Spec) : ∃ r₀ pieces, (∀ c ∈ r₀.toList, Text.isBlank c = true) ∧
    s.text = "^".intercalate
      (Text.trimStart (rawText { s with dependencies := [] } ++ r₀) :: pieces) ∧
    List.Forall₂ (fun piece d => PieceOf d piece) pieces s.dependencies := by
  obtain ⟨r₀, pieces, hr₀, heq, hF⟩ :=
    append_depsText_eq (rawText { s with dependencies := [] }) s.dependencies
  refine ⟨r₀, pieces, hr₀, ?_, hF⟩
  rw [text, rawText_eq_append, heq, trimStart_intercalate]

/-- A part's text followed by blanks holds no `^`, nor does anything cut from it. -/
theorem caret_not_mem_rawText_append {p : Spec} (hp : p.PartWellFormed)
    (hflat : p.dependencies = []) {r : String} (hr : ∀ c ∈ r.toList, Text.isBlank c = true) :
    '^' ∉ (rawText p).toList ++ r.toList := by
  rw [List.mem_append, not_or]
  exact ⟨caret_not_mem_rawText hp hflat, fun hc => ne_caret_of_blank (hr _ hc) rfl⟩

theorem pieces_caret_not_mem {pieces : List String} {ds : List Spec}
    (h : List.Forall₂ (fun piece d => PieceOf d piece) pieces ds)
    (hds : ∀ d ∈ ds, d.DepWellFormed) : ∀ piece ∈ pieces, '^' ∉ piece.toList := by
  induction h with
  | nil => simp
  | @cons piece d pieces ds hpd _ ih =>
    intro piece' hpiece'
    rcases List.mem_cons.1 hpiece' with rfl | hpiece'
    · obtain ⟨r, hr, rfl⟩ := hpd
      have hd := hds d List.mem_cons_self
      intro hc
      refine caret_not_mem_rawText_append hd.part hd.flat hr ?_
      simp only [Text.trimStart, String.toList_append, String.toList_ofList] at hc
      exact ((List.dropWhile_sublist _).append_right _).subset hc
    · exact ih (fun d' hd' => hds d' (List.mem_cons_of_mem _ hd')) piece' hpiece'

/-- Cutting the text of a well-formed spec at `^` gives its own part's piece, then the piece of
each dependency. -/
theorem split_text_eq {s : Spec} (hs : s.WellFormed) : ∃ r₀ pieces,
    (∀ c ∈ r₀.toList, Text.isBlank c = true) ∧
    Text.split '^' s.text = Text.trimStart (rawText { s with dependencies := [] } ++ r₀) :: pieces ∧
    List.Forall₂ (fun piece d => PieceOf d piece) pieces s.dependencies := by
  obtain ⟨r₀, pieces, hr₀, htext, hF⟩ := text_eq_intercalate s
  refine ⟨r₀, pieces, hr₀, ?_, hF⟩
  rw [htext]
  refine Text.split_intercalate rfl ?_ (List.cons_ne_nil _ _)
  intro piece hpiece
  rcases List.mem_cons.1 hpiece with rfl | hpiece
  · intro hc
    refine caret_not_mem_rawText_append (hs.part.withDependencies []) rfl hr₀ ?_
    simp only [Text.trimStart, String.toList_ofList, String.toList_append] at hc
    exact (List.dropWhile_sublist _).subset hc
  · exact pieces_caret_not_mem hF hs.deps.deps piece hpiece

/-- A text that is not empty starts with a character that is not blank, so it is not blank
throughout. -/
theorem trim_text_isEmpty {s : Spec} (hne : s.text ≠ "") : (Text.trim s.text).isEmpty = false := by
  obtain ⟨c, cs, hcs⟩ := List.exists_cons_of_ne_nil (fun h => hne (String.toList_inj.1 h))
  have hc : Text.isBlank c = false := by
    have hdrop : (rawText s).toList.dropWhile Text.isBlank = c :: cs := by
      rw [← hcs, text, Text.trimStart, String.toList_ofList]
    simpa [hdrop] using Text.head?_dropWhile_blank (rawText s).toList
  rw [Bool.eq_false_iff, ne_eq, String.isEmpty_iff, Text.trim_eq_empty_iff, hcs]
  intro hblank
  rw [hblank c List.mem_cons_self] at hc
  cases hc

end Pieces

/-! ## Reading the text back

The first piece is read as the spec's own part and each later piece as a dependency, appended in
order since no two dependencies have one name.
-/

section Parse

variable {text : String}

/-- Reading is a function: the tokens of a text read to one spec. -/
theorem ReadsTo.unique {st : NodeState} {cs : List Char} {t₁ t₂ : Spec}
    (h₁ : ReadsTo text st cs t₁) (h₂ : ReadsTo text st cs t₂) : t₁ = t₂ := by
  obtain ⟨st₁, hst₁, rfl⟩ := h₁ _ (Nat.lt_succ_self _)
  obtain ⟨st₂, hst₂, rfl⟩ := h₂ _ (Nat.lt_succ_self _)
  rw [hst₁, Except.ok.injEq] at hst₂
  rw [hst₂]

/-- The first piece is read as the spec's own part. -/
theorem readNode_first_piece {p : Spec} (hp : p.PartWellFormed) (hflat : p.dependencies = [])
    {r : String} (hr : ∀ c ∈ r.toList, Text.isBlank c = true) :
    readNode (Text.trimStart (rawText p ++ r)) text true = .ok p.readBackPart := by
  refine readNode_of_readsTo ?_ nofun
  simp only [Text.trimStart, String.toList_ofList, String.toList_append]
  rw [readsTo_dropWhile_iff]
  exact readsTo_rawText hp hflat hr

/-- The piece of a dependency is read as that dependency. -/
theorem PieceOf.readNode {d : Spec} {piece : String} (hd : d.DepWellFormed) (h : PieceOf d piece) :
    readNode piece text false = .ok d.readBackPart := by
  obtain ⟨r, hr, rfl⟩ := h
  refine readNode_of_readsTo ?_ fun _ => hd.named
  simp only [Text.trimStart, String.toList_append, String.toList_ofList]
  rw [← readsTo_dropWhile_iff, dropWhile_blank_dropWhile_append, readsTo_dropWhile_iff]
  exact readsTo_rawText hd.part hd.flat hr

/-- The pieces of well-formed dependencies are read as the dependencies. -/
theorem pieces_read {pieces : List String} {ds : List Spec}
    (h : List.Forall₂ (fun piece d => PieceOf d piece) pieces ds) (hds : ∀ d ∈ ds, d.DepWellFormed) :
    List.Forall₂ (fun piece d => readNode piece text false = .ok d) pieces (ds.map readBackPart) := by
  induction h with
  | nil => exact .nil
  | @cons piece d pieces ds hpd _ ih =>
    exact .cons (hpd.readNode (hds d List.mem_cons_self))
      (ih fun d' hd' => hds d' (List.mem_cons_of_mem _ hd'))

/-- Reading the dependency pieces one after another appends each dependency read, when no two
have one name. -/
theorem foldlM_appendDeps {f : Spec → String → Except Error Spec}
    (hf : ∀ r piece d, readNode piece text false = .ok d →
      d.name ∉ r.dependencies.map (·.name) →
        f r piece = .ok { r with dependencies := r.dependencies ++ [d] })
    {pieces : List String} {ds : List Spec}
    (h : List.Forall₂ (fun piece d => readNode piece text false = .ok d) pieces ds) :
    ∀ r : Spec, ((r.dependencies ++ ds).map (·.name)).Nodup →
      pieces.foldlM f r = .ok { r with dependencies := r.dependencies ++ ds } := by
  induction h with
  | nil =>
    intro r _
    -- a spec has dependencies of its own type, so it is rebuilt from its fields by cases only
    obtain ⟨name, versions, variants, compiler, deps, concrete⟩ := r
    simp only [List.foldlM_nil, List.append_nil, pure, Except.pure]
  | @cons piece d pieces ds hread _ ih =>
    intro r hnd
    rw [List.map_append, List.map_cons, List.nodup_append] at hnd
    have hnew : d.name ∉ r.dependencies.map (·.name) :=
      fun hmem => hnd.2.2 _ hmem _ List.mem_cons_self rfl
    have hrest := ih { r with dependencies := r.dependencies ++ [d] } (by
      rw [List.append_assoc, List.map_append, List.singleton_append, List.map_cons,
        List.nodup_append]
      exact hnd)
    simp only [List.foldlM_cons, hf r piece d hread hnew, bind, Except.bind, hrest,
      List.append_assoc, List.singleton_append]

/-- A well-formed spec whose text is not empty reads back from its text as itself with each
setting's value read back from its own text. -/
theorem parse_text_eq_readBack {s : Spec} (hs : s.WellFormed) (hne : s.text ≠ "") :
    parse s.text = .ok s.readBack := by
  obtain ⟨r₀, pieces, hr₀, hsplit, hF⟩ := split_text_eq hs
  have hpart : ({ s with dependencies := [] } : Spec).PartWellFormed := hs.part.withDependencies []
  have hread : List.Forall₂ (fun piece d => readNode piece s.text false = .ok d) pieces
      (s.dependencies.map readBackPart) :=
    pieces_read hF hs.deps.deps
  have hnd : ((s.dependencies.map readBackPart).map Spec.name).Nodup := by
    simpa [readBackPart, Function.comp_def] using hs.deps.distinct
  unfold parse
  simp only [trim_text_isEmpty hne, hsplit, readNode_first_piece hpart rfl hr₀,
    Bool.false_eq_true, if_false, bind, Except.bind, pure, Except.pure]
  rw [foldlM_appendDeps ?_ hread ({ s with dependencies := [] } : Spec).readBackPart hnd]
  · rfl
  · -- a dependency whose name none before it has is appended, not merged
    intro r piece d hpiece hnew
    have hnone : r.dependencies.findIdx? (·.name == d.name) = none := by
      rw [List.findIdx?_eq_none_iff]
      intro x hx
      rw [beq_eq_false_iff_ne]
      intro he
      exact hnew (he ▸ List.mem_map_of_mem hx)
    simp [hpiece, hnone]

end Parse

/-! ## When the text gives the spec back

Only the empty spec has the empty text, which does not read. Otherwise the text reads as the
spec with each value read back from its own text, and that changes exactly the sets of one text
that spells `true` or `false`: written as that text, such a set reads back as a flag.
-/

section Back

theorem map_eq_self_iff {α : Type} {f : α → α} {l : List α} : l.map f = l ↔ ∀ x ∈ l, f x = x := by
  induction l with
  | nil => simp
  | cons x l ih => simp [ih]

/-- Some setting of the spec or of one of its dependencies is a set of one text that spells
`true` or `false`, in any case, and so reads back from its text as a flag. -/
def HasFlagWord (s : Spec) : Prop :=
  (∃ v ∈ s.variants.entries, v.value.IsFlagWord) ∨
    ∃ d ∈ s.dependencies, ∃ v ∈ d.variants.entries, v.value.IsFlagWord

theorem Settings.readBack_eq_self_iff {m : Settings} (hm : m.WellFormed) :
    m.readBack = m ↔ ∀ v ∈ m.entries, ¬ v.value.IsFlagWord := by
  obtain ⟨es⟩ := m
  have hsetting : ∀ v ∈ es, v.readBack = v ↔ ¬ v.value.IsFlagWord := fun v hv => by
    rw [← Value.parse_text_eq_self_iff (hm.settings v hv).value]
    obtain ⟨n, value⟩ := v
    simp [Setting.readBack]
  simp only [Settings.readBack, Settings.mk.injEq, map_eq_self_iff]
  exact forall₂_congr hsetting

theorem readBackPart_beq_iff (d : Spec) : d.readBackPart.beq d = true ↔ d.variants.readBack = d.variants := by
  obtain ⟨n, v, m, c, ds, k⟩ := d
  simp [readBackPart, Spec.beq, Spec.beqList_self]

theorem beqList_readBackPart_iff (ds : List Spec) :
    beqList (ds.map readBackPart) ds = true ↔ ∀ d ∈ ds, d.variants.readBack = d.variants := by
  induction ds with
  | nil => simp [beqList]
  | cons d ds ih => simp [beqList, readBackPart_beq_iff, ih]

/-- A spec compares equal to what its text reads back as exactly when reading the values back
changes none of its settings or its dependencies' settings. -/
theorem beq_readBack_iff (s : Spec) : (s.readBack == s) = true ↔
    s.variants.readBack = s.variants ∧ ∀ d ∈ s.dependencies, d.variants.readBack = d.variants := by
  obtain ⟨n, v, m, c, ds, k⟩ := s
  show Spec.beq _ _ = true ↔ _
  simp [readBack, Spec.beq, beqList_readBackPart_iff]

theorem beq_readBack_iff_not_hasFlagWord {s : Spec} (hs : s.WellFormed) :
    (s.readBack == s) = true ↔ ¬ s.HasFlagWord := by
  rw [beq_readBack_iff, Settings.readBack_eq_self_iff hs.part.variants, HasFlagWord]
  have hdeps : (∀ d ∈ s.dependencies, d.variants.readBack = d.variants) ↔
      ∀ d ∈ s.dependencies, ∀ v ∈ d.variants.entries, ¬ v.value.IsFlagWord :=
    forall₂_congr fun d hd => Settings.readBack_eq_self_iff (hs.deps.deps d hd).part.variants
  rw [hdeps]
  simp only [not_or, not_exists, not_and]

/-- Only the empty spec has the empty text. -/
theorem text_eq_empty_iff {s : Spec} (hs : s.WellFormed) : s.text = "" ↔ s = {} := by
  constructor
  · intro he
    -- every character of the spec's own text is blank
    have hblank : ∀ c ∈ (rawText s).toList, Text.isBlank c = true := by
      apply List.dropWhile_eq_nil_iff.1
      have := congrArg String.toList he
      simpa [text, Text.trimStart] using this
    -- so it has no dependency, whose `^` is not blank
    have hdeps : s.dependencies = [] := by
      cases hd : s.dependencies with
      | nil => rfl
      | cons d ds =>
        have hc := hblank '^' (by
          rw [rawText_eq_append, hd]
          simp [depsText, show " ^".toList = [' ', '^'] from rfl])
        exact absurd hc (by decide)
    -- and its own part reads as itself from blanks, which read as nothing
    have hpart : ({ s with dependencies := [] } : Spec).PartWellFormed :=
      hs.part.withDependencies []
    have h₁ : ReadsTo "" {} ((rawText { s with dependencies := [] }).toList ++ [])
        ({ s with dependencies := [] } : Spec).readBackPart :=
      readsTo_rawText hpart rfl (by simp)
    have h₂ : ReadsTo "" {} ((rawText { s with dependencies := [] }).toList ++ [])
        ({} : NodeState).spec := by
      refine ReadsTo.blanks fun c hc => hblank c ?_
      rw [rawText_eq_append, hdeps]
      simpa [depsText] using hc
    have hnone := h₁.unique h₂
    obtain ⟨name, versions, ⟨es⟩, compiler, deps, concrete⟩ := s
    subst hdeps
    simp only [readBackPart, Settings.readBack] at hnone
    injection hnone with hn hv hm hc _ hk
    injection hm with hes
    rw [List.map_eq_nil_iff] at hes
    subst hn hv hc hk hes
    rfl
  · rintro rfl
    decide

/-- The empty text does not read. -/
theorem parse_empty_ne_ok (t : Spec) : parse "" ≠ .ok t := by
  have hfail : (parse "").isOk = false := by decide
  intro h
  rw [h] at hfail
  cases hfail

/-- For every spec that reading and narrowing make, reading its text gives a spec equal to it
exactly when the spec is not empty and no setting of it or of its dependencies is a set of one
text spelling `true` or `false`. -/
theorem parse_text_beq_iff {s : Spec} (hs : s.Reachable) :
    (∃ t, parse s.text = .ok t ∧ (t == s) = true) ↔ s ≠ {} ∧ ¬ s.HasFlagWord := by
  have hw := hs.wellFormed
  constructor
  · rintro ⟨t, ht, hbeq⟩
    have hne : s.text ≠ "" := fun he => parse_empty_ne_ok t (he ▸ ht)
    rw [parse_text_eq_readBack hw hne, Except.ok.injEq] at ht
    subst ht
    exact ⟨fun he => hne ((text_eq_empty_iff hw).2 he),
      (beq_readBack_iff_not_hasFlagWord hw).1 hbeq⟩
  · rintro ⟨hne, hflag⟩
    exact ⟨s.readBack, parse_text_eq_readBack hw fun he => hne ((text_eq_empty_iff hw).1 he),
      (beq_readBack_iff_not_hasFlagWord hw).2 hflag⟩

/-- The spec read from `x +a mode=b,c ^y ~d` reads back from its text as a spec equal to it. -/
theorem parsed_text_reads_back : ∃ s, parse "x +a mode=b,c ^y ~d" = .ok s ∧
    ∃ t, parse s.text = .ok t ∧ (t == s) = true := by
  have hs : parse "x +a mode=b,c ^y ~d" = .ok
      { name := some "x", variants := ⟨[⟨"a", .flag true⟩, ⟨"mode", .texts ["b", "c"]⟩]⟩,
        dependencies := [{ name := some "y", variants := ⟨[⟨"d", .flag false⟩]⟩ }] } := rfl
  refine ⟨_, hs, (parse_text_beq_iff (.parsed hs)).2 ⟨by simp, ?_⟩⟩
  simp [HasFlagWord, Value.IsFlagWord]

/-- The set `{true}` is written `key=true`, which reads back as the flag `+key`: the spec read
from `a key=true,true` does not read back from its text as a spec equal to it. -/
theorem parse_text_flag_word : ∃ s, parse "a key=true,true" = .ok s ∧ s.HasFlagWord ∧
    ∃ t, parse s.text = .ok t ∧ (t == s) = false := by
  have hs : parse "a key=true,true" = .ok
      { name := some "a", variants := ⟨[⟨"key", .texts ["true"]⟩]⟩ } := rfl
  have ht : parse (Spec.text { name := some "a", variants := ⟨[⟨"key", .texts ["true"]⟩]⟩ }) =
      .ok { name := some "a", variants := ⟨[⟨"key", .flag true⟩]⟩ } := rfl
  exact ⟨_, hs, .inl ⟨_, List.mem_singleton_self _, .inl rfl⟩, _, ht, rfl⟩

end Back

end Spec

end BuildSpec
