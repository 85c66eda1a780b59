import Mathlib
import BuildSpec.Spec.Parse
import BuildSpec.Proofs.Text
import BuildSpec.Proofs.Table

/-!
# Well-formed variant settings and their text

A set value is kept as a strictly increasing list of texts (`sortedSet`), which is the one
strictly increasing list with its members, so sorting it again changes nothing
(`sortedSet_eq_self`). A spec's settings are kept strictly increasing by name (`Settings.put`).

Reading and narrowing make well-formed values and settings (`Value.WellFormed`,
`Settings.WellFormed`): a set is not empty and its texts hold no blank, no comma and no character
that starts a spec token. Such a value is read back from its own text, with one exception: a set
holding a single text that spells `true` or `false` reads back as the flag
(`Value.parse_text_eq_self_iff`).
-/

namespace BuildSpec.Variant

/-! ## Sorted sets of texts -/

theorem mem_insertSorted {x y : String} {l : List String} :
    y ∈ insertSorted x l ↔ y = x ∨ y ∈ l := by
  induction l with
  | nil => simp [insertSorted]
  | cons z l ih =>
    unfold insertSorted
    split
    · simp
    · split
      · rename_i h
        simp [beq_iff_eq.1 h]
      · simp only [List.mem_cons, ih]
        tauto

theorem pairwise_insertSorted (x : String) {l : List String} (h : l.Pairwise (· < ·)) :
    (insertSorted x l).Pairwise (· < ·) := by
  induction l with
  | nil => simp [insertSorted]
  | cons z l ih =>
    obtain ⟨hz, hl⟩ := List.pairwise_cons.1 h
    unfold insertSorted
    split
    · refine List.pairwise_cons.2 ⟨fun w hw => ?_, h⟩
      rcases List.mem_cons.1 hw with rfl | hw
      · assumption
      · exact lt_trans ‹x < z› (hz w hw)
    · split
      · exact h
      · -- `x` is neither below nor equal to `z`, so `z` is below it
        have hzx : z < x := lt_of_le_of_ne (not_lt.1 ‹¬x < z›) fun he => by simp_all
        refine List.pairwise_cons.2 ⟨fun w hw => ?_, ih hl⟩
        rcases mem_insertSorted.1 hw with rfl | hw
        · exact hzx
        · exact hz w hw

theorem pairwise_sortedSet (xs : List String) : (sortedSet xs).Pairwise (· < ·) := by
  suffices ∀ acc : List String, acc.Pairwise (· < ·) →
      (xs.foldl (fun acc x => insertSorted x acc) acc).Pairwise (· < ·) from this [] List.Pairwise.nil
  induction xs with
  | nil => exact fun _ h => h
  | cons x xs ih => exact fun acc h => ih _ (pairwise_insertSorted x h)

theorem mem_sortedSet {x : String} {xs : List String} : x ∈ sortedSet xs ↔ x ∈ xs := by
  suffices ∀ acc : List String,
      x ∈ xs.foldl (fun acc x => insertSorted x acc) acc ↔ x ∈ acc ∨ x ∈ xs by
    simpa [sortedSet] using this []
  induction xs with
  | nil => simp
  | cons y xs ih =>
    intro acc
    simp only [List.foldl_cons, ih, mem_insertSorted, List.mem_cons]
    tauto

/-- A strictly increasing list is its own sorted set. -/
theorem sortedSet_eq_self {xs : List String} (h : xs.Pairwise (· < ·)) : sortedSet xs = xs := by
  have hnodup : (sortedSet xs).Nodup := (pairwise_sortedSet xs).nodup
  refine List.Perm.eq_of_pairwise (fun a b _ _ hab hba => absurd (lt_trans hab hba) (lt_irrefl a))
    (pairwise_sortedSet xs) h ?_
  exact (List.perm_ext_iff_of_nodup hnodup h.nodup).2 fun a => mem_sortedSet

theorem sortedSet_ne_nil {xs : List String} (h : xs ≠ []) : sortedSet xs ≠ [] := by
  obtain ⟨x, hx⟩ := List.exists_mem_of_ne_nil xs h
  exact List.ne_nil_of_mem (mem_sortedSet.2 hx)

/-! ## Values -/

namespace Value

/-- A character a set's texts may hold: none that is blank, that starts a spec token, or that
separates texts. -/
def isPieceChar (c : Char) : Bool := !Text.isBlank c && !Spec.isSigil c && c != ','

/-- A value as reading and narrowing make it: a flag, or a strictly increasing set of texts that
is not empty and whose texts hold only piece characters. -/
inductive WellFormed : Value → Prop
  | flag (b : Bool) : WellFormed (.flag b)
  | texts {vs : List String} : vs ≠ [] → vs.Pairwise (· < ·) →
      (∀ w ∈ vs, ∀ c ∈ w.toList, isPieceChar c = true) → WellFormed (.texts vs)

theorem ofTexts_wellFormed {xs : List String} (hne : xs ≠ [])
    (hc : ∀ w ∈ xs, ∀ c ∈ w.toList, isPieceChar c = true) : (ofTexts xs).WellFormed :=
  .texts (sortedSet_ne_nil hne) (pairwise_sortedSet xs) fun w hw => hc w (mem_sortedSet.1 hw)

/-- Reading a value from a word, a text with no blank and no token character, makes a
well-formed value. -/
theorem parse_wellFormed (s : String)
    (hs : ∀ c ∈ s.toList, Text.isBlank c = false ∧ Spec.isSigil c = false) :
    (Value.parse s).WellFormed := by
  unfold Value.parse
  dsimp only
  split
  · exact .flag true
  · split
    · exact .flag false
    · refine ofTexts_wellFormed (by simpa using Text.split_ne_nil ',' _) ?_
      intro w hw c hc
      obtain ⟨p, hp, rfl⟩ := List.mem_map.1 hw
      obtain ⟨hct, hcomma⟩ := Text.mem_of_mem_split hp (Text.mem_of_mem_trim hc)
      obtain ⟨hb, hsig⟩ := hs c (Text.mem_of_mem_trim hct)
      simp [isPieceChar, hb, hsig, hcomma]

/-- A set holding one text that spells `true` or `false`, in any case: its text reads back as a
flag. -/
def IsFlagWord : Value → Prop
  | .texts [w] => spells w "true" = true ∨ spells w "false" = true
  | _ => False

theorem spells_eq_false_of_comma {s : String} (word : String) (hs : ',' ∈ s.toList)
    (hw : ',' ∉ word.toList) : spells s word = false := by
  unfold spells
  rw [beq_eq_false_iff_ne]
  intro he
  exact hw (he ▸ List.mem_map.2 ⟨',', hs, rfl⟩)

/-- A well-formed value is read back from its text, unless it is a flag word. -/
theorem parse_text_eq_self_iff {v : Value} (h : v.WellFormed) :
    Value.parse v.text = v ↔ ¬ v.IsFlagWord := by
  cases v with
  | flag b => cases b <;> simp only [IsFlagWord, not_false_eq_true, iff_true] <;> decide
  | texts vs =>
    cases h with | texts hne hsorted hchars => ?_
    have hpiece : ∀ w ∈ vs, ∀ c ∈ w.toList, Text.isBlank c = false ∧ c ≠ ',' := by
      intro w hw c hc
      have := hchars w hw c hc
      simp only [isPieceChar, Bool.and_eq_true, Bool.not_eq_true', bne_iff_ne, ne_eq] at this
      exact ⟨this.1.1, this.2⟩
    -- the text has no blank to trim and splits at commas into the texts
    have htrim : Text.trim (texts vs).text = (texts vs).text := by
      refine Text.trim_of_not_blank fun c hc => ?_
      rcases Text.mem_intercalate hc with hc | ⟨w, hw, hc⟩
      · rw [show ",".toList = [','] from rfl, List.mem_singleton] at hc
        subst hc
        decide
      · exact (hpiece w hw c hc).1
    have hsplit : (Text.split ',' (texts vs).text).map Text.trim = vs := by
      rw [text, Text.split_intercalate rfl (fun w hw hc => (hpiece w hw ',' hc).2 rfl) hne]
      exact List.map_congr_left (fun w hw => Text.trim_of_not_blank fun c hc =>
        (hpiece w hw c hc).1) |>.trans (List.map_id vs)
    have hset : ofTexts vs = texts vs := by rw [ofTexts, sortedSet_eq_self hsorted]
    match vs, hne with
    | [w], _ =>
      simp only [Value.parse, htrim, hsplit, hset, IsFlagWord]
      by_cases ht : spells (texts [w]).text "true" = true <;>
        by_cases hf : spells (texts [w]).text "false" = true <;>
        simp_all [text]
    | w₁ :: w₂ :: rest, _ =>
      -- two texts or more are joined by a comma, which spells no flag
      have hcomma : ',' ∈ (texts (w₁ :: w₂ :: rest)).text.toList := by
        simp [text, String.toList_intercalate]
      simp only [Value.parse, htrim, hsplit, hset, IsFlagWord,
        spells_eq_false_of_comma "true" hcomma (by decide),
        spells_eq_false_of_comma "false" hcomma (by decide), Bool.false_eq_true, if_false,
        not_false_eq_true]

theorem ofTexts_append_wellFormed {l r : List String} (hl : (texts l).WellFormed)
    (hr : (texts r).WellFormed) : (ofTexts (l ++ r)).WellFormed := by
  cases hl with | texts hl _ hlc => ?_
  cases hr with | texts _ _ hrc => ?_
  refine ofTexts_wellFormed (by simp [hl]) fun w hw => ?_
  rcases List.mem_append.1 hw with hw | hw
  · exact hlc w hw
  · exact hrc w hw

end Value

/-! ## Settings -/

namespace Setting

/-- A setting as reading and narrowing make it: a name of name characters, not empty, and a
well-formed value. -/
structure WellFormed (s : Setting) : Prop where
  name_ne : s.name ≠ ""
  name_chars : ∀ c ∈ s.name.toList, Spec.isNameChar c = true
  value : s.value.WellFormed

/-- Constraining a setting keeps its name and, between well-formed settings, keeps it
well formed. -/
theorem constrain_wellFormed {s o s' : Setting} {ch : Bool} (hs : s.WellFormed)
    (ho : o.WellFormed) (h : s.constrain o = .ok (s', ch)) : s'.name = s.name ∧ s'.WellFormed := by
  unfold constrain at h
  split at h
  · split at h
    · cases h; exact ⟨rfl, hs⟩
    · cases h
  · cases h
    refine ⟨rfl, hs.name_ne, hs.name_chars, ?_⟩
    exact Value.ofTexts_append_wellFormed (‹s.value = _› ▸ hs.value) (‹o.value = _› ▸ ho.value)
  · cases h

end Setting

namespace Settings

/-- Entries strictly increasing by name. -/
def NamesAscend (es : List Setting) : Prop := es.Pairwise fun a b => a.name < b.name

theorem mem_put {s t : Setting} {es : List Setting} (h : t ∈ put s es) : t = s ∨ t ∈ es := by
  induction es with
  | nil => simpa [put] using h
  | cons e es ih =>
    unfold put at h
    split at h
    · simpa using h
    · split at h
      · rcases List.mem_cons.1 h with h | h
        · exact Or.inl h
        · exact Or.inr (List.mem_cons_of_mem _ h)
      · rcases List.mem_cons.1 h with rfl | h
        · exact Or.inr List.mem_cons_self
        · rcases ih h with h | h
          · exact Or.inl h
          · exact Or.inr (List.mem_cons_of_mem _ h)

theorem namesAscend_put (s : Setting) {es : List Setting} (h : NamesAscend es) :
    NamesAscend (put s es) := by
  induction es with
  | nil => simp [put, NamesAscend]
  | cons e es ih =>
    obtain ⟨he, hes⟩ := List.pairwise_cons.1 h
    unfold put
    split
    · refine List.pairwise_cons.2 ⟨fun t ht => ?_, h⟩
      rcases List.mem_cons.1 ht with rfl | ht
      · assumption
      · exact lt_trans ‹s.name < e.name› (he t ht)
    · split
      · -- the setting takes the place of the one with its name
        rename_i hname
        rw [beq_iff_eq] at hname
        exact List.pairwise_cons.2 ⟨fun t ht => hname ▸ he t ht, hes⟩
      · have hes' : e.name < s.name := lt_of_le_of_ne (not_lt.1 ‹¬s.name < e.name›)
          fun h => by simp_all
        refine List.pairwise_cons.2 ⟨fun t ht => ?_, ih hes⟩
        rcases mem_put ht with rfl | ht
        · exact hes'
        · exact he t ht

/-- A setting of a new name is inserted, and nothing is replaced. -/
theorem put_perm {s : Setting} {es : List Setting} (h : ∀ t ∈ es, t.name ≠ s.name) :
    (put s es).Perm (s :: es) := by
  induction es with
  | nil => simp [put]
  | cons e es ih =>
    unfold put
    split
    · exact List.Perm.refl _
    · split
      · rename_i hname
        exact absurd (beq_iff_eq.1 hname).symm (h e List.mem_cons_self)
      · exact ((ih fun t ht => h t (List.mem_cons_of_mem _ ht)).cons e).trans (List.Perm.swap _ _ _)

/-- Settings as reading and narrowing make them: strictly increasing by name, each well
formed. -/
structure WellFormed (m : Settings) : Prop where
  ascend : NamesAscend m.entries
  settings : ∀ s ∈ m.entries, s.WellFormed

theorem wellFormed_empty : (({} : Settings)).WellFormed := ⟨List.Pairwise.nil, by simp⟩

theorem contains_eq_false {m : Settings} {n : String} (h : m.contains n = false) :
    ∀ t ∈ m.entries, t.name ≠ n := by
  simpa [contains] using h

/-- Inserting a setting for a new variant puts it among the others. -/
theorem insert_eq_ok {m m' : Settings} {s : Setting} (h : m.insert s = .ok m') :
    m'.entries = put s m.entries ∧ ∀ t ∈ m.entries, t.name ≠ s.name := by
  unfold insert at h
  split at h
  · cases h
  · next hc =>
    cases h
    exact ⟨rfl, contains_eq_false (by simpa using hc)⟩

theorem insert_wellFormed {m m' : Settings} {s : Setting} (hm : m.WellFormed)
    (hs : s.WellFormed) (h : m.insert s = .ok m') : m'.WellFormed := by
  obtain ⟨he, -⟩ := insert_eq_ok h
  refine ⟨he ▸ namesAscend_put s hm.ascend, fun t ht => ?_⟩
  rcases mem_put (he ▸ ht) with rfl | ht
  · exact hs
  · exact hm.settings t ht

theorem mergeOne_wellFormed {es es' : List Setting} {ch ch' : Bool} {v : Setting}
    (hes : NamesAscend es) (hall : ∀ t ∈ es, t.WellFormed) (hv : v.WellFormed)
    (h : mergeOne (es, ch) v = .ok (es', ch')) : NamesAscend es' ∧ ∀ t ∈ es', t.WellFormed := by
  unfold mergeOne at h
  dsimp only at h
  split at h
  · rename_i e he
    split at h
    · cases h
    · obtain ⟨⟨e', ch''⟩, hc, h⟩ := except_bind_eq_ok.1 h
      cases h
      have he' := Setting.constrain_wellFormed (hall e (List.mem_of_find?_eq_some he)) hv hc
      refine ⟨namesAscend_put _ hes, fun t ht => ?_⟩
      rcases mem_put ht with rfl | ht
      · exact he'.2
      · exact hall t ht
  · cases h
    refine ⟨namesAscend_put _ hes, fun t ht => ?_⟩
    rcases mem_put ht with rfl | ht
    · exact hv
    · exact hall t ht

/-- Constraining well-formed settings makes well-formed ones. -/
theorem constrain_wellFormed {m o m' : Settings} {oc ch : Bool} (hm : m.WellFormed)
    (ho : o.WellFormed) (h : m.constrain o oc = .ok (m', ch)) : m'.WellFormed := by
  -- the settings come from folding the other's settings in; the check of a complete other
  -- only decides whether to fail
  have hfold : ∃ es, o.entries.foldlM mergeOne (m.entries, false) = .ok (es, ch) ∧
      m' = ⟨es⟩ := by
    unfold constrain at h
    dsimp only at h
    have hrest : (o.entries.foldlM mergeOne (m.entries, false) >>= fun x =>
        (pure (⟨x.1⟩, x.2) : Except Error (Settings × Bool))) = .ok (m', ch) →
        ∃ es, o.entries.foldlM mergeOne (m.entries, false) = .ok (es, ch) ∧ m' = ⟨es⟩ := by
      intro hr
      obtain ⟨⟨es, changed⟩, hes, hr⟩ := except_bind_eq_ok.1 hr
      cases hr
      exact ⟨es, hes, rfl⟩
    split at h
    · split at h
      · simp [throw, throwThe, MonadExceptOf.throw, bind, Except.bind] at h
      · exact hrest h
    · exact hrest h
  obtain ⟨es, hes, rfl⟩ := hfold
  have := foldlM_ok_induct (fun _ acc => NamesAscend acc.1 ∧ ∀ t ∈ acc.1, t.WellFormed)
    ⟨hm.ascend, hm.settings⟩ (fun pre v acc acc' hpre hacc hstep =>
      mergeOne_wellFormed hacc.1 hacc.2 (ho.settings v (hpre.subset (by simp))) hstep) hes
  exact ⟨this.1, this.2⟩

end Settings

end BuildSpec.Variant
