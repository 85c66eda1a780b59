import BuildSpec.Proofs.Variant.Legal

/-!
# Merging variant settings

Constraining a setting by another of its variant merges their values when they are compatible,
two sets or two equal flags (`Value.Compatible`): two sets merge into the sorted set of the
texts of both, and a flag stays as it is (`Value.union`).

Constraining settings by other settings does this variant by variant, so the value a variant
ends with is read off the two values the sides give it (`value?_constrain`), and constraining
succeeds exactly when no variant is given incompatible values by the two sides
(`constrain_isOk_iff`). Settings in name order are determined by these values (`ext_value?`),
which makes constraining commutative and associative (`constrain_comm`, `constrain_assoc`).
The merged settings satisfy both sides (`satisfies_constrain_left`,
`satisfies_constrain_right`); a side that loosely satisfies the other merges with it
(`constrain_isOk_of_satisfies`); and constraining settings by settings they already absorb
changes nothing (`constrain_of_absorbs`), which is where one constrain by the same settings
leaves them (`absorbs_constrain`).
-/

namespace BuildSpec

/-- A merge that reports whether it changed something, read as a partial operation: it gives a
result exactly when the merge succeeds. -/
theorem map_fst_toOption_eq_some {ε α : Type} {x : Except ε (α × Bool)} {a : α} :
    x.toOption.map Prod.fst = some a ↔ ∃ ch, x = .ok (a, ch) := by
  cases x with
  | error e => simp [Except.toOption]
  | ok r =>
    obtain ⟨b, ch⟩ := r
    simp [Except.toOption, eq_comm]

namespace Variant

/-- Lists holding the same texts have one sorted set. -/
theorem sortedSet_congr {xs ys : List String} (h : ∀ x, x ∈ xs ↔ x ∈ ys) :
    sortedSet xs = sortedSet ys := by
  refine List.Perm.eq_of_pairwise (fun a b _ _ hab hba => absurd (lt_trans hab hba) (lt_irrefl a))
    (pairwise_sortedSet xs) (pairwise_sortedSet ys) ?_
  refine (List.perm_ext_iff_of_nodup (pairwise_sortedSet xs).nodup
    (pairwise_sortedSet ys).nodup).2 fun a => ?_
  rw [mem_sortedSet, mem_sortedSet, h]

/-! ## Merging values -/

namespace Value

/-- What two values merge into: the set of the texts of two sets, and otherwise the first value
(of two compatible flags, either). -/
def union : Value → Value → Value
  | .texts l, .texts r => ofTexts (l ++ r)
  | v, _ => v

/-- Values that merge: two sets, or two equal flags. -/
def Compatible : Value → Value → Prop
  | .texts _, .texts _ => True
  | .flag a, .flag b => a = b
  | _, _ => False

/-- Optional values that do not clash: compatible wherever both are given. -/
def Agree (a b : Option Value) : Prop := ∀ x ∈ a, ∀ y ∈ b, x.Compatible y

variable {a b c : Value}

theorem Compatible.refl (v : Value) : v.Compatible v := by
  cases v <;> simp [Compatible]

theorem Compatible.symm (h : a.Compatible b) : b.Compatible a := by
  cases a <;> cases b <;> simp_all [Compatible]

theorem Compatible.trans (hab : a.Compatible b) (hbc : b.Compatible c) : a.Compatible c := by
  cases a <;> cases b <;> cases c <;> simp_all [Compatible]

theorem compatible_union_left (hab : a.Compatible b) : (a.union b).Compatible c ↔ a.Compatible c := by
  cases a <;> cases b <;> cases c <;> simp_all [Compatible, union, ofTexts]

theorem compatible_union_right (hbc : b.Compatible c) : a.Compatible (b.union c) ↔ a.Compatible b := by
  cases a <;> cases b <;> cases c <;> simp_all [Compatible, union, ofTexts]

theorem union_comm (h : a.Compatible b) : a.union b = b.union a := by
  cases a <;> cases b <;> simp_all only [Compatible, union, ofTexts]
  exact congrArg texts (sortedSet_congr fun x => by simp [or_comm])

theorem union_assoc (hab : a.Compatible b) (hbc : b.Compatible c) :
    (a.union b).union c = a.union (b.union c) := by
  cases a <;> cases b <;> cases c <;> simp_all only [Compatible, union, ofTexts]
  exact congrArg texts (sortedSet_congr fun x => by simp [mem_sortedSet, or_assoc])

/-- Merging a value again into a merge of it changes nothing. -/
theorem union_union_right (h : a.Compatible b) : (a.union b).union b = a.union b := by
  cases a <;> cases b <;> simp_all only [Compatible, union, ofTexts]
  exact congrArg texts (sortedSet_congr fun x => by simp [mem_sortedSet])

/-- A well-formed value merged with itself is itself: a set's texts are already sorted. -/
theorem union_self (h : a.WellFormed) : a.union a = a := by
  cases h with
  | flag => rfl
  | @texts vs _ hsorted _ =>
    have hset : sortedSet (vs ++ vs) = sortedSet vs := sortedSet_congr fun x => by simp
    simp only [union, ofTexts, hset, sortedSet_eq_self hsorted]

theorem Agree.symm {a b : Option Value} (h : Agree a b) : Agree b a :=
  fun y hy x hx => (h x hx y hy).symm

theorem merge_union_comm {a b : Option Value} (h : Agree a b) :
    a.merge union b = b.merge union a := by
  cases a <;> cases b <;> simp only [Option.merge_none_left, Option.merge_none_right,
    Option.merge_some_some]
  exact congrArg some (union_comm (h _ rfl _ rfl))

theorem merge_union_assoc {a b c : Option Value} (hab : Agree a b) (hbc : Agree b c) :
    (a.merge union b).merge union c = a.merge union (b.merge union c) := by
  cases a <;> cases b <;> cases c <;> simp only [Option.merge_none_left, Option.merge_none_right,
    Option.merge_some_some]
  exact congrArg some (union_assoc (hab _ rfl _ rfl) (hbc _ rfl _ rfl))

/-- Two merges in a row meet no clash exactly when the values pairwise agree, in whichever order
they are merged. -/
theorem agree_merge_assoc {a b c : Option Value} :
    Agree a b ∧ Agree (a.merge union b) c ↔ Agree b c ∧ Agree a (b.merge union c) := by
  cases a <;> cases b <;> cases c <;> simp [Agree]
  rename_i x y z
  constructor
  · rintro ⟨hxy, hxyz⟩
    have hxz := (compatible_union_left hxy).1 hxyz
    exact ⟨hxy.symm.trans hxz, (compatible_union_right (hxy.symm.trans hxz)).2 hxy⟩
  · rintro ⟨hyz, hxyz⟩
    have hxy := (compatible_union_right hyz).1 hxyz
    exact ⟨hxy, (compatible_union_left hxy).2 (hxy.trans hyz)⟩

end Value

/-! ## Merging settings of one variant -/

namespace Setting

variable {s o s' : Setting} {ch : Bool}

theorem compatible_iff : s.compatible o = true ↔ s.value.Compatible o.value := by
  obtain ⟨n, a⟩ := s
  obtain ⟨m, b⟩ := o
  cases a <;> cases b <;> simp [compatible, Value.Compatible, Value.isFlag]

/-- A successful constrain of a setting merges a compatible value into it. -/
theorem constrain_eq_ok (h : s.constrain o = .ok (s', ch)) :
    s.value.Compatible o.value ∧ s' = { s with value := s.value.union o.value } := by
  obtain ⟨n, a⟩ := s
  obtain ⟨m, b⟩ := o
  cases a <;> cases b <;> simp_all [constrain, Value.Compatible, Value.union]
  rename_i x y
  by_cases hxy : x = y <;> simp_all

theorem constrain_isOk (h : s.value.Compatible o.value) :
    ∃ ch, s.constrain o = .ok ({ s with value := s.value.union o.value }, ch) := by
  obtain ⟨n, a⟩ := s
  obtain ⟨m, b⟩ := o
  cases a <;> cases b <;> simp_all [constrain, Value.Compatible, Value.union]

/-- Constraining a setting by one it already absorbs leaves it, and says it did not change. -/
theorem constrain_of_union_eq (h : s.value.Compatible o.value)
    (hu : s.value.union o.value = s.value) : s.constrain o = .ok (s, false) := by
  obtain ⟨n, a⟩ := s
  obtain ⟨m, b⟩ := o
  cases a <;> cases b <;> simp_all [constrain, Value.Compatible, Value.union]

theorem satisfies_refl (s : Setting) : s.satisfies s = true := by
  obtain ⟨n, a⟩ := s
  cases a <;> simp [satisfies]

theorem satisfies_trans {t u : Setting} (hst : s.satisfies t = true) (htu : t.satisfies u = true) :
    s.satisfies u = true := by
  obtain ⟨n, a⟩ := s
  obtain ⟨m, b⟩ := t
  obtain ⟨k, c⟩ := u
  -- the sets case: every text of `u` is in `t`, hence in `s`
  cases a <;> cases b <;> cases c <;> simp_all [satisfies]

theorem compatible_of_satisfies (h : s.satisfies o = true) : s.value.Compatible o.value := by
  obtain ⟨n, a⟩ := s
  obtain ⟨m, b⟩ := o
  cases a <;> cases b <;> simp_all [satisfies, Value.Compatible]

variable {a b : Value}

/-- A merged value holds the first one merged. -/
theorem satisfies_union_left (n m : String) (h : a.Compatible b) :
    satisfies ⟨n, a.union b⟩ ⟨m, a⟩ = true := by
  cases a <;> cases b <;> simp_all [satisfies, Value.Compatible, Value.union, Value.ofTexts,
    mem_sortedSet]

/-- A merged value holds the second one merged. -/
theorem satisfies_union_right (n m : String) (h : a.Compatible b) :
    satisfies ⟨n, a.union b⟩ ⟨m, b⟩ = true := by
  cases a <;> cases b <;> simp_all [satisfies, Value.Compatible, Value.union, Value.ofTexts,
    mem_sortedSet]

end Setting

/-! ## The values settings give -/

namespace Settings

/-- The value the settings give a variant, if they set it. -/
def value? (m : Settings) (n : String) : Option Value := (m.get? n).map (·.value)

variable {es es' : List Setting} {s v : Setting} {n : String}

theorem value?_nil : value? ⟨[]⟩ n = none := rfl

theorem value?_cons : value? ⟨s :: es⟩ n = if s.name = n then some s.value else value? ⟨es⟩ n := by
  by_cases h : s.name = n <;> simp [value?, get?, h]

theorem find?_of_mem (h : NamesAscend es) (hs : s ∈ es) : es.find? (·.name == s.name) = some s := by
  induction es with
  | nil => cases hs
  | cons t ts ih =>
    obtain ⟨ht, hts⟩ := List.pairwise_cons.1 h
    rcases List.mem_cons.1 hs with rfl | hs
    · simp
    · have hne : t.name ≠ s.name := ne_of_lt (ht s hs)
      simp [hne, ih hts hs]

theorem value?_of_mem (h : NamesAscend es) (hs : s ∈ es) : value? ⟨es⟩ s.name = some s.value := by
  simp [value?, get?, find?_of_mem h hs]

theorem mem_of_value? {x : Value} (h : value? ⟨es⟩ n = some x) : ⟨n, x⟩ ∈ es := by
  obtain ⟨t, ht, rfl⟩ := Option.map_eq_some_iff.1 h
  obtain rfl := name_of_find? ht
  exact List.mem_of_find?_eq_some ht

/-- A variant set at the head of settings in name order is set nowhere after it. -/
theorem value?_tail_eq_none (h : NamesAscend (s :: es)) : value? ⟨es⟩ s.name = none := by
  have hlt := (List.pairwise_cons.1 h).1
  simp only [value?, get?, Option.map_eq_none_iff, List.find?_eq_none, beq_iff_eq]
  exact fun t ht he => lt_irrefl _ (he ▸ hlt t ht)

theorem names_nodup (h : NamesAscend es) : es.Nodup :=
  h.imp fun {a b} hab (he : a = b) => by subst he; exact lt_irrefl _ hab

/-- Settings in name order are determined by the values they give. -/
theorem ext_value? {m m' : Settings} (hm : NamesAscend m.entries) (hm' : NamesAscend m'.entries)
    (h : ∀ n, m.value? n = m'.value? n) : m = m' := by
  have hsub : ∀ {x y : Settings}, NamesAscend x.entries → (∀ n, x.value? n = y.value? n) →
      ∀ s ∈ x.entries, s ∈ y.entries := by
    intro x y hx hxy s hs
    exact mem_of_value? ((hxy s.name).symm.trans (value?_of_mem hx hs))
  obtain ⟨es⟩ := m
  obtain ⟨es'⟩ := m'
  congr 1
  refine List.Perm.eq_of_pairwise (fun a b _ _ hab hba => absurd (lt_trans hab hba) (lt_irrefl _))
    hm hm' ((List.perm_ext_iff_of_nodup (names_nodup hm) (names_nodup hm')).2 fun s => ?_)
  exact ⟨hsub hm h s, hsub hm' (fun n => (h n).symm) s⟩

theorem find?_put_self (s : Setting) : ∀ es : List Setting, (put s es).find? (·.name == s.name) = some s
  | [] => by simp [put]
  | t :: ts => by
    unfold put
    split_ifs with hlt heq
    · simp
    · simp
    · have hne : t.name ≠ s.name := fun h => heq (by simp [h])
      simp [hne, find?_put_self s ts]

theorem value?_put : value? ⟨put s es⟩ n = if s.name = n then some s.value else value? ⟨es⟩ n := by
  by_cases h : s.name = n
  · subst h
    simp [value?, get?, find?_put_self]
  · simp [value?, get?, find?_put_of_ne h, h]

/-- Putting a setting that is already there changes nothing. -/
theorem put_eq_self (h : NamesAscend es) (hs : s ∈ es) : put s es = es := by
  induction es with
  | nil => cases hs
  | cons t ts ih =>
    obtain ⟨ht, hts⟩ := List.pairwise_cons.1 h
    rcases List.mem_cons.1 hs with rfl | hs
    · simp [put]
    · have hlt := ht s hs
      have hnlt : ¬ s.name < t.name := fun h' => lt_irrefl _ (lt_trans h' hlt)
      have hne : (s.name == t.name) = false := by simpa using (ne_of_lt hlt).symm
      simp [put, hnlt, hne, ih hts hs]

/-! ## Merging one setting -/

variable {ch ch' : Bool}

/-- One step of constraining: a setting merges into the one of its variant, with which it must
agree, or is added. -/
theorem mergeOne_eq_ok (h : mergeOne (es, ch) v = .ok (es', ch')) :
    Value.Agree (value? ⟨es⟩ v.name) (some v.value) ∧ (NamesAscend es → NamesAscend es') ∧
      ∀ n, value? ⟨es'⟩ n = (value? ⟨es⟩ n).merge Value.union (value? ⟨[v]⟩ n) := by
  unfold mergeOne at h
  dsimp only at h
  split at h
  · next e he =>
    have hname := name_of_find? he
    have hval : value? ⟨es⟩ v.name = some e.value := by simp [value?, get?, he]
    split at h
    · cases h
    · obtain ⟨⟨e', ch''⟩, hce, h⟩ := except_bind_eq_ok.1 h
      obtain ⟨rfl, -⟩ := Prod.mk.inj (except_pure_eq_ok.1 h)
      obtain ⟨hcomp, rfl⟩ := Setting.constrain_eq_ok hce
      refine ⟨?_, namesAscend_put _, fun n => ?_⟩
      · rw [hval]
        intro x hx y hy
        rw [Option.mem_some_iff] at hx hy
        subst hx hy
        exact hcomp
      · rw [value?_put, value?_cons, value?_nil]
        by_cases hn : v.name = n
        · subst hn
          simp [hname, hval]
        · simp [hname, hn]
  · next hnone =>
    obtain ⟨rfl, -⟩ := Prod.mk.inj (Except.ok.inj h)
    have hval : value? ⟨es⟩ v.name = none := by simp [value?, get?, hnone]
    refine ⟨by rw [hval]; rintro x ⟨⟩, namesAscend_put _, fun n => ?_⟩
    rw [value?_put, value?_cons, value?_nil]
    by_cases hn : v.name = n
    · subst hn
      simp [hval]
    · simp [hn]

/-- A setting that agrees with the one of its variant merges into the entries. -/
theorem mergeOne_isOk (h : Value.Agree (value? ⟨es⟩ v.name) (some v.value)) :
    ∃ r, mergeOne (es, ch) v = .ok r := by
  unfold mergeOne
  dsimp only
  split
  · next e he =>
    have hval : value? ⟨es⟩ v.name = some e.value := by simp [value?, get?, he]
    have hcomp : e.value.Compatible v.value := h e.value (hval ▸ rfl) v.value rfl
    obtain ⟨ch'', hce⟩ := Setting.constrain_isOk hcomp
    rw [if_neg (by simpa using Setting.compatible_iff.2 hcomp), hce]
    exact ⟨_, rfl⟩
  · exact ⟨_, rfl⟩

/-- Merging a setting the entries already absorb changes nothing. -/
theorem mergeOne_of_absorbs (hes : NamesAscend es) {x : Value} (hx : value? ⟨es⟩ v.name = some x)
    (hc : x.Compatible v.value) (hu : x.union v.value = x) : mergeOne (es, ch) v = .ok (es, ch) := by
  obtain ⟨e, he, rfl⟩ := Option.map_eq_some_iff.1 hx
  unfold mergeOne
  dsimp only
  rw [show es.find? (·.name == v.name) = some e from he]
  dsimp only
  rw [if_neg (by simpa using Setting.compatible_iff.2 hc), Setting.constrain_of_union_eq hc hu]
  simp [put_eq_self hes (List.mem_of_find?_eq_some he), bind, Except.bind, pure, Except.pure]

/-! ## Constraining settings by settings -/

theorem get?_of_value? {m : Settings} {x : Value} (h : m.value? n = some x) :
    m.get? n = some ⟨n, x⟩ := by
  obtain ⟨t, ht, rfl⟩ := Option.map_eq_some_iff.1 h
  obtain rfl := name_of_find? ht
  exact ht

/-- The run of the merges: the entries end with the merge of the values that they and the
merged settings give each variant. -/
theorem foldlM_mergeOne_eq_ok : ∀ {os es es' : List Setting} {ch ch' : Bool}, NamesAscend os →
    os.foldlM mergeOne (es, ch) = .ok (es', ch') →
    (NamesAscend es → NamesAscend es') ∧
      ∀ n, value? ⟨es'⟩ n = (value? ⟨es⟩ n).merge Value.union (value? ⟨os⟩ n)
  | [], es, es', ch, ch', _, h => by
    obtain ⟨rfl, -⟩ := Prod.mk.inj (Except.ok.inj h)
    exact ⟨id, fun n => by simp [value?_nil]⟩
  | v :: os, es, es', ch, ch', hos, h => by
    rw [List.foldlM_cons] at h
    obtain ⟨⟨es₁, ch₁⟩, h₁, h⟩ := except_bind_eq_ok.1 h
    obtain ⟨-, hasc₁, hval₁⟩ := mergeOne_eq_ok h₁
    obtain ⟨hasc, hval⟩ := foldlM_mergeOne_eq_ok (List.pairwise_cons.1 hos).2 h
    refine ⟨fun hes => hasc (hasc₁ hes), fun n => ?_⟩
    rw [hval, hval₁, value?_cons, value?_cons, value?_nil]
    -- the variant of `v` is set by no later setting
    by_cases hn : v.name = n
    · subst hn
      simp [value?_tail_eq_none hos]
    · simp [hn]

/-- The merges all succeed exactly when the entries agree with the merged settings on every
variant; each merge touches only its own variant, which no later setting sets again. -/
theorem foldlM_mergeOne_isOk_iff : ∀ {os es : List Setting} {ch : Bool}, NamesAscend os →
    ((∃ r, os.foldlM mergeOne (es, ch) = .ok r) ↔
      ∀ n, Value.Agree (value? ⟨es⟩ n) (value? ⟨os⟩ n))
  | [], es, ch, _ => by simp [value?_nil, Value.Agree, pure, Except.pure]
  | v :: os, es, ch, hos => by
    have hos' := (List.pairwise_cons.1 hos).2
    have hnone := value?_tail_eq_none hos
    rw [List.foldlM_cons]
    constructor
    · rintro ⟨r, h⟩
      obtain ⟨⟨es₁, ch₁⟩, h₁, h⟩ := except_bind_eq_ok.1 h
      obtain ⟨hagree, -, hval₁⟩ := mergeOne_eq_ok h₁
      have hrest := (foldlM_mergeOne_isOk_iff hos').1 ⟨r, h⟩
      intro n
      rw [value?_cons]
      by_cases hn : v.name = n
      · subst hn
        simpa using hagree
      · have := hrest n
        rw [hval₁, value?_cons, value?_nil, if_neg hn, Option.merge_none_right] at this
        simpa [hn] using this
    · intro h
      obtain ⟨⟨es₁, ch₁⟩, h₁⟩ : ∃ r, mergeOne (es, ch) v = .ok r :=
        mergeOne_isOk (by simpa [value?_cons] using h v.name)
      obtain ⟨-, -, hval₁⟩ := mergeOne_eq_ok h₁
      have hrest : ∀ n, Value.Agree (value? ⟨es₁⟩ n) (value? ⟨os⟩ n) := by
        intro n
        by_cases hn : v.name = n
        · subst hn
          rw [hnone]
          intro _ _ _ hy
          cases hy
        · have := h n
          rw [value?_cons, if_neg hn] at this
          rwa [hval₁, value?_cons, value?_nil, if_neg hn, Option.merge_none_right]
      obtain ⟨r, hr⟩ := (foldlM_mergeOne_isOk_iff hos').2 hrest
      exact ⟨r, except_bind_eq_ok.2 ⟨_, h₁, hr⟩⟩

variable {m o p r : Settings}

theorem constrain_false_eq_ok_iff {m' : Settings} :
    m.constrain o false = .ok (m', ch) ↔
      o.entries.foldlM mergeOne (m.entries, false) = .ok (m'.entries, ch) := by
  simp only [constrain]
  cases o.entries.foldlM mergeOne (m.entries, false) with
  | error e => simp [bind, Except.bind]
  | ok r =>
    obtain ⟨es, c⟩ := r
    obtain ⟨es'⟩ := m'
    simp [bind, Except.bind, pure, Except.pure]

/-- Constraining settings by settings in name order gives each variant the merge of the values
the two give it, and keeps the settings in name order. -/
theorem value?_constrain (hm : NamesAscend m.entries) (ho : NamesAscend o.entries) {m' : Settings}
    (h : m.constrain o false = .ok (m', ch)) :
    NamesAscend m'.entries ∧ ∀ n, m'.value? n = (m.value? n).merge Value.union (o.value? n) := by
  obtain ⟨hasc, hval⟩ := foldlM_mergeOne_eq_ok ho (constrain_false_eq_ok_iff.1 h)
  exact ⟨hasc hm, hval⟩

/-- Constraining succeeds exactly when no variant is given incompatible values by the two
sides. -/
theorem constrain_isOk_iff (ho : NamesAscend o.entries) :
    (∃ r, m.constrain o false = .ok r) ↔ ∀ n, Value.Agree (m.value? n) (o.value? n) := by
  rw [← foldlM_mergeOne_isOk_iff ho]
  constructor
  · rintro ⟨⟨m', ch⟩, h⟩
    exact ⟨_, constrain_false_eq_ok_iff.1 h⟩
  · rintro ⟨⟨es, ch⟩, h⟩
    exact ⟨(⟨es⟩, ch), constrain_false_eq_ok_iff.2 h⟩

/-- What constraining gives, read as a partial operation: the settings in name order that give
each variant the merge of the two values, when the two sides agree everywhere. -/
theorem constrain_eq_some_iff (hm : NamesAscend m.entries) (ho : NamesAscend o.entries) :
    (m.constrain o false).toOption.map Prod.fst = some r ↔
      NamesAscend r.entries ∧ ∀ n, Value.Agree (m.value? n) (o.value? n) ∧
        r.value? n = (m.value? n).merge Value.union (o.value? n) := by
  rw [map_fst_toOption_eq_some]
  constructor
  · rintro ⟨ch, h⟩
    obtain ⟨hasc, hval⟩ := value?_constrain hm ho h
    exact ⟨hasc, fun n => ⟨(constrain_isOk_iff ho).1 ⟨_, h⟩ n, hval n⟩⟩
  · rintro ⟨hr, hrn⟩
    obtain ⟨⟨r', ch⟩, h⟩ := (constrain_isOk_iff ho).2 fun n => (hrn n).1
    obtain ⟨hasc, hval⟩ := value?_constrain hm ho h
    -- the settings made are the ones given, having the same values
    obtain rfl : r' = r := ext_value? hasc hr fun n => (hval n).trans (hrn n).2.symm
    exact ⟨ch, h⟩

/-! ## Commutativity and associativity -/

/-- Constraining settings is commutative. -/
theorem constrain_comm (hm : NamesAscend m.entries) (ho : NamesAscend o.entries) :
    (m.constrain o false).toOption.map Prod.fst = (o.constrain m false).toOption.map Prod.fst := by
  refine Option.ext fun r => ?_
  rw [constrain_eq_some_iff hm ho, constrain_eq_some_iff ho hm]
  have key : ∀ {a b : Option Value} {x : Option Value},
      Value.Agree a b ∧ x = a.merge Value.union b → Value.Agree b a ∧ x = b.merge Value.union a :=
    fun ⟨h, hx⟩ => ⟨h.symm, hx.trans (Value.merge_union_comm h)⟩
  exact and_congr_right fun _ => forall_congr' fun _ => ⟨key, key⟩

/-- Constraining by two settings in turn, read as a partial operation. -/
theorem constrain_constrain_eq_some_iff (hm : NamesAscend m.entries) (ho : NamesAscend o.entries)
    (hp : NamesAscend p.entries) :
    ((m.constrain o false).toOption.map Prod.fst).bind
        (fun mo => (mo.constrain p false).toOption.map Prod.fst) = some r ↔
      NamesAscend r.entries ∧ ∀ n, (Value.Agree (m.value? n) (o.value? n) ∧
        Value.Agree ((m.value? n).merge Value.union (o.value? n)) (p.value? n)) ∧
        r.value? n = ((m.value? n).merge Value.union (o.value? n)).merge Value.union (p.value? n) := by
  rw [Option.bind_eq_some_iff]
  constructor
  · rintro ⟨mo, hmo, hr⟩
    obtain ⟨hasc, hmon⟩ := (constrain_eq_some_iff hm ho).1 hmo
    obtain ⟨hr, hrn⟩ := (constrain_eq_some_iff hasc hp).1 hr
    refine ⟨hr, fun n => ?_⟩
    rw [← (hmon n).2]
    exact ⟨⟨(hmon n).1, (hrn n).1⟩, (hrn n).2⟩
  · rintro ⟨hr, hrn⟩
    obtain ⟨⟨mo, ch⟩, h⟩ := (constrain_isOk_iff ho).2 fun n => (hrn n).1.1
    obtain ⟨hasc, hval⟩ := value?_constrain hm ho h
    refine ⟨mo, map_fst_toOption_eq_some.2 ⟨ch, h⟩, (constrain_eq_some_iff hasc hp).2 ⟨hr, fun n => ?_⟩⟩
    rw [hval n]
    exact ⟨(hrn n).1.2, (hrn n).2⟩

/-- Constraining by the merge of two settings, read as a partial operation. -/
theorem constrain_constrain_right_eq_some_iff (hm : NamesAscend m.entries)
    (ho : NamesAscend o.entries) (hp : NamesAscend p.entries) :
    ((o.constrain p false).toOption.map Prod.fst).bind
        (fun op => (m.constrain op false).toOption.map Prod.fst) = some r ↔
      NamesAscend r.entries ∧ ∀ n, (Value.Agree (o.value? n) (p.value? n) ∧
        Value.Agree (m.value? n) ((o.value? n).merge Value.union (p.value? n))) ∧
        r.value? n = (m.value? n).merge Value.union ((o.value? n).merge Value.union (p.value? n)) := by
  rw [Option.bind_eq_some_iff]
  constructor
  · rintro ⟨op, hop, hr⟩
    obtain ⟨hasc, hopn⟩ := (constrain_eq_some_iff ho hp).1 hop
    obtain ⟨hr, hrn⟩ := (constrain_eq_some_iff hm hasc).1 hr
    refine ⟨hr, fun n => ?_⟩
    rw [← (hopn n).2]
    exact ⟨⟨(hopn n).1, (hrn n).1⟩, (hrn n).2⟩
  · rintro ⟨hr, hrn⟩
    obtain ⟨⟨op, ch⟩, h⟩ := (constrain_isOk_iff hp).2 fun n => (hrn n).1.1
    obtain ⟨hasc, hval⟩ := value?_constrain ho hp h
    refine ⟨op, map_fst_toOption_eq_some.2 ⟨ch, h⟩, (constrain_eq_some_iff hm hasc).2 ⟨hr, fun n => ?_⟩⟩
    rw [hval n]
    exact ⟨(hrn n).1.2, (hrn n).2⟩

/-- Constraining settings is associative: constraining by two settings in turn fails exactly
when constraining by their merge does, and otherwise gives the same settings. -/
theorem constrain_assoc (hm : NamesAscend m.entries) (ho : NamesAscend o.entries)
    (hp : NamesAscend p.entries) :
    ((m.constrain o false).toOption.map Prod.fst).bind
        (fun mo => (mo.constrain p false).toOption.map Prod.fst) =
      ((o.constrain p false).toOption.map Prod.fst).bind
        (fun op => (m.constrain op false).toOption.map Prod.fst) := by
  refine Option.ext fun r => ?_
  rw [constrain_constrain_eq_some_iff hm ho hp, constrain_constrain_right_eq_some_iff hm ho hp]
  refine and_congr_right fun _ => forall_congr' fun _ => ⟨fun ⟨hagree, hval⟩ => ?_, fun ⟨hagree, hval⟩ => ?_⟩
  · have h' := Value.agree_merge_assoc.1 hagree
    exact ⟨h', hval.trans (Value.merge_union_assoc hagree.1 h'.1)⟩
  · have h' := Value.agree_merge_assoc.2 hagree
    exact ⟨h', hval.trans (Value.merge_union_assoc h'.1 hagree.1).symm⟩

/-! ## Satisfaction -/

theorem satisfies_true_iff :
    m.satisfies o true = true ↔ ∀ v ∈ o.entries, ∃ s, m.get? v.name = some s ∧ s.satisfies v = true := by
  simp only [satisfies, Bool.true_or, if_true, List.all_eq_true]
  refine forall₂_congr fun v _ => ?_
  cases m.get? v.name <;> simp

theorem satisfies_false_iff :
    m.satisfies o false = true ↔ ∀ v ∈ o.entries, m.contains v.name = true →
      ∃ s, m.get? v.name = some s ∧ s.satisfies v = true := by
  simp only [satisfies, Bool.false_or, List.all_eq_true]
  refine forall₂_congr fun v _ => ?_
  by_cases hc : m.contains v.name = true
  · simp only [hc, if_true, forall_const]
    cases m.get? v.name <;> simp
  · simp [hc]

/-- Settings in name order satisfy themselves. -/
theorem satisfies_self (hm : NamesAscend m.entries) : m.satisfies m true = true :=
  satisfies_true_iff.2 fun v hv => ⟨v, find?_of_mem hm hv, Setting.satisfies_refl v⟩

theorem satisfies_trans (h₁ : m.satisfies o true = true) (h₂ : o.satisfies p true = true) :
    m.satisfies p true = true := by
  rw [satisfies_true_iff] at *
  intro v hv
  obtain ⟨s, hs, hsv⟩ := h₂ v hv
  obtain ⟨t, ht, hts⟩ := h₁ s (List.mem_of_find?_eq_some hs)
  rw [name_of_find? hs] at ht
  exact ⟨t, ht, Setting.satisfies_trans hts hsv⟩

/-- Constrained settings satisfy the settings they started as. -/
theorem satisfies_constrain_left (hm : NamesAscend m.entries) (ho : NamesAscend o.entries)
    {m' : Settings} (h : m.constrain o false = .ok (m', ch)) : m'.satisfies m true = true := by
  obtain ⟨-, hval⟩ := value?_constrain hm ho h
  have hagree := (constrain_isOk_iff ho).1 ⟨_, h⟩
  refine satisfies_true_iff.2 fun v hv => ?_
  have hv' : m.value? v.name = some v.value := value?_of_mem hm hv
  have hn := hval v.name
  rw [hv'] at hn
  cases ho' : o.value? v.name with
  | none =>
    rw [ho', Option.merge_none_right] at hn
    exact ⟨_, get?_of_value? hn, Setting.satisfies_refl v⟩
  | some y =>
    rw [ho', Option.merge_some_some] at hn
    exact ⟨_, get?_of_value? hn, Setting.satisfies_union_left _ _ (hagree _ _ hv' _ ho')⟩

/-- Constrained settings satisfy the settings they were constrained by. -/
theorem satisfies_constrain_right (hm : NamesAscend m.entries) (ho : NamesAscend o.entries)
    {m' : Settings} (h : m.constrain o false = .ok (m', ch)) : m'.satisfies o true = true := by
  obtain ⟨-, hval⟩ := value?_constrain hm ho h
  have hagree := (constrain_isOk_iff ho).1 ⟨_, h⟩
  refine satisfies_true_iff.2 fun v hv => ?_
  have hv' : o.value? v.name = some v.value := value?_of_mem ho hv
  have hn := hval v.name
  rw [hv'] at hn
  cases hm' : m.value? v.name with
  | none =>
    rw [hm', Option.merge_none_left] at hn
    exact ⟨_, get?_of_value? hn, Setting.satisfies_refl v⟩
  | some x =>
    rw [hm', Option.merge_some_some] at hn
    exact ⟨_, get?_of_value? hn, Setting.satisfies_union_right _ _ (hagree _ _ hm' _ hv')⟩

theorem contains_of_value? {x : Value} (h : m.value? n = some x) : m.contains n = true := by
  obtain ⟨t, ht, -⟩ := Option.map_eq_some_iff.1 h
  exact List.any_eq_true.2 ⟨t, List.mem_of_find?_eq_some ht, by simpa using name_of_find? ht⟩

/-- Settings that loosely satisfy others merge with them. -/
theorem constrain_isOk_of_satisfies (ho : NamesAscend o.entries) (h : m.satisfies o false = true) :
    ∃ r, m.constrain o false = .ok r := by
  refine (constrain_isOk_iff ho).2 fun n x hx y hy => ?_
  obtain ⟨s, hs, hsat⟩ := satisfies_false_iff.1 h _ (mem_of_value? hy) (contains_of_value? hx)
  rw [get?_of_value? hx] at hs
  cases hs
  exact Setting.compatible_of_satisfies hsat

/-! ## Absorbed settings -/

/-- Settings absorb others when they set every variant the others set, to a value that merging
the other's value into leaves as it is. -/
def Absorbs (m o : Settings) : Prop :=
  ∀ n, ∀ y ∈ o.value? n, ∃ x, m.value? n = some x ∧ x.Compatible y ∧ x.union y = x

theorem foldlM_mergeOne_of_absorbs (hes : NamesAscend es) : ∀ {os : List Setting},
    (∀ v ∈ os, ∃ x, value? ⟨es⟩ v.name = some x ∧ x.Compatible v.value ∧ x.union v.value = x) →
      os.foldlM mergeOne (es, ch) = .ok (es, ch)
  | [], _ => rfl
  | v :: os, h => by
    obtain ⟨x, hx, hc, hu⟩ := h v List.mem_cons_self
    rw [List.foldlM_cons, mergeOne_of_absorbs hes hx hc hu]
    exact foldlM_mergeOne_of_absorbs hes fun w hw => h w (List.mem_cons_of_mem _ hw)

/-- Constraining settings by settings they absorb changes nothing, and says so. -/
theorem constrain_of_absorbs (hm : NamesAscend m.entries) (ho : NamesAscend o.entries)
    (h : m.Absorbs o) : m.constrain o false = .ok (m, false) :=
  constrain_false_eq_ok_iff.2 <| foldlM_mergeOne_of_absorbs hm fun v hv =>
    h v.name v.value (value?_of_mem ho hv)

/-- Once constrained by well-formed settings, settings absorb them. -/
theorem absorbs_constrain (hm : NamesAscend m.entries) (ho : o.WellFormed) {m' : Settings}
    (h : m.constrain o false = .ok (m', ch)) : m'.Absorbs o := by
  obtain ⟨-, hval⟩ := value?_constrain hm ho.ascend h
  have hagree := (constrain_isOk_iff ho.ascend).1 ⟨_, h⟩
  intro n y hy
  rw [hval n, Option.mem_def.1 hy]
  cases hmn : m.value? n with
  | none =>
    -- the variant takes the other's value, which is well formed
    have hwf := (ho.settings _ (mem_of_value? hy)).value
    exact ⟨y, rfl, Value.Compatible.refl y, Value.union_self hwf⟩
  | some x =>
    have hc := hagree n x hmn y hy
    exact ⟨x.union y, rfl, (Value.compatible_union_left hc).2 hc, Value.union_union_right hc⟩

end Settings

end BuildSpec.Variant
