import BuildSpec.Proofs.Variant.Normal

/-!
# Legal variant settings

A declaration admits a setting (`Variant.Decl.Admits`) when the setting names the declared
variant, holds a single value if the variant is exclusive, and holds only values the declaration
allows; checking a setting against a declaration succeeds exactly when it admits it
(`Variant.Decl.validate_eq_ok_iff`). A recipe admits a setting when it declares the setting's
variant and that declaration admits it (`Package.Admits`).

Constraining settings merges them: a setting of a new variant is added, two sets of one variant
are united, and two flags must agree. A union of admitted sets holds only allowed values, so it
is admitted unless the variant is exclusive, where the union of two single values could hold two.
Main statement (`Variant.Settings.constrain_admitted`): when the other settings name each variant
once and agree exactly with those already held on every exclusive variant, constraining settings
that a recipe admits by others it admits gives settings it admits.
-/

namespace BuildSpec

namespace Variant

/-- A setting the declaration admits: it names the declared variant, holds one value when the
variant is exclusive, and holds only allowed values. -/
structure Decl.Admits (d : Decl) (s : Setting) : Prop where
  name_eq : d.name = s.name
  single : d.exclusive = true → s.value.strings.length = 1
  allowed : ∀ x ∈ s.value.strings, d.allowed.accepts x = true

/-- A setting passes a declaration's check exactly when the declaration admits it. -/
theorem Decl.validate_eq_ok_iff {d : Decl} {s : Setting} {pkg : Option String} :
    d.validate s pkg = .ok () ↔ d.Admits s := by
  have hvalid : d.invalidValues s.value = [] ↔ ∀ x ∈ s.value.strings, d.allowed.accepts x = true := by
    simp [invalidValues, List.filter_eq_nil_iff]
  unfold validate
  split_ifs with hname hsingle
  · simp only [false_iff]
    exact fun h => by simp [h.name_eq] at hname
  · simp only [false_iff]
    intro h
    simp only [Bool.and_eq_true, bne_iff_ne] at hsingle
    exact hsingle.2 (h.single hsingle.1)
  · simp only [bne_iff_ne, ne_eq, not_not] at hname
    simp only [Bool.and_eq_true, bne_iff_ne, ne_eq, not_and, not_not] at hsingle
    split
    · rename_i hbad
      exact ⟨fun _ => ⟨hname, hsingle, hvalid.1 hbad⟩, fun _ => rfl⟩
    · rename_i bad hbad
      exact ⟨fun h => (nomatch h), fun h => absurd (hvalid.2 h.allowed) hbad⟩

/-- A set value holds the sorted distinct texts it was made from. -/
theorem Value.strings_ofTexts (xs : List String) : (Value.ofTexts xs).strings = sortedSet xs := rfl

/-- Constraining an admitted setting by another of its variant keeps it admitted, as long as an
exclusive variant is only ever constrained by the very setting it holds. -/
theorem Setting.constrain_admits {d : Decl} {e v e' : Setting} {ch : Bool} (he : d.Admits e)
    (hv : d.Admits v) (hex : d.exclusive = true → e = v) (h : e.constrain v = .ok (e', ch)) :
    e'.name = e.name ∧ d.Admits e' := by
  unfold constrain at h
  split at h
  · split_ifs at h
    cases h
    exact ⟨rfl, he⟩
  · rename_i l r hl hr
    cases h
    refine ⟨rfl, ⟨he.name_eq, fun hexc => ?_, fun x hx => ?_⟩⟩
    · -- an exclusive variant holds one value, and is constrained by that same value
      obtain rfl := hex hexc
      have hone := he.single hexc
      rw [hl] at hone
      obtain ⟨x, rfl⟩ := List.length_eq_one_iff.1 hone
      rw [hl] at hr
      cases hr
      simp [Value.strings_ofTexts, sortedSet, insertSorted]
    · rw [Value.strings_ofTexts, mem_sortedSet, List.mem_append] at hx
      rcases hx with hx | hx
      · exact he.allowed x (by rw [hl]; exact hx)
      · exact hv.allowed x (by rw [hr]; exact hx)
  · cases h

namespace Settings

/-- The setting found for a variant is of that variant. -/
theorem name_of_find? {es : List Setting} {n : String} {e : Setting}
    (h : es.find? (·.name == n) = some e) : e.name = n := by
  simpa using List.find?_some h

/-- Putting a setting leaves the settings of every other variant where they were. -/
theorem find?_put_of_ne {s : Setting} {n : String} (h : s.name ≠ n) :
    ∀ es : List Setting, (put s es).find? (·.name == n) = es.find? (·.name == n)
  | [] => by simp [put, h]
  | t :: ts => by
    unfold put
    split_ifs with hlt heq
    · simp [h]
    · -- the setting of `t`'s variant is replaced, and that variant is not `n`
      have htn : t.name ≠ n := by rw [← beq_iff_eq.1 heq]; exact h
      simp [h, htn]
    · by_cases htn : t.name = n
      · simp [htn]
      · simp [htn, find?_put_of_ne h ts]

/-- A successful constrain folds the other settings into these. -/
theorem constrain_eq_ok {m o m' : Settings} {oc ch : Bool} (h : m.constrain o oc = .ok (m', ch)) :
    ∃ es, o.entries.foldlM mergeOne (m.entries, false) = .ok (es, ch) ∧ m' = ⟨es⟩ := by
  have hrest : (o.entries.foldlM mergeOne (m.entries, false) >>= fun x =>
      (pure (⟨x.1⟩, x.2) : Except Error (Settings × Bool))) = .ok (m', ch) →
      ∃ es, o.entries.foldlM mergeOne (m.entries, false) = .ok (es, ch) ∧ m' = ⟨es⟩ := by
    intro hr
    obtain ⟨⟨es, changed⟩, hes, hr⟩ := except_bind_eq_ok.1 hr
    cases hr
    exact ⟨es, hes, rfl⟩
  unfold constrain at h
  dsimp only at h
  split at h
  · split at h
    · simp [throw, throwThe, MonadExceptOf.throw, bind, Except.bind] at h
    · exact hrest h
  · exact hrest h

end Settings

end Variant

/-- The recipe declares the setting's variant, and that declaration admits the setting. -/
def Package.Admits (p : Package) (s : Variant.Setting) : Prop :=
  ∃ d, p.variant? s.name = some d ∧ d.Admits s

namespace Variant.Settings

variable {p : Package}

/-- Merging one admitted setting into admitted settings keeps them admitted, when on an exclusive
variant the setting held is the one merged. -/
theorem mergeOne_admitted {es es' : List Setting} {ch ch' : Bool} {v : Setting}
    (hes : ∀ t ∈ es, p.Admits t) (hv : p.Admits v)
    (hex : ∀ d, p.variant? v.name = some d → d.exclusive = true →
      ∀ e, es.find? (·.name == v.name) = some e → e = v)
    (h : mergeOne (es, ch) v = .ok (es', ch')) : ∀ t ∈ es', p.Admits t := by
  obtain ⟨d, hd, hdv⟩ := hv
  unfold mergeOne at h
  dsimp only at h
  split at h
  · rename_i e he
    split at h
    · cases h
    · obtain ⟨⟨e', ch''⟩, hc, h⟩ := except_bind_eq_ok.1 h
      cases h
      -- the setting held is of the same variant, so the same declaration admits it
      have hname : e.name = v.name := name_of_find? he
      obtain ⟨d', hd', hde⟩ := hes e (List.mem_of_find?_eq_some he)
      rw [hname, hd, Option.some.injEq] at hd'
      subst hd'
      obtain ⟨hname', hde'⟩ := Setting.constrain_admits hde hdv (fun hx => hex d hd hx e he) hc
      intro t ht
      rcases Variant.Settings.mem_put ht with rfl | ht
      · exact ⟨d, by rw [hname', hname, hd], hde'⟩
      · exact hes t ht
  · cases h
    intro t ht
    rcases Variant.Settings.mem_put ht with rfl | ht
    · exact ⟨d, hd, hdv⟩
    · exact hes t ht

/-- Constraining admitted settings by admitted ones that name each variant once, and that agree
exactly with the settings held on every exclusive variant, gives admitted settings. -/
theorem constrain_admitted {m o m' : Settings} {oc ch : Bool} (hm : ∀ t ∈ m.entries, p.Admits t)
    (ho : ∀ t ∈ o.entries, p.Admits t) (hkeyed : (o.entries.map (·.name)).Nodup)
    (hagree : ∀ v ∈ o.entries, ∀ d, p.variant? v.name = some d → d.exclusive = true →
      ∀ cur, m.get? v.name = some cur → cur = v)
    (h : m.constrain o oc = .ok (m', ch)) : ∀ t ∈ m'.entries, p.Admits t := by
  obtain ⟨es, hes, rfl⟩ := constrain_eq_ok h
  -- the settings merged so far are admitted, and a variant none of them names is held as in `m`
  refine (foldlM_ok_induct (fun pre acc => (∀ t ∈ acc.1, p.Admits t) ∧
      ∀ n, (∀ v ∈ pre, v.name ≠ n) → acc.1.find? (·.name == n) = m.entries.find? (·.name == n))
    ⟨hm, fun _ _ => rfl⟩ ?_ hes).1
  rintro pre v ⟨es₁, ch₁⟩ ⟨es₂, ch₂⟩ hpre ⟨hall, hfind⟩ hstep
  have hvo : v ∈ o.entries := hpre.subset (by simp)
  -- the other settings name `v`'s variant once, so no setting merged before it does
  have hfresh : ∀ u ∈ pre, u.name ≠ v.name := by
    obtain ⟨rest, hrest⟩ := hpre
    have hnd := hkeyed
    rw [← hrest, List.map_append, List.map_append] at hnd
    intro u hu hun
    have := (List.nodup_append.1 (List.nodup_append.1 hnd).1).2.2 u.name (List.mem_map_of_mem hu)
      v.name (by simp)
    exact this hun
  refine ⟨mergeOne_admitted hall (ho v hvo) (fun d hd hx e he => ?_) hstep, fun n hn => ?_⟩
  · rw [hfind v.name hfresh] at he
    exact hagree v hvo d hd hx e he
  · -- what was merged is of `v`'s variant, which is not `n`
    have hvn : v.name ≠ n := hn v (by simp)
    have hpre' : ∀ u ∈ pre, u.name ≠ n := fun u hu => hn u (by simp [hu])
    unfold mergeOne at hstep
    dsimp only at hstep
    split at hstep
    · rename_i e he
      split at hstep
      · cases hstep
      · obtain ⟨⟨e', ch''⟩, hc, hstep⟩ := except_bind_eq_ok.1 hstep
        cases hstep
        have hname' : e'.name = v.name := by
          unfold Setting.constrain at hc
          split at hc
          · split_ifs at hc; cases hc; exact name_of_find? he
          · cases hc; exact (name_of_find? he : e.name = v.name)
          · cases hc
        rw [find?_put_of_ne (hname' ▸ hvn), hfind n hpre']
    · cases hstep
      rw [find?_put_of_ne hvn, hfind n hpre']

end Variant.Settings

end BuildSpec
