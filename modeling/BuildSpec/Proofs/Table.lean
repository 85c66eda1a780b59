import Mathlib
import BuildSpec.Concretize.Expand

/-!
# Tables in key order

The concretization keeps its candidates, its virtual packages and each candidate's recorded
dependencies in lists of `(key, value)` pairs, and writes them only through `putSorted` (or
`Package.putDependency`), which walks to the first key not below the new one. When the keys of
such a list strictly increase, `putSorted` is a finite map update: it replaces the value of a
key already present and otherwise inserts the pair in its place, so the keys keep increasing.

This file proves that reading of `putSorted`, the effect of an update on sums over the table,
and the bound on a sum over distinct keys looked up in a larger table, which is how everything
discovered is later measured against the catalog.
-/

namespace BuildSpec

variable {α : Type}

/-- The keys of a table strictly increase. -/
def KeysAscend (l : List (String × α)) : Prop := l.Pairwise fun a b => a.1 < b.1

/-- The keys of a table. -/
def keysOf (l : List (String × α)) : List String := l.map (·.1)

theorem total_eq_sum (xs : List Nat) : total xs = xs.sum := by
  induction xs with
  | nil => rfl
  | cons x xs ih => simp only [total, List.foldr_cons, List.sum_cons] at ih ⊢; rw [← ih]; rfl

theorem keysAscend_nil : KeysAscend ([] : List (String × α)) := List.Pairwise.nil

theorem KeysAscend.tail {e : String × α} {l : List (String × α)} (h : KeysAscend (e :: l)) :
    KeysAscend l := (List.pairwise_cons.1 h).2

theorem KeysAscend.lt_of_mem {e e' : String × α} {l : List (String × α)}
    (h : KeysAscend (e :: l)) (he : e' ∈ l) : e.1 < e'.1 := (List.pairwise_cons.1 h).1 e' he

theorem lookup_cons_of_ne {k k' : String} {v : α} {l : List (String × α)} (h : k ≠ k') :
    ((k', v) :: l).lookup k = l.lookup k := by
  have hb : (k == k') = false := by simpa using h
  simp [List.lookup, hb]

/-- A key below every key of a table is not in it. -/
theorem lookup_eq_none_of_lt {k : String} {l : List (String × α)} (h : ∀ e ∈ l, k < e.1) :
    l.lookup k = none := by
  rw [List.lookup_eq_none_iff]
  intro e he
  simpa using (h e he).ne

theorem lookup_isSome_iff_mem_keys {k : String} {l : List (String × α)} :
    (l.lookup k).isSome ↔ k ∈ keysOf l := by
  rw [List.lookup_isSome_iff]
  simp only [keysOf, List.mem_map, beq_iff_eq]
  exact ⟨fun ⟨e, he, hk⟩ => ⟨e, he, hk.symm⟩, fun ⟨e, he, hk⟩ => ⟨e, he, hk.symm⟩⟩

theorem mem_keys_of_lookup {k : String} {v : α} {l : List (String × α)} (h : l.lookup k = some v) :
    k ∈ keysOf l := lookup_isSome_iff_mem_keys.1 (by simp [h])

theorem mem_of_lookup {k : String} {v : α} {l : List (String × α)} (h : l.lookup k = some v) :
    (k, v) ∈ l := by
  obtain ⟨l₁, l₂, rfl, -⟩ := List.lookup_eq_some_iff.1 h
  simp

/-- In a table whose keys ascend, the pairs are exactly what lookups return. -/
theorem lookup_of_mem {k : String} {v : α} {l : List (String × α)} (h : KeysAscend l)
    (hm : (k, v) ∈ l) : l.lookup k = some v := by
  induction l with
  | nil => simp at hm
  | cons e l ih =>
    obtain ⟨k', v'⟩ := e
    rcases List.mem_cons.1 hm with he | he
    · cases he
      simp
    · have hlt : k' < k := h.lt_of_mem he
      rw [lookup_cons_of_ne hlt.ne', ih h.tail he]

/-! ## `putSorted` as a map update -/

@[simp] theorem lookup_putSorted_self (k : String) (v : α) (l : List (String × α)) :
    (putSorted k v l).lookup k = some v := by
  induction l with
  | nil => simp [putSorted]
  | cons e l ih =>
    obtain ⟨k', v'⟩ := e
    unfold putSorted
    by_cases h1 : k < k'
    · simp [h1]
    · by_cases h2 : k = k'
      · subst h2; simp
      · simp only [h1, if_false, beq_iff_eq, h2]
        rw [lookup_cons_of_ne h2, ih]

theorem lookup_putSorted_of_ne {k k' : String} (h : k' ≠ k) (v : α) (l : List (String × α)) :
    (putSorted k v l).lookup k' = l.lookup k' := by
  induction l with
  | nil => simp [putSorted, lookup_cons_of_ne h]
  | cons e l ih =>
    obtain ⟨k'', v'⟩ := e
    unfold putSorted
    by_cases h1 : k < k''
    · simp only [h1, if_true]
      rw [lookup_cons_of_ne h]
    · by_cases h2 : k = k''
      · subst h2
        simp only [lt_irrefl, if_false, beq_self_eq_true, if_true]
        rw [lookup_cons_of_ne h, lookup_cons_of_ne h]
      · simp only [h1, if_false, beq_iff_eq, h2]
        by_cases h3 : k' = k''
        · subst h3; simp
        · rw [lookup_cons_of_ne h3, lookup_cons_of_ne h3, ih]

theorem lookup_putSorted (k k' : String) (v : α) (l : List (String × α)) :
    (putSorted k v l).lookup k' = if k' = k then some v else l.lookup k' := by
  split_ifs with h
  · subst h; exact lookup_putSorted_self _ _ _
  · exact lookup_putSorted_of_ne h _ _

theorem mem_putSorted {k : String} {v : α} {l : List (String × α)} {e : String × α}
    (h : e ∈ putSorted k v l) : e = (k, v) ∨ e ∈ l := by
  induction l with
  | nil => simpa [putSorted] using h
  | cons e' l ih =>
    unfold putSorted at h
    split_ifs at h
    · simpa using h
    · rcases List.mem_cons.1 h with h | h
      · exact .inl h
      · exact .inr (List.mem_cons_of_mem _ h)
    · rcases List.mem_cons.1 h with h | h
      · exact .inr (h ▸ List.mem_cons_self)
      · exact (ih h).imp_right (List.mem_cons_of_mem _)

theorem mem_keys_putSorted {k k' : String} {v : α} {l : List (String × α)} :
    k' ∈ keysOf (putSorted k v l) ↔ k' = k ∨ k' ∈ keysOf l := by
  rw [← lookup_isSome_iff_mem_keys, ← lookup_isSome_iff_mem_keys, lookup_putSorted]
  split_ifs with h <;> simp [h]

theorem KeysAscend.putSorted {l : List (String × α)} (h : KeysAscend l) (k : String) (v : α) :
    KeysAscend (BuildSpec.putSorted k v l) := by
  induction l with
  | nil => exact List.pairwise_singleton _ _
  | cons e l ih =>
    obtain ⟨k', v'⟩ := e
    unfold BuildSpec.putSorted
    by_cases h1 : k < k'
    · simp only [h1, if_true]
      refine List.Pairwise.cons (fun e he => ?_) h
      rcases List.mem_cons.1 he with rfl | he
      · exact h1
      · exact h1.trans (h.lt_of_mem he)
    · by_cases h2 : k = k'
      · subst h2
        simp only [lt_irrefl, if_false, beq_self_eq_true, if_true]
        exact List.Pairwise.cons (fun e he => h.lt_of_mem he) h.tail
      · have hlt : k' < k := lt_of_le_of_ne (not_lt.1 h1) (Ne.symm h2)
        simp only [h1, if_false, beq_iff_eq, h2]
        refine List.Pairwise.cons (fun e he => ?_) (ih h.tail)
        rcases mem_putSorted he with rfl | he
        · exact hlt
        · exact h.lt_of_mem he

/-- Writing back the value a key already holds changes nothing. -/
theorem putSorted_eq_self {l : List (String × α)} (h : KeysAscend l) {k : String} {v : α}
    (hk : l.lookup k = some v) : putSorted k v l = l := by
  induction l with
  | nil => simp at hk
  | cons e l ih =>
    obtain ⟨k', v'⟩ := e
    by_cases h2 : k = k'
    · subst h2
      simp only [List.lookup_cons_self, Option.some.injEq] at hk
      subst hk
      simp [putSorted]
    · have hrest : l.lookup k = some v := by rwa [lookup_cons_of_ne h2] at hk
      have hlt : k' < k := h.lt_of_mem (mem_of_lookup hrest)
      simp [putSorted, not_lt.2 hlt.le, h2, ih h.tail hrest]

/-- An update adds the new value to a sum over the table and removes the old one. -/
theorem sum_putSorted {l : List (String × α)} (h : KeysAscend l) (f : α → Nat) (k : String)
    (v : α) : ((putSorted k v l).map (f ·.2)).sum + ((l.lookup k).map f).getD 0 =
      (l.map (f ·.2)).sum + f v := by
  induction l with
  | nil => simp [putSorted]
  | cons e l ih =>
    obtain ⟨k', v'⟩ := e
    unfold putSorted
    by_cases h1 : k < k'
    · have hnone : l.lookup k = none :=
        lookup_eq_none_of_lt fun e he => h1.trans (h.lt_of_mem he)
      simp only [h1, if_true, List.map_cons, List.sum_cons, lookup_cons_of_ne h1.ne, hnone,
        Option.map_none, Option.getD_none]
      omega
    · by_cases h2 : k = k'
      · subst h2
        simp only [lt_irrefl, if_false, beq_self_eq_true, if_true, List.map_cons, List.sum_cons,
          List.lookup_cons_self, Option.map_some, Option.getD_some]
        omega
      · simp only [h1, if_false, beq_iff_eq, h2, List.map_cons, List.sum_cons,
          lookup_cons_of_ne h2]
        have := ih h.tail
        omega

/-- An update adds one pair exactly when the key is new. -/
theorem length_putSorted {l : List (String × α)} (h : KeysAscend l) (k : String) (v : α) :
    (putSorted k v l).length = l.length + (if (l.lookup k).isSome then 0 else 1) := by
  have hs := sum_putSorted h (fun _ => 1) k v
  simp only [List.map_const', List.sum_replicate, smul_eq_mul, mul_one] at hs
  cases hl : l.lookup k <;> simp [hl] at hs ⊢ <;> omega

theorem nodup_keys {l : List (String × α)} (h : KeysAscend l) : (keysOf l).Nodup := by
  unfold keysOf KeysAscend at *
  induction l with
  | nil => simp
  | cons e l ih =>
    rw [List.pairwise_cons] at h
    simp only [List.map_cons, List.nodup_cons, List.mem_map, not_exists, not_and]
    exact ⟨fun e' he' heq => (h.1 e' he').ne heq.symm, ih h.2⟩

/-! ## Sums over keys looked up in a larger table -/

/-- Distinct keys, each read back from a table, add up to no more than the whole table. -/
theorem sum_lookup_le {β : Type} (f : β → Nat) :
    ∀ (t : List (String × β)) (ks : List String), ks.Nodup → (∀ k ∈ ks, (t.lookup k).isSome) →
      (ks.map fun k => ((t.lookup k).map f).getD 0).sum ≤ (t.map (f ·.2)).sum
  | [], ks, _, hks => by
    cases ks with
    | nil => simp
    | cons k _ => exact absurd (hks k List.mem_cons_self) (by simp)
  | (k₀, b₀) :: t, ks, hnd, hks => by
    -- the first key of the table is read at most once; the other keys read the rest of it
    have hrest : ∀ k ∈ ks.erase k₀, (t.lookup k).isSome := by
      intro k hk
      have hne : k ≠ k₀ := (hnd.mem_erase_iff.1 hk).1
      simpa [lookup_cons_of_ne hne] using hks k (List.mem_of_mem_erase hk)
    have hval : ∀ k ∈ ks.erase k₀, ((((k₀, b₀) :: t).lookup k).map f).getD 0 =
        ((t.lookup k).map f).getD 0 := by
      intro k hk
      rw [lookup_cons_of_ne (hnd.mem_erase_iff.1 hk).1]
    have ih := sum_lookup_le f t (ks.erase k₀) (hnd.erase k₀) hrest
    by_cases hk₀ : k₀ ∈ ks
    · have hperm := (List.perm_cons_erase hk₀).map fun k => ((((k₀, b₀) :: t).lookup k).map f).getD 0
      rw [hperm.sum_eq]
      simp only [List.map_cons, List.sum_cons, List.lookup_cons_self, Option.map_some,
        Option.getD_some]
      rw [List.map_congr_left hval]
      omega
    · rw [List.erase_of_not_mem hk₀] at ih hval
      rw [List.map_congr_left hval]
      simp only [List.map_cons, List.sum_cons]
      omega

/-! ## Sorted name lists -/

theorem eraseDups_of_nodup {l : List String} (h : l.Nodup) : l.eraseDups = l := by
  induction l with
  | nil => rfl
  | cons a l ih =>
    rw [List.nodup_cons] at h
    have hf : l.filter (fun b => !b == a) = l := by
      refine List.filter_eq_self.2 fun b hb => ?_
      have hne : b ≠ a := fun hba => h.1 (hba ▸ hb)
      simpa using hne
    rw [List.eraseDups_cons, hf, ih h.2]

theorem nodup_eraseDups (l : List String) : l.eraseDups.Nodup := by
  induction h : l.length using Nat.strong_induction_on generalizing l with
  | _ n ih =>
    cases l with
    | nil => simp
    | cons a l =>
      rw [List.eraseDups_cons, List.nodup_cons]
      refine ⟨by simp, ih _ ?_ _ rfl⟩
      simp only [List.length_cons] at h
      exact h ▸ Nat.lt_succ_of_le (List.length_filter_le _ _)

theorem nodup_sortedNames (l : List String) : (Graph.sortedNames l).Nodup :=
  nodup_eraseDups _

@[simp] theorem mem_sortedNames {l : List String} {a : String} : a ∈ Graph.sortedNames l ↔ a ∈ l := by
  simp [Graph.sortedNames, List.mem_eraseDups, (List.mergeSort_perm l _).mem_iff]

theorem length_sortedNames {l : List String} (h : l.Nodup) : (Graph.sortedNames l).length = l.length := by
  unfold Graph.sortedNames
  rw [eraseDups_of_nodup ((List.mergeSort_perm l _).nodup_iff.2 h), List.length_mergeSort]

theorem eraseDups_sublist (l : List String) : l.eraseDups.Sublist l := by
  induction h : l.length using Nat.strong_induction_on generalizing l with
  | _ n ih =>
    cases l with
    | nil => simp
    | cons a l =>
      rw [List.eraseDups_cons]
      have hlt : (l.filter fun b => !b == a).length < n := by
        simp only [List.length_cons] at h
        exact h ▸ Nat.lt_succ_of_le (List.length_filter_le _ _)
      exact ((ih _ hlt _ rfl).trans List.filter_sublist).cons_cons a

/-- Two strictly increasing lists of the same names are equal. -/
theorem eq_of_pairwise_lt {l l' : List String} (h : l.Pairwise (· < ·)) (h' : l'.Pairwise (· < ·))
    (hmem : ∀ a, a ∈ l ↔ a ∈ l') : l = l' := by
  refine List.Perm.eq_of_pairwise (fun a b _ _ hab hba => absurd (lt_trans hab hba) (lt_irrefl a))
    h h' ?_
  exact (List.perm_ext_iff_of_nodup h.nodup h'.nodup).2 hmem

/-- Sorted names strictly increase. -/
theorem pairwise_sortedNames (l : List String) : (Graph.sortedNames l).Pairwise (· < ·) := by
  have htrans : ∀ a b c : String, decide (a ≤ b) = true → decide (b ≤ c) = true → decide (a ≤ c) = true :=
    fun _ _ _ hab hbc => decide_eq_true (le_trans (of_decide_eq_true hab) (of_decide_eq_true hbc))
  have htotal : ∀ a b : String, (decide (a ≤ b) || decide (b ≤ a)) = true := fun a b => by
    simpa using le_total a b
  have hsorted := List.pairwise_mergeSort htrans htotal l
  have hle := hsorted.sublist (eraseDups_sublist _)
  exact (hle.and (nodup_sortedNames l)).imp fun hab => lt_of_le_of_ne (of_decide_eq_true hab.1) hab.2

/-- Sorting the names of a list gives any strictly increasing list of the same names. -/
theorem sortedNames_eq {l l' : List String} (h : l'.Pairwise (· < ·)) (hmem : ∀ a, a ∈ l ↔ a ∈ l') :
    Graph.sortedNames l = l' :=
  eq_of_pairwise_lt (pairwise_sortedNames l) h fun a => mem_sortedNames.trans (hmem a)

/-! ## Runs in `Except` -/

section Runs

variable {ε β γ : Type}

theorem except_bind_eq_ok {x : Except ε β} {f : β → Except ε γ} {r : γ} :
    x >>= f = .ok r ↔ ∃ a, x = .ok a ∧ f a = .ok r := by
  cases x <;> simp [bind, Except.bind]

theorem except_pure_eq_ok {a r : β} : (pure a : Except ε β) = .ok r ↔ a = r := by
  simp [pure, Except.pure]

/-- A run that reports success has a result: how a computed success becomes one to reason from. -/
theorem exists_eq_ok_of_isOk {x : Except ε β} (h : x.isOk = true) : ∃ a, x = .ok a := by
  cases x with
  | ok a => exact ⟨a, rfl⟩
  | error e => simp [Except.isOk, Except.toBool] at h

/-- A computed check that a run succeeds and that the rest of the check passes on its result
gives that result: how a witness reads a chain of computed steps, one step at a time. -/
theorem exists_eq_ok_of_toOption_bind {x : Except ε β} {f : β → Option γ} {r : γ}
    (h : x.toOption.bind f = some r) : ∃ a, x = .ok a ∧ f a = some r := by
  cases x with
  | ok a => exact ⟨a, rfl, h⟩
  | error e => cases h

/-- A successful `mapM` pairs each element with its result. -/
theorem mapM_eq_ok_iff {f : β → Except ε γ} {l : List β} {r : List γ} :
    l.mapM f = .ok r ↔ List.Forall₂ (fun x y => f x = .ok y) l r := by
  induction l generalizing r with
  | nil => cases r <;> simp [pure, Except.pure]
  | cons x l ih =>
    cases r with
    | nil =>
      rw [List.mapM_cons]
      cases f x <;> cases l.mapM f <;> simp [bind, Except.bind, pure, Except.pure]
    | cons y r =>
      simp only [List.mapM_cons, except_bind_eq_ok, except_pure_eq_ok, List.forall₂_cons, ← ih]
      constructor
      · rintro ⟨y', hy', r', hr', he⟩
        simp only [List.cons.injEq] at he
        obtain ⟨rfl, rfl⟩ := he
        exact ⟨hy', hr'⟩
      · rintro ⟨hy, hr⟩
        exact ⟨y, hy, r, hr, rfl⟩

/-- Every result of a successful `mapM` is the result of some element. -/
theorem mapM_ok_mem {f : β → Except ε γ} {l : List β} {r : List γ} (h : l.mapM f = .ok r)
    {y : γ} (hy : y ∈ r) : ∃ x ∈ l, f x = .ok y := by
  have hall := mapM_eq_ok_iff.1 h
  clear h
  induction hall with
  | nil => simp at hy
  | @cons x y' l r hxy _ ih =>
    rcases List.mem_cons.1 hy with rfl | hy
    · exact ⟨x, List.mem_cons_self, hxy⟩
    · obtain ⟨x', hx', h'⟩ := ih hy
      exact ⟨x', List.mem_cons_of_mem _ hx', h'⟩

/-- A property of the elements folded so far and the accumulator, true at the start and carried
over by every successful step, holds when a fold succeeds. -/
theorem foldlM_ok_induct {f : β → γ → Except ε β} (P : List γ → β → Prop) {l : List γ}
    {init r : β} (h0 : P [] init)
    (hstep : ∀ pre x b b', pre ++ [x] <+: l → P pre b → f b x = .ok b' → P (pre ++ [x]) b')
    (h : l.foldlM f init = .ok r) : P l r := by
  -- fold the rest `l'` of the list after the prefix `pre` already taken
  suffices ∀ l' pre b, pre ++ l' = l → P pre b → l'.foldlM f b = .ok r → P l r from
    this l [] init rfl h0 h
  intro l'
  induction l' with
  | nil =>
    intro pre b hl hb hr
    simp only [List.foldlM_nil, except_pure_eq_ok] at hr
    subst hr
    simpa [← hl] using hb
  | cons x l' ih =>
    intro pre b hl hb hr
    simp only [List.foldlM_cons, except_bind_eq_ok] at hr
    obtain ⟨b', hx, hr⟩ := hr
    have hpre : pre ++ [x] <+: l := ⟨l', by simp [← hl]⟩
    exact ih (pre ++ [x]) b' (by simp [← hl]) (hstep pre x b b' hpre hb hx) hr

end Runs

end BuildSpec
