import BuildSpec.Proofs.Selection
import BuildSpec.Proofs.Version.Order

/-!
# The order of candidate versions

Selection lists the versions a recipe declares that the package's constraint holds, best first,
and picks the first (`Concretization.candidateVersions`, `Concretization.selectVersion`). Best is
a lexicographic order on four keys (`Concretization.RanksBefore`): the rank the preferences give
the version, that is the place of the first preferred constraint holding it, with an unranked
version after every ranked one; then the recipe's preferred mark, marked first; then any version
but `develop`; then the newer.

## Why the sort gives exactly that order

The comparison selection sorts with is that order (`compareRanked_eq_lt_iff`), and it is the
lexicographic combination of five total preorders (`compareRanked_eq_lex`), hence a total
preorder itself, which is what merge sort needs to return a sorted list. It ties two entries only
at versions that compare equal, and a recipe built one declaration at a time declares its
versions in strictly ascending order (`Package.Built.versions_ascend`), so no two of them tie and
the sorted list is strictly ordered (`pairwise_rankSort`). The build keeps the preferences it was
given (`build_prefs`).

Main statement (`candidateVersions_ranked`): after a successful build over a catalog of recipes
built one declaration at a time, the candidate versions of a discovered package are the declared
versions its constraint holds, each once, in strictly increasing order under the build's
preferences; selection picks the first of them, and fails for having no versions exactly when
there is none.
-/

namespace BuildSpec

/-! ## A recipe's versions ascend -/

namespace Package

/-- A property of every version of a list holds after putting in a version that has it. -/
theorem forall_mem_putVersion {P : Version → Prop} {v : Version} {pr : Bool} (hv : P v) :
    ∀ {l : List (Version × Bool)}, (∀ e ∈ l, P e.1) → ∀ e ∈ putVersion v pr l, P e.1 := by
  intro l
  induction l with
  | nil =>
    intro _ e he
    rw [putVersion, List.mem_singleton] at he
    rw [he]
    exact hv
  | cons x rest ih =>
    intro hl e he
    unfold putVersion at he
    split at he
    · rcases List.mem_cons.1 he with rfl | he
      · exact hv
      · exact hl e he
    · rcases List.mem_cons.1 he with rfl | he
      · exact hl x List.mem_cons_self
      · exact hl e (List.mem_cons_of_mem _ he)
    · rcases List.mem_cons.1 he with rfl | he
      · exact hl _ List.mem_cons_self
      · exact ih (fun e he => hl e (List.mem_cons_of_mem _ he)) e he

/-- Putting a version into strictly ascending versions keeps them strictly ascending: it goes
before the first greater one, or takes the place of an equal one. -/
theorem pairwise_putVersion (v : Version) (pr : Bool) {l : List (Version × Bool)}
    (hl : l.Pairwise fun a b => Version.compare a.1 b.1 = .lt) :
    (putVersion v pr l).Pairwise fun a b => Version.compare a.1 b.1 = .lt := by
  induction l with
  | nil => exact List.pairwise_singleton _ _
  | cons x rest ih =>
    obtain ⟨w, q⟩ := x
    rw [List.pairwise_cons] at hl
    unfold putVersion
    split
    · next hlt =>
      refine List.Pairwise.cons (fun e he => ?_) (List.Pairwise.cons hl.1 hl.2)
      rcases List.mem_cons.1 he with rfl | he
      · exact hlt
      · exact Std.TransCmp.lt_trans hlt (hl.1 e he)
    · exact List.Pairwise.cons hl.1 hl.2
    · next hgt =>
      exact List.Pairwise.cons
        (forall_mem_putVersion (P := fun u => Version.compare w u = .lt)
          (Std.OrientedCmp.gt_iff_lt.1 hgt) hl.1) (ih hl.2)

/-- A recipe built one declaration at a time declares its versions in strictly ascending order,
so no version twice. -/
theorem Built.versions_ascend {p : Package} (h : p.Built) :
    p.versions.Pairwise fun a b => Version.compare a.1 b.1 = .lt := by
  induction h with
  | named n description => exact List.Pairwise.nil
  | version v preferred _ ih => exact pairwise_putVersion v preferred ih
  | variant _ hd ih =>
    unfold withVariant at hd
    split_ifs at hd
    cases hd
    exact ih
  | dependency _ hd ih =>
    unfold withDependency at hd
    split at hd
    · cases hd
    · cases hd
      exact ih
  | provision _ hp ih =>
    unfold withProvision at hp
    split_ifs at hp
    cases hp
    exact ih

end Package

namespace Concretization

/-! ## The build keeps its preferences

No step of a build writes the preferences: filing requests, seeding and every pass leave them as
the build was given them. -/

section Prefs

variable {c c' : Concretization}

theorem addRequest_prefs {s : Spec} {b : Bool} (h : c.addRequest s b = .ok c') :
    c'.prefs = c.prefs := by
  obtain ⟨leaf, needed, rfl⟩ := addRequest_eq c s b c' h
  rfl

theorem fileRequest_prefs {s : Spec} (h : c.fileRequest s = .ok c') : c'.prefs = c.prefs := by
  simp only [fileRequest, except_bind_eq_ok, except_pure_eq_ok] at h
  obtain ⟨c₁, h₁, rfl⟩ := h
  exact (addRequest_prefs h₁ :)

theorem mergeSpec_prefs {s : Spec} (h : c.mergeSpec s = .ok c') : c'.prefs = c.prefs := by
  unfold mergeSpec at h
  split at h
  case h_2 => cases h
  simp only [except_bind_eq_ok] at h
  obtain ⟨_, -, h⟩ := h
  split at h
  case h_2 => cases h
  split at h
  · simp only [except_bind_eq_ok, except_pure_eq_ok] at h
    obtain ⟨_, -, _, -, _, rfl, rfl⟩ := h
    split_ifs <;> rfl
  · simp only [except_bind_eq_ok, except_pure_eq_ok] at h
    obtain ⟨_, -, _, rfl, rfl⟩ := h
    rfl

theorem seed_prefs (h : c.seed = .ok c') : c'.prefs = c.prefs := by
  simp only [seed, except_bind_eq_ok] at h
  obtain ⟨c₁, hleaf, hneeded⟩ := h
  have h₁ := foldlM_ok_induct (fun _ r => r.prefs = c.prefs) rfl
    (by
      rintro _ s acc r _ hp hstep
      simp only [except_bind_eq_ok, except_pure_eq_ok] at hstep
      obtain ⟨c₂, hmerge, rfl⟩ := hstep
      exact (mergeSpec_prefs hmerge).trans hp) hleaf
  exact foldlM_ok_induct (fun _ r => r.prefs = c.prefs) h₁
    (fun _ _ _ _ _ hp hstep => (mergeSpec_prefs hstep).trans hp) hneeded

theorem prepare_prefs {cat : Catalog} {prefs : Prefs} {specs : List Spec}
    (h : prepare cat prefs specs = .ok c) : c.prefs = prefs := by
  simp only [prepare, except_bind_eq_ok] at h
  obtain ⟨c₁, hfile, hseed⟩ := h
  have h₁ := foldlM_ok_induct (fun _ r => r.prefs = prefs) rfl
    (fun _ _ _ _ _ hp hstep => (fileRequest_prefs hstep).trans hp) hfile
  exact (seed_prefs hseed).trans h₁

theorem reachTarget_prefs {name t : String} {app : List Dependency} {new : Bool}
    (h : c.reachTarget name t app = .ok (c', new)) : c'.prefs = c.prefs := by
  unfold reachTarget at h
  split_ifs at h
  · simp only [except_pure_eq_ok, Prod.mk.injEq] at h
    obtain ⟨rfl, -⟩ := h
    rfl
  · simp only [except_pure_eq_ok, Prod.mk.injEq] at h
    obtain ⟨rfl, -⟩ := h
    rfl
  · simp only [except_bind_eq_ok, except_pure_eq_ok, Prod.mk.injEq] at h
    obtain ⟨_, -, _, -, rfl, -⟩ := h
    rfl
  · simp only [except_bind_eq_ok, except_pure_eq_ok, Prod.mk.injEq] at h
    obtain ⟨_, -, rfl, -⟩ := h
    rfl

theorem expandTarget_prefs {name t : String} {s : Spec} {deps : List Dependency} {ch ch' : Bool}
    (h : expandTarget name s (c, ch) (t, deps) = .ok (c', ch')) : c'.prefs = c.prefs := by
  rcases expandTarget_cases h with ⟨-, rfl, -⟩ | ⟨-, c₁, new, hreach, hnext⟩
  · rfl
  · have h₁ := reachTarget_prefs hreach
    rcases hnext with ⟨-, rfl, -⟩ | ⟨-, -, -, -, -, rfl⟩ <;> exact h₁

theorem expandPackage_prefs {name : String} {ch : Bool} (h : c.expandPackage name = .ok (c', ch)) :
    c'.prefs = c.prefs := by
  unfold expandPackage at h
  split at h
  · split at h
    · refine foldlM_ok_induct (fun _ r => r.1.prefs = c.prefs) rfl ?_ h
      rintro pre ⟨t, deps⟩ ⟨c₁, ch₁⟩ ⟨c₂, ch₂⟩ - hp hstep
      exact (expandTarget_prefs hstep).trans hp
    · cases h
      rfl
  · cases h

theorem linkProvider_prefs (name pn : String) : (c.linkProvider name pn).1.prefs = c.prefs := by
  unfold linkProvider
  dsimp only
  split
  · split <;> rfl
  · rfl

theorem addProvider_prefs {name : String} {provider : Spec} {ch ch' : Bool}
    (h : addProvider name (c, ch) provider = .ok (c', ch')) : c'.prefs = c.prefs := by
  rcases addProvider_eq_ok h with ⟨-, rfl, -⟩ | ⟨_, _, _, -, -, -, rfl, -⟩ |
    ⟨pn, _, -, -, -, rfl, -⟩ | ⟨pn, _, _, -, -, -, rfl, -⟩
  · rfl
  · rfl
  · exact linkProvider_prefs name pn
  · exact linkProvider_prefs name pn

theorem expandVirtual_prefs {name : String} {ch : Bool} (h : c.expandVirtual name = .ok (c', ch)) :
    c'.prefs = c.prefs := by
  unfold expandVirtual at h
  refine foldlM_ok_induct (fun _ r => r.1.prefs = c.prefs) rfl ?_ h
  rintro pre provider ⟨c₁, ch₁⟩ ⟨c₂, ch₂⟩ - hp hstep
  exact (addProvider_prefs hstep).trans hp

theorem pass_prefs {ch : Bool} (h : c.pass = .ok (c', ch)) : c'.prefs = c.prefs := by
  unfold pass at h
  simp only [except_bind_eq_ok] at h
  obtain ⟨⟨c₂, ch₂⟩, hpkg, hvirt⟩ := h
  have h₂ := foldlM_ok_induct (fun _ r => r.1.prefs = c.prefs) rfl
    (by
      rintro _ n acc r _ hp hstep
      simp only [visitPackage, except_bind_eq_ok, except_pure_eq_ok] at hstep
      obtain ⟨⟨c₃, ch₃⟩, hexp, rfl⟩ := hstep
      exact (expandPackage_prefs hexp).trans hp) hpkg
  refine foldlM_ok_induct (fun _ r => r.1.prefs = c.prefs) h₂ ?_ hvirt
  rintro _ n acc r _ hp hstep
  simp only [visitVirtual, except_bind_eq_ok, except_pure_eq_ok] at hstep
  obtain ⟨⟨c₃, ch₃⟩, hexp, rfl⟩ := hstep
  exact (expandVirtual_prefs hexp).trans hp

theorem Checked.prefs_eq {cat : Catalog} {prefs : Prefs} {specs : List Spec}
    (h : Checked cat prefs specs c) : c.prefs = prefs := by
  induction h with
  | prepared hprep => exact prepare_prefs hprep
  | passed _ hp ih => exact (pass_prefs hp).trans ih

/-- A successful build carries the preferences it was given. -/
theorem build_prefs {cat : Catalog} {prefs : Prefs} {specs : List Spec}
    (h : build cat prefs specs = .ok c) : c.prefs = prefs := by
  obtain ⟨c₁, c₂, m, hchk, hpass, rfl⟩ := build_last_pass h
  exact (pass_prefs hpass).trans hchk.prefs_eq

end Prefs

/-! ## The order of candidates -/

/-- Rank `r` is better than rank `s`: `r` is a place in the preference order, before the place of
`s` when `s` has one. -/
def RankBefore (r s : Option Nat) : Prop := ∃ i, r = some i ∧ ∀ j, s = some j → i < j

/-- Version `a`, with its preferred mark, comes before version `b` under the ranks `rank`: it has
a better rank; or an equal rank and the preferred mark that `b` lacks; or an equal rank and mark,
and is not `develop` where `b` is; or all three equal, and is the newer. -/
def RanksBefore (rank : Version → Option Nat) (a b : Version × Bool) : Prop :=
  RankBefore (rank a.1) (rank b.1) ∨ rank a.1 = rank b.1 ∧
    (a.2 = true ∧ b.2 = false ∨ a.2 = b.2 ∧
      (a.1.isDevelop = false ∧ b.1.isDevelop = true ∨ a.1.isDevelop = b.1.isDevelop ∧
        Version.compare b.1 a.1 = .lt))

/-- The comparison of candidates is lexicographic in five keys: ranked before unranked, the
place, preferred first, anything but `develop` first, newest first. -/
theorem compareRanked_eq_lex : compareRanked =
    compareLex (compareOn fun x : Option Nat × Bool × Version => x.1.isNone)
      (compareLex (compareOn fun x : Option Nat × Bool × Version => x.1.getD 0)
        (compareLex (fun x y => compareOn (fun x : Option Nat × Bool × Version => x.2.1) y x)
          (compareLex (compareOn fun x : Option Nat × Bool × Version => x.2.2.isDevelop)
            (fun x y => compareOn (fun x : Option Nat × Bool × Version => x.2.2) y x)))) := by
  funext a b
  obtain ⟨r, p, v⟩ := a
  obtain ⟨s, q, w⟩ := b
  cases r <;> cases s <;> simp [compareRanked, compareLex, compareOn] <;> rfl

instance : Std.TransCmp compareRanked := by
  rw [compareRanked_eq_lex]
  exact inferInstance

/-- The comparison of candidates puts one first exactly when the order of candidates does. -/
theorem compareRanked_eq_lt_iff {r s : Option Nat} {p q : Bool} {v w : Version} :
    compareRanked (r, p, v) (s, q, w) = .lt ↔ RankBefore r s ∨ r = s ∧
      (p = true ∧ q = false ∨ p = q ∧
        (v.isDevelop = false ∧ w.isDevelop = true ∨ v.isDevelop = w.isDevelop ∧
          Version.compare w v = .lt)) := by
  -- the marks compare the other way round, the `develop` flags the usual way
  have hpref : compare q p = .lt ↔ p = true ∧ q = false := by cases p <;> cases q <;> decide
  have hpref_eq : compare q p = .eq ↔ p = q := by cases p <;> cases q <;> decide
  have hdev : compare v.isDevelop w.isDevelop = .lt ↔
      v.isDevelop = false ∧ w.isDevelop = true := by
    cases v.isDevelop <;> cases w.isDevelop <;> decide
  have hdev_eq : compare v.isDevelop w.isDevelop = .eq ↔ v.isDevelop = w.isDevelop := by
    cases v.isDevelop <;> cases w.isDevelop <;> decide
  unfold compareRanked
  simp only [Ordering.then_eq_lt, hpref, hpref_eq, hdev, hdev_eq, Version.ord_compare]
  cases r <;> cases s <;> simp [RankBefore, Nat.compare_eq_lt]

/-- The comparison of candidates ties two only at versions that compare equal. -/
theorem compare_eq_of_compareRanked_eq {x y : Option Nat × Bool × Version}
    (h : compareRanked x y = .eq) : Version.compare x.2.2 y.2.2 = .eq := by
  rw [compareRanked_eq_lex] at h
  simp only [compareLex, compareOn, Ordering.then_eq_eq] at h
  exact Std.OrientedCmp.eq_comm.1 h.2.2.2.2

/-! ## Sorting the candidates -/

/-- The key a declared version is ranked by: its rank, its preferred mark and itself. -/
def rankKey (rank : Version → Option Nat) (e : Version × Bool) : Option Nat × Bool × Version :=
  (rank e.1, e.2, e.1)

/-- Declared versions with their marks, sorted best first. -/
def rankSort (rank : Version → Option Nat) (l : List (Version × Bool)) : List (Version × Bool) :=
  l.mergeSort fun a b => compareRanked (rankKey rank a) (rankKey rank b) != .gt

/-- Sorting declared versions of distinct order puts them in strictly increasing order. -/
theorem pairwise_rankSort (rank : Version → Option Nat) {l : List (Version × Bool)}
    (hl : l.Pairwise fun a b => Version.compare a.1 b.1 ≠ .eq) :
    (rankSort rank l).Pairwise (RanksBefore rank) := by
  have hsorted : (rankSort rank l).Pairwise
      fun a b => (compareRanked (rankKey rank a) (rankKey rank b) != .gt) = true := by
    refine List.pairwise_mergeSort (fun a b d hab hbd => ?_) (fun a b => ?_) l
    · simp only [bne_iff_ne, ne_eq, Ordering.ne_gt_iff_isLE] at hab hbd ⊢
      exact Std.TransCmp.isLE_trans hab hbd
    · cases hab : compareRanked (rankKey rank a) (rankKey rank b)
      · simp
      · simp
      · simp [Std.OrientedCmp.gt_iff_lt.1 hab]
  have hdistinct : (rankSort rank l).Pairwise fun a b => Version.compare a.1 b.1 ≠ .eq :=
    ((List.mergeSort_perm l _).pairwise_iff fun h he => h (Std.OrientedCmp.eq_comm.1 he)).2 hl
  refine (hsorted.and hdistinct).imp fun {a b} hab => ?_
  obtain ⟨hle, hne⟩ := hab
  cases hcmp : compareRanked (rankKey rank a) (rankKey rank b)
  · exact compareRanked_eq_lt_iff.1 hcmp
  · exact absurd (compare_eq_of_compareRanked_eq hcmp) hne
  · simp [hcmp] at hle

/-- The candidate versions of a package with a recipe: the declared versions the constraint
holds, sorted best first under the preferences of the concretization. -/
theorem candidateVersions_eq_ok {c : Concretization} {n : String} {cand : Candidate} {p : Package}
    (hcand : c.candidate? n = some cand) (hp : c.catalog.get? n = some p) :
    c.candidateVersions n = .ok ((rankSort (c.prefs.rank n)
      (p.versions.filter fun e => cand.spec.versions.contains e.1)).map Prod.fst) := by
  have hfound : c.found n = .ok cand := by
    unfold found
    rw [hcand]
  have hmap := List.map_mergeSort (l := p.versions.filter fun e => cand.spec.versions.contains e.1)
    (r := fun a b => compareRanked (rankKey (c.prefs.rank n) a) (rankKey (c.prefs.rank n) b) != .gt)
    (s := fun a b => compareRanked a b != .gt) (f := rankKey (c.prefs.rank n))
    (fun _ _ _ _ => rfl)
  simp only [candidateVersions, hfound, hp, bind, Except.bind, pure, Except.pure, Except.ok.injEq]
  have hfst : (rankSort (c.prefs.rank n)
      (p.versions.filter fun e => cand.spec.versions.contains e.1)).map Prod.fst =
      ((rankSort (c.prefs.rank n) (p.versions.filter fun e => cand.spec.versions.contains e.1)).map
        (rankKey (c.prefs.rank n))).map (·.2.2) := by
    rw [List.map_map]
    rfl
  rw [hfst, rankSort, hmap]
  rfl

/-- Selection picks the first candidate version, and fails for having no versions exactly when
there is none. -/
theorem selectVersion_of_candidateVersions {c : Concretization} {n : String} {cand : Candidate}
    (hcand : c.candidate? n = some cand) {vs : List Version} (hvs : c.candidateVersions n = .ok vs) :
    (∀ v, c.selectVersion n = .ok v ↔ vs.head? = some v) ∧
      (c.selectVersion n = .error (.noVersions n cand.spec.versions.text) ↔ vs = []) := by
  unfold selectVersion
  rw [hvs]
  cases vs with
  | nil => simp [bind, Except.bind, throw, throwThe, MonadExceptOf.throw, hcand]
  | cons v vs => simp [bind, Except.bind, pure, Except.pure]

/-- After a successful build over a catalog of recipes built one declaration at a time, the
candidate versions of a discovered package are the versions its recipe declares that its
constraint holds, each once, in strictly increasing order under the build's preferences; the
version selected is the first of them, and selection fails for having no versions exactly when
there is none. -/
theorem candidateVersions_ranked {cat : Catalog} {prefs : Prefs} {specs : List Spec}
    {c : Concretization} (hcat : ∀ p ∈ cat.recipes, p.Built) (h : build cat prefs specs = .ok c)
    {n : String} {cand : Candidate} (hcand : c.candidate? n = some cand) :
    ∃ p, cat.get? n = some p ∧ ∃ ranked : List (Version × Bool),
      ranked.Perm (p.versions.filter fun e => cand.spec.versions.contains e.1) ∧
      ranked.Pairwise (RanksBefore (prefs.rank n)) ∧
      c.candidateVersions n = .ok (ranked.map Prod.fst) ∧
      (∀ v, c.selectVersion n = .ok v ↔ (ranked.map Prod.fst).head? = some v) ∧
      (c.selectVersion n = .error (.noVersions n cand.spec.versions.text) ↔ ranked = []) := by
  have hw : cat.WellFormed := fun p hp => (hcat p hp).wellFormed
  obtain ⟨hs, hcatc⟩ := build_sound hw h
  obtain ⟨p, hp, -⟩ := (hs.candidates n cand hcand).recipe
  have hp' : cat.get? n = some p := hcatc ▸ hp
  have hbuilt : p.Built := hcat p (List.mem_map.2 ⟨(n, p), mem_of_lookup hp', rfl⟩)
  -- the declared versions the constraint holds are distinct, so the sort leaves no tie
  have hdistinct : (p.versions.filter fun e => cand.spec.versions.contains e.1).Pairwise
      fun a b => Version.compare a.1 b.1 ≠ .eq :=
    (hbuilt.versions_ascend.filter _).imp fun hlt => by simp [hlt]
  have hvs := candidateVersions_eq_ok hcand hp
  rw [build_prefs h] at hvs
  obtain ⟨hsel, hnone⟩ := selectVersion_of_candidateVersions hcand hvs
  refine ⟨p, hp', _, List.mergeSort_perm _ _, pairwise_rankSort _ hdistinct, hvs, hsel, ?_⟩
  rw [hnone, List.map_eq_nil_iff]
  rfl

/-- The catalog of one recipe `zlib` declaring versions `1.2`, preferred, and `1.3`. -/
def preferredZlib : Catalog :=
  ⟨[("zlib",
      { name := "zlib"
        versions := [(⟨"1.2", [.num 1, .num 2]⟩, true), (⟨"1.3", [.num 1, .num 3]⟩, false)] })]⟩

/-- The recipe of `preferredZlib` is built one version at a time. -/
theorem preferredZlib_built : ∀ p ∈ preferredZlib.recipes, p.Built := by
  intro p hp
  simp only [preferredZlib, Catalog.recipes, List.map_cons, List.map_nil, List.mem_cons,
    List.not_mem_nil, or_false] at hp
  subst hp
  exact .version ⟨"1.3", [.num 1, .num 3]⟩ false
    (.version ⟨"1.2", [.num 1, .num 2]⟩ true (.named "zlib" none))

/-- The recipe of `preferredZlib` is built one version at a time, the request `zlib` builds and
discovers `zlib`, and its candidate versions and the selection are as the main statement says. -/
theorem preferredZlib_candidates_ranked : (∀ p ∈ preferredZlib.recipes, p.Built) ∧
    ∃ c, build preferredZlib {} [Spec.named "zlib"] = .ok c ∧
      ∃ cand, c.candidate? "zlib" = some cand ∧
        ∃ p, preferredZlib.get? "zlib" = some p ∧ ∃ ranked : List (Version × Bool),
          ranked.Perm (p.versions.filter fun e => cand.spec.versions.contains e.1) ∧
          ranked.Pairwise (RanksBefore (({} : Prefs).rank "zlib")) ∧
          c.candidateVersions "zlib" = .ok (ranked.map Prod.fst) ∧
          (∀ v, c.selectVersion "zlib" = .ok v ↔ (ranked.map Prod.fst).head? = some v) ∧
          (c.selectVersion "zlib" = .error (.noVersions "zlib" cand.spec.versions.text) ↔
            ranked = []) := by
  -- the build and the candidate are computed
  have hok : ((build preferredZlib {} [Spec.named "zlib"]).toOption.bind fun c =>
      (c.candidate? "zlib").bind fun _ => some ()) = some () := by
    decide +kernel
  obtain ⟨c, hc, hcs⟩ := exists_eq_ok_of_toOption_bind hok
  obtain ⟨cand, hcand, -⟩ := Option.bind_eq_some_iff.1 hcs
  exact ⟨preferredZlib_built, c, hc, cand, hcand,
    candidateVersions_ranked preferredZlib_built hc hcand⟩

end Concretization

end BuildSpec
