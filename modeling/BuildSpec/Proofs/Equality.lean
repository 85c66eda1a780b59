import Mathlib
import BuildSpec.Catalog.Package

/-!
# Reflexive equalities

Versions are equal when their order says so, so `1.0` and `1.00` are equal; constraints, specs,
compilers, conditions and dependencies compare field by field through that equality, and
variant declarations field by field, their allowed values by the text of their patterns. None of
these equalities is structural, so none is lawful, but each is reflexive. That is what the
expansion needs: a dependency recorded once is found again by `contains`, so recording it a
second time changes nothing.
-/

namespace BuildSpec

instance : Std.ReflCmp (compare : Version.Part → Version.Part → Ordering) where
  compare_self {a} := by
    cases a with
    | alpha s => exact (Std.compare_self : compare s s = .eq)
    | num n => exact (Std.compare_self : compare n n = .eq)

theorem Version.compare_self (v : Version) : Version.compare v v = .eq := by
  unfold Version.compare
  cases v.isDevelop
  · show Ord.compare v.parts v.parts = .eq
    exact Std.compare_self
  · rfl

theorem Version.beq_def (a b : Version) : (a == b) = (Version.compare a b == .eq) := rfl

instance : ReflBEq Version where
  rfl {v} := by simp [Version.beq_def, Version.compare_self]

instance : ReflBEq Version.Range where
  rfl {r} := by
    cases r <;> simp [BEq.beq, Version.Range.beq, Version.compare_self]

theorem Version.Constraint.beq_def (a b : Version.Constraint) : (a == b) = (a.ranges == b.ranges) :=
  rfl

instance : ReflBEq Version.Constraint where
  rfl {c} := by simp [Version.Constraint.beq_def]

theorem Spec.Compiler.beq_def (a b : Spec.Compiler) :
    (a == b) = (a.name == b.name && a.versions == b.versions) := rfl

instance : ReflBEq Spec.Compiler where
  rfl {c} := by simp [Spec.Compiler.beq_def]

mutual

theorem Spec.beq_self : (s : Spec) → s.beq s = true
  | ⟨_, _, _, _, deps, _⟩ => by
    simp only [Spec.beq, beq_self_eq_true, Bool.true_and, Spec.beqList_self deps]

theorem Spec.beqList_self : (l : List Spec) → Spec.beqList l l = true
  | [] => rfl
  | s :: l => by simp only [Spec.beqList, Spec.beq_self s, Spec.beqList_self l, Bool.and_self]

end

instance : ReflBEq Spec where
  rfl {s} := Spec.beq_self s

instance : ReflBEq Condition where
  rfl {c} := by
    cases c <;> simp [BEq.beq, Spec.beq_self]

theorem Dependency.beq_def (a b : Dependency) :
    (a == b) = (a.spec == b.spec && a.phases == b.phases && a.condition == b.condition) := rfl

instance : ReflBEq Dependency where
  rfl {d} := by simp [Dependency.beq_def]

instance : ReflBEq Variant.Allowed where
  rfl {a} := by
    cases a with
    | listed vs => exact beq_self_eq_true vs
    | integer => rfl
    | matching src _ => exact beq_self_eq_true src

theorem Variant.Decl.beq_def (a b : Variant.Decl) :
    (a == b) = (a.name == b.name && a.default == b.default && a.description == b.description &&
      a.allowed == b.allowed && a.exclusive == b.exclusive) := rfl

instance : ReflBEq Variant.Decl where
  rfl {d} := by simp [Variant.Decl.beq_def]

end BuildSpec
