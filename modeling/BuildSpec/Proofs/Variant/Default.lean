import BuildSpec.Proofs.Variant.Legal
import BuildSpec.Catalog.Recipe

/-!
# The defaults of declared variants

A recipe declares a variant with a boolean default, or with none, as an on/off switch. Any other
default is written as text and read as a value, and the declaration must allow each of its
texts (`Variant.Decl.make`). That check looks at the texts only, not at how many there are.
Unless a declaration says `"multi": true` it is exclusive, while a text default such as `"a,b"`
reads as two texts: such a declaration is accepted, and then refuses its own default for holding
more than one value (`Variant.Decl.ofJson_refuses_pair_default`).

Main statement (`Variant.Decl.ofJson_validate_default`): checking a declaration read from a
document against its own default succeeds, except that an exclusive declaration whose default
holds two or more texts refuses it as multiple values. It rests on every declaration read being
a switch or made from a text default (`ofJson_cases`), whose texts it then allows
(`DefaultAllowed`), and on a value read from text holding at least one text
(`Value.strings_parse_ne_nil`).
-/

namespace BuildSpec

namespace Variant

/-- A value read from text holds at least one text: a flag holds its word, and a list cut at
commas has at least one piece. -/
theorem Value.strings_parse_ne_nil (s : String) : (Value.parse s).strings ≠ [] := by
  unfold Value.parse
  dsimp only
  split_ifs
  · simp [Value.strings]
  · simp [Value.strings]
  · rw [Value.strings_ofTexts]
    exact sortedSet_ne_nil (by simpa using Text.split_ne_nil ',' (Text.trim s))

namespace Decl

/-- The declaration's default holds at least one text, and the declaration allows each. -/
structure DefaultAllowed (d : Decl) : Prop where
  ne_nil : d.default.strings ≠ []
  allowed : ∀ x ∈ d.default.strings, d.allowed.accepts x = true

/-- An on/off switch allows its default, `true` or `false`. -/
theorem flag_defaultAllowed (n : String) (b : Bool) (desc : String) :
    (flag n b desc).DefaultAllowed := by
  constructor
  · simp [flag, Value.strings]
  · cases b
    · simp only [flag, Value.strings, Allowed.accepts, List.mem_singleton, forall_eq]
      rfl
    · simp only [flag, Value.strings, Allowed.accepts, List.mem_singleton, forall_eq]
      rfl

/-- A declaration that `make` accepts is the one described, and allows every text of its
default. -/
theorem make_eq_ok {n desc : String} {v : Value} {al : Allowed} {ex : Bool} {d : Decl}
    (h : make n v desc al ex = .ok d) :
    d = ⟨n, v, desc, al, ex⟩ ∧ ∀ x ∈ v.strings, al.accepts x = true := by
  unfold make at h
  dsimp only at h
  split at h
  · rename_i hbad
    cases h
    simpa [invalidValues, List.filter_eq_nil_iff] using hbad
  · cases h

/-- A declaration whose default is written as text is made from the value that text reads
as. -/
theorem ofDefaultText_eq_ok {fs : Json.Fields} {n desc s : String} {d : Decl}
    (h : ofDefaultText fs n desc s = .ok d) :
    ∃ al ex, make n (Value.parse s) desc al ex = .ok d := by
  obtain ⟨al, -, h⟩ := except_bind_eq_ok.1 h
  obtain ⟨multi, -, h⟩ := except_bind_eq_ok.1 h
  exact ⟨al, !multi, h⟩

/-- Every declaration read from a document is an on/off switch or is made from a default written
as text. -/
theorem ofJson_cases {j : Json} {d : Decl} (h : ofJson j = .ok d) :
    (∃ b, d = flag d.name b d.description) ∨
      ∃ s al ex, make d.name (Value.parse s) d.description al ex = .ok d := by
  have hmade : ∀ fs n desc s, ofDefaultText fs n desc s = .ok d →
      ∃ s al ex, make d.name (Value.parse s) d.description al ex = .ok d := by
    intro fs n desc s hs
    obtain ⟨al, ex, hm⟩ := ofDefaultText_eq_ok hs
    obtain ⟨rfl, -⟩ := make_eq_ok hm
    exact ⟨s, al, ex, hm⟩
  unfold ofJson at h
  simp only [pure, Except.pure, bind, Except.bind] at h
  -- the reader fails unless it finds an object with a name; then the default decides the shape
  cases j
  case object fs =>
    simp only at h
    cases hname : Recipe.getStr fs "name" with
    | error e => simp [hname] at h
    | ok name =>
      cases name with
      | none => simp [hname, throw, throwThe, MonadExceptOf.throw] at h
      | some n =>
        cases hdesc : Recipe.getStr fs "description" with
        | error e => simp [hname, hdesc] at h
        | ok desc =>
          simp only [hname, hdesc] at h
          split at h
          case h_1 b _ => cases h; exact .inl ⟨b, rfl⟩
          case h_2 s _ => exact .inr (hmade fs n _ s h)
          case h_3 x _ => exact .inr (hmade fs n _ x.toText h)
          case h_4 => cases h
          case h_5 => cases h; exact .inl ⟨false, rfl⟩
  all_goals simp [throw, throwThe, MonadExceptOf.throw] at h

/-- Every declaration read from a document allows its default, which holds at least one text. -/
theorem ofJson_defaultAllowed {j : Json} {d : Decl} (h : ofJson j = .ok d) : d.DefaultAllowed := by
  rcases ofJson_cases h with ⟨b, hb⟩ | ⟨s, al, ex, hm⟩
  · rw [hb]
    exact flag_defaultAllowed _ _ _
  · obtain ⟨hd, hallowed⟩ := make_eq_ok hm
    have hdefault : d.default = Value.parse s := by rw [hd]
    have hal : d.allowed = al := by rw [hd]
    constructor
    · rw [hdefault]
      exact Value.strings_parse_ne_nil s
    · rw [hdefault, hal]
      exact hallowed

/-- Checking a declaration that allows its default against that default fails only for holding
several texts in an exclusive variant. -/
theorem validate_defaultSetting {d : Decl} (hd : d.DefaultAllowed) (pkg : Option String) :
    d.validate d.defaultSetting pkg =
      if d.exclusive = true ∧ 2 ≤ d.default.strings.length then .error (.multipleValues d.name pkg)
      else .ok () := by
  -- a default holds one text or more, so "not exactly one" is "two or more"
  have hlen : d.default.strings.length ≠ 1 ↔ 2 ≤ d.default.strings.length := by
    have := List.length_pos_of_ne_nil hd.ne_nil
    omega
  have hvalid : d.invalidValues d.default = [] := by
    simpa [invalidValues, List.filter_eq_nil_iff] using hd.allowed
  simp only [validate, defaultSetting, bne_self_eq_false, Bool.false_eq_true, if_false, hvalid,
    Bool.and_eq_true, bne_iff_ne, hlen]

/-- Checking a declaration read from a document against its own default succeeds, except that an
exclusive declaration whose default holds two or more texts refuses it as multiple values. -/
theorem ofJson_validate_default {j : Json} {d : Decl} (h : ofJson j = .ok d) (pkg : Option String) :
    d.validate d.defaultSetting pkg =
      if d.exclusive = true ∧ 2 ≤ d.default.strings.length then .error (.multipleValues d.name pkg)
      else .ok () :=
  validate_defaultSetting (ofJson_defaultAllowed h) pkg

/-- The declaration `{"name": "v", "default": "a,b", "values": ["a", "b"]}`: exclusive, with a
default of two allowed texts. -/
def pairDefault : Json :=
  .object [("default", .string "a,b"), ("name", .string "v"),
    ("values", .array [.string "a", .string "b"])]

/-- The declaration `pairDefault` reads as. -/
def pairDefaultDecl : Decl := ⟨"v", .texts ["a", "b"], "", .listed ["a", "b"], true⟩

theorem ofJson_pairDefault : ofJson pairDefault = .ok pairDefaultDecl := rfl

/-- `pairDefault` is read, and checking it against its own default gives what the main
statement says: an exclusive declaration with a default of two texts. -/
theorem pairDefault_validate_default :
    ofJson pairDefault = .ok pairDefaultDecl ∧
      pairDefaultDecl.validate pairDefaultDecl.defaultSetting none =
        if pairDefaultDecl.exclusive = true ∧ 2 ≤ pairDefaultDecl.default.strings.length then
          .error (.multipleValues pairDefaultDecl.name none)
        else .ok () :=
  ⟨ofJson_pairDefault, ofJson_validate_default ofJson_pairDefault none⟩

/-- A declaration read from a document can refuse its own default: `pairDefault` is accepted,
and its default `a,b` is two values of an exclusive variant. -/
theorem ofJson_refuses_pair_default :
    ofJson pairDefault = .ok pairDefaultDecl ∧
      pairDefaultDecl.validate pairDefaultDecl.defaultSetting none =
        .error (.multipleValues "v" none) :=
  ⟨ofJson_pairDefault, rfl⟩

end Decl

end Variant

end BuildSpec
