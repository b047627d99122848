import ApiTypes.Proofs.Text.Lines
import ApiTypes.Proofs.TypeExpr.Reader
/-!
# Reading the type of a node

If display names keep to the characters of words and of the gaps between them, and field names that
are not quoted to those of names, the type of a node is of the grammar, whatever the quoted names
and the values of enumerations hold (`isWellFormed_typeOf`).  Its text can then be read in one way,
as what the node means (`read_typeOf`).
-/
namespace ApiTypes

/-! ## Type names -/

theorem isAlphanum_of_mem_upperChar {c : Char} (h : c.isAlphanum = true) :
    ∀ d ∈ upperChar c, d.isAlphanum = true := by
  have hascii : c.toNat < 128 := toNat_lt_of_isAlphanum h
  intro d hd
  rw [upperChar, if_pos hascii, List.mem_singleton] at hd
  rw [hd]
  exact forall_ascii (P := fun c => c.isAlphanum = true → c.toUpper.isAlphanum = true) (by decide)
    hascii h

theorem isAlphanum_of_mem_lowerChar {c : Char} (h : c.isAlphanum = true) :
    ∀ d ∈ lowerChar c, d.isAlphanum = true := by
  have hascii : c.toNat < 128 := toNat_lt_of_isAlphanum h
  intro d hd
  rw [lowerChar, if_pos hascii, List.mem_singleton] at hd
  rw [hd]
  exact forall_ascii (P := fun c => c.isAlphanum = true → c.toLower.isAlphanum = true) (by decide)
    hascii h

theorem Text.isAlphanum_of_mem_titleCase : ∀ {t : Text}, (∀ c ∈ t, c.isAlphanum = true) →
    ∀ d ∈ titleCase t, d.isAlphanum = true
  | [], h => h
  | c :: rest, h => by
    intro d hd
    rcases List.mem_append.1 hd with hd | hd
    · exact isAlphanum_of_mem_upperChar (h c List.mem_cons_self) d hd
    · obtain ⟨e, he, hd⟩ := List.mem_flatMap.1 hd
      exact isAlphanum_of_mem_lowerChar (h e (List.mem_cons_of_mem c he)) d hd

namespace Naming

/-- Characters of a plain display name: those of its words, and those between the words. -/
def isDisplayChar (c : Char) : Bool := c.isAlphanum || isSeparator c

theorem isAlphanum_of_mem_sanitize {name : Text} (h : ∀ c ∈ name, isDisplayChar c = true) :
    ∀ d ∈ sanitize name, d.isAlphanum = true := by
  intro d hd
  obtain ⟨p, hp, hd⟩ := List.mem_flatMap.1 hd
  refine Text.isAlphanum_of_mem_titleCase (fun c hc => ?_) d hd
  obtain ⟨hname, hsep⟩ := Text.of_mem_tokens hp c hc
  have hchar : isDisplayChar c = true := h c (List.mem_filter.1 hname).1
  rwa [isDisplayChar, hsep, Bool.or_false] at hchar

theorem isAlphanum_of_mem_structureName {stem : Text} {s : Structure}
    (hstem : ∀ c ∈ stem, c.isAlpha = true) (hname : ∀ c ∈ s.name, isDisplayChar c = true) :
    ∀ c ∈ structureName stem s, c.isAlphanum = true := by
  have hmark : ("V1" : Text).all Char.isAlphanum = true := by decide
  intro c hc
  rw [structureName, List.mem_append, List.mem_append] at hc
  rcases hc with (hc | hc) | hc
  · rw [Char.isAlphanum, hstem c hc, Bool.true_or]
  · exact List.all_eq_true.1 hmark c hc
  · exact isAlphanum_of_mem_sanitize hname c hc

theorem startsWithDigit_structureName {stem : Text} (s : Structure)
    (hstem : ∀ c ∈ stem, c.isAlpha = true) : startsWithDigit (structureName stem s) = false := by
  cases stem with
  | nil => rfl
  | cons c rest =>
    have hc : c.isAlpha = true := hstem c List.mem_cons_self
    have hascii : c.toNat < 128 := toNat_lt_of_isAlpha hc
    exact forall_ascii (P := fun c => c.isAlpha = true → c.isDigit = false) (by decide) hascii hc

theorem isName_structureName {stem : Text} {s : Structure}
    (hstem : ∀ c ∈ stem, c.isAlpha = true) (hname : ∀ c ∈ s.name, isDisplayChar c = true) :
    isName (structureName stem s) = true := by
  have hall : (structureName stem s).all isNameChar = true := by
    refine List.all_eq_true.2 (fun c hc => ?_)
    rw [isNameChar, isAlphanum_of_mem_structureName hstem hname c hc]
    rfl
  have hne : (structureName stem s).isEmpty = false := by simp [structureName]
  rw [isName, hne, hall, startsWithDigit_structureName s hstem]
  rfl

end Naming

/-! ## Types of the grammar -/

namespace TypeExpr

theorem areWellFormed_iff : ∀ {es : List TypeExpr},
    areWellFormed es = true ↔ ∀ e ∈ es, e.isWellFormed = true
  | [] => by simp [areWellFormed]
  | e :: rest => by
    rw [areWellFormed, Bool.and_eq_true, areWellFormed_iff, List.forall_mem_cons]

theorem isWellFormed_ofLiterals (values : List Text) : (ofLiterals values).isWellFormed = true := by
  cases values with
  | nil => decide
  | cons v rest =>
    have hop : ((v :: rest).map literal).all isOperand = true := by
      simp [isOperand]
    have hwf : areWellFormed ((v :: rest).map literal) = true := by
      rw [areWellFormed_iff]
      intro e he
      obtain ⟨_, _, rfl⟩ := List.mem_map.1 he
      rfl
    rw [ofLiterals, if_neg (by simp), isWellFormed, hop, hwf]
    rfl

end TypeExpr

theorem Modifiers.isWellFormed_wrap (m : Modifiers) {t : TypeExpr} (h : t.isWellFormed = true) :
    (m.wrap t).isWellFormed = true := by
  obtain ⟨nullable, array⟩ := m
  cases nullable <;> cases array <;>
    simp [wrap, TypeExpr.isWellFormed, TypeExpr.areWellFormed, TypeExpr.isOperand, h] <;> decide

theorem Vocabulary.isWellFormed_type (token : Text) : (type token).value.isWellFormed = true := by
  have htable : ∀ t ∈ TypeExpr.unknown :: table.map Prod.snd, t.isWellFormed = true := by decide
  exact htable _ (value_type_mem token)

namespace Scope

/-- A scope with a prefix of letters and structures with plain display names. -/
structure IsPlain (scope : Scope) : Prop where
  stem : ∀ c ∈ scope.stem, c.isAlpha = true
  pool : ∀ s ∈ scope.pool, ∀ c ∈ s.name, Naming.isDisplayChar c = true

theorem isWellFormed_referenceType {scope : Scope} (h : scope.IsPlain) (id : Text)
    (tag : ReferenceTag) : (scope.referenceType id tag).isWellFormed = true := by
  rcases scope.referenceType_cases id tag with ⟨_, ht⟩ | ⟨s, hs, ⟨values, _, _, ht⟩ | ⟨_, ht⟩⟩
  · rw [ht]
    decide
  · -- the values are quoted, so they may hold anything
    rw [ht]
    exact TypeExpr.isWellFormed_ofLiterals values
  · rw [ht]
    exact Naming.isName_structureName h.stem (h.pool s (List.mem_of_find?_eq_some hs))

mutual

/-- **The type of a node is of the grammar.** -/
theorem isWellFormed_typeOf {scope : Scope} (h : scope.IsPlain) : ∀ node : Node,
    (∀ key ∈ node.keys, isReadableKey key = true) →
      (scope.typeOf node).value.isWellFormed = true
  | .primitive m token, _ => m.isWellFormed_wrap (Vocabulary.isWellFormed_type token)
  | .reference m id tag, _ => m.isWellFormed_wrap (isWellFormed_referenceType h id tag)
  | .object m fields, hkeys =>
    m.isWellFormed_wrap (t := .object (scope.typesOf fields).value)
      (haveWellFormed_typesOf h fields hkeys)
  | .unknown m, _ => m.isWellFormed_wrap (t := .unknown) (by decide)

theorem haveWellFormed_typesOf {scope : Scope} (h : scope.IsPlain) : ∀ fields : Fields,
    (∀ key ∈ fields.keys, isReadableKey key = true) →
      TypeExpr.haveWellFormed (scope.typesOf fields).value = true
  | [], _ => rfl
  | (key, node) :: rest, hkeys => by
    have hkey : isReadableKey key = true := hkeys key List.mem_cons_self
    have hnode := isWellFormed_typeOf h node
      (fun k hk => hkeys k (List.mem_cons_of_mem key (List.mem_append_left _ hk)))
    have hrest := haveWellFormed_typesOf h rest
      (fun k hk => hkeys k (List.mem_cons_of_mem key (List.mem_append_right _ hk)))
    rw [value_typesOf] at hrest ⊢
    rw [List.map_cons, TypeExpr.haveWellFormed, hkey, hnode, hrest]
    rfl

end

/-- **The text of a node's type can be read in one way, as what the node means.** -/
theorem read_typeOf (scope : Scope) (node : Node)
    (hstem : scope.stem.all Char.isAlpha = true)
    (hpool : scope.pool.all (fun s => s.name.all Naming.isDisplayChar) = true)
    (hkeys : node.keys.all isReadableKey = true) :
    Reader.read (scope.typeOf node).value.render = some (scope.meaning node) ∧
      ∀ m, Stands (scope.typeOf node).value.render m ↔ m = scope.meaning node := by
  simp only [List.all_eq_true] at hstem hpool hkeys
  have hwf := isWellFormed_typeOf ⟨hstem, hpool⟩ node hkeys
  have hstands := TypeExpr.stands_render hwf
  rw [meaning_typeOf] at hstands
  refine ⟨hstands.read_eq, fun m => ⟨fun hm => hm.unique hstands, ?_⟩⟩
  rintro rfl
  exact hstands

def oddScope : Scope :=
  ⟨"User", [⟨"7", "travel - log_2", none, some ["a|b", "c\"d\\", "]"], none⟩,
    ⟨"8", "Item", none, none, some []⟩]⟩

def oddNode : Node :=
  .object ⟨true, true⟩
    [("1; \x7d | \"x\"", .reference ⟨true, true⟩ "7" .enum),
     ("$n", .primitive ⟨false, true⟩ "Integer + (empty) string"),
     ("a-b", .object .plain [("c_1", .reference .plain "8" .enum),
       ("d", .reference ⟨true, false⟩ "7" .object)])]

def oddMeaning : Meaning :=
  .array (.union [.object
    [("1; \x7d | \"x\"",
        .array (.union [.union [.literal "a|b", .literal "c\"d\\", .literal "]"], .name "null"])),
     ("$n", .array (.union [.name "number", .literal []])),
     ("a-b", .object [("c_1", .name "UserV1Item"),
       ("d", .union [.name "UserV1TravelLog2", .name "null"])])], .name "null"])

theorem read_typeOf_odd :
    oddScope.stem.all Char.isAlpha = true ∧
      oddScope.pool.all (fun s => s.name.all Naming.isDisplayChar) = true ∧
      oddNode.keys.all isReadableKey = true ∧
      Reader.read (oddScope.typeOf oddNode).value.render = some oddMeaning ∧
      ∀ m, Stands (oddScope.typeOf oddNode).value.render m ↔ m = oddMeaning := by
  have hstem : oddScope.stem.all Char.isAlpha = true := by decide
  have hpool : oddScope.pool.all (fun s => s.name.all Naming.isDisplayChar) = true := by decide
  have hkeys : oddNode.keys.all isReadableKey = true := by decide
  have hmeaning : oddScope.meaning oddNode = oddMeaning := by rfl
  have h := read_typeOf oddScope oddNode hstem hpool hkeys
  rw [hmeaning] at h
  exact ⟨hstem, hpool, hkeys, h⟩

end Scope
end ApiTypes
