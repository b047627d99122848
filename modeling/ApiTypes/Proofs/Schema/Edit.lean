import ApiTypes.Proofs.Attempt
import ApiTypes.Schema.Decode
/-!
# Editing a document

A field of a record is edited where it stands, under its key or at its place in a list.  What a
decoder reads of the edited document is what it reads of the document, edited (`Follows`), if it
takes anything for that field; and then it refuses the one just as it refuses the other.
-/
namespace ApiTypes

namespace Json

def editMember (key : Text) (f : Json → Json) : List (Text × Json) → List (Text × Json)
  | [] => []
  | (k, v) :: rest => if k = key then (k, f v) :: rest else (k, v) :: editMember key f rest

/-- Edits a field of a record, which stands under its key, or at its place if the record is written
as a list. -/
def editField (key : Text) (place : Nat) (f : Json → Json) : Json → Json
  | .obj members => .obj (editMember key f members)
  | .arr items => .arr (items.modify place f)
  | v => v

def editItem (i : Nat) (f : Json → Json) : Json → Json
  | .arr items => .arr (items.modify i f)
  | v => v

def dropKey (key : Text) : Json → Json
  | .obj members => .obj (members.filter (fun m => m.1 ≠ key))
  | v => v

/-- Puts a value into a field of a record, or takes the field's key out. -/
def setField (key : Text) (place : Nat) : Option Json → Json → Json
  | some value => editField key place (fun _ => value)
  | none => dropKey key

/-! ## Looking into edited members -/

theorem lookup_editMember_same (key : Text) (f : Json → Json) : ∀ members,
    lookup key (editMember key f members) = (lookup key members).map f
  | [] => rfl
  | (k, v) :: rest => by
    by_cases h : k = key
    · simp [editMember, lookup, h]
    · simp [editMember, lookup, h, lookup_editMember_same key f rest]

theorem lookup_editMember_other {key other : Text} (f : Json → Json) (h : other ≠ key) :
    ∀ members, lookup other (editMember key f members) = lookup other members
  | [] => rfl
  | (k, v) :: rest => by
    by_cases hk : k = key
    · subst hk
      simp [editMember, lookup, Ne.symm h]
    · simp [editMember, lookup, hk, lookup_editMember_other f h rest]

theorem lookup_filter_other {key other : Text} (h : other ≠ key) :
    ∀ members, lookup other (members.filter (fun m => m.1 ≠ key)) = lookup other members
  | [] => rfl
  | (k, v) :: rest => by
    have ih := lookup_filter_other h rest
    by_cases hk : k = key
    · subst hk
      rw [List.filter_cons_of_neg (by simp), ih, lookup, if_neg h.symm]
    · rw [List.filter_cons_of_pos (by simpa using hk), lookup, lookup, ih]

theorem zip_modify (key : Text) (f : Json → Json) : ∀ (names : List Text) (items : List Json),
    key ∈ names → names.zip (items.modify (names.idxOf key) f) = editMember key f (names.zip items)
  | [], _, h => by cases h
  | _ :: _, [], _ => by simp [editMember]
  | n :: names, item :: items, h => by
    by_cases hn : n = key
    · subst hn
      simp [editMember]
    · have hmem : key ∈ names := (List.mem_cons.1 h).resolve_left (fun e => hn e.symm)
      rw [List.idxOf_cons_ne _ hn, List.modify_succ_cons, List.zip_cons_cons, List.zip_cons_cons,
        zip_modify key f names items hmem, editMember, if_neg hn]

end Json

open Json (lookup editMember)
open Attempt (Alike)

def SameBut (key : Text) (members members' : List (Text × Json)) : Prop :=
  ∀ other, other ≠ key → lookup other members' = lookup other members

/-! ## Records -/

namespace RecordReader

variable {α β : Type}

def fieldValue (missing : Except ShapeFault α) (read : Decoder α) : Option Json →
    Except ShapeFault α
  | some v => read v
  | none => missing

theorem build_required (r : RecordReader (α → β)) (name : Text) (read : Decoder α)
    (members : List (Text × Json)) : (r.required name read).build members = (do
      let f ← r.build members
      let a ← fieldValue (.error (.missingField name)) read (lookup name members)
      return f a) := by
  refine congrArg (r.build members >>= ·) (funext (fun f => ?_))
  cases lookup name members <;> rfl

theorem build_optional (r : RecordReader (α → β)) (name : Text) (default : α) (read : Decoder α)
    (members : List (Text × Json)) : (r.optional name default read).build members = (do
      let f ← r.build members
      let a ← fieldValue (.ok default) read (lookup name members)
      return f a) := by
  refine congrArg (r.build members >>= ·) (funext (fun f => ?_))
  cases lookup name members <;> rfl

theorem build_start (a : α) (members : List (Text × Json)) :
    (start a).build members = pure a := rfl

theorem faultOf_eq_of_alike {R : α → α → Prop} {read : Decoder α} {v w : Json}
    (h : Alike R (read v) (read w)) : faultOf read w = faultOf read v := by
  unfold faultOf
  generalize read v = x at h ⊢
  generalize read w = y at h ⊢
  cases h <;> rfl

theorem check_editMember {r : RecordReader α} {key : Text} {f : Json → Json}
    (h : ∀ v, r.fault? key (f v) = r.fault? key v) : ∀ members,
      r.check (editMember key f members) = r.check members := by
  have hfind : ∀ members : List (Text × Json),
      (editMember key f members).findSome? (fun m => r.fault? m.1 m.2) =
        members.findSome? (fun m => r.fault? m.1 m.2) := by
    intro members
    induction members with
    | nil => rfl
    | cons m rest ih =>
      obtain ⟨k, v⟩ := m
      by_cases hk : k = key
      · subst hk
        rw [editMember, if_pos rfl, List.findSome?_cons, List.findSome?_cons, h]
      · rw [editMember, if_neg hk, List.findSome?_cons, List.findSome?_cons, ih]
  intro members
  rw [check, hfind, check]

theorem check_filter {r : RecordReader α} {key : Text} (h : ∀ v, r.fault? key v = none) :
    ∀ members, r.check (members.filter (fun m => m.1 ≠ key)) = r.check members := by
  have hfind : ∀ members : List (Text × Json),
      (members.filter (fun m => m.1 ≠ key)).findSome? (fun m => r.fault? m.1 m.2) =
        members.findSome? (fun m => r.fault? m.1 m.2) := by
    intro members
    induction members with
    | nil => rfl
    | cons m rest ih =>
      by_cases hk : m.1 = key
      · rw [List.filter_cons_of_neg (by simpa using hk), List.findSome?_cons, hk, h, ih]
      · rw [List.filter_cons_of_pos (by simpa using hk), List.findSome?_cons, List.findSome?_cons,
          ih]
  intro members
  rw [check, hfind, check]

end RecordReader

/-! ## What a decoder makes of an edit -/

/-- What a decoder reads of an edited document is what it reads of the document, changed in one of
some ways, and it refuses both alike. -/
def Decoder.Follows {α γ : Type} (read : Decoder α) (edit : Json → Json) (change : γ → α → α) :
    Prop :=
  ∀ v, Alike (fun a b => ∃ c, b = change c a) (read v) (read (edit v))

theorem Decoder.follows_list {α γ : Type} [Inhabited γ] {item : Decoder α} {edit : Json → Json}
    {change : γ → α → α} (h : item.Follows edit change) (i : Nat) :
    (Decoder.list item).Follows (Json.editItem i edit) (fun c l => l.modify i (change c)) := by
  have hitems : ∀ (items : List Json) (i : Nat),
      Alike (fun l l' => ∃ c, l' = l.modify i (change c)) (items.mapM item)
        ((items.modify i edit).mapM item) := by
    intro items
    induction items with
    | nil =>
      intro i
      rw [List.modify_nil, List.mapM_nil]
      exact .ok ⟨default, (List.modify_nil _ i).symm⟩
    | cons v rest ih =>
      intro i
      cases i with
      | zero =>
        rw [List.modify_zero_cons, List.mapM_cons, List.mapM_cons]
        refine (h v).bind (fun a b hab => Alike.same_bind (fun l => .ok ?_))
        obtain ⟨c, rfl⟩ := hab
        exact ⟨c, (List.modify_zero_cons _ _ _).symm⟩
      | succ i =>
        rw [List.modify_succ_cons, List.mapM_cons, List.mapM_cons]
        refine Alike.same_bind (fun a => (ih i).bind (fun l l' hl => .ok ?_))
        obtain ⟨c, rfl⟩ := hl
        exact ⟨c, (List.modify_succ_cons _ _ _ _).symm⟩
  intro v
  cases v with
  | arr items => exact hitems items i
  | null => exact .error _
  | bool b => exact .error _
  | int n => exact .error _
  | double x => exact .error _
  | str t => exact .error _
  | obj members => exact .error _

theorem Decoder.follows_fieldValue {α γ : Type} {read : Decoder α} {edit : Json → Json}
    {change : γ → α → α} (h : read.Follows edit change) {default : α}
    (hdefault : ∃ c, default = change c default) (v? : Option Json) :
    Alike (fun a b => ∃ c, b = change c a) (RecordReader.fieldValue (.ok default) read v?)
      (RecordReader.fieldValue (.ok default) read (v?.map edit)) := by
  cases v? with
  | none => exact .ok hdefault
  | some v => exact h v

namespace RecordReader

variable {α γ : Type} {r : RecordReader α} {change : γ → α → α}

/-- **A record follows the edit of a field** if the same is wrong with the field, and the record that
its members make follows. -/
theorem follows_editField {key : Text} {place : Nat} {edit : Json → Json} (title : Text)
    (hkey : key ∈ r.names) (hplace : r.names.idxOf key = place)
    (hfault : ∀ v, r.fault? key (edit v) = r.fault? key v)
    (hbuild : ∀ members, Alike (fun a b => ∃ c, b = change c a) (r.build members)
      (r.build (editMember key edit members))) :
    Decoder.Follows (r.decode title) (Json.editField key place edit) change := by
  intro v
  cases v with
  | obj members =>
    rw [Json.editField, decode, decode, check_editMember hfault]
    exact Alike.same_bind (fun _ => hbuild members)
  | arr items =>
    rw [Json.editField, decode, decode, List.length_modify, ← hplace,
      Json.zip_modify key edit r.names items hkey, check_editMember hfault]
    refine Alike.same_bind (fun _ => ?_)
    have hitems := hbuild (r.names.zip items)
    generalize r.build (r.names.zip items) = x at hitems ⊢
    generalize r.build (editMember key edit (r.names.zip items)) = y at hitems ⊢
    cases hitems with
    | ok h =>
      by_cases hlong : r.names.length < items.length
      · simp only [if_pos hlong]
        exact .error _
      · simp only [if_neg hlong]
        exact .ok h
    | error e => exact .error _
  | null => exact .error _
  | bool b => exact .error _
  | int n => exact .error _
  | double x => exact .error _
  | str t => exact .error _

theorem follows_dropKey {key : Text} (title : Text) (hfault : ∀ v, r.fault? key v = none)
    (hbuild : ∀ members, Alike (fun a b => ∃ c, b = change c a) (r.build members)
      (r.build (members.filter (fun m => m.1 ≠ key))))
    (hsame : ∀ a, ∃ c, a = change c a) :
    Decoder.Follows (r.decode title) (Json.dropKey key) change := by
  intro v
  cases v with
  | obj members =>
    rw [Json.dropKey, decode, decode, check_filter hfault]
    exact Alike.same_bind (fun _ => hbuild members)
  | arr items => exact Alike.rfl_of hsame _
  | null => exact .error _
  | bool b => exact .error _
  | int n => exact .error _
  | double x => exact .error _
  | str t => exact .error _

end RecordReader

/-! ## Schemas may be anything -/

theorem sameBut_editMember (key : Text) (f : Json → Json) (members : List (Text × Json)) :
    SameBut key members (editMember key f members) :=
  fun _ h => Json.lookup_editMember_other f h members

theorem sameBut_filter (key : Text) (members : List (Text × Json)) :
    SameBut key members (members.filter (fun m => m.1 ≠ key)) :=
  fun _ h => Json.lookup_filter_other h members

open RecordReader (build_required build_optional build_start fieldValue)

namespace Structure

def reader : RecordReader Structure :=
  (RecordReader.start Structure.mk).required "id" (Decoder.any Json.idText)
    |>.required "name" Decoder.text
    |>.optional "type" none (Decoder.nullable Decoder.text)
    |>.optional "values" none (Decoder.nullable (Decoder.list (Decoder.any Json.idText)))
    |>.optional "schema" none (Decoder.nullable (Decoder.any Fields.ofJson))

theorem decode_eq : Structure.decode = reader.decode "Structure" := rfl

theorem exists_schema (v? : Option Json) : ∃ schema : Option Fields,
    fieldValue (.ok none) (Decoder.nullable (Decoder.any Fields.ofJson)) v? = .ok schema := by
  cases v? with
  | none => exact ⟨none, rfl⟩
  | some v => cases v <;> exact ⟨_, rfl⟩

theorem build_schema {members members' : List (Text × Json)} (h : SameBut "schema" members members') :
    Alike (fun t t' => ∃ schema, t' = { t with schema := schema }) (reader.build members)
      (reader.build members') := by
  obtain ⟨schema, hs⟩ := exists_schema (lookup "schema" members)
  obtain ⟨schema', hs'⟩ := exists_schema (lookup "schema" members')
  simp only [reader, build_optional, build_required, build_start, bind_assoc, pure_bind,
    h "id" (by decide), h "name" (by decide), h "type" (by decide), h "values" (by decide), hs, hs']
  exact Alike.same_bind (fun id => Alike.same_bind (fun name => Alike.same_bind (fun kind =>
    Alike.same_bind (fun values => .ok ⟨schema', rfl⟩))))

/-- **Whatever is put into a structure's schema, the structure follows**, and nothing else of it is
changed. -/
theorem follows_setField (value : Option Json) :
    Structure.decode.Follows (Json.setField "schema" 4 value)
      (fun schema t => { t with schema := schema }) := by
  rw [decode_eq]
  cases value with
  | some v =>
    exact RecordReader.follows_editField "Structure" (by decide) (by decide)
      (fun w => by cases v <;> cases w <;> rfl)
      (fun members => build_schema (sameBut_editMember _ _ members))
  | none =>
    exact RecordReader.follows_dropKey "Structure" (fun w => by cases w <;> rfl)
      (fun members => build_schema (sameBut_filter _ members)) (fun t => ⟨t.schema, rfl⟩)

end Structure

namespace Selection

def reader : RecordReader Selection :=
  (RecordReader.start Selection.mk).required "name" Decoder.text
    |>.optional "description" [] Decoder.text
    |>.optional "access" [] Decoder.text
    |>.optional "schema" [] (Decoder.any Fields.ofJson)
    |>.optional "structures" [] (Decoder.list Structure.decode)

theorem decode_eq : Selection.decode = reader.decode "Selection" := rfl

theorem exists_schema (v? : Option Json) : ∃ schema : Fields,
    fieldValue (.ok []) (Decoder.any Fields.ofJson) v? = .ok schema := by
  cases v? with
  | none => exact ⟨[], rfl⟩
  | some v => exact ⟨_, rfl⟩

theorem build_schema {members members' : List (Text × Json)} (h : SameBut "schema" members members') :
    Alike (fun s s' => ∃ schema, s' = { s with schema := schema }) (reader.build members)
      (reader.build members') := by
  obtain ⟨schema, hs⟩ := exists_schema (lookup "schema" members)
  obtain ⟨schema', hs'⟩ := exists_schema (lookup "schema" members')
  simp only [reader, build_optional, build_required, build_start, bind_assoc, pure_bind,
    h "name" (by decide), h "description" (by decide), h "access" (by decide),
    h "structures" (by decide), hs, hs']
  exact Alike.same_bind (fun name => Alike.same_bind (fun description => Alike.same_bind
    (fun access => Alike.same_bind (fun structures => .ok ⟨schema', rfl⟩))))

theorem follows_setField (value : Option Json) :
    Selection.decode.Follows (Json.setField "schema" 3 value)
      (fun schema s => { s with schema := schema }) := by
  rw [decode_eq]
  cases value with
  | some v =>
    exact RecordReader.follows_editField "Selection" (by decide) (by decide) (fun w => rfl)
      (fun members => build_schema (sameBut_editMember _ _ members))
  | none =>
    exact RecordReader.follows_dropKey "Selection" (fun w => rfl)
      (fun members => build_schema (sameBut_filter _ members)) (fun s => ⟨s.schema, rfl⟩)

theorem follows_structure {γ : Type} [Inhabited γ] {edit : Json → Json}
    {change : γ → Structure → Structure} (h : Structure.decode.Follows edit change) (j : Nat) :
    Selection.decode.Follows (Json.editField "structures" 4 (Json.editItem j edit))
      (fun c s => { s with structures := s.structures.modify j (change c) }) := by
  have hlist := Decoder.follows_list h j
  have hdefault : ∃ c, ([] : List Structure) = List.modify [] j (change c) :=
    ⟨default, (List.modify_nil _ j).symm⟩
  rw [decode_eq]
  refine RecordReader.follows_editField "Selection" (by decide) (by decide)
    (fun v => RecordReader.faultOf_eq_of_alike (hlist v)) (fun members => ?_)
  have hsame := sameBut_editMember "structures" (Json.editItem j edit) members
  simp only [reader, build_optional, build_required, build_start, bind_assoc, pure_bind,
    hsame "name" (by decide), hsame "description" (by decide), hsame "access" (by decide),
    hsame "schema" (by decide), Json.lookup_editMember_same]
  refine Alike.same_bind (fun name => Alike.same_bind (fun description => Alike.same_bind
    (fun access => Alike.same_bind (fun schema => ?_))))
  refine (Decoder.follows_fieldValue hlist hdefault _).bind (fun l l' hl => .ok ?_)
  obtain ⟨c, rfl⟩ := hl
  exact ⟨c, rfl⟩

end Selection

/-! ## Whole documents -/

def Json.editSelection (i : Nat) (edit : Json → Json) : Json → Json :=
  editField "selections" 0 (editItem i edit)

def Json.editStructure (i j : Nat) (edit : Json → Json) : Json → Json :=
  editSelection i (editField "structures" 4 (editItem j edit))

/-- **The selections of a document follow an edit of one of them.** -/
theorem follows_editSelection {γ : Type} [Inhabited γ] {edit : Json → Json}
    {change : γ → Selection → Selection} (h : Selection.decode.Follows edit change) (i : Nat) :
    decodeSectionSchema.Follows (Json.editSelection i edit) (fun c l => l.modify i (change c)) := by
  have hlist := Decoder.follows_list h i
  have hdefault : ∃ c, ([] : List Selection) = List.modify [] i (change c) :=
    ⟨default, (List.modify_nil _ i).symm⟩
  refine RecordReader.follows_editField "SectionSchema" (by decide) (by decide)
    (fun v => RecordReader.faultOf_eq_of_alike (hlist v)) (fun members => ?_)
  simp only [build_optional, build_start, pure_bind, Json.lookup_editMember_same, id_eq, bind_pure]
  exact Decoder.follows_fieldValue hlist hdefault _

end ApiTypes
